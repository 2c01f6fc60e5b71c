import HashBurst.Lib.Prog
import HashBurst.Replication.Lifecycle

/-! The atomic accesses to one `ReplicationDBV214Recovery`: every `with self.tx()` and
`with self._lock` block of the store, and the clock of its host. -/

namespace HashBurst.Replication

open Lib

def sortedByNode (rows : List Replica) : List Replica :=
  rows.insertionSort fun first second => first.nodeId ≤ second.nodeId

inductive Op : Type → Type
  | time : Op Int
  /-- `object`: the row and its replicas in the order of their nodes. -/
  | object (cid : Cid) : Op (Option (Object × List Replica))
  | objects : Op (List Object)
  | replicaRows (cid : Cid) : Op (List Replica)
  | nodes : Op (List Node)
  | placementLoad : Op PlacementLoad
  | activeUnpinNodes (cid : Cid) (reason : String) : Op (List NodeId)
  | jobOperation (jobId : JobId) (nodeId : NodeId) : Op (Option Operation)
  | upsertNode (node : Node) : Op Unit
  | heartbeat (nodeId : NodeId) (totalBytes usedBytes : Int) : Op (Except PyError Unit)
  | markReplicaState (cid : Cid) (nodeId : NodeId) (state : ReplicaState) (error : String) : Op Unit
  | updateObjectHealth (cid : Cid) (state : ObjectState) (reason : String) : Op Unit
  | createPinAssignment (cid : Cid) (nodeId : NodeId) (capacityClass : CapacityClass) :
      Op (Except PyError (Option JobId))
  | createVerifyJob (cid : Cid) (nodeId : NodeId) (generation : Nat) :
      Op (Except PyError (Option JobId))
  | createUnpinJob (cid : Cid) (nodeId : NodeId) (generation : Nat) (reason : String)
      (notBefore : Int) : Op (Except PyError (Option JobId))
  | pendingJobs (nodeId : NodeId) (limit : Nat) (allowed : Option (List Operation))
      (ties : ReplicationDB.TieOrder) : Op (List ReplicationDB.Delivery)
  | authorizeUnpin (nodeId : NodeId) (jobId : JobId) (leaseUntil : Int) :
      Op ReplicationDBV214.Authorization
  | jobReport (nodeId : NodeId) (report : ReplicationDB.Report) : Op (Except PyError Unit)
  | unpinReport (nodeId : NodeId) (report : ReplicationDB.Report) : Op (Except PyError Unit)
  | unpinVerifyReport (nodeId : NodeId) (report : ReplicationDB.Report) : Op (Except PyError Unit)
  | registerGuard (cid : Cid) (n m : Int) : Op (Except PyError (Option (Int × Int)))
  | registerBase (cid : Cid) (sizeBytes n m : Int) (sourceNode : Option NodeId)
      (referenceId : Option String) : Op (Except PyError ReplicationDB.Registration)
  | registerBump (cid : Cid) (oldPolicy : Option (Int × Int)) : Op Unit
  | releaseObject (cid : Cid) (referenceId : Option String) (requestId : String) :
      Op (Except PyError ReplicationDBV214.ReleaseResult)
  | recoverV214 : Op Unit

open ReplicationDB ReplicationDBV214 ReplicationDBV214Recovery in
/-- One access at the time `now`: the store after it and the answer. -/
def runOp {β : Type} (op : Op β) (now : Int) (db : Db) : Db × β :=
  match op with
  | .time => (db, now)
  | .object cid => (db, (db.object cid).map fun object => (object, sortedByNode (db.replicaRows cid)))
  | .objects => (db, db.objects.rows)
  | .replicaRows cid => (db, db.replicaRows cid)
  | .nodes => (db, db.nodes.rows.insertionSort fun first second => first.nodeId ≤ second.nodeId)
  | .placementLoad => (db, placementLoad db)
  | .activeUnpinNodes cid reason => (db, activeUnpinNodes cid reason db)
  | .jobOperation jobId nodeId => (db, (findJob db jobId nodeId).map Job.operation)
  | .upsertNode node => (upsertNode node db, ())
  | .heartbeat nodeId totalBytes usedBytes => (heartbeat now nodeId totalBytes usedBytes).commit db
  | .markReplicaState cid nodeId state error => (markReplicaState now cid nodeId state error db, ())
  | .updateObjectHealth cid state reason => (updateObjectHealth cid state reason db, ())
  | .createPinAssignment cid nodeId capacityClass =>
      (createPinAssignment now cid nodeId capacityClass).commit db
  | .createVerifyJob cid nodeId generation => (createVerifyJob now cid nodeId generation).commit db
  | .createUnpinJob cid nodeId generation reason notBefore =>
      (createUnpinJob now cid nodeId generation reason notBefore).commit db
  | .pendingJobs nodeId limit allowed ties =>
      ReplicationDBV214.pendingJobs now nodeId limit allowed ties db
  | .authorizeUnpin nodeId jobId leaseUntil => authorizeUnpin now nodeId jobId leaseUntil db
  | .jobReport nodeId report => (applyJobReport now nodeId report).commit db
  | .unpinReport nodeId report => (applyUnpinReport now nodeId report).commit db
  | .unpinVerifyReport nodeId report => (applyUnpinVerifyReport now nodeId report).commit db
  | .registerGuard cid n m => (db, registerGuard cid n m db)
  | .registerBase cid sizeBytes n m sourceNode referenceId =>
      (registerObject now cid sizeBytes n m sourceNode referenceId).commit db
  | .registerBump cid oldPolicy => (registerBump now cid oldPolicy db, ())
  | .releaseObject cid referenceId requestId =>
      (releaseObject now cid referenceId requestId).commit db
  | .recoverV214 => (recoverV214 now db, ())

abbrev Call (α : Type) := Prog Op PyError α

/-- A call run alone, at the time `now`. -/
def Call.runAt {α : Type} (call : Call α) (now : Int) (db : Db) : Db × Except PyError α :=
  call.exec runOp now db

namespace ReplicationDBV214

/-- `register_object` once the base class has registered the reference. -/
def registerFromBump (cid : Cid) (oldPolicy : Option (Int × Int))
    (out : ReplicationDB.Registration) : Call ReplicationDB.Registration := do
  Prog.ask (.registerBump cid oldPolicy)
  return out

/-- `register_object` past its guard. -/
def registerFromBase (cid : Cid) (sizeBytes n m : Int) (sourceNode : Option NodeId)
    (referenceId : Option String) (oldPolicy : Option (Int × Int)) :
    Call ReplicationDB.Registration := do
  let out ← Prog.attempt (.registerBase cid sizeBytes n m sourceNode referenceId)
  registerFromBump cid oldPolicy out

/-- `register_object`: three atomic blocks. -/
def registerObject (cid : Cid) (sizeBytes n m : Int) (sourceNode : Option NodeId)
    (referenceId : Option String) : Call ReplicationDB.Registration := do
  let oldPolicy ← Prog.attempt (.registerGuard cid n m)
  registerFromBase cid sizeBytes n m sourceNode referenceId oldPolicy

theorem registerObject_runAt (now : Int) (cid : Cid) (sizeBytes n m : Int)
    (sourceNode : Option NodeId) (referenceId : Option String) (db : Db) :
    (registerObject cid sizeBytes n m sourceNode referenceId).runAt now db =
      match registerGuard cid n m db with
      | .error failure => (db, .error failure)
      | .ok oldPolicy =>
          match (ReplicationDB.registerObject now cid sizeBytes n m sourceNode referenceId).commit
            db with
          | (middle, .ok out) => (registerBump now cid oldPolicy middle, .ok out)
          | (middle, .error failure) => (middle, .error failure) := by
  unfold Call.runAt registerObject
  rw [Prog.exec_bind, Prog.exec_attempt]
  simp only [runOp]
  cases registerGuard cid n m db with
  | error failure => rfl
  | ok oldPolicy =>
      dsimp only
      unfold registerFromBase
      rw [Prog.exec_bind, Prog.exec_attempt]
      simp only [runOp]
      rcases (ReplicationDB.registerObject now cid sizeBytes n m sourceNode referenceId).commit db
        with ⟨middle, failure | out⟩ <;> rfl

/-- `apply_job_report`, once the job is known not to be an UNPIN_VERIFY job. -/
def applyJobReport (nodeId : NodeId) (report : ReplicationDB.Report) : Call Unit := do
  let operation ← Prog.ask (.jobOperation report.jobId nodeId)
  if operation = some .unpin then Prog.attempt (.unpinReport nodeId report)
  else Prog.attempt (.jobReport nodeId report)

end ReplicationDBV214

namespace ReplicationDBV214Recovery

def applyJobReport (nodeId : NodeId) (report : ReplicationDB.Report) : Call Unit := do
  let operation ← Prog.ask (.jobOperation report.jobId nodeId)
  if operation = some .unpinVerify then Prog.attempt (.unpinVerifyReport nodeId report)
  else ReplicationDBV214.applyJobReport nodeId report

end ReplicationDBV214Recovery

end HashBurst.Replication
