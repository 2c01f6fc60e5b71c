import HashBurst.Replication.Reconcile

/-! The calls that the store and its controller serve, as programs over the store. -/

namespace HashBurst.Replication

open Lib ReplicationDBV214

/-- The arguments of `register_object`. -/
structure Registering where
  cid : Cid
  sizeBytes : Int
  n : Int
  m : Int
  sourceNode : Option NodeId
  referenceId : Option String
  deriving DecidableEq, Repr

inductive StoreCall
  | registerObject (args : Registering)
  | releaseObject (cid : Cid) (referenceId : Option String) (requestId : String)
  | authorizeUnpin (nodeId : NodeId) (jobId : JobId) (leaseUntil : Int)
  | recoverV214
  | applyJobReport (nodeId : NodeId) (report : ReplicationDB.Report)
  | createPinAssignment (cid : Cid) (nodeId : NodeId) (capacityClass : CapacityClass)
  | createVerifyJob (cid : Cid) (nodeId : NodeId) (generation : Nat)
  | createUnpinJob (cid : Cid) (nodeId : NodeId) (generation : Nat) (reason : String)
      (notBefore : Int)
  | pendingJobs (nodeId : NodeId) (limit : Nat) (allowed : Option (List Operation))
      (ties : ReplicationDB.TieOrder := .inserted)
  | upsertNode (node : Node)
  | heartbeat (nodeId : NodeId) (totalBytes usedBytes : Int)
  | markReplicaState (cid : Cid) (nodeId : NodeId) (state : ReplicaState) (error : String)
  | updateObjectHealth (cid : Cid) (state : ObjectState) (reason : String)

def Call.discard {α : Type} (call : Call α) : Call Unit := call >>= fun _ => pure ()

namespace Registering

def fromBump (args : Registering) (oldPolicy : Option (Int × Int))
    (out : ReplicationDB.Registration) : Call Unit :=
  (ReplicationDBV214.registerFromBump args.cid oldPolicy out).discard

def fromBase (args : Registering) (oldPolicy : Option (Int × Int)) : Call Unit :=
  (ReplicationDBV214.registerFromBase args.cid args.sizeBytes args.n args.m args.sourceNode
    args.referenceId oldPolicy).discard

end Registering

def StoreCall.program : StoreCall → Call Unit
  | registerObject args =>
      (ReplicationDBV214.registerObject args.cid args.sizeBytes args.n args.m args.sourceNode
        args.referenceId).discard
  | releaseObject cid referenceId requestId =>
      Call.discard (Prog.attempt (.releaseObject cid referenceId requestId))
  | authorizeUnpin nodeId jobId leaseUntil =>
      Call.discard (Prog.ask (.authorizeUnpin nodeId jobId leaseUntil))
  | recoverV214 => Prog.ask .recoverV214
  | applyJobReport nodeId report => ReplicationDBV214Recovery.applyJobReport nodeId report
  | createPinAssignment cid nodeId capacityClass =>
      Call.discard (Prog.attempt (.createPinAssignment cid nodeId capacityClass))
  | createVerifyJob cid nodeId generation =>
      Call.discard (Prog.attempt (.createVerifyJob cid nodeId generation))
  | createUnpinJob cid nodeId generation reason notBefore =>
      Call.discard (Prog.attempt (.createUnpinJob cid nodeId generation reason notBefore))
  | pendingJobs nodeId limit allowed ties =>
      Call.discard (Prog.ask (.pendingJobs nodeId limit allowed ties))
  | upsertNode node => Prog.ask (.upsertNode node)
  | heartbeat nodeId totalBytes usedBytes => Prog.attempt (.heartbeat nodeId totalBytes usedBytes)
  | markReplicaState cid nodeId state error => Prog.ask (.markReplicaState cid nodeId state error)
  | updateObjectHealth cid state reason => Prog.ask (.updateObjectHealth cid state reason)

/-- What a controller is asked to do with its store, by its clients, its agents or its own loops. -/
inductive Event
  | register (args : Registering)
  | release (cid : Cid) (referenceId : Option String) (requestId : String)
  | upsertNode (node : Node)
  | heartbeat (nodeId : NodeId) (totalBytes usedBytes : Int)
  | pendingJobs (nodeId : NodeId) (limit : Nat) (allowed : Option (List Operation))
      (ties : ReplicationDB.TieOrder := .inserted)
  | authorizeUnpin (nodeId : NodeId) (jobId : JobId) (leaseUntil : Int)
  | report (nodeId : NodeId) (report : ReplicationDB.Report)
  | recoverV214
  | reconcile (ctl : Controller) (cid : Cid)

def Event.program : Event → Call Unit
  | register args => (StoreCall.registerObject args).program
  | release cid referenceId requestId => (StoreCall.releaseObject cid referenceId requestId).program
  | upsertNode node => (StoreCall.upsertNode node).program
  | heartbeat nodeId totalBytes usedBytes => (StoreCall.heartbeat nodeId totalBytes usedBytes).program
  | pendingJobs nodeId limit allowed ties =>
      (StoreCall.pendingJobs nodeId limit allowed ties).program
  | authorizeUnpin nodeId jobId leaseUntil => (StoreCall.authorizeUnpin nodeId jobId leaseUntil).program
  | report nodeId sent => (StoreCall.applyJobReport nodeId sent).program
  | recoverV214 => StoreCall.recoverV214.program
  | reconcile ctl cid => ControllerV214.reconcileCid ctl cid

theorem Call.runAt_discard {α : Type} (call : Call α) (now : Int) (db : Db) :
    (call.discard.runAt now db).1 = (call.runAt now db).1 := by
  unfold Call.discard
  rw [Call.runAt_bind]
  rcases call.runAt now db with ⟨after, failure | value⟩ <;> rfl

end HashBurst.Replication
