import Mathlib.Algebra.Ring.Int.Defs
import HashBurst.Replication.Policy

/-! The v2.1.3 store, `ReplicationDB` in `hb_replication_db.py`: one definition for each
transaction, under its own name. -/

namespace HashBurst.Replication

open Lib

namespace ReplicationDB

/-- `upsert_node`: what the registry knows replaces the configured columns of the row. -/
def upsertNode (node : Node) (db : Db) : Db :=
  { db with
    nodes := db.nodes.upsert
      { nodeId := node.nodeId, capacityClass := node.capacityClass, enabled := node.enabled
        failureDomain := Py.strip node.failureDomain, provider := Py.strip node.provider
        region := Py.strip node.region, rack := Py.strip node.rack }
      fun row =>
        { row with
          capacityClass := node.capacityClass, enabled := node.enabled
          failureDomain := Py.strip node.failureDomain, provider := Py.strip node.provider
          region := Py.strip node.region, rack := Py.strip node.rack } }

def fitsInteger (value : Int) : Bool := -2 ^ 63 ≤ value && value < 2 ^ 63

def heartbeat (now : Int) (nodeId : NodeId) (totalBytes usedBytes : Int) : Tx Unit := fun db =>
  if !(fitsInteger (max 0 totalBytes) && fitsInteger (max 0 usedBytes)) then .error .overflowError
  else
    match db.nodes.find? nodeId with
    | none => .error (.keyError s!"unknown node_id: {nodeId}")
    | some _ => .ok ({ db with
        nodes := db.nodes.update (fun node => node.nodeId = nodeId) fun node =>
          { node with
            lastSeen := now, totalBytes := max 0 totalBytes, usedBytes := max 0 usedBytes } }, ())

theorem heartbeat_nodes {now : Int} {nodeId : NodeId} {totalBytes usedBytes : Int} {db after : Db}
    (done : heartbeat now nodeId totalBytes usedBytes db = .ok (after, ())) :
    ∃ nodes, after = { db with nodes } := by
  unfold heartbeat at done
  split at done
  · cases done
  · split at done
    · cases done
    · cases done
      exact ⟨_, rfl⟩

/-- One more reference to an object: a new row, or the old one with its policy raised. -/
def retain (now : Int) (cid : Cid) (sizeBytes n m : Int) : Tx Unit := fun db =>
  match db.object cid with
  | some object =>
      if object.sizeBytes ≠ sizeBytes then .error (.valueError "CID size mismatch")
      else .ok (db.updateObject cid fun object =>
        { object with
          refcount := object.refcount + 1
          replicationN := max object.replicationN n
          committableM := max object.committableM m }, ())
  | none =>
      match db.objects.insert?
        { cid, sizeBytes, createdAt := now, replicationN := n, committableM := m } with
      | none => .error .integrityError
      | some objects => .ok ({ db with objects }, ())

def recordReference (now : Int) (cid : Cid) (referenceId : RefId) : Tx Unit := fun db =>
  match db.objectRefs.insert? { referenceId, cid, createdAt := now } with
  | none => .error .integrityError
  | some objectRefs => .ok ({ db with objectRefs }, ())

/-- The replica of the node that uploaded the content, pinned from the start. -/
def upsertSource (now : Int) (cid : Cid) (sourceNode : NodeId) : Tx Unit := fun db =>
  match db.nodes.find? sourceNode, db.object cid with
  | some node, some object =>
      .ok ({ db with
        replicas := db.replicas.upsert
          { cid, nodeId := sourceNode, state := .pinned, classAtAssignment := node.capacityClass,
            assignedAt := now, confirmedAt := now, lastVerifiedAt := now,
            generation := object.generation }
          fun replica =>
            { replica with
              desired := true, state := .pinned, confirmedAt := now, lastVerifiedAt := now,
              generation := object.generation, lastError := "" } }, ())
  | _, _ => .error (.keyError s!"unknown source node: {sourceNode}")

structure Registration where
  cid : Cid
  referenceId : Option RefId
  newReference : Bool
  deriving DecidableEq, Repr

def addReference (now : Int) (cid : Cid) (sizeBytes n m : Int) (referenceId : Option RefId) :
    Tx Bool := fun db =>
  match referenceId with
  | some reference =>
      match db.objectRefs.find? reference with
      | some row =>
          if row.cid ≠ cid then
            .error (.valueError "reference_id already belongs to a different CID")
          else if (db.object cid).isNone then
            .error (.runtimeError "object reference exists without object")
          else .ok (db, false)
      | none => do
          let (db, _) ← retain now cid sizeBytes n m db
          let (db, _) ← recordReference now cid reference db
          .ok (db, true)
  | none => do
      let (db, _) ← retain now cid sizeBytes n m db
      .ok (db, true)

/-- `if source_node:` -/
def sourceOf (sourceNode : Option NodeId) : Option NodeId := sourceNode.filter fun source => source ≠ ""

def registerObject (now : Int) (cid : Cid) (sizeBytes n m : Int) (sourceNode : Option NodeId)
    (referenceId : Option String) : Tx Registration := fun db => do
  let referenceId := Py.stripOrNone referenceId
  let (db, newReference) ← addReference now cid sizeBytes n m referenceId db
  match sourceOf sourceNode with
  | none => .ok (db, { cid, referenceId, newReference })
  | some source => do
      let (db, _) ← upsertSource now cid source db
      .ok (db, { cid, referenceId, newReference })

def placementLoad (db : Db) : PlacementLoad :=
  let held (nodeId : NodeId) := db.replicas.rows.filter fun replica =>
    replica.holds && replica.nodeId = nodeId && (db.object replica.cid).isSome
  let bytes (nodeId : NodeId) := ((held nodeId).map fun replica =>
    ((db.object replica.cid).map Object.sizeBytes).getD 0).sum
  { reservedBytes := bytes
    desiredCount := fun nodeId => (held nodeId).length
    assignedBytes := bytes }

def insertJob (db : Db) (make : JobId → Job)
    (numbered : ∀ number, (make number).jobId = number := by intro number; rfl) : Db × JobId :=
  ({ db with jobs := db.jobs.append make numbered }, db.jobs.next)

def assignReplica (now : Int) (cid : Cid) (nodeId : NodeId) (capacityClass : CapacityClass)
    (generation : Nat) (db : Db) : Db :=
  { db with
    replicas := db.replicas.upsert
      { cid, nodeId, classAtAssignment := capacityClass, assignedAt := now, generation }
      fun replica =>
        { replica with
          desired := true, state := .assigned, classAtAssignment := capacityClass,
          assignedAt := now, generation, lastError := "" } }

def pinWaiting (db : Db) (cid : Cid) (nodeId : NodeId) (generation : Nat) : Bool :=
  db.jobs.rows.any fun job => job.cid = cid && job.nodeId = nodeId &&
    job.operation = .pin && job.generation = generation && job.waiting

def verifyWaiting (db : Db) (cid : Cid) (nodeId : NodeId) : Bool :=
  db.jobs.rows.any fun job => job.cid = cid && job.nodeId = nodeId &&
    job.operation = .verify && job.waiting

def newJob (now : Int) (cid : Cid) (nodeId : NodeId) (operation : Operation) (generation : Nat)
    (jobId : JobId) : Job :=
  { jobId, cid, nodeId, operation, generation, nextAttemptAt := now, createdAt := now,
    updatedAt := now }

def createPinAssignment (now : Int) (cid : Cid) (nodeId : NodeId) (capacityClass : CapacityClass) :
    Tx (Option JobId) := fun db =>
  match db.object cid with
  | none => .error (.keyError cid)
  | some object =>
      let generation := object.generation
      if (db.replica cid nodeId).any Replica.holds then .ok (db, none)
      else if (db.nodes.find? nodeId).isNone then .error .integrityError
      else
        let db := assignReplica now cid nodeId capacityClass generation db
        if pinWaiting db cid nodeId generation then .ok (db, none)
        else
          let (db, jobId) := insertJob db (newJob now cid nodeId .pin generation)
          .ok (db, some jobId)

def createVerifyJob (now : Int) (cid : Cid) (nodeId : NodeId) (generation : Nat) :
    Tx (Option JobId) := fun db =>
  if verifyWaiting db cid nodeId then .ok (db, none)
  else if (db.object cid).isNone || (db.nodes.find? nodeId).isNone then .error .integrityError
  else
    let (db, jobId) := insertJob db (newJob now cid nodeId .verify generation)
    .ok (db, some jobId)

/-- A leased job as `pending_jobs` hands it out. -/
structure Delivery where
  job : Job
  sizeBytes : Int
  deriving DecidableEq, Repr

/-- `state IN ('pending','retry') AND next_attempt_at<=now AND (lease_until=0 OR lease_until<=now)` -/
def due (now : Int) (nodeId : NodeId) (job : Job) : Bool :=
  job.nodeId = nodeId && job.waiting && job.nextAttemptAt ≤ now &&
    (job.leaseUntil = 0 || job.leaseUntil ≤ now)

/-- The order in which SQLite finds the rows; `ORDER BY created_at` leaves it to rows of one time. -/
structure TieOrder where
  arrange : List Job → List Job
  perm : ∀ rows, (arrange rows).Perm rows

def TieOrder.inserted : TieOrder := ⟨id, fun rows => .refl rows⟩

def pendingJobs (now : Int) (nodeId : NodeId) (limit : Nat) (ties : TieOrder) (db : Db) :
    Db × List Delivery :=
  let leaseUntil := now + 120
  let found := ties.arrange (db.jobs.rows.filter fun job =>
    due now nodeId job && (db.object job.cid).isSome)
  let rows := (found.insertionSort fun first second => first.createdAt ≤ second.createdAt).take limit
  let lease (job : Job) : Job := { job with leaseUntil, updatedAt := now }
  (db.updateJobs (fun job => rows.any fun row => row.jobId = job.jobId) lease,
    rows.map fun row =>
      { job := { row with leaseUntil }
        sizeBytes := ((db.object row.cid).map Object.sizeBytes).getD 0 })

inductive ReportState
  | pinned
  | verified
  | failed
  | unpinned
  | other (text : String)
  deriving DecidableEq, Repr

structure Report where
  jobId : JobId
  state : ReportState
  leaseUntil : Int := 0
  error : String := ""
  deriving DecidableEq, Repr

def retryDelays : List Int := [30, 60, 120, 300, 900, 1800]

def retryDelay (attempts : Nat) : Int := retryDelays.getD (min (attempts - 1) 5) 0

def findJob (db : Db) (jobId : JobId) (nodeId : NodeId) : Option Job :=
  (db.jobs.find? jobId).filter fun job => job.nodeId = nodeId

def markStale (now : Int) (jobId : JobId) (db : Db) : Db :=
  db.updateJob jobId fun job => { job with state := .stale, updatedAt := now }

def markDone (now : Int) (jobId : JobId) (db : Db) : Db :=
  db.updateJob jobId fun job =>
    { job with state := .done, leaseUntil := 0, updatedAt := now, lastError := "" }

def markRetry (now : Int) (jobId : JobId) (attempts : Nat) (error : String) (db : Db) : Db :=
  db.updateJob jobId fun job =>
    { job with
      state := .retry, attempts, nextAttemptAt := now + retryDelay attempts, leaseUntil := 0,
      updatedAt := now, lastError := error }

def reportIsCurrent (now : Int) (job : Job) (report : Report) : Bool :=
  (if report.leaseUntil ≠ 0 then job.leaseUntil ≠ 0 && report.leaseUntil = job.leaseUntil
    else job.leaseUntil = 0) &&
  !(report.state = .failed && report.leaseUntil = 0 && job.state = .retry && job.nextAttemptAt > now) &&
  !(job.state = .done && (report.state = .pinned || report.state = .verified))

def applyJobReport (now : Int) (nodeId : NodeId) (report : Report) : Tx Unit := fun db =>
  match findJob db report.jobId nodeId with
  | none => .error (.keyError s!"unknown job {report.jobId}")
  | some job =>
      if (db.object job.cid).any fun object => object.generation = job.generation then
        if reportIsCurrent now job report then
          match report.state with
          | .pinned => .ok ((markDone now job.jobId db).updateReplica job.cid nodeId fun replica =>
              { replica with
                state := .pinned
                confirmedAt := if replica.confirmedAt = 0 then now else replica.confirmedAt
                lastVerifiedAt := now, failureSince := 0, lastError := "" }, ())
          | .verified => .ok ((markDone now job.jobId db).updateReplica job.cid nodeId fun replica =>
              { replica with
                state := .pinned, lastVerifiedAt := now, failureSince := 0, lastError := "" }, ())
          | .failed =>
              let error := Py.clip 500 (Py.orElse report.error "pin failed")
              .ok ((markRetry now job.jobId (job.attempts + 1) error db).updateReplica job.cid nodeId
                fun replica =>
                  { replica with
                    state := .failed
                    failureSince := if replica.failureSince = 0 then now else replica.failureSince
                    lastError := error }, ())
          | .unpinned => .error (.valueError "invalid job state: unpinned")
          | .other text => .error (.valueError s!"invalid job state: {text}")
        else .ok (db, ())
      else .ok (markStale now job.jobId db, ())

/-- A row that `mark_replica_state` has marked. -/
def markedReplica (now : Int) (state : ReplicaState) (error : String) (replica : Replica) :
    Replica :=
  { replica with
    state
    lastError := Py.clip 500 error
    failureSince :=
      if (state = .missing ∨ state = .failed ∨ state = .grace) ∧ replica.failureSince = 0 then now
      else if state = .pinned then 0
      else replica.failureSince }

def markReplicaState (now : Int) (cid : Cid) (nodeId : NodeId) (state : ReplicaState)
    (error : String) (db : Db) : Db :=
  db.updateReplica cid nodeId (markedReplica now state error)

def updateObjectHealth (cid : Cid) (state : ObjectState) (reason : String) (db : Db) : Db :=
  db.updateObject cid fun object => { object with state, reason := Py.clip 200 reason }

end ReplicationDB

end HashBurst.Replication
