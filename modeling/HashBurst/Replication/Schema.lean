import HashBurst.Lib.Table
import HashBurst.Lib.PyString

/-! The rows of the replication store (`hb_replication_db.py`, with the columns that
`hb_replication_v214_db.py` adds). Times are whole seconds of the controller's clock. -/

namespace HashBurst.Replication

abbrev Cid := String
abbrev NodeId := String
abbrev RefId := String
/-- `uuid4().hex`, drawn from a supply that never repeats. -/
abbrev JobId := Nat

inductive CapacityClass
  | committable
  | bestEffort
  | unknown
  deriving DecidableEq, Repr

inductive ReplicaState
  | assigned
  | pinning
  | pinned
  | grace
  | failed
  | missing
  | unpinned
  deriving DecidableEq, Repr

inductive Operation
  | pin
  | verify
  | unpin
  | unpinVerify
  deriving DecidableEq, Repr

inductive JobState
  | pending
  | retry
  | authorized
  | done
  | stale
  deriving DecidableEq, Repr

inductive ObjectState
  | pending
  | healthy
  | degradedCommittable
  | degradedTotal
  | releasePending
  deriving DecidableEq, Repr

structure Node where
  nodeId : NodeId
  capacityClass : CapacityClass := .unknown
  enabled : Bool := true
  lastSeen : Int := 0
  totalBytes : Int := 0
  usedBytes : Int := 0
  stabilityScore : Int := 0
  failurePenalty : Int := 0
  failureDomain : String := ""
  provider : String := ""
  region : String := ""
  rack : String := ""
  deriving DecidableEq, Repr

structure Object where
  cid : Cid
  sizeBytes : Int
  createdAt : Int
  replicationN : Int
  committableM : Int
  state : ObjectState := .pending
  reason : String := ""
  generation : Nat := 1
  refcount : Nat := 1
  releasedAt : Int := 0
  deriving DecidableEq, Repr

structure ObjectRef where
  referenceId : RefId
  cid : Cid
  createdAt : Int
  releasedAt : Int := 0
  releaseRequestId : String := ""
  deriving DecidableEq, Repr

structure Replica where
  cid : Cid
  nodeId : NodeId
  desired : Bool := true
  state : ReplicaState := .assigned
  classAtAssignment : CapacityClass := .unknown
  assignedAt : Int
  confirmedAt : Int := 0
  lastVerifiedAt : Int := 0
  failureSince : Int := 0
  generation : Nat
  lastError : String := ""
  deriving DecidableEq, Repr

structure Job where
  jobId : JobId
  cid : Cid
  nodeId : NodeId
  operation : Operation
  generation : Nat
  state : JobState := .pending
  attempts : Nat := 0
  nextAttemptAt : Int := 0
  leaseUntil : Int := 0
  createdAt : Int
  updatedAt : Int
  lastError : String := ""
  reason : String := ""
  authorizedAt : Int := 0
  deriving DecidableEq, Repr

abbrev Replica.key (replica : Replica) : Cid × NodeId := (replica.cid, replica.nodeId)

/-- The whole store. The audit log is left out: nothing reads it. -/
structure Db where
  nodes : Lib.Table Node.nodeId
  objects : Lib.Table Object.cid
  objectRefs : Lib.Table ObjectRef.referenceId
  replicas : Lib.Table Replica.key
  jobs : Lib.Serial Job.jobId

def Db.empty : Db where
  nodes := .empty
  objects := .empty
  objectRefs := .empty
  replicas := .empty
  jobs := .empty

inductive PyError
  | keyError (text : String)
  | valueError (text : String)
  | runtimeError (text : String)
  | integrityError
  | overflowError
  | lifecycleConflict (text : String)
  deriving DecidableEq, Repr

/-- A transaction: an exception rolls every change back. -/
abbrev Tx (α : Type) := Db → Except PyError (Db × α)

/-- What the store holds and the caller gets after `with self.tx()`. -/
def Tx.commit {α : Type} (tx : Tx α) (db : Db) : Db × Except PyError α :=
  match tx db with
  | .ok (after, value) => (after, .ok value)
  | .error failure => (db, .error failure)

/-- `state IN ('pending','retry')` -/
def Job.waiting (job : Job) : Bool := job.state = .pending || job.state = .retry

/-- `state IN ('pending','retry','authorized')` -/
def Job.active (job : Job) : Bool := job.waiting || job.state = .authorized

/-- `desired=1 AND state IN ('assigned','pinning','pinned','grace')` -/
def Replica.holds (replica : Replica) : Bool :=
  replica.desired && (replica.state = .assigned || replica.state = .pinning ||
    replica.state = .pinned || replica.state = .grace)

/-- `desired=1 AND state='pinned'` -/
def Replica.confirmed (replica : Replica) : Bool := replica.desired && replica.state = .pinned

/-- `state IN ('pinned','grace')` -/
def Replica.settled (replica : Replica) : Bool :=
  replica.state = .pinned || replica.state = .grace

def Db.object (db : Db) (cid : Cid) : Option Object := db.objects.find? cid

def Db.replica (db : Db) (cid : Cid) (nodeId : NodeId) : Option Replica :=
  db.replicas.find? (cid, nodeId)

def Db.replicaRows (db : Db) (cid : Cid) : List Replica :=
  db.replicas.rows.filter fun replica => replica.cid = cid

def Db.updateObject (db : Db) (cid : Cid) (change : Object → Object)
    (keeps : ∀ object, (change object).cid = object.cid := by intro object; rfl) : Db :=
  { db with objects := db.objects.update (fun object => object.cid = cid) change keeps }

def Db.updateReplicas (db : Db) (which : Replica → Bool) (change : Replica → Replica)
    (keeps : ∀ replica, (change replica).key = replica.key := by intro replica; rfl) : Db :=
  { db with replicas := db.replicas.update which change keeps }

def Db.updateReplica (db : Db) (cid : Cid) (nodeId : NodeId) (change : Replica → Replica)
    (keeps : ∀ replica, (change replica).key = replica.key := by intro replica; rfl) : Db :=
  db.updateReplicas (fun replica => replica.cid = cid && replica.nodeId = nodeId) change keeps

def Db.updateJobs (db : Db) (which : Job → Bool) (change : Job → Job)
    (keeps : ∀ job, (change job).jobId = job.jobId := by intro job; rfl) : Db :=
  { db with jobs := db.jobs.update which change keeps }

def Db.updateJob (db : Db) (jobId : JobId) (change : Job → Job)
    (keeps : ∀ job, (change job).jobId = job.jobId := by intro job; rfl) : Db :=
  db.updateJobs (fun job => job.jobId = jobId) change keeps

end HashBurst.Replication
