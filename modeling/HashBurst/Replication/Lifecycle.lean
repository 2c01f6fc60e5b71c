import HashBurst.Replication.Store

/-! The v2.1.4 store: `ReplicationDBV214` (`hb_replication_v214_db.py`) and
`ReplicationDBV214Recovery` (`hb_replication_v214_recovery.py`) over the v2.1.3 one. -/

namespace HashBurst.Replication

open Lib

namespace ReplicationDBV214

open ReplicationDB

def trimReason : String := "trim-extra-replica"

def finalReason : String := "final-release"

def isTrimReason (reason : String) : Bool := reason = trimReason

/-- `operation='UNPIN' AND state='authorized'` for the content. -/
def unpinAuthorized (db : Db) (cid : Cid) : Bool :=
  db.jobs.rows.any fun job =>
    job.cid = cid && job.operation = .unpin && job.state = .authorized

/-- The first locked block of `register_object`; it answers `old_policy`. -/
def registerGuard (cid : Cid) (n m : Int) (db : Db) : Except PyError (Option (Int × Int)) :=
  match db.object cid with
  | none => .ok none
  | some object =>
      if unpinAuthorized db cid then
        if object.refcount = 0 then
          .error (.lifecycleConflict "CID has an authorized UNPIN in progress")
        else if n > object.replicationN || m > object.committableM then
          .error (.lifecycleConflict "replication policy cannot change during an authorized trim")
        else .ok (some (object.replicationN, object.committableM))
      else .ok (some (object.replicationN, object.committableM))

/-- Whether the last transaction of `register_object` starts a new generation. -/
def bumps (object : Object) (oldPolicy : Option (Int × Int)) : Bool :=
  (object.refcount > 0 && object.releasedAt ≠ 0) ||
    oldPolicy.any fun policy => policy ≠ (object.replicationN, object.committableM)

private theorem stale_jobId (now : Int) (job : Job) :
    ({ job with state := .stale, updatedAt := now } : Job).jobId = job.jobId := rfl

def staleWaiting (now : Int) (cid : Cid) (db : Db) : Db :=
  db.updateJobs (fun job => job.cid = cid && job.waiting)
    (fun job => { job with state := .stale, updatedAt := now }) (stale_jobId now)

/-- The last transaction of `register_object`. -/
def registerBump (now : Int) (cid : Cid) (oldPolicy : Option (Int × Int)) (db : Db) : Db :=
  match db.object cid with
  | none => db
  | some object =>
      if bumps object oldPolicy then
        let resurrected := object.refcount > 0 && object.releasedAt ≠ 0
        let generation := object.generation + 1
        let db := db.updateObject cid fun object =>
          { object with
            generation := object.generation + 1, releasedAt := 0, state := .pending, reason := "" }
        let db :=
          if resurrected then
            db.updateReplicas (fun replica => replica.cid = cid && replica.state ≠ .unpinned)
              fun replica => { replica with desired := true, generation }
          else
            db.updateReplicas (fun replica => replica.cid = cid)
              fun replica => { replica with generation }
        staleWaiting now cid db
      else db

structure Release where
  refcount : Nat
  released : Bool
  finalRelease : Bool
  deriving DecidableEq, Repr

inductive ReleaseResult
  | notFound
  | ok (release : Release)
  deriving DecidableEq, Repr

/-- The part of `release_object` after the reference has been accepted. -/
def dropReference (now : Int) (cid : Cid) (object : Object) : Tx ReleaseResult := fun db =>
  let newRef := object.refcount - 1
  if newRef = 0 then
    if unpinAuthorized db cid then
      .error (.lifecycleConflict "CID has an authorized trim in progress")
    else
      let generation := object.generation + 1
      let db := db.updateObject cid fun object =>
        { object with
          refcount := 0, releasedAt := now, state := .releasePending
          reason := "logical references released", generation := object.generation + 1 }
      let db := db.updateReplicas (fun replica => replica.cid = cid) fun replica =>
        { replica with desired := false, generation }
      .ok (staleWaiting now cid db, .ok { refcount := 0, released := true, finalRelease := true })
  else
    .ok (db.updateObject cid fun object => { object with refcount := newRef },
      .ok { refcount := newRef, released := true, finalRelease := false })

def recordRelease (now : Int) (reference : RefId) (requestId : String) (db : Db) : Db :=
  { db with
    objectRefs := db.objectRefs.update (fun ref => ref.referenceId = reference) fun ref =>
      { ref with releasedAt := now, releaseRequestId := requestId } }

/-- `release_object`; `requestId` is the caller's or a fresh `uuid4().hex`. -/
def releaseObject (now : Int) (cid : Cid) (referenceId : Option String) (requestId : String) :
    Tx ReleaseResult := fun db =>
  match db.object cid with
  | none => .ok (db, .notFound)
  | some object =>
      let unchanged : ReleaseResult :=
        .ok { refcount := object.refcount, released := false, finalRelease := object.refcount = 0 }
      match Py.stripOrNone referenceId with
      | some reference =>
          match db.objectRefs.find? reference with
          | none => .ok (db, unchanged)
          | some row =>
              if row.cid ≠ cid then
                .error (.valueError "reference_id belongs to a different CID")
              else if row.releasedAt ≠ 0 then .ok (db, unchanged)
              else dropReference now cid object
                (recordRelease now reference requestId db)
      | none =>
          if object.refcount = 0 then .ok (db, unchanged)
          else dropReference now cid object db

/-- `COUNT(*) … WHERE desired=1 AND state='pinned'` -/
def confirmedRows (db : Db) (cid : Cid) : List Replica :=
  db.replicas.rows.filter fun replica => replica.cid = cid && replica.confirmed

/-- The replicas that the other authorized trims of the content are about to remove. -/
def authorizedTrims (db : Db) (cid : Cid) (nodeId : NodeId) : List Replica :=
  (db.jobs.rows.filter fun job =>
    job.cid = cid && job.operation = .unpin && job.reason = trimReason &&
      job.state = .authorized && job.nodeId ≠ nodeId).filterMap fun job =>
        db.replica cid job.nodeId

def isCommittable (replica : Replica) : Bool := replica.classAtAssignment = .committable

def trimCapacityLocked (db : Db) (cid : Cid) (nodeId : NodeId) (generation : Nat)
    (includeAuthorized : Bool) : Bool :=
  match db.object cid, db.replica cid nodeId with
  | some object, some target =>
      if object.refcount = 0 || object.generation ≠ generation then false
      else if !target.confirmed then false
      else
        let rows := confirmedRows db cid
        let auth := if includeAuthorized then authorizedTrims db cid nodeId else []
        let total : Int := rows.length - auth.length
        let comm : Int := rows.countP isCommittable - auth.countP isCommittable
        total - 1 ≥ object.replicationN &&
          comm - (if isCommittable target then 1 else 0) ≥ object.committableM
  | _, _ => false

/-- UNPIN jobs of the content for `reason` that are planned or under way. -/
def activeTrims (db : Db) (cid : Cid) : Nat :=
  db.jobs.rows.countP fun job =>
    job.cid = cid && job.operation = .unpin && job.reason = trimReason && job.active

/-- Whether `create_unpin_job` may plan the removal at all. -/
def unpinPlannable (db : Db) (object : Object) (nodeId : NodeId) (generation : Nat)
    (reason : String) : Bool :=
  if object.generation ≠ generation then false
  else if isTrimReason reason then
    decide (((confirmedRows db object.cid).length : Int) - activeTrims db object.cid >
      object.replicationN) &&
    trimCapacityLocked db object.cid nodeId generation false
  else object.refcount = 0

def createUnpinJob (now : Int) (cid : Cid) (nodeId : NodeId) (generation : Nat) (reason : String)
    (notBefore : Int) : Tx (Option JobId) := fun db =>
  let reason := Py.clip 200 reason
  match db.object cid with
  | none => .ok (db, none)
  | some object =>
      if unpinPlannable db object nodeId generation reason then
        if db.jobs.rows.any fun job => job.cid = cid && job.nodeId = nodeId &&
            job.operation = .unpin && job.generation = generation && job.active then
          .ok (db, none)
        else if (db.nodes.find? nodeId).isNone then .error .integrityError
        else
          let (db, jobId) := insertJob db fun jobId =>
            { jobId, cid, nodeId, operation := .unpin, generation
              nextAttemptAt := max now notBefore, createdAt := now, updatedAt := now, reason }
          .ok (db, some jobId)
      else .ok (db, none)

inductive Authorization
  | denied (reason : String)
  | granted (cid : Cid) (generation : Nat)
  deriving DecidableEq, Repr

/-- `lifecycle_ok` of `authorize_unpin`. -/
def unpinLawful (db : Db) (job : Job) (nodeId : NodeId) : Bool :=
  match db.object job.cid with
  | none => false
  | some object =>
      object.generation = job.generation &&
        if isTrimReason job.reason then trimCapacityLocked db job.cid nodeId job.generation true
        else object.refcount = 0

def authorizeUnpin (now : Int) (nodeId : NodeId) (jobId : JobId) (leaseUntil : Int) (db : Db) :
    Db × Authorization :=
  match (findJob db jobId nodeId).filter fun job => job.operation = .unpin with
  | none => (db, .denied "unknown-job")
  | some job =>
      if job.leaseUntil = leaseUntil && job.waiting && unpinLawful db job nodeId then
        (db.updateJob jobId fun job =>
          { job with state := .authorized, authorizedAt := now, updatedAt := now },
          .granted job.cid job.generation)
      else (markStale now jobId db, .denied "stale-or-policy-unsafe")

def pendingJobs (now : Int) (nodeId : NodeId) (limit : Nat) (allowed : Option (List Operation))
    (ties : TieOrder) (db : Db) : Db × List Delivery :=
  let (db, jobs) := ReplicationDB.pendingJobs now nodeId limit ties db
  match allowed with
  | none => (db, jobs)
  | some operations => (db, jobs.filter fun delivery => delivery.job.operation ∈ operations)

/-- The transaction of `apply_job_report` for an UNPIN job. -/
def applyUnpinReport (now : Int) (nodeId : NodeId) (report : Report) : Tx Unit := fun db =>
  match findJob db report.jobId nodeId with
  | none => .error (.keyError s!"unknown job {report.jobId}")
  | some job =>
      let lawful := (db.object job.cid).any fun object =>
        object.generation = job.generation && (isTrimReason job.reason || object.refcount = 0)
      if !lawful then .ok (markStale now job.jobId db, ())
      else if job.leaseUntil ≠ report.leaseUntil || job.state ≠ .authorized then .ok (db, ())
      else
        match report.state with
        | .unpinned =>
            .ok ((markDone now job.jobId db).updateReplica job.cid nodeId fun replica =>
              { replica with state := .unpinned, desired := false, lastError := "" }, ())
        | .failed =>
            let error := Py.clip 500 (Py.orElse report.error "unpin failed")
            let attempts := job.attempts + 1
            .ok (db.updateJob job.jobId fun job =>
              { job with
                state := .retry, attempts, nextAttemptAt := now + retryDelay attempts
                leaseUntil := 0, authorizedAt := 0, updatedAt := now, lastError := error }, ())
        | .pinned => .error (.valueError "invalid UNPIN report state: pinned")
        | .verified => .error (.valueError "invalid UNPIN report state: verified")
        | .other text => .error (.valueError s!"invalid UNPIN report state: {text}")

end ReplicationDBV214

namespace ReplicationDBV214Recovery

open ReplicationDB ReplicationDBV214

def recoverReason : String := "recover-authorized-unpin"

/-- `operation='UNPIN' AND state='authorized'` -/
def interrupted (job : Job) : Bool := job.operation = .unpin && job.state = .authorized

/-- One round of the loop of `recover_v214`. -/
def recoverJob (now : Int) (db : Db) (job : Job) : Db :=
  let db := markStale now job.jobId db
  if db.jobs.rows.any fun other => other.cid = job.cid && other.nodeId = job.nodeId &&
      other.operation = .unpinVerify && other.generation = job.generation && other.waiting then db
  else
    (insertJob db fun jobId =>
      { jobId, cid := job.cid, nodeId := job.nodeId, operation := .unpinVerify
        generation := job.generation, createdAt := now, updatedAt := now
        reason := recoverReason }).1

def recoverV214 (now : Int) (db : Db) : Db :=
  (db.jobs.rows.filter interrupted).foldl (recoverJob now) db

def activeUnpinNodes (cid : Cid) (reason : String) (db : Db) : List NodeId :=
  (db.jobs.rows.filter fun job =>
    job.cid = cid && job.operation = .unpin && (reason = "" || job.reason = reason) &&
      job.active).map Job.nodeId

/-- The transaction of `apply_job_report` for an UNPIN_VERIFY job. -/
def applyUnpinVerifyReport (now : Int) (nodeId : NodeId) (report : Report) : Tx Unit := fun db =>
  match findJob db report.jobId nodeId with
  | none => .error (.keyError s!"unknown job {report.jobId}")
  | some job =>
      if !(db.object job.cid).any fun object =>
          object.refcount = 0 && object.generation = job.generation then
        .ok (markStale now job.jobId db, ())
      else if job.leaseUntil ≠ report.leaseUntil then .ok (db, ())
      else
        match report.state with
        | .unpinned =>
            .ok ((markDone now job.jobId db).updateReplica job.cid nodeId fun replica =>
              { replica with state := .unpinned, desired := false, lastError := "" }, ())
        | .verified =>
            .ok ((markDone now job.jobId db).updateReplica job.cid nodeId fun replica =>
              { replica with
                state := .pinned, desired := false, lastVerifiedAt := now, lastError := "" }, ())
        | .failed =>
            let error := Py.clip 500 (Py.orElse report.error "unpin verification failed")
            .ok (markRetry now job.jobId (job.attempts + 1) error db, ())
        | .pinned => .error (.valueError "invalid UNPIN_VERIFY report state: pinned")
        | .other text => .error (.valueError s!"invalid UNPIN_VERIFY report state: {text}")

end ReplicationDBV214Recovery

end HashBurst.Replication
