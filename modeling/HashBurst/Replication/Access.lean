import HashBurst.Replication.Ops

namespace HashBurst.Replication

open Lib

section Tables

variable (db : Db) (cid : Cid) (nodeId : NodeId)

section Object

variable (change : Object → Object) (keeps : ∀ object, (change object).cid = object.cid)

@[simp] theorem updateObject_nodes : (db.updateObject cid change keeps).nodes = db.nodes := rfl

@[simp] theorem updateObject_objectRefs :
    (db.updateObject cid change keeps).objectRefs = db.objectRefs := rfl

@[simp] theorem updateObject_replicas :
    (db.updateObject cid change keeps).replicas = db.replicas := rfl

@[simp] theorem updateObject_jobs : (db.updateObject cid change keeps).jobs = db.jobs := rfl

@[simp] theorem object_updateObject (wanted : Cid) :
    (db.updateObject cid change keeps).object wanted =
      if wanted = cid then (db.object wanted).map change else db.object wanted := by
  unfold Db.object Db.updateObject
  rw [Table.find?_update]
  cases found : db.objects.find? wanted with
  | none => simp
  | some object =>
      have named : object.cid = wanted := Table.find?_key found
      by_cases same : wanted = cid <;> simp [named, same]

@[simp] theorem replica_updateObject (wanted : Cid) :
    (db.updateObject cid change keeps).replica wanted nodeId = db.replica wanted nodeId := rfl

end Object

section Replica

variable (which : Replica → Bool) (change : Replica → Replica)
  (keeps : ∀ replica, (change replica).key = replica.key)

@[simp] theorem updateReplicas_nodes :
    (db.updateReplicas which change keeps).nodes = db.nodes := rfl

@[simp] theorem updateReplicas_objects :
    (db.updateReplicas which change keeps).objects = db.objects := rfl

@[simp] theorem updateReplicas_objectRefs :
    (db.updateReplicas which change keeps).objectRefs = db.objectRefs := rfl

@[simp] theorem updateReplicas_jobs :
    (db.updateReplicas which change keeps).jobs = db.jobs := rfl

@[simp] theorem updateReplica_nodes :
    (db.updateReplica cid nodeId change keeps).nodes = db.nodes := rfl

@[simp] theorem updateReplica_objects :
    (db.updateReplica cid nodeId change keeps).objects = db.objects := rfl

@[simp] theorem updateReplica_objectRefs :
    (db.updateReplica cid nodeId change keeps).objectRefs = db.objectRefs := rfl

@[simp] theorem updateReplica_jobs :
    (db.updateReplica cid nodeId change keeps).jobs = db.jobs := rfl

@[simp] theorem object_updateReplicas (wanted : Cid) :
    (db.updateReplicas which change keeps).object wanted = db.object wanted := rfl

@[simp] theorem object_updateReplica (wanted : Cid) :
    (db.updateReplica cid nodeId change keeps).object wanted = db.object wanted := rfl

@[simp] theorem replica_updateReplicas :
    (db.updateReplicas which change keeps).replica cid nodeId =
      (db.replica cid nodeId).map fun replica => if which replica then change replica else replica :=
  Table.find?_update db.replicas which change keeps (cid, nodeId)

@[simp] theorem replica_updateReplica (wantedCid : Cid) (wantedNode : NodeId) :
    (db.updateReplica cid nodeId change keeps).replica wantedCid wantedNode =
      if wantedCid = cid ∧ wantedNode = nodeId then (db.replica wantedCid wantedNode).map change
      else db.replica wantedCid wantedNode := by
  unfold Db.updateReplica
  rw [replica_updateReplicas]
  cases found : db.replica wantedCid wantedNode with
  | none => simp
  | some replica =>
      have named : replica.key = (wantedCid, wantedNode) := Table.find?_key found
      simp only [Replica.key, Prod.mk.injEq] at named
      by_cases same : wantedCid = cid ∧ wantedNode = nodeId <;> simp [named, same]

end Replica

section Job

variable (which : Job → Bool) (jobId : JobId) (change : Job → Job)
  (keeps : ∀ job, (change job).jobId = job.jobId)

@[simp] theorem updateJobs_nodes : (db.updateJobs which change keeps).nodes = db.nodes := rfl

@[simp] theorem updateJobs_objects : (db.updateJobs which change keeps).objects = db.objects := rfl

@[simp] theorem updateJobs_objectRefs :
    (db.updateJobs which change keeps).objectRefs = db.objectRefs := rfl

@[simp] theorem updateJobs_replicas :
    (db.updateJobs which change keeps).replicas = db.replicas := rfl

@[simp] theorem updateJob_nodes : (db.updateJob jobId change keeps).nodes = db.nodes := rfl

@[simp] theorem updateJob_objects : (db.updateJob jobId change keeps).objects = db.objects := rfl

@[simp] theorem updateJob_objectRefs :
    (db.updateJob jobId change keeps).objectRefs = db.objectRefs := rfl

@[simp] theorem updateJob_replicas :
    (db.updateJob jobId change keeps).replicas = db.replicas := rfl

@[simp] theorem object_updateJobs (wanted : Cid) :
    (db.updateJobs which change keeps).object wanted = db.object wanted := rfl

@[simp] theorem object_updateJob (wanted : Cid) :
    (db.updateJob jobId change keeps).object wanted = db.object wanted := rfl

@[simp] theorem replica_updateJobs :
    (db.updateJobs which change keeps).replica cid nodeId = db.replica cid nodeId := rfl

@[simp] theorem replica_updateJob :
    (db.updateJob jobId change keeps).replica cid nodeId = db.replica cid nodeId := rfl

end Job

end Tables

section Rewrites

variable {db : Db} {which other : Replica → Bool} {change rewrite : Replica → Replica}
  {keeps : ∀ replica, (change replica).key = replica.key}
  {retains : ∀ replica, (rewrite replica).key = replica.key}

theorem updateReplicas_congr
    (same : ∀ row ∈ db.replicas.rows,
      (if which row then change row else row) = if other row then rewrite row else row) :
    db.updateReplicas which change keeps = db.updateReplicas other rewrite retains := by
  have merged : db.replicas.update which change keeps = db.replicas.update other rewrite retains :=
    Table.ext (List.map_congr_left same)
  unfold Db.updateReplicas
  rw [merged]

theorem updateReplicas_self
    (same : ∀ row ∈ db.replicas.rows, which row = true → change row = row) :
    db.updateReplicas which change keeps = db := by
  have kept : db.replicas.update which change keeps = db.replicas := by
    apply Table.ext
    rw [Table.update_rows]
    refine (List.map_congr_left fun row member => ?_).trans (List.map_id _)
    by_cases chosen : which row
    · simpa [chosen] using same row member chosen
    · simp [chosen]
  unfold Db.updateReplicas
  rw [kept]

/-- Two updates in a row are one, where it rewrites every row as the two do. -/
theorem updateReplicas_twice {union : Replica → Bool} {both : Replica → Replica}
    {conserves : ∀ replica, (both replica).key = replica.key}
    (same : ∀ row ∈ db.replicas.rows,
      (if other (if which row then change row else row) then
          rewrite (if which row then change row else row)
        else if which row then change row else row) = if union row then both row else row) :
    (db.updateReplicas which change keeps).updateReplicas other rewrite retains =
      db.updateReplicas union both conserves := by
  have merged : (db.replicas.update which change keeps).update other rewrite retains =
      db.replicas.update union both conserves := by
    apply Table.ext
    rw [Table.update_rows, Table.update_rows, Table.update_rows, List.map_map]
    exact List.map_congr_left same
  unfold Db.updateReplicas
  rw [merged]

end Rewrites

theorem insertJob_rows (db : Db) (make : JobId → Job)
    (numbered : ∀ number, (make number).jobId = number) :
    (ReplicationDB.insertJob db make numbered).1.jobs.rows = db.jobs.rows ++ [make db.jobs.next] :=
  rfl

theorem any_insertJob {db : Db} {make : JobId → Job}
    {numbered : ∀ number, (make number).jobId = number} {wanted : Job → Bool}
    (found : db.jobs.rows.any wanted = true) :
    (ReplicationDB.insertJob db make numbered).1.jobs.rows.any wanted = true := by
  rw [insertJob_rows, List.any_append, found, Bool.true_or]

theorem any_updateJobs {db : Db} {which : Job → Bool} {change : Job → Job}
    {keeps : ∀ job, (change job).jobId = job.jobId} {wanted : Job → Bool}
    (spared : ∀ job ∈ db.jobs.rows, which job = true → wanted job = true →
      wanted (change job) = true) (found : db.jobs.rows.any wanted = true) :
    (db.updateJobs which change keeps).jobs.rows.any wanted = true := by
  obtain ⟨job, member, holds⟩ := List.any_eq_true.mp found
  refine List.any_eq_true.mpr ⟨_, Serial.mem_update.mpr ⟨job, member, rfl⟩, ?_⟩
  by_cases chosen : which job = true
  · rw [if_pos chosen]
    exact spared job member chosen holds
  · rw [if_neg chosen]
    exact holds

theorem object_congr {first second : Db} (same : first.objects = second.objects) (cid : Cid) :
    first.object cid = second.object cid := by
  unfold Db.object
  rw [same]

theorem replica_congr {first second : Db} (same : first.replicas = second.replicas) (cid : Cid)
    (nodeId : NodeId) : first.replica cid nodeId = second.replica cid nodeId := by
  unfold Db.replica
  rw [same]

theorem object_cid {db : Db} {cid : Cid} {object : Object} (found : db.object cid = some object) :
    object.cid = cid :=
  Table.find?_key found

theorem findJob_cases {db : Db} {jobId : JobId} {nodeId : NodeId} {job : Job}
    (found : ReplicationDB.findJob db jobId nodeId = some job) :
    job ∈ db.jobs.rows ∧ job.jobId = jobId ∧ job.nodeId = nodeId := by
  unfold ReplicationDB.findJob at found
  obtain ⟨present, named⟩ := Option.filter_eq_some_iff.mp found
  exact ⟨Table.find?_mem present, Table.find?_key present, of_decide_eq_true named⟩

/-- A transaction that ends in an exception leaves the store as it was. -/
theorem commit_error {α : Type} {tx : Tx α} {db : Db} {failure : PyError}
    (raised : tx db = .error failure) : tx.commit db = (db, .error failure) := by
  unfold Tx.commit
  rw [raised]

theorem commit_ok {α : Type} {tx : Tx α} {db after : Db} {value : α}
    (done : tx db = .ok (after, value)) : tx.commit db = (after, .ok value) := by
  unfold Tx.commit
  rw [done]

theorem commit_invariant {α : Type} {tx : Tx α} {db : Db} (Holds : Db → Prop) (start : Holds db)
    (each : ∀ after value, tx db = .ok (after, value) → Holds after) : Holds (tx.commit db).1 := by
  cases done : tx db with
  | error failure =>
      rw [commit_error done]
      exact start
  | ok result =>
      rw [commit_ok done]
      exact each _ _ done

section Creation

open ReplicationDB

variable {now : Int} {cid : Cid} {nodeId : NodeId} {capacityClass : CapacityClass}
  {generation : Nat} {db : Db} {object : Object}

theorem replica_assignReplica (wantedCid : Cid) (wantedNode : NodeId) :
    (assignReplica now cid nodeId capacityClass generation db).replica wantedCid wantedNode =
      if cid = wantedCid ∧ nodeId = wantedNode then
        some (match db.replica wantedCid wantedNode with
          | some old =>
              { old with
                desired := true, state := .assigned, classAtAssignment := capacityClass,
                assignedAt := now, generation, lastError := "" }
          | none =>
              { cid, nodeId, classAtAssignment := capacityClass, assignedAt := now, generation })
      else db.replica wantedCid wantedNode := by
  unfold Db.replica assignReplica
  rw [Table.find?_upsert]
  cases db.replicas.find? (wantedCid, wantedNode) <;> simp [Prod.mk.injEq]

variable (now capacityClass) in
/-- A PIN assignment for a known content and node: nothing where the node holds a copy, else
a row, and a job unless one waits already. -/
theorem createPinAssignment_run (found : db.object cid = some object)
    (known : (db.nodes.find? nodeId).isSome) :
    (runOp (.createPinAssignment cid nodeId capacityClass) now db).1 =
      (if (db.replica cid nodeId).any Replica.holds then db
      else if pinWaiting db cid nodeId object.generation then
        assignReplica now cid nodeId capacityClass object.generation db
      else (insertJob (assignReplica now cid nodeId capacityClass object.generation db)
        (newJob now cid nodeId .pin object.generation)).1) ∧
      ∃ answer, (runOp (.createPinAssignment cid nodeId capacityClass) now db).2 = .ok answer := by
  have present : (db.nodes.find? nodeId).isNone = false := by
    rw [Option.isNone_eq_false_iff]
    exact known
  have same : pinWaiting (assignReplica now cid nodeId capacityClass object.generation db) cid
      nodeId object.generation = pinWaiting db cid nodeId object.generation := rfl
  by_cases holds : (db.replica cid nodeId).any Replica.holds = true
  · have done : createPinAssignment now cid nodeId capacityClass db = .ok (db, none) := by
      unfold createPinAssignment
      simp [found, holds]
    simp only [runOp]
    rw [commit_ok done]
    simp [holds]
  · by_cases waiting : pinWaiting db cid nodeId object.generation = true
    · have done : createPinAssignment now cid nodeId capacityClass db =
          .ok (assignReplica now cid nodeId capacityClass object.generation db, none) := by
        unfold createPinAssignment
        simp [found, holds, present, same, waiting]
      simp only [runOp]
      rw [commit_ok done]
      simp [holds, waiting]
    · have done : createPinAssignment now cid nodeId capacityClass db =
          .ok ((insertJob (assignReplica now cid nodeId capacityClass object.generation db)
            (newJob now cid nodeId .pin object.generation)).1, some db.jobs.next) := by
        unfold createPinAssignment
        simp [found, holds, present, same, waiting]
        rfl
      simp only [runOp]
      rw [commit_ok done]
      simp [holds, waiting]

variable (now generation) in
/-- A VERIFY job for a known content and node: none where one waits already. -/
theorem createVerifyJob_run (found : db.object cid = some object)
    (known : (db.nodes.find? nodeId).isSome) :
    (runOp (.createVerifyJob cid nodeId generation) now db).1 =
      (if verifyWaiting db cid nodeId then db
      else (insertJob db (newJob now cid nodeId .verify generation)).1) ∧
      ∃ answer, (runOp (.createVerifyJob cid nodeId generation) now db).2 = .ok answer := by
  have present : (db.nodes.find? nodeId).isNone = false := by
    rw [Option.isNone_eq_false_iff]
    exact known
  by_cases waiting : verifyWaiting db cid nodeId = true
  · have done : createVerifyJob now cid nodeId generation db = .ok (db, none) := by
      unfold createVerifyJob
      simp [waiting]
    simp only [runOp]
    rw [commit_ok done]
    simp [waiting]
  · have done : createVerifyJob now cid nodeId generation db =
        .ok ((insertJob db (newJob now cid nodeId .verify generation)).1, some db.jobs.next) := by
      unfold createVerifyJob
      simp [waiting, found, present]
      rfl
    simp only [runOp]
    rw [commit_ok done]
    simp [waiting]

end Creation

/-- What `create_unpin_job` inserts. -/
def unpinJob (now : Int) (cid : Cid) (nodeId : NodeId) (generation : Nat) (reason : String)
    (notBefore : Int) (jobId : JobId) : Job :=
  { jobId, cid, nodeId, operation := .unpin, generation
    nextAttemptAt := max now notBefore, createdAt := now, updatedAt := now, reason }

section Outcomes

open ReplicationDB ReplicationDBV214 ReplicationDBV214Recovery

def Db.current (db : Db) (job : Job) : Bool :=
  (db.object job.cid).any fun object => object.generation = job.generation

def Db.unpinStands (db : Db) (job : Job) : Bool :=
  (db.object job.cid).any fun object =>
    object.generation = job.generation && (isTrimReason job.reason || object.refcount = 0)

def Db.checkStands (db : Db) (job : Job) : Bool :=
  (db.object job.cid).any fun object => object.refcount = 0 && object.generation = job.generation

variable {now : Int} {cid : Cid} {nodeId : NodeId} {generation : Nat} {db after : Db}
  {answer : Option JobId}

theorem createPinAssignment_cases {capacityClass : CapacityClass}
    (done : createPinAssignment now cid nodeId capacityClass db = .ok (after, answer)) :
    ∃ object, db.object cid = some object ∧
      (after = db ∨
        pinWaiting db cid nodeId object.generation = true ∧
          after = assignReplica now cid nodeId capacityClass object.generation db ∨
        after = (insertJob (assignReplica now cid nodeId capacityClass object.generation db)
          (newJob now cid nodeId .pin object.generation)).1) := by
  unfold createPinAssignment at done
  cases found : db.object cid with
  | none =>
      rw [found] at done
      cases done
  | some object =>
      rw [found] at done
      dsimp only at done
      refine ⟨object, rfl, ?_⟩
      split at done
      · cases done
        exact .inl rfl
      · split at done
        · cases done
        · split at done
          · rename_i waiting
            cases done
            exact .inr (.inl ⟨waiting, rfl⟩)
          · cases done
            exact .inr (.inr rfl)

theorem createVerifyJob_cases
    (done : createVerifyJob now cid nodeId generation db = .ok (after, answer)) :
    after = db ∨ (db.object cid).isSome = true ∧
      after = (insertJob db (newJob now cid nodeId .verify generation)).1 := by
  unfold createVerifyJob at done
  split at done
  · cases done
    exact .inl rfl
  · split at done
    · cases done
    · rename_i known
      cases done
      refine .inr ⟨?_, rfl⟩
      cases found : db.object cid with
      | none => simp [found] at known
      | some object => rfl

theorem createUnpinJob_cases {reason : String} {notBefore : Int}
    (done : createUnpinJob now cid nodeId generation reason notBefore db = .ok (after, answer)) :
    after = db ∨ ∃ object, db.object cid = some object ∧
      unpinPlannable db object nodeId generation (Py.clip 200 reason) = true ∧
      after = (insertJob db (unpinJob now cid nodeId generation (Py.clip 200 reason) notBefore)).1 ∧
      answer = some db.jobs.next := by
  unfold createUnpinJob at done
  cases found : db.object cid with
  | none =>
      rw [found] at done
      cases done
      exact .inl rfl
  | some object =>
      rw [found] at done
      dsimp only at done
      split at done
      · rename_i plannable
        split at done
        · cases done
          exact .inl rfl
        · split at done
          · cases done
          · cases done
            exact .inr ⟨object, rfl, plannable, rfl, rfl⟩
      · cases done
        exact .inl rfl

/-- An UNPIN job of the node is authorized or marked stale; any other id leaves the store alone. -/
theorem authorizeUnpin_cases (now : Int) (nodeId : NodeId) (jobId : JobId) (leaseUntil : Int)
    (db : Db) :
    (authorizeUnpin now nodeId jobId leaseUntil db).1 = db ∨
      ∃ job ∈ db.jobs.rows, job.jobId = jobId ∧ job.nodeId = nodeId ∧ job.operation = .unpin ∧
        ((authorizeUnpin now nodeId jobId leaseUntil db).1 = markStale now job.jobId db ∨
          job.leaseUntil = leaseUntil ∧ job.waiting = true ∧ unpinLawful db job nodeId = true ∧
          (authorizeUnpin now nodeId jobId leaseUntil db).1 = db.updateJob job.jobId fun job =>
            { job with state := .authorized, authorizedAt := now, updatedAt := now }) := by
  unfold authorizeUnpin
  cases found : (findJob db jobId nodeId).filter fun job => job.operation = .unpin with
  | none => exact .inl rfl
  | some job =>
      obtain ⟨named, unpin⟩ := Option.filter_eq_some_iff.mp found
      obtain ⟨member, rfl, owned⟩ := findJob_cases named
      refine .inr ⟨job, member, rfl, owned, of_decide_eq_true unpin, ?_⟩
      dsimp only
      split
      · rename_i granted
        simp only [Bool.and_eq_true, decide_eq_true_eq] at granted
        exact .inr ⟨granted.1.1, granted.1.2, granted.2, rfl⟩
      · exact .inl rfl

theorem dropReference_cases {object : Object} {result : ReleaseResult}
    (done : dropReference now cid object db = .ok (after, result)) :
    (object.refcount - 1 ≠ 0 ∧
      after = db.updateObject cid (fun row => { row with refcount := object.refcount - 1 }) ∧
      result = .ok
        { refcount := object.refcount - 1, released := true, finalRelease := false }) ∨
    (object.refcount - 1 = 0 ∧ unpinAuthorized db cid = false ∧
      after = staleWaiting now cid ((db.updateObject cid fun row =>
        { row with
          refcount := 0, releasedAt := now, state := .releasePending
          reason := "logical references released", generation := row.generation + 1
          }).updateReplicas (fun replica => replica.cid = cid) fun replica =>
            { replica with desired := false, generation := object.generation + 1 }) ∧
      result = .ok { refcount := 0, released := true, finalRelease := true }) := by
  unfold dropReference at done
  dsimp only at done
  split at done
  · rename_i last
    split at done
    · cases done
    · rename_i free
      cases done
      exact .inr ⟨last, Bool.eq_false_of_not_eq_true free, rfl, rfl⟩
  · rename_i counted
    cases done
    exact .inl ⟨counted, rfl, rfl⟩

/-- A release leaves the store alone, or drops the reference after a named one is recorded. -/
theorem releaseObject_cases {referenceId : Option String} {requestId : String}
    {result : ReleaseResult}
    (done : releaseObject now cid referenceId requestId db = .ok (after, result)) :
    (after = db ∧ ∀ object, db.object cid = some object → ∃ refcount finalRelease,
      result = .ok { refcount, released := false, finalRelease }) ∨
    ∃ object refs, db.object cid = some object ∧
      dropReference now cid object { db with objectRefs := refs } = .ok (after, result) := by
  unfold releaseObject at done
  cases found : db.object cid with
  | none =>
      rw [found] at done
      cases done
      exact .inl ⟨rfl, fun _ known => by cases known⟩
  | some object =>
      rw [found] at done
      dsimp only at done
      split at done
      · split at done
        · cases done
          exact .inl ⟨rfl, fun _ _ => ⟨_, _, rfl⟩⟩
        · split at done
          · cases done
          · split at done
            · cases done
              exact .inl ⟨rfl, fun _ _ => ⟨_, _, rfl⟩⟩
            · exact .inr ⟨object, _, rfl, done⟩
      · split at done
        · cases done
          exact .inl ⟨rfl, fun _ _ => ⟨_, _, rfl⟩⟩
        · exact .inr ⟨object, db.objectRefs, rfl, done⟩

section Reports

variable {report : Report}

/-- What the store makes of a report on a PIN or VERIFY job. -/
inductive JobReported (now : Int) (nodeId : NodeId) (report : Report) (db : Db) (job : Job) :
    Db → Prop
  | stale (outdated : db.current job = false) :
      JobReported now nodeId report db job (markStale now job.jobId db)
  | ignored (current : db.current job = true) :
      JobReported now nodeId report db job db
  | pinned
      (current : db.current job = true) (fits : reportIsCurrent now job report = true)
      (state : report.state = .pinned) :
      JobReported now nodeId report db job
        ((markDone now job.jobId db).updateReplica job.cid nodeId fun replica =>
          { replica with
            state := .pinned
            confirmedAt := if replica.confirmedAt = 0 then now else replica.confirmedAt
            lastVerifiedAt := now, failureSince := 0, lastError := "" })
  | verified
      (current : db.current job = true) (fits : reportIsCurrent now job report = true)
      (state : report.state = .verified) :
      JobReported now nodeId report db job
        ((markDone now job.jobId db).updateReplica job.cid nodeId fun replica =>
          { replica with
            state := .pinned, lastVerifiedAt := now, failureSince := 0, lastError := "" })
  | failed (error : String)
      (current : db.current job = true) (fits : reportIsCurrent now job report = true)
      (state : report.state = .failed) :
      JobReported now nodeId report db job
        ((markRetry now job.jobId (job.attempts + 1) error db).updateReplica job.cid nodeId
          fun replica =>
            { replica with
              state := .failed
              failureSince := if replica.failureSince = 0 then now else replica.failureSince
              lastError := error })

theorem applyJobReport_cases
    (done : ReplicationDB.applyJobReport now nodeId report db = .ok (after, ())) :
    ∃ job, findJob db report.jobId nodeId = some job ∧
      JobReported now nodeId report db job after := by
  unfold ReplicationDB.applyJobReport at done
  cases found : findJob db report.jobId nodeId with
  | none =>
      rw [found] at done
      cases done
  | some job =>
      rw [found] at done
      dsimp only at done
      refine ⟨job, rfl, ?_⟩
      split at done
      · rename_i current
        split at done
        · rename_i fits
          split at done
          · rename_i state
            cases done
            exact .pinned current fits state
          · rename_i state
            cases done
            exact .verified current fits state
          · rename_i state
            cases done
            exact .failed _ current fits state
          · cases done
          · cases done
        · cases done
          exact .ignored current
      · rename_i outdated
        cases done
        exact .stale (Bool.eq_false_of_not_eq_true outdated)

/-- What the store makes of a report on an UNPIN job. -/
inductive UnpinReported (now : Int) (nodeId : NodeId) (report : Report) (db : Db) (job : Job) :
    Db → Prop
  | stale (unlawful : db.unpinStands job = false) :
      UnpinReported now nodeId report db job (markStale now job.jobId db)
  | ignored (lawful : db.unpinStands job = true) :
      UnpinReported now nodeId report db job db
  | unpinned
      (lawful : db.unpinStands job = true) (lease : job.leaseUntil = report.leaseUntil)
      (authorized : job.state = .authorized)
      (state : report.state = .unpinned) :
      UnpinReported now nodeId report db job
        ((markDone now job.jobId db).updateReplica job.cid nodeId fun replica =>
          { replica with state := .unpinned, desired := false, lastError := "" })
  | failed (error : String)
      (lawful : db.unpinStands job = true) (lease : job.leaseUntil = report.leaseUntil)
      (authorized : job.state = .authorized)
      (state : report.state = .failed) :
      UnpinReported now nodeId report db job
        (db.updateJob job.jobId fun row =>
          { row with
            state := .retry, attempts := job.attempts + 1
            nextAttemptAt := now + retryDelay (job.attempts + 1)
            leaseUntil := 0, authorizedAt := 0, updatedAt := now, lastError := error })

theorem applyUnpinReport_cases
    (done : applyUnpinReport now nodeId report db = .ok (after, ())) :
    ∃ job, findJob db report.jobId nodeId = some job ∧
      UnpinReported now nodeId report db job after := by
  unfold applyUnpinReport at done
  cases found : findJob db report.jobId nodeId with
  | none =>
      rw [found] at done
      cases done
  | some job =>
      rw [found] at done
      dsimp only at done
      refine ⟨job, rfl, ?_⟩
      split at done
      · rename_i unlawful
        cases done
        exact .stale ((Bool.not_eq_true' _).mp unlawful)
      · rename_i lawful
        have lawful := Bool.not_eq_false' .. ▸ Bool.eq_false_of_not_eq_true lawful
        split at done
        · cases done
          exact .ignored lawful
        · rename_i fits
          simp only [Bool.or_eq_true, decide_eq_true_eq, not_or, ne_eq, not_not] at fits
          split at done
          · rename_i state
            cases done
            exact .unpinned lawful fits.1 fits.2 state
          · rename_i state
            cases done
            exact .failed _ lawful fits.1 fits.2 state
          · cases done
          · cases done
          · cases done

/-- What the store makes of a report on the check of an UNPIN. -/
inductive CheckReported (now : Int) (nodeId : NodeId) (report : Report) (db : Db) (job : Job) :
    Db → Prop
  | stale (unlawful : db.checkStands job = false) :
      CheckReported now nodeId report db job (markStale now job.jobId db)
  | ignored (lawful : db.checkStands job = true) :
      CheckReported now nodeId report db job db
  | unpinned
      (lawful : db.checkStands job = true) (lease : job.leaseUntil = report.leaseUntil)
      (state : report.state = .unpinned) :
      CheckReported now nodeId report db job
        ((markDone now job.jobId db).updateReplica job.cid nodeId fun replica =>
          { replica with state := .unpinned, desired := false, lastError := "" })
  | verified
      (lawful : db.checkStands job = true) (lease : job.leaseUntil = report.leaseUntil)
      (state : report.state = .verified) :
      CheckReported now nodeId report db job
        ((markDone now job.jobId db).updateReplica job.cid nodeId fun replica =>
          { replica with
            state := .pinned, desired := false, lastVerifiedAt := now, lastError := "" })
  | failed (error : String)
      (lawful : db.checkStands job = true) (lease : job.leaseUntil = report.leaseUntil)
      (state : report.state = .failed) :
      CheckReported now nodeId report db job
        (markRetry now job.jobId (job.attempts + 1) error db)

theorem applyUnpinVerifyReport_cases
    (done : applyUnpinVerifyReport now nodeId report db = .ok (after, ())) :
    ∃ job, findJob db report.jobId nodeId = some job ∧
      CheckReported now nodeId report db job after := by
  unfold applyUnpinVerifyReport at done
  cases found : findJob db report.jobId nodeId with
  | none =>
      rw [found] at done
      cases done
  | some job =>
      rw [found] at done
      dsimp only at done
      refine ⟨job, rfl, ?_⟩
      split at done
      · rename_i unlawful
        cases done
        exact .stale ((Bool.not_eq_true' _).mp unlawful)
      · rename_i lawful
        have lawful := Bool.not_eq_false' .. ▸ Bool.eq_false_of_not_eq_true lawful
        split at done
        · cases done
          exact .ignored lawful
        · rename_i lease
          have lease := not_not.mp lease
          split at done
          · rename_i state
            cases done
            exact .unpinned lawful lease state
          · rename_i state
            cases done
            exact .verified lawful lease state
          · rename_i state
            cases done
            exact .failed _ lawful lease state
          · cases done
          · cases done

end Reports

end Outcomes

end HashBurst.Replication
