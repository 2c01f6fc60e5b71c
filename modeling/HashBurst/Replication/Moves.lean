import HashBurst.Replication.Frames

/-! What every access does to the jobs: which job it moves and how, and which job it creates. -/

namespace HashBurst.Replication

open Lib ReplicationDB ReplicationDBV214 ReplicationDBV214Recovery

namespace Job

variable (now : Int) (job : Job)

def leased : Job := { job with leaseUntil := now + 120, updatedAt := now }

def staled : Job := { job with state := .stale, updatedAt := now }

def granted : Job := { job with state := .authorized, authorizedAt := now, updatedAt := now }

def finished : Job :=
  { job with state := .done, leaseUntil := 0, updatedAt := now, lastError := "" }

def retried (error : String) : Job :=
  { job with
    state := .retry, attempts := job.attempts + 1
    nextAttemptAt := now + retryDelay (job.attempts + 1), leaseUntil := 0, updatedAt := now
    lastError := error }

def disavowed (error : String) : Job := { job.retried now error with authorizedAt := 0 }

end Job

/-- What `recover_v214` inserts for an interrupted UNPIN. -/
def recheckJob (now : Int) (job : Job) (jobId : JobId) : Job :=
  { jobId, cid := job.cid, nodeId := job.nodeId, operation := .unpinVerify
    generation := job.generation, createdAt := now, updatedAt := now, reason := recoverReason }

def Report.outcome (now : Int) (report : Report) (job later : Job) : Prop :=
  match report.state with
  | .failed => ∃ error, later = job.retried now error ∨ later = job.disavowed now error
  | .other _ => False
  | _ => later = job.finished now

/-- How an access moves a job that it does not leave alone. -/
def Op.moves {β : Type} (op : Op β) (now : Int) (db : Db) (job later : Job) : Prop :=
  match op with
  | .pendingJobs nodeId _ _ _ => due now nodeId job = true ∧ later = job.leased now
  | .authorizeUnpin nodeId jobId leaseUntil =>
      job.jobId = jobId ∧ job.nodeId = nodeId ∧ job.operation = .unpin ∧
        (later = job.staled now ∨
          (job.leaseUntil = leaseUntil ∧ job.waiting = true ∧ unpinLawful db job nodeId = true ∧
            later = job.granted now))
  | .jobReport nodeId report =>
      job.jobId = report.jobId ∧ job.nodeId = nodeId ∧
        ((db.current job = false ∧ later = job.staled now) ∨
          (db.current job = true ∧ reportIsCurrent now job report = true ∧
            Report.outcome now report job later))
  | .unpinReport nodeId report =>
      job.jobId = report.jobId ∧ job.nodeId = nodeId ∧
        ((db.unpinStands job = false ∧ later = job.staled now) ∨
          (db.unpinStands job = true ∧ job.leaseUntil = report.leaseUntil ∧
            job.state = .authorized ∧ Report.outcome now report job later))
  | .unpinVerifyReport nodeId report =>
      job.jobId = report.jobId ∧ job.nodeId = nodeId ∧
        ((db.checkStands job = false ∧ later = job.staled now) ∨
          (db.checkStands job = true ∧ job.leaseUntil = report.leaseUntil ∧
            Report.outcome now report job later))
  | .registerBump cid _ => job.cid = cid ∧ job.waiting = true ∧ later = job.staled now
  | .releaseObject cid _ _ => job.cid = cid ∧ job.waiting = true ∧ later = job.staled now
  | .recoverV214 => interrupted job = true ∧ later = job.staled now
  | _ => False

def Op.creates {β : Type} (op : Op β) (now : Int) (db : Db) (job : Job) : Prop :=
  match op with
  | .createPinAssignment cid nodeId _ => ∃ object, db.object cid = some object ∧
      job = newJob now cid nodeId .pin object.generation job.jobId
  | .createVerifyJob cid nodeId generation => (db.object cid).isSome = true ∧
      job = newJob now cid nodeId .verify generation job.jobId
  | .createUnpinJob cid nodeId generation reason notBefore => ∃ object,
      db.object cid = some object ∧
      unpinPlannable db object nodeId generation (Py.clip 200 reason) = true ∧
      job = unpinJob now cid nodeId generation (Py.clip 200 reason) notBefore job.jobId
  | .recoverV214 => ∃ source ∈ db.jobs.rows, interrupted source = true ∧
      job = recheckJob now source job.jobId
  | _ => False

/-- Every job stays or moves as the access moves it, and new jobs are the ones it creates. -/
def JobsEvolve {β : Type} (op : Op β) (now : Int) (db after : Db) : Prop :=
  Serial.Evolves (fun job later => later = job ∨ op.moves now db job later) (op.creates now db)
    db.jobs after.jobs

section Evolution

variable {now : Int} {db after : Db}

theorem jobsEvolve_same {β : Type} {op : Op β} (same : after.jobs = db.jobs) :
    JobsEvolve op now db after := by
  unfold JobsEvolve
  rw [same]
  exact Serial.Evolves.refl fun job _ => .inl rfl

theorem jobsEvolve_updateJob {β : Type} {op : Op β} {job : Job} {change : Job → Job}
    {keeps : ∀ job, (change job).jobId = job.jobId} (member : job ∈ db.jobs.rows)
    (moves : op.moves now db job (change job)) (jobs : after.jobs = (db.updateJob job.jobId change
      keeps).jobs) : JobsEvolve op now db after := by
  unfold JobsEvolve
  rw [jobs]
  refine Serial.Evolves.update fun row present => ?_
  by_cases same : row.jobId = job.jobId
  · have equal : row = job := Table.eq_of_key present member same
    subst equal
    rw [if_pos (decide_eq_true rfl)]
    exact .inr moves
  · rw [if_neg (by simp [same])]
    exact .inl rfl

theorem jobsEvolve_insertJob {β : Type} {op : Op β} {make : JobId → Job}
    {numbered : ∀ number, (make number).jobId = number}
    (creates : op.creates now db (make db.jobs.next))
    (jobs : after.jobs = (insertJob db make numbered).1.jobs) : JobsEvolve op now db after := by
  unfold JobsEvolve
  rw [jobs]
  exact Serial.Evolves.append make numbered (fun job _ => .inl rfl) creates

theorem jobsEvolve_staleWaiting {β : Type} {op : Op β} {cid : Cid} {middle : Db}
    (moves : ∀ job ∈ db.jobs.rows, job.cid = cid → job.waiting = true →
      op.moves now db job (job.staled now)) (kept : middle.jobs = db.jobs)
    (jobs : after.jobs = (staleWaiting now cid middle).jobs) : JobsEvolve op now db after := by
  unfold JobsEvolve
  rw [jobs]
  unfold staleWaiting Db.updateJobs
  rw [kept]
  refine Serial.Evolves.update fun job member => ?_
  by_cases chosen : (job.cid = cid && job.waiting) = true
  · rw [if_pos chosen]
    obtain ⟨named, waiting⟩ : job.cid = cid ∧ job.waiting = true := by
      simpa only [Bool.and_eq_true, decide_eq_true_eq] using chosen
    exact .inr (moves job member named waiting)
  · rw [if_neg chosen]
    exact .inl rfl

theorem jobsEvolve_commit {α : Type} {tx : Tx α} {op : Op (Except PyError α)}
    (each : ∀ after value, tx db = .ok (after, value) → JobsEvolve op now db after) :
    JobsEvolve op now db (tx.commit db).1 :=
  commit_invariant (JobsEvolve op now db) (jobsEvolve_same rfl) each

theorem createPinAssignment_evolves {cid : Cid} {nodeId : NodeId} {capacityClass : CapacityClass}
    {answer : Option JobId}
    (done : createPinAssignment now cid nodeId capacityClass db = .ok (after, answer)) :
    JobsEvolve (.createPinAssignment cid nodeId capacityClass) now db after := by
  obtain ⟨object, found, rfl | ⟨-, rfl⟩ | rfl⟩ := createPinAssignment_cases done
  · exact jobsEvolve_same rfl
  · exact jobsEvolve_same rfl
  · exact jobsEvolve_insertJob ⟨object, found, rfl⟩ rfl

theorem createVerifyJob_evolves {cid : Cid} {nodeId : NodeId} {generation : Nat}
    {answer : Option JobId}
    (done : createVerifyJob now cid nodeId generation db = .ok (after, answer)) :
    JobsEvolve (.createVerifyJob cid nodeId generation) now db after := by
  obtain rfl | ⟨present, rfl⟩ := createVerifyJob_cases done
  · exact jobsEvolve_same rfl
  · exact jobsEvolve_insertJob ⟨present, rfl⟩ rfl

theorem createUnpinJob_evolves {cid : Cid} {nodeId : NodeId} {generation : Nat} {reason : String}
    {notBefore : Int} {answer : Option JobId}
    (done : createUnpinJob now cid nodeId generation reason notBefore db = .ok (after, answer)) :
    JobsEvolve (.createUnpinJob cid nodeId generation reason notBefore) now db after := by
  obtain rfl | ⟨object, found, plannable, rfl, -⟩ := createUnpinJob_cases done
  · exact jobsEvolve_same rfl
  · exact jobsEvolve_insertJob ⟨object, found, plannable, rfl⟩ rfl

theorem authorizeUnpin_evolves {nodeId : NodeId} {jobId : JobId} {leaseUntil : Int} :
    JobsEvolve (.authorizeUnpin nodeId jobId leaseUntil) now db
      (authorizeUnpin now nodeId jobId leaseUntil db).1 := by
  obtain same | ⟨job, member, rfl, rfl, operation, stale | ⟨lease, waiting, lawful, granted⟩⟩ :=
    authorizeUnpin_cases now nodeId jobId leaseUntil db
  · rw [same]
    exact jobsEvolve_same rfl
  · rw [stale]
    exact jobsEvolve_updateJob member ⟨rfl, rfl, operation, .inl rfl⟩ rfl
  · rw [granted]
    exact jobsEvolve_updateJob member ⟨rfl, rfl, operation, .inr ⟨lease, waiting, lawful, rfl⟩⟩ rfl

/-- What the transaction of a report does: it marks a job stale that does not stand any more,
ignores a report that does not fit, or gives the job its outcome. -/
def ReportApplied (stands fits : Job → Bool) (now : Int) (nodeId : NodeId) (report : Report)
    (db after : Db) : Prop :=
  ∃ job, findJob db report.jobId nodeId = some job ∧
    ((stands job = false ∧ after = markStale now job.jobId db) ∨
      (stands job = true ∧ after = db) ∨
      (stands job = true ∧ fits job = true ∧ ∃ change keeps,
        after.jobs = (db.updateJob job.jobId change keeps).jobs ∧
          Report.outcome now report job (change job)))

section Reports

variable {nodeId : NodeId} {report : Report}

theorem applied_outcome {stands fits : Job → Bool} {job : Job} (change : Job → Job)
    (keeps : ∀ job, (change job).jobId = job.jobId)
    (found : findJob db report.jobId nodeId = some job) (stood : stands job = true)
    (fitted : fits job = true) (outcome : Report.outcome now report job (change job))
    (jobs : after.jobs = (db.updateJob job.jobId change keeps).jobs) :
    ReportApplied stands fits now nodeId report db after :=
  ⟨job, found, .inr (.inr ⟨stood, fitted, change, keeps, jobs, outcome⟩)⟩

theorem applyJobReport_applied
    (done : ReplicationDB.applyJobReport now nodeId report db = .ok (after, ())) :
    ReportApplied db.current (fun job => reportIsCurrent now job report) now nodeId report db
      after := by
  obtain ⟨job, found, reported⟩ := applyJobReport_cases done
  cases reported with
  | stale outdated => exact ⟨job, found, .inl ⟨outdated, rfl⟩⟩
  | ignored current => exact ⟨job, found, .inr (.inl ⟨current, rfl⟩)⟩
  | pinned current fits state =>
      exact applied_outcome (Job.finished now) (fun _ => rfl) found current fits
        (by simp [Report.outcome, state]) rfl
  | verified current fits state =>
      exact applied_outcome (Job.finished now) (fun _ => rfl) found current fits
        (by simp [Report.outcome, state]) rfl
  | failed error current fits state =>
      refine applied_outcome _ _ found current fits ?_ rfl
      rw [Report.outcome, state]
      exact ⟨_, .inl rfl⟩

theorem applyUnpinReport_applied
    (done : applyUnpinReport now nodeId report db = .ok (after, ())) :
    ReportApplied db.unpinStands (fun job => job.leaseUntil = report.leaseUntil &&
      job.state = .authorized) now nodeId report db after := by
  obtain ⟨job, found, reported⟩ := applyUnpinReport_cases done
  cases reported with
  | stale unlawful => exact ⟨job, found, .inl ⟨unlawful, rfl⟩⟩
  | ignored lawful => exact ⟨job, found, .inr (.inl ⟨lawful, rfl⟩)⟩
  | unpinned lawful lease authorized state =>
      exact applied_outcome (Job.finished now) (fun _ => rfl) found lawful
        (by simp [lease, authorized]) (by simp [Report.outcome, state]) rfl
  | failed error lawful lease authorized state =>
      refine applied_outcome _ _ found lawful (by simp [lease, authorized]) ?_ rfl
      rw [Report.outcome, state]
      exact ⟨_, .inr rfl⟩

theorem applyUnpinVerifyReport_applied
    (done : applyUnpinVerifyReport now nodeId report db = .ok (after, ())) :
    ReportApplied db.checkStands (fun job => job.leaseUntil = report.leaseUntil) now nodeId report
      db after := by
  obtain ⟨job, found, reported⟩ := applyUnpinVerifyReport_cases done
  cases reported with
  | stale unlawful => exact ⟨job, found, .inl ⟨unlawful, rfl⟩⟩
  | ignored lawful => exact ⟨job, found, .inr (.inl ⟨lawful, rfl⟩)⟩
  | unpinned lawful lease state =>
      exact applied_outcome (Job.finished now) (fun _ => rfl) found lawful (decide_eq_true lease)
        (by simp [Report.outcome, state]) rfl
  | verified lawful lease state =>
      exact applied_outcome (Job.finished now) (fun _ => rfl) found lawful (decide_eq_true lease)
        (by simp [Report.outcome, state]) rfl
  | failed error lawful lease state =>
      refine applied_outcome _ _ found lawful (decide_eq_true lease) ?_ rfl
      rw [Report.outcome, state]
      exact ⟨_, .inl rfl⟩

theorem reportApplied_evolves {op : Op (Except PyError Unit)} {stands fits : Job → Bool}
    (stale : ∀ job, job.jobId = report.jobId → job.nodeId = nodeId → stands job = false →
      op.moves now db job (job.staled now))
    (moved : ∀ job later, job.jobId = report.jobId → job.nodeId = nodeId → stands job = true →
      fits job = true → Report.outcome now report job later → op.moves now db job later)
    (applied : ReportApplied stands fits now nodeId report db after) : JobsEvolve op now db after := by
  obtain ⟨job, found, applied⟩ := applied
  obtain ⟨member, named, owned⟩ := findJob_cases found
  rcases applied with ⟨fallen, rfl⟩ | ⟨-, rfl⟩ | ⟨stood, fitted, change, keeps, jobs, outcome⟩
  · exact jobsEvolve_updateJob member (stale job named owned fallen) rfl
  · exact jobsEvolve_same rfl
  · exact jobsEvolve_updateJob member (moved job _ named owned stood fitted outcome) jobs

private theorem applyJobReport_evolves
    (done : ReplicationDB.applyJobReport now nodeId report db = .ok (after, ())) :
    JobsEvolve (.jobReport nodeId report) now db after :=
  reportApplied_evolves
    (fun _ named owned fallen => ⟨named, owned, .inl ⟨fallen, rfl⟩⟩)
    (fun _ _ named owned stood fitted outcome => ⟨named, owned, .inr ⟨stood, fitted, outcome⟩⟩)
    (applyJobReport_applied done)

private theorem applyUnpinReport_evolves
    (done : applyUnpinReport now nodeId report db = .ok (after, ())) :
    JobsEvolve (.unpinReport nodeId report) now db after := by
  refine reportApplied_evolves (fun _ named owned fallen => ⟨named, owned, .inl ⟨fallen, rfl⟩⟩)
    (fun job later named owned stood fitted outcome => ?_) (applyUnpinReport_applied done)
  simp only [Bool.and_eq_true, decide_eq_true_eq] at fitted
  exact ⟨named, owned, .inr ⟨stood, fitted.1, fitted.2, outcome⟩⟩

private theorem applyUnpinVerifyReport_evolves
    (done : applyUnpinVerifyReport now nodeId report db = .ok (after, ())) :
    JobsEvolve (.unpinVerifyReport nodeId report) now db after :=
  reportApplied_evolves
    (fun _ named owned fallen => ⟨named, owned, .inl ⟨fallen, rfl⟩⟩)
    (fun _ _ named owned stood fitted outcome =>
      ⟨named, owned, .inr ⟨stood, of_decide_eq_true fitted, outcome⟩⟩)
    (applyUnpinVerifyReport_applied done)

end Reports

theorem registerBump_evolves {cid : Cid} {oldPolicy : Option (Int × Int)} :
    JobsEvolve (.registerBump cid oldPolicy) now db (registerBump now cid oldPolicy db) := by
  unfold registerBump
  cases db.object cid with
  | none => exact jobsEvolve_same rfl
  | some object =>
      dsimp only
      split
      · refine jobsEvolve_staleWaiting (fun job _ named waiting => ⟨named, waiting, rfl⟩) ?_ rfl
        split
        · rfl
        · rfl
      · exact jobsEvolve_same rfl

theorem dropReference_evolves {cid : Cid} {referenceId : Option String} {requestId : String}
    {object : Object} {middle : Db} {result : ReleaseResult} (kept : middle.jobs = db.jobs)
    (done : dropReference now cid object middle = .ok (after, result)) :
    JobsEvolve (.releaseObject cid referenceId requestId) now db after := by
  rcases dropReference_cases done with ⟨-, rfl, -⟩ | ⟨-, -, rfl, -⟩
  · exact jobsEvolve_same kept
  · exact jobsEvolve_staleWaiting (fun job _ named waiting => ⟨named, waiting, rfl⟩) kept rfl

theorem releaseObject_evolves {cid : Cid} {referenceId : Option String} {requestId : String}
    {result : ReleaseResult}
    (done : releaseObject now cid referenceId requestId db = .ok (after, result)) :
    JobsEvolve (.releaseObject cid referenceId requestId) now db after := by
  rcases releaseObject_cases done with ⟨rfl, -⟩ | ⟨object, refs, -, done⟩
  · exact jobsEvolve_same rfl
  · exact dropReference_evolves (by rfl) done

theorem pendingJobs_evolves {nodeId : NodeId} {limit : Nat} {allowed : Option (List Operation)}
    {ties : TieOrder} : JobsEvolve (.pendingJobs nodeId limit allowed ties) now db
      (ReplicationDBV214.pendingJobs now nodeId limit allowed ties db).1 := by
  have leases : (ReplicationDBV214.pendingJobs now nodeId limit allowed ties db).1 =
      (ReplicationDB.pendingJobs now nodeId limit ties db).1 := by
    unfold ReplicationDBV214.pendingJobs
    cases allowed <;> rfl
  rw [leases]
  unfold ReplicationDB.pendingJobs
  refine Serial.Evolves.update fun job member => ?_
  split
  · rename_i chosen
    obtain ⟨row, taken, named⟩ := List.any_eq_true.mp chosen
    have listed := (ties.perm _).mem_iff.mp
      ((List.mem_insertionSort _).mp (List.mem_of_mem_take taken))
    obtain ⟨present, wanted⟩ := List.mem_filter.mp listed
    have same : row = job := Table.eq_of_key present member (of_decide_eq_true named)
    subst same
    exact .inr ⟨(Bool.and_eq_true_iff.mp wanted).1, rfl⟩
  · exact .inl rfl

variable (now db) in
theorem recoverJob_jobs (job : Job) :
    Serial.Evolves (fun row later => later = row ∨ row.jobId = job.jobId ∧ later = row.staled now)
      (fun created => created = recheckJob now job created.jobId) db.jobs
      (recoverJob now db job).jobs := by
  have staled : Serial.Evolves (fun row later => later = row ∨ row.jobId = job.jobId ∧
      later = row.staled now) (fun created => created = recheckJob now job created.jobId) db.jobs
      (markStale now job.jobId db).jobs := by
    refine Serial.Evolves.update fun row _ => ?_
    split
    · rename_i same
      exact .inr ⟨of_decide_eq_true same, rfl⟩
    · exact .inl rfl
  unfold recoverJob
  dsimp only
  split
  · exact staled
  · have inserted : Serial.Evolves (fun row later => later = row)
        (fun created => created = recheckJob now job created.jobId)
        (markStale now job.jobId db).jobs _ :=
      Serial.Evolves.append (recheckJob now job) (fun _ => rfl) (fun _ _ => rfl) rfl
    refine staled.trans inserted ?_ ?_ fun _ created => created
    · rintro row _ middle _ later moved rfl
      exact moved
    · rintro middle _ later created rfl
      exact created

/-- The rounds of `recover_v214`, each over a job of the store at the start. -/
theorem recoverJobs_jobs (jobs : List Job) {middle : Db}
    (listed : ∀ job ∈ jobs, job ∈ db.jobs.rows ∧ interrupted job = true)
    (front : JobsEvolve .recoverV214 now db middle) :
    JobsEvolve .recoverV214 now db (jobs.foldl (recoverJob now) middle) := by
  induction jobs generalizing middle with
  | nil => exact front
  | cons head tail ih =>
      obtain ⟨source, broken⟩ := listed head List.mem_cons_self
      refine ih (fun job member => listed job (List.mem_cons_of_mem head member)) ?_
      have widened : Serial.Evolves (fun job later => later = job ∨ (interrupted job = true ∧
          later = job.staled now)) (fun job => db.jobs.next ≤ job.jobId ∧ ∃ source ∈ db.jobs.rows,
            interrupted source = true ∧ job = recheckJob now source job.jobId)
          db.jobs middle.jobs := by
        refine ⟨front.carried, fun later member => ?_, front.numbered⟩
        rcases front.origin later member with old | ⟨fresh, created⟩
        · exact .inl old
        · exact .inr ⟨fresh, fresh, created⟩
      refine widened.trans (recoverJob_jobs now middle head) ?_ ?_ ?_
      · intro row member middle _ later moved shifted
        have same_id : middle.jobId = row.jobId := by
          rcases moved with rfl | ⟨-, rfl⟩ <;> rfl
        rcases shifted with rfl | ⟨named, rfl⟩
        · exact moved
        · have same : row = head := Table.eq_of_key member source (same_id.symm.trans named)
          subst same
          rcases moved with rfl | ⟨-, rfl⟩
          · exact .inr ⟨broken, rfl⟩
          · exact .inr ⟨broken, rfl⟩
      · rintro middle _ later ⟨fresh, created⟩ (rfl | ⟨named, rfl⟩)
        · exact created
        · have below : head.jobId < db.jobs.next := db.jobs.fresh head source
          rw [← named] at below
          exact absurd fresh (Nat.not_le.mpr below)
      · intro later created
        exact ⟨head, source, broken, created⟩

private theorem recoverV214_evolves : JobsEvolve .recoverV214 now db (recoverV214 now db) := by
  refine recoverJobs_jobs _ (fun job member => ?_) (jobsEvolve_same rfl)
  exact List.mem_filter.mp member

/-- Every access moves the jobs as `Op.moves` and `Op.creates` say. -/
theorem jobs_runOp {β : Type} (op : Op β) (now : Int) (db : Db) :
    JobsEvolve op now db (runOp op now db).1 := by
  cases op with
  | time => exact jobsEvolve_same rfl
  | object => exact jobsEvolve_same rfl
  | objects => exact jobsEvolve_same rfl
  | replicaRows => exact jobsEvolve_same rfl
  | nodes => exact jobsEvolve_same rfl
  | placementLoad => exact jobsEvolve_same rfl
  | activeUnpinNodes => exact jobsEvolve_same rfl
  | jobOperation => exact jobsEvolve_same rfl
  | upsertNode => exact jobsEvolve_same rfl
  | markReplicaState => exact jobsEvolve_same rfl
  | updateObjectHealth => exact jobsEvolve_same rfl
  | registerGuard => exact jobsEvolve_same rfl
  | heartbeat =>
      refine jobsEvolve_commit fun after _ done => ?_
      obtain ⟨nodes, rfl⟩ := heartbeat_nodes done
      exact jobsEvolve_same rfl
  | registerBase =>
      exact jobsEvolve_commit fun after _ done => jobsEvolve_same (registerBase_jobs done)
  | createPinAssignment => exact jobsEvolve_commit fun _ _ done => createPinAssignment_evolves done
  | createVerifyJob => exact jobsEvolve_commit fun _ _ done => createVerifyJob_evolves done
  | createUnpinJob => exact jobsEvolve_commit fun _ _ done => createUnpinJob_evolves done
  | pendingJobs => exact pendingJobs_evolves
  | authorizeUnpin => exact authorizeUnpin_evolves
  | jobReport => exact jobsEvolve_commit fun _ _ done => applyJobReport_evolves done
  | unpinReport => exact jobsEvolve_commit fun _ _ done => applyUnpinReport_evolves done
  | unpinVerifyReport => exact jobsEvolve_commit fun _ _ done => applyUnpinVerifyReport_evolves done
  | registerBump => exact registerBump_evolves
  | releaseObject => exact jobsEvolve_commit fun _ _ done => releaseObject_evolves done
  | recoverV214 => exact recoverV214_evolves

end Evolution

/-- What a job is for; no access changes it. -/
def Job.purpose (job : Job) : Cid × NodeId × Operation × Nat × String :=
  (job.cid, job.nodeId, job.operation, job.generation, job.reason)

theorem outcome_purpose {now : Int} {report : Report} {job later : Job}
    (outcome : Report.outcome now report job later) : later.purpose = job.purpose := by
  unfold Report.outcome at outcome
  split at outcome
  · rcases outcome with ⟨error, rfl | rfl⟩ <;> rfl
  · exact outcome.elim
  · rw [outcome]
    rfl

theorem moves_purpose {β : Type} {op : Op β} {now : Int} {db : Db} {job later : Job}
    (moves : op.moves now db job later) : later.purpose = job.purpose := by
  cases op with
  | pendingJobs =>
      rw [moves.2]
      rfl
  | authorizeUnpin =>
      rcases moves.2.2.2 with rfl | ⟨-, -, -, rfl⟩ <;> rfl
  | jobReport =>
      rcases moves.2.2 with ⟨-, rfl⟩ | ⟨-, -, outcome⟩
      · rfl
      · exact outcome_purpose outcome
  | unpinReport =>
      rcases moves.2.2 with ⟨-, rfl⟩ | ⟨-, -, -, outcome⟩
      · rfl
      · exact outcome_purpose outcome
  | unpinVerifyReport =>
      rcases moves.2.2 with ⟨-, rfl⟩ | ⟨-, -, outcome⟩
      · rfl
      · exact outcome_purpose outcome
  | registerBump =>
      rw [moves.2.2]
      rfl
  | releaseObject =>
      rw [moves.2.2]
      rfl
  | recoverV214 =>
      rw [moves.2]
      rfl
  | _ => exact moves.elim

theorem purpose_runOp {β : Type} (op : Op β) (now : Int) {db : Db} {jobId : JobId} {job : Job}
    (found : db.jobs.find? jobId = some job) :
    ∃ later, (runOp op now db).1.jobs.find? jobId = some later ∧ later.purpose = job.purpose := by
  obtain ⟨later, present, moved⟩ := (jobs_runOp op now db).find? found
  refine ⟨later, present, ?_⟩
  rcases moved with rfl | moves
  · rfl
  · exact moves_purpose moves

end HashBurst.Replication
