import HashBurst.Replication.Moves
import HashBurst.Replication.Planner
import HashBurst.Replication.TrimSafety

namespace HashBurst.Replication

open Lib ReplicationDB ReplicationDBV214 ReplicationDBV214Recovery

def Job.checks (check job : Job) : Prop :=
  check.operation = .unpinVerify ∧ check.cid = job.cid ∧ check.nodeId = job.nodeId ∧
    check.generation = job.generation

/-- The check is done and the row is in the pin state of the report. -/
def Recorded (db : Db) (jobId : JobId) (job : Job) (state : ReportState) : Prop :=
  (db.jobs.find? jobId).map Job.state = some .done ∧
    ∃ replica, db.replica job.cid job.nodeId = some replica ∧
      (state = .unpinned → replica.state = .unpinned ∧ replica.desired = false) ∧
      (state = .verified → replica.state = .pinned)

/-- Every UNPIN, and every check of one, is about a copy that has a row. -/
def UnpinsRowed (db : Db) : Prop :=
  ∀ job ∈ db.jobs.rows, job.operation = .unpin ∨ job.operation = .unpinVerify →
    (db.replica job.cid job.nodeId).isSome = true

section Recovery

variable {now : Int} {db : Db} {job head : Job}

def Db.checkWaiting (db : Db) (job : Job) : Prop :=
  ∃ check ∈ db.jobs.rows, check.checks job ∧ check.waiting = true

theorem recoverJob_leaves_check : (recoverJob now db job).checkWaiting job := by
  unfold recoverJob
  dsimp only
  split
  · rename_i active
    obtain ⟨check, member, fits⟩ := List.any_eq_true.mp active
    simp only [Bool.and_eq_true, decide_eq_true_eq] at fits
    obtain ⟨⟨⟨⟨content, node⟩, operation⟩, generation⟩, waiting⟩ := fits
    exact ⟨check, member, ⟨operation, content, node, generation⟩, waiting⟩
  · refine ⟨recheckJob now job (markStale now job.jobId db).jobs.next, ?_, ⟨rfl, rfl, rfl, rfl⟩, rfl⟩
    rw [insertJob_rows]
    exact List.mem_append_right _ (List.mem_singleton.mpr rfl)

theorem recoverJob_keeps_check (unpin : ∃ row ∈ db.jobs.rows, row.jobId = head.jobId ∧
    row.operation = .unpin) (waiting : db.checkWaiting job) :
    (recoverJob now db head).checkWaiting job := by
  obtain ⟨check, member, checks, active⟩ := waiting
  obtain ⟨later, present, -, moved⟩ := (recoverJob_jobs now db head).carried check member
  refine ⟨later, present, ?_⟩
  rcases moved with rfl | ⟨named, -⟩
  · exact ⟨checks, active⟩
  · obtain ⟨row, listed, owned, operation⟩ := unpin
    have same : check = row := Table.eq_of_key member listed (named.trans owned.symm)
    rw [same] at checks
    exact absurd (operation.symm.trans checks.1) (by decide)

theorem recoverJobs_check (jobs : List Job) (member : job ∈ jobs ∨ db.checkWaiting job)
    (unpin : ∀ entry ∈ jobs, ∃ row ∈ db.jobs.rows, row.jobId = entry.jobId ∧
      row.operation = .unpin) : (jobs.foldl (recoverJob now) db).checkWaiting job := by
  induction jobs generalizing db with
  | nil => exact member.resolve_left List.not_mem_nil
  | cons first rest ih =>
      refine ih ?_ fun entry listed => recoverJob_unpin (unpin entry (List.mem_cons_of_mem first listed))
      rcases member with listed | waiting
      · rcases List.mem_cons.mp listed with rfl | later
        · exact .inr recoverJob_leaves_check
        · exact .inl later
      · exact .inr (recoverJob_keeps_check (unpin first List.mem_cons_self) waiting)

variable (now) in
private theorem recoverV214_leaves_check (member : job ∈ db.jobs.rows)
    (broken : interrupted job = true) :
    (recoverV214 now db).checkWaiting job := by
  refine recoverJobs_check _ (.inl (List.mem_filter.mpr ⟨member, broken⟩)) fun entry listed => ?_
  obtain ⟨present, found⟩ := List.mem_filter.mp listed
  unfold interrupted at found
  simp only [Bool.and_eq_true, decide_eq_true_eq] at found
  exact ⟨entry, present, rfl, found.1⟩

private theorem checks_of_purpose {check later : Job} (same : later.purpose = check.purpose)
    (checks : check.checks job) : later.checks job := by
  simp only [Job.purpose, Prod.mk.injEq] at same
  obtain ⟨content, node, operation, generation, -⟩ := same
  exact ⟨operation.trans checks.1, content.trans checks.2.1, node.trans checks.2.2.1,
    generation.trans checks.2.2.2⟩

end Recovery

section Rowed

variable {db : Db} {seen : Seen} {graces : Int → Prop}

private theorem rowed_of_plan {cid : Cid} {nodeId : NodeId} {generation : Nat} {reason : String}
    (truthful : seen.Truthful db) (plans : seen.plans graces cid nodeId generation reason) :
    (db.replica cid nodeId).isSome = true := by
  obtain ⟨content, object, rows, listed, rfl, -, inside, -⟩ := plans
  obtain ⟨row, member, rfl⟩ := List.mem_map.mp inside
  have snapshot := truthful content object rows listed
  rw [snapshot.named]
  exact snapshot.rows row member

theorem rowed_runOp {β : Type} (op : Op β) (now : Int) (rowed : UnpinsRowed db)
    (truthful : seen.Truthful db) (allowed : (plannerProtocol graces).allowed seen op) :
    UnpinsRowed (runOp op now db).1 := by
  intro later member removes
  have stays := fun cid nodeId => (row_runOp op now db cid nodeId).stays
  rcases (jobs_runOp op now db).origin later member with ⟨job, present, -, moved⟩ | ⟨-, created⟩
  · have same : later.purpose = job.purpose := by
      rcases moved with rfl | moves
      · rfl
      · exact moves_purpose moves
    simp only [Job.purpose, Prod.mk.injEq] at same
    obtain ⟨content, node, operation, -, -⟩ := same
    rw [operation] at removes
    rw [content, node]
    exact stays _ _ (rowed job present removes)
  · cases op with
    | createPinAssignment =>
        obtain ⟨object, -, made⟩ := created
        rw [made] at removes
        rcases removes with pin | pin
        · cases pin
        · cases pin
    | createVerifyJob =>
        rw [created.2] at removes
        rcases removes with verify | verify
        · cases verify
        · cases verify
    | createUnpinJob cid nodeId generation reason notBefore =>
        obtain ⟨object, -, -, made⟩ := created
        rw [made]
        exact stays cid nodeId (rowed_of_plan truthful allowed)
    | recoverV214 =>
        obtain ⟨source, listed, broken, made⟩ := created
        unfold interrupted at broken
        simp only [Bool.and_eq_true, decide_eq_true_eq] at broken
        rw [made]
        exact stays source.cid source.nodeId (rowed source listed (.inl broken.1))
    | _ => exact created.elim

theorem rowed_sound : (plannerProtocol graces).Sound runOp (fun _ _ _ => true) UnpinsRowed
    (fun db seen => seen.Truthful db) where
  keeps op now _ _ _ rowed truthful allowed := rowed_runOp op now rowed truthful allowed
  learns op now _ _ _ _ truthful _ := truthful_learn op now truthful
  stable op now _ _ _ _ _ _ _ truthful := truthful_runOp op now truthful

theorem rowed_run {before after : EventPool}
    (start : before.Informed (plannerProtocol fun _ => True) UnpinsRowed
      fun db seen => seen.Truthful db)
    (run : eventMachine.Run (fun _ _ => True) before after) :
    after.Informed (plannerProtocol fun _ => True) UnpinsRowed fun db seen => seen.Truthful db := by
  refine rowed_sound.run_informed (fun event _ => ?_) start (eventMachine_free run)
  refine ⟨⟨[], []⟩, fun db _ => seen_nothing db, event_obeys event ?_⟩
  cases event <;> trivial

private theorem rowed_fresh : freshEvents.Informed (plannerProtocol fun _ => True) UnpinsRowed
    fun db seen => seen.Truthful db := by
  refine ⟨fun job member => ?_, fun thread member => ?_⟩
  · cases member
  · cases member

end Rowed

section Report

variable {moment : Int} {db : Db} {jobId : JobId} {job check : Job} {object : Object}
  {report : Report}

theorem state_updateJob {change : Job → Job} {keeps : ∀ job, (change job).jobId = job.jobId}
    (found : db.jobs.find? jobId = some check) :
    ((db.updateJob jobId change keeps).jobs.find? jobId).map Job.state =
      some (change check).state := by
  unfold Db.updateJob Db.updateJobs
  rw [Serial.find?_update, found]
  have named : check.jobId = jobId := Table.find?_key found
  simp [named]

variable (moment) in
/-- What the transaction of a check's report does, in a store whose generation has not moved. -/
theorem applyUnpinVerifyReport_current (found : findJob db report.jobId job.nodeId = some check)
    (checks : check.checks job) (known : db.object job.cid = some object)
    (current : object.generation = job.generation) (lease : report.leaseUntil = check.leaseUntil) :
    applyUnpinVerifyReport moment job.nodeId report db =
      if object.refcount = 0 then
        match report.state with
        | .unpinned => .ok ((markDone moment check.jobId db).updateReplica job.cid job.nodeId
            fun replica => { replica with state := .unpinned, desired := false, lastError := "" }, ())
        | .verified => .ok ((markDone moment check.jobId db).updateReplica job.cid job.nodeId
            fun replica => { replica with
              state := .pinned, desired := false, lastVerifiedAt := moment, lastError := "" }, ())
        | .failed => .ok (markRetry moment check.jobId (check.attempts + 1)
            (Py.clip 500 (Py.orElse report.error "unpin verification failed")) db, ())
        | .pinned => .error (.valueError "invalid UNPIN_VERIFY report state: pinned")
        | .other text => .error (.valueError s!"invalid UNPIN_VERIFY report state: {text}")
      else .ok (markStale moment check.jobId db, ()) := by
  obtain ⟨-, content, -, generation⟩ := checks
  unfold applyUnpinVerifyReport
  rw [found]
  simp only [content, known, Option.any_some, current, generation, lease, ne_eq, not_true,
    decide_true, Bool.and_true]
  by_cases released : object.refcount = 0
  · simp only [released, decide_true, Bool.not_true, if_true]
    cases report.state <;> rfl
  · simp [released]

/-- The report of a check is put on record exactly where the content has no reference. -/
theorem recorded_iff (found : db.jobs.find? jobId = some check) (checks : check.checks job)
    (rowed : (db.replica job.cid job.nodeId).isSome = true)
    (known : db.object job.cid = some object) (current : object.generation = job.generation)
    (named : report.jobId = jobId) (lease : report.leaseUntil = check.leaseUntil)
    (answered : report.state = .verified ∨ report.state = .unpinned) :
    Recorded ((ReplicationDBV214Recovery.applyJobReport job.nodeId report).runAt moment db).1 jobId job
      report.state ↔ object.refcount = 0 := by
  have same : check.jobId = jobId := Table.find?_key found
  have owned : findJob db report.jobId job.nodeId = some check := by
    unfold findJob
    rw [named, found]
    simp [checks.2.2.1]
  have operation : (findJob db report.jobId job.nodeId).map Job.operation = some .unpinVerify := by
    rw [owned, Option.map_some, checks.1]
  rw [applyJobReport_runAt, if_pos operation]
  have outcome := applyUnpinVerifyReport_current moment owned checks known current lease
  obtain ⟨row, present⟩ := Option.isSome_iff_exists.mp rowed
  have marked : (markDone moment jobId db).replica job.cid job.nodeId = some row := present
  by_cases released : object.refcount = 0
  · rw [if_pos released] at outcome
    refine iff_of_true ?_ released
    rcases answered with verified | unpinned
    · rw [verified] at outcome ⊢
      rw [commit_ok outcome, same]
      have settled := replica_updateReplica (markDone moment jobId db) job.cid job.nodeId
        (fun replica => { replica with
          state := .pinned, desired := false, lastVerifiedAt := moment, lastError := "" })
        (fun _ => rfl) job.cid job.nodeId
      rw [if_pos ⟨rfl, rfl⟩, marked, Option.map_some] at settled
      exact ⟨state_updateJob found, _, settled, fun other => (by cases other), fun _ => rfl⟩
    · rw [unpinned] at outcome ⊢
      rw [commit_ok outcome, same]
      have settled := replica_updateReplica (markDone moment jobId db) job.cid job.nodeId
        (fun replica => { replica with state := .unpinned, desired := false, lastError := "" })
        (fun _ => rfl) job.cid job.nodeId
      rw [if_pos ⟨rfl, rfl⟩, marked, Option.map_some] at settled
      exact ⟨state_updateJob found, _, settled, fun _ => ⟨rfl, rfl⟩, fun other => (by cases other)⟩
  · rw [if_neg released] at outcome
    refine iff_of_false ?_ released
    rw [commit_ok outcome, same]
    rintro ⟨done, -⟩
    unfold markStale at done
    rw [state_updateJob found] at done
    cases done

end Report

/-- Every interrupted UNPIN gets a check that waits for its agent; and however the run goes on, the
check's report puts the outcome on record exactly where the content has no reference by then. -/
theorem recovery_resolves_iff {pool : EventPool}
    (run : eventMachine.Run (fun _ _ => True) freshEvents pool) {job : Job}
    (member : job ∈ pool.shared.jobs.rows) (broken : interrupted job = true) (now : Int) :
    ∃ jobId check, (recoverV214 now pool.shared).jobs.find? jobId = some check ∧
      check.checks job ∧ check.waiting = true ∧
      ∀ later, eventMachine.Run (fun _ _ => True)
          { pool with shared := recoverV214 now pool.shared } later →
        ∃ check, later.shared.jobs.find? jobId = some check ∧ check.checks job ∧
          ∀ object, later.shared.object job.cid = some object →
            object.generation = job.generation → ∀ (moment : Int) (report : Report),
              report.jobId = jobId → report.leaseUntil = check.leaseUntil →
              (report.state = .verified ∨ report.state = .unpinned) →
                (Recorded ((ReplicationDBV214Recovery.applyJobReport job.nodeId report).runAt moment
                  later.shared).1 jobId job report.state ↔ object.refcount = 0) := by
  obtain ⟨first, listed, checks, waiting⟩ := recoverV214_leaves_check now member broken
  have found : (recoverV214 now pool.shared).jobs.find? first.jobId = some first :=
    Table.find?_some_iff.mpr ⟨listed, rfl⟩
  refine ⟨first.jobId, first, found, checks, waiting, fun later onward => ?_⟩
  have reached := rowed_run rowed_fresh run
  have recovered := rowed_sound.access_informed .recoverV214 now reached rfl
    (seen_nothing pool.shared) trivial
  have informed := rowed_run recovered onward
  have kept : ∃ check, later.shared.jobs.find? first.jobId = some check ∧ check.checks job := by
    refine Pool.run_invariant
      (fun db => ∃ check, db.jobs.find? first.jobId = some check ∧ check.checks job) ?_
      ⟨first, found, checks⟩ (eventMachine_free onward)
    rintro β op env db - ⟨check, present, fits⟩
    obtain ⟨next, held, same⟩ := purpose_runOp op env present
    exact ⟨next, held, checks_of_purpose same fits⟩
  obtain ⟨check, present, fits⟩ := kept
  refine ⟨check, present, fits, fun object known current moment report named lease answered => ?_⟩
  have rowed := informed.holds check (Table.find?_mem present) (.inr fits.1)
  rw [fits.2.1, fits.2.2.1] at rowed
  exact recorded_iff present fits rowed known current named lease answered

/-- A content of one copy, released for good, whose removal is authorized. -/
def releasedPool : EventPool :=
  (eventMachine.play (fun _ _ => True) freshEvents (serve 0
    [(1, 1000, .upsertNode { nodeId := "alpha", capacityClass := .committable }),
      (3, 1000, .register
        { cid := "bafy", sizeBytes := 10, n := 1, m := 0, sourceNode := some "alpha"
          referenceId := none }),
      (1, 1100, .release "bafy" none "req"), (3, 2010, .reconcile fullController "bafy"),
      (1, 2020, .pendingJobs "alpha" 32 none), (1, 2021, .authorizeUnpin "alpha" 0 2140)])).get
    (by decide)

def releasedJob : Job :=
  { jobId := 0, cid := "bafy", nodeId := "alpha", operation := .unpin, generation := 2
    state := .authorized, nextAttemptAt := 2010, leaseUntil := 2140, createdAt := 2010
    updatedAt := 2021, reason := finalReason, authorizedAt := 2021 }

/-- The recovery of the removal, and the delivery of its check. -/
def recoveredPool : EventPool :=
  (eventMachine.play (fun _ _ => True)
    { releasedPool with shared := recoverV214 2030 releasedPool.shared }
    (serve releasedPool.threads.length [(1, 2035, .pendingJobs "alpha" 32 none)])).get
      (by decide)

/-- The check reports that the copy is gone. -/
theorem release_recovered :
    Recorded ((ReplicationDBV214Recovery.applyJobReport "alpha"
      { jobId := 1, state := .unpinned, leaseUntil := 2155 }).runAt 2040 recoveredPool.shared).1 1
        releasedJob .unpinned := by
  have reached : eventMachine.Run (fun _ _ => True) freshEvents releasedPool :=
    Machine.Run.of_play (Option.some_get _).symm
  have only : ∀ row ∈ (recoverV214 2030 releasedPool.shared).jobs.rows,
      row.operation = .unpinVerify → row.jobId = 1 := by decide
  obtain ⟨jobId, first, found, checks, -, resolves⟩ :=
    recovery_resolves_iff reached (show releasedJob ∈ releasedPool.shared.jobs.rows by
      decide) (by decide) 2030
  have named : jobId = 1 :=
    (Table.find?_key found).symm.trans (only first (Table.find?_mem found) checks.1)
  subst named
  obtain ⟨check, present, -, exact⟩ :=
    resolves recoveredPool (Machine.Run.of_play (Option.some_get _).symm)
  have leased : ∀ row ∈ recoveredPool.shared.jobs.rows, row.jobId = 1 → row.leaseUntil = 2155 := by
    decide
  have lease : check.leaseUntil = 2155 :=
    leased check (Table.find?_mem present) (Table.find?_key present)
  have known : (recoveredPool.shared.object "bafy").any (fun object =>
      object.generation = 2 && object.refcount = 0) = true := by decide
  obtain ⟨object, listed, kept⟩ := Option.any_eq_true _ _ |>.mp known
  simp only [Bool.and_eq_true, decide_eq_true_eq] at kept
  exact (exact object listed kept.1 2040
    { jobId := 1, state := .unpinned, leaseUntil := 2155 } rfl lease.symm (.inr rfl)).mpr kept.2

/-- A content with a spare copy, whose trim is authorized. -/
def trimmingPool : EventPool :=
  (eventMachine.play (fun _ _ => True) freshEvents (serve 0
    [(1, 1000, .upsertNode { nodeId := "alpha", capacityClass := .committable }),
      (1, 1000, .upsertNode { nodeId := "beta", capacityClass := .committable }),
      (3, 1000, .register
        { cid := "bafy", sizeBytes := 10, n := 1, m := 0, sourceNode := some "alpha"
          referenceId := none }),
      (3, 1001, .register
        { cid := "bafy", sizeBytes := 10, n := 1, m := 0, sourceNode := some "beta"
          referenceId := none }),
      (1, 1950, .heartbeat "alpha" 20000000000 0), (1, 1950, .heartbeat "beta" 20000000000 0),
      (13, 2010, .reconcile fullController "bafy"), (1, 2020, .pendingJobs "alpha" 32 none),
      (1, 2021, .authorizeUnpin "alpha" 0 2140)])).get (by decide)

def trimmingJob : Job :=
  { jobId := 0, cid := "bafy", nodeId := "alpha", operation := .unpin, generation := 1
    state := .authorized, nextAttemptAt := 2010, leaseUntil := 2140, createdAt := 2010
    updatedAt := 2021, reason := trimReason, authorizedAt := 2021 }

def recheckedPool : EventPool :=
  (eventMachine.play (fun _ _ => True)
    { trimmingPool with shared := recoverV214 2030 trimmingPool.shared }
    (serve trimmingPool.threads.length [(1, 2035, .pendingJobs "alpha" 32 none)])).get
      (by decide)

theorem recovery_leaves_phantom : ¬∀ (pool : EventPool) (job : Job) (now : Int) (later : EventPool),
    eventMachine.Run (fun _ _ => True) freshEvents pool → job ∈ pool.shared.jobs.rows →
    interrupted job = true →
    eventMachine.Run (fun _ _ => True) { pool with shared := recoverV214 now pool.shared } later →
    ∀ check ∈ later.shared.jobs.rows, check.checks job →
      ∀ object, later.shared.object job.cid = some object → object.generation = job.generation →
        ∀ (moment : Int) (report : Report), report.jobId = check.jobId →
          report.leaseUntil = check.leaseUntil →
          (report.state = .verified ∨ report.state = .unpinned) →
            Recorded ((ReplicationDBV214Recovery.applyJobReport job.nodeId report).runAt moment
              later.shared).1 check.jobId job report.state := by
  intro always
  let check : Job :=
    { jobId := 1, cid := "bafy", nodeId := "alpha", operation := .unpinVerify, generation := 1
      leaseUntil := 2155, createdAt := 2030, updatedAt := 2035, reason := recoverReason }
  let object : Object :=
    { cid := "bafy", sizeBytes := 10, createdAt := 1000, replicationN := 1, committableM := 0
      state := .healthy, refcount := 2 }
  let report : Report := { jobId := 1, state := .unpinned, leaseUntil := 2155 }
  have recorded := always trimmingPool trimmingJob 2030 recheckedPool
    (Machine.Run.of_play (Option.some_get _).symm) (by decide) (by decide)
    (Machine.Run.of_play (Option.some_get _).symm) check (by decide)
    ⟨rfl, rfl, rfl, rfl⟩ object (by decide) rfl 2040 report rfl rfl (.inr rfl)
  exact absurd recorded.1 (by decide)

end HashBurst.Replication
