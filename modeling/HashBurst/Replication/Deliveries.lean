import HashBurst.Lib.Knowledge
import HashBurst.Replication.Calls
import HashBurst.Replication.Effects
import HashBurst.Replication.Moves
import HashBurst.Replication.Planner
import HashBurst.Replication.Stranded

/-! The lease of a delivered job as a token: it is handed out once, and at most one report that
echoes it has an outcome. -/

namespace HashBurst.Replication

open Lib ReplicationDB ReplicationDBV214 ReplicationDBV214Recovery

/-- What has happened so far, the latest first: the tokens handed out and the tokens whose report
had an outcome. -/
structure Deliveries where
  clock : Int
  handed : List (JobId × Int)
  applied : List (JobId × Int)
  deriving DecidableEq

def Op.report? {β : Type} (op : Op β) : Option Report :=
  match op with
  | .jobReport _ report => some report
  | .unpinReport _ report => some report
  | .unpinVerifyReport _ report => some report
  | _ => none

def Op.deliveries {β : Type} (op : Op β) (now : Int) (db : Db) : List (JobId × Int) :=
  match op with
  | .pendingJobs nodeId limit allowed ties =>
      (ReplicationDBV214.pendingJobs now nodeId limit allowed ties db).2.map fun delivery =>
        (delivery.job.jobId, delivery.job.leaseUntil)
  | _ => []

/-- The row of the job changes, and not into a stale one. -/
def settles (before after : Db) (jobId : JobId) : Bool :=
  match before.jobs.find? jobId, after.jobs.find? jobId with
  | some job, some later => later ≠ job && later.state ≠ .stale
  | _, _ => false

def Op.outcomes {β : Type} (op : Op β) (now : Int) (db : Db) : List (JobId × Int) :=
  match op.report? with
  | some report =>
      if settles db (runOp op now db).1 report.jobId then [(report.jobId, report.leaseUntil)] else []
  | none => []

def noteDelivery {β : Type} (op : Op β) (now : Int) (db : Db) (ledger : Deliveries) :
    Deliveries where
  clock := now
  handed := op.deliveries now db ++ ledger.handed
  applied := op.outcomes now db ++ ledger.applied

abbrev DeliveryPool := Pool (Db × Deliveries) Op PyError Unit Event

def deliveryMachine : Machine DeliveryPool (Pool.Label Event Int) :=
  Pool.machine (Pool.noting runOp noteDelivery) Event.program

def freshDeliveries : DeliveryPool where
  shared := (Db.empty, ⟨0, [], []⟩)
  threads := []

def Op.stamped {β : Type} (op : Op β) : Bool :=
  op.report?.all fun report => report.leaseUntil ≠ 0

/-- The clock does not go back, and reports carry leases. -/
def Stamped (pool : DeliveryPool) (label : Pool.Label Event Int) : Prop :=
  pool.guard (fun state now op => state.2.clock ≤ now && op.stamped) (fun _ => true) label = true

instance (pool : DeliveryPool) (label : Pool.Label Event Int) : Decidable (Stamped pool label) :=
  inferInstanceAs (Decidable (_ = true))

def Op.lapsed {β : Type} (op : Op β) (db : Db) (job : Job) : Prop :=
  ∃ object, db.object job.cid = some object ∧
    match op with
    | .jobReport .. => object.generation ≠ job.generation
    | .unpinReport .. => object.generation ≠ job.generation ∨
        (job.reason ≠ trimReason ∧ object.refcount ≠ 0)
    | .unpinVerifyReport .. => object.generation ≠ job.generation ∨ object.refcount ≠ 0
    | _ => False

/-- What the access of a report may do: an outcome is one transition to done or one more attempt;
with another lease than the job's it only marks a lapsed job stale; and for a job of an older
generation no replica changes. -/
structure Confined {β : Type} (op : Op β) (report : Report) (now : Int) (db : Db) : Prop where
  unknown : db.jobs.find? report.jobId = none → (runOp op now db).1 = db
  others : ∀ jobId, jobId ≠ report.jobId →
    (runOp op now db).1.jobs.find? jobId = db.jobs.find? jobId
  outcome : ∀ job later, db.jobs.find? report.jobId = some job →
    (runOp op now db).1.jobs.find? report.jobId = some later →
      later = job ∨ later = job.staled now ∨
        (job.leaseUntil = report.leaseUntil ∧
          ((later.state = .done ∧ later.attempts = job.attempts) ∨
            (later.state = .retry ∧ later.attempts = job.attempts + 1)))
  foreign : ∀ job, db.jobs.find? report.jobId = some job → job.leaseUntil ≠ report.leaseUntil →
    (runOp op now db).1.replicas = db.replicas ∧
      ((runOp op now db).1.jobs = db.jobs ∨ (op.lapsed db job ∧
        (runOp op now db).1.jobs.find? report.jobId = some (job.staled now)))
  superseded : ∀ job object, db.jobs.find? report.jobId = some job →
    db.object job.cid = some object → object.generation ≠ job.generation →
      (runOp op now db).1.replicas = db.replicas

/-- The token can be handed out no more, and is not the job's lease. -/
def Outdated (job : Job) (token : Int) : Prop :=
  (job.leaseUntil = 0 ∧ (token < job.nextAttemptAt + 120 ∨ job.waiting = false)) ∨
    (job.leaseUntil ≠ 0 ∧ token < job.leaseUntil)

def Issued (job : Job) (token : Int) : Prop :=
  Outdated job token ∨ (job.leaseUntil ≠ 0 ∧ token = job.leaseUntil)

structure Accounted (db : Db) (ledger : Deliveries) : Prop where
  epoch : 0 ≤ ledger.clock
  owned : ∀ job ∈ db.jobs.rows, (db.object job.cid).isSome = true
  leases : ∀ job ∈ db.jobs.rows, job.leaseUntil ≤ ledger.clock + 120
  handedKnown : ∀ entry ∈ ledger.handed, entry.1 < db.jobs.next ∧ entry.2 ≤ ledger.clock + 120
  appliedKnown : ∀ entry ∈ ledger.applied, entry.1 < db.jobs.next ∧ entry.2 ≤ ledger.clock + 120
  issued : ∀ job ∈ db.jobs.rows, ∀ token, (job.jobId, token) ∈ ledger.handed → Issued job token
  outdated : ∀ job ∈ db.jobs.rows, ∀ token, (job.jobId, token) ∈ ledger.applied → Outdated job token
  increasing : ledger.handed.Pairwise fun newer older => newer.1 = older.1 → older.2 < newer.2
  once : ledger.applied.Nodup

/-- Whether the job of a report is still lawful when the report comes. -/
def Op.stands {β : Type} (op : Op β) (db : Db) (job : Job) : Bool :=
  match op with
  | .jobReport .. => db.current job
  | .unpinReport .. => db.unpinStands job
  | .unpinVerifyReport .. => db.checkStands job
  | _ => true

section Reports

variable {β : Type} {op : Op β} {report : Report} {now : Int} {db after : Db} {nodeId : NodeId}
  {stands fits wider : Job → Bool} {job later : Job}

theorem ReportApplied.mono (widen : ∀ job, fits job = true → wider job = true)
    (applied : ReportApplied stands fits now nodeId report db after) :
    ReportApplied stands wider now nodeId report db after := by
  obtain ⟨job, found, stale | idle | ⟨stood, fitted, outcome⟩⟩ := applied
  · exact ⟨job, found, .inl stale⟩
  · exact ⟨job, found, .inr (.inl idle)⟩
  · exact ⟨job, found, .inr (.inr ⟨stood, widen job fitted, outcome⟩)⟩

theorem reportApplied_commit {tx : Tx Unit} (each : ∀ after, tx db = .ok (after, ()) →
      ReportApplied stands fits now nodeId report db after) :
    (tx.commit db).1 = db ∨ ReportApplied stands fits now nodeId report db (tx.commit db).1 :=
  commit_invariant (fun state => state = db ∨ ReportApplied stands fits now nodeId report db state)
    (.inl rfl) fun after _ done => .inr (each after done)

variable (now db) in
theorem report_cases (sent : op.report? = some report) (leased : report.leaseUntil ≠ 0) :
    (runOp op now db).1 = db ∨ ∃ nodeId, ReportApplied (op.stands db)
      (fun job => job.leaseUntil = report.leaseUntil) now nodeId report db (runOp op now db).1 := by
  cases op with
  | jobReport nodeId own =>
      cases sent
      refine (reportApplied_commit fun after done => ?_).imp id fun applied => ⟨nodeId, applied⟩
      refine (applyJobReport_applied done).mono fun job fitted => ?_
      simp only [reportIsCurrent, leased, ne_eq, not_false_eq_true, if_true, Bool.and_eq_true,
        decide_eq_true_eq] at fitted
      exact decide_eq_true fitted.1.1.2.symm
  | unpinReport nodeId own =>
      cases sent
      refine (reportApplied_commit fun after done => ?_).imp id fun applied => ⟨nodeId, applied⟩
      exact (applyUnpinReport_applied done).mono fun job fitted => (Bool.and_eq_true_iff.mp fitted).1
  | unpinVerifyReport nodeId own =>
      cases sent
      exact (reportApplied_commit fun after done => applyUnpinVerifyReport_applied done).imp id
        fun applied => ⟨nodeId, applied⟩
  | _ => cases sent

theorem outcome_attempts (outcome : Report.outcome now report job later) :
    (later.state = .done ∧ later.attempts = job.attempts) ∨
      (later.state = .retry ∧ later.attempts = job.attempts + 1) := by
  unfold Report.outcome at outcome
  split at outcome
  · rcases outcome with ⟨error, rfl | rfl⟩
    · exact .inr ⟨rfl, rfl⟩
    · exact .inr ⟨rfl, rfl⟩
  · exact outcome.elim
  · rw [outcome]
    exact .inl ⟨rfl, rfl⟩

theorem stands_of_current (sent : op.report? = some report) {object : Object}
    (found : db.object job.cid = some object) (stood : op.stands db job = true) :
    object.generation = job.generation := by
  cases op with
  | jobReport =>
      simpa [Op.stands, Db.current, found] using stood
  | unpinReport =>
      simp only [Op.stands, Db.unpinStands, found, Option.any_some, Bool.and_eq_true,
        decide_eq_true_eq] at stood
      exact stood.1
  | unpinVerifyReport =>
      simp only [Op.stands, Db.checkStands, found, Option.any_some, Bool.and_eq_true,
        decide_eq_true_eq] at stood
      exact stood.2
  | _ => cases sent

theorem lapsed_of_fallen (sent : op.report? = some report)
    (owned : (db.object job.cid).isSome = true) (fallen : op.stands db job = false) :
    op.lapsed db job := by
  obtain ⟨object, found⟩ := Option.isSome_iff_exists.mp owned
  refine ⟨object, found, ?_⟩
  cases op with
  | jobReport =>
      simpa [Op.stands, Db.current, found] using fallen
  | unpinReport =>
      simp only [Op.stands, Db.unpinStands, found, Option.any_some, isTrimReason] at fallen
      by_cases same : object.generation = job.generation
      · simp only [same, decide_true, Bool.true_and, Bool.or_eq_false_iff,
          decide_eq_false_iff_not] at fallen
        exact .inr fallen
      · exact .inl same
  | unpinVerifyReport =>
      simp only [Op.stands, Db.checkStands, found, Option.any_some] at fallen
      by_cases same : object.generation = job.generation
      · simp only [same, decide_true, Bool.and_true, decide_eq_false_iff_not] at fallen
        exact .inr fallen
      · exact .inl same
  | _ => cases sent

theorem find?_updateJobs (which : Job → Bool) (change : Job → Job)
    (keeps : ∀ job, (change job).jobId = job.jobId) (wanted : JobId) :
    (db.updateJobs which change keeps).jobs.find? wanted =
      (db.jobs.find? wanted).map fun job => if which job then change job else job :=
  Serial.find?_update db.jobs which change keeps wanted

theorem find?_updateJob {jobId : JobId} (change : Job → Job)
    (keeps : ∀ job, (change job).jobId = job.jobId) (wanted : JobId) :
    (db.updateJob jobId change keeps).jobs.find? wanted =
      if wanted = jobId then (db.jobs.find? wanted).map change else db.jobs.find? wanted := by
  unfold Db.updateJob
  rw [find?_updateJobs]
  cases found : db.jobs.find? wanted with
  | none => simp
  | some job =>
      have named : job.jobId = wanted := Table.find?_key found
      by_cases same : wanted = jobId <;> simp [named, same]

theorem confined_refl (kept : (runOp op now db).1 = db) : Confined op report now db where
  unknown _ := kept
  others jobId _ := by rw [kept]
  outcome job later found next := by
    rw [kept, found] at next
    exact .inl (Option.some.inj next).symm
  foreign job _ _ := by
    rw [kept]
    exact ⟨rfl, .inl rfl⟩
  superseded job object _ _ _ := by rw [kept]

theorem report_confined (sent : op.report? = some report) (leased : report.leaseUntil ≠ 0)
    (owned : ∀ job ∈ db.jobs.rows, (db.object job.cid).isSome = true) :
    Confined op report now db := by
  rcases report_cases now db sent leased with kept | ⟨nodeId, job, found, applied⟩
  · exact confined_refl kept
  · obtain ⟨member, named, -⟩ := findJob_cases found
    have held : db.jobs.find? report.jobId = some job :=
      Table.find?_some_iff.mpr ⟨member, named⟩
    have unknown : db.jobs.find? report.jobId = none → (runOp op now db).1 = db := by
      intro absent
      rw [held] at absent
      cases absent
    rcases applied with ⟨fallen, stale⟩ | ⟨-, kept⟩ | ⟨stood, fitted, change, keeps, jobs, outcome⟩
    · have lookup : ∀ wanted, (runOp op now db).1.jobs.find? wanted =
          if wanted = job.jobId then (db.jobs.find? wanted).map (Job.staled now)
          else db.jobs.find? wanted := by
        rw [stale]
        exact find?_updateJob (Job.staled now) fun _ => rfl
      have next : (runOp op now db).1.jobs.find? report.jobId = some (job.staled now) := by
        rw [lookup, if_pos named.symm, held, Option.map_some]
      refine ⟨unknown, fun jobId other => ?_, fun owner later known after => ?_,
        fun owner known _ => ?_, fun _ _ _ _ _ => by rw [stale]; rfl⟩
      · rw [lookup, if_neg fun same => other (same.trans named)]
      · rw [held] at known
        rw [next] at after
        cases known
        exact .inr (.inl (Option.some.inj after).symm)
      · rw [held] at known
        cases known
        refine ⟨by rw [stale]; rfl, .inr ⟨?_, next⟩⟩
        exact lapsed_of_fallen sent (owned _ member) fallen
    · exact confined_refl kept
    · have lookup : ∀ wanted, (runOp op now db).1.jobs.find? wanted =
          if wanted = job.jobId then (db.jobs.find? wanted).map change
          else db.jobs.find? wanted := by
        rw [jobs]
        exact find?_updateJob change keeps
      have lease : job.leaseUntil = report.leaseUntil := of_decide_eq_true fitted
      refine ⟨unknown, fun jobId other => ?_, fun owner later known after => ?_,
        fun owner known other => ?_, fun owner object known current other => ?_⟩
      · rw [lookup, if_neg fun same => other (same.trans named)]
      · rw [lookup, if_pos named.symm, known, Option.map_some] at after
        rw [held] at known
        cases known
        cases after
        exact .inr (.inr ⟨lease, outcome_attempts outcome⟩)
      · rw [held] at known
        cases known
        exact absurd lease other
      · rw [held] at known
        cases known
        exact absurd (stands_of_current sent current stood) other

end Reports

section Tokens

variable {now token : Int} {job later : Job} {report : Report}

private theorem retryDelay_pos (attempts : Nat) : 0 < retryDelay attempts := by
  have listed : ∀ index ≤ 5, 0 < retryDelays.getD index 0 := by decide
  exact listed _ (Nat.min_le_right _ _)

/-- A job that is due is handed out under a later token than ever. -/
theorem issued_due {nodeId : NodeId} (due : due now nodeId job = true) (issued : Issued job token) :
    token < now + 120 := by
  unfold ReplicationDB.due at due
  simp only [Bool.and_eq_true, decide_eq_true_eq, Bool.or_eq_true] at due
  obtain ⟨⟨⟨-, waiting⟩, attempt⟩, lease⟩ := due
  rcases issued with (⟨-, before | idle⟩ | ⟨held, below⟩) | ⟨held, same⟩
  · omega
  · rw [waiting] at idle
    cases idle
  · omega
  · omega

theorem outdated_leased {nodeId : NodeId} (epoch : 0 ≤ now) (due : due now nodeId job = true)
    (issued : Issued job token) : Outdated (job.leased now) token := by
  have below := issued_due due issued
  have held : (job.leased now).leaseUntil = now + 120 := rfl
  refine .inr ⟨?_, ?_⟩
  · omega
  · omega

/-- A change that keeps the lease and ends the waiting keeps a token where it is. -/
theorem outdated_ended (lease : later.leaseUntil = job.leaseUntil)
    (ended : later.waiting = false) (outdated : Outdated job token) : Outdated later token := by
  rcases outdated with ⟨cleared, -⟩ | ⟨held, below⟩
  · exact .inl ⟨lease.trans cleared, .inr ended⟩
  · rw [← lease] at held below
    exact .inr ⟨held, below⟩

private theorem issued_ended (lease : later.leaseUntil = job.leaseUntil)
    (ended : later.waiting = false) (issued : Issued job token) : Issued later token := by
  rcases issued with outdated | ⟨held, same⟩
  · exact .inl (outdated_ended lease ended outdated)
  · rw [← lease] at held same
    exact .inr ⟨held, same⟩

theorem outdated_outcome (early : token ≤ now + 120)
    (outcome : Report.outcome now report job later) : Outdated later token := by
  unfold Report.outcome at outcome
  split at outcome
  · have delay := retryDelay_pos (job.attempts + 1)
    obtain ⟨error, rfl | rfl⟩ := outcome
    · have next : (job.retried now error).nextAttemptAt = now + retryDelay (job.attempts + 1) := rfl
      refine .inl ⟨rfl, .inl ?_⟩
      omega
    · have next : (job.disavowed now error).nextAttemptAt = now + retryDelay (job.attempts + 1) :=
        rfl
      refine .inl ⟨rfl, .inl ?_⟩
      omega
  · exact outcome.elim
  · rw [outcome]
    exact .inl ⟨rfl, .inr rfl⟩

theorem token_moves {β : Type} {op : Op β} {db : Db} (epoch : 0 ≤ now) (early : token ≤ now + 120)
    (moves : op.moves now db job later) :
    (Issued job token → Issued later token) ∧ (Outdated job token → Outdated later token) := by
  have ended : ∀ {next : Job}, next.leaseUntil = job.leaseUntil → next.waiting = false →
      (Issued job token → Issued next token) ∧ (Outdated job token → Outdated next token) :=
    fun lease ended => ⟨issued_ended lease ended, outdated_ended lease ended⟩
  have applied : ∀ {sent : Report}, Report.outcome now sent job later →
      (Issued job token → Issued later token) ∧ (Outdated job token → Outdated later token) :=
    fun outcome => ⟨fun _ => .inl (outdated_outcome early outcome),
      fun _ => outdated_outcome early outcome⟩
  cases op with
  | pendingJobs =>
      obtain ⟨due, rfl⟩ := moves
      exact ⟨fun issued => .inl (outdated_leased epoch due issued),
        fun outdated => outdated_leased epoch due (.inl outdated)⟩
  | authorizeUnpin =>
      rcases moves.2.2.2 with rfl | ⟨-, -, -, rfl⟩
      · exact ended rfl rfl
      · exact ended rfl rfl
  | jobReport =>
      rcases moves.2.2 with ⟨-, rfl⟩ | ⟨-, -, outcome⟩
      · exact ended rfl rfl
      · exact applied outcome
  | unpinReport =>
      rcases moves.2.2 with ⟨-, rfl⟩ | ⟨-, -, -, outcome⟩
      · exact ended rfl rfl
      · exact applied outcome
  | unpinVerifyReport =>
      rcases moves.2.2 with ⟨-, rfl⟩ | ⟨-, -, outcome⟩
      · exact ended rfl rfl
      · exact applied outcome
  | registerBump =>
      rw [moves.2.2]
      exact ended rfl rfl
  | releaseObject =>
      rw [moves.2.2]
      exact ended rfl rfl
  | recoverV214 =>
      rw [moves.2]
      exact ended rfl rfl
  | _ => exact moves.elim

theorem outcome_lease (outcome : Report.outcome now report job later) : later.leaseUntil = 0 := by
  unfold Report.outcome at outcome
  split at outcome
  · rcases outcome with ⟨error, rfl | rfl⟩ <;> rfl
  · exact outcome.elim
  · rw [outcome]
    rfl

theorem lease_moves {β : Type} {op : Op β} {db : Db} (moves : op.moves now db job later) :
    later.leaseUntil = job.leaseUntil ∨ later.leaseUntil = 0 ∨ later.leaseUntil = now + 120 := by
  cases op with
  | pendingJobs =>
      rw [moves.2]
      exact .inr (.inr rfl)
  | authorizeUnpin =>
      rcases moves.2.2.2 with rfl | ⟨-, -, -, rfl⟩
      · exact .inl rfl
      · exact .inl rfl
  | jobReport =>
      rcases moves.2.2 with ⟨-, rfl⟩ | ⟨-, -, outcome⟩
      · exact .inl rfl
      · exact .inr (.inl (outcome_lease outcome))
  | unpinReport =>
      rcases moves.2.2 with ⟨-, rfl⟩ | ⟨-, -, -, outcome⟩
      · exact .inl rfl
      · exact .inr (.inl (outcome_lease outcome))
  | unpinVerifyReport =>
      rcases moves.2.2 with ⟨-, rfl⟩ | ⟨-, -, outcome⟩
      · exact .inl rfl
      · exact .inr (.inl (outcome_lease outcome))
  | registerBump =>
      rw [moves.2.2]
      exact .inl rfl
  | releaseObject =>
      rw [moves.2.2]
      exact .inl rfl
  | recoverV214 =>
      rw [moves.2]
      exact .inl rfl
  | _ => exact moves.elim

theorem created_fresh {β : Type} {op : Op β} {db : Db} (created : op.creates now db job)
    (owned : ∀ job ∈ db.jobs.rows, (db.object job.cid).isSome = true) :
    (db.object job.cid).isSome = true ∧ job.leaseUntil = 0 := by
  cases op with
  | createPinAssignment content target capacityClass =>
      obtain ⟨object, found, made⟩ := created
      rw [made]
      exact ⟨Option.isSome_iff_exists.mpr ⟨object, found⟩, rfl⟩
  | createVerifyJob content target generation =>
      rw [created.2]
      exact ⟨created.1, rfl⟩
  | createUnpinJob content target generation reason notBefore =>
      obtain ⟨object, found, -, made⟩ := created
      rw [made]
      exact ⟨Option.isSome_iff_exists.mpr ⟨object, found⟩, rfl⟩
  | recoverV214 =>
      obtain ⟨source, listed, -, made⟩ := created
      rw [made]
      exact ⟨owned source listed, rfl⟩
  | _ => exact created.elim

end Tokens

section Handing

variable {now : Int} {db : Db} {nodeId : NodeId} {limit : Nat} {allowed : Option (List Operation)}
  {ties : TieOrder}

def dueRows (now : Int) (nodeId : NodeId) (db : Db) : List Job :=
  db.jobs.rows.filter fun job => due now nodeId job && (db.object job.cid).isSome

/-- The rows that `pending_jobs` leases. -/
def leasedRows (now : Int) (nodeId : NodeId) (limit : Nat) (ties : TieOrder) (db : Db) : List Job :=
  ((ties.arrange (dueRows now nodeId db)).insertionSort
    fun first second => first.createdAt ≤ second.createdAt).take limit

theorem leasedRows_mem {job : Job} (member : job ∈ leasedRows now nodeId limit ties db) :
    job ∈ db.jobs.rows ∧ due now nodeId job = true := by
  have listed := (ties.perm _).mem_iff.mp
    ((List.mem_insertionSort _).mp (List.mem_of_mem_take member))
  obtain ⟨present, wanted⟩ := List.mem_filter.mp listed
  exact ⟨present, (Bool.and_eq_true_iff.mp wanted).1⟩

private theorem leasedRows_distinct :
    ((leasedRows now nodeId limit ties db).map Job.jobId).Nodup := by
  have kept : ((db.jobs.rows.filter fun job => due now nodeId job &&
      (db.object job.cid).isSome).map Job.jobId).Nodup :=
    (List.filter_sublist.map _).nodup db.jobs.distinct
  have sorted := (((List.perm_insertionSort (fun first second : Job =>
    first.createdAt ≤ second.createdAt) _).trans (ties.perm _)).map Job.jobId).nodup_iff.mpr kept
  exact ((List.take_sublist limit _).map _).nodup sorted

theorem pendingJobs_leases :
    (ReplicationDBV214.pendingJobs now nodeId limit allowed ties db).1.jobs =
        (db.updateJobs (fun job => (leasedRows now nodeId limit ties db).any fun row =>
          row.jobId = job.jobId) (Job.leased now)).jobs ∧
      ((ReplicationDBV214.pendingJobs now nodeId limit allowed ties db).2.map fun delivery =>
        (delivery.job.jobId, delivery.job.leaseUntil)).Sublist
        ((leasedRows now nodeId limit ties db).map fun job => (job.jobId, now + 120)) := by
  have all : ((ReplicationDB.pendingJobs now nodeId limit ties db).2.map fun delivery =>
      (delivery.job.jobId, delivery.job.leaseUntil)) =
        (leasedRows now nodeId limit ties db).map fun job => (job.jobId, now + 120) := by
    unfold ReplicationDB.pendingJobs
    dsimp only
    rw [List.map_map]
    rfl
  unfold ReplicationDBV214.pendingJobs
  cases allowed with
  | none => exact ⟨rfl, all ▸ List.Sublist.refl _⟩
  | some operations => exact ⟨rfl, all ▸ List.filter_sublist.map _⟩

theorem find?_leased {job : Job} (member : job ∈ leasedRows now nodeId limit ties db) :
    (ReplicationDBV214.pendingJobs now nodeId limit allowed ties db).1.jobs.find? job.jobId =
      some (job.leased now) := by
  have found : db.jobs.find? job.jobId = some job :=
    Table.find?_some_iff.mpr ⟨(leasedRows_mem member).1, rfl⟩
  have chosen : ((leasedRows now nodeId limit ties db).any fun row => row.jobId = job.jobId) = true :=
    List.any_eq_true.mpr ⟨job, member, decide_eq_true rfl⟩
  rw [pendingJobs_leases.1]
  refine (find?_updateJobs _ (Job.leased now) (fun _ => rfl) job.jobId).trans ?_
  rw [found, Option.map_some, if_pos chosen]

end Handing

section Account

variable {β : Type} {op : Op β} {now : Int} {db : Db} {ledger : Deliveries}

/-- A token that the access hands out is the lease of its job, later than any before. -/
theorem handed_cases {entry : JobId × Int} (handed : entry ∈ op.deliveries now db) :
    ∃ job nodeId, job ∈ db.jobs.rows ∧ due now nodeId job = true ∧
      entry = (job.jobId, now + 120) ∧
        (runOp op now db).1.jobs.find? job.jobId = some (job.leased now) := by
  cases op with
  | pendingJobs nodeId limit allowed ties =>
      obtain ⟨job, member, rfl⟩ := List.mem_map.mp (pendingJobs_leases.2.subset handed)
      obtain ⟨present, due⟩ := leasedRows_mem member
      exact ⟨job, nodeId, present, due, rfl, find?_leased member⟩
  | _ => cases handed

private theorem handed_distinct : (op.deliveries now db).Pairwise fun newer older =>
    newer.1 = older.1 → older.2 < newer.2 := by
  cases op with
  | pendingJobs nodeId limit allowed ties =>
      refine List.Pairwise.sublist pendingJobs_leases.2 (List.pairwise_map.mpr ?_)
      refine (List.pairwise_map.mp leasedRows_distinct).imp fun apart same => absurd same apart
  | _ => exact List.Pairwise.nil

/-- A token whose report has an outcome was the lease of its job. -/
theorem applied_cases (stamped : op.stamped = true)
    {entry : JobId × Int} (applied : entry ∈ op.outcomes now db) :
    ∃ job later report, db.jobs.find? entry.1 = some job ∧
      (runOp op now db).1.jobs.find? entry.1 = some later ∧
      job.leaseUntil ≠ 0 ∧ entry.2 = job.leaseUntil ∧ Report.outcome now report job later := by
  unfold Op.outcomes at applied
  cases sent : op.report? with
  | none =>
      rw [sent] at applied
      cases applied
  | some report =>
      rw [sent] at applied
      dsimp only at applied
      split at applied
      · rename_i settled
        rw [List.mem_singleton.mp applied]
        have leased : report.leaseUntil ≠ 0 := by
          simpa [Op.stamped, sent] using stamped
        unfold settles at settled
        split at settled
        · rename_i job later found next
          simp only [Bool.and_eq_true, decide_eq_true_eq] at settled
          obtain ⟨changed, lively⟩ := settled
          rcases report_cases now db sent leased with kept | ⟨nodeId, owner, known, effect⟩
          · rw [kept, found] at next
            exact absurd (Option.some.inj next).symm changed
          · obtain ⟨member, named, -⟩ := findJob_cases known
            have same : owner = job := by
              have held : db.jobs.find? report.jobId = some owner :=
                Table.find?_some_iff.mpr ⟨member, named⟩
              rw [found] at held
              exact (Option.some.inj held).symm
            subst same
            rcases effect with ⟨-, stale⟩ | ⟨-, kept⟩ | ⟨-, fitted, change, keeps, jobs, outcome⟩
            · rw [stale] at next
              unfold markStale at next
              rw [find?_updateJob, if_pos named.symm, found] at next
              cases next
              exact absurd rfl lively
            · rw [kept, found] at next
              exact absurd (Option.some.inj next).symm changed
            · have lease : owner.leaseUntil = report.leaseUntil := of_decide_eq_true fitted
              rw [jobs, find?_updateJob, if_pos named.symm, found] at next
              cases next
              refine ⟨owner, change owner, report, found, ?_, ?_, lease.symm, outcome⟩
              · rw [jobs, find?_updateJob, if_pos named.symm, found]
                rfl
              · rw [lease]
                exact leased
        · cases settled
      · cases applied

private theorem outcomes_short : (op.outcomes now db).length ≤ 1 := by
  unfold Op.outcomes
  split
  · split
    · exact Nat.le_refl _
    · exact Nat.zero_le _
  · exact Nat.zero_le _

/-- A job after the access, with a token of the time before. -/
theorem token_runOp (accounted : Accounted db ledger) (later_than : ledger.clock ≤ now)
    {later : Job} (member : later ∈ (runOp op now db).1.jobs.rows) {token : Int}
    (known : later.jobId < db.jobs.next) (early : token ≤ now + 120) :
    ∃ job ∈ db.jobs.rows, job.jobId = later.jobId ∧
      (Issued job token → Issued later token) ∧ (Outdated job token → Outdated later token) := by
  rcases (jobs_runOp op now db).origin later member with ⟨job, present, named, moved⟩ | ⟨fresh, -⟩
  · refine ⟨job, present, named.symm, ?_⟩
    rcases moved with rfl | moves
    · exact ⟨id, id⟩
    · exact token_moves (accounted.epoch.trans later_than) early moves
  · exact absurd fresh (Nat.not_le.mpr known)

theorem accounted_runOp (op : Op β) (accounted : Accounted db ledger)
    (later_than : ledger.clock ≤ now) (stamped : op.stamped = true) :
    Accounted (runOp op now db).1 (noteDelivery op now db ledger) := by
  have epoch : 0 ≤ now := accounted.epoch.trans later_than
  have evolves := jobs_runOp op now db
  have clock : (noteDelivery op now db ledger).clock = now := rfl
  have below : ∀ {jobId job}, db.jobs.find? jobId = some job → jobId < db.jobs.next := by
    intro jobId job found
    rw [← Table.find?_key found]
    exact db.jobs.fresh job (Table.find?_mem found)
  refine ⟨epoch, fun later member => ?_, fun later member => ?_, fun entry member => ?_,
    fun entry member => ?_, fun later member token handed => ?_,
    fun later member token applied => ?_, ?_, ?_⟩
  · rcases evolves.origin later member with ⟨job, present, -, moved⟩ | ⟨-, created⟩
    · have same : later.purpose = job.purpose := by
        rcases moved with rfl | moves
        · rfl
        · exact moves_purpose moves
      simp only [Job.purpose, Prod.mk.injEq] at same
      obtain ⟨object, found⟩ := Option.isSome_iff_exists.mp (accounted.owned job present)
      obtain ⟨next, held, -⟩ := object_runOp op now found
      rw [same.1, held]
      rfl
    · obtain ⟨object, found⟩ :=
        Option.isSome_iff_exists.mp (created_fresh created accounted.owned).1
      obtain ⟨next, held, -⟩ := object_runOp op now found
      rw [held]
      rfl
  · rw [clock]
    rcases evolves.origin later member with ⟨job, present, -, moved⟩ | ⟨-, created⟩
    · have bound := accounted.leases job present
      rcases moved with rfl | moves
      · omega
      · rcases lease_moves moves with same | zero | fresh <;> omega
    · have zero := (created_fresh created accounted.owned).2
      omega
  · rw [clock]
    rcases List.mem_append.mp member with new | old
    · obtain ⟨job, nodeId, present, -, rfl, -⟩ := handed_cases new
      exact ⟨(db.jobs.fresh job present).trans_le evolves.numbered, Int.le_refl _⟩
    · obtain ⟨known, early⟩ := accounted.handedKnown entry old
      exact ⟨known.trans_le evolves.numbered, by omega⟩
  · rw [clock]
    rcases List.mem_append.mp member with new | old
    · obtain ⟨job, later, report, found, -, -, lease, -⟩ := applied_cases stamped new
      have bound := accounted.leases job (Table.find?_mem found)
      exact ⟨(below found).trans_le evolves.numbered, by omega⟩
    · obtain ⟨known, early⟩ := accounted.appliedKnown entry old
      exact ⟨known.trans_le evolves.numbered, by omega⟩
  · rcases List.mem_append.mp handed with new | old
    · obtain ⟨job, nodeId, present, due, same, next⟩ := handed_cases new
      have named : later.jobId = job.jobId := congrArg Prod.fst same
      have stamp : token = now + 120 := congrArg Prod.snd same
      have equal : later = job.leased now :=
        Table.eq_of_key member (Table.find?_mem next) named
      have lease : later.leaseUntil = now + 120 := by rw [equal]; rfl
      exact .inr ⟨by omega, by omega⟩
    · obtain ⟨known, early⟩ := accounted.handedKnown _ old
      obtain ⟨job, present, named, keeps, -⟩ :=
        token_runOp accounted later_than member known (early.trans (by omega))
      exact keeps (accounted.issued job present token (named ▸ old))
  · rcases List.mem_append.mp applied with new | old
    · obtain ⟨job, next, report, found, moved, held, lease, outcome⟩ :=
        applied_cases stamped new
      have equal : later = next :=
        Table.eq_of_key member (Table.find?_mem moved) (Table.find?_key moved).symm
      have bound := accounted.leases job (Table.find?_mem found)
      rw [equal]
      refine outdated_outcome ?_ outcome
      change token = job.leaseUntil at lease
      omega
    · obtain ⟨known, early⟩ := accounted.appliedKnown _ old
      obtain ⟨job, present, named, -, keeps⟩ :=
        token_runOp accounted later_than member known (early.trans (by omega))
      exact keeps (accounted.outdated job present token (named ▸ old))
  · refine List.pairwise_append.mpr ⟨handed_distinct, accounted.increasing, ?_⟩
    intro newer new older old same
    obtain ⟨job, nodeId, present, due, rfl, -⟩ := handed_cases new
    have issued := accounted.issued job present older.2 (by
      have entry : (job.jobId, older.2) = older := Prod.ext same rfl
      rw [entry]
      exact old)
    exact issued_due due issued
  · refine List.nodup_append.mpr ⟨?_, accounted.once, ?_⟩
    · have short : (op.outcomes now db).length ≤ 1 := outcomes_short
      match op.outcomes now db, short with
      | [], _ => exact List.nodup_nil
      | [entry], _ => exact List.nodup_singleton entry
    · intro newer new older old same
      subst same
      obtain ⟨job, later, report, found, -, held, lease, -⟩ := applied_cases stamped new
      have outdated := accounted.outdated job (Table.find?_mem found) newer.2 (by
        rw [Table.find?_key found]
        exact old)
      rcases outdated with ⟨cleared, -⟩ | ⟨-, below⟩
      · exact held cleared
      · omega

theorem accounted_fresh : Accounted Db.empty ⟨0, [], []⟩ where
  epoch := Int.le_refl _
  owned job member := by cases member
  leases job member := by cases member
  handedKnown entry member := by cases member
  appliedKnown entry member := by cases member
  issued job member := by cases member
  outdated job member := by cases member
  increasing := List.Pairwise.nil
  once := List.nodup_nil

private theorem accounted_run {pool : DeliveryPool}
    (run : deliveryMachine.Run Stamped freshDeliveries pool) :
    Accounted pool.shared.1 pool.shared.2 := by
  refine Pool.run_invariant (fun state : Db × Deliveries => Accounted state.1 state.2) ?_
    accounted_fresh run
  intro β op now state met accounted
  obtain ⟨later_than, stamped⟩ := Bool.and_eq_true_iff.mp met
  exact accounted_runOp op accounted (of_decide_eq_true later_than) stamped

end Account

/-- However calls and reports interleave, the tokens of a job increase, no token's report has two
outcomes, and every report stays within `Confined`. -/
theorem leases_apply_once {pool : DeliveryPool}
    (run : deliveryMachine.Run Stamped freshDeliveries pool) :
    (pool.shared.2.handed.Pairwise fun newer older => newer.1 = older.1 → older.2 < newer.2) ∧
      pool.shared.2.applied.Nodup ∧
      ∀ {β : Type} (op : Op β) (report : Report) (now : Int), op.report? = some report →
        report.leaseUntil ≠ 0 → Confined op report now pool.shared.1 := by
  have accounted := accounted_run run
  exact ⟨accounted.increasing, accounted.once, fun op report now sent leased =>
    report_confined sent leased accounted.owned⟩

/-- A PIN job that fails once, is delivered again and succeeds; the first report comes twice. -/
def redeliveredPool : DeliveryPool :=
  (deliveryMachine.play Stamped freshDeliveries (serve 0
    [(1, 1000, .upsertNode { nodeId := "alpha", capacityClass := .committable }),
      (1, 1000, .heartbeat "alpha" 20000000000 0),
      (3, 1000, .register
        { cid := "bafy", sizeBytes := 10, n := 1, m := 1, sourceNode := none, referenceId := none }),
      (12, 1000, .reconcile pinOnlyController "bafy"), (1, 1010, .pendingJobs "alpha" 32 none),
      (3, 1020, .report "alpha" { jobId := 0, state := .failed, leaseUntil := 1130 }),
      (1, 1060, .pendingJobs "alpha" 32 none),
      (3, 1061, .report "alpha" { jobId := 0, state := .failed, leaseUntil := 1130 }),
      (3, 1070, .report "alpha" { jobId := 0, state := .pinned, leaseUntil := 1180 })])).get
    (by decide)

theorem redelivered_once :
    redeliveredPool.shared.2.applied = [(0, 1180), (0, 1130)] ∧
      (redeliveredPool.shared.2.handed.Pairwise fun newer older =>
        newer.1 = older.1 → older.2 < newer.2) ∧ redeliveredPool.shared.2.applied.Nodup := by
  have reached : deliveryMachine.Run Stamped freshDeliveries redeliveredPool :=
    Machine.Run.of_play (Option.some_get _).symm
  obtain ⟨increasing, once, -⟩ := leases_apply_once reached
  exact ⟨by decide, increasing, once⟩

end HashBurst.Replication
