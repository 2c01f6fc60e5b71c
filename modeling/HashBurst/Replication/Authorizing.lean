import HashBurst.Replication.Recovery
import HashBurst.Replication.Stranded

namespace HashBurst.Replication

open Lib ReplicationDB ReplicationDBV214 ReplicationDBV214Recovery

/-- The job is authorized, or its removal is lawful and it waits under another lease. -/
def standsAgainst (db : Db) (leaseUntil : Int) (job : Job) : Bool :=
  job.state = .authorized ||
    (job.waiting && job.leaseUntil ≠ leaseUntil && unpinLawful db job job.nodeId)

/-- A call leaves the jobs that stand against it as they are. -/
def SparesJob (db after : Db) (jobId : JobId) (leaseUntil : Int) : Prop :=
  ∀ job ∈ db.jobs.rows, job.jobId = jobId → standsAgainst db leaseUntil job = true →
    after.jobs.find? jobId = some job

/-- The call names no UNPIN job of its node that stands against it. -/
def mayAuthorize (db : Db) (nodeId : NodeId) (jobId : JobId) (leaseUntil : Int) : Bool :=
  ((findJob db jobId nodeId).filter fun job => job.operation = .unpin).all fun job =>
    !standsAgainst db leaseUntil job

section Calls

variable {db : Db} {nodeId : NodeId} {jobId : JobId} {leaseUntil : Int}

private theorem standsAgainst_live {job : Job} (stands : standsAgainst db leaseUntil job = true) :
    job.state ≠ .stale := by
  intro stale
  simp [standsAgainst, Job.waiting, stale] at stands

variable (db nodeId jobId leaseUntil) in
theorem authorizeUnpin_spares (now : Int) :
    SparesJob db (authorizeUnpin now nodeId jobId leaseUntil db).1 jobId leaseUntil ↔
      mayAuthorize db nodeId jobId leaseUntil = true := by
  unfold authorizeUnpin mayAuthorize
  cases found : (findJob db jobId nodeId).filter fun job => job.operation = .unpin with
  | none =>
      refine iff_of_true ?_ rfl
      intro job member named _
      exact Table.find?_some_iff.mpr ⟨member, named⟩
  | some job =>
      obtain ⟨named, -⟩ := Option.filter_eq_some_iff.mp found
      obtain ⟨member, identified, owner⟩ := findJob_cases named
      have only : ∀ other ∈ db.jobs.rows, other.jobId = jobId → other = job :=
        fun other listed same => Table.eq_of_key listed member (same.trans identified.symm)
      simp only [Option.all_some, Bool.not_eq_true', Bool.and_eq_true, decide_eq_true_eq]
      split
      · -- A job that is granted waits under the lease of the call.
        rename_i granted
        have spared : standsAgainst db leaseUntil job = false := by
          have unauthorized : job.state ≠ .authorized := by
            intro authorized
            simp [Job.waiting, authorized] at granted
          simp [standsAgainst, unauthorized, granted.1.1]
        refine iff_of_true ?_ spared
        intro other listed same stands
        rw [only other listed same, spared] at stands
        cases stands
      · constructor
        · intro spares
          by_contra stands
          have standing := Bool.not_eq_false _ ▸ stands
          have kept := spares job member identified standing
          have moved : ((markStale now jobId db).jobs.find? jobId).map Job.state = some .stale :=
            state_updateJob (Table.find?_some_iff.mpr ⟨member, identified⟩)
          rw [kept] at moved
          exact standsAgainst_live standing (Option.some.inj moved)
        · intro spared other listed same stands
          rw [only other listed same, spared] at stands
          cases stands

end Calls

/-- The accesses that may end the authorization of a job: a report of its node under its lease, or
one that finds the object changed, or the recovery. -/
def Op.ends {β : Type} (op : Op β) (db : Db) (job : Job) : Prop :=
  match op with
  | .jobReport nodeId report => report.jobId = job.jobId ∧ nodeId = job.nodeId ∧
      (report.leaseUntil = job.leaseUntil ∨ db.unpinStands job = false)
  | .unpinReport nodeId report => report.jobId = job.jobId ∧ nodeId = job.nodeId ∧
      (report.leaseUntil = job.leaseUntil ∨ db.unpinStands job = false)
  | .recoverV214 => True
  | _ => False

def endsNext (db : Db) (job : Job) : Call Unit → Prop
  | .call op _ => op.ends db job
  | _ => False

/-- A call of `authorize_unpin` that names a job that stands against it is left out. -/
def Op.spares {β : Type} (op : Op β) (db : Db) : Bool :=
  match op with
  | .authorizeUnpin nodeId jobId leaseUntil => mayAuthorize db nodeId jobId leaseUntil
  | _ => true

def SparesJobs (pool : EventPool) (label : Pool.Label Event Int) : Prop :=
  pool.guard (fun db _ op => op.spares db) (fun _ => true) label = true

instance (pool : EventPool) (label : Pool.Label Event Int) : Decidable (SparesJobs pool label) :=
  inferInstanceAs (Decidable (_ = true))

/-- A report goes to the check of an UNPIN only after its job has been seen to be one. -/
def checkProtocol : Protocol Op (List (JobId × NodeId)) where
  allowed known op :=
    match op with
    | .unpinVerifyReport nodeId report => (report.jobId, nodeId) ∈ known
    | _ => True
  learn known op answer :=
    match op, answer with
    | .jobOperation jobId nodeId, some .unpinVerify => (jobId, nodeId) :: known
    | _, _ => known

def KnownChecks (db : Db) (known : List (JobId × NodeId)) : Prop :=
  ∀ entry ∈ known, ∃ job, db.jobs.find? entry.1 = some job ∧ job.operation = .unpinVerify

def AuthorizedUnpins (db : Db) : Prop :=
  ∀ job ∈ db.jobs.rows, job.state = .authorized → job.operation = .unpin

section Protocol

def Op.unchecked {β : Type} (op : Op β) : Prop :=
  match op with
  | .unpinVerifyReport .. => False
  | _ => True

theorem unchecked_follows {α : Type} {call : Call α} (all : call.All Op.unchecked) :
    call.Follows checkProtocol := by
  apply Prog.follows_of_all all
  intro β op known plain
  cases op <;> trivial

theorem repairs_unchecked {β : Type} (op : Op β) (repairs : op.repairs) : op.unchecked := by
  cases op <;> trivial

theorem plans_unchecked {β : Type} (op : Op β) (plans : op.plansUnpin) : op.unchecked :=
  repairs_unchecked op (plansUnpin_repairs op plans)

variable (ctl : Controller) (cid : Cid)

theorem baseReconcile_unchecked : (ctl.reconcileCid cid).All Op.unchecked := by
  refine ⟨trivial, fun moment => ⟨trivial, fun found => ?_⟩⟩
  cases found with
  | none => trivial
  | some pair =>
      dsimp only [Prog.bind]
      split
      · trivial
      · refine Prog.all_bind ?_ fun _ =>
          Prog.all_mono repairs_unchecked (reconcileClassified_repairs moment ctl cid)
        refine ⟨trivial, fun rows => ⟨trivial, fun nodes => Prog.all_forEach fun row _ => ?_⟩⟩
        unfold Controller.classifyReplica
        split
        · trivial
        · exact ⟨trivial, fun _ => trivial⟩

theorem reconcile_unchecked : (ControllerV214.reconcileCid ctl cid).All Op.unchecked := by
  refine ⟨trivial, fun found => ?_⟩
  cases found with
  | none => trivial
  | some pair =>
      dsimp only [Prog.bind]
      split
      · exact ⟨trivial, fun now => Prog.all_mono plans_unchecked (planFinalRelease_plans _ _ now)⟩
      · refine Prog.all_bind (baseReconcile_unchecked ctl cid) fun _ => ⟨trivial, fun found => ?_⟩
        cases found with
        | none => trivial
        | some pair => exact Prog.all_mono plans_unchecked (planTrim_plans _ _)

theorem event_checks (event : Event) : event.program.Follows checkProtocol := by
  have attempted : ∀ {α : Type} (op : Op (Except PyError α)), op.unchecked →
      (Call.discard (Prog.attempt op)).All Op.unchecked := fun op plain =>
    ⟨plain, fun answer => Prog.all_bind (Prog.all_ofExcept answer) fun _ => trivial⟩
  cases event with
  | register args =>
      apply unchecked_follows
      refine ⟨trivial, fun answer => ?_⟩
      cases answer with
      | error failure => trivial
      | ok oldPolicy =>
          refine ⟨trivial, fun answer => ?_⟩
          cases answer with
          | error failure => trivial
          | ok out => exact ⟨trivial, fun _ => trivial⟩
  | release => exact unchecked_follows (attempted _ trivial)
  | upsertNode => exact unchecked_follows ⟨trivial, fun _ => trivial⟩
  | heartbeat => exact unchecked_follows ⟨trivial, fun answer => Prog.all_ofExcept answer⟩
  | pendingJobs => exact unchecked_follows ⟨trivial, fun _ => trivial⟩
  | authorizeUnpin => exact unchecked_follows ⟨trivial, fun _ => trivial⟩
  | recoverV214 => exact unchecked_follows ⟨trivial, fun _ => trivial⟩
  | reconcile ctl cid => exact unchecked_follows (reconcile_unchecked ctl cid)
  | report nodeId report =>
      intro known
      apply Prog.obeys_ask_bind trivial
      intro operation
      by_cases check : operation = some .unpinVerify
      · rw [if_pos check, check]
        exact Prog.obeys_attempt List.mem_cons_self fun _ => trivial
      · rw [if_neg check]
        apply unchecked_follows
        refine ⟨trivial, fun operation => ?_⟩
        apply Prog.all_bind (Prog.all_ret operation)
        intro operation
        split
        · exact ⟨trivial, fun answer => Prog.all_ofExcept answer⟩
        · exact ⟨trivial, fun answer => Prog.all_ofExcept answer⟩

end Protocol

section Steps

variable {β : Type} {op : Op β} {now : Int} {db : Db} {known : List (JobId × NodeId)}

theorem outcome_unauthorized {report : Report} {job later : Job}
    (outcome : Report.outcome now report job later) : later.state ≠ .authorized := by
  unfold Report.outcome at outcome
  split at outcome
  · rcases outcome with ⟨error, rfl | rfl⟩
    · intro authorized
      cases authorized
    · intro authorized
      cases authorized
  · exact outcome.elim
  · rw [outcome]
    intro authorized
    cases authorized

theorem waiting_unauthorized {job : Job} (waits : job.waiting = true) : job.state ≠ .authorized := by
  intro authorized
  simp [Job.waiting, authorized] at waits

/-- A job that an access moves to `authorized` is an UNPIN job. -/
theorem moves_authorized {job later : Job} (moves : op.moves now db job later)
    (authorized : later.state = .authorized) : job.operation = .unpin := by
  have staled : ∀ other : Job, later ≠ other.staled now := by
    rintro other rfl
    cases authorized
  cases op with
  | pendingJobs nodeId limit allowed ties =>
      obtain ⟨waits, rfl⟩ := moves
      simp only [due, Bool.and_eq_true] at waits
      exact absurd authorized (waiting_unauthorized waits.1.1.2)
  | authorizeUnpin => exact moves.2.2.1
  | jobReport =>
      rcases moves.2.2 with ⟨-, stale⟩ | ⟨-, -, outcome⟩
      · exact absurd stale (staled job)
      · exact absurd authorized (outcome_unauthorized outcome)
  | unpinReport =>
      rcases moves.2.2 with ⟨-, stale⟩ | ⟨-, -, -, outcome⟩
      · exact absurd stale (staled job)
      · exact absurd authorized (outcome_unauthorized outcome)
  | unpinVerifyReport =>
      rcases moves.2.2 with ⟨-, stale⟩ | ⟨-, -, outcome⟩
      · exact absurd stale (staled job)
      · exact absurd authorized (outcome_unauthorized outcome)
  | registerBump => exact absurd moves.2.2 (staled job)
  | releaseObject => exact absurd moves.2.2 (staled job)
  | recoverV214 => exact absurd moves.2 (staled job)
  | _ => exact moves.elim

theorem creates_unauthorized {job : Job} (created : op.creates now db job) :
    job.state ≠ .authorized := by
  intro authorized
  cases op with
  | createPinAssignment =>
      obtain ⟨object, -, made⟩ := created
      rw [made] at authorized
      cases authorized
  | createVerifyJob =>
      rw [created.2] at authorized
      cases authorized
  | createUnpinJob =>
      obtain ⟨object, -, -, made⟩ := created
      rw [made] at authorized
      cases authorized
  | recoverV214 =>
      obtain ⟨source, -, -, made⟩ := created
      rw [made] at authorized
      cases authorized
  | _ => exact created.elim

theorem authorizedUnpins_runOp (op : Op β) (now : Int) (unpins : AuthorizedUnpins db) :
    AuthorizedUnpins (runOp op now db).1 := by
  intro later member authorized
  rcases (jobs_runOp op now db).origin later member with ⟨job, present, -, moved⟩ | ⟨-, created⟩
  · rcases moved with rfl | moves
    · exact unpins later present authorized
    · have same := moves_purpose moves
      simp only [Job.purpose, Prod.mk.injEq] at same
      exact same.2.2.1.trans (moves_authorized moves authorized)
  · exact absurd authorized (creates_unauthorized created)

theorem knownChecks_runOp (op : Op β) (now : Int) (truthful : KnownChecks db known) :
    KnownChecks (runOp op now db).1 known := by
  intro entry member
  obtain ⟨job, found, checks⟩ := truthful entry member
  obtain ⟨later, present, same⟩ := purpose_runOp op now found
  simp only [Job.purpose, Prod.mk.injEq] at same
  exact ⟨later, present, same.2.2.1.trans checks⟩

theorem knownChecks_learn (op : Op β) (now : Int) (truthful : KnownChecks db known) :
    KnownChecks (runOp op now db).1 (checkProtocol.learn known op (runOp op now db).2) := by
  have kept := knownChecks_runOp op now truthful
  cases op with
  | jobOperation jobId nodeId =>
      cases read : (findJob db jobId nodeId).map Job.operation with
      | none =>
          simp only [runOp, read, checkProtocol]
          exact truthful
      | some operation =>
          obtain ⟨job, found, named⟩ := Option.map_eq_some_iff.mp read
          simp only [runOp, read, checkProtocol]
          cases operation with
          | unpinVerify =>
              intro entry member
              rcases List.mem_cons.mp member with rfl | old
              · obtain ⟨present, identified, -⟩ := findJob_cases found
                exact ⟨job, Table.find?_some_iff.mpr ⟨present, identified⟩, named⟩
              · exact truthful entry old
          | pin => exact truthful
          | verify => exact truthful
          | unpin => exact truthful
  | _ => exact kept

private theorem checks_sound :
    checkProtocol.Sound runOp (fun db _ op => op.spares db) AuthorizedUnpins
    KnownChecks where
  keeps op now _ _ _ unpins _ _ := authorizedUnpins_runOp op now unpins
  learns op now _ _ _ _ truthful _ := knownChecks_learn op now truthful
  stable op now _ _ _ _ _ _ _ truthful := knownChecks_runOp op now truthful

theorem moves_ends {job later : Job} (member : job ∈ db.jobs.rows)
    (authorized : job.state = .authorized) (unpins : AuthorizedUnpins db)
    (truthful : KnownChecks db known) (allowed : checkProtocol.allowed known op)
    (spares : op.spares db = true) (moves : op.moves now db job later) : op.ends db job := by
  have idle : ¬ job.waiting = true := fun waits => waiting_unauthorized waits authorized
  have unpin := unpins job member authorized
  cases op with
  | pendingJobs nodeId limit allowed ties =>
      have waits := moves.1
      simp only [due, Bool.and_eq_true] at waits
      exact absurd waits.1.1.2 idle
  | authorizeUnpin nodeId jobId leaseUntil =>
      obtain ⟨named, owner, -, -⟩ := moves
      have found : (findJob db jobId nodeId).filter (fun job => job.operation = .unpin) =
          some job := by
        unfold findJob
        rw [Table.find?_some_iff.mpr ⟨member, named⟩]
        simp [owner, unpin]
      simp only [Op.spares, mayAuthorize, found, Option.all_some, standsAgainst, authorized,
        decide_true, Bool.true_or, Bool.not_true, Bool.false_eq_true] at spares
  | jobReport nodeId report =>
      obtain ⟨named, owner, ⟨fallen, -⟩ | ⟨-, current, -⟩⟩ := moves
      · refine ⟨named.symm, owner.symm, .inr ?_⟩
        cases found : db.object job.cid with
        | none => simp [Db.unpinStands, found]
        | some object =>
            simp only [Db.current, found, Option.any_some, decide_eq_false_iff_not] at fallen
            simp [Db.unpinStands, found, fallen]
      · refine ⟨named.symm, owner.symm, .inl ?_⟩
        simp only [reportIsCurrent, Bool.and_eq_true] at current
        have lease := current.1.1
        split at lease
        · simp only [Bool.and_eq_true, decide_eq_true_eq] at lease
          exact lease.2
        · rename_i unleased
          exact (not_not.mp unleased).trans (of_decide_eq_true lease).symm
  | unpinReport nodeId report =>
      obtain ⟨named, owner, ⟨fallen, -⟩ | ⟨-, lease, -⟩⟩ := moves
      · exact ⟨named.symm, owner.symm, .inr fallen⟩
      · exact ⟨named.symm, owner.symm, .inl lease.symm⟩
  | unpinVerifyReport nodeId report =>
      obtain ⟨check, found, checks⟩ := truthful _ allowed
      have same : check = job := Table.eq_of_key (Table.find?_mem found) member
        ((Table.find?_key found).trans moves.1.symm)
      rw [same, unpin] at checks
      cases checks
  | registerBump => exact absurd moves.2.1 idle
  | releaseObject => exact absurd moves.2.1 idle
  | recoverV214 => trivial
  | _ => exact moves.elim

end Steps

/-- A call leaves a job that stands against it alone exactly where it names none. And where all calls
do, an authorization ends by a report of its node under its lease or after a change of its object,
or by the recovery. -/
theorem authorization_stands {pool : EventPool}
    (run : eventMachine.Run SparesJobs freshEvents pool) :
    (∀ now nodeId jobId leaseUntil,
      SparesJob pool.shared (authorizeUnpin now nodeId jobId leaseUntil pool.shared).1 jobId
        leaseUntil ↔ mayAuthorize pool.shared nodeId jobId leaseUntil = true) ∧
    ∀ index now after thread, SparesJobs pool (.step index now) →
      pool.threads[index]? = some thread →
      eventMachine.next pool (.step index now) = some after →
        ∀ job ∈ pool.shared.jobs.rows, job.state = .authorized →
          after.shared.jobs.find? job.jobId = some job ∨ endsNext pool.shared job thread.rest := by
  refine ⟨fun now nodeId jobId leaseUntil =>
    authorizeUnpin_spares pool.shared nodeId jobId leaseUntil now, ?_⟩
  have informed : Pool.Informed checkProtocol AuthorizedUnpins KnownChecks pool := by
    refine checks_sound.run_informed (fun event _ => ⟨[], fun _ _ => ?_, event_checks event []⟩)
      ⟨fun job member => ?_, fun thread member => ?_⟩ run
    · intro entry member
      cases member
    · cases member
    · cases member
  intro index now after thread spares found taken job member authorized
  obtain ⟨own, shared, rest, same, advanced, rfl⟩ := Pool.step_cases taken
  have stepped : own = thread := Option.some.inj (same.symm.trans found)
  subst stepped
  obtain ⟨known, truthful, obeys⟩ := informed.obeys own (List.mem_of_getElem? found)
  simp only [SparesJobs, Pool.guard, found, Option.all_some] at spares
  cases left : own.rest with
  | ret value =>
      rw [left] at advanced
      cases advanced
  | fail failure =>
      rw [left] at advanced
      cases advanced
  | call op next =>
      rw [left] at advanced obeys spares
      cases advanced
      have row : pool.shared.jobs.find? job.jobId = some job :=
        Table.find?_some_iff.mpr ⟨member, rfl⟩
      obtain ⟨later, present, moved⟩ := (jobs_runOp op now pool.shared).find? row
      rcases moved with rfl | moves
      · exact .inl present
      · exact .inr (moves_ends member authorized informed.holds truthful obeys.1 spares moves)

/-- The removal of a content of one copy is authorized; its agent is about to report it. -/
def reportingPool : EventPool :=
  (eventMachine.play SparesJobs freshEvents (serve 0
    [(1, 1000, .upsertNode { nodeId := "alpha", capacityClass := .committable }),
      (3, 1000, .register
        { cid := "bafy", sizeBytes := 10, n := 1, m := 0, sourceNode := some "alpha"
          referenceId := none }),
      (1, 1100, .release "bafy" none "req"), (3, 2010, .reconcile fullController "bafy"),
      (1, 2020, .pendingJobs "alpha" 32 none), (1, 2021, .authorizeUnpin "alpha" 0 2140),
      (2, 2030, .report "alpha" { jobId := 0, state := .unpinned, leaseUntil := 2140 })])).get
    (by decide)

theorem reported_ends : ∃ after thread,
    eventMachine.next reportingPool (.step 6 2030) = some after ∧
      reportingPool.threads[6]? = some thread ∧
        (after.shared.jobs.find? 0 = some releasedJob ∨
          endsNext reportingPool.shared releasedJob thread.rest) := by
  have reached : eventMachine.Run SparesJobs freshEvents reportingPool :=
    Machine.Run.of_play (Option.some_get _).symm
  obtain ⟨after, taken⟩ := Option.isSome_iff_exists.mp
    (show (eventMachine.next reportingPool (.step 6 2030)).isSome = true by decide)
  obtain ⟨thread, found⟩ := Option.isSome_iff_exists.mp
    (show (reportingPool.threads[6]?).isSome = true by decide)
  have member : releasedJob ∈ reportingPool.shared.jobs.rows := by decide
  have spares : SparesJobs reportingPool (.step 6 2030) := by decide
  exact ⟨after, thread, taken, found,
    (authorization_stands reached).2 6 2030 after thread spares found taken releasedJob member rfl⟩

/-- The call that was granted is made again. -/
theorem authorization_taken_away : ¬∀ (pool : EventPool) (now : Int) (nodeId : NodeId)
    (jobId : JobId) (leaseUntil : Int), eventMachine.Run (fun _ _ => True) freshEvents pool →
      SparesJob pool.shared (authorizeUnpin now nodeId jobId leaseUntil pool.shared).1 jobId
        leaseUntil := by
  intro always
  have reached : eventMachine.Run (fun _ _ => True) freshEvents releasedPool :=
    Machine.Run.of_play (Option.some_get _).symm
  have member : releasedJob ∈ releasedPool.shared.jobs.rows := by decide
  have kept := always releasedPool 2022 "alpha" 0 2140 reached releasedJob member rfl
    (by decide)
  have gone : (authorizeUnpin 2022 "alpha" 0 2140 releasedPool.shared).1.jobs.find? 0 ≠
      some releasedJob := by decide
  exact gone kept

end HashBurst.Replication
