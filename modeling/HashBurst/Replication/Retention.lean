import HashBurst.Replication.Moves
import HashBurst.Replication.Planner
import HashBurst.Replication.TrimSafety

namespace HashBurst.Replication

open Lib ReplicationDB ReplicationDBV214 ReplicationDBV214Recovery

/-- The final releases so far, the latest first, and the planned removals whose object has kept
its generation since. -/
structure Retention where
  clock : Int
  released : List (Cid × Int)
  standing : List (JobId × Cid)
  deriving DecidableEq

def Op.finalRelease {β : Type} (op : Op β) (now : Int) (db : Db) : List (Cid × Int) :=
  match op with
  | .releaseObject cid referenceId requestId =>
      match (ReplicationDBV214.releaseObject now cid referenceId requestId).commit db with
      | (_, .ok (.ok release)) => if release.released && release.finalRelease then [(cid, now)] else []
      | _ => []
  | _ => []

def Op.plannedRemoval {β : Type} (op : Op β) (now : Int) (db : Db) : List (JobId × Cid) :=
  match op with
  | .createUnpinJob cid nodeId generation reason notBefore =>
      match (ReplicationDBV214.createUnpinJob now cid nodeId generation reason notBefore).commit db with
      | (_, .ok (some jobId)) => [(jobId, cid)]
      | _ => []
  | _ => []

def Db.generation (db : Db) (cid : Cid) : Option Nat := (db.object cid).map Object.generation

def noteRetention {β : Type} (op : Op β) (now : Int) (db : Db) (ledger : Retention) : Retention where
  clock := now
  released := op.finalRelease now db ++ ledger.released
  standing := op.plannedRemoval now db ++ ledger.standing.filter fun plan =>
    (runOp op now db).1.generation plan.2 = db.generation plan.2

abbrev RetentionPool := Pool (Db × Retention) Op PyError Unit Event

def retentionMachine : Machine RetentionPool (Pool.Label Event Int) :=
  Pool.machine (Pool.noting runOp noteRetention) Event.program

def freshRetention : RetentionPool where
  shared := (Db.empty, ⟨0, [], []⟩)
  threads := []

/-- `DELETE_GRACE` is one constant of the process. -/
def Event.gracedBy (grace : Int) : Event → Bool
  | reconcile ctl _ => ctl.intervals.deleteGrace = grace
  | _ => true

/-- The clock does not go back, and every reconcile uses the one grace period. -/
def Timely (grace : Int) (pool : RetentionPool) (label : Pool.Label Event Int) : Prop :=
  pool.guard (fun state now _ => state.2.clock ≤ now) (Event.gracedBy grace) label = true

instance (grace : Int) (pool : RetentionPool) (label : Pool.Label Event Int) :
    Decidable (Timely grace pool label) :=
  inferInstanceAs (Decidable (_ = true))

def Retention.lastRelease (ledger : Retention) (cid : Cid) : Option Int :=
  (ledger.released.find? fun release => release.1 = cid).map Prod.snd

/-- A planned removal of the current generation stands since it was planned, and one for a final
release was planned after the grace period. -/
structure Retained (grace : Int) (db : Db) (ledger : Retention) : Prop where
  released : ∀ cid object, db.object cid = some object → object.releasedAt ≠ 0 →
    ledger.lastRelease cid = some object.releasedAt
  dated : ∀ job ∈ db.jobs.rows, job.operation = .unpin →
    ∃ object, db.object job.cid = some object ∧ job.generation ≤ object.generation
  reasons : ∀ job ∈ db.jobs.rows, job.operation = .unpin →
    job.reason = trimReason ∨ job.reason = finalReason
  stands : ∀ job ∈ db.jobs.rows, job.operation = .unpin → ∀ object,
    db.object job.cid = some object → object.generation = job.generation →
      (job.jobId, job.cid) ∈ ledger.standing
  graced : ∀ job ∈ db.jobs.rows, job.operation = .unpin → job.reason = finalReason → ∀ object,
    db.object job.cid = some object → object.generation = job.generation →
      object.releasedAt ≠ 0 ∧ object.releasedAt + grace ≤ ledger.clock

section Retained

variable {grace now : Int} {db : Db} {ledger : Retention} {seen : Seen} {cid : Cid}

private theorem lastRelease_silent {β : Type} {op : Op β} (silent : op.finalRelease now db = [])
    (cid : Cid) :
    (noteRetention op now db ledger).lastRelease cid = ledger.lastRelease cid := by
  unfold Retention.lastRelease noteRetention
  rw [silent, List.nil_append]

theorem releaseObject_answer {object : Object} {referenceId : Option String} {requestId : String}
    {after : Db} {result : ReleaseResult} (found : db.object cid = some object)
    (done : releaseObject now cid referenceId requestId db = .ok (after, result)) :
    (after.object cid = some (object.finallyReleased now) ∧
        result = .ok { refcount := 0, released := true, finalRelease := true }) ∨
      ((after.object cid).map Object.generation = some object.generation ∧ ∃ release,
        result = .ok release ∧ (release.released && release.finalRelease) = false) := by
  rcases releaseObject_cases done with ⟨rfl, unchanged⟩ | ⟨owner, refs, known, done⟩
  · obtain ⟨refcount, final, rfl⟩ := unchanged object found
    refine .inr ⟨?_, _, rfl, rfl⟩
    rw [found]
    rfl
  · cases found.symm.trans known
    have objects := (dropReference_object (show
      Db.object { db with objectRefs := refs } cid = some object from found) done).2
    rcases dropReference_cases done with ⟨counted, -, rfl⟩ | ⟨last, -, -, rfl⟩
    · rcases objects with ⟨-, left⟩ | ⟨last, -⟩
      · refine .inr ⟨?_, _, rfl, rfl⟩
        rw [left]
        rfl
      · exact absurd last counted
    · rcases objects with ⟨counted, -⟩ | ⟨-, -, final⟩
      · exact absurd last counted
      · exact .inl ⟨final, rfl⟩

theorem finalRelease_cases {β : Type} (op : Op β) (now : Int) (db : Db) :
    (op.finalRelease now db = [] ∧ ∀ cid object, db.object cid = some object →
        op.shifts now db object (object.finallyReleased now) →
        (runOp op now db).1.object cid ≠ some (object.finallyReleased now)) ∨
      ∃ content object, op.finalRelease now db = [(content, now)] ∧
        db.object content = some object ∧
        (runOp op now db).1.object content = some (object.finallyReleased now) ∧
          ∀ other later, op.shifts now db other later → other.cid = content := by
  cases op with
  | releaseObject content referenceId requestId =>
      have named : ∀ cid object, db.object cid = some object →
          (Op.releaseObject content referenceId requestId).shifts now db object
            (object.finallyReleased now) → cid = content :=
        fun cid object found shifts => (object_cid found).symm.trans shifts.1
      cases done : releaseObject now content referenceId requestId db with
      | error failure =>
          refine .inl ⟨?_, fun cid object found _ final => ?_⟩
          · simp only [Op.finalRelease, commit_error done]
          · rw [runOp, commit_error done, found] at final
            have generation := congrArg Object.generation (Option.some.inj final)
            exact absurd generation.symm (Nat.succ_ne_self _)
      | ok answer =>
          obtain ⟨after, result⟩ := answer
          cases found : db.object content with
          | none =>
              refine .inl ⟨?_, fun cid object known shifts _ => ?_⟩
              · have absent : releaseObject now content referenceId requestId db =
                    .ok (db, .notFound) := by
                  unfold releaseObject
                  rw [found]
                simp only [Op.finalRelease, commit_ok absent]
              · rw [named cid object known shifts, found] at known
                cases known
          | some object =>
              rcases releaseObject_answer found done with ⟨final, rfl⟩ | ⟨kept, release, rfl, plain⟩
              · refine .inr ⟨content, object, ?_, found, ?_⟩
                · simp only [Op.finalRelease, commit_ok done, Bool.and_self, if_true]
                · rw [runOp, commit_ok done]
                  exact ⟨final, fun other later shifts => shifts.1⟩
              · refine .inl ⟨?_, fun cid owner known shifts final => ?_⟩
                · simp only [Op.finalRelease, commit_ok done, plain, Bool.false_eq_true, if_false]
                · have same := named cid owner known shifts
                  subst same
                  rw [found] at known
                  cases known
                  rw [runOp, commit_ok done] at final
                  rw [final] at kept
                  exact absurd (Option.some.inj kept) (Nat.succ_ne_self _)
  | registerBase =>
      refine .inl ⟨rfl, fun cid object _ shifts _ => ?_⟩
      have generation : (object.finallyReleased now).generation = object.generation := by
        rw [shifts.2]
        rfl
      exact absurd generation (Nat.succ_ne_self _)
  | registerBump =>
      refine .inl ⟨rfl, fun cid object _ shifts _ => ?_⟩
      have state : (object.finallyReleased now).state = .pending := by
        rw [shifts.2.2]
        rfl
      cases state
  | _ => exact .inl ⟨rfl, fun _ _ _ shifts _ => shifts⟩

theorem released_runOp {β : Type} (op : Op β) (now : Int) (retained : Retained grace db ledger)
    {later : Object} (known : (runOp op now db).1.object cid = some later)
    (released : later.releasedAt ≠ 0) :
    (noteRetention op now db ledger).lastRelease cid = some later.releasedAt := by
  cases found : db.object cid with
  | none => exact absurd (object_born op now found known).2.1 released
  | some object =>
      obtain ⟨next, present, moved⟩ := object_runOp op now found
      rw [known] at present
      cases Option.some.inj present
      have named : object.cid = cid := object_cid found
      have kept : later.releasedAt = object.releasedAt ∨ later.releasedAt = 0 ∨
          (op.shifts now db object (object.finallyReleased now) ∧
            later = object.finallyReleased now) := by
        rcases moved with core | shifts
        · have same : later.core.releasedAt = object.core.releasedAt := by rw [core]
          exact .inl same
        · cases op with
          | registerBase =>
              rw [shifts.2]
              exact .inl rfl
          | registerBump =>
              rw [shifts.2.2]
              exact .inr (.inl rfl)
          | releaseObject =>
              rcases shifts.2 with ⟨-, rfl⟩ | ⟨last, idle, rfl⟩
              · exact .inl rfl
              · exact .inr (.inr ⟨shifts, rfl⟩)
          | _ => exact shifts.elim
      rcases finalRelease_cases op now db with ⟨silent, never⟩ | ⟨content, owner, noted, owned, final,
        only⟩
      · rw [lastRelease_silent silent]
        rcases kept with same | zero | ⟨shifts, rfl⟩
        · rw [same]
          exact retained.released cid object found (same ▸ released)
        · exact absurd zero released
        · exact absurd known (never cid object found shifts)
      · unfold Retention.lastRelease noteRetention
        rw [noted, List.singleton_append]
        by_cases own : content = cid
        · subst own
          rw [known] at final
          rw [List.find?_cons_of_pos (by simp), Option.some.inj final]
          rfl
        · rw [List.find?_cons_of_neg (by simpa using own)]
          rcases kept with same | zero | ⟨shifts, rfl⟩
          · rw [same]
            exact retained.released cid object found (same ▸ released)
          · exact absurd zero released
          · exact absurd ((only object _ shifts).symm.trans named) own

/-- A job that was just planned is the one that the answer names. -/
theorem createUnpinJob_answer {after : Db} {nodeId : NodeId} {generation : Nat} {reason : String}
    {notBefore : Int} {answer : Option JobId} {job : Job}
    (done : createUnpinJob now cid nodeId generation reason notBefore db = .ok (after, answer))
    (member : job ∈ after.jobs.rows) (fresh : db.jobs.next ≤ job.jobId) :
    answer = some job.jobId := by
  have old : ∀ job ∈ db.jobs.rows, ¬db.jobs.next ≤ job.jobId :=
    fun job present => Nat.not_le.mpr (db.jobs.fresh job present)
  obtain rfl | ⟨object, -, -, rfl, rfl⟩ := createUnpinJob_cases done
  · exact absurd fresh (old job member)
  · rcases List.mem_append.mp member with present | single
    · exact absurd fresh (old job present)
    · rw [List.mem_singleton.mp single]
      rfl

variable {seen : Seen} {job : Job}

/-- A removal that an access creates was planned for the current generation, from what the thread
has read. -/
theorem created_removal {β : Type} {op : Op β} {graces : Int → Prop}
    (allowed : (plannerProtocol graces).allowed seen op)
    (member : job ∈ (runOp op now db).1.jobs.rows) (fresh : db.jobs.next ≤ job.jobId)
    (unpin : job.operation = .unpin) (created : op.creates now db job) :
    (job.jobId, job.cid) ∈ op.plannedRemoval now db ∧
      (∃ object, db.object job.cid = some object ∧ object.generation = job.generation) ∧
      seen.plans graces job.cid job.nodeId job.generation job.reason := by
  cases op with
  | createPinAssignment =>
      obtain ⟨object, -, made⟩ := created
      rw [made] at unpin
      cases unpin
  | createVerifyJob =>
      rw [created.2] at unpin
      cases unpin
  | recoverV214 =>
      obtain ⟨source, -, -, made⟩ := created
      rw [made] at unpin
      cases unpin
  | createUnpinJob content target generation reason notBefore =>
      obtain ⟨object, found, plannable, made⟩ := created
      have current : object.generation = generation := by
        unfold unpinPlannable at plannable
        split at plannable
        · cases plannable
        · rename_i same
          exact not_not.mp same
      have whole : Py.clip 200 reason = reason := by
        obtain ⟨_, _, _, _, _, _, _, rfl | ⟨rfl, -⟩⟩ := allowed
        · decide
        · decide
      refine ⟨?_, ?_, ?_⟩
      · cases done : createUnpinJob now content target generation reason notBefore db with
        | error failure =>
            simp only [runOp] at member
            rw [commit_error done] at member
            exact absurd fresh (Nat.not_le.mpr (db.jobs.fresh job member))
        | ok result =>
            simp only [runOp] at member
            rw [commit_ok done] at member
            have answer : result.2 = some job.jobId := createUnpinJob_answer done member fresh
            simp only [Op.plannedRemoval, commit_ok done, answer, List.mem_singleton]
            rw [made]
            rfl
      · rw [made]
        exact ⟨object, found, current⟩
      · rw [made]
        unfold unpinJob
        rw [whole]
        exact allowed
  | _ => exact created.elim

/-- What a thread knows: snapshots that were true, and times that have passed. -/
def Retention.Knows (state : Db × Retention) (seen : Seen) : Prop :=
  seen.Truthful state.1 ∧ ∀ time ∈ seen.times, time ≤ state.2.clock

theorem removal_origin {β : Type} (op : Op β) (now : Int) {graces : Int → Prop}
    (allowed : (plannerProtocol graces).allowed seen op)
    (member : job ∈ (runOp op now db).1.jobs.rows) (unpin : job.operation = .unpin) :
    (∃ old ∈ db.jobs.rows, old.jobId = job.jobId ∧ old.purpose = job.purpose) ∨
      ((job.jobId, job.cid) ∈ op.plannedRemoval now db ∧
        (∃ object, db.object job.cid = some object ∧ object.generation = job.generation) ∧
        seen.plans graces job.cid job.nodeId job.generation job.reason) := by
  rcases (jobs_runOp op now db).origin job member with ⟨old, present, named, moved⟩ | ⟨fresh, created⟩
  · refine .inl ⟨old, present, named.symm, ?_⟩
    rcases moved with rfl | moves
    · rfl
    · exact (moves_purpose moves).symm
  · exact .inr (created_removal allowed member fresh unpin created)

theorem retained_runOp {β : Type} (op : Op β) (forward : ledger.clock ≤ now)
    (retained : Retained grace db ledger) (knows : Retention.Knows (db, ledger) seen)
    (allowed : (plannerProtocol fun known => known = grace).allowed seen op) :
    Retained grace (runOp op now db).1 (noteRetention op now db ledger) where
  released cid object known released := released_runOp op now retained known released
  dated job member unpin := by
    apply reached_runOp op now
    rcases removal_origin op now allowed member unpin with ⟨old, present, -, same⟩ | ⟨-, current, -⟩
    · simp only [Job.purpose, Prod.mk.injEq] at same
      rw [← same.1, ← same.2.2.2.1]
      exact retained.dated old present (same.2.2.1.trans unpin)
    · obtain ⟨object, found, level⟩ := current
      exact ⟨object, found, level.ge⟩
  reasons job member unpin := by
    rcases removal_origin op now allowed member unpin with ⟨old, present, -, same⟩ | ⟨-, -, plans⟩
    · simp only [Job.purpose, Prod.mk.injEq] at same
      rw [← same.2.2.2.2]
      exact retained.reasons old present (same.2.2.1.trans unpin)
    · obtain ⟨_, _, _, _, _, _, _, trim | ⟨final, -⟩⟩ := plans
      · exact .inl trim
      · exact .inr final
  stands job member unpin later known level := by
    rcases removal_origin op now allowed member unpin with ⟨old, present, named, same⟩ | ⟨planned, -⟩
    · simp only [Job.purpose, Prod.mk.injEq] at same
      obtain ⟨content, -, operation, dates, -⟩ := same
      obtain ⟨object, found, below⟩ := retained.dated old present (operation.trans unpin)
      rw [content] at found
      obtain ⟨next, reached, raised, -⟩ := generation_runOp op now found
      rw [known] at reached
      cases Option.some.inj reached
      have before : object.generation = old.generation := by omega
      have stood := retained.stands old present (operation.trans unpin) object
        (by rw [content, found]) before
      rw [named, content] at stood
      refine List.mem_append_right _ (List.mem_filter.mpr ⟨stood, decide_eq_true ?_⟩)
      unfold Db.generation
      rw [known, found, Option.map_some, Option.map_some, level, before, dates]
    · exact List.mem_append_left _ planned
  graced job member unpin final later known level := by
    have kept : ∀ object, db.object job.cid = some object → object.generation = job.generation →
        object.releasedAt ≠ 0 ∧ object.releasedAt + grace ≤ ledger.clock →
          later.releasedAt ≠ 0 ∧ later.releasedAt + grace ≤ now := by
      intro object found current known_before
      obtain ⟨next, reached, -, same⟩ := generation_runOp op now found
      rw [known] at reached
      cases Option.some.inj reached
      rw [same (level.trans current.symm)]
      exact ⟨known_before.1, known_before.2.trans forward⟩
    rcases removal_origin op now allowed member unpin with ⟨old, present, -, same⟩ | ⟨-, current, plans⟩
    · simp only [Job.purpose, Prod.mk.injEq] at same
      obtain ⟨content, -, operation, dates, reason⟩ := same
      obtain ⟨object, found, below⟩ := retained.dated old present (operation.trans unpin)
      obtain ⟨next, reached, raised, -⟩ := generation_runOp op now found
      rw [content, known] at reached
      cases Option.some.inj reached
      have before : object.generation = old.generation := by omega
      refine kept object (content ▸ found) (before.trans dates) ?_
      exact retained.graced old present (operation.trans unpin) (reason.trans final) object found
        before
    · obtain ⟨object, found, current⟩ := current
      refine kept object found current ?_
      obtain ⟨content, snapshot, rows, listed, named, dates, -, why⟩ := plans
      rcases why with trim | ⟨-, released, time, read, known_grace, rfl, past⟩
      · rw [final] at trim
        exact absurd trim (by decide)
      · have truth := knows.1 content snapshot rows listed
        obtain ⟨owner, owned, -, same⟩ := truth.object
        rw [← truth.named, named, found] at owned
        cases Option.some.inj owned
        have equal := same (current.trans dates.symm)
        rw [equal]
        exact ⟨released, past.trans (knows.2 time read)⟩

theorem retention_sound : (plannerProtocol fun known => known = grace).Sound
    (Pool.noting runOp noteRetention) (fun state now _ => state.2.clock ≤ now)
    (fun state => Retained grace state.1 state.2) Retention.Knows where
  keeps op now _ _ forward retained knows allowed :=
    retained_runOp op (of_decide_eq_true forward) retained knows allowed
  learns op now state seen forward retained knows allowed := by
    have later : ∀ time ∈ seen.times, time ≤ now :=
      fun time member => (knows.2 time member).trans (of_decide_eq_true forward)
    refine ⟨truthful_learn op now knows.1, ?_⟩
    cases op with
    | time =>
        intro time member
        rcases List.mem_cons.mp member with rfl | old
        · exact Int.le_refl _
        · exact later time old
    | object wanted =>
        intro time member
        simp only [Pool.noting, runOp] at member
        cases found : state.1.object wanted with
        | none =>
            rw [found] at member
            exact later time member
        | some object =>
            rw [found] at member
            exact later time member
    | _ => exact later
  stable op now _ _ _ forward _ _ _ knows :=
    ⟨truthful_runOp op now knows.1,
      fun time member => (knows.2 time member).trans (of_decide_eq_true forward)⟩

theorem retained_fresh : freshRetention.Informed (plannerProtocol fun known => known = grace)
    (fun state => Retained grace state.1 state.2) Retention.Knows := by
  refine ⟨⟨?_, ?_, ?_, ?_, ?_⟩, ?_⟩
  · intro cid object found
    cases found
  · intro job member
    cases member
  · intro job member
    cases member
  · intro job member
    cases member
  · intro job member
    cases member
  · intro thread member
    cases member

end Retained

private theorem graced_admitted {grace : Int} {event : Event}
    (graced : event.gracedBy grace = true) :
    event.graced fun known => known = grace := by
  cases event with
  | reconcile ctl cid =>
      have same : ctl.intervals.deleteGrace = grace := of_decide_eq_true graced
      exact same
  | _ => trivial

/-- A removal for a final release is authorized after a full grace period since the last final
release of its content, which has no references and has kept its generation since the planning. -/
theorem final_unpin_waits {grace : Int} {pool : RetentionPool}
    (run : retentionMachine.Run (Timely grace) freshRetention pool) {now : Int}
    (later : pool.shared.2.clock ≤ now) {nodeId : NodeId} {jobId : JobId} {leaseUntil : Int}
    {job : Job} (found : findJob pool.shared.1 jobId nodeId = some job)
    (final : job.reason ≠ trimReason) {cid : Cid} {generation : Nat}
    (granted : (authorizeUnpin now nodeId jobId leaseUntil pool.shared.1).2 =
      .granted cid generation) :
    ∃ object released, pool.shared.1.object job.cid = some object ∧ object.refcount = 0 ∧
      object.generation = job.generation ∧ (jobId, job.cid) ∈ pool.shared.2.standing ∧
      pool.shared.2.lastRelease job.cid = some released ∧ released + grace ≤ now := by
  have informed := retention_sound.run_informed (fun event graced => ⟨⟨[], []⟩,
    fun state _ => ⟨seen_nothing _, fun time member => by cases member⟩,
    event_obeys event (graced_admitted graced)⟩) retained_fresh run
  have retained := informed.holds
  obtain ⟨same, known, unpin, -, lawful, -⟩ := authorizeUnpin_granted granted
  rw [found] at known
  cases Option.some.inj known
  obtain ⟨member, rfl, -⟩ := findJob_cases found
  have reason : job.reason = finalReason :=
    (retained.reasons job member unpin).resolve_left final
  unfold unpinLawful at lawful
  cases known : pool.shared.1.object job.cid with
  | none =>
      rw [known] at lawful
      cases lawful
  | some object =>
      rw [known] at lawful
      simp only [isTrimReason, final, decide_false, Bool.and_eq_true, decide_eq_true_eq,
        Bool.false_eq_true, if_false] at lawful
      have graced := retained.graced job member unpin reason object known lawful.1
      refine ⟨object, object.releasedAt, rfl, lawful.2, lawful.1, ?_, ?_, ?_⟩
      · exact retained.stands job member unpin object known lawful.1
      · exact retained.released job.cid object known graced.1
      · exact graced.2.trans later

/-- A content with one copy that is released, registered again and released again. -/
def releasedTwice : List (Pool.Label Event Int) :=
  serve 0 [(1, 1000, .upsertNode { nodeId := "alpha", capacityClass := .committable }),
    (1, 1000, .heartbeat "alpha" 20000000000 0),
    (3, 1000, .register { cid := "bafy", sizeBytes := 10, n := 1, m := 1
                          sourceNode := some "alpha", referenceId := none }),
    (1, 1100, .release "bafy" none "first"),
    (3, 1500, .register { cid := "bafy", sizeBytes := 10, n := 1, m := 1
                          sourceNode := none, referenceId := none }),
    (1, 1600, .release "bafy" none "second"),
    (3, 2700, .reconcile fullController "bafy"), (1, 2700, .pendingJobs "alpha" 32 none)]

def releasedTwicePool : RetentionPool :=
  (retentionMachine.play (Timely fullController.intervals.deleteGrace) freshRetention
    releasedTwice).get (by decide)

theorem final_unpin_waited : ∃ object released,
    releasedTwicePool.shared.1.object "bafy" = some object ∧ object.refcount = 0 ∧
      object.generation = 4 ∧ (0, "bafy") ∈ releasedTwicePool.shared.2.standing ∧
      releasedTwicePool.shared.2.lastRelease "bafy" = some released ∧
      released + fullController.intervals.deleteGrace ≤ 2710 := by
  let job : Job :=
    { jobId := 0, cid := "bafy", nodeId := "alpha", operation := .unpin, generation := 4
      nextAttemptAt := 2700, leaseUntil := 2820, createdAt := 2700, updatedAt := 2700
      reason := finalReason }
  have found : findJob releasedTwicePool.shared.1 0 "alpha" = some job := by decide
  have granted : (authorizeUnpin 2710 "alpha" 0 2820 releasedTwicePool.shared.1).2 =
      .granted "bafy" 4 := by decide
  exact final_unpin_waits (Machine.Run.of_play (Option.some_get _).symm)
    (show _ ≤ 2710 by decide) found (by decide) granted

end HashBurst.Replication
