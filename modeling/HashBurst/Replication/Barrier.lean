import Mathlib.Logic.Basic
import HashBurst.Lib.Threads
import HashBurst.Replication.Calls
import HashBurst.Replication.Frames

/-! Threads that call the methods of one store: an authorized UNPIN holds the lifecycle of its
content still, as long as it is not granted to a content whose registration is under way. -/

namespace HashBurst.Replication

open Lib ReplicationDBV214

abbrev StoreThread := Thread Op PyError Unit StoreCall

abbrev StorePool := Pool Db Op PyError Unit StoreCall

/-- Any number of threads on one store; each operation reads its own clock. -/
def storeMachine : Machine StorePool (Pool.Label StoreCall Int) :=
  Pool.machine runOp StoreCall.program

def freshPool : StorePool where
  shared := Db.empty
  threads := []

/-- A `register_object` on the content that is past its guard and not finished. -/
def registering (cid : Cid) (thread : StoreThread) : Bool :=
  match thread.call with
  | .registerObject args => args.cid = cid && 1 ≤ thread.steps && !thread.rest.finished
  | _ => false

/-- The content whose UNPIN the next step authorizes. -/
def grantOf (pool : StorePool) : Pool.Label StoreCall Int → Option Cid
  | .start _ => none
  | .step index _ =>
      match pool.threads[index]? with
      | some { call := .authorizeUnpin nodeId jobId leaseUntil, steps := 0, .. } =>
          unpinGrant pool.shared nodeId jobId leaseUntil
      | _ => none

/-- No UNPIN is authorized for a content whose registration is past its guard. -/
def GrantsApart (pool : StorePool) (label : Pool.Label StoreCall Int) : Prop :=
  ∀ cid ∈ grantOf pool label, ∀ thread ∈ pool.threads, registering cid thread = false

instance (pool : StorePool) (label : Pool.Label StoreCall Int) :
    Decidable (GrantsApart pool label) :=
  match found : grantOf pool label with
  | none => .isTrue (by simp [GrantsApart, found])
  | some cid =>
      decidable_of_iff (∀ thread ∈ pool.threads, registering cid thread = false)
        (by simp [GrantsApart, found])

/-- The lifecycle of the content stands still: no revival, no final release, no higher
policy, no new generation. -/
def HeldStill (before after : Db) (cid : Cid) : Prop :=
  ∀ object, before.object cid = some object → ∃ later, after.object cid = some later ∧
    (object.refcount = 0 ↔ later.refcount = 0) ∧
    later.replicationN ≤ object.replicationN ∧ later.committableM ≤ object.committableM ∧
    later.generation = object.generation

def Shaped (thread : StoreThread) : Prop :=
  thread.rest.finished = true ∨
  (thread.steps = 0 ∧ thread.rest = thread.call.program) ∨
  match thread.call with
  | .registerObject args =>
      (thread.steps = 1 ∧ ∃ oldPolicy, thread.rest = args.fromBase oldPolicy) ∨
        (thread.steps = 2 ∧ ∃ oldPolicy out, thread.rest = args.fromBump oldPolicy out)
  | .applyJobReport nodeId report =>
      thread.rest = ReplicationDBV214.applyJobReport nodeId report ∨
        thread.rest = Prog.attempt (.jobReport nodeId report) ∨
        thread.rest = Prog.attempt (.unpinReport nodeId report) ∨
        thread.rest = Prog.attempt (.unpinVerifyReport nodeId report)
  | _ => False

/-- What one operation of a thread does to the store and to what is left of its program. -/
inductive Effect (now : Int) (thread : StoreThread) (db : Db) : Db → Call Unit → Prop
  /-- The guard of a registration lets it pass. -/
  | guard (args : Registering) (oldPolicy : Option (Int × Int))
      (called : thread.call = .registerObject args) (first : thread.steps = 0)
      (passed : ReplicationDBV214.registerGuard args.cid args.n args.m db = .ok oldPolicy) :
      Effect now thread db db (args.fromBase oldPolicy)
  | base (args : Registering) (oldPolicy : Option (Int × Int)) (after : Db)
      (out : ReplicationDB.Registration) (called : thread.call = .registerObject args)
      (second : thread.steps = 1) (left : thread.rest = args.fromBase oldPolicy)
      (done : ReplicationDB.registerObject now args.cid args.sizeBytes args.n args.m
        args.sourceNode args.referenceId db = .ok (after, out)) :
      Effect now thread db after (args.fromBump oldPolicy out)
  | bump (args : Registering) (oldPolicy : Option (Int × Int)) (rest : Call Unit)
      (out : ReplicationDB.Registration) (called : thread.call = .registerObject args)
      (third : thread.steps = 2) (left : thread.rest = args.fromBump oldPolicy out)
      (ended : rest.finished = true) :
      Effect now thread db (ReplicationDBV214.registerBump now args.cid oldPolicy db) rest
  | release (cid : Cid) (referenceId : Option String) (requestId : String) (after : Db)
      (rest : Call Unit) (result : ReplicationDBV214.ReleaseResult)
      (called : thread.call = .releaseObject cid referenceId requestId)
      (done : ReplicationDBV214.releaseObject now cid referenceId requestId db =
        .ok (after, result))
      (ended : rest.finished = true) : Effect now thread db after rest
  /-- Everything else leaves the lifecycle columns alone. -/
  | quiet (after : Db) (rest : Call Unit) (same : ∀ cid, after.core cid = db.core cid)
      (grants : ∀ cid, unpinAuthorized after cid → unpinAuthorized db cid ∨
        ∃ nodeId jobId leaseUntil, thread.call = .authorizeUnpin nodeId jobId leaseUntil ∧
          thread.steps = 0 ∧ unpinGrant db nodeId jobId leaseUntil = some cid)
      (calm : thread.steps = 2 → ∀ args, thread.call ≠ .registerObject args)
      (ended : rest.finished = true ∨ ∃ nodeId report,
        thread.call = .applyJobReport nodeId report) : Effect now thread db after rest

section Steps

variable {now : Int} {thread : StoreThread} {db after : Db} {rest : Call Unit}

theorem quiet_op {β : Type} (op : Op β) (silent : ∀ cid, op.writes cid = false)
    (ungranted : op.grants db = none) (rest : Call Unit)
    (calm : ∀ args, thread.call ≠ .registerObject args)
    (ended : rest.finished = true ∨ ∃ nodeId report,
      thread.call = .applyJobReport nodeId report) :
    Effect now thread db (runOp op now db).1 rest :=
  .quiet _ rest (fun cid => core_runOp op now db (silent cid))
    (fun cid later => .inl (authorized_runOp op (by rw [ungranted]; simp) later)) (fun _ => calm)
    ended

theorem finished_ofExcept {α : Type} (answer : Except PyError α) :
    (Prog.ofExcept answer : Call α).finished = true := by
  cases answer <;> rfl

theorem finished_discard {α : Type} (answer : Except PyError α) :
    (Call.discard (Prog.ofExcept answer)).finished = true := by
  cases answer <;> rfl

theorem program_effect (first : thread.steps = 0)
    (advanced : thread.call.program.advance runOp now db = some (after, rest)) :
    Effect now thread db after rest := by
  cases called : thread.call with
  | registerObject args =>
      rw [called] at advanced
      cases advanced
      change Effect now thread db db (Call.discard (Prog.ofExcept
        (registerGuard args.cid args.n args.m db) >>= fun oldPolicy =>
          registerFromBase args.cid args.sizeBytes args.n args.m args.sourceNode args.referenceId
            oldPolicy))
      cases passed : registerGuard args.cid args.n args.m db with
      | error failure =>
          exact .quiet db _ (fun _ => rfl) (fun _ later => .inl later) (by simp [first]) (.inl rfl)
      | ok oldPolicy => exact .guard args oldPolicy called first passed
  | releaseObject cid referenceId requestId =>
      rw [called] at advanced
      cases advanced
      change Effect now thread db ((releaseObject now cid referenceId requestId).commit db).1
        (Call.discard (Prog.ofExcept ((releaseObject now cid referenceId requestId).commit db).2))
      cases done : releaseObject now cid referenceId requestId db with
      | error failure =>
          rw [commit_error done]
          exact .quiet db _ (fun _ => rfl) (fun _ later => .inl later) (by simp [called]) (.inl rfl)
      | ok result =>
          rw [commit_ok done]
          exact .release cid referenceId requestId result.1 _ result.2 called done rfl
  | authorizeUnpin nodeId jobId leaseUntil =>
      rw [called] at advanced
      cases advanced
      refine .quiet _ _ (fun cid => core_runOp (.authorizeUnpin nodeId jobId leaseUntil) now db rfl)
        (fun cid later => ?_) (by simp [called]) (.inl rfl)
      by_cases granted : unpinGrant db nodeId jobId leaseUntil = some cid
      · exact .inr ⟨nodeId, jobId, leaseUntil, called, first, granted⟩
      · exact .inl (authorized_runOp (.authorizeUnpin nodeId jobId leaseUntil) granted later)
  | recoverV214 =>
      rw [called] at advanced
      cases advanced
      exact quiet_op .recoverV214 (fun _ => rfl) rfl _ (by simp [called]) (.inl rfl)
  | applyJobReport nodeId report =>
      rw [called] at advanced
      cases advanced
      exact quiet_op (.jobOperation report.jobId nodeId) (fun _ => rfl) rfl _
        (by simp [called]) (.inr ⟨nodeId, report, called⟩)
  | createPinAssignment cid nodeId capacityClass =>
      rw [called] at advanced
      cases advanced
      exact quiet_op (.createPinAssignment cid nodeId capacityClass) (fun _ => rfl) rfl _
        (by simp [called]) (.inl (finished_discard _))
  | createVerifyJob cid nodeId generation =>
      rw [called] at advanced
      cases advanced
      exact quiet_op (.createVerifyJob cid nodeId generation) (fun _ => rfl) rfl _
        (by simp [called]) (.inl (finished_discard _))
  | createUnpinJob cid nodeId generation reason notBefore =>
      rw [called] at advanced
      cases advanced
      exact quiet_op (.createUnpinJob cid nodeId generation reason notBefore) (fun _ => rfl) rfl _
        (by simp [called]) (.inl (finished_discard _))
  | pendingJobs nodeId limit allowed ties =>
      rw [called] at advanced
      cases advanced
      exact quiet_op (.pendingJobs nodeId limit allowed ties) (fun _ => rfl) rfl _ (by simp [called]) (.inl rfl)
  | upsertNode node =>
      rw [called] at advanced
      cases advanced
      exact quiet_op (.upsertNode node) (fun _ => rfl) rfl _ (by simp [called]) (.inl rfl)
  | heartbeat nodeId totalBytes usedBytes =>
      rw [called] at advanced
      cases advanced
      exact quiet_op (.heartbeat nodeId totalBytes usedBytes) (fun _ => rfl) rfl _
        (by simp [called]) (.inl (finished_ofExcept _))
  | markReplicaState cid nodeId state error =>
      rw [called] at advanced
      cases advanced
      exact quiet_op (.markReplicaState cid nodeId state error) (fun _ => rfl) rfl _
        (by simp [called]) (.inl rfl)
  | updateObjectHealth cid state reason =>
      rw [called] at advanced
      cases advanced
      exact quiet_op (.updateObjectHealth cid state reason) (fun _ => rfl) rfl _
        (by simp [called]) (.inl rfl)

/-- What a thread does next, from the shape of what is left of it. -/
theorem thread_effect (shaped : Shaped thread)
    (advanced : thread.rest.advance runOp now db = some (after, rest)) :
    Effect now thread db after rest := by
  rcases shaped with ended | ⟨first, left⟩ | middle
  · cases left : thread.rest with
    | ret value =>
        rw [left] at advanced
        cases advanced
    | fail failure =>
        rw [left] at advanced
        cases advanced
    | call op next =>
        rw [left] at ended
        cases ended
  · rw [left] at advanced
    exact program_effect first advanced
  · cases called : thread.call with
    | registerObject args =>
        rw [called] at middle
        rcases middle with ⟨second, oldPolicy, left⟩ | ⟨third, oldPolicy, out, left⟩
        · rw [left] at advanced
          cases advanced
          change Effect now thread db
            ((ReplicationDB.registerObject now args.cid args.sizeBytes args.n args.m
              args.sourceNode args.referenceId).commit db).1
            (Call.discard (Prog.ofExcept ((ReplicationDB.registerObject now args.cid
              args.sizeBytes args.n args.m args.sourceNode args.referenceId).commit db).2 >>=
                fun out => registerFromBump args.cid oldPolicy out))
          cases done : ReplicationDB.registerObject now args.cid args.sizeBytes args.n args.m
              args.sourceNode args.referenceId db with
          | error failure =>
              rw [commit_error done]
              exact .quiet db _ (fun _ => rfl) (fun _ later => .inl later) (by simp [second])
                (.inl rfl)
          | ok result =>
              rw [commit_ok done]
              exact .base args oldPolicy result.1 result.2 called second left done
        · rw [left] at advanced
          cases advanced
          exact .bump args oldPolicy _ out called third left rfl
    | applyJobReport nodeId report =>
        rw [called] at middle
        rcases middle with left | left | left | left
        · rw [left] at advanced
          cases advanced
          exact quiet_op (.jobOperation report.jobId nodeId) (fun _ => rfl) rfl _
            (by simp [called]) (.inr ⟨nodeId, report, called⟩)
        · rw [left] at advanced
          cases advanced
          exact quiet_op (.jobReport nodeId report) (fun _ => rfl) rfl _
            (by simp [called]) (.inr ⟨nodeId, report, called⟩)
        · rw [left] at advanced
          cases advanced
          exact quiet_op (.unpinReport nodeId report) (fun _ => rfl) rfl _
            (by simp [called]) (.inr ⟨nodeId, report, called⟩)
        · rw [left] at advanced
          cases advanced
          exact quiet_op (.unpinVerifyReport nodeId report) (fun _ => rfl) rfl _
            (by simp [called]) (.inr ⟨nodeId, report, called⟩)
    | _ =>
        rw [called] at middle
        exact middle.elim

/-- A report thread goes from its look-ups to one of the three transactions. -/
theorem report_advance {nodeId : NodeId} {report : ReplicationDB.Report}
    (called : thread.call = .applyJobReport nodeId report) (shaped : Shaped thread)
    (advanced : thread.rest.advance runOp now db = some (after, rest)) :
    rest.finished = true ∨ rest = ReplicationDBV214.applyJobReport nodeId report ∨
      rest = Prog.attempt (.jobReport nodeId report) ∨
      rest = Prog.attempt (.unpinReport nodeId report) ∨
      rest = Prog.attempt (.unpinVerifyReport nodeId report) := by
  rcases shaped with ended | ⟨-, left⟩ | middle
  · cases left : thread.rest <;> rw [left] at advanced ended
    · cases advanced
    · cases advanced
    · cases ended
  · rw [left, called] at advanced
    cases advanced
    rcases ite_eq_or_eq ((ReplicationDB.findJob db report.jobId nodeId).map Job.operation =
        some .unpinVerify) (Prog.attempt (.unpinVerifyReport nodeId report) : Call Unit)
        (ReplicationDBV214.applyJobReport nodeId report) with verify | other
    · exact .inr (.inr (.inr (.inr verify)))
    · exact .inr (.inl other)
  · rw [called] at middle
    rcases middle with left | left | left | left
    · rw [left] at advanced
      cases advanced
      rcases ite_eq_or_eq ((ReplicationDB.findJob db report.jobId nodeId).map Job.operation =
          some .unpin) (Prog.attempt (.unpinReport nodeId report) : Call Unit)
          (Prog.attempt (.jobReport nodeId report)) with unpin | base
      · exact .inr (.inr (.inr (.inl unpin)))
      · exact .inr (.inr (.inl base))
    · rw [left] at advanced
      cases advanced
      exact .inl (finished_ofExcept _)
    · rw [left] at advanced
      cases advanced
      exact .inl (finished_ofExcept _)
    · rw [left] at advanced
      cases advanced
      exact .inl (finished_ofExcept _)

theorem shaped_advance (shaped : Shaped thread)
    (advanced : thread.rest.advance runOp now db = some (after, rest)) :
    Shaped { call := thread.call, steps := thread.steps + 1, rest } := by
  have effect := thread_effect shaped advanced
  cases effect with
  | guard args oldPolicy called first passed =>
      refine .inr (.inr ?_)
      rw [called]
      exact .inl ⟨by simp [first], oldPolicy, rfl⟩
  | base args oldPolicy after out called second left done =>
      refine .inr (.inr ?_)
      rw [called]
      exact .inr ⟨by simp [second], oldPolicy, out, rfl⟩
  | bump args oldPolicy rest out called third left ended => exact .inl ended
  | release cid referenceId requestId after rest result called done ended => exact .inl ended
  | quiet after rest same grants calm ended =>
      rcases ended with ended | ⟨nodeId, report, called⟩
      · exact .inl ended
      · rcases report_advance called shaped advanced with ended | left
        · exact .inl ended
        · refine .inr (.inr ?_)
          rw [called]
          exact left

end Steps

/-- The policy that a registration under way has read in its guard. -/
def policyRead : Call Unit → Option (Option (Int × Int))
  | .call (.registerBump _ oldPolicy) _ => some oldPolicy
  | .call (.registerBase cid ..) next =>
      match next (.ok { cid, referenceId := none, newReference := true }) with
      | .call (.registerBump _ oldPolicy) _ => some oldPolicy
      | _ => none
  | _ => none

structure Orderly (pool : StorePool) : Prop where
  shaped : ∀ thread ∈ pool.threads, Shaped thread
  /-- Only a registration under way leaves a live object marked released. -/
  settled : ∀ cid core, pool.shared.core cid = some core → 0 < core.refcount →
    core.releasedAt ≠ 0 → ∃ thread ∈ pool.threads,
      registering cid thread = true ∧ thread.steps = 2
  known : ∀ cid, unpinAuthorized pool.shared cid = true →
    ∃ core, pool.shared.core cid = some core
  /-- During an authorized UNPIN a live object is not marked released, -/
  unmarked : ∀ cid, unpinAuthorized pool.shared cid = true → ∀ core,
    pool.shared.core cid = some core → 0 < core.refcount → core.releasedAt = 0
  /-- and each registration under way fits the policy it has read. -/
  agreeing : ∀ cid, unpinAuthorized pool.shared cid = true → ∀ thread ∈ pool.threads,
    registering cid thread = true → ∃ args core, thread.call = .registerObject args ∧
      pool.shared.core cid = some core ∧ 0 < core.refcount ∧
      args.n ≤ core.replicationN ∧ args.m ≤ core.committableM ∧
      policyRead thread.rest = some (some (core.replicationN, core.committableM))

section Held

variable {now : Int} {thread : StoreThread} {pool : StorePool} {after : Db} {rest : Call Unit}
  {cid : Cid}

theorem registering_iff : registering cid thread = true ↔ ∃ args,
    thread.call = .registerObject args ∧ args.cid = cid ∧ 1 ≤ thread.steps ∧
      thread.rest.finished = false := by
  unfold registering
  cases called : thread.call <;> simp [and_assoc]

def Still : Option Object → Option Object → Prop
  | some core, some later =>
      (core.refcount = 0 ↔ later.refcount = 0) ∧ later.replicationN = core.replicationN ∧
        later.committableM = core.committableM ∧ later.generation = core.generation ∧
        later.releasedAt = core.releasedAt
  | none, none => True
  | _, _ => False

theorem Still.refl (core : Option Object) : Still core core := by
  cases core <;> simp [Still]

theorem effect_still (orderly : Orderly pool) (member : thread ∈ pool.threads)
    (effect : Effect now thread pool.shared after rest)
    (authorized : unpinAuthorized pool.shared cid = true) :
    Still (pool.shared.core cid) (after.core cid) := by
  cases effect with
  | guard => exact Still.refl _
  | quiet after rest same => rw [same]; exact Still.refl _
  | base args oldPolicy after out called second left done =>
      obtain ⟨others, own⟩ := registerBase_object done
      by_cases same : cid = args.cid
      · have busy : registering cid thread = true :=
          registering_iff.mpr ⟨args, called, same.symm, by omega, by rw [left]; rfl⟩
        obtain ⟨args', core, called', found, live, within, inside, -⟩ :=
          orderly.agreeing cid authorized thread member busy
        have same_args : args' = args := by
          rw [called] at called'
          exact (StoreCall.registerObject.inj called').symm
        obtain ⟨object, present, rfl⟩ := object_of_core found
        subst same same_args
        rw [present] at own
        rw [core_of_object present]
        rcases own with kept | retained
        · rw [core_of_object kept]
          exact Still.refl _
        · rw [core_of_object retained]
          simp only [Object.core] at live within inside
          simp only [Still, Object.core, Object.retained, and_true]
          omega
      · have kept : after.core cid = pool.shared.core cid := by
          unfold Db.core
          rw [others cid same]
        rw [kept]
        exact Still.refl _
  | bump args oldPolicy rest out called third left ended =>
      by_cases same : cid = args.cid
      · have busy : registering cid thread = true :=
          registering_iff.mpr ⟨args, called, same.symm, by omega, by rw [left]; rfl⟩
        obtain ⟨-, core, -, found, live, -, -, read⟩ :=
          orderly.agreeing cid authorized thread member busy
        have unmarked := orderly.unmarked cid authorized core found live
        obtain ⟨object, present, rfl⟩ := object_of_core found
        subst same
        have policy : oldPolicy = some (object.replicationN, object.committableM) := by
          rw [left] at read
          exact Option.some.inj read
        have idle : bumps object oldPolicy = false := by
          simp only [Object.core] at unmarked
          simp [bumps, policy, unmarked]
        have kept : (registerBump now args.cid oldPolicy pool.shared).object args.cid =
            some object := by
          rw [registerBump_object, if_pos rfl, present]
          simp [idle]
        rw [core_of_object present, core_of_object kept]
        exact Still.refl _
      · have kept : (registerBump now args.cid oldPolicy pool.shared).core cid =
            pool.shared.core cid := by
          unfold Db.core
          rw [registerBump_object, if_neg same]
        rw [kept]
        exact Still.refl _
  | release released referenceId requestId after rest result called done ended =>
      obtain ⟨others, own⟩ := releaseObject_object done
      by_cases same : cid = released
      · subst same
        rcases own with kept | ⟨object, present, ⟨more, lowered⟩ | ⟨-, free, -⟩⟩
        · unfold Db.core
          rw [kept]
          exact Still.refl _
        · rw [core_of_object present, core_of_object lowered]
          simp only [Still, Object.core, and_true]
          omega
        · rw [authorized] at free
          cases free
      · have kept : after.core cid = pool.shared.core cid := by
          unfold Db.core
          rw [others cid same]
        rw [kept]
        exact Still.refl _

/-- Only the grants that `GrantsApart` looks at make an UNPIN authorized. -/
theorem effect_authorized (effect : Effect now thread pool.shared after rest)
    (later : unpinAuthorized after cid = true) :
    unpinAuthorized pool.shared cid = true ∨
      ((∀ wanted, after.core wanted = pool.shared.core wanted) ∧
        ∃ nodeId jobId leaseUntil, thread.call = .authorizeUnpin nodeId jobId leaseUntil ∧
          thread.steps = 0 ∧ unpinGrant pool.shared nodeId jobId leaseUntil = some cid) := by
  cases effect with
  | guard => exact .inl later
  | base args oldPolicy after out called second left done =>
      rw [unpinAuthorized_congr (registerBase_jobs done)] at later
      exact .inl later
  | bump => exact .inl (registerBump_authorized later)
  | release cid referenceId requestId after rest result called done ended =>
      exact .inl (releaseObject_authorized done later)
  | quiet after rest same grants calm ended =>
      rcases grants cid later with before | granted
      · exact .inl before
      · exact .inr ⟨same, granted⟩

/-- A thread that has just moved is registering only past its guard or its base. -/
theorem effect_registering (effect : Effect now thread pool.shared after rest)
    (busy : registering cid { call := thread.call, steps := thread.steps + 1, rest } = true) :
    ∃ args, thread.call = .registerObject args ∧ args.cid = cid ∧ ∃ oldPolicy,
      (thread.steps = 0 ∧ after = pool.shared ∧ rest = args.fromBase oldPolicy ∧
        registerGuard args.cid args.n args.m pool.shared = .ok oldPolicy) ∨
      (thread.steps = 1 ∧ thread.rest = args.fromBase oldPolicy ∧
        ∃ out, rest = args.fromBump oldPolicy out) := by
  obtain ⟨args, called, named, -, unfinished⟩ := registering_iff.mp busy
  dsimp only at called unfinished
  cases effect with
  | guard args' oldPolicy called' first passed =>
      have same := StoreCall.registerObject.inj (called'.symm.trans called)
      subst same
      exact ⟨args', called, named, oldPolicy, .inl ⟨first, rfl, rfl, passed⟩⟩
  | base args' oldPolicy after out called' second left done =>
      have same := StoreCall.registerObject.inj (called'.symm.trans called)
      subst same
      exact ⟨args', called, named, oldPolicy, .inr ⟨second, left, out, rfl⟩⟩
  | bump args' oldPolicy rest out called' third left ended =>
      rw [ended] at unfinished
      cases unfinished
  | release released referenceId requestId after rest result called' done ended =>
      rw [ended] at unfinished
      cases unfinished
  | quiet after rest same grants calm ended =>
      rcases ended with ended | ⟨nodeId, report, reporting⟩
      · rw [ended] at unfinished
        cases unfinished
      · rw [called] at reporting
        cases reporting

/-- A live object that is marked released was so before, or is the work of this operation. -/
theorem effect_settled (effect : Effect now thread pool.shared after rest) {core : Object}
    (found : after.core cid = some core) (live : 0 < core.refcount) (marked : core.releasedAt ≠ 0) :
    (registering cid { call := thread.call, steps := thread.steps + 1, rest } = true ∧
        thread.steps = 1) ∨
      (registering cid thread = true ∧ thread.steps = 2 → False) ∧
        ∃ before, pool.shared.core cid = some before ∧ 0 < before.refcount ∧
          before.releasedAt ≠ 0 := by
  cases effect with
  | guard args oldPolicy called first passed =>
      exact .inr ⟨fun both => by omega, core, found, live, marked⟩
  | quiet after rest same grants calm ended =>
      refine .inr ⟨fun both => ?_, core, by rw [← same]; exact found, live, marked⟩
      obtain ⟨args, called, -⟩ := registering_iff.mp both.1
      exact calm both.2 args called
  | base args oldPolicy after out called second left done =>
      by_cases own : cid = args.cid
      · exact .inl ⟨registering_iff.mpr ⟨args, called, own.symm, by simp, rfl⟩, second⟩
      · have kept : after.core cid = pool.shared.core cid := by
          unfold Db.core
          rw [(registerBase_object done).1 cid own]
        rw [kept] at found
        exact .inr ⟨fun both => by omega, core, found, live, marked⟩
  | bump args oldPolicy rest out called third left ended =>
      by_cases own : cid = args.cid
      · subst own
        obtain ⟨object, present, rfl⟩ := object_of_core found
        rw [registerBump_object, if_pos rfl] at present
        obtain ⟨before, was, made⟩ := Option.map_eq_some_iff.mp present
        by_cases bumping : bumps before oldPolicy
        · rw [if_pos bumping] at made
          subst made
          simp [Object.core, Object.bumped] at marked
        · rw [if_neg bumping] at made
          subst made
          simp only [Object.core] at live marked
          simp [bumps, live, marked] at bumping
      · have kept : (registerBump now args.cid oldPolicy pool.shared).core cid =
            pool.shared.core cid := by
          unfold Db.core
          rw [registerBump_object, if_neg own]
        rw [kept] at found
        refine .inr ⟨fun both => ?_, core, found, live, marked⟩
        obtain ⟨args', called', named, -⟩ := registering_iff.mp both.1
        rw [called] at called'
        cases called'
        exact own named.symm
  | release released referenceId requestId after rest result called done ended =>
      refine .inr ⟨fun both => ?_, ?_⟩
      · obtain ⟨args, registered, -⟩ := registering_iff.mp both.1
        rw [called] at registered
        cases registered
      · obtain ⟨others, own⟩ := releaseObject_object done
        by_cases same : cid = released
        · subst same
          obtain ⟨object, present, rfl⟩ := object_of_core found
          rcases own with kept | ⟨before, was, ⟨more, lowered⟩ | ⟨-, -, final⟩⟩
          · rw [kept] at present
            exact ⟨_, core_of_object present, live, marked⟩
          · rw [lowered] at present
            cases present
            refine ⟨_, core_of_object was, ?_, marked⟩
            simp only [Object.core] at live ⊢
            omega
          · rw [final] at present
            cases present
            simp [Object.core, Object.finallyReleased] at live
        · have kept : after.core cid = pool.shared.core cid := by
            unfold Db.core
            rw [others cid same]
          rw [kept] at found
          exact ⟨core, found, live, marked⟩

end Held

section Runs

variable {pool after : StorePool} {label : Pool.Label StoreCall Int} {cid : Cid}

theorem orderly_fresh : Orderly freshPool where
  shaped := by simp [freshPool]
  settled := by
    intro cid core found
    cases found
  known := by
    intro cid authorized
    cases authorized
  unmarked := by
    intro cid authorized core found
    cases found
  agreeing := by simp [freshPool]

theorem orderly_start {call : StoreCall} (orderly : Orderly pool) :
    Orderly { pool with threads := pool.threads ++ [{ call, rest := call.program }] } where
  shaped := by
    intro thread member
    rcases List.mem_append.mp member with old | new
    · exact orderly.shaped thread old
    · rw [List.mem_singleton.mp new]
      exact .inr (.inl ⟨rfl, rfl⟩)
  settled := by
    intro cid core found live marked
    obtain ⟨thread, member, busy⟩ := orderly.settled cid core found live marked
    exact ⟨thread, List.mem_append_left _ member, busy⟩
  known := orderly.known
  unmarked := orderly.unmarked
  agreeing := by
    intro cid authorized thread member busy
    rcases List.mem_append.mp member with old | new
    · exact orderly.agreeing cid authorized thread old busy
    · rw [List.mem_singleton.mp new] at busy
      obtain ⟨-, -, -, started, -⟩ := registering_iff.mp busy
      exact absurd started (by simp)

/-- What the guard has checked when it lets a registration pass during an authorized UNPIN. -/
theorem guard_passed {db : Db} {n m : Int} {oldPolicy : Option (Int × Int)} {core : Object}
    (found : db.core cid = some core) (authorized : unpinAuthorized db cid = true)
    (passed : registerGuard cid n m db = .ok oldPolicy) :
    0 < core.refcount ∧ n ≤ core.replicationN ∧ m ≤ core.committableM ∧
      oldPolicy = some (core.replicationN, core.committableM) := by
  obtain ⟨object, present, rfl⟩ := object_of_core found
  unfold registerGuard at passed
  rw [present] at passed
  simp only [authorized, if_true] at passed
  by_cases dead : object.refcount = 0
  · simp [dead] at passed
  · by_cases higher : (n > object.replicationN || m > object.committableM) = true
    · simp [dead, higher] at passed
    · simp only [dead, higher, Bool.false_eq_true, if_false, Except.ok.injEq] at passed
      simp only [Bool.or_eq_true, decide_eq_true_eq, not_or] at higher
      simp only [Object.core]
      exact ⟨by omega, by omega, by omega, passed.symm⟩

theorem known_of_grant {db : Db} {nodeId : NodeId} {jobId : JobId} {leaseUntil : Int}
    (grant : unpinGrant db nodeId jobId leaseUntil = some cid) : ∃ core, db.core cid = some core := by
  obtain ⟨job, found, rfl⟩ := Option.map_eq_some_iff.mp grant
  have lawful := (Option.filter_eq_some_iff.mp found).2
  simp only [Bool.and_eq_true] at lawful
  have live := lawful.2
  unfold unpinLawful at live
  cases present : db.object job.cid with
  | none => simp [present] at live
  | some object => exact ⟨object.core, core_of_object present⟩

theorem apart_of_grant {index : Nat} {now : Int} {thread : StoreThread} {nodeId : NodeId}
    {jobId : JobId} {leaseUntil : Int} (apart : GrantsApart pool (.step index now))
    (found : pool.threads[index]? = some thread)
    (called : thread.call = .authorizeUnpin nodeId jobId leaseUntil) (first : thread.steps = 0)
    (grant : unpinGrant pool.shared nodeId jobId leaseUntil = some cid) :
    ∀ other ∈ pool.threads, registering cid other = false := by
  apply apart cid
  obtain ⟨call, steps, rest⟩ := thread
  dsimp only at called first
  subst called first
  simp only [grantOf, found]
  exact grant

theorem orderly_step {index : Nat} {now : Int} (orderly : Orderly pool)
    (apart : GrantsApart pool (.step index now))
    (taken : storeMachine.next pool (.step index now) = some after) : Orderly after := by
  obtain ⟨thread, shared, rest, found, advanced, rfl⟩ := Pool.step_cases taken
  have member := List.mem_of_getElem? found
  have effect := thread_effect (orderly.shaped thread member) advanced
  have moved_shaped := shaped_advance (orderly.shaped thread member) advanced
  refine ⟨?_, ?_, ?_, ?_, ?_⟩
  · intro other present
    rcases List.mem_or_eq_of_mem_set present with old | rfl
    · exact orderly.shaped other old
    · exact moved_shaped
  · intro cid core known live marked
    rcases effect_settled effect known live marked with ⟨busy, second⟩ | ⟨idle, before⟩
    · have bound := (List.getElem?_eq_some_iff.mp found).1
      exact ⟨_, List.mem_set bound _, busy, by simp [second]⟩
    · obtain ⟨core', known', live', marked'⟩ := before
      obtain ⟨other, present, busy⟩ := orderly.settled cid core' known' live' marked'
      refine ⟨other, Pool.mem_set_of_ne found present ?_, busy⟩
      rintro rfl
      exact idle busy
  · intro cid authorized
    rcases effect_authorized effect authorized with before | ⟨same, granted⟩
    · have still := effect_still orderly member effect before
      obtain ⟨core, known⟩ := orderly.known cid before
      dsimp only
      cases later : shared.core cid with
      | none => simp [known, later, Still] at still
      | some core' => exact ⟨core', rfl⟩
    · obtain ⟨nodeId, jobId, leaseUntil, -, -, grant⟩ := granted
      obtain ⟨core, known⟩ := known_of_grant grant
      exact ⟨core, (same cid).trans known⟩
  · intro cid authorized core known live
    rcases effect_authorized effect authorized with before | ⟨same, granted⟩
    · have still := effect_still orderly member effect before
      dsimp only at known
      rw [known] at still
      cases was : pool.shared.core cid with
      | none => simp [was, Still] at still
      | some core' =>
          rw [was] at still
          simp only [Still] at still
          have unmarked := orderly.unmarked cid before core' was (by omega)
          omega
    · obtain ⟨nodeId, jobId, leaseUntil, called, first, grant⟩ := granted
      rw [same] at known
      by_contra marked
      obtain ⟨other, present, busy, -⟩ := orderly.settled cid core known live marked
      rw [apart_of_grant apart found called first grant other present] at busy
      cases busy
  · intro cid authorized other present busy
    rcases effect_authorized effect authorized with before | ⟨same, granted⟩
    · have still := effect_still orderly member effect before
      rcases List.mem_or_eq_of_mem_set present with old | rfl
      · obtain ⟨args, core, called, known, live, within, inside, read⟩ :=
          orderly.agreeing cid before other old busy
        dsimp only
        rw [known] at still
        cases now_core : shared.core cid with
        | none => simp [now_core, Still] at still
        | some later =>
            rw [now_core] at still
            simp only [Still] at still
            refine ⟨args, later, called, rfl, by omega, by omega, by omega, ?_⟩
            rw [read, still.2.1, still.2.2.1]
      · obtain ⟨args, called, named, oldPolicy, moved⟩ := effect_registering effect busy
        rcases moved with ⟨first, unchanged, left, passed⟩ | ⟨second, left, out, later⟩
        · dsimp only at authorized ⊢
          subst unchanged named left
          obtain ⟨core, known⟩ := orderly.known args.cid before
          obtain ⟨live, within, inside, read⟩ := guard_passed known before passed
          exact ⟨args, core, called, known, live, within, inside, by rw [read]; rfl⟩
        · have busy_before : registering cid thread = true :=
            registering_iff.mpr ⟨args, called, named, by omega, by rw [left]; rfl⟩
          obtain ⟨args', core, called', known, live, within, inside, read⟩ :=
            orderly.agreeing cid before thread member busy_before
          have same_args := StoreCall.registerObject.inj (called'.symm.trans called)
          subst same_args later
          rw [left] at read
          dsimp only
          rw [known] at still
          cases now_core : shared.core cid with
          | none => simp [now_core, Still] at still
          | some later =>
              rw [now_core] at still
              simp only [Still] at still
              refine ⟨args', later, called, rfl, by omega, by omega, by omega, ?_⟩
              rw [still.2.1, still.2.2.1]
              exact read
    · obtain ⟨nodeId, jobId, leaseUntil, called, first, grant⟩ := granted
      rcases List.mem_or_eq_of_mem_set present with old | rfl
      · rw [apart_of_grant apart found called first grant other old] at busy
        cases busy
      · obtain ⟨args, registered, -⟩ := registering_iff.mp busy
        rw [called] at registered
        cases registered

/-- In a run whose grants stay apart from registrations, every state is orderly. -/
theorem orderly_run (run : storeMachine.Run GrantsApart freshPool pool) : Orderly pool := by
  refine Machine.Run.invariant Orderly ?_ run orderly_fresh
  intro before label after orderly apart taken
  cases label with
  | start call =>
      rw [Pool.start_cases taken]
      exact orderly_start orderly
  | step index now => exact orderly_step orderly apart taken

/-- A call that would revive the content, raise its policy, or release it for good; a reference that
is still live is released so also when none is counted any more. -/
def movesLifecycle (db : Db) (cid : Cid) : StoreCall → Prop
  | .registerObject args => args.cid = cid ∧ ∃ object, db.object cid = some object ∧
      (object.refcount = 0 ∨ args.n > object.replicationN ∨ args.m > object.committableM)
  | .releaseObject released referenceId _ => released = cid ∧ ∃ object,
      db.object cid = some object ∧ object.refcount ≤ 1 ∧
        match Py.stripOrNone referenceId with
        | none => object.refcount ≠ 0
        | some reference => ∃ row, db.objectRefs.find? reference = some row ∧ row.cid = cid ∧
            row.releasedAt = 0
  | _ => False

theorem registerGuard_refuses {args : Registering} {db : Db}
    (moves : movesLifecycle db cid (.registerObject args))
    (authorized : unpinAuthorized db cid = true) :
    ∃ text, registerGuard args.cid args.n args.m db = .error (.lifecycleConflict text) := by
  obtain ⟨rfl, object, present, reason⟩ := moves
  unfold registerGuard
  rw [present]
  simp only [authorized, if_true]
  by_cases dead : object.refcount = 0
  · rw [if_pos dead]
    exact ⟨_, rfl⟩
  · have higher : (args.n > object.replicationN || args.m > object.committableM) = true := by
      simpa [dead] using reason
    rw [if_neg dead, if_pos higher]
    exact ⟨_, rfl⟩

theorem releaseObject_refuses (now : Int) {released : Cid} {referenceId : Option String}
    {requestId : String} {db : Db}
    (moves : movesLifecycle db cid (.releaseObject released referenceId requestId))
    (authorized : unpinAuthorized db cid = true) : ∃ text,
      releaseObject now released referenceId requestId db = .error (.lifecycleConflict text) := by
  obtain ⟨rfl, object, present, last, accepted⟩ := moves
  have dropped : ∀ middle : Db, middle.jobs = db.jobs →
      dropReference now released object middle =
        .error (.lifecycleConflict "CID has an authorized trim in progress") := by
    intro middle same
    unfold dropReference
    rw [unpinAuthorized_congr same, authorized]
    simp [Nat.sub_eq_zero_of_le last]
  unfold releaseObject
  rw [present]
  dsimp only
  cases named : Py.stripOrNone referenceId with
  | none =>
      rw [named] at accepted
      refine ⟨"CID has an authorized trim in progress", ?_⟩
      dsimp only
      rw [if_neg accepted]
      exact dropped db rfl
  | some reference =>
      rw [named] at accepted
      obtain ⟨row, known, own, live⟩ := accepted
      simp only [known, own, live]
      refine ⟨"CID has an authorized trim in progress", ?_⟩
      rw [if_neg (by simp), if_neg (by simp)]
      exact dropped (recordRelease now reference requestId db) rfl

/-- In every run in which no UNPIN is granted for a content whose registration is past its
guard, an authorized UNPIN holds the content still whatever step comes next, and a call that
would move it is refused and changes nothing. -/
theorem authorized_unpin_is_barrier (run : storeMachine.Run GrantsApart freshPool pool)
    (authorized : unpinAuthorized pool.shared cid = true)
    (taken : storeMachine.next pool label = some after) :
    HeldStill pool.shared after.shared cid ∧
      ∀ index now thread, label = .step index now → pool.threads[index]? = some thread →
        thread.steps = 0 → movesLifecycle pool.shared cid thread.call →
          after.shared = pool.shared ∧ ∃ text, after.threads[index]? =
            some { call := thread.call, steps := 1, rest := .fail (.lifecycleConflict text) } := by
  have orderly := orderly_run run
  constructor
  · intro object present
    have still : Still (pool.shared.core cid) (after.shared.core cid) := by
      cases label with
      | start call =>
          rw [Pool.start_cases taken]
          exact Still.refl _
      | step index now =>
          obtain ⟨thread, shared, rest, found, advanced, rfl⟩ := Pool.step_cases taken
          have member := List.mem_of_getElem? found
          exact effect_still orderly member
            (thread_effect (orderly.shaped thread member) advanced) authorized
    rw [core_of_object present] at still
    cases later : after.shared.core cid with
    | none => simp [later, Still] at still
    | some core =>
        obtain ⟨object', present', rfl⟩ := object_of_core later
        rw [later] at still
        simp only [Still, Object.core] at still
        exact ⟨object', present', by omega, by omega, by omega, by omega⟩
  · rintro index now thread rfl found first moves
    obtain ⟨thread', shared, rest, found', advanced, rfl⟩ := Pool.step_cases taken
    have same : thread' = thread := Option.some.inj (found'.symm.trans found)
    subst same
    have bound := (List.getElem?_eq_some_iff.mp found).1
    have program : thread'.rest = thread'.call.program := by
      rcases orderly.shaped thread' (List.mem_of_getElem? found) with ended | ⟨-, left⟩ | middle
      · cases left : thread'.rest <;> rw [left] at advanced ended
        · cases advanced
        · cases advanced
        · cases ended
      · exact left
      · cases called : thread'.call with
        | registerObject args =>
            rw [called] at middle
            rcases middle with ⟨second, -⟩ | ⟨third, -⟩
            · omega
            · omega
        | _ =>
            rw [called] at middle moves
            first | exact middle.elim | exact moves.elim
    rw [program] at advanced
    dsimp only
    rw [List.getElem?_set_self bound, first]
    cases called : thread'.call with
    | registerObject args =>
        rw [called] at advanced moves
        obtain ⟨text, refused⟩ := registerGuard_refuses moves authorized
        cases advanced
        refine ⟨rfl, text, ?_⟩
        change some (Thread.mk _ _ (Call.discard (Prog.ofExcept
          (registerGuard args.cid args.n args.m pool.shared) >>= fun oldPolicy =>
            registerFromBase args.cid args.sizeBytes args.n args.m args.sourceNode
              args.referenceId oldPolicy))) = _
        rw [refused]
        rfl
    | releaseObject released referenceId requestId =>
        rw [called] at advanced moves
        obtain ⟨text, refused⟩ := releaseObject_refuses now moves authorized
        have raised := commit_error refused
        cases advanced
        refine ⟨congrArg Prod.fst raised, text, ?_⟩
        change some (Thread.mk _ _ (Call.discard (Prog.ofExcept
          ((releaseObject now released referenceId requestId).commit pool.shared).2))) = _
        rw [raised]
        rfl
    | _ =>
        rw [called] at moves
        exact moves.elim

/-- A registered object of one copy, released, its UNPIN planned and handed to the agent; the
agent asks for the authorization while a new registration comes in. -/
def plannedUnpin : List (Pool.Label StoreCall Int) :=
  [.start (.upsertNode { nodeId := "alpha" }), .step 0 90,
    .start (.registerObject
      { cid := "bafy", sizeBytes := 10, n := 1, m := 0, sourceNode := some "alpha"
        referenceId := none }), .step 1 100, .step 1 100, .step 1 100,
    .start (.releaseObject "bafy" none "request-1"), .step 2 110,
    .start (.createUnpinJob "bafy" "alpha" 2 finalReason 1010), .step 3 1020,
    .start (.pendingJobs "alpha" 32 none), .step 4 1030,
    .start (.authorizeUnpin "alpha" 0 1150),
    .start (.registerObject
      { cid := "bafy", sizeBytes := 10, n := 1, m := 0, sourceNode := none
        referenceId := none })]

def grantedPool : StorePool :=
  (storeMachine.play GrantsApart freshPool (plannedUnpin ++ [.step 5 1040])).get (by decide)

theorem granted_unpin_is_barrier : ∃ after,
    storeMachine.next grantedPool (.step 6 1050) = some after ∧
      HeldStill grantedPool.shared after.shared "bafy" ∧ after.shared = grantedPool.shared := by
  have run : storeMachine.Run GrantsApart freshPool grantedPool :=
    Machine.Run.of_play (Option.some_get _).symm
  obtain ⟨after, taken⟩ := Option.isSome_iff_exists.mp
    (show (storeMachine.next grantedPool (.step 6 1050)).isSome = true by decide)
  have authorized : unpinAuthorized grantedPool.shared "bafy" = true := by decide
  have barrier := authorized_unpin_is_barrier run authorized taken
  refine ⟨after, taken, barrier.1, ?_⟩
  obtain ⟨thread, found⟩ := Option.isSome_iff_exists.mp
    (show (grantedPool.threads[6]?).isSome = true by decide)
  exact (barrier.2 6 1050 thread rfl found (by cases found; rfl) (by
    cases found
    exact ⟨rfl, _, rfl, .inl rfl⟩)).1

/-- The guard of the registration comes first, its other blocks after the authorization. -/
def overtakenPool : StorePool :=
  (storeMachine.play (fun _ _ => True) freshPool
    (plannedUnpin ++ [.step 6 1035, .step 5 1040])).get (by decide)

theorem authorized_unpin_not_barrier : ¬∀ pool label after cid,
    storeMachine.Run (fun _ _ => True) freshPool pool →
      unpinAuthorized pool.shared cid = true → storeMachine.next pool label = some after →
        HeldStill pool.shared after.shared cid := by
  intro always
  obtain ⟨after, taken⟩ := Option.isSome_iff_exists.mp
    (show (storeMachine.next overtakenPool (.step 6 1050)).isSome = true by decide)
  have held := always overtakenPool (.step 6 1050) after "bafy"
    (Machine.Run.of_play (Option.some_get _).symm) (by decide) taken
  cases taken
  obtain ⟨later, found, same, -⟩ := held _ rfl
  cases found
  exact absurd same (by decide)

end Runs

end HashBurst.Replication
