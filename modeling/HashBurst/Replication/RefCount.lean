import Mathlib.Data.List.Induction
import HashBurst.Replication.Frames

namespace HashBurst.Replication

open Lib

def Db.refcount (db : Db) (cid : Cid) : Nat := ((db.object cid).map Object.refcount).getD 0

def ObjectRef.liveFor (cid : Cid) (ref : ObjectRef) : Bool := ref.cid = cid && ref.releasedAt = 0

/-- `COUNT(*) FROM object_refs WHERE cid=? AND released_at=0` -/
def Db.liveRefs (db : Db) (cid : Cid) : Nat := db.objectRefs.rows.countP (ObjectRef.liveFor cid)

theorem refcount_congr {first second : Db} (same : first.objects = second.objects) (cid : Cid) :
    first.refcount cid = second.refcount cid := by
  unfold Db.refcount
  rw [object_congr same]

theorem liveRefs_congr {first second : Db} (same : first.objectRefs = second.objectRefs)
    (cid : Cid) : first.liveRefs cid = second.liveRefs cid := by
  unfold Db.liveRefs
  rw [same]

theorem refcount_of_object {db : Db} {cid : Cid} {object : Object}
    (found : db.object cid = some object) : db.refcount cid = object.refcount := by
  simp [Db.refcount, found]

@[simp] theorem refcount_updateReplicas (db : Db) (which : Replica → Bool)
    (change : Replica → Replica) (keeps : ∀ replica, (change replica).key = replica.key)
    (cid : Cid) : (db.updateReplicas which change keeps).refcount cid = db.refcount cid := rfl

@[simp] theorem refcount_updateJobs (db : Db) (which : Job → Bool) (change : Job → Job)
    (keeps : ∀ job, (change job).jobId = job.jobId) (cid : Cid) :
    (db.updateJobs which change keeps).refcount cid = db.refcount cid := rfl

theorem refcount_updateObject (db : Db) (cid : Cid) (change : Object → Object)
    (keeps : ∀ object, (change object).cid = object.cid)
    (counts : ∀ object, (change object).refcount = object.refcount) (wanted : Cid) :
    (db.updateObject cid change keeps).refcount wanted = db.refcount wanted := by
  unfold Db.refcount
  rw [object_updateObject]
  cases db.object wanted with
  | none => simp
  | some object => by_cases same : wanted = cid <;> simp [same, counts]

section Register

open ReplicationDB

variable {now : Int} {cid : Cid} {sizeBytes n m : Int} {db after : Db}

theorem retain_counts (done : retain now cid sizeBytes n m db = .ok (after, ())) (wanted : Cid) :
    after.refcount wanted = db.refcount wanted + if wanted = cid then 1 else 0 := by
  obtain ⟨⟨others, own⟩, -, -⟩ := retain_object done
  unfold Db.refcount
  by_cases same : wanted = cid
  · subst same
    cases found : db.object wanted with
    | none =>
        rw [found] at own
        simp [show after.object wanted = _ from own]
    | some object =>
        rw [found] at own
        simp [show after.object wanted = _ from own, Object.retained]
  · simp [others wanted same, same]

theorem recordReference_counts {referenceId : RefId}
    (done : recordReference now cid referenceId db = .ok (after, ())) (wanted : Cid) :
    after.liveRefs wanted = db.liveRefs wanted + if wanted = cid then 1 else 0 := by
  unfold recordReference at done
  cases inserted : db.objectRefs.insert? { referenceId, cid, createdAt := now } with
  | none => simp [inserted] at done
  | some objectRefs =>
      simp only [inserted, Except.ok.injEq, Prod.mk.injEq, and_true] at done
      subst done
      unfold Db.liveRefs
      dsimp only
      rw [(Table.insert?_eq_some inserted).2, List.countP_append, List.countP_singleton]
      by_cases same : wanted = cid
      · simp [ObjectRef.liveFor, same]
      · have other : cid ≠ wanted := fun flipped => same flipped.symm
        simp [ObjectRef.liveFor, same, other]

/-- What the first two blocks of a registration add to the two counts. -/
theorem registerBase_counts {sourceNode : Option NodeId} {referenceId : Option String}
    {out : Registration}
    (done : ReplicationDB.registerObject now cid sizeBytes n m sourceNode referenceId db =
      .ok (after, out)) :
    (Py.stripOrNone referenceId = none → out.newReference = true) ∧ ∀ wanted,
      after.refcount wanted =
        db.refcount wanted + (if wanted = cid ∧ out.newReference then 1 else 0) ∧
      after.liveRefs wanted = db.liveRefs wanted +
        (if wanted = cid ∧ out.newReference ∧ (Py.stripOrNone referenceId).isSome then 1 else 0) := by
  obtain ⟨middle, counted, sourced⟩ := registerBase_cases done
  have same : after.objects = middle.objects ∧ after.objectRefs = middle.objectRefs := by
    rcases sourced with ⟨-, rfl⟩ | ⟨source, -, recorded⟩
    · exact ⟨rfl, rfl⟩
    · exact ⟨(upsertSource_tables recorded).2.1, (upsertSource_tables recorded).2.2.1⟩
  simp only [refcount_congr same.1, liveRefs_congr same.2]
  rcases addReference_cases counted with ⟨rfl, known, named⟩ | ⟨fresh, kept, retained, recorded⟩
  · refine ⟨fun absent => ?_, fun wanted => ?_⟩
    · rw [absent] at named
      cases named
    · simp [known]
  · refine ⟨fun _ => fresh, fun wanted => ?_⟩
    have total := retain_counts retained wanted
    have refs := liveRefs_congr (retain_object retained).2.1 wanted
    rcases recorded with ⟨anonymous, rfl⟩ | ⟨reference, named, inserted⟩
    · simp [total, refs, fresh, anonymous]
    · rw [refcount_congr (recordReference_objects inserted).1, recordReference_counts inserted]
      simp [total, refs, fresh, named]

end Register

section Bump

open ReplicationDBV214

variable (now : Int) (cid : Cid) (oldPolicy : Option (Int × Int)) (db : Db)

theorem registerBump_objectRefs : (registerBump now cid oldPolicy db).objectRefs = db.objectRefs := by
  unfold registerBump
  cases db.object cid with
  | none => rfl
  | some object =>
      dsimp only
      split
      · split <;> rfl
      · rfl

theorem registerBump_refcount (wanted : Cid) :
    (registerBump now cid oldPolicy db).refcount wanted = db.refcount wanted := by
  unfold registerBump
  cases db.object cid with
  | none => rfl
  | some object =>
      dsimp only
      split
      · unfold staleWaiting
        rw [refcount_updateJobs]
        split
        · rw [refcount_updateReplicas]
          apply refcount_updateObject
          intro object
          rfl
        · rw [refcount_updateReplicas]
          apply refcount_updateObject
          intro object
          rfl
      · rfl

theorem registerBump_jobs (idle : db.jobs.rows = []) :
    (registerBump now cid oldPolicy db).jobs.rows = [] := by
  unfold registerBump
  cases db.object cid with
  | none => exact idle
  | some object =>
      dsimp only
      split
      · split <;> simp [staleWaiting, Db.updateJobs, Db.updateReplicas, Db.updateObject, idle]
      · exact idle

end Bump

section Release

open ReplicationDBV214

variable {now : Int} {cid : Cid} {db after : Db}

theorem unpinAuthorized_idle (idle : db.jobs.rows = []) (cid : Cid) :
    unpinAuthorized db cid = false := by
  unfold unpinAuthorized
  rw [idle]
  rfl

variable (now db) in
theorem dropReference_counts {object : Object} (idle : db.jobs.rows = [])
    (found : db.object cid = some object) :
    ∃ after result, dropReference now cid object db = .ok (after, result) ∧
      after.jobs.rows = [] ∧ after.objectRefs = db.objectRefs ∧
      ∀ wanted, after.refcount wanted = db.refcount wanted - if wanted = cid then 1 else 0 := by
  have counted := refcount_of_object found
  unfold dropReference
  rw [unpinAuthorized_idle idle]
  by_cases last : object.refcount - 1 = 0
  · simp only [last, if_true, Bool.false_eq_true, if_false]
    refine ⟨_, _, rfl, ?_, rfl, fun wanted => ?_⟩
    · simp [staleWaiting, Db.updateJobs, Db.updateReplicas, Db.updateObject, idle]
    · unfold staleWaiting Db.refcount
      rw [object_updateJobs, object_updateReplicas, object_updateObject]
      by_cases same : wanted = cid
      · subst same
        simp [found, last]
      · simp [same]
  · simp only [last, if_false]
    refine ⟨_, _, rfl, idle, rfl, fun wanted => ?_⟩
    unfold Db.refcount
    rw [object_updateObject]
    by_cases same : wanted = cid
    · subst same
      simp [found]
    · simp [same]

/-- Writing the release into a live row takes one from the count of its content. -/
theorem recordRelease_liveRefs {reference : RefId} {row : ObjectRef} (requestId : String)
    (found : db.objectRefs.find? reference = some row) (live : row.releasedAt = 0)
    (positive : 0 < now) (wanted : Cid) :
    (recordRelease now reference requestId db).liveRefs wanted +
      (if wanted = row.cid then 1 else 0) = db.liveRefs wanted := by
  have moved := Table.countP_update_key found
    (fun ref => { ref with releasedAt := now, releaseRequestId := requestId })
    (fun _ => rfl) (fun ref => ref.referenceId = reference) (fun _ => rfl)
    (ObjectRef.liveFor wanted)
  have gone : ObjectRef.liveFor wanted
      { row with releasedAt := now, releaseRequestId := requestId } = false := by
    have later : now ≠ 0 := by omega
    simp [ObjectRef.liveFor, later]
  have counted : ObjectRef.liveFor wanted row = decide (wanted = row.cid) := by
    simp [ObjectRef.liveFor, live, eq_comm]
  rw [gone, counted] at moved
  simpa [Db.liveRefs, recordRelease] using moved

end Release

inductive Lifecycle
  | register (cid : Cid) (sizeBytes n m : Int) (sourceNode : Option NodeId)
      (referenceId : Option String)
  | release (cid : Cid) (referenceId : Option String) (requestId : String)
  deriving DecidableEq, Repr

structure TimedCall where
  now : Int
  positive : 0 < now
  call : Lifecycle

/-- The store, with the registrations without a reference that no release without a
reference has matched yet. -/
structure Ledger where
  db : Db
  unmatched : Cid → Nat

namespace Ledger

def start (nodes : Table Node.nodeId) : Ledger where
  db := { Db.empty with nodes }
  unmatched := fun _ => 0

def perform (ledger : Ledger) (timed : TimedCall) : Ledger :=
  match timed.call with
  | .register cid sizeBytes n m sourceNode referenceId =>
      match (ReplicationDBV214.registerObject cid sizeBytes n m sourceNode referenceId).runAt
        timed.now ledger.db with
      | (db, .ok _) =>
          { db
            unmatched := fun wanted =>
              if wanted = cid ∧ Py.stripOrNone referenceId = none then ledger.unmatched wanted + 1
              else ledger.unmatched wanted }
      | (db, .error _) => { ledger with db }
  | .release cid referenceId requestId =>
      match (ReplicationDBV214.releaseObject timed.now cid referenceId requestId).commit
        ledger.db with
      | (db, .ok _) =>
          { db
            unmatched := fun wanted =>
              if wanted = cid ∧ Py.stripOrNone referenceId = none then ledger.unmatched wanted - 1
              else ledger.unmatched wanted }
      | (db, .error _) => { ledger with db }

def after (nodes : Table Node.nodeId) (calls : List TimedCall) : Ledger :=
  calls.foldl perform (start nodes)

/-- The count is exact, and no content is final while a named reference is live. -/
def Exact (ledger : Ledger) : Prop :=
  ∀ cid, ledger.db.refcount cid = ledger.db.liveRefs cid + ledger.unmatched cid ∧
    ∀ object, ledger.db.object cid = some object → object.refcount = 0 → ledger.db.liveRefs cid = 0

/-- A release without a reference has a registration to match, or finds no live reference. -/
def Matched (ledger : Ledger) : Lifecycle → Prop
  | .register .. => True
  | .release cid referenceId _ =>
      Py.stripOrNone referenceId = none → 0 < ledger.unmatched cid ∨ ledger.db.liveRefs cid = 0

section Step

variable {ledger : Ledger} {timed : TimedCall}

private theorem registerGuard_idle {db : Db} (idle : db.jobs.rows = []) (cid : Cid) (n m : Int) :
    ∃ oldPolicy, ReplicationDBV214.registerGuard cid n m db = .ok oldPolicy := by
  unfold ReplicationDBV214.registerGuard
  rw [unpinAuthorized_idle idle]
  cases db.object cid with
  | none => exact ⟨none, rfl⟩
  | some object => exact ⟨_, rfl⟩

/-- A registration either fails and changes nothing, or adds one to `refcount` together with
one live reference or one unmatched registration; a repeated reference adds nothing. -/
theorem register_counts (idle : ledger.db.jobs.rows = []) {cid : Cid} {sizeBytes n m : Int}
    {sourceNode : Option NodeId} {referenceId : Option String}
    (called : timed.call = .register cid sizeBytes n m sourceNode referenceId) :
    (ledger.perform timed).db.jobs.rows = [] ∧ ∃ added : Bool, ∀ wanted,
      (ledger.perform timed).db.refcount wanted =
        ledger.db.refcount wanted + (if wanted = cid ∧ added then 1 else 0) ∧
      (ledger.perform timed).db.liveRefs wanted + (ledger.perform timed).unmatched wanted =
        ledger.db.liveRefs wanted + ledger.unmatched wanted +
          (if wanted = cid ∧ added then 1 else 0) := by
  obtain ⟨oldPolicy, guarded⟩ := registerGuard_idle idle cid n m
  unfold perform
  rw [called]
  dsimp only
  rw [ReplicationDBV214.registerObject_runAt, guarded]
  dsimp only
  cases based : ReplicationDB.registerObject timed.now cid sizeBytes n m sourceNode referenceId
      ledger.db with
  | error failure =>
      rw [commit_error based]
      exact ⟨idle, false, fun wanted => by simp⟩
  | ok result =>
      rw [commit_ok based]
      obtain ⟨fresh, counts⟩ := registerBase_counts based
      have jobs := registerBase_jobs based
      refine ⟨registerBump_jobs _ _ _ _ (jobs ▸ idle), result.2.newReference, fun wanted => ?_⟩
      obtain ⟨total, live⟩ := counts wanted
      dsimp only
      rw [registerBump_refcount, liveRefs_congr (registerBump_objectRefs _ _ _ _), total, live]
      refine ⟨rfl, ?_⟩
      cases named : Py.stripOrNone referenceId with
      | none =>
          have added := fresh named
          by_cases same : wanted = cid
          · simp [same, added]
            omega
          · simp [same]
      | some reference =>
          by_cases same : wanted = cid
          · simp [same]
            omega
          · simp [same]

/-- A release changes the two counts of its own content alone, or fails. -/
theorem release_cases (ledger : Ledger) (timed : TimedCall) {cid : Cid}
    {referenceId : Option String} {requestId : String}
    (called : timed.call = .release cid referenceId requestId) :
    (∃ failure, ReplicationDBV214.releaseObject timed.now cid referenceId requestId ledger.db =
        .error failure ∧ ledger.perform timed = ledger) ∨
      ∃ after result, ReplicationDBV214.releaseObject timed.now cid referenceId requestId
          ledger.db = .ok (after, result) ∧
        ledger.perform timed =
          { db := after
            unmatched := fun wanted =>
              if wanted = cid ∧ Py.stripOrNone referenceId = none then ledger.unmatched wanted - 1
              else ledger.unmatched wanted } := by
  unfold perform
  rw [called]
  dsimp only
  cases released : ReplicationDBV214.releaseObject timed.now cid referenceId requestId
      ledger.db with
  | error failure =>
      rw [commit_error released]
      exact .inl ⟨failure, rfl, rfl⟩
  | ok result =>
      rw [commit_ok released]
      exact .inr ⟨result.1, result.2, rfl, rfl⟩

/-- Releasing a reference by name takes one from `refcount` exactly when it was live. -/
theorem release_named_counts (idle : ledger.db.jobs.rows = []) {cid : Cid}
    {referenceId : Option String} {requestId : String} {reference : RefId}
    (called : timed.call = .release cid referenceId requestId)
    (named : Py.stripOrNone referenceId = some reference) :
    (ledger.perform timed).db.jobs.rows = [] ∧ ∃ dropped : Bool, ∀ wanted,
      (ledger.perform timed).db.refcount wanted =
        ledger.db.refcount wanted - (if wanted = cid ∧ dropped then 1 else 0) ∧
      (ledger.perform timed).db.liveRefs wanted + (if wanted = cid ∧ dropped then 1 else 0) =
        ledger.db.liveRefs wanted ∧
      (ledger.perform timed).unmatched wanted = ledger.unmatched wanted := by
  rcases release_cases ledger timed called with
    ⟨failure, raised, kept⟩ | ⟨after, result, released, performed⟩
  · rw [kept]
    exact ⟨idle, false, fun wanted => by simp⟩
  · rw [performed]
    have unmatched : ∀ wanted, (if wanted = cid ∧ Py.stripOrNone referenceId = none then
        ledger.unmatched wanted - 1 else ledger.unmatched wanted) = ledger.unmatched wanted := by
      intro wanted
      simp [named]
    simp only [unmatched]
    unfold ReplicationDBV214.releaseObject at released
    cases found : ledger.db.object cid with
    | none =>
        simp only [found, Except.ok.injEq, Prod.mk.injEq] at released
        rw [← released.1]
        exact ⟨idle, false, fun wanted => by simp⟩
    | some object =>
        simp only [found, named] at released
        cases known : ledger.db.objectRefs.find? reference with
        | none =>
            simp only [known, Except.ok.injEq, Prod.mk.injEq] at released
            rw [← released.1]
            exact ⟨idle, false, fun wanted => by simp⟩
        | some row =>
            simp only [known] at released
            by_cases foreign : row.cid ≠ cid
            · simp [foreign] at released
            · rw [if_neg foreign] at released
              by_cases live : row.releasedAt ≠ 0
              · rw [if_pos live] at released
                cases released
                exact ⟨idle, false, fun wanted => by simp⟩
              · rw [if_neg live] at released
                have counted := recordRelease_liveRefs requestId known (not_not.mp live)
                  timed.positive
                obtain ⟨last, answer, dropped, jobs, refs, counts⟩ :=
                  dropReference_counts timed.now
                    (ReplicationDBV214.recordRelease timed.now reference requestId ledger.db)
                    idle found
                rw [dropped] at released
                cases released
                refine ⟨jobs, true, fun wanted => ⟨?_, ?_, trivial⟩⟩
                · rw [counts]
                  simp [refcount_congr (show (ReplicationDBV214.recordRelease timed.now reference
                    requestId ledger.db).objects = ledger.db.objects from rfl)]
                · rw [liveRefs_congr refs, ← counted wanted]
                  simp [not_not.mp foreign]

/-- A release without a reference takes one from `refcount` whoever the references belong to. -/
theorem release_anonymous_counts (idle : ledger.db.jobs.rows = []) {cid : Cid}
    {referenceId : Option String} {requestId : String}
    (called : timed.call = .release cid referenceId requestId)
    (anonymous : Py.stripOrNone referenceId = none) :
    (ledger.perform timed).db.jobs.rows = [] ∧ ∀ wanted,
      (ledger.perform timed).db.refcount wanted =
        ledger.db.refcount wanted - (if wanted = cid then 1 else 0) ∧
      (ledger.perform timed).db.liveRefs wanted = ledger.db.liveRefs wanted ∧
      (ledger.perform timed).unmatched wanted =
        ledger.unmatched wanted - (if wanted = cid then 1 else 0) := by
  have unmatched : ∀ wanted, (if wanted = cid ∧ Py.stripOrNone referenceId = none then
      ledger.unmatched wanted - 1 else ledger.unmatched wanted) =
        ledger.unmatched wanted - (if wanted = cid then 1 else 0) := by
    intro wanted
    by_cases same : wanted = cid <;> simp [anonymous, same]
  cases found : ledger.db.object cid with
  | none =>
      have absent : ledger.db.refcount cid = 0 := by simp [Db.refcount, found]
      rcases release_cases ledger timed called with
        ⟨failure, raised, kept⟩ | ⟨after, result, released, performed⟩
      · simp [ReplicationDBV214.releaseObject, found] at raised
      · simp only [ReplicationDBV214.releaseObject, found, Except.ok.injEq,
          Prod.mk.injEq] at released
        rw [performed, ← released.1]
        refine ⟨idle, fun wanted => ⟨?_, rfl, unmatched wanted⟩⟩
        by_cases same : wanted = cid <;> simp [same, absent]
  | some object =>
      have counted := refcount_of_object found
      rcases release_cases ledger timed called with
        ⟨failure, raised, kept⟩ | ⟨after, result, released, performed⟩
      · by_cases gone : object.refcount = 0
        · simp [ReplicationDBV214.releaseObject, found, anonymous, gone] at raised
        · obtain ⟨last, answer, dropped, -⟩ := dropReference_counts timed.now ledger.db idle found
          simp [ReplicationDBV214.releaseObject, found, anonymous, gone, dropped] at raised
      · rw [performed]
        by_cases gone : object.refcount = 0
        · simp only [ReplicationDBV214.releaseObject, found, anonymous, gone, if_true,
            Except.ok.injEq, Prod.mk.injEq] at released
          rw [← released.1]
          refine ⟨idle, fun wanted => ⟨?_, rfl, unmatched wanted⟩⟩
          by_cases same : wanted = cid <;> simp [same, counted, gone]
        · obtain ⟨last, answer, dropped, jobs, refs, counts⟩ :=
            dropReference_counts timed.now ledger.db idle found
          simp only [ReplicationDBV214.releaseObject, found, anonymous, gone, if_false, dropped,
            Except.ok.injEq, Prod.mk.injEq] at released
          rw [← released.1]
          exact ⟨jobs, fun wanted => ⟨counts wanted, liveRefs_congr refs wanted, unmatched wanted⟩⟩

end Step

theorem exact_of_counts {ledger : Ledger}
    (counts : ∀ cid, ledger.db.refcount cid = ledger.db.liveRefs cid + ledger.unmatched cid) :
    ledger.Exact := by
  intro cid
  refine ⟨counts cid, fun object found final => ?_⟩
  have total := counts cid
  rw [refcount_of_object found] at total
  omega

/-- One call keeps an exact count exact if and only if it is matched. -/
theorem perform_exact_iff {ledger : Ledger} (idle : ledger.db.jobs.rows = [])
    (exact : ledger.Exact) (timed : TimedCall) :
    (ledger.perform timed).Exact ↔ ledger.Matched timed.call := by
  cases called : timed.call with
  | register cid sizeBytes n m sourceNode referenceId =>
      obtain ⟨-, added, counts⟩ := register_counts idle called
      refine ⟨fun _ => trivial, fun _ => exact_of_counts fun wanted => ?_⟩
      have before := (exact wanted).1
      have moved := counts wanted
      omega
  | release cid referenceId requestId =>
      cases named : Py.stripOrNone referenceId with
      | some reference =>
          obtain ⟨-, dropped, counts⟩ := release_named_counts idle called named
          refine ⟨fun _ anonymous => absurd (named.symm.trans anonymous) (by simp),
            fun _ => exact_of_counts fun wanted => ?_⟩
          have before := (exact wanted).1
          have moved := counts wanted
          omega
      | none =>
          obtain ⟨-, counts⟩ := release_anonymous_counts idle called named
          constructor
          · intro kept _
            have before := (exact cid).1
            have later := (kept cid).1
            have moved := counts cid
            simp only [if_true] at moved
            omega
          · intro matched
            refine exact_of_counts fun wanted => ?_
            have before := (exact wanted).1
            have moved := counts wanted
            by_cases same : wanted = cid
            · subst same
              simp only [if_true] at moved
              have reason := matched named
              omega
            · simp only [same, if_false] at moved
              omega

private theorem perform_idle {ledger : Ledger} (idle : ledger.db.jobs.rows = [])
    (timed : TimedCall) :
    (ledger.perform timed).db.jobs.rows = [] := by
  cases called : timed.call with
  | register cid sizeBytes n m sourceNode referenceId => exact (register_counts idle called).1
  | release cid referenceId requestId =>
      cases named : Py.stripOrNone referenceId with
      | some reference => exact (release_named_counts idle called named).1
      | none => exact (release_anonymous_counts idle called named).1

private theorem start_exact (nodes : Table Node.nodeId) : (start nodes).Exact := by
  apply exact_of_counts
  intro cid
  rfl

theorem after_idle (nodes : Table Node.nodeId) (calls : List TimedCall) :
    (after nodes calls).db.jobs.rows = [] := by
  induction calls using List.reverseRecOn with
  | nil => rfl
  | append_singleton front last ih =>
      unfold after at ih ⊢
      rw [List.foldl_append]
      exact perform_idle ih last

/-- Over any calls from an empty store, the count is exact after every call if and only if
each release without a reference is matched when it comes. -/
theorem refcount_exact_iff (nodes : Table Node.nodeId) (calls : List TimedCall) :
    (∀ front, front <+: calls → (after nodes front).Exact) ↔
      ∀ front timed, front ++ [timed] <+: calls → (after nodes front).Matched timed.call := by
  have step : ∀ front timed, after nodes (front ++ [timed]) =
      (after nodes front).perform timed := by
    intro front timed
    unfold after
    rw [List.foldl_append]
    rfl
  constructor
  · intro exact front timed prefixed
    have before := exact front ((List.prefix_append front [timed]).trans prefixed)
    have later := exact (front ++ [timed]) prefixed
    rw [step] at later
    exact (perform_exact_iff (after_idle nodes front) before timed).mp later
  · intro matched front
    induction front using List.reverseRecOn with
    | nil => exact fun _ => start_exact nodes
    | append_singleton front last ih =>
        intro prefixed
        have before := ih ((List.prefix_append front [last]).trans prefixed)
        rw [step]
        exact (perform_exact_iff (after_idle nodes front) before last).mpr
          (matched front last prefixed)

/-- A file registered under a name and released without one is final while still named. -/
theorem refcount_not_exact : ¬∀ (nodes : Table Node.nodeId) (calls : List TimedCall) (front),
    front <+: calls → (after nodes front).Exact := by
  intro always
  let calls : List TimedCall :=
    [{ now := 1000, positive := by decide, call := .register "bafy" 10 3 2 none (some "file-1") },
      { now := 2000, positive := by decide, call := .release "bafy" none "request-1" }]
  have counts := (always .empty calls calls (List.prefix_refl calls) "bafy").1
  exact absurd counts (by decide)

end Ledger

end HashBurst.Replication
