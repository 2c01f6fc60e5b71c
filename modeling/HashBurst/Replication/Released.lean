import HashBurst.Replication.Moves
import HashBurst.Replication.Planner
import HashBurst.Replication.Stranded

namespace HashBurst.Replication

open Lib ReplicationDB ReplicationDBV214 ReplicationDBV214Recovery

/-- A content without references has no desired replica, and no PIN or VERIFY job of its
generation waits. -/
def Unattended (db : Db) (cid : Cid) : Prop :=
  ∀ object, db.object cid = some object → object.refcount = 0 →
    (∀ replica ∈ db.replicaRows cid, replica.desired = false) ∧
      ∀ job ∈ db.jobs.rows, job.cid = cid → (job.operation = .pin ∨ job.operation = .verify) →
        job.generation = object.generation → job.waiting = false

def Db.unreferenced (db : Db) (cid : Cid) : Bool :=
  (db.object cid).any fun object => object.refcount = 0

def Op.heedsRelease {β : Type} (op : Op β) (db : Db) : Bool :=
  match op with
  | .createPinAssignment cid _ _ => !db.unreferenced cid
  | .createVerifyJob cid _ generation => !(db.object cid).any fun object =>
      object.refcount = 0 && object.generation = generation
  | .registerBase cid _ _ _ sourceNode referenceId =>
      !db.unreferenced cid || (sourceOf sourceNode).isNone ||
        (Py.stripOrNone referenceId).all fun reference => (db.objectRefs.find? reference).isNone
  | _ => true

def HeedsRelease (pool : EventPool) (label : Pool.Label Event Int) : Prop :=
  pool.guard (fun db _ op => op.heedsRelease db) (fun _ => true) label = true

instance (pool : EventPool) (label : Pool.Label Event Int) : Decidable (HeedsRelease pool label) :=
  inferInstanceAs (Decidable (_ = true))

/-- No `register_object` call is between its transactions. -/
def registersIdle (pool : EventPool) : Bool :=
  pool.threads.all fun thread =>
    match thread.call with
    | .register _ => thread.steps = 0 || thread.rest.finished
    | _ => true

/-- Rows and jobs are of a generation that their object has reached, and a content without
references has neither desired rows nor PIN or VERIFY jobs of its generation. -/
structure Quiet (db : Db) : Prop where
  rows : ∀ cid nodeId replica, db.replica cid nodeId = some replica →
    ∃ object, db.object cid = some object ∧ replica.generation ≤ object.generation
  jobs : ∀ job ∈ db.jobs.rows, ∃ object, db.object job.cid = some object ∧
    job.generation ≤ object.generation
  undesired : ∀ cid object, db.object cid = some object → object.refcount = 0 →
    ∀ nodeId, db.desires cid nodeId = false
  idle : ∀ job ∈ db.jobs.rows, ∀ object, db.object job.cid = some object → object.refcount = 0 →
    (job.operation = .pin ∨ job.operation = .verify) → job.generation ≠ object.generation

/-- The rows that a thread has read are not ahead of their object. -/
def Seen.Dated (seen : Seen) : Prop :=
  ∀ cid object rows, (cid, object, rows) ∈ seen.snapshots →
    ∀ row ∈ rows, row.generation ≤ object.generation

section Quiet

variable {now : Int} {db after : Db} {cid : Cid} {nodeId : NodeId} {seen : Seen}

theorem unattended_of_quiet (quiet : Quiet db) (cid : Cid) : Unattended db cid := by
  intro object found released
  refine ⟨fun replica member => ?_, fun job member named operation current => ?_⟩
  · obtain ⟨present, own⟩ := List.mem_filter.mp member
    have content : replica.cid = cid := of_decide_eq_true own
    have known : db.replica cid replica.nodeId = some replica :=
      Table.find?_some_iff.mpr ⟨present, Prod.ext content rfl⟩
    have undesired := quiet.undesired cid object found released replica.nodeId
    unfold Db.desires at undesired
    rw [known, Option.any_some] at undesired
    exact undesired
  · subst named
    exact absurd current (quiet.idle job member object found released operation)

private theorem quiet_empty : Quiet Db.empty where
  rows cid nodeId replica present := by cases present
  jobs job member := by cases member
  undesired cid object found := by cases found
  idle job member := by cases member

theorem rows_runOp {β : Type} (op : Op β) (now : Int) (quiet : Quiet db) {replica : Replica}
    (present : (runOp op now db).1.replica cid nodeId = some replica) :
    ∃ object, (runOp op now db).1.object cid = some object ∧
      replica.generation ≤ object.generation := by
  rcases (row_runOp op now db cid nodeId).dated replica present with ⟨row, found, same⟩ | raised
  · rw [same]
    exact reached_runOp op now (quiet.rows cid nodeId row found)
  · obtain ⟨object, known, same⟩ := raised
    exact ⟨object, known, same.le⟩

/-- A VERIFY job is for a generation that the object has reached. -/
theorem reached_of_dates (truthful : seen.Truthful db) (dated : seen.Dated) {generation : Nat}
    (dates : seen.dates cid generation) :
    ∃ object, db.object cid = some object ∧ generation ≤ object.generation := by
  obtain ⟨object, rows, listed, source⟩ := dates
  obtain ⟨current, found, raised, -⟩ := (truthful cid object rows listed).object
  refine ⟨current, found, ?_⟩
  rcases source with rfl | inside
  · exact raised
  · obtain ⟨row, member, rfl⟩ := List.mem_map.mp inside
    exact (dated cid object rows listed row member).trans raised

theorem created_reached {β : Type} {op : Op β} {job : Job} {graces : Int → Prop}
    (quiet : Quiet db) (truthful : seen.Truthful db) (dated : seen.Dated)
    (allowed : (plannerProtocol graces).allowed seen op) (created : op.creates now db job) :
    ∃ object, db.object job.cid = some object ∧ job.generation ≤ object.generation := by
  cases op with
  | createPinAssignment content target capacityClass =>
      obtain ⟨object, found, made⟩ := created
      rw [made]
      exact ⟨object, found, Nat.le_refl _⟩
  | createVerifyJob content target generation =>
      rw [created.2]
      exact reached_of_dates truthful dated allowed
  | createUnpinJob content target generation reason notBefore =>
      obtain ⟨object, found, plannable, made⟩ := created
      rw [made]
      refine ⟨object, found, ?_⟩
      unfold unpinPlannable at plannable
      split at plannable
      · cases plannable
      · rename_i same
        exact (not_not.mp same).ge
  | recoverV214 =>
      obtain ⟨source, listed, -, made⟩ := created
      rw [made]
      exact quiet.jobs source listed
  | _ => exact created.elim

theorem jobs_reached {β : Type} (op : Op β) (now : Int) {graces : Int → Prop} (quiet : Quiet db)
    (truthful : seen.Truthful db) (dated : seen.Dated)
    (allowed : (plannerProtocol graces).allowed seen op) {job : Job}
    (member : job ∈ (runOp op now db).1.jobs.rows) :
    ∃ object, (runOp op now db).1.object job.cid = some object ∧
      job.generation ≤ object.generation := by
  apply reached_runOp op now
  rcases (jobs_runOp op now db).origin job member with ⟨old, present, -, moved⟩ | ⟨-, created⟩
  · have same : job.purpose = old.purpose := by
      rcases moved with rfl | moves
      · rfl
      · exact moves_purpose moves
    simp only [Job.purpose, Prod.mk.injEq] at same
    rw [same.1, same.2.2.2.1]
    exact quiet.jobs old present
  · exact created_reached quiet truthful dated allowed created

theorem dropReference_clears {object : Object} {result : ReleaseResult}
    (found : db.object cid = some object)
    (done : dropReference now cid object db = .ok (after, result))
    (final : after.object cid = some (object.finallyReleased now)) (nodeId : NodeId) :
    after.desires cid nodeId = false := by
  rcases dropReference_cases done with ⟨-, rfl, -⟩ | ⟨-, -, rfl, -⟩
  · rw [object_updateObject, if_pos rfl, found, Option.map_some] at final
    have same := congrArg Object.generation (Option.some.inj final)
    exact absurd same.symm (Nat.succ_ne_self _)
  · unfold Db.desires staleWaiting
    rw [replica_updateJobs, replica_updateReplicas, replica_updateObject]
    cases present : db.replica cid nodeId with
    | none => rfl
    | some row =>
        have key := Table.find?_key present
        simp only [Replica.key, Prod.mk.injEq] at key
        simp [key.1]

theorem releaseObject_clears {object : Object} {referenceId : Option String} {requestId : String}
    {result : ReleaseResult} (found : db.object cid = some object)
    (done : releaseObject now cid referenceId requestId db = .ok (after, result))
    (final : after.object cid = some (object.finallyReleased now)) (nodeId : NodeId) :
    after.desires cid nodeId = false := by
  rcases releaseObject_cases done with ⟨rfl, -⟩ | ⟨owner, refs, known, done⟩
  · rw [found] at final
    have generation := congrArg Object.generation (Option.some.inj final)
    exact absurd generation.symm (Nat.succ_ne_self _)
  · cases found.symm.trans known
    exact dropReference_clears (show Db.object { db with objectRefs := refs } cid = some object
      from found) done final nodeId

theorem addReference_new {sizeBytes n m : Int} {referenceId : Option RefId} {added : Bool}
    (unknown : (referenceId.all fun reference => (db.objectRefs.find? reference).isNone) = true)
    (done : addReference now cid sizeBytes n m referenceId db = .ok (after, added)) :
    added = true := by
  rcases addReference_cases done with ⟨-, -, known⟩ | ⟨new, -⟩
  · obtain ⟨reference, rfl⟩ := Option.isSome_iff_exists.mp known
    rw [Option.all_some] at unknown
    have absent : db.objectRefs.find? reference = none := Option.isNone_iff_eq_none.mp unknown
    simp only [addReference, absent, bind, Except.bind] at done
    split at done
    · cases done
    · split at done
      · cases done
      · cases done
        rfl
  · exact new

/-- A registration that heeds the release makes no row of a released content desired, unless it
counts a reference. -/
theorem registerBase_undesired {sizeBytes n m : Int} {sourceNode : Option NodeId}
    {referenceId : Option String} {out : Registration} {object later : Object}
    (found : db.object cid = some object) (released : object.refcount = 0)
    (heeds : (Op.registerBase cid sizeBytes n m sourceNode referenceId).heedsRelease db = true)
    (done : ReplicationDB.registerObject now cid sizeBytes n m sourceNode referenceId db =
      .ok (after, out))
    (known : after.object cid = some later) (still : later.refcount = 0) :
    after.replicas = db.replicas := by
  have unreferenced : db.unreferenced cid = true := by simp [Db.unreferenced, found, released]
  simp only [Op.heedsRelease, unreferenced, Bool.not_true, Bool.false_or, Bool.or_eq_true] at heeds
  obtain ⟨middle, counted, sourced⟩ := registerBase_cases done
  have rows := addReference_replicas counted
  rcases sourced with ⟨-, rfl⟩ | ⟨source, named, written⟩
  · exact rows
  · rcases heeds with none | unknown
    · rw [named] at none
      cases none
    · have new := addReference_new unknown counted
      rcases addReference_cases counted with ⟨-, old, -⟩ | ⟨-, kept, retained, recorded⟩
      · rw [new] at old
        cases old
      · have own := (retain_object retained).1.2
        rw [found] at own
        have middle_object : middle.object cid = kept.object cid := by
          rcases recorded with ⟨-, rfl⟩ | ⟨reference, -, inserted⟩
          · rfl
          · exact object_congr (recordReference_objects inserted).1 cid
        rw [object_congr (upsertSource_tables written).2.1, middle_object, own] at known
        rw [← Option.some.inj known] at still
        exact absurd still (Nat.succ_ne_zero _)

theorem undesired_runOp {β : Type} (op : Op β) (now : Int) (quiet : Quiet db)
    (heeds : op.heedsRelease db = true) {later : Object}
    (known : (runOp op now db).1.object cid = some later) (released : later.refcount = 0)
    (nodeId : NodeId) : (runOp op now db).1.desires cid nodeId = false := by
  cases found : db.object cid with
  | none =>
      have one := (object_born op now found known).1
      omega
  | some object =>
      obtain ⟨next, present, moved⟩ := object_runOp op now found
      rw [known] at present
      cases Option.some.inj present
      have kept : object.refcount = 0 → ¬op.assigns db cid nodeId →
          (runOp op now db).1.desires cid nodeId = false := by
        intro before silent
        refine Bool.eq_false_of_not_eq_true fun desired => ?_
        rcases (row_runOp op now db cid nodeId).desired desired with old | assigns
        · rw [quiet.undesired cid object found before nodeId] at old
          cases old
        · exact silent assigns
      rcases moved with core | shifts
      · have same : later.core.refcount = object.core.refcount := by rw [core]
        have before : object.refcount = 0 := same.symm.trans released
        have unreferenced : db.unreferenced cid = true := by
          simpa [Db.unreferenced, found] using before
        cases op with
        | createPinAssignment content target capacityClass =>
            refine kept before fun assigns => ?_
            rw [Op.heedsRelease, assigns.1, unreferenced] at heeds
            cases heeds
        | registerBase content sizeBytes n m sourceNode referenceId =>
            by_cases own : content = cid
            · subst own
              refine commit_invariant (fun state => ∀ later, state.object content = some later →
                later.refcount = 0 → state.desires content nodeId = false) ?_
                (fun after out done later known released => ?_) later known released
              · exact fun _ _ _ => quiet.undesired content object found before nodeId
              · have rows := registerBase_undesired found before heeds done known released
                unfold Db.desires
                rw [replica_congr rows]
                exact quiet.undesired content object found before nodeId
            · exact kept before fun assigns => own assigns.1
        | registerBump content oldPolicy =>
            refine kept before fun assigns => ?_
            obtain ⟨-, current, same, positive, -⟩ := assigns
            rw [found] at same
            cases same
            exact absurd before positive.ne'
        | _ => exact kept before fun assigns => assigns
      · cases op with
        | registerBase content sizeBytes n m sourceNode referenceId =>
            rw [shifts.2] at released
            exact absurd released (Nat.succ_ne_zero _)
        | registerBump content oldPolicy =>
            have before : object.refcount = 0 := by
              rw [shifts.2.2] at released
              exact released
            refine kept before fun assigns => ?_
            obtain ⟨-, current, same, positive, -⟩ := assigns
            rw [found] at same
            cases same
            exact absurd before positive.ne'
        | releaseObject content referenceId requestId =>
            obtain ⟨own, dropped⟩ := shifts
            have same : content = cid := own.symm.trans (object_cid found)
            subst same
            rcases dropped with ⟨counted, rfl⟩ | ⟨-, -, rfl⟩
            · exact absurd released counted
            · refine commit_invariant (fun state =>
                state.object content = some (object.finallyReleased now) →
                  state.desires content nodeId = false) (fun same => ?_)
                (fun after out done final => releaseObject_clears found done final nodeId) known
              rw [found] at same
              have generation := congrArg Object.generation (Option.some.inj same)
              exact absurd generation.symm (Nat.succ_ne_self _)
        | _ => exact shifts.elim

/-- A job of the generation that a content without references has after the access had it before. -/
theorem released_generation {β : Type} (op : Op β) (now : Int) {object later : Object}
    (found : db.object cid = some object) (known : (runOp op now db).1.object cid = some later)
    (released : later.refcount = 0) :
    (object.refcount = 0 ∧ later.generation = object.generation) ∨
      (later.generation = object.generation + 1 ∧ ∀ job, ¬op.creates now db job) := by
  obtain ⟨next, present, moved⟩ := object_runOp op now found
  rw [known] at present
  cases Option.some.inj present
  rcases moved with core | shifts
  · have refcount : later.core.refcount = object.core.refcount := by rw [core]
    have generation : later.core.generation = object.core.generation := by rw [core]
    exact .inl ⟨refcount.symm.trans released, generation⟩
  · cases op with
    | registerBase =>
        rw [shifts.2] at released
        exact absurd released (Nat.succ_ne_zero _)
    | registerBump =>
        rw [shifts.2.2]
        exact .inr ⟨rfl, fun job => id⟩
    | releaseObject =>
        rcases shifts.2 with ⟨counted, rfl⟩ | ⟨-, -, rfl⟩
        · exact absurd released counted
        · exact .inr ⟨rfl, fun job => id⟩
    | _ => exact shifts.elim

theorem idle_runOp {β : Type} (op : Op β) (now : Int) (quiet : Quiet db)
    (heeds : op.heedsRelease db = true) {job : Job} {later : Object}
    (member : job ∈ (runOp op now db).1.jobs.rows)
    (known : (runOp op now db).1.object job.cid = some later) (released : later.refcount = 0)
    (operation : job.operation = .pin ∨ job.operation = .verify) :
    job.generation ≠ later.generation := by
  cases found : db.object job.cid with
  | none =>
      have one := (object_born op now found known).1
      omega
  | some object =>
      have origin := (jobs_runOp op now db).origin job member
      have dated := released_generation op now found known released
      rcases origin with ⟨old, present, -, moved⟩ | ⟨-, created⟩
      · have same : job.purpose = old.purpose := by
          rcases moved with rfl | moves
          · rfl
          · exact moves_purpose moves
        simp only [Job.purpose, Prod.mk.injEq] at same
        obtain ⟨content, -, kind, generation, -⟩ := same
        rw [content] at found
        rw [kind] at operation
        rw [generation]
        rcases dated with ⟨before, level⟩ | ⟨raised, -⟩
        · rw [level]
          exact quiet.idle old present object found before operation
        · obtain ⟨owner, owned, below⟩ := quiet.jobs old present
          rw [found] at owned
          cases owned
          omega
      · rcases dated with ⟨before, level⟩ | ⟨-, none⟩
        · cases op with
          | createPinAssignment content target capacityClass =>
              obtain ⟨owner, -, made⟩ := created
              have named : job.cid = content := by rw [made]; rfl
              rw [Op.heedsRelease, ← named] at heeds
              simp [Db.unreferenced, found, before] at heeds
          | createVerifyJob content target generation =>
              have made := created.2
              have named : job.cid = content := by rw [made]; rfl
              have dates : job.generation = generation := by rw [made]; rfl
              rw [Op.heedsRelease, ← named, ← dates] at heeds
              simp only [found, Option.any_some, before, decide_true, Bool.true_and] at heeds
              rw [level]
              intro same
              simp [same] at heeds
          | createUnpinJob content target generation reason notBefore =>
              obtain ⟨owner, -, -, made⟩ := created
              rw [made] at operation
              rcases operation with pin | verify
              · cases pin
              · cases verify
          | recoverV214 =>
              obtain ⟨source, -, -, made⟩ := created
              rw [made] at operation
              rcases operation with pin | verify
              · cases pin
              · cases verify
          | _ => exact created.elim
        · exact absurd created (none job)

private theorem quiet_runOp {β : Type} (op : Op β) (now : Int) {graces : Int → Prop}
    (quiet : Quiet db)
    (heeds : op.heedsRelease db = true) (truthful : seen.Truthful db) (dated : seen.Dated)
    (allowed : (plannerProtocol graces).allowed seen op) : Quiet (runOp op now db).1 where
  rows _ _ _ present := rows_runOp op now quiet present
  jobs _ member := jobs_reached op now quiet truthful dated allowed member
  undesired _ _ known released := undesired_runOp op now quiet heeds known released
  idle _ member _ known released operation :=
    idle_runOp op now quiet heeds member known released operation

theorem dated_learn {β : Type} (op : Op β) (now : Int) {graces : Int → Prop} (quiet : Quiet db)
    (dated : seen.Dated) : ((plannerProtocol graces).learn seen op (runOp op now db).2).Dated := by
  intro cid object rows member row inside
  rcases learn_snapshots op now db member with old | ⟨found, rfl, -⟩
  · exact dated cid object rows old row inside
  · obtain ⟨present, own⟩ := List.mem_filter.mp ((List.mem_insertionSort _).mp inside)
    have content : row.cid = cid := of_decide_eq_true own
    have known : db.replica cid row.nodeId = some row :=
      Table.find?_some_iff.mpr ⟨present, Prod.ext content rfl⟩
    obtain ⟨current, owned, below⟩ := quiet.rows cid row.nodeId row known
    rw [found] at owned
    cases owned
    exact below

private theorem quiet_sound {graces : Int → Prop} : (plannerProtocol graces).Sound runOp
    (fun db _ op => op.heedsRelease db) Quiet (fun db seen => seen.Truthful db ∧ seen.Dated) where
  keeps op now _ _ heeds quiet knows allowed :=
    quiet_runOp op now quiet heeds knows.1 knows.2 allowed
  learns op now _ _ _ quiet knows _ := ⟨truthful_learn op now knows.1, dated_learn op now quiet knows.2⟩
  stable op now _ _ _ _ _ _ _ knows := ⟨truthful_runOp op now knows.1, knows.2⟩

end Quiet

/-- In a run whose accesses plan no work for contents without references, these have none, also
while a registration is between its transactions. -/
theorem released_unattended {pool : EventPool}
    (run : eventMachine.Run HeedsRelease freshEvents pool) (cid : Cid) :
    Unattended pool.shared cid := by
  have start : freshEvents.Informed (plannerProtocol fun _ => True) Quiet
      fun db seen => seen.Truthful db ∧ seen.Dated := by
    refine ⟨quiet_empty, fun thread member => ?_⟩
    cases member
  have informed := quiet_sound.run_informed (fun event _ => ?_) start run
  · exact unattended_of_quiet informed.holds cid
  · refine ⟨⟨[], []⟩, fun db _ => ⟨seen_nothing db, ?_⟩, event_obeys event ?_⟩
    · intro content object rows member
      cases member
    · cases event <;> trivial

def registered : List (Pool.Label Event Int) :=
  serve 0 [(1, 1000, .upsertNode { nodeId := "alpha", capacityClass := .committable }),
    (1, 1000, .heartbeat "alpha" 20000000000 0),
    (3, 1000, .register
      { cid := "bafy", sizeBytes := 10, n := 1, m := 1, sourceNode := none, referenceId := none })]

/-- The object is assigned, and released while its first copy is pinned. -/
def servedPool : EventPool :=
  (eventMachine.play HeedsRelease freshEvents (registered ++ serve 3
    [(12, 1010, .reconcile pinOnlyController "bafy"), (1, 1020, .release "bafy" none "req"),
      (3, 1030, .report "alpha" { jobId := 0, state := .pinned })])).get (by decide)

theorem served_unattended : Unattended servedPool.shared "bafy" :=
  released_unattended (Machine.Run.of_play (Option.some_get _).symm) "bafy"

/-- The object is released after the reconcile has chosen a node for its copy. -/
def attendedPool : EventPool :=
  (eventMachine.play (fun _ _ => True) freshEvents (registered ++
    .start (.reconcile pinOnlyController "bafy") :: List.replicate 8 (.step 3 1010) ++
    serve 4 [(1, 1010, .release "bafy" none "req")] ++ List.replicate 4 (.step 3 1020))).get
      (by decide)

theorem released_attended : ¬∀ (pool : EventPool) (cid : Cid),
    eventMachine.Run (fun _ _ => True) freshEvents pool → registersIdle pool = true →
      Unattended pool.shared cid := by
  intro always
  have unattended : Unattended attendedPool.shared "bafy" :=
    always attendedPool "bafy" (Machine.Run.of_play (Option.some_get _).symm) (by decide)
  let object : Object :=
    { cid := "bafy", sizeBytes := 10, createdAt := 1000, replicationN := 1, committableM := 1
      state := .degradedCommittable, reason := "confirmed_committable=0 required=1"
      generation := 2, refcount := 0, releasedAt := 1010 }
  let job : Job :=
    { jobId := 0, cid := "bafy", nodeId := "alpha", operation := .pin, generation := 2
      nextAttemptAt := 1020, createdAt := 1020, updatedAt := 1020 }
  have found : attendedPool.shared.object "bafy" = some object := by decide
  have idle := (unattended object found rfl).2 job (by decide) rfl (.inl rfl) rfl
  cases idle

end HashBurst.Replication
