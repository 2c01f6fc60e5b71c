import HashBurst.Replication.FullMode
import HashBurst.Replication.Trim

namespace HashBurst.Replication

open Lib ReplicationDB ReplicationDBV214 ReplicationDBV214Recovery

/-- How an access changes the lifecycle columns of an object, if it does. -/
def Op.shifts {β : Type} (op : Op β) (now : Int) (db : Db) (object later : Object) : Prop :=
  match op with
  | .registerBase cid _ n m _ _ => object.cid = cid ∧ later = object.retained n m
  | .registerBump cid oldPolicy =>
      object.cid = cid ∧ bumps object oldPolicy = true ∧ later = object.bumped
  | .releaseObject cid _ _ => object.cid = cid ∧
      ((object.refcount - 1 ≠ 0 ∧ later = { object with refcount := object.refcount - 1 }) ∨
        (object.refcount - 1 = 0 ∧ unpinAuthorized db cid = false ∧
          later = object.finallyReleased now))
  | _ => False

def Op.requests {β : Type} (op : Op β) (replicationN committableM : Int) : Prop :=
  match op with
  | .registerBase _ _ n m _ _ => replicationN = n ∧ committableM = m
  | _ => False

section Objects

variable {now : Int} {db : Db} {cid : Cid} {object : Object}

theorem object_tx {α : Type} {tx : Tx α} {moves : Object → Prop}
    (found : db.object cid = some object) (kept : moves object)
    (each : ∀ after value, tx db = .ok (after, value) →
      ∃ later, after.object cid = some later ∧ moves later) :
    ∃ later, (tx.commit db).1.object cid = some later ∧ moves later :=
  commit_invariant (fun state => ∃ later, state.object cid = some later ∧ moves later)
    ⟨object, found, kept⟩ each

/-- An object stays, and its lifecycle columns change as `Op.shifts` says. -/
theorem object_runOp {β : Type} (op : Op β) (now : Int) (found : db.object cid = some object) :
    ∃ later, (runOp op now db).1.object cid = some later ∧
      (later.core = object.core ∨ op.shifts now db object later) := by
  have named : object.cid = cid := object_cid found
  by_cases quiet : op.writes cid = false
  · have core := core_runOp op now db quiet
    rw [core_of_object found] at core
    obtain ⟨later, present, same⟩ := object_of_core core
    exact ⟨later, present, .inl same⟩
  · cases op with
    | registerBase content sizeBytes n m sourceNode referenceId =>
        have own : content = cid := by simpa [Op.writes] using quiet
        subst own
        refine object_tx found (.inl rfl) fun after out done => ?_
        have kept := (registerBase_object done).2
        rw [found] at kept
        rcases kept with unchanged | retained
        · exact ⟨object, unchanged, .inl rfl⟩
        · exact ⟨_, retained, .inr ⟨named, rfl⟩⟩
    | registerBump content oldPolicy =>
        have own : content = cid := by simpa [Op.writes] using quiet
        subst own
        refine ⟨if bumps object oldPolicy then object.bumped else object, ?_, ?_⟩
        · simp only [runOp]
          rw [registerBump_object, if_pos rfl, found, Option.map_some]
        · split
          · rename_i bumping
            exact .inr ⟨named, bumping, rfl⟩
          · exact .inl rfl
    | releaseObject content referenceId requestId =>
        have own : content = cid := by simpa [Op.writes] using quiet
        subst own
        refine object_tx found (.inl rfl) fun after out done => ?_
        have kept := (releaseObject_object done).2
        rw [found] at kept
        rcases kept with unchanged | ⟨owner, owned, dropped⟩
        · exact ⟨object, unchanged, .inl rfl⟩
        · cases owned
          rcases dropped with ⟨counted, left⟩ | ⟨last, idle, final⟩
          · exact ⟨_, left, .inr ⟨named, .inl ⟨counted, rfl⟩⟩⟩
          · exact ⟨_, final, .inr ⟨named, .inr ⟨last, idle, rfl⟩⟩⟩
    | _ => exact absurd rfl quiet

/-- An object that appears has one reference, was never released, and has the policy asked for. -/
theorem object_born {β : Type} (op : Op β) (now : Int) (absent : db.object cid = none)
    {later : Object} (born : (runOp op now db).1.object cid = some later) :
    later.refcount = 1 ∧ later.releasedAt = 0 ∧
      op.requests later.replicationN later.committableM := by
  by_cases quiet : op.writes cid = false
  · have core := core_runOp op now db quiet
    unfold Db.core at core
    rw [absent, born] at core
    cases core
  · cases op with
    | registerBase content sizeBytes n m sourceNode referenceId =>
        have own : content = cid := by simpa [Op.writes] using quiet
        subst own
        refine commit_invariant (fun state => ∀ later, state.object content = some later →
          later.refcount = 1 ∧ later.releasedAt = 0 ∧ later.replicationN = n ∧
            later.committableM = m) ?_ (fun after out done later born => ?_) later born
        · intro other known
          rw [absent] at known
          cases known
        · have kept := (registerBase_object done).2
          rw [absent, born] at kept
          rcases kept with unchanged | created
          · cases unchanged
          · rw [Option.some.inj created]
            exact ⟨rfl, rfl, rfl, rfl⟩
    | registerBump content oldPolicy =>
        have own : content = cid := by simpa [Op.writes] using quiet
        subst own
        simp only [runOp] at born
        rw [registerBump_object, if_pos rfl, absent] at born
        cases born
    | releaseObject content referenceId requestId =>
        have own : content = cid := by simpa [Op.writes] using quiet
        subst own
        have gone : (runOp (.releaseObject content referenceId requestId) now db).1.object content =
            none := by
          refine commit_invariant (fun state => state.object content = none) absent ?_
          intro after out done
          rcases (releaseObject_object done).2 with unchanged | ⟨object, known, -⟩
          · rw [unchanged, absent]
          · rw [absent] at known
            cases known
        rw [gone] at born
        cases born
    | _ => exact absurd rfl quiet

/-- A generation is only ever raised, and `released_at` moves with it. -/
theorem generation_runOp {β : Type} (op : Op β) (now : Int) (found : db.object cid = some object) :
    ∃ later, (runOp op now db).1.object cid = some later ∧
      object.generation ≤ later.generation ∧
        (later.generation = object.generation → later.releasedAt = object.releasedAt) := by
  obtain ⟨later, present, moved⟩ := object_runOp op now found
  refine ⟨later, present, ?_⟩
  rcases moved with core | shifts
  · have generation : later.core.generation = object.core.generation := by rw [core]
    have releasedAt : later.core.releasedAt = object.core.releasedAt := by rw [core]
    exact ⟨generation.ge, fun _ => releasedAt⟩
  · cases op with
    | registerBase =>
        rw [shifts.2]
        exact ⟨Nat.le_refl _, fun _ => rfl⟩
    | registerBump =>
        rw [shifts.2.2]
        exact ⟨Nat.le_succ _, fun same => absurd same (Nat.succ_ne_self _)⟩
    | releaseObject =>
        rcases shifts.2 with ⟨-, rfl⟩ | ⟨-, -, rfl⟩
        · exact ⟨Nat.le_refl _, fun _ => rfl⟩
        · exact ⟨Nat.le_succ _, fun same => absurd same (Nat.succ_ne_self _)⟩
    | _ => exact shifts.elim

theorem reached_runOp {β : Type} (op : Op β) (now : Int) {generation : Nat}
    (reached : ∃ object, db.object cid = some object ∧ generation ≤ object.generation) :
    ∃ object, (runOp op now db).1.object cid = some object ∧ generation ≤ object.generation := by
  obtain ⟨object, found, below⟩ := reached
  obtain ⟨later, present, raised, -⟩ := generation_runOp op now found
  exact ⟨later, present, below.trans raised⟩

end Objects

/-- The accesses that make a row desired, or write one that is. -/
def Op.assigns {β : Type} (op : Op β) (db : Db) (cid : Cid) (nodeId : NodeId) : Prop :=
  match op with
  | .createPinAssignment content target _ => content = cid ∧ target = nodeId
  | .registerBase content _ _ _ sourceNode _ => content = cid ∧ sourceOf sourceNode = some nodeId
  | .registerBump content _ => content = cid ∧ ∃ object, db.object cid = some object ∧
      object.refcount > 0 ∧ object.releasedAt ≠ 0
  | _ => False

/-- The row stays, is desired afterwards only if it was or the access makes it so, and has its old
generation or the object's. -/
structure RowKept (grants : Prop) (cid : Cid) (nodeId : NodeId) (db after : Db) : Prop where
  stays : (db.replica cid nodeId).isSome = true → (after.replica cid nodeId).isSome = true
  desired : after.desires cid nodeId = true → db.desires cid nodeId = true ∨ grants
  dated : ∀ later, after.replica cid nodeId = some later →
    (∃ row, db.replica cid nodeId = some row ∧ later.generation = row.generation) ∨
      ∃ object, after.object cid = some object ∧ later.generation = object.generation

section Rows

variable {now : Int} {db after : Db} {cid : Cid} {nodeId : NodeId} {grants : Prop}

theorem rowKept_congr (same : after.replicas = db.replicas) :
    RowKept grants cid nodeId db after where
  stays present := by rwa [replica_congr same]
  desired wanted := by
    unfold Db.desires at *
    rw [replica_congr same] at wanted
    exact .inl wanted
  dated later present := by
    rw [replica_congr same] at present
    exact .inl ⟨later, present, rfl⟩

theorem rowKept_update (which : Replica → Bool) (change : Replica → Replica)
    (keeps : ∀ replica, (change replica).key = replica.key)
    (same : after.replicas = (db.updateReplicas which change keeps).replicas)
    (spares : ∀ row, db.replica cid nodeId = some row → which row = true →
      (change row).desired = true → row.desired = true ∨ grants)
    (dates : ∀ row, db.replica cid nodeId = some row → which row = true →
      (change row).generation = row.generation ∨
        ∃ object, after.object cid = some object ∧ (change row).generation = object.generation) :
    RowKept grants cid nodeId db after := by
  have lookup := (replica_congr same cid nodeId).trans
    (replica_updateReplicas db cid nodeId which change keeps)
  refine ⟨fun present => ?_, fun wanted => ?_, fun later present => ?_⟩
  · rw [lookup, Option.isSome_map]
    exact present
  · unfold Db.desires at *
    rw [lookup] at wanted
    cases found : db.replica cid nodeId with
    | none =>
        rw [found] at wanted
        cases wanted
    | some row =>
        rw [found, Option.map_some, Option.any_some] at wanted
        split at wanted
        · rename_i chosen
          exact spares row found chosen wanted
        · exact .inl wanted
  · rw [lookup] at present
    obtain ⟨row, found, rfl⟩ := Option.map_eq_some_iff.mp present
    split
    · rename_i chosen
      rcases dates row found chosen with kept | raised
      · exact .inl ⟨row, found, kept⟩
      · exact .inr raised
    · exact .inl ⟨row, found, rfl⟩

theorem rowKept_commit {α : Type} {tx : Tx α}
    (each : ∀ after value, tx db = .ok (after, value) → RowKept grants cid nodeId db after) :
    RowKept grants cid nodeId db (tx.commit db).1 :=
  commit_invariant (RowKept grants cid nodeId db) (rowKept_congr rfl) each

/-- One row of the update of `updateReplica`. -/
theorem rowKept_updateReplica {content : Cid} {target : NodeId} {change : Replica → Replica}
    {keeps : ∀ replica, (change replica).key = replica.key}
    (same : after.replicas = (db.updateReplica content target change keeps).replicas)
    (spares : ∀ row, (change row).desired = true → row.desired = true)
    (dates : ∀ row, (change row).generation = row.generation) :
    RowKept grants cid nodeId db after :=
  rowKept_update _ change keeps same (fun row _ _ desired => .inl (spares row desired))
    fun row _ _ => .inl (dates row)

theorem createPinAssignment_row {content : Cid} {target : NodeId} {capacityClass : CapacityClass}
    {answer : Option JobId}
    (done : createPinAssignment now content target capacityClass db = .ok (after, answer)) :
    RowKept (content = cid ∧ target = nodeId) cid nodeId db after := by
  obtain ⟨object, found, made⟩ := createPinAssignment_cases done
  have assigned : ∀ after, after.replicas =
      (assignReplica now content target capacityClass object.generation db).replicas →
      after.objects = db.objects → RowKept (content = cid ∧ target = nodeId) cid nodeId db after := by
    intro after rows objects
    have lookup := (replica_congr rows cid nodeId).trans (replica_assignReplica cid nodeId)
    by_cases here : content = cid ∧ target = nodeId
    · obtain ⟨rfl, rfl⟩ := here
      rw [if_pos ⟨rfl, rfl⟩] at lookup
      refine ⟨fun _ => by rw [lookup]; rfl, fun _ => .inr ⟨rfl, rfl⟩, fun later present => ?_⟩
      refine .inr ⟨object, (object_congr objects content).trans found, ?_⟩
      rw [lookup] at present
      cases Option.some.inj present
      split <;> rfl
    · rw [if_neg here] at lookup
      refine ⟨fun present => by rwa [lookup], fun wanted => ?_, fun later present => ?_⟩
      · unfold Db.desires at *
        rw [lookup] at wanted
        exact .inl wanted
      · rw [lookup] at present
        exact .inl ⟨later, present, rfl⟩
  obtain rfl | ⟨-, rfl⟩ | rfl := made
  · exact rowKept_congr rfl
  · exact assigned _ rfl rfl
  · exact assigned _ rfl rfl

theorem applyJobReport_row {reporter : NodeId} {report : Report}
    (done : ReplicationDB.applyJobReport now reporter report db = .ok (after, ())) :
    RowKept grants cid nodeId db after := by
  obtain ⟨job, -, reported⟩ := applyJobReport_cases done
  cases reported with
  | stale => exact rowKept_congr rfl
  | ignored => exact rowKept_congr rfl
  | pinned => exact rowKept_updateReplica rfl (fun _ desired => desired) fun _ => rfl
  | verified => exact rowKept_updateReplica rfl (fun _ desired => desired) fun _ => rfl
  | failed => exact rowKept_updateReplica rfl (fun _ desired => desired) fun _ => rfl

theorem applyUnpinReport_row {reporter : NodeId} {report : Report}
    (done : applyUnpinReport now reporter report db = .ok (after, ())) :
    RowKept grants cid nodeId db after := by
  obtain ⟨job, -, reported⟩ := applyUnpinReport_cases done
  cases reported with
  | stale => exact rowKept_congr rfl
  | ignored => exact rowKept_congr rfl
  | unpinned => exact rowKept_updateReplica rfl (fun _ desired => by cases desired) fun _ => rfl
  | failed => exact rowKept_congr rfl

theorem applyUnpinVerifyReport_row {reporter : NodeId} {report : Report}
    (done : applyUnpinVerifyReport now reporter report db = .ok (after, ())) :
    RowKept grants cid nodeId db after := by
  obtain ⟨job, -, reported⟩ := applyUnpinVerifyReport_cases done
  cases reported with
  | stale => exact rowKept_congr rfl
  | ignored => exact rowKept_congr rfl
  | unpinned => exact rowKept_updateReplica rfl (fun _ desired => by cases desired) fun _ => rfl
  | verified => exact rowKept_updateReplica rfl (fun _ desired => by cases desired) fun _ => rfl
  | failed => exact rowKept_congr rfl

theorem registerBase_row {content : Cid} {sizeBytes n m : Int} {sourceNode : Option NodeId}
    {referenceId : Option String} {out : Registration}
    (done : ReplicationDB.registerObject now content sizeBytes n m sourceNode referenceId db =
      .ok (after, out)) :
    RowKept (content = cid ∧ sourceOf sourceNode = some nodeId) cid nodeId db after := by
  obtain ⟨middle, counted, sourced⟩ := registerBase_cases done
  have same := addReference_replicas counted
  rcases sourced with ⟨-, rfl⟩ | ⟨source, named, written⟩
  · exact rowKept_congr same
  · unfold upsertSource at written
    split at written
    · rename_i node object known found
      cases written
      have lookup := Table.find?_upsert middle.replicas
        { cid := content, nodeId := source, state := .pinned, classAtAssignment := node.capacityClass,
          assignedAt := now, confirmedAt := now, lastVerifiedAt := now,
          generation := object.generation }
        (fun replica => { replica with
          desired := true, state := .pinned, confirmedAt := now, lastVerifiedAt := now,
          generation := object.generation, lastError := "" }) (fun _ => rfl) (cid, nodeId)
      by_cases here : (content, source) = (cid, nodeId)
      · cases here
        rw [if_pos rfl] at lookup
        refine ⟨fun _ => ?_, fun _ => .inr ⟨rfl, named⟩, fun later present => ?_⟩
        · exact Option.isSome_iff_exists.mpr ⟨_, lookup⟩
        · refine .inr ⟨object, found, ?_⟩
          cases Option.some.inj (lookup.symm.trans present)
          split <;> rfl
      · rw [if_neg here] at lookup
        have unchanged := lookup.trans (replica_congr same cid nodeId)
        refine ⟨fun present => ?_, fun wanted => ?_, fun later present => ?_⟩
        · exact (congrArg Option.isSome unchanged).trans present
        · exact .inl ((congrArg (Option.any Replica.desired) unchanged).symm.trans wanted)
        · exact .inl ⟨later, unchanged.symm.trans present, rfl⟩
    · cases written

theorem registerBump_row {content : Cid} {oldPolicy : Option (Int × Int)} :
    RowKept ((Op.registerBump content oldPolicy).assigns db cid nodeId) cid nodeId db
      (registerBump now content oldPolicy db) := by
  have objects := registerBump_object now content oldPolicy db content
  rw [if_pos rfl] at objects
  unfold registerBump at objects ⊢
  cases found : db.object content with
  | none => exact rowKept_congr rfl
  | some object =>
      rw [found] at objects
      dsimp only at objects ⊢
      by_cases bumping : bumps object oldPolicy = true
      · rw [if_pos bumping, Option.map_some, if_pos bumping] at objects
        rw [if_pos bumping]
        have own : ∀ row, db.replica cid nodeId = some row → row.cid = content → content = cid := by
          intro row present named
          have key := Table.find?_key present
          simp only [Replica.key, Prod.mk.injEq] at key
          exact named.symm.trans key.1
        split
        · rename_i resurrected
          rw [if_pos resurrected] at objects
          simp only [Bool.and_eq_true, decide_eq_true_eq] at resurrected
          refine rowKept_update _ _ ?_ rfl (fun row present chosen _ => .inr ?_)
            fun row present chosen => .inr ?_
          · exact fun _ => rfl
          · simp only [Bool.and_eq_true, decide_eq_true_eq] at chosen
            cases own row present chosen.1
            exact ⟨rfl, object, found, resurrected⟩
          · simp only [Bool.and_eq_true, decide_eq_true_eq] at chosen
            cases own row present chosen.1
            exact ⟨_, objects, rfl⟩
        · rename_i policy
          rw [if_neg policy] at objects
          refine rowKept_update _ _ ?_ rfl (fun _ _ _ desired => .inl desired)
            fun row present chosen => .inr ?_
          · exact fun _ => rfl
          · cases own row present (of_decide_eq_true chosen)
            exact ⟨_, objects, rfl⟩
      · rw [if_neg bumping]
        exact rowKept_congr rfl

theorem releaseObject_row {content : Cid} {referenceId : Option String} {requestId : String}
    {result : ReleaseResult}
    (done : releaseObject now content referenceId requestId db = .ok (after, result)) :
    RowKept grants cid nodeId db after := by
  rcases releaseObject_cases done with ⟨rfl, -⟩ | ⟨object, refs, found, done⟩
  · exact rowKept_congr rfl
  · have objects := (dropReference_object (show
      Db.object { db with objectRefs := refs } content = some object from found) done).2
    rcases dropReference_cases done with ⟨-, rfl, -⟩ | ⟨last, -, rfl, -⟩
    · exact rowKept_congr rfl
    · refine rowKept_update (fun replica => replica.cid = content)
        (fun replica => { replica with desired := false, generation := object.generation + 1 })
        (fun _ => rfl) rfl (fun _ _ _ desired => by cases desired) fun row present chosen => .inr ?_
      have key := Table.find?_key present
      simp only [Replica.key, Prod.mk.injEq] at key
      rw [← key.1, of_decide_eq_true chosen]
      rcases objects with ⟨counted, -⟩ | ⟨-, -, final⟩
      · exact absurd last counted
      · exact ⟨_, final, rfl⟩

/-- No access drops a row, and only `Op.assigns` makes one desired. -/
theorem row_runOp {β : Type} (op : Op β) (now : Int) (db : Db) (cid : Cid) (nodeId : NodeId) :
    RowKept (op.assigns db cid nodeId) cid nodeId db (runOp op now db).1 := by
  cases op with
  | time => exact rowKept_congr rfl
  | object => exact rowKept_congr rfl
  | objects => exact rowKept_congr rfl
  | replicaRows => exact rowKept_congr rfl
  | nodes => exact rowKept_congr rfl
  | placementLoad => exact rowKept_congr rfl
  | activeUnpinNodes => exact rowKept_congr rfl
  | jobOperation => exact rowKept_congr rfl
  | upsertNode => exact rowKept_congr rfl
  | updateObjectHealth => exact rowKept_congr rfl
  | registerGuard => exact rowKept_congr rfl
  | markReplicaState => exact rowKept_updateReplica rfl (fun _ desired => desired) fun _ => rfl
  | heartbeat =>
      refine rowKept_commit fun after _ done => ?_
      obtain ⟨nodes, rfl⟩ := heartbeat_nodes done
      exact rowKept_congr rfl
  | createPinAssignment => exact rowKept_commit fun _ _ done => createPinAssignment_row done
  | createVerifyJob =>
      refine rowKept_commit fun after _ done => ?_
      obtain rfl | ⟨-, rfl⟩ := createVerifyJob_cases done
      · exact rowKept_congr rfl
      · exact rowKept_congr rfl
  | createUnpinJob =>
      exact rowKept_commit fun _ _ done => rowKept_congr (createUnpinJob_same done).replicas.symm
  | pendingJobs nodes limit allowed ties =>
      refine rowKept_congr ?_
      cases allowed <;> rfl
  | authorizeUnpin reporter jobId leaseUntil =>
      refine rowKept_congr ?_
      simp only [runOp]
      unfold authorizeUnpin
      split
      · rfl
      · split <;> rfl
  | jobReport => exact rowKept_commit fun _ _ done => applyJobReport_row done
  | unpinReport => exact rowKept_commit fun _ _ done => applyUnpinReport_row done
  | unpinVerifyReport => exact rowKept_commit fun _ _ done => applyUnpinVerifyReport_row done
  | registerBase => exact rowKept_commit fun _ _ done => registerBase_row done
  | registerBump => exact registerBump_row
  | releaseObject => exact rowKept_commit fun _ _ done => releaseObject_row done
  | recoverV214 => exact rowKept_congr recoverV214_replicas

end Rows

end HashBurst.Replication
