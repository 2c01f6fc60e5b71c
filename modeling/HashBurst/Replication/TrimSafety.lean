import Mathlib.Data.Finset.Card
import Mathlib.Data.List.Perm.Subperm
import HashBurst.Replication.Trim

/-! Trims over whole runs: as long as the record is true of the copies that it counts, the copies
of a content never fall below its policy. -/

namespace HashBurst.Replication

open Lib ReplicationDB ReplicationDBV214

/-- The copies that the authorization of a trim on the node relies on: confirmed rows of other
nodes, none of them under an authorized trim. -/
def spareRows (db : Db) (cid : Cid) (nodeId : NodeId) : List Replica :=
  (confirmedRows db cid).filter fun replica =>
    replica.nodeId ≠ nodeId && !db.trimming cid replica.nodeId

section Capacity

variable {db : Db} {cid : Cid} {nodeId : NodeId}

theorem mem_confirmedRows {replica : Replica} : replica ∈ confirmedRows db cid ↔
    db.replica cid replica.nodeId = some replica ∧ replica.confirmed = true := by
  unfold confirmedRows Db.replica
  rw [List.mem_filter, Table.find?_some_iff]
  simp only [Bool.and_eq_true, decide_eq_true_eq, Prod.mk.injEq]
  constructor
  · rintro ⟨member, named, confirmed⟩
    exact ⟨⟨member, named, trivial⟩, confirmed⟩
  · rintro ⟨⟨member, named, -⟩, confirmed⟩
    exact ⟨member, named, confirmed⟩

theorem confirmedRows_nodup : ((confirmedRows db cid).map Replica.nodeId).Nodup := by
  have keys : ((confirmedRows db cid).map Replica.key).Nodup :=
    (List.filter_sublist.map _).nodup db.replicas.distinct
  refine List.Nodup.map_on ?_ (List.Nodup.of_map _ keys)
  intro first one second two same
  have front := (mem_confirmedRows.mp one).1
  have back := (mem_confirmedRows.mp two).1
  rw [same, back] at front
  exact (Option.some.inj front).symm

/-- A trim under way on another node is among those that the check subtracts. -/
theorem mem_authorizedTrims {replica : Replica} (present : db.replica cid replica.nodeId = some replica)
    (other : replica.nodeId ≠ nodeId) (trimming : db.trimming cid replica.nodeId = true) :
    replica ∈ authorizedTrims db cid nodeId := by
  obtain ⟨job, member, trims⟩ := List.any_eq_true.mp trimming
  obtain ⟨content, node, operation, reason, authorized⟩ := trims_cases trims
  refine List.mem_filterMap.mpr ⟨job, List.mem_filter.mpr ⟨member, ?_⟩, ?_⟩
  · simp [content, node, operation, reason, authorized, other]
  · rw [node]
    exact present

/-- The confirmed rows are the spare ones, those under a trim, and the target. -/
theorem countP_confirmedRows {target : Replica} (found : db.replica cid nodeId = some target)
    (counted : Replica → Bool) :
    (confirmedRows db cid).countP counted ≤ (spareRows db cid nodeId).countP counted +
      (authorizedTrims db cid nodeId).countP counted + (if counted target then 1 else 0) := by
  let spare (replica : Replica) : Bool :=
    replica.nodeId ≠ nodeId && !db.trimming cid replica.nodeId
  have split := List.countP_eq_countP_filter_add (confirmedRows db cid) counted spare
  have rest : ((confirmedRows db cid).filter fun replica => !spare replica).countP counted ≤
      (target :: authorizedTrims db cid nodeId).countP counted := by
    rw [List.countP_eq_length_filter, List.countP_eq_length_filter]
    refine (List.Nodup.subperm ?_ ?_).length_le
    · exact ((List.Nodup.of_map _ confirmedRows_nodup).filter _).filter _
    · intro replica member
      obtain ⟨inside, chosen⟩ := List.mem_filter.mp member
      obtain ⟨listed, unspared⟩ := List.mem_filter.mp inside
      refine List.mem_filter.mpr ⟨?_, chosen⟩
      have present := (mem_confirmedRows.mp listed).1
      by_cases same : replica.nodeId = nodeId
      · rw [same, found] at present
        exact List.mem_cons.mpr (.inl (Option.some.inj present).symm)
      · have trimming : db.trimming cid replica.nodeId = true := by
          simpa [spare, same] using unspared
        exact List.mem_cons_of_mem _ (mem_authorizedTrims present same trimming)
  rw [List.countP_cons] at rest
  have front : (spareRows db cid nodeId).countP counted =
      ((confirmedRows db cid).filter spare).countP counted := rfl
  omega

/-- What `_trim_capacity_locked` leaves when it lets a trim pass. -/
theorem trimCapacity_spare {generation : Nat}
    (enough : trimCapacityLocked db cid nodeId generation true = true) :
    ∃ object, db.object cid = some object ∧ object.refcount ≠ 0 ∧
      object.replicationN ≤ (spareRows db cid nodeId).length ∧
      object.committableM ≤ (spareRows db cid nodeId).countP isCommittable := by
  unfold trimCapacityLocked at enough
  cases known : db.object cid with
  | none => simp [known] at enough
  | some object =>
      cases found : db.replica cid nodeId with
      | none => simp [known, found] at enough
      | some target =>
          simp only [known, found] at enough
          split at enough
          · cases enough
          · rename_i alive
            split at enough
            · cases enough
            · simp only [if_true, Bool.and_eq_true, decide_eq_true_eq] at enough
              have live : object.refcount ≠ 0 := by
                intro zero
                exact alive (by simp [zero])
              have total := countP_confirmedRows found fun _ => true
              have comm := countP_confirmedRows found isCommittable
              simp only [List.countP_true, if_true] at total
              refine ⟨object, rfl, live, by omega, ?_⟩
              by_cases committable : isCommittable target = true
              · rw [if_pos committable] at enough comm
                omega
              · rw [if_neg committable] at enough comm
                omega

end Capacity

/-- The access leaves the record true: a copy that it may make count, and a counted one that it may
leave without the trim that was authorized, are safe. -/
def Op.leavesTrue {β : Type} (op : Op β) (cid : Cid) (now : Int) (world : World) : Bool :=
  ((op.confirms now world.db cid).all fun nodeId =>
    world.db.counts cid nodeId || world.safe cid nodeId) &&
  (op.withdraws world.db cid).all fun nodeId =>
    !world.db.counts cid nodeId || world.safe cid nodeId

/-- What a step of the controller does to the store, as a condition on its next access. -/
def Happening.access (world : World) (meets : Int → Call Unit → Bool) : Happening → Bool
  | .control label => (steppedBy world.pool label).all fun (now, rest) => meets now rest
  | _ => true

def Call.leavesTrue (cid : Cid) (world : World) (now : Int) : Call Unit → Bool
  | .call op _ => op.leavesTrue cid now world
  | _ => true

/-- The step leaves the record true of the content's copies. -/
def RecordTrue (cid : Cid) (world : World) (happening : Happening) : Prop :=
  happening.access world (Call.leavesTrue cid world) = true

/-- The policy and the generation of the content are those of the object. -/
def Steady (object : Object) (world : World) : Prop :=
  ((world.db.object object.cid).any fun current => current.generation = object.generation &&
    current.replicationN = object.replicationN && current.committableM = object.committableM) = true

/-- A trim is authorized only on the strength of copies on the nodes, committable ones on the
committable nodes. -/
def TrimsWithin (cid : Cid) (nodes committables : Finset NodeId) (world : World)
    (happening : Happening) : Prop :=
  happening.access world (fun now rest => (grantedBy now world.db rest).all fun grant =>
    grant.cid ≠ cid || (spareRows world.db cid grant.nodeId).all fun replica =>
      replica.nodeId ∈ nodes && (!isCommittable replica || replica.nodeId ∈ committables)) = true

def World.copies (world : World) (cid : Cid) : List Replica :=
  (confirmedRows world.db cid).filter fun replica => world.pinned cid replica.nodeId

section Steps

variable {cid : Cid} {world after : World}

/-- Every counted copy is safe or under an authorized trim. -/
def Aligned (cid : Cid) (world : World) : Prop :=
  ∀ nodeId, world.db.counts cid nodeId = true →
    world.safe cid nodeId = true ∨ world.db.trimming cid nodeId = true

theorem control_cases {label : Pool.Label Event Int}
    (taken : worldMachine.next world (.control label) = some after) :
    (after.db = world.db ∧ after.pins = world.pins ∧ after.grants = world.grants ∧
        steppedBy world.pool label = none) ∨
      ∃ (now : Int) (β : Type) (op : Op β) (next : β → Call Unit),
        steppedBy world.pool label = some (now, .call op next) ∧
        after.db = (runOp op now world.db).1 ∧ after.pins = world.pins ∧
        after.grants = (grantedBy now world.db (.call op next)).toList ++ world.grants := by
  simp only [worldMachine] at taken
  obtain ⟨pool, moved, rfl⟩ := Option.map_eq_some_iff.mp taken
  cases label with
  | start call =>
      rw [Pool.start_cases moved]
      exact .inl ⟨rfl, rfl, rfl, rfl⟩
  | step index now =>
      obtain ⟨thread, shared, rest, found, advanced, rfl⟩ := Pool.step_cases moved
      have stepped : steppedBy world.pool (.step index now) = some (now, thread.rest) := by
        simp [steppedBy, found]
      rw [stepped]
      cases program : thread.rest with
      | ret value => simp [program, Prog.advance] at advanced
      | fail failure => simp [program, Prog.advance] at advanced
      | call op next =>
          rw [program] at advanced
          cases advanced
          exact .inr ⟨now, _, op, next, rfl, rfl, rfl, rfl⟩

/-- A positive answer of `authorize_unpin`. -/
theorem authorizeUnpin_granted {now leaseUntil : Int} {db : Db} {reporter : NodeId} {jobId : JobId}
    {content : Cid} {generation : Nat}
    (granted : (authorizeUnpin now reporter jobId leaseUntil db).2 = .granted content generation) :
    ∃ job, findJob db jobId reporter = some job ∧ job.operation = .unpin ∧ job.cid = content ∧
      unpinLawful db job reporter = true ∧
      (authorizeUnpin now reporter jobId leaseUntil db).1 = db.updateJob jobId fun job =>
        { job with state := .authorized, authorizedAt := now, updatedAt := now } := by
  unfold authorizeUnpin at *
  cases found : (findJob db jobId reporter).filter fun job => job.operation = .unpin with
  | none => simp [found] at granted
  | some job =>
      obtain ⟨known, unpin⟩ := Option.filter_eq_some_iff.mp found
      rw [found] at granted
      dsimp only at granted ⊢
      by_cases passed : (job.leaseUntil = leaseUntil && job.waiting && unpinLawful db job reporter) = true
      · rw [if_pos passed] at granted ⊢
        cases granted
        exact ⟨job, known, of_decide_eq_true unpin, rfl, (Bool.and_eq_true _ _ ▸ passed).2, rfl⟩
      · rw [if_neg passed] at granted
        cases granted

/-- A positive answer: a trim is under way from now on, or the content is released. -/
theorem grant_cases {now : Int} {db : Db} {β : Type} {op : Op β} {next : β → Call Unit}
    {grant : Grant} (granted : grantedBy now db (.call op next) = some grant) :
    (((runOp op now db).1.trimming grant.cid grant.nodeId = true ∧
        ∃ generation, trimCapacityLocked db grant.cid grant.nodeId generation true = true) ∨
      db.live grant.cid = false) ∧ ∀ content nodeId,
        (runOp op now db).1.counts content nodeId = true → db.counts content nodeId = true := by
  cases op with
  | authorizeUnpin reporter jobId leaseUntil =>
      refine ⟨?_, fun content nodeId counts => ?_⟩
      · simp only [grantedBy] at granted
        cases answer : (authorizeUnpin now reporter jobId leaseUntil db).2 with
        | denied reason => simp [answer] at granted
        | granted content generation =>
            simp only [answer, Option.some.injEq] at granted
            subst granted
            obtain ⟨job, known, operation, rfl, lawful, written⟩ := authorizeUnpin_granted answer
            obtain ⟨member, named, placed⟩ := findJob_cases known
            unfold unpinLawful at lawful
            cases owner : db.object job.cid with
            | none => simp [owner] at lawful
            | some object =>
                simp only [owner, Bool.and_eq_true] at lawful
                by_cases trim : isTrimReason job.reason = true
                · rw [if_pos trim] at lawful
                  refine .inl ⟨?_, job.generation, lawful.2⟩
                  change (authorizeUnpin now reporter jobId leaseUntil db).1.trimming job.cid reporter = true
                  rw [written]
                  refine List.any_eq_true.mpr ⟨_, Serial.mem_update.mpr ⟨job, member, rfl⟩, ?_⟩
                  rw [if_pos (decide_eq_true named)]
                  have reason : job.reason = trimReason := of_decide_eq_true trim
                  simp [Job.trims, placed, operation, reason]
                · rw [if_neg trim] at lawful
                  refine .inr ?_
                  unfold Db.live
                  dsimp only
                  rw [owner]
                  simpa using lawful.2
      · rcases counts_runOp _ counts with before | confirms
        · exact before
        · cases confirms
  | _ => cases granted

theorem safe_granted {granted : Option Grant} {nodeId : NodeId}
    (safe : world.safe cid nodeId = true) (samePins : after.pins = world.pins)
    (moreGrants : after.grants = granted.toList ++ world.grants)
    (other : ∀ grant, granted = some grant → ¬(grant.cid = cid ∧ grant.nodeId = nodeId)) :
    after.safe cid nodeId = true := by
  unfold World.safe World.pinned at *
  rw [samePins, moreGrants]
  rw [Bool.and_eq_true] at safe ⊢
  refine ⟨safe.1, ?_⟩
  rw [List.all_append, Bool.and_eq_true]
  refine ⟨List.all_eq_true.mpr fun grant member => ?_, safe.2⟩
  have apart := other grant (Option.mem_toList.mp member)
  rw [Bool.not_eq_true', Bool.and_eq_false_iff, decide_eq_false_iff_not, decide_eq_false_iff_not]
  exact not_and_or.mp apart

theorem aligned_control {label : Pool.Label Event Int} (aligned : Aligned cid world)
    (kept : RecordTrue cid world (.control label))
    (taken : worldMachine.next world (.control label) = some after) : Aligned cid after := by
  rcases control_cases taken with ⟨db, pins, grants, -⟩ | ⟨now, β, op, next, stepped, db, pins, grants⟩
  · intro nodeId counts
    rw [db] at counts
    have same : after.safe cid nodeId = world.safe cid nodeId := by
      unfold World.safe World.pinned
      rw [pins, grants]
    rw [same, db]
    exact aligned nodeId counts
  · intro nodeId counts
    rw [db] at counts ⊢
    by_cases trimming : (runOp op now world.db).1.trimming cid nodeId = true
    · exact .inr trimming
    · refine .inl ?_
      have honest : op.leavesTrue cid now world = true := by
        have met : ((steppedBy world.pool label).all fun (moment, rest) =>
            Call.leavesTrue cid world moment rest) = true := kept
        rw [stepped] at met
        exact met
      unfold Op.leavesTrue at honest
      rw [Bool.and_eq_true] at honest
      have safe : world.safe cid nodeId = true := by
        by_cases before : world.db.counts cid nodeId = true
        · rcases aligned nodeId before with safe | begun
          · exact safe
          · rcases trimming_runOp op begun counts with remains | withdrawn
            · exact absurd remains trimming
            · simpa [before] using List.all_eq_true.mp honest.2 nodeId withdrawn
        · rcases counts_runOp op counts with old | confirmed
          · exact absurd old before
          · simpa [before] using List.all_eq_true.mp honest.1 nodeId confirmed
      refine safe_granted safe pins grants fun grant granted same => ?_
      obtain ⟨rfl, rfl⟩ := same
      obtain ⟨outcome, before⟩ := grant_cases granted
      rcases outcome with ⟨begun, -⟩ | dead
      · exact trimming begun
      · have alive := (counts_iff.mp (before _ _ counts)).1
        rw [dead] at alive
        cases alive

variable (cid) in
/-- A copy stays safe when a node pins more, an answer is lost, or another copy is removed. -/
theorem agents_step {happening : Happening} (agents : ∀ label, happening ≠ .control label)
    (taken : worldMachine.next world happening = some after) :
    after.db = world.db ∧ ∀ nodeId, world.safe cid nodeId = true → after.safe cid nodeId = true := by
  unfold World.safe World.pinned
  simp only [Bool.and_eq_true, decide_eq_true_eq, List.all_eq_true]
  cases happening with
  | control label => exact absurd rfl (agents label)
  | restart =>
      cases taken
      exact ⟨rfl, fun _ safe => safe⟩
  | pinAdd content target =>
      cases taken
      exact ⟨rfl, fun _ safe => ⟨List.mem_cons_of_mem _ safe.1, safe.2⟩⟩
  | pinRm grant =>
      simp only [worldMachine] at taken
      split at taken
      · rename_i held
        cases taken
        refine ⟨rfl, fun nodeId safe => ⟨List.mem_filter.mpr ⟨safe.1, ?_⟩, fun other member =>
          safe.2 other (List.mem_of_mem_erase member)⟩⟩
        have apart := safe.2 grant held
        rw [decide_eq_true_eq]
        intro same
        cases same
        simp at apart
      · cases taken
  | lose grant =>
      cases taken
      exact ⟨rfl, fun nodeId safe => ⟨safe.1, fun other member =>
        safe.2 other (List.mem_of_mem_erase member)⟩⟩

theorem aligned_step {happening : Happening} (aligned : Aligned cid world)
    (kept : RecordTrue cid world happening)
    (taken : worldMachine.next world happening = some after) : Aligned cid after := by
  by_cases control : ∃ label, happening = .control label
  · obtain ⟨label, rfl⟩ := control
    exact aligned_control aligned kept taken
  · obtain ⟨db, safe⟩ := agents_step cid (fun label same => control ⟨label, same⟩) taken
    intro nodeId counts
    rw [db] at counts ⊢
    exact (aligned nodeId counts).imp (safe nodeId) id

/-- Rows on distinct nodes of a set are no more than the set. -/
theorem length_le_card {rows : List Replica} {nodes : Finset NodeId}
    (distinct : (rows.map Replica.nodeId).Nodup)
    (inside : ∀ replica ∈ rows, replica.nodeId ∈ nodes) : rows.length ≤ nodes.card := by
  calc rows.length = (rows.map Replica.nodeId).length := (List.length_map _).symm
    _ = (rows.map Replica.nodeId).toFinset.card := (List.toFinset_card_of_nodup distinct).symm
    _ ≤ nodes.card := by
        apply Finset.card_le_card
        intro nodeId member
        obtain ⟨replica, listed, rfl⟩ := List.mem_map.mp (List.mem_toFinset.mp member)
        exact inside replica listed

def World.safeNodes (world : World) (cid : Cid) (nodes : Finset NodeId) : Finset NodeId :=
  nodes.filter fun nodeId => world.safe cid nodeId = true

theorem safeNodes_mono {nodes : Finset NodeId}
    (stays : ∀ nodeId, world.safe cid nodeId = true → after.safe cid nodeId = true) :
    (world.safeNodes cid nodes).card ≤ (after.safeNodes cid nodes).card := by
  apply Finset.card_le_card
  intro nodeId member
  obtain ⟨inside, safe⟩ := Finset.mem_filter.mp member
  exact Finset.mem_filter.mpr ⟨inside, stays nodeId safe⟩

/-- The rows that an authorization relies on are of copies that are safe, and stay so. -/
theorem spareRows_safe {grant : Grant} {replica : Replica}
    (aligned : Aligned cid world) (live : world.db.live cid = true)
    (spare : replica ∈ spareRows world.db cid grant.nodeId) (pins : after.pins = world.pins)
    (grants : after.grants = (some grant).toList ++ world.grants) :
    after.safe cid replica.nodeId = true := by
  obtain ⟨listed, chosen⟩ := List.mem_filter.mp spare
  obtain ⟨present, confirmed⟩ := mem_confirmedRows.mp listed
  simp only [Bool.and_eq_true, decide_eq_true_eq, Bool.not_eq_true'] at chosen
  unfold Replica.confirmed at confirmed
  simp only [Bool.and_eq_true, decide_eq_true_eq] at confirmed
  have counts : world.db.counts cid replica.nodeId = true := by
    refine counts_iff.mpr ⟨live, replica, present, confirmed.1, ?_⟩
    unfold Replica.settled
    rw [confirmed.2]
    rfl
  rcases aligned replica.nodeId counts with safe | trimming
  · refine safe_granted safe pins grants fun other held same => ?_
    cases held
    exact chosen.1 same.2.symm
  · rw [chosen.2] at trimming
    cases trimming

section Bounds

variable {object : Object} {nodes committables : Finset NodeId}

/-- The bounds that the policy of the object sets, over copies that are safe. -/
structure Bounds (object : Object) (nodes committables : Finset NodeId) (world : World) : Prop where
  total : object.replicationN ≤ (world.safeNodes object.cid nodes).card
  committable : object.committableM ≤ (world.safeNodes object.cid committables).card

theorem Bounds.mono (bounds : Bounds object nodes committables world)
    (stays : ∀ nodeId, world.safe object.cid nodeId = true → after.safe object.cid nodeId = true) :
    Bounds object nodes committables after where
  total := bounds.total.trans (Int.ofNat_le.mpr (safeNodes_mono stays))
  committable := bounds.committable.trans (Int.ofNat_le.mpr (safeNodes_mono stays))

theorem bounds_granted {grant : Grant} {generation : Nat} {current : Object}
    (aligned : Aligned object.cid world) (live : world.db.live object.cid = true)
    (found : world.db.object object.cid = some current)
    (total : current.replicationN = object.replicationN)
    (committable : current.committableM = object.committableM)
    (enough : trimCapacityLocked world.db object.cid grant.nodeId generation true = true)
    (within : ∀ replica ∈ spareRows world.db object.cid grant.nodeId, replica.nodeId ∈ nodes ∧
      (isCommittable replica = true → replica.nodeId ∈ committables))
    (pins : after.pins = world.pins)
    (grants : after.grants = (some grant).toList ++ world.grants) :
    Bounds object nodes committables after := by
  obtain ⟨owner, known, -, spares, committableSpares⟩ := trimCapacity_spare enough
  rw [found] at known
  cases known
  rw [total] at spares
  rw [committable] at committableSpares
  have safe : ∀ replica ∈ spareRows world.db object.cid grant.nodeId,
      after.safe object.cid replica.nodeId = true :=
    fun replica spare => spareRows_safe aligned live spare pins grants
  have distinct : ((spareRows world.db object.cid grant.nodeId).map Replica.nodeId).Nodup :=
    (List.filter_sublist.map _).nodup confirmedRows_nodup
  constructor
  · refine spares.trans (Int.ofNat_le.mpr (length_le_card distinct fun replica spare => ?_))
    exact Finset.mem_filter.mpr ⟨(within replica spare).1, safe replica spare⟩
  · rw [List.countP_eq_length_filter] at committableSpares
    refine committableSpares.trans (Int.ofNat_le.mpr (length_le_card ?_ fun replica spare => ?_))
    · exact (List.filter_sublist.map _).nodup distinct
    · obtain ⟨listed, chosen⟩ := List.mem_filter.mp spare
      exact Finset.mem_filter.mpr ⟨(within replica listed).2 chosen, safe replica listed⟩

/-- A live content is released only by a step to the next generation. -/
theorem live_runOp {β : Type} (op : Op β) {now : Int} {db : Db} {current later : Object}
    (found : db.object cid = some current) (live : current.refcount ≠ 0)
    (known : (runOp op now db).1.object cid = some later)
    (same : later.generation = current.generation) : later.refcount ≠ 0 := by
  by_cases quiet : op.writes cid = false
  · have core := core_runOp op now db quiet
    unfold Db.core at core
    rw [found, known] at core
    have equal : later.core.refcount = current.core.refcount :=
      congrArg Object.refcount (Option.some.inj core)
    exact fun zero => live (equal.symm.trans zero)
  · cases op with
    | registerBase content sizeBytes n m sourceNode referenceId =>
        have own : content = cid := by simpa [Op.writes] using quiet
        subst own
        refine commit_invariant (fun state => ∀ later, state.object content = some later →
          later.refcount ≠ 0) ?_ (fun after out done later known => ?_) later known
        · intro other known
          rw [found] at known
          exact Option.some.inj known ▸ live
        · have kept := (registerBase_object done).2
          rw [found, known] at kept
          rcases kept with unchanged | retained
          · exact Option.some.inj unchanged ▸ live
          · rw [Option.some.inj retained]
            exact Nat.succ_ne_zero current.refcount
    | registerBump content oldPolicy =>
        have own : content = cid := by simpa [Op.writes] using quiet
        subst own
        simp only [runOp] at known
        rw [registerBump_object, if_pos rfl, found, Option.map_some] at known
        cases Option.some.inj known
        split
        · exact live
        · exact live
    | releaseObject content referenceId requestId =>
        have own : content = cid := by simpa [Op.writes] using quiet
        subst own
        refine commit_invariant (fun state => ∀ later, state.object content = some later →
          later.generation = current.generation → later.refcount ≠ 0) ?_
          (fun after out done later known same => ?_) later known same
        · intro other known _
          rw [found] at known
          exact Option.some.inj known ▸ live
        · have kept := (releaseObject_object done).2
          rw [found, known] at kept
          rcases kept with unchanged | ⟨object, owned, ⟨counted, left⟩ | ⟨-, -, final⟩⟩
          · exact Option.some.inj unchanged ▸ live
          · rw [Option.some.inj left]
            exact counted
          · cases owned
            rw [Option.some.inj final] at same
            simp [Object.finallyReleased] at same
    | _ => exact absurd rfl quiet

theorem steady_iff : Steady object world ↔ ∃ current, world.db.object object.cid = some current ∧
    current.generation = object.generation ∧ current.replicationN = object.replicationN ∧
      current.committableM = object.committableM := by
  unfold Steady
  rw [Option.any_eq_true]
  simp only [Bool.and_eq_true, decide_eq_true_eq, and_assoc]

theorem live_step {happening : Happening} (before : Steady object world)
    (live : world.db.live object.cid = true) (later : Steady object after)
    (taken : worldMachine.next world happening = some after) :
    after.db.live object.cid = true := by
  by_cases control : ∃ label, happening = .control label
  · obtain ⟨label, rfl⟩ := control
    rcases control_cases taken with ⟨db, -, -, -⟩ | ⟨now, β, op, next, -, db, -, -⟩
    · rw [db]
      exact live
    · obtain ⟨current, found, generation, -, -⟩ := steady_iff.mp before
      obtain ⟨final, known, same, -, -⟩ := steady_iff.mp later
      unfold Db.live at *
      rw [found, Option.any_some, decide_eq_true_eq] at live
      rw [known, Option.any_some, decide_eq_true_eq]
      rw [db] at known
      exact live_runOp op found live known (same.trans generation.symm)
  · obtain ⟨db, -⟩ := agents_step object.cid (fun label same => control ⟨label, same⟩) taken
    rw [db]
    exact live

theorem bounds_step {happening : Happening} (aligned : Aligned object.cid world)
    (steady : Steady object world) (live : world.db.live object.cid = true)
    (within : TrimsWithin object.cid nodes committables world happening)
    (bounds : Bounds object nodes committables world)
    (taken : worldMachine.next world happening = some after) :
    Bounds object nodes committables after := by
  by_cases control : ∃ label, happening = .control label
  · obtain ⟨label, rfl⟩ := control
    rcases control_cases taken with ⟨-, pins, grants, -⟩ | ⟨now, β, op, next, stepped, -, pins, grants⟩
    · refine bounds.mono fun nodeId safe => ?_
      unfold World.safe World.pinned at *
      rw [pins, grants]
      exact safe
    · have apart : (∀ grant, grantedBy now world.db (.call op next) = some grant →
          grant.cid ≠ object.cid) → Bounds object nodes committables after := fun others =>
        bounds.mono fun nodeId safe =>
          safe_granted safe pins grants fun grant held same => others grant held same.1
      cases granted : grantedBy now world.db (.call op next) with
      | none =>
          refine apart fun grant held => ?_
          rw [granted] at held
          cases held
      | some grant =>
          by_cases own : grant.cid = object.cid
          · rcases (grant_cases granted).1 with ⟨-, generation, enough⟩ | dead
            · obtain ⟨current, found, -, total, committable⟩ := steady_iff.mp steady
              rw [own] at enough
              rw [granted] at grants
              refine bounds_granted aligned live found total committable enough ?_ pins grants
              intro replica spare
              have relies : ((steppedBy world.pool label).all fun (moment, rest) =>
                  (grantedBy moment world.db rest).all fun grant => grant.cid ≠ object.cid ||
                    (spareRows world.db object.cid grant.nodeId).all fun replica =>
                      replica.nodeId ∈ nodes &&
                        (!isCommittable replica || replica.nodeId ∈ committables)) = true := within
              rw [stepped, Option.all_some] at relies
              dsimp only at relies
              rw [granted, Option.all_some, Bool.or_eq_true] at relies
              rcases relies with other | all
              · exact absurd own (of_decide_eq_true other)
              · have chosen := List.all_eq_true.mp all replica spare
                simp only [Bool.and_eq_true, Bool.or_eq_true, decide_eq_true_eq,
                  Bool.not_eq_true'] at chosen
                refine ⟨chosen.1, fun committable => ?_⟩
                rcases chosen.2 with edge | inside
                · rw [committable] at edge
                  cases edge
                · exact inside
            · rw [own, live] at dead
              cases dead
          · refine apart fun other held => ?_
            rw [granted] at held
            exact Option.some.inj held ▸ own
  · obtain ⟨-, safe⟩ := agents_step object.cid (fun label same => control ⟨label, same⟩) taken
    exact bounds.mono safe

end Bounds

end Steps

private theorem aligned_fresh (cid : Cid) (pins : List (Cid × NodeId)) :
    Aligned cid (World.fresh pins) := by
  intro nodeId counts
  cases (counts_iff.mp counts).1

private theorem aligned_run {cid : Cid} {pins : List (Cid × NodeId)} {world : World}
    (reached : worldMachine.Run (RecordTrue cid) (World.fresh pins) world) : Aligned cid world :=
  Machine.Run.invariant (Aligned cid) (fun _ _ _ aligned kept taken => aligned_step aligned kept taken)
    reached (aligned_fresh cid pins)

/-- The copies that are recorded at some moment bound the policy from below. -/
theorem bounds_moment {object : Object} {nodes committables : Finset NodeId} {moment : World}
    (aligned : Aligned object.cid moment) (live : moment.db.live object.cid = true)
    (total : object.replicationN ≤ (moment.copies object.cid).length)
    (committable : object.committableM ≤ (moment.copies object.cid).countP isCommittable)
    (idle : ∀ replica ∈ moment.copies object.cid,
      moment.db.trimming object.cid replica.nodeId = false)
    (covers : ∀ replica ∈ moment.copies object.cid, replica.nodeId ∈ nodes ∧
      (isCommittable replica = true → replica.nodeId ∈ committables)) :
    Bounds object nodes committables moment := by
  have safe : ∀ replica ∈ moment.copies object.cid,
      moment.safe object.cid replica.nodeId = true := by
    intro replica listed
    obtain ⟨present, confirmed⟩ := mem_confirmedRows.mp (List.mem_filter.mp listed).1
    unfold Replica.confirmed at confirmed
    simp only [Bool.and_eq_true, decide_eq_true_eq] at confirmed
    have counts : moment.db.counts object.cid replica.nodeId = true := by
      refine counts_iff.mpr ⟨live, replica, present, confirmed.1, ?_⟩
      unfold Replica.settled
      rw [confirmed.2]
      rfl
    rcases aligned replica.nodeId counts with safe | trimming
    · exact safe
    · rw [idle replica listed] at trimming
      cases trimming
  have distinct : ((moment.copies object.cid).map Replica.nodeId).Nodup :=
    (List.filter_sublist.map _).nodup confirmedRows_nodup
  constructor
  · refine total.trans (Int.ofNat_le.mpr (length_le_card distinct fun replica listed => ?_))
    exact Finset.mem_filter.mpr ⟨(covers replica listed).1, safe replica listed⟩
  · rw [List.countP_eq_length_filter] at committable
    refine committable.trans (Int.ofNat_le.mpr (length_le_card ?_ fun replica chosen => ?_))
    · exact (List.filter_sublist.map _).nodup distinct
    · obtain ⟨listed, counted⟩ := List.mem_filter.mp chosen
      exact Finset.mem_filter.mpr ⟨(covers replica listed).2 counted, safe replica listed⟩

/-- Of nodes that include those of the copies at a moment, no fewer than the policy wants still
pin the content, as long as every step leaves the record true and the object as it is, and trims
rely on these nodes. -/
theorem trims_keep_copies {cid : Cid} {pins : List (Cid × NodeId)} {moment later : World}
    {object : Object} (reached : worldMachine.Run (RecordTrue cid) (World.fresh pins) moment)
    (found : moment.db.object cid = some object) (live : object.refcount ≠ 0)
    (total : object.replicationN ≤ (moment.copies cid).length)
    (committable : object.committableM ≤ (moment.copies cid).countP isCommittable)
    (idle : ∀ replica ∈ moment.copies cid, moment.db.trimming cid replica.nodeId = false)
    (nodes committables : Finset NodeId)
    (covers : ∀ replica ∈ moment.copies cid, replica.nodeId ∈ nodes ∧
      (isCommittable replica = true → replica.nodeId ∈ committables))
    (run : worldMachine.Run (fun world happening => RecordTrue cid world happening ∧
      Steady object world ∧ TrimsWithin cid nodes committables world happening) moment later) :
    object.replicationN ≤ (nodes.filter fun nodeId => later.pinned cid nodeId = true).card ∧
      object.committableM ≤
        (committables.filter fun nodeId => later.pinned cid nodeId = true).card := by
  have named : object.cid = cid := object_cid found
  subst named
  have alive : moment.db.live object.cid = true := by
    unfold Db.live
    rw [found, Option.any_some]
    exact decide_eq_true live
  have aligned := aligned_run reached
  have steps : Aligned object.cid later ∧
      (Steady object later → later.db.live object.cid = true) ∧
      Bounds object nodes committables later := by
    refine Machine.Run.invariant (fun world => Aligned object.cid world ∧
      (Steady object world → world.db.live object.cid = true) ∧
      Bounds object nodes committables world) ?_ run
      ⟨aligned, fun _ => alive, bounds_moment aligned alive total committable idle covers⟩
    rintro world happening after ⟨true_record, lives, bounds⟩ ⟨kept, steady, within⟩ taken
    exact ⟨aligned_step true_record kept taken,
      fun still => live_step steady (lives steady) still taken,
      bounds_step true_record steady (lives steady) within bounds taken⟩
  have pinned : ∀ among : Finset NodeId, (later.safeNodes object.cid among).card ≤
      (among.filter fun nodeId => later.pinned object.cid nodeId = true).card := by
    intro among
    apply Finset.card_le_card
    intro nodeId member
    obtain ⟨inside, safe⟩ := Finset.mem_filter.mp member
    unfold World.safe at safe
    exact Finset.mem_filter.mpr ⟨inside, (Bool.and_eq_true _ _ ▸ safe).1⟩
  obtain ⟨-, -, bounds⟩ := steps
  exact ⟨bounds.total.trans (Int.ofNat_le.mpr (pinned nodes)),
    bounds.committable.trans (Int.ofNat_le.mpr (pinned committables))⟩

instance (cid : Cid) (world : World) (happening : Happening) :
    Decidable (RecordTrue cid world happening) :=
  inferInstanceAs (Decidable (_ = true))

instance (object : Object) (world : World) : Decidable (Steady object world) :=
  inferInstanceAs (Decidable (_ = true))

instance (cid : Cid) (nodes committables : Finset NodeId) (world : World) (happening : Happening) :
    Decidable (TrimsWithin cid nodes committables world happening) :=
  inferInstanceAs (Decidable (_ = true))

/-- Calls run one after another, each by a thread of its own and with as many accesses as given. -/
def serving (first : Nat) : List (Nat × Int × Event) → List Happening
  | [] => []
  | (accesses, now, event) :: rest =>
      .control (.start event) :: List.replicate accesses (.control (.step first now)) ++
        serving (first + 1) rest

def fullController : Controller where
  defaultPolicy := {}
  mode := .full
  unpinEnabled := true
  intervals := {}
  scoring := ⟨fun _ _ => 0, fun dividend divisor => dividend / divisor⟩

/-- A content of one copy, registered by two nodes that both pin it. -/
def uploadedTwice : List Happening :=
  let source (nodeId : NodeId) : Event :=
    .register
      { cid := "bafy", sizeBytes := 10, n := 1, m := 0, sourceNode := some nodeId
        referenceId := none }
  serving 0
    [(1, 1000, .upsertNode { nodeId := "alpha", capacityClass := .committable }),
      (1, 1000, .upsertNode { nodeId := "beta", capacityClass := .committable }),
      (3, 1000, source "alpha"), (3, 1001, source "beta"),
      (1, 1950, .heartbeat "alpha" 20000000000 0), (1, 1950, .heartbeat "beta" 20000000000 0)]

def uploadedWorld : World :=
  (worldMachine.play (RecordTrue "bafy") (World.fresh [("bafy", "alpha"), ("bafy", "beta")])
    uploadedTwice).get (by decide)

def trimmedOnce : List Happening :=
  serving 6 [(13, 2010, .reconcile fullController "bafy"), (1, 2020, .pendingJobs "alpha" 32 none),
    (1, 2021, .authorizeUnpin "alpha" 0 2140)] ++
  [.pinRm { jobId := 0, cid := "bafy", nodeId := "alpha" }] ++
  serving 9 [(3, 2040, .report "alpha" { jobId := 0, state := .unpinned, leaseUntil := 2140 })]

def uploadedObject : Object :=
  { cid := "bafy", sizeBytes := 10, createdAt := 1000, replicationN := 1, committableM := 0
    refcount := 2 }

theorem trimmed_once_keeps_copy : ∃ later,
    worldMachine.play (fun world happening => RecordTrue "bafy" world happening ∧
      Steady uploadedObject world ∧
      TrimsWithin "bafy" {"alpha", "beta"} {"alpha", "beta"} world happening)
        uploadedWorld trimmedOnce = some later ∧
      (1 : Int) ≤ (({"alpha", "beta"} : Finset NodeId).filter fun nodeId =>
        later.pinned "bafy" nodeId = true).card := by
  have reached : worldMachine.Run (RecordTrue "bafy")
      (World.fresh [("bafy", "alpha"), ("bafy", "beta")]) uploadedWorld :=
    Machine.Run.of_play (Option.some_get _).symm
  obtain ⟨later, played⟩ := Option.isSome_iff_exists.mp
    (show (worldMachine.play (fun world happening => RecordTrue "bafy" world happening ∧
      Steady uploadedObject world ∧
      TrimsWithin "bafy" {"alpha", "beta"} {"alpha", "beta"} world happening)
        uploadedWorld trimmedOnce).isSome = true by decide)
  refine ⟨later, played, ?_⟩
  exact (trims_keep_copies reached (show uploadedWorld.db.object "bafy" = some uploadedObject by
    decide) (by decide) (by decide) (by decide) (by decide)
    {"alpha", "beta"} {"alpha", "beta"} (by decide) (Machine.Run.of_play played)).1

/-- The agent answers a VERIFY job and runs an authorized trim, but its report comes after the
controller has restarted and recovered: the record counts the lost copy as the fresher one, and
the other copy is trimmed. -/
def trimmedTwice : List Happening :=
  serving 6 [(13, 2000, .reconcile { fullController with mode := .pinOnly } "bafy")] ++
  [.restart] ++
  serving 0 [(13, 2010, .reconcile fullController "bafy"), (1, 2020, .pendingJobs "alpha" 32 none),
    (1, 2021, .authorizeUnpin "alpha" 2 2140)] ++
  [.pinRm { jobId := 2, cid := "bafy", nodeId := "alpha" }, .restart] ++
  serving 0 [(1, 2030, .recoverV214),
    (3, 2040, .report "alpha" { jobId := 0, state := .verified, leaseUntil := 2140 }),
    (3, 2040, .report "alpha" { jobId := 2, state := .unpinned, leaseUntil := 2140 }),
    (1, 2040, .heartbeat "alpha" 20000000000 0), (1, 2040, .heartbeat "beta" 20000000000 0),
    (13, 2050, .reconcile fullController "bafy"), (1, 2060, .pendingJobs "beta" 32 none),
    (1, 2061, .authorizeUnpin "beta" 4 2180)] ++
  [.pinRm { jobId := 4, cid := "bafy", nodeId := "beta" }]

def trimmedWorld : World :=
  (worldMachine.play (fun world _ => Steady uploadedObject world) uploadedWorld trimmedTwice).get
    (by decide)

theorem trims_destroy_copies : ¬∀ (cid : Cid) (pins : List (Cid × NodeId)) (moment later : World)
    (object : Object), worldMachine.Run (fun _ _ => True) (World.fresh pins) moment →
      moment.db.object cid = some object → object.refcount ≠ 0 →
      object.replicationN ≤ (moment.copies cid).length →
      object.committableM ≤ (moment.copies cid).countP isCommittable →
      worldMachine.Run (fun world _ => Steady object world) moment later →
        object.replicationN ≤
          (moment.copies cid).countP fun replica => later.pinned cid replica.nodeId := by
  intro always
  have first : worldMachine.Run (RecordTrue "bafy")
      (World.fresh [("bafy", "alpha"), ("bafy", "beta")]) uploadedWorld :=
    Machine.Run.of_play (Option.some_get _).symm
  have reached : worldMachine.Run (fun _ _ => True)
      (World.fresh [("bafy", "alpha"), ("bafy", "beta")]) uploadedWorld :=
    Machine.Run.mono (fun _ _ _ => trivial) first
  have run : worldMachine.Run (fun world _ => Steady uploadedObject world) uploadedWorld
      trimmedWorld :=
    Machine.Run.of_play (Option.some_get _).symm
  have kept := always "bafy" _ uploadedWorld trimmedWorld uploadedObject reached
    (by decide) (by decide) (by decide) (by decide) run
  have gone : (uploadedWorld.copies "bafy").countP
      (fun replica => trimmedWorld.pinned "bafy" replica.nodeId) = 0 := by
    decide
  rw [gone] at kept
  exact absurd kept (by decide)

end HashBurst.Replication
