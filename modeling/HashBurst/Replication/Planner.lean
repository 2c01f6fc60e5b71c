import HashBurst.Lib.Knowledge
import HashBurst.Replication.Effects

/-! Threads of the controller over one store, and what a reconcile has read by the time it plans
the removal of a copy. -/

namespace HashBurst.Replication

open Lib ReplicationDBV214

abbrev EventPool := Pool Db Op PyError Unit Event

def eventMachine : Machine EventPool (Pool.Label Event Int) := Pool.machine runOp Event.program

def freshEvents : EventPool where
  shared := Db.empty
  threads := []

theorem eventMachine_free {before after : EventPool}
    (run : eventMachine.Run (fun _ _ => True) before after) :
    eventMachine.Run (fun pool label =>
      pool.guard (fun _ _ _ => true) (fun _ => true) label = true) before after :=
  run.mono fun pool label _ => Pool.guard_free pool label

/-- What a thread has read of the contents and of the clock. -/
structure Seen where
  snapshots : List (Cid × Object × List Replica)
  times : List Int

/-- What a reconcile has read when it plans a removal: a snapshot of the content with the copy,
and for a final release a time past the grace period. -/
def Seen.plans (graces : Int → Prop) (seen : Seen) (cid : Cid) (nodeId : NodeId)
    (generation : Nat) (reason : String) : Prop :=
  ∃ content object rows, (content, object, rows) ∈ seen.snapshots ∧ object.cid = cid ∧
    object.generation = generation ∧ nodeId ∈ rows.map Replica.nodeId ∧
    (reason = trimReason ∨ (reason = finalReason ∧ object.releasedAt ≠ 0 ∧
      ∃ time ∈ seen.times, ∃ grace, graces grace ∧ object.releasedAt + grace ≤ time))

/-- The generation that a VERIFY job is created for was read in a snapshot of the content. -/
def Seen.dates (seen : Seen) (cid : Cid) (generation : Nat) : Prop :=
  ∃ object rows, (cid, object, rows) ∈ seen.snapshots ∧
    (generation = object.generation ∨ generation ∈ rows.map Replica.generation)

/-- No UNPIN and no VERIFY job is planned without what a reconcile reads first. -/
def plannerProtocol (graces : Int → Prop) : Protocol Op Seen where
  allowed seen op :=
    match op with
    | .createUnpinJob cid nodeId generation reason _ =>
        seen.plans graces cid nodeId generation reason
    | .createVerifyJob cid _ generation => seen.dates cid generation
    | _ => True
  learn seen op answer :=
    match op, answer with
    | .object cid, some (object, rows) =>
        { seen with snapshots := (cid, object, rows) :: seen.snapshots }
    | .time, now => { seen with times := now :: seen.times }
    | _, _ => seen

section Programs

variable {graces : Int → Prop} {ctl : Controller} {cid : Cid} {seen : Seen} {now : Int}

def Op.plansNothing {β : Type} (op : Op β) : Prop :=
  match op with
  | .createUnpinJob .. => False
  | .createVerifyJob .. => False
  | _ => True

private theorem plansNothing_allowed {β : Type} (op : Op β) (seen : Seen)
    (plain : op.plansNothing) :
    (plannerProtocol graces).allowed seen op := by
  cases op <;> trivial

theorem plansNothing_follows {α : Type} {call : Call α} (all : call.All Op.plansNothing) :
    call.Follows (plannerProtocol graces) :=
  Prog.follows_of_all all fun op known plain => plansNothing_allowed op known plain

section Repair

variable {object : Object} {rows : List Replica}

theorem verifyReplica_obeys {nodes : List OnlineNode} {replica : Replica}
    (listed : (cid, object, rows) ∈ seen.snapshots) (inside : replica ∈ rows) :
    (ctl.verifyReplica cid now object nodes replica).Obeys (plannerProtocol graces)
      (fun after _ => (cid, object, rows) ∈ after.snapshots) seen := by
  unfold Controller.verifyReplica
  split
  · dsimp only
    refine ⟨⟨object, rows, listed, ?_⟩, fun answer => ?_⟩
    · split
      · exact .inr (List.mem_map_of_mem inside)
      · exact .inl rfl
    · cases answer with
      | ok value => exact listed
      | error failure => exact listed
  · exact listed

private theorem assignPin_obeys {node : OnlineNode}
    (listed : (cid, object, rows) ∈ seen.snapshots) :
    (Controller.assignPin cid node).Obeys (plannerProtocol graces)
      (fun after _ => (cid, object, rows) ∈ after.snapshots) seen := by
  refine ⟨trivial, fun answer => ?_⟩
  cases answer with
  | ok value => exact listed
  | error failure => exact listed

theorem repair_obeys {nodes : List Node} {chosen : List OnlineNode}
    (listed : (cid, object, rows) ∈ seen.snapshots) :
    (ctl.repair cid now object rows nodes chosen).Obeys (plannerProtocol graces)
      (fun _ _ => True) seen := by
  refine Prog.obeys_bind (Prog.obeys_mono (fun after result kept => ?_)
    (Prog.obeys_forEach (fun seen => (cid, object, rows) ∈ seen.snapshots)
      (fun node _ seen known => assignPin_obeys known) listed))
  cases result with
  | error failure => trivial
  | ok value =>
      refine Prog.obeys_mono (fun _ _ _ => trivial) (Prog.obeys_forEach
        (fun seen => (cid, object, rows) ∈ seen.snapshots)
        (fun replica inside seen known => verifyReplica_obeys known inside) kept)

private theorem reportHealth_plansNothing : (ctl.reportHealth cid object).All Op.plansNothing :=
  ⟨trivial, fun _ => ⟨trivial, fun _ => trivial⟩⟩

variable (ctl cid now) in
theorem reconcileClassified_follows :
    (ctl.reconcileClassified cid now).Follows (plannerProtocol graces) := by
  intro seen
  refine Prog.obeys_ask_bind trivial fun found => ?_
  cases found with
  | none => trivial
  | some pair =>
      obtain ⟨object, rows⟩ := pair
      refine Prog.obeys_ask_bind trivial fun nodes => Prog.obeys_ask_bind trivial fun load => ?_
      have health : (ctl.reportHealth cid object).Follows (plannerProtocol graces) :=
        plansNothing_follows reportHealth_plansNothing
      cases picked : ctl.picks cid now object rows nodes load with
      | error failure => trivial
      | ok chosen =>
          change Prog.Obeys _ _ _ (if ctl.mode = .pinOnly then
            (do ctl.repair cid now object rows nodes chosen; ctl.reportHealth cid object)
            else ctl.reportHealth cid object)
          split
          · exact Prog.obeys_bind_follows (repair_obeys List.mem_cons_self) fun _ => health
          · exact health _

variable (ctl cid) in
theorem baseReconcileCid_follows : (ctl.reconcileCid cid).Follows (plannerProtocol graces) := by
  intro seen
  refine Prog.obeys_ask_bind trivial fun moment => Prog.obeys_ask_bind trivial fun found => ?_
  cases found with
  | none => trivial
  | some pair =>
      obtain ⟨object, rows⟩ := pair
      dsimp only
      split
      · trivial
      · refine Prog.obeys_bind_follows ?_ fun _ => reconcileClassified_follows ctl cid moment
        refine plansNothing_follows ?_ _
        refine ⟨trivial, fun rows => ⟨trivial, fun nodes => Prog.all_forEach fun row _ => ?_⟩⟩
        unfold Controller.classifyReplica
        split
        · trivial
        · exact ⟨trivial, fun _ => trivial⟩

end Repair

theorem planFinalRelease_obeys {content : Cid} {object : Object} {rows : List Replica} {now : Int}
    (graced : graces ctl.intervals.deleteGrace)
    (listed : (content, object, rows) ∈ seen.snapshots) (read : now ∈ seen.times) :
    (ControllerV214.planFinalRelease ctl object rows now).Obeys (plannerProtocol graces)
      (fun _ _ => True) seen := by
  unfold ControllerV214.planFinalRelease
  split
  · trivial
  · split
    · trivial
    · rename_i late
      simp only [Bool.or_eq_true, decide_eq_true_eq, not_or, Int.not_lt] at late
      refine Prog.obeys_mono (fun _ _ _ => trivial) (Prog.obeys_forEach
        (fun seen => (content, object, rows) ∈ seen.snapshots ∧ now ∈ seen.times)
        (fun replica inside seen known => ?_) ⟨listed, read⟩)
      unfold ControllerV214.planRelease
      split
      · exact known
      · refine ⟨⟨content, object, rows, known.1, rfl, rfl, List.mem_map_of_mem inside,
          .inr ⟨rfl, late.1, now, known.2, _, graced, late.2⟩⟩, fun answer => ?_⟩
        cases answer with
        | ok value => exact known
        | error failure => exact known

theorem trimLoop_obeys {content : Cid} {object : Object} {replicas : List Replica}
    (listed : (content, object, replicas) ∈ seen.snapshots) (rows : List Replica)
    (inside : ∀ row ∈ rows, row ∈ replicas) (remove comm : Int) :
    (ControllerV214.trimLoop object rows remove comm).Obeys (plannerProtocol graces)
      (fun _ _ => True) seen := by
  induction rows generalizing remove comm with
  | nil => trivial
  | cons head tail ih =>
      have rest := ih fun row member => inside row (List.mem_cons_of_mem head member)
      unfold ControllerV214.trimLoop
      dsimp only
      split
      · trivial
      · split
        · exact rest remove comm
        · refine ⟨⟨content, object, replicas, listed, rfl, rfl,
            List.mem_map_of_mem (inside head List.mem_cons_self), .inl rfl⟩, fun answer => ?_⟩
          cases answer with
          | error failure => trivial
          | ok planned =>
              cases planned with
              | none => exact rest remove comm
              | some jobId => exact rest _ _

theorem planTrim_obeys {content : Cid} {object : Object} {replicas : List Replica}
    (listed : (content, object, replicas) ∈ seen.snapshots) :
    (ControllerV214.planTrim ctl object replicas).Obeys (plannerProtocol graces)
      (fun _ _ => True) seen := by
  unfold ControllerV214.planTrim
  split
  · trivial
  · dsimp only
    split
    · trivial
    · refine Prog.obeys_ask_bind trivial fun active => ?_
      split
      · trivial
      · refine trimLoop_obeys listed _ (fun row member => ?_) _ _
        have kept := (List.mem_insertionSort _).mp member
        exact (List.mem_filter.mp (List.mem_filter.mp kept).1).1

/-- A reconcile plans from what it has read in the same call. -/
theorem reconcileCid_obeys (graced : graces ctl.intervals.deleteGrace) :
    (ControllerV214.reconcileCid ctl cid).Obeys (plannerProtocol graces) (fun _ _ => True) seen := by
  unfold ControllerV214.reconcileCid
  refine Prog.obeys_ask_bind trivial fun found => ?_
  cases found with
  | none => trivial
  | some pair =>
      obtain ⟨object, replicas⟩ := pair
      dsimp only
      split
      · refine Prog.obeys_ask_bind trivial fun now => ?_
        exact planFinalRelease_obeys graced List.mem_cons_self List.mem_cons_self
      · refine Prog.obeys_bind_follows (baseReconcileCid_follows ctl cid _) fun _ known => ?_
        refine Prog.obeys_ask_bind trivial fun found => ?_
        cases found with
        | none => trivial
        | some pair => exact planTrim_obeys List.mem_cons_self

def Event.graced (graces : Int → Prop) : Event → Prop
  | reconcile ctl _ => graces ctl.intervals.deleteGrace
  | _ => True

theorem register_plansNothing (args : Registering) :
    (Event.register args).program.All Op.plansNothing := by
  refine ⟨trivial, fun answer => ?_⟩
  cases answer with
  | error failure => trivial
  | ok oldPolicy =>
      refine ⟨trivial, fun answer => ?_⟩
      cases answer with
      | error failure => trivial
      | ok out => exact ⟨trivial, fun _ => trivial⟩

theorem report_plansNothing (nodeId : NodeId) (report : ReplicationDB.Report) :
    (Event.report nodeId report).program.All Op.plansNothing := by
  have sent : ∀ op : Op (Except PyError Unit), op.plansNothing →
      (Prog.attempt op : Call Unit).All Op.plansNothing :=
    fun op plain => ⟨plain, fun answer => Prog.all_ofExcept answer⟩
  refine ⟨trivial, fun operation => ?_⟩
  refine Prog.all_bind (Prog.all_ret operation) fun operation => ?_
  split
  · exact sent _ trivial
  · refine ⟨trivial, fun operation => ?_⟩
    refine Prog.all_bind (Prog.all_ret operation) fun operation => ?_
    split
    · exact sent _ trivial
    · exact sent _ trivial

theorem event_obeys (event : Event) (graced : event.graced graces) :
    event.program.Obeys (plannerProtocol graces) (fun _ _ => True) seen := by
  have plain : event.program.All Op.plansNothing →
      event.program.Obeys (plannerProtocol graces) (fun _ _ => True) seen :=
    fun all => plansNothing_follows all seen
  have attempted : ∀ {α : Type} (op : Op (Except PyError α)), op.plansNothing →
      (Call.discard (Prog.attempt op)).All Op.plansNothing := fun op plain =>
    ⟨plain, fun answer => Prog.all_bind (Prog.all_ofExcept answer) fun _ => trivial⟩
  cases event with
  | register args => exact plain (register_plansNothing args)
  | release cid referenceId requestId => exact plain (attempted _ trivial)
  | upsertNode node => exact plain ⟨trivial, fun _ => trivial⟩
  | heartbeat nodeId totalBytes usedBytes =>
      exact plain ⟨trivial, fun answer => Prog.all_ofExcept answer⟩
  | pendingJobs nodeId limit allowed ties => exact plain ⟨trivial, fun _ => trivial⟩
  | authorizeUnpin nodeId jobId leaseUntil => exact plain ⟨trivial, fun _ => trivial⟩
  | report nodeId sent => exact plain (report_plansNothing nodeId sent)
  | recoverV214 => exact plain ⟨trivial, fun _ => trivial⟩
  | reconcile ctl cid => exact reconcileCid_obeys graced

end Programs

/-- A snapshot that was true once: what it says of `released_at` holds as long as the generation
is the same. -/
structure SnapshotTrue (db : Db) (cid : Cid) (object : Object) (rows : List Replica) : Prop where
  named : object.cid = cid
  object : ∃ current, db.object cid = some current ∧ object.generation ≤ current.generation ∧
    (current.generation = object.generation → current.releasedAt = object.releasedAt)
  rows : ∀ row ∈ rows, (db.replica cid row.nodeId).isSome = true

def Seen.Truthful (db : Db) (seen : Seen) : Prop :=
  ∀ cid object rows, (cid, object, rows) ∈ seen.snapshots → SnapshotTrue db cid object rows

theorem seen_nothing (db : Db) : Seen.Truthful db ⟨[], []⟩ := by
  intro cid object rows member
  cases member

section Snapshots

variable {db : Db} {cid : Cid} {object : Object} {rows : List Replica} {seen : Seen}
  {graces : Int → Prop}

theorem snapshotTrue_runOp {β : Type} (op : Op β) (now : Int)
    (before : SnapshotTrue db cid object rows) :
    SnapshotTrue (runOp op now db).1 cid object rows := by
  obtain ⟨current, found, raised, same⟩ := before.object
  obtain ⟨later, present, higher, kept⟩ := generation_runOp op now found
  refine ⟨before.named, ⟨later, present, raised.trans higher, fun equal => ?_⟩,
    fun row member => (row_runOp op now db cid row.nodeId).stays (before.rows row member)⟩
  have between : current.generation = object.generation := by omega
  exact (kept (equal.trans between.symm)).trans (same between)

theorem snapshotTrue_read (found : db.object cid = some object) :
    SnapshotTrue db cid object (sortedByNode (db.replicaRows cid)) := by
  refine ⟨object_cid found, ⟨object, found, Nat.le_refl _, fun _ => rfl⟩, fun row member => ?_⟩
  obtain ⟨present, own⟩ := List.mem_filter.mp ((List.mem_insertionSort _).mp member)
  have content : row.cid = cid := of_decide_eq_true own
  have known : db.replica cid row.nodeId = some row :=
    Table.find?_some_iff.mpr ⟨present, Prod.ext content rfl⟩
  rw [known]
  rfl

theorem truthful_runOp {β : Type} (op : Op β) (now : Int) (truthful : seen.Truthful db) :
    seen.Truthful (runOp op now db).1 :=
  fun cid object rows member => snapshotTrue_runOp op now (truthful cid object rows member)

theorem learn_snapshots {β : Type} (op : Op β) (now : Int) (db : Db) {content : Cid}
    (member : (content, object, rows) ∈
      ((plannerProtocol graces).learn seen op (runOp op now db).2).snapshots) :
    (content, object, rows) ∈ seen.snapshots ∨
      (db.object content = some object ∧ rows = sortedByNode (db.replicaRows content) ∧
        (runOp op now db).1 = db) := by
  cases op with
  | object wanted =>
      simp only [runOp] at member
      cases found : db.object wanted with
      | none =>
          rw [found] at member
          exact .inl member
      | some current =>
          rw [found] at member
          rcases List.mem_cons.mp member with same | old
          · cases same
            exact .inr ⟨found, rfl, rfl⟩
          · exact .inl old
  | _ => exact .inl member

theorem truthful_learn {β : Type} (op : Op β) (now : Int) (truthful : seen.Truthful db) :
    ((plannerProtocol graces).learn seen op (runOp op now db).2).Truthful (runOp op now db).1 := by
  intro cid object rows member
  rcases learn_snapshots op now db member with old | ⟨found, rfl, same⟩
  · exact truthful_runOp op now truthful cid object rows old
  · rw [same]
    exact snapshotTrue_read found

end Snapshots

/-- Calls run one after another, each by a thread of its own and with as many accesses as given. -/
def serve (first : Nat) : List (Nat × Int × Event) → List (Pool.Label Event Int)
  | [] => []
  | (accesses, now, event) :: rest =>
      .start event :: List.replicate accesses (.step first now) ++ serve (first + 1) rest

end HashBurst.Replication
