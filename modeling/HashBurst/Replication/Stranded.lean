import HashBurst.Lib.Machine
import HashBurst.Replication.Calls
import HashBurst.Replication.FullMode
import HashBurst.Replication.Pairing

/-! Whole calls on one store, one after another: every desired replica that is not confirmed
keeps a job of the current generation, as long as no call takes the job away. -/

namespace HashBurst.Replication

open Lib ReplicationDB ReplicationDBV214 ReplicationDBV214Recovery

/-- A store under whole calls, each at a time of its own. -/
def callMachine : Machine Db (Int × Event) where
  next db timed := some (timed.2.program.runAt timed.1 db).1

def Registering.revises (args : Registering) (now : Int) (db : Db) : Bool :=
  match registerGuard args.cid args.n args.m db,
    ReplicationDB.registerObject now args.cid args.sizeBytes args.n args.m args.sourceNode
      args.referenceId db with
  | .ok oldPolicy, .ok (middle, _) => (middle.object args.cid).any fun object => bumps object oldPolicy
  | _, _ => false

def Db.released (db : Db) (cid : Cid) : Bool :=
  (db.object cid).any fun object => object.releasedAt ≠ 0

/-- Every row that is desired, or becomes so by a revival, is settled. -/
def Registering.rowsSettled (args : Registering) (db : Db) : Bool :=
  (db.replicaRows args.cid).all fun replica =>
    sourceOf args.sourceNode = some replica.nodeId || replica.settled ||
      !(replica.desired || (db.released args.cid && replica.state ≠ .unpinned))

/-- Whether `_classify_observed_replicas` gives the row up. -/
def Controller.givesUp (ctl : Controller) (now : Int) (db : Db) (replica : Replica) : Bool :=
  (ctl.observedMark now (db.nodes.find? replica.nodeId) replica).any fun mark => mark.1 = .missing

/-- No desired row is given up without a job of the current generation. -/
def Controller.givesUpServed (ctl : Controller) (cid : Cid) (now : Int) (db : Db) : Bool :=
  (db.object cid).all fun object => object.refcount = 0 ||
    (db.replicaRows cid).all fun replica =>
      !(replica.desired && ctl.givesUp now db replica) ||
        db.served cid replica.nodeId object.generation

def Event.spares (now : Int) (db : Db) : Event → Bool
  | register args => !args.revises now db || args.rowsSettled db
  | reconcile ctl cid => ctl.givesUpServed cid now db
  | _ => true

def SparesRows (db : Db) (timed : Int × Event) : Prop := timed.2.spares timed.1 db = true

instance (db : Db) (timed : Int × Event) : Decidable (SparesRows db timed) :=
  inferInstanceAs (Decidable (_ = true))

/-- No desired row of the content waits without an active job of the current generation, unless
its node is offline. -/
def NoneStranded (ctl : Controller) (cid : Cid) (now : Int) (db : Db) : Prop :=
  ∀ object, db.object cid = some object → object.refcount ≠ 0 →
    ∀ replica ∈ db.replicaRows cid, replica.desired = true →
      replica.state = .pinned ∨ replica.state = .grace ∨
      db.served cid replica.nodeId object.generation = true ∨
      ∀ node, db.nodes.find? replica.nodeId = some node → ctl.nodeOnline node now = false

section Calls

variable {excused : NodeId → Prop} {db : Db} {now : Int}

/-- A registration leaves the time of the last release as it is. -/
theorem registerBase_released {args : Registering} {middle : Db} {out : Registration}
    {object : Object}
    (done : ReplicationDB.registerObject now args.cid args.sizeBytes args.n args.m args.sourceNode
      args.referenceId db = .ok (middle, out)) (found : middle.object args.cid = some object)
    (released : object.releasedAt ≠ 0) : db.released args.cid = true := by
  unfold Db.released
  cases known : db.object args.cid with
  | none =>
      have own := (registerBase_object done).2
      rw [known, found] at own
      rcases own with kept | fresh
      · cases kept
      · have new := Option.some.inj fresh
        rw [new] at released
        exact absurd rfl released
  | some old =>
      have own := (registerBase_object done).2
      rw [known, found] at own
      have same : object.releasedAt = old.releasedAt := by
        rcases own with kept | retained
        · rw [Option.some.inj kept]
        · rw [Option.some.inj retained]
          rfl
      rw [Option.any_some]
      exact decide_eq_true (same ▸ released)

theorem paired_register {args : Registering} (paired : Paired excused db)
    (spared : (Event.register args).spares now db = true) :
    Paired excused ((Event.register args).program.runAt now db).1 := by
  simp only [Event.program, StoreCall.program]
  rw [Call.runAt_discard, ReplicationDBV214.registerObject_runAt]
  simp only [Event.spares, Registering.revises] at spared
  cases guarded : registerGuard args.cid args.n args.m db with
  | error failure => exact paired
  | ok oldPolicy =>
      rw [guarded] at spared
      dsimp only
      cases done : ReplicationDB.registerObject now args.cid args.sizeBytes args.n args.m
          args.sourceNode args.referenceId db with
      | error failure =>
          rw [commit_error done]
          exact paired
      | ok result =>
          obtain ⟨middle, out⟩ := result
          rw [commit_ok done]
          rw [done] at spared
          dsimp only at spared
          refine paired_registerBump ((registerBase_keeps done).paired paired) ?_
          intro object found bumping nodeId replica present wanted
          rw [found, Option.any_some, bumping, Bool.not_true, Bool.false_or] at spared
          rcases registerBase_replica done present with ⟨-, -, settled⟩ | old
          · exact settled
          · have listed : replica ∈ db.replicaRows args.cid := by
              refine List.mem_filter.mpr ⟨Table.find?_mem old, ?_⟩
              simpa using (Prod.ext_iff.mp (Table.find?_key old)).1
            have own := List.all_eq_true.mp spared replica listed
            have named : replica.nodeId = nodeId := (Prod.ext_iff.mp (Table.find?_key old)).2
            simp only [Bool.or_eq_true, decide_eq_true_eq] at own
            rcases own with (source | settled) | unwanted
            · exact registerBase_source done (source.trans (congrArg some named)) present
            · exact settled
            · simp only [Bool.not_eq_true', Bool.or_eq_false_iff] at unwanted
              rcases wanted with desired | ⟨released, remains⟩
              · rw [desired] at unwanted
                cases unwanted.1
              · rw [registerBase_released done found released] at unwanted
                simp [remains] at unwanted

def Op.repairs {β : Type} (op : Op β) : Prop :=
  match op with
  | .createPinAssignment .. => True
  | .createVerifyJob .. => True
  | .updateObjectHealth .. => True
  | .object _ => True
  | .replicaRows _ => True
  | .nodes => True
  | .placementLoad => True
  | op => op.plansUnpin

variable {ctl : Controller} {cid : Cid}

theorem repair_repairs (object : Object) (rows : List Replica) (nodes : List Node)
    (chosen : List OnlineNode) : (ctl.repair cid now object rows nodes chosen).All Op.repairs := by
  refine Prog.all_bind (Prog.all_forEach fun node _ => ?_) fun _ => Prog.all_forEach fun row _ => ?_
  · exact ⟨trivial, fun answer => Prog.all_bind (Prog.all_ofExcept answer) fun _ => trivial⟩
  · unfold Controller.verifyReplica
    split
    · exact ⟨trivial, fun answer => Prog.all_bind (Prog.all_ofExcept answer) fun _ => trivial⟩
    · trivial

variable (now ctl cid) in
theorem reconcileClassified_repairs : (ctl.reconcileClassified cid now).All Op.repairs := by
  refine ⟨trivial, fun found => ?_⟩
  cases found with
  | none => trivial
  | some pair =>
      refine ⟨trivial, fun nodes => ⟨trivial, fun load => ?_⟩⟩
      refine Prog.all_bind (Prog.all_ret load) fun load => ?_
      refine Prog.all_bind (Prog.all_ofExcept _) fun chosen => ?_
      have health : (ctl.reportHealth cid pair.1).All Op.repairs :=
        ⟨trivial, fun rows => ⟨trivial, fun _ => trivial⟩⟩
      dsimp only
      split
      · exact Prog.all_bind (repair_repairs pair.1 pair.2 nodes chosen) fun _ => health
      · exact health

theorem plansUnpin_repairs {β : Type} (op : Op β) (plans : op.plansUnpin) : op.repairs := by
  cases op <;> first | exact plans | trivial

/-- A reconcile classifies the rows of a live content and goes on with `Op.repairs`. -/
theorem reconcile_invariant (Holds : Db → Prop)
    (preserved : ∀ {β : Type} (op : Op β) (state : Db), op.repairs → Holds state →
      Holds (runOp op now state).1)
    (idle : Holds db)
    (live : ∀ object, db.object cid = some object → object.refcount ≠ 0 →
      Holds (ctl.classify cid now db)) :
    Holds ((ControllerV214.reconcileCid ctl cid).runAt now db).1 := by
  have runs : ∀ {α : Type} (call : Call α) (state : Db), call.All Op.repairs → Holds state →
      Holds (call.runAt now state).1 := fun call state allowed start =>
    Prog.exec_invariant Holds now preserved call allowed state start
  unfold ControllerV214.reconcileCid
  rw [Call.runAt_ask_bind]
  cases found : db.object cid with
  | none =>
      simp only [runOp, found, Option.map_none]
      exact idle
  | some object =>
      simp only [runOp, found, Option.map_some]
      by_cases released : object.refcount = 0
      · rw [if_pos released, Call.runAt_ask_bind]
        exact runs _ _ (Prog.all_mono plansUnpin_repairs (planFinalRelease_plans object _ _)) idle
      · rw [if_neg released, Call.runAt_bind, reconcileCid_runAt found released]
        have middle := runs _ _ (reconcileClassified_repairs now ctl cid) (live object found released)
        rcases reconciled : (ctl.reconcileClassified cid now).runAt now (ctl.classify cid now db)
          with ⟨after, failure | value⟩
        · rw [reconciled] at middle
          exact middle
        · rw [reconciled] at middle
          dsimp only
          rw [Call.runAt_ask_bind]
          simp only [runOp]
          cases after.object cid with
          | none => exact middle
          | some object =>
              exact runs _ _ (Prog.all_mono plansUnpin_repairs (planTrim_plans object _)) middle

theorem paired_repairs {β : Type} (op : Op β) (repairs : op.repairs) (paired : Paired excused db) :
    Paired excused (runOp op now db).1 := by
  cases op with
  | time => exact paired
  | object => exact paired
  | replicaRows => exact paired
  | nodes => exact paired
  | placementLoad => exact paired
  | activeUnpinNodes => exact paired
  | updateObjectHealth written state reason =>
      refine (Keeps.mk ?_ ?_ ?_ : Keeps db _).paired paired
      · intro content nodeId replica present wanting
        exact ⟨replica, present, wanting⟩
      · intro content owner known
        simp only [runOp, updateObjectHealth, object_updateObject]
        split
        · rw [known]
          exact ⟨_, rfl, rfl⟩
        · exact ⟨owner, known, rfl⟩
      · intro content nodeId owner _ served
        exact served
  | createPinAssignment written nodeId capacityClass =>
      exact commit_invariant (Paired excused) paired fun after _ done =>
        paired_createPinAssignment paired done
  | createVerifyJob =>
      exact commit_invariant (Paired excused) paired fun after _ done =>
        (createVerifyJob_keeps done).paired paired
  | createUnpinJob =>
      exact commit_invariant (Paired excused) paired fun after _ done =>
        (createUnpinJob_keeps done).paired paired
  | _ => exact repairs.elim

theorem observedMark_cases {node : Option Node} {replica : Replica} {state : ReplicaState}
    {error : String} (marked : ctl.observedMark now node replica = some (state, error)) :
    state = .pinned ∨ state = .grace ∨ state = .missing := by
  unfold Controller.observedMark at marked
  split at marked
  · cases marked
    exact .inr (.inr rfl)
  · split at marked
    · split at marked
      · cases marked
        exact .inl rfl
      · cases marked
    · split at marked
      · dsimp only at marked
        split at marked
        all_goals
          split at marked
          · cases marked
            exact .inr (.inl rfl)
          · cases marked
            exact .inr (.inr rfl)
      · cases marked

/-- The marks leave no row waiting but those that are given up. -/
theorem paired_classify (paired : Paired excused db)
    (kept : ∀ replica ∈ db.replicaRows cid, replica.desired = true →
      ctl.givesUp now db replica = true → excused replica.nodeId ∨ ∃ object,
        db.object cid = some object ∧ db.served cid replica.nodeId object.generation = true) :
    Paired excused (ctl.classify cid now db) := by
  intro content nodeId replica present wanting
  unfold Controller.classify at present
  rw [replica_updateReplicas] at present
  obtain ⟨old, known, rfl⟩ := Option.map_eq_some_iff.mp present
  have key := Prod.ext_iff.mp (Table.find?_key known)
  by_cases own : old.cid = cid
  · rw [if_pos (decide_eq_true own)] at wanting
    unfold Controller.classified at wanting
    rw [nodeList_find?] at wanting
    cases marked : ctl.observedMark now (db.nodes.find? old.nodeId) old with
    | none =>
        rw [marked] at wanting
        exact paired content nodeId old known wanting
    | some mark =>
        obtain ⟨state, error⟩ := mark
        rw [marked] at wanting
        rcases observedMark_cases marked with rfl | rfl | rfl
        · simp [Replica.wanting, Replica.settled, markedReplica] at wanting
        · simp [Replica.wanting, Replica.settled, markedReplica] at wanting
        · have desired : old.desired = true := (Bool.and_eq_true _ _ ▸ wanting).1
          have listed : old ∈ db.replicaRows cid :=
            List.mem_filter.mpr ⟨Table.find?_mem known, decide_eq_true own⟩
          have gone : ctl.givesUp now db old = true := by
            unfold Controller.givesUp
            rw [marked]
            rfl
          have served := kept old listed desired gone
          have content_eq : cid = content := own.symm.trans key.1
          have node_eq : old.nodeId = nodeId := key.2
          subst content_eq
          subst node_eq
          exact served
  · rw [if_neg (by simpa using own)] at wanting
    exact paired content nodeId old known wanting

theorem paired_reconcile (paired : Paired excused db)
    (kept : ∀ object, db.object cid = some object → object.refcount ≠ 0 →
      ∀ replica ∈ db.replicaRows cid, replica.desired = true →
        ctl.givesUp now db replica = true →
          excused replica.nodeId ∨ db.served cid replica.nodeId object.generation = true) :
    Paired excused ((ControllerV214.reconcileCid ctl cid).runAt now db).1 := by
  refine reconcile_invariant (Paired excused) (fun op _ repairs before =>
    paired_repairs op repairs before) paired fun object found live => ?_
  refine paired_classify paired fun replica listed desired gone => ?_
  rcases kept object found live replica listed desired gone with free | served
  · exact .inl free
  · exact .inr ⟨object, found, served⟩

theorem paired_event {event : Event} (paired : Paired excused db)
    (spared : event.spares now db = true) : Paired excused (event.program.runAt now db).1 := by
  cases event with
  | register args => exact paired_register paired spared
  | release cid referenceId requestId =>
      simp only [Event.program, StoreCall.program]
      rw [Call.runAt_discard, Call.runAt_attempt]
      exact commit_invariant (Paired excused) paired fun after _ done =>
        paired_releaseObject paired done
  | upsertNode node =>
      exact (Keeps.of_eq rfl rfl rfl : Keeps db (upsertNode node db)).paired paired
  | heartbeat nodeId totalBytes usedBytes =>
      simp only [Event.program, StoreCall.program]
      rw [Call.runAt_attempt]
      exact commit_invariant (Paired excused) paired fun after _ done =>
        (heartbeat_keeps done).paired paired
  | pendingJobs nodeId limit allowed ties => exact pendingJobs_keeps.paired paired
  | authorizeUnpin nodeId jobId leaseUntil => exact authorizeUnpin_keeps.paired paired
  | report nodeId sent => exact paired_report paired
  | recoverV214 => exact recoverV214_keeps.paired paired
  | reconcile ctl cid =>
      refine paired_reconcile paired fun object found live replica listed desired gone => .inr ?_
      simp only [Event.spares, Controller.givesUpServed, found, Option.all_some] at spared
      rw [Bool.or_eq_true] at spared
      rcases spared with dead | all
      · exact absurd (of_decide_eq_true dead) live
      · have own := List.all_eq_true.mp all replica listed
        rw [desired, gone] at own
        exact own

end Calls

theorem nodes_repairs {β : Type} {op : Op β} {now : Int} {db : Db} (repairs : op.repairs) :
    (runOp op now db).1.nodes = db.nodes := by
  cases op with
  | createPinAssignment =>
      refine commit_invariant (fun state => state.nodes = db.nodes) rfl fun after value done => ?_
      obtain ⟨object, -, rfl | ⟨-, rfl⟩ | rfl⟩ := createPinAssignment_cases done
      · rfl
      · rfl
      · rfl
  | createVerifyJob =>
      refine commit_invariant (fun state => state.nodes = db.nodes) rfl fun after value done => ?_
      obtain rfl | ⟨-, rfl⟩ := createVerifyJob_cases done
      · rfl
      · rfl
  | createUnpinJob =>
      refine commit_invariant (fun state => state.nodes = db.nodes) rfl fun after value done => ?_
      obtain rfl | ⟨object, -, -, rfl, -⟩ := createUnpinJob_cases done
      · rfl
      · rfl
  | time => rfl
  | object => rfl
  | replicaRows => rfl
  | nodes => rfl
  | placementLoad => rfl
  | activeUnpinNodes => rfl
  | updateObjectHealth => rfl
  | _ => exact repairs.elim

theorem reconcile_nodes {ctl : Controller} {cid : Cid} {now : Int} {db : Db} :
    ((ControllerV214.reconcileCid ctl cid).runAt now db).1.nodes = db.nodes :=
  reconcile_invariant (fun state => state.nodes = db.nodes)
    (fun _ _ repairs same => (nodes_repairs repairs).trans same) rfl fun _ _ _ => rfl

theorem givesUp_offline {ctl : Controller} {now : Int} {db : Db} {replica : Replica} {node : Node}
    (gone : ctl.givesUp now db replica = true) (known : db.nodes.find? replica.nodeId = some node) :
    ctl.nodeOnline node now = false := by
  unfold Controller.givesUp Controller.observedMark at gone
  rw [known] at gone
  by_contra online
  simp only [Bool.not_eq_false] at online
  simp only [online, if_true] at gone
  split at gone
  · cases gone
  · cases gone

theorem noneStranded_reconcile {db : Db} (paired : Paired (fun _ => False) db) (ctl : Controller)
    (cid : Cid) (now : Int) :
    NoneStranded ctl cid now ((ControllerV214.reconcileCid ctl cid).runAt now db).1 := by
  let offline (nodeId : NodeId) : Prop :=
    ∀ node, db.nodes.find? nodeId = some node → ctl.nodeOnline node now = false
  have excusing : Paired offline db := fun content nodeId replica present wanting =>
    (paired content nodeId replica present wanting).imp False.elim id
  have settled : Paired offline ((ControllerV214.reconcileCid ctl cid).runAt now db).1 :=
    paired_reconcile excusing fun _ _ _ _ _ _ gone => .inl fun _ known => givesUp_offline gone known
  intro object found live replica listed desired
  obtain ⟨member, named⟩ := List.mem_filter.mp listed
  have own : replica.cid = cid := of_decide_eq_true named
  subst own
  by_cases calm : replica.settled = true
  · unfold Replica.settled at calm
    simp only [Bool.or_eq_true, decide_eq_true_eq] at calm
    exact calm.imp id .inl
  · have wanting : replica.wanting = true := by
      unfold Replica.wanting
      rw [desired, Bool.eq_false_of_not_eq_true calm]
      rfl
    have present := Table.find?_some_iff.mpr ⟨member, rfl⟩
    rcases settled replica.cid replica.nodeId replica present wanting with free | ⟨owner, known, served⟩
    · rw [reconcile_nodes]
      exact .inr (.inr (.inr free))
    · rw [found] at known
      cases known
      exact .inr (.inr (.inl served))

/-- In a run of calls that spare the rows, every reconcile leaves no replica stranded. -/
theorem no_replica_stranded {db : Db} (run : callMachine.Run SparesRows Db.empty db)
    (ctl : Controller) (cid : Cid) (now : Int) :
    NoneStranded ctl cid now ((ControllerV214.reconcileCid ctl cid).runAt now db).1 := by
  have paired : Paired (fun _ => False) db := by
    refine Machine.Run.invariant (Paired fun _ => False) ?_ run ?_
    · intro before timed after held spared taken
      cases taken
      exact paired_event held spared
    · intro content nodeId replica present
      cases present
  exact noneStranded_reconcile paired ctl cid now

/-- A pin-only controller; one node is eligible at most, so the scores do not matter. -/
def pinOnlyController : Controller where
  defaultPolicy := {}
  mode := .pinOnly
  intervals := {}
  scoring := ⟨fun _ _ => 0, fun dividend divisor => dividend / divisor⟩

/-- One node that is online, one object, and its first PIN assignment. -/
def assignedCalls : List (Int × Event) :=
  [(1000, .upsertNode { nodeId := "alpha", capacityClass := .committable }),
    (1000, .heartbeat "alpha" 20000000000 0),
    (1000, .register
      { cid := "bafy", sizeBytes := 10, n := 1, m := 1, sourceNode := none, referenceId := none }),
    (1000, .reconcile pinOnlyController "bafy")]

/-- A second reference that asks for one more copy. -/
def raisedPolicy : Event :=
  .register
    { cid := "bafy", sizeBytes := 10, n := 2, m := 1, sourceNode := none, referenceId := none }

/-- The policy is raised once the first copy is confirmed. -/
def confirmedDb : Db :=
  (callMachine.play SparesRows Db.empty (assignedCalls ++
    [(1010, .report "alpha" { jobId := 0, state := .pinned }), (1020, raisedPolicy)])).get
      (by decide)

/-- Then a second node comes, which the next reconcile asks for a copy. -/
def joinedDb : Db :=
  (callMachine.play SparesRows Db.empty (assignedCalls ++
    [(1010, .report "alpha" { jobId := 0, state := .pinned }), (1020, raisedPolicy),
      (1025, .upsertNode { nodeId := "beta", capacityClass := .committable }),
      (1025, .heartbeat "beta" 20000000000 0)])).get (by decide)

/-- The new row waits for its copy, and has a job of the generation that the policy has started. -/
theorem joined_none_stranded :
    let after := ((ControllerV214.reconcileCid pinOnlyController "bafy").runAt 1030 joinedDb).1
    NoneStranded pinOnlyController "bafy" 1030 after ∧
      (after.replica "bafy" "beta").map Replica.state = some .assigned ∧
      after.served "bafy" "beta" 2 = true := by
  intro after
  have settled : NoneStranded pinOnlyController "bafy" 1030 after :=
    no_replica_stranded (Machine.Run.of_play (Option.some_get _).symm) pinOnlyController "bafy" 1030
  let object : Object :=
    { cid := "bafy", sizeBytes := 10, createdAt := 1000, replicationN := 2, committableM := 1
      state := .degradedTotal, reason := "confirmed_total=1 target=2", generation := 2
      refcount := 2 }
  let replica : Replica :=
    { cid := "bafy", nodeId := "beta", classAtAssignment := .committable, assignedAt := 1030
      generation := 2 }
  have found : after.object "bafy" = some object := by decide
  have listed : replica ∈ after.replicaRows "bafy" := by decide
  refine ⟨settled, by decide, ?_⟩
  rcases settled object found (by decide) replica listed rfl with pinned | grace | served | offline
  · cases pinned
  · cases grace
  · exact served
  · exact absurd (offline { nodeId := "beta", capacityClass := .committable, lastSeen := 1025
                            totalBytes := 20000000000 } (by decide)) (by decide)

/-- The policy is raised while the agent still pins. -/
def overtakenDb : Db :=
  (callMachine.play (fun _ _ => True) Db.empty (assignedCalls ++ [(1010, raisedPolicy)])).get
    (by decide)

theorem replica_stranded : ¬∀ (db : Db) (ctl : Controller) (cid : Cid) (now : Int),
    callMachine.Run (fun _ _ => True) Db.empty db → ctl.mode = .pinOnly →
      NoneStranded ctl cid now ((ControllerV214.reconcileCid ctl cid).runAt now db).1 := by
  intro always
  let after := ((ControllerV214.reconcileCid pinOnlyController "bafy").runAt 1030 overtakenDb).1
  have settled : NoneStranded pinOnlyController "bafy" 1030 after :=
    always overtakenDb pinOnlyController "bafy" 1030
      (Machine.Run.of_play (Option.some_get _).symm) rfl
  let object : Object :=
    { cid := "bafy", sizeBytes := 10, createdAt := 1000, replicationN := 2, committableM := 1
      state := .degradedCommittable, reason := "confirmed_committable=0 required=1"
      generation := 2, refcount := 2 }
  let replica : Replica :=
    { cid := "bafy", nodeId := "alpha", classAtAssignment := .committable, assignedAt := 1000
      generation := 2 }
  have found : after.object "bafy" = some object := by decide
  have listed : replica ∈ after.replicaRows "bafy" := by decide
  rcases settled object found (by decide) replica listed rfl with pinned | grace | served | offline
  · cases pinned
  · cases grace
  · exact absurd served (by decide)
  · exact absurd (offline { nodeId := "alpha", capacityClass := .committable, lastSeen := 1000
                            totalBytes := 20000000000 } (by decide)) (by decide)

end HashBurst.Replication
