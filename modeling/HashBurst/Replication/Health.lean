import HashBurst.Replication.Planner
import HashBurst.Replication.Stranded

namespace HashBurst.Replication

open Lib ReplicationDB ReplicationDBV214

/-- The object's state says how many of its desired rows are pinned, and each of those is on a
registered and enabled node with a recent heartbeat. -/
structure HealthExact (ctl : Controller) (cid : Cid) (now : Int) (object : Object) (db : Db) :
    Prop where
  healthy : object.state = .healthy ↔
    object.replicationN ≤ (confirmedRows db cid).length ∧
      object.committableM ≤ ((confirmedRows db cid).filter fun replica =>
        replica.classAtAssignment = .committable).length
  committable : object.state = .degradedCommittable ↔
    ((confirmedRows db cid).filter fun replica =>
      replica.classAtAssignment = .committable).length < object.committableM
  total : object.state = .degradedTotal ↔
    object.committableM ≤ ((confirmedRows db cid).filter fun replica =>
      replica.classAtAssignment = .committable).length ∧
      (confirmedRows db cid).length < object.replicationN
  online : ∀ replica ∈ confirmedRows db cid, ∃ node,
    db.nodes.find? replica.nodeId = some node ∧ node.enabled = true ∧ 0 < node.lastSeen ∧
      now - node.lastSeen ≤ ctl.intervals.nodeStale

/-- Every pinned row of the content is on a node that is online. -/
def PinnedOnline (ctl : Controller) (cid : Cid) (now : Int) (db : Db) : Prop :=
  ∀ nodeId replica, db.replica cid nodeId = some replica → replica.state = .pinned →
    ∃ node, db.nodes.find? nodeId = some node ∧ ctl.nodeOnline node now = true

section Health

variable {ctl : Controller} {cid : Cid} {now : Int} {db : Db} {object : Object}

/-- A row that is pinned after the marks is on a node that is online. -/
theorem observedMark_pinned {node : Option Node} {replica : Replica}
    (pinned : ((ctl.observedMark now node replica).map Prod.fst).getD replica.state = .pinned) :
    ∃ found, node = some found ∧ ctl.nodeOnline found now = true := by
  unfold Controller.observedMark at pinned
  cases node with
  | none => cases pinned
  | some node =>
      dsimp only at pinned
      by_cases online : ctl.nodeOnline node now = true
      · exact ⟨node, rfl, online⟩
      · rw [if_neg online] at pinned
        split at pinned
        · split at pinned
          all_goals
            split at pinned
            · cases pinned
            · cases pinned
        · rename_i unsettled
          have settled : replica.state = .pinned := pinned
          simp [settled] at unsettled

theorem classified_state (nodes : List Node) (replica : Replica) :
    (ctl.classified now nodes replica).state =
      ((ctl.observedMark now (nodes.find? fun node => node.nodeId = replica.nodeId) replica).map
        Prod.fst).getD replica.state := by
  unfold Controller.classified
  split
  · rename_i unmarked
    rw [unmarked]
    rfl
  · rename_i marked
    rw [marked]
    rfl

theorem classify_online : PinnedOnline ctl cid now (ctl.classify cid now db) := by
  intro nodeId replica present pinned
  unfold Controller.classify at present
  rw [replica_updateReplicas] at present
  obtain ⟨old, known, rfl⟩ := Option.map_eq_some_iff.mp present
  have key := Prod.ext_iff.mp (Table.find?_key known)
  have named : old.nodeId = nodeId := key.2
  have own : old.cid = cid := key.1
  rw [if_pos (decide_eq_true own), classified_state, nodeList_find?, named] at pinned
  exact observedMark_pinned pinned

theorem online_repairs {β : Type} (op : Op β) (repairs : op.repairs)
    (online : PinnedOnline ctl cid now db) : PinnedOnline ctl cid now (runOp op now db).1 := by
  have nodes : (runOp op now db).1.nodes = db.nodes := nodes_repairs repairs
  have unmoved : (runOp op now db).1.replicas = db.replicas →
      PinnedOnline ctl cid now (runOp op now db).1 := by
    intro same nodeId replica present pinned
    rw [replica_congr same] at present
    rw [nodes]
    exact online nodeId replica present pinned
  cases op with
  | createPinAssignment content target capacityClass =>
      refine commit_invariant (PinnedOnline ctl cid now) online fun after answer done => ?_
      have kept : after.nodes = db.nodes := by
        simp only [runOp] at nodes
        rw [commit_ok done] at nodes
        exact nodes
      obtain ⟨owner, -, made⟩ := createPinAssignment_cases done
      have assigned : after.replicas =
          (assignReplica now content target capacityClass owner.generation db).replicas →
          PinnedOnline ctl cid now after := by
        intro rows nodeId replica present pinned
        rw [replica_congr rows, replica_assignReplica] at present
        split at present
        · rw [← Option.some.inj present] at pinned
          split at pinned
          · cases pinned
          · cases pinned
        · rw [kept]
          exact online nodeId replica present pinned
      obtain rfl | ⟨-, rfl⟩ | rfl := made
      · exact online
      · exact assigned rfl
      · exact assigned rfl
  | createVerifyJob content target generation =>
      refine unmoved (commit_invariant (fun state => state.replicas = db.replicas) rfl ?_)
      intro after answer done
      obtain rfl | ⟨-, rfl⟩ := createVerifyJob_cases done
      · rfl
      · rfl
  | createUnpinJob content target generation reason notBefore =>
      exact unmoved (plansUnpin_same (.createUnpinJob content target generation
        reason notBefore) repairs).replicas.symm
  | time => exact unmoved rfl
  | object => exact unmoved rfl
  | replicaRows => exact unmoved rfl
  | nodes => exact unmoved rfl
  | placementLoad => exact unmoved rfl
  | activeUnpinNodes => exact unmoved rfl
  | updateObjectHealth => exact unmoved rfl
  | _ => exact repairs.elim

private theorem confirmed_replicaRows : (db.replicaRows cid).filter Replica.confirmed =
    confirmedRows db cid := by
  unfold Db.replicaRows confirmedRows
  rw [List.filter_filter]
  simp only [Bool.and_comm]

private theorem confirmedCounts_replicaRows : Controller.confirmedCounts (db.replicaRows cid) =
    (((confirmedRows db cid).length : Int), (((confirmedRows db cid).filter fun replica =>
      replica.classAtAssignment = .committable).length : Int)) := by
  unfold Controller.confirmedCounts
  rw [confirmed_replicaRows]
  dsimp only
  rw [List.countP_eq_length_filter]

theorem health_state (policy : PlacementPolicy) (replicas : List Replica) :
    (Controller.health policy replicas).1 =
      if (Controller.confirmedCounts replicas).2 < policy.committableM then .degradedCommittable
      else if (Controller.confirmedCounts replicas).1 < policy.replicationN then .degradedTotal
      else .healthy := by
  unfold Controller.health
  dsimp only
  split
  · rfl
  · split
    · split
      · rfl
      · rfl
    · rfl

/-- What the last lines of a reconcile write is exact for the rows that they read. -/
theorem withHealth_exact (found : db.object cid = some object)
    (online : PinnedOnline ctl cid now db) :
    ∃ later, (ctl.withHealth cid object db).object cid = some later ∧
      HealthExact ctl cid now later (ctl.withHealth cid object db) := by
  have written : (ctl.withHealth cid object db).object cid = some { object with
      state := (Controller.health (ctl.policyOf object) (db.replicaRows cid)).1
      reason := Py.clip 200 (Controller.health (ctl.policyOf object) (db.replicaRows cid)).2 } := by
    unfold Controller.withHealth updateObjectHealth
    rw [object_updateObject, if_pos rfl, found]
    rfl
  have rows : confirmedRows (ctl.withHealth cid object db) cid = confirmedRows db cid := rfl
  have state := health_state (ctl.policyOf object) (db.replicaRows cid)
  rw [confirmedCounts_replicaRows] at state
  change _ = if _ < object.committableM then _ else if _ < object.replicationN then _ else _ at state
  refine ⟨_, written, ?_, ?_, ?_, ?_⟩
  · rw [rows, state]
    split
    · simp only [reduceCtorEq, false_iff]
      omega
    · split
      · simp only [reduceCtorEq, false_iff]
        omega
      · simp only [true_iff]
        omega
  · rw [rows, state]
    split
    · simp only [true_iff]
      assumption
    · split
      · simp only [reduceCtorEq, false_iff]
        assumption
      · simp only [reduceCtorEq, false_iff]
        assumption
  · rw [rows, state]
    split
    · simp only [reduceCtorEq, false_iff]
      omega
    · split
      · simp only [true_iff]
        omega
      · simp only [reduceCtorEq, false_iff]
        omega
  · intro replica member
    rw [rows] at member
    obtain ⟨present, chosen⟩ := List.mem_filter.mp member
    simp only [Replica.confirmed, Bool.and_eq_true, decide_eq_true_eq] at chosen
    have known : db.replica cid replica.nodeId = some replica :=
      Table.find?_some_iff.mpr ⟨present, Prod.ext chosen.1 rfl⟩
    obtain ⟨node, listed, active⟩ := online replica.nodeId replica known chosen.2.2
    simp only [Controller.nodeOnline, Bool.and_eq_true, decide_eq_true_eq] at active
    exact ⟨node, listed, active.1.1, active.1.2, active.2⟩

/-- What a reconcile alone does to a live content whose policy is valid. -/
theorem reconcileCid_reports (found : db.object cid = some object) (live : object.refcount ≠ 0)
    (valid : (ctl.policyOf object).validate = .ok ()) : ∃ middle,
      (ctl.reconcileCid cid).runAt now db = (ctl.withHealth cid object middle, .ok ()) ∧
        middle.object cid = some object ∧ middle.nodes = db.nodes ∧
        PinnedOnline ctl cid now middle := by
  have known : (ctl.classify cid now db).object cid = some object := found
  obtain ⟨chosen, picked⟩ : ∃ chosen, ctl.picksIn cid now object (ctl.classify cid now db) =
      .ok chosen := choosePlacements_valid valid
  rw [reconcileCid_runAt found live]
  by_cases repairs : ctl.mode = .pinOnly
  · have members : ∀ node ∈ chosen,
        ((ctl.classify cid now db).nodes.find? node.nodeId).isSome = true := by
      intro node member
      obtain ⟨row, present⟩ := onlineNodes_known (choosePlacements_mem picked node member).1 rfl
      rw [present]
      rfl
    let rows := (ctl.classify cid now db).replicaList cid
    let nodes := (ctl.classify cid now db).nodeList
    have repaired : (ctl.repair cid now object rows nodes chosen).runAt now (ctl.classify cid now db) =
        (rows.foldl (ctl.verifyStep cid now object (ctl.onlineNodes now nodes))
          (chosen.foldl (assignStep cid now) (ctl.classify cid now db)), .ok ()) :=
      repair_runAt known members
    obtain ⟨-, assigned⟩ := assignPins_runAt now ⟨known, rfl⟩ members
    obtain ⟨-, verified⟩ := verifyReplicas_runAt assigned fun replica (_ : replica ∈ rows) due =>
      verifyDue_known rfl due
    refine ⟨_, ?_, verified.found, verified.nodes, ?_⟩
    · rw [reconcileClassified_repairing known picked repairs, repaired]
    · have allowed : (ctl.repair cid now object rows nodes chosen).All Op.repairs :=
        repair_repairs object rows nodes chosen
      have kept := Prog.exec_invariant (PinnedOnline ctl cid now) now
        (fun op _ repairs online => online_repairs op repairs online) _ allowed
        (ctl.classify cid now db) classify_online
      change PinnedOnline ctl cid now
        ((ctl.repair cid now object rows nodes chosen).runAt now (ctl.classify cid now db)).1 at kept
      rw [repaired] at kept
      exact kept
  · exact ⟨_, reconcileClassified_observing known picked repairs, known, rfl, classify_online⟩

theorem healthExact_congr {later : Db} (exact : HealthExact ctl cid now object db)
    (rows : later.replicas = db.replicas) (nodes : later.nodes = db.nodes) :
    HealthExact ctl cid now object later := by
  have same : confirmedRows later cid = confirmedRows db cid := by
    unfold confirmedRows
    rw [rows]
  refine ⟨?_, ?_, ?_, ?_⟩
  · rw [same]
    exact exact.healthy
  · rw [same]
    exact exact.committable
  · rw [same]
    exact exact.total
  · rw [same, nodes]
    exact exact.online

end Health

/-- The registrations pass the check that `register_object` of the controller makes. -/
def Op.validPolicy {β : Type} (op : Op β) : Bool :=
  match op with
  | .registerBase _ _ n m _ _ => 1 ≤ n && 0 ≤ m && m ≤ n
  | _ => true

theorem validate_ok_iff {policy : PlacementPolicy} : policy.validate = .ok () ↔
    1 ≤ policy.replicationN ∧ 0 ≤ policy.committableM ∧
      policy.committableM ≤ policy.replicationN := by
  unfold PlacementPolicy.validate
  split
  · simp only [reduceCtorEq, false_iff]
    omega
  · split
    · simp only [reduceCtorEq, false_iff]
      omega
    · split
      · simp only [reduceCtorEq, false_iff]
        omega
      · simp only [true_iff]
        omega

/-- The policy of every object passes its check. -/
def PoliciesValid (db : Db) : Prop :=
  ∀ cid object, db.object cid = some object →
    1 ≤ object.replicationN ∧ 0 ≤ object.committableM ∧ object.committableM ≤ object.replicationN

theorem policies_runOp {β : Type} (op : Op β) (now : Int) (db : Db) (valid : op.validPolicy = true)
    (policies : PoliciesValid db) : PoliciesValid (runOp op now db).1 := by
  intro cid later known
  cases found : db.object cid with
  | none =>
      have requests := (object_born op now found known).2.2
      cases op with
      | registerBase =>
          simp only [Op.validPolicy, Bool.and_eq_true, decide_eq_true_eq] at valid
          rw [requests.1, requests.2]
          exact ⟨valid.1.1, valid.1.2, valid.2⟩
      | _ => exact requests.elim
  | some object =>
      have before := policies cid object found
      obtain ⟨next, present, moved⟩ := object_runOp op now found
      rw [known] at present
      cases Option.some.inj present
      rcases moved with core | shifts
      · have total : later.core.replicationN = object.core.replicationN := by rw [core]
        have committable : later.core.committableM = object.core.committableM := by rw [core]
        change later.replicationN = object.replicationN at total
        change later.committableM = object.committableM at committable
        rw [total, committable]
        exact before
      · cases op with
        | registerBase content sizeBytes n m sourceNode referenceId =>
            simp only [Op.validPolicy, Bool.and_eq_true, decide_eq_true_eq] at valid
            rw [shifts.2]
            change 1 ≤ max object.replicationN n ∧ 0 ≤ max object.committableM m ∧
              max object.committableM m ≤ max object.replicationN n
            omega
        | registerBump =>
            rw [shifts.2.2]
            exact before
        | releaseObject =>
            rcases shifts.2 with ⟨-, rfl⟩ | ⟨-, -, rfl⟩
            · exact before
            · exact before
        | _ => exact shifts.elim

/-- In every run of the controller whose registrations pass the check, so does every object. -/
theorem policies_valid {pool : EventPool}
    (run : eventMachine.Run (fun pool label =>
      pool.guard (fun _ _ op => op.validPolicy) (fun _ => true) label = true) freshEvents pool)
    {cid : Cid} {object : Object} (found : pool.shared.object cid = some object)
    (ctl : Controller) : (ctl.policyOf object).validate = .ok () := by
  have start : PoliciesValid freshEvents.shared := by
    intro cid object found
    cases found
  have policies := Pool.run_invariant PoliciesValid
    (fun op now db valid before => policies_runOp op now db valid before) start run
  exact validate_ok_iff.mpr (policies cid object found)

end HashBurst.Replication
