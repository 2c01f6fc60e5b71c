import Mathlib.Data.List.Perm.Subperm
import HashBurst.Replication.Placement
import HashBurst.Replication.Stranded

/-! Reconciles of one content in a row, at one time and with nothing in between: when all after
the first leave its copies and its PIN jobs alone. -/

namespace HashBurst.Replication

open Lib ReplicationDB

/-- The store after one `reconcile_cid` of the content. -/
def Controller.once (ctl : Controller) (cid : Cid) (now : Int) (db : Db) : Db :=
  ((ctl.reconcileCid cid).runAt now db).1

def Db.pinJobs (db : Db) : List Job := db.jobs.rows.filter fun job => job.operation = .pin

/-- The same rows of copies, and the same PIN jobs. -/
structure SamePins (first second : Db) : Prop where
  replicas : second.replicas = first.replicas
  pins : second.pinJobs = first.pinJobs

theorem SamePins.trans {first second third : Db} (front : SamePins first second)
    (back : SamePins second third) : SamePins first third where
  replicas := back.replicas.trans front.replicas
  pins := back.pins.trans front.pins

def freeNodes (ctl : Controller) (cid : Cid) (now : Int) (object : Object) (db : Db) :
    List OnlineNode :=
  (ctl.onlineNodes now db.nodeList).filter
    (placeable object.sizeBytes (Controller.currentNodeIds (db.replicaList cid)) (placementLoad db)
      (ctl.policyOf object))

/-- The copies on committable nodes that are missing: neither confirmed nor in grace. -/
def missingCommittable (cid : Cid) (object : Object) (db : Db) : Nat :=
  (object.committableM - ((Controller.confirmedCounts (db.replicaList cid)).2 +
    (Controller.graceCounts (db.replicaList cid)).2)).toNat

def missingTotal (cid : Cid) (object : Object) (db : Db) : Nat :=
  (object.replicationN - ((Controller.confirmedCounts (db.replicaList cid)).1 +
    (Controller.graceCounts (db.replicaList cid)).1)).toNat

/-- One reconcile takes every node that a second one could want: there is no need, or the nodes
that may take a copy are no more than the need. -/
def TakesAll (ctl : Controller) (cid : Cid) (now : Int) (object : Object) (db : Db) : Prop :=
  let committables := (freeNodes ctl cid now object db).countP
    fun node => node.capacityClass = .committable
  (missingTotal cid object db = 0 ∧ (missingCommittable cid object db = 0 ∨
      committables ≤ missingCommittable cid object db)) ∨
    (0 < missingTotal cid object db ∧ (freeNodes ctl cid now object db).length ≤
      max (missingTotal cid object db) (min (missingCommittable cid object db) committables))

section Classified

variable {ctl : Controller} {cid : Cid} {now : Int} {db : Db}

theorem markedReplica_again (now : Int) (state : ReplicaState) (error : String)
    (replica : Replica) :
    markedReplica now state error (markedReplica now state error replica) =
      markedReplica now state error replica := by
  unfold markedReplica
  dsimp only
  congr 1
  by_cases since : (state = .missing ∨ state = .failed ∨ state = .grace) ∧ replica.failureSince = 0
  · rw [if_pos since]
    by_cases epoch : now = 0
    · simp [epoch, since.1]
    · have pinned : state ≠ .pinned := by
        rintro rfl
        simp at since
      simp [epoch, pinned]
  · rw [if_neg since]
    by_cases pinned : state = .pinned
    · simp [pinned]
    · simp only [pinned, if_false, if_neg since]

variable (ctl now) in
/-- A row that has been classified is not classified otherwise at the same time. -/
theorem classified_again (nodes : List Node) (replica : Replica) :
    ctl.classified now nodes (ctl.classified now nodes replica) =
      ctl.classified now nodes replica := by
  cases marked : ctl.observedMark now (nodes.find? fun node => node.nodeId = replica.nodeId)
      replica with
  | none =>
      have kept : ctl.classified now nodes replica = replica := by
        simp [Controller.classified, marked]
      rw [kept, kept]
  | some mark =>
      have agrees : ctl.classified now nodes replica = markedReplica now mark.1 mark.2 replica := by
        simp [Controller.classified, marked]
      rw [agrees]
      have same : (markedReplica now mark.1 mark.2 replica).nodeId = replica.nodeId := rfl
      unfold Controller.classified
      rw [same]
      cases found : nodes.find? fun node => node.nodeId = replica.nodeId with
      | none =>
          rw [found] at marked
          cases marked
          exact markedReplica_again now _ _ replica
      | some node =>
          rw [found] at marked
          simp only [Controller.observedMark] at marked ⊢
          split at marked
          · rename_i online
            rw [if_pos online]
            split at marked
            · cases marked
              rfl
            · cases marked
          · rename_i offline
            rw [if_neg offline]
            split at marked
            · -- The times and the class that decide on the grace are not marked.
              by_cases grace : now - Controller.offlineSince node replica now <
                  if replica.classAtAssignment = .bestEffort then ctl.intervals.edgeGrace
                  else ctl.intervals.committableGrace
              · rw [if_pos grace] at marked
                cases marked
                have waits : now - Controller.offlineSince node
                    (markedReplica now .grace "node offline within grace" replica) now <
                      if (markedReplica now .grace "node offline within grace"
                        replica).classAtAssignment = .bestEffort then ctl.intervals.edgeGrace
                      else ctl.intervals.committableGrace := grace
                rw [if_pos waits]
                exact markedReplica_again now _ _ replica
              · rw [if_neg grace] at marked
                cases marked
                rfl
            · cases marked

def Classified (ctl : Controller) (cid : Cid) (now : Int) (db : Db) : Prop :=
  ∀ row ∈ db.replicas.rows, row.cid = cid → ctl.classified now db.nodeList row = row

theorem classify_self (settled : Classified ctl cid now db) : ctl.classify cid now db = db := by
  unfold Controller.classify
  apply updateReplicas_self
  intro row member own
  exact settled row member (of_decide_eq_true own)

variable (ctl cid now db) in
theorem classify_classified : Classified ctl cid now (ctl.classify cid now db) := by
  intro row member own
  have nodes : (ctl.classify cid now db).nodeList = db.nodeList := rfl
  rw [nodes]
  obtain ⟨old, -, rfl⟩ := List.mem_map.mp member
  by_cases chosen : decide (old.cid = cid) = true
  · rw [if_pos chosen]
    exact classified_again ctl now db.nodeList old
  · rw [if_neg chosen] at own
    exact absurd (decide_eq_true own) chosen

theorem classified_congr {later : Db} (nodes : later.nodes = db.nodes)
    (replicas : later.replicas = db.replicas) (settled : Classified ctl cid now db) :
    Classified ctl cid now later := by
  unfold Classified Db.nodeList at *
  rw [nodes, replicas]
  exact settled

/-- A new copy on a node that is online is left as it is assigned. -/
theorem classified_assigned {node : Node} {replica : Replica}
    (found : db.nodes.find? replica.nodeId = some node) (online : ctl.nodeOnline node now = true)
    (assigned : replica.state = .assigned) : ctl.classified now db.nodeList replica = replica := by
  have unmarked : ctl.observedMark now (some node) replica = none := by
    unfold Controller.observedMark
    dsimp only
    rw [if_pos online, if_neg]
    rw [assigned]
    decide
  unfold Controller.classified
  rw [nodeList_find?, found, unmarked]

theorem assignReplica_classified {nodeId : NodeId} {node : Node} {capacityClass : CapacityClass}
    {generation : Nat} (found : db.nodes.find? nodeId = some node)
    (online : ctl.nodeOnline node now = true) (settled : Classified ctl cid now db) :
    Classified ctl cid now (assignReplica now cid nodeId capacityClass generation db) := by
  intro row member own
  have kept : ∀ replica : Replica, replica.nodeId = nodeId → replica.state = .assigned →
      ctl.classified now db.nodeList replica = replica := by
    rintro replica rfl assigned
    exact classified_assigned found online assigned
  rcases Table.mem_upsert member with old | rfl | ⟨old, present, key, rfl⟩
  · exact settled row old own
  · exact kept _ rfl rfl
  · simp only [Replica.key, Prod.mk.injEq] at key
    exact kept _ key.2 rfl

end Classified

section Assign

variable {ctl : Controller} {cid : Cid} {now : Int} {db : Db} {object : Object}
  {nodes : Table Node.nodeId} {chosen : List OnlineNode}

private theorem assignStep_objects (node : OnlineNode) :
    (assignStep cid now db node).objects = db.objects :=
  tx_objects fun _ _ => createPinAssignment_objects

theorem assignSteps_objects : (chosen.foldl (assignStep cid now) db).objects = db.objects := by
  induction chosen generalizing db with
  | nil => rfl
  | cons head tail ih => rw [List.foldl_cons, ih, assignStep_objects]

/-- An assignment rewrites no row of another node, and no row that holds a copy. -/
theorem assignStep_rows {node : OnlineNode} {wanted : Replica → Bool}
    (found : db.object cid = some object) (known : (db.nodes.find? node.nodeId).isSome)
    (fresh : ∀ row : Replica, row.nodeId = node.nodeId → row.state = .assigned →
      wanted row = false)
    (holding : ∀ row : Replica, row.nodeId = node.nodeId → wanted row = true → row.holds = true) :
    (assignStep cid now db node).replicas.rows.filter wanted =
      db.replicas.rows.filter wanted := by
  have rewritten : ¬ (db.replica cid node.nodeId).any Replica.holds = true →
      (assignReplica now cid node.nodeId node.capacityClass object.generation db).replicas.rows.filter
        wanted = db.replicas.rows.filter wanted := by
    intro loose
    apply Table.filter_upsert
    · exact fresh _ rfl rfl
    · intro old member key
      have present : db.replica cid node.nodeId = some old :=
        Table.find?_some_iff.mpr ⟨member, key⟩
      rw [present, Option.any_some] at loose
      simp only [Replica.key, Prod.mk.injEq] at key
      constructor
      · rw [← Bool.not_eq_true]
        intro counted
        exact loose (holding old key.2 counted)
      · exact fresh _ key.2 rfl
  obtain ⟨run, -⟩ := createPinAssignment_run now node.capacityClass found known
  unfold assignStep
  rw [run]
  split
  · rfl
  · rename_i loose
    split
    · exact rewritten loose
    · exact rewritten loose

theorem assignSteps_rows {wanted : Replica → Bool} (start : Repairing cid object nodes db)
    (known : ∀ node ∈ chosen, (nodes.find? node.nodeId).isSome)
    (fresh : ∀ node ∈ chosen, ∀ row : Replica, row.nodeId = node.nodeId → row.state = .assigned →
      wanted row = false)
    (holding : ∀ node ∈ chosen, ∀ row : Replica, row.nodeId = node.nodeId → wanted row = true →
      row.holds = true) :
    (chosen.foldl (assignStep cid now) db).replicas.rows.filter wanted =
      db.replicas.rows.filter wanted := by
  induction chosen generalizing db with
  | nil => rfl
  | cons head tail ih =>
      have first := known head List.mem_cons_self
      rw [List.foldl_cons, ih (assignStep_repairing start first)
        (fun node member => known node (List.mem_cons_of_mem head member))
        (fun node member => fresh node (List.mem_cons_of_mem head member))
        (fun node member => holding node (List.mem_cons_of_mem head member))]
      exact assignStep_rows start.found (start.nodes ▸ first) (fresh head List.mem_cons_self)
        (holding head List.mem_cons_self)

theorem assignSteps_classified (start : Repairing cid object nodes db)
    (online : ∀ node ∈ chosen, ∃ row, nodes.find? node.nodeId = some row ∧
      ctl.nodeOnline row now = true)
    (settled : Classified ctl cid now db) :
    Classified ctl cid now (chosen.foldl (assignStep cid now) db) := by
  induction chosen generalizing db with
  | nil => exact settled
  | cons head tail ih =>
      obtain ⟨row, found, awake⟩ := online head List.mem_cons_self
      have known : (nodes.find? head.nodeId).isSome := by rw [found]; rfl
      rw [List.foldl_cons]
      apply ih (assignStep_repairing start known)
        fun node member => online node (List.mem_cons_of_mem head member)
      have present : db.nodes.find? head.nodeId = some row := by
        rw [start.nodes]
        exact found
      obtain ⟨run, -⟩ := createPinAssignment_run now head.capacityClass start.found
        (start.nodes ▸ known)
      unfold assignStep
      rw [run]
      split
      · exact settled
      · split
        · exact assignReplica_classified present awake settled
        · exact classified_congr rfl rfl (assignReplica_classified present awake settled)

theorem listed_filter (wanted : Replica → Bool) :
    ((db.replicaList cid).filter wanted).Perm
      ((db.replicas.rows.filter wanted).filter fun replica => replica.cid = cid) := by
  have sorted : (db.replicaList cid).Perm (db.replicaRows cid) := List.perm_insertionSort _ _
  have swapped : (db.replicaRows cid).filter wanted =
      (db.replicas.rows.filter wanted).filter fun replica => replica.cid = cid := by
    unfold Db.replicaRows
    rw [List.filter_filter, List.filter_filter]
    simp only [Bool.and_comm]
  rw [← swapped]
  exact sorted.filter wanted

/-- The numbers of missing copies see only the rows that hold a copy. -/
theorem missing_congr {later : Db}
    (same : ∀ wanted : Replica → Bool, (∀ row : Replica, wanted row = true → row.holds = true) →
      (∀ row : Replica, row.state = .assigned → wanted row = false) →
        later.replicas.rows.filter wanted = db.replicas.rows.filter wanted) :
    missingCommittable cid object later = missingCommittable cid object db ∧
      missingTotal cid object later = missingTotal cid object db := by
  have confirmed : (((later.replicaList cid).filter Replica.confirmed).Perm
      ((db.replicaList cid).filter Replica.confirmed)) := by
    apply (listed_filter Replica.confirmed).trans
    rw [same Replica.confirmed]
    · exact (listed_filter Replica.confirmed).symm
    · intro row counted
      simp only [Replica.confirmed, Bool.and_eq_true, decide_eq_true_eq] at counted
      simp [Replica.holds, counted]
    · intro row assigned
      simp [Replica.confirmed, assigned]
  have grace : (((later.replicaList cid).filter fun replica =>
      replica.desired && replica.state = .grace).Perm
        ((db.replicaList cid).filter fun replica => replica.desired && replica.state = .grace)) := by
    apply (listed_filter _).trans
    rw [same]
    · exact (listed_filter _).symm
    · intro row counted
      simp only [Bool.and_eq_true, decide_eq_true_eq] at counted
      simp [Replica.holds, counted]
    · intro row assigned
      simp [assigned]
  unfold missingCommittable missingTotal Controller.confirmedCounts Controller.graceCounts
  simp only [confirmed.length_eq, confirmed.countP_eq, grace.length_eq, grace.countP_eq, and_self]

theorem reservedBytes_congr {later : Db} {nodeId : NodeId}
    (sizes : ∀ wanted, (later.object wanted).map Object.sizeBytes =
      (db.object wanted).map Object.sizeBytes)
    (same : ∀ wanted : Replica → Bool, (∀ row : Replica, wanted row = true →
        row.nodeId = nodeId ∧ row.holds = true) →
      later.replicas.rows.filter wanted = db.replicas.rows.filter wanted) :
    (placementLoad later).reservedBytes nodeId = (placementLoad db).reservedBytes nodeId := by
  have known : ∀ wanted, (later.object wanted).isSome = (db.object wanted).isSome := by
    intro wanted
    have mapped := congrArg Option.isSome (sizes wanted)
    rw [Option.isSome_map, Option.isSome_map] at mapped
    exact mapped
  simp only [placementLoad, sizes, known]
  rw [same]
  intro row counted
  simp only [Bool.and_eq_true, decide_eq_true_eq] at counted
  exact ⟨counted.1.2, counted.1.1⟩

theorem mem_currentNodeIds {nodeId : NodeId} :
    nodeId ∈ Controller.currentNodeIds (db.replicaList cid) ↔ db.desires cid nodeId = true := by
  unfold Controller.currentNodeIds Db.desires
  constructor
  · intro member
    obtain ⟨row, listed, rfl⟩ := List.mem_map.mp member
    obtain ⟨inside, desired⟩ := List.mem_filter.mp listed
    obtain ⟨present, own⟩ := List.mem_filter.mp ((List.mem_insertionSort _).mp inside)
    have found : db.replica cid row.nodeId = some row :=
      Table.find?_some_iff.mpr ⟨present, by simp [of_decide_eq_true own]⟩
    rw [found]
    exact desired
  · intro desired
    obtain ⟨row, found, wanted⟩ := (Option.any_eq_true _ _).mp desired
    have key := Table.find?_key found
    simp only [Replica.key, Prod.mk.injEq] at key
    refine List.mem_map.mpr ⟨row, List.mem_filter.mpr ⟨?_, wanted⟩, key.2⟩
    exact (List.mem_insertionSort _).mpr
      (List.mem_filter.mpr ⟨Table.find?_mem found, decide_eq_true key.1⟩)

end Assign

section Once

variable {ctl : Controller} {cid : Cid} {now : Int} {db : Db} {object : Object}
  {chosen : List OnlineNode}

/-- The store after the PIN assignments and the VERIFY jobs of one reconcile. -/
def Controller.repaired (ctl : Controller) (cid : Cid) (now : Int) (object : Object)
    (chosen : List OnlineNode) (db : Db) : Db :=
  (db.replicaList cid).foldl (ctl.verifyStep cid now object (ctl.onlineNodes now db.nodeList))
    (chosen.foldl (assignStep cid now) db)

theorem verifySteps_pinJobs {online : List OnlineNode} {rows : List Replica} :
    (rows.foldl (ctl.verifyStep cid now object online) db).pinJobs = db.pinJobs := by
  induction rows generalizing db with
  | nil => rfl
  | cons head tail ih =>
      rw [List.foldl_cons, ih]
      unfold Controller.verifyStep
      split
      · simp [Db.pinJobs, insertJob, newJob]
      · rfl

theorem verifySteps_tables {online : List OnlineNode} {rows : List Replica} :
    (rows.foldl (ctl.verifyStep cid now object online) db).nodes = db.nodes ∧
      (rows.foldl (ctl.verifyStep cid now object online) db).objects = db.objects := by
  induction rows generalizing db with
  | nil => exact ⟨rfl, rfl⟩
  | cons head tail ih =>
      have step : (ctl.verifyStep cid now object online db head).nodes = db.nodes ∧
          (ctl.verifyStep cid now object online db head).objects = db.objects := by
        unfold Controller.verifyStep
        split
        · exact ⟨rfl, rfl⟩
        · exact ⟨rfl, rfl⟩
      rw [List.foldl_cons]
      exact ⟨ih.1.trans step.1, ih.2.trans step.2⟩

private theorem online_known {node : OnlineNode} (member : node ∈ ctl.onlineNodes now db.nodeList) :
    ∃ row, db.nodes.find? node.nodeId = some row ∧ node.online = ctl.nodeOnline row now := by
  obtain ⟨row, listed, rfl⟩ := List.mem_map.mp member
  exact ⟨row, Table.find?_some_iff.mpr ⟨nodeList_mem.mp listed, rfl⟩, rfl⟩

theorem picked_online (picked : ctl.picksIn cid now object db = .ok chosen) :
    ∀ node ∈ chosen, ∃ row, db.nodes.find? node.nodeId = some row ∧
      ctl.nodeOnline row now = true := by
  intro node member
  obtain ⟨listed, free⟩ := choosePlacements_mem picked node member
  obtain ⟨row, found, online⟩ := online_known listed
  simp only [placeable, eligible, Bool.and_eq_true] at free
  exact ⟨row, found, online ▸ free.2.1.1.2⟩

theorem picked_known (picked : ctl.picksIn cid now object db = .ok chosen) :
    ∀ node ∈ chosen, (db.nodes.find? node.nodeId).isSome := by
  intro node member
  obtain ⟨row, found, -⟩ := picked_online picked node member
  rw [found]
  rfl

theorem once_eq (found : db.object cid = some object) (live : object.refcount ≠ 0)
    (repairs : ctl.mode = .pinOnly)
    (picked : ctl.picksIn cid now object (ctl.classify cid now db) = .ok chosen) :
    ctl.once cid now db = ctl.withHealth cid object
      (ctl.repaired cid now object chosen (ctl.classify cid now db)) := by
  have known : (ctl.classify cid now db).object cid = some object := found
  unfold Controller.once
  rw [reconcileCid_runAt found live, reconcileClassified_repairing known picked repairs,
    repair_runAt known (picked_known picked)]
  rfl

theorem once_invalid {failure : PyError} (found : db.object cid = some object)
    (live : object.refcount ≠ 0) (invalid : (ctl.policyOf object).validate = .error failure) :
    ctl.once cid now db = ctl.classify cid now db := by
  have known : (ctl.classify cid now db).object cid = some object := found
  unfold Controller.once
  rw [reconcileCid_runAt found live,
    reconcileClassified_invalid known (choosePlacements_invalid invalid)]

variable (ctl) in
/-- The object as the reconcile leaves it: with another health at most. -/
theorem once_object {after : Db} (found : after.object cid = some object) :
    ∃ state reason, (ctl.withHealth cid object after).object cid =
      some { object with state, reason } := by
  unfold Controller.withHealth
  rcases Controller.health (ctl.policyOf object) (after.replicaRows cid) with ⟨state, reason⟩
  refine ⟨state, Py.clip 200 reason, ?_⟩
  dsimp only
  unfold updateObjectHealth
  rw [object_updateObject, if_pos rfl, found]
  rfl

theorem withHealth_sizes (after : Db) (wanted : Cid) :
    ((ctl.withHealth cid object after).object wanted).map Object.sizeBytes =
      (after.object wanted).map Object.sizeBytes := by
  unfold Controller.withHealth
  dsimp only
  unfold updateObjectHealth
  rw [object_updateObject]
  split
  · rw [Option.map_map]
    rfl
  · rfl

section Repaired

variable (found : db.object cid = some object)
  (picked : ctl.picksIn cid now object db = .ok chosen)

theorem repaired_replicas :
    (ctl.withHealth cid object (ctl.repaired cid now object chosen db)).replicas =
      (chosen.foldl (assignStep cid now) db).replicas :=
  withHealth_replicas.trans verifySteps_replicas

variable (ctl now chosen) in
include found in
theorem repaired_object : (ctl.repaired cid now object chosen db).object cid = some object := by
  unfold Controller.repaired
  rw [object_congr verifySteps_tables.2, object_congr assignSteps_objects]
  exact found

include found picked

theorem repaired_nodes :
    (ctl.withHealth cid object (ctl.repaired cid now object chosen db)).nodes = db.nodes :=
  verifySteps_tables.1.trans (assignPins_runAt now ⟨found, rfl⟩ (picked_known picked)).2.nodes

theorem repaired_classified (settled : Classified ctl cid now db) :
    Classified ctl cid now (ctl.withHealth cid object (ctl.repaired cid now object chosen db)) := by
  have start : Repairing cid object db.nodes db := ⟨found, rfl⟩
  have assigned := assignSteps_classified start (picked_online picked) settled
  apply classified_congr _ repaired_replicas assigned
  exact (repaired_nodes found picked).trans
    (assignPins_runAt now start (picked_known picked)).2.nodes.symm

theorem repaired_missing :
    missingCommittable cid object
        (ctl.withHealth cid object (ctl.repaired cid now object chosen db)) =
      missingCommittable cid object db ∧
    missingTotal cid object (ctl.withHealth cid object (ctl.repaired cid now object chosen db)) =
      missingTotal cid object db := by
  apply missing_congr
  intro wanted holding fresh
  rw [repaired_replicas]
  exact assignSteps_rows ⟨found, rfl⟩ (picked_known picked) (fun _ _ row _ => fresh row)
    fun _ _ row _ => holding row

/-- A second reconcile may choose among the free nodes that the first has not taken. -/
theorem repaired_free :
    freeNodes ctl cid now object
        (ctl.withHealth cid object (ctl.repaired cid now object chosen db)) =
      (freeNodes ctl cid now object db).filter
        fun node => node.nodeId ∉ chosen.map fun other => other.nodeId := by
  have start : Repairing cid object db.nodes db := ⟨found, rfl⟩
  have nodes : (ctl.withHealth cid object (ctl.repaired cid now object chosen db)).nodeList =
      db.nodeList := by
    unfold Db.nodeList
    rw [repaired_nodes found picked]
  unfold freeNodes
  rw [nodes, List.filter_filter]
  apply List.filter_congr
  intro node _
  have wanted : (ctl.withHealth cid object (ctl.repaired cid now object chosen db)).desires cid
      node.nodeId = (decide (node.nodeId ∈ chosen.map fun other => other.nodeId) ||
        db.desires cid node.nodeId) := by
    rw [← assignSteps_desires start (picked_known picked)]
    unfold Db.desires
    rw [replica_congr repaired_replicas]
  unfold placeable
  simp only [mem_currentNodeIds, wanted]
  by_cases taken : node.nodeId ∈ chosen.map fun other => other.nodeId
  · simp [taken]
  · have load : (placementLoad (ctl.withHealth cid object
        (ctl.repaired cid now object chosen db))).reservedBytes node.nodeId =
          (placementLoad db).reservedBytes node.nodeId := by
      apply reservedBytes_congr
      · intro other
        rw [withHealth_sizes]
        unfold Controller.repaired
        rw [object_congr verifySteps_tables.2, object_congr assignSteps_objects]
      · intro counted holding
        rw [repaired_replicas]
        have apart : ∀ other ∈ chosen, ∀ row : Replica, row.nodeId = other.nodeId →
            ¬ counted row = true := by
          intro other member row named counts
          exact taken (List.mem_map.mpr
            ⟨other, member, named.symm.trans (holding row counts).1⟩)
        exact assignSteps_rows start (picked_known picked)
          (fun other member row named _ => Bool.eq_false_iff.mpr (apart other member row named))
          fun other member row named counts => absurd counts (apart other member row named)
    simp [taken, load]

end Repaired

section Counts

variable {free : List OnlineNode} {needCommittable needTotal : Nat}

/-- Two lists without repetition, one inside the other: all of the larger is in the smaller where
it is not longer. -/
theorem subset_iff_length {part whole : List OnlineNode} (inside : part ⊆ whole)
    (one : part.Nodup) (two : whole.Nodup) : whole ⊆ part ↔ whole.length ≤ part.length := by
  constructor
  · intro all
    exact (two.subperm all).length_le
  · intro short
    exact ((one.subperm inside).perm_of_length_le short).symm.subset

/-- What is left of the free nodes after a choice of the right size. -/
theorem takes_all_iff (inside : chosen ⊆ free) (one : chosen.Nodup) (two : free.Nodup)
    (enough : min needCommittable (free.countP fun node => node.capacityClass = .committable) ≤
      chosen.countP fun node => node.capacityClass = .committable)
    (length : chosen.length =
      max (min needCommittable (free.countP fun node => node.capacityClass = .committable))
        (min needTotal free.length)) :
    ((needCommittable = 0 ∨ ∀ node ∈ free, node ∉ chosen → node.capacityClass ≠ .committable) ∧
      (needTotal = 0 ∨ ∀ node ∈ free, node ∈ chosen)) ↔
    (needTotal = 0 ∧ (needCommittable = 0 ∨
        (free.countP fun node => node.capacityClass = .committable) ≤ needCommittable)) ∨
      (0 < needTotal ∧ free.length ≤ max needTotal
        (min needCommittable (free.countP fun node => node.capacityClass = .committable))) := by
  have whole := subset_iff_length inside one two
  have inClass : chosen.filter (fun node => node.capacityClass = .committable) ⊆
      free.filter fun node => node.capacityClass = .committable := by
    intro node member
    obtain ⟨present, classed⟩ := List.mem_filter.mp member
    exact List.mem_filter.mpr ⟨inside present, classed⟩
  have half := subset_iff_length inClass (one.filter _) (two.filter _)
  rw [← List.countP_eq_length_filter, ← List.countP_eq_length_filter] at half
  have covers : (∀ node ∈ free, node ∉ chosen → node.capacityClass ≠ .committable) ↔
      free.filter (fun node => node.capacityClass = .committable) ⊆
        chosen.filter fun node => node.capacityClass = .committable := by
    constructor
    · intro clear node member
      obtain ⟨present, classed⟩ := List.mem_filter.mp member
      refine List.mem_filter.mpr ⟨?_, classed⟩
      by_contra left
      exact clear node present left (of_decide_eq_true classed)
    · intro every node present left classed
      exact left (List.mem_filter.mp
        (every (List.mem_filter.mpr ⟨present, decide_eq_true classed⟩))).1
  have few : (chosen.countP fun node => node.capacityClass = .committable) ≤ chosen.length :=
    List.countP_le_length
  have every : free.length ≤ chosen.length →
      (free.countP fun node => node.capacityClass = .committable) ≤
        chosen.countP fun node => node.capacityClass = .committable := by
    intro long
    apply half.mp
    intro node member
    obtain ⟨present, classed⟩ := List.mem_filter.mp member
    exact List.mem_filter.mpr ⟨whole.mpr long present, classed⟩
  rw [covers, half, show (∀ node ∈ free, node ∈ chosen) ↔ free ⊆ chosen from Iff.rfl, whole]
  have part : (free.countP fun node => node.capacityClass = .committable) ≤ free.length :=
    List.countP_le_length
  omega

end Counts

variable (ctl now db) in
theorem online_distinct :
    ((ctl.onlineNodes now db.nodeList).map fun node => node.nodeId).Nodup := by
  have ids : (ctl.onlineNodes now db.nodeList).map (fun node => node.nodeId) =
      db.nodeList.map Node.nodeId := by
    unfold Controller.onlineNodes
    rw [List.map_map]
    rfl
  rw [ids]
  exact (((List.perm_insertionSort _ _).map Node.nodeId).nodup_iff).mpr db.nodes.distinct

theorem nothingToPlace_iff : NothingToPlace ctl cid now object db ↔
    (missingCommittable cid object db = 0 ∨
      ∀ node ∈ freeNodes ctl cid now object db, node.capacityClass ≠ .committable) ∧
    (missingTotal cid object db = 0 ∨ freeNodes ctl cid now object db = []) := by
  have committable : missingCommittable cid object db = 0 ↔ object.committableM ≤
      (Controller.confirmedCounts (db.replicaList cid)).2 +
        (Controller.graceCounts (db.replicaList cid)).2 := by
    unfold missingCommittable
    omega
  have total : missingTotal cid object db = 0 ↔ object.replicationN ≤
      (Controller.confirmedCounts (db.replicaList cid)).1 +
        (Controller.graceCounts (db.replicaList cid)).1 := by
    unfold missingTotal
    omega
  rw [committable, total]
  unfold NothingToPlace freeNodes
  simp only [List.mem_filter, and_imp, List.filter_eq_nil_iff]

/-- What the second reconcile picks, after a first one that has chosen. -/
theorem again_nil (found : db.object cid = some object)
    (picked : ctl.picksIn cid now object db = .ok chosen)
    (valid : (ctl.policyOf object).validate = .ok ()) :
    ctl.picksIn cid now object
        (ctl.withHealth cid object (ctl.repaired cid now object chosen db)) = .ok [] ↔
      TakesAll ctl cid now object db := by
  obtain ⟨taken, done, ids, enough, length⟩ := choosePlacements_counts ctl.scoring cid
    object.sizeBytes (Controller.currentNodeIds (db.replicaList cid))
    ((Controller.confirmedCounts (db.replicaList cid)).2 +
      (Controller.graceCounts (db.replicaList cid)).2)
    ((Controller.confirmedCounts (db.replicaList cid)).1 +
      (Controller.graceCounts (db.replicaList cid)).1)
    (placementLoad db) valid (online_distinct ctl now db)
  have same : taken = chosen := Except.ok.inj (done.symm.trans picked)
  subst same
  have inside : taken ⊆ freeNodes ctl cid now object db := by
    intro node member
    obtain ⟨listed, free⟩ := choosePlacements_mem picked node member
    exact List.mem_filter.mpr ⟨listed, free⟩
  have named : ∀ node ∈ freeNodes ctl cid now object db,
      (node.nodeId ∈ taken.map fun other => other.nodeId) ↔ node ∈ taken := by
    intro node member
    constructor
    · intro listed
      obtain ⟨other, chosen, same⟩ := List.mem_map.mp listed
      have equal : other = node := List.inj_on_of_nodup_map (online_distinct ctl now db)
        (List.mem_filter.mp (inside chosen)).1 (List.mem_filter.mp member).1 same
      exact equal ▸ chosen
    · exact fun listed => List.mem_map_of_mem listed
  have distinct : (freeNodes ctl cid now object db).Nodup :=
    (online_distinct ctl now db).of_map.filter _
  have left := repaired_free found picked
  have missing := repaired_missing found picked
  rw [picksIn_eq_nil, nothingToPlace_iff, left, missing.1, missing.2, and_iff_right valid]
  refine Iff.trans ?_ (takes_all_iff inside ids.of_map distinct enough length)
  simp only [List.mem_filter, List.filter_eq_nil_iff, decide_eq_true_eq, not_not, and_imp]
  apply and_congr
  · apply or_congr Iff.rfl
    exact forall₂_congr fun node member => by rw [named node member]
  · apply or_congr Iff.rfl
    exact forall₂_congr fun node member => named node member

/-- A store whose rows are classified and that asks for no node. -/
structure Rested (ctl : Controller) (cid : Cid) (now : Int) (db : Db) : Prop where
  settled : Classified ctl cid now db
  idle : ∃ object, db.object cid = some object ∧ object.refcount ≠ 0 ∧
    ctl.picksIn cid now object db = .ok []

theorem rested_once (repairs : ctl.mode = .pinOnly) (rested : Rested ctl cid now db) :
    Rested ctl cid now (ctl.once cid now db) ∧ SamePins db (ctl.once cid now db) := by
  obtain ⟨settled, object, found, live, picked⟩ := rested
  have classified := classify_self settled
  have once := once_eq found live repairs (classified.symm ▸ picked)
  rw [classified] at once
  obtain ⟨state, reason, later⟩ := once_object ctl (repaired_object ctl now [] found)
  rw [once]
  refine ⟨⟨repaired_classified found picked settled, _, later, live, ?_⟩,
    repaired_replicas, verifySteps_pinJobs⟩
  obtain ⟨valid, nothing⟩ := picksIn_eq_nil.mp picked
  have missing := repaired_missing found picked
  apply picksIn_eq_nil.mpr
  refine ⟨valid, ?_⟩
  change NothingToPlace ctl cid now object _
  rw [nothingToPlace_iff] at nothing ⊢
  rw [missing.1, missing.2, repaired_free found picked]
  simpa using nothing

theorem rested_repeats (repairs : ctl.mode = .pinOnly) (rested : Rested ctl cid now db)
    (times : Nat) : SamePins db ((ctl.once cid now)^[times] db) := by
  have both : Rested ctl cid now ((ctl.once cid now)^[times] db) ∧
      SamePins db ((ctl.once cid now)^[times] db) := by
    induction times with
    | zero => exact ⟨rested, rfl, rfl⟩
    | succ times ih =>
        rw [Function.iterate_succ_apply']
        have step := rested_once repairs ih.1
        exact ⟨step.1, ih.2.trans step.2⟩
  exact both.2

end Once

/-- An object of one copy that no node has yet, and nodes of one kind that are online. -/
def uncopiedDb (nodes : Table Node.nodeId) : Db where
  nodes
  objects := ⟨[{ cid := "bafy", sizeBytes := 10, createdAt := 900, replicationN := 1
                 committableM := 1 }], by decide⟩
  objectRefs := .empty
  replicas := .empty
  jobs := .empty

def onlineNode (nodeId : NodeId) (totalBytes : Int) : Node where
  nodeId
  capacityClass := .committable
  lastSeen := 1000
  totalBytes

def loneDb : Db := uncopiedDb ⟨[onlineNode "alpha" 40000000000], by decide⟩

/-- The two nodes differ in their free part, which comes first in the score. -/
def spareDb : Db :=
  uncopiedDb ⟨[onlineNode "alpha" 40000000000, onlineNode "beta" 20000000000], by decide⟩

def uncopied : Object where
  cid := "bafy"
  sizeBytes := 10
  createdAt := 900
  replicationN := 1
  committableM := 1

end HashBurst.Replication
