import HashBurst.Replication.Reconcile

namespace HashBurst.Replication

open Lib ReplicationDB ReplicationDBV214

def Db.repairJobs (db : Db) : List Job := db.jobs.rows.filter fun job => job.operation ≠ .unpin

structure SameRepair (first second : Db) : Prop where
  replicas : first.replicas = second.replicas
  objects : first.objects = second.objects
  jobs : first.repairJobs = second.repairJobs

namespace SameRepair

theorem refl (db : Db) : SameRepair db db := ⟨rfl, rfl, rfl⟩

theorem symm {first second : Db} (same : SameRepair first second) : SameRepair second first :=
  ⟨same.replicas.symm, same.objects.symm, same.jobs.symm⟩

theorem trans {first second third : Db} (front : SameRepair first second)
    (back : SameRepair second third) : SameRepair first third :=
  ⟨front.replicas.trans back.replicas, front.objects.trans back.objects,
    front.jobs.trans back.jobs⟩

end SameRepair

def Op.plansUnpin {β : Type} (op : Op β) : Prop :=
  match op with
  | .time => True
  | .activeUnpinNodes .. => True
  | .createUnpinJob .. => True
  | _ => False

section Unpin

variable {ctl : Controller} {cid : Cid} {now : Int} {db : Db}

theorem createUnpinJob_same {nodeId : NodeId} {generation : Nat} {reason : String}
    {notBefore : Int} {after : Db} {answer : Option JobId}
    (done : createUnpinJob now cid nodeId generation reason notBefore db = .ok (after, answer)) :
    SameRepair db after := by
  obtain rfl | ⟨object, -, -, rfl, -⟩ := createUnpinJob_cases done
  · exact SameRepair.refl _
  · refine ⟨rfl, rfl, ?_⟩
    change db.repairJobs = (db.jobs.rows ++ [unpinJob now cid nodeId generation _ notBefore _]).filter _
    rw [List.filter_append]
    simp [Db.repairJobs, unpinJob]

theorem plansUnpin_same {β : Type} (op : Op β) (plans : op.plansUnpin) :
    SameRepair db (runOp op now db).1 := by
  cases op with
  | time => exact SameRepair.refl db
  | activeUnpinNodes => exact SameRepair.refl db
  | createUnpinJob planned nodeId generation reason notBefore =>
      simp only [runOp]
      cases done : createUnpinJob now planned nodeId generation reason notBefore db with
      | error failure =>
          rw [commit_error done]
          exact SameRepair.refl db
      | ok result =>
          rw [commit_ok done]
          exact createUnpinJob_same done
  | _ => exact plans.elim

theorem planning_same {α : Type} (call : Call α) (plans : call.All Op.plansUnpin) :
    SameRepair db (call.runAt now db).1 :=
  Prog.exec_invariant (SameRepair db) now
    (fun op _ allowed before => before.trans (plansUnpin_same op allowed)) call plans db
    (SameRepair.refl db)

theorem trimLoop_plans (object : Object) (rows : List Replica) (remove comm : Int) :
    (ControllerV214.trimLoop object rows remove comm).All Op.plansUnpin := by
  induction rows generalizing remove comm with
  | nil => trivial
  | cons replica rest ih =>
      rw [ControllerV214.trimLoop]
      split
      · trivial
      · split
        · exact ih _ _
        · refine ⟨trivial, fun answer => ?_⟩
          refine Prog.all_bind (Prog.all_ofExcept answer) fun planned => ?_
          cases planned with
          | none => exact ih _ _
          | some jobId => exact ih _ _

theorem planTrim_plans (object : Object) (replicas : List Replica) :
    (ControllerV214.planTrim ctl object replicas).All Op.plansUnpin := by
  unfold ControllerV214.planTrim
  split
  · trivial
  · dsimp only
    split
    · trivial
    · refine ⟨trivial, fun active => ?_⟩
      refine Prog.all_bind (Prog.all_ret active) fun active => ?_
      split
      · trivial
      · exact trimLoop_plans _ _ _ _

theorem planFinalRelease_plans (object : Object) (replicas : List Replica) (moment : Int) :
    (ControllerV214.planFinalRelease ctl object replicas moment).All Op.plansUnpin := by
  unfold ControllerV214.planFinalRelease
  split
  · trivial
  · split
    · trivial
    · refine Prog.all_forEach fun replica _ => ?_
      unfold ControllerV214.planRelease
      split
      · trivial
      · refine ⟨trivial, fun answer => ?_⟩
        exact Prog.all_bind (Prog.all_ofExcept answer) fun _ => trivial

end Unpin

section Repair

variable {ctl : Controller} {cid : Cid} {now : Int} {db : Db} {object : Object}

/-- No copy that the policy misses could be placed. -/
def NothingToPlace (ctl : Controller) (cid : Cid) (now : Int) (object : Object) (db : Db) : Prop :=
  let rows := db.replicaList cid
  let nodes := ctl.onlineNodes now db.nodeList
  let free := placeable object.sizeBytes (Controller.currentNodeIds rows) (placementLoad db)
    (ctl.policyOf object)
  (object.committableM ≤
      (Controller.confirmedCounts rows).2 + (Controller.graceCounts rows).2 ∨
    ∀ node ∈ nodes, free node → node.capacityClass ≠ .committable) ∧
  (object.replicationN ≤
      (Controller.confirmedCounts rows).1 + (Controller.graceCounts rows).1 ∨
    ∀ node ∈ nodes, ¬free node)

/-- Each row that is due for a VERIFY job has one waiting. -/
def NothingToVerify (ctl : Controller) (cid : Cid) (now : Int) (db : Db) : Prop :=
  ∀ replica ∈ db.replicaList cid,
    ctl.verifyDue now (ctl.onlineNodes now db.nodeList) replica = true →
      verifyWaiting db cid replica.nodeId = true

theorem picksIn_eq_nil : ctl.picksIn cid now object db = .ok [] ↔
    (ctl.policyOf object).validate = .ok () ∧ NothingToPlace ctl cid now object db :=
  choosePlacements_eq_nil

theorem onlineNodes_known {nodeId : NodeId} {node : OnlineNode}
    (member : node ∈ ctl.onlineNodes now db.nodeList) (named : node.nodeId = nodeId) :
    ∃ row, db.nodes.find? nodeId = some row := by
  obtain ⟨row, listed, rfl⟩ := List.mem_map.mp member
  exact ⟨row, Table.find?_some_iff.mpr ⟨nodeList_mem.mp listed, named⟩⟩

def Db.desires (db : Db) (cid : Cid) (nodeId : NodeId) : Bool :=
  (db.replica cid nodeId).any Replica.desired

theorem desires_assignReplica {nodeId target : NodeId} {capacityClass : CapacityClass}
    {generation : Nat} : (assignReplica now cid target capacityClass generation db).desires cid
      nodeId = (decide (target = nodeId) || db.desires cid nodeId) := by
  unfold Db.desires
  rw [replica_assignReplica]
  by_cases same : target = nodeId
  · subst same
    cases db.replica cid target <;> simp
  · simp [same]

variable (now) in
theorem assignStep_desires {node : OnlineNode} (found : db.object cid = some object)
    (known : (db.nodes.find? node.nodeId).isSome) (nodeId : NodeId) :
    (assignStep cid now db node).desires cid nodeId =
      (decide (node.nodeId = nodeId) || db.desires cid nodeId) := by
  obtain ⟨run, -⟩ := createPinAssignment_run now node.capacityClass found known
  unfold assignStep
  rw [run]
  split
  · rename_i holds
    by_cases same : node.nodeId = nodeId
    · subst same
      cases present : db.replica cid node.nodeId with
      | none => simp [present] at holds
      | some replica =>
          have desired : replica.desired = true := by
            rw [present, Option.any_some] at holds
            unfold Replica.holds at holds
            exact (Bool.and_eq_true _ _ ▸ holds).1
          simp [Db.desires, present, desired]
    · simp [same]
  · split
    · exact desires_assignReplica
    · exact desires_assignReplica

theorem assignSteps_desires {nodes : Table Node.nodeId} {chosen : List OnlineNode}
    (start : Repairing cid object nodes db)
    (known : ∀ node ∈ chosen, (nodes.find? node.nodeId).isSome) (nodeId : NodeId) :
    (chosen.foldl (assignStep cid now) db).desires cid nodeId =
      (decide (nodeId ∈ chosen.map fun node => node.nodeId) || db.desires cid nodeId) := by
  induction chosen generalizing db with
  | nil => simp
  | cons head tail ih =>
      have first := known head List.mem_cons_self
      have step := assignStep_desires now start.found (start.nodes ▸ first) nodeId
      rw [List.foldl_cons, ih (assignStep_repairing start first)
        fun node member => known node (List.mem_cons_of_mem head member), step]
      by_cases same : head.nodeId = nodeId
      · simp [same]
      · have other : nodeId ≠ head.nodeId := fun flipped => same flipped.symm
        simp [same, other]

private theorem verifyStep_replicas {online : List OnlineNode} {replica : Replica} :
    (ctl.verifyStep cid now object online db replica).replicas = db.replicas := by
  unfold Controller.verifyStep
  split <;> rfl

theorem verifySteps_replicas {online : List OnlineNode} {rows : List Replica} :
    (rows.foldl (ctl.verifyStep cid now object online) db).replicas = db.replicas := by
  induction rows generalizing db with
  | nil => rfl
  | cons head tail ih => rw [List.foldl_cons, ih, verifyStep_replicas]

variable (ctl cid now object db) in
private theorem verifyStep_extends (online : List OnlineNode) (replica : Replica) :
    db.repairJobs <+: (ctl.verifyStep cid now object online db replica).repairJobs := by
  unfold Controller.verifyStep
  split
  · simp [Db.repairJobs, insertJob, newJob]
  · exact List.prefix_rfl

variable (ctl cid now object db) in
private theorem verifySteps_extend (online : List OnlineNode) (rows : List Replica) :
    db.repairJobs <+: (rows.foldl (ctl.verifyStep cid now object online) db).repairJobs := by
  induction rows generalizing db with
  | nil => exact List.prefix_rfl
  | cons head tail ih =>
      have first := verifyStep_extends ctl cid now db object online head
      exact first.trans (ih (ctl.verifyStep cid now object online db head))

variable (object) in
/-- A round that is due and finds no VERIFY job waiting creates one. -/
theorem verifyStep_creates {online : List OnlineNode} {replica : Replica}
    (busy : (ctl.verifyDue now online replica && !verifyWaiting db cid replica.nodeId) = true) :
    (ctl.verifyStep cid now object online db replica).repairJobs.length =
      db.repairJobs.length + 1 := by
  unfold Controller.verifyStep
  rw [if_pos busy]
  simp [Db.repairJobs, insertJob, newJob]

theorem verifySteps_idle {online : List OnlineNode} {rows : List Replica} :
    (rows.foldl (ctl.verifyStep cid now object online) db).repairJobs = db.repairJobs ↔
      ∀ replica ∈ rows, ctl.verifyDue now online replica = true →
        verifyWaiting db cid replica.nodeId = true := by
  induction rows with
  | nil => simp
  | cons head tail ih =>
      rw [List.foldl_cons, List.forall_mem_cons]
      by_cases busy : (ctl.verifyDue now online head && !verifyWaiting db cid head.nodeId) = true
      · have longer := verifyStep_creates object busy
        have grows := (verifySteps_extend ctl cid now
          (ctl.verifyStep cid now object online db head) object online tail).length_le
        constructor
        · intro same
          rw [same] at grows
          omega
        · intro idle
          simp only [Bool.and_eq_true, Bool.not_eq_true'] at busy
          rw [idle.1 busy.1] at busy
          cases busy.2
      · have idle : ctl.verifyStep cid now object online db head = db := if_neg busy
        rw [idle, ih]
        simp only [Bool.and_eq_true, Bool.not_eq_true', not_and, Bool.not_eq_false] at busy
        exact ⟨fun rest => ⟨busy, rest⟩, fun both => both.2⟩

theorem verifySteps_self {online : List OnlineNode} {rows : List Replica}
    (idle : ∀ replica ∈ rows, ctl.verifyDue now online replica = true →
      verifyWaiting db cid replica.nodeId = true) :
    rows.foldl (ctl.verifyStep cid now object online) db = db := by
  induction rows with
  | nil => rfl
  | cons head tail ih =>
      have first : ctl.verifyStep cid now object online db head = db := by
        unfold Controller.verifyStep
        rw [if_neg]
        simp only [Bool.and_eq_true, Bool.not_eq_true', not_and, Bool.not_eq_false]
        exact idle head List.mem_cons_self
      rw [List.foldl_cons, first]
      exact ih fun replica member => idle replica (List.mem_cons_of_mem head member)

/-- What the modes differ by: the pin-only mode finds nothing to repair in the classified rows. -/
def RepairIdle (ctl : Controller) (cid : Cid) (now : Int) (db : Db) : Prop :=
  ∀ object, db.object cid = some object → object.refcount ≠ 0 →
    (ctl.policyOf object).validate = .ok () →
      NothingToPlace ctl cid now object (ctl.classify cid now db) ∧
        NothingToVerify ctl cid now (ctl.classify cid now db)

theorem withHealth_replicas : (ctl.withHealth cid object db).replicas = db.replicas := rfl

theorem withHealth_repairJobs : (ctl.withHealth cid object db).repairJobs = db.repairJobs := rfl

variable (ctl cid now db) in
/-- `ControllerV214.reconcile_cid` adds only UNPIN jobs to what the base class does. -/
theorem reconcileCid_same :
    SameRepair ((ctl.reconcileCid cid).runAt now db).1
      ((ControllerV214.reconcileCid ctl cid).runAt now db).1 := by
  unfold ControllerV214.reconcileCid
  rw [Call.runAt_ask_bind]
  cases found : db.object cid with
  | none =>
      unfold Controller.reconcileCid
      rw [Call.runAt_ask_bind, Call.runAt_ask_bind]
      simp only [runOp, found, Option.map_none]
      exact SameRepair.refl db
  | some object =>
      simp only [runOp, found, Option.map_some]
      by_cases released : object.refcount = 0
      · unfold Controller.reconcileCid
        rw [Call.runAt_ask_bind, Call.runAt_ask_bind, if_pos released, Call.runAt_ask_bind]
        simp only [runOp, found, Option.map_some]
        rw [if_pos released]
        exact planning_same _ (planFinalRelease_plans object _ _)
      · rw [if_neg released, Call.runAt_bind]
        rcases (ctl.reconcileCid cid).runAt now db with ⟨after, failure | value⟩
        · exact SameRepair.refl after
        · dsimp only
          rw [Call.runAt_ask_bind]
          simp only [runOp]
          cases after.object cid with
          | none => exact SameRepair.refl after
          | some object => exact planning_same _ (planTrim_plans object _)

/-- The repair of the chosen nodes leaves the rows as they are only if there are none. -/
theorem assignSteps_replicas {chosen : List OnlineNode} (found : db.object cid = some object)
    (picked : ctl.picksIn cid now object db = .ok chosen)
    (same : (chosen.foldl (assignStep cid now) db).replicas = db.replicas) : chosen = [] := by
  cases chosen with
  | nil => rfl
  | cons head tail =>
      have members := choosePlacements_mem picked
      have known : ∀ node ∈ head :: tail, (db.nodes.find? node.nodeId).isSome := by
        intro node member
        obtain ⟨row, present⟩ := onlineNodes_known (members node member).1 rfl
        rw [present]
        rfl
      have desired : ((head :: tail).foldl (assignStep cid now) db).desires cid head.nodeId =
          true := by
        rw [assignSteps_desires ⟨found, rfl⟩ known]
        simp
      have free := (members head List.mem_cons_self).2
      unfold placeable at free
      simp only [Bool.and_eq_true, decide_eq_true_eq] at free
      have undesired : db.desires cid head.nodeId = false := by
        unfold Db.desires
        cases present : db.replica cid head.nodeId with
        | none => rfl
        | some replica =>
            rw [Option.any_some, ← Bool.not_eq_true]
            intro desired
            refine free.1.2 (List.mem_map.mpr ⟨replica, List.mem_filter.mpr ⟨?_, desired⟩, ?_⟩)
            · have key := Table.find?_key present
              refine (List.mem_insertionSort _).mpr (List.mem_filter.mpr
                ⟨Table.find?_mem present, ?_⟩)
              simpa using (Prod.ext_iff.mp key).1
            · exact (Prod.ext_iff.mp (Table.find?_key present)).2
      unfold Db.desires at desired undesired
      rw [replica_congr same, undesired] at desired
      cases desired

theorem repair_idle {chosen : List OnlineNode} (valid : (ctl.policyOf object).validate = .ok ())
    (picked : ctl.picksIn cid now object db = .ok chosen)
    (idle : NothingToPlace ctl cid now object db ∧ NothingToVerify ctl cid now db) :
    (db.replicaList cid).foldl (ctl.verifyStep cid now object (ctl.onlineNodes now db.nodeList))
      (chosen.foldl (assignStep cid now) db) = db := by
  have empty : chosen = [] := by
    have none := picksIn_eq_nil.mpr ⟨valid, idle.1⟩
    rw [picked] at none
    exact Except.ok.inj none
  rw [empty]
  exact verifySteps_self idle.2

theorem idle_of_repair {chosen : List OnlineNode} (found : db.object cid = some object)
    (picked : ctl.picksIn cid now object db = .ok chosen)
    (same : SameRepair (ctl.withHealth cid object db) (ctl.withHealth cid object
      ((db.replicaList cid).foldl (ctl.verifyStep cid now object
        (ctl.onlineNodes now db.nodeList)) (chosen.foldl (assignStep cid now) db)))) :
    NothingToPlace ctl cid now object db ∧ NothingToVerify ctl cid now db := by
  have rows : db.replicas = (chosen.foldl (assignStep cid now) db).replicas := by
    have kept := same.replicas
    rw [withHealth_replicas, withHealth_replicas, verifySteps_replicas] at kept
    exact kept
  have empty : chosen = [] := assignSteps_replicas found picked rows.symm
  rw [empty] at picked same
  have jobs := same.jobs
  rw [withHealth_repairJobs, withHealth_repairJobs] at jobs
  exact ⟨(picksIn_eq_nil.mp picked).2, verifySteps_idle.mp jobs.symm⟩

/-- The base class in the mode "full" against its run in the mode "pin-only". -/
theorem observing_same_iff (full pinOnly : Controller) (observes : full.mode = .full)
    (alike : { full with mode := .pinOnly } = pinOnly) :
    SameRepair ((full.reconcileCid cid).runAt now db).1
      ((pinOnly.reconcileCid cid).runAt now db).1 ↔ RepairIdle pinOnly cid now db := by
  subst alike
  let pinOnly : Controller := { full with mode := .pinOnly }
  have other : full.mode ≠ .pinOnly := by
    rw [observes]
    decide
  by_cases live : ∃ object, db.object cid = some object ∧ object.refcount ≠ 0
  · obtain ⟨object, present, counted⟩ := live
    have found : (full.classify cid now db).object cid = some object := present
    rw [reconcileCid_runAt present counted, reconcileCid_runAt present counted]
    change SameRepair ((full.reconcileClassified cid now).runAt now (full.classify cid now db)).1
      ((pinOnly.reconcileClassified cid now).runAt now (full.classify cid now db)).1 ↔ _
    cases valid : (pinOnly.policyOf object).validate with
    | error failure =>
        have raised : ∀ ctl : Controller, ctl.policyOf object = pinOnly.policyOf object →
            (ctl.reconcileClassified cid now).runAt now (full.classify cid now db) =
              (full.classify cid now db, .error failure) := fun ctl same =>
          reconcileClassified_invalid found (choosePlacements_invalid (same ▸ valid))
        rw [raised full rfl, raised pinOnly rfl]
        refine iff_of_true (SameRepair.refl _) fun one known _ checked => ?_
        rw [present] at known
        cases known
        rw [valid] at checked
        cases checked
    | ok checked =>
        obtain ⟨chosen, picked⟩ : ∃ chosen,
            pinOnly.picksIn cid now object (full.classify cid now db) = .ok chosen :=
          choosePlacements_valid valid
        have reachable : ∀ node ∈ chosen,
            ((full.classify cid now db).nodes.find? node.nodeId).isSome := by
          intro node member
          obtain ⟨row, known⟩ := onlineNodes_known (choosePlacements_mem picked node member).1 rfl
          rw [known]
          rfl
        have observed : full.picksIn cid now object (full.classify cid now db) = .ok chosen := picked
        rw [reconcileClassified_observing found observed other,
          reconcileClassified_repairing found picked rfl, repair_runAt found reachable]
        constructor
        · intro same one known _ _
          rw [present] at known
          cases known
          exact idle_of_repair found picked same
        · intro idle
          dsimp only
          rw [repair_idle valid picked (idle object present counted valid)]
          exact SameRepair.refl _
  · have unchanged : ∀ ctl : Controller, ((ctl.reconcileCid cid).runAt now db).1 = db := by
      intro ctl
      unfold Controller.reconcileCid
      rw [Call.runAt_ask_bind, Call.runAt_ask_bind]
      cases present : db.object cid with
      | none => simp only [runOp, present, Option.map_none, Call.runAt_pure]
      | some object =>
          have released : object.refcount = 0 := by
            by_contra counted
            exact live ⟨object, present, counted⟩
          simp only [runOp, present, Option.map_some, released, if_true, Call.runAt_pure]
    rw [unchanged full, unchanged]
    exact iff_of_true (SameRepair.refl db) fun object present counted _ =>
      absurd ⟨object, present, counted⟩ live

end Repair

end HashBurst.Replication
