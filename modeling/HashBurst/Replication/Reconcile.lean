import HashBurst.Replication.Controller

namespace HashBurst.Replication

open Lib ReplicationDB ReplicationDBV214 ReplicationDBV214Recovery

theorem Call.runAt_bind {α β : Type} (first : Call α) (rest : α → Call β) (now : Int) (db : Db) :
    Call.runAt (first >>= rest) now db =
      match Call.runAt first now db with
      | (after, .ok value) => Call.runAt (rest value) now after
      | (after, .error failure) => (after, .error failure) := by
  unfold Call.runAt
  rw [Prog.exec_bind]
  rcases first.exec runOp now db with ⟨after, failure | value⟩ <;> rfl

@[simp] theorem Call.runAt_pure {α : Type} (value : α) (now : Int) (db : Db) :
    Call.runAt (pure value : Call α) now db = (db, .ok value) := rfl

@[simp] theorem Call.runAt_ret {α : Type} (value : α) (now : Int) (db : Db) :
    Call.runAt (Prog.ret value : Call α) now db = (db, .ok value) := rfl

@[simp] theorem Call.runAt_ask {β : Type} (op : Op β) (now : Int) (db : Db) :
    Call.runAt (Prog.ask op) now db = ((runOp op now db).1, .ok (runOp op now db).2) := rfl

@[simp] theorem Call.runAt_attempt {β : Type} (op : Op (Except PyError β)) (now : Int) (db : Db) :
    Call.runAt (Prog.attempt op) now db = runOp op now db :=
  Prog.exec_attempt _ _ _ _

@[simp] theorem Call.runAt_ofExcept {α : Type} (answer : Except PyError α) (now : Int) (db : Db) :
    Call.runAt (Prog.ofExcept answer) now db = (db, answer) :=
  Prog.exec_ofExcept _ _ _ _

@[simp] theorem Call.runAt_ask_bind {α β : Type} (op : Op β) (rest : β → Call α) (now : Int)
    (db : Db) : Call.runAt (Prog.ask op >>= rest) now db =
      Call.runAt (rest (runOp op now db).2) now (runOp op now db).1 := rfl

theorem applyJobReport_runAt (now : Int) (nodeId : NodeId) (report : ReplicationDB.Report) (db : Db) :
    (ReplicationDBV214Recovery.applyJobReport nodeId report).runAt now db =
      if (findJob db report.jobId nodeId).map Job.operation = some .unpinVerify then
        (applyUnpinVerifyReport now nodeId report).commit db
      else if (findJob db report.jobId nodeId).map Job.operation = some .unpin then
        (applyUnpinReport now nodeId report).commit db
      else (ReplicationDB.applyJobReport now nodeId report).commit db := by
  by_cases recheck : (findJob db report.jobId nodeId).map Job.operation = some .unpinVerify
  · rw [if_pos recheck]
    have first : (runOp (.jobOperation report.jobId nodeId) now db).2 = some .unpinVerify := recheck
    unfold ReplicationDBV214Recovery.applyJobReport
    rw [Call.runAt_ask_bind, if_pos first]
    exact Call.runAt_attempt _ _ _
  · rw [if_neg recheck]
    have first : (runOp (.jobOperation report.jobId nodeId) now db).2 ≠ some .unpinVerify := recheck
    unfold ReplicationDBV214Recovery.applyJobReport ReplicationDBV214.applyJobReport
    rw [Call.runAt_ask_bind, if_neg first]
    change Call.runAt (Prog.ask (.jobOperation report.jobId nodeId) >>= fun operation =>
      if operation = some .unpin then Prog.attempt (.unpinReport nodeId report)
      else Prog.attempt (.jobReport nodeId report)) now db = _
    rw [Call.runAt_ask_bind]
    by_cases unpin : (findJob db report.jobId nodeId).map Job.operation = some .unpin
    · have second : (runOp (.jobOperation report.jobId nodeId) now db).2 = some .unpin := unpin
      rw [if_pos unpin, if_pos second]
      exact Call.runAt_attempt _ _ _
    · have second : (runOp (.jobOperation report.jobId nodeId) now db).2 ≠ some .unpin := unpin
      rw [if_neg unpin, if_neg second]
      exact Call.runAt_attempt _ _ _

section Classify

variable (ctl : Controller) (cid : Cid) (now : Int)

/-- A row as `_classify_observed_replicas` leaves it. -/
def Controller.classified (nodes : List Node) (replica : Replica) : Replica :=
  match ctl.observedMark now (nodes.find? fun node => node.nodeId = replica.nodeId) replica with
  | none => replica
  | some (state, error) => markedReplica now state error replica

theorem classified_key (nodes : List Node) (replica : Replica) :
    (ctl.classified now nodes replica).key = replica.key := by
  unfold Controller.classified
  split <;> rfl

/-- The nodes in the order in which `nodes` lists them. -/
def Db.nodeList (db : Db) : List Node :=
  db.nodes.rows.insertionSort fun first second => first.nodeId ≤ second.nodeId

theorem nodeList_mem {db : Db} {node : Node} : node ∈ db.nodeList ↔ node ∈ db.nodes.rows := by
  unfold Db.nodeList
  rw [List.mem_insertionSort]

theorem nodeList_find? (db : Db) (nodeId : NodeId) :
    (db.nodeList.find? fun node => node.nodeId = nodeId) = db.nodes.find? nodeId := by
  cases listed : db.nodeList.find? fun node => node.nodeId = nodeId with
  | some node =>
      have member := nodeList_mem.mp (List.mem_of_find?_eq_some listed)
      have named : node.nodeId = nodeId := by simpa using List.find?_some listed
      exact (Table.find?_some_iff.mpr ⟨member, named⟩).symm
  | none =>
      refine (Table.find?_none_iff.mpr fun node member named => ?_).symm
      have absent := List.find?_eq_none.mp listed node (nodeList_mem.mpr member)
      simp [named] at absent

def Controller.classify (db : Db) : Db :=
  db.updateReplicas (fun replica => replica.cid = cid) (ctl.classified now db.nodeList)
    (classified_key ctl now db.nodeList)

theorem classifyReplica_runAt (nodes : List Node) (replica : Replica) (named : replica.cid = cid)
    (db : Db) (present : replica ∈ db.replicas.rows) :
    (ctl.classifyReplica cid now nodes replica).runAt now db =
      (db.updateReplicas (fun row => row.key = replica.key) (ctl.classified now nodes)
        (classified_key ctl now nodes), .ok ()) := by
  have single : ∀ (change : Replica → Replica) (keeps : ∀ row, (change row).key = row.key),
      ctl.classified now nodes replica = change replica →
        db.updateReplica cid replica.nodeId change keeps =
          db.updateReplicas (fun row => row.key = replica.key) (ctl.classified now nodes)
            (classified_key ctl now nodes) := by
    intro change keeps agrees
    apply updateReplicas_congr
    intro row member
    by_cases same : row.key = replica.key
    · have equal : row = replica := Table.eq_of_key member present same
      subst equal
      simp [named, agrees]
    · have apart : ¬(row.cid = cid ∧ row.nodeId = replica.nodeId) := by
        rintro ⟨first, second⟩
        exact same (by simp [first, second, named])
      simp [same, apart]
  unfold Controller.classifyReplica
  cases marked : ctl.observedMark now (nodes.find? fun node => node.nodeId = replica.nodeId)
      replica with
  | none =>
      have kept : ctl.classified now nodes replica = replica := by
        simp [Controller.classified, marked]
      have idle : db.updateReplicas (fun row => row.key = replica.key) (ctl.classified now nodes)
          (classified_key ctl now nodes) = db := by
        apply updateReplicas_self
        intro row member same
        rw [Table.eq_of_key member present (of_decide_eq_true same), kept]
      rw [idle]
      rfl
  | some mark =>
      have agrees : ctl.classified now nodes replica = markedReplica now mark.1 mark.2 replica := by
        simp [Controller.classified, marked]
      rw [← single (markedReplica now mark.1 mark.2) (fun _ => rfl) agrees]
      rfl

theorem classifyRows_runAt (nodes : List Node) (rows : List Replica) (db : Db)
    (named : ∀ replica ∈ rows, replica.cid = cid) (distinct : (rows.map Replica.key).Nodup)
    (present : ∀ replica ∈ rows, replica ∈ db.replicas.rows) :
    Call.runAt (Prog.forEach (ctl.classifyReplica cid now nodes) rows) now db =
      (db.updateReplicas (fun row => row.key ∈ rows.map Replica.key) (ctl.classified now nodes)
        (classified_key ctl now nodes), .ok ()) := by
  induction rows generalizing db with
  | nil =>
      rw [updateReplicas_self (by simp)]
      rfl
  | cons head tail ih =>
      rw [List.map_cons, List.nodup_cons] at distinct
      have first := classifyReplica_runAt ctl cid now nodes head (named head List.mem_cons_self) db
        (present head List.mem_cons_self)
      change Call.runAt (ctl.classifyReplica cid now nodes head >>= fun _ =>
        Prog.forEach (ctl.classifyReplica cid now nodes) tail) now db = _
      rw [Call.runAt_bind, first]
      dsimp only
      rw [ih _ (fun replica member => named replica (List.mem_cons_of_mem head member)) distinct.2 ?_]
      · rw [updateReplicas_twice]
        intro row member
        by_cases same : row.key = head.key
        · have outside : head.key ∉ tail.map Replica.key := distinct.1
          simp only [same, decide_true, if_true, classified_key, outside, decide_false,
            List.map_cons, List.mem_cons, true_or]
          simp
        · simp [same]
      · intro replica member
        have apart : replica.key ≠ head.key := by
          intro same
          exact distinct.1 (same ▸ List.mem_map_of_mem member)
        have old := present replica (List.mem_cons_of_mem head member)
        refine List.mem_map.mpr ⟨replica, old, ?_⟩
        simp [apart]

/-- `_classify_observed_replicas` marks every row of the content once. -/
theorem classifyObservedReplicas_runAt (db : Db) :
    (ctl.classifyObservedReplicas cid now).runAt now db = (ctl.classify cid now db, .ok ()) := by
  unfold Controller.classifyObservedReplicas
  rw [Call.runAt_ask_bind, Call.runAt_ask_bind]
  simp only [runOp]
  rw [classifyRows_runAt]
  · unfold Controller.classify
    rw [updateReplicas_congr]
    intro row member
    by_cases same : row.cid = cid
    · have inside : row.key ∈ (db.replicaRows cid).map Replica.key :=
        List.mem_map_of_mem (List.mem_filter.mpr ⟨member, by simpa using same⟩)
      simp [same, inside, Db.nodeList]
    · have outside : row.key ∉ (db.replicaRows cid).map Replica.key := by
        intro inside
        obtain ⟨other, listed, keyed⟩ := List.mem_map.mp inside
        have named := (List.mem_filter.mp listed).2
        simp only [decide_eq_true_eq] at named
        exact same ((Prod.ext_iff.mp keyed).1.symm.trans named)
      simp [same, outside]
  · intro replica member
    simpa using (List.mem_filter.mp member).2
  · exact (List.filter_sublist.map _).nodup db.replicas.distinct
  · intro replica member
    exact (List.mem_filter.mp member).1

end Classify

section Reconcile

variable {ctl : Controller} {cid : Cid} {now : Int} {db : Db} {object : Object}

/-- The rows in the order in which `object` lists them. -/
def Db.replicaList (db : Db) (cid : Cid) : List Replica := sortedByNode (db.replicaRows cid)

theorem reconcileCid_runAt (found : db.object cid = some object) (live : object.refcount ≠ 0) :
    (ctl.reconcileCid cid).runAt now db =
      (ctl.reconcileClassified cid now).runAt now (ctl.classify cid now db) := by
  unfold Controller.reconcileCid
  rw [Call.runAt_ask_bind, Call.runAt_ask_bind]
  simp only [runOp, found, Option.map_some]
  rw [if_neg live, Call.runAt_bind, classifyObservedReplicas_runAt]

/-- The row with the health that `reconcile_cid` reports. -/
def Controller.withHealth (ctl : Controller) (cid : Cid) (object : Object) (db : Db) : Db :=
  let (state, reason) := Controller.health (ctl.policyOf object) (db.replicaRows cid)
  updateObjectHealth cid state reason db

/-- The nodes that `reconcile_cid` picks in the state `db`, whatever the mode. -/
def Controller.picksIn (ctl : Controller) (cid : Cid) (now : Int) (object : Object) (db : Db) :
    Except PyError (List OnlineNode) :=
  ctl.picks cid now object (db.replicaList cid) db.nodeList (placementLoad db)

theorem reconcileClassified_runAt (found : db.object cid = some object) :
    (ctl.reconcileClassified cid now).runAt now db =
      match ctl.picksIn cid now object db with
      | .error failure => (db, .error failure)
      | .ok chosen =>
          if ctl.mode = .pinOnly then
            (ctl.repair cid now object (db.replicaList cid) db.nodeList chosen >>= fun _ =>
              ctl.reportHealth cid object).runAt now db
          else (ctl.withHealth cid object db, .ok ()) := by
  unfold Controller.reconcileClassified
  rw [Call.runAt_ask_bind]
  simp only [runOp, found, Option.map_some]
  rw [Call.runAt_ask_bind, Call.runAt_ask_bind]
  simp only [runOp]
  rw [Call.runAt_bind, Call.runAt_ofExcept]
  rw [show ctl.picks cid now object (sortedByNode (db.replicaRows cid))
    (db.nodes.rows.insertionSort fun first second => first.nodeId ≤ second.nodeId)
    (placementLoad db) = ctl.picksIn cid now object db from rfl]
  cases ctl.picksIn cid now object db with
  | error failure => rfl
  | ok chosen =>
      dsimp only
      split <;> rfl

theorem reconcileClassified_invalid {failure : PyError} (found : db.object cid = some object)
    (raised : ctl.picksIn cid now object db = .error failure) :
    (ctl.reconcileClassified cid now).runAt now db = (db, .error failure) := by
  rw [reconcileClassified_runAt found, raised]

/-- In a mode that does not repair, only the health is written. -/
theorem reconcileClassified_observing {chosen : List OnlineNode}
    (found : db.object cid = some object)
    (picked : ctl.picksIn cid now object db = .ok chosen) (other : ctl.mode ≠ .pinOnly) :
    (ctl.reconcileClassified cid now).runAt now db = (ctl.withHealth cid object db, .ok ()) := by
  rw [reconcileClassified_runAt found, picked]
  exact if_neg other

theorem reconcileClassified_repairing {chosen : List OnlineNode}
    (found : db.object cid = some object)
    (picked : ctl.picksIn cid now object db = .ok chosen) (repairs : ctl.mode = .pinOnly) :
    (ctl.reconcileClassified cid now).runAt now db =
      match (ctl.repair cid now object (db.replicaList cid) db.nodeList chosen).runAt now db with
      | (after, .ok ()) => (ctl.withHealth cid object after, .ok ())
      | (after, .error failure) => (after, .error failure) := by
  rw [reconcileClassified_runAt found, picked]
  dsimp only
  rw [if_pos repairs, Call.runAt_bind]
  rcases (ctl.repair cid now object (db.replicaList cid) db.nodeList chosen).runAt now db
    with ⟨after, failure | value⟩ <;> rfl

/-- The store after `create_pin_assignment`. -/
def assignStep (cid : Cid) (now : Int) (db : Db) (node : OnlineNode) : Db :=
  (runOp (.createPinAssignment cid node.nodeId node.capacityClass) now db).1

/-- The store after one round of the loop that creates VERIFY jobs. -/
def Controller.verifyStep (ctl : Controller) (cid : Cid) (now : Int) (object : Object)
    (nodes : List OnlineNode) (db : Db) (replica : Replica) : Db :=
  if ctl.verifyDue now nodes replica && !verifyWaiting db cid replica.nodeId then
    (insertJob db (newJob now cid replica.nodeId .verify
      (if replica.generation ≠ 0 then replica.generation else object.generation))).1
  else db

/-- What the repair of a content takes as given: its object, and the nodes it picks from. -/
structure Repairing (cid : Cid) (object : Object) (nodes : Table Node.nodeId) (db : Db) :
    Prop where
  found : db.object cid = some object
  nodes : db.nodes = nodes

variable {nodes : Table Node.nodeId} {chosen : List OnlineNode}

theorem assignStep_repairing {node : OnlineNode} (repairing : Repairing cid object nodes db)
    (known : (nodes.find? node.nodeId).isSome) :
    Repairing cid object nodes (assignStep cid now db node) := by
  obtain ⟨run, -⟩ := createPinAssignment_run now node.capacityClass repairing.found
    (repairing.nodes ▸ known)
  unfold assignStep
  rw [run]
  split
  · exact repairing
  · split
    · exact ⟨repairing.found, repairing.nodes⟩
    · exact ⟨repairing.found, repairing.nodes⟩

variable (now) in
theorem assignPins_runAt (start : Repairing cid object nodes db)
    (known : ∀ node ∈ chosen, (nodes.find? node.nodeId).isSome) :
    Call.runAt (Prog.forEach (Controller.assignPin cid) chosen) now db =
        (chosen.foldl (assignStep cid now) db, .ok ()) ∧
      Repairing cid object nodes (chosen.foldl (assignStep cid now) db) := by
  refine Prog.exec_forEach_ok (Repairing cid object nodes) (assignStep cid now) now _ chosen ?_ db
    start
  intro node member state repairing
  have found := known node member
  obtain ⟨-, answer, answered⟩ := createPinAssignment_run now node.capacityClass repairing.found
    (repairing.nodes ▸ found)
  refine ⟨?_, assignStep_repairing repairing found⟩
  change Call.runAt (Prog.attempt (.createPinAssignment cid node.nodeId node.capacityClass) >>=
    fun _ => pure ()) now state = _
  rw [Call.runAt_bind, Call.runAt_attempt]
  unfold assignStep
  rcases run : runOp (.createPinAssignment cid node.nodeId node.capacityClass) now state with
    ⟨after, result⟩
  rw [run] at answered
  dsimp only at answered
  subst answered
  rfl

theorem verifyDue_known {replica : Replica} (same : db.nodes = nodes)
    (due : ctl.verifyDue now (ctl.onlineNodes now db.nodeList) replica = true) :
    (nodes.find? replica.nodeId).isSome := by
  unfold Controller.verifyDue at due
  simp only [Bool.and_eq_true] at due
  cases found : (ctl.onlineNodes now db.nodeList).find?
      fun node => node.nodeId = replica.nodeId with
  | none => simp [found] at due
  | some node =>
      have listed := List.mem_of_find?_eq_some found
      have named : node.nodeId = replica.nodeId := by simpa using List.find?_some found
      obtain ⟨row, member, rfl⟩ := List.mem_map.mp listed
      have present : row ∈ nodes.rows := by
        rw [← same]
        exact (List.mem_insertionSort _).mp member
      rw [Table.find?_some_iff.mpr ⟨present, named⟩]
      rfl

theorem verifyReplicas_runAt {online : List OnlineNode} {rows : List Replica}
    (start : Repairing cid object nodes db)
    (known : ∀ replica ∈ rows, ctl.verifyDue now online replica = true →
      (nodes.find? replica.nodeId).isSome) :
    Call.runAt (Prog.forEach (ctl.verifyReplica cid now object online) rows) now db =
        (rows.foldl (ctl.verifyStep cid now object online) db, .ok ()) ∧
      Repairing cid object nodes (rows.foldl (ctl.verifyStep cid now object online) db) := by
  refine Prog.exec_forEach_ok (Repairing cid object nodes)
    (ctl.verifyStep cid now object online) now _ rows ?_ db start
  intro replica member state repairing
  unfold Controller.verifyReplica Controller.verifyStep
  by_cases due : ctl.verifyDue now online replica = true
  · obtain ⟨run, answer, answered⟩ := createVerifyJob_run now
      (if replica.generation ≠ 0 then replica.generation else object.generation)
      repairing.found (repairing.nodes ▸ known replica member due)
    rw [if_pos due]
    constructor
    · change Call.runAt (Prog.attempt (.createVerifyJob cid replica.nodeId
        (if replica.generation ≠ 0 then replica.generation else object.generation)) >>=
          fun _ => pure ()) now state = _
      rw [Call.runAt_bind, Call.runAt_attempt, ← Prod.mk.eta (p := runOp _ now state), run,
        answered]
      by_cases waiting : verifyWaiting state cid replica.nodeId = true <;> simp [due, waiting]
    · by_cases waiting : verifyWaiting state cid replica.nodeId = true
      · simpa [due, waiting] using repairing
      · simp only [due, waiting, Bool.not_false, Bool.and_self, if_true]
        exact ⟨repairing.found, repairing.nodes⟩
  · rw [if_neg due]
    refine ⟨?_, ?_⟩
    · simp only [due, Bool.false_and]
      rfl
    · simpa [due] using repairing

/-- A repair alone, from a store that knows the content and the nodes. -/
theorem repair_runAt (found : db.object cid = some object) {rows : List Replica}
    (known : ∀ node ∈ chosen, (db.nodes.find? node.nodeId).isSome) :
    (ctl.repair cid now object rows db.nodeList chosen).runAt now db =
      (rows.foldl (ctl.verifyStep cid now object (ctl.onlineNodes now db.nodeList))
        (chosen.foldl (assignStep cid now) db), .ok ()) := by
  obtain ⟨assigned, repairing⟩ := assignPins_runAt now ⟨found, rfl⟩ known
  unfold Controller.repair
  rw [Call.runAt_bind, assigned]
  exact (verifyReplicas_runAt repairing fun replica _ due => verifyDue_known rfl due).1

end Reconcile

end HashBurst.Replication
