import HashBurst.Replication.Policy

namespace HashBurst.Replication

open Lib

section Pop

variable {pool rest : List Candidate} {occupied : List String} {item : Candidate}

theorem popDomainPreferred_perm (popped : popDomainPreferred pool occupied = some (item, rest)) :
    pool.Perm (item :: rest) := by
  unfold popDomainPreferred at popped
  cases found : pool.find? (Candidate.inFreshDomain occupied) with
  | none =>
      simp only [found, Option.map_eq_some_iff, Prod.mk.injEq] at popped
      obtain ⟨head, first, rfl, rfl⟩ := popped
      rw [List.cons_head?_tail first]
  | some kept =>
      simp only [found, Option.some.injEq, Prod.mk.injEq] at popped
      obtain ⟨rfl, rfl⟩ := popped
      obtain ⟨fresh, before, after, split, stale⟩ := List.find?_eq_some_iff_append.mp found
      have passed : ∀ other ∈ before, ¬ Candidate.inFreshDomain occupied other = true := by
        intro other member
        simpa using stale other member
      rw [split, List.eraseP_append_right _ passed, List.eraseP_cons_of_pos fresh]
      exact List.perm_middle

/-- A candidate in an occupied domain is popped only when no other domain is left. -/
theorem popDomainPreferred_fresh (popped : popDomainPreferred pool occupied = some (item, rest))
    (taken : item.domain ∈ occupied) : ∀ other ∈ pool, other.domain ∈ occupied := by
  unfold popDomainPreferred at popped
  cases found : pool.find? (Candidate.inFreshDomain occupied) with
  | none =>
      intro other member
      have stale := List.find?_eq_none.mp found other member
      simpa [Candidate.inFreshDomain] using stale
  | some kept =>
      simp only [found, Option.some.injEq, Prod.mk.injEq] at popped
      have fresh := List.find?_some found
      rw [popped.1] at fresh
      simp only [Candidate.inFreshDomain, decide_eq_true_eq] at fresh
      exact absurd taken fresh

end Pop

def Picks.takeAll (picks : Picks) (items : List Candidate) : Picks := items.foldl Picks.take picks

/-- What a loop has drawn from its pool, and what is left of the pool. -/
structure Draws (pool : List Candidate) (picks : Picks) (taken left : List Candidate) : Prop where
  perm : pool.Perm (taken ++ left)
  prefers : ∀ before item after, taken = before ++ item :: after →
    item.domain ∈ (picks.takeAll before).occupiedDomains →
    ∀ other ∈ pool, other ∉ before → other.domain ∈ (picks.takeAll before).occupiedDomains

section Loops

variable {pool rest taken left : List Candidate} {picks : Picks} {item : Candidate}

theorem Picks.takeAll_chosen (picks : Picks) (items : List Candidate) :
    (picks.takeAll items).chosen = picks.chosen ++ items.map Candidate.node := by
  induction items generalizing picks with
  | nil => simp [takeAll]
  | cons head tail ih =>
      have later := ih (picks.take head)
      simp only [takeAll, List.foldl_cons, List.map_cons] at later ⊢
      rw [later]
      simp [take]

theorem Picks.takeAll_occupied (picks : Picks) (items : List Candidate) (domain : String) :
    domain ∈ (picks.takeAll items).occupiedDomains ↔
      domain ∈ picks.occupiedDomains ∨ domain ∈ items.map Candidate.domain := by
  induction items generalizing picks with
  | nil => simp [takeAll]
  | cons head tail ih =>
      have later := ih (picks.take head)
      simp only [takeAll, List.foldl_cons, List.map_cons, List.mem_cons] at later ⊢
      rw [later]
      simp only [take, List.mem_cons]
      rw [or_assoc, or_left_comm]

theorem Picks.takeAll_excluded (picks : Picks) (items : List Candidate) (nodeId : NodeId) :
    nodeId ∈ (picks.takeAll items).excluded ↔
      nodeId ∈ picks.excluded ∨ ∃ item ∈ items, item.node.nodeId = nodeId := by
  induction items generalizing picks with
  | nil => simp [takeAll]
  | cons head tail ih =>
      have later := ih (picks.take head)
      simp only [takeAll, List.foldl_cons] at later ⊢
      rw [later]
      simp only [take, List.mem_cons, exists_eq_or_imp]
      rw [or_assoc, or_left_comm, @eq_comm _ nodeId]

theorem draws_none : Draws pool picks [] pool where
  perm := List.Perm.refl _
  prefers before item after impossible := by simp at impossible

theorem Draws.cons (popped : popDomainPreferred pool picks.occupiedDomains = some (item, rest))
    (draws : Draws rest (picks.take item) taken left) : Draws pool picks (item :: taken) left where
  perm := (popDomainPreferred_perm popped).trans (draws.perm.cons item)
  prefers before next after split occupied other member unpicked := by
    cases before with
    | nil =>
        rw [List.nil_append] at split
        rw [← (List.cons.inj split).1] at occupied
        exact popDomainPreferred_fresh popped occupied other member
    | cons head before =>
        obtain ⟨rfl, later⟩ := List.cons.inj split
        rw [List.mem_cons, not_or] at unpicked
        have inside := (popDomainPreferred_perm popped).subset member
        have present := (List.mem_cons.mp inside).resolve_left unpicked.1
        exact draws.prefers before next after later occupied other present unpicked.2

theorem takeCommittable_draws (need : Nat) (pool : List Candidate) (picks : Picks) (total : Nat) :
    ∃ taken, Draws pool picks taken (takeCommittable need pool picks total).1 ∧
      taken.length = min need pool.length ∧
      (takeCommittable need pool picks total).2 = (picks.takeAll taken, total - taken.length) := by
  induction need generalizing pool picks total with
  | zero => exact ⟨[], draws_none, by simp, rfl⟩
  | succ need ih =>
      rw [takeCommittable]
      cases popped : popDomainPreferred pool picks.occupiedDomains with
      | none =>
          rw [popDomainPreferred_eq_none.mp popped]
          exact ⟨[], draws_none, by simp, rfl⟩
      | some found =>
          obtain ⟨item, rest⟩ := found
          obtain ⟨taken, draws, count, after⟩ := ih rest (picks.take item) (total - 1)
          have shorter := (popDomainPreferred_perm popped).length_eq
          refine ⟨item :: taken, draws.cons popped, ?_, ?_⟩
          · rw [List.length_cons] at shorter ⊢
            omega
          · rw [after, List.length_cons, Picks.takeAll, Picks.takeAll, List.foldl_cons,
              Nat.sub_sub, Nat.add_comm 1]

structure Clear (pool : List Candidate) (picks : Picks) : Prop where
  distinct : (pool.map fun item => item.node.nodeId).Nodup
  open_ : ∀ item ∈ pool, item.node.nodeId ∉ picks.excluded

theorem Clear.take (clear : Clear pool picks)
    (popped : popDomainPreferred pool picks.occupiedDomains = some (item, rest)) :
    Clear rest (picks.take item) := by
  have perm := popDomainPreferred_perm popped
  have distinct := (perm.map fun item => item.node.nodeId).nodup_iff.mp clear.distinct
  rw [List.map_cons, List.nodup_cons] at distinct
  refine ⟨distinct.2, ?_⟩
  intro other member excluded
  rcases List.mem_cons.mp excluded with same | old
  · exact distinct.1 (List.mem_map.mpr ⟨other, member, same⟩)
  · exact clear.open_ other (perm.symm.subset (List.mem_cons_of_mem _ member)) old

theorem takeAny_draws (rounds : Nat) (pool : List Candidate) (picks : Picks) (total : Nat)
    (enough : pool.length ≤ rounds) (clear : Clear pool picks) :
    ∃ taken left, Draws pool picks taken left ∧ taken.length = min total pool.length ∧
      takeAny rounds pool picks total = (picks.takeAll taken, total - taken.length) := by
  induction rounds generalizing pool picks total with
  | zero =>
      have empty : pool.length = 0 := by omega
      exact ⟨[], pool, draws_none, by simp [empty], rfl⟩
  | succ rounds ih =>
      rw [takeAny]
      by_cases done : total = 0
      · rw [if_pos done]
        exact ⟨[], pool, draws_none, by simp [done], rfl⟩
      · rw [if_neg done]
        cases popped : popDomainPreferred pool picks.occupiedDomains with
        | none =>
            rw [popDomainPreferred_eq_none.mp popped]
            exact ⟨[], [], draws_none, by simp, rfl⟩
        | some found =>
            obtain ⟨item, rest⟩ := found
            have shorter := (popDomainPreferred_perm popped).length_eq
            rw [List.length_cons] at shorter
            have kept := clear.open_ item (popDomainPreferred_mem popped)
            obtain ⟨taken, left, draws, count, after⟩ :=
              ih rest (picks.take item) (total - 1) (by omega) (clear.take popped)
            refine ⟨item :: taken, left, draws.cons popped, ?_, ?_⟩
            · rw [List.length_cons]
              omega
            · dsimp only
              rw [if_neg kept, after, List.length_cons, Picks.takeAll, Picks.takeAll,
                List.foldl_cons, Nat.sub_sub, Nat.add_comm 1]

theorem Clear.perm {others : List Candidate} (clear : Clear pool picks) (same : pool.Perm others) :
    Clear others picks where
  distinct := (same.map fun item => item.node.nodeId).nodup_iff.mp clear.distinct
  open_ item member := clear.open_ item (same.symm.subset member)

theorem Clear.of_append (clear : Clear (taken ++ left) picks) : Clear taken picks where
  distinct := by
    have distinct := clear.distinct
    rw [List.map_append] at distinct
    exact distinct.of_append_left
  open_ item member := clear.open_ item (List.mem_append_left left member)

/-- What is left of a pool is clear of what was taken from it. -/
theorem Clear.after (clear : Clear (taken ++ left) picks) : Clear left (picks.takeAll taken) := by
  have distinct := clear.distinct
  rw [List.map_append, List.nodup_append] at distinct
  refine ⟨distinct.2.1, ?_⟩
  intro item member excluded
  rcases (picks.takeAll_excluded taken item.node.nodeId).mp excluded with old | ⟨other, drawn, same⟩
  · exact clear.open_ item (List.mem_append_right taken member) old
  · exact distinct.2.2 _ (List.mem_map.mpr ⟨other, drawn, rfl⟩) _
      (List.mem_map.mpr ⟨item, member, rfl⟩) same

end Loops

/-- The three loops over the candidates of both classes: the committable nodes that are needed, and
then either class for the rest. -/
structure Rounds (found : List Candidate) (start : Picks) (needCommittable needTotal : Nat) where
  (first second third left secondPool thirdPool secondLeft thirdLeft : List Candidate)
  committable : Draws (ranked .committable found) start first left
  firstCount : first.length = min needCommittable (ranked .committable found).length
  pools : (secondPool = ranked .bestEffort found ∧ thirdPool = left) ∨
    (secondPool = left ∧ thirdPool = ranked .bestEffort found)
  extra : Draws secondPool (start.takeAll first) second secondLeft
  secondCount : second.length = min (needTotal - first.length) secondPool.length
  last : Draws thirdPool ((start.takeAll first).takeAll second) third thirdLeft
  thirdCount : third.length = min (needTotal - first.length - second.length) thirdPool.length

namespace Rounds

variable {found : List Candidate} {start : Picks} {needCommittable needTotal : Nat}

def chosen (rounds : Rounds found start needCommittable needTotal) : List Candidate :=
  rounds.first ++ rounds.second ++ rounds.third

variable (rounds : Rounds found start needCommittable needTotal)

theorem pools_perm : (rounds.secondPool ++ rounds.thirdPool).Perm
    (rounds.left ++ ranked .bestEffort found) := by
  rcases rounds.pools with ⟨second, third⟩ | ⟨second, third⟩
  · rw [second, third]
    exact List.perm_append_comm
  · rw [second, third]

theorem perm : (rounds.chosen ++ (rounds.secondLeft ++ rounds.thirdLeft)).Perm
    (ranked .committable found ++ ranked .bestEffort found) := by
  have first := rounds.committable.perm
  have second := rounds.extra.perm
  have third := rounds.last.perm
  have pools := rounds.pools_perm
  rw [List.perm_iff_count] at first second third pools ⊢
  intro item
  have counts := first item
  have secondCounts := second item
  have thirdCounts := third item
  have poolCounts := pools item
  simp only [chosen, List.count_append] at counts secondCounts thirdCounts poolCounts ⊢
  omega

theorem length : rounds.chosen.length =
    max (min needCommittable (ranked .committable found).length)
      (min needTotal ((ranked .committable found).length + (ranked .bestEffort found).length)) := by
  have first := rounds.committable.perm.length_eq
  have pools := rounds.pools_perm.length_eq
  have firstCount := rounds.firstCount
  have secondCount := rounds.secondCount
  have thirdCount := rounds.thirdCount
  simp only [chosen, List.length_append] at first pools ⊢
  omega

theorem first_committable :
    ∀ item ∈ rounds.first, item.node.capacityClass = .committable := by
  intro item member
  have inside := rounds.committable.perm.symm.subset (List.mem_append_left rounds.left member)
  exact (mem_ranked.mp inside).2

end Rounds

section Specification

variable {scoring : Scoring} {cid : Cid} {objectSize : Int} {nodes : List OnlineNode}
  {currentNodeIds : List NodeId} {committable total : Int} {load : PlacementLoad}
  {policy : PlacementPolicy}

def startPicks (nodes : List OnlineNode) (currentNodeIds : List NodeId) : Picks where
  excluded := currentNodeIds
  occupiedDomains := (nodes.filter fun node => node.nodeId ∈ currentNodeIds).map
    fun node => nodeFailureDomain node.toNode

/-- The loop over both pools, after the loop for the committable nodes. -/
def fillRest (preferEdge : Bool) (edge : List Candidate) (loop : List Candidate × Picks × Nat) :
    List OnlineNode :=
  let pools := if preferEdge then (edge, loop.1) else (loop.1, edge)
  let filled := takeAny pools.1.length pools.1 loop.2.1 loop.2.2
  (takeAny pools.2.length pools.2 filled.1 filled.2).1.chosen

theorem choosePlacements_eq (valid : policy.validate = .ok ()) :
    choosePlacements scoring cid objectSize nodes currentNodeIds committable total load policy =
      .ok (fillRest policy.preferEdgeForExtra
        (ranked .bestEffort
          (candidates scoring cid objectSize nodes currentNodeIds load policy))
        (takeCommittable (policy.committableM - committable).toNat
          (ranked .committable
            (candidates scoring cid objectSize nodes currentNodeIds load policy))
          (startPicks nodes currentNodeIds) (policy.replicationN - total).toNat)) := by
  unfold choosePlacements
  rw [valid]
  rfl

theorem ranked_perm {found : List Candidate} (classes : ∀ item ∈ found,
    item.node.capacityClass = .committable ∨ item.node.capacityClass = .bestEffort) :
    (ranked .committable found ++ ranked .bestEffort found).Perm found := by
  have other : (found.filter fun item => item.node.capacityClass = .bestEffort) =
      found.filter fun item => !decide (item.node.capacityClass = .committable) := by
    apply List.filter_congr
    intro item member
    rcases classes item member with own | own
    · rw [own]
      decide
    · rw [own]
      decide
  have sorted := ((List.perm_insertionSort (fun first second => second.score ≤ first.score)
    (found.filter fun item => item.node.capacityClass = .committable)).append
    (List.perm_insertionSort (fun first second => second.score ≤ first.score)
      (found.filter fun item => item.node.capacityClass = .bestEffort)))
  rw [other] at sorted
  unfold ranked
  rw [other]
  exact sorted.trans (List.filter_append_perm _ found)

theorem candidates_perm :
    (ranked .committable (candidates scoring cid objectSize nodes currentNodeIds load policy) ++
      ranked .bestEffort (candidates scoring cid objectSize nodes currentNodeIds load policy)).Perm
        (candidates scoring cid objectSize nodes currentNodeIds load policy) :=
  ranked_perm fun _ member => placeable_class (mem_candidates member).2

variable (scoring cid) in
theorem candidates_nodes :
    (candidates scoring cid objectSize nodes currentNodeIds load policy).map Candidate.node =
      nodes.filter (placeable objectSize currentNodeIds load policy) := by
  unfold candidates
  rw [List.map_map]
  exact List.map_id _

variable (scoring cid objectSize currentNodeIds load policy) in
theorem candidates_clear (distinct : (nodes.map fun node => node.nodeId).Nodup) :
    Clear (candidates scoring cid objectSize nodes currentNodeIds load policy)
      (startPicks nodes currentNodeIds) := by
  constructor
  · have kept : ((nodes.filter (placeable objectSize currentNodeIds load policy)).map
        fun node => node.nodeId).Nodup :=
      distinct.sublist ((List.filter_sublist).map _)
    rw [← candidates_nodes scoring cid, List.map_map] at kept
    exact kept
  · intro item member
    have free := (mem_candidates member).2
    simp only [placeable, Bool.and_eq_true, decide_eq_true_eq] at free
    exact free.1.2

variable (scoring cid objectSize currentNodeIds committable total load) in
/-- `choose_placements` is its three loops. -/
theorem choosePlacements_rounds (valid : policy.validate = .ok ())
    (distinct : (nodes.map fun node => node.nodeId).Nodup) :
    ∃ rounds : Rounds (candidates scoring cid objectSize nodes currentNodeIds load policy)
        (startPicks nodes currentNodeIds) (policy.committableM - committable).toNat
        (policy.replicationN - total).toNat,
      choosePlacements scoring cid objectSize nodes currentNodeIds committable total load policy =
        .ok (rounds.chosen.map Candidate.node) := by
  set found := candidates scoring cid objectSize nodes currentNodeIds load policy with named
  have clear : Clear (ranked .committable found ++ ranked .bestEffort found)
      (startPicks nodes currentNodeIds) :=
    (candidates_clear scoring cid objectSize currentNodeIds load policy distinct).perm
      candidates_perm.symm
  obtain ⟨first, drawsFirst, firstCount, afterFirst⟩ := takeCommittable_draws
    (policy.committableM - committable).toNat (ranked .committable found)
    (startPicks nodes currentNodeIds) (policy.replicationN - total).toNat
  set loop := takeCommittable (policy.committableM - committable).toNat (ranked .committable found)
    (startPicks nodes currentNodeIds) (policy.replicationN - total).toNat with looped
  have rest : Clear (loop.1 ++ ranked .bestEffort found)
      ((startPicks nodes currentNodeIds).takeAll first) := by
    apply Clear.after
    rw [← List.append_assoc]
    exact clear.perm (drawsFirst.perm.append_right _)
  obtain ⟨second, third, pools, choice⟩ : ∃ second third : List Candidate,
      ((second = ranked .bestEffort found ∧ third = loop.1) ∨
        (second = loop.1 ∧ third = ranked .bestEffort found)) ∧
      (if policy.preferEdgeForExtra then (ranked .bestEffort found, loop.1)
        else (loop.1, ranked .bestEffort found)) = (second, third) := by
    cases policy.preferEdgeForExtra with
    | true => exact ⟨_, _, .inl ⟨rfl, rfl⟩, rfl⟩
    | false => exact ⟨_, _, .inr ⟨rfl, rfl⟩, rfl⟩
  have both : Clear (second ++ third) ((startPicks nodes currentNodeIds).takeAll first) := by
    rcases pools with ⟨rfl, rfl⟩ | ⟨rfl, rfl⟩
    · exact rest.perm List.perm_append_comm
    · exact rest
  obtain ⟨extra, left, drawsExtra, extraCount, afterExtra⟩ := takeAny_draws second.length second
    ((startPicks nodes currentNodeIds).takeAll first)
    ((policy.replicationN - total).toNat - first.length) (Nat.le_refl _) both.of_append
  have final : Clear third (((startPicks nodes currentNodeIds).takeAll first).takeAll extra) := by
    have moved : (second ++ third).Perm (extra ++ (left ++ third)) := by
      rw [← List.append_assoc]
      exact drawsExtra.perm.append_right _
    exact (((both.perm moved).after).perm List.perm_append_comm).of_append
  obtain ⟨last, unused, drawsLast, lastCount, afterLast⟩ := takeAny_draws third.length third
    (((startPicks nodes currentNodeIds).takeAll first).takeAll extra)
    ((policy.replicationN - total).toNat - first.length - extra.length) (Nat.le_refl _) final
  refine ⟨⟨first, extra, last, loop.1, second, third, left, unused, drawsFirst, firstCount, pools,
    drawsExtra, extraCount, drawsLast, lastCount⟩, ?_⟩
  rw [choosePlacements_eq valid, ← named, ← looped, fillRest, choice]
  dsimp only
  rw [afterFirst]
  dsimp only
  rw [afterExtra]
  dsimp only
  rw [afterLast, Picks.takeAll_chosen, Picks.takeAll_chosen, Picks.takeAll_chosen]
  simp [Rounds.chosen, startPicks]

theorem count_committable :
    (ranked .committable
      (candidates scoring cid objectSize nodes currentNodeIds load policy)).length =
      (nodes.filter (placeable objectSize currentNodeIds load policy)).countP
        fun node => node.capacityClass = .committable := by
  unfold ranked
  rw [List.length_insertionSort, ← candidates_nodes scoring cid, List.countP_map,
    List.countP_eq_length_filter]
  rfl

private theorem count_placeable :
    (ranked .committable
      (candidates scoring cid objectSize nodes currentNodeIds load policy)).length +
      (ranked .bestEffort
        (candidates scoring cid objectSize nodes currentNodeIds load policy)).length =
      (nodes.filter (placeable objectSize currentNodeIds load policy)).length := by
  rw [← List.length_append, candidates_perm.length_eq, ← candidates_nodes scoring cid,
    List.length_map]

variable (scoring cid objectSize currentNodeIds committable total load) in
/-- How many nodes are chosen, of the nodes that may take the copy. -/
theorem choosePlacements_counts (valid : policy.validate = .ok ())
    (distinct : (nodes.map fun node => node.nodeId).Nodup) :
    ∃ chosen, choosePlacements scoring cid objectSize nodes currentNodeIds committable total load
        policy = .ok chosen ∧
      (chosen.map fun node => node.nodeId).Nodup ∧
      min (policy.committableM - committable).toNat
          ((nodes.filter (placeable objectSize currentNodeIds load policy)).countP
            fun node => node.capacityClass = .committable) ≤
        chosen.countP (fun node => node.capacityClass = .committable) ∧
      chosen.length =
        max (min (policy.committableM - committable).toNat
            ((nodes.filter (placeable objectSize currentNodeIds load policy)).countP
              fun node => node.capacityClass = .committable))
          (min (policy.replicationN - total).toNat
            (nodes.filter (placeable objectSize currentNodeIds load policy)).length) := by
  obtain ⟨rounds, done⟩ := choosePlacements_rounds scoring cid objectSize currentNodeIds committable
    total load valid distinct
  refine ⟨_, done, ?_, ?_, ?_⟩
  · have clear := (candidates_clear scoring cid objectSize currentNodeIds load policy
      distinct).distinct
    have all := rounds.perm.trans candidates_perm
    have ids := (all.map fun item => item.node.nodeId).nodup_iff.mpr clear
    rw [List.map_append] at ids
    rw [List.map_map]
    exact ids.of_append_left
  · have inFirst : rounds.first.countP (fun item => item.node.capacityClass = .committable) =
        rounds.first.length := by
      apply List.countP_eq_length.mpr
      intro item member
      exact decide_eq_true (rounds.first_committable item member)
    have count := rounds.firstCount
    rw [count_committable] at count
    rw [List.countP_map, Rounds.chosen, List.countP_append, List.countP_append]
    simp only [Function.comp_def, inFirst, count]
    omega
  · rw [List.length_map, rounds.length, count_placeable, count_committable]

/-- The chosen nodes are different, may take the copy, and are as many as the two needs ask for and
the nodes allow. -/
theorem choosePlacements_spec (scoring : Scoring) (cid : Cid) (objectSize : Int)
    (nodes : List OnlineNode) (currentNodeIds : List NodeId) (committable total : Int)
    (load : PlacementLoad) (policy : PlacementPolicy) (valid : policy.validate = .ok ())
    (distinct : (nodes.map fun node => node.nodeId).Nodup)
    (named : ∀ node ∈ nodes, node.nodeId ≠ "") :
    let free := nodes.filter fun node => node.nodeId ∉ currentNodeIds ∧
      eligible node objectSize (load.reservedBytes node.nodeId) policy
    let needCommittable := (max 0 (policy.committableM - committable)).toNat
    let needTotal := (max 0 (policy.replicationN - total)).toNat
    let certain := min needCommittable (free.countP fun node => node.capacityClass = .committable)
    ∃ chosen, choosePlacements scoring cid objectSize nodes currentNodeIds committable total load
        policy = .ok chosen ∧
      chosen.Nodup ∧ (∀ node ∈ chosen, node ∈ nodes ∧ node.nodeId ∉ currentNodeIds ∧
        node.enabled ∧ node.online ∧
        (node.capacityClass = .committable ∨ node.capacityClass = .bestEffort) ∧
        objectSize ≤ effectiveFreeBytes node.toNode (load.reservedBytes node.nodeId)
          policy.safetyMarginBytes) ∧
      certain ≤ chosen.countP (fun node => node.capacityClass = .committable) ∧
      chosen.length = max certain (min needTotal free.length) := by
  intro free needCommittable needTotal certain
  obtain ⟨chosen, done, ids, enough, length⟩ := choosePlacements_counts scoring cid objectSize
    currentNodeIds committable total load valid distinct
  have same : nodes.filter (placeable objectSize currentNodeIds load policy) = free := by
    apply List.filter_congr
    intro node member
    simp only [placeable, decide_eq_true (named node member), Bool.true_and, ne_eq, decide_not,
      Bool.decide_and, Bool.decide_eq_true]
  have needs : (policy.committableM - committable).toNat = needCommittable ∧
      (policy.replicationN - total).toNat = needTotal := by
    simp only [needCommittable, needTotal]
    omega
  rw [same, needs.1] at enough
  rw [same, needs.1, needs.2] at length
  refine ⟨chosen, done, ids.of_map, ?_, enough, length⟩
  intro node member
  obtain ⟨present, may⟩ := choosePlacements_mem done node member
  simp only [placeable, eligible, Bool.and_eq_true, Bool.or_eq_true, decide_eq_true_eq] at may
  obtain ⟨⟨-, outside⟩, ⟨⟨enabled, online⟩, classed⟩, room⟩ := may
  exact ⟨present, outside, enabled, online, classed, room⟩

/-- `stable_tiebreak` of the content `bafy1` on four nodes. -/
def sampleScoring : Scoring where
  stableTiebreak _ nodeId :=
    (([("n1", 17568825476825797549), ("n2", 8901031521951957099),
      ("n3", 7372997022452896753), ("n5", 1556793066633751352)] : List (String × Int)).lookup nodeId).getD 0
  intQuotient := Int.tdiv

def sampleOnline (nodeId domain : String) (capacityClass : CapacityClass) : OnlineNode where
  nodeId
  capacityClass
  lastSeen := 1000
  totalBytes := 20000000000
  failureDomain := domain
  online := true

def sampleNodes : List OnlineNode :=
  [sampleOnline "n1" "rack-a" .committable, sampleOnline "n2" "rack-a" .committable,
    sampleOnline "n3" "rack-b" .bestEffort]

def sampleLoad : PlacementLoad := ⟨fun _ => 0, fun _ => 0, fun _ => 0⟩

theorem choosePlacements_spec_sample : ∃ chosen, choosePlacements sampleScoring "bafy1" 10 sampleNodes
    [] 0 0 sampleLoad {} = .ok chosen ∧ chosen.length = 3 := by
  obtain ⟨chosen, done, -, -, -, count⟩ := choosePlacements_spec sampleScoring "bafy1" 10 sampleNodes
    [] 0 0 sampleLoad {} rfl (by decide) (by decide)
  exact ⟨chosen, done, count.trans (by decide)⟩

end Specification

section Order

variable {pool : List Candidate} {first second : Picks}

structure Picks.Alike (first second : Picks) : Prop where
  chosen : first.chosen = second.chosen
  excluded : first.excluded = second.excluded
  occupied : ∀ domain, domain ∈ first.occupiedDomains ↔ domain ∈ second.occupiedDomains

theorem Picks.Alike.take (alike : first.Alike second) (item : Candidate) :
    (first.take item).Alike (second.take item) where
  chosen := by simp only [Picks.take, alike.chosen]
  excluded := by simp only [Picks.take, alike.excluded]
  occupied domain := by simp only [Picks.take, List.mem_cons, alike.occupied]

theorem Picks.Alike.pop (alike : first.Alike second) (pool : List Candidate) :
    popDomainPreferred pool first.occupiedDomains =
      popDomainPreferred pool second.occupiedDomains := by
  have same : Candidate.inFreshDomain first.occupiedDomains =
      Candidate.inFreshDomain second.occupiedDomains := by
    funext item
    simp only [Candidate.inFreshDomain, alike.occupied]
  rw [popDomainPreferred, popDomainPreferred, same]

theorem takeCommittable_alike (need : Nat) (pool : List Candidate) (total : Nat)
    (alike : first.Alike second) :
    (takeCommittable need pool first total).1 = (takeCommittable need pool second total).1 ∧
      (takeCommittable need pool first total).2.1.Alike
        (takeCommittable need pool second total).2.1 ∧
      (takeCommittable need pool first total).2.2 = (takeCommittable need pool second total).2.2 := by
  induction need generalizing pool first second total with
  | zero => exact ⟨rfl, alike, rfl⟩
  | succ need ih =>
      rw [takeCommittable, takeCommittable, alike.pop]
      cases popDomainPreferred pool second.occupiedDomains with
      | none => exact ⟨rfl, alike, rfl⟩
      | some found => exact ih found.2 (total - 1) (alike.take found.1)

theorem takeAny_alike (rounds : Nat) (pool : List Candidate) (total : Nat)
    (alike : first.Alike second) :
    (takeAny rounds pool first total).1.Alike (takeAny rounds pool second total).1 ∧
      (takeAny rounds pool first total).2 = (takeAny rounds pool second total).2 := by
  induction rounds generalizing pool first second total with
  | zero => exact ⟨alike, rfl⟩
  | succ rounds ih =>
      rw [takeAny, takeAny, alike.pop]
      by_cases done : total = 0
      · rw [if_pos done, if_pos done]
        exact ⟨alike, rfl⟩
      · rw [if_neg done, if_neg done]
        cases popDomainPreferred pool second.occupiedDomains with
        | none => exact ⟨alike, rfl⟩
        | some found =>
            dsimp only
            rw [alike.excluded]
            by_cases taken : found.1.node.nodeId ∈ second.excluded
            · rw [if_pos taken, if_pos taken]
              exact ih found.2 total alike
            · rw [if_neg taken, if_neg taken]
              exact ih found.2 (total - 1) (alike.take found.1)

theorem fillRest_alike {preferEdge : Bool} {edge : List Candidate}
    {one two : List Candidate × Picks × Nat}
    (alike : one.1 = two.1 ∧ one.2.1.Alike two.2.1 ∧ one.2.2 = two.2.2) :
    fillRest preferEdge edge one = fillRest preferEdge edge two := by
  obtain ⟨pools, picks, needs⟩ := alike
  unfold fillRest
  rw [pools, needs]
  have first := fun pool : List Candidate => takeAny_alike pool.length pool two.2.2 picks
  dsimp only
  rw [(first _).2]
  exact (takeAny_alike _ _ _ (first _).1).1.chosen

theorem ranked_of_perm {found others : List Candidate} (capacityClass : CapacityClass)
    (scores : ∀ first ∈ found, ∀ second ∈ found, first.score = second.score → first = second)
    (same : found.Perm others) : ranked capacityClass found = ranked capacityClass others := by
  have sorted : ∀ pool : List Candidate, (ranked capacityClass pool).Pairwise
      fun first second => second.score ≤ first.score := by
    intro pool
    have : Std.Total fun first second : Candidate => second.score ≤ first.score :=
      ⟨fun first second => le_total second.score first.score⟩
    have : IsTrans Candidate fun first second => second.score ≤ first.score :=
      ⟨fun first second third down further => le_trans further down⟩
    exact List.pairwise_insertionSort _ _
  have perm : (ranked capacityClass found).Perm (ranked capacityClass others) := by
    unfold ranked
    exact ((List.perm_insertionSort _ _).trans (same.filter _)).trans
      (List.perm_insertionSort _ _).symm
  apply List.Perm.eq_of_pairwise _ (sorted found) (sorted others) perm
  intro first second member other down up
  have inside := (mem_ranked.mp member).1
  have within := same.symm.subset (mem_ranked.mp other).1
  exact scores first inside second within (le_antisymm up down)

end Order

theorem split_append {α : Type} {front back before after : List α} {item : α}
    (same : front ++ back = before ++ item :: after) :
    (∃ rest, front = before ++ item :: rest) ∨
      ∃ rest, before = front ++ rest ∧ back = rest ++ item :: after := by
  rcases List.append_eq_append_iff.mp same with ⟨rest, first, second⟩ | ⟨rest, first, second⟩
  · exact .inr ⟨rest, first, second⟩
  · cases rest with
    | nil =>
        refine .inr ⟨[], ?_, second.symm⟩
        rw [first]
        simp
    | cons head tail =>
        rw [List.cons_append, List.cons.injEq] at second
        exact .inl ⟨tail, by rw [first, second.1]⟩

namespace Rounds

variable {found : List Candidate} {start : Picks} {needCommittable needTotal : Nat}
  (rounds : Rounds found start needCommittable needTotal)

/-- What is not taken before is still in the pool of its class. -/
theorem remains {pool : List Candidate} {item other : Candidate}
    (which : pool = ranked .bestEffort found ∨ pool = rounds.left) (member : item ∈ pool)
    (present : other ∈ found) (alike : other.node.capacityClass = item.node.capacityClass)
    (fresh : other ∉ rounds.first) : other ∈ pool := by
  rcases which with rfl | rfl
  · exact mem_ranked.mpr ⟨present, alike.trans (mem_ranked.mp member).2⟩
  · have perm := rounds.committable.perm
    have own := mem_ranked.mp (perm.symm.subset (List.mem_append_right _ member))
    have listed := mem_ranked.mpr ⟨present, alike.trans own.2⟩
    exact (List.mem_append.mp (perm.subset listed)).resolve_left fresh

/-- Each candidate is taken in an occupied domain only when all others of its pool are in one. -/
theorem prefers {before after : List Candidate} {item other : Candidate}
    (split : rounds.chosen = before ++ item :: after)
    (occupied : item.domain ∈ (start.takeAll before).occupiedDomains) (present : other ∈ found)
    (alike : other.node.capacityClass = item.node.capacityClass) (fresh : other ∉ before) :
    other.domain ∈ (start.takeAll before).occupiedDomains := by
  have choices : (rounds.secondPool = ranked .bestEffort found ∨ rounds.secondPool = rounds.left) ∧
      (rounds.thirdPool = ranked .bestEffort found ∨ rounds.thirdPool = rounds.left) := by
    rcases rounds.pools with ⟨second, third⟩ | ⟨second, third⟩
    · exact ⟨.inl second, .inr third⟩
    · exact ⟨.inr second, .inl third⟩
  rw [chosen, List.append_assoc] at split
  rcases split_append split with ⟨rest, inFirst⟩ | ⟨past, rfl, later⟩
  · have member : item ∈ rounds.first := by
      rw [inFirst]
      simp
    have committable := rounds.first_committable item member
    exact rounds.committable.prefers before item rest inFirst occupied other
      (mem_ranked.mpr ⟨present, alike.trans committable⟩) fresh
  · have outside : other ∉ rounds.first := fun early => fresh (List.mem_append_left past early)
    rw [Picks.takeAll, List.foldl_append] at occupied ⊢
    rcases split_append later with ⟨rest, inSecond⟩ | ⟨past, rfl, inThird⟩
    · have member : item ∈ rounds.secondPool := by
        apply rounds.extra.perm.symm.subset
        rw [inSecond]
        simp
      exact rounds.extra.prefers past item rest inSecond occupied other
        (rounds.remains choices.1 member present alike outside)
        fun early => fresh (List.mem_append_right rounds.first early)
    · have member : item ∈ rounds.thirdPool := by
        apply rounds.last.perm.symm.subset
        rw [inThird]
        simp
      rw [List.foldl_append] at occupied ⊢
      exact rounds.last.prefers past item after inThird occupied other
        (rounds.remains choices.2 member present alike outside)
        fun early => fresh (List.mem_append_right rounds.first (List.mem_append_right _ early))

end Rounds

section Independence

variable {scoring : Scoring} {cid : Cid} {objectSize : Int} {nodes others : List OnlineNode}
  {currentNodeIds : List NodeId} {committable total : Int} {load : PlacementLoad}
  {policy : PlacementPolicy}

private theorem candidates_of_perm (same : nodes.Perm others) :
    (candidates scoring cid objectSize nodes currentNodeIds load policy).Perm
      (candidates scoring cid objectSize others currentNodeIds load policy) :=
  (same.filter _).map _

theorem candidates_score
    (ties : (nodes.map fun node => scoring.stableTiebreak cid node.nodeId).Nodup) :
    ∀ first ∈ candidates scoring cid objectSize nodes currentNodeIds load policy,
      ∀ second ∈ candidates scoring cid objectSize nodes currentNodeIds load policy,
        first.score = second.score → first = second := by
  intro first member second other same
  obtain ⟨one, inside, rfl⟩ := List.mem_map.mp member
  obtain ⟨two, within, rfl⟩ := List.mem_map.mp other
  simp only [nodeScore, List.cons.injEq, neg_inj] at same
  have alike := List.inj_on_of_nodup_map ties (List.mem_filter.mp inside).1
    (List.mem_filter.mp within).1 same.2.2.2.2.1
  rw [alike]

theorem choosePlacements_of_perm
    (ties : (nodes.map fun node => scoring.stableTiebreak cid node.nodeId).Nodup)
    (same : nodes.Perm others) :
    choosePlacements scoring cid objectSize nodes currentNodeIds committable total load policy =
      choosePlacements scoring cid objectSize others currentNodeIds committable total load
        policy := by
  have rank : ∀ capacityClass, ranked capacityClass
      (candidates scoring cid objectSize nodes currentNodeIds load policy) = ranked capacityClass
      (candidates scoring cid objectSize others currentNodeIds load policy) :=
    fun capacityClass => ranked_of_perm capacityClass (candidates_score ties)
      (candidates_of_perm same)
  have start : (startPicks nodes currentNodeIds).Alike (startPicks others currentNodeIds) :=
    ⟨rfl, rfl, fun domain => ((same.filter _).map _).mem_iff⟩
  cases valid : policy.validate with
  | error failure => rw [choosePlacements_invalid valid, choosePlacements_invalid valid]
  | ok checked =>
      rw [choosePlacements_eq valid, choosePlacements_eq valid, rank, rank]
      exact congrArg Except.ok (fillRest_alike (takeCommittable_alike _ _ _ start))

/-- The domains of the nodes with a current replica and of the earlier picks. -/
def occupiedBy (nodes : List OnlineNode) (currentNodeIds : List NodeId)
    (before : List OnlineNode) : List String :=
  (startPicks nodes currentNodeIds).occupiedDomains ++
    before.map fun node => nodeFailureDomain node.toNode

theorem choosePlacements_diverse {before after : List OnlineNode} {node other : OnlineNode}
    (distinct : (nodes.map fun node => node.nodeId).Nodup)
    (done : choosePlacements scoring cid objectSize nodes currentNodeIds committable total load
      policy = .ok (before ++ node :: after))
    (occupied : nodeFailureDomain node.toNode ∈ occupiedBy nodes currentNodeIds before)
    (present : other ∈ nodes) (free : placeable objectSize currentNodeIds load policy other)
    (alike : other.capacityClass = node.capacityClass) (fresh : other ∉ before) :
    nodeFailureDomain other.toNode ∈ occupiedBy nodes currentNodeIds before := by
  have valid : policy.validate = .ok () := by
    cases checked : policy.validate with
    | error failure =>
        rw [choosePlacements_invalid checked] at done
        cases done
    | ok passed => rfl
  obtain ⟨rounds, chosen⟩ := choosePlacements_rounds scoring cid objectSize currentNodeIds
    committable total load valid distinct
  have taken := Except.ok.inj (chosen.symm.trans done)
  obtain ⟨front, back, split, rfl, named⟩ := List.map_eq_append_iff.mp taken
  obtain ⟨item, rest, rfl, rfl, rfl⟩ := List.map_eq_cons_iff.mp named
  obtain ⟨candidate, listed, rfl⟩ := candidates_mem scoring cid present free
  have domains : ∀ domain, domain ∈
      ((startPicks nodes currentNodeIds).takeAll front).occupiedDomains ↔
        domain ∈ occupiedBy nodes currentNodeIds (front.map Candidate.node) := by
    intro domain
    rw [Picks.takeAll_occupied, occupiedBy, List.mem_append, List.map_map]
    rfl
  apply (domains _).mp
  exact rounds.prefers split ((domains _).mpr occupied) listed alike
    fun early => fresh (List.mem_map_of_mem early)

/-- The order of the nodes does not matter, and a domain is used again only where the pool has no
other. -/
theorem choosePlacements_stable (scoring : Scoring) (cid : Cid) (objectSize : Int)
    (nodes : List OnlineNode) (currentNodeIds : List NodeId) (committable total : Int)
    (load : PlacementLoad) (policy : PlacementPolicy)
    (distinct : (nodes.map fun node => node.nodeId).Nodup)
    (ties : (nodes.map fun node => scoring.stableTiebreak cid node.nodeId).Nodup) :
    (∀ others, nodes.Perm others →
      choosePlacements scoring cid objectSize others currentNodeIds committable total load policy =
        choosePlacements scoring cid objectSize nodes currentNodeIds committable total load
          policy) ∧
      ∀ before node after,
        choosePlacements scoring cid objectSize nodes currentNodeIds committable total load policy =
          .ok (before ++ node :: after) →
        nodeFailureDomain node.toNode ∈ occupiedBy nodes currentNodeIds before →
        ∀ other ∈ nodes, placeable objectSize currentNodeIds load policy other →
          other.capacityClass = node.capacityClass → other ∉ before →
          nodeFailureDomain other.toNode ∈ occupiedBy nodes currentNodeIds before :=
  ⟨fun _ same => (choosePlacements_of_perm ties same).symm,
    fun _ _ _ done occupied _ present free alike fresh =>
      choosePlacements_diverse distinct done occupied present free alike fresh⟩

def spreadNodes : List OnlineNode := sampleNodes ++ [sampleOnline "n5" "rack-c" .committable]

/-- After `n1` its neighbour is not taken before the node of another domain. -/
theorem choosePlacements_stable_sample :
    choosePlacements sampleScoring "bafy1" 10 spreadNodes.reverse [] 0 0 sampleLoad {} =
      choosePlacements sampleScoring "bafy1" 10 spreadNodes [] 0 0 sampleLoad {} ∧
    ∀ after, choosePlacements sampleScoring "bafy1" 10 spreadNodes [] 0 0 sampleLoad {} ≠
      .ok ([sampleOnline "n1" "rack-a" .committable] ++
        sampleOnline "n2" "rack-a" .committable :: after) := by
  obtain ⟨order, diverse⟩ := choosePlacements_stable sampleScoring "bafy1" 10 spreadNodes [] 0 0
    sampleLoad {} (by decide) (by decide)
  refine ⟨order _ (List.reverse_perm _).symm, fun after done => ?_⟩
  have occupied := diverse _ _ _ done (by decide) (sampleOnline "n5" "rack-c" .committable)
    (by decide) (by decide) rfl (by decide)
  exact absurd occupied (by decide)

end Independence

end HashBurst.Replication
