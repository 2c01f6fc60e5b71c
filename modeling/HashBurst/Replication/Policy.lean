import Mathlib.Data.List.Infix
import Mathlib.Data.List.Lex
import Mathlib.Data.List.Sort
import HashBurst.Replication.Schema

/-! `hb_replication_policy.py`: which nodes get the missing copies of an object. -/

namespace HashBurst.Replication

open Lib

structure PlacementPolicy where
  replicationN : Int := 3
  committableM : Int := 2
  preferEdgeForExtra : Bool := true
  safetyMarginBytes : Int := 512 * 1024 * 1024
  deriving DecidableEq, Repr

def PlacementPolicy.validate (policy : PlacementPolicy) : Except PyError Unit :=
  if policy.replicationN < 1 then .error (.valueError "replication_n must be >= 1")
  else if policy.committableM < 0 then .error (.valueError "committable_m must be >= 0")
  else if policy.committableM > policy.replicationN then
    .error (.valueError "committable_m cannot exceed replication_n")
  else .ok ()

/-- What a score takes from outside the repository: the 64 bits of SHA-256 that break ties,
and `int(a / b)`, which goes through a float. -/
structure Scoring where
  stableTiebreak : Cid → NodeId → Int
  intQuotient : Int → Int → Int

/-- A row of `nodes` with the key `online` that the controller adds. -/
structure OnlineNode extends Node where
  online : Bool
  deriving DecidableEq, Repr

def nodeFailureDomain (node : Node) : String :=
  let direct := Py.strip node.failureDomain
  if direct ≠ "" then direct
  else
    let parts := [Py.strip node.provider, Py.strip node.region, Py.strip node.rack]
    Py.orElse ("/".intercalate (parts.filter (· ≠ ""))) ("node:" ++ node.nodeId)

def effectiveFreeBytes (node : Node) (controllerReservedBytes safetyMarginBytes : Int) : Int :=
  if node.totalBytes ≤ 0 then 0
  else max 0 (node.totalBytes - node.usedBytes - max 0 controllerReservedBytes -
    max 0 safetyMarginBytes)

/-- The components of the score; scores compare lexicographically. -/
def nodeScore (scoring : Scoring) (cid : Cid) (node : Node)
    (controllerReservedBytes safetyMarginBytes desiredReplicaCount assignedBytes : Int) :
    List Int :=
  let total := max 1 node.totalBytes
  let free := effectiveFreeBytes node controllerReservedBytes safetyMarginBytes
  let loadPenalty := desiredReplicaCount * 1000 + scoring.intQuotient assignedBytes (1024 * 1024)
  [scoring.intQuotient (free * 1000000) total, node.stabilityScore, -node.failurePenalty,
    -loadPenalty, -scoring.stableTiebreak cid node.nodeId]

def eligible (node : OnlineNode) (objectSize reservedBytes : Int) (policy : PlacementPolicy) :
    Bool :=
  node.enabled && node.online &&
    (node.capacityClass = .committable || node.capacityClass = .bestEffort) &&
    effectiveFreeBytes node.toNode reservedBytes policy.safetyMarginBytes ≥ objectSize

structure Candidate where
  score : List Int
  node : OnlineNode
  deriving DecidableEq, Repr

def Candidate.domain (item : Candidate) : String := nodeFailureDomain item.node.toNode

def Candidate.inFreshDomain (occupiedDomains : List String) (item : Candidate) : Bool :=
  item.domain ∉ occupiedDomains

/-- The first candidate in a domain of its own, or the first one. -/
def popDomainPreferred (pool : List Candidate) (occupiedDomains : List String) :
    Option (Candidate × List Candidate) :=
  match pool.find? (Candidate.inFreshDomain occupiedDomains) with
  | some item => some (item, pool.eraseP (Candidate.inFreshDomain occupiedDomains))
  | none => pool.head?.map fun item => (item, pool.tail)

/-- The lists that `choose_placements` grows. -/
structure Picks where
  chosen : List OnlineNode := []
  excluded : List NodeId
  occupiedDomains : List String

def Picks.take (picks : Picks) (item : Candidate) : Picks where
  chosen := picks.chosen ++ [item.node]
  excluded := item.node.nodeId :: picks.excluded
  occupiedDomains := item.domain :: picks.occupiedDomains

/-- `while need_committable > 0 and committable`; the last number is `need_total`. -/
def takeCommittable : Nat → List Candidate → Picks → Nat → List Candidate × Picks × Nat
  | 0, pool, picks, needTotal => (pool, picks, needTotal)
  | needCommittable + 1, pool, picks, needTotal =>
      match popDomainPreferred pool picks.occupiedDomains with
      | none => (pool, picks, needTotal)
      | some (item, rest) => takeCommittable needCommittable rest (picks.take item) (needTotal - 1)

/-- `while need_total > 0 and pool`; each round pops a candidate, so the first argument,
the length of the pool, bounds the rounds. -/
def takeAny : Nat → List Candidate → Picks → Nat → Picks × Nat
  | 0, _, picks, needTotal => (picks, needTotal)
  | rounds + 1, pool, picks, needTotal =>
      if needTotal = 0 then (picks, needTotal)
      else
        match popDomainPreferred pool picks.occupiedDomains with
        | none => (picks, needTotal)
        | some (item, rest) =>
            if item.node.nodeId ∈ picks.excluded then takeAny rounds rest picks needTotal
            else takeAny rounds rest (picks.take item) (needTotal - 1)

structure PlacementLoad where
  reservedBytes : NodeId → Int
  desiredCount : NodeId → Int
  assignedBytes : NodeId → Int

def candidates (scoring : Scoring) (cid : Cid) (objectSize : Int) (nodes : List OnlineNode)
    (currentNodeIds : List NodeId) (load : PlacementLoad) (policy : PlacementPolicy) :
    List Candidate :=
  (nodes.filter fun node =>
    node.nodeId ≠ "" && node.nodeId ∉ currentNodeIds &&
      eligible node objectSize (load.reservedBytes node.nodeId) policy).map fun node =>
    { node
      score := nodeScore scoring cid node.toNode (load.reservedBytes node.nodeId)
        policy.safetyMarginBytes (load.desiredCount node.nodeId) (load.assignedBytes node.nodeId) }

/-- `sorted(…, reverse=True)` of one class: descending and stable. -/
def ranked (capacityClass : CapacityClass) (found : List Candidate) : List Candidate :=
  (found.filter fun item => item.node.capacityClass = capacityClass).insertionSort
    fun first second => second.score ≤ first.score

def choosePlacements (scoring : Scoring) (cid : Cid) (objectSize : Int) (nodes : List OnlineNode)
    (currentNodeIds : List NodeId) (currentCommittableCount currentTotalCount : Int)
    (load : PlacementLoad) (policy : PlacementPolicy) : Except PyError (List OnlineNode) := do
  policy.validate
  let start : Picks :=
    { excluded := currentNodeIds
      occupiedDomains := (nodes.filter fun node => node.nodeId ∈ currentNodeIds).map
        fun node => nodeFailureDomain node.toNode }
  let found := candidates scoring cid objectSize nodes currentNodeIds load policy
  let edge := ranked .bestEffort found
  let needCommittable := (policy.committableM - currentCommittableCount).toNat
  let needTotal := (policy.replicationN - currentTotalCount).toNat
  let (committable, picks, needTotal) :=
    takeCommittable needCommittable (ranked .committable found) start needTotal
  let (first, second) :=
    if policy.preferEdgeForExtra then (edge, committable) else (committable, edge)
  let (picks, needTotal) := takeAny first.length first picks needTotal
  let (picks, _) := takeAny second.length second picks needTotal
  return picks.chosen

section Pools

theorem popDomainPreferred_eq_none {pool : List Candidate} {occupied : List String} :
    popDomainPreferred pool occupied = none ↔ pool = [] := by
  unfold popDomainPreferred
  cases pool with
  | nil => simp
  | cons head tail =>
      cases List.find? (Candidate.inFreshDomain occupied) (head :: tail) with
      | none => simp
      | some item => simp

theorem popDomainPreferred_mem {pool rest : List Candidate} {occupied : List String}
    {item : Candidate} (popped : popDomainPreferred pool occupied = some (item, rest)) :
    item ∈ pool := by
  unfold popDomainPreferred at popped
  cases found : pool.find? (Candidate.inFreshDomain occupied) with
  | none =>
      simp only [found, Option.map_eq_some_iff, Prod.mk.injEq] at popped
      obtain ⟨head, first, rfl, rfl⟩ := popped
      exact List.mem_of_head? first
  | some kept =>
      simp only [found, Option.some.injEq, Prod.mk.injEq] at popped
      obtain ⟨rfl, rfl⟩ := popped
      exact List.mem_of_find?_eq_some found

theorem popDomainPreferred_rest {pool rest : List Candidate} {occupied : List String}
    {item : Candidate} (popped : popDomainPreferred pool occupied = some (item, rest)) :
    rest ⊆ pool := by
  unfold popDomainPreferred at popped
  cases found : pool.find? (Candidate.inFreshDomain occupied) with
  | none =>
      simp only [found, Option.map_eq_some_iff, Prod.mk.injEq] at popped
      obtain ⟨head, first, rfl, rfl⟩ := popped
      exact List.tail_sublist pool |>.subset
  | some kept =>
      simp only [found, Option.some.injEq, Prod.mk.injEq] at popped
      obtain ⟨rfl, rfl⟩ := popped
      exact List.eraseP_subset

theorem mem_ranked {capacityClass : CapacityClass} {found : List Candidate} {item : Candidate} :
    item ∈ ranked capacityClass found ↔ item ∈ found ∧ item.node.capacityClass = capacityClass := by
  unfold ranked
  rw [List.mem_insertionSort, List.mem_filter]
  simp

private theorem ranked_eq_nil {capacityClass : CapacityClass} {found : List Candidate} :
    ranked capacityClass found = [] ↔
      ∀ item ∈ found, item.node.capacityClass ≠ capacityClass := by
  rw [List.eq_nil_iff_forall_not_mem]
  simp only [mem_ranked, not_and]

theorem takeCommittable_chosen (need : Nat) (pool : List Candidate) (picks : Picks) (total : Nat) :
    picks.chosen <+: (takeCommittable need pool picks total).2.1.chosen := by
  induction need generalizing pool picks total with
  | zero => exact List.prefix_rfl
  | succ need ih =>
      rw [takeCommittable]
      cases popDomainPreferred pool picks.occupiedDomains with
      | none => exact List.prefix_rfl
      | some popped =>
          have later := ih popped.2 (picks.take popped.1) (total - 1)
          exact (List.prefix_append picks.chosen [popped.1.node]).trans later

theorem takeAny_chosen (rounds : Nat) (pool : List Candidate) (picks : Picks) (total : Nat) :
    picks.chosen <+: (takeAny rounds pool picks total).1.chosen := by
  induction rounds generalizing pool picks total with
  | zero => exact List.prefix_rfl
  | succ rounds ih =>
      rw [takeAny]
      by_cases enough : total = 0
      · rw [if_pos enough]
      · rw [if_neg enough]
        cases popDomainPreferred pool picks.occupiedDomains with
        | none => exact List.prefix_rfl
        | some popped =>
            dsimp only
            by_cases excluded : popped.1.node.nodeId ∈ picks.excluded
            · rw [if_pos excluded]
              exact ih _ _ _
            · rw [if_neg excluded]
              have later := ih popped.2 (picks.take popped.1) (total - 1)
              exact (List.prefix_append picks.chosen [popped.1.node]).trans later

theorem mem_take {picks : Picks} {item : Candidate} {node : OnlineNode}
    (member : node ∈ (picks.take item).chosen) : node ∈ picks.chosen ∨ node = item.node := by
  simpa [Picks.take] using member

/-- The first loop takes its nodes from its pool and leaves a part of the pool. -/
theorem takeCommittable_mem (need : Nat) (pool : List Candidate) (picks : Picks) (total : Nat) :
    (takeCommittable need pool picks total).1 ⊆ pool ∧
      ∀ node ∈ (takeCommittable need pool picks total).2.1.chosen,
        node ∈ picks.chosen ∨ ∃ item ∈ pool, item.node = node := by
  induction need generalizing pool picks total with
  | zero => exact ⟨List.Subset.refl pool, fun node member => .inl member⟩
  | succ need ih =>
      rw [takeCommittable]
      cases popped : popDomainPreferred pool picks.occupiedDomains with
      | none => exact ⟨List.Subset.refl pool, fun node member => .inl member⟩
      | some found =>
          have later := ih found.2 (picks.take found.1) (total - 1)
          have shrunk := popDomainPreferred_rest popped
          refine ⟨List.Subset.trans later.1 shrunk, fun node member => ?_⟩
          rcases later.2 node member with taken | ⟨item, present, named⟩
          · rcases mem_take taken with old | rfl
            · exact .inl old
            · exact .inr ⟨found.1, popDomainPreferred_mem popped, rfl⟩
          · exact .inr ⟨item, shrunk present, named⟩

theorem takeAny_mem (rounds : Nat) (pool : List Candidate) (picks : Picks) (total : Nat) :
    ∀ node ∈ (takeAny rounds pool picks total).1.chosen,
      node ∈ picks.chosen ∨ ∃ item ∈ pool, item.node = node := by
  induction rounds generalizing pool picks total with
  | zero => exact fun node member => .inl member
  | succ rounds ih =>
      rw [takeAny]
      by_cases enough : total = 0
      · rw [if_pos enough]
        exact fun node member => .inl member
      · rw [if_neg enough]
        cases popped : popDomainPreferred pool picks.occupiedDomains with
        | none => exact fun node member => .inl member
        | some found =>
            have shrunk := popDomainPreferred_rest popped
            intro node member
            dsimp only at member
            by_cases excluded : found.1.node.nodeId ∈ picks.excluded
            · rw [if_pos excluded] at member
              rcases ih _ _ _ node member with old | ⟨item, present, named⟩
              · exact .inl old
              · exact .inr ⟨item, shrunk present, named⟩
            · rw [if_neg excluded] at member
              rcases ih _ _ _ node member with taken | ⟨item, present, named⟩
              · rcases mem_take taken with old | rfl
                · exact .inl old
                · exact .inr ⟨found.1, popDomainPreferred_mem popped, rfl⟩
              · exact .inr ⟨item, shrunk present, named⟩

/-- The first loop picks nothing only where it is not entered, and then changes nothing. -/
theorem takeCommittable_idle {need total : Nat} {pool : List Candidate} {picks : Picks} :
    (need = 0 ∨ pool = [] → takeCommittable need pool picks total = (pool, picks, total)) ∧
      (¬(need = 0 ∨ pool = []) →
        picks.chosen.length < (takeCommittable need pool picks total).2.1.chosen.length) := by
  cases need with
  | zero => simp [takeCommittable]
  | succ need =>
      rw [takeCommittable]
      cases popped : popDomainPreferred pool picks.occupiedDomains with
      | none =>
          have empty := popDomainPreferred_eq_none.mp popped
          simp [empty]
      | some found =>
          have filled : pool ≠ [] := fun empty => by
            rw [popDomainPreferred_eq_none.mpr empty] at popped
            cases popped
          have grown := (takeCommittable_chosen need found.2 (picks.take found.1)
            (total - 1)).length_le
          simp only [Picks.take, List.length_append, List.length_singleton] at grown
          refine ⟨fun idle => absurd idle (by simp [filled]), fun _ => ?_⟩
          exact Nat.lt_of_succ_le grown

theorem takeAny_idle {rounds total : Nat} {pool : List Candidate} {picks : Picks}
    (enough : pool.length ≤ rounds)
    (clear : ∀ item ∈ pool, item.node.nodeId ∉ picks.excluded) :
    (total = 0 ∨ pool = [] → takeAny rounds pool picks total = (picks, total)) ∧
      (¬(total = 0 ∨ pool = []) →
        picks.chosen.length < (takeAny rounds pool picks total).1.chosen.length) := by
  cases rounds with
  | zero =>
      have empty : pool = [] := List.eq_nil_of_length_eq_zero (by omega)
      simp [takeAny, empty]
  | succ rounds =>
      rw [takeAny]
      by_cases done : total = 0
      · simp [done]
      · rw [if_neg done]
        cases popped : popDomainPreferred pool picks.occupiedDomains with
        | none =>
            have empty := popDomainPreferred_eq_none.mp popped
            simp [empty]
        | some found =>
            have filled : pool ≠ [] := fun empty => by
              rw [popDomainPreferred_eq_none.mpr empty] at popped
              cases popped
            have kept := clear found.1 (popDomainPreferred_mem popped)
            have grown := (takeAny_chosen rounds found.2 (picks.take found.1)
              (total - 1)).length_le
            simp only [Picks.take, List.length_append, List.length_singleton] at grown
            dsimp only
            rw [if_neg kept]
            refine ⟨fun idle => absurd idle (by simp [done, filled]), fun _ => ?_⟩
            exact Nat.lt_of_succ_le grown

/-- The two passes for the remaining copies pick nothing only where none is missing or both
pools are empty. -/
theorem takeAny_twice_eq_nil {first second : List Candidate} {picks : Picks} {total : Nat}
    (unpicked : picks.chosen = [])
    (clearFirst : ∀ item ∈ first, item.node.nodeId ∉ picks.excluded)
    (clearSecond : ∀ item ∈ second, item.node.nodeId ∉ picks.excluded) :
    (takeAny second.length second (takeAny first.length first picks total).1
        (takeAny first.length first picks total).2).1.chosen = [] ↔
      total = 0 ∨ (first = [] ∧ second = []) := by
  by_cases idle : total = 0 ∨ first = []
  · rw [(takeAny_idle (Nat.le_refl _) clearFirst).1 idle]
    by_cases settled : total = 0 ∨ second = []
    · rw [(takeAny_idle (Nat.le_refl _) clearSecond).1 settled]
      simp only [unpicked, true_iff]
      tauto
    · have grown := (takeAny_idle (Nat.le_refl _) clearSecond).2 settled
      have filled := List.ne_nil_of_length_pos (Nat.lt_of_le_of_lt (Nat.zero_le _) grown)
      simp only [filled, false_iff]
      tauto
  · have grown := (takeAny_idle (Nat.le_refl _) clearFirst).2 idle
    have kept := (takeAny_chosen second.length second (takeAny first.length first picks total).1
      (takeAny first.length first picks total).2).length_le
    have filled := List.ne_nil_of_length_pos
      (Nat.lt_of_le_of_lt (Nat.zero_le _) (Nat.lt_of_lt_of_le grown kept))
    simp only [filled, false_iff]
    tauto

end Pools

section Placements

variable {scoring : Scoring} {cid : Cid} {objectSize : Int} {nodes : List OnlineNode}
  {currentNodeIds : List NodeId} {committable total : Int} {load : PlacementLoad}
  {policy : PlacementPolicy}

/-- `node` may take one more copy of the object. -/
def placeable (objectSize : Int) (currentNodeIds : List NodeId) (load : PlacementLoad)
    (policy : PlacementPolicy) (node : OnlineNode) : Bool :=
  node.nodeId ≠ "" && node.nodeId ∉ currentNodeIds &&
    eligible node objectSize (load.reservedBytes node.nodeId) policy

theorem mem_candidates {item : Candidate}
    (member : item ∈ candidates scoring cid objectSize nodes currentNodeIds load policy) :
    item.node ∈ nodes ∧ placeable objectSize currentNodeIds load policy item.node := by
  obtain ⟨node, present, rfl⟩ := List.mem_map.mp member
  exact List.mem_filter.mp present

variable (scoring cid) in
theorem candidates_mem {node : OnlineNode} (present : node ∈ nodes)
    (free : placeable objectSize currentNodeIds load policy node) :
    ∃ item ∈ candidates scoring cid objectSize nodes currentNodeIds load policy,
      item.node = node :=
  ⟨_, List.mem_map_of_mem (List.mem_filter.mpr ⟨present, free⟩), rfl⟩

theorem placeable_class {node : OnlineNode}
    (free : placeable objectSize currentNodeIds load policy node) :
    node.capacityClass = .committable ∨ node.capacityClass = .bestEffort := by
  simp only [placeable, eligible, Bool.and_eq_true, Bool.or_eq_true, decide_eq_true_eq] at free
  exact free.2.1.2

variable (scoring cid) in
theorem ranked_candidates_eq_nil {capacityClass : CapacityClass} :
    ranked capacityClass (candidates scoring cid objectSize nodes currentNodeIds load policy) = [] ↔
      ∀ node ∈ nodes, placeable objectSize currentNodeIds load policy node →
        node.capacityClass ≠ capacityClass := by
  rw [ranked_eq_nil]
  constructor
  · intro clear node present free
    obtain ⟨item, member, rfl⟩ := candidates_mem scoring cid present free
    exact clear item member
  · intro clear item member
    have found := mem_candidates member
    exact clear item.node found.1 found.2

theorem ranked_clear {capacityClass : CapacityClass} :
    ∀ item ∈ ranked capacityClass
      (candidates scoring cid objectSize nodes currentNodeIds load policy),
      item.node.nodeId ∉ currentNodeIds := by
  intro item member
  have free := (mem_candidates (mem_ranked.mp member).1).2
  simp only [placeable, Bool.and_eq_true, decide_eq_true_eq] at free
  exact free.1.2

theorem choosePlacements_valid (valid : policy.validate = .ok ()) : ∃ chosen,
    choosePlacements scoring cid objectSize nodes currentNodeIds committable total load policy =
      .ok chosen := by
  unfold choosePlacements
  rw [valid]
  exact ⟨_, rfl⟩

theorem choosePlacements_invalid {failure : PyError} (invalid : policy.validate = .error failure) :
    choosePlacements scoring cid objectSize nodes currentNodeIds committable total load policy =
      .error failure := by
  unfold choosePlacements
  rw [invalid]
  rfl

/-- Every chosen node is one of the nodes and may take the copy. -/
theorem choosePlacements_mem {chosen : List OnlineNode}
    (done : choosePlacements scoring cid objectSize nodes currentNodeIds committable total load
      policy = .ok chosen) :
    ∀ node ∈ chosen, node ∈ nodes ∧ placeable objectSize currentNodeIds load policy node := by
  unfold choosePlacements at done
  cases valid : policy.validate with
  | error failure => simp [valid, bind, Except.bind] at done
  | ok checked =>
      simp only [valid, bind, Except.bind, pure, Except.pure, Except.ok.injEq] at done
      subst done
      intro node member
      have ranking : ∀ capacityClass, ∀ item ∈ ranked capacityClass
          (candidates scoring cid objectSize nodes currentNodeIds load policy),
          item.node ∈ nodes ∧ placeable objectSize currentNodeIds load policy item.node :=
        fun _ item listed => mem_candidates (mem_ranked.mp listed).1
      have first := takeCommittable_mem (policy.committableM - committable).toNat
        (ranked .committable (candidates scoring cid objectSize nodes currentNodeIds load policy))
        { excluded := currentNodeIds
          occupiedDomains := (nodes.filter fun node => node.nodeId ∈ currentNodeIds).map
            fun node => nodeFailureDomain node.toNode }
        (policy.replicationN - total).toNat
      have base : ∀ node ∈ (takeCommittable (policy.committableM - committable).toNat
          (ranked .committable (candidates scoring cid objectSize nodes currentNodeIds load policy))
          { excluded := currentNodeIds
            occupiedDomains := (nodes.filter fun node => node.nodeId ∈ currentNodeIds).map
              fun node => nodeFailureDomain node.toNode }
          (policy.replicationN - total).toNat).2.1.chosen,
          node ∈ nodes ∧ placeable objectSize currentNodeIds load policy node := by
        intro node taken
        rcases first.2 node taken with none_yet | ⟨item, listed, rfl⟩
        · simp at none_yet
        · exact ranking _ item listed
      cases prefer : policy.preferEdgeForExtra with
      | true =>
          simp only [prefer, if_true] at member
          rcases takeAny_mem _ _ _ _ node member with taken | ⟨item, listed, rfl⟩
          · rcases takeAny_mem _ _ _ _ node taken with older | ⟨item, listed, rfl⟩
            · exact base node older
            · exact ranking _ item listed
          · exact ranking _ item (first.1 listed)
      | false =>
          simp only [prefer, Bool.false_eq_true, if_false] at member
          rcases takeAny_mem _ _ _ _ node member with taken | ⟨item, listed, rfl⟩
          · rcases takeAny_mem _ _ _ _ node taken with older | ⟨item, listed, rfl⟩
            · exact base node older
            · exact ranking _ item (first.1 listed)
          · exact ranking _ item listed

/-- Exactly when the policy is valid and asks for nothing that a node could take. -/
theorem choosePlacements_eq_nil :
    choosePlacements scoring cid objectSize nodes currentNodeIds committable total load policy =
        .ok [] ↔
      policy.validate = .ok () ∧
      (policy.committableM ≤ committable ∨ ∀ node ∈ nodes,
        placeable objectSize currentNodeIds load policy node → node.capacityClass ≠ .committable) ∧
      (policy.replicationN ≤ total ∨ ∀ node ∈ nodes,
        ¬placeable objectSize currentNodeIds load policy node) := by
  have noneLeft : (∀ node ∈ nodes, ¬placeable objectSize currentNodeIds load policy node) ↔
      ranked .bestEffort (candidates scoring cid objectSize nodes currentNodeIds load policy) = [] ∧
      ranked .committable
        (candidates scoring cid objectSize nodes currentNodeIds load policy) = [] := by
    rw [ranked_candidates_eq_nil, ranked_candidates_eq_nil]
    constructor
    · intro clear
      exact ⟨fun node present free => absurd free (clear node present),
        fun node present free => absurd free (clear node present)⟩
    · rintro ⟨edge, committable⟩ node present free
      rcases placeable_class free with first | second
      · exact committable node present free first
      · exact edge node present free second
  rw [noneLeft, ← ranked_candidates_eq_nil scoring cid]
  unfold choosePlacements
  cases valid : policy.validate with
  | error failure => simp [bind, Except.bind]
  | ok checked =>
      simp only [bind, Except.bind, pure, Except.pure, true_and, Except.ok.injEq]
      set found := candidates scoring cid objectSize nodes currentNodeIds load policy
      have committableNeed : policy.committableM ≤ committable ↔
          (policy.committableM - committable).toNat = 0 := by omega
      have totalNeed : policy.replicationN ≤ total ↔
          (policy.replicationN - total).toNat = 0 := by omega
      rw [committableNeed, totalNeed]
      by_cases idle : (policy.committableM - committable).toNat = 0 ∨ ranked .committable found = []
      · rw [takeCommittable_idle.1 idle]
        simp only [idle, true_and]
        cases policy.preferEdgeForExtra with
        | true =>
            exact takeAny_twice_eq_nil rfl ranked_clear ranked_clear
        | false =>
            rw [and_comm (a := ranked .bestEffort found = [])]
            exact takeAny_twice_eq_nil rfl ranked_clear ranked_clear
      · simp only [idle, false_and, iff_false]
        apply List.ne_nil_of_length_pos
        apply Nat.lt_of_le_of_lt (Nat.zero_le _)
        apply Nat.lt_of_lt_of_le (takeCommittable_idle.2 idle)
        exact (List.IsPrefix.trans (takeAny_chosen _ _ _ _) (takeAny_chosen _ _ _ _)).length_le

end Placements

end HashBurst.Replication
