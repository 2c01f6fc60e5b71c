import Mathlib.Algebra.Order.Ring.Rat
import Mathlib.Data.List.Dedup
import Mathlib.Data.List.Perm.Subperm
import Mathlib.Data.List.TakeWhile
import Mathlib.Tactic.Linarith

namespace Lib

structure TtlCache (κ : Type) where
  window : ℚ
  limit : Nat
  entries : List (κ × ℚ) := []

namespace TtlCache

variable {κ : Type}

/-- An entry with the clock reading it was made with, and the time at which it was made. -/
structure Entry (κ : Type) where
  key : κ
  seen : ℚ
  time : ℚ
  deriving DecidableEq

def evictExpired (cache : TtlCache κ) (now : ℚ) : TtlCache κ :=
  { cache with entries := cache.entries.dropWhile fun entry => entry.2 ≤ now - cache.window }

/-- A new entry; as long as there are too many, the oldest one leaves. -/
def insert (cache : TtlCache κ) (key : κ) (now : ℚ) : TtlCache κ :=
  let grown := cache.entries ++ [(key, now)]
  { cache with entries := grown.drop (grown.length - cache.limit) }

variable [DecidableEq κ]

/-- Whether the key is new; if so it is added. -/
def checkAndAdd (cache : TtlCache κ) (key : κ) (now : ℚ) : TtlCache κ × Bool :=
  let kept := cache.evictExpired now
  if key ∈ kept.entries.map Prod.fst then (kept, false) else (kept.insert key now, true)

/-- How many other keys came after an entry and within one window of it. -/
def crowd (window : ℚ) (entry : Entry κ) (later : List (Entry κ)) : Nat :=
  ((later.filter fun other => other.key ≠ entry.key ∧ other.time < entry.time + window).map
    Entry.key).dedup.length

/-- The entries that are gone were too old, or there was a crowd after them. -/
def Settled (window : ℚ) (limit : Nat) (now : ℚ) : List (Entry κ) → List (Entry κ) → Prop
  | [], _ => True
  | entry :: gone, kept =>
      (entry.seen + window ≤ now ∨ limit ≤ crowd window entry (gone ++ kept)) ∧
        Settled window limit now gone kept

/-- Which entries of the record the cache still has, and why the others are gone. -/
structure Accounts (cache : TtlCache κ) (record : List (Entry κ)) (now : ℚ) : Prop where
  made : ∀ entry ∈ record, entry.seen ≤ entry.time ∧ entry.time ≤ now
  kept : ∃ gone kept, record = gone ++ kept ∧
    cache.entries = kept.map (fun entry => (entry.key, entry.seen)) ∧
    (kept.map Entry.key).Nodup ∧ Settled cache.window cache.limit now gone kept

section Crowds

variable {window : ℚ} {limit : Nat} {entry : Entry κ} {later more gone kept : List (Entry κ)}
  {now final : ℚ}

theorem crowd_mono : crowd window entry later ≤ crowd window entry (later ++ more) := by
  unfold crowd
  have part : ((later.filter fun other => other.key ≠ entry.key ∧
      other.time < entry.time + window).map Entry.key).dedup ⊆
      (((later ++ more).filter fun other => other.key ≠ entry.key ∧
        other.time < entry.time + window).map Entry.key).dedup := by
    intro key member
    rw [List.mem_dedup, List.filter_append, List.map_append]
    exact List.mem_append_left _ (List.mem_dedup.mp member)
  exact (List.subperm_of_subset (List.nodup_dedup _) part).length_le

theorem Settled.append {last : List (Entry κ)} (first : Settled window limit now gone (later ++ last))
    (second : Settled window limit now later last) :
    Settled window limit now (gone ++ later) last := by
  induction gone with
  | nil => exact second
  | cons head tail ih =>
      refine ⟨?_, ih first.2⟩
      have own := first.1
      rw [← List.append_assoc] at own
      exact own

theorem Settled.mono (settled : Settled window limit now gone kept) (time : now ≤ final) :
    Settled window limit final gone (kept ++ more) := by
  induction gone with
  | nil => trivial
  | cons head tail ih =>
      refine ⟨?_, ih settled.2⟩
      rcases settled.1 with old | crowded
      · exact .inl (old.trans time)
      · rw [← List.append_assoc]
        exact .inr (crowded.trans crowd_mono)

theorem Settled.after (settled : Settled window limit now (gone ++ entry :: later) kept) :
    entry.seen + window ≤ now ∨ limit ≤ crowd window entry (later ++ kept) := by
  induction gone with
  | nil => exact settled.1
  | cons head tail ih => exact ih settled.2

private theorem settled_expired (old : ∀ entry ∈ gone, entry.seen + window ≤ now) :
    Settled window limit now gone kept := by
  induction gone with
  | nil => trivial
  | cons head tail ih =>
      exact ⟨.inl (old head List.mem_cons_self),
        ih fun entry member => old entry (List.mem_cons_of_mem _ member)⟩

/-- Where many entries with other keys follow, the entry is old or they are a crowd. -/
theorem old_or_crowd (made : ∀ other ∈ entry :: later, other.seen ≤ other.time ∧ other.time ≤ now)
    (distinct : ((entry :: later).map Entry.key).Nodup) (many : limit ≤ later.length) :
    entry.seen + window ≤ now ∨ limit ≤ crowd window entry later := by
  rw [List.map_cons, List.nodup_cons] at distinct
  by_cases soon : ∀ other ∈ later, other.time < entry.time + window
  · have whole : (later.filter fun other => other.key ≠ entry.key ∧
        other.time < entry.time + window) = later := by
      apply List.filter_eq_self.mpr
      intro other member
      have apart : other.key ≠ entry.key := by
        intro same
        exact distinct.1 (same ▸ List.mem_map_of_mem member)
      exact decide_eq_true ⟨apart, soon other member⟩
    right
    rw [crowd, whole, distinct.2.dedup, List.length_map]
    exact many
  · left
    push Not at soon
    obtain ⟨other, member, late⟩ := soon
    have own := (made entry List.mem_cons_self).1
    have others := (made other (List.mem_cons_of_mem _ member)).2
    linarith

theorem settled_take (entries : List (Entry κ)) (count : Nat)
    (made : ∀ entry ∈ entries, entry.seen ≤ entry.time ∧ entry.time ≤ now)
    (distinct : (entries.map Entry.key).Nodup) (many : count ≤ entries.length - limit) :
    Settled window limit now (entries.take count) (entries.drop count) := by
  induction entries generalizing count with
  | nil => simp [Settled]
  | cons head tail ih =>
      cases count with
      | zero => trivial
      | succ count =>
          rw [List.length_cons] at many
          rw [List.take_succ_cons, List.drop_succ_cons]
          refine ⟨?_, ?_⟩
          · rw [List.take_append_drop]
            exact old_or_crowd made distinct (by omega)
          · rw [List.map_cons, List.nodup_cons] at distinct
            exact ih count (fun entry member => made entry (List.mem_cons_of_mem _ member))
              distinct.2 (by omega)

end Crowds

section Steps

variable {cache : TtlCache κ} {record : List (Entry κ)} {key : κ} {now clock time : ℚ}

theorem accounts_empty (window : ℚ) (limit : Nat) (now : ℚ) :
    ({ window, limit } : TtlCache κ).Accounts [] now where
  made := by simp
  kept := ⟨[], [], rfl, rfl, List.nodup_nil, trivial⟩

theorem Accounts.later (accounts : cache.Accounts record now) (later : now ≤ time) :
    cache.Accounts record time where
  made entry member := by
    obtain ⟨seen, made⟩ := accounts.made entry member
    exact ⟨seen, made.trans later⟩
  kept := by
    obtain ⟨gone, kept, split, held, distinct, settled⟩ := accounts.kept
    refine ⟨gone, kept, split, held, distinct, ?_⟩
    have still : Settled cache.window cache.limit time gone (kept ++ []) := settled.mono later
    rwa [List.append_nil] at still

theorem Accounts.evictExpired (accounts : cache.Accounts record time) (read : clock ≤ time) :
    (cache.evictExpired clock).Accounts record time where
  made := accounts.made
  kept := by
    obtain ⟨gone, kept, split, held, distinct, settled⟩ := accounts.kept
    let expired : Entry κ → Bool := fun entry => entry.seen ≤ clock - cache.window
    have cut : kept = kept.takeWhile expired ++ kept.dropWhile expired :=
      List.takeWhile_append_dropWhile.symm
    refine ⟨gone ++ kept.takeWhile expired, kept.dropWhile expired, ?_, ?_, ?_, ?_⟩
    · rw [split, List.append_assoc, ← cut]
    · simp only [TtlCache.evictExpired, held, List.dropWhile_map]
      rfl
    · exact distinct.sublist ((List.dropWhile_sublist expired).map Entry.key)
    · apply Settled.append
      · rw [← cut]
        exact settled
      · apply settled_expired
        intro entry member
        have chosen : expired entry = true := List.mem_takeWhile_imp member
        have old : entry.seen ≤ clock - cache.window := of_decide_eq_true chosen
        show entry.seen + cache.window ≤ time
        linarith

theorem Accounts.insert (accounts : cache.Accounts record now) (later : now ≤ time)
    (read : clock ≤ time) (absent : key ∉ cache.entries.map Prod.fst) :
    (cache.insert key clock).Accounts (record ++ [⟨key, clock, time⟩]) time := by
  have made : ∀ entry ∈ record ++ [⟨key, clock, time⟩], entry.seen ≤ entry.time ∧
      entry.time ≤ time := by
    intro entry member
    rcases List.mem_append.mp member with old | new
    · exact (accounts.later later).made entry old
    · rw [List.mem_singleton.mp new]
      exact ⟨read, le_refl time⟩
  refine ⟨made, ?_⟩
  obtain ⟨gone, kept, split, held, distinct, settled⟩ := accounts.kept
  have fresh : key ∉ kept.map Entry.key := by
    intro member
    apply absent
    rw [held, List.map_map]
    exact member
  have grownDistinct : ((kept ++ [(⟨key, clock, time⟩ : Entry κ)]).map Entry.key).Nodup := by
    rw [List.map_append]
    apply List.nodup_append.mpr
    refine ⟨distinct, List.nodup_singleton _, ?_⟩
    intro first old second new same
    rw [List.mem_singleton.mp new] at same
    rw [same] at old
    exact fresh old
  generalize grownIs : kept ++ [(⟨key, clock, time⟩ : Entry κ)] = grown at grownDistinct
  refine ⟨gone ++ grown.take (grown.length - cache.limit),
    grown.drop (grown.length - cache.limit), ?_, ?_, ?_, ?_⟩
  · rw [split, List.append_assoc, List.append_assoc, List.take_append_drop, grownIs]
  · have entries : cache.entries ++ [(key, clock)] =
        grown.map (fun entry => (entry.key, entry.seen)) := by
      rw [held, ← grownIs, List.map_append]
      rfl
    simp only [TtlCache.insert, entries, List.length_map, List.map_drop]
  · exact grownDistinct.sublist ((List.drop_sublist _ _).map Entry.key)
  · apply Settled.append
    · rw [List.take_append_drop, ← grownIs]
      exact settled.mono later
    · apply settled_take _ _ _ grownDistinct (le_refl _)
      intro entry member
      apply made
      rw [split, List.append_assoc, grownIs]
      exact List.mem_append_right _ member

/-- One check: a new key is recorded, a known one leaves the record as it is. -/
theorem Accounts.checkAndAdd (accounts : cache.Accounts record now) (later : now ≤ time)
    (read : clock ≤ time) :
    (cache.checkAndAdd key clock).1.Accounts
      (if (cache.checkAndAdd key clock).2 then record ++ [⟨key, clock, time⟩] else record) time := by
  have evicted := (accounts.later later).evictExpired read
  unfold TtlCache.checkAndAdd
  simp only
  by_cases known : key ∈ (cache.evictExpired clock).entries.map Prod.fst
  · rw [if_pos known]
    exact evicted
  · rw [if_neg known]
    exact evicted.insert (le_refl time) read known

/-- A recorded key that is new again: its entry is too old, or there was a crowd after it. -/
theorem Accounts.again (accounts : cache.Accounts record now) (later : now ≤ time)
    (read : clock ≤ time) {before after : List (Entry κ)} {entry : Entry κ}
    (split : record = before ++ entry :: after)
    (new : (cache.checkAndAdd entry.key clock).2 = true) :
    entry.seen + cache.window ≤ time ∨ cache.limit ≤ crowd cache.window entry after := by
  have evicted := (accounts.later later).evictExpired read
  have absent : entry.key ∉ (cache.evictExpired clock).entries.map Prod.fst := by
    unfold TtlCache.checkAndAdd at new
    simp only at new
    split at new
    · cases new
    · assumption
  obtain ⟨gone, kept, cut, held, -, settled⟩ := evicted.kept
  rw [held, List.map_map] at absent
  rcases List.append_eq_append_iff.mp (cut.symm.trans split) with
    ⟨middle, front, back⟩ | ⟨middle, front, back⟩
  · exfalso
    apply absent
    rw [back]
    exact List.mem_map_of_mem (List.mem_append_right _ List.mem_cons_self)
  · cases middle with
    | nil =>
        exfalso
        apply absent
        rw [← List.nil_append kept, ← back]
        exact List.mem_map_of_mem List.mem_cons_self
    | cons head tail =>
        rw [List.cons_append] at back
        obtain ⟨same, rest⟩ := List.cons.inj back
        subst same
        rw [front] at settled
        rw [rest]
        exact settled.after

end Steps

end TtlCache

end Lib
