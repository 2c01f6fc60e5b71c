import Mathlib.Data.List.Count
import Mathlib.Data.List.Perm.Basic
import Mathlib.Logic.Function.Basic

namespace Lib

structure Permits (κ : Type*) where
  total : Nat := 0
  byKey : κ → Nat := fun _ => 0

namespace Permits

variable {κ : Type*} [DecidableEq κ]

def acquire (permits : Permits κ) (limit perKey : Nat) (key : κ) : Option (Permits κ) :=
  if limit ≤ permits.total ∨ perKey ≤ permits.byKey key then none
  else some
    { total := permits.total + 1
      byKey := Function.update permits.byKey key (permits.byKey key + 1) }

/-- A key without a permit leaves its own count at zero. -/
def release (permits : Permits κ) (key : κ) : Permits κ where
  total := permits.total - 1
  byKey := Function.update permits.byKey key (permits.byKey key - 1)

structure Counts (permits : Permits κ) (holders : List κ) : Prop where
  total : permits.total = holders.length
  byKey : ∀ key, permits.byKey key = holders.count key

structure Within (limit perKey : Nat) (holders : List κ) : Prop where
  total : holders.length ≤ limit
  byKey : ∀ key, holders.count key ≤ perKey

variable {permits after : Permits κ} {limit perKey : Nat} {key : κ} {holders others : List κ}

theorem counts_empty : Counts ({} : Permits κ) [] where
  total := rfl
  byKey _ := rfl

theorem within_empty : Within limit perKey ([] : List κ) where
  total := Nat.zero_le _
  byKey _ := Nat.zero_le _

theorem Counts.perm (counts : permits.Counts holders) (same : holders.Perm others) :
    permits.Counts others where
  total := counts.total.trans same.length_eq
  byKey key := (counts.byKey key).trans (same.count_eq key)

theorem Within.perm (within : Within limit perKey holders) (same : holders.Perm others) :
    Within limit perKey others where
  total := by
    rw [← same.length_eq]
    exact within.total
  byKey key := by
    rw [← same.count_eq key]
    exact within.byKey key

theorem Within.tail (within : Within limit perKey (key :: holders)) :
    Within limit perKey holders where
  total := by
    have total := within.total
    rw [List.length_cons] at total
    omega
  byKey other := Nat.le_trans List.count_le_count_cons (within.byKey other)

theorem acquire_eq_some : permits.acquire limit perKey key = some after ↔
    permits.total < limit ∧ permits.byKey key < perKey ∧ after =
      { total := permits.total + 1
        byKey := Function.update permits.byKey key (permits.byKey key + 1) } := by
  unfold acquire
  split
  · rename_i full
    constructor
    · intro impossible
      cases impossible
    · rintro ⟨roomy, free, -⟩
      omega
  · rename_i free
    constructor
    · intro acquired
      exact ⟨by omega, by omega, (Option.some.inj acquired).symm⟩
    · rintro ⟨-, -, rfl⟩
      rfl

theorem acquire_counts (acquired : permits.acquire limit perKey key = some after)
    (counts : permits.Counts holders) : after.Counts (key :: holders) := by
  obtain ⟨-, -, rfl⟩ := acquire_eq_some.mp acquired
  constructor
  · rw [List.length_cons, ← counts.total]
  · intro other
    by_cases same : other = key
    · rw [same, List.count_cons_self, ← counts.byKey]
      exact Function.update_self ..
    · rw [List.count_cons_of_ne (Ne.symm same), ← counts.byKey]
      exact Function.update_of_ne same ..

theorem acquire_within (acquired : permits.acquire limit perKey key = some after)
    (counts : permits.Counts holders) (within : Within limit perKey holders) :
    Within limit perKey (key :: holders) := by
  obtain ⟨roomy, free, -⟩ := acquire_eq_some.mp acquired
  rw [counts.total] at roomy
  rw [counts.byKey] at free
  constructor
  · exact roomy
  · intro other
    by_cases same : other = key
    · rw [same, List.count_cons_self]
      exact free
    · rw [List.count_cons_of_ne (Ne.symm same)]
      exact within.byKey other

theorem release_counts (counts : permits.Counts (key :: holders)) :
    (permits.release key).Counts holders := by
  constructor
  · have total := counts.total
    rw [List.length_cons] at total
    simp only [release]
    omega
  · intro other
    have own := counts.byKey other
    by_cases same : other = key
    · rw [same, List.count_cons_self] at own
      simp only [release, same, Function.update_self]
      omega
    · rw [List.count_cons_of_ne (Ne.symm same)] at own
      simp only [release, Function.update_of_ne same, own]

end Permits

end Lib
