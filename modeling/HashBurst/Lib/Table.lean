import Mathlib.Algebra.BigOperators.Group.List.Basic
import Mathlib.Data.List.Nodup

/-! Tables with a primary key: rows whose keys are pairwise distinct, the updates that
keep them so, and tables whose keys are numbered by the table itself. -/

namespace Lib

structure Table {ρ κ : Type} (key : ρ → κ) where
  rows : List ρ
  distinct : (rows.map key).Nodup

namespace Table

variable {ρ κ : Type} {key : ρ → κ}

@[ext] theorem ext {first second : Table key} (same : first.rows = second.rows) :
    first = second := by
  cases first
  cases second
  cases same
  rfl

def empty : Table key := ⟨[], List.nodup_nil⟩

instance : Inhabited (Table key) := ⟨empty⟩

instance [DecidableEq ρ] : DecidableEq (Table key) := fun first second =>
  decidable_of_iff (first.rows = second.rows) ⟨ext, fun same => same ▸ rfl⟩

/-- The rows that `which` selects are rewritten by `change`, which keeps their keys. -/
def update (table : Table key) (which : ρ → Bool) (change : ρ → ρ)
    (keeps : ∀ row, key (change row) = key row := by intro row; rfl) : Table key where
  rows := table.rows.map fun row => if which row then change row else row
  distinct := by
    have same : (table.rows.map fun row => if which row then change row else row).map key =
        table.rows.map key := by
      rw [List.map_map]
      apply List.map_congr_left
      intro row _
      by_cases chosen : which row <;> simp [chosen, keeps]
    rw [same]
    exact table.distinct

@[simp] theorem empty_rows : (empty : Table key).rows = [] := rfl

@[simp] theorem update_rows (table : Table key) (which : ρ → Bool) (change : ρ → ρ)
    (keeps : ∀ row, key (change row) = key row) :
    (table.update which change keeps).rows =
      table.rows.map fun row => if which row then change row else row := rfl

theorem eq_of_key {table : Table key} {first second : ρ} (one : first ∈ table.rows)
    (two : second ∈ table.rows) (same : key first = key second) : first = second :=
  List.inj_on_of_nodup_map table.distinct one two same

theorem key_kept (key : ρ → κ) (row : ρ) : key row = key row := rfl

section Lookup

variable [DecidableEq κ]

def find? (table : Table key) (wanted : κ) : Option ρ :=
  table.rows.find? fun row => key row = wanted

/-- A row with an absent key at the end of the table, `none` where the key is taken. -/
def insert? (table : Table key) (row : ρ) : Option (Table key) :=
  if taken : key row ∈ table.rows.map key then none
  else some
    { rows := table.rows ++ [row]
      distinct := by
        simp only [List.map_append, List.map_cons, List.map_nil]
        exact List.nodup_append.mpr ⟨table.distinct, List.nodup_singleton _, by
          intro first member second single
          rw [List.mem_singleton.mp single]
          intro same
          exact taken (same ▸ member)⟩ }

/-- `row` where its key is new, otherwise `change` on the row that has the key. -/
def upsert (table : Table key) (row : ρ) (change : ρ → ρ)
    (keeps : ∀ row, key (change row) = key row := by intro row; rfl) : Table key :=
  match table.insert? row with
  | some inserted => inserted
  | none => table.update (fun old => key old = key row) change keeps

theorem find?_some_iff {table : Table key} {wanted : κ} {row : ρ} :
    table.find? wanted = some row ↔ row ∈ table.rows ∧ key row = wanted := by
  constructor
  · intro found
    exact ⟨List.mem_of_find?_eq_some found, by simpa using List.find?_some found⟩
  · rintro ⟨member, named⟩
    cases found : table.find? wanted with
    | none =>
        have absent := List.find?_eq_none.mp found row member
        simp [named] at absent
    | some other =>
        have other_named : key other = wanted := by simpa using List.find?_some found
        rw [eq_of_key (List.mem_of_find?_eq_some found) member (other_named.trans named.symm)]

theorem find?_none_iff {table : Table key} {wanted : κ} :
    table.find? wanted = none ↔ ∀ row ∈ table.rows, key row ≠ wanted := by
  simp [find?, List.find?_eq_none]

theorem find?_key {table : Table key} {wanted : κ} {row : ρ}
    (found : table.find? wanted = some row) : key row = wanted :=
  (find?_some_iff.mp found).2

theorem find?_mem {table : Table key} {wanted : κ} {row : ρ}
    (found : table.find? wanted = some row) : row ∈ table.rows :=
  (find?_some_iff.mp found).1

@[simp] theorem find?_empty (wanted : κ) : (empty : Table key).find? wanted = none := rfl

theorem find?_update (table : Table key) (which : ρ → Bool) (change : ρ → ρ)
    (keeps : ∀ row, key (change row) = key row) (wanted : κ) :
    (table.update which change keeps).find? wanted =
      (table.find? wanted).map fun row => if which row then change row else row := by
  simp only [find?, update_rows, List.find?_map]
  congr 1
  apply congrArg (List.find? · table.rows)
  funext row
  by_cases chosen : which row <;> simp [chosen, keeps]

theorem insert?_eq_some {table grown : Table key} {row : ρ}
    (inserted : table.insert? row = some grown) :
    table.find? (key row) = none ∧ grown.rows = table.rows ++ [row] := by
  unfold insert? at inserted
  split at inserted
  · cases inserted
  · rename_i absent
    cases inserted
    refine ⟨find?_none_iff.mpr ?_, rfl⟩
    intro old member same
    exact absent (same ▸ List.mem_map_of_mem member)

theorem insert?_eq_none {table : Table key} {row : ρ} (refused : table.insert? row = none) :
    ∃ old ∈ table.rows, key old = key row := by
  unfold insert? at refused
  split at refused
  · rename_i taken
    obtain ⟨old, member, same⟩ := List.mem_map.mp taken
    exact ⟨old, member, same⟩
  · cases refused

theorem find?_insert? {table grown : Table key} {row : ρ}
    (inserted : table.insert? row = some grown) (wanted : κ) :
    grown.find? wanted = if key row = wanted then some row else table.find? wanted := by
  obtain ⟨absent, appended⟩ := insert?_eq_some inserted
  simp only [find?, appended, List.find?_append]
  by_cases named : key row = wanted
  · subst named
    simp only [find?] at absent
    simp [absent]
  · simp [named]

theorem find?_upsert (table : Table key) (row : ρ) (change : ρ → ρ)
    (keeps : ∀ row, key (change row) = key row) (wanted : κ) :
    (table.upsert row change keeps).find? wanted =
      if key row = wanted then
        some (match table.find? wanted with
          | some old => change old
          | none => row)
      else table.find? wanted := by
  unfold upsert
  cases inserted : table.insert? row with
  | some grown =>
      simp only [find?_insert? inserted]
      by_cases named : key row = wanted
      · subst named
        simp [(insert?_eq_some inserted).1]
      · simp [named]
  | none =>
      obtain ⟨old, member, same⟩ := insert?_eq_none inserted
      simp only [find?_update]
      by_cases named : key row = wanted
      · subst named
        simp [find?_some_iff.mpr ⟨member, same⟩, same]
      · cases found : table.find? wanted with
        | none => simp [named]
        | some kept =>
            have other : key kept ≠ key row := by
              rw [find?_key found]
              exact fun same => named same.symm
            simp [named, other]

theorem mem_upsert {table : Table key} {row entry : ρ} {change : ρ → ρ}
    {keeps : ∀ row, key (change row) = key row}
    (member : entry ∈ (table.upsert row change keeps).rows) :
    entry ∈ table.rows ∨ entry = row ∨
      ∃ old ∈ table.rows, key old = key row ∧ entry = change old := by
  unfold upsert at member
  cases inserted : table.insert? row with
  | some grown =>
      simp only [inserted, (insert?_eq_some inserted).2, List.mem_append,
        List.mem_singleton] at member
      rcases member with old | rfl
      · exact .inl old
      · exact .inr (.inl rfl)
  | none =>
      simp only [inserted, update_rows, List.mem_map, decide_eq_true_eq] at member
      obtain ⟨old, present, rfl⟩ := member
      by_cases same : key old = key row
      · exact .inr (.inr ⟨old, present, same, by simp [same]⟩)
      · exact .inl (by simpa [same] using present)

theorem filter_rewrite {rows : List ρ} {which wanted : ρ → Bool} {change : ρ → ρ}
    (unwanted : ∀ row ∈ rows, which row = true → wanted row = false ∧ wanted (change row) = false) :
    (rows.map fun row => if which row then change row else row).filter wanted =
      rows.filter wanted := by
  induction rows with
  | nil => rfl
  | cons head tail ih =>
      have rest := ih fun row member => unwanted row (List.mem_cons_of_mem head member)
      by_cases chosen : which head = true
      · obtain ⟨before, after⟩ := unwanted head List.mem_cons_self chosen
        simp [chosen, before, after, rest]
      · simp [chosen, List.filter_cons, rest]

theorem filter_upsert {table : Table key} {row : ρ} {change : ρ → ρ}
    {keeps : ∀ row, key (change row) = key row} {wanted : ρ → Bool} (fresh : wanted row = false)
    (unwanted : ∀ old ∈ table.rows, key old = key row →
      wanted old = false ∧ wanted (change old) = false) :
    (table.upsert row change keeps).rows.filter wanted = table.rows.filter wanted := by
  unfold upsert
  cases inserted : table.insert? row with
  | some grown =>
      dsimp only
      rw [(insert?_eq_some inserted).2, List.filter_append]
      simp [fresh]
  | none =>
      dsimp only
      rw [update_rows]
      apply filter_rewrite
      intro old member same
      exact unwanted old member (of_decide_eq_true same)

theorem find?_split {table : Table key} {wanted : κ} {row : ρ}
    (found : table.find? wanted = some row) :
    ∃ before after, table.rows = before ++ row :: after ∧
      (∀ other ∈ before, key other ≠ wanted) ∧ ∀ other ∈ after, key other ≠ wanted := by
  have named := find?_key found
  obtain ⟨before, after, split⟩ := List.append_of_mem (find?_mem found)
  have distinct := table.distinct
  rw [split, List.map_append, List.map_cons] at distinct
  obtain ⟨-, tail, apart⟩ := List.nodup_append.mp distinct
  refine ⟨before, after, split, ?_, ?_⟩
  · intro other member same
    exact apart (key other) (List.mem_map_of_mem member) (key row) List.mem_cons_self
      (same.trans named.symm)
  · intro other member same
    have absent := (List.nodup_cons.mp tail).1
    exact absent (List.mem_map.mpr ⟨other, member, same.trans named.symm⟩)

/-- Rewriting the row under one key moves a count by that row alone. -/
theorem countP_update_key {table : Table key} {wanted : κ} {row : ρ}
    (found : table.find? wanted = some row) (change : ρ → ρ)
    (keeps : ∀ row, key (change row) = key row) (which : ρ → Bool)
    (chosen : ∀ other, which other = decide (key other = wanted)) (counted : ρ → Bool) :
    (table.update which change keeps).rows.countP counted + (if counted row then 1 else 0) =
      table.rows.countP counted + (if counted (change row) then 1 else 0) := by
  obtain ⟨before, after, split, left, right⟩ := find?_split found
  have unchanged : ∀ part : List ρ, (∀ other ∈ part, key other ≠ wanted) →
      (part.map fun other => if which other then change other else other) = part := by
    intro part clear
    refine (List.map_congr_left fun other member => ?_).trans (List.map_id part)
    simp [chosen, clear other member]
  have selected : which row = true := by simp [chosen, find?_key found]
  rw [update_rows, split, List.map_append, List.map_cons, unchanged before left,
    unchanged after right, selected, if_pos rfl]
  simp only [List.countP_append, List.countP_cons]
  omega

def erase (table : Table key) (wanted : κ) : Table key where
  rows := table.rows.filter fun row => key row ≠ wanted
  distinct := table.distinct.sublist (List.filter_sublist.map key)

theorem mem_erase {table : Table key} {wanted : κ} {row : ρ} :
    row ∈ (table.erase wanted).rows ↔ row ∈ table.rows ∧ key row ≠ wanted := by
  simp [erase]

theorem find?_erase_other {table : Table key} {wanted other : κ} (apart : other ≠ wanted) :
    (table.erase wanted).find? other = table.find? other := by
  cases found : table.find? other with
  | none =>
      apply find?_none_iff.mpr
      intro row member
      exact find?_none_iff.mp found row (mem_erase.mp member).1
  | some row =>
      apply find?_some_iff.mpr
      have named := find?_key found
      exact ⟨mem_erase.mpr ⟨find?_mem found, named ▸ apart⟩, named⟩

section Total

variable {M : Type} [AddCommMonoid M] (weight : ρ → M)

def total (table : Table key) : M := (table.rows.map weight).sum

/-- The weight that counts for a key: that of its row, if there is one. -/
def weightAt (table : Table key) (wanted : κ) : M := ((table.find? wanted).map weight).getD 0

theorem total_erase (table : Table key) (wanted : κ) :
    (table.erase wanted).total weight + table.weightAt weight wanted = table.total weight := by
  cases found : table.find? wanted with
  | none =>
      have whole : (table.erase wanted).rows = table.rows := by
        apply List.filter_eq_self.mpr
        intro row member
        simpa using find?_none_iff.mp found row member
      simp [total, weightAt, whole, found]
  | some row =>
      obtain ⟨before, after, split, left, right⟩ := find?_split found
      have kept : ∀ part : List ρ, (∀ other ∈ part, key other ≠ wanted) →
          part.filter (fun other => key other ≠ wanted) = part := by
        intro part clear
        apply List.filter_eq_self.mpr
        intro other member
        simpa using clear other member
      have rest : (table.erase wanted).rows = before ++ after := by
        have gone : ¬ key row ≠ wanted := not_not.mpr (find?_key found)
        simp only [erase, split, List.filter_append, List.filter_cons, decide_eq_true_eq,
          if_neg gone, kept before left, kept after right]
      simp only [total, weightAt, rest, split, found, List.map_append, List.map_cons,
        List.sum_append, List.sum_cons, Option.map_some, Option.getD_some]
      rw [add_assoc, add_comm _ (weight row)]

/-- A row put under a key takes the place of the weight that counted there. -/
theorem total_upsert (table : Table key) (row : ρ) (change : ρ → ρ)
    (keeps : ∀ row, key (change row) = key row)
    (weighs : ∀ old, weight (change old) = weight row) :
    (table.upsert row change keeps).total weight + table.weightAt weight (key row) =
      table.total weight + weight row := by
  cases inserted : table.insert? row with
  | some grown =>
      obtain ⟨absent, appended⟩ := insert?_eq_some inserted
      simp [total, weightAt, upsert, inserted, appended, absent]
  | none =>
      obtain ⟨old, member, same⟩ := insert?_eq_none inserted
      have found : table.find? (key row) = some old := find?_some_iff.mpr ⟨member, same⟩
      obtain ⟨before, after, split, left, right⟩ := find?_split found
      have unchanged : ∀ part : List ρ, (∀ other ∈ part, key other ≠ key row) →
          (part.map fun other => if decide (key other = key row) then change other else other) =
            part := by
        intro part clear
        refine (List.map_congr_left fun other member => ?_).trans (List.map_id part)
        simp [clear other member]
      simp only [total, weightAt, upsert, inserted, update_rows, split, found, List.map_append,
        List.map_cons, unchanged before left, unchanged after right, same, decide_true, if_true,
        weighs, List.sum_append, List.sum_cons, Option.map_some, Option.getD_some]
      rw [add_right_comm, add_assoc, add_assoc, add_assoc]
      congr 1
      rw [add_left_comm, add_comm (weight row), add_assoc]

end Total

end Lookup

end Table

/-- A table that numbers its rows itself: the next key is above all keys given out. -/
structure Serial {ρ : Type} (key : ρ → Nat) extends Table key where
  next : Nat
  fresh : ∀ row ∈ rows, key row < next

namespace Serial

variable {ρ : Type} {key : ρ → Nat}

def empty : Serial key where
  toTable := Table.empty
  next := 0
  fresh := by simp

instance : Inhabited (Serial key) := ⟨empty⟩

def update (table : Serial key) (which : ρ → Bool) (change : ρ → ρ)
    (keeps : ∀ row, key (change row) = key row := by intro row; rfl) : Serial key where
  toTable := table.toTable.update which change keeps
  next := table.next
  fresh := by
    intro row member
    simp only [Table.update_rows, List.mem_map] at member
    obtain ⟨old, present, rfl⟩ := member
    have below := table.fresh old present
    by_cases chosen : which old <;> simpa [chosen, keeps] using below

def append (table : Serial key) (make : Nat → ρ)
    (numbered : ∀ number, key (make number) = number := by intro number; rfl) : Serial key where
  rows := table.rows ++ [make table.next]
  distinct := by
    simp only [List.map_append, List.map_cons, List.map_nil]
    refine List.nodup_append.mpr ⟨table.distinct, List.nodup_singleton _, ?_⟩
    intro first member second single
    obtain ⟨old, present, rfl⟩ := List.mem_map.mp member
    rw [List.mem_singleton.mp single, numbered]
    exact Nat.ne_of_lt (table.fresh old present)
  next := table.next + 1
  fresh := by
    intro row member
    rcases List.mem_append.mp member with old | single
    · exact Nat.lt_trans (table.fresh row old) (Nat.lt_succ_self _)
    · rw [List.mem_singleton.mp single, numbered]
      exact Nat.lt_succ_self _

@[simp] theorem empty_rows : (empty : Serial key).rows = [] := rfl

@[simp] theorem update_rows (table : Serial key) (which : ρ → Bool) (change : ρ → ρ)
    (keeps : ∀ row, key (change row) = key row) :
    (table.update which change keeps).rows =
      table.rows.map fun row => if which row then change row else row := rfl

@[simp] theorem update_next (table : Serial key) (which : ρ → Bool) (change : ρ → ρ)
    (keeps : ∀ row, key (change row) = key row) :
    (table.update which change keeps).next = table.next := rfl

@[simp] theorem append_rows (table : Serial key) (make : Nat → ρ)
    (numbered : ∀ number, key (make number) = number) :
    (table.append make numbered).rows = table.rows ++ [make table.next] := rfl

theorem mem_update {table : Serial key} {which : ρ → Bool} {change : ρ → ρ}
    {keeps : ∀ row, key (change row) = key row} {row : ρ} :
    row ∈ (table.update which change keeps).rows ↔
      ∃ old ∈ table.rows, (if which old then change old else old) = row := by
  simp

theorem find?_update (table : Serial key) (which : ρ → Bool) (change : ρ → ρ)
    (keeps : ∀ row, key (change row) = key row) (wanted : Nat) :
    (table.update which change keeps).find? wanted =
      (table.find? wanted).map fun row => if which row then change row else row :=
  Table.find?_update table.toTable which change keeps wanted

/-- The later table holds every earlier row, moved as `moves` says, and rows of its own that are
new and as `creates` says. -/
structure Evolves (moves : ρ → ρ → Prop) (creates : ρ → Prop) (before after : Serial key) :
    Prop where
  carried : ∀ row ∈ before.rows, ∃ later ∈ after.rows, key later = key row ∧ moves row later
  origin : ∀ later ∈ after.rows, (∃ row ∈ before.rows, key later = key row ∧ moves row later) ∨
    (before.next ≤ key later ∧ creates later)
  numbered : before.next ≤ after.next

namespace Evolves

variable {moves wider : ρ → ρ → Prop} {creates allowed : ρ → Prop} {before after : Serial key}

theorem refl (kept : ∀ row ∈ before.rows, moves row row) :
    Evolves moves creates before before where
  carried row member := ⟨row, member, rfl, kept row member⟩
  origin row member := .inl ⟨row, member, rfl, kept row member⟩
  numbered := Nat.le_refl _

theorem mono (evolves : Evolves moves creates before after)
    (widen : ∀ row ∈ before.rows, ∀ later, key later = key row → moves row later → wider row later)
    (allow : ∀ row ∈ after.rows, creates row → allowed row) :
    Evolves wider allowed before after where
  carried row member := by
    obtain ⟨later, present, named, moved⟩ := evolves.carried row member
    exact ⟨later, present, named, widen row member later named moved⟩
  origin later member := by
    rcases evolves.origin later member with ⟨row, present, named, moved⟩ | ⟨fresh, created⟩
    · exact .inl ⟨row, present, named, widen row present later named moved⟩
    · exact .inr ⟨fresh, allow later member created⟩
  numbered := evolves.numbered

theorem update {which : ρ → Bool} {change : ρ → ρ} {keeps : ∀ row, key (change row) = key row}
    (moved : ∀ row ∈ before.rows, moves row (if which row then change row else row)) :
    Evolves moves creates before (before.update which change keeps) where
  carried row member := by
    refine ⟨_, mem_update.mpr ⟨row, member, rfl⟩, ?_, moved row member⟩
    split
    · exact keeps row
    · rfl
  origin later member := by
    obtain ⟨row, present, rfl⟩ := mem_update.mp member
    refine .inl ⟨row, present, ?_, moved row present⟩
    split
    · exact keeps row
    · rfl
  numbered := Nat.le_refl _

theorem append (make : Nat → ρ) (numbered : ∀ number, key (make number) = number)
    (kept : ∀ row ∈ before.rows, moves row row) (created : creates (make before.next)) :
    Evolves moves creates before (before.append make numbered) where
  carried row member :=
    ⟨row, List.mem_append_left _ member, rfl, kept row member⟩
  origin later member := by
    rcases List.mem_append.mp member with old | single
    · exact .inl ⟨later, old, rfl, kept later old⟩
    · rw [List.mem_singleton.mp single, numbered]
      exact .inr ⟨Nat.le_refl _, created⟩
  numbered := Nat.le_succ _

theorem trans {last : Serial key} {more : ρ → ρ → Prop} {makes : ρ → Prop}
    (front : Evolves moves creates before after) (back : Evolves more makes after last)
    (compose : ∀ row ∈ before.rows, ∀ middle ∈ after.rows, ∀ later, moves row middle →
      more middle later → wider row later)
    (first : ∀ middle ∈ after.rows, ∀ later, creates middle → more middle later → allowed later)
    (second : ∀ later, makes later → allowed later) : Evolves wider allowed before last where
  carried row member := by
    obtain ⟨middle, present, named, moved⟩ := front.carried row member
    obtain ⟨later, found, same, shifted⟩ := back.carried middle present
    exact ⟨later, found, same.trans named, compose row member middle present later moved shifted⟩
  origin later member := by
    rcases back.origin later member with ⟨middle, present, same, shifted⟩ | ⟨fresh, made⟩
    · rcases front.origin middle present with ⟨row, found, named, moved⟩ | ⟨fresh, created⟩
      · exact .inl ⟨row, found, same.trans named,
          compose row found middle present later moved shifted⟩
      · exact .inr ⟨same ▸ fresh, first middle present later created shifted⟩
    · exact .inr ⟨Nat.le_trans front.numbered fresh, second later made⟩
  numbered := Nat.le_trans front.numbered back.numbered

theorem find? (evolves : Evolves moves creates before after) {number : Nat} {row : ρ}
    (found : before.find? number = some row) :
    ∃ later, after.find? number = some later ∧ moves row later := by
  obtain ⟨later, present, named, moved⟩ := evolves.carried row (Table.find?_mem found)
  exact ⟨later, Table.find?_some_iff.mpr ⟨present, named.trans (Table.find?_key found)⟩, moved⟩

end Evolves

end Serial

end Lib
