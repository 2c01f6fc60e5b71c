import Mathlib.Data.List.Infix

namespace Lib

variable {α : Type*}

/-- Two lists of parts, with the last part of the first and the first part of the second joined
at `joint`. -/
def joined (joint : α) : List (List α) → List (List α) → List (List α)
  | [], later => later
  | [last], later => later.modifyHead fun front => last ++ joint :: front
  | part :: next :: parts, later => part :: joined joint (next :: parts) later

section Joints

variable {head joint : α} {sep front back part : List α} {parts later : List (List α)}

theorem joined_cons (more : parts ≠ []) :
    joined joint (part :: parts) later = part :: joined joint parts later := by
  cases parts with
  | nil => exact absurd rfl more
  | cons next parts => rfl

theorem joined_modifyHead (more : parts ≠ []) :
    joined joint (parts.modifyHead (head :: ·)) later =
      (joined joint parts later).modifyHead (head :: ·) := by
  match parts with
  | [] => exact absurd rfl more
  | [last] =>
      cases later with
      | nil => rfl
      | cons first later => rfl
  | part :: next :: parts => rfl

theorem joined_concat : joined joint (parts ++ [part]) later =
    parts ++ later.modifyHead fun front => part ++ joint :: front := by
  induction parts with
  | nil => rfl
  | cons first parts ih =>
      rw [List.cons_append, joined_cons (by simp), ih]
      rfl

theorem prefix_cut (apart : joint ∉ sep) : sep <+: front ++ joint :: back ↔ sep <+: front := by
  constructor
  · intro starts
    have whole : front <+: front ++ joint :: back := List.prefix_append _ _
    rcases Nat.lt_or_ge front.length sep.length with short | long
    · have more : front ++ [joint] <+: front ++ joint :: back := by
        exact ⟨back, (List.append_cons front joint back).symm⟩
      have covers : front ++ [joint] <+: sep := by
        apply List.prefix_of_prefix_length_le more starts
        rw [List.length_append, List.length_singleton]
        omega
      exact absurd (covers.subset (by simp)) apart
    · exact List.prefix_of_prefix_length_le starts whole long
  · intro starts
    exact starts.trans (List.prefix_append _ _)

/-- The separator stands before or after an element that it does not have. -/
theorem infix_cut (apart : joint ∉ sep) :
    sep <:+: front ++ joint :: back ↔ sep <:+: front ∨ sep <:+: back := by
  induction front with
  | nil =>
      have first : sep <+: [] ++ joint :: back ↔ sep <+: [] := prefix_cut apart
      rw [List.nil_append] at first ⊢
      rw [List.infix_cons_iff, first, List.prefix_nil, List.infix_nil]
  | cons head tail ih =>
      have first : sep <+: head :: tail ++ joint :: back ↔ sep <+: head :: tail := prefix_cut apart
      rw [List.cons_append] at first ⊢
      rw [List.infix_cons_iff, List.infix_cons_iff, first, ih, or_assoc]

end Joints

variable [DecidableEq α]

/-- `text.split(sep)`, after as many elements as the separator still covers. -/
def splitFrom (sep : List α) : Nat → List α → List (List α)
  | _, [] => [[]]
  | covered + 1, _ :: tail => splitFrom sep covered tail
  | 0, head :: tail =>
      if sep.isPrefixOf (head :: tail) then [] :: splitFrom sep (sep.length - 1) tail
      else (splitFrom sep 0 tail).modifyHead (head :: ·)

def split (sep text : List α) : List (List α) := splitFrom sep 0 text

def partition (sep text : List α) : List α × List α := (text.dropInfix? sep).getD (text, [])

section Split

variable {sep front back text : List α} {head joint : α} {tail part : List α}

theorem split_ne_nil : split sep text ≠ [] := by
  have all : ∀ covered, splitFrom sep covered text ≠ [] := by
    induction text with
    | nil =>
        intro covered
        cases covered with
        | zero => exact List.cons_ne_nil _ _
        | succ covered => exact List.cons_ne_nil _ _
    | cons head tail ih =>
        intro covered
        cases covered with
        | zero =>
            rw [splitFrom]
            split_ifs
            · exact List.cons_ne_nil _ _
            · rw [ne_eq, List.modifyHead_eq_nil_iff]
              exact ih 0
        | succ covered => exact ih covered
  exact all 0

private theorem splitFrom_covered :
    splitFrom sep front.length (front ++ text) = split sep text := by
  induction front with
  | nil => rfl
  | cons head tail ih => exact ih

theorem split_sep (some' : sep ≠ []) : split sep (sep ++ text) = [] :: split sep text := by
  cases sep with
  | nil => exact absurd rfl some'
  | cons head tail =>
      have starts : (head :: tail).isPrefixOf (head :: tail ++ text) = true :=
        List.isPrefixOf_iff_prefix.mpr (List.prefix_append _ _)
      unfold split
      rw [List.cons_append] at starts ⊢
      rw [splitFrom, if_pos starts]
      exact congrArg (List.cons []) splitFrom_covered

theorem split_cons (apart : ¬sep <+: head :: tail) :
    split sep (head :: tail) = (split sep tail).modifyHead (head :: ·) := by
  have differs : ¬sep.isPrefixOf (head :: tail) = true := by
    rw [List.isPrefixOf_iff_prefix]
    exact apart
  unfold split
  rw [splitFrom, if_neg differs]

theorem split_absent (absent : ¬sep <:+: text) : split sep text = [text] := by
  induction text with
  | nil => rfl
  | cons head tail ih =>
      rw [List.infix_cons_iff, not_or] at absent
      rw [split_cons absent.1, ih absent.2]
      rfl

theorem split_subset : ∀ part ∈ split sep text, part ⊆ text := by
  have all : ∀ covered, ∀ part ∈ splitFrom sep covered text, part ⊆ text := by
    induction text with
    | nil =>
        intro covered part member
        cases covered with
        | zero => exact List.mem_singleton.mp member ▸ List.Subset.refl _
        | succ covered => exact List.mem_singleton.mp member ▸ List.Subset.refl _
    | cons head tail ih =>
        intro covered part member
        have wider : tail ⊆ head :: tail := List.subset_cons_self head tail
        cases covered with
        | succ covered => exact List.Subset.trans (ih covered part member) wider
        | zero =>
            rw [splitFrom] at member
            split_ifs at member
            · rcases List.mem_cons.mp member with first | later
              · rw [first]
                exact List.nil_subset _
              · exact List.Subset.trans (ih _ part later) wider
            · have known := ih 0
              cases parts : splitFrom sep 0 tail with
              | nil =>
                  rw [parts] at member
                  cases member
              | cons first rest =>
                  rw [parts] at member known
                  rcases List.mem_cons.mp member with new | later
                  · rw [new]
                    exact List.cons_subset_cons head (known first List.mem_cons_self)
                  · exact List.Subset.trans (known part (List.mem_cons_of_mem _ later)) wider
  exact all 0

/-- A text is split on either side of an element that the separator does not have. -/
theorem split_cut (some' : sep ≠ []) (apart : joint ∉ sep) :
    split sep (front ++ joint :: back) = joined joint (split sep front) (split sep back) := by
  induction size : front.length using Nat.strong_induction_on generalizing front with
  | h length ih =>
      cases front with
      | nil =>
          have differs : ¬sep <+: joint :: back := by
            have first : sep <+: [] ++ joint :: back ↔ sep <+: [] := prefix_cut apart
            rw [List.nil_append, List.prefix_nil] at first
            rw [first]
            exact some'
          rw [List.nil_append, split_cons differs]
          rfl
      | cons head tail =>
          by_cases starts : sep <+: head :: tail
          · obtain ⟨rest, whole⟩ := starts
            have positive := List.length_pos_of_ne_nil some'
            have shorter : rest.length < length := by
              rw [← size, ← whole, List.length_append]
              omega
            rw [← whole, List.append_assoc, split_sep some', split_sep some',
              ih rest.length shorter rfl, joined_cons split_ne_nil]
          · have differs : ¬sep <+: head :: (tail ++ joint :: back) := by
              rw [← List.cons_append, prefix_cut apart]
              exact starts
            have shorter : tail.length < length := by
              rw [← size]
              exact Nat.lt_succ_self _
            rw [List.cons_append, split_cons differs, split_cons starts,
              ih tail.length shorter rfl, joined_modifyHead split_ne_nil]

/-- The separator that follows an element it does not have, and has not come before. -/
theorem split_first (some' : sep ≠ []) (apart : joint ∉ sep) (absent : ¬sep <:+: front) :
    split sep (front ++ joint :: (sep ++ back)) = (front ++ [joint]) :: split sep back := by
  rw [split_cut some' apart, split_absent absent, split_sep some']
  rfl

theorem split_several (some' : sep ≠ []) (contains : sep <:+: text) :
    ∃ first next parts, split sep text = first :: next :: parts := by
  induction text with
  | nil => exact absurd (List.infix_nil.mp contains) some'
  | cons head tail ih =>
      by_cases starts : sep <+: head :: tail
      · obtain ⟨rest, whole⟩ := starts
        have more : split sep rest ≠ [] := split_ne_nil
        obtain ⟨next, parts, later⟩ := List.exists_cons_of_ne_nil more
        rw [← whole, split_sep some']
        exact ⟨[], next, parts, by rw [later]⟩
      · have further : sep <:+: tail := (List.infix_cons_iff.mp contains).resolve_left starts
        obtain ⟨first, next, parts, known⟩ := ih further
        exact ⟨head :: first, next, parts, by rw [split_cons starts, known]; rfl⟩

theorem partition_absent (absent : ¬sep <:+: text) : partition sep text = (text, []) := by
  unfold partition
  cases dropped : text.dropInfix? sep with
  | none => rfl
  | some pair =>
      obtain ⟨⟨found, whole, same⟩, _⟩ := List.dropInfix?_eq_some_iff.mp dropped
      rw [beq_iff_eq.mp same] at whole
      exact absurd ⟨pair.1, pair.2, whole.symm⟩ absent

theorem partition_cut (apart : joint ∉ sep) (absent : ¬sep <:+: front) :
    partition sep (front ++ joint :: (sep ++ back)) = (front ++ [joint], back) := by
  have dropped : (front ++ joint :: (sep ++ back)).dropInfix? sep =
      some (front ++ [joint], back) := by
    rw [List.dropInfix?_eq_some_iff]
    refine ⟨⟨sep, by simp, beq_self_eq_true sep⟩, ?_⟩
    intro earlier found rest whole same
    rw [beq_iff_eq.mp same, List.append_assoc] at whole
    by_contra short
    rw [List.length_append, List.length_singleton] at short
    rcases List.append_eq_append_iff.mp whole with ⟨gap, before, starts⟩ | ⟨gap, after, starts⟩
    · have size := congrArg List.length before
      rw [List.length_append] at size
      have none : gap = [] := List.eq_nil_of_length_eq_zero (by omega)
      rw [none, List.nil_append] at starts
      have within : sep <+: [] ++ joint :: (sep ++ back) := ⟨rest, starts.symm⟩
      rw [prefix_cut apart] at within
      exact absent (within.isInfix.trans List.nil_infix)
    · have within : sep <+: gap ++ joint :: (sep ++ back) := ⟨rest, starts⟩
      rw [prefix_cut apart] at within
      rw [after] at absent
      exact absent (within.isInfix.trans (List.suffix_append _ _).isInfix)
  unfold partition
  rw [dropped]
  rfl

end Split

end Lib
