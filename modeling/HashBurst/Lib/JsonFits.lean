import HashBurst.Lib.JsonText

namespace Lib.Py.JsonText

variable {bounds : Bounds} {nesting : Nat} {text rest : List Char} {value : Json}

section Numbers

theorem ofDigitChars_lt {digits : List Char} (all : ∀ c ∈ digits, c.isDigit = true) :
    Nat.ofDigitChars 10 digits 0 < 10 ^ digits.length := by
  induction digits with
  | nil => decide
  | cons head tail ih =>
      have digit := all head List.mem_cons_self
      rw [Char.isDigit_iff_toNat] at digit
      have rest := ih fun c member => all c (List.mem_cons_of_mem _ member)
      rw [Nat.ofDigitChars_cons, Nat.ofDigitChars_eq_ofDigitChars_zero, List.length_cons, pow_succ]
      have zero : '0'.toNat = 48 := rfl
      have nine : '9'.toNat = 57 := rfl
      have small : 10 * 0 + (head.toNat - '0'.toNat) ≤ 9 := by omega
      nlinarith [Nat.mul_le_mul_left (10 ^ tail.length) small]

private theorem scanWhole_digits (text : List Char) :
    ∀ c ∈ (scanWhole text).1, c.isDigit = true := by
  unfold scanWhole
  split
  · intro c member
    rw [List.mem_singleton.mp member]
    decide
  · intro c member
    exact List.mem_takeWhile_imp member

theorem scanNumeral_whole {numeral : Numeral} (read : scanNumeral text = some (numeral, rest)) :
    numeral.whole ≠ [] ∧ ∀ c ∈ numeral.whole, c.isDigit = true := by
  unfold scanNumeral at read
  simp only at read
  split at read
  · cases read
  · rename_i filled
    cases read
    exact ⟨filled, scanWhole_digits _⟩

theorem scanNumber_fits (read : scanNumber bounds text = .ok (value, rest)) :
    Fits bounds nesting value := by
  unfold scanNumber at read
  split at read
  · cases read
  rename_i numeral after found
  rcases scanNumeral_whole found with ⟨filled, digits⟩
  split at read
  · rename_i whole
    split at read
    · cases read
    rename_i short
    cases read
    unfold Numeral.isInt at whole
    have size : numeral.toInt.natAbs = Nat.ofDigitChars 10 numeral.whole 0 := by
      unfold Numeral.toInt Numeral.digits
      rw [(of_decide_eq_true whole).1, List.append_nil]
      split <;> simp
    apply Fits.int
    rw [size]
    have counted : 0 < numeral.whole.length := List.length_pos_of_ne_nil filled
    have own := (Nat.length_toDigits_le_iff (by decide) counted).mpr (ofDigitChars_lt digits)
    omega
  · split at read
    · rename_i float known
      cases read
      exact .float (binary64_float known)
    · cases read

end Numbers

def ReadsFits (bounds : Bounds) (nesting : Nat) (scan : List Char → Scan Json) : Prop :=
  ∀ text value rest, scan text = .ok (value, rest) → Fits bounds nesting value

section Nested

theorem map_eq_ok {ε α β : Type} {change : α → β} {answer : Except ε α} {result : β}
    (done : answer.map change = .ok result) : ∃ value, answer = .ok value ∧ change value = result := by
  cases answer with
  | error failure => cases done
  | ok value => exact ⟨value, rfl, Except.ok.inj done⟩

variable {scan : List Char → Scan Json}

theorem scanItems_fits (reads : ReadsFits bounds nesting scan) (fuel : Nat) {items : List Json}
    (read : scanItems scan fuel text = .ok (items, rest)) :
    ∀ item ∈ items, Fits bounds nesting item := by
  induction fuel generalizing text items rest with
  | zero => cases read
  | succ fuel ih =>
      unfold scanItems at read
      split at read
      · cases read
      rename_i head after first
      split at read
      · cases read
        intro item member
        rw [List.mem_singleton.mp member]
        exact reads _ _ _ first
      · rename_i more _
        rcases map_eq_ok read with ⟨own, later, same⟩
        cases same
        intro item member
        rcases List.mem_cons.mp member with rfl | member
        · exact reads _ _ _ first
        · exact ih later item member
      · cases read

theorem scanArray_fits (reads : ReadsFits bounds nesting scan) :
    ReadsFits bounds (nesting + 1) (scanArray scan) := by
  intro text value rest read
  unfold scanArray at read
  split at read
  · cases read
    exact .arr fun _ none => absurd none List.not_mem_nil
  · rcases map_eq_ok read with ⟨own, scanned, same⟩
    cases same
    exact .arr (scanItems_fits reads _ scanned)

def FieldsFit (bounds : Bounds) (nesting : Nat) (fields : Dict) : Prop :=
  (fields.map Prod.fst).Nodup ∧ ∀ field ∈ fields, Fits bounds nesting field.2

theorem put_names (name : String) (value : Json) (fields : Dict) (other : String) :
    other ∈ (put name value fields).map Prod.fst ↔ other = name ∨ other ∈ fields.map Prod.fst := by
  induction fields with
  | nil => simp [put]
  | cons head tail ih =>
      rcases head with ⟨own, old⟩
      rw [put]
      by_cases same : own = name
      · rw [if_pos same, same]
        simp
      · rw [if_neg same, List.map_cons, List.mem_cons, ih, List.map_cons, List.mem_cons]
        exact or_left_comm

theorem put_fits {name : String} {fields : Dict} (fits : Fits bounds nesting value)
    (known : FieldsFit bounds nesting fields) : FieldsFit bounds nesting (put name value fields) := by
  induction fields with
  | nil =>
      refine ⟨List.nodup_singleton _, ?_⟩
      intro field member
      rw [List.mem_singleton.mp member]
      exact fits
  | cons head tail ih =>
      rcases head with ⟨own, old⟩
      rcases known with ⟨distinct, each⟩
      rw [List.map_cons, List.nodup_cons] at distinct
      have rest := fun field member => each field (List.mem_cons_of_mem _ member)
      rw [put]
      by_cases same : own = name
      · rw [if_pos same]
        refine ⟨List.nodup_cons.mpr distinct, ?_⟩
        intro field member
        rcases List.mem_cons.mp member with rfl | member
        · exact fits
        · exact rest field member
      · rw [if_neg same]
        rcases ih ⟨distinct.2, rest⟩ with ⟨apart, fit⟩
        refine ⟨List.nodup_cons.mpr ⟨?_, apart⟩, ?_⟩
        · rw [put_names, not_or]
          exact ⟨same, distinct.1⟩
        · intro field member
          rcases List.mem_cons.mp member with rfl | member
          · exact each _ List.mem_cons_self
          · exact fit field member

theorem scanFields_fits (reads : ReadsFits bounds nesting scan) (fuel : Nat) {known fields : Dict}
    (start : FieldsFit bounds nesting known)
    (read : scanFields scan fuel known text = .ok (fields, rest)) :
    FieldsFit bounds nesting fields := by
  induction fuel generalizing text known rest with
  | zero => cases read
  | succ fuel ih =>
      unfold scanFields at read
      split at read
      · split at read
        · cases read
        split at read
        · split at read
          · cases read
          rename_i found
          simp only at read
          split at read
          · cases read
            exact put_fits (reads _ _ _ found) start
          · exact ih (put_fits (reads _ _ _ found) start) read
          · cases read
        · cases read
      · cases read

theorem scanObject_fits (reads : ReadsFits bounds nesting scan) :
    ReadsFits bounds (nesting + 1) (scanObject scan) := by
  intro text value rest read
  unfold scanObject at read
  split at read
  · cases read
    exact .obj List.nodup_nil fun _ none => absurd none List.not_mem_nil
  · rcases map_eq_ok read with ⟨own, scanned, same⟩
    cases same
    have none : FieldsFit bounds nesting [] :=
      ⟨List.nodup_nil, fun _ none => absurd none List.not_mem_nil⟩
    have fits := scanFields_fits reads _ none scanned
    exact .obj fits.1 fits.2

theorem scanValue_fits {array object : List Char → Scan Json}
    (arrays : ReadsFits bounds nesting array) (objects : ReadsFits bounds nesting object) :
    ReadsFits bounds nesting (scanValue bounds array object) := by
  intro text value rest read
  unfold scanValue at read
  split at read
  · rcases map_eq_ok read with ⟨own, scanned, same⟩
    cases same
    exact .str _
  · exact objects _ _ _ read
  · exact arrays _ _ _ read
  · cases read
    exact .null
  · cases read
    exact .bool true
  · cases read
    exact .bool false
  · cases read
  · cases read
  · cases read
  · exact scanNumber_fits read

theorem scanOnce_fits (bounds : Bounds) (nesting : Nat) :
    ReadsFits bounds nesting (scanOnce bounds nesting) := by
  induction nesting with
  | zero =>
      apply scanValue_fits
      · intro text value rest read
        cases read
      · intro text value rest read
        cases read
  | succ nesting ih => exact scanValue_fits (scanArray_fits ih) (scanObject_fits ih)

theorem loads_fits (read : loads bounds text = .ok value) : Fits bounds bounds.nesting value := by
  unfold loads at read
  split at read
  · cases read
  split at read
  · cases read
  rename_i found
  split at read
  · cases read
    exact scanOnce_fits bounds bounds.nesting _ _ _ found
  · cases read

end Nested

end Lib.Py.JsonText
