import Mathlib.Data.Int.Log
import Mathlib.Data.List.DropRight
import Mathlib.Data.Rat.Floor

/-! Decimal numerals as JSON writes them, and the binary64 numbers that they stand for. -/

namespace Lib

/-- A numeral taken apart: an integer has no fraction and no exponent. -/
structure Numeral where
  negative : Bool
  whole : List Char
  fraction : List Char := []
  exponent : Option Int := none
  deriving DecidableEq

namespace Numeral

def sign (negative : Bool) : List Char := if negative then ['-'] else []

/-- An exponent has a sign and two digits at least. -/
def exponentText (exponent : Int) : List Char :=
  let digits := Nat.toDigits 10 exponent.natAbs
  'e' :: (if exponent < 0 then '-' else '+') :: (if digits.length < 2 then '0' :: digits else digits)

variable (numeral : Numeral)

def text : List Char :=
  sign numeral.negative ++ (numeral.whole ++
    ((if numeral.fraction = [] then [] else '.' :: numeral.fraction) ++
      numeral.exponent.elim [] exponentText))

def digits : Nat := Nat.ofDigitChars 10 (numeral.whole ++ numeral.fraction) 0

def value : ℚ :=
  (if numeral.negative then -1 else 1) * numeral.digits *
    10 ^ (numeral.exponent.getD 0 - numeral.fraction.length)

def isInt : Bool := numeral.fraction = [] ∧ numeral.exponent = none

def toInt : Int := if numeral.negative then -(numeral.digits : Int) else numeral.digits

def ofInt (value : Int) : Numeral :=
  { negative := decide (value < 0), whole := Nat.toDigits 10 value.natAbs }

/-- An integer without leading zeros, and digits after the point. -/
structure WellFormed : Prop where
  whole : numeral.whole = ['0'] ∨ ∃ head tail, numeral.whole = head :: tail ∧ head ≠ '0'
  wholeDigits : ∀ c ∈ numeral.whole, c.isDigit = true
  fractionDigits : ∀ c ∈ numeral.fraction, c.isDigit = true

end Numeral

section Scan

variable (text : List Char)

def scanDigits : List Char × List Char := (text.takeWhile Char.isDigit, text.dropWhile Char.isDigit)

def scanSign : Bool × List Char :=
  match text with
  | '-' :: rest => (true, rest)
  | _ => (false, text)

def scanWhole : List Char × List Char :=
  match text with
  | '0' :: rest => (['0'], rest)
  | _ => scanDigits text

/-- A point without digits after it is no fraction. -/
def scanFraction : List Char × List Char :=
  match text with
  | '.' :: rest => if (scanDigits rest).1 = [] then ([], text) else scanDigits rest
  | _ => ([], text)

def scanExponentSign : Bool × List Char :=
  match text with
  | '-' :: rest => (true, rest)
  | '+' :: rest => (false, rest)
  | _ => (false, text)

def scanExponent : Option Int × List Char :=
  match text with
  | [] => (none, [])
  | head :: rest =>
      if head = 'e' ∨ head = 'E' then
        let signed := scanExponentSign rest
        let scanned := scanDigits signed.2
        if scanned.1 = [] then (none, text)
        else
          let size : Int := Nat.ofDigitChars 10 scanned.1 0
          (some (if signed.1 then -size else size), scanned.2)
      else (none, text)

/-- `(-?(?:0|[1-9]\d*))(\.\d+)?([eE][-+]?\d+)?` -/
def scanNumeral : Option (Numeral × List Char) :=
  let signed := scanSign text
  let whole := scanWhole signed.2
  if whole.1 = [] then none
  else
    let fraction := scanFraction whole.2
    let exponent := scanExponent fraction.2
    some (⟨signed.1, whole.1, fraction.1, exponent.1⟩, exponent.2)

end Scan

def EndsNumeral (rest : List Char) : Prop :=
  ∀ c ∈ rest.head?, c.isDigit = false ∧ c ≠ '.' ∧ c ≠ 'e' ∧ c ≠ 'E'

section Scanned

variable {digits rest : List Char} {numeral : Numeral}

theorem scanDigits_append (all : ∀ c ∈ digits, c.isDigit = true)
    (stops : ∀ c ∈ rest.head?, c.isDigit = false) : scanDigits (digits ++ rest) = (digits, rest) := by
  unfold scanDigits
  rw [List.takeWhile_append_of_pos all, List.dropWhile_append_of_pos all]
  cases rest with
  | nil => rw [List.takeWhile_nil, List.dropWhile_nil, List.append_nil]
  | cons head tail =>
      have stop := stops head rfl
      rw [List.takeWhile_cons_of_neg (by simp [stop]), List.dropWhile_cons_of_neg (by simp [stop]),
        List.append_nil]

theorem scanExponent_ends (ends : EndsNumeral rest) : scanExponent rest = (none, rest) := by
  cases rest with
  | nil => rfl
  | cons head tail =>
      have stop := ends head rfl
      have other : ¬ (head = 'e' ∨ head = 'E') := by
        rintro (lower | upper)
        · exact stop.2.2.1 lower
        · exact stop.2.2.2 upper
      rw [scanExponent, if_neg other]

theorem exponent_digits (exponent : Int) : ∃ scanned, scanned ≠ [] ∧
    (∀ c ∈ scanned, c.isDigit = true) ∧ Nat.ofDigitChars 10 scanned 0 = exponent.natAbs ∧
    Numeral.exponentText exponent = 'e' :: (if exponent < 0 then '-' else '+') :: scanned := by
  have own : ∀ c ∈ Nat.toDigits 10 exponent.natAbs, c.isDigit = true :=
    fun c member => Nat.isDigit_of_mem_toDigits (by decide) (by decide) member
  unfold Numeral.exponentText
  by_cases short : (Nat.toDigits 10 exponent.natAbs).length < 2
  · refine ⟨'0' :: Nat.toDigits 10 exponent.natAbs, List.cons_ne_nil _ _, ?_, ?_, ?_⟩
    · intro c member
      rcases List.mem_cons.mp member with rfl | member
      · decide
      · exact own c member
    · calc
        Nat.ofDigitChars 10 ('0' :: Nat.toDigits 10 exponent.natAbs) 0
          = Nat.ofDigitChars 10 (Nat.toDigits 10 exponent.natAbs) 0 := Nat.ofDigitChars_cons
        _ = exponent.natAbs := Nat.ofDigitChars_ten_toDigits
    · simp only [if_pos short]
  · refine ⟨Nat.toDigits 10 exponent.natAbs, Nat.toDigits_ne_nil, own, ?_, ?_⟩
    · exact Nat.ofDigitChars_ten_toDigits
    · simp only [if_neg short]

theorem scanExponent_text (exponent : Int) (ends : EndsNumeral rest) :
    scanExponent (Numeral.exponentText exponent ++ rest) = (some exponent, rest) := by
  rcases exponent_digits exponent with ⟨scanned, some, all, size, written⟩
  have read : scanDigits (scanned ++ rest) = (scanned, rest) :=
    scanDigits_append all fun c first => (ends c first).1
  rw [written, List.cons_append, List.cons_append, scanExponent, if_pos (.inl rfl)]
  by_cases negative : exponent < 0
  · simp only [if_pos negative, scanExponentSign, read, if_neg some, size, if_true]
    congr 2
    omega
  · simp only [if_neg negative, scanExponentSign, read, if_neg some, size]
    congr 2
    simp only [Bool.false_eq_true, if_false]
    omega

theorem exponent_read (exponent : Option Int) (ends : EndsNumeral rest) :
    scanExponent (exponent.elim [] Numeral.exponentText ++ rest) = (exponent, rest) ∧
      ∀ c ∈ (exponent.elim [] Numeral.exponentText ++ rest).head?, c.isDigit = false ∧ c ≠ '.' := by
  cases exponent with
  | none =>
      rw [Option.elim_none, List.nil_append]
      exact ⟨scanExponent_ends ends, fun c first => ⟨(ends c first).1, (ends c first).2.1⟩⟩
  | some exponent =>
      rw [Option.elim_some]
      refine ⟨scanExponent_text exponent ends, ?_⟩
      rcases exponent_digits exponent with ⟨scanned, some, all, size, written⟩
      intro c first
      rw [written] at first
      have letter : c = 'e' := (Option.mem_some.mp first).symm
      rw [letter]
      decide

theorem scanFraction_text {after : List Char} (all : ∀ c ∈ digits, c.isDigit = true)
    (stops : ∀ c ∈ after.head?, c.isDigit = false ∧ c ≠ '.') :
    scanFraction ((if digits = [] then [] else '.' :: digits) ++ after) = (digits, after) := by
  by_cases empty : digits = []
  · rw [if_pos empty, List.nil_append, empty]
    unfold scanFraction
    split
    · exact absurd rfl (stops '.' rfl).2
    · rfl
  · have read : scanDigits (digits ++ after) = (digits, after) :=
      scanDigits_append all fun c first => (stops c first).1
    rw [if_neg empty, List.cons_append, scanFraction]
    simp only [read, if_neg empty]

theorem scanWhole_text {after : List Char}
    (whole : digits = ['0'] ∨ ∃ head tail, digits = head :: tail ∧ head ≠ '0')
    (all : ∀ c ∈ digits, c.isDigit = true) (stops : ∀ c ∈ after.head?, c.isDigit = false) :
    scanWhole (digits ++ after) = (digits, after) := by
  rcases whole with zero | ⟨head, tail, shape, other⟩
  · rw [zero]
    rfl
  · have read : scanDigits (digits ++ after) = (digits, after) := scanDigits_append all stops
    rw [shape] at read ⊢
    rw [List.cons_append] at read ⊢
    unfold scanWhole
    split
    · rename_i same
      exact absurd (List.cons.inj same).1 other
    · exact read

theorem scanSign_text (negative : Bool) (digit : ∀ c ∈ digits.head?, c.isDigit = true) :
    scanSign (Numeral.sign negative ++ digits) = (negative, digits) := by
  cases negative with
  | true => rfl
  | false =>
      change scanSign digits = (false, digits)
      unfold scanSign
      split
      · exact absurd (digit '-' rfl) (by decide)
      · rfl

theorem scanNumeral_text (formed : numeral.WellFormed) (ends : EndsNumeral rest) :
    scanNumeral (numeral.text ++ rest) = some (numeral, rest) := by
  have filled : numeral.whole ≠ [] := by
    intro empty
    rcases formed.whole with zero | ⟨head, tail, shape, -⟩
    · rw [empty] at zero
      cases zero
    · rw [empty] at shape
      cases shape
  rcases exponent_read numeral.exponent ends with ⟨exponent, stops⟩
  have fraction := scanFraction_text formed.fractionDigits stops
  let exponentText := numeral.exponent.elim [] Numeral.exponentText ++ rest
  let fractionText := (if numeral.fraction = [] then [] else '.' :: numeral.fraction) ++ exponentText
  have stop : ∀ c ∈ fractionText.head?, c.isDigit = false := by
    intro c first
    by_cases empty : numeral.fraction = []
    · simp only [fractionText, if_pos empty, List.nil_append] at first
      exact (stops c first).1
    · simp only [fractionText, if_neg empty] at first
      have point : c = '.' := (Option.mem_some.mp first).symm
      rw [point]
      decide
  have whole := scanWhole_text formed.whole formed.wholeDigits stop
  have digit : ∀ c ∈ (numeral.whole ++ fractionText).head?, c.isDigit = true := by
    intro c first
    rcases List.exists_cons_of_ne_nil filled with ⟨head, tail, shape⟩
    rw [shape] at first
    have own : c = head := (Option.mem_some.mp first).symm
    rw [own]
    exact formed.wholeDigits head (by rw [shape]; exact List.mem_cons_self)
  have signed := scanSign_text numeral.negative digit
  simp only [fractionText, exponentText] at whole signed
  unfold scanNumeral Numeral.text
  simp only [List.append_assoc, signed, whole, fraction, exponent, if_neg filled]

end Scanned

section Integers

theorem toDigits_shape (value : Nat) : Nat.toDigits 10 value = ['0'] ∨
    ∃ head tail, Nat.toDigits 10 value = head :: tail ∧ head ≠ '0' := by
  induction value using Nat.strong_induction_on with
  | _ value ih =>
      by_cases small : value < 10
      · rw [Nat.toDigits_of_lt_base small]
        have each : ∀ value < 10, [Nat.digitChar value] = ['0'] ∨
            Nat.digitChar value ≠ '0' := by decide
        rcases each value small with zero | other
        · exact .inl zero
        · exact .inr ⟨_, _, rfl, other⟩
      · have large : 10 ≤ value := Nat.le_of_not_lt small
        rw [Nat.toDigits_of_base_le (by decide) large]
        rcases ih (value / 10) (by omega) with zero | ⟨head, tail, shape, other⟩
        · have size := Nat.ofDigitChars_ten_toDigits (n := value / 10)
          rw [zero] at size
          have none : value / 10 = 0 := size.symm
          omega
        · rw [shape]
          exact .inr ⟨head, _, rfl, other⟩

private theorem toDigits_head {value : Nat} (positive : 0 < value) :
    ∃ head tail, Nat.toDigits 10 value = head :: tail ∧ head ≠ '0' := by
  rcases toDigits_shape value with zero | shape
  · have size := Nat.ofDigitChars_ten_toDigits (n := value)
    rw [zero] at size
    have none : value = 0 := size.symm
    omega
  · exact shape

theorem toDigits_digits (value : Nat) : ∀ c ∈ Nat.toDigits 10 value, c.isDigit = true :=
  fun _ member => Nat.isDigit_of_mem_toDigits (by decide) (by decide) member

theorem ofInt_wellFormed (value : Int) : (Numeral.ofInt value).WellFormed :=
  { whole := toDigits_shape value.natAbs
    wholeDigits := toDigits_digits value.natAbs
    fractionDigits := fun _ member => absurd member List.not_mem_nil }

theorem ofInt_toInt (value : Int) : (Numeral.ofInt value).toInt = value := by
  have size : (Numeral.ofInt value).digits = value.natAbs := by
    unfold Numeral.digits Numeral.ofInt
    rw [List.append_nil]
    exact Nat.ofDigitChars_ten_toDigits
  unfold Numeral.toInt
  rw [size]
  by_cases negative : value < 0
  · rw [Numeral.ofInt, decide_eq_true negative, if_pos rfl]
    omega
  · rw [Numeral.ofInt, decide_eq_false negative, if_neg Bool.false_ne_true]
    omega

end Integers

/-- To the nearest integer, to the even one of two. -/
def roundHalfEven (value : ℚ) : Int :=
  let down := ⌊value⌋
  if value - down < 1 / 2 then down
  else if 1 / 2 < value - down then down + 1
  else if down % 2 = 0 then down else down + 1

/-- The binary64 number nearest to a rational one, `none` if that is infinite. The two zeros are
not told apart. -/
def binary64 (value : ℚ) : Option ℚ :=
  if value = 0 then some 0
  else
    let scale := max (Int.log 2 |value| - 52) (-1074)
    let size := roundHalfEven (|value| / 2 ^ scale) * (2 : ℚ) ^ scale
    if 2 ^ 1024 ≤ size then none
    else some (if value < 0 then -size else size)

namespace Numeral

/-- The digits with the decimal point after `point` of them, in the notation of `float.__repr__`. -/
def layout (negative : Bool) (digits : List Char) (point : Int) : Numeral :=
  if -4 < point ∧ point ≤ 16 then
    if point ≤ 0 then
      { negative, whole := ['0'], fraction := List.replicate (-point).toNat '0' ++ digits }
    else if digits.length ≤ point.toNat then
      { negative, whole := digits ++ List.replicate (point.toNat - digits.length) '0',
        fraction := ['0'] }
    else
      { negative, whole := digits.take point.toNat, fraction := digits.drop point.toNat }
  else
    { negative, whole := digits.take 1, fraction := digits.drop 1, exponent := some (point - 1) }

/-- The decimal number with so many significant digits that is nearest to a number. -/
def nearest (value : ℚ) (count : Nat) : Numeral :=
  let scale := Int.log 10 |value| + 1 - count
  let digits := Nat.toDigits 10 (roundHalfEven (|value| / 10 ^ scale)).toNat
  layout (decide (value < 0)) (digits.rdropWhile (· = '0')) (digits.length + scale)

/-- `float.__repr__`: the shortest decimal number that is read as the float. Seventeen digits are
enough for each float. -/
def ofFloat (value : ℚ) : Option Numeral :=
  if value = 0 then some { negative := false, whole := ['0'], fraction := ['0'] }
  else ((List.range' 1 17).map (nearest value)).find? fun numeral =>
    binary64 numeral.value = some value

end Numeral

section Floats

variable {value : ℚ} {numeral : Numeral}

theorem ofFloat_read (written : Numeral.ofFloat value = some numeral) :
    binary64 numeral.value = some value := by
  unfold Numeral.ofFloat at written
  by_cases zero : value = 0
  · rw [if_pos zero] at written
    have none : numeral.value = 0 := by
      rw [← Option.some.inj written]
      simp [Numeral.value, Numeral.digits, Nat.ofDigitChars_cons]
    rw [none, binary64, if_pos rfl, zero]
  · rw [if_neg zero] at written
    have found := List.find?_some written
    exact of_decide_eq_true found

theorem one_le_roundHalfEven (large : 1 ≤ value) : 1 ≤ roundHalfEven value := by
  have down : 1 ≤ ⌊value⌋ := Int.le_floor.mpr (by exact_mod_cast large)
  unfold roundHalfEven
  simp only
  split_ifs
  · exact down
  · omega
  · exact down
  · omega

theorem layout_wellFormed {negative : Bool} {digits : List Char} {point : Int} {head : Char}
    {tail : List Char} (shape : digits = head :: tail) (other : head ≠ '0')
    (all : ∀ c ∈ digits, c.isDigit = true) : (Numeral.layout negative digits point).WellFormed := by
  have zeros : ∀ count : Nat, ∀ c ∈ List.replicate count '0', c.isDigit = true := by
    intro count c member
    rw [List.eq_of_mem_replicate member]
    decide
  have taken : ∀ count : Nat, ∀ c ∈ digits.take count, c.isDigit = true :=
    fun count c member => all c (List.mem_of_mem_take member)
  have dropped : ∀ count : Nat, ∀ c ∈ digits.drop count, c.isDigit = true :=
    fun count c member => all c (List.mem_of_mem_drop member)
  unfold Numeral.layout
  split_ifs with plain small long
  · exact
      { whole := .inl rfl
        wholeDigits := zeros 1
        fractionDigits := by
          intro c member
          rcases List.mem_append.mp member with zero | digit
          · exact zeros _ c zero
          · exact all c digit }
  · exact
      { whole := .inr ⟨head, _, by rw [shape]; rfl, other⟩
        wholeDigits := by
          intro c member
          rcases List.mem_append.mp member with digit | zero
          · exact all c digit
          · exact zeros _ c zero
        fractionDigits := zeros 1 }
  · have positive : point.toNat = point.toNat - 1 + 1 := by omega
    exact
      { whole := .inr ⟨head, tail.take (point.toNat - 1), by
          rw [shape, positive, List.take_succ_cons]
          rfl, other⟩
        wholeDigits := taken _
        fractionDigits := dropped _ }
  · exact
      { whole := .inr ⟨head, [], by rw [shape]; rfl, other⟩
        wholeDigits := taken 1
        fractionDigits := dropped 1 }

theorem layout_isInt {negative : Bool} {digits : List Char} {point : Int} (some : digits ≠ []) :
    (Numeral.layout negative digits point).isInt = false := by
  unfold Numeral.layout Numeral.isInt
  split_ifs with plain small long
  · simp [some]
  · simp
  · simp only [decide_eq_false_iff_not, List.drop_eq_nil_iff]
    omega
  · simp

theorem one_le_scaled {count : Nat} (other : value ≠ 0) (counted : 0 < count) :
    1 ≤ |value| / 10 ^ (Int.log 10 |value| + 1 - count) := by
  have size : 0 < |value| := abs_pos.mpr other
  have unit : (0 : ℚ) < 10 ^ (Int.log 10 |value| + 1 - count) := zpow_pos (by norm_num) _
  rw [one_le_div unit]
  calc
    (10 : ℚ) ^ (Int.log 10 |value| + 1 - count) ≤ 10 ^ Int.log 10 |value| := by
      apply zpow_le_zpow_right₀ (by norm_num)
      omega
    _ ≤ |value| := by exact_mod_cast Int.zpow_log_le_self (b := 10) (by decide) size

/-- The digits without the zeros at the end begin like all of them. -/
theorem stripped_shape {written : Nat} (positive : 0 < written) :
    ∃ head tail, (Nat.toDigits 10 written).rdropWhile (· = '0') = head :: tail ∧ head ≠ '0' := by
  rcases toDigits_head positive with ⟨head, tail, shape, nonzero⟩
  rw [shape]
  have front := List.rdropWhile_prefix (fun c : Char => decide (c = '0')) (head :: tail)
  have filled : (head :: tail).rdropWhile (fun c : Char => decide (c = '0')) ≠ [] := by
    intro empty
    rw [List.rdropWhile_eq_nil_iff] at empty
    exact nonzero (of_decide_eq_true (empty head List.mem_cons_self))
  rcases List.exists_cons_of_ne_nil filled with ⟨first, rest, own⟩
  rw [own] at front
  have same : first = head := (List.cons_prefix_cons.mp front).1
  refine ⟨first, rest, own, ?_⟩
  rw [same]
  exact nonzero

theorem nearest_wellFormed (other : value ≠ 0) (count : Nat) (counted : 0 < count) :
    (Numeral.nearest value count).WellFormed ∧ (Numeral.nearest value count).isInt = false := by
  have rounded := one_le_roundHalfEven (one_le_scaled other counted)
  have positive : 0 < (roundHalfEven (|value| / 10 ^ (Int.log 10 |value| + 1 - count))).toNat := by
    omega
  rcases stripped_shape positive with ⟨head, tail, shape, nonzero⟩
  unfold Numeral.nearest
  simp only
  rw [shape]
  refine ⟨layout_wellFormed rfl nonzero ?_, layout_isInt (List.cons_ne_nil _ _)⟩
  intro c member
  rw [← shape] at member
  exact toDigits_digits _ c ((List.rdropWhile_prefix _ _).subset member)

/-- What is written for a float is the text of a numeral, but not of an integer. -/
theorem ofFloat_wellFormed (written : Numeral.ofFloat value = some numeral) :
    numeral.WellFormed ∧ numeral.isInt = false := by
  unfold Numeral.ofFloat at written
  by_cases zero : value = 0
  · rw [if_pos zero] at written
    rw [← Option.some.inj written]
    refine ⟨{ whole := .inl rfl, wholeDigits := ?_, fractionDigits := ?_ }, by decide⟩
    · exact List.all_eq_true.mp rfl
    · exact List.all_eq_true.mp rfl
  · rw [if_neg zero] at written
    rcases List.mem_map.mp (List.mem_of_find?_eq_some written) with ⟨count, listed, own⟩
    rw [← own]
    apply nearest_wellFormed zero
    have bounds := List.mem_range'.mp listed
    omega

end Floats

end Lib
