import HashBurst.Lib.Decimal
import Mathlib.Tactic.Linarith

namespace Lib

section Rounding

variable {value : ℚ} {whole : Int}

theorem roundHalfEven_near (near : |value - whole| < 1 / 2) : roundHalfEven value = whole := by
  rw [abs_lt] at near
  unfold roundHalfEven
  by_cases above : (whole : ℚ) ≤ value
  · have down : ⌊value⌋ = whole := by
      rw [Int.floor_eq_iff]
      constructor
      · exact above
      · linarith
    simp only [down]
    rw [if_pos (by linarith)]
  · have down : ⌊value⌋ = whole - 1 := by
      rw [Int.floor_eq_iff]
      push_cast
      constructor
      · linarith
      · linarith
    simp only [down]
    push_cast
    rw [if_neg (by linarith), if_pos (by linarith)]
    omega

theorem roundHalfEven_close (value : ℚ) : |roundHalfEven value - value| ≤ 1 / 2 := by
  have low := Int.floor_le value
  have high := Int.lt_floor_add_one value
  unfold roundHalfEven
  simp only
  rw [abs_le]
  split_ifs
  · constructor <;> linarith
  · push_cast
    constructor <;> linarith
  · constructor <;> linarith
  · push_cast
    constructor <;> linarith

end Rounding

section Layout

theorem ofDigits_shift (digits : List Char) (count : Nat) :
    Nat.ofDigitChars 10 (digits ++ List.replicate count '0') 0 =
      10 ^ count * Nat.ofDigitChars 10 digits 0 := by
  rw [Nat.ofDigitChars_append, Nat.ofDigitChars_replicate_zero]

private theorem layout_negative (negative : Bool) (digits : List Char) (point : Int) :
    (Numeral.layout negative digits point).negative = negative := by
  unfold Numeral.layout
  split_ifs <;> rfl

/-- A numeral has the value of its digits, with the decimal point where it was set. -/
theorem layout_size (negative : Bool) {digits : List Char} {point : Int} (filled : digits ≠ []) :
    ((Numeral.layout negative digits point).digits : ℚ) *
        10 ^ ((Numeral.layout negative digits point).exponent.getD 0 -
          (Numeral.layout negative digits point).fraction.length) =
      Nat.ofDigitChars 10 digits 0 * 10 ^ (point - digits.length) := by
  have counted : 0 < digits.length := List.length_pos_iff.mpr filled
  unfold Numeral.digits Numeral.layout
  split_ifs with plain small long
  · have size : Nat.ofDigitChars 10 (['0'] ++ (List.replicate (-point).toNat '0' ++ digits)) 0 =
        Nat.ofDigitChars 10 digits 0 := by
      rw [Nat.ofDigitChars_append, Nat.ofDigitChars_append]
      simp [Nat.ofDigitChars_cons]
    simp only [size, List.length_append, List.length_replicate, Option.getD_none]
    congr 2
    omega
  · have size : Nat.ofDigitChars 10
        (digits ++ List.replicate (point.toNat - digits.length) '0' ++ ['0']) 0 =
        10 ^ (point.toNat - digits.length + 1) * Nat.ofDigitChars 10 digits 0 := by
      rw [← ofDigits_shift, List.replicate_succ', List.append_assoc]
    have power : (10 : ℚ) ^ (point.toNat - digits.length + 1) =
        10 ^ (point - digits.length + 1) := by
      rw [← zpow_natCast]
      congr 1
      omega
    simp only [size, List.length_singleton, Option.getD_none]
    push_cast
    rw [power, mul_comm (_ ^ _) (_ : ℚ), mul_assoc, ← zpow_add₀ (by norm_num)]
    congr 2
    omega
  · simp only [List.take_append_drop, List.length_drop, Option.getD_none]
    congr 2
    omega
  · simp only [List.take_append_drop, List.length_drop, Option.getD_some]
    congr 2
    omega

theorem stripped_size (digits : List Char) (scale : Int) :
    ((Nat.ofDigitChars 10 (digits.rdropWhile (· = '0')) 0 : ℕ) : ℚ) *
        10 ^ ((digits.length + scale) - (digits.rdropWhile (· = '0')).length) =
      Nat.ofDigitChars 10 digits 0 * 10 ^ scale := by
  have parts : digits.rdropWhile (fun c : Char => decide (c = '0')) ++
      digits.rtakeWhile (fun c : Char => decide (c = '0')) = digits :=
    List.rdropWhile_append_rtakeWhile
  have zeros : digits.rtakeWhile (fun c : Char => decide (c = '0')) =
      List.replicate (digits.rtakeWhile fun c : Char => decide (c = '0')).length '0' := by
    apply List.eq_replicate_of_mem
    intro c member
    have zero := List.mem_rtakeWhile_imp member
    exact of_decide_eq_true zero
  generalize digits.rdropWhile (fun c : Char => decide (c = '0')) = front at parts
  generalize digits.rtakeWhile (fun c : Char => decide (c = '0')) = back at parts zeros
  rw [← parts, zeros, ofDigits_shift, List.length_append, List.length_replicate]
  push_cast
  rw [mul_comm (_ ^ _) (_ : ℚ), mul_assoc, ← zpow_natCast, ← zpow_add₀ (by norm_num)]
  congr 2
  omega

end Layout

section Reading

variable {exact near : ℚ} {scale : Int}

def lastBit (size : ℚ) : Int := max (Int.log 2 size - 52) (-1074)

/-- A positive number is a float that is closer than half of the last bit. -/
theorem binary64_near {size : ℚ} (negative : Bool) (positive : 0 < near) {whole : Int}
    (float : size = whole * 2 ^ lastBit near) (finite : size < 2 ^ 1024)
    (close : |near - size| < 2 ^ lastBit near / 2) :
    binary64 (if negative then -near else near) = some (if negative then -size else size) := by
  have unit : (0 : ℚ) < 2 ^ lastBit near := zpow_pos (by norm_num) _
  have rounded : roundHalfEven (near / 2 ^ lastBit near) = whole := by
    apply roundHalfEven_near
    have scaled : near / 2 ^ lastBit near - whole = (near - size) / 2 ^ lastBit near := by
      rw [float]
      field_simp
    rw [scaled, abs_div, abs_of_pos unit, div_lt_iff₀ unit]
    linarith
  have size_eq : (roundHalfEven (near / 2 ^ lastBit near) : ℚ) * 2 ^ lastBit near = size := by
    rw [rounded, float]
  unfold lastBit at size_eq
  cases negative with
  | true =>
      simp only [if_true]
      unfold binary64
      rw [if_neg (by linarith)]
      simp only [abs_neg, abs_of_pos positive, size_eq]
      rw [if_neg (not_le.mpr finite), if_pos (by linarith)]
  | false =>
      simp only [Bool.false_eq_true, if_false]
      unfold binary64
      rw [if_neg positive.ne']
      simp only [abs_of_pos positive, size_eq]
      rw [if_neg (not_le.mpr finite), if_neg (by linarith)]

theorem binary64_self {value : ℚ} (float : binary64 value = some value) (other : value ≠ 0) :
    (∃ whole : Int, |value| = whole * 2 ^ lastBit |value|) ∧ |value| < 2 ^ 1024 := by
  unfold binary64 at float
  rw [if_neg other] at float
  simp only at float
  split at float
  · cases float
  · rename_i finite
    have own := Option.some.inj float
    have same : |value| = roundHalfEven (|value| / 2 ^ lastBit |value|) * 2 ^ lastBit |value| := by
      unfold lastBit
      by_cases negative : value < 0
      · rw [if_pos negative] at own
        rw [abs_of_neg negative] at own ⊢
        linarith
      · rw [if_neg negative] at own
        rw [abs_of_nonneg (not_lt.mp negative)] at own ⊢
        linarith
    refine ⟨⟨_, same⟩, ?_⟩
    unfold lastBit at same
    rw [same]
    exact not_le.mp finite

/-- A unit is below the last bit where the number has sixteen digits before it, or nearly so. -/
theorem unit_lt_lastBit {unit size : ℚ} (positive : 0 < unit) (digits : unit * (10 ^ 16 - 1) ≤ size) :
    unit < 2 ^ lastBit size := by
  have size_lt := Int.lt_zpow_succ_log_self (b := 2) (by decide) size
  push_cast at size_lt
  have split : (2 : ℚ) ^ (Int.log 2 size + 1) = 2 ^ (Int.log 2 size - 52) * 2 ^ 53 := by
    rw [← zpow_natCast, ← zpow_add₀ (by norm_num)]
    congr 1
    push_cast
    omega
  have bit : (2 : ℚ) ^ (Int.log 2 size - 52) ≤ 2 ^ lastBit size :=
    zpow_le_zpow_right₀ (by norm_num) (le_max_left _ _)
  rw [split] at size_lt
  norm_num at size_lt digits
  linarith

/-- The next multiple of the last bit is still below the next power of two. -/
theorem next_bit_le {size : ℚ} {whole : Int} (positive : 0 < size)
    (float : size = whole * 2 ^ lastBit size) :
    size + 2 ^ lastBit size ≤ 2 ^ (Int.log 2 size + 1) := by
  have unit : (0 : ℚ) < 2 ^ lastBit size := zpow_pos (by norm_num) _
  have size_lt := Int.lt_zpow_succ_log_self (b := 2) (by decide) size
  push_cast at size_lt
  have counted : 1 ≤ whole := by
    have above : (0 : ℚ) < whole := by
      by_contra none
      have small : (whole : ℚ) * 2 ^ lastBit size ≤ 0 :=
        mul_nonpos_of_nonpos_of_nonneg (not_lt.mp none) unit.le
      linarith
    exact_mod_cast above
  have below : lastBit size ≤ Int.log 2 size + 1 := by
    by_contra above
    have grows : (2 : ℚ) ^ (Int.log 2 size + 1) ≤ 2 ^ lastBit size :=
      zpow_le_zpow_right₀ (by norm_num) (by omega)
    have once : (2 : ℚ) ^ lastBit size ≤ whole * 2 ^ lastBit size := by
      have large : (1 : ℚ) ≤ whole := by exact_mod_cast counted
      nlinarith
    linarith
  rcases Int.le.dest below with ⟨count, shape⟩
  have split : (2 : ℚ) ^ (Int.log 2 size + 1) = 2 ^ count * 2 ^ lastBit size := by
    rw [← shape, add_comm, zpow_add₀ (by norm_num), zpow_natCast]
  have fewer : whole < 2 ^ count := by
    have scaled : (whole : ℚ) * 2 ^ lastBit size < 2 ^ count * 2 ^ lastBit size := by
      rw [← split, ← float]
      exact size_lt
    have less := lt_of_mul_lt_mul_right scaled unit.le
    exact_mod_cast less
  have next : (whole : ℚ) + 1 ≤ 2 ^ count := by exact_mod_cast fewer
  calc
    size + 2 ^ lastBit size = (whole + 1) * 2 ^ lastBit size := by
      rw [add_mul, one_mul, ← float]
    _ ≤ 2 ^ count * 2 ^ lastBit size := mul_le_mul_of_nonneg_right next unit.le
    _ = 2 ^ (Int.log 2 size + 1) := split.symm

/-- A decimal number with seventeen digits is closer to the float than half of its last bit. -/
theorem seventeen_digits {whole : Int} (positive : 0 < exact)
    (float : exact = whole * 2 ^ lastBit exact)
    (close : |near - exact| ≤ 10 ^ scale / 2) (digits : (10 : ℚ) ^ scale * 10 ^ 16 ≤ exact) :
    0 < near ∧ lastBit near ≤ lastBit exact ∧ |near - exact| < 2 ^ lastBit near / 2 := by
  have unit : (0 : ℚ) < 10 ^ scale := zpow_pos (by norm_num) _
  have bounds := abs_le.mp close
  have above : 0 < near := by
    norm_num at digits
    linarith
  have own : (10 : ℚ) ^ scale < 2 ^ lastBit exact := unit_lt_lastBit unit (by linarith)
  have other : (10 : ℚ) ^ scale < 2 ^ lastBit near := unit_lt_lastBit unit (by linarith)
  have next := next_bit_le positive float
  have shorter : Int.log 2 near < Int.log 2 exact + 1 := by
    rw [← Int.lt_zpow_iff_log_lt (by decide) above]
    push_cast
    linarith
  refine ⟨above, ?_, by linarith⟩
  unfold lastBit
  omega

theorem nearest_value {value : ℚ} (other : value ≠ 0) (count : Nat) (counted : 0 < count) :
    (Numeral.nearest value count).value = (if value < 0 then -1 else 1) *
      (roundHalfEven (|value| / 10 ^ (Int.log 10 |value| + 1 - count)) *
        10 ^ (Int.log 10 |value| + 1 - count)) := by
  have rounded := one_le_roundHalfEven (one_le_scaled other counted)
  unfold Numeral.nearest
  simp only
  generalize Int.log 10 |value| + 1 - count = scale at rounded ⊢
  generalize roundHalfEven (|value| / 10 ^ scale) = written at rounded ⊢
  have positive : 0 < written.toNat := by omega
  have filled : (Nat.toDigits 10 written.toNat).rdropWhile (· = '0') ≠ [] := by
    rcases stripped_shape positive with ⟨head, tail, shape, -⟩
    rw [shape]
    exact List.cons_ne_nil _ _
  have size := (layout_size (decide (value < 0)) filled).trans (stripped_size (Nat.toDigits 10 written.toNat) scale)
  have whole : ((written.toNat : ℕ) : ℚ) = written := by
    exact_mod_cast Int.toNat_of_nonneg (by omega : 0 ≤ written)
  rw [Nat.ofDigitChars_ten_toDigits, whole] at size
  unfold Numeral.value
  rw [layout_negative, mul_assoc, size]
  simp only [decide_eq_true_eq]

/-- The numeral of seventeen digits is read as the float. -/
theorem nearest_read {value : ℚ} (float : binary64 value = some value) (other : value ≠ 0) :
    binary64 (Numeral.nearest value 17).value = some value := by
  rcases binary64_self float other with ⟨⟨whole, own⟩, finite⟩
  have size : 0 < |value| := abs_pos.mpr other
  rw [nearest_value other 17 (by decide)]
  have digits : (10 : ℚ) ^ (Int.log 10 |value| + 1 - (17 : ℕ)) * 10 ^ 16 ≤ |value| := by
    calc
      (10 : ℚ) ^ (Int.log 10 |value| + 1 - (17 : ℕ)) * 10 ^ 16 = 10 ^ Int.log 10 |value| := by
        rw [← zpow_natCast, ← zpow_add₀ (by norm_num)]
        congr 1
        push_cast
        omega
      _ ≤ |value| := by exact_mod_cast Int.zpow_log_le_self (b := 10) (by decide) size
  generalize Int.log 10 |value| + 1 - (17 : ℕ) = scale at digits ⊢
  have unit : (0 : ℚ) < 10 ^ scale := zpow_pos (by norm_num) _
  have close : abs (roundHalfEven (|value| / 10 ^ scale) * 10 ^ scale - |value|) ≤
      10 ^ scale / 2 := by
    have half := roundHalfEven_close (|value| / 10 ^ scale)
    have scaled : roundHalfEven (|value| / 10 ^ scale) * 10 ^ scale - |value| =
        (roundHalfEven (|value| / 10 ^ scale) - |value| / 10 ^ scale) * 10 ^ scale := by
      field_simp
    rw [scaled, abs_mul, abs_of_pos unit]
    nlinarith
  generalize (roundHalfEven (|value| / 10 ^ scale) : ℚ) * 10 ^ scale = near at close ⊢
  rcases seventeen_digits size own close digits with ⟨positive, shorter, half⟩
  have multiple : |value| = (whole * 2 ^ (lastBit |value| - lastBit near).toNat : ℤ) *
      2 ^ lastBit near := by
    push_cast
    rw [mul_assoc, ← zpow_natCast, ← zpow_add₀ (by norm_num), Int.toNat_of_nonneg (by omega),
      sub_add_cancel]
    exact own
  have read := binary64_near (decide (value < 0)) positive multiple finite half
  by_cases negative : value < 0
  · simp only [decide_eq_true negative, if_true] at read
    rw [if_pos negative, neg_one_mul, read, abs_of_neg negative, neg_neg]
  · simp only [decide_eq_false negative, Bool.false_eq_true, if_false] at read
    rw [if_neg negative, one_mul, read, abs_of_nonneg (not_lt.mp negative)]

theorem ofFloat_isSome {value : ℚ} (float : binary64 value = some value) :
    (Numeral.ofFloat value).isSome = true := by
  unfold Numeral.ofFloat
  by_cases zero : value = 0
  · rw [if_pos zero]
    rfl
  · rw [if_neg zero, List.find?_isSome]
    refine ⟨Numeral.nearest value 17, List.mem_map_of_mem (by decide), ?_⟩
    exact decide_eq_true (nearest_read float zero)

end Reading

section Rounded

variable {value : ℚ}

private theorem roundHalfEven_nonneg (positive : 0 ≤ value) : 0 ≤ roundHalfEven value := by
  have down : 0 ≤ ⌊value⌋ := Int.floor_nonneg.mpr positive
  unfold roundHalfEven
  simp only
  split_ifs <;> omega

private theorem lastBit_mono {first second : ℚ} (below : Int.log 2 first ≤ Int.log 2 second) :
    lastBit first ≤ lastBit second := by
  unfold lastBit
  omega

/-- What a positive number is rounded to is no more than the next power of two. -/
theorem rounded_le (near : ℚ) :
    (roundHalfEven (near / 2 ^ lastBit near) : ℚ) * 2 ^ lastBit near ≤ 2 ^ (Int.log 2 near + 1) ∨
      Int.log 2 near + 1 < -1074 := by
  have unit : (0 : ℚ) < 2 ^ lastBit near := zpow_pos (by norm_num) _
  have near_lt := Int.lt_zpow_succ_log_self (b := 2) (by decide) near
  push_cast at near_lt
  by_cases tiny : Int.log 2 near + 1 < -1074
  · exact .inr tiny
  apply Or.inl
  have below : lastBit near ≤ Int.log 2 near + 1 := by
    unfold lastBit
    omega
  rcases Int.le.dest below with ⟨count, shape⟩
  have split : (2 : ℚ) ^ (Int.log 2 near + 1) = (2 ^ count : ℤ) * 2 ^ lastBit near := by
    rw [← shape, add_comm, zpow_add₀ (by norm_num), zpow_natCast]
    push_cast
    rfl
  have scaled : near / 2 ^ lastBit near < (2 ^ count : ℤ) := by
    rw [div_lt_iff₀ unit, ← split]
    exact near_lt
  have close := abs_le.mp (roundHalfEven_close (near / 2 ^ lastBit near))
  have whole : roundHalfEven (near / 2 ^ lastBit near) ≤ 2 ^ count := by
    by_contra above
    have next : (2 ^ count : ℤ) + 1 ≤ roundHalfEven (near / 2 ^ lastBit near) := by omega
    have next' : ((2 ^ count : ℤ) : ℚ) + 1 ≤ roundHalfEven (near / 2 ^ lastBit near) := by
      exact_mod_cast next
    linarith
  rw [split]
  exact mul_le_mul_of_nonneg_right (by exact_mod_cast whole) unit.le

theorem tiny_rounded {near : ℚ} (positive : 0 < near) (tiny : Int.log 2 near + 1 < -1074) :
    roundHalfEven (near / 2 ^ lastBit near) = 0 := by
  have bit : lastBit near = -1074 := by
    unfold lastBit
    omega
  have near_lt := Int.lt_zpow_succ_log_self (b := 2) (by decide) near
  push_cast at near_lt
  have small : (2 : ℚ) ^ (Int.log 2 near + 1) ≤ 2 ^ (-1075 : ℤ) :=
    zpow_le_zpow_right₀ (by norm_num) (by omega)
  have half : (2 : ℚ) ^ (-1075 : ℤ) = 2 ^ (-1074 : ℤ) / 2 := by
    rw [eq_div_iff (by norm_num), ← zpow_add_one₀ (by norm_num)]
    norm_num
  have unit : (0 : ℚ) < 2 ^ (-1074 : ℤ) := zpow_pos (by norm_num) _
  apply roundHalfEven_near
  rw [bit, Int.cast_zero, sub_zero, abs_of_pos (div_pos positive unit), div_lt_iff₀ unit]
  linarith

/-- The multiple of a last bit that a number is rounded to has a last bit that divides it. -/
theorem rounded_multiple {near size : ℚ} (positive : 0 < size)
    (rounded : size = roundHalfEven (near / 2 ^ lastBit near) * 2 ^ lastBit near)
    (below : size ≤ 2 ^ (Int.log 2 near + 1)) : ∃ whole : Int, size = whole * 2 ^ lastBit size := by
  have size_log : Int.log 2 size ≤ Int.log 2 near + 1 := by
    rw [← Int.lt_add_one_iff, ← Int.lt_zpow_iff_log_lt (by decide) positive]
    push_cast
    have grows : (2 : ℚ) ^ (Int.log 2 near + 1) < 2 ^ (Int.log 2 near + 1 + 1) :=
      zpow_lt_zpow_right₀ (by norm_num) (by omega)
    linarith
  rcases Int.lt_or_eq_of_le size_log with shorter | carried
  · have coarser : lastBit size ≤ lastBit near := lastBit_mono (by omega)
    refine ⟨roundHalfEven (near / 2 ^ lastBit near) * 2 ^ (lastBit near - lastBit size).toNat, ?_⟩
    push_cast
    rw [mul_assoc, ← zpow_natCast, ← zpow_add₀ (by norm_num), Int.toNat_of_nonneg (by omega),
      sub_add_cancel]
    exact rounded
  · have above : (2 : ℚ) ^ (Int.log 2 near + 1) ≤ size := by
      have own := Int.zpow_log_le_self (b := 2) (by decide) positive
      rw [carried] at own
      exact_mod_cast own
    have power : size = 2 ^ (Int.log 2 near + 1) := le_antisymm below above
    have whole : 1 ≤ roundHalfEven (near / 2 ^ lastBit near) := by
      have unit : (0 : ℚ) < 2 ^ lastBit near := zpow_pos (by norm_num) _
      have counted : (0 : ℚ) < roundHalfEven (near / 2 ^ lastBit near) := by
        by_contra none
        have small := mul_nonpos_of_nonpos_of_nonneg (not_lt.mp none) unit.le
        linarith
      exact_mod_cast counted
    have least : -1074 ≤ Int.log 2 near + 1 := by
      by_contra tiny
      have unit : (0 : ℚ) < 2 ^ lastBit near := zpow_pos (by norm_num) _
      have whole' : (1 : ℚ) ≤ roundHalfEven (near / 2 ^ lastBit near) := by exact_mod_cast whole
      have finer : (2 : ℚ) ^ (Int.log 2 near + 1) < 2 ^ lastBit near := by
        apply zpow_lt_zpow_right₀ (by norm_num)
        unfold lastBit
        omega
      have once : (2 : ℚ) ^ lastBit near ≤ size := by
        rw [rounded]
        nlinarith
      linarith
    have fits : lastBit size ≤ Int.log 2 near + 1 := by
      unfold lastBit
      omega
    refine ⟨2 ^ (Int.log 2 near + 1 - lastBit size).toNat, ?_⟩
    push_cast
    rw [← zpow_natCast, ← zpow_add₀ (by norm_num), Int.toNat_of_nonneg (by omega), sub_add_cancel]
    exact power

theorem binary64_float {float : ℚ} (read : binary64 value = some float) :
    binary64 float = some float := by
  by_cases zero : value = 0
  · rw [zero] at read
    have same : binary64 0 = some 0 := if_pos rfl
    rw [same] at read
    rw [← Option.some.inj read, same]
  unfold binary64 at read
  rw [if_neg zero] at read
  simp only at read
  split at read
  · cases read
  rename_i finite
  have shape : roundHalfEven (|value| / 2 ^ lastBit |value|) * (2 : ℚ) ^ lastBit |value| =
    roundHalfEven (|value| / 2 ^ max (Int.log 2 |value| - 52) (-1074)) *
      2 ^ max (Int.log 2 |value| - 52) (-1074) := rfl
  rw [← shape] at read finite
  generalize rounded : roundHalfEven (|value| / 2 ^ lastBit |value|) * (2 : ℚ) ^ lastBit |value| =
    size at read finite
  have unit : (0 : ℚ) < 2 ^ lastBit |value| := zpow_pos (by norm_num) _
  have nonneg : 0 ≤ size := by
    rw [← rounded]
    apply mul_nonneg _ unit.le
    exact_mod_cast roundHalfEven_nonneg (div_nonneg (abs_nonneg value) unit.le)
  rcases nonneg.eq_or_lt with none | positive
  · rw [← none] at read
    have same : float = 0 := by
      rw [← Option.some.inj read]
      split <;> simp
    rw [same]
    exact if_pos rfl
  · have below : size ≤ 2 ^ (Int.log 2 |value| + 1) := by
      rcases rounded_le |value| with below | tiny
      · rw [rounded] at below
        exact below
      · rw [tiny_rounded (abs_pos.mpr zero) tiny, Int.cast_zero, zero_mul] at rounded
        linarith
    rcases rounded_multiple positive rounded.symm below with ⟨whole, multiple⟩
    have own := binary64_near (decide (value < 0)) positive multiple (not_le.mp finite) (by
      rw [sub_self, abs_zero]
      exact half_pos (zpow_pos (by norm_num) _))
    rw [← Option.some.inj read]
    by_cases negative : value < 0
    · simpa [negative] using own
    · simpa [negative] using own

/-- A positive number below a power of two is off by half of its last bit at most. -/
theorem binary64_close {value : ℚ} {power : Int} (positive : 0 < value) (small : value < 2 ^ power)
    (normal : -1021 ≤ power) (finite : power ≤ 1022) :
    ∃ float, binary64 value = some float ∧ |float - value| ≤ 2 ^ (power - 53) / 2 := by
  have unit : (0 : ℚ) < 2 ^ lastBit value := zpow_pos (by norm_num) _
  have log : Int.log 2 value < power := by
    rw [← Int.lt_zpow_iff_log_lt (by decide) positive]
    exact_mod_cast small
  have bit : (2 : ℚ) ^ lastBit value ≤ 2 ^ (power - 53) := by
    apply zpow_le_zpow_right₀ (by norm_num)
    unfold lastBit
    omega
  have close : |roundHalfEven (value / 2 ^ lastBit value) * (2 : ℚ) ^ lastBit value - value| ≤
      2 ^ (power - 53) / 2 := by
    have half := roundHalfEven_close (value / 2 ^ lastBit value)
    have shape : roundHalfEven (value / 2 ^ lastBit value) * (2 : ℚ) ^ lastBit value - value =
        (roundHalfEven (value / 2 ^ lastBit value) - value / 2 ^ lastBit value) *
          2 ^ lastBit value := by
      field_simp
    rw [shape, abs_mul, abs_of_pos unit]
    calc |(roundHalfEven (value / 2 ^ lastBit value) : ℚ) - value / 2 ^ lastBit value| *
          2 ^ lastBit value ≤ 1 / 2 * 2 ^ lastBit value := by gcongr
      _ ≤ 2 ^ (power - 53) / 2 := by linarith
  refine ⟨_, ?_, close⟩
  have bound : (2 : ℚ) ^ (power - 53) ≤ 2 ^ power :=
    zpow_le_zpow_right₀ (by norm_num) (by omega)
  have double : (2 : ℚ) ^ power + 2 ^ power ≤ 2 ^ (1024 : ℤ) := by
    calc (2 : ℚ) ^ power + 2 ^ power = 2 ^ (power + 1) := by
          rw [zpow_add_one₀ (by norm_num)]
          ring
      _ ≤ 2 ^ (1024 : ℤ) := zpow_le_zpow_right₀ (by norm_num) (by omega)
  have fits := (abs_le.mp close).2
  have last : lastBit value = max (Int.log 2 value - 52) (-1074) := rfl
  have large : (2 : ℚ) ^ (1024 : ℤ) = 2 ^ 1024 := zpow_natCast 2 1024
  have some : (0 : ℚ) < 2 ^ power := zpow_pos (by norm_num) _
  rw [large] at double
  have below : ¬ (2 : ℚ) ^ 1024 ≤ roundHalfEven (value / 2 ^ lastBit value) * 2 ^ lastBit value := by
    rw [not_le]
    exact lt_of_lt_of_le (by linarith) double
  unfold binary64
  rw [if_neg positive.ne']
  simp only [abs_of_pos positive, ← last]
  rw [if_neg below, if_neg (by linarith)]

end Rounded

end Lib
