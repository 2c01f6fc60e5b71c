import HashBurst.Lib.Bytes

/-! The recovery key that `generateRecoveryKey` of `hb-crypto.js` makes from its random bytes. -/

namespace HashBurst.Files

open Lib

namespace RecoveryKey

/-- `B32` -/
def alphabet : List Char := "ABCDEFGHIJKLMNOPQRSTUVWXYZ234567".toList

/-- `B32[index]`, where the index is below 32. -/
def letter (index : UInt8) : Char := alphabet.getD index.toNat ' '

/-- `out` after the loop over the bytes. -/
def encode (bytes : Bytes) : List Char :=
  bytes.flatMap fun byte => [letter (byte &&& 31), letter ((byte >>> 3) &&& 31)]

/-- `out.match(/.{1,4}/g)` -/
def groups : List Char → List (List Char)
  | [] => []
  | first :: second :: third :: fourth :: rest => [first, second, third, fourth] :: groups rest
  | short => [short]

end RecoveryKey

open RecoveryKey

/-- `generateRecoveryKey`, with the bytes that `rnd` draws. -/
def generateRecoveryKey (bytes : Bytes) : String :=
  String.ofList ("HBRK-".toList ++ List.intercalate ['-'] ((groups (encode bytes)).take 8))

section Letters

theorem low_toNat (byte : UInt8) : (byte &&& 31).toNat = byte.toNat % 32 := by
  rw [UInt8.toNat_and]
  exact Nat.and_two_pow_sub_one_eq_mod byte.toNat 5

theorem high_toNat (byte : UInt8) : ((byte >>> 3) &&& 31).toNat = byte.toNat / 8 := by
  have small := byte.toNat_lt
  have shifted : (byte >>> 3).toNat = byte.toNat / 8 := by
    rw [UInt8.toNat_shiftRight, Nat.shiftRight_eq_div_pow]
    rfl
  rw [low_toNat, shifted]
  omega

private theorem alphabet_get : ∀ first < 32, ∀ second < 32,
    alphabet.getD first ' ' = alphabet.getD second ' ' → first = second := by
  decide

theorem letter_inj {first second : UInt8} (one : first.toNat < 32) (two : second.toNat < 32)
    (same : letter first = letter second) : first.toNat = second.toNat :=
  alphabet_get _ one _ two same

theorem letter_plain {index : UInt8} (small : index.toNat < 32) : letter index ≠ '-' := by
  have each : ∀ index < 32, alphabet.getD index ' ' ≠ '-' := by decide
  exact each index.toNat small

/-- The two letters of a byte share two of its bits, and leave none out. -/
theorem letters_inj {first second : UInt8}
    (low : letter (first &&& 31) = letter (second &&& 31))
    (high : letter ((first >>> 3) &&& 31) = letter ((second >>> 3) &&& 31)) : first = second := by
  have one := first.toNat_lt
  have two := second.toNat_lt
  have lows := letter_inj (by rw [low_toNat]; omega) (by rw [low_toNat]; omega) low
  have highs := letter_inj (by rw [high_toNat]; omega) (by rw [high_toNat]; omega) high
  rw [low_toNat, low_toNat] at lows
  rw [high_toNat, high_toNat] at highs
  apply UInt8.toNat_inj.mp
  omega

end Letters

section Texts

theorem encode_cons (byte : UInt8) (bytes : Bytes) : encode (byte :: bytes) =
    letter (byte &&& 31) :: letter ((byte >>> 3) &&& 31) :: encode bytes := rfl

theorem encode_inj {first second : Bytes} (same : encode first = encode second) :
    first = second := by
  induction first generalizing second with
  | nil =>
      cases second with
      | nil => rfl
      | cons head tail => cases same
  | cons byte bytes ih =>
      cases second with
      | nil => cases same
      | cons head tail =>
          rw [encode_cons, encode_cons, List.cons.injEq, List.cons.injEq] at same
          rw [letters_inj same.1 same.2.1, ih same.2.2]

private theorem encode_plain (bytes : Bytes) : ∀ c ∈ encode bytes, c ≠ '-' := by
  intro c member
  rcases List.mem_flatMap.mp member with ⟨byte, -, listed⟩
  have small := byte.toNat_lt
  rcases List.mem_cons.mp listed with rfl | listed
  · exact letter_plain (by rw [low_toNat]; omega)
  · rw [List.mem_singleton.mp listed]
    exact letter_plain (by rw [high_toNat]; omega)

theorem groups_flatten (text : List Char) : (groups text).flatten = text := by
  induction text using groups.induct with
  | case1 => rfl
  | case2 first second third fourth rest ih =>
      rw [groups, List.flatten_cons, ih]
      rfl
  | case3 short some long =>
      rw [groups]
      · simp
      · exact some
      · exact long

theorem groups_take (count : Nat) (bytes : Bytes) :
    (groups (encode bytes)).take count = groups (encode (bytes.take (2 * count))) := by
  induction count generalizing bytes with
  | zero => rfl
  | succ count ih =>
      have twice : 2 * (count + 1) = 2 * count + 1 + 1 := by omega
      rw [twice]
      match bytes with
      | [] => rfl
      | [byte] =>
          have one : (groups (encode [byte])).length ≤ count + 1 := by simp [encode, groups]
          rw [List.take_of_length_le one, List.take_succ_cons, List.take_nil]
      | first :: second :: rest =>
          rw [List.take_succ_cons, List.take_succ_cons, encode_cons, encode_cons, encode_cons,
            encode_cons, groups, groups, List.take_succ_cons, ih]

theorem intercalate_filter (parts : List (List Char)) :
    (List.intercalate ['-'] parts).filter (· ≠ '-') = parts.flatten.filter (· ≠ '-') := by
  induction parts with
  | nil => rfl
  | cons head tail ih =>
      cases tail with
      | nil => simp
      | cons next more =>
          have shape : List.intercalate ['-'] (head :: next :: more) =
              head ++ '-' :: List.intercalate ['-'] (next :: more) := by
            unfold List.intercalate
            rw [List.intersperse_cons_cons]
            rfl
          rw [shape, List.filter_append, List.filter_cons_of_neg (by decide), ih,
            List.flatten_cons (L := next :: more), List.filter_append]

/-- The letters of a key are those of its first sixteen bytes. -/
theorem generateRecoveryKey_letters (bytes : Bytes) :
    ((generateRecoveryKey bytes).toList.drop 5).filter (· ≠ '-') = encode (bytes.take 16) := by
  have body : (generateRecoveryKey bytes).toList.drop 5 =
      List.intercalate ['-'] ((groups (encode bytes)).take 8) := by
    unfold generateRecoveryKey
    rw [String.toList_ofList]
    rfl
  rw [body, intercalate_filter, groups_take, groups_flatten, List.filter_eq_self]
  intro c member
  exact decide_eq_true (encode_plain _ c member)

/-- Two keys are the same exactly where the first sixteen bytes are. -/
theorem generateRecoveryKey_eq_iff (first second : Bytes) :
    generateRecoveryKey first = generateRecoveryKey second ↔ first.take 16 = second.take 16 := by
  constructor
  · intro same
    apply encode_inj
    rw [← generateRecoveryKey_letters, ← generateRecoveryKey_letters, same]
  · intro same
    unfold generateRecoveryKey
    rw [groups_take, groups_take, same]

theorem lastByte_dropped : ∃ first second : Bytes, first.length = 20 ∧ second.length = 20 ∧
    first ≠ second ∧ generateRecoveryKey first = generateRecoveryKey second := by
  refine ⟨List.replicate 20 0, List.replicate 19 0 ++ [1], rfl, rfl, by decide, ?_⟩
  unfold generateRecoveryKey
  rw [groups_take, groups_take]
  rfl

end Texts

end HashBurst.Files
