import Mathlib.Tactic.Ring

namespace Lib

abbrev Bytes := List UInt8

namespace Bytes

/-- `bytes[start:stop]` -/
def slice (bytes : Bytes) (start stop : Nat) : Bytes := (bytes.drop start).take (stop - start)

/-- The number in `width` bytes, modulo what they can hold. -/
def bigEndian : Nat → Nat → Bytes
  | 0, _ => []
  | width + 1, value => bigEndian width (value / 256) ++ [UInt8.ofNat value]

def fromBigEndian (bytes : Bytes) : Nat :=
  bytes.foldl (fun value byte => value * 256 + byte.toNat) 0

@[simp] theorem bigEndian_length (width value : Nat) : (bigEndian width value).length = width := by
  induction width generalizing value with
  | zero => rfl
  | succ width ih => rw [bigEndian, List.length_append, ih, List.length_singleton]

private theorem fromBigEndian_append (bytes : Bytes) (byte : UInt8) :
    fromBigEndian (bytes ++ [byte]) = fromBigEndian bytes * 256 + byte.toNat := by
  unfold fromBigEndian
  rw [List.foldl_append]
  rfl

theorem fromBigEndian_bigEndian {width value : Nat} (small : value < 256 ^ width) :
    fromBigEndian (bigEndian width value) = value := by
  induction width generalizing value with
  | zero =>
      rw [pow_zero] at small
      have zero : value = 0 := by omega
      rw [zero]
      rfl
  | succ width ih =>
      have high : value / 256 < 256 ^ width := by
        apply Nat.div_lt_of_lt_mul
        calc
          value < 256 ^ (width + 1) := small
          _ = 256 * 256 ^ width := by ring
      have low : (UInt8.ofNat value).toNat = value % 256 := by simp
      rw [bigEndian, fromBigEndian_append, ih high, low]
      omega

theorem bigEndian_inj {width first second : Nat} (one : first < 256 ^ width)
    (two : second < 256 ^ width) (same : bigEndian width first = bigEndian width second) :
    first = second := by
  calc
    first = fromBigEndian (bigEndian width first) := (fromBigEndian_bigEndian one).symm
    _ = fromBigEndian (bigEndian width second) := by rw [same]
    _ = second := fromBigEndian_bigEndian two

/-- What was put between two parts is what is cut out there. -/
theorem slice_append {front middle back : Bytes} {start stop : Nat} (starts : front.length = start)
    (stops : start + middle.length = stop) : slice (front ++ (middle ++ back)) start stop = middle := by
  have size : stop - start = middle.length := by omega
  unfold slice
  rw [size, ← starts, List.drop_left, List.take_left]

theorem slice_end {front back : Bytes} {start stop : Nat} (starts : front.length = start)
    (stops : start + back.length = stop) : slice (front ++ back) start stop = back := by
  have cut : slice (front ++ (back ++ [])) start stop = back := slice_append starts stops
  rw [List.append_nil] at cut
  exact cut

end Bytes

end Lib
