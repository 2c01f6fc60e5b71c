import Mathlib.Data.List.Basic
import HashBurst.Lib.Bytes

/-! URL-safe base64 as Python's `base64` module reads and writes it. -/

namespace Lib.Base64

/-- The value of a character, in the plain and in the URL-safe alphabet. -/
def sextet (c : Char) : Option Nat :=
  let code := c.toNat
  if 65 ≤ code ∧ code ≤ 90 then some (code - 65)
  else if 97 ≤ code ∧ code ≤ 122 then some (code - 71)
  else if 48 ≤ code ∧ code ≤ 57 then some (code + 4)
  else if c = '+' ∨ c = '-' then some 62
  else if c = '/' ∨ c = '_' then some 63
  else none

def symbol (value : Nat) : Char :=
  if value < 26 then Char.ofNat (value + 65)
  else if value < 52 then Char.ofNat (value + 71)
  else if value < 62 then Char.ofNat (value - 4)
  else if value = 62 then '-'
  else '_'

def symbols (bits : Nat) : List Char :=
  [symbol (bits / 262144 % 64), symbol (bits / 4096 % 64), symbol (bits / 64 % 64),
    symbol (bits % 64)]

def octets (first second third fourth : Nat) : Bytes :=
  let bits := first * 262144 + second * 4096 + third * 64 + fourth
  [UInt8.ofNat (bits / 65536), UInt8.ofNat (bits / 256), UInt8.ofNat bits]

/-- `urlsafe_b64encode` -/
def encode : Bytes → List Char
  | first :: second :: third :: rest =>
      symbols (first.toNat * 65536 + second.toNat * 256 + third.toNat) ++ encode rest
  | [first, second] => (symbols (first.toNat * 65536 + second.toNat * 256)).take 3 ++ ['=']
  | [first] => (symbols (first.toNat * 65536)).take 2 ++ ['=', '=']
  | [] => []

/-- The bytes that an unfinished group of two or three characters has given. -/
def flush (pending : List Nat) : Bytes :=
  (octets (pending.getD 0 0) (pending.getD 1 0) (pending.getD 2 0) 0).take (pending.length - 1)

/-- `a2b_base64`: other characters are skipped, and what follows the padding of a group is not
read. -/
def lenient (pending : List Nat) (pads : Nat) : List Char → Option Bytes
  | [] => if pending = [] then some [] else none
  | c :: rest =>
      if c = '=' then
        if 2 ≤ pending.length ∧ 4 ≤ pending.length + (pads + 1) then some (flush pending)
        else lenient pending (if 2 ≤ pending.length then pads + 1 else pads) rest
      else
        match sextet c with
        | none => lenient pending pads rest
        | some value =>
            match pending with
            | [first, second, third] =>
                (lenient [] 0 rest).map fun bytes => octets first second third value ++ bytes
            | _ => lenient (pending ++ [value]) 0 rest

/-- `urlsafe_b64decode(text.encode('ascii'))`, `none` where it raises. -/
def urlsafeDecode (text : List Char) : Option Bytes :=
  if text.all fun c => c.toNat < 128 then lenient [] 0 text else none

/-- Only characters of the alphabet, then the padding of the last group. -/
def wellFormed (text : List Char) : Bool :=
  let padding := text.dropWhile fun c => (sextet c).isSome
  padding.all (fun c => c = '=') && padding.length ≤ 2 && text.length % 4 = 0

/-- `b64decode(text.encode('ascii'), altchars=b'-_', validate=True)`, from Python 3.11 on. -/
def strictDecode (text : List Char) : Option Bytes :=
  if wellFormed text then urlsafeDecode text else none

example : strictDecode "QUE=".toList = some [65, 65] ∧ strictDecode "QUE==".toList = none ∧
    strictDecode "=".toList = none := by
  decide +kernel

theorem sextet_symbol {value : Nat} (small : value < 64) :
    sextet (symbol value) = some value ∧ symbol value ≠ '=' ∧ (symbol value).toNat < 128 := by
  have all : ∀ value < 64, sextet (symbol value) = some value ∧ symbol value ≠ '=' ∧
      (symbol value).toNat < 128 := by decide
  exact all value small

theorem lenient_symbol {pending : List Nat} {pads value : Nat} {rest : List Char}
    (short : pending.length < 3) (small : value < 64) :
    lenient pending pads (symbol value :: rest) = lenient (pending ++ [value]) 0 rest := by
  obtain ⟨read, plain, -⟩ := sextet_symbol small
  rw [lenient, if_neg plain, read]
  match pending, short with
  | [], _ => rfl
  | [_], _ => rfl
  | [_, _], _ => rfl

private theorem lenient_symbol_last {first second third pads value : Nat} {rest : List Char}
    (small : value < 64) : lenient [first, second, third] pads (symbol value :: rest) =
      (lenient [] 0 rest).map fun bytes => octets first second third value ++ bytes := by
  obtain ⟨read, plain, -⟩ := sextet_symbol small
  rw [lenient, if_neg plain, read]

theorem octets_of_bits (bits : Nat) (small : bits < 16777216) :
    octets (bits / 262144 % 64) (bits / 4096 % 64) (bits / 64 % 64) (bits % 64) =
      [UInt8.ofNat (bits / 65536), UInt8.ofNat (bits / 256), UInt8.ofNat bits] := by
  have whole : bits / 262144 % 64 * 262144 + bits / 4096 % 64 * 4096 + bits / 64 % 64 * 64 +
      bits % 64 = bits := by omega
  simp only [octets, whole]

theorem ofNat_shift (byte : UInt8) {value : Nat} (same : value % 256 = byte.toNat) :
    UInt8.ofNat value = byte := by
  apply UInt8.toNat_inj.mp
  rw [UInt8.toNat_ofNat']
  exact same

theorem lenient_encode (bytes : Bytes) : lenient [] 0 (encode bytes) = some bytes := by
  induction bytes using encode.induct with
  | case1 first second third rest ih =>
      have one := first.toNat_lt
      have two := second.toNat_lt
      have three := third.toNat_lt
      rw [encode]
      generalize bounded : first.toNat * 65536 + second.toNat * 256 + third.toNat = bits
      rw [symbols, List.cons_append, List.cons_append, List.cons_append, List.cons_append,
        List.nil_append, lenient_symbol (by decide) (by omega),
        lenient_symbol (by simp) (by omega), lenient_symbol (by simp) (by omega)]
      simp only [List.nil_append, List.cons_append]
      rw [lenient_symbol_last (by omega), ih, Option.map_some, octets_of_bits bits (by omega),
        ofNat_shift first (by omega), ofNat_shift second (by omega), ofNat_shift third (by omega)]
      rfl
  | case2 first second =>
      have one := first.toNat_lt
      have two := second.toNat_lt
      rw [encode]
      generalize bounded : first.toNat * 65536 + second.toNat * 256 = bits
      simp only [symbols, List.take_succ_cons, List.take_zero, List.cons_append, List.nil_append]
      rw [lenient_symbol (by decide) (by omega), lenient_symbol (by simp) (by omega),
        lenient_symbol (by simp) (by omega)]
      have zero : bits % 64 = 0 := by omega
      have padded := octets_of_bits bits (by omega)
      rw [zero] at padded
      simp only [List.nil_append, List.cons_append, lenient, if_true, List.length_cons,
        List.length_nil, flush]
      simp only [List.getD_cons_zero, List.getD_cons_succ, padded]
      rw [ofNat_shift first (by omega), ofNat_shift second (by omega)]
      rfl
  | case3 first =>
      have one := first.toNat_lt
      rw [encode]
      generalize bounded : first.toNat * 65536 = bits
      simp only [symbols, List.take_succ_cons, List.take_zero, List.cons_append, List.nil_append]
      rw [lenient_symbol (by decide) (by omega), lenient_symbol (by simp) (by omega)]
      have zero : bits % 64 = 0 := by omega
      have next : bits / 64 % 64 = 0 := by omega
      have padded := octets_of_bits bits (by omega)
      rw [zero, next] at padded
      simp only [List.nil_append, List.cons_append, lenient, if_true, List.length_cons,
        List.length_nil, flush]
      simp only [List.getD_cons_zero, List.getD_cons_succ, List.getD_nil, padded]
      rw [ofNat_shift first (by omega)]
      rfl
  | case4 => rfl

theorem symbols_ascii (bits : Nat) : ∀ c ∈ symbols bits, c.toNat < 128 ∧ (sextet c).isSome := by
  intro c member
  have shape : ∃ value < 64, symbol value = c := by
    simp only [symbols, List.mem_cons, List.not_mem_nil, or_false] at member
    rcases member with rfl | rfl | rfl | rfl
    · exact ⟨_, Nat.mod_lt _ (by decide), rfl⟩
    · exact ⟨_, Nat.mod_lt _ (by decide), rfl⟩
    · exact ⟨_, Nat.mod_lt _ (by decide), rfl⟩
    · exact ⟨_, Nat.mod_lt _ (by decide), rfl⟩
  obtain ⟨value, small, rfl⟩ := shape
  obtain ⟨read, -, ascii⟩ := sextet_symbol small
  exact ⟨ascii, by rw [read]; rfl⟩

theorem encode_shape (bytes : Bytes) : ∃ digits pads, encode bytes = digits ++ pads ∧
    (∀ c ∈ digits, c.toNat < 128 ∧ (sextet c).isSome) ∧
    (pads = [] ∨ pads = ['='] ∨ pads = ['=', '=']) := by
  induction bytes using encode.induct with
  | case1 first second third rest ih =>
      obtain ⟨digits, pads, same, valid, padding⟩ := ih
      refine ⟨symbols _ ++ digits, pads, by rw [encode, same, List.append_assoc], ?_, padding⟩
      intro c member
      rcases List.mem_append.mp member with front | back
      · exact symbols_ascii _ c front
      · exact valid c back
  | case2 first second =>
      refine ⟨_, ['='], rfl, ?_, .inr (.inl rfl)⟩
      intro c member
      exact symbols_ascii _ c (List.mem_of_mem_take member)
  | case3 first =>
      refine ⟨_, ['=', '='], rfl, ?_, .inr (.inr rfl)⟩
      intro c member
      exact symbols_ascii _ c (List.mem_of_mem_take member)
  | case4 => exact ⟨[], [], rfl, by simp, .inl rfl⟩

theorem encode_length (bytes : Bytes) : (encode bytes).length = (bytes.length + 2) / 3 * 4 := by
  induction bytes using encode.induct with
  | case1 first second third rest ih =>
      rw [encode, List.length_append, ih]
      simp only [symbols, List.length_cons, List.length_nil]
      omega
  | case2 first second => simp [encode, symbols]
  | case3 first => simp [encode, symbols]
  | case4 => rfl

theorem encode_alphabet (bytes : Bytes) :
    ∀ c ∈ encode bytes, c = '=' ∨ (c.toNat < 128 ∧ (sextet c).isSome) := by
  obtain ⟨digits, pads, same, valid, padding⟩ := encode_shape bytes
  intro c member
  rw [same] at member
  rcases List.mem_append.mp member with digit | pad
  · exact .inr (valid c digit)
  · apply Or.inl
    rcases padding with rfl | rfl | rfl
    · cases pad
    · exact List.mem_singleton.mp pad
    · rcases List.mem_cons.mp pad with first | second
      · exact first
      · exact List.mem_singleton.mp second

theorem encode_ascii (bytes : Bytes) : ∀ c ∈ encode bytes, c.toNat < 128 := by
  intro c member
  rcases encode_alphabet bytes c member with rfl | digit
  · decide
  · exact digit.1

theorem urlsafeDecode_encode (bytes : Bytes) : urlsafeDecode (encode bytes) = some bytes := by
  have ascii : (encode bytes).all (fun c => c.toNat < 128) = true := by
    apply List.all_eq_true.mpr
    intro c member
    exact decide_eq_true (encode_ascii bytes c member)
  rw [urlsafeDecode, if_pos ascii, lenient_encode]

theorem strictDecode_encode (bytes : Bytes) : strictDecode (encode bytes) = some bytes := by
  obtain ⟨digits, pads, same, valid, padding⟩ := encode_shape bytes
  have formed : wellFormed (encode bytes) = true := by
    have rest : (encode bytes).dropWhile (fun c => (sextet c).isSome) = pads := by
      rw [same, List.dropWhile_append_of_pos fun c member => (valid c member).2]
      rcases padding with rfl | rfl | rfl <;> decide
    have whole : (encode bytes).length % 4 = 0 := by
      rw [encode_length]
      exact Nat.mul_mod_left _ _
    rw [wellFormed]
    simp only [rest, whole]
    rcases padding with rfl | rfl | rfl <;> decide
  rw [strictDecode, if_pos formed, urlsafeDecode_encode]

end Lib.Base64
