import HashBurst.Lib.JsonText

namespace Lib.Py.JsonText

/-- `"{:04x}".format(code)` -/
def hexFour (code : Nat) : List Char :=
  [Nat.digitChar (code / 4096), Nat.digitChar (code / 256 % 16), Nat.digitChar (code / 16 % 16),
    Nat.digitChar (code % 16)]

/-- `ensure_ascii=True` -/
def escapeAscii (c : Char) : List Char :=
  if c = '"' then ['\\', '"']
  else if c = '\\' then ['\\', '\\']
  else if c = '\n' then ['\\', 'n']
  else if c = '\r' then ['\\', 'r']
  else if c = '\t' then ['\\', 't']
  else if c = '\x08' then ['\\', 'b']
  else if c = '\x0c' then ['\\', 'f']
  else if 32 ≤ c.toNat ∧ c.toNat ≤ 126 then [c]
  else if c.toNat < 0x10000 then '\\' :: 'u' :: hexFour c.toNat
  else
    let code := c.toNat - 0x10000
    '\\' :: 'u' :: hexFour (0xd800 + code / 1024) ++
      '\\' :: 'u' :: hexFour (0xdc00 + code % 1024)

section Escapes

variable {rest : List Char}

theorem hexDigit_digitChar : ∀ digit < 16, hexDigit (Nat.digitChar digit) = some digit := by
  decide

theorem codeUnit_hexFour {code : Nat} (small : code < 65536) :
    codeUnit (Nat.digitChar (code / 4096)) (Nat.digitChar (code / 256 % 16))
      (Nat.digitChar (code / 16 % 16)) (Nat.digitChar (code % 16)) = some code := by
  unfold codeUnit
  rw [hexDigit_digitChar _ (by omega), hexDigit_digitChar _ (by omega),
    hexDigit_digitChar _ (by omega), hexDigit_digitChar _ (by omega)]
  simp only [Option.some.injEq]
  omega

private theorem scanString_unit {code : Nat} (small : code < 65536) (high : isHigh code = false)
    (low : isLow code = false) :
    scanString ('\\' :: 'u' :: hexFour code ++ rest) = push (Char.ofNat code) (scanString rest) := by
  simp only [hexFour, List.cons_append, List.nil_append, scanString, codeUnit_hexFour small, high,
    low, Bool.false_eq_true, if_false]

theorem scanString_pair {code : Nat} (small : code < 1048576) :
    scanString ('\\' :: 'u' :: hexFour (0xd800 + code / 1024) ++
      '\\' :: 'u' :: hexFour (0xdc00 + code % 1024) ++ rest) =
        push (Char.ofNat (0x10000 + code)) (scanString rest) := by
  have first : 0xd800 + code / 1024 < 65536 := by omega
  have second : 0xdc00 + code % 1024 < 65536 := by omega
  have high : isHigh (0xd800 + code / 1024) = true := by
    unfold isHigh
    rw [decide_eq_true_eq]
    omega
  have low : isLow (0xdc00 + code % 1024) = true := by
    unfold isLow
    rw [decide_eq_true_eq]
    omega
  have whole : 0x10000 + (0xd800 + code / 1024 - 0xd800) * 0x400 + (0xdc00 + code % 1024 - 0xdc00) =
      0x10000 + code := by omega
  simp only [hexFour, List.cons_append, List.nil_append, scanString, codeUnit_hexFour first,
    codeUnit_hexFour second, high, low, if_true, whole]

theorem char_valid (c : Char) : c.toNat < 0xd800 ∨ 0xdfff < c.toNat ∧ c.toNat < 0x110000 := c.valid

theorem scanString_escapeAscii (c : Char) :
    scanString (escapeAscii c ++ rest) = push c (scanString rest) := by
  unfold escapeAscii
  split_ifs with quote slash line carriage tab back form plain basic
  · rw [quote]
    exact scanString_short rfl
  · rw [slash]
    exact scanString_short rfl
  · rw [line]
    exact scanString_short rfl
  · rw [carriage]
    exact scanString_short rfl
  · rw [tab]
    exact scanString_short rfl
  · rw [back]
    exact scanString_short rfl
  · rw [form]
    exact scanString_short rfl
  · exact scanString_plain plain.1 quote slash
  · have valid := char_valid c
    have high : isHigh c.toNat = false := by
      unfold isHigh
      rw [decide_eq_false_iff_not]
      omega
    have low : isLow c.toNat = false := by
      unfold isLow
      rw [decide_eq_false_iff_not]
      omega
    rw [scanString_unit basic high low, Char.ofNat_toNat]
  · have valid := char_valid c
    have whole : 0x10000 + (c.toNat - 0x10000) = c.toNat := by omega
    rw [scanString_pair (by omega), whole, Char.ofNat_toNat]

end Escapes

/-- `separators=(",", ":")` -/
def compactAscii : Layout where
  escape := escapeAscii
  gap _ := []
  space := []
  reads c _ := scanString_escapeAscii c
  blank := compact.blank
  spaced := compact.spaced

/-- `indent=2` -/
def indented : Layout where
  escape := escapeAscii
  gap depth := '\n' :: List.replicate (2 * depth) ' '
  space := [' ']
  reads c _ := scanString_escapeAscii c
  blank depth c member := by
    rcases List.mem_cons.mp member with rfl | member
    · decide
    · rw [List.eq_of_mem_replicate member]
      decide
  spaced c member := by
    rw [List.mem_singleton.mp member]
    decide

example : String.ofList (indented.write 0 (.obj [("a", .arr [.int 1, .null]), ("b", .obj [])])) =
    "\x7b\n  \"a\": [\n    1,\n    null\n  ],\n  \"b\": \x7b\x7d\n\x7d" := by decide

end Lib.Py.JsonText
