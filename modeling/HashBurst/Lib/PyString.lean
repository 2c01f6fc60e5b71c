namespace Lib.Py

def isSpace (c : Char) : Bool :=
  let code := c.toNat
  (9 ≤ code && code ≤ 13) || (28 ≤ code && code ≤ 32) || code == 0x85 || code == 0xA0 ||
    code == 0x1680 || (0x2000 ≤ code && code ≤ 0x200A) || code == 0x2028 || code == 0x2029 ||
    code == 0x202F || code == 0x205F || code == 0x3000

def strip (text : String) : String :=
  String.ofList ((text.toList.dropWhile isSpace).reverse.dropWhile isSpace).reverse

/-- `text[:limit]`. -/
def clip (limit : Nat) (text : String) : String := String.ofList (text.toList.take limit)

def startsWith (text front : String) : Bool := front.toList.isPrefixOf text.toList

/-- `str(value or "").strip() or None` for a value that is a string or `None`. -/
def stripOrNone (value : Option String) : Option String :=
  let text := strip (value.getD "")
  if text = "" then none else some text

/-- `text.lower()`, for what only ASCII letters and digits are read from. -/
def lower (text : String) : String := String.ofList (text.toList.map Char.toLower)

def hexDigit (c : Char) : Option Nat :=
  let code := c.toNat
  if 48 ≤ code ∧ code ≤ 57 then some (code - 48)
  else if 65 ≤ code ∧ code ≤ 70 then some (code - 55)
  else if 97 ≤ code ∧ code ≤ 102 then some (code - 87)
  else none

/-- `bytes.fromhex(text)`, `none` where it raises. ASCII blanks may stand between the bytes. -/
def fromHex : List Char → Option (List Nat)
  | [] => some []
  | first :: rest =>
      if first = ' ' ∨ (9 ≤ first.toNat ∧ first.toNat ≤ 13) then fromHex rest
      else
        match rest with
        | [] => none
        | second :: rest =>
            match hexDigit first, hexDigit second, fromHex rest with
            | some high, some low, some bytes => some ((high * 16 + low) :: bytes)
            | _, _, _ => none

/-- `value or default` for a string. -/
def orElse (value default : String) : String := if value = "" then default else value

end Lib.Py
