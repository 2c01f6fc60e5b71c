import HashBurst.Lib.Binary64
import HashBurst.Lib.PyJson
import Mathlib.Data.List.Sort

/-! JSON text as `json.dumps` writes it and `json.loads` reads it. -/

namespace Lib.Py

/-- What the interpreter allows: the digits of an integer, and the nesting of arrays and objects. -/
structure Bounds where
  digits : Nat := 4300
  nesting : Nat

/-- What `json.loads` raises. A text is `outside` where Python's value is none of `Json`: a number
that is not finite, a lone surrogate. -/
inductive ScanError
  | decode
  | value
  | recursion
  | outside
  deriving DecidableEq

abbrev Scan (α : Type) := Except ScanError (α × List Char)

namespace JsonText

section Write

def escape (c : Char) : List Char :=
  if c = '"' then ['\\', '"']
  else if c = '\\' then ['\\', '\\']
  else if c = '\n' then ['\\', 'n']
  else if c = '\r' then ['\\', 'r']
  else if c = '\t' then ['\\', 't']
  else if c = '\x08' then ['\\', 'b']
  else if c = '\x0c' then ['\\', 'f']
  else if c.toNat < 32 then
    ['\\', 'u', '0', '0', Nat.digitChar (c.toNat / 16), Nat.digitChar (c.toNat % 16)]
  else [c]

def writeStr (text : String) : List Char := '"' :: (text.toList.flatMap escape ++ ['"'])

def commas : List (List Char) → List Char
  | [] => []
  | [last] => last
  | head :: rest => head ++ ',' :: commas rest

mutual

/-- `json.dumps(value, separators=(",", ":"), ensure_ascii=False)` -/
def write : Json → List Char
  | .null => ['n', 'u', 'l', 'l']
  | .bool true => ['t', 'r', 'u', 'e']
  | .bool false => ['f', 'a', 'l', 's', 'e']
  | .int value => (Numeral.ofInt value).text
  | .float value => (Numeral.ofFloat value).elim [] Numeral.text
  | .str text => writeStr text
  | .arr items => '[' :: (commas (writeItems items) ++ [']'])
  | .obj fields => '{' :: (commas (writeFields fields) ++ ['}'])

def writeItems : List Json → List (List Char)
  | [] => []
  | item :: rest => write item :: writeItems rest

def writeFields : List (String × Json) → List (List Char)
  | [] => []
  | (name, value) :: rest => (writeStr name ++ ':' :: write value) :: writeFields rest

end

mutual

def sortKeys : Json → Json
  | .arr items => .arr (sortItems items)
  | .obj fields => .obj ((sortValues fields).insertionSort fun first second => first.1 ≤ second.1)
  | value => value

def sortItems : List Json → List Json
  | [] => []
  | item :: rest => sortKeys item :: sortItems rest

def sortValues : List (String × Json) → List (String × Json)
  | [] => []
  | (name, value) :: rest => (name, sortKeys value) :: sortValues rest

end

def dumps (value : Json) : List Char := write (sortKeys value)

end Write

section Scan

def isBlank (c : Char) : Bool := c = ' ' ∨ c = '\t' ∨ c = '\n' ∨ c = '\r'

def skip (text : List Char) : List Char := text.dropWhile isBlank

/-- The four digits after `\u`. -/
def codeUnit (first second third fourth : Char) : Option Nat :=
  match hexDigit first, hexDigit second, hexDigit third, hexDigit fourth with
  | some first, some second, some third, some fourth =>
      some (((first * 16 + second) * 16 + third) * 16 + fourth)
  | _, _, _, _ => none

def isHigh (code : Nat) : Bool := 0xd800 ≤ code ∧ code ≤ 0xdbff

def isLow (code : Nat) : Bool := 0xdc00 ≤ code ∧ code ≤ 0xdfff

def unescape : Char → Option Char
  | '"' => some '"'
  | '\\' => some '\\'
  | '/' => some '/'
  | 'b' => some '\x08'
  | 'f' => some '\x0c'
  | 'n' => some '\n'
  | 'r' => some '\r'
  | 't' => some '\t'
  | _ => none

def push (c : Char) (scanned : Scan (List Char)) : Scan (List Char) :=
  scanned.map fun own => (c :: own.1, own.2)

def scanString : List Char → Scan (List Char)
  | [] => .error .decode
  | '"' :: rest => .ok ([], rest)
  | '\\' :: 'u' :: a :: b :: c :: d :: rest =>
      match codeUnit a b c d with
      | none => .error .decode
      | some code =>
          if isHigh code then
            match rest with
            | '\\' :: 'u' :: a :: b :: c :: d :: rest =>
                match codeUnit a b c d with
                | none => .error .decode
                | some low =>
                    if isLow low then
                      push (Char.ofNat (0x10000 + (code - 0xd800) * 0x400 + (low - 0xdc00)))
                        (scanString rest)
                    else .error .outside
            | _ => .error .outside
          else if isLow code then .error .outside
          else push (Char.ofNat code) (scanString rest)
  | '\\' :: head :: rest =>
      match unescape head with
      | some c => push c (scanString rest)
      | none => .error .decode
  | ['\\'] => .error .decode
  | c :: rest => if c.toNat < 32 then .error .decode else push c (scanString rest)

def scanNumber (bounds : Bounds) (text : List Char) : Scan Json :=
  match scanNumeral text with
  | none => .error .decode
  | some (numeral, rest) =>
      if numeral.isInt then
        if bounds.digits < numeral.whole.length then .error .value
        else .ok (.int numeral.toInt, rest)
      else
        match binary64 numeral.value with
        | some value => .ok (.float value, rest)
        | none => .error .outside

/-- A value, where an array and an object are read by these functions. -/
def scanValue (bounds : Bounds) (array object : List Char → Scan Json) : List Char → Scan Json
  | '"' :: rest => (scanString rest).map fun own => (.str (String.ofList own.1), own.2)
  | '{' :: rest => object rest
  | '[' :: rest => array rest
  | 'n' :: 'u' :: 'l' :: 'l' :: rest => .ok (.null, rest)
  | 't' :: 'r' :: 'u' :: 'e' :: rest => .ok (.bool true, rest)
  | 'f' :: 'a' :: 'l' :: 's' :: 'e' :: rest => .ok (.bool false, rest)
  | 'N' :: 'a' :: 'N' :: _ => .error .outside
  | 'I' :: 'n' :: 'f' :: 'i' :: 'n' :: 'i' :: 't' :: 'y' :: _ => .error .outside
  | '-' :: 'I' :: 'n' :: 'f' :: 'i' :: 'n' :: 'i' :: 't' :: 'y' :: _ => .error .outside
  | text => scanNumber bounds text

/-- The items after the opening bracket. Each takes a character at least, so that the length of the
text bounds their number. -/
def scanItems (scan : List Char → Scan Json) : Nat → List Char → Scan (List Json)
  | 0, _ => .error .decode
  | fuel + 1, text =>
      match scan text with
      | .error failure => .error failure
      | .ok (item, rest) =>
          match skip rest with
          | ']' :: rest => .ok ([item], rest)
          | ',' :: rest => (scanItems scan fuel (skip rest)).map fun own => (item :: own.1, own.2)
          | _ => .error .decode

def scanArray (scan : List Char → Scan Json) (text : List Char) : Scan Json :=
  match skip text with
  | ']' :: rest => .ok (.arr [], rest)
  | rest => (scanItems scan rest.length rest).map fun own => (.arr own.1, own.2)

/-- `fields[name] = value`, in the order of the first insertions. -/
def put (name : String) (value : Json) : Dict → Dict
  | [] => [(name, value)]
  | (own, old) :: rest =>
      if own = name then (own, value) :: rest else (own, old) :: put name value rest

def scanFields (scan : List Char → Scan Json) : Nat → Dict → List Char → Scan Dict
  | 0, _, _ => .error .decode
  | fuel + 1, fields, text =>
      match text with
      | '"' :: rest =>
          match scanString rest with
          | .error failure => .error failure
          | .ok (name, rest) =>
              match skip rest with
              | ':' :: rest =>
                  match scan (skip rest) with
                  | .error failure => .error failure
                  | .ok (value, rest) =>
                      let fields := put (String.ofList name) value fields
                      match skip rest with
                      | '}' :: rest => .ok (fields, rest)
                      | ',' :: rest => scanFields scan fuel fields (skip rest)
                      | _ => .error .decode
              | _ => .error .decode
      | _ => .error .decode

def scanObject (scan : List Char → Scan Json) (text : List Char) : Scan Json :=
  match skip text with
  | '}' :: rest => .ok (.obj [], rest)
  | rest => (scanFields scan rest.length [] rest).map fun own => (.obj own.1, own.2)

def scanOnce (bounds : Bounds) : Nat → List Char → Scan Json
  | 0 => scanValue bounds (fun _ => .error .recursion) (fun _ => .error .recursion)
  | nesting + 1 =>
      scanValue bounds (scanArray (scanOnce bounds nesting)) (scanObject (scanOnce bounds nesting))

def loads (bounds : Bounds) (text : List Char) : Except ScanError Json :=
  match text with
  | '\ufeff' :: _ => .error .decode
  | text =>
      match scanOnce bounds bounds.nesting (skip text) with
      | .error failure => .error failure
      | .ok (value, rest) => if skip rest = [] then .ok value else .error .decode

end Scan

/-- The values that the interpreter writes and reads: objects with distinct names, integers and
nesting within the bounds, and numbers that are floats. -/
inductive Fits (bounds : Bounds) : Nat → Json → Prop
  | null {nesting} : Fits bounds nesting .null
  | bool {nesting} (value : Bool) : Fits bounds nesting (.bool value)
  | int {nesting} {value : Int} (short : (Nat.toDigits 10 value.natAbs).length ≤ bounds.digits) :
      Fits bounds nesting (.int value)
  | float {nesting} {value : ℚ} (float : binary64 value = some value) :
      Fits bounds nesting (.float value)
  | str {nesting} (text : String) : Fits bounds nesting (.str text)
  | arr {nesting} {items : List Json} (each : ∀ item ∈ items, Fits bounds nesting item) :
      Fits bounds (nesting + 1) (.arr items)
  | obj {nesting} {fields : List (String × Json)} (distinct : (fields.map Prod.fst).Nodup)
      (each : ∀ field ∈ fields, Fits bounds nesting field.2) :
      Fits bounds (nesting + 1) (.obj fields)

section Strings

variable {rest : List Char}

theorem unescape_cases (c : Char) :
    (∃ short, unescape short = some c ∧ escape c = ['\\', short]) ∨
      (c.toNat < 32 ∧ escape c = ['\\', 'u', '0', '0', Nat.digitChar (c.toNat / 16),
        Nat.digitChar (c.toNat % 16)]) ∨
      (32 ≤ c.toNat ∧ c ≠ '"' ∧ c ≠ '\\' ∧ escape c = [c]) := by
  unfold escape
  split_ifs with quote slash line carriage tab back form control
  · exact .inl ⟨'"', by rw [quote]; rfl, rfl⟩
  · exact .inl ⟨'\\', by rw [slash]; rfl, rfl⟩
  · exact .inl ⟨'n', by rw [line]; rfl, rfl⟩
  · exact .inl ⟨'r', by rw [carriage]; rfl, rfl⟩
  · exact .inl ⟨'t', by rw [tab]; rfl, rfl⟩
  · exact .inl ⟨'b', by rw [back]; rfl, rfl⟩
  · exact .inl ⟨'f', by rw [form]; rfl, rfl⟩
  · exact .inr (.inl ⟨control, rfl⟩)
  · exact .inr (.inr ⟨Nat.le_of_not_lt control, quote, slash, rfl⟩)

private theorem codeUnit_control {code : Nat} (control : code < 32) :
    codeUnit '0' '0' (Nat.digitChar (code / 16)) (Nat.digitChar (code % 16)) = some code := by
  have each : ∀ code < 32,
      codeUnit '0' '0' (Nat.digitChar (code / 16)) (Nat.digitChar (code % 16)) = some code := by
    decide
  exact each code control

theorem scanString_short {short c : Char} (known : unescape short = some c) :
    scanString ('\\' :: short :: rest) = push c (scanString rest) := by
  have other : short ≠ 'u' := by
    rintro rfl
    cases known
  rw [scanString]
  · rw [known]
  · intro a b c d after same
    exact absurd same other

theorem scanString_plain {c : Char} (large : 32 ≤ c.toNat) (quote : c ≠ '"') (slash : c ≠ '\\') :
    scanString (c :: rest) = push c (scanString rest) := by
  rw [scanString]
  · rw [if_neg (Nat.not_lt.mpr large)]
  · exact quote
  · intro a b c d after same
    exact absurd same slash
  · intro head after same
    exact absurd same slash
  · intro same
    exact absurd same slash

theorem scanString_escape (c : Char) :
    scanString (escape c ++ rest) = push c (scanString rest) := by
  rcases unescape_cases c with ⟨short, known, written⟩ | ⟨control, written⟩ |
    ⟨large, quote, slash, written⟩
  · rw [written]
    exact scanString_short known
  · rw [written]
    have high : isHigh c.toNat = false := by
      unfold isHigh
      rw [decide_eq_false_iff_not]
      omega
    have low : isLow c.toNat = false := by
      unfold isLow
      rw [decide_eq_false_iff_not]
      omega
    simp only [List.cons_append, List.nil_append, scanString, codeUnit_control control, high, low,
      Bool.false_eq_true, if_false, Char.ofNat_toNat]
  · rw [written, List.cons_append, List.nil_append]
    exact scanString_plain large quote slash

end Strings

section Layouts

/-- How a text is laid out: what stands for a character of a string, the white space before an item
at each depth, and the one after a name. -/
structure Layout where
  escape : Char → List Char
  gap : Nat → List Char
  space : List Char
  reads : ∀ (c : Char) (rest : List Char), scanString (escape c ++ rest) = push c (scanString rest)
  blank : ∀ depth, ∀ c ∈ gap depth, isBlank c = true
  spaced : ∀ c ∈ space, isBlank c = true

namespace Layout

variable (layout : Layout)

def writeStr (text : String) : List Char := '"' :: (text.toList.flatMap layout.escape ++ ['"'])

def enclose (depth : Nat) : List (List Char) → List Char
  | [] => []
  | texts => commas texts ++ layout.gap depth

mutual

/-- `json.dumps(value)` in this layout. -/
def write (depth : Nat) : Json → List Char
  | .null => ['n', 'u', 'l', 'l']
  | .bool true => ['t', 'r', 'u', 'e']
  | .bool false => ['f', 'a', 'l', 's', 'e']
  | .int value => (Numeral.ofInt value).text
  | .float value => (Numeral.ofFloat value).elim [] Numeral.text
  | .str text => layout.writeStr text
  | .arr items => '[' :: (layout.enclose depth (writeItems (depth + 1) items) ++ [']'])
  | .obj fields => '{' :: (layout.enclose depth (writeFields (depth + 1) fields) ++ ['}'])

def writeItems (depth : Nat) : List Json → List (List Char)
  | [] => []
  | item :: rest => (layout.gap depth ++ write depth item) :: writeItems depth rest

def writeFields (depth : Nat) : List (String × Json) → List (List Char)
  | [] => []
  | (name, value) :: rest =>
      (layout.gap depth ++ (layout.writeStr name ++ ':' :: (layout.space ++ write depth value))) ::
        writeFields depth rest

end

end Layout

end Layouts

section Values

variable {layout : Layout} {bounds : Bounds} {nesting depth : Nat} {value : Json} {rest : List Char}

private theorem scanString_text (layout : Layout) (text : List Char) :
    scanString (text.flatMap layout.escape ++ '"' :: rest) = .ok (text, rest) := by
  induction text with
  | nil => rfl
  | cons head tail ih =>
      rw [List.flatMap_cons, List.append_assoc, layout.reads, ih]
      rfl

theorem scanString_writeStr (layout : Layout) (rest : List Char) (text : String) :
    ∃ body, layout.writeStr text ++ rest = '"' :: body ∧
      scanString body = .ok (text.toList, rest) := by
  refine ⟨text.toList.flatMap layout.escape ++ '"' :: rest, ?_, scanString_text layout text.toList⟩
  rw [Layout.writeStr, List.cons_append, List.append_assoc]
  rfl

/-- What follows a value within an array or an object, or at the end. -/
def Delimits (rest : List Char) : Prop :=
  ∀ c ∈ rest.head?, c = ',' ∨ c = ']' ∨ c = '}' ∨ isBlank c = true

theorem delimits_ends (delimits : Delimits rest) : EndsNumeral rest := by
  intro c first
  rcases delimits c first with rfl | rfl | rfl | blank
  · decide
  · decide
  · decide
  · unfold isBlank at blank
    rcases of_decide_eq_true blank with rfl | rfl | rfl | rfl
    · decide
    · decide
    · decide
    · decide

theorem skip_blank {blanks : List Char} (blank : ∀ c ∈ blanks, isBlank c = true)
    (rest : List Char) : skip (blanks ++ rest) = skip rest := by
  induction blanks with
  | nil => rfl
  | cons head tail ih =>
      rw [List.cons_append]
      unfold skip at ih ⊢
      rw [List.dropWhile_cons_of_pos (blank head List.mem_cons_self)]
      exact ih fun c member => blank c (List.mem_cons_of_mem _ member)

theorem skip_solid {head : Char} {tail : List Char} (solid : isBlank head = false) :
    skip (head :: tail) = head :: tail := List.dropWhile_cons_of_neg (by simp [solid])

theorem delimits_gap (layout : Layout) (depth : Nat) {close : Char}
    (closes : close = ']' ∨ close = '}') (rest : List Char) :
    Delimits (layout.gap depth ++ close :: rest) ∧
      skip (layout.gap depth ++ close :: rest) = close :: rest := by
  have solid : isBlank close = false := by
    rcases closes with rfl | rfl
    · decide
    · decide
  constructor
  · have blank := layout.blank depth
    intro c first
    cases shape : layout.gap depth with
    | nil =>
        rw [shape] at first
        cases first
        rcases closes with rfl | rfl
        · exact .inr (.inl rfl)
        · exact .inr (.inr (.inl rfl))
    | cons head tail =>
        rw [shape] at first blank
        cases first
        exact .inr (.inr (.inr (blank _ List.mem_cons_self)))
  · rw [skip_blank (layout.blank depth), skip_solid solid]

theorem delimits_comma (rest : List Char) : Delimits (',' :: rest) := by
  rintro c ⟨⟩
  exact .inl rfl

theorem numeral_head {numeral : Numeral} (formed : numeral.WellFormed) :
    ∃ head tail, numeral.whole = head :: tail ∧ head.isDigit = true ∧
      ∃ more, numeral.text = Numeral.sign numeral.negative ++ head :: more := by
  have digits := formed.wholeDigits
  have first : ∃ head tail, numeral.whole = head :: tail := by
    rcases formed.whole with zero | ⟨head, tail, shape, -⟩
    · exact ⟨'0', [], zero⟩
    · exact ⟨head, tail, shape⟩
  rcases first with ⟨head, tail, shape⟩
  refine ⟨head, tail, shape, digits head (by rw [shape]; exact List.mem_cons_self), ?_⟩
  unfold Numeral.text
  rw [shape]
  exact ⟨_, rfl⟩

private theorem digit_other {c : Char} (digit : c.isDigit = true) :
    c ≠ '"' ∧ c ≠ '{' ∧ c ≠ '[' ∧ c ≠ 'n' ∧ c ≠ 't' ∧ c ≠ 'f' ∧ c ≠ 'N' ∧ c ≠ 'I' ∧ c ≠ '-' := by
  refine ⟨?_, ?_, ?_, ?_, ?_, ?_, ?_, ?_, ?_⟩
  all_goals
    rintro rfl
    revert digit
    decide

theorem scanValue_number {array object : List Char → Scan Json} {negative : Bool} {head : Char}
    {more : List Char} (digit : head.isDigit = true) :
    scanValue bounds array object (Numeral.sign negative ++ head :: more) =
      scanNumber bounds (Numeral.sign negative ++ head :: more) := by
  rcases digit_other digit with ⟨quote, brace, bracket, n, t, f, nan, infinite, minus⟩
  cases negative with
  | true =>
      change scanValue bounds array object ('-' :: head :: more) = _
      unfold scanValue
      split <;> simp_all [Numeral.sign]
  | false =>
      change scanValue bounds array object (head :: more) = _
      unfold scanValue
      split <;> simp_all [Numeral.sign]

theorem scanValue_numeral {array object : List Char → Scan Json} {numeral : Numeral}
    (formed : numeral.WellFormed) (delimits : Delimits rest) :
    scanValue bounds array object (numeral.text ++ rest) =
      if numeral.isInt then
        if bounds.digits < numeral.whole.length then .error .value
        else .ok (.int numeral.toInt, rest)
      else
        match binary64 numeral.value with
        | some value => .ok (.float value, rest)
        | none => .error .outside := by
  rcases numeral_head formed with ⟨head, tail, -, digit, more, shape⟩
  have read := scanNumeral_text formed (delimits_ends delimits)
  rw [shape, List.append_assoc, List.cons_append] at read ⊢
  rw [scanValue_number digit, scanNumber, read]

/-- What a value is written as begins neither with a blank nor with the end of something. -/
theorem write_head (fits : Fits bounds nesting value) (layout : Layout) (depth : Nat) :
    ∃ head tail, layout.write depth value = head :: tail ∧
      isBlank head = false ∧ head ≠ ']' ∧ head ≠ '}' ∧ head ≠ '\ufeff' := by
  have number : ∀ numeral : Numeral, numeral.WellFormed → ∃ head tail, numeral.text = head :: tail ∧
      isBlank head = false ∧ head ≠ ']' ∧ head ≠ '}' ∧ head ≠ '\ufeff' := by
    intro numeral formed
    rcases numeral_head formed with ⟨head, -, -, digit, more, shape⟩
    rw [shape]
    cases numeral.negative with
    | true => exact ⟨'-', _, rfl, by decide, by decide, by decide, by decide⟩
    | false =>
        refine ⟨head, more, rfl, ?_, ?_, ?_, ?_⟩
        · unfold isBlank
          rw [decide_eq_false_iff_not]
          rintro (rfl | rfl | rfl | rfl) <;> revert digit <;> decide
        all_goals
          rintro rfl
          revert digit
          decide
  cases fits with
  | null => exact ⟨'n', _, by rw [Layout.write], by decide, by decide, by decide, by decide⟩
  | bool value =>
      cases value with
      | true => exact ⟨'t', _, by rw [Layout.write], by decide, by decide, by decide, by decide⟩
      | false => exact ⟨'f', _, by rw [Layout.write], by decide, by decide, by decide, by decide⟩
  | int short =>
      rw [Layout.write]
      exact number _ (ofInt_wellFormed _)
  | float float =>
      rcases Option.isSome_iff_exists.mp (ofFloat_isSome float) with ⟨numeral, written⟩
      rw [Layout.write, written]
      exact number numeral (ofFloat_wellFormed written).1
  | str text => exact ⟨'"', _, by rw [Layout.write]; rfl, by decide, by decide, by decide, by decide⟩
  | arr each => exact ⟨'[', _, by rw [Layout.write], by decide, by decide, by decide, by decide⟩
  | obj distinct each =>
      exact ⟨'{', _, by rw [Layout.write], by decide, by decide, by decide, by decide⟩

theorem skip_write (fits : Fits bounds nesting value) (layout : Layout) (depth : Nat) :
    skip (layout.write depth value ++ rest) = layout.write depth value ++ rest := by
  rcases write_head fits layout depth with ⟨head, tail, shape, solid, -⟩
  rw [shape, List.cons_append]
  exact skip_solid solid

theorem commas_cons_cons (head next : List Char) (more : List (List Char)) :
    commas (head :: next :: more) = head ++ ',' :: commas (next :: more) := by
  rw [commas]
  exact List.cons_ne_nil _ _

theorem commas_length (texts : List (List Char)) : texts.length ≤ (commas texts).length + 1 := by
  induction texts with
  | nil => exact Nat.zero_le _
  | cons head tail ih =>
      cases tail with
      | nil =>
          rw [List.length_singleton]
          omega
      | cons next more =>
          simp only [commas_cons_cons, List.length_append, List.length_cons] at ih ⊢
          omega

private theorem writeItems_length (layout : Layout) (depth : Nat) (items : List Json) :
    (layout.writeItems depth items).length = items.length := by
  induction items with
  | nil => rfl
  | cons head tail ih => rw [Layout.writeItems, List.length_cons, ih, List.length_cons]

private theorem writeFields_length (layout : Layout) (depth : Nat) (fields : List (String × Json)) :
    (layout.writeFields depth fields).length = fields.length := by
  induction fields with
  | nil => rfl
  | cons head tail ih => rw [Layout.writeFields, List.length_cons, ih, List.length_cons]

/-- A function that reads back each of these values where another one or the end follows. -/
def ReadsBack (layout : Layout) (depth : Nat) (scan : List Char → Scan Json) (value : Json) : Prop :=
  ∀ rest, Delimits rest → scan (layout.write depth value ++ rest) = .ok (value, rest)

theorem scanItems_write {scan : List Char → Scan Json} {items : List Json} {fuel before : Nat}
    (filled : items ≠ []) (each : ∀ item ∈ items, Fits bounds nesting item)
    (reads : ∀ item ∈ items, ReadsBack layout depth scan item) (enough : items.length ≤ fuel) :
    scanItems scan fuel (skip (commas (layout.writeItems depth items) ++
      (layout.gap before ++ ']' :: rest))) = .ok (items, rest) := by
  induction items generalizing fuel with
  | nil => exact absurd rfl filled
  | cons head tail ih =>
      cases fuel with
      | zero => exact absurd enough (Nat.not_succ_le_zero _)
      | succ fuel =>
          have own := reads head List.mem_cons_self
          have fits := each head List.mem_cons_self
          rcases delimits_gap layout before (.inl rfl) rest with ⟨delimits, closes⟩
          cases tail with
          | nil =>
              rw [Layout.writeItems, Layout.writeItems, commas, List.append_assoc,
                skip_blank (layout.blank depth), skip_write fits, scanItems, own _ delimits]
              simp only [closes]
          | cons next more =>
              have later := ih (List.cons_ne_nil _ _)
                (fun item member => each item (List.mem_cons_of_mem _ member))
                (fun item member => reads item (List.mem_cons_of_mem _ member))
                (Nat.le_of_succ_le_succ enough)
              have shape : commas (layout.writeItems depth (head :: next :: more)) =
                  layout.gap depth ++ (layout.write depth head ++
                    ',' :: commas (layout.writeItems depth (next :: more))) := by
                rw [Layout.writeItems, Layout.writeItems, commas_cons_cons, List.append_assoc]
              rw [shape, List.append_assoc, List.append_assoc, List.cons_append,
                skip_blank (layout.blank depth), skip_write fits, scanItems,
                own _ (delimits_comma _)]
              change (scanItems scan fuel (skip _)).map (fun own => (head :: own.1, own.2)) = _
              rw [later]
              rfl

theorem skip_items (layout : Layout) (head : Json) (tail : List Json) (after : List Char)
    (fits : Fits bounds nesting head) :
    ∃ first more, skip (commas (layout.writeItems depth (head :: tail)) ++ after) = first :: more ∧
      first ≠ ']' ∧ tail.length ≤ more.length := by
  rcases write_head fits layout depth with ⟨first, rest, shape, -, other, -, -⟩
  cases tail with
  | nil =>
      refine ⟨first, rest ++ after, ?_, other, Nat.zero_le _⟩
      rw [Layout.writeItems, Layout.writeItems, commas, List.append_assoc,
        skip_blank (layout.blank depth), skip_write fits, shape]
      rfl
  | cons next more =>
      have counted := commas_length (layout.writeItems depth (next :: more))
      rw [writeItems_length] at counted
      refine ⟨first, rest ++ ',' :: (commas (layout.writeItems depth (next :: more)) ++ after), ?_,
        other, ?_⟩
      · rw [Layout.writeItems, Layout.writeItems, commas_cons_cons, List.append_assoc,
          List.append_assoc, skip_blank (layout.blank depth), skip_write fits, shape,
          ← Layout.writeItems]
        rfl
      · simp only [List.length_append, List.length_cons] at counted ⊢
        omega

theorem scanArray_write {scan : List Char → Scan Json} {items : List Json} {before : Nat}
    (each : ∀ item ∈ items, Fits bounds nesting item)
    (reads : ∀ item ∈ items, ReadsBack layout depth scan item) :
    scanArray scan (layout.enclose before (layout.writeItems depth items) ++ ']' :: rest) =
      .ok (.arr items, rest) := by
  cases items with
  | nil => rfl
  | cons head tail =>
      have text : layout.enclose before (layout.writeItems depth (head :: tail)) ++ ']' :: rest =
          commas (layout.writeItems depth (head :: tail)) ++ (layout.gap before ++ ']' :: rest) := by
        rw [Layout.writeItems, Layout.enclose, List.append_assoc]
        exact List.cons_ne_nil _ _
      rcases skip_items layout head tail (layout.gap before ++ ']' :: rest)
        (each head List.mem_cons_self) with ⟨first, more, shape, other, counted⟩
      have scanned : scanItems scan (first :: more).length (first :: more) =
          .ok (head :: tail, rest) := by
        rw [← shape]
        apply scanItems_write (List.cons_ne_nil head tail) each reads
        rw [shape]
        exact Nat.succ_le_succ counted
      rw [text]
      unfold scanArray
      rw [shape]
      split
      · rename_i same
        exact absurd (List.cons.inj same).1 other
      · rw [scanned]
        rfl

private theorem put_absent {fields : Dict} {name : String} (absent : name ∉ fields.map Prod.fst) :
    put name value fields = fields ++ [(name, value)] := by
  induction fields with
  | nil => rfl
  | cons head tail ih =>
      rw [List.map_cons, List.mem_cons, not_or] at absent
      rw [put, if_neg (Ne.symm absent.1), ih absent.2]
      rfl

theorem scanFields_field {scan : List Char → Scan Json} {done : Dict} {name : String} {fuel : Nat}
    {after : List Char} (absent : name ∉ done.map Prod.fst) (fits : Fits bounds nesting value)
    (own : ReadsBack layout depth scan value) : Delimits after →
    scanFields scan (fuel + 1) done (layout.writeStr name ++
      ':' :: (layout.space ++ (layout.write depth value ++ after))) =
      match skip after with
      | '}' :: rest => .ok (done ++ [(name, value)], rest)
      | ',' :: rest => scanFields scan fuel (done ++ [(name, value)]) (skip rest)
      | _ => .error .decode := by
  intro delimits
  rcases scanString_writeStr layout (':' :: (layout.space ++ (layout.write depth value ++ after)))
    name with ⟨body, quoted, read⟩
  have colon : skip (':' :: (layout.space ++ (layout.write depth value ++ after))) =
    ':' :: (layout.space ++ (layout.write depth value ++ after)) := rfl
  rw [quoted, scanFields]
  simp only [read, colon, skip_blank layout.spaced, skip_write fits, own after delimits,
    String.ofList_toList, put_absent absent]

theorem scanFields_write {scan : List Char → Scan Json} {done fields : Dict} {fuel before : Nat}
    (filled : fields ≠ []) (distinct : ((done ++ fields).map Prod.fst).Nodup)
    (each : ∀ field ∈ fields, Fits bounds nesting field.2)
    (reads : ∀ field ∈ fields, ReadsBack layout depth scan field.2)
    (enough : fields.length ≤ fuel) :
    scanFields scan fuel done (skip (commas (layout.writeFields depth fields) ++
      (layout.gap before ++ '}' :: rest))) = .ok (done ++ fields, rest) := by
  induction fields generalizing fuel done with
  | nil => exact absurd rfl filled
  | cons head tail ih =>
      rcases head with ⟨name, value⟩
      cases fuel with
      | zero => exact absurd enough (Nat.not_succ_le_zero _)
      | succ fuel =>
          have absent : name ∉ done.map Prod.fst := by
            rw [List.map_append, List.nodup_append] at distinct
            intro member
            exact distinct.2.2 name member name List.mem_cons_self rfl
          have own := reads (name, value) List.mem_cons_self
          have fits := each (name, value) List.mem_cons_self
          have quoted : ∀ more, skip (layout.writeStr name ++ more) = layout.writeStr name ++ more :=
            fun _ => skip_solid rfl
          rcases delimits_gap layout before (.inr rfl) rest with ⟨delimits, closes⟩
          cases tail with
          | nil =>
              rw [Layout.writeFields, Layout.writeFields, commas, List.append_assoc,
                skip_blank (layout.blank depth), List.append_assoc, quoted, List.cons_append,
                List.append_assoc, scanFields_field absent fits own delimits]
              simp only [closes]
          | cons next more =>
              have grouped : done ++ (name, value) :: next :: more =
                  (done ++ [(name, value)]) ++ next :: more := by
                rw [List.append_assoc]
                rfl
              rw [grouped] at distinct ⊢
              have later := ih (List.cons_ne_nil _ _) distinct
                (fun item member => each item (List.mem_cons_of_mem _ member))
                (fun item member => reads item (List.mem_cons_of_mem _ member))
                (Nat.le_of_succ_le_succ enough)
              have shape : commas (layout.writeFields depth ((name, value) :: next :: more)) =
                  layout.gap depth ++ (layout.writeStr name ++ ':' :: (layout.space ++
                    layout.write depth value)) ++
                    ',' :: commas (layout.writeFields depth (next :: more)) := by
                rw [Layout.writeFields, Layout.writeFields]
                exact commas_cons_cons _ _ _
              rw [shape, List.append_assoc, List.append_assoc, skip_blank (layout.blank depth),
                List.append_assoc, quoted, List.cons_append, List.append_assoc]
              calc
                _ = scanFields scan fuel (done ++ [(name, value)])
                    (skip (commas (layout.writeFields depth (next :: more)) ++
                      (layout.gap before ++ '}' :: rest))) :=
                  scanFields_field absent fits own (delimits_comma _)
                _ = .ok (done ++ [(name, value)] ++ next :: more, rest) := later

theorem skip_fields (layout : Layout) (head : String × Json) (tail : Dict) (after : List Char) :
    ∃ more, skip (commas (layout.writeFields depth (head :: tail)) ++ after) = '"' :: more ∧
      tail.length ≤ more.length := by
  cases tail with
  | nil =>
      refine ⟨(head.1.toList.flatMap layout.escape ++ ['"']) ++ (':' :: (layout.space ++
        layout.write depth head.2) ++ after), ?_, Nat.zero_le _⟩
      rw [Layout.writeFields, Layout.writeFields, commas, List.append_assoc,
        skip_blank (layout.blank depth), List.append_assoc]
      exact skip_solid rfl
  | cons next more =>
      have counted := commas_length (layout.writeFields depth (next :: more))
      rw [writeFields_length] at counted
      refine ⟨(head.1.toList.flatMap layout.escape ++ ['"']) ++ (':' :: (layout.space ++
        layout.write depth head.2) ++ ',' :: (commas (layout.writeFields depth (next :: more)) ++
          after)), ?_, ?_⟩
      · rw [Layout.writeFields, Layout.writeFields, commas_cons_cons, List.append_assoc,
          List.append_assoc, skip_blank (layout.blank depth), ← Layout.writeFields,
          List.append_assoc]
        exact skip_solid rfl
      · simp only [List.length_append, List.length_cons] at counted ⊢
        omega

theorem scanObject_write {scan : List Char → Scan Json} {fields : Dict} {before : Nat}
    (distinct : (fields.map Prod.fst).Nodup)
    (each : ∀ field ∈ fields, Fits bounds nesting field.2)
    (reads : ∀ field ∈ fields, ReadsBack layout depth scan field.2) :
    scanObject scan (layout.enclose before (layout.writeFields depth fields) ++ '}' :: rest) =
      .ok (.obj fields, rest) := by
  cases fields with
  | nil => rfl
  | cons head tail =>
      have text : layout.enclose before (layout.writeFields depth (head :: tail)) ++ '}' :: rest =
          commas (layout.writeFields depth (head :: tail)) ++
            (layout.gap before ++ '}' :: rest) := by
        rw [Layout.writeFields, Layout.enclose, List.append_assoc]
        exact List.cons_ne_nil _ _
      rcases skip_fields layout head tail (layout.gap before ++ '}' :: rest) with
        ⟨more, shape, counted⟩
      have scanned : scanFields scan ('"' :: more).length [] ('"' :: more) =
          .ok ([] ++ head :: tail, rest) := by
        rw [← shape]
        apply scanFields_write (List.cons_ne_nil head tail) distinct each reads
        rw [shape]
        exact Nat.succ_le_succ counted
      rw [text]
      unfold scanObject
      rw [shape]
      change (scanFields scan ('"' :: more).length [] ('"' :: more)).map
        (fun own => (Json.obj own.1, own.2)) = _
      rw [scanned]
      rfl

/-- A value is read back from what is written for it. -/
theorem scanOnce_write (fits : Fits bounds nesting value) (layout : Layout) (depth : Nat) :
    ReadsBack layout depth (scanOnce bounds nesting) value := by
  have level : ∀ nesting, ∃ array object,
      scanOnce bounds nesting = scanValue bounds array object := by
    intro nesting
    cases nesting with
    | zero => exact ⟨_, _, rfl⟩
    | succ nesting => exact ⟨_, _, rfl⟩
  induction fits generalizing depth with
  | @null nesting =>
      intro rest delimits
      rcases level nesting with ⟨array, object, same⟩
      rw [same, Layout.write]
      rfl
  | @bool nesting value =>
      intro rest delimits
      rcases level nesting with ⟨array, object, same⟩
      rw [same]
      cases value with
      | true =>
          rw [Layout.write]
          rfl
      | false =>
          rw [Layout.write]
          rfl
  | @int nesting value short =>
      intro rest delimits
      rcases level nesting with ⟨array, object, same⟩
      rw [same, Layout.write, scanValue_numeral (ofInt_wellFormed value) delimits, ofInt_toInt]
      have fewer : ¬ bounds.digits < (Numeral.ofInt value).whole.length := Nat.not_lt.mpr short
      have whole : (Numeral.ofInt value).isInt = true := rfl
      rw [if_pos whole, if_neg fewer]
  | @float nesting value float =>
      intro rest delimits
      rcases level nesting with ⟨array, object, same⟩
      rcases Option.isSome_iff_exists.mp (ofFloat_isSome float) with ⟨numeral, written⟩
      rcases ofFloat_wellFormed written with ⟨formed, pointed⟩
      rw [same, Layout.write, written, Option.elim_some, scanValue_numeral formed delimits, pointed,
        if_neg Bool.false_ne_true, ofFloat_read written]
  | @str nesting text =>
      intro rest delimits
      rcases level nesting with ⟨array, object, same⟩
      rcases scanString_writeStr layout rest text with ⟨body, quoted, read⟩
      rw [same, Layout.write, quoted, scanValue, read]
      change Except.ok (Json.str (String.ofList text.toList), rest) = _
      rw [String.ofList_toList]
  | @arr nesting items each ih =>
      intro rest delimits
      rw [Layout.write, scanOnce, List.cons_append, scanValue, List.append_assoc]
      exact scanArray_write each fun item member => ih item member (depth + 1)
  | @obj nesting fields distinct each ih =>
      intro rest delimits
      rw [Layout.write, scanOnce, List.cons_append, scanValue, List.append_assoc]
      exact scanObject_write distinct each fun field member => ih field member (depth + 1)

theorem Layout.loads_write (fits : Fits bounds bounds.nesting value) (layout : Layout) :
    loads bounds (layout.write 0 value) = .ok value := by
  rcases write_head fits layout 0 with ⟨head, tail, shape, solid, -, -, mark⟩
  have read := scanOnce_write fits layout 0 [] (fun c none => by cases none)
  have skipped : skip (layout.write 0 value) = layout.write 0 value := by
    rw [shape]
    exact skip_solid solid
  rw [List.append_nil] at read
  unfold loads
  split
  · rename_i same
    rw [shape] at same
    exact absurd (List.cons.inj same).1 mark
  · rw [skipped, read]
    rfl

/-- `separators=(",", ":"), ensure_ascii=False` -/
def compact : Layout where
  escape := escape
  gap _ := []
  space := []
  reads c _ := scanString_escape c
  blank _ _ none := absurd none List.not_mem_nil
  spaced _ none := absurd none List.not_mem_nil

theorem writeItems_eq (items : List Json) : writeItems items = items.map write := by
  induction items with
  | nil => rfl
  | cons head tail ih => rw [writeItems, ih, List.map_cons]

theorem writeFields_eq (fields : Dict) :
    writeFields fields = fields.map fun field => writeStr field.1 ++ ':' :: write field.2 := by
  induction fields with
  | nil => rfl
  | cons head tail ih => rw [writeFields, ih, List.map_cons]

theorem Layout.writeItems_eq (layout : Layout) (depth : Nat) (items : List Json) :
    layout.writeItems depth items =
      items.map fun item => layout.gap depth ++ layout.write depth item := by
  induction items with
  | nil => rfl
  | cons head tail ih => rw [Layout.writeItems, ih, List.map_cons]

theorem Layout.writeFields_eq (layout : Layout) (depth : Nat) (fields : Dict) :
    layout.writeFields depth fields = fields.map fun field => layout.gap depth ++
      (layout.writeStr field.1 ++ ':' :: (layout.space ++ layout.write depth field.2)) := by
  induction fields with
  | nil => rfl
  | cons head tail ih => rw [Layout.writeFields, ih, List.map_cons]

theorem compact_enclose (depth : Nat) (texts : List (List Char)) :
    compact.enclose depth texts = commas texts := by
  cases texts with
  | nil => rfl
  | cons head tail =>
      rw [Layout.enclose]
      · exact List.append_nil _
      · exact List.cons_ne_nil _ _

theorem compact_write (fits : Fits bounds nesting value) (depth : Nat) :
    compact.write depth value = write value := by
  induction fits generalizing depth with
  | null => rw [Layout.write, write]
  | bool value =>
      cases value with
      | true => rw [Layout.write, write]
      | false => rw [Layout.write, write]
  | int short => rw [Layout.write, write]
  | float float => rw [Layout.write, write]
  | str text =>
      rw [Layout.write, write]
      rfl
  | @arr nesting items each ih =>
      have same : compact.writeItems (depth + 1) items = writeItems items := by
        rw [Layout.writeItems_eq, writeItems_eq]
        exact List.map_congr_left fun item member => ih item member (depth + 1)
      rw [Layout.write, write, compact_enclose, same]
  | @obj nesting fields distinct each ih =>
      have same : compact.writeFields (depth + 1) fields = writeFields fields := by
        rw [Layout.writeFields_eq, writeFields_eq]
        apply List.map_congr_left
        intro field member
        change writeStr field.1 ++ ':' :: compact.write (depth + 1) field.2 = _
        rw [ih field member (depth + 1)]
      rw [Layout.write, write, compact_enclose, same]

theorem loads_write (fits : Fits bounds bounds.nesting value) :
    loads bounds (write value) = .ok value := by
  rw [← compact_write fits 0]
  exact compact.loads_write fits

end Values

end JsonText

/-- The same value but for the order of the fields of its objects. -/
inductive Json.Same : Json → Json → Prop
  | null : Same .null .null
  | bool (value : Bool) : Same (.bool value) (.bool value)
  | int (value : Int) : Same (.int value) (.int value)
  | float (value : ℚ) : Same (.float value) (.float value)
  | str (text : String) : Same (.str text) (.str text)
  | arr {first second : List Json} (sized : first.length = second.length)
      (each : ∀ (place : Nat) one other, first[place]? = some one → second[place]? = some other →
        Same one other) : Same (.arr first) (.arr second)
  | obj {first second : List (String × Json)}
      (names : ∀ name, (first.lookup name).isSome = (second.lookup name).isSome)
      (each : ∀ name one other, first.lookup name = some one → second.lookup name = some other →
        Same one other) : Same (.obj first) (.obj second)

section Same

variable {first second : Dict} {field : String}

theorem same_getD (same : (Json.obj first).Same (.obj second)) (field : String) {default : Json}
    (own : default.Same default) : (first.getD field default).Same (second.getD field default) := by
  cases same with
  | obj names each =>
      have present := names field
      unfold Dict.getD
      cases one : first.lookup field with
      | none =>
          rw [one, Option.isSome_none] at present
          rw [Option.isSome_eq_false_iff.mp present.symm |> Option.isNone_iff_eq_none.mp]
          exact own
      | some value =>
          rw [one, Option.isSome_some] at present
          rcases Option.isSome_iff_exists.mp present.symm with ⟨other, two⟩
          rw [two]
          exact each field value other one two

theorem same_get (same : (Json.obj first).Same (.obj second)) (field : String) :
    (first.get field).Same (second.get field) :=
  same_getD same field .null

theorem same_empty : (Json.obj []).Same (.obj []) := by
  apply Json.Same.obj
  · intro name
    rfl
  · intro name one other absent
    cases absent

theorem same_null {value : Json} (same : value.Same .null) : value = .null := by
  cases same
  rfl

theorem same_str {value : Json} {text : String} (same : value.Same (.str text)) :
    value = .str text := by
  cases same
  rfl

private theorem same_int {value : Json} {own : Int} (same : value.Same (.int own)) :
    value = .int own := by
  cases same
  rfl

theorem same_obj {value : Json} (same : value.Same (.obj second)) :
    ∃ own, value = .obj own ∧ (Json.obj own).Same (.obj second) := by
  cases same with
  | obj names each => exact ⟨_, rfl, .obj names each⟩

theorem get_str (same : (Json.obj first).Same (.obj second)) {text : String}
    (own : second.get field = .str text) : first.get field = .str text := by
  have value := same_get same field
  rw [own] at value
  exact same_str value

theorem get_int (same : (Json.obj first).Same (.obj second)) {number : Int}
    (own : second.get field = .int number) : first.get field = .int number := by
  have value := same_get same field
  rw [own] at value
  exact same_int value

end Same

namespace JsonText

section Sorted

variable {bounds : Bounds} {nesting : Nat} {value : Json} {fields other : Dict} {name : String}

theorem lookup_mem (distinct : (fields.map Prod.fst).Nodup) :
    fields.lookup name = some value ↔ (name, value) ∈ fields := by
  induction fields with
  | nil => simp
  | cons head tail ih =>
      rcases head with ⟨own, first⟩
      rw [List.map_cons, List.nodup_cons] at distinct
      rw [List.lookup_cons, List.mem_cons]
      by_cases same : name = own
      · subst same
        rw [beq_self_eq_true]
        constructor
        · intro found
          exact .inl (by rw [Option.some.inj found])
        · rintro (here | later)
          · rw [(Prod.mk.inj here).2]
          · exact absurd (List.mem_map_of_mem later) distinct.1
      · rw [beq_false_of_ne same]
        constructor
        · intro found
          exact .inr ((ih distinct.2).mp found)
        · rintro (here | later)
          · exact absurd (Prod.mk.inj here).1 same
          · exact (ih distinct.2).mpr later

private theorem lookup_perm (distinct : (fields.map Prod.fst).Nodup) (same : other.Perm fields) :
    other.lookup name = fields.lookup name := by
  have apart : (other.map Prod.fst).Nodup := (same.map Prod.fst).nodup_iff.mpr distinct
  apply Option.ext
  intro value
  rw [lookup_mem apart, lookup_mem distinct, same.mem_iff]

theorem sortItems_eq (items : List Json) : sortItems items = items.map sortKeys := by
  induction items with
  | nil => rfl
  | cons head tail ih => rw [sortItems, ih, List.map_cons]

theorem sortValues_eq (fields : Dict) :
    sortValues fields = fields.map fun field => (field.1, sortKeys field.2) := by
  induction fields with
  | nil => rfl
  | cons head tail ih => rw [sortValues, ih, List.map_cons]

theorem sortValues_names (fields : Dict) :
    (sortValues fields).map Prod.fst = fields.map Prod.fst := by
  rw [sortValues_eq, List.map_map]
  rfl

theorem lookup_sortValues (fields : Dict) (name : String) :
    (sortValues fields).lookup name = (fields.lookup name).map sortKeys := by
  induction fields with
  | nil => rfl
  | cons head tail ih =>
      rw [sortValues, List.lookup_cons, List.lookup_cons, ih]
      cases name == head.1 with
      | true => rfl
      | false => rfl

theorem lookup_sorted (distinct : (fields.map Prod.fst).Nodup) :
    ((sortValues fields).insertionSort fun first second => first.1 ≤ second.1).lookup name =
      (fields.lookup name).map sortKeys := by
  rw [← lookup_sortValues]
  apply lookup_perm
  · rw [sortValues_names]
    exact distinct
  · exact List.perm_insertionSort _ _

/-- The sorted value is the value, up to the order of the fields. -/
theorem sortKeys_same (fits : Fits bounds nesting value) : (sortKeys value).Same value := by
  induction fits with
  | null => exact .null
  | bool value => exact .bool value
  | int short => exact .int _
  | float float => exact .float _
  | str text => exact .str text
  | @arr nesting items each ih =>
      rw [sortKeys, sortItems_eq]
      apply Json.Same.arr
      · exact List.length_map _
      · intro place one other first second
        rw [List.getElem?_map, second] at first
        rw [← Option.some.inj first]
        exact ih other (List.mem_of_getElem? second)
  | @obj nesting fields distinct each ih =>
      rw [sortKeys]
      apply Json.Same.obj
      · intro name
        rw [lookup_sorted distinct, Option.isSome_map]
      · intro name one other first second
        rw [lookup_sorted distinct, second] at first
        rw [← Option.some.inj first]
        exact ih (name, other) ((lookup_mem distinct).mp second)

theorem sortKeys_fits (fits : Fits bounds nesting value) : Fits bounds nesting (sortKeys value) := by
  induction fits with
  | null => exact .null
  | bool value => exact .bool value
  | int short => exact .int short
  | float float => exact .float float
  | str text => exact .str text
  | @arr nesting items each ih =>
      rw [sortKeys, sortItems_eq]
      apply Fits.arr
      intro item member
      rcases List.mem_map.mp member with ⟨own, listed, rfl⟩
      exact ih own listed
  | @obj nesting fields distinct each ih =>
      rw [sortKeys]
      have same := List.perm_insertionSort (fun first second : String × Json => first.1 ≤ second.1)
        (sortValues fields)
      apply Fits.obj
      · rw [(same.map Prod.fst).nodup_iff, sortValues_names]
        exact distinct
      · intro field member
        rw [same.mem_iff, sortValues_eq] at member
        rcases List.mem_map.mp member with ⟨own, listed, rfl⟩
        exact ih own listed

/-- What is read back is the value with its keys sorted. -/
theorem loads_dumps (fits : Fits bounds bounds.nesting value) :
    loads bounds (dumps value) = .ok (sortKeys value) := loads_write (sortKeys_fits fits)

end Sorted

section Sizes

def bytesOf (text : List Char) : Nat := (text.map Char.utf8Size).sum

variable {bounds : Bounds} {nesting : Nat} {value : Json}

theorem bytesOf_append (first second : List Char) :
    bytesOf (first ++ second) = bytesOf first + bytesOf second := by
  unfold bytesOf
  rw [List.map_append, List.sum_append]

theorem bytesOf_cons (head : Char) (tail : List Char) :
    bytesOf (head :: tail) = head.utf8Size + bytesOf tail := by
  unfold bytesOf
  rw [List.map_cons, List.sum_cons]

theorem bytesOf_ascii {text : List Char} (ascii : ∀ c ∈ text, c.toNat < 128) :
    bytesOf text = text.length := by
  induction text with
  | nil => rfl
  | cons head tail ih =>
      have small : head.val ≤ 127 := Nat.le_of_lt_succ (ascii head List.mem_cons_self)
      have rest := ih fun c member => ascii c (List.mem_cons_of_mem _ member)
      rw [bytesOf_cons, Char.utf8Size_eq_one_iff.mpr small, rest, List.length_cons]
      omega

theorem bytesOf_commas (texts : List (List Char)) :
    bytesOf (commas texts) = (texts.map bytesOf).sum + (texts.length - 1) := by
  induction texts with
  | nil => rfl
  | cons head tail ih =>
      cases tail with
      | nil => simp [commas]
      | cons next more =>
          have comma : ','.utf8Size = 1 := rfl
          rw [commas_cons_cons, bytesOf_append, bytesOf_cons, ih, comma]
          simp only [List.map_cons, List.sum_cons, List.length_cons]
          omega

theorem bytesOf_dumps (fits : Fits bounds nesting value) :
    bytesOf (dumps value) = bytesOf (write value) := by
  unfold dumps
  induction fits with
  | null => rfl
  | bool value => rfl
  | int short => rfl
  | float float => rfl
  | str text => rfl
  | @arr nesting items each ih =>
      have sizes : ((sortItems items).map write).map bytesOf = (items.map write).map bytesOf := by
        rw [sortItems_eq, List.map_map, List.map_map, List.map_map]
        exact List.map_congr_left ih
      rw [sortKeys, write, write, writeItems_eq, writeItems_eq]
      simp only [bytesOf_cons, bytesOf_append, bytesOf_commas, sizes]
      rw [sortItems_eq]
      simp only [List.length_map]
  | @obj nesting fields distinct each ih =>
      have same := List.perm_insertionSort (fun first second : String × Json => first.1 ≤ second.1)
        (sortValues fields)
      have sizes : ((writeFields ((sortValues fields).insertionSort fun first second =>
          first.1 ≤ second.1)).map bytesOf).sum = ((writeFields fields).map bytesOf).sum := by
        calc
          _ = ((writeFields (sortValues fields)).map bytesOf).sum := by
            rw [writeFields_eq, writeFields_eq]
            exact ((same.map _).map bytesOf).sum_eq
          _ = ((writeFields fields).map bytesOf).sum := by
            rw [writeFields_eq, writeFields_eq, sortValues_eq, List.map_map, List.map_map,
              List.map_map]
            congr 1
            apply List.map_congr_left
            intro field member
            simp only [Function.comp_apply, bytesOf_append, bytesOf_cons]
            rw [ih field member]
      have counted : ((sortValues fields).insertionSort fun first second =>
          first.1 ≤ second.1).length = fields.length := by
        rw [same.length_eq, sortValues_eq, List.length_map]
      rw [sortKeys, write, write]
      have lengths : ∀ fields : Dict, (writeFields fields).length = fields.length := by
        intro fields
        rw [writeFields_eq, List.length_map]
      simp only [bytesOf_cons, bytesOf_append, bytesOf_commas, sizes, lengths, counted]

end Sizes

end JsonText

end Lib.Py
