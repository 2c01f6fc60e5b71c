import Mathlib.Data.Rat.Floor
import HashBurst.Lib.PyString

/-! JSON values as Python decodes them, and what Python's own conversions make of them. -/

namespace Lib.Py

inductive Json
  | null
  | bool (value : Bool)
  | int (value : Int)
  | float (value : ℚ)
  | str (text : String)
  | arr (items : List Json)
  | obj (fields : List (String × Json))

/-- What sets and dicts compare: booleans and numbers by value. -/
inductive Key
  | null
  | number (value : ℚ)
  | text (value : String)
  deriving DecidableEq

namespace Json

/-- `bool(value)` -/
def truthy : Json → Bool
  | null => false
  | bool value => value
  | int value => value ≠ 0
  | float value => value ≠ 0
  | str text => text ≠ ""
  | arr items => !items.isEmpty
  | obj fields => !fields.isEmpty

def key : Json → Option Key
  | null => some .null
  | bool value => some (.number (if value then 1 else 0))
  | int value => some (.number value)
  | float value => some (.number value)
  | str text => some (.text text)
  | arr _ => none
  | obj _ => none

/-- `value is True` -/
def isTrue : Json → Bool
  | bool value => value
  | _ => false

/-- `value is False` -/
def isFalse : Json → Bool
  | bool value => !value
  | _ => false

theorem isTrue_iff {value : Json} : value.isTrue = true ↔ value = bool true := by
  cases value with
  | bool own => simp [isTrue]
  | _ => simp [isTrue]

/-- `value == text` -/
def isStr (value : Json) (text : String) : Bool :=
  match value with
  | str own => own = text
  | _ => false

theorem isStr_iff {value : Json} {text : String} : value.isStr text = true ↔ value = str text := by
  cases value with
  | str own => simp [isStr]
  | _ => simp [isStr]

end Json

abbrev Dict := List (String × Json)

namespace Dict

variable (dict : Dict) (name : String)

/-- `dict.get(name, default)` -/
def getD (default : Json) : Json := (dict.lookup name).getD default

def get : Json := dict.getD name .null

/-- `dict[name] = value` -/
def set (value : Json) : Dict := (name, value) :: dict

def update (other : Dict) : Dict := other ++ dict

end Dict

section Lookup

variable {dict other : Dict} {name wanted : String} {value default : Json}

theorem lookup_set : (dict.set name value).lookup wanted =
    if wanted = name then some value else dict.lookup wanted := by
  unfold Dict.set
  rw [List.lookup_cons]
  by_cases same : wanted = name
  · simp [same]
  · rw [if_neg same, beq_false_of_ne same]

theorem lookup_update : (dict.update other).lookup name =
    (other.lookup name).or (dict.lookup name) := by
  unfold Dict.update
  induction other with
  | nil => simp
  | cons head tail ih =>
      rw [List.cons_append, List.lookup_cons, List.lookup_cons, ih]
      by_cases same : name == head.1
      · simp [same]
      · simp [same]

@[simp] theorem getD_set_self : (dict.set name value).getD name default = value := by
  unfold Dict.getD
  rw [lookup_set, if_pos rfl, Option.getD_some]

@[simp] theorem get_set_self : (dict.set name value).get name = value := getD_set_self

private theorem getD_set_other (apart : wanted ≠ name) :
    (dict.set name value).getD wanted default = dict.getD wanted default := by
  unfold Dict.getD
  rw [lookup_set, if_neg apart]

theorem get_set_other (apart : wanted ≠ name) : (dict.set name value).get wanted = dict.get wanted :=
  getD_set_other apart

private theorem getD_update : (dict.update other).getD name default =
    other.getD name (dict.getD name default) := by
  unfold Dict.getD
  rw [lookup_update]
  cases other.lookup name with
  | none => rfl
  | some value => rfl

theorem get_update : (dict.update other).get name = other.getD name (dict.get name) := getD_update

theorem lookup_filter (keeps : String → Bool) :
    (dict.filter fun item => keeps item.1).lookup name =
      if keeps name then dict.lookup name else none := by
  induction dict with
  | nil => simp
  | cons head tail ih =>
      rw [List.filter_cons, List.lookup_cons]
      by_cases same : name = head.1
      · subst same
        rw [beq_self_eq_true]
        split
        · rw [List.lookup_cons, beq_self_eq_true]
        · rename_i dropped
          rw [ih, if_neg dropped]
      · rw [beq_false_of_ne same]
        split
        · rw [List.lookup_cons, beq_false_of_ne same]
          exact ih
        · exact ih

end Lookup

/-- `str()` of what is not a string, the numbers that `float()` and `int()` read in a text, and the
message of a conversion that fails. -/
structure Conversions where
  str : Json → String
  float : String → Option ℚ
  int : String → Option Int
  error : String → Json → String

namespace Conversions

variable (conv : Conversions)

/-- `str(value)` -/
def toStr : Json → String
  | .str text => text
  | value => conv.str value

/-- `str(value or default)` -/
def strOr (value : Json) (default : String) : String :=
  if value.truthy then conv.toStr value else default

@[simp] theorem strOr_str (text : String) : conv.strOr (.str text) "" = text := by
  unfold strOr
  by_cases empty : text = ""
  · rw [empty]
    rfl
  · have truthy : (Json.str text).truthy = true := decide_eq_true empty
    rw [if_pos truthy]
    rfl

/-- `str(first or second or "")`, for any number of values. -/
def strOfFirst : List Json → String
  | [] => ""
  | value :: rest => if value.truthy then conv.toStr value else strOfFirst rest

/-- `str(value or "").strip()` -/
def text (value : Json) : String := strip (conv.strOr value "")

/-- `float(value)`, without rounding. -/
def toFloat : Json → Except String ℚ
  | .int value => .ok value
  | .float value => .ok value
  | .bool value => .ok (if value then 1 else 0)
  | .str text => ((conv.float text).map Except.ok).getD (.error (conv.error "float" (.str text)))
  | value => .error (conv.error "float" value)

/-- `float(value or 0)` -/
def floatOrZero (value : Json) : Except String ℚ :=
  if value.truthy then conv.toFloat value else .ok 0

/-- `int(value)` -/
def toInt : Json → Except String Int
  | .int value => .ok value
  | .float value => .ok (value.num.tdiv value.den)
  | .bool value => .ok (if value then 1 else 0)
  | .str text => ((conv.int text).map Except.ok).getD (.error (conv.error "int" (.str text)))
  | value => .error (conv.error "int" value)

/-- `int(value or 0)` -/
def intOrZero (value : Json) : Except String Int :=
  if value.truthy then conv.toInt value else .ok 0

end Conversions

end Lib.Py
