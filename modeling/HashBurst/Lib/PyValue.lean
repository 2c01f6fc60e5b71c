import HashBurst.Lib.PyJson

/-! JSON values as Python's parser admits them, with infinities and NaN, and the classes of what a
conversion of them raises. -/

namespace Lib.Py

inductive Value
  | null
  | bool (value : Bool)
  | int (value : Int)
  | float (value : ℚ)
  | infinity (negative : Bool)
  | nan
  | str (text : String)
  | arr (items : List Value)
  | obj (fields : List (String × Value))

/-- What `int(value)` raises. -/
inductive ConversionError
  | typeError (text : String)
  | valueError (text : String)
  | overflowError (text : String)
  deriving DecidableEq

def ConversionError.text : ConversionError → String
  | typeError text => text
  | valueError text => text
  | overflowError text => text

namespace Value

/-- `bool(value)` -/
def truthy : Value → Bool
  | null => false
  | bool value => value
  | int value => value ≠ 0
  | float value => value ≠ 0
  | infinity _ => true
  | nan => true
  | str text => text ≠ ""
  | arr items => !items.isEmpty
  | obj fields => !fields.isEmpty

def isInfinity : Value → Bool
  | infinity _ => true
  | _ => false

mutual

def ofJson : Json → Value
  | .null => .null
  | .bool value => .bool value
  | .int value => .int value
  | .float value => .float value
  | .str text => .str text
  | .arr items => .arr (ofItems items)
  | .obj fields => .obj (ofFields fields)

def ofItems : List Json → List Value
  | [] => []
  | item :: rest => ofJson item :: ofItems rest

def ofFields : List (String × Json) → List (String × Value)
  | [] => []
  | (name, value) :: rest => (name, ofJson value) :: ofFields rest

end

theorem truthy_ofJson (value : Json) : (ofJson value).truthy = value.truthy := by
  cases value with
  | arr items =>
      cases items with
      | nil => rfl
      | cons head tail => rfl
  | obj fields =>
      cases fields with
      | nil => rfl
      | cons head tail => rfl
  | _ => rfl

theorem isInfinity_ofJson (value : Json) : (ofJson value).isInfinity = false := by
  cases value with
  | _ => rfl

end Value

abbrev Fields := List (String × Value)

namespace Fields

variable (fields : Fields) (name : String)

/-- `fields.get(name, default)` -/
def getD (default : Value) : Value := (fields.lookup name).getD default

def get : Value := getD fields name .null

end Fields

section Lookup

variable {dict : Dict} {name : String} {default : Json}

theorem lookup_ofFields : (Value.ofFields dict).lookup name =
    (dict.lookup name).map Value.ofJson := by
  induction dict with
  | nil => rfl
  | cons head tail ih =>
      rw [Value.ofFields, List.lookup_cons, List.lookup_cons, ih]
      by_cases same : name = head.1
      · rw [same, beq_self_eq_true]
        rfl
      · rw [beq_false_of_ne same]

theorem getD_ofFields : Fields.getD (Value.ofFields dict) name (Value.ofJson default) =
    Value.ofJson (Dict.getD dict name default) := by
  unfold Fields.getD Dict.getD
  rw [lookup_ofFields]
  cases dict.lookup name with
  | none => rfl
  | some value => rfl

theorem get_ofFields : Fields.get (Value.ofFields dict) name =
    Value.ofJson (Dict.get dict name) := by
  have absent : Value.null = Value.ofJson .null := rfl
  unfold Fields.get Dict.get
  rw [absent, getD_ofFields]

theorem keys_ofFields : (Value.ofFields dict).map Prod.fst = dict.map Prod.fst := by
  induction dict with
  | nil => rfl
  | cons head tail ih => rw [Value.ofFields, List.map_cons, List.map_cons, ih]

end Lookup

/-- The conversions of all values: those of the finite ones, and the texts of the others. -/
structure WideConversions extends Conversions where
  strValue : Value → String
  strValue_ofJson : ∀ value, strValue (.ofJson value) = str value
  errorValue : String → Value → String
  errorValue_ofJson : ∀ target value, errorValue target (.ofJson value) = error target value

namespace WideConversions

variable (conv : WideConversions)

/-- `str(value)` -/
def toStr : Value → String
  | .str text => text
  | value => conv.strValue value

/-- `str(value or default)` -/
def strOr (value : Value) (default : String) : String :=
  if value.truthy then conv.toStr value else default

/-- `str(value or "").strip()` -/
def text (value : Value) : String := strip (conv.strOr value "")

/-- `int(value)` -/
def toInt : Value → Except ConversionError Int
  | .int value => .ok value
  | .float value => .ok (value.num.tdiv value.den)
  | .bool value => .ok (if value then 1 else 0)
  | .infinity negative => .error (.overflowError (conv.errorValue "int" (.infinity negative)))
  | .nan => .error (.valueError (conv.errorValue "int" .nan))
  | .str text =>
      ((conv.int text).map Except.ok).getD
        (.error (.valueError (conv.errorValue "int" (.str text))))
  | value => .error (.typeError (conv.errorValue "int" value))

variable {conv}

private theorem toStr_ofJson (value : Json) :
    conv.toStr (.ofJson value) = conv.toConversions.toStr value := by
  cases value with
  | str text => rfl
  | _ => exact conv.strValue_ofJson _

theorem strOr_ofJson (value : Json) (default : String) :
    conv.strOr (.ofJson value) default = conv.toConversions.strOr value default := by
  unfold strOr Conversions.strOr
  rw [Value.truthy_ofJson, toStr_ofJson]

theorem text_ofJson (value : Json) : conv.text (.ofJson value) = conv.toConversions.text value := by
  unfold text Conversions.text
  rw [strOr_ofJson]

theorem toInt_ofJson (value : Json) :
    (conv.toInt (.ofJson value)).mapError ConversionError.text = conv.toConversions.toInt value := by
  cases value with
  | str text =>
      change Except.mapError _ (((conv.int text).map Except.ok).getD _) =
        ((conv.int text).map Except.ok).getD _
      cases conv.int text with
      | none => exact congrArg Except.error (conv.errorValue_ofJson "int" (.str text))
      | some number => rfl
  | null => exact congrArg Except.error (conv.errorValue_ofJson "int" .null)
  | arr items => exact congrArg Except.error (conv.errorValue_ofJson "int" (.arr items))
  | obj fields => exact congrArg Except.error (conv.errorValue_ofJson "int" (.obj fields))
  | _ => rfl

theorem toInt_overflow {value : Value} {text : String}
    (failed : conv.toInt value = .error (.overflowError text)) : value.isInfinity = true := by
  cases value with
  | infinity negative => rfl
  | str own =>
      simp only [toInt] at failed
      cases read : conv.int own with
      | none =>
          rw [read] at failed
          cases failed
      | some number =>
          rw [read] at failed
          cases failed
  | _ => cases failed

theorem toInt_infinity {value : Value} (infinite : value.isInfinity = true) :
    ∃ text, conv.toInt value = .error (.overflowError text) := by
  cases value with
  | infinity negative => exact ⟨_, rfl⟩
  | _ => cases infinite

end WideConversions

end Lib.Py
