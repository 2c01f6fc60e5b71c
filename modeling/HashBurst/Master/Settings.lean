import HashBurst.Lib.JsonAscii
import HashBurst.Lib.JsonFits

/-! The configuration of the master node: `load_config`, `save_config` and `handle_config` of
`master_node_v220.py`. -/

namespace HashBurst.Master

open Lib Lib.Py

/-- What the interpreter allows and converts, and its words for a text that is no JSON. -/
structure Interpreter where
  bounds : Bounds
  conv : Conversions
  decodeError : List Char → String

/-- The exceptions that the master meets; `outside` where the text is none of the values modelled. -/
inductive Raised
  | runtime (text : String)
  | key
  | type
  | value
  | recursion
  | outside
  deriving DecidableEq

abbrev Settings := List (Json × Json)

namespace Settings

variable (settings : Settings)

def find (key : Key) : Option Json :=
  (settings.find? fun entry => entry.1.key = some key).map Prod.snd

/-- `cfg.get(name)` -/
def named (name : String) : Option Json := settings.find (.text name)

/-- `cfg[key] = value`: the first key stays. -/
def put (key value : Json) : Settings → Settings
  | [] => [(key, value)]
  | (own, old) :: rest =>
      if own.key = key.key then (own, value) :: rest else (own, old) :: put key value rest

def pairOf : Json → Option (Json × Json)
  | .arr [key, value] => some (key, value)
  | .obj [(first, _), (second, _)] => some (.str first, .str second)
  | .str text =>
      match text.toList with
      | [first, second] => some (.str (String.ofList [first]), .str (String.ofList [second]))
      | _ => none
  | _ => none

/-- The pairs of a sequence, up to an element that is none. -/
def mergePairs (settings : Settings) : List Json → Settings × Bool
  | [] => (settings, true)
  | item :: rest =>
      match pairOf item with
      | some (key, value) =>
          if key.key.isSome then mergePairs (settings.put key value) rest else (settings, false)
      | none => (settings, false)

def mergeFields (settings : Settings) : Dict → Settings
  | [] => settings
  | (name, value) :: rest => mergeFields (settings.put (.str name) value) rest

def update : Json → Settings × Bool
  | .obj fields => (settings.mergeFields fields, true)
  | .arr items => settings.mergePairs items
  | .str text => (settings, text = "")
  | _ => (settings, false)

def ofDict (fields : Dict) : Settings := fields.map fun field => (.str field.1, field.2)

/-- `==` of two dicts -/
def Equal (first second : Settings) : Prop :=
  ∀ key, Option.Rel Json.Same (first.find key) (second.find key)

end Settings

def configPath : String := "/etc/hashburst/config.json"

def required : List String :=
  ["api_port", "coins", "network", "segmentation", "tep_host", "tep_port"]

def invalid (reason : String) : Raised := .runtime ("invalid config " ++ configPath ++ ": " ++ reason)

/-- What `int()` raises for a value that is no number. -/
def notInteger : Json → Raised
  | .str _ => .value
  | _ => .type

/-- `int(segmentation.get("nonce_segment_size", 0) or 0) <= 0` -/
def segmentationInvalid (py : Interpreter) (fields : Dict) : Except Raised Bool :=
  let size := Dict.getD fields "nonce_segment_size" (.int 0)
  match py.conv.intOrZero size with
  | .ok size => .ok (decide (size ≤ 0))
  | .error _ => .error (notInteger size)

/-- The checks of `load_config`. -/
def checkConfig (py : Interpreter) (settings : Settings) : Except Raised Unit :=
  let missing := required.filter fun name => (settings.named name).isNone
  if missing ≠ [] then .error (invalid ("missing keys: " ++ String.intercalate "," missing))
  else
    match settings.named "coins" with
    | some (.obj (_ :: _)) =>
        match settings.named "segmentation" with
        | some (.obj fields) =>
            match segmentationInvalid py fields with
            | .ok false => .ok ()
            | .ok true =>
                .error (invalid "segmentation.nonce_segment_size must be positive")
            | .error raised => .error raised
        | _ => .error (invalid "segmentation.nonce_segment_size must be positive")
    | _ => .error (invalid "coins must be a non-empty object")

def loadConfig (py : Interpreter) : Option (List Char) → Except Raised Settings
  | none => .error (.runtime ("required config missing: " ++ configPath))
  | some text =>
      match JsonText.loads py.bounds text with
      | .error .decode => .error (invalid (py.decodeError text))
      | .error .value => .error .value
      | .error .recursion => .error .recursion
      | .error .outside => .error .outside
      | .ok (.obj fields) => (checkConfig py (Settings.ofDict fields)).map fun _ => Settings.ofDict fields
      | .ok _ => .error (invalid "top-level JSON must be an object")

def keyText : Json → String
  | .str text => text
  | value => String.ofList (JsonText.indented.write 0 value)

/-- `json.dump(cfg, f, indent=2)` -/
def dumpConfig (settings : Settings) : List Char :=
  JsonText.indented.write 0 (.obj (settings.map fun entry => (keyText entry.1, entry.2)))

/-- `handle_config` of a POST: the configuration after it and, where it answers that this is saved,
the file. `writes` tells whether the file can be written. -/
def handleConfig (py : Interpreter) (settings : Settings) (body : List Char) (writes : Bool) :
    Settings × Option (List Char) :=
  match JsonText.loads py.bounds body with
  | .error _ => (settings, none)
  | .ok posted =>
      let updated := settings.update posted
      (updated.1, if updated.2 && writes then some (dumpConfig updated.1) else none)

end HashBurst.Master
