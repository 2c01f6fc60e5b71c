import HashBurst.Lib.Bytes
import HashBurst.Lib.JsonAscii

/-! What the accelerator reads of a worker: `normalize` of `accelerator.py`. -/

namespace HashBurst.Accelerator

open Lib Lib.Py

inductive Fault
  | value (text : String)
  | key
  | type
  | attribute
  | overflow
  | recursion
  deriving DecidableEq

/-- `except (ValueError, KeyError, TypeError)` -/
def Fault.isCaught : Fault → Bool
  | .value _ => true
  | .key => true
  | .type => true
  | _ => false

/-- The interpreter: the digits of an integer and the nesting that it writes, its texts, and the
hashes. -/
structure Python where
  digits : Nat
  nesting : Nat
  conv : Conversions
  hmac : Bytes → List Char → String
  sha256 : List Char → String

section Writing

variable (digits : Nat)

mutual

/-- What `json.dumps` and `str` raise where they write a value with some room for nesting. -/
def dump (room : Nat) : Json → Except Fault Unit
  | .int value =>
      if 10 ^ digits ≤ value.natAbs then
        .error (.value "Exceeds the limit for integer string conversion")
      else .ok ()
  | .arr items => if room = 0 then .error .recursion else dumpItems (room - 1) items
  | .obj fields => if room = 0 then .error .recursion else dumpFields (room - 1) fields
  | _ => .ok ()

def dumpItems (room : Nat) : List Json → Except Fault Unit
  | [] => .ok ()
  | item :: rest => do
      dump room item
      dumpItems room rest

def dumpFields (room : Nat) : List (String × Json) → Except Fault Unit
  | [] => .ok ()
  | (_, value) :: rest => do
      dump room value
      dumpFields room rest

end

end Writing

/-- `canonical(v)`, of a value that is written. -/
def canonicalText (value : Json) : List Char :=
  JsonText.compactAscii.write 0 (JsonText.sortKeys value)

/-- An integer or a float; a sum of floats can be infinite. -/
inductive Number
  | int (value : Int)
  | float (value : ℚ)
  | infinite
  deriving DecidableEq

namespace Number

/-- `float(value)`, where `none` is infinite. -/
def toFloat : Number → Except Fault (Option ℚ)
  | .int value =>
      match binary64 value with
      | some near => .ok (some near)
      | none => .error .overflow
  | .float value => .ok (some value)
  | .infinite => .ok none

def addFloats : Option ℚ → Option ℚ → Number
  | some one, some other =>
      match binary64 (one + other) with
      | some sum => .float sum
      | none => .infinite
  | _, _ => .infinite

/-- `first + second` -/
def add (first second : Number) : Except Fault Number :=
  match first, second with
  | .int one, .int other => .ok (.int (one + other))
  | _, _ => do
      let one ← first.toFloat
      let other ← second.toFloat
      .ok (addFloats one other)

def isPositive : Number → Bool
  | .int value => 0 < value
  | .float value => 0 < value
  | .infinite => true

/-- `first < second`, of finite numbers -/
def below (first second : Number) : Bool :=
  match first, second with
  | .int one, .int other => one < other
  | .int one, .float other => (one : ℚ) < other
  | .float one, .int other => one < (other : ℚ)
  | .float one, .float other => one < other
  | _, .infinite => first ≠ .infinite
  | .infinite, _ => false

/-- `int(value)`, of a finite number -/
def toInt : Number → Int
  | .int value => value
  | .float value => value.num.tdiv value.den
  | .infinite => 0

/-- `json.dumps` refuses what is infinite and integers that are too long. -/
def isWritten (digits : Nat) : Number → Bool
  | .int value => value.natAbs < 10 ^ digits
  | .float _ => true
  | .infinite => false

def toJson : Number → Json
  | .int value => .int value
  | .float value => .float value
  | .infinite => .null

end Number

def invalidNumber : Fault := .value "invalid finite numeric telemetry"

def number : Json → Except Fault Number
  | .int value =>
      if binary64 value = none then .error .overflow
      else if value < 0 then .error invalidNumber
      else .ok (.int value)
  | .float value => if value < 0 then .error invalidNumber else .ok (.float value)
  | _ => .error invalidNumber

def strings (value : Json) : Except Fault Json :=
  match value with
  | .arr items =>
      if items ≠ [] ∧ items.all (fun item =>
          match item with
          | .str text => text ≠ "" && text.length ≤ 128
          | _ => false) then .ok value
      else .error (.value "expected nonempty string list")
  | _ => .error (.value "expected nonempty string list")

/-- `value[name]` -/
def subscript (value : Json) (name : String) : Except Fault Json :=
  match value with
  | .obj fields =>
      match fields.lookup name with
      | some own => .ok own
      | none => .error .key
  | _ => .error .type

/-- A check that raises a `ValueError`. -/
def require (condition : Bool) (text : String) : Except Fault Unit :=
  if condition then .ok () else .error (.value text)

section Reading

variable (py : Python)

/-- `str(value)` -/
def toText (value : Json) : Except Fault String :=
  match value with
  | .str text => .ok text
  | _ => do
      dump py.digits py.nesting value
      .ok (py.conv.str value)

def canonical (value : Json) : Except Fault (List Char) := do
  dump py.digits py.nesting (JsonText.sortKeys value)
  .ok (canonicalText value)

def digest (value : Json) : Except Fault String := (canonical py value).map py.sha256

/-- What the loops of `normalize` have read so far. -/
structure Telemetry where
  temp : Number := .int 0
  workload : List Json := []
  revenue : Number := .int 0
  accepted : Number := .int 0
  rejected : Number := .int 0

/-- What `for device in value` goes through. -/
def deviceItems : Json → Except Fault (List Json)
  | .arr items => .ok items
  | .obj fields => .ok (fields.map fun field => .str field.1)
  | .str text => .ok (text.toList.map fun c => .str (String.ofList [c]))
  | _ => .error .type

/-- `max(temp, measured)` where `number` takes the temperature; a `ValueError` skips it. -/
def measure (temp : Number) (reading : Json) : Except Fault Number :=
  match number reading with
  | .ok measured => .ok (if measured.isPositive && temp.below measured then measured else temp)
  | .error (.value _) => .ok temp
  | .error fault => .error fault

/-- A round over `Devices`: the slot, and the highest temperature so far. -/
def readDevice (temp : Number) (device : Json) : Except Fault (Json × Number) := do
  let id ← subscript device "Id"
  let id ← toText py id
  let name ← subscript device "Name"
  let name ← toText py name
  let temp ← measure temp (match device with
    | .obj fields => Dict.get fields "Temp"
    | _ => .null)
  .ok (.obj [("id", .str id), ("name", .str name)], temp)

def readDevices (slots : List Json) (temp : Number) : List Json → Except Fault (List Json × Number)
  | [] => .ok (slots, temp)
  | device :: rest => do
      let (slot, temp) ← readDevice py temp device
      readDevices (slots ++ [slot]) temp rest

/-- `sorted(values, key=canonical)`, of values that hold texts only -/
def sortedByText (values : List Json) : List Json :=
  values.mergeSort fun first second =>
    String.ofList (canonicalText first) ≤ String.ofList (canonicalText second)

/-- `sum(number(x) for x in values)`, added to what has been summed. -/
def sumNumbers (total : Number) : List Json → Except Fault Number
  | [] => .ok total
  | value :: rest => do
      let next ← number value
      let total ← total.add next
      sumNumbers total rest

def readShares (miner : Dict) (field : String) : Except Fault Number :=
  match Dict.get miner field with
  | .arr (value :: rest) => sumNumbers (.int 0) (value :: rest)
  | _ => .error (.value "missing share counters")

def readInventory (temp : Number) (miner : Dict) : Except Fault (List Json × Number) := do
  let devices ← deviceItems (Dict.getD miner "Devices" (.arr []))
  let (slots, temp) ← readDevices py [] temp devices
  require (!slots.isEmpty) "missing device inventory"
  require temp.isPositive "missing measured device temperature"
  .ok (slots, temp)

def describe (miner : Dict) (slots : List Json) : Except Fault Json := do
  let name ← subscript (.obj miner) "Name"
  let name ← toText py name
  let version ← subscript (.obj miner) "Version"
  let version ← toText py version
  let algorithm ← subscript (.obj miner) "Algorithm"
  let algorithms ← strings algorithm
  let pool ← subscript (.obj miner) "Pool"
  let pools ← strings pool
  .ok (.obj [("miner", .str name), ("version", .str version), ("algorithms", algorithms),
    ("pools", pools), ("devices", .arr (sortedByText slots))])

def addShares (total : Number) (miner : Dict) (field : String) : Except Fault Number := do
  let shares ← readShares miner field
  total.add shares

/-- The sums of a miner, added to those of the miners before it. -/
def addTotals (telemetry : Telemetry) (miner : Dict) : Except Fault Telemetry := do
  let rate ← subscript (.obj miner) "BTC/day"
  let rate ← number rate
  let revenue ← telemetry.revenue.add rate
  let accepted ← addShares telemetry.accepted miner "Accepted"
  let rejected ← addShares telemetry.rejected miner "Rejected"
  let rejected ← addShares rejected miner "Stale"
  .ok { telemetry with revenue, accepted, rejected }

/-- A round over `data`. -/
def readMiner (telemetry : Telemetry) : Json → Except Fault Telemetry
  | .obj miner => do
      require ((Dict.get miner "Benchmarking").isFalse && (Dict.get miner "Donator").isFalse)
        "benchmark or donation workload"
      let (slots, temp) ← readInventory py telemetry.temp miner
      let entry ← describe py miner slots
      addTotals { telemetry with temp, workload := telemetry.workload ++ [entry] } miner
  | _ => .error .attribute

def readMiners (telemetry : Telemetry) : List Json → Except Fault Telemetry
  | [] => .ok telemetry
  | miner :: rest => do
      let telemetry ← readMiner py telemetry miner
      readMiners telemetry rest

/-- What `normalize` returns. -/
structure Row where
  worker : String
  sampled : Int
  profile : String
  hardware : String
  workload : List Json
  revenue : Number
  watts : Number
  temp : Number
  accepted : Number
  rejected : Number

def isName : Json → Bool
  | .str text => text ≠ ""
  | _ => false

/-- `[worker.get('user'), worker.get('worker'), worker.get('machinename')]` -/
def identityOf (worker : Dict) : List Json :=
  [Dict.get worker "user", Dict.get worker "worker", Dict.get worker "machinename"]

/-- `value in (None, 0, False, '')` -/
def isClear (value : Json) : Bool :=
  value.key = some .null || value.key = some (.number 0) || value.key = some (.text "")

variable (now maxAge : Int)

/-- The checks between `lastseen` and `powerdraw`. -/
def checkState (worker : Dict) (seen : Int) : Except Fault Unit := do
  require (!(seen > now + 30 || now - seen > maxAge || !(Dict.get worker "online").isTrue ||
    !(Dict.get worker "status").isStr "Running")) "worker offline, paused or stale"
  require (["tempalert", "crashalert", "uncleanalert", "diskmingbalert"].all fun name =>
    isClear (Dict.get worker name)) "worker health alert"

/-- The first part of `normalize`: the time of the sample and the power. -/
def readWorker (worker : Dict) : Except Fault (Int × Number) := do
  require ((identityOf worker).all isName) "worker identity incomplete"
  let lastseen ← subscript (.obj worker) "lastseen"
  let lastseen ← number lastseen
  checkState now maxAge worker lastseen.toInt
  let watts ← subscript (.obj worker) "powerdraw"
  let watts ← number watts
  require watts.isPositive "missing measured power"
  .ok (lastseen.toInt, watts)

/-- `worker['data']`, where it is a list of something. -/
def readData (worker : Dict) : Except Fault (List Json) :=
  match Dict.get worker "data" with
  | .arr (miner :: rest) => .ok (miner :: rest)
  | _ => .error (.value "missing workload")

/-- `hmac.new(salt, canonical(identity).encode(), hashlib.sha256).hexdigest()` -/
def keyOf (salt : Bytes) (worker : Dict) : Except Fault String :=
  (canonical py (.arr (identityOf worker))).map (py.hmac salt)

/-- The last part of `normalize`. Of the values it writes only the model of the processor is not
made of texts. -/
def rowOf (salt : Bytes) (worker : Dict) (seen : Int) (watts : Number) (telemetry : Telemetry) :
    Except Fault Row := do
  let workload := sortedByText telemetry.workload
  let cpu := Dict.get worker "cpu"
  dump py.digits (py.nesting - 1) (JsonText.sortKeys cpu)
  let slots := workload.map fun entry =>
    match entry with
    | .obj fields => Dict.get fields "devices"
    | _ => .null
  .ok
    { worker := py.hmac salt (canonicalText (.arr (identityOf worker)))
      sampled := seen
      profile := py.sha256 (canonicalText (.arr workload))
      hardware := py.sha256 (canonicalText (.obj [("cpu", cpu), ("slots", .arr slots)]))
      workload, watts
      revenue := telemetry.revenue
      temp := telemetry.temp
      accepted := telemetry.accepted
      rejected := telemetry.rejected }

def normalize (salt : Bytes) (worker : Dict) : Except Fault Row := do
  let (seen, watts) ← readWorker now maxAge worker
  let data ← readData worker
  let telemetry ← readMiners py {} data
  rowOf py salt worker seen watts telemetry

namespace Row

def numbers (row : Row) : List Number :=
  [.int row.sampled, row.revenue, row.watts, row.temp, row.accepted, row.rejected]

def toJson (row : Row) : Json :=
  .obj [("worker", .str row.worker), ("sampled", .int row.sampled), ("profile", .str row.profile),
    ("hardware", .str row.hardware), ("workload", .arr row.workload),
    ("estimated_btc_day", row.revenue.toJson), ("watts", row.watts.toJson),
    ("temperature_c", row.temp.toJson), ("temperature_source", .str "device_temp_v1"),
    ("accepted", row.accepted.toJson), ("rejected_or_stale", row.rejected.toJson)]

/-- `canonical(row)` -/
def text (row : Row) : Except Fault (List Char) :=
  if row.numbers.all (Number.isWritten py.digits) then .ok (canonicalText row.toJson)
  else .error (.value "Out of range float values are not JSON compliant")

end Row

end Reading

end HashBurst.Accelerator
