import HashBurst.Lib.Machine
import HashBurst.Lib.Prog
import HashBurst.Master.Settings

/-! The master node: the messages of the workers, the jobs of the pools and the configuration that is
posted, each handled in one go except where a share waits for its pool (`MasterNode` of
`master_node_v220.py`). -/

namespace HashBurst.Master

open Lib Lib.Py

inductive NodeFault
  | raised (raised : Raised)
  | attribute
  | overflow
  deriving DecidableEq

structure Addr where
  host : String
  port : Nat
  deriving DecidableEq

structure Worker where
  nodeId : Json
  addr : Addr
  caps : Json
  coin : Json := .str "XMR"
  hashrate : ℚ := 0
  shares : Nat := 0
  lastSeen : ℚ
  active : Bool := true
  lastJobId : Json := .null

structure Outgoing where
  kind : Nat
  payload : Dict
  addr : Addr

/-- The nonces `[start, start + count)`. -/
structure Segment where
  start : Int
  count : Int
  deriving DecidableEq

/-- `MasterNode`, with the packets that it has sent, the newest first, and the segments among them
that were sent since the last job came. -/
structure MasterNode where
  cfg : Settings
  workers : List (Key × Worker) := []
  stratum : List Key := []
  listening : Bool := true
  currentJob : Option Dict := none
  nonceCursor : Nat := 0
  sent : List Outgoing := []
  handedOut : List Segment := []

def tepRegister : Nat := 0x10
def tepJob : Nat := 0x11
def tepShare : Nat := 0x12
def tepHeartbeat : Nat := 0x14
def tepStats : Nat := 0x15
def tepAck : Nat := 0x16

def workerTimeout : ℚ := 300

mutual

/-- `first == second` -/
def pyEq : Json → Json → Bool
  | .arr first, .arr second => pyEqItems first second
  | .obj first, .obj second => first.length == second.length && pyEqFields first second
  | first, second => first.key.isSome && first.key = second.key

def pyEqItems : List Json → List Json → Bool
  | [], [] => true
  | first :: firsts, second :: seconds => pyEq first second && pyEqItems firsts seconds
  | _, _ => false

def pyEqFields : List (String × Json) → Dict → Bool
  | [], _ => true
  | (name, value) :: rest, other =>
      (match other.lookup name with
        | some own => pyEq value own
        | none => false) && pyEqFields rest other

end

def hex (value : Int) : String :=
  (if value < 0 then "-0x" else "0x") ++ String.ofList (Nat.toDigits 16 value.natAbs)

/-- `{**fields, name: value}` -/
def setField (name : String) (value : Json) : Dict → Dict
  | [] => [(name, value)]
  | (own, old) :: rest =>
      if own = name then (own, value) :: rest else (own, old) :: setField name value rest

/-- `float(value)`, or what it raises; an integer that is too large overflows. -/
def toHashrate (py : Interpreter) (value : Json) : Except NodeFault ℚ :=
  match value with
  | .int number =>
      if 2 ^ 1024 - 2 ^ 970 ≤ number.natAbs then .error .overflow else .ok number
  | _ => (py.conv.toFloat value).mapError fun _ => .raised (notInteger value)

/-- `int(cfg["segmentation"]["nonce_segment_size"])` -/
def segmentSize (py : Interpreter) (cfg : Settings) : Except NodeFault Int :=
  match cfg.named "segmentation" with
  | none => .error (.raised .key)
  | some (.obj fields) =>
      match fields.lookup "nonce_segment_size" with
      | none => .error (.raised .key)
      | some size => (py.conv.toInt size).mapError fun _ => .raised (notInteger size)
  | some _ => .error (.raised .type)

namespace MasterNode

variable (py : Interpreter) (node : MasterNode)

def worker (key : Key) : Option Worker := node.workers.lookup key

def setWorker (key : Key) (worker : Worker) : MasterNode :=
  { node with
    workers :=
      if (node.worker key).isSome then
        node.workers.map fun entry => if entry.1 = key then (key, worker) else entry
      else node.workers ++ [(key, worker)] }

/-- What `_touch_worker` reads of the payload. -/
def measure (payload : Dict) (worker : Worker) : Worker × Except NodeFault Unit :=
  let coined (worker : Worker) : Worker :=
    if (Dict.get payload "coin").truthy then { worker with coin := Dict.get payload "coin" }
    else worker
  match payload.lookup "hashrate" with
  | none => (coined worker, .ok ())
  | some value =>
      match toHashrate py value with
      | .ok rate => (coined { worker with hashrate := max 0 rate }, .ok ())
      | .error .overflow => (worker, .error .overflow)
      | .error _ => (coined worker, .ok ())

/-- `_touch_worker` with `create=True`: the key of the worker. -/
def touchWorker (nodeId : Json) (addr : Addr) (payload : Dict) (now : ℚ) :
    MasterNode × Except NodeFault Key :=
  match nodeId.key with
  | none => (node, .error (.raised .type))
  | some key =>
      let known := (node.worker key).getD
        { nodeId, addr, caps := Dict.getD payload "caps" (.obj []), lastSeen := now }
      let (measured, answer) := measure py payload { known with addr, lastSeen := now, active := true }
      (node.setWorker key measured, answer.map fun _ => key)

def adjust (key : Key) (change : Worker → Worker) : MasterNode :=
  match node.worker key with
  | none => node
  | some worker => node.setWorker key (change worker)

def send (kind : Nat) (payload : Dict) (addr : Addr) : MasterNode × Except NodeFault Unit :=
  if !node.listening then (node, .error .attribute)
  else if 65535 < (JsonText.compactAscii.write 0 (.obj payload)).length then
    (node, .error (.raised .value))
  else ({ node with sent := ⟨kind, payload, addr⟩ :: node.sent }, .ok ())

/-- The payload of `TEP_JOB`. -/
def dispatchOf (job : Dict) (worker : Worker) (segment : Segment) : Dict :=
  setField "nonce_count" (.int segment.count)
    (setField "nonce_start" (.str (hex segment.start)) (setField "node_id" worker.nodeId job))

/-- `_dispatch_segment` of a job, from the segment size on. -/
def dispatch (key : Key) (worker : Worker) (job : Dict) (size : Int) :
    MasterNode × Except NodeFault Unit :=
  let segment : Segment := ⟨node.nonceCursor * size, size⟩
  let claimed :=
    { node with nonceCursor := node.nonceCursor + 1 }.setWorker key
      { worker with lastJobId := Dict.get job "job_id" }
  match claimed.send tepJob (dispatchOf job worker segment) worker.addr with
  | (after, .ok ()) => ({ after with handedOut := segment :: after.handedOut }, .ok ())
  | (after, .error fault) => (after, .error fault)

def dispatchSegment (key : Key) (own : Option Dict) (now : ℚ) : MasterNode × Except NodeFault Unit :=
  match node.worker key, own.or node.currentJob with
  | some worker, some job =>
      if job = [] || !node.listening then (node, .ok ())
      else if now - worker.lastSeen > workerTimeout then
        (node.setWorker key { worker with active := false }, .ok ())
      else
        match segmentSize py node.cfg with
        | .error fault => (node, .error fault)
        | .ok size => node.dispatch key worker job size
  | _, _ => (node, .ok ())

/-- The start of `_on_new_job`. -/
def takeJob (job : Dict) : MasterNode :=
  { node with currentJob := some job, nonceCursor := 0, handedOut := [] }

/-- A round of `_housekeeping_loop`. -/
def housekeeping (now : ℚ) : MasterNode :=
  { node with
    workers := node.workers.map fun entry =>
      let active : Bool := now - entry.2.lastSeen ≤ workerTimeout
      (entry.1, { entry.2 with
        active
        hashrate := if entry.2.active && !active then 0 else entry.2.hashrate }) }

end MasterNode

abbrev Change (β : Type) := MasterNode → MasterNode × β

def Change.perform {β : Type} (change : Change β) (_ : Unit) (node : MasterNode) : MasterNode × β :=
  change node

abbrev Handler (α : Type) := Prog Change NodeFault α

/-- A share whose `submit_share` is awaited. -/
structure WaitingShare where
  key : Key
  payload : Dict
  addr : Addr

section Handlers

variable (py : Interpreter) (now : ℚ)

def readNode {α : Type} (read : MasterNode → α) : Handler α :=
  .ask (fun node => (node, read node) : Change α)

def changeNode (change : MasterNode → MasterNode) : Handler Unit :=
  .ask (fun node => (change node, ()) : Change Unit)

def attemptNode {α : Type} (change : MasterNode → MasterNode × Except NodeFault α) : Handler α :=
  .attempt (change : Change (Except NodeFault α))

def touch (nodeId : Json) (addr : Addr) (payload : Dict) : Handler Key :=
  attemptNode fun node => node.touchWorker py nodeId addr payload now

def acknowledge (fields : Dict) (addr : Addr) : Handler Unit :=
  attemptNode fun node => node.send tepAck fields addr

def dispatchTo (key : Key) (job : Option Dict) : Handler Unit :=
  attemptNode fun node => node.dispatchSegment py key job now

/-- Whether `job_id` is that of the current job. -/
def forCurrentJob (payload : Dict) (node : MasterNode) : Bool :=
  match node.currentJob with
  | some job => job ≠ [] && pyEq (Dict.get payload "job_id") (Dict.get job "job_id")
  | none => false

def hasJob (node : MasterNode) : Bool :=
  match node.currentJob with
  | some job => job ≠ []
  | none => false

def onNewJob (job : Dict) : Handler Unit := do
  changeNode fun node => node.takeJob job
  let workers ← readNode fun node => node.workers
  Prog.forEach
    (fun entry : Key × Worker =>
      if now - entry.2.lastSeen ≤ workerTimeout then do
        changeNode fun node => node.adjust entry.1 fun worker => { worker with active := true }
        dispatchTo py now entry.1 (some job)
      else .ret ())
    workers

def handleRegister (payload : Dict) (addr : Addr) (fresh : String) : Handler Unit := do
  let nodeId :=
    if (Dict.get payload "node_id").truthy then Dict.get payload "node_id" else .str fresh
  let key ← touch py now nodeId addr payload
  changeNode fun node =>
    if (Dict.get payload "caps").truthy then
      node.adjust key fun worker => { worker with caps := Dict.get payload "caps" }
    else node
  let network ← readNode fun node => (node.cfg.named "network").getD .null
  acknowledge [("status", .str "ok"), ("node_id", nodeId), ("network", network)] addr
  let job ← readNode hasJob
  if job then dispatchTo py now key none else .ret ()

/-- What is left of a share once its pool has it, or could not be reached. -/
def finishShare (share : WaitingShare) : Handler Unit := do
  acknowledge [("status", .str "ok"), ("share", Dict.get share.payload "nonce")] share.addr
  let current ← readNode (forCurrentJob share.payload)
  if current then dispatchTo py now share.key none else .ret ()

/-- A share, up to `submit_share`. -/
def handleShare (payload : Dict) (addr : Addr) : Handler (Option WaitingShare) := do
  let key ← touch py now (Dict.getD payload "node_id" (.str "unknown")) addr payload
  changeNode fun node => node.adjust key fun worker => { worker with shares := worker.shares + 1 }
  match (Dict.getD payload "coin" (.str "XMR")).key with
  | none => .fail (.raised .type)
  | some coin =>
      let pooled ← readNode fun node => decide (coin ∈ node.stratum)
      if pooled then .ret (some ⟨key, payload, addr⟩)
      else do
        finishShare py now ⟨key, payload, addr⟩
        .ret none

def handleHeartbeat (payload : Dict) (addr : Addr) : Handler Unit := do
  let key ← touch py now (Dict.getD payload "node_id" (.str "unknown")) addr payload
  acknowledge [("status", .str "ok"), ("ts", .float now)] addr
  let stale ← readNode fun node =>
    match node.worker key, node.currentJob with
    | some worker, some job => job ≠ [] && !pyEq worker.lastJobId (Dict.get job "job_id")
    | _, _ => false
  if stale then dispatchTo py now key none else .ret ()

def handleStats (payload : Dict) (addr : Addr) : Handler Unit := do
  let key ← touch py now (Dict.getD payload "node_id" (.str "unknown")) addr payload
  let current ← readNode (forCurrentJob payload)
  if (Dict.get payload "event").isStr "segment_done" && current then dispatchTo py now key none
  else .ret ()

/-- `handle_tep`; a share that goes to a pool is waiting for it then. -/
def handleTep (kind : Nat) (payload : Json) (addr : Addr) (fresh : String) :
    Handler (Option WaitingShare) :=
  match payload with
  | .obj fields =>
      if kind = tepRegister then do
        handleRegister py now fields addr fresh
        .ret none
      else if kind = tepShare then handleShare py now fields addr
      else if kind = tepHeartbeat then do
        handleHeartbeat py now fields addr
        .ret none
      else if kind = tepStats then do
        handleStats py now fields addr
        .ret none
      else .ret none
  | _ => .fail .attribute

end Handlers

structure Serving where
  node : MasterNode
  waiting : List WaitingShare := []

inductive ServingLabel
  | message (kind : Nat) (payload : Json) (addr : Addr) (fresh : String) (now : ℚ)
  | submitted (index : Nat) (now : ℚ)
  | job (job : Dict) (now : ℚ)
  | post (body : List Char) (writes : Bool)
  | housekeeping (now : ℚ)

def Handler.run {α : Type} (handler : Handler α) (node : MasterNode) :
    MasterNode × Except NodeFault α :=
  handler.exec Change.perform () node

def masterMachine (py : Interpreter) : Machine Serving ServingLabel where
  next serving
    | .message kind payload addr fresh now =>
        match (handleTep py now kind payload addr fresh).run serving.node with
        | (node, .ok (some share)) => some { node, waiting := share :: serving.waiting }
        | (node, _) => some { serving with node }
    | .submitted index now =>
        serving.waiting[index]?.map fun share =>
          { node := ((finishShare py now share).run serving.node).1
            waiting := serving.waiting.eraseIdx index }
    | .job job now => some { serving with node := ((onNewJob py now job).run serving.node).1 }
    | .post body writes =>
        some { serving with
          node := { serving.node with cfg := (handleConfig py serving.node.cfg body writes).1 } }
    | .housekeeping now => some { serving with node := serving.node.housekeeping now }

end HashBurst.Master
