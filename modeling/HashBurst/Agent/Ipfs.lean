import HashBurst.Lib.Bytes
import HashBurst.Lib.Prog
import HashBurst.Lib.PyJson
import Mathlib.Data.List.Infix

/-! The pins of a local Kubo node, as `IPFSClient` in `hb_ipfs.py` asks for them and changes them. -/

namespace HashBurst.Agent

open Lib Lib.Py

inductive KuboCall
  | pinAdd (cid : String)
  | pinLs (cid : String)
  | pinRm (cid : String)
  deriving DecidableEq

/-- What becomes of a request: a body, an error of Kubo with its text, no connection, or an
exception such as a timeout of an open connection. -/
inductive Reply
  | body (raw : Bytes)
  | httpError (code : Int) (text : String)
  | unreachable (reason : String)
  | raised (message : String)
  deriving DecidableEq

/-- What `json.loads(raw.decode("utf-8", "replace"))` comes to; `invalid` is a `JSONDecodeError`. -/
inductive Parsed
  | json (value : Json)
  | invalid
  | raised (message : String)

structure Python where
  conv : Conversions
  quote : String → String
  parse : Bytes → Parsed

/-- An `IPFSError`, or another exception. -/
inductive Failure
  | ipfs (message : String)
  | other (message : String)
  deriving DecidableEq

def Failure.message : Failure → String
  | ipfs message => message
  | other message => message

inductive Op : Type → Type
  /-- The `authorize-unpin` request, with an exception's text where it fails. -/
  | authorizeUnpin (nodeId jobId : String) (leaseUntil : Int) : Op (Except String Json)
  | kubo (call : KuboCall) : Op Reply

abbrev Program (α : Type) := Prog Op Failure α

variable (py : Python)

/-- `value.get`, which only a dict has. -/
def dictOf : Json → Except Failure Dict
  | .obj fields => .ok fields
  | value => .error (.other (py.conv.error "get" value))

def KuboCall.path : KuboCall → String
  | pinAdd cid => s!"pin/add?arg={py.quote cid}&recursive=true"
  | pinLs cid => s!"pin/ls?arg={py.quote cid}&type=recursive"
  | pinRm cid => s!"pin/rm?arg={cid}"

/-- `_post` -/
def received (call : KuboCall) : Reply → Except Failure Bytes
  | .body raw => .ok raw
  | .httpError code text => .error (.ipfs s!"IPFS {call.path py} HTTP {code}: {clip 200 text}")
  | .unreachable reason => .error (.ipfs s!"IPFS {call.path py} irraggiungibile: {reason}")
  | .raised message => .error (.other message)

def post (call : KuboCall) : Program Bytes :=
  .call (.kubo call) fun reply => .ofExcept (received py call reply)

/-- `cid in value` -/
def holds (cid : String) : Json → Except Failure Bool
  | .arr items => .ok (items.any fun item => item.isStr cid)
  | .obj fields => .ok (fields.lookup cid).isSome
  | .str text => .ok (decide (cid.toList <:+: text.toList))
  | value => .error (.other (py.conv.error "in" value))

def pin (cid : String) : Program Bool :=
  if cid = "" then .fail (.ipfs "pin: CID vuoto")
  else do
    let raw ← post py (.pinAdd cid)
    match py.parse raw with
    | .invalid => .fail (.ipfs "pin/add: risposta JSON non valida")
    | .raised message => .fail (.other message)
    | .json data =>
        let fields ← Prog.ofExcept (dictOf py data)
        let pins := fields.get "Pins"
        if pins.truthy then do
          if ← Prog.ofExcept (holds py cid pins) then return true
          else .fail (.ipfs "pin/add: CID richiesto non confermato dalla risposta")
        else return true

/-- Whether an answer to `pin/ls` lists the CID as a recursive pin. -/
def recursivelyPinned (cid : String) (data : Json) : Except Failure Bool := do
  let fields ← dictOf py data
  let keys := fields.get "Keys"
  if keys.truthy then
    let keys ← dictOf py keys
    let entry := keys.get cid
    if entry.truthy then
      let entry ← dictOf py entry
      return lower (py.conv.strOr (entry.get "Type") "") = "recursive"
    else return false
  else return false

/-- What `is_pinned` makes of a reply to `pin/ls`. -/
def reading (cid : String) (reply : Reply) : Except Failure Bool :=
  match received py (.pinLs cid) reply with
  | .error (.ipfs _) => .ok false
  | .error (.other message) => .error (.other message)
  | .ok raw =>
      match py.parse raw with
      | .invalid => .ok false
      | .raised message => .error (.other message)
      | .json data => recursivelyPinned py cid data

def isPinned (cid : String) : Program Bool :=
  if cid = "" then .ret false
  else .call (.kubo (.pinLs cid)) fun reply => .ofExcept (reading py cid reply)

/-- What `unpin` makes of a reply to `pin/rm`. -/
def removal (cid : String) (reply : Reply) : Except Failure Bool :=
  match received py (.pinRm cid) reply with
  | .ok _ => .ok true
  | .error (.ipfs _) => .ok false
  | .error (.other message) => .error (.other message)

def unpin (cid : String) : Program Bool :=
  .call (.kubo (.pinRm cid)) fun reply => .ofExcept (removal py cid reply)

/-- What the calls of an execution meet: the controller's answer, and Kubo's in order. -/
structure Scene where
  authorize : Except String Json
  kubo : Nat → Reply

abbrev Log := List (KuboCall × Reply)

def runOp {β : Type} (op : Op β) (scene : Scene) (log : Log) : Log × β :=
  match op with
  | .authorizeUnpin _ _ _ => (log, scene.authorize)
  | .kubo call => (log ++ [(call, scene.kubo log.length)], scene.kubo log.length)

section Exec

variable {py} {cid : String} {scene : Scene} {log : Log}

theorem exec_isPinned (named : cid ≠ "") : (isPinned py cid).exec runOp scene log =
    (log ++ [(.pinLs cid, scene.kubo log.length)], reading py cid (scene.kubo log.length)) := by
  rw [isPinned, if_neg named, Prog.exec_call, Prog.exec_ofExcept]
  rfl

theorem exec_isPinned_empty : (isPinned py "").exec runOp scene log = (log, .ok false) := by
  rw [isPinned, if_pos rfl, Prog.exec_ret]

theorem exec_unpin : (unpin py cid).exec runOp scene log =
    (log ++ [(.pinRm cid, scene.kubo log.length)], removal py cid (scene.kubo log.length)) := by
  rw [unpin, Prog.exec_call, Prog.exec_ofExcept]
  rfl

end Exec

end HashBurst.Agent
