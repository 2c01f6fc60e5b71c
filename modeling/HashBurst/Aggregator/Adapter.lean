import HashBurst.Lib.PyJson

/-! The loopback adapter from the aggregator to the TEP daemon (`hb_tep_adapter.py`). -/

namespace HashBurst.Aggregator

open Lib Lib.Py

/-- The environment of the aggregator: its variables, the clock and Python's conversions. -/
structure Settings where
  timeout : ℚ := 3
  maxStale : Int := 120
  ipcPort : String := "47778"
  now : Int
  conv : Conversions

namespace TepAdapter

structure TepAdapterError where
  code : String
  message : String
  deriving DecidableEq

def TepAdapterError.text (error : TepAdapterError) : String := s!"{error.code}: {error.message}"

/-- The bytes of a response, as `_decode_response` tells them apart. -/
inductive Body
  | tooLarge
  | invalid
  | json (value : Json)

inductive IpcReply
  | answered (body : Body)
  | httpError (body : Body)
  | unavailable

def ipcPort (settings : Settings) : Except TepAdapterError Int :=
  match settings.conv.toInt (.str (strip settings.ipcPort)) with
  | .error _ => .error ⟨"bad_config", "HB_TEP_IPC_PORT must be an integer"⟩
  | .ok port =>
      if port < 1 || port > 65535 then
        .error ⟨"bad_config", "HB_TEP_IPC_PORT must be in [1, 65535]"⟩
      else .ok port

def decodeResponse : Body → Except TepAdapterError Dict
  | .tooLarge => .error ⟨"bad_response", "TEP IPC response too large"⟩
  | .invalid => .error ⟨"bad_response", "TEP IPC returned invalid JSON"⟩
  | .json (.obj body) => .ok body
  | .json _ => .error ⟨"bad_response", "TEP IPC response must be an object"⟩

/-- What `_raise_ipc_error` raises. -/
def ipcError (conv : Conversions) (body : Dict) (defaultCode : String) : TepAdapterError :=
  match body.get "error" with
  | .obj error =>
      ⟨clip 64 (conv.strOr (Dict.get error "code") defaultCode),
        clip 160 (conv.strOr (Dict.get error "message") "TEP IPC request failed")⟩
  | _ => ⟨defaultCode, "TEP IPC request failed"⟩

def receive (conv : Conversions) : IpcReply → Except TepAdapterError Dict
  | .answered body => decodeResponse body
  | .httpError body =>
      match decodeResponse body with
      | .error _ => .error ⟨"tep_unavailable", "TEP IPC request failed"⟩
      | .ok body => .error (ipcError conv body "tep_unavailable")
  | .unavailable => .error ⟨"tep_unavailable", "TEP IPC is unavailable"⟩

def relayOf (path : String) (body : Dict) : Except TepAdapterError (Option String) :=
  match body.get "relay_peer_id" with
  | .str relay =>
      if path = "relay" then
        if strip relay = "" then
          .error ⟨"bad_response", "TEP relay response is missing relay peer identity"⟩
        else .ok (some (strip relay))
      else if relay = "" then .ok none
      else .error ⟨"bad_response", "direct TEP response cannot name a relay peer"⟩
  | .null =>
      if path = "relay" then
        .error ⟨"bad_response", "TEP relay response is missing relay peer identity"⟩
      else .ok none
  | _ =>
      if path = "relay" then
        .error ⟨"bad_response", "TEP relay response is missing relay peer identity"⟩
      else .error ⟨"bad_response", "direct TEP response cannot name a relay peer"⟩

def rttOf (body : Dict) : Except TepAdapterError (Option ℚ) :=
  match body.get "rtt_ms" with
  | .null => .ok none
  | .int rtt => if rtt < 0 then .error ⟨"bad_response", "TEP IPC returned invalid RTT"⟩
      else .ok (some rtt)
  | .float rtt => if rtt < 0 then .error ⟨"bad_response", "TEP IPC returned invalid RTT"⟩
      else .ok (some rtt)
  | _ => .error ⟨"bad_response", "TEP IPC returned invalid RTT"⟩

/-- What the body says of the transport, which the remote summary cannot. -/
structure Metadata where
  path : String
  relay : Option String
  rtt : Option ℚ
  deriving DecidableEq

def metadataOf (conv : Conversions) (body : Dict) : Except TepAdapterError Metadata := do
  let path := conv.text (body.get "path")
  if path ≠ "direct" && path ≠ "relay" then
    .error ⟨"bad_response", "TEP IPC returned invalid transport path"⟩
  let relay ← relayOf path body
  let rtt ← rttOf body
  return { path, relay, rtt }

/-- The summary without the keys that only the adapter writes, and with those. -/
def withMetadata (summary : Dict) (metadata : Metadata) : Dict :=
  let out := summary.filter fun item => !startsWith item.1 "_tep_"
  let out := Dict.set out "_tep_transport_path" (.str metadata.path)
  let out := match metadata.relay with
    | some relay => out.set "_tep_relay_peer_id" (.str relay)
    | none => out
  match metadata.rtt with
  | some rtt => out.set "_tep_rtt_ms" (.float rtt)
  | none => out

/-- The checks of the node and of the settings that come before the request. -/
def checkConfig (settings : Settings) (node : Dict) : Except TepAdapterError Unit :=
  let conv := settings.conv
  if conv.text (node.get "tep_peer_id") = "" then
    .error ⟨"bad_config", "TEP node requires tep_peer_id"⟩
  else if strip (conv.strOfFirst [node.get "tep_node_id", node.get "name"]) = "" then
    .error ⟨"bad_config", "TEP node requires a stable node identifier"⟩
  else if settings.timeout ≤ 0 || settings.timeout > 5 then
    .error ⟨"bad_config", "timeout must be in (0, 5]"⟩
  else (ipcPort settings).map fun _ => ()

def fetchSummary (settings : Settings) (node : Dict) (reply : IpcReply) :
    Except TepAdapterError Dict := do
  checkConfig settings node
  let body ← receive settings.conv reply
  if !(body.get "ok").isTrue then
    .error (ipcError settings.conv body "bad_response")
  match body.get "summary" with
  | .obj summary => return withMetadata summary (← metadataOf settings.conv body)
  | _ => .error ⟨"bad_response", "TEP IPC summary must be an object"⟩

end TepAdapter

end HashBurst.Aggregator
