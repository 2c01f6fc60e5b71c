import HashBurst.Lib.Base64
import HashBurst.Lib.JsonText
import HashBurst.Tep.Envelope

/-! The messages that the daemon builds (`hb_tep_app.py`, `hb_tep_relay.py` and the heartbeat). -/

namespace HashBurst.Tep

open Lib Lib.Py

def Identity.toDict (identity : Identity) : Json :=
  .obj [("node_id", .str identity.nodeId), ("peer_id", .str identity.peerId)]

/-- The payload of `_heartbeat_loop`. -/
def heartbeatPayload (nodeId pubkeyHex : String) (ts : Int) : Dict :=
  [("type", .str "heartbeat"), ("ts", .int ts), ("node", .str nodeId), ("pubkey", .str pubkeyHex)]

structure Stamp where
  timestampMs : Int
  nonce : String
  deriving DecidableEq

/-- `validate_envelope(message, check_time=False)`: any message is in the window around its own
time. -/
def validateUntimed (services : List String) (message : Dict) : Except Raised ValidatedEnvelope :=
  validateEnvelope services message
    (match message.get "timestamp_ms" with
    | .int timestamp => timestamp
    | _ => 0)

def checked (services : List String) (message : Dict) : Except Raised Dict :=
  (validateUntimed services message).map fun _ => message

def maxInnerBytes : Nat := 32768

def b64Encode (raw : Bytes) : String := String.ofList (Base64.encode raw)

/-- `text.encode("utf-8")` -/
def utf8 (text : String) : Bytes := text.toUTF8.data.toList

@[simp] theorem decodeUtf8_utf8 (text : String) : decodeUtf8 (utf8 text) = some text := by
  have whole : (⟨(utf8 text).toArray⟩ : ByteArray) = text.toByteArray := by
    rw [utf8, Array.toArray_toList]
    rfl
  have valid : text.toByteArray.IsValidUTF8 := text.isValidUTF8
  rw [decodeUtf8, whole, String.fromUTF8?, dif_pos valid]
  rfl

theorem utf8_append_length (first second : String) :
    (utf8 (first ++ second)).length = (utf8 first).length + (utf8 second).length := by
  simp only [utf8, Array.length_toList, String.toUTF8, ByteArray.size_data, String.toByteArray_append,
    ByteArray.size_append]

section Builders

variable (services : List String) (source destination : Identity) (stamp : Stamp)

def newRequest (requestId service : String) (payload : Dict) (ttlMs : Int) : Except Raised Dict :=
  checked services
    [("v", .int protocolVersion), ("type", .str "req"), ("request_id", .str requestId),
      ("source", source.toDict), ("destination", destination.toDict), ("service", .str service),
      ("timestamp_ms", .int stamp.timestampMs), ("nonce", .str stamp.nonce),
      ("ttl_ms", .int ttlMs), ("payload", .obj payload)]

def newResponse (request payload : Dict) (status : Int := 200) : Except Raised Dict :=
  checked services
    [("v", .int protocolVersion), ("type", .str "res"), ("request_id", request.get "request_id"),
      ("source", source.toDict), ("destination", destination.toDict),
      ("service", request.get "service"), ("timestamp_ms", .int stamp.timestampMs),
      ("nonce", .str stamp.nonce), ("status", .int status), ("payload", .obj payload)]

def newError (request : Dict) (code messageText : String) (status : Int := 400) :
    Except Raised Dict :=
  checked services
    [("v", .int protocolVersion), ("type", .str "err"), ("request_id", request.get "request_id"),
      ("source", source.toDict), ("destination", destination.toDict),
      ("service", request.get "service"), ("timestamp_ms", .int stamp.timestampMs),
      ("nonce", .str stamp.nonce), ("status", .int status),
      ("error", .obj [("code", .str code), ("message", .str messageText)])]

def newRelayRequest (targetPeerId requestId : String) (inner : Bytes) (ttlMs : Int) :
    Except Raised Dict :=
  if maxInnerBytes < inner.length then
    .error (.relay "bad_request" "relay inner exceeds size limit")
  else
    checked services
      [("v", .int 1), ("type", .str "relay_req"), ("request_id", .str requestId),
        ("source", source.toDict), ("destination", destination.toDict),
        ("relay_target", .obj [("peer_id", .str targetPeerId)]),
        ("timestamp_ms", .int stamp.timestampMs), ("nonce", .str stamp.nonce),
        ("ttl_ms", .int ttlMs), ("payload", .obj [("inner", .str (b64Encode inner))])]

def newRelayResponse (relayRequest : Dict) (targetPeerId : String) (inner : Bytes) :
    Except Raised Dict :=
  if maxInnerBytes < inner.length then
    .error (.relay "bad_response" "relay response exceeds size limit")
  else
    checked services
      [("v", .int 1), ("type", .str "relay_res"), ("request_id", relayRequest.get "request_id"),
        ("source", source.toDict), ("destination", destination.toDict),
        ("relay_target", .obj [("peer_id", .str targetPeerId)]),
        ("timestamp_ms", .int stamp.timestampMs), ("nonce", .str stamp.nonce),
        ("payload", .obj [("inner", .str (b64Encode inner))])]

end Builders

/-- `json.dumps` in its two forms. -/
structure Codec where
  dumps : Dict → Bytes
  compact : Dict → Bytes

def Loads (py : Python) (plain : Bytes) (message : Dict) : Prop :=
  ∃ text, decodeUtf8 plain = some text ∧ py.loads text = .ok (.obj message)

/-- `json.loads` reads the message out of the bytes: the same values under the same names, in the
order in which `json.dumps` has written them. -/
def ReadsBack (py : Python) (plain : Bytes) (message : Dict) : Prop :=
  ∃ own, Loads py plain own ∧ (Json.obj own).Same (.obj message)

def encodeMessage (services : List String) (codec : Codec) (message : Dict) :
    Except Raised Bytes := do
  let _ ← validateUntimed services message
  require (sizeOk message (codec.compact message)) "bad_request" "encoded message exceeds size limit"
  return codec.compact message

inductive Kind
  | heartbeat
  | req
  | res
  | err
  | relayReq
  | relayRes
  deriving DecidableEq

/-- The `type` of the payload. -/
def Kind.name : Kind → String
  | heartbeat => "heartbeat"
  | req => "req"
  | res => "res"
  | err => "err"
  | relayReq => "relay_req"
  | relayRes => "relay_res"

theorem Kind.name_injective {first second : Kind} (same : first.name = second.name) :
    first = second := by
  have all : ∀ first second : Kind, first.name = second.name → first = second := by
    intro first second
    cases first <;> cases second <;> decide
  exact all first second same

def States (py : Python) (sender : Identity) (kind : Kind) (plain : Bytes) : Prop :=
  ∃ message, Loads py plain message ∧ message.get "type" = .str kind.name ∧
    (kind = .heartbeat → message.get "node" = .str sender.nodeId) ∧
    (kind ≠ .heartbeat → (message.get "source").Same sender.toDict)

inductive Builds (services : List String) (sender : Identity) : Kind → Dict → Prop
  | request {destination stamp requestId service payload ttlMs message}
      (built : newRequest services sender destination stamp requestId service payload ttlMs =
        .ok message) : Builds services sender .req message
  | response {destination stamp request payload status message}
      (built : newResponse services sender destination stamp request payload status =
        .ok message) : Builds services sender .res message
  | error {destination stamp request code text status message}
      (built : newError services sender destination stamp request code text status =
        .ok message) : Builds services sender .err message
  | relayRequest {destination stamp targetPeerId requestId inner ttlMs message}
      (built : newRelayRequest services sender destination stamp targetPeerId requestId inner
        ttlMs = .ok message) : Builds services sender .relayReq message
  | relayResponse {destination stamp relayRequest targetPeerId inner message}
      (built : newRelayResponse services sender destination stamp relayRequest targetPeerId
        inner = .ok message) : Builds services sender .relayRes message

/-- The plaintexts that an endpoint encrypts: its heartbeat, and what it encodes. -/
inductive Sends (py : Python) (codec : Codec) (sender : Identity) : Kind → Bytes → Prop
  | heartbeat {pubkeyHex ts} (read : ReadsBack py
      (codec.dumps (heartbeatPayload sender.nodeId pubkeyHex ts))
      (heartbeatPayload sender.nodeId pubkeyHex ts)) :
      Sends py codec sender .heartbeat (codec.dumps (heartbeatPayload sender.nodeId pubkeyHex ts))
  | message {kind message plain} (built : Builds py.services sender kind message)
      (encoded : encodeMessage py.services codec message = .ok plain)
      (read : ReadsBack py plain message) : Sends py codec sender kind plain

section Sent

variable {py : Python} {codec : Codec} {sender : Identity} {kind : Kind} {message made : Dict}
  {plain : Bytes} {services : List String}

theorem checked_eq (built : checked services message = .ok made) : message = made := by
  unfold checked at built
  cases valid : validateUntimed services message with
  | error raised =>
      rw [valid] at built
      cases built
  | ok env =>
      rw [valid] at built
      exact Except.ok.inj built

theorem builds_named (builds : Builds services sender kind message) :
    kind ≠ .heartbeat ∧ message.get "type" = .str kind.name ∧
      message.get "source" = sender.toDict := by
  cases builds with
  | request built =>
      rw [← checked_eq built]
      exact ⟨by decide, rfl, rfl⟩
  | response built =>
      rw [← checked_eq built]
      exact ⟨by decide, rfl, rfl⟩
  | error built =>
      rw [← checked_eq built]
      exact ⟨by decide, rfl, rfl⟩
  | relayRequest built =>
      unfold newRelayRequest at built
      split at built
      · cases built
      · rw [← checked_eq built]
        exact ⟨by decide, rfl, rfl⟩
  | relayResponse built =>
      unfold newRelayResponse at built
      split at built
      · cases built
      · rw [← checked_eq built]
        exact ⟨by decide, rfl, rfl⟩

theorem states_of_sends (sends : Sends py codec sender kind plain) : States py sender kind plain := by
  cases sends with
  | heartbeat read =>
      obtain ⟨own, loaded, same⟩ := read
      exact ⟨own, loaded, get_str same rfl, fun _ => get_str same rfl, fun app => absurd rfl app⟩
  | message built encoded read =>
      obtain ⟨app, type, source⟩ := builds_named built
      obtain ⟨own, loaded, same⟩ := read
      refine ⟨own, loaded, get_str same type, fun heartbeat => absurd heartbeat app, fun _ => ?_⟩
      rw [← source]
      exact same_get same "source"

end Sent

end HashBurst.Tep
