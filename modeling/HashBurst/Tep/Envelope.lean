import HashBurst.Lib.Bytes
import HashBurst.Lib.PyJson

/-! HB-TEP-APP/1 messages and their validation (`hb_tep_app.py`). -/

namespace HashBurst.Tep

open Lib Lib.Py

/-- What `json.loads` raises: a `JSONDecodeError`, a plain `ValueError` or a `RecursionError`. -/
inductive LoadsError
  | decode
  | value
  | recursion
  deriving DecidableEq

inductive Raised
  | protocol (code message : String)
  | relay (code message : String)
  | loads (failure : LoadsError)
  | unicode
  deriving DecidableEq

/-- What the receive path needs of Python, and the services of the process. -/
structure Python where
  conv : Conversions
  loads : String → Except LoadsError Json
  services : List String := ["storage.summary"]

def protocolVersion : Int := 1

def supportedTypes : List String := ["req", "res", "err", "relay_req", "relay_res"]

def requestIdHexLen : Nat := 32
def nonceHexLen : Nat := 32
def maxRequestBytes : Nat := 8192
def maxResponseBytes : Nat := 32768
def maxGenericBytes : Nat := 65536
def maxTtlMs : Int := 5000
def pastSkewMs : Int := 30000
def futureSkewMs : Int := 10000

structure Identity where
  nodeId : String
  peerId : String
  deriving DecidableEq

structure ValidatedEnvelope where
  raw : Dict
  version : Int
  msgType : String
  requestId : String
  source : Identity
  destination : Identity
  service : Option String
  timestampMs : Int
  nonce : String
  ttlMs : Option Int

/-- `raise ProtocolError(code, message)` unless the condition holds. -/
def require (holds : Bool) (code message : String) : Except Raised Unit :=
  if holds then .ok () else .error (.protocol code message)

def isHex (value : String) (expectedLen : Nat) : Bool :=
  value.length = expectedLen && (fromHex value.toList).isSome && lower value = value

def requireDict (value : Json) (field : String) : Except Raised Dict :=
  match value with
  | .obj fields => .ok fields
  | _ => .error (.protocol "bad_request" s!"{field} must be an object")

def requireNonemptyStr (fields : Dict) (field : String) (maxLen : Nat) : Except Raised String :=
  match fields.get field with
  | .str value =>
      if strip value = "" then .error (.protocol "bad_request" s!"{field} must not be empty")
      else if maxLen < (strip value).length then
        .error (.protocol "bad_request" s!"{field} is too long")
      else .ok (strip value)
  | _ => .error (.protocol "bad_request" s!"{field} must be a string")

def validateIdentity (value : Json) (field : String) : Except Raised Identity := do
  let fields ← requireDict value field
  let nodeId ← requireNonemptyStr fields "node_id" 128
  let peerId ← requireNonemptyStr fields "peer_id" 256
  return { nodeId, peerId }

def maxSizeForType (msgType : String) : Nat :=
  if msgType = "req" ∨ msgType = "relay_req" then maxRequestBytes
  else if msgType = "res" ∨ msgType = "err" ∨ msgType = "relay_res" then maxResponseBytes
  else maxGenericBytes

namespace Envelope

variable (message : Dict)

def version : Except Raised Int :=
  match message.get "v" with
  | .int version => do
      require (version = protocolVersion) "unsupported_version"
        s!"unsupported protocol version {version}"
      return version
  | _ => .error (.protocol "bad_request" "v must be integer 1")

def msgType : Except Raised String :=
  match message.get "type" with
  | .str msgType => do
      require (msgType ∈ supportedTypes) "unsupported_type" s!"unsupported type {msgType}"
      return msgType
  | _ => .error (.protocol "bad_request" "type must be a string")

/-- A field of 128 bits in lowercase hex. -/
def hexField (field : String) (expectedLen : Nat) : Except Raised String :=
  match message.get field with
  | .str value => do
      require (isHex value expectedLen) "bad_request" s!"{field} must be 128-bit lowercase hex"
      return value
  | _ => .error (.protocol "bad_request" s!"{field} must be 128-bit lowercase hex")

def timestampMs : Except Raised Int :=
  match message.get "timestamp_ms" with
  | .int timestamp => do
      require (0 ≤ timestamp) "bad_request" "timestamp_ms must be a non-negative integer"
      return timestamp
  | _ => .error (.protocol "bad_request" "timestamp_ms must be a non-negative integer")

/-- The acceptance window around the time of the check. -/
def checkWindow (timestamp nowMs : Int) : Except Raised Unit := do
  require (nowMs - pastSkewMs ≤ timestamp) "request_expired"
    "timestamp is outside past acceptance window"
  require (timestamp ≤ nowMs + futureSkewMs) "request_expired"
    "timestamp is outside future acceptance window"

def service (services : List String) (msgType : String) : Except Raised (Option String) :=
  if msgType = "req" ∨ msgType = "res" ∨ msgType = "err" then do
    let service ← requireNonemptyStr message "service" 128
    require (service ∈ services) "unsupported_service" s!"unsupported service {service}"
    return some service
  else .ok none

def ttlMs (msgType : String) : Except Raised (Option Int) :=
  if msgType = "req" ∨ msgType = "relay_req" then
    match message.get "ttl_ms" with
    | .int ttl => do
        require (0 < ttl && ttl ≤ maxTtlMs) "bad_request"
          s!"ttl_ms must be between 1 and {maxTtlMs}"
        return some ttl
    | _ => .error (.protocol "bad_request" "ttl_ms must be an integer")
  else .ok none

def isDict : Json → Bool
  | .obj _ => true
  | _ => false

def checkPayload (msgType : String) : Except Raised Unit :=
  if msgType = "req" ∨ msgType = "res" then
    require (isDict (message.get "payload")) "bad_request" "payload must be an object"
  else .ok ()

def checkStatus (low high : Int) (text : String) : Except Raised Unit :=
  match message.get "status" with
  | .int status => require (low ≤ status && status ≤ high) "bad_request" text
  | _ => .error (.protocol "bad_request" text)

def checkError (msgType : String) : Except Raised Unit :=
  if msgType = "err" then do
    checkStatus message 400 599 "error status must be 400..599"
    let error ← requireDict (message.get "error") "error"
    let _ ← requireNonemptyStr error "code" 128
    match error.get "message" with
    | .null => return ()
    | .str text =>
        require (text.length ≤ 512) "bad_request" "error.message must be a string up to 512 chars"
    | _ => .error (.protocol "bad_request" "error.message must be a string up to 512 chars")
  else .ok ()

def checkResponse (msgType : String) : Except Raised Unit :=
  if msgType = "res" then checkStatus message 200 399 "response status must be 200..399"
  else .ok ()

def checkRelay (msgType : String) : Except Raised Unit :=
  if msgType = "relay_req" ∨ msgType = "relay_res" then do
    let target ← requireDict (message.get "relay_target") "relay_target"
    let _ ← requireNonemptyStr target "peer_id" 256
    match message.get "payload" with
    | .obj inner =>
        require (inner.lookup "inner").isSome "bad_request" "relay payload must contain inner"
        match Dict.get inner "inner" with
        | .str text => require (text ≠ "") "bad_request" "relay inner must be a non-empty string"
        | _ => .error (.protocol "bad_request" "relay inner must be a non-empty string")
    | _ => .error (.protocol "bad_request" "relay payload must contain inner")
  else .ok ()

end Envelope

open Envelope in
def validateEnvelope (services : List String) (message : Dict) (nowMs : Int) :
    Except Raised ValidatedEnvelope := do
  let version ← version message
  let msgType ← msgType message
  let requestId ← hexField message "request_id" requestIdHexLen
  let source ← validateIdentity (message.get "source") "source"
  let destination ← validateIdentity (message.get "destination") "destination"
  let nonce ← hexField message "nonce" nonceHexLen
  let timestampMs ← timestampMs message
  checkWindow timestampMs nowMs
  let service ← service message services msgType
  let ttlMs ← ttlMs message msgType
  checkPayload message msgType
  checkError message msgType
  checkResponse message msgType
  checkRelay message msgType
  return {
    raw := message
    version
    msgType
    requestId
    source
    destination
    service
    timestampMs
    nonce
    ttlMs }

/-- `raw.decode("utf-8", "strict")` -/
def decodeUtf8 (raw : Bytes) : Option String := String.fromUTF8? ⟨raw.toArray⟩

def sizeOk (message : Dict) (raw : Bytes) : Bool :=
  match message.get "type" with
  | .str msgType => raw.length ≤ maxSizeForType msgType
  | _ => true

def decodeMessage (py : Python) (nowMs : Int) (raw : Bytes) : Except Raised ValidatedEnvelope := do
  require (raw ≠ []) "bad_request" "empty message"
  require (raw.length ≤ maxGenericBytes) "bad_request" "message exceeds absolute size limit"
  match decodeUtf8 raw with
  | none => .error (.protocol "bad_request" "message is not valid UTF-8")
  | some text =>
      match py.loads text with
      | .error .decode => .error (.protocol "bad_request" "message is not valid JSON")
      | .error failure => .error (.loads failure)
      | .ok (.obj message) =>
          require (sizeOk message raw) "bad_request" "message exceeds type-specific size limit"
          validateEnvelope py.services message nowMs
      | .ok _ => .error (.protocol "bad_request" "message root must be an object")

section Validated

variable {services : List String} {message : Dict} {nowMs : Int} {env : ValidatedEnvelope}

theorem bind_eq_ok {ε α β : Type} {first : Except ε α} {rest : α → Except ε β} {result : β} :
    first >>= rest = .ok result ↔ ∃ value, first = .ok value ∧ rest value = .ok result := by
  cases first with
  | error raised =>
      constructor
      · intro impossible
        cases impossible
      · rintro ⟨value, impossible, -⟩
        cases impossible
  | ok value =>
      constructor
      · intro passed
        exact ⟨value, rfl, passed⟩
      · rintro ⟨own, same, passed⟩
        cases same
        exact passed

theorem require_eq_ok {holds : Bool} {code text : String} {done : Unit} :
    require holds code text = .ok done ↔ holds = true := by
  unfold require
  cases holds with
  | true => exact ⟨fun _ => rfl, fun _ => rfl⟩
  | false =>
      constructor
      · intro passed
        cases passed
      · intro impossible
        cases impossible

theorem exists_of_isOk {α : Type} {result : Except Raised α} (passed : result.isOk = true) :
    ∃ value, result = .ok value := by
  cases result with
  | ok value => exact ⟨value, rfl⟩
  | error raised => cases passed

structure Envelope.Reads (services : List String) (message : Dict) (nowMs : Int)
    (env : ValidatedEnvelope) : Prop where
  raw : env.raw = message
  version : Envelope.version message = .ok env.version
  msgType : Envelope.msgType message = .ok env.msgType
  requestId : Envelope.hexField message "request_id" requestIdHexLen = .ok env.requestId
  source : validateIdentity (message.get "source") "source" = .ok env.source
  destination : validateIdentity (message.get "destination") "destination" = .ok env.destination
  nonce : Envelope.hexField message "nonce" nonceHexLen = .ok env.nonce
  timestampMs : Envelope.timestampMs message = .ok env.timestampMs
  window : Envelope.checkWindow env.timestampMs nowMs = .ok ()
  service : Envelope.service message services env.msgType = .ok env.service
  ttlMs : Envelope.ttlMs message env.msgType = .ok env.ttlMs
  payload : Envelope.checkPayload message env.msgType = .ok ()
  error : Envelope.checkError message env.msgType = .ok ()
  response : Envelope.checkResponse message env.msgType = .ok ()
  relay : Envelope.checkRelay message env.msgType = .ok ()

theorem validateEnvelope_eq_ok :
    validateEnvelope services message nowMs = .ok env ↔
      Envelope.Reads services message nowMs env := by
  unfold validateEnvelope
  simp only [bind_eq_ok]
  constructor
  · rintro ⟨version, versioned, msgType, typed, requestId, identified, source, sourced, destination,
      addressed, nonce, nonced, timestampMs, stamped, ⟨⟩, window, service, served, ttlMs, lived, ⟨⟩,
      payload, ⟨⟩, error, ⟨⟩, response, ⟨⟩, relay, done⟩
    cases done
    exact ⟨rfl, versioned, typed, identified, sourced, addressed, nonced, stamped, window, served,
      lived, payload, error, response, relay⟩
  · intro reads
    have same := reads.raw
    cases env
    cases same
    exact ⟨_, reads.version, _, reads.msgType, _, reads.requestId, _, reads.source, _,
      reads.destination, _, reads.nonce, _, reads.timestampMs, (), reads.window, _, reads.service, _,
      reads.ttlMs, (), reads.payload, (), reads.error, (), reads.response, (), reads.relay, rfl⟩

theorem decodeMessage_eq_ok {py : Python} {raw : Bytes} :
    decodeMessage py nowMs raw = .ok env ↔
      raw ≠ [] ∧ raw.length ≤ maxGenericBytes ∧ ∃ text, decodeUtf8 raw = some text ∧
        ∃ message, py.loads text = .ok (.obj message) ∧ sizeOk message raw = true ∧
          Envelope.Reads py.services message nowMs env := by
  unfold decodeMessage
  simp only [bind_eq_ok, require_eq_ok, decide_eq_true_eq, exists_const]
  constructor
  · rintro ⟨some, fits, passed⟩
    refine ⟨some, fits, ?_⟩
    cases decoded : decodeUtf8 raw with
    | none =>
        rw [decoded] at passed
        cases passed
    | some text =>
        refine ⟨text, rfl, ?_⟩
        simp only [decoded] at passed
        cases read : py.loads text with
        | error failure =>
            rw [read] at passed
            cases failure <;> cases passed
        | ok value =>
            rw [read] at passed
            cases value with
            | obj message =>
                obtain ⟨⟨⟩, sized, valid⟩ := bind_eq_ok.mp passed
                exact ⟨message, rfl, require_eq_ok.mp sized, validateEnvelope_eq_ok.mp valid⟩
            | _ => cases passed
  · rintro ⟨some, fits, text, decoded, message, read, sized, valid⟩
    refine ⟨some, fits, ?_⟩
    simp only [decoded, read]
    exact bind_eq_ok.mpr ⟨(), require_eq_ok.mpr sized, validateEnvelope_eq_ok.mpr valid⟩

end Validated

end HashBurst.Tep
