import HashBurst.Tep.Dispatcher
import HashBurst.Tep.Failover

/-! The requests of a daemon that wait for their answers while its loop receives (`hb_tep.py`), and
the client that asks over them (`hb_tep_client.py`). -/

namespace HashBurst.Tep

open Lib Lib.Py

/-- What a request raises: what an attempt does, or a `TepClientError`. -/
inductive CallError
  | attempt (failure : AttemptError)
  | client (code message : String)
  deriving DecidableEq

def asCall {α : Type} : Except AttemptError α → Except CallError α
  | .ok value => .ok value
  | .error failure => .error (.attempt failure)

structure PendingRequest where
  requestId : String
  expectedPeerId : String
  expectedService : String
  createdAt : ℚ
  deadline : ℚ
  deriving DecidableEq

abbrev PendingRequestTable := Table PendingRequest.requestId

namespace PendingRequestTable

variable (table : PendingRequestTable)

/-- `_expire_locked` -/
def expire (now : ℚ) : PendingRequestTable where
  rows := table.rows.filter fun item => now ≤ item.deadline
  distinct := table.distinct.sublist (List.filter_sublist.map _)

def add (maxPending : Nat) (requestId expectedPeerId expectedService : String)
    (timeoutSec now : ℚ) : PendingRequestTable × Except CallError Unit :=
  if timeoutSec ≤ 0 ∨ 30 < timeoutSec then (table, .error (.attempt .other))
  else
    let kept := table.expire now
    if maxPending ≤ kept.rows.length then
      (kept, .error (.client "client_overloaded" "too many pending TEP RPC requests"))
    else
      match kept.insert?
        { requestId, expectedPeerId, expectedService, createdAt := now
          deadline := now + timeoutSec } with
      | none => (kept, .error (.client "duplicate_request_id" "request_id already pending"))
      | some grown => (grown, .ok ())

def correlate (env : ValidatedEnvelope) (now : ℚ) :
    PendingRequestTable × Except CallError PendingRequest :=
  let kept := table.expire now
  match kept.find? env.requestId with
  | none =>
      (kept, .error (.client "unknown_response" "response does not match a pending request"))
  | some item =>
      if env.source.peerId ≠ item.expectedPeerId then
        (kept, .error (.client "response_peer_mismatch"
          "response source peer does not match request"))
      else if env.service ≠ some item.expectedService then
        (kept, .error (.client "response_service_mismatch"
          "response service does not match request"))
      else if item.deadline < now then
        (kept.erase env.requestId, .error (.client "request_timeout"
          "response arrived after request deadline"))
      else (kept.erase env.requestId, .ok item)

end PendingRequestTable

/-- `_pending_create` in the table of the daemon. -/
def Engine.pendingAdd (engine : Engine) (requestId : String) : Engine × Except AttemptError Unit :=
  match engine.pending.insert? { requestId } with
  | none => (engine, .error (.protocol "duplicate_request_id" "request already pending"))
  | some pending =>
      if 256 ≤ engine.pending.rows.length then
        (engine, .error (.protocol "client_overloaded" "too many pending APP requests"))
      else ({ engine with pending }, .ok ())

/-- The accesses to the tables of the daemon, each under a lock; `send` is for the request that it
names. -/
inductive WaitOp : Type → Type
  | receive (datagram : Datagram) : WaitOp Unit
  | registry (peers : PeerTable) : WaitOp Unit
  | findByPeerId (peerId : String) : WaitOp (Option Peer)
  | create (requestId : String) : WaitOp (Except CallError Unit)
  | send (requestId : String) (peer : Peer) (type : UInt8) (plain : Bytes) :
      WaitOp (Except CallError Unit)
  | wait (requestId : String) (timeoutSec : ℚ) : WaitOp Bool
  | take (requestId : String) : WaitOp (Except CallError Bytes)
  | remove (requestId : String) : WaitOp Unit

def Engine.answerTo (engine : Engine) (requestId : String) : Option Bytes :=
  (engine.pending.find? requestId).bind Pending.raw

/-- One access, with what `_send_plain_to_peer` comes to. A `wait` that is made before there is an
answer is one that has timed out. -/
def runWait (node : Receiver) {β : Type} :
    WaitOp β → Except AttemptError Unit → Engine → Engine × β
  | .receive datagram, _, engine => ((recvOnce node engine datagram).1, ())
  | .registry peers, _, engine => ({ engine with peers }, ())
  | .findByPeerId peerId, _, engine => (engine, engine.peers.findByPeerId peerId)
  | .create requestId, _, engine =>
      ((engine.pendingAdd requestId).1, asCall (engine.pendingAdd requestId).2)
  | .send _ _ _ _, sent, engine => (engine, asCall sent)
  | .wait requestId _, _, engine => (engine, (engine.answerTo requestId).isSome)
  | .take requestId, _, engine =>
      (engine, match engine.answerTo requestId with
        | some raw => .ok raw
        | none => .error (.attempt .other))
  | .remove requestId, _, engine => ({ engine with pending := engine.pending.erase requestId }, ())

/-- What `app_transport`, `relay_transport` and `_relay_roundtrip` do with a request that is
encoded; `read` is what they make of the answer. -/
def roundtrip {α : Type} (requestId : String) (peer : Peer) (type : UInt8) (plain : Bytes)
    (timeoutSec : ℚ) (expired : String) (read : Bytes → Except CallError α) :
    Prog WaitOp CallError α :=
  Prog.attempt (.create requestId) >>= fun _ =>
    (Prog.attempt (.send requestId peer type plain) >>= fun _ =>
      Prog.ask (.wait requestId timeoutSec) >>= fun set =>
        if set then Prog.attempt (.take requestId) >>= fun raw => Prog.ofExcept (read raw)
        else .fail (.attempt (.timeout expired))).ensuring (.remove requestId)

/-- The arguments of `app_transport`, and the clock when it reads the request. -/
structure DirectCall where
  destinationPeerId : String
  raw : Bytes
  timeoutSec : ℚ
  nowMs : Int

/-- The arguments of `relay_transport`, what it draws at random, and the clock when it reads the
answer. -/
structure RendezvousCall where
  rendezvousPeerId : String
  targetPeerId : String
  raw : Bytes
  timeoutSec : ℚ
  requestId : String
  stamp : Stamp
  answeredMs : Int

/-- The arguments of `_relay_roundtrip`. -/
structure HopCall where
  peer : Peer
  message : Dict
  timeoutSec : ℚ

/-- The arguments of `TepRpcClient.request`, what it draws at random, and its clocks. -/
structure RpcCall where
  destination : Identity
  service : String
  payload : Dict
  timeoutSec : ℚ
  requestId : String
  stamp : Stamp
  addedAt : ℚ
  sentMs : Int
  answeredMs : Int
  correlatedAt : ℚ

inductive WaitCall
  | receive (datagram : Datagram)
  | registry (peers : PeerTable)
  | direct (call : DirectCall)
  | relay (call : RendezvousCall)
  | hop (call : HopCall)
  | rpc (call : RpcCall)

inductive WaitResult
  | done
  | raw (answer : Bytes)
  | inner (answer : Bytes)
  | payload (answer : Dict)

section Programs

variable (node : Receiver) (codec : Codec)

/-- `app_transport` before it looks for the peer. -/
def DirectCall.read (call : DirectCall) : Except CallError ValidatedEnvelope :=
  if !node.appReady then .error (.attempt appUnavailable)
  else do
    let env ← asCall (attempted (decodeMessage node.py call.nowMs call.raw))
    if env.msgType ≠ "req" then
      .error (.attempt (.protocol "unsupported_type" "app_transport accepts req only"))
    else if env.source ≠ node.self then
      .error (.attempt (.protocol "identity_mismatch" "local request source identity mismatch"))
    else if env.destination.peerId ≠ call.destinationPeerId then
      .error (.attempt (.protocol "identity_mismatch" "destination peer mismatch"))
    else .ok env

def keyedPeer (refused : String) : Option Peer → Except CallError Peer
  | none => .error (.attempt (.protocol "destination_unknown" refused))
  | some peer =>
      if peer.pubkey.getD "" = "" then
        .error (.attempt (.protocol "destination_unknown" refused))
      else .ok peer

def forApp : Option Peer → Except CallError Peer :=
  keyedPeer "destination peer is not registered for APP"

def forRelay : Option Peer → Except CallError Peer :=
  keyedPeer "rendezvous peer is not registered"

def DirectCall.appTransport (call : DirectCall) : Prog WaitOp CallError Bytes :=
  Prog.ofExcept (call.read node) >>= fun env =>
    Prog.ask (.findByPeerId call.destinationPeerId) >>= fun found =>
      Prog.ofExcept (forApp found) >>= fun peer =>
        roundtrip env.requestId peer pktAppRequest call.raw call.timeoutSec
          "TEP APP request timed out" .ok

/-- The relay request of `relay_transport`, encoded. -/
def RendezvousCall.encoded (call : RendezvousCall) (rendezvous : Peer) : Except CallError Bytes :=
  asCall (attempted (newRelayRequest node.py.services node.self
    { nodeId := rendezvous.id, peerId := rendezvous.peerId.getD "" } call.stamp call.targetPeerId
    call.requestId call.raw (relayTtlMs call.timeoutSec) >>=
      encodeMessage node.py.services codec))

def RendezvousCall.answer (call : RendezvousCall) (raw : Bytes) : Except CallError Bytes := do
  let env ← asCall (attempted (decodeMessage node.py call.answeredMs raw))
  if env.msgType ≠ "relay_res" then
    .error (.attempt (.protocol "bad_response" "rendezvous did not return relay_res"))
  else
    match Base64.urlsafeDecode (nestedText node env "payload" "inner").toList with
    | none => .error (.attempt (.protocol "bad_response" "invalid relay response payload"))
    | some inner => .ok inner

/-- `relay_transport` of the base daemon. -/
def RendezvousCall.relayTransport (call : RendezvousCall) : Prog WaitOp CallError Bytes :=
  if !node.appReady then .fail (.attempt appUnavailable)
  else
    Prog.ask (.findByPeerId call.rendezvousPeerId) >>= fun found =>
      Prog.ofExcept (forRelay found) >>= fun rendezvous =>
        Prog.ofExcept (call.encoded node codec rendezvous) >>= fun encoded =>
          roundtrip call.requestId rendezvous pktRelayRequest encoded call.timeoutSec
            "TEP relay request timed out" (call.answer node)

/-- `relay_message['request_id']` of a valid message. -/
def HopCall.requestId (call : HopCall) : String :=
  match call.message.get "request_id" with
  | .str requestId => requestId
  | _ => ""

def HopCall.relayRoundtrip (call : HopCall) : Prog WaitOp CallError Bytes :=
  Prog.ofExcept (asCall (attempted (encodeMessage node.py.services codec call.message))) >>=
    fun encoded =>
      roundtrip call.requestId call.peer pktRelayRequest encoded call.timeoutSec
        "TEP relay hop timed out" .ok

/-- `error.get(...)` of an error response. -/
def remoteError (env : ValidatedEnvelope) : CallError :=
  match env.raw.get "error" with
  | .obj error =>
      .client (node.py.conv.strOr (Dict.get error "code") "remote_error")
        (node.py.conv.strOr (Dict.get error "message") "remote TEP service error")
  | _ => .client "remote_error" "remote TEP service error"

namespace RpcCall

variable (call : RpcCall)

def adding : PendingRequestTable × Except CallError Unit :=
  PendingRequestTable.add Table.empty 256 call.requestId call.destination.peerId call.service
    call.timeoutSec call.addedAt

def message : Except CallError Dict :=
  asCall (attempted (newRequest node.py.services node.self call.destination call.stamp
    call.requestId call.service call.payload (relayTtlMs call.timeoutSec)))

def answer (raw : Bytes) : Except CallError Dict := do
  let env ← asCall (attempted (decodeMessage node.py call.answeredMs raw))
  if env.msgType ≠ "res" ∧ env.msgType ≠ "err" then
    .error (.client "unexpected_response_type" "TEP RPC response must be res or err")
  else if env.destination.peerId ≠ node.self.peerId then
    .error (.client "response_destination_mismatch" "response is addressed to another peer")
  else
    let _ ← (PendingRequestTable.correlate call.adding.1 env call.correlatedAt).2
    if env.msgType = "err" then .error (remoteError node env)
    else
      match env.raw.get "payload" with
      | .obj payload => .ok payload
      | _ => .error (.client "bad_response" "response payload must be an object")

/-- The `except` clauses of `request`. -/
def rescue : CallError → CallError
  | .attempt (.protocol code message) => .attempt (.protocol code message)
  | .attempt (.timeout _) => .client "request_timeout" "TEP RPC request timed out"
  | .attempt _ => .client "transport_error" "TEP RPC transport failed"
  | .client code message => .client code message

/-- The `try` of `request` over `app_transport`. -/
def attempt (message : Dict) : Prog WaitOp CallError Dict :=
  Prog.ofExcept (asCall (attempted (encodeMessage node.py.services codec message))) >>=
    fun encoded =>
      DirectCall.appTransport node
        { destinationPeerId := call.destination.peerId, raw := encoded
          timeoutSec := call.timeoutSec, nowMs := call.sentMs } >>= fun raw =>
        Prog.ofExcept (call.answer node raw)

def request : Prog WaitOp CallError Dict :=
  Prog.ofExcept (call.message node) >>= fun message =>
    Prog.ofExcept call.adding.2 >>= fun _ =>
      (call.attempt node codec message).handle fun failure => .fail (rescue failure)

end RpcCall

def WaitCall.program : WaitCall → Prog WaitOp CallError WaitResult
  | .receive datagram => Prog.ask (.receive datagram) >>= fun _ => .ret .done
  | .registry peers => Prog.ask (.registry peers) >>= fun _ => .ret .done
  | .direct call => call.appTransport node >>= fun raw => .ret (.raw raw)
  | .relay call => call.relayTransport node codec >>= fun inner => .ret (.inner inner)
  | .hop call => call.relayRoundtrip node codec >>= fun raw => .ret (.raw raw)
  | .rpc call => call.request node codec >>= fun payload => .ret (.payload payload)

end Programs

/-- The datagrams that the loop has received, each with the tables that it found. -/
abbrev Heard := List (Engine × Datagram)

def Heard.note {β : Type} (op : WaitOp β) (_ : Except AttemptError Unit) (engine : Engine)
    (heard : Heard) : Heard :=
  match op with
  | .receive datagram => (engine, datagram) :: heard
  | _ => heard

abbrev WaitPool := Pool (Engine × Heard) WaitOp CallError WaitResult WaitCall

def waitMachine (node : Receiver) (codec : Codec) :
    Machine WaitPool (Pool.Label WaitCall (Except AttemptError Unit)) :=
  Pool.machine (Pool.noting (runWait node) Heard.note) (WaitCall.program node codec)

def WaitPool.fresh (peers : PeerTable) : WaitPool :=
  { shared := ({ peers }, []), threads := [] }

/-- The datagram carries a message that is no request, is opened with the key of a registered peer
and passes all checks, as one from this peer. -/
structure Replies (node : Receiver) (engine : Engine) (datagram : Datagram) (peer : Peer)
    (raw : Bytes) (env : ValidatedEnvelope) : Prop where
  opened : ∃ packet ∈ parsePacket datagram.data, packet.type ∈ appPacketTypes ∧
    openApp node engine packet = some (peer, raw) ∧
    checkAppPacket node packet datagram peer raw = .ok env
  kind : env.msgType ≠ "req" ∧ env.msgType ≠ "relay_req"

/-- The loop has received these bytes as an answer to the request. -/
def Heard.Answers (node : Receiver) (heard : Heard) (requestId : String) (raw : Bytes) : Prop :=
  ∃ engine datagram peer env, (engine, datagram) ∈ heard ∧
    Replies node engine datagram peer raw env ∧ env.requestId = requestId

/-- The request of which a thread has an entry in the table. -/
def entryOf (thread : Thread WaitOp CallError WaitResult WaitCall) : Option String :=
  match thread.rest with
  | .call (.send requestId _ _ _) _ => some requestId
  | .call (.wait requestId _) _ => some requestId
  | .call (.take requestId) _ => some requestId
  | .call (.remove requestId) _ => some requestId
  | _ => none

/-- What a thread knows: its entry in the table, and the answer that it has taken. -/
structure WaitKnowledge where
  held : Option String := none
  taken : Option (String × Bytes) := none

def WaitKnowledge.learn {β : Type} (known : WaitKnowledge) : WaitOp β → β → WaitKnowledge
  | .create requestId, created =>
      match created with
      | .ok _ => { known with held := some requestId }
      | .error _ => known
  | .take requestId, taken =>
      match taken with
      | .ok raw => { known with taken := some (requestId, raw) }
      | .error _ => known
  | .remove _, _ => { known with held := none }
  | .receive _, _ => known
  | .registry _, _ => known
  | .findByPeerId _, _ => known
  | .send _ _ _ _, _ => known
  | .wait _ _, _ => known

def waitProtocol : Protocol WaitOp WaitKnowledge where
  allowed known op :=
    match op with
    | .receive _ => known.held = none
    | .registry _ => known.held = none
    | .findByPeerId _ => known.held = none
    | .create _ => known.held = none
    | .send requestId _ _ _ => known.held = some requestId
    | .wait requestId _ => known.held = some requestId
    | .take requestId => known.held = some requestId
    | .remove requestId => known.held = some requestId
  learn := WaitKnowledge.learn

/-- The id of the request that a transport is asked to send. -/
def WaitCall.requestId (node : Receiver) : WaitCall → Option String
  | .direct call =>
      match call.read node with
      | .ok env => some env.requestId
      | .error _ => none
  | .relay call => some call.requestId
  | .hop call => some call.requestId
  | _ => none

/-- At its end a call has no entry, and returns what it has taken. -/
def WaitCall.ends (node : Receiver) (call : WaitCall) (known : WaitKnowledge)
    (result : Except CallError WaitResult) : Prop :=
  known.held = none ∧
    (∀ raw, result = .ok (.raw raw) →
      ∃ requestId, call.requestId node = some requestId ∧ known.taken = some (requestId, raw)) ∧
    (∀ inner, result = .ok (.inner inner) →
      ∃ relay raw, call = .relay relay ∧ known.taken = some (relay.requestId, raw) ∧
        relay.answer node raw = .ok inner) ∧
    ∀ payload, result = .ok (.payload payload) →
      ∃ rpc requestId raw, call = .rpc rpc ∧ known.taken = some (requestId, raw) ∧
        rpc.adding.2 = .ok () ∧ rpc.answer node raw = .ok payload

/-- The entries are those of the threads, and all answers were received. -/
structure WaitFits (node : Receiver) (state : Engine × Heard) (knowns : List WaitKnowledge) :
    Prop where
  ids : (state.1.pending.rows.map Pending.requestId).Perm (knowns.filterMap WaitKnowledge.held)
  few : state.1.pending.rows.length ≤ 256
  waiting : ∀ item ∈ state.1.pending.rows, ∀ raw, item.raw = some raw →
    state.2.Answers node item.requestId raw
  taken : ∀ known ∈ knowns, ∀ requestId raw, known.taken = some (requestId, raw) →
    state.2.Answers node requestId raw

section Receiving

variable {node : Receiver} {engine middle after : Engine} {datagram : Datagram}

/-- The table has the same entries, and each answer in it is an old one or is as `Answered` says. -/
structure Engine.Filled (before after : Engine) (Answered : String → Bytes → Prop) : Prop where
  ids : after.pending.rows.map Pending.requestId = before.pending.rows.map Pending.requestId
  raws : ∀ item ∈ after.pending.rows, ∀ raw, item.raw = some raw →
    item ∈ before.pending.rows ∨ Answered item.requestId raw

theorem Engine.Filled.of_same {Answered : String → Bytes → Prop}
    (same : after.pending = engine.pending) : engine.Filled after Answered where
  ids := by rw [same]
  raws item member raw _ := by
    rw [same] at member
    exact .inl member

theorem pendingComplete_filled (engine : Engine) (requestId : String) (raw : Bytes) :
    engine.Filled (engine.pendingComplete requestId raw)
      (fun id answer => id = requestId ∧ answer = raw) := by
  unfold Engine.pendingComplete
  cases engine.pending.find? requestId with
  | none => exact .of_same rfl
  | some found =>
      constructor
      · simp only [Table.update_rows, List.map_map]
        apply List.map_congr_left
        intro item _
        simp only [Function.comp_apply]
        split
        · rfl
        · rfl
      · intro item member answer holds
        simp only [Table.update_rows, List.mem_map] at member
        rcases member with ⟨old, present, changed⟩
        split at changed
        · rename_i named
          rw [← changed] at holds
          cases holds
          rw [← changed]
          exact .inr ⟨of_decide_eq_true named, rfl⟩
        · rw [← changed]
          exact .inl present

theorem recordEndpoint_pending (engine : Engine) (peer : Peer) (datagram : Datagram) :
    (engine.recordEndpoint peer datagram).1.pending = engine.pending := by
  rcases recordEndpoint_cases engine peer datagram with ⟨raised, recorded⟩ | ⟨routes, -, recorded⟩
  · rw [recorded]
  · rw [recorded]

theorem handleApp_filled (node : Receiver) (engine : Engine) (packet : Packet)
    (datagram : Datagram) (peer : Peer) (plain : Bytes) :
    engine.Filled (handleAuthenticatedAppPacket node engine packet datagram peer plain).1
      (fun id answer => answer = plain ∧ ∃ env,
        checkAppPacket node packet datagram peer plain = .ok env ∧
        (env.msgType ≠ "req" ∧ env.msgType ≠ "relay_req") ∧ env.requestId = id) := by
  unfold handleAuthenticatedAppPacket
  cases passed : checkAppPacket node packet datagram peer plain with
  | error raised => exact .of_same (rejectApp_quiet engine raised).pending
  | ok env =>
      have kept := recordEndpoint_pending engine peer datagram
      simp only
      rcases recorded : engine.recordEndpoint peer datagram with ⟨moved, _ | raised⟩
      · rw [recorded] at kept
        simp only [dispatch]
        split
        · exact .of_same kept
        · rename_i request
          split
          · exact .of_same kept
          · rename_i relay
            have filled := pendingComplete_filled moved env.requestId plain
            constructor
            · rw [filled.ids, kept]
            · intro item member raw holds
              rcases filled.raws item member raw holds with old | answered
              · rw [kept] at old
                exact .inl old
              · exact .inr ⟨answered.2, env, rfl, ⟨request, relay⟩, answered.1.symm⟩
      · rw [recorded] at kept
        exact .of_same ((rejectApp_quiet moved raised).pending.trans kept)

theorem recvHeartbeat_pending (node : Receiver) (engine : Engine) (packet : Packet)
    (datagram : Datagram) : (recvHeartbeat node engine packet datagram).1.pending =
      engine.pending := by
  have quiet := openHeartbeat_quiet node engine packet datagram
  unfold recvHeartbeat
  rcases opened : openHeartbeat node engine packet datagram with ⟨after, _ | ⟨peer, plain⟩⟩
  · rw [opened] at quiet
    exact quiet.pending
  · rw [opened] at quiet
    simp only [handleHeartbeat]
    cases readHeartbeat node peer plain with
    | error raised => exact (rejectHeartbeat_quiet after raised).pending.trans quiet.pending
    | ok done =>
        have kept := recordEndpoint_pending after peer datagram
        simp only
        rcases recorded : after.recordEndpoint peer datagram with ⟨moved, _ | raised⟩
        · rw [recorded] at kept
          exact kept.trans quiet.pending
        · rw [recorded] at kept
          exact (rejectHeartbeat_quiet moved raised).pending.trans (kept.trans quiet.pending)

/-- A datagram answers only the request that it names, and only where it passes all checks. -/
theorem recvOnce_filled (node : Receiver) (engine : Engine) (datagram : Datagram) :
    engine.Filled (recvOnce node engine datagram).1
      (fun id answer => ∃ peer env, Replies node engine datagram peer answer env ∧
        env.requestId = id) := by
  unfold recvOnce
  cases parsed : parsePacket datagram.data with
  | none => exact .of_same rfl
  | some packet =>
      simp only
      by_cases app : packet.type ∈ appPacketTypes
      · rw [if_pos app]
        unfold recvApp
        split
        · exact .of_same rfl
        · cases opened : openApp node engine.received packet with
          | none => exact .of_same rfl
          | some found =>
              rcases found with ⟨peer, plain⟩
              have filled := handleApp_filled node engine.received packet datagram peer plain
              constructor
              · exact filled.ids
              · intro item member raw holds
                rcases filled.raws item member raw holds with old | ⟨same, env, passed, kind, named⟩
                · exact .inl old
                · rw [same]
                  exact .inr ⟨peer, env, ⟨⟨packet, parsed, app, opened, passed⟩, kind⟩, named⟩
      · rw [if_neg app]
        exact .of_same (recvHeartbeat_pending node engine.received packet datagram)

theorem pendingAdd_cases (engine : Engine) (requestId : String) :
    (∃ failure, engine.pendingAdd requestId = (engine, .error failure)) ∨
    ∃ pending : Table Pending.requestId,
      pending.rows = engine.pending.rows ++ [({ requestId } : Pending)] ∧
      engine.pending.rows.length < 256 ∧
      engine.pendingAdd requestId = ({ engine with pending }, .ok ()) := by
  unfold Engine.pendingAdd
  cases inserted : engine.pending.insert? { requestId } with
  | none => exact .inl ⟨_, rfl⟩
  | some pending =>
      simp only
      by_cases full : 256 ≤ engine.pending.rows.length
      · rw [if_pos full]
        exact .inl ⟨_, rfl⟩
      · rw [if_neg full]
        exact .inr ⟨pending, (Table.insert?_eq_some inserted).2, by omega, rfl⟩

/-- The table refuses what `_pending_create` refuses. -/
theorem pendingAdd_eq_pendingCreate (engine : Engine) (requestId : String) :
    (engine.pendingAdd requestId).2 =
      pendingCreate (engine.pending.rows.map Pending.requestId) requestId := by
  unfold Engine.pendingAdd pendingCreate
  by_cases present : requestId ∈ engine.pending.rows.map Pending.requestId
  · have refused : engine.pending.insert? { requestId } = none := by
      unfold Table.insert?
      rw [dif_pos present]
    rw [refused, if_pos present]
  · have inserted : ∃ pending, engine.pending.insert? { requestId } = some pending := by
      unfold Table.insert?
      rw [dif_neg present]
      exact ⟨_, rfl⟩
    rcases inserted with ⟨pending, inserted⟩
    rw [inserted, if_neg present, List.length_map]
    simp only
    split
    · rfl
    · rfl

end Receiving

section Protocol

variable {node : Receiver} {codec : Codec} {known : WaitKnowledge} {requestId : String}

/-- A transport ends without an entry, and with what it makes of the answer to its request if it
returns. -/
def Took {α : Type} (requestId : String) (read : Bytes → Except CallError α)
    (known : WaitKnowledge) (result : Except CallError α) : Prop :=
  known.held = none ∧ ∀ value, result = .ok value →
    ∃ raw, known.taken = some (requestId, raw) ∧ read raw = .ok value

theorem took_error {α : Type} {read : Bytes → Except CallError α} {failure : CallError}
    (free : known.held = none) : Took requestId read known (.error failure) := by
  refine ⟨free, ?_⟩
  intro value impossible
  cases impossible

theorem roundtrip_obeys {α : Type} {peer : Peer} {type : UInt8} {plain : Bytes} {timeoutSec : ℚ}
    {expired : String} {read : Bytes → Except CallError α} (free : known.held = none) :
    (roundtrip requestId peer type plain timeoutSec expired read).Obeys waitProtocol
      (Took requestId read) known := by
  refine ⟨free, ?_⟩
  intro created
  cases created with
  | error failure => exact took_error free
  | ok value =>
      apply Prog.obeys_ensuring
      refine ⟨rfl, ?_⟩
      intro sent
      cases sent with
      | error failure => exact ⟨rfl, took_error rfl⟩
      | ok value =>
          refine ⟨rfl, ?_⟩
          intro set
          cases set with
          | false => exact ⟨rfl, took_error rfl⟩
          | true =>
              refine ⟨rfl, ?_⟩
              intro taken
              cases taken with
              | error failure => exact ⟨rfl, took_error rfl⟩
              | ok raw =>
                  change (Prog.ofExcept (read raw)).Obeys _ _ _
                  cases made : read raw with
                  | error failure => exact ⟨rfl, took_error rfl⟩
                  | ok value =>
                      refine ⟨rfl, rfl, ?_⟩
                      intro other same
                      cases same
                      exact ⟨raw, rfl, made⟩

/-- What a direct request has taken is for the id that it was read with. -/
def TookOwn (node : Receiver) (call : DirectCall) (known : WaitKnowledge)
    (result : Except CallError Bytes) : Prop :=
  known.held = none ∧ ∀ raw, result = .ok raw →
    ∃ env, call.read node = .ok env ∧ known.taken = some (env.requestId, raw)

theorem appTransport_obeys (call : DirectCall) (free : known.held = none) :
    (call.appTransport node).Obeys waitProtocol (TookOwn node call) known := by
  have fails : ∀ failure, TookOwn node call known (.error failure) := by
    intro failure
    refine ⟨free, ?_⟩
    intro raw impossible
    cases impossible
  unfold DirectCall.appTransport
  cases read : call.read node with
  | error failure => exact fails failure
  | ok env =>
      refine ⟨free, ?_⟩
      intro found
      change (Prog.ofExcept (forApp found) >>= fun peer => roundtrip env.requestId peer
        pktAppRequest call.raw call.timeoutSec "TEP APP request timed out" .ok).Obeys _ _ known
      cases registered : forApp found with
      | error failure => exact fails failure
      | ok peer =>
          apply Prog.obeys_mono _ (roundtrip_obeys free)
          intro later result took
          refine ⟨took.1, ?_⟩
          intro raw returned
          rcases took.2 raw returned with ⟨own, taken, same⟩
          cases same
          exact ⟨env, read, taken⟩

/-- `relay_transport` returns what it makes of the answer to its own request. -/
theorem relayTransport_obeys (call : RendezvousCall) (free : known.held = none) :
    (call.relayTransport node codec).Obeys waitProtocol
      (Took call.requestId (call.answer node)) known := by
  unfold RendezvousCall.relayTransport
  split
  · exact took_error free
  · refine ⟨free, ?_⟩
    intro found
    change (Prog.ofExcept (forRelay found) >>= _).Obeys _ _ known
    cases forRelay found with
    | error failure => exact took_error free
    | ok rendezvous =>
        change (Prog.ofExcept (call.encoded node codec rendezvous) >>= _).Obeys _ _ known
        cases call.encoded node codec rendezvous with
        | error failure => exact took_error free
        | ok encoded => exact roundtrip_obeys free

theorem ends_failed {call : WaitCall} {failure : CallError} (free : known.held = none) :
    call.ends node known (.error failure) := by
  refine ⟨free, ?_, ?_, ?_⟩
  · intro raw impossible
    cases impossible
  · intro inner impossible
    cases impossible
  · intro payload impossible
    cases impossible

theorem ends_raw {call : WaitCall} {raw : Bytes} (free : known.held = none)
    (own : call.requestId node = some requestId) (taken : known.taken = some (requestId, raw)) :
    call.ends node known (.ok (.raw raw)) := by
  refine ⟨free, ?_, ?_, ?_⟩
  · intro other same
    cases same
    exact ⟨requestId, own, taken⟩
  · intro inner impossible
    cases impossible
  · intro payload impossible
    cases impossible

theorem ends_inner {relay : RendezvousCall} {raw inner : Bytes} (free : known.held = none)
    (taken : known.taken = some (relay.requestId, raw)) (made : relay.answer node raw = .ok inner) :
    WaitCall.ends node (.relay relay) known (.ok (.inner inner)) := by
  refine ⟨free, ?_, ?_, ?_⟩
  · intro other impossible
    cases impossible
  · intro other same
    cases same
    exact ⟨relay, raw, rfl, taken, made⟩
  · intro payload impossible
    cases impossible

theorem ends_quiet {call : WaitCall} (free : known.held = none) :
    call.ends node known (.ok .done) := by
  refine ⟨free, ?_, ?_, ?_⟩
  · intro raw impossible
    cases impossible
  · intro inner impossible
    cases impossible
  · intro payload impossible
    cases impossible

/-- The client returns what it makes of the bytes that it has taken. -/
theorem attempt_obeys (call : RpcCall) (message : Dict) (free : known.held = none) :
    (call.attempt node codec message).Obeys waitProtocol (fun later result => later.held = none ∧
      ∀ payload, result = .ok payload → ∃ requestId raw,
        later.taken = some (requestId, raw) ∧ call.answer node raw = .ok payload) known := by
  have fails : ∀ (later : WaitKnowledge) (failure : CallError), later.held = none →
      later.held = none ∧ ∀ payload, (.error failure : Except CallError Dict) = .ok payload →
        ∃ requestId raw, later.taken = some (requestId, raw) ∧
          call.answer node raw = .ok payload := by
    intro later failure free
    refine ⟨free, ?_⟩
    intro payload impossible
    cases impossible
  unfold RpcCall.attempt
  cases asCall (attempted (encodeMessage node.py.services codec message)) with
  | error failure => exact fails known failure free
  | ok encoded =>
      change (DirectCall.appTransport node _ >>= fun raw =>
        Prog.ofExcept (call.answer node raw)).Obeys _ _ known
      apply Prog.obeys_bind
      apply Prog.obeys_mono _ (appTransport_obeys _ free)
      intro later result took
      cases result with
      | error failure => exact fails later failure took.1
      | ok raw =>
          rcases took.2 raw rfl with ⟨env, -, taken⟩
          change (Prog.ofExcept (call.answer node raw)).Obeys _ _ later
          cases made : call.answer node raw with
          | error failure => exact fails later failure took.1
          | ok payload =>
              refine ⟨took.1, ?_⟩
              intro other same
              cases same
              exact ⟨env.requestId, raw, taken, made⟩

theorem request_obeys (call : RpcCall) :
    (call.request node codec >>= fun payload => .ret (WaitResult.payload payload)).Obeys
      waitProtocol (WaitCall.ends node (.rpc call)) {} := by
  unfold RpcCall.request
  cases call.message node with
  | error failure => exact ends_failed rfl
  | ok message =>
      change ((Prog.ofExcept call.adding.2 >>= fun _ => (call.attempt node codec message).handle
        fun failure => .fail (RpcCall.rescue failure)) >>= _).Obeys _ _ _
      cases added : call.adding.2 with
      | error failure => exact ends_failed rfl
      | ok value =>
          apply Prog.obeys_bind
          apply Prog.obeys_handle
          apply Prog.obeys_mono _ (attempt_obeys call message rfl)
          intro later result took
          cases result with
          | error failure => exact ends_failed took.1
          | ok payload =>
              rcases took.2 payload rfl with ⟨requestId, raw, taken, made⟩
              refine ⟨took.1, ?_, ?_, ?_⟩
              · intro other impossible
                cases impossible
              · intro other impossible
                cases impossible
              · intro other same
                cases same
                exact ⟨call, requestId, raw, rfl, taken, added, made⟩

theorem wait_obeys (node : Receiver) (codec : Codec) (call : WaitCall) :
    (call.program node codec).Obeys waitProtocol (call.ends node) {} := by
  cases call with
  | receive datagram => exact ⟨rfl, fun _ => ends_quiet rfl⟩
  | registry peers => exact ⟨rfl, fun _ => ends_quiet rfl⟩
  | direct call =>
      apply Prog.obeys_bind
      apply Prog.obeys_mono _ (appTransport_obeys call rfl)
      intro later result took
      cases result with
      | error failure => exact ends_failed took.1
      | ok raw =>
          rcases took.2 raw rfl with ⟨env, read, taken⟩
          have own : WaitCall.requestId node (.direct call) = some env.requestId := by
            simp only [WaitCall.requestId, read]
          exact ends_raw took.1 own taken
  | relay call =>
      apply Prog.obeys_bind
      apply Prog.obeys_mono _ (relayTransport_obeys call rfl)
      intro later result took
      cases result with
      | error failure => exact ends_failed took.1
      | ok inner =>
          rcases took.2 inner rfl with ⟨raw, taken, made⟩
          exact ends_inner took.1 taken made
  | hop call =>
      apply Prog.obeys_bind
      unfold HopCall.relayRoundtrip
      cases asCall (attempted (encodeMessage node.py.services codec call.message)) with
      | error failure => exact ends_failed rfl
      | ok encoded =>
          apply Prog.obeys_mono _ (roundtrip_obeys rfl)
          intro later result took
          cases result with
          | error failure => exact ends_failed took.1
          | ok raw =>
              rcases took.2 raw rfl with ⟨own, taken, same⟩
              cases same
              exact ends_raw took.1 rfl taken
  | rpc call => exact request_obeys call

theorem held_eq {thread : Thread WaitOp CallError WaitResult WaitCall}
    (obeys : thread.rest.Obeys waitProtocol (thread.call.ends node) known) :
    entryOf thread = known.held := by
  unfold entryOf
  cases rest : thread.rest with
  | ret value =>
      rw [rest] at obeys
      exact obeys.1.symm
  | fail failure =>
      rw [rest] at obeys
      exact obeys.1.symm
  | call op next =>
      rw [rest] at obeys
      cases op <;> exact Eq.symm obeys.1

end Protocol

section Runs

variable {node : Receiver} {codec : Codec} {state after : Engine × Heard}
  {front back others : List WaitKnowledge} {known learned : WaitKnowledge} {requestId : String}
  {raw : Bytes}

theorem Heard.Answers.mono {heard later : Heard} (answers : heard.Answers node requestId raw)
    (grows : ∀ pair ∈ heard, pair ∈ later) : Heard.Answers node later requestId raw := by
  rcases answers with ⟨engine, datagram, peer, env, member, rest⟩
  exact ⟨engine, datagram, peer, env, grows _ member, rest⟩

theorem WaitFits.split (fits : WaitFits node state (front ++ known :: back)) :
    (state.1.pending.rows.map Pending.requestId).Perm
      (known.held.toList ++ (front ++ back).filterMap WaitKnowledge.held) :=
  fits.ids.trans (filterMap_split WaitKnowledge.held front back known)

/-- A step of one thread, and what it has learned by it. -/
theorem WaitFits.step (fits : WaitFits node state (front ++ known :: back))
    (ids : (after.1.pending.rows.map Pending.requestId).Perm
      (learned.held.toList ++ (front ++ back).filterMap WaitKnowledge.held))
    (few : after.1.pending.rows.length ≤ 256) (grows : ∀ pair ∈ state.2, pair ∈ after.2)
    (waiting : ∀ item ∈ after.1.pending.rows, ∀ raw, item.raw = some raw →
      after.2.Answers node item.requestId raw)
    (taken : ∀ requestId raw, learned.taken = some (requestId, raw) →
      known.taken = some (requestId, raw) ∨ after.2.Answers node requestId raw) :
    WaitFits node after (front ++ learned :: back) where
  ids := ids.trans (filterMap_split WaitKnowledge.held front back learned).symm
  few := few
  waiting := waiting
  taken := by
    intro other member id answer has
    rcases List.mem_append.mp member with first | second
    · exact (fits.taken other (List.mem_append_left _ first) id answer has).mono grows
    · rcases List.mem_cons.mp second with own | last
      · rw [own] at has
        rcases taken id answer has with old | new
        · have present : known ∈ front ++ known :: back :=
            List.mem_append_right _ List.mem_cons_self
          exact (fits.taken known present id answer old).mono grows
        · exact new
      · have present := List.mem_append_right front (List.mem_cons_of_mem known last)
        exact (fits.taken other present id answer has).mono grows

theorem WaitFits.same (fits : WaitFits node state (front ++ known :: back))
    (table : after.1.pending = state.1.pending) (heard : after.2 = state.2)
    (held : learned.held = known.held)
    (taken : ∀ requestId raw, learned.taken = some (requestId, raw) →
      known.taken = some (requestId, raw) ∨ after.2.Answers node requestId raw) :
    WaitFits node after (front ++ learned :: back) := by
  apply fits.step _ _ _ _ taken
  · rw [table, held]
    exact fits.split
  · rw [table]
    exact fits.few
  · rw [heard]
    exact fun pair member => member
  · rw [table, heard]
    exact fits.waiting

private theorem answerTo_mem {engine : Engine} (found : engine.answerTo requestId = some raw) :
    ∃ item ∈ engine.pending.rows, item.requestId = requestId ∧ item.raw = some raw := by
  rcases Option.bind_eq_some_iff.mp found with ⟨item, row, holds⟩
  exact ⟨item, Table.find?_mem row, Table.find?_key row, holds⟩

theorem erase_ids (table : Table Pending.requestId) (requestId : String) :
    (table.erase requestId).rows.map Pending.requestId =
      (table.rows.map Pending.requestId).erase requestId := by
  rw [table.distinct.erase_eq_filter, List.filter_map]
  apply congrArg
  apply List.filter_congr
  intro item _
  by_cases same : item.requestId = requestId
  · simp [same]
  · simp [same]

theorem waitProtocol_keeps :
    waitProtocol.Keeps (Pool.noting (runWait node) Heard.note) (WaitFits node) := by
  intro β op sent state front back known fits allowed
  cases op with
  | receive datagram =>
      have filled := recvOnce_filled node state.1 datagram
      refine fits.step ?_ ?_ ?_ ?_ fun _ _ own => .inl own
      · exact (List.Perm.of_eq filled.ids).trans fits.split
      · have lengths := congrArg List.length filled.ids
        rw [List.length_map, List.length_map] at lengths
        exact lengths.trans_le fits.few
      · exact fun pair member => List.mem_cons_of_mem _ member
      · intro item member answer holds
        rcases filled.raws item member answer holds with old | ⟨peer, env, replies, named⟩
        · exact (fits.waiting item old answer holds).mono fun pair present =>
            List.mem_cons_of_mem _ present
        · exact ⟨state.1, datagram, peer, env, List.mem_cons_self, replies, named⟩
  | registry peers => exact fits.same rfl rfl rfl fun _ _ own => .inl own
  | findByPeerId peerId => exact fits.same rfl rfl rfl fun _ _ own => .inl own
  | create requestId =>
      have free : known.held = none := allowed
      have split := fits.split
      rw [free] at split
      rcases pendingAdd_cases state.1 requestId with ⟨failure, refused⟩ |
        ⟨pending, rows, room, added⟩
      · simp only [Pool.noting, runWait, Heard.note, waitProtocol, WaitKnowledge.learn, refused,
          asCall]
        exact fits.same rfl rfl rfl fun _ _ own => .inl own
      · simp only [Pool.noting, runWait, Heard.note, waitProtocol, WaitKnowledge.learn, added,
          asCall]
        refine fits.step ?_ ?_ (fun pair member => member) ?_ fun _ _ own => .inl own
        · rw [rows, List.map_append]
          exact (split.append_right _).trans List.perm_append_comm
        · rw [rows, List.length_append]
          exact room
        · intro item member answer holds
          rw [rows] at member
          rcases List.mem_append.mp member with old | new
          · exact fits.waiting item old answer holds
          · rw [List.mem_singleton.mp new] at holds
            cases holds
  | send requestId peer type plain => exact fits.same rfl rfl rfl fun _ _ own => .inl own
  | wait requestId timeoutSec => exact fits.same rfl rfl rfl fun _ _ own => .inl own
  | take requestId =>
      cases found : state.1.answerTo requestId with
      | none =>
          simp only [Pool.noting, runWait, Heard.note, waitProtocol, WaitKnowledge.learn, found]
          exact fits.same rfl rfl rfl fun _ _ own => .inl own
      | some answer =>
          simp only [Pool.noting, runWait, Heard.note, waitProtocol, WaitKnowledge.learn, found]
          refine fits.same rfl rfl rfl ?_
          intro id other same
          cases same
          rcases answerTo_mem found with ⟨item, member, named, holds⟩
          have answers := fits.waiting item member answer holds
          rw [named] at answers
          exact .inr answers
  | remove requestId =>
      have own : known.held = some requestId := allowed
      have split := fits.split
      rw [own] at split
      refine fits.step ?_ ?_ (fun pair member => member) ?_ fun _ _ taken => .inl taken
      · change ((state.1.pending.erase requestId).rows.map Pending.requestId).Perm
          ((front ++ back).filterMap WaitKnowledge.held)
        rw [erase_ids]
        have erased := split.erase requestId
        rw [Option.toList_some, List.singleton_append, List.erase_cons_head] at erased
        exact erased
      · exact (List.length_filter_le _ _).trans fits.few
      · intro item member answer holds
        exact fits.waiting item (Table.mem_erase.mp member).1 answer holds

theorem waitFits_start (fits : WaitFits node state others) :
    WaitFits node state (others ++ [({} : WaitKnowledge)]) where
  ids := by
    rw [List.filterMap_append]
    exact fits.ids.trans (List.Perm.of_eq (List.append_nil _).symm)
  few := fits.few
  waiting := fits.waiting
  taken := by
    intro known member id answer has
    rcases List.mem_append.mp member with old | new
    · exact fits.taken known old id answer has
    · rw [List.mem_singleton.mp new] at has
      cases has

theorem waitFits_fresh (peers : PeerTable) : WaitFits node ({ peers }, []) [] where
  ids := .refl _
  few := Nat.zero_le _
  waiting := by
    intro item impossible
    cases impossible
  taken := by
    intro known impossible
    cases impossible

variable {peers : PeerTable} {pool : WaitPool}
  {thread : Thread WaitOp CallError WaitResult WaitCall}

theorem waiting_joint (moved : (waitMachine node codec).Run (fun _ _ => True) (.fresh peers) pool) :
    ∃ knowns, pool.Joint (fun _ => waitProtocol) (WaitCall.ends node) (WaitFits node) knowns := by
  have free : (waitMachine node codec).Run (fun _ label => ∀ call, label = .start call → True)
      (.fresh peers) pool := moved.mono fun _ _ _ _ _ => trivial
  exact Pool.Joint.runs (fun _ => waitProtocol_keeps)
    (fun call _ => ⟨{}, wait_obeys node codec call, fun _ _ fits => waitFits_start fits⟩) free
    ⟨[], waitFits_fresh peers, .nil⟩

private theorem holdings_eq {threads : List (Thread WaitOp CallError WaitResult WaitCall)}
    {knowns : List WaitKnowledge} (each : List.Forall₂ (fun thread known =>
      thread.rest.Obeys waitProtocol (thread.call.ends node) known) threads knowns) :
    threads.filterMap entryOf = knowns.filterMap WaitKnowledge.held := by
  induction each with
  | nil => rfl
  | cons head _ ih => simp only [List.filterMap_cons, held_eq head, ih]

/-- The entries of the table are those of the requests that are on their way, each of its own id,
and there are never more than 256. -/
theorem waiting_counted
    (moved : (waitMachine node codec).Run (fun _ _ => True) (.fresh peers) pool) :
    (pool.shared.1.pending.rows.map Pending.requestId).Perm
        (pool.threads.filterMap entryOf) ∧
      (pool.threads.filterMap entryOf).Nodup ∧
      (pool.threads.filterMap entryOf).length ≤ 256 := by
  rcases waiting_joint moved with ⟨knowns, joint⟩
  have ids := joint.fits.ids
  have few := joint.fits.few
  rw [← holdings_eq joint.obeys] at ids
  refine ⟨ids, ids.nodup_iff.mp pool.shared.1.pending.distinct, ?_⟩
  rw [← ids.length_eq, List.length_map]
  exact few

theorem taken_received
    (moved : (waitMachine node codec).Run (fun _ _ => True) (.fresh peers) pool)
    (member : thread ∈ pool.threads) {result : WaitResult} (returned : thread.rest = .ret result) :
    ∃ known, thread.call.ends node known (.ok result) ∧
      ∀ requestId raw, known.taken = some (requestId, raw) →
        pool.shared.2.Answers node requestId raw := by
  rcases waiting_joint moved with ⟨knowns, joint⟩
  rcases List.mem_iff_getElem?.mp member with ⟨index, found⟩
  rcases forall₂_set joint.obeys found with ⟨front, known, back, shape, obeys, -⟩
  rw [returned] at obeys
  have present : known ∈ knowns := by
    rw [shape]
    exact List.mem_append_right _ List.mem_cons_self
  exact ⟨known, obeys, joint.fits.taken known present⟩

/-- The bytes that a transport returns came in a datagram that a registered peer has sealed, and
their message names the request that the transport was asked to send. -/
theorem answer_received
    (moved : (waitMachine node codec).Run (fun _ _ => True) (.fresh peers) pool)
    (member : thread ∈ pool.threads) (returned : thread.rest = .ret (.raw raw)) :
    ∃ requestId, thread.call.requestId node = some requestId ∧
      pool.shared.2.Answers node requestId raw := by
  rcases taken_received moved member returned with ⟨known, ends, received⟩
  rcases ends.2.1 raw rfl with ⟨requestId, own, taken⟩
  exact ⟨requestId, own, received requestId raw taken⟩

theorem decodeMessage_agrees {py : Python} {nowMs laterMs : Int} {env again : ValidatedEnvelope}
    (first : decodeMessage py nowMs raw = .ok env)
    (second : decodeMessage py laterMs raw = .ok again) :
    env.raw = again.raw ∧ env.msgType = again.msgType ∧ env.requestId = again.requestId ∧
      env.source = again.source ∧ env.service = again.service := by
  have reads := decodeMessage_reads first (decodeMessage_loads second)
  have later := decodeMessage_reads second (decodeMessage_loads second)
  have kinds := Except.ok.inj (reads.msgType.symm.trans later.msgType)
  have services := reads.service
  rw [kinds] at services
  exact ⟨reads.raw, kinds, Except.ok.inj (reads.requestId.symm.trans later.requestId),
    Except.ok.inj (reads.source.symm.trans later.source),
    Except.ok.inj (services.symm.trans later.service)⟩

theorem asCall_eq_ok {α : Type} {outcome : Except Raised α} {value : α} :
    asCall (attempted outcome) = .ok value ↔ outcome = .ok value := by
  cases outcome with
  | error raised =>
      constructor
      · intro impossible
        cases impossible
      · intro impossible
        cases impossible
  | ok other =>
      constructor
      · intro same
        cases same
        rfl
      · intro same
        cases same
        rfl

theorem Replies.decoded {engine : Engine} {datagram : Datagram} {peer : Peer}
    {env : ValidatedEnvelope} (replies : Replies node engine datagram peer raw env) :
    decodeMessage node.py datagram.nowMs raw = .ok env ∧ some env.source.peerId = peer.peerId := by
  rcases replies.opened with ⟨packet, parsed, app, opened, passed⟩
  simp only [checkAppPacket, validateAppIdentity, bind_eq_ok, require_eq_ok, decide_eq_true_eq,
    exists_const] at passed
  rcases passed with ⟨-, other, decoded, identity, -, same⟩
  cases same
  exact ⟨decoded, identity.1.2⟩

theorem RendezvousCall.answer_eq_relayAnswer {call : RendezvousCall} {round : RelayRound}
    (clock : round.nowMs = call.answeredMs) :
    call.answer node raw = asCall (relayAnswer node round raw .protocol
      "rendezvous did not return relay_res" "invalid relay response payload") := by
  unfold RendezvousCall.answer relayAnswer
  rw [clock]
  cases decodeMessage node.py call.answeredMs raw with
  | error raised => rfl
  | ok env =>
      change (if _ then _ else _) = asCall (if _ then _ else _)
      split
      · rfl
      · cases Base64.urlsafeDecode (nestedText node env "payload" "inner").toList with
        | none => rfl
        | some inner => rfl

/-- What `relay_transport` accepts is the response of a relay. -/
theorem RendezvousCall.answer_ok {call : RendezvousCall} {inner : Bytes}
    (made : call.answer node raw = .ok inner) :
    ∃ env, decodeMessage node.py call.answeredMs raw = .ok env ∧ env.msgType = "relay_res" ∧
      Base64.urlsafeDecode (nestedText node env "payload" "inner").toList = some inner := by
  unfold RendezvousCall.answer at made
  rcases bind_eq_ok.mp made with ⟨env, read, later⟩
  split at later
  · cases later
  · rename_i kind
    split at later
    · cases later
    · rename_i own held
      cases later
      exact ⟨env, asCall_eq_ok.mp read, not_not.mp kind, held⟩

/-- What `relay_transport` returns came in the response of a relay, which a registered peer has
sealed and which names the relay request. -/
theorem inner_received
    (moved : (waitMachine node codec).Run (fun _ _ => True) (.fresh peers) pool)
    (member : thread ∈ pool.threads) {inner : Bytes}
    (returned : thread.rest = .ret (.inner inner)) :
    ∃ call engine datagram peer raw env, thread.call = .relay call ∧
      (engine, datagram) ∈ pool.shared.2 ∧ Replies node engine datagram peer raw env ∧
      env.msgType = "relay_res" ∧ env.requestId = call.requestId ∧
      Base64.urlsafeDecode (nestedText node env "payload" "inner").toList = some inner := by
  rcases taken_received moved member returned with ⟨known, ends, received⟩
  rcases ends.2.2.1 inner rfl with ⟨call, raw, own, taken, made⟩
  rcases received _ raw taken with ⟨engine, datagram, peer, env, heard, replies, named⟩
  rcases RendezvousCall.answer_ok made with ⟨again, read, kind, held⟩
  have agrees := decodeMessage_agrees replies.decoded.1 read
  refine ⟨call, engine, datagram, peer, raw, env, own, heard, replies, ?_, named, ?_⟩
  · rw [agrees.2.1]
    exact kind
  · have same : nestedText node env "payload" "inner" =
        nestedText node again "payload" "inner" := by
      unfold nestedText
      rw [agrees.1]
    rw [same]
    exact held

theorem RpcCall.adding_rows {call : RpcCall} (added : call.adding.2 = .ok ()) :
    call.adding.1.rows =
      [{ requestId := call.requestId, expectedPeerId := call.destination.peerId
         expectedService := call.service, createdAt := call.addedAt
         deadline := call.addedAt + call.timeoutSec }] := by
  unfold RpcCall.adding PendingRequestTable.add at added ⊢
  split at added
  · cases added
  · rename_i timely
    rw [if_neg timely]
    rfl

/-- Only an answer of the destination to its own request passes the check of the client. -/
theorem RpcCall.correlate_own {call : RpcCall} {env : ValidatedEnvelope} {item : PendingRequest}
    (added : call.adding.2 = .ok ())
    (found : (PendingRequestTable.correlate call.adding.1 env call.correlatedAt).2 = .ok item) :
    env.requestId = call.requestId ∧ env.source.peerId = call.destination.peerId ∧
      env.service = some call.service := by
  unfold PendingRequestTable.correlate at found
  simp only at found
  split at found
  · cases found
  · rename_i own present
    have row := Table.find?_mem present
    have named := Table.find?_key present
    have kept := (List.mem_filter.mp row).1
    rw [adding_rows added] at kept
    have same := List.mem_singleton.mp kept
    split at found
    · cases found
    · rename_i peer
      split at found
      · cases found
      · rename_i service
        rw [same] at named peer service
        exact ⟨named.symm, not_not.mp peer, not_not.mp service⟩

/-- What the client accepts is a response of the destination to its own request. -/
theorem RpcCall.answer_ok {call : RpcCall} {payload : Dict} (added : call.adding.2 = .ok ())
    (made : call.answer node raw = .ok payload) :
    ∃ env, decodeMessage node.py call.answeredMs raw = .ok env ∧ env.msgType = "res" ∧
      env.requestId = call.requestId ∧ env.source.peerId = call.destination.peerId ∧
      env.service = some call.service ∧ env.raw.get "payload" = .obj payload := by
  unfold RpcCall.answer at made
  rcases bind_eq_ok.mp made with ⟨env, read, later⟩
  have decoded : decodeMessage node.py call.answeredMs raw = .ok env := asCall_eq_ok.mp read
  split at later
  · cases later
  · rename_i kind
    split at later
    · cases later
    · rcases bind_eq_ok.mp later with ⟨item, found, last⟩
      have passed := correlate_own added found
      split at last
      · cases last
      · rename_i failed
        have response : env.msgType = "res" := by
          by_contra other
          exact kind ⟨other, failed⟩
        split at last
        · rename_i own held
          cases last
          exact ⟨env, decoded, response, passed.1, passed.2.1, passed.2.2, held⟩
        · cases last

/-- A payload that the client returns was sealed by a peer that is registered with the id of the
destination, as a response to this very request and of the service that was asked. -/
theorem payload_received
    (moved : (waitMachine node codec).Run (fun _ _ => True) (.fresh peers) pool)
    (member : thread ∈ pool.threads) {payload : Dict}
    (returned : thread.rest = .ret (.payload payload)) :
    ∃ call engine datagram peer raw env, thread.call = .rpc call ∧
      (engine, datagram) ∈ pool.shared.2 ∧ Replies node engine datagram peer raw env ∧
      env.msgType = "res" ∧ env.requestId = call.requestId ∧
      peer.peerId = some call.destination.peerId ∧ env.service = some call.service ∧
      env.raw.get "payload" = .obj payload := by
  rcases taken_received moved member returned with ⟨known, ends, received⟩
  rcases ends.2.2.2 payload rfl with ⟨call, requestId, raw, own, taken, added, made⟩
  rcases received requestId raw taken with ⟨engine, datagram, peer, env, heard, replies, -⟩
  rcases RpcCall.answer_ok added made with ⟨again, read, kind, named, source, service, held⟩
  have decoded := replies.decoded
  have agrees := decodeMessage_agrees decoded.1 read
  refine ⟨call, engine, datagram, peer, raw, env, own, heard, replies, ?_, ?_, ?_, ?_, ?_⟩
  · rw [agrees.2.1]
    exact kind
  · rw [agrees.2.2.1]
    exact named
  · rw [← decoded.2, agrees.2.2.2.1, source]
  · rw [agrees.2.2.2.2]
    exact service
  · rw [agrees.1]
    exact held

end Runs

section Exchange

variable {node : Receiver} {codec : Codec} {peers : PeerTable} {asked : Engine} {requestId : String}
  {raw : Bytes} {call : WaitCall} {result : WaitResult} {datagram : Datagram}

def waitAhead (node : Receiver) (count : Nat) (rest : Prog WaitOp CallError WaitResult)
    (state : Engine × Heard) : (Engine × Heard) × Prog WaitOp CallError WaitResult :=
  Pool.ahead (Pool.noting (runWait node) Heard.note) (.ok ()) count rest state

private theorem waitAhead_receive (state : Engine × Heard) :
    waitAhead node 1 (WaitCall.program node codec (.receive datagram)) state =
      (((recvOnce node state.1 datagram).1, (state.1, datagram) :: state.2), .ret .done) := by
  simp only [waitAhead, WaitCall.program, Prog.ask_bind, Pool.ahead, Pool.noting, runWait,
    Heard.note]

/-- The request waits after three accesses, and ends after three more once its answer is there. -/
structure Exchanges (node : Receiver) (codec : Codec) (peers : PeerTable) (asked : Engine)
    (requestId : String) (raw : Bytes) (call : WaitCall) (result : WaitResult) : Prop where
  asks : (waitAhead node 3 (call.program node codec) ({ peers }, [])).1 = (asked, [])
  ends : ∀ engine heard, engine.answerTo requestId = some raw →
    (waitAhead node 3 (waitAhead node 3 (call.program node codec) ({ peers }, [])).2
      (engine, heard)).2 = .ret result

theorem Exchanges.waits (exchanges : Exchanges node codec peers asked requestId raw call result) :
    ∃ steps, (waitMachine node codec).Run (fun _ _ => True) (WaitPool.fresh peers)
      { shared := (asked, [])
        threads := [⟨call, steps, (waitAhead node 3 (call.program node codec)
          ({ peers }, [])).2⟩] } := by
  have asking : ∃ steps, (waitMachine node codec).Run (fun _ _ => True) (WaitPool.fresh peers)
      { shared := (waitAhead node 3 (call.program node codec) ({ peers }, [])).1
        threads := [⟨call, steps, (waitAhead node 3 (call.program node codec)
          ({ peers }, [])).2⟩] } :=
    Pool.run_ahead (WaitPool.fresh peers) call (Except.ok ()) 3
  rwa [exchanges.asks] at asking

/-- The request is made, its answer comes in, and the request ends. -/
theorem Exchanges.run (exchanges : Exchanges node codec peers asked requestId raw call result)
    (arrives : (recvOnce node asked datagram).1.answerTo requestId = some raw) :
    ∃ pool thread, (waitMachine node codec).Run (fun _ _ => True) (WaitPool.fresh peers) pool ∧
      thread ∈ pool.threads ∧ thread.rest = .ret result := by
  have ends := exchanges.ends
  rcases exchanges.waits with ⟨steps, asking⟩
  generalize (waitAhead node 3 (call.program node codec) ({ peers }, [])).2 = rest at ends asking
  have receiving : ∃ first, (waitMachine node codec).Run (fun _ _ => True)
      { shared := (asked, []), threads := [⟨call, steps, rest⟩] }
      { shared := (waitAhead node 1 (WaitCall.program node codec (.receive datagram))
          (asked, [])).1
        threads := [⟨call, steps, rest⟩] ++ [⟨.receive datagram, first,
          (waitAhead node 1 (WaitCall.program node codec (.receive datagram)) (asked, [])).2⟩] } :=
    Pool.run_ahead { shared := (asked, []), threads := [⟨call, steps, rest⟩] } (.receive datagram)
      (Except.ok ()) 1
  rcases receiving with ⟨first, receiving⟩
  rw [waitAhead_receive] at receiving
  have turning : ∃ later, (waitMachine node codec).Run (fun _ _ => True)
      { shared := ((recvOnce node asked datagram).1, [(asked, datagram)])
        threads := [] ++ ⟨call, steps, rest⟩ :: [⟨.receive datagram, first, .ret .done⟩] }
      { shared := (waitAhead node 3 rest
          ((recvOnce node asked datagram).1, [(asked, datagram)])).1
        threads := [] ++ ⟨call, later, (waitAhead node 3 rest
          ((recvOnce node asked datagram).1, [(asked, datagram)])).2⟩ ::
            [⟨.receive datagram, first, .ret .done⟩] } :=
    @Pool.run_turn _ _ _ _ _ _ (Pool.noting (runWait node) Heard.note) (WaitCall.program node codec)
      [] [⟨.receive datagram, first, .ret .done⟩] call (Except.ok ()) 3 steps rest
      ((recvOnce node asked datagram).1, [(asked, datagram)])
  rcases turning with ⟨later, turning⟩
  exact ⟨_, _, (asking.trans receiving).trans turning, List.mem_cons_self, ends _ _ arrives⟩

private theorem answerTo_complete {engine : Engine} {item : Pending}
    (found : engine.pending.find? requestId = some item) :
    (engine.pendingComplete requestId raw).answerTo requestId = some raw := by
  have named := Table.find?_key found
  simp only [Engine.pendingComplete, found, Engine.answerTo, Table.find?_update, Option.map_some,
    named, decide_true, if_true, Option.bind_some]

/-- The answer to a request that waits is there once its datagram is received. -/
theorem recvOnce_answers {packet : Packet} {peer : Peer} {env : ValidatedEnvelope} {item : Pending}
    (ready : node.appReady = true) (parsed : parsePacket datagram.data = some packet)
    (app : packet.type ∈ appPacketTypes) (opened : openApp node asked packet = some (peer, raw))
    (passed : checkAppPacket node packet datagram peer raw = .ok env)
    (good : ¬ BadRoute peer datagram) (other : ¬ env.msgType = "req" ∧ ¬ env.msgType = "relay_req")
    (row : asked.pending.find? env.requestId = some item) :
    (recvOnce node asked datagram).1.answerTo env.requestId = some raw := by
  rw [recvOnce_dispatches ready parsed app opened passed good, dispatch, if_neg other.1,
    if_neg other.2]
  have kept := recordEndpoint_pending asked.received peer datagram
  apply answerTo_complete
  rw [kept]
  exact row

/-- A direct request whose peer is registered returns the answer that comes to it. -/
theorem direct_exchanges {request : DirectCall} {env : ValidatedEnvelope} {peer : Peer}
    (read : request.read node = .ok env)
    (found : peers.findByPeerId request.destinationPeerId = some peer)
    (keyed : forApp (some peer) = .ok peer)
    (created : Engine.pendingAdd { peers } env.requestId = (asked, .ok ())) :
    Exchanges node codec peers asked env.requestId raw (.direct request) (.raw raw) := by
  constructor
  · simp only [waitAhead, WaitCall.program, DirectCall.appTransport, read, Prog.ofExcept,
      Prog.ret_bind, Prog.ask_bind, Prog.call_bind, Prog.attempt_bind, Pool.ahead, Pool.noting,
      runWait, Heard.note, roundtrip, found, keyed, created, asCall, Prog.ensuring, Prog.handle]
  · intro engine heard answered
    simp only [waitAhead, WaitCall.program, DirectCall.appTransport, read, Prog.ofExcept,
      Prog.ret_bind, Prog.ask_bind, Prog.call_bind, Pool.ahead, Pool.noting, runWait, Heard.note,
      roundtrip, found, keyed, created, asCall, Prog.ensuring, Prog.handle, answered,
      Option.isSome_some, if_true, Prog.attempt]

/-- A client returns the payload of the answer that comes to its request. -/
theorem rpc_exchanges {request : RpcCall} {message payload : Dict} {encoded : Bytes}
    {env : ValidatedEnvelope} {peer : Peer} (built : request.message node = .ok message)
    (added : request.adding.2 = .ok ())
    (sealed : encodeMessage node.py.services codec message = .ok encoded)
    (read : DirectCall.read node ⟨request.destination.peerId, encoded, request.timeoutSec,
      request.sentMs⟩ = .ok env)
    (found : peers.findByPeerId request.destination.peerId = some peer)
    (keyed : forApp (some peer) = .ok peer)
    (created : Engine.pendingAdd { peers } env.requestId = (asked, .ok ()))
    (made : request.answer node raw = .ok payload) :
    Exchanges node codec peers asked env.requestId raw (.rpc request) (.payload payload) := by
  constructor
  · simp only [waitAhead, WaitCall.program, RpcCall.request, built, added, RpcCall.attempt, sealed,
      attempted, DirectCall.appTransport, read, Prog.ofExcept, Prog.ret_bind, Prog.ask_bind,
      Prog.call_bind, Prog.attempt_bind, Pool.ahead, Pool.noting, runWait, Heard.note, roundtrip,
      found, keyed, created, asCall, Prog.ensuring, Prog.handle]
  · intro engine heard answered
    simp only [waitAhead, WaitCall.program, RpcCall.request, built, added, RpcCall.attempt, sealed,
      attempted, DirectCall.appTransport, read, Prog.ofExcept, Prog.ret_bind, Prog.ask_bind,
      Prog.call_bind, Pool.ahead, Pool.noting, runWait, Heard.note, roundtrip, found, keyed,
      created, asCall, Prog.ensuring, Prog.handle, answered, Option.isSome_some, if_true,
      Prog.attempt, made]

end Exchange

section Samples

def waitingNode : Receiver where
  self := clientEndpoint.identity
  crypto :=
    { pubkey := clientEndpoint.pubkey
      exchange := clientEndpoint.exchanges
      decrypt payload key nonce :=
        if payload = [7] ∧ nonce = packNonce 60 3 ∧
            key = .agreed (sampleAgreement s(clientEndpoint, destinationEndpoint)) then
          some (utf8 resultText)
        else none }
  py := sampleDispatcher.py

def answerPacket : Packet := ⟨tepVersion, pktAppResponse, "node-d", packNonce 60 3, [7]⟩

def answerDatagram : Datagram where
  data := (buildPacket "node-d" pktAppResponse (packNonce 60 3) [7]).getD []
  ip := "198.51.100.4"
  port := 47777
  time := 60
  monotonic := 60

def askedPeers : PeerTable :=
  Table.empty.upsert destinationPeer (fun old => old) (Table.key_kept Peer.id)

def askedEngine : Engine where
  peers := askedPeers
  pending :=
    { rows := [{ requestId := resultEnvelope.requestId }]
      distinct := List.nodup_singleton _ }

def sampleDirect : DirectCall where
  destinationPeerId := "peer-d"
  raw := utf8 (innerText .plain)
  timeoutSec := 6 / 5
  nowMs := 60000

def sampleRpc : RpcCall where
  destination := destinationEndpoint.identity
  service := "storage.summary"
  payload := []
  timeoutSec := 6 / 5
  requestId := resultEnvelope.requestId
  stamp := ⟨60000, "fedcba9876543210fedcba9876543210"⟩
  addedAt := 60
  sentMs := 60000
  answeredMs := 60000
  correlatedAt := 60

private theorem answerPacket_parsed : parsePacket answerDatagram.data = some answerPacket := by
  decide

theorem answerPacket_opens :
    openApp waitingNode askedEngine answerPacket = some (destinationPeer, utf8 resultText) := by
  have found : askedEngine.peers.findByWireNodeId answerPacket.nodeId = some destinationPeer := by
    decide
  have complete : destinationPeer.pubkey.getD "" ≠ "" ∧ destinationPeer.peerId.getD "" ≠ "" := by
    decide +kernel
  have derived : waitingNode.crypto.deriveSharedKey destinationPeer.pubkey =
      some (.agreed (sampleAgreement s(clientEndpoint, destinationEndpoint))) := by
    decide +kernel
  have decrypted : waitingNode.crypto.decrypt answerPacket.encPayload
      (.agreed (sampleAgreement s(clientEndpoint, destinationEndpoint))) answerPacket.nonce =
        some (utf8 resultText) := by
    simp only [waitingNode, answerPacket, and_self, if_true]
  exact openApp_opens rfl found complete derived decrypted

private theorem answerPacket_passes : checkAppPacket waitingNode answerPacket answerDatagram
    destinationPeer (utf8 resultText) = .ok resultEnvelope := by
  have at60 : answerDatagram.nowMs = 60000 := by decide +kernel
  have type : some resultEnvelope.msgType = expectedType answerPacket.type := by decide +kernel
  simp only [checkAppPacket, validateAppIdentity, bind_eq_ok, require_eq_ok, decide_eq_true_eq,
    exists_const, at60]
  exact ⟨rfl, _, resultMessage_decodes, ⟨⟨rfl, rfl⟩, rfl⟩, type, rfl⟩

theorem answer_arrives : (recvOnce waitingNode askedEngine answerDatagram).1.answerTo
    resultEnvelope.requestId = some (utf8 resultText) := by
  have ready : waitingNode.appReady = true := by decide
  have app : answerPacket.type ∈ appPacketTypes := by decide
  have good : ¬ BadRoute destinationPeer answerDatagram := by decide
  have other : ¬ resultEnvelope.msgType = "req" ∧ ¬ resultEnvelope.msgType = "relay_req" := by
    decide
  have row : askedEngine.pending.find? resultEnvelope.requestId =
      some { requestId := resultEnvelope.requestId } :=
    Table.find?_some_iff.mpr ⟨List.mem_singleton.mpr rfl, rfl⟩
  exact recvOnce_answers ready answerPacket_parsed app answerPacket_opens answerPacket_passes good
    other row

theorem sampleDirect_read : sampleDirect.read waitingNode = .ok (innerEnvelope .plain) := by
  have ready : waitingNode.appReady = true := by decide
  have decoded : decodeMessage waitingNode.py sampleDirect.nowMs sampleDirect.raw =
      .ok (innerEnvelope .plain) := sampleInner_decodes
  simp only [DirectCall.read, ready, decoded]
  rfl

theorem asked_created : Engine.pendingAdd { peers := askedPeers } resultEnvelope.requestId =
    (askedEngine, .ok ()) := by
  rfl

theorem asked_found : askedPeers.findByPeerId "peer-d" = some destinationPeer := by
  decide

theorem asked_forApp : forApp (some destinationPeer) = .ok destinationPeer := by
  have keyed : ¬ destinationPeer.pubkey.getD "" = "" := by decide +kernel
  simp only [forApp, keyedPeer, if_neg keyed]

theorem sampleDirect_exchanges : Exchanges waitingNode relayCodec askedPeers askedEngine
    resultEnvelope.requestId (utf8 resultText) (.direct sampleDirect)
      (.raw (utf8 resultText)) := by
  have created : Engine.pendingAdd { peers := askedPeers } (innerEnvelope .plain).requestId =
      (askedEngine, .ok ()) := asked_created
  have exchanges : Exchanges waitingNode relayCodec askedPeers askedEngine
      (innerEnvelope .plain).requestId (utf8 resultText) (.direct sampleDirect) _ :=
    direct_exchanges sampleDirect_read asked_found asked_forApp created
  exact exchanges

theorem innerBuilt_valid :
    ∃ env, validateUntimed ["storage.summary"] (innerBuilt .plain) = .ok env := by
  have accepted : (validateUntimed ["storage.summary"] (innerBuilt .plain)).isOk = true := by
    decide +kernel
  exact exists_of_isOk accepted

theorem sampleRpc_message : sampleRpc.message waitingNode = .ok (innerBuilt .plain) := by
  have ttl : relayTtlMs sampleRpc.timeoutSec = 1200 := by decide +kernel
  have body : checked ["storage.summary"] (innerBuilt .plain) = .ok (innerBuilt .plain) :=
    checked_ok.mpr ⟨rfl, innerBuilt_valid⟩
  unfold RpcCall.message newRequest
  rw [ttl]
  change asCall (attempted (checked ["storage.summary"] (innerBuilt .plain))) = _
  rw [body]
  rfl

private theorem sampleRpc_encoded : encodeMessage waitingNode.py.services relayCodec
    (innerBuilt .plain) = .ok sampleDirect.raw := by
  have written : relayCodec.compact (innerBuilt .plain) = sampleDirect.raw := by
    simp only [sampleDirect, innerText, relayCodec, textCodec]
  have sized : sizeOk (innerBuilt .plain) sampleDirect.raw = true := innerText_sized .plain rfl
  rw [← written] at sized ⊢
  exact encodeMessage_eq_ok.mpr ⟨innerBuilt_valid, sized, rfl⟩

private theorem sampleRpc_added : sampleRpc.adding.2 = .ok () := by
  have timely : ¬ (sampleRpc.timeoutSec ≤ 0 ∨ 30 < sampleRpc.timeoutSec) := by decide +kernel
  unfold RpcCall.adding PendingRequestTable.add
  rw [if_neg timely]
  rfl

theorem sampleRpc_answer : sampleRpc.answer waitingNode (utf8 resultText) = .ok [] := by
  have decoded : decodeMessage waitingNode.py sampleRpc.answeredMs (utf8 resultText) =
      .ok resultEnvelope := resultMessage_decodes
  have correlated : (PendingRequestTable.correlate sampleRpc.adding.1 resultEnvelope
      sampleRpc.correlatedAt).2.isOk = true := by
    decide +kernel
  have kind : ¬ (resultEnvelope.msgType ≠ "res" ∧ resultEnvelope.msgType ≠ "err") := by decide
  have own : ¬ resultEnvelope.destination.peerId ≠ waitingNode.self.peerId := by decide
  have good : ¬ resultEnvelope.msgType = "err" := by decide
  cases found : (PendingRequestTable.correlate sampleRpc.adding.1 resultEnvelope
      sampleRpc.correlatedAt).2 with
  | error failure =>
      rw [found] at correlated
      cases correlated
  | ok item =>
      apply bind_eq_ok.mpr
      refine ⟨resultEnvelope, by rw [decoded]; rfl, ?_⟩
      rw [if_neg kind, if_neg own]
      apply bind_eq_ok.mpr
      refine ⟨item, found, ?_⟩
      rw [if_neg good]
      rfl

theorem sampleRpc_exchanges : Exchanges waitingNode relayCodec askedPeers askedEngine
    resultEnvelope.requestId (utf8 resultText) (.rpc sampleRpc) (.payload []) := by
  have created : Engine.pendingAdd { peers := askedPeers } (innerEnvelope .plain).requestId =
      (askedEngine, .ok ()) := asked_created
  have exchanges : Exchanges waitingNode relayCodec askedPeers askedEngine
      (innerEnvelope .plain).requestId (utf8 resultText) (.rpc sampleRpc) _ :=
    rpc_exchanges sampleRpc_message sampleRpc_added sampleRpc_encoded sampleDirect_read asked_found
      asked_forApp created sampleRpc_answer
  exact exchanges

theorem waiting_counted_once : ∃ pool,
    (waitMachine waitingNode relayCodec).Run (fun _ _ => True) (WaitPool.fresh askedPeers) pool ∧
      pool.shared.1.pending.rows.map Pending.requestId = [resultEnvelope.requestId] ∧
      (pool.shared.1.pending.rows.map Pending.requestId).Perm
        (pool.threads.filterMap entryOf) ∧
      (pool.threads.filterMap entryOf).Nodup ∧
      (pool.threads.filterMap entryOf).length ≤ 256 := by
  rcases sampleDirect_exchanges.waits with ⟨steps, moved⟩
  exact ⟨_, moved, rfl, waiting_counted moved⟩

theorem answer_received_once : ∃ pool : WaitPool, ∃ thread ∈ pool.threads,
    thread.rest = .ret (.raw (utf8 resultText)) ∧
      ∃ requestId, thread.call.requestId waitingNode = some requestId ∧
        pool.shared.2.Answers waitingNode requestId (utf8 resultText) := by
  rcases sampleDirect_exchanges.run answer_arrives with ⟨pool, thread, moved, member, returned⟩
  exact ⟨pool, thread, member, returned, answer_received moved member returned⟩

theorem payload_received_once : ∃ pool : WaitPool, ∃ thread ∈ pool.threads,
    thread.rest = .ret (.payload []) ∧
    ∃ call engine datagram peer raw env, thread.call = .rpc call ∧
      (engine, datagram) ∈ pool.shared.2 ∧ Replies waitingNode engine datagram peer raw env ∧
      env.msgType = "res" ∧ env.requestId = call.requestId ∧
      peer.peerId = some call.destination.peerId ∧ env.service = some call.service ∧
      env.raw.get "payload" = .obj [] := by
  rcases sampleRpc_exchanges.run answer_arrives with ⟨pool, thread, moved, member, returned⟩
  exact ⟨pool, thread, member, returned, payload_received moved member returned⟩

end Samples

end HashBurst.Tep
