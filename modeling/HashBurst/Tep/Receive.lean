import HashBurst.Tep.Envelope
import HashBurst.Tep.Packet
import HashBurst.Tep.Registry

/-! The receive path of the TEP daemon: one iteration of `_recv_loop` (`hb_tep_runtime.py`), with
what it calls in `hb_tep.py` and `hb_tep_relay.py`. -/

namespace HashBurst.Tep

open Lib Lib.Py

/-- A shared key: the digest of what two X25519 keys agree on, or the host-local key without
cryptography. -/
inductive Key
  | agreed (digest : Bytes)
  | hmac
  deriving DecidableEq

/-- The cryptography of a node: its own public key, the digest that its private key gives with the
bytes of a public key (`none` where the exchange raises), and AES-GCM decryption of a payload under a
key and a nonce. -/
structure Crypto where
  haveCrypto : Bool := true
  pubkey : Bytes
  exchange : Bytes → Option Bytes
  decrypt : Bytes → Key → Bytes → Option Bytes

/-- `derive_shared_key`, `none` where it raises. -/
def Crypto.deriveSharedKey (crypto : Crypto) (peerPubkeyHex : Option String) : Option Key :=
  if crypto.haveCrypto then
    match peerPubkeyHex.bind fun hex => fromHex hex.toList with
    | some bytes =>
        let key := bytes.map UInt8.ofNat
        if key.length = 32 then (crypto.exchange key).map .agreed else none
    | none => none
  else some .hmac

structure ObservedEndpoint where
  peerId : String
  ip : String
  port : Int
  lastSeen : ℚ
  pubkey : String
  deriving DecidableEq

abbrev RelayTable := Table ObservedEndpoint.peerId

def RelayTable.observe (routes : RelayTable) (peerId : Option String) (ip : String) (port : Int)
    (pubkey : String) (authenticated : Bool) (clock : ℚ) : Except Raised RelayTable :=
  let peerId := strip (peerId.getD "")
  let ip := strip ip
  if !authenticated then
    .error (.relay "authentication_failed" "unauthenticated endpoint observation rejected")
  else if peerId = "" ∨ ip = "" then .error (.relay "bad_route" "peer_id and ip are required")
  else if port < 1 ∨ 65535 < port then .error (.relay "bad_route" "invalid UDP port")
  else
    let route : ObservedEndpoint := { peerId, ip, port, lastSeen := clock, pubkey }
    .ok (routes.upsert route fun old => { route with peerId := old.peerId })

structure Pending where
  requestId : String
  raw : Option Bytes := none
  deriving DecidableEq

inductive Handler
  | appRequest (env : ValidatedEnvelope) (peer : Peer) (ip : String) (port : Int)
  | relayRequest (env : ValidatedEnvelope) (peer : Peer) (ip : String) (port : Int)

structure Stats where
  pktsRecv : Nat := 0
  pktsDropped : Nat := 0
  appAuthRejected : Nat := 0
  deriving DecidableEq

structure Engine where
  peers : PeerTable := Table.empty
  routes : RelayTable := Table.empty
  pending : Table Pending.requestId := Table.empty
  identityRefreshAt : List (String × ℚ) := []
  started : List Handler := []
  stats : Stats := {}

structure Receiver where
  self : Identity
  crypto : Crypto
  py : Python

def Receiver.appReady (node : Receiver) : Bool := node.crypto.haveCrypto && node.self.peerId ≠ ""

/-- A datagram from `recvfrom`, the clocks while it is processed, and what `/api/nodes` would
answer. -/
structure Datagram where
  data : Bytes
  ip : String
  port : Int
  time : ℚ
  monotonic : ℚ
  nodes : Option Json := none

def Datagram.nowMs (datagram : Datagram) : Int := (datagram.time * 1000).floor

namespace Engine

variable (engine : Engine)

def received : Engine :=
  { engine with stats := { engine.stats with pktsRecv := engine.stats.pktsRecv + 1 } }

def drop : Engine :=
  { engine with stats := { engine.stats with pktsDropped := engine.stats.pktsDropped + 1 } }

def rejectAuth : Engine :=
  { engine with stats :=
      { engine.stats with
        pktsDropped := engine.stats.pktsDropped + 1
        appAuthRejected := engine.stats.appAuthRejected + 1 } }

def pendingComplete (requestId : String) (raw : Bytes) : Engine :=
  match engine.pending.find? requestId with
  | none => engine.drop
  | some _ =>
      let complete (item : Pending) : Pending := { item with raw := some raw }
      { engine with
        pending := engine.pending.update (fun item => item.requestId = requestId) complete }

/-- The endpoint, the relay route and the liveness of a peer that has authenticated itself, up to
the exception of the route. -/
def recordEndpoint (peer : Peer) (datagram : Datagram) : Engine × Option Raised :=
  let moved := { engine with
    peers := engine.peers.updateAuthenticatedEndpoint peer.id datagram.ip datagram.port }
  match moved.routes.observe peer.peerId datagram.ip datagram.port (peer.pubkey.getD "") true
      datagram.monotonic with
  | .error raised => (moved, some raised)
  | .ok routes =>
      ({ moved with routes, peers := moved.peers.markSeen peer.id 0 datagram.time }, none)

end Engine

section App

variable (node : Receiver) (engine : Engine) (packet : Packet) (datagram : Datagram)

def openApp : Option (Peer × Bytes) :=
  match engine.peers.findByWireNodeId packet.nodeId with
  | none => none
  | some peer =>
      if (peer.pubkey.getD "" = "" ∨ peer.peerId.getD "" = "") ∨ !node.crypto.haveCrypto then none
      else
        (node.crypto.deriveSharedKey peer.pubkey).bind fun key =>
          (node.crypto.decrypt packet.encPayload key packet.nonce).map fun plain => (peer, plain)

def expectedType (type : UInt8) : Option String :=
  [(pktAppRequest, "req"), (pktAppResponse, "res"), (pktAppError, "err"),
    (pktRelayRequest, "relay_req"), (pktRelayResponse, "relay_res")].lookup type

def validateAppIdentity (self : Identity) (env : ValidatedEnvelope) (peer : Peer) :
    Except Raised Unit := do
  require (env.source.nodeId = peer.id ∧ some env.source.peerId = peer.peerId) "identity_mismatch"
    "application source does not match authenticated TEP peer"
  require (env.destination = self) "identity_mismatch"
    "application destination does not match local TEP identity"

/-- The checks of `_handle_authenticated_app_packet`. -/
def checkAppPacket (peer : Peer) (plain : Bytes) : Except Raised ValidatedEnvelope := do
  require (packet.version = tepVersion) "unsupported_version" "unsupported TEP transport version"
  let env ← decodeMessage node.py datagram.nowMs plain
  validateAppIdentity node.self env peer
  require (some env.msgType = expectedType packet.type) "packet_envelope_mismatch"
    "TEP packet type does not match APP envelope"
  return env

/-- Its `except ProtocolError`: all other exceptions pass. -/
def Engine.rejectApp (engine : Engine) : Raised → Engine × Option Raised
  | .protocol code _ =>
      if code = "identity_mismatch" ∨ code = "authentication_failed" then (engine.rejectAuth, none)
      else (engine.drop, none)
  | raised => (engine, some raised)

def dispatch (env : ValidatedEnvelope) (peer : Peer) (plain : Bytes) : Engine :=
  if env.msgType = "req" then
    { engine with started := engine.started ++ [.appRequest env peer datagram.ip datagram.port] }
  else if env.msgType = "relay_req" then
    { engine with started := engine.started ++ [.relayRequest env peer datagram.ip datagram.port] }
  else engine.pendingComplete env.requestId plain

def handleAuthenticatedAppPacket (peer : Peer) (plain : Bytes) : Engine × Option Raised :=
  match checkAppPacket node packet datagram peer plain with
  | .error raised => engine.rejectApp raised
  | .ok env =>
      match engine.recordEndpoint peer datagram with
      | (moved, some raised) => moved.rejectApp raised
      | (moved, none) => (dispatch moved datagram env peer plain, none)

def recvApp : Engine × Option Raised :=
  if !node.appReady then (engine.drop, none)
  else
    match openApp node engine packet with
    | none => (engine.rejectAuth, none)
    | some (peer, plain) => handleAuthenticatedAppPacket node engine packet datagram peer plain

end App

section Heartbeat

variable (node : Receiver) (engine : Engine) (packet : Packet) (datagram : Datagram)

def identityRefreshSec : ℚ := 30

/-- `_authoritative_identity`, `none` also where the registry cannot be read. -/
def authoritativeIdentity (conv : Conversions) (nodes : Option Json) (nodeId : String) :
    Option StableIdentity :=
  (((authoritativeNodes nodes).getD []).find? fun item =>
    conv.strOr (item.get "node_id") "" = nodeId).bind (identityFromRecord conv)

/-- The peer with a complete identity, if it has one or the registry names one. -/
def ensurePeerIdentity (peer : Peer) : Engine × Option Peer :=
  if peer.peerId.getD "" ≠ "" ∧ peer.pubkey.getD "" ≠ "" then (engine, some peer)
  else if datagram.monotonic - (engine.identityRefreshAt.lookup peer.id).getD 0 <
      identityRefreshSec then (engine, none)
  else
    let tried := { engine with
      identityRefreshAt := (peer.id, datagram.monotonic) :: engine.identityRefreshAt }
    match authoritativeIdentity node.py.conv datagram.nodes peer.id with
    | none => (tried, none)
    | some identity =>
        ({ tried with peers := tried.peers.enrich peer.id identity.peerId identity.pubkey },
          some { peer with peerId := some identity.peerId, pubkey := some identity.pubkey })

/-- The peer that the header names, or else the first one at the source address. -/
def heartbeatPeer : Option Peer :=
  (engine.peers.findByWireNodeId packet.nodeId).or
    (engine.peers.rows.find? fun peer => peer.ip = datagram.ip)

/-- The peer of a heartbeat and its plaintext, with the identity that was read for it. -/
def openHeartbeat : Engine × Option (Peer × Bytes) :=
  match heartbeatPeer engine packet datagram with
  | none => (engine, none)
  | some peer =>
      match ensurePeerIdentity node engine datagram peer with
      | (after, none) => (after, none)
      | (after, some peer) =>
          (after, (node.crypto.deriveSharedKey peer.pubkey).bind fun key =>
            (node.crypto.decrypt packet.encPayload key packet.nonce).map fun plain => (peer, plain))

/-- The checks of `_record_authenticated_heartbeat`. -/
def checkHeartbeat (conv : Conversions) (peer : Peer) : Json → Except Raised Unit
  | .obj msg => do
      require ((Dict.get msg "type").isStr "heartbeat") "bad_heartbeat" "invalid heartbeat payload"
      require (conv.strOr (Dict.get msg "node") "" = peer.id) "identity_mismatch"
        "heartbeat node identity mismatch"
      require (peer.peerId.getD "" ≠ "" ∧ peer.pubkey.getD "" ≠ "") "authentication_failed"
        "heartbeat peer identity is incomplete"
      require (some (conv.strOr (Dict.get msg "pubkey") "") = peer.pubkey) "identity_mismatch"
        "heartbeat TEP public key mismatch"
  | _ => .error (.protocol "bad_heartbeat" "invalid heartbeat payload")

def readHeartbeat (peer : Peer) (plain : Bytes) : Except Raised Unit :=
  match decodeUtf8 plain with
  | none => .error .unicode
  | some text =>
      match node.py.loads text with
      | .error failure => .error (.loads failure)
      | .ok msg => checkHeartbeat node.py.conv peer msg

/-- The `except (ValueError, UnicodeDecodeError, ProtocolError)` of the loop. -/
def Engine.rejectHeartbeat (engine : Engine) : Raised → Engine × Option Raised
  | .protocol _ _ | .loads .decode | .loads .value | .unicode => (engine.drop, none)
  | raised => (engine, some raised)

/-- The `try` block around an authenticated heartbeat. -/
def handleHeartbeat (peer : Peer) (plain : Bytes) : Engine × Option Raised :=
  match readHeartbeat node peer plain with
  | .error raised => engine.rejectHeartbeat raised
  | .ok _ =>
      match engine.recordEndpoint peer datagram with
      | (moved, some raised) => moved.rejectHeartbeat raised
      | (moved, none) => (moved, none)

def recvHeartbeat : Engine × Option Raised :=
  match openHeartbeat node engine packet datagram with
  | (after, none) => (after.drop, none)
  | (after, some (peer, plain)) => handleHeartbeat node after datagram peer plain

end Heartbeat

/-- One iteration: the state it leaves, and the exception that ends the loop. -/
def recvOnce (node : Receiver) (engine : Engine) (datagram : Datagram) : Engine × Option Raised :=
  match parsePacket datagram.data with
  | none => (engine.received.drop, none)
  | some packet =>
      if packet.type ∈ appPacketTypes then recvApp node engine.received packet datagram
      else recvHeartbeat node engine.received packet datagram

end HashBurst.Tep
