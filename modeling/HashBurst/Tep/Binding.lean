import Mathlib.Data.Sym.Sym2
import HashBurst.Tep.Replay
import HashBurst.Tep.RoundTrip

/-! The header of a packet is not authenticated, and one key serves both directions: which kind of
message a packet is, from whom and for whom, is bound by its plaintext. -/

namespace HashBurst.Tep

open Lib Lib.Py

/-- A registered endpoint. The registry keeps no blanks around names. -/
structure Endpoint where
  identity : Identity
  pubkey : Bytes
  clean : strip identity.nodeId = identity.nodeId ∧ strip identity.peerId = identity.peerId
  deriving DecidableEq

/-- The registered endpoints, with distinct node ids, and what they agree on, where distinct pairs
have distinct keys. -/
structure Directory where
  endpoints : List Endpoint
  agreed : Sym2 Endpoint → Bytes
  ids : ∀ first ∈ endpoints, ∀ second ∈ endpoints,
    first.identity.nodeId = second.identity.nodeId → first = second
  keys : ∀ first ∈ endpoints, ∀ second ∈ endpoints, ∀ third ∈ endpoints, ∀ fourth ∈ endpoints,
    agreed s(first, second) = agreed s(third, fourth) → s(first, second) = s(third, fourth)

/-- The endpoint that has this identity and, in hex, this key. -/
def Directory.Lists (directory : Directory) (id peerId pubkey : String) (endpoint : Endpoint) :
    Prop :=
  endpoint ∈ directory.endpoints ∧ endpoint.identity = { nodeId := id, peerId } ∧
    (fromHex pubkey.toList).map (List.map UInt8.ofNat) = some endpoint.pubkey

/-- The endpoint is the node's own: with each registered public key the node's private key gives
what the two agree on. -/
structure Directory.Owns (directory : Directory) (node : Receiver) (own : Endpoint) : Prop where
  listed : own ∈ directory.endpoints
  identity : own.identity = node.self
  pubkey : own.pubkey = node.crypto.pubkey
  exchange : ∀ other ∈ directory.endpoints, ∀ digest,
    node.crypto.exchange other.pubkey = some digest → digest = directory.agreed s(own, other)

/-- The node, its peers and what the node registry names are registered. -/
structure Directory.Covers (directory : Directory) (node : Receiver) (engine : Engine)
    (nodes : Option Json) : Prop where
  self : ∃ own, directory.Owns node own
  peers : ∀ peer ∈ engine.peers.rows, peer.peerId.getD "" ≠ "" → peer.pubkey.getD "" ≠ "" →
    ∃ endpoint, directory.Lists peer.id (peer.peerId.getD "") (peer.pubkey.getD "") endpoint
  named : ∀ id identity, authoritativeIdentity node.py.conv nodes id = some identity →
    ∃ endpoint, directory.Lists id identity.peerId identity.pubkey endpoint

structure Sealed where
  producer : Endpoint
  recipient : Endpoint
  kind : Kind
  nonce : Bytes
  plain : Bytes
  encrypted : Bytes
  deriving DecidableEq

/-- The ciphertexts that were made, by registered endpoints that follow the code. -/
def Honest (directory : Directory) (py : Python) (codec : Codec) (made : List Sealed) : Prop :=
  ∀ packet ∈ made, packet.producer ∈ directory.endpoints ∧
    packet.recipient ∈ directory.endpoints ∧
    Sends py codec packet.producer.identity packet.kind packet.plain

/-- Ideal AES-GCM: a key and a nonce open nothing but what was encrypted under them. -/
def Ideal (directory : Directory) (node : Receiver) (made : List Sealed) : Prop :=
  ∀ payload key nonce plain, node.crypto.decrypt payload key nonce = some plain →
    ∃ packet ∈ made, packet.encrypted = payload ∧ packet.nonce = nonce ∧ packet.plain = plain ∧
      key = .agreed (directory.agreed s(packet.producer, packet.recipient))

def packetKind (packet : Packet) : Kind :=
  if packet.type = pktAppRequest then .req
  else if packet.type = pktAppResponse then .res
  else if packet.type = pktAppError then .err
  else if packet.type = pktRelayRequest then .relayReq
  else if packet.type = pktRelayResponse then .relayRes
  else .heartbeat

/-- The datagram passes the checks for a message of this kind from this peer. -/
def ProcessedAs (node : Receiver) (engine : Engine) (datagram : Datagram) (packet : Packet)
    (kind : Kind) (peer : Peer) : Prop :=
  packet ∈ parsePacket datagram.data ∧ packetKind packet = kind ∧
    ∃ plain, AcceptedAs node engine datagram packet peer plain

structure Engine.Quiet (before after : Engine) : Prop where
  still : before.Still after
  started : after.started = before.started
  pending : after.pending = before.pending

section Kinds

variable {packet : Packet} {kind : Kind}

theorem expectedType_kind (app : packet.type ∈ appPacketTypes) :
    expectedType packet.type = some (packetKind packet).name ∧ packetKind packet ≠ .heartbeat := by
  simp only [appPacketTypes, List.mem_cons, List.not_mem_nil, or_false] at app
  unfold packetKind
  rcases app with type | type | type | type | type <;> rw [type] <;> decide

private theorem packetKind_heartbeat (app : packet.type ∉ appPacketTypes) :
    packetKind packet = .heartbeat := by
  simp only [appPacketTypes, List.mem_cons, List.not_mem_nil, or_false, not_or] at app
  obtain ⟨request, response, error, relayRequest, relayResponse⟩ := app
  rw [packetKind, if_neg request, if_neg response, if_neg error, if_neg relayRequest,
    if_neg relayResponse]

end Kinds

section Quiet

variable {node : Receiver} {engine after : Engine} {packet : Packet} {datagram : Datagram}
  {peer : Peer} {plain : Bytes}

theorem ensurePeerIdentity_quiet (node : Receiver) (engine : Engine) (datagram : Datagram)
    (peer : Peer) : engine.Quiet (ensurePeerIdentity node engine datagram peer).1 := by
  refine ⟨ensurePeerIdentity_still peer, ?_, ?_⟩ <;> unfold ensurePeerIdentity <;> split
  · rfl
  · split
    · rfl
    · split <;> rfl
  · rfl
  · split
    · rfl
    · split <;> rfl

theorem openHeartbeat_quiet (node : Receiver) (engine : Engine) (packet : Packet)
    (datagram : Datagram) : engine.Quiet (openHeartbeat node engine packet datagram).1 := by
  unfold openHeartbeat
  cases heartbeatPeer engine packet datagram with
  | none => exact ⟨.refl engine, rfl, rfl⟩
  | some peer =>
      have quiet := ensurePeerIdentity_quiet node engine datagram peer
      simp only
      rcases ensured : ensurePeerIdentity node engine datagram peer with ⟨after, _ | named⟩
      · rw [ensured] at quiet
        exact quiet
      · rw [ensured] at quiet
        exact quiet

theorem Engine.Quiet.trans {first middle last : Engine} (front : first.Quiet middle)
    (back : middle.Quiet last) : first.Quiet last where
  still := front.still.trans back.still
  started := back.started.trans front.started
  pending := back.pending.trans front.pending

theorem rejectApp_quiet (engine : Engine) (raised : Raised) :
    engine.Quiet (engine.rejectApp raised).1 := by
  refine ⟨.of_same (rejectApp_same engine raised), ?_, ?_⟩
  · cases raised with
    | protocol code message => simp only [Engine.rejectApp]; split <;> rfl
    | _ => rfl
  · cases raised with
    | protocol code message => simp only [Engine.rejectApp]; split <;> rfl
    | _ => rfl

theorem rejectHeartbeat_quiet (engine : Engine) (raised : Raised) :
    engine.Quiet (engine.rejectHeartbeat raised).1 := by
  refine ⟨.of_same (rejectHeartbeat_same engine raised), ?_, ?_⟩
  · cases raised with
    | loads failure => cases failure <;> rfl
    | _ => rfl
  · cases raised with
    | loads failure => cases failure <;> rfl
    | _ => rfl

/-- A datagram that is not processed as any message changes nothing but counters. -/
theorem recvOnce_quiet (node : Receiver) (engine : Engine) (datagram : Datagram) :
    engine.Quiet (recvOnce node engine datagram).1 ∨
      ∃ packet kind peer, ProcessedAs node engine datagram packet kind peer := by
  have counted : engine.Quiet engine.received := ⟨.of_same ⟨rfl, rfl⟩, rfl, rfl⟩
  unfold recvOnce
  cases parsed : parsePacket datagram.data with
  | none => exact .inl ⟨.of_same ⟨rfl, rfl⟩, rfl, rfl⟩
  | some packet =>
      simp only
      by_cases app : packet.type ∈ appPacketTypes
      · rw [if_pos app]
        unfold recvApp
        split
        · exact .inl ⟨.of_same ⟨rfl, rfl⟩, rfl, rfl⟩
        · cases opened : openApp node engine.received packet with
          | none => exact .inl ⟨.of_same ⟨rfl, rfl⟩, rfl, rfl⟩
          | some found =>
              obtain ⟨peer, plain⟩ := found
              simp only [handleAuthenticatedAppPacket]
              cases passed : checkAppPacket node packet datagram peer plain with
              | error raised => exact .inl (counted.trans (rejectApp_quiet _ raised))
              | ok env =>
                  refine .inr ⟨packet, _, peer, parsed, rfl, plain, ?_⟩
                  rw [AcceptedAs, if_pos app]
                  exact ⟨opened, by rw [passed]; rfl⟩
      · rw [if_neg app]
        have quiet := openHeartbeat_quiet node engine.received packet datagram
        unfold recvHeartbeat
        rcases opened : openHeartbeat node engine.received packet datagram with
          ⟨after, _ | ⟨peer, plain⟩⟩
        · rw [opened] at quiet
          exact .inl (counted.trans (quiet.trans ⟨.of_same ⟨rfl, rfl⟩, rfl, rfl⟩))
        · rw [opened] at quiet
          simp only [handleHeartbeat]
          cases passed : readHeartbeat node peer plain with
          | error raised =>
              exact .inl (counted.trans (quiet.trans (rejectHeartbeat_quiet _ raised)))
          | ok done =>
              refine .inr ⟨packet, _, peer, parsed, rfl, plain, ?_⟩
              rw [AcceptedAs, if_neg app, ← openHeartbeat_received, opened]
              exact ⟨rfl, by rw [passed]; rfl⟩

end Quiet

section Binding

variable {directory : Directory} {node : Receiver} {engine after : Engine} {packet : Packet}
  {datagram : Datagram} {peer : Peer} {plain : Bytes} {kind : Kind} {sender : Identity}
  {codec : Codec} {made : List Sealed} {own endpoint : Endpoint}

theorem deriveSharedKey_listed (gcm : node.crypto.haveCrypto = true) {key : Key}
    (owns : directory.Owns node own)
    (listed : directory.Lists peer.id (peer.peerId.getD "") (peer.pubkey.getD "") endpoint)
    (derived : node.crypto.deriveSharedKey peer.pubkey = some key) :
    key = .agreed (directory.agreed s(own, endpoint)) := by
  obtain ⟨member, -, decoded⟩ := listed
  unfold Crypto.deriveSharedKey at derived
  rw [if_pos gcm] at derived
  cases hex : peer.pubkey with
  | none =>
      rw [hex] at derived
      cases derived
  | some text =>
      rw [hex, Option.getD_some] at decoded
      obtain ⟨bytes, read, same⟩ := Option.map_eq_some_iff.mp decoded
      simp only [hex, Option.bind_some, read] at derived
      rw [Option.ite_none_right_eq_some, same] at derived
      obtain ⟨digest, exchanged, agreed⟩ := Option.map_eq_some_iff.mp derived.2
      rw [← agreed, owns.exchange endpoint member digest exchanged]

/-- The peer that opens a packet, and the key that it was opened with. -/
structure OpenedBy (directory : Directory) (node : Receiver) (packet : Packet) (peer : Peer)
    (plain : Bytes) (own endpoint : Endpoint) : Prop where
  owns : directory.Owns node own
  listed : directory.Lists peer.id (peer.peerId.getD "") (peer.pubkey.getD "") endpoint
  opened : node.crypto.decrypt packet.encPayload
    (.agreed (directory.agreed s(own, endpoint))) packet.nonce = some plain

theorem openApp_opens {packet : Packet} {peer : Peer} {plain : Bytes} {key : Key}
    (gcm : node.crypto.haveCrypto = true)
    (found : engine.peers.findByWireNodeId packet.nodeId = some peer)
    (complete : peer.pubkey.getD "" ≠ "" ∧ peer.peerId.getD "" ≠ "")
    (derived : node.crypto.deriveSharedKey peer.pubkey = some key)
    (decrypted : node.crypto.decrypt packet.encPayload key packet.nonce = some plain) :
    openApp node engine packet = some (peer, plain) := by
  have whole : ¬ ((peer.pubkey.getD "" = "" ∨ peer.peerId.getD "" = "") ∨
      !node.crypto.haveCrypto) := by
    simp only [complete.1, complete.2, gcm, Bool.not_true, Bool.false_eq_true, or_self,
      not_false_eq_true]
  simp only [openApp, found, if_neg whole, derived, decrypted, Option.bind_some, Option.map_some]

theorem openApp_by (gcm : node.crypto.haveCrypto = true)
    (covers : directory.Covers node engine datagram.nodes)
    (opened : openApp node engine packet = some (peer, plain)) :
    ∃ own endpoint, OpenedBy directory node packet peer plain own endpoint := by
  have found := openApp_found opened
  unfold openApp at opened
  split at opened
  · cases opened
  · split at opened
    · cases opened
    · rename_i named complete
      obtain ⟨key, derived, carried⟩ := Option.bind_eq_some_iff.mp opened
      obtain ⟨text, decrypted, pair⟩ := Option.map_eq_some_iff.mp carried
      cases pair
      simp only [not_or] at complete
      obtain ⟨own, owns⟩ := covers.self
      obtain ⟨endpoint, listed⟩ := covers.peers peer (Table.find?_mem found) complete.1.2
        complete.1.1
      rw [deriveSharedKey_listed gcm owns listed derived] at decrypted
      exact ⟨own, endpoint, owns, listed, decrypted⟩

theorem ensurePeerIdentity_listed {named : Peer}
    (covers : directory.Covers node engine datagram.nodes) (member : peer ∈ engine.peers.rows)
    (ensured : ensurePeerIdentity node engine datagram peer = (after, some named)) :
    ∃ endpoint, directory.Lists named.id (named.peerId.getD "") (named.pubkey.getD "") endpoint := by
  unfold ensurePeerIdentity at ensured
  split at ensured
  · rename_i complete
    cases ensured
    exact covers.peers _ member complete.1 complete.2
  · split at ensured
    · cases ensured
    · cases authority : authoritativeIdentity node.py.conv datagram.nodes peer.id with
      | none =>
          rw [authority] at ensured
          cases ensured
      | some identity =>
          rw [authority] at ensured
          cases ensured
          exact covers.named peer.id identity authority

theorem openHeartbeat_by (gcm : node.crypto.haveCrypto = true)
    (covers : directory.Covers node engine datagram.nodes)
    (opened : (openHeartbeat node engine packet datagram).2 = some (peer, plain)) :
    ∃ own endpoint, OpenedBy directory node packet peer plain own endpoint := by
  unfold openHeartbeat at opened
  cases found : heartbeatPeer engine packet datagram with
  | none =>
      rw [found] at opened
      cases opened
  | some named =>
      rw [found] at opened
      rcases ensured : ensurePeerIdentity node engine datagram named with ⟨later, _ | known⟩
      · simp only [ensured] at opened
        cases opened
      · simp only [ensured] at opened
        obtain ⟨key, derived, carried⟩ := Option.bind_eq_some_iff.mp opened
        obtain ⟨text, decrypted, pair⟩ := Option.map_eq_some_iff.mp carried
        cases pair
        have member := Table.find?_mem (heartbeatPeer_found found)
        obtain ⟨own, owns⟩ := covers.self
        obtain ⟨endpoint, listed⟩ := ensurePeerIdentity_listed covers member ensured
        rw [deriveSharedKey_listed gcm owns listed derived] at decrypted
        exact ⟨own, endpoint, owns, listed, decrypted⟩

/-- A validated identity is that of the sender that the message names. -/
theorem validateIdentity_toDict {value : Json} {field : String} {identity : Identity}
    (clean : strip sender.nodeId = sender.nodeId ∧ strip sender.peerId = sender.peerId)
    (same : value.Same sender.toDict) (valid : validateIdentity value field = .ok identity) :
    identity = sender := by
  obtain ⟨fields, rfl, same⟩ := same_obj same
  have text : ∀ (name value : String) (maxLen : Nat) (read : String), strip value = value →
      Dict.get [("node_id", .str sender.nodeId), ("peer_id", .str sender.peerId)] name =
        .str value → requireNonemptyStr fields name maxLen = .ok read → read = value := by
    intro name value maxLen read stripped named passed
    have stored := get_str same named
    unfold requireNonemptyStr at passed
    rw [stored] at passed
    simp only [stripped] at passed
    split at passed
    · cases passed
    · split at passed
      · cases passed
      · exact (Except.ok.inj passed).symm
  simp only [validateIdentity, requireDict, bind_eq_ok] at valid
  obtain ⟨own, whole, nodeId, first, peerId, second, built⟩ := valid
  cases whole
  have node := text "node_id" sender.nodeId 128 nodeId clean.1 rfl first
  have named := text "peer_id" sender.peerId 256 peerId clean.2 rfl second
  rw [← Except.ok.inj built, node, named]

theorem msgType_eq {message : Dict} {msgType : String}
    (read : Envelope.msgType message = .ok msgType) :
    message.get "type" = .str msgType ∧ msgType ∈ supportedTypes := by
  unfold Envelope.msgType at read
  split at read
  · rename_i own stored
    obtain ⟨done, supported, same⟩ := bind_eq_ok.mp read
    rw [← Except.ok.inj same]
    exact ⟨stored, of_decide_eq_true (require_eq_ok.mp supported)⟩
  · cases read

/-- An APP packet whose checks pass is of the kind that its plaintext was sent as, by the peer. -/
theorem checkAppPacket_states (app : packet.type ∈ appPacketTypes)
    (clean : strip sender.nodeId = sender.nodeId ∧ strip sender.peerId = sender.peerId)
    (states : States node.py sender kind plain)
    (passed : (checkAppPacket node packet datagram peer plain).isOk = true) :
    packetKind packet = kind ∧ peer.id = sender.nodeId ∧ peer.peerId = some sender.peerId := by
  cases result : checkAppPacket node packet datagram peer plain with
  | error raised =>
      rw [result] at passed
      cases passed
  | ok made =>
      simp only [checkAppPacket, validateAppIdentity, bind_eq_ok, require_eq_ok,
        decide_eq_true_eq, exists_const] at result
      obtain ⟨-, env, decoded, ⟨source, -⟩, typed, -⟩ := result
      obtain ⟨-, -, text, utf8, message, read, -, reads⟩ := decodeMessage_eq_ok.mp decoded
      obtain ⟨sent, ⟨own, same, loaded⟩, named, -, sourced⟩ := states
      cases utf8.symm.trans same
      cases read.symm.trans loaded
      obtain ⟨type, supported⟩ := msgType_eq reads.msgType
      have kinded : env.msgType = kind.name := Json.str.inj (type.symm.trans named)
      have ordinary : kind ≠ .heartbeat := by
        intro heartbeat
        rw [kinded, heartbeat] at supported
        exact absurd supported (by decide)
      have author := validateIdentity_toDict clean (sourced ordinary) reads.source
      rw [author] at source
      refine ⟨?_, source.1.symm, source.2.symm⟩
      have expected := (expectedType_kind app).1
      rw [← typed, kinded] at expected
      exact (Kind.name_injective (Option.some.inj expected)).symm

/-- A heartbeat whose checks pass was sent as a heartbeat of the peer. -/
theorem readHeartbeat_states (states : States node.py sender kind plain)
    (passed : (readHeartbeat node peer plain).isOk = true) :
    kind = .heartbeat ∧ peer.id = sender.nodeId := by
  cases result : readHeartbeat node peer plain with
  | error raised =>
      rw [result] at passed
      cases passed
  | ok done =>
      obtain ⟨sent, ⟨text, utf8, read⟩, named, own, -⟩ := states
      unfold readHeartbeat at result
      simp only [utf8, read, checkHeartbeat, bind_eq_ok, require_eq_ok, decide_eq_true_eq,
        exists_const] at result
      obtain ⟨type, author, -⟩ := result
      have kinded : kind = .heartbeat :=
        Kind.name_injective (Json.str.inj (named.symm.trans (Json.isStr_iff.mp type)))
      refine ⟨kinded, ?_⟩
      rw [own kinded, Conversions.strOr_str] at author
      exact author.symm

private theorem accepted_by (gcm : node.crypto.haveCrypto = true)
    (covers : directory.Covers node engine datagram.nodes)
    (accepted : AcceptedAs node engine datagram packet peer plain) :
    ∃ own endpoint, OpenedBy directory node packet peer plain own endpoint := by
  unfold AcceptedAs at accepted
  split at accepted
  · exact openApp_by gcm covers accepted.1
  · exact openHeartbeat_by gcm covers accepted.1

/-- What is accepted was sent as the kind that it is processed as, under the id of the peer. -/
theorem accepted_states
    (clean : strip sender.nodeId = sender.nodeId ∧ strip sender.peerId = sender.peerId)
    (states : States node.py sender kind plain)
    (accepted : AcceptedAs node engine datagram packet peer plain) :
    packetKind packet = kind ∧ peer.id = sender.nodeId := by
  unfold AcceptedAs at accepted
  split at accepted
  · rename_i app
    obtain ⟨kinded, named, -⟩ := checkAppPacket_states app clean states accepted.2
    exact ⟨kinded, named⟩
  · rename_i app
    obtain ⟨kinded, named⟩ := readHeartbeat_states states accepted.2
    exact ⟨(packetKind_heartbeat app).trans kinded.symm, named⟩

/-- The ciphertext of a packet, made by this peer for this node as a message of this kind. -/
structure MadeBy (directory : Directory) (node : Receiver) (packet : Packet) (kind : Kind)
    (peer : Peer) (made : Sealed) : Prop where
  encrypted : made.encrypted = packet.encPayload
  nonce : made.nonce = packet.nonce
  kind : made.kind = kind
  producer : directory.Lists peer.id (peer.peerId.getD "") (peer.pubkey.getD "") made.producer
  recipient : made.recipient.identity = node.self ∧ made.recipient.pubkey = node.crypto.pubkey

theorem processed_made (gcm : node.crypto.haveCrypto = true)
    (covers : directory.Covers node engine datagram.nodes)
    (honest : Honest directory node.py codec made) (ideal : Ideal directory node made)
    (processed : ProcessedAs node engine datagram packet kind peer) :
    ∃ sent ∈ made, MadeBy directory node packet kind peer sent := by
  obtain ⟨-, kinded, plain, accepted⟩ := processed
  obtain ⟨own, endpoint, owns, listed, opened⟩ := accepted_by gcm covers accepted
  obtain ⟨sent, member, encrypted, nonce, plaintext, keyed⟩ := ideal _ _ _ _ opened
  obtain ⟨producing, receiving, sends⟩ := honest sent member
  rw [← plaintext] at accepted
  obtain ⟨typed, named⟩ := accepted_states sent.producer.clean (states_of_sends sends) accepted
  have peerNamed : endpoint.identity.nodeId = peer.id := by rw [listed.2.1]
  have producer : sent.producer = endpoint :=
    directory.ids _ producing _ listed.1 (named.symm.trans peerNamed.symm)
  have ends := directory.keys _ owns.listed _ listed.1 _ producing _ receiving
    (Key.agreed.inj keyed)
  have recipient : sent.recipient = own := by
    rcases Sym2.eq_iff.mp ends with ⟨mine, theirs⟩ | ⟨mine, -⟩
    · -- the node's own packet, sent back to it: the peer would be the node itself
      rw [← theirs, mine, producer]
    · exact mine.symm
  refine ⟨sent, member, encrypted, nonce, typed.symm.trans kinded, ?_, ?_⟩
  · rw [producer]
    exact listed
  · rw [recipient]
    exact ⟨owns.identity, owns.pubkey⟩

end Binding

section Sample

def sampleAgreement : Sym2 Endpoint → Bytes :=
  Sym2.lift ⟨fun first second => List.zipWith (· + ·) first.pubkey second.pubkey, fun _ _ =>
    List.zipWith_comm_of_comm fun one other => UInt8.add_comm one other⟩

def Endpoint.exchanges (own : Endpoint) (key : Bytes) : Option Bytes :=
  some (List.zipWith (· + ·) own.pubkey key)

theorem Endpoint.exchanges_agreed (own other : Endpoint) :
    own.exchanges other.pubkey = some (sampleAgreement s(own, other)) := rfl

def askingEndpoint : Endpoint where
  identity := { nodeId := "node-a", peerId := "peer-a" }
  pubkey := List.replicate 32 1
  clean := by decide +kernel

def answeringEndpoint : Endpoint where
  identity := { nodeId := "node-b", peerId := "peer-b" }
  pubkey := sampleKeyBytes
  clean := by decide +kernel

def quotedPlain : Bytes := (textCodec fun _ => []).compact quotedRequest

def sampleSealed : Sealed where
  producer := askingEndpoint
  recipient := answeringEndpoint
  kind := .req
  nonce := packNonce 5 1
  plain := quotedPlain
  encrypted := [1, 2, 3]

def sampleDirectory : Directory where
  endpoints := [askingEndpoint, answeringEndpoint]
  agreed := sampleAgreement
  ids := by decide +kernel
  keys := by decide +kernel

def boundReceiver : Receiver where
  self := answeringEndpoint.identity
  crypto :=
    { pubkey := answeringEndpoint.pubkey
      exchange := answeringEndpoint.exchanges
      decrypt payload key nonce :=
        if payload = [1, 2, 3] ∧ nonce = packNonce 5 1 ∧
            key = .agreed (sampleAgreement s(askingEndpoint, answeringEndpoint)) then
          some quotedPlain
        else none }
  py := textPython noConversions { nesting := 100 } (fun _ => .error .decode) ["storage.summary"]

def askingPeer : Peer :=
  { id := "node-a", ip := "198.51.100.7", port := 47777, peerId := some "peer-a",
    pubkey := some (String.join (List.replicate 32 "01")) }

def boundEngine : Engine where
  peers := Table.empty.upsert askingPeer (fun old => old) (Table.key_kept Peer.id)

theorem quotedRequest_sends : Sends boundReceiver.py (textCodec fun _ => []) askingEndpoint.identity
    .req quotedPlain := by
  obtain ⟨sorted, loaded, same⟩ := loads_compact noConversions (fun _ => .error .decode)
    ["storage.summary"] quotedRequest_fits
  have built : newRequest ["storage.summary"] askingEndpoint.identity answeringEndpoint.identity
      ⟨5000, "ffeeddccbbaa99887766554433221100"⟩ "00112233445566778899aabbccddeeff"
      "storage.summary" [("città", .str "\"a\"\n"), ("sizes", .arr [.int (-3), .float (1 / 2)])]
      3000 = .ok quotedRequest := by
    obtain ⟨⟨env, valid⟩, -⟩ := encodeMessage_eq_ok.mp quotedRequest_encoded
    have whole : checked ["storage.summary"] quotedRequest = .ok quotedRequest := by
      rw [checked, valid]
      rfl
    exact whole
  exact .message (.request built) quotedRequest_encoded
    ⟨sorted, ⟨_, decodeUtf8_utf8 _, loaded⟩, same⟩

private theorem sampleSealed_honest :
    Honest sampleDirectory boundReceiver.py (textCodec fun _ => [])
    [sampleSealed] := by
  intro packet member
  rw [List.mem_singleton.mp member]
  exact ⟨List.mem_cons_self, List.mem_cons_of_mem _ List.mem_cons_self, quotedRequest_sends⟩

private theorem sampleSealed_ideal : Ideal sampleDirectory boundReceiver [sampleSealed] := by
  intro payload key nonce plain decrypted
  simp only [boundReceiver, Option.ite_none_right_eq_some] at decrypted
  obtain ⟨⟨encrypted, nonced, keyed⟩, plaintext⟩ := decrypted
  exact ⟨sampleSealed, List.mem_singleton_self _, encrypted.symm, nonced.symm,
    Option.some.inj plaintext, keyed⟩

private theorem sampleDirectory_owns : sampleDirectory.Owns boundReceiver answeringEndpoint where
  listed := List.mem_cons_of_mem _ List.mem_cons_self
  identity := by dsimp only [boundReceiver]
  pubkey := by dsimp only [boundReceiver]
  exchange := by
    intro other _ digest exchanged
    have agreed := answeringEndpoint.exchanges_agreed other
    exact Option.some.inj (exchanged.symm.trans agreed)

theorem sampleDirectory_covers : sampleDirectory.Covers boundReceiver boundEngine none where
  self := ⟨_, sampleDirectory_owns⟩
  peers := by
    intro peer member _ _
    have rows : boundEngine.peers.rows = [askingPeer] := by decide +kernel
    rw [rows] at member
    rw [List.mem_singleton.mp member]
    have decoded : (fromHex (askingPeer.pubkey.getD "").toList).map (List.map UInt8.ofNat) =
        some askingEndpoint.pubkey := by decide +kernel
    exact ⟨askingEndpoint, List.mem_cons_self, rfl, decoded⟩
  named := by
    intro id identity named
    cases named

/-- The captured request from another address, with a byte appended. -/
def alteredDatagram : Datagram where
  data := (buildPacket "node-a" pktAppRequest (packNonce 5 1) [1, 2, 3]).getD [] ++ [255]
  ip := "203.0.113.9"
  port := 4242
  time := 6
  monotonic := 6

def alteredPacket : Packet := ⟨tepVersion, pktAppRequest, "node-a", packNonce 5 1, [1, 2, 3]⟩

theorem alteredPacket_passes :
    (checkAppPacket boundReceiver alteredPacket alteredDatagram askingPeer quotedPlain).isOk =
      true := by
  have fresh : Fresh quotedRequest alteredDatagram.nowMs :=
    ⟨5000, rfl, by decide +kernel, by decide +kernel⟩
  obtain ⟨env, decoded, same⟩ := encodeMessage_decodes noConversions (fun _ => .error .decode)
    quotedRequest_fits quotedRequest_encoded fresh
  obtain ⟨-, -, text, -, own, -, -, reads⟩ := decodeMessage_eq_ok.mp decoded
  rw [reads.raw] at same
  have source := validateIdentity_toDict askingEndpoint.clean (same_get same "source") reads.source
  have destination :=
    validateIdentity_toDict answeringEndpoint.clean (same_get same "destination") reads.destination
  have type : env.msgType = "req" :=
    Json.str.inj ((msgType_eq reads.msgType).1.symm.trans (get_str same rfl))
  have passed : checkAppPacket boundReceiver alteredPacket alteredDatagram askingPeer quotedPlain =
      .ok env := by
    simp only [checkAppPacket, validateAppIdentity, bind_eq_ok, require_eq_ok, decide_eq_true_eq,
      exists_const]
    have named : env.source.nodeId = "node-a" ∧ some env.source.peerId = some "peer-a" := by
      rw [source]
      exact ⟨rfl, rfl⟩
    have typed : some env.msgType = expectedType alteredPacket.type := by
      rw [type]
      decide
    exact ⟨rfl, env, decoded, ⟨named, destination⟩, typed, rfl⟩
  rw [passed]
  rfl

end Sample

end HashBurst.Tep
