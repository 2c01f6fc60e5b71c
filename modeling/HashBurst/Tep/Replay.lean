import HashBurst.Lib.Machine
import HashBurst.Tep.Survival

namespace HashBurst.Tep

open Lib Lib.Py

structure Track where
  ip : String
  port : Int
  lastSeen : ℚ
  online : Bool
  deriving DecidableEq

def Peer.track (peer : Peer) : Track :=
  { ip := peer.ip, port := peer.port, lastSeen := peer.lastSeen, online := peer.online }

def PeerTable.track (peers : PeerTable) (id : String) : Option Track :=
  (peers.find? id).map Peer.track

def AcceptedAs (node : Receiver) (engine : Engine) (datagram : Datagram) (packet : Packet)
    (peer : Peer) (plain : Bytes) : Prop :=
  if packet.type ∈ appPacketTypes then
    openApp node engine packet = some (peer, plain) ∧
      (checkAppPacket node packet datagram peer plain).isOk = true
  else
    (openHeartbeat node engine packet datagram).2 = some (peer, plain) ∧
      (readHeartbeat node peer plain).isOk = true

def Accepts (node : Receiver) (engine : Engine) (datagram : Datagram) : Prop :=
  ∃ packet ∈ parsePacket datagram.data, ∃ peer plain,
    AcceptedAs node engine datagram packet peer plain

section Frame

variable {node : Receiver} {engine after : Engine} {packet : Packet} {datagram : Datagram}
  {peer : Peer} {plain : Bytes} {id : String}

structure Engine.SameTables (before after : Engine) : Prop where
  peers : after.peers = before.peers
  routes : after.routes = before.routes

/-- The tables of the later state are those of the earlier one, up to stable identities. -/
structure Engine.Still (before after : Engine) : Prop where
  track : ∀ id, after.peers.track id = before.peers.track id
  routes : after.routes = before.routes

namespace Engine.Still

variable {first middle last : Engine}

theorem refl (engine : Engine) : engine.Still engine where
  track _ := rfl
  routes := rfl

theorem trans (front : first.Still middle) (back : middle.Still last) : first.Still last where
  track id := (back.track id).trans (front.track id)
  routes := back.routes.trans front.routes

theorem of_same (same : first.SameTables last) : first.Still last where
  track id := by rw [same.peers]
  routes := same.routes

end Engine.Still

theorem find?_modify (peers : PeerTable) (nodeId wanted : String) (change : Peer → Peer)
    (keeps : ∀ peer, (change peer).id = peer.id) :
    (PeerTable.modify peers nodeId change keeps).find? wanted =
      if wanted = nodeId then (peers.find? wanted).map change else peers.find? wanted := by
  unfold PeerTable.modify
  rw [Table.find?_update]
  cases found : peers.find? wanted with
  | none => simp
  | some peer =>
      rw [Option.map_some, Table.find?_key found, Option.map_some]
      by_cases same : wanted = nodeId
      · rw [if_pos same, decide_eq_true same, if_pos rfl]
      · rw [if_neg same, decide_eq_false same, if_neg Bool.false_ne_true]

theorem enrich_still (peers : PeerTable) (nodeId peerId pubkey id : String) :
    (peers.enrich nodeId peerId pubkey).track id = peers.track id := by
  unfold PeerTable.track PeerTable.enrich
  rw [find?_modify]
  split
  · cases peers.find? id with
    | none => rfl
    | some peer => rfl
  · rfl

theorem ensurePeerIdentity_still (peer : Peer) :
    engine.Still (ensurePeerIdentity node engine datagram peer).1 := by
  unfold ensurePeerIdentity
  split
  · exact .refl engine
  · split
    · exact .refl engine
    · cases authoritativeIdentity node.py.conv datagram.nodes peer.id with
      | none => exact .of_same ⟨rfl, rfl⟩
      | some identity =>
          exact ⟨fun id => enrich_still engine.peers peer.id identity.peerId identity.pubkey id, rfl⟩

theorem openHeartbeat_still : engine.Still (openHeartbeat node engine packet datagram).1 := by
  unfold openHeartbeat
  cases heartbeatPeer engine packet datagram with
  | none => exact .refl engine
  | some peer =>
      have still : engine.Still (ensurePeerIdentity node engine datagram peer).1 :=
        ensurePeerIdentity_still peer
      simp only
      rcases ensured : ensurePeerIdentity node engine datagram peer with ⟨after, _ | named⟩
      · rw [ensured] at still
        exact still
      · rw [ensured] at still
        exact still

theorem findByWireNodeId_found {peers : PeerTable} {wire : String}
    (found : peers.findByWireNodeId wire = some peer) : peers.find? peer.id = some peer := by
  unfold PeerTable.findByWireNodeId at found
  split at found
  · rename_i only filtered
    cases found
    have member : peer ∈ peers.rows.filter fun row => wireNodeId row.id = wire := by
      rw [filtered]
      exact List.mem_singleton_self peer
    exact Table.find?_some_iff.mpr ⟨(List.mem_filter.mp member).1, rfl⟩
  · cases found

theorem heartbeatPeer_found (found : heartbeatPeer engine packet datagram = some peer) :
    engine.peers.find? peer.id = some peer := by
  unfold heartbeatPeer at found
  rcases Option.or_eq_some_iff.mp found with wire | ⟨_, address⟩
  · exact findByWireNodeId_found wire
  · exact Table.find?_some_iff.mpr ⟨List.mem_of_find?_eq_some address, rfl⟩

theorem ensurePeerIdentity_found {named : Peer} (registered : engine.peers.find? peer.id = some peer)
    (ensured : ensurePeerIdentity node engine datagram peer = (after, some named)) :
    after.peers.find? named.id = some named := by
  unfold ensurePeerIdentity at ensured
  split at ensured
  · cases ensured
    exact registered
  · split at ensured
    · cases ensured
    · cases authority : authoritativeIdentity node.py.conv datagram.nodes peer.id with
      | none =>
          rw [authority] at ensured
          cases ensured
      | some identity =>
          rw [authority] at ensured
          cases ensured
          unfold PeerTable.enrich
          rw [find?_modify, if_pos rfl, registered]
          rfl

/-- The peer that opens a heartbeat is in the table that it leaves. -/
theorem openHeartbeat_found
    (opened : openHeartbeat node engine packet datagram = (after, some (peer, plain))) :
    after.peers.find? peer.id = some peer := by
  unfold openHeartbeat at opened
  cases found : heartbeatPeer engine packet datagram with
  | none =>
      rw [found] at opened
      cases opened
  | some named =>
      rw [found] at opened
      rcases ensured : ensurePeerIdentity node engine datagram named with ⟨later, _ | known⟩
      · simp only [ensured] at opened
        cases opened
      · simp only [ensured] at opened
        obtain ⟨same, decrypted⟩ := Prod.mk.inj opened
        obtain ⟨key, _, carried⟩ := Option.bind_eq_some_iff.mp decrypted
        obtain ⟨own, _, pair⟩ := Option.map_eq_some_iff.mp carried
        cases pair
        rw [← same]
        exact ensurePeerIdentity_found (heartbeatPeer_found found) ensured

theorem openApp_found (opened : openApp node engine packet = some (peer, plain)) :
    engine.peers.find? peer.id = some peer := by
  unfold openApp at opened
  split at opened
  · cases opened
  · rename_i named found
    split at opened
    · cases opened
    · obtain ⟨key, _, carried⟩ := Option.bind_eq_some_iff.mp opened
      obtain ⟨own, _, pair⟩ := Option.map_eq_some_iff.mp carried
      cases pair
      exact findByWireNodeId_found found

/-- The endpoint is recorded before the route, and the liveness after it. -/
theorem recordEndpoint_cases (engine : Engine) (peer : Peer) (datagram : Datagram) :
    (∃ raised, engine.recordEndpoint peer datagram =
      ({ engine with
        peers := engine.peers.updateAuthenticatedEndpoint peer.id datagram.ip datagram.port },
        some raised)) ∨
    ∃ routes, (∀ route, route ≠ strip (peer.peerId.getD "") →
        routes.find? route = engine.routes.find? route) ∧
      engine.recordEndpoint peer datagram =
        ({ engine with
          routes
          peers := (engine.peers.updateAuthenticatedEndpoint peer.id datagram.ip
            datagram.port).markSeen peer.id 0 datagram.time }, none) := by
  unfold Engine.recordEndpoint
  cases observed : engine.routes.observe peer.peerId datagram.ip datagram.port
      (peer.pubkey.getD "") true datagram.monotonic with
  | error raised =>
      simp only [observed]
      exact .inl ⟨raised, rfl⟩
  | ok routes =>
      simp only [observed]
      refine .inr ⟨routes, ?_, rfl⟩
      intro route apart
      simp only [RelayTable.observe, Bool.not_true, Bool.false_eq_true, if_false] at observed
      split at observed
      · cases observed
      · split at observed
        · cases observed
        · cases observed
          rw [Table.find?_upsert, if_neg (Ne.symm apart)]

/-- Recording a peer touches its own row and its own route only. -/
theorem recordEndpoint_frame (engine : Engine) (peer : Peer) (datagram : Datagram) :
    (∀ id, id ≠ peer.id → (engine.recordEndpoint peer datagram).1.peers.track id =
      engine.peers.track id) ∧
    (∀ route, route ≠ strip (peer.peerId.getD "") →
      (engine.recordEndpoint peer datagram).1.routes.find? route = engine.routes.find? route) ∧
    ∀ row, engine.peers.find? peer.id = some row →
      ∃ later, (engine.recordEndpoint peer datagram).1.peers.find? peer.id = some later ∧
        later.peerId = row.peerId := by
  have moved : ∀ id, (engine.peers.updateAuthenticatedEndpoint peer.id datagram.ip
      datagram.port).find? id = if id = peer.id then (engine.peers.find? id).map fun row =>
        { row with ip := datagram.ip, port := datagram.port } else engine.peers.find? id :=
    fun id => find?_modify engine.peers peer.id id _ _
  rcases recordEndpoint_cases engine peer datagram with ⟨raised, recorded⟩ |
    ⟨routes, others, recorded⟩
  · rw [recorded]
    refine ⟨?_, fun route _ => rfl, ?_⟩
    · intro id apart
      unfold PeerTable.track
      rw [moved, if_neg apart]
    · intro row registered
      refine ⟨{ row with ip := datagram.ip, port := datagram.port }, ?_, rfl⟩
      rw [moved, if_pos rfl, registered]
      rfl
  · rw [recorded]
    refine ⟨?_, others, ?_⟩
    · intro id apart
      unfold PeerTable.track PeerTable.markSeen
      rw [find?_modify, if_neg apart, moved, if_neg apart]
    · intro row registered
      refine ⟨{ row with
        ip := datagram.ip
        port := datagram.port
        lastSeen := datagram.time
        latencyMs := some 0
        online := true }, ?_, rfl⟩
      unfold PeerTable.markSeen
      rw [find?_modify, if_pos rfl, moved, if_pos rfl, registered]
      rfl

theorem rejectApp_same (engine : Engine) (raised : Raised) :
    engine.SameTables (engine.rejectApp raised).1 := by
  cases raised with
  | protocol code message =>
      simp only [Engine.rejectApp]
      split
      · exact ⟨rfl, rfl⟩
      · exact ⟨rfl, rfl⟩
  | _ => exact ⟨rfl, rfl⟩

theorem rejectHeartbeat_same (engine : Engine) (raised : Raised) :
    engine.SameTables (engine.rejectHeartbeat raised).1 := by
  cases raised with
  | loads failure => cases failure <;> exact ⟨rfl, rfl⟩
  | _ => exact ⟨rfl, rfl⟩

theorem dispatch_same (engine : Engine) (datagram : Datagram) (env : ValidatedEnvelope)
    (peer : Peer) (plain : Bytes) : engine.SameTables (dispatch engine datagram env peer plain) := by
  unfold dispatch
  split
  · exact ⟨rfl, rfl⟩
  · split
    · exact ⟨rfl, rfl⟩
    · unfold Engine.pendingComplete
      split
      · exact ⟨rfl, rfl⟩
      · exact ⟨rfl, rfl⟩

/-- The later state differs in the row and the route of one registered peer only. -/
structure Engine.Touched (before after : Engine) (peer : Peer) : Prop where
  registered : before.peers.track peer.id ≠ none
  track : ∀ id, id ≠ peer.id → after.peers.track id = before.peers.track id
  routes : ∀ route, route ≠ strip (peer.peerId.getD "") →
    after.routes.find? route = before.routes.find? route
  row : ∃ later, after.peers.find? peer.id = some later ∧ later.peerId = peer.peerId

theorem touched_of_record {middle : Engine} (still : engine.Still middle)
    (found : middle.peers.find? peer.id = some peer)
    (same : (middle.recordEndpoint peer datagram).1.SameTables after) :
    engine.Touched after peer := by
  obtain ⟨tracks, routes, row⟩ := recordEndpoint_frame middle peer datagram
  refine ⟨?_, ?_, ?_, ?_⟩
  · rw [← still.track]
    unfold PeerTable.track
    rw [found]
    exact Option.some_ne_none _
  · intro id apart
    rw [same.peers, tracks id apart]
    exact still.track id
  · intro route apart
    rw [same.routes, routes route apart, still.routes]
  · rw [same.peers]
    exact row peer found

/-- A packet that is handled either leaves the tables alone or has passed its checks. -/
theorem handleApp_frame (node : Receiver) (packet : Packet) (datagram : Datagram) (plain : Bytes)
    (found : engine.peers.find? peer.id = some peer) :
    engine.Still (handleAuthenticatedAppPacket node engine packet datagram peer plain).1 ∨
      ((checkAppPacket node packet datagram peer plain).isOk = true ∧
        engine.Touched (handleAuthenticatedAppPacket node engine packet datagram peer plain).1
          peer) := by
  unfold handleAuthenticatedAppPacket
  cases checkAppPacket node packet datagram peer plain with
  | error raised => exact .inl (.of_same (rejectApp_same engine raised))
  | ok env =>
      have touched : ∀ after, (engine.recordEndpoint peer datagram).1.SameTables after →
          engine.Touched after peer :=
        fun after same => touched_of_record (.refl engine) found same
      rcases recorded : engine.recordEndpoint peer datagram with ⟨moved, _ | raised⟩
      · rw [recorded] at touched
        exact .inr ⟨rfl, touched _ (dispatch_same moved datagram env peer plain)⟩
      · rw [recorded] at touched
        exact .inr ⟨rfl, touched _ (rejectApp_same moved raised)⟩

theorem handleHeartbeat_frame (node : Receiver) (datagram : Datagram) (plain : Bytes)
    {middle : Engine} (still : engine.Still middle) (found : middle.peers.find? peer.id = some peer) :
    engine.Still (handleHeartbeat node middle datagram peer plain).1 ∨
      ((readHeartbeat node peer plain).isOk = true ∧
        engine.Touched (handleHeartbeat node middle datagram peer plain).1 peer) := by
  unfold handleHeartbeat
  cases readHeartbeat node peer plain with
  | error raised => exact .inl (still.trans (.of_same (rejectHeartbeat_same middle raised)))
  | ok done =>
      have touched : ∀ after, (middle.recordEndpoint peer datagram).1.SameTables after →
          engine.Touched after peer := fun after same => touched_of_record still found same
      rcases recorded : middle.recordEndpoint peer datagram with ⟨moved, _ | raised⟩
      · rw [recorded] at touched
        exact .inr ⟨rfl, touched moved ⟨rfl, rfl⟩⟩
      · rw [recorded] at touched
        exact .inr ⟨rfl, touched _ (rejectHeartbeat_same moved raised)⟩

theorem recvApp_frame (node : Receiver) (engine : Engine) (packet : Packet) (datagram : Datagram) :
    engine.Still (recvApp node engine packet datagram).1 ∨
      ∃ peer plain, openApp node engine packet = some (peer, plain) ∧
        (checkAppPacket node packet datagram peer plain).isOk = true ∧
        engine.Touched (recvApp node engine packet datagram).1 peer := by
  unfold recvApp
  split
  · exact .inl (.of_same ⟨rfl, rfl⟩)
  · cases opened : openApp node engine packet with
    | none => exact .inl (.of_same ⟨rfl, rfl⟩)
    | some found =>
        obtain ⟨peer, plain⟩ := found
        rcases handleApp_frame node packet datagram plain (openApp_found opened) with
          still | ⟨passed, touched⟩
        · exact .inl still
        · exact .inr ⟨peer, plain, rfl, passed, touched⟩

theorem recvHeartbeat_frame (node : Receiver) (engine : Engine) (packet : Packet)
    (datagram : Datagram) : engine.Still (recvHeartbeat node engine packet datagram).1 ∨
      ∃ peer plain, (openHeartbeat node engine packet datagram).2 = some (peer, plain) ∧
        (readHeartbeat node peer plain).isOk = true ∧
        engine.Touched (recvHeartbeat node engine packet datagram).1 peer := by
  have still : engine.Still (openHeartbeat node engine packet datagram).1 := openHeartbeat_still
  unfold recvHeartbeat
  rcases opened : openHeartbeat node engine packet datagram with ⟨after, _ | ⟨peer, plain⟩⟩
  · rw [opened] at still
    exact .inl (still.trans (.of_same ⟨rfl, rfl⟩))
  · rw [opened] at still
    rcases handleHeartbeat_frame node datagram plain still (openHeartbeat_found opened) with
      kept | ⟨passed, touched⟩
    · exact .inl kept
    · exact .inr ⟨peer, plain, rfl, passed, touched⟩

theorem Engine.Touched.of_same {before first : Engine} (same : before.SameTables first)
    (touched : first.Touched after peer) : before.Touched after peer := by
  have still := Engine.Still.of_same same
  refine ⟨?_, fun id apart => (touched.track id apart).trans (still.track id), ?_, touched.row⟩
  · rw [← still.track]
    exact touched.registered
  · intro route apart
    rw [touched.routes route apart, still.routes]

/-- What one datagram changes: nothing, or what belongs to the peer whose checks it passes. -/
theorem recvOnce_frame (node : Receiver) (engine : Engine) (datagram : Datagram) :
    engine.Still (recvOnce node engine datagram).1 ∨
      ∃ packet ∈ parsePacket datagram.data, ∃ peer plain,
        AcceptedAs node engine datagram packet peer plain ∧
          engine.Touched (recvOnce node engine datagram).1 peer := by
  have counted : engine.SameTables engine.received := ⟨rfl, rfl⟩
  unfold recvOnce AcceptedAs
  cases parsePacket datagram.data with
  | none => exact .inl (.of_same ⟨rfl, rfl⟩)
  | some packet =>
      by_cases app : packet.type ∈ appPacketTypes
      · simp only [if_pos app]
        rcases recvApp_frame node engine.received packet datagram with
          still | ⟨peer, plain, opened, passed, touched⟩
        · exact .inl ((Engine.Still.of_same counted).trans still)
        · exact .inr ⟨packet, rfl, peer, plain, by rw [if_pos app]; exact ⟨opened, passed⟩,
            touched.of_same counted⟩
      · simp only [if_neg app]
        rcases recvHeartbeat_frame node engine.received packet datagram with
          still | ⟨peer, plain, opened, passed, touched⟩
        · exact .inl ((Engine.Still.of_same counted).trans still)
        · rw [openHeartbeat_received] at opened
          exact .inr ⟨packet, rfl, peer, plain, by rw [if_neg app]; exact ⟨opened, passed⟩,
            touched.of_same counted⟩

end Frame

/-- An endpoint that builds packets, with the X25519 key that only it has. -/
structure Party where
  nodeId : String
  pubkey : Bytes
  deriving DecidableEq

structure Produced where
  producer : Party
  recipient : Party
  type : UInt8
  key : Key
  nonce : Bytes
  plain : Bytes
  encrypted : Bytes
  data : Bytes
  deriving DecidableEq

def Receiver.party (node : Receiver) : Party :=
  { nodeId := node.self.nodeId, pubkey := node.crypto.pubkey }

/-- What `_build_packet` makes of a heartbeat or a message of its own: the plaintext names its
producer, no other key and no other plaintext fits the ciphertext, and of all nodes only the two ends
agree on its key. -/
structure Genuine (node : Receiver) (packet : Produced) : Prop where
  built : buildPacket packet.producer.nodeId packet.type packet.nonce packet.encrypted =
    some packet.data
  sized : packet.nonce.length = 12
  sealed : ∀ key plain, node.crypto.decrypt packet.encrypted key packet.nonce = some plain →
    key = packet.key ∧ plain = packet.plain
  agreed : ∀ pubkey digest, node.crypto.exchange pubkey = some digest →
    packet.key = .agreed digest →
      packet.producer = node.party ∨ packet.recipient.pubkey = node.crypto.pubkey
  heartbeat : packet.type ∉ appPacketTypes → ∀ text ∈ decodeUtf8 packet.plain, ∀ msg,
    node.py.loads text = .ok (.obj msg) →
      node.py.conv.strOr (Dict.get msg "node") "" = packet.producer.nodeId
  message : packet.type ∈ appPacketTypes → ∀ nowMs env,
    decodeMessage node.py nowMs packet.plain = .ok env → env.source.nodeId = packet.producer.nodeId

structure Net where
  engine : Engine
  sent : List Produced := []
  received : List Bytes := []

/-- An endpoint builds a packet, the node receives a datagram, or other code of the node runs. -/
inductive NetLabel
  | produce (packet : Produced)
  | recv (datagram : Datagram)
  | elsewhere (engine : Engine)

def network (node : Receiver) : Machine Net NetLabel where
  next net label :=
    match label with
    | .produce packet => some { net with sent := packet :: net.sent }
    | .recv datagram => some
        { net with
          engine := (recvOnce node net.engine datagram).1
          received := datagram.data :: net.received }
    | .elsewhere engine => some { net with engine }

/-- What the attacker can do: send any datagram again that was built, from any address and at any
time, or send bytes of its own, which no key opens. -/
def Attack (node : Receiver) (net : Net) : NetLabel → Prop
  | .produce packet => Genuine node packet
  | .recv datagram => (∃ packet ∈ net.sent, packet.data = datagram.data) ∨
      ∀ packet ∈ parsePacket datagram.data, ∀ key,
        node.crypto.decrypt packet.encPayload key packet.nonce = none
  | .elsewhere _ => True

/-- What the steps of a run leave: no datagram passes the checks when its bytes were received
before, and the node is no peer of its own. -/
def Unreplayed (node : Receiver) (net : Net) : NetLabel → Prop
  | .produce _ => True
  | .recv datagram => datagram.data ∈ net.received → ¬ Accepts node net.engine datagram
  | .elsewhere engine => engine.peers.track node.self.nodeId = none

/-- The first reception of a datagram that the peer has built for this node. -/
def FirstOf (node : Receiver) (net : Net) (datagram : Datagram) (id : String) : Prop :=
  datagram.data ∉ net.received ∧ ∃ packet ∈ net.sent, packet.data = datagram.data ∧
    packet.producer.nodeId = id ∧ packet.recipient.pubkey = node.crypto.pubkey

/-- What the step changes of endpoints, liveness and routes belongs to the peer that it is the
first reception from. -/
structure MovesOnlyFirst (node : Receiver) (net after : Net) (datagram : Datagram) : Prop where
  track : ∀ id, after.engine.peers.track id ≠ net.engine.peers.track id →
    FirstOf node net datagram id
  routes : ∀ route, after.engine.routes.find? route ≠ net.engine.routes.find? route →
    ∃ peer ∈ after.engine.peers.rows, strip (peer.peerId.getD "") = route ∧
      FirstOf node net datagram peer.id

section Runs

variable {node : Receiver} {engine : Engine} {packet : Packet} {datagram : Datagram} {peer : Peer}
  {plain : Bytes} {produced : Produced}

theorem key_agreed (gcm : node.crypto.haveCrypto = true) {pubkey : Option String} {key : Key}
    (derived : node.crypto.deriveSharedKey pubkey = some key) :
    ∃ other digest, node.crypto.exchange other = some digest ∧ key = .agreed digest := by
  unfold Crypto.deriveSharedKey at derived
  rw [if_pos gcm] at derived
  split at derived
  · rw [Option.ite_none_right_eq_some] at derived
    obtain ⟨digest, exchanged, same⟩ := Option.map_eq_some_iff.mp derived.2
    exact ⟨_, digest, exchanged, same.symm⟩
  · cases derived

theorem openApp_decrypts (opened : openApp node engine packet = some (peer, plain)) :
    ∃ pubkey key, node.crypto.deriveSharedKey pubkey = some key ∧
      node.crypto.decrypt packet.encPayload key packet.nonce = some plain := by
  unfold openApp at opened
  split at opened
  · cases opened
  · split at opened
    · cases opened
    · obtain ⟨key, derived, carried⟩ := Option.bind_eq_some_iff.mp opened
      obtain ⟨own, decrypted, pair⟩ := Option.map_eq_some_iff.mp carried
      cases pair
      exact ⟨_, key, derived, decrypted⟩

theorem openHeartbeat_decrypts
    (opened : (openHeartbeat node engine packet datagram).2 = some (peer, plain)) :
    ∃ pubkey key, node.crypto.deriveSharedKey pubkey = some key ∧
      node.crypto.decrypt packet.encPayload key packet.nonce = some plain := by
  unfold openHeartbeat at opened
  split at opened
  · cases opened
  · split at opened
    · cases opened
    · obtain ⟨key, derived, carried⟩ := Option.bind_eq_some_iff.mp opened
      obtain ⟨own, decrypted, pair⟩ := Option.map_eq_some_iff.mp carried
      cases pair
      exact ⟨_, key, derived, decrypted⟩

/-- An accepted packet was decrypted under a key that the node has agreed on. -/
theorem accepted_decrypts (gcm : node.crypto.haveCrypto = true)
    (accepted : AcceptedAs node engine datagram packet peer plain) :
    ∃ other digest, node.crypto.exchange other = some digest ∧
      node.crypto.decrypt packet.encPayload (.agreed digest) packet.nonce = some plain := by
  have opened : ∃ pubkey key, node.crypto.deriveSharedKey pubkey = some key ∧
      node.crypto.decrypt packet.encPayload key packet.nonce = some plain := by
    unfold AcceptedAs at accepted
    split at accepted
    · exact openApp_decrypts accepted.1
    · exact openHeartbeat_decrypts accepted.1
  obtain ⟨pubkey, key, derived, decrypted⟩ := opened
  obtain ⟨other, digest, exchanged, agreed⟩ := key_agreed gcm derived
  rw [agreed] at decrypted
  exact ⟨other, digest, exchanged, decrypted⟩

theorem require_ok {holds : Bool} {code message : String} {done : Unit}
    (passed : require holds code message = .ok done) : holds = true := by
  unfold require at passed
  split at passed
  · assumption
  · cases passed

theorem checkAppPacket_named
    (passed : (checkAppPacket node packet datagram peer plain).isOk = true) :
    ∃ env, decodeMessage node.py datagram.nowMs plain = .ok env ∧ env.source.nodeId = peer.id := by
  rw [checkAppPacket, require_bind] at passed
  split at passed
  · cases decoded : decodeMessage node.py datagram.nowMs plain with
    | error raised =>
        rw [decoded] at passed
        cases passed
    | ok env =>
        refine ⟨env, rfl, ?_⟩
        rw [decoded] at passed
        cases checked : validateAppIdentity node.self env peer with
        | error raised =>
            simp only [bind, Except.bind, checked] at passed
            cases passed
        | ok done =>
            rw [validateAppIdentity, require_bind] at checked
            split at checked
            · rename_i same
              exact (of_decide_eq_true same).1
            · cases checked
  · cases passed

theorem readHeartbeat_named (passed : (readHeartbeat node peer plain).isOk = true) :
    ∃ text ∈ decodeUtf8 plain, ∃ msg, node.py.loads text = .ok (.obj msg) ∧
      node.py.conv.strOr (Dict.get msg "node") "" = peer.id := by
  unfold readHeartbeat at passed
  cases decoded : decodeUtf8 plain with
  | none =>
      rw [decoded] at passed
      cases passed
  | some text =>
      simp only [decoded] at passed
      cases read : node.py.loads text with
      | error failure =>
          rw [read] at passed
          cases passed
      | ok value =>
          rw [read] at passed
          cases value with
          | obj msg =>
              refine ⟨text, rfl, msg, read, ?_⟩
              simp only [checkHeartbeat, require_bind] at passed
              split at passed
              · split at passed
                · rename_i same
                  exact of_decide_eq_true same
                · cases passed
              · cases passed
          | _ => cases passed

/-- A packet that passes the checks as a peer names that peer as its producer. -/
theorem accepted_named (genuine : Genuine node produced) (typed : packet.type = produced.type)
    (accepted : AcceptedAs node engine datagram packet peer produced.plain) :
    peer.id = produced.producer.nodeId := by
  unfold AcceptedAs at accepted
  split at accepted
  · rename_i app
    obtain ⟨env, decoded, named⟩ := checkAppPacket_named accepted.2
    rw [typed] at app
    exact named.symm.trans (genuine.message app _ env decoded)
  · rename_i app
    obtain ⟨text, decoded, msg, read, named⟩ := readHeartbeat_named accepted.2
    rw [typed] at app
    exact named.symm.trans (genuine.heartbeat app text decoded msg read)

theorem accepted_built (gcm : node.crypto.haveCrypto = true) (genuine : Genuine node produced)
    (same : produced.data = datagram.data) (parsed : packet ∈ parsePacket datagram.data)
    (accepted : AcceptedAs node engine datagram packet peer plain) :
    peer.id = produced.producer.nodeId ∧
      (produced.recipient.pubkey = node.crypto.pubkey ∨ peer.id = node.self.nodeId) := by
  have whole := parse_build genuine.sized genuine.built
  rw [same] at whole
  have fields := Option.some.inj (whole.symm.trans parsed)
  obtain ⟨other, digest, exchanged, decrypted⟩ := accepted_decrypts gcm accepted
  rw [← fields] at decrypted
  obtain ⟨keyed, text⟩ := genuine.sealed _ plain decrypted
  rw [text] at accepted
  have named := accepted_named genuine (by rw [← fields]) accepted
  refine ⟨named, ?_⟩
  rcases genuine.agreed other digest exchanged keyed.symm with self | mine
  · rw [named, self]
    exact .inr rfl
  · exact .inl mine

/-- What every run keeps: all that was sent is genuine, and the node is no peer of its own. -/
structure Sound (node : Receiver) (net : Net) : Prop where
  sent : ∀ packet ∈ net.sent, Genuine node packet
  apart : net.engine.peers.track node.self.nodeId = none

theorem recv_sound {engine after : Engine} (still : engine.Still after ∨ engine.Touched after peer)
    {self : String} (apart : engine.peers.track self = none) : after.peers.track self = none := by
  rcases still with still | touched
  · rw [still.track, apart]
  · have other : self ≠ peer.id := by
      intro same
      rw [same] at apart
      exact touched.registered apart
    rw [touched.track self other, apart]

theorem sound_step {net after : Net} {label : NetLabel} (sound : Sound node net)
    (attack : Attack node net label) (fresh : Unreplayed node net label)
    (taken : (network node).next net label = some after) : Sound node after := by
  cases label with
  | produce packet =>
      cases taken
      refine ⟨?_, sound.apart⟩
      intro own member
      rcases List.mem_cons.mp member with rfl | older
      · exact attack
      · exact sound.sent own older
  | recv datagram =>
      cases taken
      refine ⟨sound.sent, ?_⟩
      rcases recvOnce_frame node net.engine datagram with still | ⟨_, _, peer, _, _, touched⟩
      · rw [still.track]
        exact sound.apart
      · exact recv_sound (.inr touched) sound.apart
  | elsewhere engine =>
      cases taken
      exact ⟨sound.sent, fresh⟩

/-- A datagram that passes the checks is the first reception of what its peer has built. -/
theorem first_of_accepted (gcm : node.crypto.haveCrypto = true) {net : Net} (sound : Sound node net)
    (attack : Attack node net (.recv datagram)) (fresh : Unreplayed node net (.recv datagram))
    (parsed : packet ∈ parsePacket datagram.data)
    (accepted : AcceptedAs node net.engine datagram packet peer plain)
    (registered : net.engine.peers.track peer.id ≠ none) : FirstOf node net datagram peer.id := by
  have accepts : Accepts node net.engine datagram := ⟨packet, parsed, peer, plain, accepted⟩
  refine ⟨fun again => fresh again accepts, ?_⟩
  rcases attack with ⟨produced, member, same⟩ | closed
  · obtain ⟨named, mine | self⟩ := accepted_built gcm (sound.sent produced member) same parsed accepted
    · exact ⟨produced, member, same, named.symm, mine⟩
    · rw [self] at registered
      exact absurd sound.apart registered
  · obtain ⟨other, digest, -, decrypted⟩ := accepted_decrypts gcm accepted
    rw [closed packet parsed] at decrypted
    cases decrypted

theorem moves_only_first (gcm : node.crypto.haveCrypto = true) {net after : Net}
    (sound : Sound node net) (attack : Attack node net (.recv datagram))
    (fresh : Unreplayed node net (.recv datagram))
    (taken : (network node).next net (.recv datagram) = some after) :
    MovesOnlyFirst node net after datagram := by
  cases taken
  rcases recvOnce_frame node net.engine datagram with
    still | ⟨packet, parsed, peer, plain, accepted, touched⟩
  · refine ⟨fun id moved => absurd (still.track id) moved, ?_⟩
    intro route moved
    exact absurd (congrArg (Table.find? · route) still.routes) moved
  · have first := first_of_accepted gcm sound attack fresh parsed accepted touched.registered
    refine ⟨?_, ?_⟩
    · intro id moved
      by_cases own : id = peer.id
      · rw [own]
        exact first
      · exact absurd (touched.track id own) moved
    · intro route moved
      by_cases own : route = strip (peer.peerId.getD "")
      · obtain ⟨later, found, same⟩ := touched.row
        have named := Table.find?_key found
        refine ⟨later, Table.find?_mem found, ?_, ?_⟩
        · rw [same, own]
        · rw [named]
          exact first
      · exact absurd (touched.routes route own) moved

/-- In every run without replays that pass the checks, only the first reception of its own
datagram moves a peer. -/
theorem replays_move_nothing (node : Receiver) (gcm : node.crypto.haveCrypto = true)
    (engine : Engine) (apart : engine.peers.track node.self.nodeId = none) (net after : Net)
    (datagram : Datagram)
    (run : (network node).Run
      (fun net label => Attack node net label ∧ Unreplayed node net label) { engine } net)
    (attack : Attack node net (.recv datagram)) (fresh : Unreplayed node net (.recv datagram))
    (taken : (network node).next net (.recv datagram) = some after) :
    MovesOnlyFirst node net after datagram := by
  have start : Sound node { engine } := ⟨fun _ member => absurd member List.not_mem_nil, apart⟩
  have sound : Sound node net := by
    apply run.invariant (Sound node) _ start
    intro before label after kept met step
    exact sound_step kept met.1 met.2 step
  exact moves_only_first gcm sound attack fresh taken

end Runs

def sampleProduced : Produced where
  producer := { nodeId := "node-b", pubkey := sampleKeyBytes }
  recipient := { nodeId := "node-a", pubkey := List.replicate 32 1 }
  type := pktHeartbeat
  key := .agreed sampleAgreed
  nonce := packNonce 5 1
  plain := samplePlain
  encrypted := [1, 2, 3]
  data := (buildPacket "node-b" pktHeartbeat (packNonce 5 1) [1, 2, 3]).getD []

private theorem sample_decrypts {payload nonce plain : Bytes} {key : Key}
    (decrypted : sampleReceiver.crypto.decrypt payload key nonce = some plain) :
    (payload = [1, 2, 3] ∧ nonce = packNonce 5 1 ∧ key = .agreed sampleAgreed) ∧
      plain = samplePlain := by
  have opened : (if payload = [1, 2, 3] ∧ nonce = packNonce 5 1 ∧ key = .agreed sampleAgreed then
      some samplePlain else none) = some plain := decrypted
  rw [Option.ite_none_right_eq_some] at opened
  exact ⟨opened.1, (Option.some.inj opened.2).symm⟩

theorem sampleProduced_genuine : Genuine sampleReceiver sampleProduced where
  built := by decide +kernel
  sized := packNonce_length 5 1
  sealed := by
    intro key plain decrypted
    obtain ⟨⟨-, -, keyed⟩, text⟩ := sample_decrypts decrypted
    exact ⟨keyed, text⟩
  agreed := by
    intro pubkey digest _ _
    exact .inr rfl
  heartbeat := by
    intro _ text _ msg read
    simp only [sampleReceiver] at read
    split at read
    · have same := Json.obj.inj (Except.ok.inj read)
      rw [← same]
      decide +kernel
    · cases read
  message := by
    intro app
    exact absurd app (by decide)

def sentNet : Net := { engine := sampleEngine, sent := [sampleProduced] }

def firstDatagram : Datagram := sampleDatagram "198.51.100.7" 40001 5

/-- The same bytes from another address, long after. -/
def replayedDatagram : Datagram := sampleDatagram "203.0.113.9" 4242 500

theorem sampleProduced_resent (ip : String) (port : Int) (time : ℚ) (net : Net)
    (sent : net.sent = [sampleProduced]) :
    Attack sampleReceiver net (.recv (sampleDatagram ip port time)) := by
  refine .inl ⟨sampleProduced, ?_, rfl⟩
  rw [sent]
  exact List.mem_singleton_self _

/-- The network after the first reception, when the node has learnt another key of the peer. -/
def rekeyedNet : Net where
  engine :=
    { peers := Table.empty.upsert { samplePeer with pubkey := some (String.ofList (.replicate 64 '9')) }
        (fun old => old) (Table.key_kept Peer.id) }
  sent := [sampleProduced]
  received := [firstDatagram.data]

theorem rekeyedNet_refuses : ¬ Accepts sampleReceiver rekeyedNet.engine replayedDatagram := by
  rintro ⟨packet, parsed, peer, plain, accepted⟩
  have whole : parsePacket replayedDatagram.data =
      some ⟨tepVersion, pktHeartbeat, "node-b", packNonce 5 1, [1, 2, 3]⟩ := by decide +kernel
  cases Option.some.inj (whole.symm.trans parsed)
  have closed : (openHeartbeat sampleReceiver rekeyedNet.engine
      ⟨tepVersion, pktHeartbeat, "node-b", packNonce 5 1, [1, 2, 3]⟩ replayedDatagram).2 = none := by
    decide +kernel
  rw [AcceptedAs, if_neg (by decide), closed] at accepted
  cases accepted.1

/-- The first reception moves the peer, and the second one does not. -/
theorem replays_move_nothing_once : FirstOf sampleReceiver sentNet firstDatagram "node-b" ∧
    ∃ after, (network sampleReceiver).next rekeyedNet (.recv replayedDatagram) = some after ∧
      after.engine.peers.track "node-b" = rekeyedNet.engine.peers.track "node-b" := by
  have built : (network sampleReceiver).Run
      (fun net label => Attack sampleReceiver net label ∧ Unreplayed sampleReceiver net label)
      { engine := sampleEngine } sentNet :=
    .single ⟨.produce sampleProduced, ⟨sampleProduced_genuine, trivial⟩, rfl⟩
  have resent := sampleProduced_resent "198.51.100.7" 40001 5 sentNet rfl
  have fresh : Unreplayed sampleReceiver sentNet (.recv firstDatagram) :=
    fun again => absurd again List.not_mem_nil
  have moves := replays_move_nothing sampleReceiver rfl sampleEngine (by decide) sentNet _
    firstDatagram built resent fresh rfl
  refine ⟨moves.track "node-b" (by decide +kernel), _, rfl, ?_⟩
  have apart : rekeyedNet.engine.peers.track sampleReceiver.self.nodeId = none := by decide +kernel
  have run := (built.tail ⟨.recv firstDatagram, ⟨resent, fresh⟩, rfl⟩).tail
    ⟨.elsewhere rekeyedNet.engine, ⟨trivial, apart⟩, rfl⟩
  have again := replays_move_nothing sampleReceiver rfl sampleEngine (by decide) rekeyedNet _
    replayedDatagram run (sampleProduced_resent _ _ _ rekeyedNet rfl)
    (fun _ => rekeyedNet_refuses) rfl
  by_contra moved
  exact (again.track "node-b" moved).1 List.mem_cons_self

/-- The peer of a heartbeat that was received before is moved to the address it is sent from. -/
theorem replays_move : ¬ ∀ (net after : Net) (datagram : Datagram),
    (network sampleReceiver).Run (Attack sampleReceiver) { engine := sampleEngine } net →
    Attack sampleReceiver net (.recv datagram) →
    (network sampleReceiver).next net (.recv datagram) = some after →
    MovesOnlyFirst sampleReceiver net after datagram := by
  intro claim
  let received : Net :=
    { sentNet with
      engine := (recvOnce sampleReceiver sampleEngine firstDatagram).1
      received := [firstDatagram.data] }
  have built : (network sampleReceiver).Run (Attack sampleReceiver) { engine := sampleEngine }
      sentNet := .single ⟨.produce sampleProduced, sampleProduced_genuine, rfl⟩
  have run : (network sampleReceiver).Run (Attack sampleReceiver) { engine := sampleEngine }
      received := built.tail ⟨.recv firstDatagram, sampleProduced_resent _ _ _ sentNet rfl, rfl⟩
  have moves := claim received _ replayedDatagram run (sampleProduced_resent _ _ _ received rfl) rfl
  have first := moves.track "node-b" (by decide +kernel)
  exact first.1 List.mem_cons_self

end HashBurst.Tep
