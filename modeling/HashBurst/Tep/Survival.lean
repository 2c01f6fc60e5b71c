import HashBurst.Tep.Receive

namespace HashBurst.Tep

open Lib Lib.Py

/-- The computation raises nothing but `ProtocolError`. -/
def OnlyProtocol {α : Type} (result : Except Raised α) : Prop :=
  ∀ raised, result = .error raised → ∃ code message, raised = .protocol code message

namespace OnlyProtocol

variable {α β : Type}

theorem ok (value : α) : OnlyProtocol (.ok value) := by
  intro raised failed
  cases failed

theorem error (code message : String) : OnlyProtocol (.error (.protocol code message) : Except _ α) := by
  intro raised failed
  cases failed
  exact ⟨code, message, rfl⟩

theorem require (holds : Bool) (code message : String) :
    OnlyProtocol (Tep.require holds code message) := by
  unfold Tep.require
  split
  · exact ok ()
  · exact error code message

theorem bind {first : Except Raised α} {rest : α → Except Raised β} (front : OnlyProtocol first)
    (back : ∀ value, OnlyProtocol (rest value)) : OnlyProtocol (first >>= rest) := by
  cases first with
  | error failure =>
      intro raised failed
      cases failed
      exact front failure rfl
  | ok value => exact back value

theorem ite {condition : Prop} [Decidable condition] {one other : Except Raised α}
    (left : OnlyProtocol one) (right : OnlyProtocol other) :
    OnlyProtocol (if condition then one else other) := by
  split
  · exact left
  · exact right

end OnlyProtocol

section Validation

variable (message fields : Dict) (field msgType : String) (services : List String)

theorem requireDict_only (value : Json) : OnlyProtocol (requireDict value field) := by
  cases value with
  | obj fields => exact .ok fields
  | _ => exact .error _ _

theorem requireNonemptyStr_only (maxLen : Nat) :
    OnlyProtocol (requireNonemptyStr fields field maxLen) := by
  unfold requireNonemptyStr
  split
  · exact .ite (.error _ _) (.ite (.error _ _) (.ok _))
  · exact .error _ _

theorem validateIdentity_only (value : Json) : OnlyProtocol (validateIdentity value field) := by
  apply (requireDict_only field value).bind
  intro fields
  apply (requireNonemptyStr_only fields "node_id" 128).bind
  intro nodeId
  apply (requireNonemptyStr_only fields "peer_id" 256).bind
  intro peerId
  exact .ok _

namespace Envelope

private theorem version_only : OnlyProtocol (version message) := by
  unfold version
  split
  · exact (OnlyProtocol.require _ _ _).bind fun _ => .ok _
  · exact .error _ _

private theorem msgType_only : OnlyProtocol (Envelope.msgType message) := by
  unfold Envelope.msgType
  split
  · exact (OnlyProtocol.require _ _ _).bind fun _ => .ok _
  · exact .error _ _

theorem hexField_only (expectedLen : Nat) : OnlyProtocol (hexField message field expectedLen) := by
  unfold hexField
  split
  · exact (OnlyProtocol.require _ _ _).bind fun _ => .ok _
  · exact .error _ _

private theorem timestampMs_only : OnlyProtocol (timestampMs message) := by
  unfold timestampMs
  split
  · exact (OnlyProtocol.require _ _ _).bind fun _ => .ok _
  · exact .error _ _

private theorem checkWindow_only (timestamp nowMs : Int) :
    OnlyProtocol (checkWindow timestamp nowMs) :=
  (OnlyProtocol.require _ _ _).bind fun _ => .require _ _ _

private theorem service_only : OnlyProtocol (service message services msgType) := by
  apply OnlyProtocol.ite _ (.ok none)
  apply (requireNonemptyStr_only message "service" 128).bind
  intro service
  exact (OnlyProtocol.require _ _ _).bind fun _ => .ok _

private theorem ttlMs_only : OnlyProtocol (ttlMs message msgType) := by
  apply OnlyProtocol.ite _ (.ok none)
  split
  · exact (OnlyProtocol.require _ _ _).bind fun _ => .ok _
  · exact .error _ _

private theorem checkPayload_only : OnlyProtocol (checkPayload message msgType) :=
  .ite (.require _ _ _) (.ok ())

theorem checkStatus_only (low high : Int) (text : String) :
    OnlyProtocol (checkStatus message low high text) := by
  unfold checkStatus
  split
  · exact .require _ _ _
  · exact .error _ _

theorem checkError_only : OnlyProtocol (checkError message msgType) := by
  apply OnlyProtocol.ite _ (.ok ())
  apply (checkStatus_only message 400 599 _).bind
  intro _
  apply (requireDict_only "error" _).bind
  intro error
  apply (requireNonemptyStr_only error "code" 128).bind
  intro _
  split
  · exact .ok ()
  · exact .require _ _ _
  · exact .error _ _

private theorem checkResponse_only : OnlyProtocol (checkResponse message msgType) :=
  .ite (checkStatus_only message 200 399 _) (.ok ())

theorem checkRelay_only : OnlyProtocol (checkRelay message msgType) := by
  apply OnlyProtocol.ite _ (.ok ())
  apply (requireDict_only "relay_target" _).bind
  intro target
  apply (requireNonemptyStr_only target "peer_id" 256).bind
  intro _
  split
  · apply (OnlyProtocol.require _ _ _).bind
    intro _
    split
    · exact .require _ _ _
    · exact .error _ _
  · exact .error _ _

end Envelope

open Envelope in
theorem validateEnvelope_only (nowMs : Int) :
    OnlyProtocol (validateEnvelope services message nowMs) := by
  apply (version_only message).bind
  intro version
  apply (msgType_only message).bind
  intro msgType
  apply (hexField_only message "request_id" _).bind
  intro requestId
  apply (validateIdentity_only "source" _).bind
  intro source
  apply (validateIdentity_only "destination" _).bind
  intro destination
  apply (hexField_only message "nonce" _).bind
  intro nonce
  apply (timestampMs_only message).bind
  intro timestamp
  apply (checkWindow_only timestamp nowMs).bind
  intro _
  apply (service_only message msgType services).bind
  intro service
  apply (ttlMs_only message msgType).bind
  intro ttl
  apply (checkPayload_only message msgType).bind
  intro _
  apply (checkError_only message msgType).bind
  intro _
  apply (checkResponse_only message msgType).bind
  intro _
  apply (checkRelay_only message msgType).bind
  intro _
  exact .ok _

end Validation

section Decoding

variable {py : Python} {nowMs : Int} {plain : Bytes} {raised : Raised} {failure : LoadsError}

theorem require_bind {α : Type} (holds : Bool) (code message : String)
    (rest : Unit → Except Raised α) : (require holds code message >>= rest) =
      if holds then rest () else .error (.protocol code message) := by
  cases holds with
  | true => rfl
  | false => rfl

/-- `json.loads` is reached and raises. -/
def JsonRaises (py : Python) (plain : Bytes) (failure : LoadsError) : Prop :=
  plain ≠ [] ∧ plain.length ≤ maxGenericBytes ∧
    ∃ text ∈ decodeUtf8 plain, py.loads text = .error failure

theorem decodeMessage_error (failed : decodeMessage py nowMs plain = .error raised) :
    (∃ code message, raised = .protocol code message) ∨
      ∃ failure, failure ≠ .decode ∧ raised = .loads failure ∧ JsonRaises py plain failure := by
  rw [decodeMessage, require_bind, require_bind] at failed
  split at failed
  · rename_i filled
    split at failed
    · rename_i sized
      have bounds := And.intro (of_decide_eq_true filled) (of_decide_eq_true sized)
      cases decoded : decodeUtf8 plain with
      | none =>
          rw [decoded] at failed
          exact .inl (OnlyProtocol.error _ _ raised failed)
      | some text =>
          simp only [decoded] at failed
          cases read : py.loads text with
          | error failure =>
              rw [read] at failed
              cases failure with
              | decode => exact .inl (OnlyProtocol.error _ _ raised failed)
              | value =>
                  cases failed
                  exact .inr ⟨.value, by decide, rfl, bounds.1, bounds.2, text, decoded, read⟩
              | recursion =>
                  cases failed
                  exact .inr ⟨.recursion, by decide, rfl, bounds.1, bounds.2, text, decoded, read⟩
          | ok value =>
              rw [read] at failed
              cases value with
              | obj message =>
                  have only := (OnlyProtocol.require (sizeOk message plain) "bad_request"
                    "message exceeds type-specific size limit").bind
                    fun _ => validateEnvelope_only message py.services nowMs
                  exact .inl (only raised failed)
              | _ => exact .inl (OnlyProtocol.error _ _ raised failed)
    · exact .inl (OnlyProtocol.error _ _ raised failed)
  · exact .inl (OnlyProtocol.error _ _ raised failed)

private theorem decodeMessage_raises (other : failure ≠ .decode)
    (raises : JsonRaises py plain failure) :
    decodeMessage py nowMs plain = .error (.loads failure) := by
  obtain ⟨filled, sized, text, decoded, read⟩ := raises
  have utf8 : decodeUtf8 plain = some text := decoded
  rw [decodeMessage, require_bind, require_bind, if_pos (decide_eq_true filled),
    if_pos (decide_eq_true sized), utf8]
  simp only [read]

end Decoding

section Iteration

variable {node : Receiver} {engine : Engine} {packet : Packet} {datagram : Datagram} {peer : Peer}
  {plain : Bytes} {raised : Raised}

/-- The relay table refuses a route to the source of the datagram. -/
def BadRoute (peer : Peer) (datagram : Datagram) : Prop :=
  (strip (peer.peerId.getD "") = "" ∨ strip datagram.ip = "") ∨
    datagram.port < 1 ∨ 65535 < datagram.port

instance (peer : Peer) (datagram : Datagram) : Decidable (BadRoute peer datagram) :=
  inferInstanceAs (Decidable ((_ ∨ _) ∨ _ ∨ _))

theorem recordEndpoint_ok (engine : Engine) (good : ¬ BadRoute peer datagram) :
    (engine.recordEndpoint peer datagram).2 = none := by
  unfold BadRoute at good
  have named := fun blank => good (.inl blank)
  have ported := fun bad => good (.inr bad)
  simp only [Engine.recordEndpoint, RelayTable.observe, Bool.not_true, Bool.false_eq_true, if_false,
    if_neg named, if_neg ported]

theorem recordEndpoint_raises (engine : Engine) (bad : BadRoute peer datagram) :
    ∃ code message, (engine.recordEndpoint peer datagram).2 = some (.relay code message) := by
  by_cases blank : strip (peer.peerId.getD "") = "" ∨ strip datagram.ip = ""
  · refine ⟨"bad_route", "peer_id and ip are required", ?_⟩
    simp only [Engine.recordEndpoint, RelayTable.observe, Bool.not_true, Bool.false_eq_true,
      if_false, if_pos blank]
  · refine ⟨"bad_route", "invalid UDP port", ?_⟩
    have ported := bad.resolve_left blank
    simp only [Engine.recordEndpoint, RelayTable.observe, Bool.not_true, Bool.false_eq_true,
      if_false, if_neg blank, if_pos ported]

private theorem validateAppIdentity_only (self : Identity) (env : ValidatedEnvelope) (peer : Peer) :
    OnlyProtocol (validateAppIdentity self env peer) :=
  (OnlyProtocol.require _ _ _).bind fun _ => .require _ _ _

theorem checkAppPacket_error
    (failed : checkAppPacket node packet datagram peer plain = .error raised) :
    (∃ code message, raised = .protocol code message) ∨
      ∃ failure, failure ≠ .decode ∧ raised = .loads failure ∧ packet.version = tepVersion ∧
        JsonRaises node.py plain failure := by
  rw [checkAppPacket, require_bind] at failed
  split at failed
  · rename_i version
    cases decoded : decodeMessage node.py datagram.nowMs plain with
    | error own =>
        rw [decoded] at failed
        cases failed
        rcases decodeMessage_error decoded with protocol | ⟨failure, other, same, raises⟩
        · exact .inl protocol
        · exact .inr ⟨failure, other, same, of_decide_eq_true version, raises⟩
    | ok env =>
        rw [decoded] at failed
        have only := (validateAppIdentity_only node.self env peer).bind fun _ =>
          (OnlyProtocol.require (some env.msgType = expectedType packet.type)
            "packet_envelope_mismatch" "TEP packet type does not match APP envelope").bind
            fun _ => OnlyProtocol.ok env
        exact .inl (only raised failed)
  · exact .inl (OnlyProtocol.error _ _ raised failed)

theorem checkAppPacket_raises {failure : LoadsError} (other : failure ≠ .decode)
    (version : packet.version = tepVersion) (raises : JsonRaises node.py plain failure) :
    checkAppPacket node packet datagram peer plain = .error (.loads failure) := by
  rw [checkAppPacket, require_bind, if_pos (decide_eq_true version),
    decodeMessage_raises other raises]
  rfl

/-- An APP packet that ends the loop: its plaintext makes `json.loads` raise something else than a
`JSONDecodeError`, or it passes all checks and comes from where no route can lead. -/
def AppEscapes (node : Receiver) (engine : Engine) (packet : Packet) (datagram : Datagram) : Prop :=
  ∃ peer plain, openApp node engine packet = some (peer, plain) ∧
    ((packet.version = tepVersion ∧ ∃ failure, failure ≠ .decode ∧
        JsonRaises node.py plain failure) ∨
      ((checkAppPacket node packet datagram peer plain).isOk = true ∧ BadRoute peer datagram))

private theorem rejectApp_protocol (engine : Engine) (code message : String) :
    (engine.rejectApp (.protocol code message)).2 = none := by
  simp only [Engine.rejectApp]
  split
  · rfl
  · rfl

theorem handleApp_returns_iff :
    (handleAuthenticatedAppPacket node engine packet datagram peer plain).2 = none ↔
      ¬ ((packet.version = tepVersion ∧ ∃ failure, failure ≠ .decode ∧
          JsonRaises node.py plain failure) ∨
        ((checkAppPacket node packet datagram peer plain).isOk = true ∧ BadRoute peer datagram)) := by
  unfold handleAuthenticatedAppPacket
  cases checked : checkAppPacket node packet datagram peer plain with
  | error raised =>
      rcases checkAppPacket_error checked with ⟨code, message, rfl⟩ |
        ⟨failure, other, rfl, version, raises⟩
      · apply iff_of_true (rejectApp_protocol engine code message)
        rintro (⟨version, failure, other, raises⟩ | ⟨passed, _⟩)
        · cases checked.symm.trans (checkAppPacket_raises other version raises)
        · cases passed
      · apply iff_of_false
        · intro quiet
          cases quiet
        · exact fun calm => calm (.inl ⟨version, failure, other, raises⟩)
  | ok env =>
      have read : ¬ (packet.version = tepVersion ∧ ∃ failure, failure ≠ .decode ∧
          JsonRaises node.py plain failure) := by
        rintro ⟨version, failure, other, raises⟩
        cases checked.symm.trans (checkAppPacket_raises other version raises)
      rcases recorded : engine.recordEndpoint peer datagram with ⟨moved, result⟩
      by_cases bad : BadRoute peer datagram
      · obtain ⟨code, message, raised⟩ := recordEndpoint_raises engine bad
        rw [recorded] at raised
        subst raised
        apply iff_of_false
        · intro quiet
          cases quiet
        · exact fun calm => calm (.inr ⟨rfl, bad⟩)
      · have quiet := recordEndpoint_ok engine bad
        rw [recorded] at quiet
        subst quiet
        apply iff_of_true rfl
        rintro (raises | ⟨_, routed⟩)
        · exact read raises
        · exact bad routed

theorem checkHeartbeat_only (conv : Conversions) (peer : Peer) (msg : Json) :
    OnlyProtocol (checkHeartbeat conv peer msg) := by
  cases msg with
  | obj msg =>
      apply (OnlyProtocol.require _ _ _).bind
      intro _
      apply (OnlyProtocol.require _ _ _).bind
      intro _
      apply (OnlyProtocol.require _ _ _).bind
      intro _
      exact .require _ _ _
  | _ => exact .error _ _

/-- A heartbeat is read with all exceptions caught but the one of deep nesting. -/
theorem readHeartbeat_error (engine : Engine) (failed : readHeartbeat node peer plain = .error raised) :
    (engine.rejectHeartbeat raised).2 = none ∨
      (raised = .loads .recursion ∧ ∃ text ∈ decodeUtf8 plain,
        node.py.loads text = .error .recursion) := by
  unfold readHeartbeat at failed
  cases decoded : decodeUtf8 plain with
  | none =>
      rw [decoded] at failed
      cases failed
      exact .inl rfl
  | some text =>
      simp only [decoded] at failed
      cases read : node.py.loads text with
      | error failure =>
          rw [read] at failed
          cases failed
          cases failure with
          | decode => exact .inl rfl
          | value => exact .inl rfl
          | recursion => exact .inr ⟨rfl, text, rfl, read⟩
      | ok msg =>
          rw [read] at failed
          obtain ⟨code, message, rfl⟩ := checkHeartbeat_only node.py.conv peer msg raised failed
          exact .inl rfl

theorem readHeartbeat_nested
    (nested : ∃ text ∈ decodeUtf8 plain, node.py.loads text = .error .recursion) :
    readHeartbeat node peer plain = .error (.loads .recursion) := by
  obtain ⟨text, decoded, raises⟩ := nested
  have utf8 : decodeUtf8 plain = some text := decoded
  simp only [readHeartbeat, utf8, raises]

/-- A heartbeat that ends the loop: it is nested too deep, or it passes all checks and comes from
where no route can lead. -/
def HeartbeatEscapes (node : Receiver) (engine : Engine) (packet : Packet) (datagram : Datagram) :
    Prop :=
  ∃ peer plain, (openHeartbeat node engine packet datagram).2 = some (peer, plain) ∧
    ((∃ text ∈ decodeUtf8 plain, node.py.loads text = .error .recursion) ∨
      ((readHeartbeat node peer plain).isOk = true ∧ BadRoute peer datagram))

theorem handleHeartbeat_returns_iff :
    (handleHeartbeat node engine datagram peer plain).2 = none ↔
      ¬ ((∃ text ∈ decodeUtf8 plain, node.py.loads text = .error .recursion) ∨
        ((readHeartbeat node peer plain).isOk = true ∧ BadRoute peer datagram)) := by
  unfold handleHeartbeat
  cases read : readHeartbeat node peer plain with
  | error raised =>
      rcases readHeartbeat_error engine read with quiet | ⟨rfl, nested⟩
      · apply iff_of_true quiet
        rintro (nested | ⟨passed, _⟩)
        · cases read.symm.trans (readHeartbeat_nested nested)
          cases quiet
        · cases passed
      · apply iff_of_false
        · intro quiet
          cases quiet
        · exact fun calm => calm (.inl nested)
  | ok done =>
      rcases recorded : engine.recordEndpoint peer datagram with ⟨moved, result⟩
      by_cases bad : BadRoute peer datagram
      · obtain ⟨code, message, raised⟩ := recordEndpoint_raises engine bad
        rw [recorded] at raised
        subst raised
        apply iff_of_false
        · intro quiet
          cases quiet
        · exact fun calm => calm (.inr ⟨rfl, bad⟩)
      · have quiet := recordEndpoint_ok engine bad
        rw [recorded] at quiet
        subst quiet
        apply iff_of_true rfl
        rintro (nested | ⟨_, routed⟩)
        · cases read.symm.trans (readHeartbeat_nested nested)
        · exact bad routed

theorem recvHeartbeat_returns_iff : (recvHeartbeat node engine packet datagram).2 = none ↔
    ¬ HeartbeatEscapes node engine packet datagram := by
  unfold recvHeartbeat HeartbeatEscapes
  rcases openHeartbeat node engine packet datagram with ⟨after, _ | ⟨peer, plain⟩⟩
  · apply iff_of_true rfl
    rintro ⟨peer, plain, found, _⟩
    cases found
  · refine handleHeartbeat_returns_iff.trans (not_congr ?_)
    constructor
    · exact fun escapes => ⟨peer, plain, rfl, escapes⟩
    · rintro ⟨other, text, same, escapes⟩
      cases same
      exact escapes

theorem recvApp_returns_iff : (recvApp node engine packet datagram).2 = none ↔
    ¬ (node.appReady = true ∧ AppEscapes node engine packet datagram) := by
  unfold recvApp AppEscapes
  by_cases ready : node.appReady
  · simp only [ready, Bool.not_true, Bool.false_eq_true, if_false, true_and]
    rcases openApp node engine packet with _ | ⟨peer, plain⟩
    · apply iff_of_true rfl
      rintro ⟨peer, plain, found, _⟩
      cases found
    · refine handleApp_returns_iff.trans (not_congr ?_)
      constructor
      · exact fun escapes => ⟨peer, plain, rfl, escapes⟩
      · rintro ⟨other, text, same, escapes⟩
        cases same
        exact escapes
  · simp [ready]

def Escapes (node : Receiver) (engine : Engine) (datagram : Datagram) : Prop :=
  ∃ packet ∈ parsePacket datagram.data,
    if packet.type ∈ appPacketTypes then
      node.appReady = true ∧ AppEscapes node engine packet datagram
    else HeartbeatEscapes node engine packet datagram

theorem ensurePeerIdentity_received : ensurePeerIdentity node engine.received datagram peer =
    ((ensurePeerIdentity node engine datagram peer).1.received,
      (ensurePeerIdentity node engine datagram peer).2) := by
  unfold ensurePeerIdentity
  split
  · rfl
  · have times : engine.received.identityRefreshAt = engine.identityRefreshAt := rfl
    rw [times]
    split
    · rfl
    · cases authoritativeIdentity node.py.conv datagram.nodes peer.id with
      | none => rfl
      | some identity => rfl

theorem openHeartbeat_received : (openHeartbeat node engine.received packet datagram).2 =
    (openHeartbeat node engine packet datagram).2 := by
  have found : heartbeatPeer engine.received packet datagram =
      heartbeatPeer engine packet datagram := rfl
  unfold openHeartbeat
  rw [found]
  cases heartbeatPeer engine packet datagram with
  | none => rfl
  | some peer =>
      simp only [ensurePeerIdentity_received]
      rcases ensurePeerIdentity node engine datagram peer with ⟨after, _ | named⟩
      · rfl
      · rfl

/-- The receive loop goes on exactly after the datagrams that do not end it. -/
theorem receive_returns_iff (node : Receiver) (engine : Engine) (datagram : Datagram) :
    (recvOnce node engine datagram).2 = none ↔ ¬ Escapes node engine datagram := by
  unfold recvOnce Escapes
  cases parsePacket datagram.data with
  | none =>
      apply iff_of_true rfl
      rintro ⟨packet, parsed, _⟩
      cases parsed
  | some packet =>
      by_cases app : packet.type ∈ appPacketTypes
      · simp only [if_pos app, Option.mem_some_iff, exists_eq_left']
        exact recvApp_returns_iff
      · simp only [if_neg app, Option.mem_some_iff, exists_eq_left']
        rw [recvHeartbeat_returns_iff]
        unfold HeartbeatEscapes
        rw [openHeartbeat_received]

end Iteration

def sampleKey : String := "00112233445566778899aabbccddeeff00112233445566778899aabbccddeeff"

def sampleKeyBytes : Bytes := ((fromHex sampleKey.toList).getD []).map UInt8.ofNat

def sampleHeartbeat : Json :=
  .obj [("type", .str "heartbeat"), ("ts", .int 5), ("node", .str "node-b"),
    ("pubkey", .str sampleKey)]

def sampleText : String :=
  "\x7b\"type\": \"heartbeat\", \"ts\": 5, \"node\": \"node-b\", \"pubkey\": \"" ++
    sampleKey ++ "\"\x7d"

def samplePlain : Bytes := sampleText.toUTF8.toList

def sampleAgreed : Bytes := List.replicate 32 7

/-- A node that shares a key with one peer, and that has received one heartbeat text from it. -/
def sampleReceiver : Receiver where
  self := { nodeId := "node-a", peerId := "peer-a" }
  crypto :=
    { pubkey := List.replicate 32 1
      exchange key := if key = sampleKeyBytes then some sampleAgreed else none
      decrypt payload key nonce :=
        if payload = [1, 2, 3] ∧ nonce = packNonce 5 1 ∧ key = .agreed sampleAgreed then
          some samplePlain
        else none }
  py :=
    { conv :=
        { str := fun _ => ""
          float := fun _ => none
          int := fun _ => none
          error := fun kind _ => kind }
      loads text := if text = sampleText then .ok sampleHeartbeat else .error .decode }

def samplePeer : Peer :=
  { id := "node-b", ip := "198.51.100.7", port := 47777, peerId := some "peer-b",
    pubkey := some sampleKey }

def sampleEngine : Engine := { peers := Table.empty.upsert samplePeer (fun old => old) (Table.key_kept Peer.id) }

def sampleDatagram (ip : String) (port : Int) (time : ℚ) : Datagram where
  data := (buildPacket "node-b" pktHeartbeat (packNonce 5 1) [1, 2, 3]).getD []
  ip
  port
  time
  monotonic := time

theorem receive_not_returns : ¬ ∀ (node : Receiver) (engine : Engine) (datagram : Datagram),
    (recvOnce node engine datagram).2 = none := by
  intro claim
  have ended : (recvOnce sampleReceiver sampleEngine (sampleDatagram "198.51.100.7" 0 5)).2 =
      some (.relay "bad_route" "invalid UDP port") := by decide +kernel
  cases ended.symm.trans (claim sampleReceiver sampleEngine (sampleDatagram "198.51.100.7" 0 5))

end HashBurst.Tep
