import HashBurst.Tep.Grammar
import HashBurst.Tep.Process

namespace HashBurst.Tep

open Lib Lib.Py

/-- The packet was decrypted under the key of the peer as a request, which was fresh when it was
received. -/
structure OpenedWith (node : Receiver) (job : Job) (packet : Packet) (env : ValidatedEnvelope)
    (peer : Peer) : Prop where
  parsed : packet ∈ parsePacket job.datagram.data
  kind : packetKind packet = .req
  registered : peer ∈ job.engine.peers.rows
  decrypted : ∃ key plain, node.crypto.deriveSharedKey peer.pubkey = some key ∧
    node.crypto.decrypt packet.encPayload key packet.nonce = some plain ∧
    decodeMessage node.py job.datagram.nowMs plain = .ok env
  fresh : job.datagram.nowMs - pastSkewMs ≤ env.timestampMs ∧
    env.timestampMs ≤ job.datagram.nowMs + futureSkewMs

/-- The handler of a direct request that a registered peer has sent under its own identity, and that
is new to the replay cache. -/
structure DirectRequest (node : Receiver) (done : Done) (env : ValidatedEnvelope) (peer : Peer) :
    Prop where
  handler : ∃ ip port, done.job.handler = .appRequest env peer ip port
  packet : ∃ packet, OpenedWith node done.job packet env peer
  source : env.source.nodeId = peer.id ∧ some env.source.peerId = peer.peerId
  new : (env.source.peerId, env.requestId) ∉
    (done.replay.evictExpired done.clocks.replay).entries.map Prod.fst

section Gate

variable {node : Receiver} {relay : RelayConfig} {daemon : Daemon} {replay after : ReplayCache}
  {env : ValidatedEnvelope} {clocks : Clocks} {engine : Engine} {source : Identity} {payload : Dict}
  {peerId requestId : String} {now : ℚ} {call : Call} {job : Job} {packet : Packet} {plain : Bytes}

theorem checkReplay_new (passed : checkReplay replay peerId requestId now = (after, .ok ())) :
    (peerId, requestId) ∉ (replay.evictExpired now).entries.map Prod.fst := by
  unfold checkReplay at passed
  split at passed
  · cases passed
  · unfold TtlCache.checkAndAdd at passed
    simp only at passed
    by_cases known : (peerId, requestId) ∈ (replay.evictExpired now).entries.map Prod.fst
    · rw [if_pos known] at passed
      cases passed
    · exact known

example : (checkReplay replayCache " " "0123456789abcdef0123456789abcdef" 0).2.isOk = false := by
  decide +kernel

theorem dispatchService_local (services : List String)
    (dispatched : dispatchService services env = .ok call) : ∀ source payload,
      call ≠ .agent source payload := by
  intro source payload same
  unfold dispatchService at dispatched
  split at dispatched
  · cases dispatched
  · split at dispatched
    · cases dispatched
    · split at dispatched
      · cases dispatched
      · split at dispatched
        · split at dispatched
          · cases dispatched
          · rw [same] at dispatched
            cases dispatched
        · cases dispatched

theorem dispatchEnvelope_source (conv : Conversions)
    (dispatched : dispatchEnvelope conv env = .ok (.agent source payload)) : source = env.source := by
  unfold dispatchEnvelope at dispatched
  split at dispatched
  · cases dispatched
  · split at dispatched
    · cases valid : validatePayload conv _ with
      | error failure =>
          rw [valid] at dispatched
          cases dispatched
      | ok checked =>
          rw [valid] at dispatched
          cases dispatched
          rfl
    · split at dispatched
      · cases dispatched
      · cases valid : validatePayload conv [] with
        | error failure =>
            rw [valid] at dispatched
            cases dispatched
        | ok checked =>
            rw [valid] at dispatched
            cases dispatched
            rfl

/-- The agent is reached by the handler of a direct request, after the replay check, with the
source of the request. -/
theorem runHandler_agent (handler : Handler)
    (ran : (runHandler node relay engine replay clocks handler).2 =
      .called env (.agent source payload)) :
    (∃ peer ip port, handler = .appRequest env peer ip port) ∧ source = env.source ∧
      (env.source.peerId, env.requestId) ∉
        (replay.evictExpired clocks.replay).entries.map Prod.fst := by
  cases handler with
  | appRequest own peer ip port =>
      simp only [runHandler, handleAppRequest] at ran
      rcases asked : checkReplay replay own.source.peerId own.requestId clocks.replay with
        ⟨later, failure | done⟩
      · simp only [asked] at ran
        cases ran
      · simp only [asked] at ran
        split at ran
        · rename_i call dispatched
          obtain ⟨same, reached⟩ := Outcome.called.inj ran
          subst same
          subst reached
          refine ⟨⟨peer, ip, port, rfl⟩, ?_, checkReplay_new asked⟩
          split at dispatched
          · have found := (Prod.mk.inj dispatched).2
            exact dispatchEnvelope_source node.py.conv found
          · have found := (Prod.mk.inj dispatched).2
            exact absurd rfl (dispatchService_local node.py.services found _ _)
        · cases ran
  | relayRequest own peer ip port =>
      simp only [runHandler] at ran
      split at ran
      · split at ran
        · cases ran
        · cases ran
      · split at ran
        · cases ran
        · cases ran

theorem runHandler_delivered (handler : Handler)
    (ran : (runHandler node relay engine replay clocks handler).2 = .delivered env call) :
    ∀ source payload, call ≠ .agent source payload := by
  cases handler with
  | appRequest own peer ip port =>
      simp only [runHandler] at ran
      split at ran
      · cases ran
      · cases ran
  | relayRequest own peer ip port =>
      simp only [runHandler] at ran
      split at ran
      · split at ran
        · rename_i inner reached delivered
          cases ran
          unfold handleRelayDelivery at delivered
          split at delivered
          · cases delivered
          · rename_i opened _
            split at delivered
            · cases delivered
            · have found := (Prod.mk.inj delivered).2
              cases dispatched : dispatchService node.py.services opened with
              | error failure =>
                  rw [dispatched] at found
                  cases found
              | ok own =>
                  rw [dispatched] at found
                  cases found
                  exact dispatchService_local node.py.services dispatched
        · cases ran
      · split at ran
        · cases ran
        · cases ran

theorem Authentic.openedWith (authentic : Authentic node job packet plain)
    (request : job.handler.msgType = "req") :
    OpenedWith node job packet job.handler.env job.handler.peer := by
  have checked := authentic.checked
  have opened := authentic.opened
  have registered := Table.find?_mem (openApp_found opened)
  have named : (packetKind packet).name = Kind.req.name := authentic.kind_name.trans request
  refine ⟨authentic.parsed, Kind.name_injective named, registered, ?_,
    decodeMessage_fresh checked.decoded⟩
  unfold openApp at opened
  split at opened
  · cases opened
  · split at opened
    · cases opened
    · obtain ⟨key, derived, carried⟩ := Option.bind_eq_some_iff.mp opened
      obtain ⟨own, decrypted, pair⟩ := Option.map_eq_some_iff.mp carried
      obtain ⟨same, text⟩ := Prod.mk.inj pair
      rw [same] at derived
      rw [text] at decrypted
      exact ⟨key, plain, derived, decrypted, checked.decoded⟩

/-- In every run, whatever datagrams come: no delivery reaches the agent, and what reaches it is a
direct request of an authenticated peer. With ideal encryption that peer has made its packet for
this node as a request. -/
theorem agent_reached_directly {allowed : Daemon → DaemonLabel → Prop}
    (run : (process node relay).Run allowed { engine } daemon) : ∀ done ∈ daemon.done,
    (∀ inner source payload, done.outcome ≠ .delivered inner (.agent source payload)) ∧
    ∀ env source payload, done.outcome = .called env (.agent source payload) →
      source = env.source ∧ ∃ peer, DirectRequest node done env peer ∧
        ∀ (directory : Directory) (codec : Codec) (made : List Sealed),
          node.crypto.haveCrypto = true →
          directory.Covers node done.job.engine done.job.datagram.nodes →
          Honest directory node.py codec made → Ideal directory node made →
          ∃ packet, OpenedWith node done.job packet env peer ∧
            ∃ sent ∈ made, MadeBy directory node packet .req peer sent := by
  intro done finished
  obtain ⟨⟨packet, plain, authentic⟩, engine, ran⟩ := (process_run_sound run).done done finished
  refine ⟨?_, ?_⟩
  · intro inner source payload delivered
    exact runHandler_delivered _ (ran.trans delivered) source payload rfl
  · intro env source payload called
    obtain ⟨⟨peer, ip, port, handler⟩, same, new⟩ := runHandler_agent _ (ran.trans called)
    have opened : OpenedWith node done.job packet env peer := by
      have own := authentic.openedWith (by rw [handler]; rfl)
      rwa [handler] at own
    have checked := authentic.checked
    have accepted := authentic.accepted
    rw [opened.kind] at accepted
    rw [handler] at checked accepted
    refine ⟨same, peer, ⟨⟨ip, port, handler⟩, ⟨packet, opened⟩, checked.source, new⟩, ?_⟩
    intro directory codec made gcm covers honest ideal
    exact ⟨packet, opened, processed_made gcm covers honest ideal accepted⟩

def sampleQuery : Dict :=
  [("v", .int 1), ("type", .str "req"), ("request_id", .str "0123456789abcdef0123456789abcdef"),
    ("source", .obj [("node_id", .str "node-b"), ("peer_id", .str "peer-b")]),
    ("destination", .obj [("node_id", .str "node-a"), ("peer_id", .str "peer-a")]),
    ("service", .str "ha.lease"), ("timestamp_ms", .int 60000),
    ("nonce", .str "fedcba9876543210fedcba9876543210"), ("ttl_ms", .int 1200),
    ("payload", .obj [("op", .str "status"), ("cluster_id", .str "main")])]

def sampleQueryText : String :=
  "\x7b\"v\":1,\"type\":\"req\",\"request_id\":\"0123456789abcdef0123456789abcdef\"," ++
    "\"source\":\x7b\"node_id\":\"node-b\",\"peer_id\":\"peer-b\"\x7d," ++
    "\"destination\":\x7b\"node_id\":\"node-a\",\"peer_id\":\"peer-a\"\x7d," ++
    "\"service\":\"ha.lease\",\"timestamp_ms\":60000," ++
    "\"nonce\":\"fedcba9876543210fedcba9876543210\",\"ttl_ms\":1200," ++
    "\"payload\":\x7b\"op\":\"status\",\"cluster_id\":\"main\"\x7d\x7d"

/-- The sample node as a voter: its peer asks it for the status of the lease. -/
def sampleVoter : Receiver where
  self := sampleReceiver.self
  crypto :=
    { pubkey := sampleReceiver.crypto.pubkey
      exchange := sampleReceiver.crypto.exchange
      decrypt payload key nonce :=
        if payload = [4, 5, 6] ∧ nonce = packNonce 5 2 ∧ key = .agreed sampleAgreed then
          some (utf8 sampleQueryText)
        else none }
  py :=
    { conv := sampleReceiver.py.conv
      loads text := if text = sampleQueryText then .ok (.obj sampleQuery) else .error .decode
      services := ["storage.summary", "ha.lease"] }

def queryDatagram : Datagram where
  data := (buildPacket "node-b" pktAppRequest (packNonce 5 2) [4, 5, 6]).getD []
  ip := "198.51.100.7"
  port := 47777
  time := 50
  monotonic := 50

def queryEnvelope : ValidatedEnvelope where
  raw := sampleQuery
  version := 1
  msgType := "req"
  requestId := "0123456789abcdef0123456789abcdef"
  source := { nodeId := "node-b", peerId := "peer-b" }
  destination := sampleReceiver.self
  service := some haLeaseService
  timestampMs := 60000
  nonce := "fedcba9876543210fedcba9876543210"
  ttlMs := some 1200

def queryPacket : Packet := ⟨tepVersion, pktAppRequest, "node-b", packNonce 5 2, [4, 5, 6]⟩

private theorem queryDatagram_packet : parsePacket queryDatagram.data = some queryPacket := by
  decide

example : (dispatchService sampleVoter.py.services queryEnvelope).isOk = false := by decide +kernel

section Query

variable {datagram : Datagram} {peer : Peer} {nowMs : Int}

theorem sampleQuery_reads (window : Envelope.checkWindow 60000 nowMs = .ok ()) :
    Envelope.Reads sampleVoter.py.services sampleQuery nowMs queryEnvelope where
  raw := rfl
  version := by decide
  msgType := by decide
  requestId := hexField_reads rfl (by decide) (by decide)
  source := by decide
  destination := by decide
  nonce := hexField_reads rfl (by decide) (by decide)
  timestampMs := by decide
  window := window
  service := by decide
  ttlMs := by decide
  payload := by decide
  error := by decide
  response := by decide
  relay := by decide

theorem sampleQuery_passes (window : Envelope.checkWindow 60000 datagram.nowMs = .ok ())
    (named : "node-b" = peer.id ∧ some "peer-b" = peer.peerId) :
    checkAppPacket sampleVoter queryPacket datagram peer (utf8 sampleQueryText) =
      .ok queryEnvelope := by
  have fits : (utf8 sampleQueryText).length ≤ maxGenericBytes := by decide +kernel
  have sized : sizeOk sampleQuery (utf8 sampleQueryText) = true := by decide +kernel
  have written : utf8 sampleQueryText ≠ [] := by decide +kernel
  have read : sampleVoter.py.loads sampleQueryText = .ok (.obj sampleQuery) := by
    simp only [sampleVoter, if_true]
  have decoded : decodeMessage sampleVoter.py datagram.nowMs (utf8 sampleQueryText) =
      .ok queryEnvelope := by
    apply decodeMessage_eq_ok.mpr
    exact ⟨written, fits, sampleQueryText, decodeUtf8_utf8 _, sampleQuery, read, sized,
      sampleQuery_reads window⟩
  simp only [checkAppPacket, validateAppIdentity, bind_eq_ok, require_eq_ok, decide_eq_true_eq,
    exists_const]
  exact ⟨rfl, queryEnvelope, decoded, ⟨named, rfl⟩, by decide, rfl⟩

theorem voter_receives (daemon : Daemon) (data : datagram.data = queryDatagram.data)
    (window : Envelope.checkWindow 60000 datagram.nowMs = .ok ())
    (found : daemon.engine.peers.findByWireNodeId "node-b" = some peer)
    (named : peer.id = "node-b" ∧ peer.peerId = some "peer-b" ∧ peer.pubkey = some sampleKey)
    (good : ¬ BadRoute peer datagram) :
    (daemon.recv sampleVoter datagram).jobs = daemon.jobs ++
      [⟨.appRequest queryEnvelope peer datagram.ip datagram.port, datagram, daemon.engine⟩] ∧
    (daemon.recv sampleVoter datagram).engine.peers =
      (daemon.engine.recordEndpoint peer datagram).1.peers := by
  have parsed : parsePacket datagram.data = some queryPacket := by
    rw [data]
    exact queryDatagram_packet
  have derived : sampleVoter.crypto.deriveSharedKey peer.pubkey = some (.agreed sampleAgreed) := by
    rw [named.2.2]
    decide +kernel
  have decrypted : sampleVoter.crypto.decrypt queryPacket.encPayload (.agreed sampleAgreed)
      queryPacket.nonce = some (utf8 sampleQueryText) := by
    simp only [sampleVoter, queryPacket, and_self, if_true]
  have complete : peer.pubkey.getD "" ≠ "" ∧ peer.peerId.getD "" ≠ "" := by
    rw [named.2.1, named.2.2]
    decide +kernel
  have opened := openApp_opens rfl found complete derived decrypted
  have received := Daemon.recv_starts daemon (by decide +kernel) parsed (by decide +kernel) opened
    (sampleQuery_passes window ⟨named.1.symm, named.2.1.symm⟩) good (.inl rfl)
  exact ⟨received.1, received.2.1⟩

end Query

def Outcome.reachesAgent : Outcome → Bool
  | called _ (.agent _ _) => true
  | _ => false

def askedVoter : Daemon := Daemon.recv sampleVoter { engine := sampleEngine } queryDatagram

def queryJob : Job :=
  ⟨.appRequest queryEnvelope samplePeer "198.51.100.7" 47777, queryDatagram, sampleEngine⟩

theorem askedVoter_received : askedVoter.jobs = [queryJob] ∧ askedVoter.engine.peers =
    (sampleEngine.recordEndpoint samplePeer queryDatagram).1.peers := by
  have found : sampleEngine.peers.findByWireNodeId "node-b" = some samplePeer := by decide +kernel
  exact voter_receives { engine := sampleEngine } rfl (by decide +kernel) found ⟨rfl, rfl, rfl⟩
    (by decide +kernel)

theorem agent_reached_directly_once :
    ∃ done env peer, DirectRequest sampleVoter done env peer := by
  have waiting : askedVoter.jobs[0]? = some queryJob := by
    rw [askedVoter_received.1]
    rfl
  have received : (process sampleVoter {}).Step (fun _ _ => True) { engine := sampleEngine }
      askedVoter := ⟨.recv queryDatagram, trivial, rfl⟩
  have ran : (process sampleVoter {}).Step (fun _ _ => True) askedVoter _ :=
    ⟨.run 0 ⟨50, 50, 50⟩ 50, trivial, process_runs ⟨50, 50, 50⟩ 50 waiting⟩
  have run := (Relation.ReflTransGen.single received).tail ran
  have replies : (runHandler sampleVoter {} askedVoter.engine askedVoter.replay ⟨50, 50, 50⟩
      queryJob.handler).2.reachesAgent = true := by
    decide +kernel
  have reached := agent_reached_directly run _ (by rw [Daemon.run_done]; exact List.mem_cons_self)
  generalize runHandler sampleVoter {} askedVoter.engine askedVoter.replay ⟨50, 50, 50⟩
    queryJob.handler = reply at replies reached
  rcases reply with ⟨after, failure | ⟨env, call⟩ | _ | _⟩
  · cases replies
  · cases call with
    | agent source payload =>
        obtain ⟨-, peer, direct, -⟩ := reached.2 env source payload rfl
        exact ⟨_, env, peer, direct⟩
    | service name payload => cases replies
  · cases replies
  · cases replies

end Gate

end HashBurst.Tep
