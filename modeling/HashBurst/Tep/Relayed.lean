import HashBurst.Tep.Dispatches
import HashBurst.Tep.Wrapping

namespace HashBurst.Tep

open Lib Lib.Py

/-- A registered node that runs the daemon. All nodes read JSON alike. -/
structure Site (loads : String → Except LoadsError Json) where
  receiver : Receiver
  relay : RelayConfig
  endpoint : Endpoint
  own : endpoint.identity = receiver.self ∧ endpoint.pubkey = receiver.crypto.pubkey
  gcm : receiver.crypto.haveCrypto = true
  reads : receiver.py.loads = loads

/-- The daemons of the sites, and the ciphertexts that anyone has made, each with the first hop that
it forwards, if any. -/
structure RelayNet (ι : Type) where
  daemons : ι → Daemon
  made : List (Sealed × Option Done) := []

inductive RelayLabel (ι : Type)
  | step (site : ι) (label : DaemonLabel)
  | encrypt (packet : Sealed) (hop : Option Done)

variable {ι : Type} {loads : String → Except LoadsError Json}

def relayNet [DecidableEq ι] (sites : ι → Site loads) : Machine (RelayNet ι) (RelayLabel ι) where
  next net label :=
    match label with
    | .step site label =>
        ((process (sites site).receiver (sites site).relay).next (net.daemons site) label).map
          fun after => { net with daemons := Function.update net.daemons site after }
    | .encrypt packet hop => some { net with made := (packet, hop) :: net.made }

/-- What a site encrypts: its heartbeats, direct messages and relay responses, its own requests to a
rendezvous, and what its first hops forward. -/
inductive Speaks (site : Site loads) (codec : Codec) (done : List Done) :
    Option Done → Kind → Bytes → Prop
  | other {kind plain} (direct : kind ≠ .relayReq)
      (sends : Sends site.receiver.py codec site.receiver.self kind plain) :
      Speaks site codec done none kind plain
  | origin {destination stamp requestId service payload ttlMs request inner rendezvous relayStamp
      targetPeerId relayId ttl message plain}
      (requested : newRequest site.receiver.py.services site.receiver.self destination stamp
        requestId service payload ttlMs = .ok request)
      (encodedInner : encodeMessage site.receiver.py.services codec request = .ok inner)
      (readInner : ReadsBack site.receiver.py inner request)
      (built : newRelayRequest site.receiver.py.services site.receiver.self rendezvous relayStamp
        targetPeerId relayId inner ttl = .ok message)
      (encoded : encodeMessage site.receiver.py.services codec message = .ok plain)
      (read : ReadsBack site.receiver.py plain message) :
      Speaks site codec done none .relayReq plain
  | hop {entry forward stamp relayId message plain} (finished : entry ∈ done)
      (forwarded : entry.outcome = .forwarded forward)
      (built : newRelayRequest site.receiver.py.services site.receiver.self
        { nodeId := forward.target.id, peerId := forward.target.peerId.getD "" } stamp
        (forward.target.peerId.getD "") relayId forward.inner (relayTtlMs forward.budget) =
          .ok message)
      (encoded : encodeMessage site.receiver.py.services codec message = .ok plain)
      (read : ReadsBack site.receiver.py plain message) :
      Speaks site codec done (some entry) .relayReq plain

def Honestly (directory : Directory) (sites : ι → Site loads) (codec : Codec) (net : RelayNet ι)
    (packet : Sealed) (hop : Option Done) : Prop :=
  packet.producer ∈ directory.endpoints ∧ packet.recipient ∈ directory.endpoints ∧
    ((∃ site, (sites site).endpoint = packet.producer) → ∃ site,
      (sites site).endpoint = packet.producer ∧
        Speaks (sites site) codec (net.daemons site).done hop packet.kind packet.plain)

/-- Ideal AES-GCM: what a datagram opens to was encrypted before. -/
def OpensMade (directory : Directory) (node : Receiver) (made : List (Sealed × Option Done))
    (datagram : Datagram) : Prop :=
  ∀ packet ∈ parsePacket datagram.data, ∀ key plain,
    node.crypto.decrypt packet.encPayload key packet.nonce = some plain →
    ∃ sent hop, (sent, hop) ∈ made ∧ sent.encrypted = packet.encPayload ∧
      sent.nonce = packet.nonce ∧ sent.plain = plain ∧
      key = .agreed (directory.agreed s(sent.producer, sent.recipient))

/-- Runs in which anything can be sent by anyone, with the keys that they have. -/
def Possible (directory : Directory) (sites : ι → Site loads) (codec : Codec) (net : RelayNet ι) :
    RelayLabel ι → Prop
  | .step site (.recv datagram) =>
      directory.Covers (sites site).receiver (net.daemons site).engine datagram.nodes ∧
        OpensMade directory (sites site).receiver net.made datagram
  | .step _ _ => True
  | .encrypt packet hop => Honestly directory sites codec net packet hop

/-- What a first hop finds inside a relay request names the same source as the request itself. -/
def HopBound (node : Receiver) (clocks : Clocks) : Handler → Prop
  | .relayRequest env _ _ _ => relayTarget node env ≠ node.self.peerId →
      ∀ raw inner, openInner node env clocks = .ok (raw, inner) → inner.source = env.source
  | _ => True

def Bound (sites : ι → Site loads) (net : RelayNet ι) : RelayLabel ι → Prop
  | .step site (.run index clocks _) => ∀ job ∈ (net.daemons site).jobs[index]?,
      HopBound (sites site).receiver clocks job.handler
  | _ => True

/-- What a delivery finds inside, when it passes all checks before the replay cache: this is entered
in the cache, dispatched and answered. -/
def deliveryOf (node : Receiver) (relay : RelayConfig) (done : Done) : Option ValidatedEnvelope :=
  match done.job.handler with
  | .relayRequest env _ _ _ =>
      if relayTarget node env = node.self.peerId then
        (openDelivery node relay env done.clocks).toOption
      else none
  | _ => none

/-- The first hop has forwarded these bytes, after it has authenticated this identity as the sender
of the relay request that they came in. -/
structure Done.Carries (node : Receiver) (hop : Done) (raw : Bytes) (source : Identity) : Prop where
  forwarded : ∃ forward, hop.outcome = .forwarded forward ∧ forward.inner = raw
  sender : source = hop.job.handler.env.source
  peer : source.nodeId = hop.job.handler.peer.id ∧ some source.peerId = hop.job.handler.peer.peerId
  opened : ∃ packet ∈ parsePacket hop.job.datagram.data, ∃ plain,
    openApp node hop.job.engine packet = some (hop.job.handler.peer, plain)

/-- The rendezvous that a delivery came from has made its ciphertext, for a request of its own or to
forward the bytes that the delivery finds inside, and then for the hop that has authenticated their
source. -/
def Attributed (sites : ι → Site loads) (net : RelayNet ι) (reader : Receiver) (done : Done)
    (inner : ValidatedEnvelope) : Prop :=
  ∃ raw, openInner reader done.job.handler.env done.clocks = .ok (raw, inner) ∧
  ∃ site, (sites site).receiver.self = done.job.handler.env.source ∧
  ∃ packet ∈ parsePacket done.job.datagram.data, ∃ sent hop, (sent, hop) ∈ net.made ∧
    sent.producer = (sites site).endpoint ∧ sent.encrypted = packet.encPayload ∧
    sent.nonce = packet.nonce ∧
    match hop with
    | none => inner.source = (sites site).receiver.self
    | some hop => hop ∈ (net.daemons site).done ∧
        hop.Carries (sites site).receiver raw inner.source

section Reading

variable {py other : Python} {nowMs laterMs : Int} {raw : Bytes} {env again inner : ValidatedEnvelope}
  {node : Receiver} {relay : RelayConfig} {clocks : Clocks} {handler : Handler} {engine : Engine}
  {replay : ReplayCache} {forward : Forward} {message : Dict}

theorem decodeMessage_reads (decoded : decodeMessage py nowMs raw = .ok env)
    (loads : Loads py raw message) : Envelope.Reads py.services message nowMs env := by
  obtain ⟨-, -, text, utf8, own, loaded, -, reads⟩ := decodeMessage_eq_ok.mp decoded
  obtain ⟨same, utf8', loaded'⟩ := loads
  rw [Option.some.inj (utf8.symm.trans utf8'), loaded'] at loaded
  rwa [Json.obj.inj (Except.ok.inj loaded)]

theorem decodeMessage_loads (decoded : decodeMessage py nowMs raw = .ok env) :
    Loads py raw env.raw := by
  obtain ⟨-, -, text, utf8, own, loaded, -, reads⟩ := decodeMessage_eq_ok.mp decoded
  rw [reads.raw]
  exact ⟨text, utf8, loaded⟩

/-- Two readings of the same bytes give the same message and the same source. -/
theorem decodeMessage_same (same : py.loads = other.loads)
    (first : decodeMessage py nowMs raw = .ok env)
    (second : decodeMessage other laterMs raw = .ok again) :
    env.raw = again.raw ∧ env.source = again.source := by
  obtain ⟨text, utf8, loaded⟩ := decodeMessage_loads second
  rw [← same] at loaded
  have reads := decodeMessage_reads first ⟨text, utf8, loaded⟩
  obtain ⟨-, -, -, -, own, -, -, later⟩ := decodeMessage_eq_ok.mp second
  have sources := reads.source
  rw [later.raw, later.source] at sources
  exact ⟨reads.raw, (Except.ok.inj sources).symm⟩

theorem openInner_eq_ok : openInner node env clocks = .ok (raw, inner) ↔
    Base64.urlsafeDecode (nestedText node env "payload" "inner").toList = some raw ∧
      decodeMessage node.py clocks.nowMs raw = .ok inner := by
  unfold openInner
  cases Base64.urlsafeDecode (nestedText node env "payload" "inner").toList with
  | none =>
      constructor
      · intro impossible
        cases impossible
      · rintro ⟨impossible, -⟩
        cases impossible
  | some bytes =>
      simp only [Option.some.injEq]
      cases decoded : decodeMessage node.py clocks.nowMs bytes with
      | error raised =>
          constructor
          · intro impossible
            cases impossible
          · rintro ⟨rfl, impossible⟩
            rw [decoded] at impossible
            cases impossible
      | ok own =>
          constructor
          · intro opened
            cases opened
            exact ⟨rfl, decoded⟩
          · rintro ⟨rfl, again⟩
            rw [decoded] at again
            cases again
            rfl

theorem newRelayRequest_eq {services : List String} {source destination : Identity} {stamp : Stamp}
    {targetPeerId requestId : String} {bytes : Bytes} {ttlMs : Int}
    (built : newRelayRequest services source destination stamp targetPeerId requestId bytes ttlMs =
      .ok message) :
    message.get "type" = .str "relay_req" ∧ message.get "source" = source.toDict ∧
      message.getD "payload" (.obj []) = .obj [("inner", .str (b64Encode bytes))] := by
  unfold newRelayRequest at built
  split at built
  · cases built
  · rw [← checked_eq built]
    exact ⟨rfl, rfl, rfl⟩

/-- The bytes inside a relay request are those that it was built around. -/
theorem openInner_built {services : List String} {source destination : Identity} {stamp : Stamp}
    {targetPeerId requestId : String} {bytes : Bytes} {ttlMs : Int}
    (built : newRelayRequest services source destination stamp targetPeerId requestId bytes ttlMs =
      .ok message) (carries : (Json.obj env.raw).Same (.obj message))
    (opened : openInner node env clocks = .ok (raw, inner)) : raw = bytes := by
  have decoded := (openInner_eq_ok.mp opened).1
  have text : nestedText node env "payload" "inner" = b64Encode bytes := by
    have payload := same_getD carries "payload" same_empty
    rw [(newRelayRequest_eq built).2.2] at payload
    obtain ⟨fields, found, alike⟩ := same_obj payload
    have inner := same_getD alike "inner" (.str "")
    have own : Dict.getD fields "inner" (.str "") = .str (b64Encode bytes) := same_str inner
    simp only [nestedText, found, own]
    rfl
  rw [text, b64Encode, String.toList_ofList, Base64.urlsafeDecode_encode] at decoded
  exact (Option.some.inj decoded).symm

structure Plans (node : Receiver) (relay : RelayConfig) (engine : Engine) (env : ValidatedEnvelope)
    (clocks : Clocks) (inner : ValidatedEnvelope) (forward : Forward) : Prop where
  opened : openInner node env clocks = .ok (forward.inner, inner)
  request : inner.msgType = "req"
  destination : inner.destination.peerId = relayTarget node env
  authorized : (hopPolicy relay engine).authorize env.source.peerId (relayTarget node env)
    (inner.service.getD "") = .ok ()
  route : engine.routes.get (relayTarget node env) clocks.routes = .ok forward.route
  target : engine.peers.findByPeerId (relayTarget node env) = some forward.target
  keyed : forward.target.pubkey.getD "" ≠ ""
  budget : forward.budget = hopBudget env

theorem planForward_eq_ok : planForward node relay engine env clocks = .ok forward ↔
    ∃ inner, Plans node relay engine env clocks inner forward := by
  constructor
  · intro planned
    unfold planForward at planned
    split at planned
    · cases planned
    · rename_i bytes inner opened
      simp only at planned
      split at planned
      · cases planned
      · rename_i matching
        rw [not_or, not_not, not_not] at matching
        split at planned
        · cases planned
        · rename_i authorized
          split at planned
          · cases planned
          · rename_i route routed
            split at planned
            · rename_i target found
              split at planned
              · cases planned
              · rename_i keyed
                rw [← Except.ok.inj planned]
                exact ⟨inner, opened, matching.1, matching.2, authorized, routed, found, keyed, rfl⟩
            · cases planned
  · rintro ⟨inner, plans⟩
    have matching : ¬ (inner.msgType ≠ "req" ∨ inner.destination.peerId ≠ relayTarget node env) := by
      rw [not_or, not_not, not_not]
      exact ⟨plans.request, plans.destination⟩
    simp only [planForward, plans.opened, if_neg matching, plans.authorized, plans.route, plans.target,
      if_neg plans.keyed, ← plans.budget]

/-- What a first hop forwards is what it has found in its request. -/
theorem runHandler_forwarded
    (forwarded : (runHandler node relay engine replay clocks handler).2 = .forwarded forward) :
    ∃ env peer ip port inner, handler = .relayRequest env peer ip port ∧
      relayTarget node env ≠ node.self.peerId ∧ Plans node relay engine env clocks inner forward := by
  cases handler with
  | appRequest own peer ip port =>
      simp only [runHandler] at forwarded
      split at forwarded
      · cases forwarded
      · cases forwarded
  | relayRequest own peer ip port =>
      simp only [runHandler] at forwarded
      split at forwarded
      · split at forwarded
        · cases forwarded
        · cases forwarded
      · rename_i other
        split at forwarded
        · rename_i after planned hopped
          rw [Outcome.forwarded.inj forwarded] at hopped
          unfold handleFirstHop at hopped
          split at hopped
          · cases hopped
          · split at hopped
            · cases hopped
            · obtain ⟨inner, plans⟩ := planForward_eq_ok.mp (Prod.mk.inj hopped).2
              exact ⟨own, peer, ip, port, inner, rfl, other, plans⟩
        · cases forwarded

theorem runHandler_delivers {done : Done} {call : Call} (delivered : (runHandler node relay engine
      done.replay done.clocks done.job.handler).2 = .delivered inner call) :
    deliveryOf node relay done = some inner := by
  unfold deliveryOf
  cases handled : done.job.handler with
  | appRequest own peer ip port =>
      rw [handled] at delivered
      simp only [runHandler] at delivered
      split at delivered
      · cases delivered
      · cases delivered
  | relayRequest own peer ip port =>
      rw [handled] at delivered
      simp only [runHandler] at delivered
      by_cases mine : relayTarget node own = node.self.peerId
      · simp only [if_pos mine, handleRelayDelivery] at delivered ⊢
        cases passed : openDelivery node relay own done.clocks with
        | error failure =>
            simp only [passed] at delivered
            cases delivered
        | ok found =>
            simp only [passed] at delivered
            rcases asked : checkReplay done.replay found.source.peerId found.requestId
              done.clocks.replay with ⟨later, failure | entered⟩
            · simp only [asked] at delivered
              cases delivered
            · simp only [asked] at delivered
              cases reached : dispatchService node.py.services found with
              | error failure =>
                  rw [reached] at delivered
                  cases delivered
              | ok call =>
                  rw [reached] at delivered
                  cases delivered
                  rfl
      · simp only [if_neg mine] at delivered
        split at delivered
        · cases delivered
        · cases delivered

end Reading

section Invariant

variable {directory : Directory} {codec : Codec} {site : Site loads}
  {made : List (Sealed × Option Done)} {job : Job} {done finished : List Done} {packet : Packet}
  {plain : Bytes} {own endpoint : Endpoint} {sent : Sealed} {hop : Option Done}

/-- The packet of a handler was opened with the key that the node shares with a listed endpoint, and
what it carried was encrypted under this key. -/
structure Traced (directory : Directory) (site : Site loads) (made : List (Sealed × Option Done))
    (job : Job) (packet : Packet) (plain : Bytes) (own endpoint : Endpoint) (sent : Sealed)
    (hop : Option Done) : Prop where
  authentic : Authentic site.receiver job packet plain
  owns : directory.Owns site.receiver own
  listed : directory.Lists job.handler.peer.id (job.handler.peer.peerId.getD "")
    (job.handler.peer.pubkey.getD "") endpoint
  member : (sent, hop) ∈ made
  same : sent.encrypted = packet.encPayload ∧ sent.nonce = packet.nonce
  plain : sent.plain = plain
  keys : directory.agreed s(own, endpoint) = directory.agreed s(sent.producer, sent.recipient)

theorem Traced.source (traced : Traced directory site made job packet plain own endpoint sent hop) :
    job.handler.env.source = endpoint.identity := by
  have source := traced.authentic.checked.source
  rw [traced.listed.2.1]
  cases own : job.handler.env.source with
  | mk nodeId peerId =>
      rw [own] at source
      rw [← source.2, ← source.1]
      rfl

private theorem openDelivery_trusted {node : Receiver} {relay : RelayConfig}
    {env inner : ValidatedEnvelope}
    {clocks : Clocks} (passed : openDelivery node relay env clocks = .ok inner) :
    env.source.peerId ∈ relay.trustedRendezvous := by
  unfold openDelivery at passed
  split at passed
  · cases passed
  · rename_i known
    exact not_not.mp known

theorem Site.endpoint_of_owns (owns : directory.Owns site.receiver own) : site.endpoint = own := by
  cases own with
  | mk identity pubkey clean =>
      rcases whole : site.endpoint with ⟨siteIdentity, sitePubkey, siteClean⟩
      have names := site.own
      rw [whole] at names
      simp only [Endpoint.mk.injEq]
      exact ⟨names.1.trans owns.identity.symm, names.2.trans owns.pubkey.symm⟩

/-- What comes from a trusted rendezvous, or is reflected to its sender, was encrypted by a site. -/
theorem Traced.spoken {i : ι} {sites : ι → Site loads} {net : RelayNet ι}
    (traced : Traced directory (sites i) net.made job packet plain own endpoint sent hop)
    (honest : ∀ sent hop, (sent, hop) ∈ net.made → Honestly directory sites codec net sent hop)
    (trusted : ∀ endpoint ∈ directory.endpoints,
      endpoint.identity.peerId ∈ (sites i).relay.trustedRendezvous →
      ∃ rendezvous, (sites rendezvous).endpoint = endpoint)
    (known : job.handler.env.source.peerId ∈ (sites i).relay.trustedRendezvous) :
    ∃ site, (sites site).endpoint = sent.producer ∧
      Speaks (sites site) codec (net.daemons site).done hop sent.kind sent.plain := by
  obtain ⟨producing, receiving, spoken⟩ := honest sent hop traced.member
  apply spoken
  rw [traced.source] at known
  have ends := directory.keys _ traced.owns.listed _ traced.listed.1 _ producing _ receiving
    traced.keys
  rcases Sym2.eq_iff.mp ends with ⟨mine, -⟩ | ⟨-, theirs⟩
  · -- the node's own packet, reflected
    exact ⟨i, ((sites i).endpoint_of_owns traced.owns).trans mine⟩
  · rw [← theirs]
    exact trusted endpoint traced.listed.1 known

theorem Traced.grows {newer : Sealed × Option Done}
    (traced : Traced directory site made job packet plain own endpoint sent hop) :
    Traced directory site (newer :: made) job packet plain own endpoint sent hop :=
  { traced with member := List.mem_cons_of_mem _ traced.member }

theorem Speaks.grows {kind : Kind} (speaks : Speaks site codec done hop kind plain)
    (more : done ⊆ finished) : Speaks site codec finished hop kind plain := by
  cases speaks with
  | other direct sends => exact .other direct sends
  | origin requested encodedInner readInner built encoded read =>
      exact .origin requested encodedInner readInner built encoded read
  | hop member forwarded built encoded read =>
      exact .hop (more member) forwarded built encoded read

theorem Speaks.states {kind : Kind} (speaks : Speaks site codec done hop kind plain) :
    States site.receiver.py site.receiver.self kind plain := by
  cases speaks with
  | other direct sends => exact states_of_sends sends
  | origin requested encodedInner readInner built encoded read =>
      exact states_of_sends (.message (.relayRequest built) encoded read)
  | hop member forwarded built encoded read =>
      exact states_of_sends (.message (.relayRequest built) encoded read)

theorem Site.clean (site : Site loads) :
    strip site.receiver.self.nodeId = site.receiver.self.nodeId ∧
      strip site.receiver.self.peerId = site.receiver.self.peerId := by
  rw [← site.own.1]
  exact site.endpoint.clean

/-- A relay request that a site has encrypted, read by another node. -/
theorem Speaks.opened {reader : Receiver} {kind : Kind} {raw : Bytes} {nowMs : Int}
    {clocks : Clocks} {env inner : ValidatedEnvelope} (speaks : Speaks site codec done hop kind plain)
    (reads : reader.py.loads = loads) (decoded : decodeMessage reader.py nowMs plain = .ok env)
    (relayed : env.msgType = "relay_req")
    (opened : openInner reader env clocks = .ok (raw, inner)) :
    env.source = site.receiver.self ∧
      ((hop = none ∧ inner.source = site.receiver.self) ∨
      ∃ entry ∈ done, hop = some entry ∧
        ∃ forward, entry.outcome = .forwarded forward ∧ forward.inner = raw) := by
  have alike : ∀ bytes message, Loads site.receiver.py bytes message →
      Loads reader.py bytes message := by
    rintro bytes message ⟨text, utf8, loaded⟩
    rw [site.reads, ← reads] at loaded
    exact ⟨text, utf8, loaded⟩
  have carried : ∀ message, ReadsBack site.receiver.py plain message →
      (Json.obj env.raw).Same (.obj message) := by
    rintro message ⟨own, loaded, same⟩
    rw [(decodeMessage_reads decoded (alike _ _ loaded)).raw]
    exact same
  have within := (openInner_eq_ok.mp opened).2
  obtain ⟨message, read, named, -, sourced⟩ := speaks.states
  have outer := decodeMessage_reads decoded (alike _ _ read)
  have typed : kind = .relayReq := by
    apply Kind.name_injective
    have type := (msgType_eq outer.msgType).1
    rw [relayed] at type
    exact (Json.str.inj (type.symm.trans named)).symm
  have relay : kind ≠ .heartbeat := by
    rw [typed]
    decide
  refine ⟨validateIdentity_toDict site.clean (sourced relay) outer.source, ?_⟩
  cases speaks with
  | other direct sends => exact absurd typed direct
  | origin requested encodedInner readInner built encoded readOuter =>
      rw [openInner_built built (carried _ readOuter) opened] at within
      obtain ⟨own, loaded, same⟩ := readInner
      have whose := same_get same "source"
      rw [(builds_named (.request requested)).2.2] at whose
      have reads := decodeMessage_reads within (alike _ _ loaded)
      exact .inl ⟨rfl, validateIdentity_toDict site.clean whose reads.source⟩
  | hop member forwarded built encoded readOuter =>
      exact .inr ⟨_, member, rfl, _, forwarded, (openInner_built built (carried _ readOuter) opened).symm⟩

end Invariant

section Runs

variable {directory : Directory} {sites : ι → Site loads} {codec : Codec} {net after : RelayNet ι}
  {label : RelayLabel ι}

/-- Each handler is traced to a ciphertext, each ciphertext of a site to what the site speaks, and
the first hops were bound. -/
structure Tracked (directory : Directory) (sites : ι → Site loads) (codec : Codec)
    (net : RelayNet ι) : Prop where
  sound : ∀ i, (net.daemons i).Sound (sites i).receiver (sites i).relay
  jobs : ∀ i, ∀ job ∈ (net.daemons i).jobs, ∃ packet plain own endpoint sent hop,
    Traced directory (sites i) net.made job packet plain own endpoint sent hop
  done : ∀ i, ∀ done ∈ (net.daemons i).done, ∃ packet plain own endpoint sent hop,
    Traced directory (sites i) net.made done.job packet plain own endpoint sent hop
  bound : ∀ i, ∀ done ∈ (net.daemons i).done,
    HopBound (sites i).receiver done.clocks done.job.handler
  honest : ∀ sent hop, (sent, hop) ∈ net.made → Honestly directory sites codec net sent hop

theorem recv_traced {site : Site loads} {daemon : Daemon} {datagram : Datagram}
    {made : List (Sealed × Option Done)} {job : Job}
    (covers : directory.Covers site.receiver daemon.engine datagram.nodes)
    (ideal : OpensMade directory site.receiver made datagram)
    (waiting : job ∈ (daemon.recv site.receiver datagram).jobs) :
    job ∈ daemon.jobs ∨ ∃ packet plain own endpoint sent hop,
      Traced directory site made job packet plain own endpoint sent hop := by
  rcases Daemon.recv_jobs waiting with old | ⟨packet, plain, authentic, received, before⟩
  · exact .inl old
  · rw [← received, ← before] at covers
    rw [← received] at ideal
    obtain ⟨own, endpoint, owns, listed, opened⟩ := openApp_by site.gcm covers authentic.opened
    obtain ⟨sent, hop, member, encrypted, nonce, carried, keyed⟩ :=
      ideal packet authentic.parsed _ _ opened
    exact .inr ⟨packet, plain, own, endpoint, sent, hop, authentic, owns, listed, member,
      ⟨encrypted, nonce⟩, carried, Key.agreed.inj keyed⟩

theorem process_done {node : Receiver} {relay : RelayConfig} {daemon later : Daemon}
    {label : DaemonLabel} (taken : (process node relay).next daemon label = some later) :
    daemon.done ⊆ later.done := by
  cases label with
  | recv datagram =>
      rw [← Option.some.inj taken]
      exact List.Subset.refl _
  | run index clocks time =>
      obtain ⟨job, waiting, rfl⟩ := Option.map_eq_some_iff.mp taken
      rw [Daemon.run_done]
      exact List.subset_cons_self _ _
  | elsewhere engine =>
      rw [← Option.some.inj taken]
      exact List.Subset.refl _

structure Steps (directory : Directory) (site : Site loads) (made : List (Sealed × Option Done))
    (daemon later : Daemon) : Prop where
  sound : daemon.Sound site.receiver site.relay → later.Sound site.receiver site.relay
  jobs : ∀ job ∈ later.jobs, job ∈ daemon.jobs ∨ ∃ packet plain own endpoint sent hop,
    Traced directory site made job packet plain own endpoint sent hop
  done : ∀ done ∈ later.done, done ∈ daemon.done ∨
    done.job ∈ daemon.jobs ∧ HopBound site.receiver done.clocks done.job.handler
  grows : daemon.done ⊆ later.done

theorem steps_of_possible {site : ι} {daemonLabel : DaemonLabel} {later : Daemon}
    (possible : Possible directory sites codec net (.step site daemonLabel))
    (bound : Bound sites net (.step site daemonLabel))
    (taken : (process (sites site).receiver (sites site).relay).next (net.daemons site) daemonLabel =
      some later) : Steps directory (sites site) net.made (net.daemons site) later := by
  have sound : (net.daemons site).Sound (sites site).receiver (sites site).relay →
      later.Sound (sites site).receiver (sites site).relay :=
    fun before => process_sound before taken
  have grows := process_done taken
  cases daemonLabel with
  | recv datagram =>
      rw [← Option.some.inj taken] at sound grows ⊢
      refine ⟨sound, ?_, fun done finished => .inl finished, grows⟩
      intro job started
      exact recv_traced possible.1 possible.2 started
  | run index clocks time =>
      obtain ⟨job, waiting, rfl⟩ := Option.map_eq_some_iff.mp taken
      refine ⟨sound, fun other left => .inl (List.mem_of_mem_eraseIdx left), ?_, grows⟩
      intro done finished
      rw [Daemon.run_done] at finished
      rcases List.mem_cons.mp finished with rfl | old
      · exact .inr ⟨List.mem_of_getElem? waiting, bound job waiting⟩
      · exact .inl old
  | elsewhere engine =>
      rw [← Option.some.inj taken] at sound grows ⊢
      exact ⟨sound, fun job waiting => .inl waiting, fun done finished => .inl finished, grows⟩

theorem tracked_step [DecidableEq ι] (tracked : Tracked directory sites codec net)
    (possible : Possible directory sites codec net label) (bound : Bound sites net label)
    (taken : (relayNet sites).next net label = some after) :
    Tracked directory sites codec after := by
  cases label with
  | encrypt packet hop =>
      rw [← Option.some.inj taken]
      refine ⟨tracked.sound, ?_, ?_, tracked.bound, ?_⟩
      · intro i job waiting
        obtain ⟨packet, plain, own, endpoint, sent, hop, traced⟩ := tracked.jobs i job waiting
        exact ⟨packet, plain, own, endpoint, sent, hop, traced.grows⟩
      · intro i done finished
        obtain ⟨packet, plain, own, endpoint, sent, hop, traced⟩ := tracked.done i done finished
        exact ⟨packet, plain, own, endpoint, sent, hop, traced.grows⟩
      · intro sent via member
        rcases List.mem_cons.mp member with same | old
        · cases same
          exact possible
        · exact tracked.honest sent via old
  | step site daemonLabel =>
      obtain ⟨later, stepped, moved⟩ := Option.map_eq_some_iff.mp taken
      have steps := steps_of_possible possible bound stepped
      have made : after.made = net.made := by rw [← moved]
      have own : after.daemons site = later := by
        rw [← moved]
        exact Function.update_self ..
      have others : ∀ i, i ≠ site → after.daemons i = net.daemons i := by
        intro i apart
        rw [← moved]
        exact Function.update_of_ne apart ..
      refine ⟨?_, ?_, ?_, ?_, ?_⟩
      · intro i
        by_cases same : i = site
        · rw [same, own]
          exact steps.sound (tracked.sound site)
        · rw [others i same]
          exact tracked.sound i
      · intro i job waiting
        rw [made]
        by_cases same : i = site
        · rw [same, own] at waiting
          rw [same]
          rcases steps.jobs job waiting with old | traced
          · exact tracked.jobs site job old
          · exact traced
        · rw [others i same] at waiting
          exact tracked.jobs i job waiting
      · intro i done finished
        rw [made]
        by_cases same : i = site
        · rw [same, own] at finished
          rw [same]
          rcases steps.done done finished with old | ⟨waited, -⟩
          · exact tracked.done site done old
          · exact tracked.jobs site done.job waited
        · rw [others i same] at finished
          exact tracked.done i done finished
      · intro i done finished
        by_cases same : i = site
        · rw [same, own] at finished
          rw [same]
          rcases steps.done done finished with old | ⟨-, bound⟩
          · exact tracked.bound site done old
          · exact bound
        · rw [others i same] at finished
          exact tracked.bound i done finished
      · intro packet hop member
        rw [made] at member
        obtain ⟨producing, receiving, honest⟩ := tracked.honest packet hop member
        refine ⟨producing, receiving, fun some => ?_⟩
        obtain ⟨i, named, speaks⟩ := honest some
        refine ⟨i, named, ?_⟩
        by_cases same : i = site
        · rw [same] at speaks ⊢
          rw [own]
          exact speaks.grows steps.grows
        · rw [others i same]
          exact speaks

theorem Tracked.attributed (tracked : Tracked directory sites codec net)
    (trusted : ∀ i, ∀ endpoint ∈ directory.endpoints,
      endpoint.identity.peerId ∈ (sites i).relay.trustedRendezvous →
      ∃ rendezvous, (sites rendezvous).endpoint = endpoint) {i : ι} {done : Done}
    {inner : ValidatedEnvelope} (finished : done ∈ (net.daemons i).done)
    (delivered : deliveryOf (sites i).receiver (sites i).relay done = some inner) :
    Attributed sites net (sites i).receiver done inner := by
  unfold deliveryOf at delivered
  cases handled : done.job.handler with
  | appRequest env peer ip port =>
      rw [handled] at delivered
      cases delivered
  | relayRequest env peer ip port =>
      rw [handled] at delivered
      simp only [Option.ite_none_right_eq_some] at delivered
      cases passed : openDelivery (sites i).receiver (sites i).relay env done.clocks with
      | error failure =>
          rw [passed] at delivered
          cases delivered.2
      | ok found =>
          rw [passed] at delivered
          cases delivered.2
          obtain ⟨raw, opened, decoded⟩ := openDelivery_decoded passed
          obtain ⟨packet, plain, own, endpoint, sent, hop, traced⟩ := tracked.done i done finished
          obtain ⟨site, named, speaks⟩ :=
            traced.spoken tracked.honest (fun endpoint listed => trusted i endpoint listed)
              (by rw [handled]; exact openDelivery_trusted passed)
          have checked := traced.authentic.checked
          have kind := traced.authentic.kind
          rw [handled] at checked kind
          rw [← traced.plain] at checked
          obtain ⟨source, whose⟩ := speaks.opened (sites i).reads checked.decoded kind opened
          refine ⟨raw, by rw [handled]; exact opened, site, by rw [handled]; exact source.symm, packet,
            traced.authentic.parsed, sent, hop, traced.member, named.symm, traced.same.1,
            traced.same.2, ?_⟩
          rcases whose with ⟨rfl, mine⟩ | ⟨entry, ran, rfl, forward, forwarded, same⟩
          · exact mine
          · obtain ⟨hopPacket, hopPlain, _, _, _, _, hopTraced⟩ := tracked.done site entry ran
            obtain ⟨-, engine, result⟩ := (tracked.sound site).done entry ran
            obtain ⟨outer, by_, ip, port, inside, handler, other, plans⟩ :=
              runHandler_forwarded (result.trans forwarded)
            have bound := tracked.bound site entry ran
            have hopChecked := hopTraced.authentic.checked
            rw [handler] at bound hopChecked
            have loads := (sites i).reads.trans (sites site).reads.symm
            rw [← same] at decoded
            have sources : inner.source = entry.job.handler.env.source := by
              rw [handler]
              exact (decodeMessage_same loads decoded (openInner_eq_ok.mp plans.opened).2).2.trans
                (bound other _ _ plans.opened)
            refine ⟨ran, ⟨forward, forwarded, same⟩, sources, ?_, hopPacket,
              hopTraced.authentic.parsed, hopPlain, hopTraced.authentic.opened⟩
            rw [sources, handler]
            exact hopChecked.source

/-- In every run in which each first hop is bound, each request that a delivery takes up is of the
rendezvous or of the peer that the rendezvous has authenticated as the sender. -/
theorem relayed_source_authentic [DecidableEq ι] {start : RelayNet ι}
    (begins : start.made = [] ∧ ∀ i, ∃ engine, start.daemons i = { engine })
    (trusted : ∀ i, ∀ endpoint ∈ directory.endpoints,
      endpoint.identity.peerId ∈ (sites i).relay.trustedRendezvous →
      ∃ rendezvous, (sites rendezvous).endpoint = endpoint)
    (run : (relayNet sites).Run (fun net label => Possible directory sites codec net label ∧
      Bound sites net label) start net) :
    ∀ i, ∀ done ∈ (net.daemons i).done, ∀ inner,
      (∃ call, done.outcome = .delivered inner call) ∨
        deliveryOf (sites i).receiver (sites i).relay done = some inner →
      Attributed sites net (sites i).receiver done inner := by
  have tracked : Tracked directory sites codec net := by
    apply run.invariant (Tracked directory sites codec) _ _
    · intro before label after tracked met taken
      exact tracked_step tracked met.1 met.2 taken
    · refine ⟨?_, ?_, ?_, ?_, ?_⟩
      · intro i
        obtain ⟨engine, fresh⟩ := begins.2 i
        rw [fresh]
        have still : (process (sites i).receiver (sites i).relay).Run (fun _ _ => True)
            { engine } { engine } := Machine.Run.refl _
        exact process_run_sound still
      · intro i job waiting
        obtain ⟨engine, fresh⟩ := begins.2 i
        rw [fresh] at waiting
        cases waiting
      · intro i done finished
        obtain ⟨engine, fresh⟩ := begins.2 i
        rw [fresh] at finished
        cases finished
      · intro i done finished
        obtain ⟨engine, fresh⟩ := begins.2 i
        rw [fresh] at finished
        cases finished
      · intro sent hop member
        rw [begins.1] at member
        cases member
  intro i done finished inner takes
  apply tracked.attributed trusted finished
  rcases takes with ⟨call, delivered⟩ | delivered
  · obtain ⟨-, engine, ran⟩ := (tracked.sound i).done done finished
    exact runHandler_delivers (ran.trans delivered)
  · exact delivered

end Runs


/-! A relay client, which may name another peer inside its request. -/

section Sample

inductive SampleSite
  | rendezvous
  | destination
  deriving DecidableEq

def sampleEndpoint (nodeId peerId : String) (byte : UInt8)
    (clean : strip nodeId = nodeId ∧ strip peerId = peerId) : Endpoint where
  identity := { nodeId, peerId }
  pubkey := List.replicate 32 byte
  clean

def clientEndpoint : Endpoint := sampleEndpoint "node-c" "peer-c" 1 (by decide +kernel)
def victimEndpoint : Endpoint := sampleEndpoint "node-v" "peer-v" 2 (by decide +kernel)
def rendezvousEndpoint : Endpoint := sampleEndpoint "node-r" "peer-r" 4 (by decide +kernel)
def destinationEndpoint : Endpoint := sampleEndpoint "node-d" "peer-d" 8 (by decide +kernel)

inductive Writing
  | plain
  | forged
  deriving DecidableEq

variable (writing : Writing)

def innerSource : Identity :=
  if writing = .forged then victimEndpoint.identity else clientEndpoint.identity

def innerBuilt : Dict :=
  [("v", .int 1), ("type", .str "req"), ("request_id", .str "0123456789abcdef0123456789abcdef"),
    ("source", (innerSource writing).toDict), ("destination", destinationEndpoint.identity.toDict),
    ("service", .str "storage.summary"), ("timestamp_ms", .int 60000),
    ("nonce", .str "fedcba9876543210fedcba9876543210"), ("ttl_ms", .int 1200), ("payload", .obj [])]

def innerMessage : Dict :=
  [("destination", destinationEndpoint.identity.toDict),
    ("nonce", .str "fedcba9876543210fedcba9876543210"), ("payload", .obj []),
    ("request_id", .str "0123456789abcdef0123456789abcdef"), ("service", .str "storage.summary"),
    ("source", (innerSource writing).toDict), ("timestamp_ms", .int 60000), ("ttl_ms", .int 1200),
    ("type", .str "req"), ("v", .int 1)]

@[irreducible] def innerText : String := String.ofList (JsonText.dumps (.obj (innerBuilt writing)))

/-- Who sends a relay request to whom: the client to the rendezvous, or the rendezvous to the
destination. -/
def hopEnds (second : Bool) : Identity × Identity :=
  if second then (rendezvousEndpoint.identity, destinationEndpoint.identity)
  else (clientEndpoint.identity, rendezvousEndpoint.identity)

variable (second : Bool)

def hopStamp : Stamp := ⟨60000, "ffeeddccbbaa99887766554433221100"⟩

def relayId : String := "00112233445566778899aabbccddeeff"

def relayBuilt : Dict :=
  requestAround (hopEnds second).1 (hopEnds second).2 hopStamp "peer-d" relayId 2500
    (utf8 (innerText writing))

def relayMessage : Dict :=
  [("destination", (hopEnds second).2.toDict), ("nonce", .str "ffeeddccbbaa99887766554433221100"),
    ("payload", .obj [("inner", .str (b64Encode (utf8 (innerText writing))))]),
    ("relay_target", .obj [("peer_id", .str "peer-d")]),
    ("request_id", .str "00112233445566778899aabbccddeeff"), ("source", (hopEnds second).1.toDict),
    ("timestamp_ms", .int 60000), ("ttl_ms", .int 2500), ("type", .str "relay_req"), ("v", .int 1)]

@[irreducible] def relayText : String := String.ofList (JsonText.dumps (.obj (relayBuilt writing second)))

def relayPython : Python :=
  textPython sampleReceiver.py.conv { nesting := 100 } (fun _ => .error .decode) ["storage.summary"]

def relayCodec : Codec := textCodec fun _ => []

section Json

open JsonText

theorem toDict_sorted (identity : Identity) : sortKeys identity.toDict = identity.toDict := by
  simp [sortKeys, sortValues, Identity.toDict, List.insertionSort]

private theorem innerBuilt_sorted :
    sortKeys (.obj (innerBuilt writing)) = .obj (innerMessage writing) := by
  simp [sortKeys, sortValues, innerBuilt, innerMessage, toDict_sorted, List.insertionSort,
    List.orderedInsert]

theorem relayBuilt_sorted :
    sortKeys (.obj (relayBuilt writing second)) = .obj (relayMessage writing second) := by
  simp [sortKeys, sortValues, relayBuilt, requestAround, relayMessage, toDict_sorted, hopStamp,
    relayId, List.insertionSort, List.orderedInsert]

theorem innerBuilt_fits : Fits { nesting := 100 } 100 (.obj (innerBuilt writing)) := by
  have empty : Fits { nesting := 100 } 99 (.obj []) :=
    .obj List.nodup_nil fun _ none => absurd none List.not_mem_nil
  apply Fits.obj
  · change ["v", "type", "request_id", "source", "destination", "service", "timestamp_ms", "nonce",
      "ttl_ms", "payload"].Nodup
    decide
  · unfold innerBuilt
    simp only [List.forall_mem_cons]
    exact ⟨.int (by decide), .str _, .str _, identity_fits _, identity_fits _, .str _,
      .int (by decide), .str _, .int (by decide), empty, fun _ none => absurd none List.not_mem_nil⟩

theorem relayBuilt_fits : Fits { nesting := 100 } 100 (.obj (relayBuilt writing second)) := by
  have roomy : Roomy { nesting := 100 } hopStamp := ⟨by decide, by decide, by decide⟩
  exact request_fits roomy (by decide)

theorem relayPython_loads {message sorted : Dict} (fits : Fits { nesting := 100 } 100 (.obj message))
    (same : sortKeys (.obj message) = .obj sorted) :
    relayPython.loads (String.ofList (dumps (.obj message))) = .ok (.obj sorted) := by
  have read : loads { nesting := 100 } (dumps (.obj message)) = .ok (sortKeys (.obj message)) :=
    loads_dumps fits
  rw [same] at read
  simp only [relayPython, textPython, String.toList_ofList, read]

private theorem innerText_loads :
    relayPython.loads (innerText writing) = .ok (.obj (innerMessage writing)) := by
  rw [innerText]
  exact relayPython_loads (innerBuilt_fits writing) (innerBuilt_sorted writing)

theorem relayText_loads :
    relayPython.loads (relayText writing second) = .ok (.obj (relayMessage writing second)) := by
  rw [relayText]
  exact relayPython_loads (relayBuilt_fits writing second) (relayBuilt_sorted writing second)

private theorem relayBuilt_readsBack :
    ReadsBack relayPython (utf8 (relayText writing second)) (relayBuilt writing second) := by
  have same := sortKeys_same (relayBuilt_fits writing second)
  rw [relayBuilt_sorted] at same
  exact ⟨_, ⟨_, decodeUtf8_utf8 _, relayText_loads writing second⟩, same⟩

theorem innerText_length : (utf8 (innerText writing)).length = 290 := by
  have counted : bytesOf (write (.obj (innerBuilt writing))) = 290 := by
    cases writing <;> decide +kernel
  rw [innerText, utf8_length, bytesOf_dumps (innerBuilt_fits writing), counted]

theorem relayText_length : (utf8 (relayText writing second)).length = 702 := by
  rw [relayText, utf8_length, bytesOf_dumps (relayBuilt_fits writing second), relayBuilt,
    request_bytes, innerText_length]
  cases second <;> decide +kernel

end Json

def innerEnvelope : ValidatedEnvelope where
  raw := innerMessage writing
  version := 1
  msgType := "req"
  requestId := "0123456789abcdef0123456789abcdef"
  source := innerSource writing
  destination := destinationEndpoint.identity
  service := some "storage.summary"
  timestampMs := 60000
  nonce := "fedcba9876543210fedcba9876543210"
  ttlMs := some 1200

def relayEnvelope : ValidatedEnvelope where
  raw := relayMessage writing second
  version := 1
  msgType := "relay_req"
  requestId := "00112233445566778899aabbccddeeff"
  source := (hopEnds second).1
  destination := (hopEnds second).2
  service := none
  timestampMs := 60000
  nonce := "ffeeddccbbaa99887766554433221100"
  ttlMs := some 2500

theorem innerMessage_reads : Envelope.Reads ["storage.summary"] (innerMessage writing) 60000
    (innerEnvelope writing) where
  raw := rfl
  version := by cases writing <;> decide
  msgType := by cases writing <;> decide
  requestId := hexField_reads rfl (by cases writing <;> decide) (by cases writing <;> decide)
  source := by cases writing <;> decide
  destination := by cases writing <;> decide
  nonce := hexField_reads rfl (by cases writing <;> decide) (by cases writing <;> decide)
  timestampMs := by cases writing <;> decide
  window := by cases writing <;> decide
  service := by cases writing <;> decide
  ttlMs := by cases writing <;> decide
  payload := by cases writing <;> decide
  error := by cases writing <;> decide
  response := by cases writing <;> decide
  relay := by cases writing <;> decide

theorem relayMessage_reads : Envelope.Reads ["storage.summary"] (relayMessage writing second) 60000
    (relayEnvelope writing second) where
  raw := rfl
  version := by cases writing <;> cases second <;> decide
  msgType := by cases writing <;> cases second <;> decide
  requestId := by
    apply hexField_reads rfl
    · cases writing <;> cases second <;> decide
    · cases writing <;> cases second <;> decide
  source := by cases writing <;> cases second <;> decide
  destination := by cases writing <;> cases second <;> decide
  nonce := by
    apply hexField_reads rfl
    · cases writing <;> cases second <;> decide
    · cases writing <;> cases second <;> decide
  timestampMs := by cases writing <;> cases second <;> decide
  window := by cases writing <;> cases second <;> decide
  service := by cases writing <;> cases second <;> decide
  ttlMs := by cases writing <;> cases second <;> decide
  payload := by cases writing <;> cases second <;> decide
  error := by cases writing <;> cases second <;> decide
  response := by cases writing <;> cases second <;> decide
  relay := by
    have some : utf8 (innerText writing) ≠ [] :=
      List.ne_nil_of_length_pos (by rw [innerText_length]; decide)
    have filled := encode_filled some
    have target : requireNonemptyStr [("peer_id", .str "peer-d")] "peer_id" 256 = .ok "peer-d" := by
      decide
    have whole : requireDict ((relayMessage writing second).get "relay_target") "relay_target" =
      .ok [("peer_id", .str "peer-d")] := rfl
    have payload : (relayMessage writing second).get "payload" =
      .obj [("inner", .str (b64Encode (utf8 (innerText writing))))] := rfl
    have type : (relayEnvelope writing second).msgType = "relay_req" := rfl
    simp only [Envelope.checkRelay, type, true_or, if_true, whole, payload, bind_eq_ok]
    exact ⟨_, rfl, _, target, (), rfl, require_eq_ok.mpr (decide_eq_true filled)⟩

theorem innerText_sized {message : Dict} (type : message.get "type" = .str "req") :
    sizeOk message (utf8 (innerText writing)) = true := by
  have limit : maxSizeForType "req" = 8192 := by decide
  rw [sizeOk, type]
  simp only [limit, innerText_length, decide_eq_true_eq]
  decide

theorem relayText_sized {message : Dict} (type : message.get "type" = .str "relay_req") :
    sizeOk message (utf8 (relayText writing second)) = true := by
  have limit : maxSizeForType "relay_req" = 8192 := by decide
  rw [sizeOk, type]
  simp only [limit, relayText_length, decide_eq_true_eq]
  decide

theorem innerMessage_decodes (py : Python) (reads : py.loads = relayPython.loads)
    (served : py.services = ["storage.summary"]) :
    decodeMessage py 60000 (utf8 (innerText writing)) = .ok (innerEnvelope writing) := by
  have long := innerText_length writing
  apply decodeMessage_eq_ok.mpr
  rw [reads, served]
  exact ⟨List.ne_nil_of_length_pos (by omega), (by simp only [maxGenericBytes]; omega), _,
    decodeUtf8_utf8 _, _, innerText_loads writing, innerText_sized writing rfl,
    innerMessage_reads writing⟩

theorem relayMessage_decodes (py : Python) (reads : py.loads = relayPython.loads)
    (served : py.services = ["storage.summary"]) :
    decodeMessage py 60000 (utf8 (relayText writing second)) = .ok (relayEnvelope writing second) := by
  have long := relayText_length writing second
  apply decodeMessage_eq_ok.mpr
  rw [reads, served]
  exact ⟨List.ne_nil_of_length_pos (by omega), (by simp only [maxGenericBytes]; omega), _,
    decodeUtf8_utf8 _, _, relayText_loads writing second, relayText_sized writing second rfl,
    relayMessage_reads writing second⟩

def hexKey (byte : String) : String := String.join (List.replicate 32 byte)

def relaySealed : Sealed where
  producer := if second then rendezvousEndpoint else clientEndpoint
  recipient := if second then destinationEndpoint else rendezvousEndpoint
  kind := .relayReq
  nonce := packNonce 60 (if second then 2 else 1)
  plain := utf8 (relayText writing second)
  encrypted := if second then [2] else [1]

/-- The node that the packet is for, with the keys of its peers. -/
def relayReceiver : Receiver where
  self := (hopEnds second).2
  crypto :=
    { pubkey := (relaySealed writing second).recipient.pubkey
      exchange := (relaySealed writing second).recipient.exchanges
      decrypt payload key nonce :=
        if payload = (relaySealed writing second).encrypted ∧
            nonce = (relaySealed writing second).nonce ∧
            key = .agreed (sampleAgreement s((relaySealed writing second).recipient,
              (relaySealed writing second).producer)) then
          some (utf8 (relayText writing second))
        else none }
  py := relayPython

def relaySite : SampleSite → Site relayPython.loads
  | .rendezvous =>
      { receiver := relayReceiver writing false
        relay := { relayEnabled := true, relayClients := ["peer-c"] }
        endpoint := rendezvousEndpoint
        own := ⟨rfl, rfl⟩
        gcm := rfl
        reads := rfl }
  | .destination =>
      { receiver := relayReceiver writing true
        relay := { trustedRendezvous := ["peer-r"] }
        endpoint := destinationEndpoint
        own := ⟨rfl, rfl⟩
        gcm := rfl
        reads := rfl }

def clientPeer : Peer :=
  { id := "node-c", ip := "198.51.100.1", port := 47777, peerId := some "peer-c",
    pubkey := some (hexKey "01") }

def rendezvousPeer : Peer :=
  { id := "node-r", ip := "198.51.100.3", port := 47777, peerId := some "peer-r",
    pubkey := some (hexKey "04") }

def destinationPeer : Peer :=
  { id := "node-d", ip := "198.51.100.4", port := 47777, peerId := some "peer-d",
    pubkey := some (hexKey "08") }

def destinationRoute : ObservedEndpoint :=
  { peerId := "peer-d", ip := "198.51.100.4", port := 47777, lastSeen := 50,
    pubkey := hexKey "08" }

def relayEngine : SampleSite → Engine
  | .rendezvous =>
      { peers := (Table.empty.upsert clientPeer (fun old => old) (Table.key_kept Peer.id)).upsert
          destinationPeer (fun old => old) (Table.key_kept Peer.id)
        routes := Table.empty.upsert destinationRoute fun old => old }
  | .destination =>
      { peers := Table.empty.upsert rendezvousPeer (fun old => old) (Table.key_kept Peer.id) }

def relayPacket : Packet :=
  if second then ⟨tepVersion, pktRelayRequest, "node-r", packNonce 60 2, [2]⟩
  else ⟨tepVersion, pktRelayRequest, "node-c", packNonce 60 1, [1]⟩

def relayDatagram : Datagram where
  data := (buildPacket (if second then "node-r" else "node-c") pktRelayRequest
    (packNonce 60 (if second then 2 else 1)) (if second then [2] else [1])).getD []
  ip := if second then "198.51.100.3" else "198.51.100.1"
  port := 47777
  time := 60
  monotonic := 60

theorem relayDatagram_packet : parsePacket (relayDatagram second).data = some (relayPacket second) := by
  cases second <;> decide

def relayPeer : Peer := if second then rendezvousPeer else clientPeer

def receivingSite : SampleSite := if second then .destination else .rendezvous

theorem relaySite_receiver :
    (relaySite writing (receivingSite second)).receiver = relayReceiver writing second := by
  cases second <;> rfl

private theorem relayEngine_found : (relayEngine (receivingSite second)).peers.findByWireNodeId
    (relayPacket second).nodeId = some (relayPeer second) := by
  cases second <;> decide

theorem relayPacket_opens : openApp (relayReceiver writing second)
    (relayEngine (receivingSite second)) (relayPacket second) =
      some (relayPeer second, utf8 (relayText writing second)) := by
  have complete : (relayPeer second).pubkey.getD "" ≠ "" ∧ (relayPeer second).peerId.getD "" ≠ "" := by
    cases second <;> decide +kernel
  have derived : (relayReceiver writing second).crypto.deriveSharedKey (relayPeer second).pubkey =
      some (.agreed (sampleAgreement s((relaySealed writing second).recipient,
        (relaySealed writing second).producer))) := by
    cases writing <;> cases second <;> decide +kernel
  have decrypted : (relayReceiver writing second).crypto.decrypt (relayPacket second).encPayload
      (.agreed (sampleAgreement s((relaySealed writing second).recipient,
        (relaySealed writing second).producer))) (relayPacket second).nonce =
        some (utf8 (relayText writing second)) := by
    have same : (relayPacket second).encPayload = (relaySealed writing second).encrypted ∧
        (relayPacket second).nonce = (relaySealed writing second).nonce := by
      cases second <;> exact ⟨rfl, rfl⟩
    simp only [relayReceiver, same, and_self, if_true]
  exact openApp_opens rfl (relayEngine_found second) complete derived decrypted

theorem relayPacket_passes : checkAppPacket (relayReceiver writing second) (relayPacket second)
    (relayDatagram second) (relayPeer second) (utf8 (relayText writing second)) =
      .ok (relayEnvelope writing second) := by
  have at60 : (relayDatagram second).nowMs = 60000 := by cases second <;> decide +kernel
  have version : (relayPacket second).version = tepVersion := by cases second <;> rfl
  have source : (relayEnvelope writing second).source.nodeId = (relayPeer second).id ∧
      some (relayEnvelope writing second).source.peerId = (relayPeer second).peerId := by
    cases second <;> exact ⟨rfl, rfl⟩
  have type : some (relayEnvelope writing second).msgType = expectedType (relayPacket second).type := by
    cases writing <;> cases second <;> decide +kernel
  simp only [checkAppPacket, validateAppIdentity, bind_eq_ok, require_eq_ok, decide_eq_true_eq,
    exists_const, at60]
  exact ⟨version, _, relayMessage_decodes writing second _ rfl rfl, ⟨source, rfl⟩, type, rfl⟩

def relayJob : Job where
  handler := .relayRequest (relayEnvelope writing second) (relayPeer second) (relayDatagram second).ip
    (relayDatagram second).port
  datagram := relayDatagram second
  engine := relayEngine (receivingSite second)

def relayAsked : Daemon :=
  Daemon.recv (relayReceiver writing second) { engine := relayEngine (receivingSite second) }
    (relayDatagram second)

theorem relayAsked_starts : (relayAsked writing second).jobs = [relayJob writing second] ∧
    (relayAsked writing second).engine.peers = ((relayEngine (receivingSite second)).recordEndpoint
      (relayPeer second) (relayDatagram second)).1.peers ∧
    (relayAsked writing second).engine.routes = ((relayEngine (receivingSite second)).recordEndpoint
      (relayPeer second) (relayDatagram second)).1.routes := by
  have ready : (relayReceiver writing second).appReady = true := by
    cases writing <;> cases second <;> decide
  have app : (relayPacket second).type ∈ appPacketTypes := by cases second <;> decide
  have good : ¬ BadRoute (relayPeer second) (relayDatagram second) := by
    cases second <;> decide
  have started : startedBy (relayDatagram second) (relayEnvelope writing second) (relayPeer second) =
      (relayJob writing second).handler := by
    cases second <;> rfl
  have received := Daemon.recv_starts { engine := relayEngine (receivingSite second) } ready
    (relayDatagram_packet second) app (relayPacket_opens writing second)
    (relayPacket_passes writing second) good (.inr rfl)
  rw [started] at received
  dsimp only at received
  rw [List.nil_append] at received
  exact received

def relayForward : Forward where
  target := destinationPeer
  inner := utf8 (innerText writing)
  route := destinationRoute
  budget := 5 / 2

def atSixty : Clocks := { wall := 60, replay := 60 }

theorem relayEnvelope_inner (py : Python) (reads : py.loads = relayPython.loads)
    (served : py.services = ["storage.summary"]) (node : Receiver) (own : node.py = py) :
    openInner node (relayEnvelope writing second) atSixty =
      .ok (utf8 (innerText writing), innerEnvelope writing) := by
  have text : nestedText node (relayEnvelope writing second) "payload" "inner" =
      b64Encode (utf8 (innerText writing)) := rfl
  have at60 : atSixty.nowMs = 60000 := by decide +kernel
  apply openInner_eq_ok.mpr
  rw [text, b64Encode, String.toList_ofList, Base64.urlsafeDecode_encode, at60, own]
  exact ⟨rfl, innerMessage_decodes writing py reads served⟩

theorem atSixty_new (peerId requestId : String) (named : strip peerId ≠ "")
    (hex : isHex requestId requestIdHexLen = true) :
    (checkReplay replayCache peerId requestId 60).2 = .ok () := by
  have formed : ¬ (strip peerId = "" ∨ !isHex requestId requestIdHexLen) := by
    rw [hex]
    simpa using named
  rw [checkReplay, if_neg formed]
  rfl

theorem relayFirst_forwards : (runHandler (relayReceiver writing false)
    (relaySite writing (receivingSite false)).relay (relayAsked writing false).engine replayCache atSixty
    (relayJob writing false).handler).2 = .forwarded (relayForward writing) := by
  obtain ⟨-, peers, routes⟩ := relayAsked_starts writing false
  have target : relayTarget (relayReceiver writing false) (relayEnvelope writing false) = "peer-d" := rfl
  have other : "peer-d" ≠ (relayReceiver writing false).self.peerId := by
    cases writing <;> decide +kernel
  have client : ¬ (!(relaySite writing (receivingSite false)).relay.relayEnabled ∨
      (relayEnvelope writing false).source.peerId ∉ (relaySite writing (receivingSite false)).relay.relayClients) := by
    cases writing <;> decide +kernel
  have plans : Plans (relayReceiver writing false) (relaySite writing (receivingSite false)).relay
      (relayAsked writing false).engine (relayEnvelope writing false) atSixty (innerEnvelope writing)
      (relayForward writing) := by
    refine ⟨relayEnvelope_inner writing false _ rfl rfl _ rfl, rfl, rfl, ?_, ?_, ?_, ?_, ?_⟩
    · rw [target, RelayPolicy.authorize]
      simp only [hopPolicy, registeredTargets, peers]
      cases writing <;> decide +kernel
    · rw [target, routes]
      cases writing <;> decide +kernel
    · rw [target, peers]
      cases writing <;> decide +kernel
    · cases writing <;> decide +kernel
    · cases writing <;> decide +kernel
  have planned := planForward_eq_ok.mpr ⟨_, plans⟩
  have new := atSixty_new (relayEnvelope writing false).source.peerId
    (relayEnvelope writing false).requestId (by cases writing <;> decide +kernel)
    (by cases writing <;> decide +kernel)
  simp only [relayJob, runHandler, target, if_neg other, handleFirstHop, if_neg client]
  rcases asked : checkReplay replayCache (relayEnvelope writing false).source.peerId
    (relayEnvelope writing false).requestId atSixty.replay with ⟨cache, failure | ⟨⟩⟩
  · rw [show atSixty.replay = 60 from rfl] at asked
    rw [asked] at new
    cases new
  · simp only [planned]

theorem relaySecond_delivers (engine : Engine) : (runHandler (relayReceiver writing true)
    (relaySite writing (receivingSite true)).relay engine replayCache atSixty
    (relayJob writing true).handler).2 =
      .delivered (innerEnvelope writing) (.service "storage.summary" []) := by
  have target : relayTarget (relayReceiver writing true) (relayEnvelope writing true) =
      (relayReceiver writing true).self.peerId := rfl
  have trusted : ¬ (relayEnvelope writing true).source.peerId ∉
      (relaySite writing (receivingSite true)).relay.trustedRendezvous := by
    cases writing <;> decide +kernel
  have opened := relayEnvelope_inner writing true (relayReceiver writing true).py rfl rfl
    (relayReceiver writing true) rfl
  have request : ¬ (innerEnvelope writing).msgType ≠ "req" := not_not.mpr rfl
  have destination : ¬ (innerEnvelope writing).destination ≠ (relayReceiver writing true).self :=
    not_not.mpr rfl
  have passed : openDelivery (relayReceiver writing true) (relaySite writing (receivingSite true)).relay
      (relayEnvelope writing true) atSixty = .ok (innerEnvelope writing) := by
    simp only [openDelivery, if_neg trusted, opened, if_neg request, if_neg destination]
  have new := atSixty_new (innerEnvelope writing).source.peerId (innerEnvelope writing).requestId
    (by cases writing <;> decide +kernel) (by cases writing <;> decide +kernel)
  have dispatched : dispatchService (relayReceiver writing true).py.services (innerEnvelope writing) =
      .ok (.service "storage.summary" []) := rfl
  simp only [relayJob, runHandler, if_pos target, handleRelayDelivery, passed]
  rcases asked : checkReplay replayCache (innerEnvelope writing).source.peerId
    (innerEnvelope writing).requestId atSixty.replay with ⟨cache, failure | ⟨⟩⟩
  · rw [show atSixty.replay = 60 from rfl] at asked
    rw [asked] at new
    cases new
  · simp only [dispatched]
    rfl

def sampleDaemons (first second : Daemon) : SampleSite → Daemon
  | .rendezvous => first
  | .destination => second

private theorem update_rendezvous (first second later : Daemon) :
    Function.update (sampleDaemons first second) .rendezvous later = sampleDaemons later second := by
  funext site
  cases site with
  | rendezvous => exact Function.update_self ..
  | destination => exact Function.update_of_ne (by decide) ..

private theorem update_destination (first second later : Daemon) :
    Function.update (sampleDaemons first second) .destination later = sampleDaemons first later := by
  funext site
  cases site with
  | rendezvous => exact Function.update_of_ne (by decide) ..
  | destination => exact Function.update_self ..

def relayDirectory : Directory where
  endpoints := [clientEndpoint, victimEndpoint, rendezvousEndpoint, destinationEndpoint]
  agreed := sampleAgreement
  ids := by decide +kernel
  keys := by decide +kernel

def relayRan : Daemon :=
  (relayAsked writing second).run (relayReceiver writing second)
    (relaySite writing (receivingSite second)).relay 0 (relayJob writing second) atSixty 60

theorem relayReceiver_owned : relayDirectory.Owns (relayReceiver writing second)
    (relaySealed writing second).recipient where
  listed := by cases writing <;> cases second <;> decide +kernel
  identity := by cases second <;> rfl
  pubkey := rfl
  exchange := by
    intro other _ digest exchanged
    have agreed := (relaySealed writing second).recipient.exchanges_agreed other
    exact Option.some.inj (exchanged.symm.trans agreed)

theorem relayEngine_covers : relayDirectory.Covers (relayReceiver writing second)
    (relayEngine (receivingSite second)) none where
  self := ⟨_, relayReceiver_owned writing second⟩
  peers := by
    have listed : ∀ peer ∈ [clientPeer, destinationPeer, rendezvousPeer], ∃ endpoint,
        relayDirectory.Lists peer.id (peer.peerId.getD "") (peer.pubkey.getD "") endpoint := by
      intro peer member
      simp only [List.mem_cons, List.not_mem_nil, or_false] at member
      rcases member with rfl | rfl | rfl
      · exact ⟨clientEndpoint, by decide +kernel, rfl, by decide +kernel⟩
      · exact ⟨destinationEndpoint, by decide +kernel, rfl, by decide +kernel⟩
      · exact ⟨rendezvousEndpoint, by decide +kernel, rfl, by decide +kernel⟩
    intro peer member _ _
    apply listed peer
    revert peer
    cases second <;> decide +kernel
  named := by
    intro id identity named
    cases named

theorem relaySealed_opens {made : List (Sealed × Option Done)} {hop : Option Done}
    (sent : (relaySealed writing second, hop) ∈ made) :
    OpensMade relayDirectory (relayReceiver writing second) made (relayDatagram second) := by
  intro packet parsed key plain decrypted
  rw [relayDatagram_packet] at parsed
  rw [← Option.some.inj parsed] at decrypted ⊢
  simp only [relayReceiver, Option.ite_none_right_eq_some] at decrypted
  obtain ⟨⟨encrypted, nonce, keyed⟩, same⟩ := decrypted
  refine ⟨_, hop, sent, encrypted.symm, nonce.symm, Option.some.inj same, ?_⟩
  rw [keyed, Sym2.eq_swap]
  rfl

theorem relaySealed_client {net : RelayNet SampleSite} :
    Honestly relayDirectory (relaySite writing) relayCodec net (relaySealed writing false) none := by
  refine ⟨by cases writing <;> decide, by cases writing <;> decide, ?_⟩
  rintro ⟨site, same⟩
  have apart : rendezvousEndpoint ≠ clientEndpoint ∧ destinationEndpoint ≠ clientEndpoint := by
    decide
  cases site with
  | rendezvous => exact absurd same apart.1
  | destination => exact absurd same apart.2

def relayDone : Done where
  job := relayJob writing second
  replay := replayCache
  clocks := atSixty
  outcome := (runHandler (relayReceiver writing second)
    (relaySite writing (receivingSite second)).relay (relayAsked writing second).engine replayCache
    atSixty (relayJob writing second).handler).2
  recorded := (relayAsked writing second).record.length

theorem relayRan_done : (relayRan writing second).done = [relayDone writing second] := by
  have cache : (relayAsked writing second).replay = replayCache := Daemon.recv_replay ..
  have none : (relayAsked writing second).done = [] := Daemon.recv_done ..
  rw [relayRan, Daemon.run_done, cache, none]
  rfl

theorem relayForward_built : newRelayRequest ["storage.summary"] rendezvousEndpoint.identity
    { nodeId := (relayForward writing).target.id
      peerId := (relayForward writing).target.peerId.getD "" } hopStamp
    ((relayForward writing).target.peerId.getD "") relayId (relayForward writing).inner
    (relayTtlMs (relayForward writing).budget) = .ok (relayBuilt writing true) ∧
    ∃ env, validateUntimed ["storage.summary"] (relayBuilt writing true) = .ok env := by
  have long := innerText_length writing
  have ttl : relayTtlMs (relayForward writing).budget = 2500 := by cases writing <;> decide +kernel
  have accepts : (newRelayRequest ["storage.summary"] rendezvousEndpoint.identity
      destinationEndpoint.identity hopStamp "peer-d" relayId [1] 2500).isOk = true := by
    decide +kernel
  obtain ⟨sample, outer⟩ := exists_of_isOk accepts
  have any := newRelayRequest_any ⟨_, sample, outer⟩
    (List.ne_nil_of_length_pos (by rw [long]; decide)) (by rw [long]; decide)
  rw [ttl]
  exact any

private theorem relayForward_encoded : encodeMessage ["storage.summary"] relayCodec
    (relayBuilt writing true) = .ok (utf8 (relayText writing true)) := by
  have written : relayCodec.compact (relayBuilt writing true) = utf8 (relayText writing true) := by
    simp only [relayText, relayCodec, textCodec]
  have sized : sizeOk (relayBuilt writing true) (utf8 (relayText writing true)) = true :=
    relayText_sized writing true rfl
  rw [← written] at sized ⊢
  exact encodeMessage_eq_ok.mpr ⟨(relayForward_built writing).2, sized, rfl⟩

theorem relaySealed_hop {destination : Daemon} {made : List (Sealed × Option Done)} :
    Honestly relayDirectory (relaySite writing) relayCodec
      ⟨sampleDaemons (relayRan writing false) destination, made⟩ (relaySealed writing true)
      (some (relayDone writing false)) := by
  have finished : relayDone writing false ∈ (relayRan writing false).done := by
    rw [relayRan_done]
    exact List.mem_singleton_self _
  have forwarded : (relayDone writing false).outcome = .forwarded (relayForward writing) := by
    dsimp only [relayDone]
    exact relayFirst_forwards writing
  have speaks : Speaks (relaySite writing .rendezvous) relayCodec (relayRan writing false).done
      (some (relayDone writing false)) .relayReq (utf8 (relayText writing true)) :=
    .hop finished forwarded (relayForward_built writing).1 (relayForward_encoded writing)
      (relayBuilt_readsBack writing true)
  refine ⟨?_, ?_, fun _ => ⟨.rendezvous, ?_, ?_⟩⟩
  · cases writing <;> decide
  · cases writing <;> decide
  · rfl
  · dsimp only [sampleDaemons, relaySealed]
    exact speaks

private theorem relayAsked_waits :
    (relayAsked writing second).jobs[0]? = some (relayJob writing second) := by
  rw [(relayAsked_starts writing second).1]
  rfl

def relayStart : RelayNet SampleSite where
  daemons := sampleDaemons { engine := relayEngine .rendezvous } { engine := relayEngine .destination }

def relayEnd : RelayNet SampleSite where
  daemons := sampleDaemons (relayRan writing false) (relayRan writing true)
  made := [(relaySealed writing true, some (relayDone writing false)),
    (relaySealed writing false, none)]

theorem relayEnd_run (allowed : RelayNet SampleSite → RelayLabel SampleSite → Prop)
    (meets : ∀ net label, Possible relayDirectory (relaySite writing) relayCodec net label →
      (∀ site index clocks time, label = .step site (.run index clocks time) → clocks = atSixty ∧
        ∃ hop, site = receivingSite hop ∧ (net.daemons site).jobs[index]? =
          some (relayJob writing hop)) →
      allowed net label) :
    (relayNet (relaySite writing)).Run allowed relayStart (relayEnd writing) := by
  have encrypts : ∀ net packet hop,
      Honestly relayDirectory (relaySite writing) relayCodec net packet hop →
      (relayNet (relaySite writing)).Step allowed net
        { net with made := (packet, hop) :: net.made } := by
    intro net packet hop honest
    refine ⟨.encrypt packet hop, meets net _ honest ?_, rfl⟩
    intro site index clocks time impossible
    cases impossible
  have receives : ∀ net hop via, net.daemons (receivingSite hop) =
        { engine := relayEngine (receivingSite hop) } → (relaySealed writing hop, via) ∈ net.made →
      (relayNet (relaySite writing)).Step allowed net { net with
        daemons := Function.update net.daemons (receivingSite hop) (relayAsked writing hop) } := by
    intro net hop via fresh sent
    refine ⟨.step (receivingSite hop) (.recv (relayDatagram hop)), meets net _ ⟨?_, ?_⟩ ?_, ?_⟩
    · rw [relaySite_receiver, fresh]
      exact relayEngine_covers writing hop
    · rw [relaySite_receiver]
      exact relaySealed_opens writing hop sent
    · intro site index clocks time impossible
      cases impossible
    · simp only [relayNet, relaySite_receiver, fresh, process_receives, Option.map_some]
      rfl
  have runs : ∀ net hop, net.daemons (receivingSite hop) = relayAsked writing hop →
      (relayNet (relaySite writing)).Step allowed net { net with
        daemons := Function.update net.daemons (receivingSite hop) (relayRan writing hop) } := by
    intro net hop asked
    have waits := relayAsked_waits writing hop
    refine ⟨.step (receivingSite hop) (.run 0 atSixty 60), meets net _ trivial ?_, ?_⟩
    · intro site index clocks time same
      cases same
      rw [asked]
      exact ⟨rfl, hop, rfl, waits⟩
    · simp only [relayNet, relaySite_receiver, asked, process_runs atSixty 60 waits,
        Option.map_some]
      rfl
  let before : Daemon := { engine := relayEngine .destination }
  let asked := (relaySealed writing false, (none : Option Done))
  let passed := (relaySealed writing true, some (relayDone writing false))
  have first := encrypts relayStart _ _ (relaySealed_client writing)
  have second := receives ⟨relayStart.daemons, [asked]⟩ false none rfl List.mem_cons_self
  have third := runs ⟨sampleDaemons (relayAsked writing false) before, [asked]⟩ false rfl
  have fourth := encrypts ⟨sampleDaemons (relayRan writing false) before, [asked]⟩ _ _
    (relaySealed_hop writing)
  have fifth := receives ⟨sampleDaemons (relayRan writing false) before, [passed, asked]⟩ true _ rfl
    List.mem_cons_self
  have sixth := runs ⟨sampleDaemons (relayRan writing false) (relayAsked writing true),
    [passed, asked]⟩ true rfl
  have sites : receivingSite false = .rendezvous ∧ receivingSite true = .destination := ⟨rfl, rfl⟩
  simp only [sites, relayStart, update_rendezvous, update_destination] at first second third fifth sixth
  exact (((((Relation.ReflTransGen.single first).tail second).tail third).tail fourth).tail
    fifth).tail sixth

theorem relayStart_begins : relayStart.made = [] ∧
    ∀ site, ∃ engine, relayStart.daemons site = { engine } := by
  refine ⟨rfl, fun site => ⟨relayEngine site, ?_⟩⟩
  cases site with
  | rendezvous => rfl
  | destination => rfl

theorem relaySite_trusted : ∀ site, ∀ endpoint ∈ relayDirectory.endpoints,
    endpoint.identity.peerId ∈ (relaySite writing site).relay.trustedRendezvous →
    ∃ other, (relaySite writing other).endpoint = endpoint := by
  intro site endpoint listed known
  cases site with
  | rendezvous => cases known
  | destination =>
      have only : ∀ endpoint ∈ relayDirectory.endpoints, endpoint.identity.peerId = "peer-r" →
          rendezvousEndpoint = endpoint := by decide
      exact ⟨.rendezvous, only endpoint listed (List.mem_singleton.mp known)⟩

theorem relayDone_delivered :
    relayDone writing true ∈ ((relayEnd writing).daemons .destination).done ∧
      (relayDone writing true).outcome =
        .delivered (innerEnvelope writing) (.service "storage.summary" []) := by
  have delivers := relaySecond_delivers writing (relayAsked writing true).engine
  constructor
  · dsimp only [relayEnd, sampleDaemons]
    rw [relayRan_done]
    exact List.mem_singleton_self _
  · dsimp only [relayDone]
    exact delivers

theorem relayed_source_authentic_once : Attributed (relaySite .plain) (relayEnd .plain)
    (relaySite .plain .destination).receiver (relayDone .plain true) (innerEnvelope .plain) := by
  have run := relayEnd_run .plain (fun net label => Possible relayDirectory (relaySite .plain)
    relayCodec net label ∧ Bound (relaySite .plain) net label) (by
      intro net label possible hops
      refine ⟨possible, ?_⟩
      cases label with
      | encrypt packet hop => trivial
      | step site label =>
          cases label with
          | recv datagram => trivial
          | elsewhere engine => trivial
          | run index clocks time =>
              obtain ⟨rfl, hop, rfl, waits⟩ := hops site index clocks time rfl
              intro job waiting
              rw [waits] at waiting
              rw [← Option.some.inj waiting, relaySite_receiver]
              cases hop with
              | true =>
                  intro other
                  exact absurd rfl other
              | false =>
                  intro _ raw inner opened
                  rw [relayEnvelope_inner .plain false _ rfl rfl _ rfl] at opened
                  cases opened
                  rfl)
  obtain ⟨finished, delivered⟩ := relayDone_delivered .plain
  exact relayed_source_authentic relayStart_begins (relaySite_trusted .plain) run .destination _
    finished _ (.inl ⟨_, delivered⟩)

/-- A client can have a request dispatched under the name of another peer: the first hop does not
compare the two sources. -/
theorem relayed_source_forged : ¬ ∀ (ι : Type) (_ : DecidableEq ι)
    (loads : String → Except LoadsError Json) (directory : Directory) (sites : ι → Site loads)
    (codec : Codec) (start net : RelayNet ι),
    (start.made = [] ∧ ∀ i, ∃ engine, start.daemons i = { engine }) →
    (∀ i, ∀ endpoint ∈ directory.endpoints,
      endpoint.identity.peerId ∈ (sites i).relay.trustedRendezvous →
      ∃ rendezvous, (sites rendezvous).endpoint = endpoint) →
    (relayNet sites).Run (Possible directory sites codec) start net →
    ∀ i, ∀ done ∈ (net.daemons i).done, ∀ inner,
      (∃ call, done.outcome = .delivered inner call) ∨
        deliveryOf (sites i).receiver (sites i).relay done = some inner →
      Attributed sites net (sites i).receiver done inner := by
  intro claim
  obtain ⟨finished, delivered⟩ := relayDone_delivered .forged
  have run := relayEnd_run .forged (Possible relayDirectory (relaySite .forged) relayCodec)
    fun _ _ possible _ => possible
  obtain ⟨raw, -, site, -, packet, -, sent, hop, member, producer, -, -, whose⟩ :=
    claim SampleSite instDecidableEqSampleSite _ relayDirectory (relaySite .forged) relayCodec
      relayStart (relayEnd .forged) relayStart_begins (relaySite_trusted .forged) run .destination _
      finished _ (.inl ⟨_, delivered⟩)
  rcases List.mem_cons.mp member with same | rest
  · cases same
    have forged : victimEndpoint.identity ≠ clientEndpoint.identity := by decide +kernel
    exact forged whose.2.sender
  · cases List.mem_singleton.mp rest
    have apart : rendezvousEndpoint ≠ clientEndpoint ∧ destinationEndpoint ≠ clientEndpoint := by
      decide
    cases site with
    | rendezvous => exact apart.1 producer.symm
    | destination => exact apart.2 producer.symm

end Sample

end HashBurst.Tep
