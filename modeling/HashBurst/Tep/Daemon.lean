import HashBurst.Lib.TtlCache
import HashBurst.Tep.Messages
import HashBurst.Tep.Receive

/-! The handler threads of the TEP daemon: direct requests, deliveries through a rendezvous and the
first hop of a relay (`hb_tep.py`, with `hb_tep_runtime_ha.py`, `hb_tep_ha_service.py` and
`hb_tep_relay.py`). -/

namespace HashBurst.Tep

open Lib Lib.Py

inductive Failure
  | raised (raised : Raised)
  | service (code message : String)
  | timeout
  | other
  deriving DecidableEq

def Failure.protocol (code message : String) : Failure := .raised (.protocol code message)

def Failure.relay (code message : String) : Failure := .raised (.relay code message)

def lift {α : Type} : Except Raised α → Except Failure α
  | .ok value => .ok value
  | .error raised => .error (.raised raised)

/-- The keys of requests: the peer id of the source and the request id. -/
abbrev ReplayCache := TtlCache (String × String)

def replayCache : ReplayCache := { window := 120, limit := 10000 }

/-- `ReplayCache.check_and_add` -/
def checkReplay (replay : ReplayCache) (sourcePeerId requestId : String) (now : ℚ) :
    ReplayCache × Except Failure Unit :=
  if strip sourcePeerId = "" ∨ !isHex requestId requestIdHexLen then (replay, .error .other)
  else
    match replay.checkAndAdd (sourcePeerId, requestId) now with
    | (after, true) => (after, .ok ())
    | (after, false) =>
        (after, .error (.protocol "replay_detected" "request_id already seen for source peer"))

def haLeaseService : String := "ha.lease"

/-- What a service handler is called with: a local service, or the HA agent over HTTP. -/
inductive Call
  | service (name : String) (payload : Dict)
  | agent (source : Identity) (payload : Dict)

section Services

variable (conv : Conversions) (services : List String) (env : ValidatedEnvelope)

/-- The keys that a `ha.lease` operation must have, all of them and no others. -/
def allowedOpKeys : List (String × List String) :=
  [("status", ["op", "cluster_id"]),
    ("vote_request", ["op", "cluster_id", "candidate", "priority", "term", "lease_ms"]),
    ("renew", ["op", "cluster_id", "holder", "term", "lease_ms"])]

def fieldText (payload : Dict) (field : String) : String := conv.text (payload.get field)

def requireName (payload : Dict) (field : String) : Except Failure Unit :=
  let name := fieldText conv payload field
  if name = "" ∨ 128 < name.length then .error (.protocol "bad_request" s!"invalid {field}")
  else .ok ()

def intField (payload : Dict) (field message : String) : Except Failure Int :=
  match conv.toInt (payload.get field) with
  | .ok value => .ok value
  | .error _ => .error (.protocol "bad_request" message)

def validatePayload (payload : Dict) : Except Failure Dict := do
  let op := fieldText conv payload "op"
  match allowedOpKeys.lookup op with
  | none => .error (.protocol "unsupported_op"
      ("unsupported ha.lease operation " ++ orElse op "<missing>"))
  | some allowed =>
      if !(payload.all fun field => field.1 ∈ allowed) || !(allowed.all fun name =>
          (payload.lookup name).isSome) then
        .error (.protocol "bad_request" "ha.lease payload contains missing or unexpected fields")
      else
        requireName conv payload "cluster_id"
        if op = "vote_request" then
          requireName conv payload "candidate"
          let priority ← intField conv payload "priority" "invalid vote_request numeric fields"
          let term ← intField conv payload "term" "invalid vote_request numeric fields"
          let leaseMs ← intField conv payload "lease_ms" "invalid vote_request numeric fields"
          if priority < 0 ∨ term < 1 ∨ leaseMs < 1000 ∨ 120000 < leaseMs then
            .error (.protocol "bad_request" "vote_request fields out of range")
          else .ok payload
        else if op = "renew" then
          requireName conv payload "holder"
          let term ← intField conv payload "term" "invalid renew numeric fields"
          let leaseMs ← intField conv payload "lease_ms" "invalid renew numeric fields"
          if term < 1 ∨ leaseMs < 1000 ∨ 120000 < leaseMs then
            .error (.protocol "bad_request" "renew fields out of range")
          else .ok payload
        else .ok payload

/-- `HaLeaseHandler.dispatch_envelope`, up to the request to the agent. -/
def dispatchEnvelope : Except Failure Call :=
  if env.msgType ≠ "req" ∨ env.service ≠ some haLeaseService then
    .error (.protocol "bad_request" "invalid ha.lease envelope")
  else
    match env.raw.get "payload" with
    | .obj payload => (validatePayload conv payload).map fun payload => .agent env.source payload
    | payload =>
        if payload.truthy then
          .error (.protocol "bad_request" "ha.lease payload must be an object")
        else (validatePayload conv []).map fun payload => .agent env.source payload

/-- `ServiceRegistry.dispatch`, up to the call of the handler. The one that is registered for
`ha.lease` raises, since it is not given the envelope. -/
def dispatchService : Except Failure Call :=
  if env.msgType ≠ "req" then
    .error (.protocol "unsupported_type" "service dispatch accepts request messages only")
  else
    match env.service with
    | none => .error (.protocol "unsupported_service" "unsupported service <missing>")
    | some service =>
        if service = "" ∨ service ∉ services then
          .error (.protocol "unsupported_service"
            ("unsupported service " ++ orElse service "<missing>"))
        else
          match env.raw.get "payload" with
          | .obj payload =>
              if service = haLeaseService then
                .error (.service "identity_context_required"
                  "ha.lease requires authenticated envelope context")
              else .ok (.service service payload)
          | _ => .error (.protocol "bad_request" "payload must be an object")

end Services

def RelayTable.get (routes : RelayTable) (peerId : String) (now : ℚ) :
    Except Failure ObservedEndpoint :=
  match routes.find? peerId with
  | none => .error (.relay "destination_unknown" "relay target has no observed endpoint")
  | some route =>
      if 30 < now - route.lastSeen then
        .error (.relay "peer_offline" "relay target endpoint is stale")
      else .ok route

def allowedRelayServices : List String := ["storage.summary", "master.status"]

/-- Who may relay to whom, and how many requests at a time. -/
structure RelayPolicy where
  trustedSources : List String
  registeredTargets : List String
  allowedServices : List String := allowedRelayServices
  maxPending : Nat := 256
  maxPendingPerSource : Nat := 32

def RelayPolicy.authorize (policy : RelayPolicy) (sourcePeerId targetPeerId innerService : String) :
    Except Failure Unit :=
  if sourcePeerId ∉ policy.trustedSources then
    .error (.relay "relay_unauthorized" "source peer is not authorized to use relay")
  else if targetPeerId ∉ policy.registeredTargets then
    .error (.relay "destination_unknown" "relay target is not registered")
  else if innerService ∉ policy.allowedServices then
    .error (.relay "unsupported_service" "service is not allowed through relay")
  else .ok ()

structure RelayConfig where
  relayEnabled : Bool := false
  relayClients : List String := []
  trustedRendezvous : List String := []

/-- The clocks of a handler: the wall clock when it decodes, and the monotonic one when it looks at
the replay cache and at the routes. -/
structure Clocks where
  wall : ℚ
  replay : ℚ
  routes : ℚ := replay

def Clocks.nowMs (clocks : Clocks) : Int := (clocks.wall * 1000).floor

/-- The float of a time, which is finite. -/
def timeFloat (time : ℚ) : ℚ := (binary64 time).getD 0

/-- `min(5000, max(1, int(float(timeout_sec) * 1000)))` -/
def relayTtlMs (timeoutSec : ℚ) : Int := min 5000 (max 1 (timeFloat (timeoutSec * 1000)).floor)

example : relayTtlMs (timeFloat (1001 / 1000)) = 1000 := by decide +kernel

section Handlers

variable (node : Receiver) (relay : RelayConfig) (engine : Engine) (replay : ReplayCache)
  (env : ValidatedEnvelope) (clocks : Clocks)

/-- `_handle_app_request`, with that of the HA runtime for `ha.lease`. -/
def handleAppRequest : ReplayCache × Except Failure Call :=
  match checkReplay replay env.source.peerId env.requestId clocks.replay with
  | (after, .error failure) => (after, .error failure)
  | (after, .ok _) =>
      (after,
        if env.service = some haLeaseService then dispatchEnvelope node.py.conv env
        else dispatchService node.py.services env)

/-- `str(env.raw.get(name, {}).get(field, ''))` -/
def nestedText (name field : String) : String :=
  match env.raw.getD name (.obj []) with
  | .obj fields => node.py.conv.toStr (Dict.getD fields field (.str ""))
  | _ => ""

def relayTarget : String := nestedText node env "relay_target" "peer_id"

/-- The envelope inside a relay request, read as the daemon reads it. -/
def openInner : Except Failure (Bytes × ValidatedEnvelope) :=
  match Base64.urlsafeDecode (nestedText node env "payload" "inner").toList with
  | none => .error .other
  | some inner => (lift (decodeMessage node.py clocks.nowMs inner)).map fun own => (inner, own)

/-- What `_handle_relay_delivery` checks before it asks the replay cache. -/
def openDelivery : Except Failure ValidatedEnvelope :=
  if env.source.peerId ∉ relay.trustedRendezvous then .error .other
  else
    match openInner node env clocks with
    | .error failure => .error failure
    | .ok (_, inner) =>
        if inner.msgType ≠ "req" then
          .error (.protocol "unsupported_type" "relay inner must be req")
        else if inner.destination ≠ node.self then
          .error (.protocol "identity_mismatch" "relay inner destination mismatch")
        else .ok inner

/-- `_handle_relay_delivery`, up to the call of the service. -/
def handleRelayDelivery : ReplayCache × Except Failure (ValidatedEnvelope × Call) :=
  match openDelivery node relay env clocks with
  | .error failure => (replay, .error failure)
  | .ok inner =>
      match checkReplay replay inner.source.peerId inner.requestId clocks.replay with
      | (after, .error failure) => (after, .error failure)
      | (after, .ok _) =>
          (after, (dispatchService node.py.services inner).map fun call => (inner, call))

structure Forward where
  target : Peer
  inner : Bytes
  route : ObservedEndpoint
  budget : ℚ

/-- `p.peer_id for p in peers if p.peer_id and p.pubkey` -/
def registeredTargets : List String :=
  (engine.peers.rows.filter fun peer => peer.peerId.getD "" ≠ "" ∧ peer.pubkey.getD "" ≠ "").map
    fun peer => peer.peerId.getD ""

/-- The policy that each first hop makes for itself. -/
def hopPolicy : RelayPolicy :=
  { trustedSources := relay.relayClients, registeredTargets := registeredTargets engine }

/-- `min(5.0, max(0.001, float(env.ttl_ms or 1) / 1000.0))` -/
def hopBudget : ℚ :=
  let ttl := env.ttlMs.getD 1
  min 5 (max (timeFloat (1 / 1000)) (timeFloat ((if ttl = 0 then 1 else ttl) / 1000)))

/-- The first hop between its replay check and the packet to the target. -/
def planForward : Except Failure Forward :=
  match openInner node env clocks with
  | .error failure => .error failure
  | .ok (inner, innerEnv) =>
      let targetPeer := relayTarget node env
      if innerEnv.msgType ≠ "req" ∨ innerEnv.destination.peerId ≠ targetPeer then
        .error (.relay "identity_mismatch" "relay inner destination mismatch")
      else
        match (hopPolicy relay engine).authorize env.source.peerId targetPeer
            (innerEnv.service.getD "") with
        | .error failure => .error failure
        | .ok _ =>
            match engine.routes.get targetPeer clocks.routes with
            | .error failure => .error failure
            | .ok route =>
                match engine.peers.findByPeerId targetPeer with
                | some target =>
                    if target.pubkey.getD "" = "" then
                      .error (.relay "destination_unknown" "relay target is not registered")
                    else .ok { target, inner, route, budget := hopBudget env }
                | none => .error (.relay "destination_unknown" "relay target is not registered")

/-- The first hop in `_handle_relay_request`, up to the packet to the target. -/
def handleFirstHop : ReplayCache × Except Failure Forward :=
  if !relay.relayEnabled ∨ env.source.peerId ∉ relay.relayClients then (replay, .error .other)
  else
    match checkReplay replay env.source.peerId env.requestId clocks.replay with
    | (after, .error failure) => (after, .error failure)
    | (after, .ok _) => (after, planForward node relay engine env clocks)

inductive Outcome
  | failed (failure : Failure)
  | called (env : ValidatedEnvelope) (call : Call)
  | delivered (inner : ValidatedEnvelope) (call : Call)
  | forwarded (forward : Forward)

/-- A handler thread, up to the point where it leaves the daemon. -/
def runHandler : Handler → ReplayCache × Outcome
  | .appRequest env _ _ _ =>
      match handleAppRequest node replay env clocks with
      | (after, .ok call) => (after, .called env call)
      | (after, .error failure) => (after, .failed failure)
  | .relayRequest env _ _ _ =>
      if relayTarget node env = node.self.peerId then
        match handleRelayDelivery node relay replay env clocks with
        | (after, .ok (inner, call)) => (after, .delivered inner call)
        | (after, .error failure) => (after, .failed failure)
      else
        match handleFirstHop node relay engine replay env clocks with
        | (after, .ok forward) => (after, .forwarded forward)
        | (after, .error failure) => (after, .failed failure)

end Handlers

end HashBurst.Tep
