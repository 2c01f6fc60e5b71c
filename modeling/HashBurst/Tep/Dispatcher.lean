import HashBurst.Lib.Joint
import HashBurst.Lib.Knowledge
import HashBurst.Lib.Permits
import HashBurst.Tep.Relayed

/-! The rendezvous as a library (`RelayTable`, `RelayPolicy` and `RelayDispatcher` in
`hb_tep_relay.py`): requests that are relayed at the same time, over one table of routes and one
count of what is in flight. -/

namespace HashBurst.Tep

open Lib Lib.Py

/-- `RelayTable.get` with its `max_age_sec`. -/
def RelayTable.getWithin (routes : RelayTable) (peerId : String) (maxAge now : ℚ) :
    Except Failure ObservedEndpoint :=
  if maxAge ≤ 0 then .error .other
  else
    match routes.find? peerId with
    | none => .error (.relay "destination_unknown" "relay target has no observed endpoint")
    | some route =>
        if maxAge < now - route.lastSeen then
          .error (.relay "peer_offline" "relay target endpoint is stale")
        else .ok route

theorem RelayTable.get_eq_getWithin (routes : RelayTable) (peerId : String) (now : ℚ) :
    routes.get peerId now = routes.getWithin peerId 30 now := by
  have positive : ¬ (30 : ℚ) ≤ 0 := by norm_num
  cases found : routes.find? peerId with
  | none => simp only [RelayTable.get, RelayTable.getWithin, if_neg positive, found]
  | some route => simp only [RelayTable.get, RelayTable.getWithin, if_neg positive, found]

inductive Reply
  | timeout
  | relay (code message : String)
  | raised
  | mapping (message : Dict)
  | text (text : String)
  | bytes (raw : Bytes)

/-- The reply, with the clock and the random nonce that the answer to it is made with. -/
structure Arrival where
  reply : Reply
  nowMs : Int
  stamp : Stamp

inductive RawRequest
  | mapping (message : Dict)
  | text (text : String)
  | bytes (raw : Bytes)

/-- The arguments of `handle`, and the clock when it reads the request and what is inside. -/
structure Submission where
  raw : RawRequest
  timeoutSec : ℚ
  outerMs : Int
  innerMs : Int

structure Observation where
  peerId : String
  ip : String
  port : Int
  pubkey : String := ""
  authenticated : Bool

def Observation.endpoint (seen : Observation) (clock : ℚ) : ObservedEndpoint where
  peerId := strip seen.peerId
  ip := strip seen.ip
  port := seen.port
  lastSeen := clock
  pubkey := seen.pubkey

inductive RelayCall
  | handle (request : Submission)
  | observe (seen : Observation)
  | discard (peerId : String)

inductive RelayResult
  | response (message : Dict)
  | done

/-- What the relay's threads share, each access to it under a lock; and the target transport. A route
is looked up for a request, which the table does not see. -/
inductive RelayOp : Type → Type
  | get (request : Submission) (peerId : String) (maxAge : ℚ) :
      RelayOp (Except Failure ObservedEndpoint)
  | acquire (sourcePeerId : String) : RelayOp (Except Failure Unit)
  | forward (route : ObservedEndpoint) (inner : Bytes) (budget : ℚ) : RelayOp Arrival
  | release (sourcePeerId : String) : RelayOp Unit
  | observe (seen : Observation) : RelayOp (Except Failure Unit)
  | discard (peerId : String) : RelayOp Unit

structure RelayState where
  permits : Permits String := {}
  routes : RelayTable := Table.empty

/-- The clock of the table, and what comes back from the target, when an access is made. -/
structure Moment where
  clock : ℚ
  arrival : Arrival

structure Dispatcher where
  py : Python
  codec : Codec
  localIdentity : Identity
  policy : RelayPolicy
  routeFreshness : ℚ := 30

/-- A `ProtocolError` of the request is passed on as a `RelayError`. -/
def asRelay {α : Type} : Except Raised α → Except Failure α
  | .ok value => .ok value
  | .error (.protocol code message) => .error (.relay code message)
  | .error raised => .error (.raised raised)

/-- `str(raw[name][field])` of a relay envelope that is valid. -/
def textAt (raw : Dict) (name field : String) : String :=
  match raw.get name with
  | .obj fields =>
      match Dict.get fields field with
      | .str text => text
      | _ => ""
  | _ => ""

def b64Decode (text : String) : Except Failure Bytes :=
  match Base64.strictDecode text.toList with
  | none => .error (.relay "bad_request" "relay inner is not valid base64")
  | some raw =>
      if maxInnerBytes < raw.length then
        .error (.relay "bad_request" "relay inner exceeds size limit")
      else .ok raw

namespace Dispatcher

variable (dispatcher : Dispatcher)

/-- A request that `handle` has read, with the request inside it. -/
structure Opened where
  env : ValidatedEnvelope
  target : String
  inner : Bytes
  innerEnv : ValidatedEnvelope

def readRequest (request : Submission) : Except Raised ValidatedEnvelope :=
  match request.raw with
  | .mapping message => validateEnvelope dispatcher.py.services message request.outerMs
  | .text text => decodeMessage dispatcher.py request.outerMs (utf8 text)
  | .bytes raw => decodeMessage dispatcher.py request.outerMs raw

/-- `handle` before it looks for a route. -/
def openRequest (request : Submission) : Except Failure Opened := do
  let env ← asRelay (dispatcher.readRequest request)
  if env.msgType ≠ "relay_req" then
    .error (.relay "unsupported_type" "relay dispatcher accepts relay_req only")
  else if env.destination.peerId ≠ dispatcher.localIdentity.peerId then
    .error (.relay "relay_wrong_destination" "relay request is addressed to another rendezvous")
  else
    let target := textAt env.raw "relay_target" "peer_id"
    let inner ← b64Decode (textAt env.raw "payload" "inner")
    let innerEnv ← asRelay (decodeMessage dispatcher.py request.innerMs inner)
    if innerEnv.msgType ≠ "req" then
      .error (.relay "unsupported_type" "relay inner must be an application request")
    else if innerEnv.destination.peerId ≠ target then
      .error (.relay "identity_mismatch" "relay target does not match inner destination")
    else
      dispatcher.policy.authorize env.source.peerId target (innerEnv.service.getD "")
      return { env, target, inner, innerEnv }

def hopTime (timeoutSec : ℚ) (env : ValidatedEnvelope) : Except Failure ℚ :=
  if timeoutSec ≤ 0 then .error (.relay "relay_ttl_expired" "relay timeout budget exhausted")
  else
    let budget := min timeoutSec (timeFloat (env.ttlMs.getD 0 / 1000))
    if budget ≤ 0 then .error (.relay "relay_ttl_expired" "relay TTL exhausted") else .ok budget

def replyBytes : Reply → Except Failure Bytes
  | .timeout => .error (.relay "relay_timeout" "relay target did not respond in time")
  | .relay code message => .error (.relay code message)
  | .raised => .error (.relay "relay_unavailable" "relay target transport failed")
  | .mapping message => lift (encodeMessage dispatcher.py.services dispatcher.codec message)
  | .text text => .ok (utf8 text)
  | .bytes raw => .ok raw

/-- What `handle` makes of the reply. -/
def answer (opened : Opened) (arrival : Arrival) : Except Failure Dict := do
  let raw ← dispatcher.replyBytes arrival.reply
  match decodeMessage dispatcher.py arrival.nowMs raw with
  | .error (.protocol _ _) =>
      .error (.relay "bad_response" "relay target returned invalid application response")
  | .error raised => .error (.raised raised)
  | .ok env =>
      if env.msgType ≠ "res" ∧ env.msgType ≠ "err" then
        .error (.relay "bad_response" "relay target response must be res or err")
      else if env.requestId ≠ opened.innerEnv.requestId then
        .error (.relay "bad_response" "relay target response request_id mismatch")
      else if env.source.peerId ≠ opened.target then
        .error (.relay "bad_response" "relay target response source mismatch")
      else lift (newRelayResponse dispatcher.py.services dispatcher.localIdentity opened.env.source
        arrival.stamp opened.env.raw opened.target raw)

/-- `handle` while it holds its place. -/
def relayHop (opened : Opened) (route : ObservedEndpoint) (budget : ℚ) :
    Prog RelayOp Failure RelayResult :=
  Prog.ask (.forward route opened.inner budget) >>= fun arrival =>
    (Prog.ofExcept (dispatcher.answer opened arrival)) >>= fun message => .ret (.response message)

def handle (request : Submission) : Prog RelayOp Failure RelayResult :=
  Prog.ofExcept (dispatcher.openRequest request) >>= fun opened =>
    Prog.attempt (.get request opened.target dispatcher.routeFreshness) >>= fun route =>
      Prog.ofExcept (hopTime request.timeoutSec opened.env) >>= fun budget =>
        Prog.attempt (.acquire opened.env.source.peerId) >>= fun _ =>
          (dispatcher.relayHop opened route budget).ensuring (.release opened.env.source.peerId)

def program : RelayCall → Prog RelayOp Failure RelayResult
  | .handle request => dispatcher.handle request
  | .observe seen => Prog.attempt (.observe seen) >>= fun _ => .ret .done
  | .discard peerId => Prog.ask (.discard peerId) >>= fun _ => .ret .done

end Dispatcher

def runRelay (policy : RelayPolicy) {β : Type} :
    RelayOp β → Moment → RelayState → RelayState × β
  | .get _ peerId maxAge, moment, state =>
      (state, state.routes.getWithin peerId maxAge moment.clock)
  | .acquire source, _, state =>
      match state.permits.acquire policy.maxPending policy.maxPendingPerSource source with
      | some permits => ({ state with permits }, .ok ())
      | none => (state, .error (.relay "relay_overloaded" "relay pending request limit reached"))
  | .forward _ _ _, moment, state => (state, moment.arrival)
  | .release source, _, state => ({ state with permits := state.permits.release source }, ())
  | .observe seen, moment, state =>
      match state.routes.observe (some seen.peerId) seen.ip seen.port seen.pubkey seen.authenticated
        moment.clock with
      | .ok routes => ({ state with routes }, .ok ())
      | .error raised => (state, .error (.raised raised))
  | .discard peerId, _, state => ({ state with routes := state.routes.erase peerId }, ())

structure Exchange where
  route : ObservedEndpoint
  inner : Bytes
  budget : ℚ
  arrival : Arrival

/-- What was reported and which routes were looked up for which requests, each with the clock of the
table; and what the target transport did. -/
structure Sightings where
  reported : List (ℚ × Observation) := []
  looked : List (Submission × ℚ × ObservedEndpoint) := []
  exchanges : List Exchange := []

def Sightings.note {β : Type} (op : RelayOp β) (moment : Moment) (state : RelayState)
    (sightings : Sightings) : Sightings :=
  match op with
  | .observe seen => { sightings with reported := (moment.clock, seen) :: sightings.reported }
  | .get request peerId maxAge =>
      match state.routes.getWithin peerId maxAge moment.clock with
      | .ok route => { sightings with looked := (request, moment.clock, route) :: sightings.looked }
      | .error _ => sightings
  | .forward route inner budget =>
      let exchange : Exchange := { route, inner, budget, arrival := moment.arrival }
      { sightings with exchanges := exchange :: sightings.exchanges }
  | _ => sightings

abbrev RelayPool := Pool (RelayState × Sightings) RelayOp Failure RelayResult RelayCall

def Dispatcher.machine (dispatcher : Dispatcher) :
    Machine RelayPool (Pool.Label RelayCall Moment) :=
  Pool.machine (Pool.noting (runRelay dispatcher.policy) Sightings.note) dispatcher.program

def RelayPool.fresh : RelayPool := { shared := ({}, {}), threads := [] }

def Sightings.Reported (sightings : Sightings) (route : ObservedEndpoint) : Prop :=
  ∃ clock seen, (clock, seen) ∈ sightings.reported ∧ seen.authenticated = true ∧
    seen.endpoint clock = route

/-- The route to the peer was reported, and was not too old when it was looked up for the request. -/
structure Dispatcher.Routed (dispatcher : Dispatcher) (sightings : Sightings) (request : Submission)
    (peerId : String) (route : ObservedEndpoint) : Prop where
  peer : route.peerId = peerId
  reported : sightings.Reported route
  fresh : ∃ clock, (request, clock, route) ∈ sightings.looked ∧
    clock - route.lastSeen ≤ dispatcher.routeFreshness

namespace Dispatcher

variable (dispatcher : Dispatcher)

/-- A request that may be relayed: it came from a trusted source to this rendezvous, and the one
inside it is for a registered target and an allowed service. -/
structure Relays (request : Submission) (opened : Opened) : Prop where
  read : dispatcher.readRequest request = .ok opened.env
  kind : opened.env.msgType = "relay_req"
  addressed : opened.env.destination.peerId = dispatcher.localIdentity.peerId
  target : opened.target = textAt opened.env.raw "relay_target" "peer_id"
  inside : Base64.strictDecode (textAt opened.env.raw "payload" "inner").toList =
    some opened.inner
  small : opened.inner.length ≤ maxInnerBytes
  innerRead : decodeMessage dispatcher.py request.innerMs opened.inner = .ok opened.innerEnv
  innerKind : opened.innerEnv.msgType = "req"
  innerTarget : opened.innerEnv.destination.peerId = opened.target
  trusted : opened.env.source.peerId ∈ dispatcher.policy.trustedSources
  registered : opened.target ∈ dispatcher.policy.registeredTargets
  service : opened.innerEnv.service.getD "" ∈ dispatcher.policy.allowedServices

/-- The response wraps bytes that read as an answer of the target to the request. -/
structure Answers (request : Submission) (opened : Opened) (arrival : Arrival) (message : Dict) :
    Prop where
  relays : dispatcher.Relays request opened
  answered : ∃ raw env, dispatcher.replyBytes arrival.reply = .ok raw ∧
    decodeMessage dispatcher.py arrival.nowMs raw = .ok env ∧
    (env.msgType = "res" ∨ env.msgType = "err") ∧
    env.requestId = opened.innerEnv.requestId ∧ env.source.peerId = opened.target ∧
    newRelayResponse dispatcher.py.services dispatcher.localIdentity opened.env.source
      arrival.stamp opened.env.raw opened.target raw = .ok message ∧
    b64Decode (textAt message "payload" "inner") = .ok raw

def sourceOf : RelayCall → Option String
  | .handle request =>
      match dispatcher.openRequest request with
      | .ok opened => some opened.env.source.peerId
      | .error _ => none
  | _ => none

/-- The place that a thread holds: it waits for the target, or has yet to give the place back. -/
def place (thread : Thread RelayOp Failure RelayResult RelayCall) : Option String :=
  match thread.rest with
  | .call (.forward _ _ _) _ => dispatcher.sourceOf thread.call
  | .call (.release source) _ => some source
  | _ => none

end Dispatcher

/-- What a thread knows: the place it holds, the route it was given, and what came of the hop. -/
structure HopKnowledge where
  place : Option String := none
  route : Option (Submission × String × ObservedEndpoint) := none
  exchange : Option Exchange := none

def HopKnowledge.learn {β : Type} (known : HopKnowledge) : RelayOp β → β → HopKnowledge
  | .get request peerId _, found =>
      match found with
      | .ok route => { known with route := some (request, peerId, route) }
      | .error _ => known
  | .acquire source, acquired =>
      match acquired with
      | .ok _ => { known with place := some source }
      | .error _ => known
  | .forward route inner budget, arrival =>
      { known with exchange := some { route, inner, budget, arrival } }
  | .release _, _ => { known with place := none }
  | .observe _, _ => known
  | .discard _, _ => known

namespace Dispatcher

variable (dispatcher : Dispatcher)

def protocol (call : RelayCall) : Protocol RelayOp HopKnowledge where
  allowed known op :=
    match op with
    | .get _ _ maxAge => known.place = none ∧ maxAge = dispatcher.routeFreshness
    | .acquire source => known.place = none ∧ dispatcher.sourceOf call = some source
    | .forward route inner budget =>
        known.place.isSome ∧ known.place = dispatcher.sourceOf call ∧
          ∃ request opened, call = .handle request ∧ dispatcher.Relays request opened ∧
            known.route = some (request, opened.target, route) ∧ inner = opened.inner ∧
            hopTime request.timeoutSec opened.env = .ok budget
    | .release source => known.place = some source
    | .observe _ => known.place = none
    | .discard _ => known.place = none
  learn := HopKnowledge.learn

/-- At its end a call holds no place, and its response is an answer. -/
def ends (call : RelayCall) (known : HopKnowledge) (result : Except Failure RelayResult) : Prop :=
  known.place = none ∧ ∀ message, result = .ok (.response message) →
    ∃ request opened exchange, call = .handle request ∧ known.exchange = some exchange ∧
      exchange.inner = opened.inner ∧
      known.route = some (request, opened.target, exchange.route) ∧
      dispatcher.Answers request opened exchange.arrival message

/-- The counts are right, and what the threads know of routes and exchanges is true. -/
structure Fits (state : RelayState × Sightings) (knowns : List HopKnowledge) : Prop where
  counts : state.1.permits.Counts (knowns.filterMap HopKnowledge.place)
  within : Permits.Within dispatcher.policy.maxPending dispatcher.policy.maxPendingPerSource
    (knowns.filterMap HopKnowledge.place)
  table : ∀ route ∈ state.1.routes.rows, state.2.Reported route
  routed : ∀ known ∈ knowns, ∀ request peerId route, known.route = some (request, peerId, route) →
    dispatcher.Routed state.2 request peerId route
  exchanged : ∀ known ∈ knowns, ∀ exchange, known.exchange = some exchange →
    exchange ∈ state.2.exchanges

end Dispatcher

section Calls

variable {dispatcher : Dispatcher} {request : Submission} {opened : Dispatcher.Opened}

theorem asRelay_eq_ok {α : Type} {result : Except Raised α} {value : α} :
    asRelay result = .ok value ↔ result = .ok value := by
  cases result with
  | ok own => exact ⟨fun same => by cases same; rfl, fun same => by cases same; rfl⟩
  | error raised =>
      constructor
      · intro impossible
        cases raised <;> cases impossible
      · intro impossible
        cases impossible

theorem b64Decode_eq_ok {text : String} {raw : Bytes} :
    b64Decode text = .ok raw ↔
      Base64.strictDecode text.toList = some raw ∧ raw.length ≤ maxInnerBytes := by
  unfold b64Decode
  cases read : Base64.strictDecode text.toList with
  | none => simp
  | some own =>
      by_cases large : maxInnerBytes < own.length
      · simp only [if_pos large, Option.some.injEq]
        constructor
        · intro impossible
          cases impossible
        · intro both
          rw [both.1] at large
          omega
      · simp only [if_neg large, Except.ok.injEq, Option.some.injEq]
        constructor
        · intro same
          rw [← same]
          exact ⟨rfl, by omega⟩
        · intro both
          exact both.1

theorem authorize_eq_ok {policy : RelayPolicy} {source target service : String} :
    policy.authorize source target service = .ok () ↔
      source ∈ policy.trustedSources ∧ target ∈ policy.registeredTargets ∧
        service ∈ policy.allowedServices := by
  unfold RelayPolicy.authorize
  constructor
  · intro authorized
    split at authorized
    · cases authorized
    · split at authorized
      · cases authorized
      · split at authorized
        · cases authorized
        · rename_i trusted registered allowed
          exact ⟨not_not.mp trusted, not_not.mp registered, not_not.mp allowed⟩
  · intro passed
    rw [if_neg (not_not.mpr passed.1), if_neg (not_not.mpr passed.2.1),
      if_neg (not_not.mpr passed.2.2)]

theorem Dispatcher.openRequest_eq_ok :
    dispatcher.openRequest request = .ok opened ↔ dispatcher.Relays request opened := by
  unfold openRequest
  constructor
  · intro read
    rcases bind_eq_ok.mp read with ⟨env, outer, later⟩
    split at later
    · cases later
    · rename_i kind
      split at later
      · cases later
      · rename_i addressed
        rcases bind_eq_ok.mp later with ⟨inner, decoded, last⟩
        rcases bind_eq_ok.mp last with ⟨innerEnv, inside, checks⟩
        split at checks
        · cases checks
        · rename_i innerKind
          split at checks
          · cases checks
          · rename_i innerTarget
            rcases bind_eq_ok.mp checks with ⟨done, authorized, made⟩
            cases made
            have text := b64Decode_eq_ok.mp decoded
            have passed := authorize_eq_ok.mp authorized
            exact
              { read := asRelay_eq_ok.mp outer
                kind := not_not.mp kind
                addressed := not_not.mp addressed
                target := rfl
                inside := text.1
                small := text.2
                innerRead := asRelay_eq_ok.mp inside
                innerKind := not_not.mp innerKind
                innerTarget := not_not.mp innerTarget
                trusted := passed.1
                registered := passed.2.1
                service := passed.2.2 }
  · intro relays
    rcases opened with ⟨env, target, inner, innerEnv⟩
    have named : target = textAt env.raw "relay_target" "peer_id" := relays.target
    subst named
    apply bind_eq_ok.mpr
    refine ⟨_, asRelay_eq_ok.mpr relays.read, ?_⟩
    rw [if_neg (not_not.mpr relays.kind), if_neg (not_not.mpr relays.addressed)]
    apply bind_eq_ok.mpr
    refine ⟨_, b64Decode_eq_ok.mpr ⟨relays.inside, relays.small⟩, ?_⟩
    apply bind_eq_ok.mpr
    refine ⟨_, asRelay_eq_ok.mpr relays.innerRead, ?_⟩
    rw [if_neg (not_not.mpr relays.innerKind), if_neg (not_not.mpr relays.innerTarget)]
    apply bind_eq_ok.mpr
    exact ⟨(), authorize_eq_ok.mpr ⟨relays.trusted, relays.registered, relays.service⟩, rfl⟩

private theorem lift_eq_ok {α : Type} {result : Except Raised α} {value : α}
    (lifted : lift result = .ok value) : result = .ok value := by
  cases result with
  | ok own =>
      cases lifted
      rfl
  | error raised => cases lifted

theorem inner_of_response {services : List String} {source destination : Identity} {stamp : Stamp}
    {relayRequest message : Dict} {target : String} {raw : Bytes}
    (built : newRelayResponse services source destination stamp relayRequest target raw =
      .ok message) :
    b64Decode (textAt message "payload" "inner") = .ok raw := by
  unfold newRelayResponse at built
  split at built
  · cases built
  · rename_i small
    rw [← checked_eq built]
    apply b64Decode_eq_ok.mpr
    have text : textAt
        [("v", .int 1), ("type", .str "relay_res"), ("request_id", relayRequest.get "request_id"),
          ("source", source.toDict), ("destination", destination.toDict),
          ("relay_target", .obj [("peer_id", .str target)]),
          ("timestamp_ms", .int stamp.timestampMs), ("nonce", .str stamp.nonce),
          ("payload", .obj [("inner", .str (b64Encode raw))])] "payload" "inner" =
        b64Encode raw := rfl
    rw [text, b64Encode, String.toList_ofList]
    exact ⟨Base64.strictDecode_encode raw, by omega⟩

theorem Dispatcher.answers_of_answer {arrival : Arrival} {message : Dict}
    (relays : dispatcher.Relays request opened)
    (made : dispatcher.answer opened arrival = .ok message) :
    dispatcher.Answers request opened arrival message := by
  unfold answer at made
  rcases bind_eq_ok.mp made with ⟨raw, reply, later⟩
  split at later
  · cases later
  · cases later
  · rename_i env read
    split at later
    · cases later
    · rename_i kind
      split at later
      · cases later
      · rename_i same
        split at later
        · cases later
        · rename_i own
          have built := lift_eq_ok later
          have either : env.msgType = "res" ∨ env.msgType = "err" := by
            by_contra neither
            rw [not_or] at neither
            exact kind neither
          exact ⟨relays, raw, env, reply, read, either, not_not.mp same, not_not.mp own, built,
            inner_of_response built⟩

end Calls

namespace Dispatcher

section Threads

variable {dispatcher : Dispatcher}

theorem sourceOf_handle {request : Submission} {opened : Opened}
    (relays : dispatcher.Relays request opened) :
    dispatcher.sourceOf (.handle request) = some opened.env.source.peerId := by
  simp only [sourceOf, openRequest_eq_ok.mpr relays]

theorem ends_error {call : RelayCall} {known : HopKnowledge} {failure : Failure}
    (free : known.place = none) : dispatcher.ends call known (.error failure) := by
  refine ⟨free, ?_⟩
  intro message impossible
  cases impossible

theorem ends_done {call : RelayCall} {known : HopKnowledge} (free : known.place = none) :
    dispatcher.ends call known (.ok .done) := by
  refine ⟨free, ?_⟩
  intro message impossible
  cases impossible

/-- With a place and a route to the target, the hop is made and the place is given back. -/
theorem relayHop_obeys {request : Submission} {opened : Opened} {route : ObservedEndpoint}
    {budget : ℚ} {known : HopKnowledge} (relays : dispatcher.Relays request opened)
    (own : dispatcher.sourceOf (.handle request) = some opened.env.source.peerId)
    (holds : known.place = some opened.env.source.peerId)
    (routed : known.route = some (request, opened.target, route))
    (timed : hopTime request.timeoutSec opened.env = .ok budget) :
    ((dispatcher.relayHop opened route budget).ensuring
        (.release opened.env.source.peerId)).Obeys
      (dispatcher.protocol (.handle request)) (dispatcher.ends (.handle request)) known := by
  apply Prog.obeys_ensuring
  constructor
  · refine ⟨by rw [holds]; rfl, by rw [holds, own], request, opened, rfl, relays, routed, rfl, timed⟩
  · intro arrival
    change (Prog.ofExcept (dispatcher.answer opened arrival) >>= fun message =>
      .ret (RelayResult.response message)).Obeys _ _ _
    cases made : dispatcher.answer opened arrival with
    | error failure => exact ⟨holds, ends_error rfl⟩
    | ok message =>
        refine ⟨holds, rfl, ?_⟩
        intro response same
        cases same
        exact ⟨request, opened, _, rfl, rfl, rfl, routed, answers_of_answer relays made⟩

theorem program_obeys (call : RelayCall) :
    (dispatcher.program call).Obeys (dispatcher.protocol call) (dispatcher.ends call) {} := by
  cases call with
  | observe seen =>
      refine ⟨rfl, ?_⟩
      intro answer
      cases answer with
      | ok value => exact ends_done rfl
      | error failure => exact ends_error rfl
  | discard peerId => exact ⟨rfl, fun _ => ends_done rfl⟩
  | handle request =>
      change (dispatcher.handle request).Obeys _ _ _
      unfold handle
      cases read : dispatcher.openRequest request with
      | error failure => exact ends_error rfl
      | ok opened =>
          have relays := openRequest_eq_ok.mp read
          have own := sourceOf_handle relays
          refine ⟨⟨rfl, rfl⟩, ?_⟩
          intro found
          cases found with
          | error failure => exact ends_error rfl
          | ok route =>
              change (Prog.ofExcept (hopTime request.timeoutSec opened.env) >>= fun budget =>
                _).Obeys _ _ _
              cases timed : hopTime request.timeoutSec opened.env with
              | error failure => exact ends_error rfl
              | ok budget =>
                  refine ⟨⟨rfl, own⟩, ?_⟩
                  intro acquired
                  cases acquired with
                  | error failure => exact ends_error rfl
                  | ok value =>
                      exact relayHop_obeys relays own rfl rfl timed

theorem reported_note {sightings : Sightings} {route : ObservedEndpoint} {β : Type}
    (reported : sightings.Reported route) (op : RelayOp β) (moment : Moment) (state : RelayState) :
    (sightings.note op moment state).Reported route := by
  rcases reported with ⟨clock, seen, member, rest⟩
  refine ⟨clock, seen, ?_, rest⟩
  unfold Sightings.note
  split
  · exact List.mem_cons_of_mem _ member
  · split
    · exact member
    · exact member
  · exact member
  · exact member

theorem Routed.note {sightings : Sightings} {request : Submission} {peerId : String}
    {route : ObservedEndpoint} {β : Type} (routed : dispatcher.Routed sightings request peerId route)
    (op : RelayOp β) (moment : Moment) (state : RelayState) :
    dispatcher.Routed (sightings.note op moment state) request peerId route := by
  rcases routed.fresh with ⟨clock, member, young⟩
  refine ⟨routed.peer, reported_note routed.reported op moment state, clock, ?_, young⟩
  unfold Sightings.note
  split
  · exact member
  · split
    · exact List.mem_cons_of_mem _ member
    · exact member
  · exact member
  · exact member

theorem exchanges_note {sightings : Sightings} {exchange : Exchange} {β : Type}
    (member : exchange ∈ sightings.exchanges) (op : RelayOp β) (moment : Moment)
    (state : RelayState) : exchange ∈ (sightings.note op moment state).exchanges := by
  unfold Sightings.note
  split
  · exact member
  · split
    · exact member
    · exact member
  · exact List.mem_cons_of_mem _ member
  · exact member

theorem getWithin_eq_ok {routes : RelayTable} {peerId : String} {maxAge now : ℚ}
    {route : ObservedEndpoint} (found : routes.getWithin peerId maxAge now = .ok route) :
    route ∈ routes.rows ∧ route.peerId = peerId ∧ now - route.lastSeen ≤ maxAge := by
  unfold RelayTable.getWithin at found
  split at found
  · cases found
  · split at found
    · cases found
    · rename_i own present
      split at found
      · cases found
      · rename_i young
        cases found
        have row := Table.find?_some_iff.mp present
        exact ⟨row.1, row.2, not_lt.mp young⟩

theorem observe_rows {routes grown : RelayTable} {seen : Observation} {clock : ℚ}
    (observed : routes.observe (some seen.peerId) seen.ip seen.port seen.pubkey seen.authenticated
      clock = .ok grown) :
    seen.authenticated = true ∧ ∀ route ∈ grown.rows, route ∈ routes.rows ∨
      route = seen.endpoint clock := by
  simp only [RelayTable.observe] at observed
  split at observed
  · cases observed
  · rename_i authenticated
    split at observed
    · cases observed
    · split at observed
      · cases observed
      · cases observed
        refine ⟨by simpa using authenticated, ?_⟩
        intro route member
        rcases Table.mem_upsert member with old | new | ⟨old, present, same, changed⟩
        · exact .inl old
        · exact .inr new
        · right
          rw [changed, same]
          rfl

/-- The places of the other threads, behind the one of a thread that is at its step. -/
def placesWith (own : Option String) (others : List HopKnowledge) : List String :=
  own.toList ++ others.filterMap HopKnowledge.place

/-- The counts are right, with this place for the thread at its step. -/
def Counted (dispatcher : Dispatcher) (permits : Permits String) (own : Option String)
    (others : List HopKnowledge) : Prop :=
  permits.Counts (placesWith own others) ∧
    Permits.Within dispatcher.policy.maxPending dispatcher.policy.maxPendingPerSource
      (placesWith own others)

variable {state : RelayState × Sightings} {front back : List HopKnowledge}
  {known learned : HopKnowledge} {moment : Moment} {permits : Permits String}
  {others : List HopKnowledge} {source : String}

theorem Fits.counted (fits : dispatcher.Fits state (front ++ known :: back)) :
    Counted dispatcher state.1.permits known.place (front ++ back) :=
  ⟨fits.counts.perm (filterMap_split HopKnowledge.place front back known),
    fits.within.perm (filterMap_split HopKnowledge.place front back known)⟩

theorem Counted.acquire {after : Permits String}
    (counted : Counted dispatcher permits none others)
    (acquired : permits.acquire dispatcher.policy.maxPending dispatcher.policy.maxPendingPerSource
      source = some after) : Counted dispatcher after (some source) others :=
  ⟨Permits.acquire_counts acquired counted.1,
    Permits.acquire_within acquired counted.1 counted.2⟩

theorem Counted.release (counted : Counted dispatcher permits (some source) others) :
    Counted dispatcher (permits.release source) none others :=
  ⟨Permits.release_counts counted.1, counted.2.tail⟩

/-- A step of one thread, and what it has learned by it. -/
theorem Fits.step {β : Type} {op : RelayOp β} {after : RelayState}
    (fits : dispatcher.Fits state (front ++ known :: back))
    (counted : Counted dispatcher after.permits learned.place (front ++ back))
    (table : ∀ route ∈ after.routes.rows, (state.2.note op moment state.1).Reported route)
    (routed : ∀ request peerId route, learned.route = some (request, peerId, route) →
      dispatcher.Routed (state.2.note op moment state.1) request peerId route)
    (exchanged : ∀ exchange, learned.exchange = some exchange →
      exchange ∈ (state.2.note op moment state.1).exchanges) :
    dispatcher.Fits (after, state.2.note op moment state.1) (front ++ learned :: back) where
  counts := counted.1.perm (filterMap_split HopKnowledge.place front back learned).symm
  within := counted.2.perm (filterMap_split HopKnowledge.place front back learned).symm
  table := table
  routed := by
    intro other member request peerId route has
    rcases List.mem_append.mp member with first | second
    · have present := List.mem_append_left (known :: back) first
      exact (fits.routed other present request peerId route has).note op moment _
    · rcases List.mem_cons.mp second with own | last
      · rw [own] at has
        exact routed request peerId route has
      · have present := List.mem_append_right front (List.mem_cons_of_mem known last)
        exact (fits.routed other present request peerId route has).note op moment _
  exchanged := by
    intro other member exchange has
    rcases List.mem_append.mp member with first | second
    · exact exchanges_note (fits.exchanged other (List.mem_append_left _ first) exchange has) op
        moment _
    · rcases List.mem_cons.mp second with own | last
      · rw [own] at has
        exact exchanged exchange has
      · have present := List.mem_append_right front (List.mem_cons_of_mem known last)
        exact exchanges_note (fits.exchanged other present exchange has) op moment _

theorem Fits.own_routed {β : Type} {op : RelayOp β} {request : Submission} {peerId : String}
    {route : ObservedEndpoint} (fits : dispatcher.Fits state (front ++ known :: back))
    (own : known.route = some (request, peerId, route)) :
    dispatcher.Routed (state.2.note op moment state.1) request peerId route :=
  (fits.routed known (List.mem_append_right _ List.mem_cons_self) request peerId route own).note op
    moment _

theorem Fits.own_exchanged {β : Type} {op : RelayOp β} {exchange : Exchange}
    (fits : dispatcher.Fits state (front ++ known :: back))
    (own : known.exchange = some exchange) :
    exchange ∈ (state.2.note op moment state.1).exchanges :=
  exchanges_note (fits.exchanged known (List.mem_append_right _ List.mem_cons_self) exchange own) op
    moment _

theorem protocol_keeps (call : RelayCall) :
    (dispatcher.protocol call).Keeps (Pool.noting (runRelay dispatcher.policy) Sightings.note)
      dispatcher.Fits := by
  intro β op moment state front back known fits allowed
  have old : ∀ route ∈ state.1.routes.rows, (state.2.note op moment state.1).Reported route := by
    intro route member
    exact reported_note (fits.table route member) op moment _
  cases op with
  | get request peerId maxAge =>
      have counted := fits.counted
      cases found : state.1.routes.getWithin peerId maxAge moment.clock with
      | error failure =>
          simp only [Pool.noting, runRelay, protocol, HopKnowledge.learn, found]
          exact fits.step counted old (fun _ _ _ own => fits.own_routed own)
            fun _ own => fits.own_exchanged own
      | ok route =>
          simp only [Pool.noting, runRelay, protocol, HopKnowledge.learn, found]
          refine fits.step counted old ?_ fun _ own => fits.own_exchanged own
          intro asked other endpoint same
          cases same
          have row := getWithin_eq_ok found
          refine ⟨row.2.1, old route row.1, moment.clock, ?_, ?_⟩
          · simp only [Sightings.note, found]
            exact List.mem_cons_self
          · rw [← allowed.2]
            exact row.2.2
  | acquire source =>
      have counted := fits.counted
      rw [allowed.1] at counted
      cases acquired : state.1.permits.acquire dispatcher.policy.maxPending
          dispatcher.policy.maxPendingPerSource source with
      | none =>
          simp only [Pool.noting, runRelay, protocol, HopKnowledge.learn, acquired]
          rw [← allowed.1] at counted
          exact fits.step counted old (fun _ _ _ own => fits.own_routed own)
            fun _ own => fits.own_exchanged own
      | some permits =>
          simp only [Pool.noting, runRelay, protocol, HopKnowledge.learn, acquired]
          exact fits.step (counted.acquire acquired) old (fun _ _ _ own => fits.own_routed own)
            fun _ own => fits.own_exchanged own
  | forward route inner budget =>
      refine fits.step fits.counted old (fun _ _ _ own => fits.own_routed own) ?_
      intro exchange same
      cases same
      exact List.mem_cons_self
  | release source =>
      have counted := fits.counted
      rw [show known.place = some source from allowed] at counted
      exact fits.step counted.release old (fun _ _ _ own => fits.own_routed own)
        fun _ own => fits.own_exchanged own
  | observe seen =>
      have counted := fits.counted
      cases observed : state.1.routes.observe (some seen.peerId) seen.ip seen.port seen.pubkey
          seen.authenticated moment.clock with
      | error raised =>
          simp only [Pool.noting, runRelay, protocol, HopKnowledge.learn, observed]
          exact fits.step counted old (fun _ _ _ own => fits.own_routed own)
            fun _ own => fits.own_exchanged own
      | ok routes =>
          simp only [Pool.noting, runRelay, protocol, HopKnowledge.learn, observed]
          refine fits.step counted ?_ (fun _ _ _ own => fits.own_routed own)
            fun _ own => fits.own_exchanged own
          intro route member
          rcases observe_rows observed with ⟨authenticated, rows⟩
          rcases rows route member with present | new
          · exact old route present
          · exact ⟨moment.clock, seen, List.mem_cons_self, authenticated, new.symm⟩
  | discard peerId =>
      refine fits.step fits.counted ?_ (fun _ _ _ own => fits.own_routed own)
        fun _ own => fits.own_exchanged own
      intro route member
      exact old route (Table.mem_erase.mp member).1

private theorem place_turning {call : RelayCall} {steps : Nat} {opened : Opened}
    {route : ObservedEndpoint}
    {budget : ℚ} : dispatcher.place ⟨call, steps,
      (dispatcher.relayHop opened route budget).ensuring (.release source)⟩ =
        dispatcher.sourceOf call := rfl

private theorem ahead_hop {opened : Opened} {route : ObservedEndpoint} {budget : ℚ} {message : Dict}
    (made : dispatcher.answer opened moment.arrival = .ok message) :
    (Pool.ahead (Pool.noting (runRelay dispatcher.policy) Sightings.note) moment 2
      ((dispatcher.relayHop opened route budget).ensuring (.release source)) state).2 =
        .ret (.response message) := by
  simp only [relayHop, Prog.ensuring, Prog.ask_bind, Prog.handle, Prog.call_bind, Pool.ahead,
    Pool.noting, runRelay, made, Prog.ofExcept, Prog.ret_bind]

/-- The place of a thread can be read off what is left of its call. -/
theorem place_eq {thread : Thread RelayOp Failure RelayResult RelayCall}
    (obeys : thread.rest.Obeys (dispatcher.protocol thread.call) (dispatcher.ends thread.call)
      known) : dispatcher.place thread = known.place := by
  unfold place
  cases rest : thread.rest with
  | ret value =>
      rw [rest] at obeys
      exact obeys.1.symm
  | fail failure =>
      rw [rest] at obeys
      exact obeys.1.symm
  | call op next =>
      rw [rest] at obeys
      cases op with
      | get request peerId maxAge => exact obeys.1.1.symm
      | acquire source => exact obeys.1.1.symm
      | forward route inner budget => exact obeys.1.2.1.symm
      | release source => exact Eq.symm obeys.1
      | observe seen => exact Eq.symm obeys.1
      | discard peerId => exact Eq.symm obeys.1

theorem fits_start (fits : dispatcher.Fits state others) :
    dispatcher.Fits state (others ++ [({} : HopKnowledge)]) := by
  have same : (others ++ [({} : HopKnowledge)]).filterMap HopKnowledge.place =
      others.filterMap HopKnowledge.place := by
    rw [List.filterMap_append]
    exact List.append_nil _
  constructor
  · rw [same]
    exact fits.counts
  · rw [same]
    exact fits.within
  · exact fits.table
  · intro known member request peerId route has
    rcases List.mem_append.mp member with old | new
    · exact fits.routed known old request peerId route has
    · rw [List.mem_singleton.mp new] at has
      cases has
  · intro known member exchange has
    rcases List.mem_append.mp member with old | new
    · exact fits.exchanged known old exchange has
    · rw [List.mem_singleton.mp new] at has
      cases has

theorem fits_fresh : dispatcher.Fits ({}, {}) [] where
  counts := Permits.counts_empty
  within := Permits.within_empty
  table := by
    intro route impossible
    cases impossible
  routed := by
    intro known impossible
    cases impossible
  exchanged := by
    intro known impossible
    cases impossible

variable {pool : RelayPool}

theorem joint_of_run (moved : dispatcher.machine.Run (fun _ _ => True) .fresh pool) :
    ∃ knowns, pool.Joint dispatcher.protocol dispatcher.ends dispatcher.Fits knowns := by
  have free : dispatcher.machine.Run (fun _ label => ∀ call, label = .start call → True) .fresh
      pool := moved.mono fun _ _ _ _ _ => trivial
  exact Pool.Joint.runs protocol_keeps
    (fun call _ => ⟨{}, program_obeys call, fun _ _ fits => fits_start fits⟩) free
    ⟨[], fits_fresh, .nil⟩

private theorem places_eq {threads : List (Thread RelayOp Failure RelayResult RelayCall)}
    {knowns : List HopKnowledge} (each : List.Forall₂ (fun thread known => thread.rest.Obeys
      (dispatcher.protocol thread.call) (dispatcher.ends thread.call) known) threads knowns) :
    threads.filterMap dispatcher.place = knowns.filterMap HopKnowledge.place := by
  induction each with
  | nil => rfl
  | cons head _ ih => simp only [List.filterMap_cons, place_eq head, ih]

/-- What the threads of a run hold is what the policy counts, and never more than it allows. -/
theorem places_counted (moved : dispatcher.machine.Run (fun _ _ => True) .fresh pool) :
    pool.shared.1.permits.Counts (pool.threads.filterMap dispatcher.place) ∧
      Permits.Within dispatcher.policy.maxPending dispatcher.policy.maxPendingPerSource
        (pool.threads.filterMap dispatcher.place) := by
  rcases joint_of_run moved with ⟨knowns, joint⟩
  rw [places_eq joint.obeys]
  exact ⟨joint.fits.counts, joint.fits.within⟩

theorem hopTime_eq_ok {timeoutSec budget : ℚ} {env : ValidatedEnvelope}
    (timed : hopTime timeoutSec env = .ok budget) :
    0 < budget ∧ budget ≤ timeoutSec ∧ budget ≤ timeFloat (env.ttlMs.getD 0 / 1000) := by
  simp only [hopTime] at timed
  split at timed
  · cases timed
  · split at timed
    · cases timed
    · rename_i positive
      cases timed
      exact ⟨not_le.mp positive, min_le_left _ _, min_le_right _ _⟩

/-- A thread that turns to the target passes on the request inside a relay request that may be
relayed, over a route that was reported as authenticated and is fresh, and within both times. -/
theorem hop_permitted (moved : dispatcher.machine.Run (fun _ _ => True) .fresh pool)
    {thread : Thread RelayOp Failure RelayResult RelayCall} (member : thread ∈ pool.threads)
    {route : ObservedEndpoint} {inner : Bytes} {budget : ℚ}
    {next : Arrival → Prog RelayOp Failure RelayResult}
    (turns : thread.rest = .call (.forward route inner budget) next) :
    ∃ request opened, thread.call = .handle request ∧ dispatcher.Relays request opened ∧
      inner = opened.inner ∧ dispatcher.Routed pool.shared.2 request opened.target route ∧
      0 < budget ∧ budget ≤ request.timeoutSec ∧
      budget ≤ timeFloat (opened.env.ttlMs.getD 0 / 1000) := by
  rcases joint_of_run moved with ⟨knowns, joint⟩
  rcases List.mem_iff_getElem?.mp member with ⟨index, found⟩
  rcases forall₂_set joint.obeys found with ⟨front, known, back, shape, obeys, -⟩
  rw [turns] at obeys
  rcases obeys.1.2.2 with ⟨request, opened, call, relays, routed, same, timed⟩
  have present : known ∈ knowns := by
    rw [shape]
    exact List.mem_append_right _ List.mem_cons_self
  exact ⟨request, opened, call, relays, same, joint.fits.routed known present _ _ _ routed,
    hopTime_eq_ok timed⟩

/-- A response that a call has returned wraps what came back from the target, over its route, to the
very request that was inside the relay request; and a reader of the response finds it there. -/
theorem response_relayed (moved : dispatcher.machine.Run (fun _ _ => True) .fresh pool)
    {thread : Thread RelayOp Failure RelayResult RelayCall} (member : thread ∈ pool.threads)
    {message : Dict} (returned : thread.rest = .ret (.response message)) :
    ∃ request opened exchange, thread.call = .handle request ∧
      exchange ∈ pool.shared.2.exchanges ∧ exchange.inner = opened.inner ∧
      dispatcher.Routed pool.shared.2 request opened.target exchange.route ∧
      dispatcher.Answers request opened exchange.arrival message := by
  rcases joint_of_run moved with ⟨knowns, joint⟩
  rcases List.mem_iff_getElem?.mp member with ⟨index, found⟩
  rcases forall₂_set joint.obeys found with ⟨front, known, back, shape, obeys, -⟩
  rw [returned] at obeys
  rcases obeys.2 message rfl with ⟨request, opened, exchange, call, made, same, routed, answers⟩
  have present : known ∈ knowns := by
    rw [shape]
    exact List.mem_append_right _ List.mem_cons_self
  exact ⟨request, opened, exchange, call, joint.fits.exchanged known present exchange made, same,
    joint.fits.routed known present _ _ _ routed, answers⟩

end Threads

end Dispatcher

section Samples

open Dispatcher

def resultMessage : Dict :=
  [("destination", clientEndpoint.identity.toDict),
    ("nonce", .str "fedcba9876543210fedcba9876543210"), ("payload", .obj []),
    ("request_id", .str "0123456789abcdef0123456789abcdef"), ("service", .str "storage.summary"),
    ("source", destinationEndpoint.identity.toDict), ("status", .int 200),
    ("timestamp_ms", .int 60000), ("type", .str "res"), ("v", .int 1)]

@[irreducible] def resultText : String := String.ofList (JsonText.dumps (.obj resultMessage))

def resultEnvelope : ValidatedEnvelope where
  raw := resultMessage
  version := 1
  msgType := "res"
  requestId := "0123456789abcdef0123456789abcdef"
  source := destinationEndpoint.identity
  destination := clientEndpoint.identity
  service := some "storage.summary"
  timestampMs := 60000
  nonce := "fedcba9876543210fedcba9876543210"
  ttlMs := none

def sampleDispatcher : Dispatcher where
  py := relayPython
  codec := relayCodec
  localIdentity := rendezvousEndpoint.identity
  policy := { trustedSources := ["peer-c"], registeredTargets := ["peer-d"] }

def sampleSubmission : Submission where
  raw := .mapping (relayMessage .plain false)
  timeoutSec := 2
  outerMs := 60000
  innerMs := 60000

def sampleOpened : Opened where
  env := relayEnvelope .plain false
  target := "peer-d"
  inner := utf8 (innerText .plain)
  innerEnv := innerEnvelope .plain

def sampleObservation : Observation where
  peerId := "peer-d"
  ip := "198.51.100.4"
  port := 47777
  authenticated := true

def sampleMoment : Moment where
  clock := 60
  arrival := ⟨.bytes (utf8 resultText), 60000, ⟨60000, "00112233445566778899aabbccddeeff"⟩⟩

section Json

open JsonText

theorem resultMessage_fits : Fits { nesting := 100 } 100 (.obj resultMessage) := by
  have empty : Fits { nesting := 100 } 99 (.obj []) :=
    .obj List.nodup_nil fun _ none => absurd none List.not_mem_nil
  apply Fits.obj
  · change ["destination", "nonce", "payload", "request_id", "service", "source", "status",
      "timestamp_ms", "type", "v"].Nodup
    decide
  · unfold resultMessage
    simp only [List.forall_mem_cons]
    exact ⟨identity_fits _, .str _, empty, .str _, .str _, identity_fits _, .int (by decide),
      .int (by decide), .str _, .int (by decide), fun _ none => absurd none List.not_mem_nil⟩

theorem resultText_eq : resultText = String.ofList (dumps (.obj resultMessage)) := by
  unfold resultText
  with_reducible rfl

private theorem resultText_loads : relayPython.loads resultText = .ok (.obj resultMessage) := by
  have same : sortKeys (.obj resultMessage) = .obj resultMessage := by
    simp [sortKeys, sortValues, resultMessage, toDict_sorted, List.insertionSort]
  rw [resultText_eq]
  exact relayPython_loads resultMessage_fits same

private theorem resultText_length : (utf8 resultText).length = 289 := by
  have counted : bytesOf (write (.obj resultMessage)) = 289 := by decide +kernel
  rw [resultText_eq, utf8_length, bytesOf_dumps resultMessage_fits, counted]

end Json

theorem resultMessage_reads :
    Envelope.Reads ["storage.summary"] resultMessage 60000 resultEnvelope where
  raw := rfl
  version := by decide
  msgType := by decide
  requestId := hexField_reads rfl (by decide) (by decide)
  source := by decide
  destination := by decide
  nonce := hexField_reads rfl (by decide) (by decide)
  timestampMs := by decide
  window := by decide
  service := by decide
  ttlMs := by decide
  payload := by decide
  error := by decide
  response := by decide
  relay := by decide

theorem resultMessage_decodes :
    decodeMessage sampleDispatcher.py 60000 (utf8 resultText) = .ok resultEnvelope := by
  have long := resultText_length
  have sized : sizeOk resultMessage (utf8 resultText) = true := by
    have type : resultMessage.get "type" = .str "res" := rfl
    have limit : maxSizeForType "res" = 32768 := by decide
    rw [sizeOk, type]
    simp only [limit, decide_eq_true_eq]
    omega
  apply decodeMessage_eq_ok.mpr
  exact ⟨List.ne_nil_of_length_pos (by omega), (by simp only [maxGenericBytes]; omega), _,
    decodeUtf8_utf8 _, _, resultText_loads, sized, resultMessage_reads⟩

theorem sampleInner_decodes :
    decodeMessage sampleDispatcher.py 60000 (utf8 (innerText .plain)) =
      .ok (innerEnvelope .plain) :=
  innerMessage_decodes .plain relayPython rfl rfl

theorem sample_relays : sampleDispatcher.Relays sampleSubmission sampleOpened where
  read := validateEnvelope_eq_ok.mpr (relayMessage_reads .plain false)
  kind := rfl
  addressed := rfl
  target := rfl
  inside := by
    change Base64.strictDecode (b64Encode _).toList = _
    rw [b64Encode, String.toList_ofList]
    exact Base64.strictDecode_encode _
  small := by
    have long := innerText_length .plain
    simp only [sampleOpened, maxInnerBytes]
    omega
  innerRead := sampleInner_decodes
  innerKind := rfl
  innerTarget := rfl
  trusted := List.mem_singleton.mpr rfl
  registered := List.mem_singleton.mpr rfl
  service := by decide

def sampleRoutes : RelayTable where
  rows := [sampleObservation.endpoint 60]
  distinct := List.nodup_singleton _

theorem sampleRoutes_observed : RelayTable.observe Table.empty (some "peer-d") "198.51.100.4" 47777
    "" true 60 = .ok sampleRoutes := by
  have texts : strip "peer-d" = "peer-d" ∧ strip "198.51.100.4" = "198.51.100.4" := by
    decide +kernel
  have ports : ¬ ((47777 : Int) < 1 ∨ 65535 < (47777 : Int)) := by decide
  have names : ¬ ("peer-d" = "" ∨ "198.51.100.4" = "") := by decide
  simp only [RelayTable.observe, Option.getD_some, texts, Bool.not_true, Bool.false_eq_true,
    if_false, if_neg ports, if_neg names]
  apply congrArg Except.ok
  apply Table.ext
  simp only [sampleRoutes, Observation.endpoint, sampleObservation, texts]
  rfl

theorem sampleRoutes_get : sampleRoutes.getWithin "peer-d" 30 60 =
    .ok (sampleObservation.endpoint 60) := by
  have texts : strip "peer-d" = "peer-d" := by decide +kernel
  have found : sampleRoutes.find? "peer-d" = some (sampleObservation.endpoint 60) :=
    Table.find?_some_iff.mpr ⟨List.mem_singleton.mpr rfl, texts⟩
  have young : ¬ (30 < (60 : ℚ) - (sampleObservation.endpoint 60).lastSeen) := by
    change ¬ (30 < (60 : ℚ) - 60)
    norm_num
  simp only [RelayTable.getWithin, found, if_neg young]
  norm_num

/-- The table and what is known of it, when the target of the sample request was reported. -/
def sampleShared : RelayState × Sightings :=
  ({ routes := sampleRoutes }, { reported := [(60, sampleObservation)] })

def sampleAhead (count : Nat) : (RelayState × Sightings) × Prog RelayOp Failure RelayResult :=
  Pool.ahead (Pool.noting (runRelay sampleDispatcher.policy) Sightings.note) sampleMoment count
    (sampleDispatcher.handle sampleSubmission) sampleShared

theorem sample_run (count : Nat) : ∃ (steps first : Nat),
    sampleDispatcher.machine.Run (fun _ _ => True) .fresh
      { shared := (sampleAhead count).1
        threads := [⟨.observe sampleObservation, first, .ret .done⟩,
          ⟨.handle sampleSubmission, steps, (sampleAhead count).2⟩] } := by
  have reported : Pool.ahead (Pool.noting (runRelay sampleDispatcher.policy) Sightings.note)
      sampleMoment 1 (sampleDispatcher.program (.observe sampleObservation)) RelayPool.fresh.shared =
        (sampleShared, .ret .done) := by
    have seen : RelayTable.observe Table.empty (some sampleObservation.peerId) sampleObservation.ip
        sampleObservation.port sampleObservation.pubkey sampleObservation.authenticated 60 =
          .ok sampleRoutes := sampleRoutes_observed
    simp only [Dispatcher.program, Prog.attempt_bind, Pool.ahead, Pool.noting, runRelay,
      RelayPool.fresh, Sightings.note, sampleMoment, seen, Prog.ofExcept, Prog.ret_bind,
      sampleShared]
  have reports : ∃ first, sampleDispatcher.machine.Run (fun _ _ => True) .fresh _ :=
    Pool.run_ahead RelayPool.fresh (.observe sampleObservation) sampleMoment 1
  rcases reports with ⟨first, reports⟩
  rw [reported] at reports
  have handles : ∃ steps, sampleDispatcher.machine.Run (fun _ _ => True)
      ⟨sampleShared, [⟨.observe sampleObservation, first, .ret .done⟩]⟩ _ :=
    Pool.run_ahead _ (.handle sampleSubmission) sampleMoment count
  rcases handles with ⟨steps, handles⟩
  exact ⟨steps, first, reports.trans handles⟩

private theorem sampleHop_time : hopTime 2 (relayEnvelope .plain false) = .ok 2 := by
  have float : timeFloat ((2500 : Int) / 1000) = 5 / 2 := by decide +kernel
  simp only [hopTime, relayEnvelope, Option.getD_some, float]
  norm_num

theorem sample_handle : sampleDispatcher.handle sampleSubmission =
    .call (.get sampleSubmission "peer-d" 30) fun found => Prog.ofExcept found >>= fun route =>
      .call (.acquire "peer-c") fun acquired => Prog.ofExcept acquired >>= fun _ =>
        (sampleDispatcher.relayHop sampleOpened route 2).ensuring (.release "peer-c") := by
  have timed : hopTime sampleSubmission.timeoutSec sampleOpened.env = .ok 2 := sampleHop_time
  unfold handle
  rw [openRequest_eq_ok.mpr sample_relays]
  simp only [Prog.ofExcept, Prog.ret_bind, timed]
  rfl

def samplePermits : Permits String where
  total := 1
  byKey := Function.update (fun _ => 0) "peer-c" 1

theorem samplePermits_acquired : ({} : Permits String).acquire sampleDispatcher.policy.maxPending
    sampleDispatcher.policy.maxPendingPerSource "peer-c" = some samplePermits :=
  Permits.acquire_eq_some.mpr ⟨by decide, by decide, rfl⟩

theorem sampleAhead_two : sampleAhead 2 =
    (({ permits := samplePermits, routes := sampleRoutes },
      { reported := [(60, sampleObservation)]
        looked := [(sampleSubmission, 60, sampleObservation.endpoint 60)] }),
      (sampleDispatcher.relayHop sampleOpened (sampleObservation.endpoint 60) 2).ensuring
        (.release "peer-c")) := by
  have clock : sampleMoment.clock = 60 := rfl
  simp only [sampleAhead, sample_handle, Pool.ahead, Pool.noting, runRelay, sampleShared,
    Sightings.note, clock, sampleRoutes_get, Prog.ofExcept, Prog.ret_bind, samplePermits_acquired]

private theorem sampleAhead_four {message : Dict}
    (made : sampleDispatcher.answer sampleOpened sampleMoment.arrival = .ok message) :
    (sampleAhead 4).2 = .ret (.response message) := by
  have clock : sampleMoment.clock = 60 := rfl
  simp only [sampleAhead, sample_handle, Pool.ahead, Pool.noting, runRelay, sampleShared,
    Sightings.note, clock, sampleRoutes_get, Prog.ofExcept, Prog.ret_bind, samplePermits_acquired]
  exact ahead_hop made

theorem places_counted_busy : ∃ pool,
    sampleDispatcher.machine.Run (fun _ _ => True) .fresh pool ∧
      pool.threads.filterMap sampleDispatcher.place = ["peer-c"] ∧
      pool.shared.1.permits.Counts (pool.threads.filterMap sampleDispatcher.place) ∧
      Permits.Within 256 32 (pool.threads.filterMap sampleDispatcher.place) := by
  rcases sample_run 2 with ⟨steps, first, moved⟩
  refine ⟨_, moved, ?_, places_counted moved⟩
  have source : sampleDispatcher.sourceOf (.handle sampleSubmission) = some "peer-c" :=
    sourceOf_handle sample_relays
  rw [sampleAhead_two]
  have turned : sampleDispatcher.place ⟨.handle sampleSubmission, steps,
      (sampleDispatcher.relayHop sampleOpened (sampleObservation.endpoint 60) 2).ensuring
        (.release "peer-c")⟩ = some "peer-c" := by
    rw [place_turning, source]
  rw [List.filterMap_cons_none rfl, List.filterMap_cons_some turned, List.filterMap_nil]

theorem hop_permitted_sample : ∃ pool request opened,
    sampleDispatcher.machine.Run (fun _ _ => True) .fresh pool ∧
      sampleDispatcher.Relays request opened ∧
      sampleDispatcher.Routed pool.shared.2 request opened.target (sampleObservation.endpoint 60) ∧
      2 ≤ request.timeoutSec := by
  rcases sample_run 2 with ⟨steps, first, moved⟩
  rw [sampleAhead_two] at moved
  rcases hop_permitted moved (List.mem_cons_of_mem _ List.mem_cons_self) rfl with
    ⟨request, opened, call, relays, same, routed, positive, within, lives⟩
  exact ⟨_, request, opened, moved, relays, routed, within⟩

theorem sample_answer : ∃ message,
    sampleDispatcher.answer sampleOpened sampleMoment.arrival = .ok message := by
  have built : (newRelayResponse ["storage.summary"] rendezvousEndpoint.identity
      clientEndpoint.identity sampleMoment.arrival.stamp (relayMessage .plain false) "peer-d"
      (utf8 resultText)).isOk = true := by decide +kernel
  rcases exists_of_isOk built with ⟨message, made⟩
  refine ⟨message, ?_⟩
  have read : decodeMessage sampleDispatcher.py sampleMoment.arrival.nowMs (utf8 resultText) =
      .ok resultEnvelope := resultMessage_decodes
  unfold answer
  apply bind_eq_ok.mpr
  refine ⟨utf8 resultText, rfl, ?_⟩
  rw [read]
  have kind : ¬ (resultEnvelope.msgType ≠ "res" ∧ resultEnvelope.msgType ≠ "err") :=
    fun both => both.1 rfl
  have same : resultEnvelope.requestId = sampleOpened.innerEnv.requestId := rfl
  have own : resultEnvelope.source.peerId = sampleOpened.target := rfl
  simp only [if_neg kind, if_neg (not_not.mpr same), if_neg (not_not.mpr own)]
  exact congrArg lift made

theorem response_relayed_sample : ∃ pool message request opened exchange,
    sampleDispatcher.machine.Run (fun _ _ => True) .fresh pool ∧
      exchange ∈ pool.shared.2.exchanges ∧ exchange.inner = opened.inner ∧
      sampleDispatcher.Answers request opened exchange.arrival message := by
  rcases sample_answer with ⟨message, made⟩
  rcases sample_run 4 with ⟨steps, first, moved⟩
  rw [sampleAhead_four made] at moved
  rcases response_relayed moved (List.mem_cons_of_mem _ List.mem_cons_self) rfl with
    ⟨request, opened, exchange, call, member, same, routed, answers⟩
  exact ⟨_, message, request, opened, exchange, moved, member, same, answers⟩

end Samples

end HashBurst.Tep
