import HashBurst.Tep.Daemon
import HashBurst.Tep.Survival

/-! A request over the direct path and then over relays (`FailoverTepTransport` in
`hb_tep_relay.py`, `relay_transport` in `hb_tep.py` and `hb_tep_runtime.py`). -/

namespace HashBurst.Tep

open Lib Lib.Py

/-- What an attempt raises: `TimeoutError`, another `OSError`, `RelayError`, `ProtocolError`, or
something else. -/
inductive AttemptError
  | timeout (message : String)
  | os
  | relay (code message : String)
  | protocol (code message : String)
  | other
  deriving DecidableEq

/-- `except (TimeoutError, RelayError, OSError)` -/
def AttemptError.caught : AttemptError → Bool
  | timeout _ => true
  | os => true
  | relay _ _ => true
  | protocol _ _ => false
  | other => false

def Raised.toAttempt : Raised → AttemptError
  | .protocol code message => .protocol code message
  | .relay code message => .relay code message
  | .loads _ => .other
  | .unicode => .other

def Failure.toAttempt : Failure → AttemptError
  | .raised own => own.toAttempt
  | .service _ _ => .other
  | .timeout => .timeout ""
  | .other => .other

/-- The value, with its exception as one of an attempt. -/
def attempted {α : Type} : Except Raised α → Except AttemptError α
  | .ok value => .ok value
  | .error raised => .error raised.toAttempt

section Transport

/-- `FailoverTepTransport.__init__`, which drops empty and repeated ids. -/
structure FailoverTransport where
  relayPeerIds : List String
  directTimeoutSec : ℚ := 6 / 5
  maxRelayAttempts : Nat := 2

def FailoverTransport.new (relayPeerIds : List String) (directTimeoutSec : ℚ)
    (maxRelayAttempts : Nat) : FailoverTransport where
  relayPeerIds := (relayPeerIds.filter fun id => id ≠ "").eraseDups
  directTimeoutSec
  maxRelayAttempts

/-- What a call meets: its clock readings, its direct attempt and its relay attempts, each in order
and with the timeout it is given. -/
structure Course where
  clock : Nat → ℚ
  direct : ℚ → Except AttemptError Bytes
  relay : Nat → String → ℚ → Except AttemptError Bytes

/-- A relay attempt: to whom, when, for how long, and what came of it. -/
structure RelayAttempt where
  peer : String
  reading : ℚ
  timeoutSec : ℚ
  outcome : Except AttemptError Bytes

inductive Path
  | direct
  | relay (peer : String)
  | failed
  /-- An exception that is passed on leaves `last_path` as it was. -/
  | kept
  deriving DecidableEq

structure Called where
  directTimeoutSec : Option ℚ
  attempts : List RelayAttempt
  lastPath : Path
  outcome : Except AttemptError Bytes

variable (transport : FailoverTransport) (course : Course) (timeoutSec : ℚ)

/-- The time that is left before the relay attempt of this number. -/
def remaining (number : Nat) : ℚ :=
  timeoutSec - max 0 (course.clock (number + 1) - course.clock 0)

/-- The loop over the candidates; `number` have been attempted. -/
def tryRelays (number : Nat) : List String → List RelayAttempt × Path × Except AttemptError Bytes
  | [] => ([], .failed, .error (.timeout
      (if number = 0 then "direct TEP path failed and no relay path is available"
      else "direct and relay TEP paths failed")))
  | peer :: rest =>
      if transport.maxRelayAttempts ≤ number ∨ remaining course timeoutSec number ≤ 0 then
        ([], .failed, .error (.timeout
          (if number = 0 then "direct TEP path failed and no relay path is available"
          else "direct and relay TEP paths failed")))
      else
        let outcome := course.relay number peer (remaining course timeoutSec number)
        let attempt : RelayAttempt :=
          { peer, reading := course.clock (number + 1)
            timeoutSec := remaining course timeoutSec number, outcome }
        match outcome with
        | .ok _ => ([attempt], .relay peer, outcome)
        | .error failure =>
            if failure.caught then
              let later := tryRelays (number + 1) rest
              (attempt :: later.1, later.2)
            else ([attempt], .kept, outcome)

def FailoverTransport.call : Called :=
  if timeoutSec ≤ 0 then
    { directTimeoutSec := none, attempts := [], lastPath := .kept
      outcome := .error (.timeout "TEP RPC timeout budget exhausted") }
  else
    let budget := min transport.directTimeoutSec timeoutSec
    match course.direct budget with
    | .ok answer =>
        { directTimeoutSec := some budget, attempts := [], lastPath := .direct, outcome := .ok answer }
    | .error failure =>
        if failure.caught then
          let relays := tryRelays transport course timeoutSec 0 transport.relayPeerIds
          { directTimeoutSec := some budget, attempts := relays.1, lastPath := relays.2.1
            outcome := relays.2.2 }
        else
          { directTimeoutSec := some budget, attempts := [], lastPath := .kept
            outcome := .error failure }

end Transport

/-- What a relay attempt of the daemon meets: its tables, the request ids that wait for answers, the
id and stamp of its message, the `sendto` of the socket, the answer if one comes in time, and the
clocks. -/
structure RelayRound where
  peers : PeerTable
  routes : RelayTable
  pending : List String
  requestId : String
  stamp : Stamp
  socket : Option AttemptError
  reply : Option Bytes
  nowMs : Int
  routeClock : ℚ

section Daemon

variable (node : Receiver) (relay : RelayConfig) (codec : Codec) (round : RelayRound)

def pendingCreate (pending : List String) (requestId : String) : Except AttemptError Unit :=
  if requestId ∈ pending then .error (.protocol "duplicate_request_id" "request already pending")
  else if 256 ≤ pending.length then
    .error (.protocol "client_overloaded" "too many pending APP requests")
  else .ok ()

/-- `_send_plain_to_peer`, for a payload that fits into a packet. -/
def sendPlain (peer : Peer) : Except AttemptError Unit :=
  if peer.pubkey.getD "" = "" ∨ !node.crypto.haveCrypto then
    .error (.protocol "authentication_failed" "APP transport requires registered X25519 peer key")
  else
    match node.crypto.deriveSharedKey peer.pubkey, round.socket with
    | none, _ => .error .other
    | some _, some failure => .error failure
    | some _, none => .ok ()

def relayRoundtrip (peer : Peer) (targetPeerId : String) (inner : Bytes) (timeoutSec : ℚ)
    (expired : String) : Except AttemptError Bytes := do
  let message ← attempted (newRelayRequest node.py.services node.self
    { nodeId := peer.id, peerId := peer.peerId.getD "" } round.stamp targetPeerId round.requestId
    inner (relayTtlMs timeoutSec))
  let _ ← attempted (encodeMessage node.py.services codec message)
  pendingCreate round.pending round.requestId
  sendPlain node round peer
  match round.reply with
  | none => .error (.timeout expired)
  | some raw => .ok raw

def relayAnswer (raw : Bytes) (refuse : String → String → AttemptError) (wrongType badInner : String) :
    Except AttemptError Bytes := do
  let env ← attempted (decodeMessage node.py round.nowMs raw)
  if env.msgType ≠ "relay_res" then .error (refuse "bad_response" wrongType)
  else
    match Base64.urlsafeDecode (nestedText node env "payload" "inner").toList with
    | none => .error (refuse "bad_response" badInner)
    | some inner => .ok inner

def appUnavailable : AttemptError := .protocol "app_unavailable" "HB-TEP-APP/1 is not ready"

/-- `relay_transport` of the base daemon. -/
def relayTransportBase (rendezvousPeerId targetPeerId : String) (rawRequest : Bytes)
    (timeoutSec : ℚ) : Except AttemptError Bytes :=
  if !node.appReady then .error appUnavailable
  else
    match round.peers.findByPeerId rendezvousPeerId with
    | none => .error (.protocol "destination_unknown" "rendezvous peer is not registered")
    | some rendezvous =>
        if rendezvous.pubkey.getD "" = "" then
          .error (.protocol "destination_unknown" "rendezvous peer is not registered")
        else do
          let raw ← relayRoundtrip node codec round rendezvous targetPeerId rawRequest timeoutSec
            "TEP relay request timed out"
          relayAnswer node round raw .protocol "rendezvous did not return relay_res"
            "invalid relay response payload"

def relayForwardToTarget (targetPeerId : String) (innerRaw : Bytes) (timeoutSec : ℚ) :
    Except AttemptError Bytes :=
  match round.peers.findByPeerId targetPeerId with
  | none => .error (.relay "destination_unknown" "relay target is not registered")
  | some target =>
      if target.pubkey.getD "" = "" then
        .error (.relay "destination_unknown" "relay target is not registered")
      else do
        let raw ← relayRoundtrip node codec round target targetPeerId innerRaw timeoutSec
          "TEP relay hop timed out"
        relayAnswer node round raw .relay "relay target did not return relay_res"
          "relay target returned invalid inner response"

/-- `except RelayError as exc: raise ProtocolError(exc.code, exc.message)` -/
def relayAsProtocol : Except AttemptError Bytes → Except AttemptError Bytes
  | .error (.relay code message) => .error (.protocol code message)
  | outcome => outcome

def checkLocalRelay (targetPeerId : String) (rawRequest : Bytes) : Except AttemptError Unit := do
  if !node.appReady then .error appUnavailable
  else if !relay.relayEnabled then
    .error (.protocol "relay_unauthorized" "local rendezvous relay is disabled")
  else
    let env ← attempted (decodeMessage node.py round.nowMs rawRequest)
    if env.msgType ≠ "req" then
      .error (.protocol "unsupported_type" "local rendezvous accepts req only")
    else if env.source ≠ node.self then
      .error (.protocol "identity_mismatch" "local relay source identity mismatch")
    else if env.destination.peerId ≠ targetPeerId then
      .error (.protocol "identity_mismatch" "local relay target identity mismatch")
    else if env.service.getD "" ∉ ["storage.summary", "master.status"] then
      .error (.protocol "unsupported_service"
        "local relay permits approved read-only services only")
    else
      match round.peers.findByPeerId targetPeerId with
      | none => .error (.protocol "destination_unknown" "relay target is not registered")
      | some target =>
          if target.pubkey.getD "" = "" then
            .error (.protocol "destination_unknown" "relay target is not registered")
          else .ok ()

/-- `relay_transport` of the runtime, which may be its own rendezvous. -/
def relayTransport (rendezvousPeerId targetPeerId : String) (rawRequest : Bytes) (timeoutSec : ℚ) :
    Except AttemptError Bytes :=
  if rendezvousPeerId ≠ node.self.peerId then
    relayTransportBase node codec round rendezvousPeerId targetPeerId rawRequest timeoutSec
  else do
    checkLocalRelay node relay round targetPeerId rawRequest
    relayAsProtocol <|
      match round.routes.get targetPeerId round.routeClock with
      | .error failure => .error failure.toAttempt
      | .ok _ => relayForwardToTarget node codec round targetPeerId rawRequest timeoutSec

/-- The daemon's call: its relay attempts meet one round each. -/
def daemonCourse (clock : Nat → ℚ) (direct : ℚ → Except AttemptError Bytes)
    (rounds : Nat → RelayRound) (targetPeerId : String) (rawRequest : Bytes) : Course where
  clock
  direct
  relay number peer timeoutSec :=
    relayTransport node relay codec (rounds number) peer targetPeerId rawRequest timeoutSec

end Daemon

section Loop

variable (transport : FailoverTransport) (course : Course) (timeoutSec : ℚ)

def Spent (number : Nat) : Prop := remaining course timeoutSec number ≤ 0

/-- The attempt of this number, to this peer, raises what the loop catches. -/
def FailsQuietly (number : Nat) (peer : String) : Prop :=
  ∃ failure, course.relay number peer (remaining course timeoutSec number) = .error failure ∧
    failure.caught = true

/-- Every attempt before this candidate has failed quietly, and there is time and leave for one
more. -/
structure ReachesRelay (number : Nat) (ids : List String) (index : Nat) : Prop where
  allowed : number + index < transport.maxRelayAttempts
  unspent : ∀ earlier, earlier ≤ index → ¬ Spent course timeoutSec (number + earlier)
  quiet : ∀ earlier peer, earlier < index → ids[earlier]? = some peer →
    FailsQuietly course timeoutSec (number + earlier) peer

/-- There is no next candidate, no leave or no time for it. -/
def LastRelay (number : Nat) (ids : List String) (index : Nat) : Prop :=
  ids.length ≤ index ∨ transport.maxRelayAttempts ≤ number + index ∨
    Spent course timeoutSec (number + index)

/-- Each attempt that is reached and raises something else is the last one. -/
def LoudIsLast (number : Nat) (ids : List String) : Prop :=
  ∀ index peer, ids[index]? = some peer →
    ReachesRelay transport course timeoutSec number ids index →
    ∀ failure, course.relay (number + index) peer (remaining course timeoutSec (number + index)) =
      .error failure → failure.caught = false →
        LastRelay transport course timeoutSec number ids (index + 1)

/-- The attempts end with the candidates, with the leave or the time for them, or with a success. -/
def EndsInOrder (number : Nat) (ids : List String) (attempts : List RelayAttempt) : Prop :=
  LastRelay transport course timeoutSec number ids attempts.length ∨
    ∃ attempt answer, attempts.getLast? = some attempt ∧ attempt.outcome = .ok answer

variable {transport course timeoutSec} {number : Nat} {ids : List String} {peer : String}

theorem reachesRelay_zero (allowed : number < transport.maxRelayAttempts)
    (unspent : ¬ Spent course timeoutSec number) :
    ReachesRelay transport course timeoutSec number ids 0 where
  allowed := allowed
  unspent earlier bound := by
    have same : earlier = 0 := by omega
    rw [same]
    exact unspent
  quiet earlier peer bound := absurd bound (Nat.not_lt_zero earlier)

theorem reachesRelay_succ {index : Nat} (unspent : ¬ Spent course timeoutSec number)
    (quiet : FailsQuietly course timeoutSec number peer) :
    ReachesRelay transport course timeoutSec number (peer :: ids) (index + 1) ↔
      ReachesRelay transport course timeoutSec (number + 1) ids index := by
  have shift (earlier : Nat) : number + (earlier + 1) = number + 1 + earlier := by omega
  constructor
  · intro reaches
    refine ⟨by rw [← shift]; exact reaches.allowed, ?_, ?_⟩
    · intro earlier bound
      rw [← shift]
      exact reaches.unspent (earlier + 1) (by omega)
    · intro earlier other bound found
      rw [← shift]
      exact reaches.quiet (earlier + 1) other (by omega) found
  · intro reaches
    refine ⟨by rw [shift]; exact reaches.allowed, ?_, ?_⟩
    · intro earlier bound
      cases earlier with
      | zero => exact unspent
      | succ earlier =>
          rw [shift]
          exact reaches.unspent earlier (by omega)
    · intro earlier other bound found
      cases earlier with
      | zero =>
          cases found
          exact quiet
      | succ earlier =>
          rw [shift]
          exact reaches.quiet earlier other (by omega) found

theorem lastRelay_succ {index : Nat} :
    LastRelay transport course timeoutSec number (peer :: ids) (index + 1) ↔
      LastRelay transport course timeoutSec (number + 1) ids index := by
  have shift : number + (index + 1) = number + 1 + index := by omega
  unfold LastRelay
  rw [shift, List.length_cons, Nat.add_le_add_iff_right]

theorem loudIsLast_cons (unspent : ¬ Spent course timeoutSec number)
    (quiet : FailsQuietly course timeoutSec number peer) :
    LoudIsLast transport course timeoutSec number (peer :: ids) ↔
      LoudIsLast transport course timeoutSec (number + 1) ids := by
  have shift (index : Nat) : number + (index + 1) = number + 1 + index := by omega
  constructor
  · intro loud index other found reaches failure raised uncaught
    apply lastRelay_succ.mp
    apply loud (index + 1) other found ((reachesRelay_succ unspent quiet).mpr reaches) failure _
      uncaught
    rw [shift]
    exact raised
  · intro loud index other found reaches failure raised uncaught
    cases index with
    | zero =>
        cases found
        obtain ⟨own, fails, caught⟩ := quiet
        have same : own = failure := Except.error.inj (fails.symm.trans raised)
        rw [same, uncaught] at caught
        cases caught
    | succ index =>
        apply lastRelay_succ.mpr
        rw [shift] at raised
        exact loud index other found ((reachesRelay_succ unspent quiet).mp reaches) failure raised
          uncaught

theorem loudIsLast_stopped
    (stopped : transport.maxRelayAttempts ≤ number ∨ remaining course timeoutSec number ≤ 0) :
    LoudIsLast transport course timeoutSec number ids := by
  intro index peer _ reaches
  rcases stopped with limit | spent
  · have allowed := reaches.allowed
    omega
  · exact absurd spent (reaches.unspent 0 (Nat.zero_le index))

/-- Only the first attempt is reached after it has answered or raised something else. -/
theorem reachesRelay_first {index : Nat} (found : (peer :: ids)[0]? = some peer)
    (final : ¬ FailsQuietly course timeoutSec number peer)
    (reaches : ReachesRelay transport course timeoutSec number (peer :: ids) index) : index = 0 := by
  cases index with
  | zero => rfl
  | succ index => exact absurd (reaches.quiet 0 peer (Nat.succ_pos index) found) final

/-- The loop ends in order exactly when what it does not catch comes last. -/
theorem tryRelays_ends_iff (transport : FailoverTransport) (course : Course) (timeoutSec : ℚ)
    (ids : List String) (number : Nat) :
    EndsInOrder transport course timeoutSec number ids
        (tryRelays transport course timeoutSec number ids).1 ↔
      LoudIsLast transport course timeoutSec number ids := by
  induction ids generalizing number with
  | nil =>
      apply iff_of_true
      · exact .inl (.inl le_rfl)
      · intro index peer found
        cases found
  | cons peer rest ih =>
      rw [tryRelays]
      split
      · rename_i stopped
        apply iff_of_true
        · exact .inl (.inr stopped)
        · exact loudIsLast_stopped stopped
      · rename_i proceeds
        have unspent : ¬ Spent course timeoutSec number := fun spent => proceeds (.inr spent)
        have allowed : number < transport.maxRelayAttempts := by
          by_contra limit
          exact proceeds (.inl (Nat.le_of_not_lt limit))
        cases outcome : course.relay number peer (remaining course timeoutSec number) with
        | ok answer =>
            have final : ¬ FailsQuietly course timeoutSec number peer := by
              rintro ⟨failure, raised, -⟩
              rw [outcome] at raised
              cases raised
            apply iff_of_true
            · exact .inr ⟨_, answer, rfl, rfl⟩
            · intro index other found reaches failure raised
              have first := reachesRelay_first rfl final reaches
              subst first
              cases found
              rw [Nat.add_zero, outcome] at raised
              cases raised
        | error failure =>
            cases caught : failure.caught with
            | true =>
                have quiet : FailsQuietly course timeoutSec number peer :=
                  ⟨failure, outcome, caught⟩
                rw [loudIsLast_cons unspent quiet, ← ih (number + 1)]
                simp only [caught, if_true]
                generalize (tryRelays transport course timeoutSec (number + 1) rest).1 = later
                unfold EndsInOrder
                rw [List.length_cons, lastRelay_succ]
                cases later with
                | nil => simp
                | cons attempt later => rw [List.getLast?_cons_cons]
            | false =>
                have final : ¬ FailsQuietly course timeoutSec number peer := by
                  rintro ⟨own, raised, quiet⟩
                  have same : failure = own := Except.error.inj (outcome.symm.trans raised)
                  rw [← same, caught] at quiet
                  cases quiet
                simp only [caught, Bool.false_eq_true, if_false]
                constructor
                · rintro (last | ⟨attempt, answer, own, answered⟩)
                  · intro index other found reaches raised fails uncaught
                    have first := reachesRelay_first rfl final reaches
                    subst first
                    exact last
                  · cases own
                    cases answered
                · intro loud
                  exact .inl (loud 0 peer rfl (reachesRelay_zero allowed unspent) failure outcome
                    caught)

theorem tryRelays_order : ((tryRelays transport course timeoutSec number ids).1.map
    RelayAttempt.peer) <+: ids := by
  induction ids generalizing number with
  | nil => exact List.prefix_refl []
  | cons peer rest ih =>
      rw [tryRelays]
      split
      · exact List.nil_prefix
      · cases course.relay number peer (remaining course timeoutSec number) with
        | ok answer => exact List.prefix_append [peer] rest
        | error failure =>
            simp only
            split
            · exact (List.prefix_cons_inj peer).mpr ih
            · exact List.prefix_append [peer] rest

theorem tryRelays_budget : ∀ attempt ∈ (tryRelays transport course timeoutSec number ids).1,
    attempt.reading + attempt.timeoutSec ≤ course.clock 0 + timeoutSec := by
  have within (number : Nat) : course.clock (number + 1) + remaining course timeoutSec number ≤
      course.clock 0 + timeoutSec := by
    have elapsed := le_max_right 0 (course.clock (number + 1) - course.clock 0)
    unfold remaining
    linarith
  induction ids generalizing number with
  | nil => exact fun attempt member => absurd member List.not_mem_nil
  | cons peer rest ih =>
      rw [tryRelays]
      split
      · exact fun attempt member => absurd member List.not_mem_nil
      · cases course.relay number peer (remaining course timeoutSec number) with
        | ok answer =>
            intro attempt member
            rw [List.mem_singleton.mp member]
            exact within number
        | error failure =>
            simp only
            split
            · intro attempt member
              rcases List.mem_cons.mp member with rfl | later
              · exact within number
              · exact ih attempt later
            · intro attempt member
              rw [List.mem_singleton.mp member]
              exact within number

end Loop

/-- The call goes on from each relay attempt that fails, in order and within the caller's
timeout. -/
structure GoesOn (transport : FailoverTransport) (course : Course) (timeoutSec : ℚ) : Prop where
  order : ((transport.call course timeoutSec).attempts.map RelayAttempt.peer) <+:
    transport.relayPeerIds
  ends : EndsInOrder transport course timeoutSec 0 transport.relayPeerIds
    (transport.call course timeoutSec).attempts
  relays : ∀ attempt ∈ (transport.call course timeoutSec).attempts,
    attempt.reading + attempt.timeoutSec ≤ course.clock 0 + timeoutSec
  direct : ∀ budget ∈ (transport.call course timeoutSec).directTimeoutSec, budget ≤ timeoutSec

theorem call_goesOn_iff {transport : FailoverTransport} {course : Course} {timeoutSec : ℚ}
    {failure : AttemptError} (caught : failure.caught = true)
    (timedOut : course.direct (min transport.directTimeoutSec timeoutSec) = .error failure) :
    GoesOn transport course timeoutSec ↔
      LoudIsLast transport course timeoutSec 0 transport.relayPeerIds := by
  by_cases budget : timeoutSec ≤ 0
  · have called : transport.call course timeoutSec =
        { directTimeoutSec := none, attempts := [], lastPath := .kept
          outcome := .error (.timeout "TEP RPC timeout budget exhausted") } := if_pos budget
    have spent : remaining course timeoutSec 0 ≤ 0 := by
      have elapsed := le_max_left 0 (course.clock (0 + 1) - course.clock 0)
      unfold remaining
      linarith
    apply iff_of_true
    · refine ⟨?_, ?_, ?_, ?_⟩ <;> rw [called]
      · exact List.nil_prefix
      · exact .inl (.inr (.inr spent))
      · exact fun attempt member => absurd member List.not_mem_nil
      · rintro budget ⟨⟩
    · exact loudIsLast_stopped (.inr spent)
  · have called : transport.call course timeoutSec =
        { directTimeoutSec := some (min transport.directTimeoutSec timeoutSec)
          attempts := (tryRelays transport course timeoutSec 0 transport.relayPeerIds).1
          lastPath := (tryRelays transport course timeoutSec 0 transport.relayPeerIds).2.1
          outcome := (tryRelays transport course timeoutSec 0 transport.relayPeerIds).2.2 } := by
      rw [FailoverTransport.call, if_neg budget]
      simp only [timedOut, caught, if_true]
    rw [← tryRelays_ends_iff]
    constructor
    · intro goes
      have ends := goes.ends
      rw [called] at ends
      exact ends
    · intro ends
      refine ⟨?_, ?_, ?_, ?_⟩ <;> rw [called]
      · exact tryRelays_order
      · exact ends
      · exact tryRelays_budget
      · rintro budget ⟨⟩
        exact min_le_right _ _

def CaughtFor {α : Type} (cause : AttemptError → Prop) (result : Except AttemptError α) : Prop :=
  ∀ failure, result = .error failure → failure.caught = true → cause failure

namespace CaughtFor

variable {α β : Type} {cause wider : AttemptError → Prop}

theorem ok (value : α) : CaughtFor cause (.ok value) := by
  intro failure raised
  cases raised

theorem error {own : AttemptError} (loud : own.caught = false) :
    CaughtFor cause (.error own : Except AttemptError α) := by
  intro failure raised caught
  cases raised
  rw [loud] at caught
  cases caught

theorem of_cause {own : AttemptError} (because : cause own) :
    CaughtFor cause (.error own : Except AttemptError α) := by
  intro failure raised _
  cases raised
  exact because

theorem bind {first : Except AttemptError α} {rest : α → Except AttemptError β}
    (front : CaughtFor cause first) (back : ∀ value, CaughtFor cause (rest value)) :
    CaughtFor cause (first >>= rest) := by
  cases first with
  | error own =>
      intro failure raised
      cases raised
      exact front own rfl
  | ok value => exact back value

theorem mono {result : Except AttemptError α} (caught : CaughtFor cause result)
    (widen : ∀ failure, cause failure → wider failure) : CaughtFor wider result :=
  fun failure raised quiet => widen failure (caught failure raised quiet)

theorem attempted {result : Except Raised α} (only : OnlyProtocol result) :
    CaughtFor cause (Tep.attempted result) := by
  intro failure raised
  cases result with
  | ok value => cases raised
  | error own =>
      obtain ⟨code, message, rfl⟩ := only own rfl
      cases raised
      exact fun caught => by cases caught

end CaughtFor

section Causes

variable {node : Receiver} {relay : RelayConfig} {codec : Codec} {round : RelayRound}
  {raw : Bytes}

/-- The socket raises it, or no answer has come, or the request is too large to be relayed. -/
def RelayRound.Breaks (round : RelayRound) (raw : Bytes) (failure : AttemptError) : Prop :=
  round.socket = some failure ∨ round.reply = none ∨ maxInnerBytes < raw.length

theorem decodeMessage_caught {py : Python} {nowMs : Int} {cause : AttemptError → Prop} :
    CaughtFor cause (attempted (decodeMessage py nowMs raw)) := by
  intro failure raised
  cases decoded : decodeMessage py nowMs raw with
  | ok env =>
      rw [decoded] at raised
      cases raised
  | error own =>
      rw [decoded] at raised
      cases raised
      rcases decodeMessage_error decoded with ⟨code, message, rfl⟩ | ⟨fault, -, rfl, -⟩
      · exact fun caught => by cases caught
      · exact fun caught => by cases caught

theorem relayRoundtrip_caught {peer : Peer} {targetPeerId expired : String} {timeoutSec : ℚ} :
    CaughtFor (round.Breaks raw)
      (relayRoundtrip node codec round peer targetPeerId raw timeoutSec expired) := by
  apply CaughtFor.bind
  · unfold newRelayRequest
    split
    · rename_i large
      exact .of_cause (.inr (.inr large))
    · apply CaughtFor.attempted
      intro raised failed
      unfold checked at failed
      cases valid : validateUntimed node.py.services _ with
      | ok env =>
          rw [valid] at failed
          cases failed
      | error own =>
          rw [valid] at failed
          cases failed
          exact validateEnvelope_only _ _ _ raised valid
  · intro message
    apply CaughtFor.bind
    · apply CaughtFor.attempted
      apply (validateEnvelope_only message node.py.services _).bind
      intro env
      exact (OnlyProtocol.require _ _ _).bind fun _ => .ok _
    · intro encoded
      apply CaughtFor.bind
      · unfold pendingCreate
        split
        · exact .error rfl
        · split
          · exact .error rfl
          · exact .ok ()
      · intro _
        apply CaughtFor.bind
        · unfold sendPlain
          split
          · exact .error rfl
          · split
            · exact .error rfl
            · rename_i key failure derived socket
              exact .of_cause (.inl socket)
            · exact .ok ()
        · intro _
          split
          · rename_i silent
            exact .of_cause (.inr (.inl silent))
          · exact .ok _

theorem relayAnswer_caught {answer : Bytes} {refuse : String → String → AttemptError}
    {wrongType badInner : String} {cause : AttemptError → Prop}
    (refused : ∀ code message, (refuse code message).caught = true → cause (refuse code message)) :
    CaughtFor cause (relayAnswer node round answer refuse wrongType badInner) := by
  have refusal (code message : String) :
      CaughtFor cause (.error (refuse code message) : Except AttemptError Bytes) := by
    intro failure raised caught
    cases raised
    exact refused code message caught
  apply CaughtFor.bind
  · exact decodeMessage_caught
  · intro env
    split
    · exact refusal _ _
    · split
      · exact refusal _ _
      · exact .ok _

theorem relayTransportBase_caught {rendezvousPeerId targetPeerId : String} {timeoutSec : ℚ} :
    CaughtFor (round.Breaks raw)
      (relayTransportBase node codec round rendezvousPeerId targetPeerId raw timeoutSec) := by
  unfold relayTransportBase
  split
  · exact .error rfl
  · split
    · exact .error rfl
    · split
      · exact .error rfl
      · apply relayRoundtrip_caught.bind
        intro answer
        apply relayAnswer_caught
        intro code message caught
        cases caught

theorem relayForwardToTarget_caught {targetPeerId : String} {timeoutSec : ℚ} :
    CaughtFor (fun failure => round.Breaks raw failure ∨ ∃ code message,
        failure = .relay code message)
      (relayForwardToTarget node codec round targetPeerId raw timeoutSec) := by
  unfold relayForwardToTarget
  split
  · exact .of_cause (.inr ⟨_, _, rfl⟩)
  · split
    · exact .of_cause (.inr ⟨_, _, rfl⟩)
    · apply CaughtFor.bind
      · exact relayRoundtrip_caught.mono fun _ breaks => .inl breaks
      · intro answer
        apply relayAnswer_caught
        intro code message _
        exact .inr ⟨code, message, rfl⟩

theorem checkLocalRelay_caught {targetPeerId : String} {cause : AttemptError → Prop} :
    CaughtFor cause (checkLocalRelay node relay round targetPeerId raw) := by
  unfold checkLocalRelay
  split
  · exact .error rfl
  · split
    · exact .error rfl
    · apply CaughtFor.bind
      · exact decodeMessage_caught
      · intro env
        repeat' split
        all_goals first | exact .error rfl | exact .ok ()

theorem relayAsProtocol_caught {cause : AttemptError → Prop} {result : Except AttemptError Bytes}
    (inner : CaughtFor (fun failure => cause failure ∨ ∃ code message,
      failure = .relay code message) result) : CaughtFor cause (relayAsProtocol result) := by
  cases result with
  | ok answer => exact .ok answer
  | error own =>
      have known := inner own rfl
      cases own with
      | relay code message => exact .error rfl
      | protocol code message => exact .error rfl
      | other => exact .error rfl
      | timeout message =>
          rcases known rfl with because | ⟨code, message, impossible⟩
          · exact .of_cause because
          · cases impossible
      | os =>
          rcases known rfl with because | ⟨code, message, impossible⟩
          · exact .of_cause because
          · cases impossible

theorem route_failure {routes : RelayTable} {peerId : String} {clock : ℚ} {failure : Failure}
    (failed : routes.get peerId clock = .error failure) :
    ∃ code message, failure = .raised (.relay code message) := by
  unfold RelayTable.get at failed
  split at failed
  · cases failed
    exact ⟨_, _, rfl⟩
  · split at failed
    · cases failed
      exact ⟨_, _, rfl⟩
    · cases failed

/-- Of the failures of `relay_transport` the loop catches only those of the socket, the missing
answer and the request that is too large: the others are raised as `ProtocolError`. -/
theorem relayTransport_caught {rendezvousPeerId targetPeerId : String} {timeoutSec : ℚ} :
    CaughtFor (round.Breaks raw)
      (relayTransport node relay codec round rendezvousPeerId targetPeerId raw timeoutSec) := by
  unfold relayTransport
  split
  · exact relayTransportBase_caught
  · apply CaughtFor.bind
    · exact checkLocalRelay_caught
    · intro _
      apply relayAsProtocol_caught
      cases found : round.routes.get targetPeerId round.routeClock with
      | ok route => exact relayForwardToTarget_caught
      | error failure =>
          obtain ⟨code, message, rfl⟩ := route_failure found
          exact .of_cause (.inr ⟨code, message, rfl⟩)

end Causes

/-- The daemon tries every relay within its budget exactly when a relay attempt that raises what
the loop does not catch is the last one anyway. -/
theorem failover_goes_on_iff (transport : FailoverTransport) (node : Receiver) (relay : RelayConfig)
    (codec : Codec) (clock : Nat → ℚ) (direct : ℚ → Except AttemptError Bytes)
    (rounds : Nat → RelayRound) (targetPeerId : String) (rawRequest : Bytes) (timeoutSec : ℚ)
    (message : String)
    (timedOut : direct (min transport.directTimeoutSec timeoutSec) = .error (.timeout message)) :
    GoesOn transport (daemonCourse node relay codec clock direct rounds targetPeerId rawRequest)
        timeoutSec ↔
      LoudIsLast transport
        (daemonCourse node relay codec clock direct rounds targetPeerId rawRequest) timeoutSec 0
        transport.relayPeerIds :=
  call_goesOn_iff rfl timedOut

section Sample

/-- A tenth of a second passes between two readings, and nothing answers. -/
def sampleCourse : Course :=
  daemonCourse sampleReceiver {} { dumps := fun _ => [], compact := fun _ => [] }
    (fun reading => reading / 10) (fun _ => .error (.timeout "TEP APP request timed out"))
    (fun _ =>
      { peers := sampleEngine.peers, routes := Table.empty, pending := []
        requestId := "00112233445566778899aabbccddeeff"
        stamp := { timestampMs := 5000, nonce := "00112233445566778899aabbccddeeff" }
        socket := none, reply := none, nowMs := 5000, routeClock := 5 })
    "peer-c" [123, 125]

private theorem sampleCourse_unregistered (number : Nat) (timeoutSec : ℚ) :
    sampleCourse.relay number "peer-x" timeoutSec =
      .error (.protocol "destination_unknown" "rendezvous peer is not registered") := rfl

theorem failover_goes_on_sample :
    GoesOn (.new ["peer-x"] (6 / 5) 2) sampleCourse 3 := by
  apply (failover_goes_on_iff (.new ["peer-x"] (6 / 5) 2) _ _ _ _ _ _ _ _ 3 _ rfl).mpr
  intro index _ _ _ _ _ _
  exact .inl (Nat.succ_le_succ (Nat.zero_le index))

/-- The first rendezvous is not registered: the second one is not tried. -/
theorem failover_stops : ¬ GoesOn (.new ["peer-x", "peer-b"] (6 / 5) 2) sampleCourse 3 := by
  intro goes
  have loud := (call_goesOn_iff rfl rfl).mp goes
  have unspent (number : Nat) (early : number ≤ 1) : ¬ Spent sampleCourse 3 number := by
    have readings : sampleCourse.clock (number + 1) - sampleCourse.clock 0 = (number + 1) / 10 := by
      simp [sampleCourse, daemonCourse]
    have few : (number : ℚ) ≤ 1 := by exact_mod_cast early
    unfold Spent remaining
    rw [readings]
    have bound : max 0 (((number : ℚ) + 1) / 10) ≤ 1 := max_le (by norm_num) (by linarith)
    linarith
  have last := loud 0 "peer-x" rfl (reachesRelay_zero (by decide) (unspent 0 (by decide))) _
    (sampleCourse_unregistered _ _) rfl
  rcases last with none | limit | spent
  · exact absurd none (by decide)
  · exact absurd limit (by decide)
  · exact unspent 1 le_rfl spent

end Sample

end HashBurst.Tep
