import HashBurst.Lib.Machine
import HashBurst.Lib.PyJson
import HashBurst.Ha.Agent

/-! A voter with its state file: requests as JSON, writes of the file that fail, and restarts.
`PersistentVoteState` and `handle_tep` of `hashburst_ha_agent.py`, behind the restart guard of
`hashburst_ha_agent_v220.py`. -/

namespace HashBurst.Ha

open Lib

/-- What `handle_tep` raises: an `HaError`, or what the agent answers `internal_error` to. -/
inductive Trouble
  | ha (error : HaError)
  | conversion (text : String)
  | valueError (text : String)
  | osError
  deriving DecidableEq, Repr

def Trouble.haError (code message : String) : Trouble := .ha ⟨code, message⟩

/-- `PersistentVoteState`: `term` and `voted_for` in memory, and what the file holds. -/
structure PersistentVotes where
  votes : VoteState
  file : Option VoteState
  deriving DecidableEq, Repr

namespace PersistentVotes

def load (file : Option VoteState) : PersistentVotes where
  votes :=
    match file with
    | none => ⟨0, ""⟩
    | some row => ⟨max 0 row.term, row.votedFor⟩
  file

/-- `advance`. Until `os.replace` a write leaves the file as it was. -/
def advance (term : Int) (votedFor : NodeId) (written : Bool) (state : PersistentVotes) :
    PersistentVotes × Except Trouble Unit :=
  if term < state.votes.term then (state, .error (.valueError "term regression"))
  else if written then (⟨⟨term, votedFor⟩, some ⟨term, votedFor⟩⟩, .ok ())
  else (⟨⟨term, votedFor⟩, state.file⟩, .error .osError)

end PersistentVotes

/-- The `source` and the `payload` that the bridge forwards. -/
structure Forwarded where
  source : Source
  payload : Py.Dict

/-- A reply, with the file as it was when the reply was made. -/
structure Answer where
  time : ℚ
  request : Forwarded
  reply : Reply
  file : Option VoteState

/-- A running voter: `boot` is the time at which the uptime of its host was zero, `admitted` are
the requests that have passed the restart guard. -/
structure Voter where
  now : ℚ
  boot : ℚ
  state : PersistentVotes
  engine : Engine
  admitted : List Forwarded := []
  answers : List Answer := []

section Reading

variable (conv : Py.Conversions) (config : Config) (request : Forwarded)

/-- The texts that `handle_tep` reads in the payload. -/
def Forwarded.texts : Payload where
  op := conv.strOr (request.payload.get "op") ""
  clusterId := conv.strOr (request.payload.get "cluster_id") ""
  candidate := conv.strOr (request.payload.get "candidate") ""
  holder := conv.strOr (request.payload.get "holder") ""

/-- The `term` and the `lease_ms` that it reads. -/
def Forwarded.numbers : Except Trouble (Int × Int) := do
  let term ← (conv.toInt (request.payload.getD "term" (.int (-1)))).mapError .conversion
  let leaseMs ←
    (conv.toInt (request.payload.getD "lease_ms" (.int config.leaseMs))).mapError .conversion
  .ok (term, leaseMs)

/-- The operation as `handle_tep` of the base class understands it. -/
def Forwarded.op : String := Py.strip (request.texts conv).op

def Forwarded.sourceNode : NodeId := Py.strip request.source.nodeId

def Forwarded.asks : Option Int :=
  if request.op conv = "vote_request" then
    match request.numbers conv config with
    | .ok (term, _) => some term
    | .error _ => none
  else none

end Reading

namespace Voter

variable (conv : Py.Conversions) (config : Config)

/-- `boot_seconds()` -/
def uptime (voter : Voter) : ℚ := voter.now - voter.boot

def started (now boot : ℚ) (file : Option VoteState) (answers : List Answer) : Voter where
  now
  boot
  state := PersistentVotes.load file
  engine := LeaseEngine.start config (now - boot) (PersistentVotes.load file).votes
  answers

variable (request : Forwarded) (written : Bool) (voter : Voter)

def grant (holder : NodeId) (term leaseMs : Int) : Voter × Except Trouble Reply :=
  ({ voter with
      engine := { voter.engine with
        voterHolder := holder, voterDeadline := voter.uptime + leaseMs / 1000 } },
    .ok (.vote { granted := true, term, holder, leaseMs }))

/-- `advance`, then the lease. -/
def advanceAndGrant (candidate : NodeId) (term leaseMs : Int) : Voter × Except Trouble Reply :=
  match voter.state.advance term candidate written with
  | (state, .ok ()) => { voter with state }.grant candidate term leaseMs
  | (state, .error trouble) => ({ voter with state }, .error trouble)

def leasedAway (candidate : NodeId) : Bool :=
  voter.engine.voterDeadline > voter.uptime && voter.engine.voterHolder ≠ "" &&
    voter.engine.voterHolder ≠ candidate

def voteRequest (candidate : NodeId) (term leaseMs : Int) : Voter × Except Trouble Reply :=
  let votes := voter.state.votes
  let refused (reason : String) : Voter × Except Trouble Reply :=
    (voter, .ok (.vote { granted := false, term := votes.term, reason }))
  if voter.leasedAway candidate then
    (voter, .ok (.vote
      { granted := false, term := votes.term, holder := voter.engine.voterHolder
        leaseRemainingMs := remainingMs voter.engine.voterDeadline voter.uptime
        reason := "active_lease" }))
  else if term < votes.term then refused "stale_term"
  else if term > votes.term then voter.advanceAndGrant written candidate term leaseMs
  else if votes.votedFor ≠ "" && votes.votedFor ≠ candidate then refused "already_voted"
  else if votes.votedFor = "" then voter.advanceAndGrant written candidate term leaseMs
  else voter.grant candidate term leaseMs

def renewal (holder : NodeId) (term leaseMs : Int) : Voter × Except Trouble Reply :=
  let votes := voter.state.votes
  if term ≠ votes.term || votes.votedFor ≠ holder then
    (voter, .ok (.vote { granted := false, term := votes.term, reason := "not_current_holder" }))
  else if leaseMs ≤ 0 || leaseMs > config.leaseMs then
    (voter, .error (.haError "bad_lease" "invalid requested lease duration"))
  else voter.grant holder term leaseMs

def handleTep : Voter × Except Trouble Reply :=
  let texts := request.texts conv
  let sourceNode := request.sourceNode
  let op := request.op conv
  if sourceNode = "" || Py.strip request.source.peerId = "" then
    (voter, .error (.haError "bad_request" "authenticated TEP source identity is required"))
  else if texts.clusterId ≠ config.clusterId then
    (voter, .error (.haError "cluster_mismatch" "HA cluster_id mismatch"))
  else if op = "status" then
    (voter, .ok (.status
      (LeaseEngine.localStatus config voter.uptime voter.state.votes voter.engine)))
  else if !config.isVoter then
    (voter, .error (.haError "not_voter" "node does not grant HA leases"))
  else if !(config.candidates.any fun candidate => candidate.nodeId = sourceNode) then
    (voter, .error (.haError "candidate_unknown" "source is not an allowed HA candidate"))
  else if op = "vote_request" then
    match request.numbers conv config with
    | .error trouble => (voter, .error trouble)
    | .ok (term, leaseMs) =>
        if texts.candidate ≠ sourceNode then
          (voter, .error
            (.haError "identity_mismatch" "candidate must equal authenticated TEP source"))
        else if leaseMs ≤ 0 || leaseMs > config.leaseMs then
          (voter, .error (.haError "bad_lease" "invalid requested lease duration"))
        else voter.voteRequest written texts.candidate term leaseMs
  else if op = "renew" then
    match request.numbers conv config with
    | .error trouble => (voter, .error trouble)
    | .ok (term, leaseMs) =>
        if texts.holder ≠ sourceNode then
          (voter, .error
            (.haError "identity_mismatch" "holder must equal authenticated TEP source"))
        else voter.renewal config texts.holder term leaseMs
  else
    (voter, .error
      (.haError "unsupported_op" ("unsupported HA operation: " ++ Py.orElse op "<missing>")))

def record (reply : Reply) : Voter :=
  { voter with
    answers := ⟨voter.now, request, reply, voter.state.file⟩ :: voter.answers }

/-- A request reaches the agent; v2.2.0 puts the restart guard before the base class. -/
def arrive (guarded : Bool) : Voter :=
  let refusal :=
    if guarded then
      LeaseEngine.restartGuard config voter.uptime request.source (request.texts conv)
        voter.state.votes voter.engine
    else none
  match refusal with
  | some reply => voter.record request reply
  | none => { voter with admitted := request :: voter.admitted }

/-- A request that has been admitted is handled; what is raised is no answer. -/
def handle : Voter :=
  match voter.handleTep conv config request written with
  | (after, .ok reply) => after.record request reply
  | (after, .error _) => after

end Voter

inductive VoterEvent
  | wait (seconds : ℚ)
  | arrive (request : Forwarded)
  /-- An admitted request is handled; `written` tells whether a write of the file would succeed. -/
  | handle (index : Nat) (written : Bool)
  | restart
  | reboot

def voterMachine (conv : Py.Conversions) (config : Config) (guarded : Bool) :
    Machine Voter VoterEvent where
  next voter
    | .wait seconds => if 0 ≤ seconds then some { voter with now := voter.now + seconds } else none
    | .arrive request => some (voter.arrive conv config request guarded)
    | .handle index written =>
        voter.admitted[index]?.map fun request =>
          { voter with admitted := voter.admitted.eraseIdx index }.handle conv config request written
    | .restart => some (Voter.started config voter.now voter.boot voter.state.file voter.answers)
    | .reboot => some (Voter.started config voter.now voter.now voter.state.file voter.answers)

def granted : Except Trouble Reply → Bool
  | .ok reply => reply.granted
  | .error _ => false

section Outcomes

variable (conv : Py.Conversions) (config : Config) (request : Forwarded) (written : Bool)
  (voter : Voter)

/-- A newer term, or the own term while no vote is cast in it. -/
def VoteState.Open (votes : VoteState) (term : Int) : Prop :=
  votes.term < term ∨ votes.term = term ∧ votes.votedFor = ""

theorem VoteState.Open.le {votes : VoteState} {term : Int} (new : votes.Open term) :
    votes.term ≤ term := by
  rcases new with newer | own
  · omega
  · omega

structure Forwarded.Proper (leaseMs : Int) : Prop where
  source : request.sourceNode ≠ "" ∧ Py.strip request.source.peerId ≠ ""
  cluster : (request.texts conv).clusterId = config.clusterId
  voter : config.isVoter = true
  known : (config.candidates.any fun candidate => candidate.nodeId = request.sourceNode) = true
  lease : 0 < leaseMs ∧ leaseMs ≤ config.leaseMs

structure Forwarded.Votes (term leaseMs : Int) : Prop where
  proper : request.Proper conv config leaseMs
  op : request.op conv = "vote_request"
  numbers : request.numbers conv config = .ok (term, leaseMs)
  candidate : (request.texts conv).candidate = request.sourceNode

/-- What `handle_tep` can do. -/
inductive Outcome : Voter → Except Trouble Reply → Prop
  | refused {answer} (denied : granted answer = false) : Outcome voter answer
  | unsaved {term leaseMs trouble} (votes : request.Votes conv config term leaseMs)
      (free : voter.leasedAway request.sourceNode = false) (new : voter.state.votes.Open term)
      (failed : written = false) :
      Outcome { voter with state := ⟨⟨term, request.sourceNode⟩, voter.state.file⟩ } (.error trouble)
  | saved {term leaseMs} (votes : request.Votes conv config term leaseMs)
      (free : voter.leasedAway request.sourceNode = false) (new : voter.state.votes.Open term)
      (done : written = true) :
      Outcome ({ voter with
          state := ⟨⟨term, request.sourceNode⟩, some ⟨term, request.sourceNode⟩⟩ }.grant
        request.sourceNode term leaseMs).1
        (.ok (.vote { granted := true, term, holder := request.sourceNode, leaseMs }))
  | repeated {term leaseMs} (votes : request.Votes conv config term leaseMs)
      (free : voter.leasedAway request.sourceNode = false)
      (same : voter.state.votes = ⟨term, request.sourceNode⟩) :
      Outcome (voter.grant request.sourceNode term leaseMs).1
        (.ok (.vote { granted := true, term, holder := request.sourceNode, leaseMs }))
  | renewed {term leaseMs} (op : request.op conv = "renew")
      (proper : request.Proper conv config leaseMs)
      (same : voter.state.votes = ⟨term, request.sourceNode⟩) :
      Outcome (voter.grant request.sourceNode term leaseMs).1
        (.ok (.vote { granted := true, term, holder := request.sourceNode, leaseMs }))

variable {conv config request written voter}

theorem handleTep_votes {term leaseMs : Int} (votes : request.Votes conv config term leaseMs) :
    voter.handleTep conv config request written =
      voter.voteRequest written request.sourceNode term leaseMs := by
  have proper := votes.proper
  unfold Voter.handleTep
  dsimp only
  rw [if_neg (by simp [proper.source]), if_neg (not_not.mpr proper.cluster),
    if_neg (by rw [votes.op]; decide), if_neg (by simp [proper.voter]),
    if_neg (by rw [proper.known]; decide), if_pos votes.op, votes.numbers]
  dsimp only
  rw [if_neg (not_not.mpr votes.candidate), votes.candidate, if_neg (by simp [proper.lease])]

theorem advanceAndGrant_outcome {term leaseMs : Int}
    (votes : request.Votes conv config term leaseMs)
    (free : voter.leasedAway request.sourceNode = false) (new : voter.state.votes.Open term) :
    Outcome conv config request written voter
      (voter.advanceAndGrant written request.sourceNode term leaseMs).1
      (voter.advanceAndGrant written request.sourceNode term leaseMs).2 := by
  have forward : ¬term < voter.state.votes.term := by
    rcases new with newer | own
    · omega
    · omega
  unfold Voter.advanceAndGrant PersistentVotes.advance
  rw [if_neg forward]
  cases written with
  | false => exact .unsaved votes free new rfl
  | true => exact .saved votes free new rfl

theorem voteRequest_outcome {term leaseMs : Int} (votes : request.Votes conv config term leaseMs) :
    Outcome conv config request written voter
      (voter.voteRequest written request.sourceNode term leaseMs).1
      (voter.voteRequest written request.sourceNode term leaseMs).2 := by
  unfold Voter.voteRequest
  dsimp only
  by_cases away : voter.leasedAway request.sourceNode = true
  · rw [if_pos away]
    exact .refused rfl
  · have free : voter.leasedAway request.sourceNode = false := by simpa using away
    rw [if_neg away]
    by_cases stale : term < voter.state.votes.term
    · rw [if_pos stale]
      exact .refused rfl
    · rw [if_neg stale]
      by_cases newer : term > voter.state.votes.term
      · rw [if_pos newer]
        exact advanceAndGrant_outcome votes free (.inl newer)
      · rw [if_neg newer]
        have own : voter.state.votes.term = term := by omega
        by_cases open' : voter.state.votes.votedFor = ""
        · rw [if_neg (by simp [open']), if_pos open']
          exact advanceAndGrant_outcome votes free (.inr ⟨own, open'⟩)
        · by_cases other : voter.state.votes.votedFor = request.sourceNode
          · rw [if_neg (by simp [other]), if_neg open']
            refine .repeated votes free ?_
            rw [← own, ← other]
          · rw [if_pos (by simp [open', other])]
            exact .refused rfl

theorem renewal_outcome {term leaseMs : Int} (op : request.op conv = "renew")
    (proper : 0 < leaseMs ∧ leaseMs ≤ config.leaseMs → request.Proper conv config leaseMs) :
    Outcome conv config request written voter
      (voter.renewal config request.sourceNode term leaseMs).1
      (voter.renewal config request.sourceNode term leaseMs).2 := by
  unfold Voter.renewal
  dsimp only
  by_cases holds : term = voter.state.votes.term ∧ voter.state.votes.votedFor = request.sourceNode
  · rw [if_neg (by simp [holds])]
    by_cases fits : 0 < leaseMs ∧ leaseMs ≤ config.leaseMs
    · rw [if_neg (by simp [fits])]
      refine .renewed op (proper fits) ?_
      rw [holds.1, ← holds.2]
    · rw [if_pos]
      · exact .refused rfl
      · simp only [gt_iff_lt, Bool.or_eq_true, decide_eq_true_eq]
        omega
  · rw [if_pos]
    · exact .refused rfl
    · simpa [not_and_or] using not_and_or.mp holds

theorem handleTep_outcome : Outcome conv config request written voter
    (voter.handleTep conv config request written).1
    (voter.handleTep conv config request written).2 := by
  unfold Voter.handleTep
  dsimp only
  by_cases source : request.sourceNode = "" ∨ Py.strip request.source.peerId = ""
  · rw [if_pos (by simpa using source)]
    exact .refused rfl
  rw [if_neg (by simpa using source)]
  by_cases cluster : (request.texts conv).clusterId = config.clusterId
  swap
  · rw [if_pos cluster]
    exact .refused rfl
  rw [if_neg (not_not.mpr cluster)]
  by_cases status : request.op conv = "status"
  · rw [if_pos status]
    exact .refused rfl
  rw [if_neg status]
  cases member : config.isVoter with
  | false => exact .refused rfl
  | true =>
    cases known : config.candidates.any fun candidate => candidate.nodeId = request.sourceNode with
    | false => exact .refused rfl
    | true =>
      have proper : ∀ leaseMs, 0 < leaseMs ∧ leaseMs ≤ config.leaseMs →
          request.Proper conv config leaseMs :=
        fun leaseMs fits => ⟨not_or.mp source, cluster, member, known, fits⟩
      simp only [Bool.not_true, Bool.false_eq_true, if_false]
      cases numbers : request.numbers conv config with
      | error trouble =>
          split
          · exact .refused rfl
          · split
            · exact .refused rfl
            · exact .refused rfl
      | ok pair =>
          rcases pair with ⟨term, leaseMs⟩
          dsimp only
          by_cases asks : request.op conv = "vote_request"
          · rw [if_pos asks]
            by_cases own : (request.texts conv).candidate = request.sourceNode
            · rw [if_neg (not_not.mpr own), own]
              by_cases fits : 0 < leaseMs ∧ leaseMs ≤ config.leaseMs
              · rw [if_neg (by simp [fits])]
                exact voteRequest_outcome ⟨proper leaseMs fits, asks, numbers, own⟩
              · rw [if_pos]
                · exact .refused rfl
                · simp only [gt_iff_lt, Bool.or_eq_true, decide_eq_true_eq]
                  omega
            · rw [if_pos own]
              exact .refused rfl
          · rw [if_neg asks]
            by_cases renews : request.op conv = "renew"
            · rw [if_pos renews]
              by_cases own : (request.texts conv).holder = request.sourceNode
              · rw [if_neg (not_not.mpr own), own]
                exact renewal_outcome renews (proper leaseMs)
              · rw [if_pos own]
                exact .refused rfl
            · rw [if_neg renews]
              exact .refused rfl

end Outcomes

section Refinement

variable {conv : Py.Conversions} {config : Config} {request : Forwarded} {voter : Voter}
  {term leaseMs : Int}

/-- The votes and the lease that a request leaves, and its reply. -/
def erased : Voter × Except Trouble Reply → Except Trouble (VoteState × Engine × Reply)
  | (after, answer) => answer.map fun reply => (after.state.votes, after.engine, reply)

theorem voteRequest_written (candidate : NodeId) :
    erased (voter.voteRequest true candidate term leaseMs) =
      .ok (LeaseEngine.voteRequest voter.uptime candidate term leaseMs voter.state.votes
        voter.engine) := by
  have saved (forward : ¬term < voter.state.votes.term) :
      erased (voter.advanceAndGrant true candidate term leaseMs) =
        .ok (LeaseEngine.grant voter.uptime candidate term leaseMs ⟨term, candidate⟩
          voter.engine) := by
    unfold Voter.advanceAndGrant PersistentVotes.advance
    rw [if_neg forward]
    rfl
  unfold Voter.voteRequest LeaseEngine.voteRequest Voter.leasedAway
  dsimp only
  split_ifs with away stale newer other free
  · rfl
  · rfl
  · exact saved stale
  · rfl
  · exact saved stale
  · rfl

theorem renewal_written (holder : NodeId) :
    erased (voter.renewal config holder term leaseMs) =
      (LeaseEngine.renewal config voter.uptime holder term leaseMs voter.state.votes
        voter.engine).mapError .ha := by
  unfold Voter.renewal LeaseEngine.renewal
  dsimp only
  split_ifs with other long
  · rfl
  · rfl
  · rfl

/-- Where the file can be written, the voter does what the engine of the cluster model does. -/
theorem handleTep_written (read : request.numbers conv config = .ok (term, leaseMs)) :
    erased (voter.handleTep conv config request true) =
      (LeaseEngine.handleTep config voter.uptime request.source
        { request.texts conv with term, leaseMs := some leaseMs } voter.state.votes
        voter.engine).mapError .ha := by
  unfold Voter.handleTep LeaseEngine.handleTep Forwarded.op Forwarded.sourceNode
  rw [read]
  dsimp only [Option.getD_some]
  split_ifs with source cluster status member known asks own fits renews holds
  · rfl
  · rfl
  · rfl
  · rfl
  · rfl
  · rfl
  · rfl
  · exact voteRequest_written _
  · rfl
  · exact renewal_written _
  · rfl

end Refinement

def voterConfig : Config where
  clusterId := "hashburst"
  nodeId := "voter"
  roles := [.voter]
  voters := ["voter"]
  candidates := [⟨"alpha", 10⟩, ⟨"beta", 20⟩]
  leaseSeconds := 12
  armed := false

def textConversions : Py.Conversions where
  str _ := ""
  float _ := none
  int _ := none
  error kind _ := kind

/-- A vote request of a candidate, with its operation as the candidate spells it. -/
def votePayload (op candidate : String) (term : Int) : Py.Dict :=
  [("op", .str op), ("cluster_id", .str "hashburst"), ("candidate", .str candidate),
    ("priority", .int 10), ("term", .int term), ("lease_ms", .int 12000)]

def voteForwarded (op candidate : String) (term : Int) : Forwarded where
  source := ⟨candidate, "peer-" ++ candidate⟩
  payload := votePayload op candidate term

end HashBurst.Ha
