import HashBurst.Ha.Config

/-! A voter: its persistent vote, its lease in memory, and what it answers.  `LeaseEngine` of
`hashburst_ha_agent.py` and, for the restart guard, of `hashburst_ha_agent_v220.py`. -/

namespace HashBurst.Ha

open Lib

/-- `PersistentVoteState` -/
structure VoteState where
  term : Int
  votedFor : NodeId
  deriving DecidableEq, Repr

structure HaError where
  code : String
  message : String
  deriving DecidableEq, Repr

structure Source where
  nodeId : NodeId
  peerId : String
  deriving DecidableEq, Repr

/-- A request; absent fields have the defaults of `payload.get`. -/
structure Payload where
  op : String
  clusterId : String
  candidate : NodeId := ""
  holder : NodeId := ""
  term : Int := -1
  leaseMs : Option Int := none
  deriving DecidableEq, Repr

structure ClusterView where
  votersReachable : Nat
  votersTotal : Nat
  quorum : Nat
  term : Int
  holder : NodeId
  holderTerm : Int
  deriving DecidableEq, Repr

inductive Desired
  | standby
  | primary
  deriving DecidableEq, Repr

/-- What a `LeaseEngine` has in memory. -/
structure Engine where
  voterHolder : NodeId := ""
  voterDeadline : ℚ := 0
  leaderTerm : Int := 0
  leaderDeadline : ℚ := 0
  clusterView : Option ClusterView := none
  lastError : String := ""
  desired : Desired := .standby
  eligibilityState : Bool × List String
  restartGuardUntil : ℚ
  deriving DecidableEq, Repr

/-- `local_status` -/
structure Status where
  clusterId : String
  nodeId : NodeId
  term : Int
  votedFor : NodeId
  holder : NodeId
  leaseRemainingMs : Int
  quorum : Nat
  roles : List Role
  candidatePriority : Option Int
  eligible : Bool
  eligibilityReasons : List String
  armed : Bool
  localRole : Desired
  leaderTerm : Int
  leaderRemainingMs : Int
  clusterView : Option ClusterView
  lastError : String
  deriving DecidableEq, Repr

structure Vote where
  granted : Bool
  term : Int
  holder : NodeId := ""
  leaseRemainingMs : Int := 0
  leaseMs : Int := 0
  reason : String := ""
  deriving DecidableEq, Repr

inductive Reply
  | status (status : Status)
  | vote (vote : Vote)
  deriving DecidableEq, Repr

namespace Reply

def granted : Reply → Bool
  | .status _ => false
  | .vote answer => answer.granted

def term : Reply → Int
  | .status row => row.term
  | .vote answer => answer.term

def holder : Reply → NodeId
  | .status row => row.holder
  | .vote answer => answer.holder

def leaseRemainingMs : Reply → Int
  | .status row => row.leaseRemainingMs
  | .vote answer => answer.leaseRemainingMs

def eligible : Reply → Bool
  | .status row => row.eligible
  | .vote _ => false

end Reply

/-- `max(0, int((deadline - now) * 1000))` -/
def remainingMs (deadline uptime : ℚ) : Int := max 0 ⌊(deadline - uptime) * 1000⌋

namespace LeaseEngine

/-- `__init__`: the lease of an earlier run is forgotten, its vote is not. -/
def start (config : Config) (uptime : ℚ) (votes : VoteState) : Engine where
  eligibilityState :=
    (false, [if config.isCandidate then "eligibility_not_checked" else "not_candidate"])
  restartGuardUntil :=
    if config.isVoter && votes.term > 0 && votes.votedFor ≠ "" then uptime + config.leaseSeconds
    else 0

def localStatus (config : Config) (uptime : ℚ) (votes : VoteState) (engine : Engine) : Status where
  clusterId := config.clusterId
  nodeId := config.nodeId
  term := votes.term
  votedFor := votes.votedFor
  holder := if engine.voterDeadline ≤ uptime then "" else engine.voterHolder
  leaseRemainingMs :=
    if engine.voterDeadline ≤ uptime then 0 else remainingMs engine.voterDeadline uptime
  quorum := config.quorum
  roles := config.roles
  candidatePriority := if config.isCandidate then some config.priority else none
  eligible := engine.eligibilityState.1
  eligibilityReasons := engine.eligibilityState.2
  armed := config.armed
  localRole := if engine.leaderDeadline > uptime then .primary else engine.desired
  leaderTerm := engine.leaderTerm
  leaderRemainingMs := remainingMs engine.leaderDeadline uptime
  clusterView := engine.clusterView
  lastError := engine.lastError

/-- What `handle_tep` of v2.2.0 does before it hands the request to the base class. -/
def restartGuard (config : Config) (uptime : ℚ) (source : Source) (payload : Payload)
    (votes : VoteState) (engine : Engine) : Option Reply :=
  let sourceNode := Py.strip source.nodeId
  if payload.op = "vote_request" && config.isVoter && engine.restartGuardUntil > uptime &&
      votes.votedFor ≠ "" && sourceNode ≠ "" && sourceNode ≠ votes.votedFor then
    some (.vote
      { granted := false, term := votes.term, holder := votes.votedFor
        leaseRemainingMs := remainingMs engine.restartGuardUntil uptime
        reason := "restart_lease_guard" })
  else none

def grant (uptime : ℚ) (holder : NodeId) (term leaseMs : Int) (votes : VoteState)
    (engine : Engine) : VoteState × Engine × Reply :=
  (votes, { engine with voterHolder := holder, voterDeadline := uptime + leaseMs / 1000 },
    .vote { granted := true, term, holder, leaseMs })

def voteRequest (uptime : ℚ) (candidate : NodeId) (term leaseMs : Int) (votes : VoteState)
    (engine : Engine) : VoteState × Engine × Reply :=
  let refused (reason : String) : VoteState × Engine × Reply :=
    (votes, engine, .vote { granted := false, term := votes.term, reason })
  if engine.voterDeadline > uptime && engine.voterHolder ≠ "" && engine.voterHolder ≠ candidate then
    (votes, engine, .vote
      { granted := false, term := votes.term, holder := engine.voterHolder
        leaseRemainingMs := remainingMs engine.voterDeadline uptime, reason := "active_lease" })
  else if term < votes.term then refused "stale_term"
  else if term > votes.term then
    grant uptime candidate term leaseMs { term, votedFor := candidate } engine
  else if votes.votedFor ≠ "" && votes.votedFor ≠ candidate then refused "already_voted"
  else if votes.votedFor = "" then
    grant uptime candidate term leaseMs { term, votedFor := candidate } engine
  else grant uptime candidate term leaseMs votes engine

def renewal (config : Config) (uptime : ℚ) (holder : NodeId) (term leaseMs : Int)
    (votes : VoteState) (engine : Engine) : Except HaError (VoteState × Engine × Reply) :=
  if term ≠ votes.term || votes.votedFor ≠ holder then
    .ok (votes, engine,
      .vote { granted := false, term := votes.term, reason := "not_current_holder" })
  else if leaseMs ≤ 0 || leaseMs > config.leaseMs then
    .error ⟨"bad_lease", "invalid requested lease duration"⟩
  else .ok (grant uptime holder term leaseMs votes engine)

def handleTep (config : Config) (uptime : ℚ) (source : Source) (payload : Payload)
    (votes : VoteState) (engine : Engine) : Except HaError (VoteState × Engine × Reply) :=
  let sourceNode := Py.strip source.nodeId
  let op := Py.strip payload.op
  let leaseMs := payload.leaseMs.getD config.leaseMs
  if sourceNode = "" || Py.strip source.peerId = "" then
    .error ⟨"bad_request", "authenticated TEP source identity is required"⟩
  else if payload.clusterId ≠ config.clusterId then
    .error ⟨"cluster_mismatch", "HA cluster_id mismatch"⟩
  else if op = "status" then
    .ok (votes, engine, .status (localStatus config uptime votes engine))
  else if !config.isVoter then .error ⟨"not_voter", "node does not grant HA leases"⟩
  else if !(config.candidates.any fun candidate => candidate.nodeId = sourceNode) then
    .error ⟨"candidate_unknown", "source is not an allowed HA candidate"⟩
  else if op = "vote_request" then
    if payload.candidate ≠ sourceNode then
      .error ⟨"identity_mismatch", "candidate must equal authenticated TEP source"⟩
    else if leaseMs ≤ 0 || leaseMs > config.leaseMs then
      .error ⟨"bad_lease", "invalid requested lease duration"⟩
    else .ok (voteRequest uptime payload.candidate payload.term leaseMs votes engine)
  else if op = "renew" then
    if payload.holder ≠ sourceNode then
      .error ⟨"identity_mismatch", "holder must equal authenticated TEP source"⟩
    else renewal config uptime payload.holder payload.term leaseMs votes engine
  else .error ⟨"unsupported_op", "unsupported HA operation: " ++ Py.orElse op "<missing>"⟩

/-- One more vote for a key, in the order in which the keys were first seen. -/
def tally {α : Type} [DecidableEq α] (key : α) : List (α × Nat) → List (α × Nat)
  | [] => [(key, 1)]
  | (other, count) :: rest =>
      if other = key then (other, count + 1) :: rest else (other, count) :: tally key rest

/-- `max(counts.items(), key=lambda item: (item[1], item[0][0]))`: the first of the largest. -/
def leading : List ((Int × NodeId) × Nat) → Option ((Int × NodeId) × Nat)
  | [] => none
  | first :: rest => some (rest.foldl (fun best item =>
      if item.2 > best.2 || (item.2 = best.2 && item.1.1 > best.1.1) then item else best) first)

/-- `_majority_view`: the highest term, and the holder that a quorum names with its term. -/
def majorityView (config : Config) (responses : List (NodeId × Reply)) : Int × NodeId × Int :=
  let maxTerm := responses.foldl (fun term (_, reply) => max term reply.term) 0
  let counts := responses.foldl (fun counts (_, reply) =>
    if reply.holder ≠ "" && reply.leaseRemainingMs > 0 then
      tally (reply.term, reply.holder) counts
    else counts) []
  match leading counts with
  | none => (maxTerm, "", 0)
  | some ((term, holder), count) =>
      if count ≥ config.quorum then (maxTerm, holder, term) else (maxTerm, "", 0)

end LeaseEngine

end HashBurst.Ha
