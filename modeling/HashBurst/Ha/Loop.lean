import Mathlib.Data.List.Sort
import HashBurst.Lib.Prog
import HashBurst.Ha.Agent

/-! The candidate: `run_once` of `hashburst_ha_agent.py` with `_renew` and `_campaign` of
`hashburst_ha_agent_v220.py`, as a program whose operations each happen at a time of their
own. -/

namespace HashBurst.Ha

open Lib

/-- `type(exc).__name__` and `str(exc)` of an exception. -/
structure Failure where
  name : String
  text : String
  deriving DecidableEq, Repr

inductive LoopOp : Type → Type
  /-- `boot_seconds()` -/
  | bootSeconds : LoopOp ℚ
  /-- `transport.rpc`: sent, and then answered or given up. -/
  | rpc (target : NodeId) (payload : Payload) : LoopOp (Except Failure Reply)
  /-- The two parts of the node's own `handle_tep`. -/
  | restartGuard (payload : Payload) : LoopOp (Option Reply)
  | handleTep (payload : Payload) : LoopOp (Except Failure Reply)
  /-- `eligibility.check()`, which publishes what it finds. -/
  | checkEligibility : LoopOp (Except Failure (Bool × List String))
  | setClusterView (view : ClusterView) : LoopOp Unit
  | leaderTerm : LoopOp Int
  | leaderDeadline : LoopOp ℚ
  | setLeaderTerm (term : Int) : LoopOp Unit
  /-- `self._leader_term = holder_term` where the node takes up a lease it finds its own. -/
  | adopt (holderTerm : Int) : LoopOp Unit
  | setLeaderDeadline (deadline : ℚ) : LoopOp Unit
  /-- `self._leader_deadline = 0.0` for a reason that is logged. -/
  | withdraw (reason : String) : LoopOp Unit
  | writeGuard (term : Int) : LoopOp (Except Failure Unit)
  | clearGuard : LoopOp (Except Failure Unit)
  | setPrimary : LoopOp (Except Failure Unit)
  | setStandby : LoopOp (Except Failure Unit)
  | setLastError (text : String) : LoopOp Unit

abbrev Loop (α : Type) := Prog LoopOp Failure α

namespace LeaseEngine

variable (config : Config)

def localRpc (payload : Payload) : Loop (Except Failure Reply) := do
  match ← Prog.ask (.restartGuard payload) with
  | some reply => return .ok reply
  | none => Prog.ask (.handleTep payload)

/-- `_rpc`; its callers catch every exception. -/
def rpc (target : NodeId) (payload : Payload) : Loop (Except Failure Reply) :=
  if target = config.nodeId then localRpc payload else Prog.ask (.rpc target payload)

/-- `for voter in self.config.voters: … self._rpc(voter, payload)` -/
def askVoters (payload : Payload) : List NodeId → Loop (List (NodeId × Except Failure Reply))
  | [] => return []
  | voter :: voters => do
      let answer ← rpc config voter payload
      let answers ← askVoters payload voters
      return (voter, answer) :: answers

def statusPayload : Payload where
  op := "status"
  clusterId := config.clusterId

def renewPayload (term : Int) : Payload where
  op := "renew"
  clusterId := config.clusterId
  holder := config.nodeId
  term
  leaseMs := some config.leaseMs

def votePayload (term : Int) : Payload where
  op := "vote_request"
  clusterId := config.clusterId
  candidate := config.nodeId
  term
  leaseMs := some config.leaseMs

def queryVoters : Loop (List (NodeId × Reply)) := do
  let answers ← askVoters config (statusPayload config) config.voters
  return answers.filterMap fun (voter, answer) => answer.toOption.map fun reply => (voter, reply)

/-- `bool(response.get("granted", False)) and int(response.get("term", -1)) == term` -/
def grantsTerm (term : Int) : Except Failure Reply → Bool
  | .ok reply => reply.granted && reply.term = term
  | .error _ => false

/-- `grants` after the loop over the voters. -/
def countGrants (term : Int) (answers : List (NodeId × Except Failure Reply)) : Nat :=
  answers.countP fun (_, answer) => grantsTerm term answer

def highestTerm (term : Int) (answers : List (NodeId × Except Failure Reply)) : Int :=
  answers.foldl (fun highest (_, answer) =>
    match answer with
    | .ok reply => max highest reply.term
    | .error _ => highest) term

def writeGuard (term : Int) : Loop Unit :=
  if config.isCandidate && config.armed then Prog.attempt (.writeGuard term) else return ()

/-- `"ineligible:" + ",".join(reasons)` -/
def ineligible (reasons : List String) : String := "ineligible:" ++ String.intercalate "," reasons

def demote (reason : String) : Loop Unit := do
  Prog.ask (.withdraw reason)
  Prog.attempt .clearGuard
  match ← Prog.ask .setStandby with
  | .ok _ => return ()
  | .error failure => Prog.ask (.setLastError s!"fence:{failure.text}")

def demoteExpired (reason : String) : Loop Unit := do
  let deadline ← Prog.ask .leaderDeadline
  let now ← Prog.ask .bootSeconds
  if deadline ≤ now then demote reason else return ()

/-- The end of `_renew` and `_campaign` with a quorum. -/
def takeLease (term : Int) (deadline : ℚ) : Loop Bool := do
  Prog.ask (.setLeaderDeadline deadline)
  writeGuard config term
  Prog.attempt .setPrimary
  return true

def renew : Loop Bool := do
  let (eligible, reasons) ← Prog.attempt .checkEligibility
  if eligible then
    let started ← Prog.ask .bootSeconds
    let term ← Prog.ask .leaderTerm
    let answers ← askVoters config (renewPayload config term) config.voters
    let conservativeDeadline := started + config.leaseSeconds
    let now ← Prog.ask .bootSeconds
    if countGrants term answers ≥ config.quorum && conservativeDeadline > now then
      takeLease config term conservativeDeadline
    else return false
  else
    demote (ineligible reasons)
    return false

def campaign (term : Int) : Loop Bool := do
  let started ← Prog.ask .bootSeconds
  let answers ← askVoters config (votePayload config term) config.voters
  let conservativeDeadline := started + config.leaseSeconds
  let now ← Prog.ask .bootSeconds
  if countGrants term answers ≥ config.quorum && conservativeDeadline > now then
    Prog.ask (.setLeaderTerm term)
    takeLease config term conservativeDeadline
  else if highestTerm term answers > term then
    Prog.ask (.setLeaderTerm (highestTerm term answers))
    return false
  else return false

/-- The candidates before this one, by priority and then by name. -/
def higherPriority : List Candidate :=
  (config.candidates.insertionSort fun first second =>
    first.priority < second.priority ∨
      (first.priority = second.priority ∧ first.nodeId ≤ second.nodeId)).filter fun candidate =>
    candidate.priority < config.priority && candidate.nodeId ≠ config.nodeId

def anyReady : List Candidate → Loop Bool
  | [] => return false
  | candidate :: candidates => do
      match ← rpc config candidate.nodeId (statusPayload config) with
      | .ok reply => if reply.eligible then return true else anyReady candidates
      | .error _ => anyReady candidates

def higherPriorityCandidateReady : Loop Bool :=
  if config.isCandidate then anyReady config (higherPriority config) else return false

/-- `run_once` of a node with an unexpired lease. -/
def leaderRound (maxTerm : Int) : Loop Unit := do
  let term ← Prog.ask .leaderTerm
  if maxTerm > term then demote s!"higher_term:{maxTerm}"
  else if ← renew config then return ()
  else demoteExpired "lease_expired"

/-- `run_once` of a candidate without one. -/
def candidateRound (reachable : Nat) (maxTerm : Int) (holder : NodeId) (holderTerm : Int) :
    Loop Unit := do
  let (eligible, reasons) ← Prog.attempt .checkEligibility
  if !eligible then demote (ineligible reasons)
  else if reachable < config.quorum then demote "no_voter_quorum"
  else if holder = config.nodeId && holderTerm > 0 then
    Prog.ask (.adopt holderTerm)
    let now ← Prog.ask .bootSeconds
    Prog.ask (.setLeaderDeadline (now + config.leaseSeconds))
    let _ ← renew config
    return ()
  else if ← higherPriorityCandidateReady config then demote "higher_priority_candidate_ready"
  else
    let _ ← campaign config (maxTerm + 1)
    demoteExpired "campaign_no_quorum"

/-- The body of the `try` of `run_once`. -/
def round : Loop Unit := do
  let responses ← queryVoters config
  let (maxTerm, holder, holderTerm) := majorityView config responses
  Prog.ask (.setClusterView
    { votersReachable := responses.length, votersTotal := config.voters.length
      quorum := config.quorum, term := maxTerm, holder, holderTerm })
  if holder ≠ "" && holder ≠ config.nodeId then
    let term ← Prog.ask .leaderTerm
    Prog.ask (.setLeaderTerm (max term holderTerm))
    demote s!"majority_holder:{holder}"
  else
    let deadline ← Prog.ask .leaderDeadline
    let now ← Prog.ask .bootSeconds
    if config.isCandidate && deadline > now then leaderRound config maxTerm
    else if config.isCandidate then
      candidateRound config responses.length maxTerm holder holderTerm
    else return ()

def runOnce : Loop Unit :=
  (round config).handle fun failure => do
    Prog.ask (.setLastError s!"loop:{failure.name}:{failure.text}")
    demoteExpired "loop_error_without_valid_lease"

end LeaseEngine

end HashBurst.Ha
