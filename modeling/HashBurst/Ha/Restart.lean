import HashBurst.Ha.Voter
import HashBurst.Tep.Daemon

namespace HashBurst.Ha

open Lib

/-- No other node than `holder` is granted anything before `deadline`. -/
def Voter.Guards (holder : NodeId) (deadline : ℚ) (voter : Voter) : Prop :=
  ∀ answer ∈ voter.answers, answer.time < deadline → answer.reply.granted = true →
    answer.request.sourceNode = holder

/-- A vote request of another node than `holder` that comes through to a newer term, with its
operation not spelled as the guard compares it. -/
structure Voter.Bypassed (conv : Py.Conversions) (config : Config) (holder : NodeId) (voter : Voter)
    (request : Forwarded) : Prop where
  spelled : (request.texts conv).op ≠ "vote_request"
  other : request.sourceNode ≠ holder
  votes : ∃ term leaseMs, request.Votes conv config term leaseMs ∧ voter.state.votes.term < term
  free : voter.leasedAway request.sourceNode = false

/-- Until `deadline` no such request is handled. -/
def NotBypassed (conv : Py.Conversions) (config : Config) (holder : NodeId) (deadline : ℚ)
    (voter : Voter) : VoterEvent → Prop
  | .handle index _ => voter.now < deadline → ∀ request ∈ voter.admitted[index]?,
      ¬voter.Bypassed conv config holder request
  | _ => True

section Guard

variable (conv : Py.Conversions) (config : Config) (holder : NodeId) (deadline : ℚ)

/-- A voter that has voted for `holder`, where the guard has stopped what it could. -/
structure Voter.Waits (voter : Voter) : Prop where
  voted : 0 < voter.state.votes.term ∧ voter.state.votes.votedFor = holder
  saved : ∃ term, 0 < term ∧ voter.state.file = some ⟨term, holder⟩
  guard : deadline ≤ voter.boot + voter.engine.restartGuardUntil
  recent : deadline ≤ voter.now + config.leaseSeconds
  admitted : ∀ request ∈ voter.admitted, (request.texts conv).op = "vote_request" →
    request.sourceNode ≠ "" → request.sourceNode = holder

/-- The guard stands until the deadline, and has stood for the answers so far. -/
structure Voter.Restrained (voter : Voter) : Prop where
  waits : voter.now < deadline → voter.Waits conv config holder deadline
  answers : voter.Guards holder deadline

variable {conv config holder deadline} {request : Forwarded} {written : Bool}
  {voter after : Voter}

theorem guards_record {reply : Reply} (guards : voter.Guards holder deadline)
    (own : voter.now < deadline → reply.granted = true → request.sourceNode = holder) :
    (voter.record request reply).Guards holder deadline := by
  intro answer member early granted
  rcases List.mem_cons.mp member with new | old
  · rw [new] at early granted ⊢
    exact own early granted
  · exact guards answer old early granted

theorem started_waits {now boot : ℚ} {file : Option VoteState} {answers : List Answer} {term : Int}
    (member : config.isVoter = true) (named : holder ≠ "") (positive : 0 < term)
    (saved : file = some ⟨term, holder⟩) (recent : deadline ≤ now + config.leaseSeconds) :
    (Voter.started config now boot file answers).Waits conv config holder deadline := by
  have votes : (PersistentVotes.load file).votes = ⟨term, holder⟩ := by
    rw [saved]
    change (⟨max 0 term, holder⟩ : VoteState) = _
    rw [max_eq_right positive.le]
  have guard : (Voter.started config now boot file answers).engine.restartGuardUntil =
      now - boot + config.leaseSeconds := by
    change (if config.isVoter && _ && _ then _ else _) = _
    rw [votes, if_pos (by simp [member, positive, named])]
  refine ⟨?_, ⟨term, positive, saved⟩, ?_, recent, fun request listed => by cases listed⟩
  · change 0 < (PersistentVotes.load file).votes.term ∧ _
    exact ⟨votes ▸ positive, congrArg VoteState.votedFor votes⟩
  · rw [guard]
    change deadline ≤ boot + _
    linarith

/-- Another node's vote request, spelled as the guard compares it, is refused. -/
theorem restartGuard_refuses (member : config.isVoter = true) (named : holder ≠ "")
    (waits : voter.Waits conv config holder deadline) (early : voter.now < deadline)
    (spelled : (request.texts conv).op = "vote_request") (someone : request.sourceNode ≠ "")
    (other : request.sourceNode ≠ holder) :
    ∃ reply, LeaseEngine.restartGuard config voter.uptime request.source (request.texts conv)
      voter.state.votes voter.engine = some reply ∧ reply.granted = false := by
  have stands : voter.engine.restartGuardUntil > voter.uptime := by
    have guard := waits.guard
    unfold Voter.uptime
    linarith
  unfold Forwarded.sourceNode at someone other
  unfold LeaseEngine.restartGuard
  dsimp only
  rw [if_pos (by simp [spelled, member, stands, waits.voted.2, named, someone, other])]
  exact ⟨_, rfl, rfl⟩

theorem restartGuard_denies {uptime : ℚ} {source : Source} {payload : Payload} {votes : VoteState}
    {engine : Engine} {reply : Reply}
    (refuses : LeaseEngine.restartGuard config uptime source payload votes engine = some reply) :
    reply.granted = false := by
  unfold LeaseEngine.restartGuard at refuses
  dsimp only at refuses
  split at refuses
  · cases refuses
    rfl
  · cases refuses

theorem arrive_restrained (member : config.isVoter = true) (named : holder ≠ "")
    (restrained : voter.Restrained conv config holder deadline) :
    (voter.arrive conv config request true).Restrained conv config holder deadline := by
  unfold Voter.arrive
  dsimp only
  rw [if_pos rfl]
  cases refusal : LeaseEngine.restartGuard config voter.uptime request.source
      (request.texts conv) voter.state.votes voter.engine with
  | some reply =>
      have denied := restartGuard_denies refusal
      refine ⟨fun early => ?_, guards_record restrained.answers fun _ granted => ?_⟩
      · have waits := restrained.waits early
        exact ⟨waits.voted, waits.saved, waits.guard, waits.recent, waits.admitted⟩
      · rw [denied] at granted
        cases granted
  | none =>
      refine ⟨fun early => ?_, restrained.answers⟩
      have waits := restrained.waits early
      refine ⟨waits.voted, waits.saved, waits.guard, waits.recent, ?_⟩
      intro admitted listed spelled someone
      rcases List.mem_cons.mp listed with new | old
      · rw [new] at spelled someone ⊢
        by_contra other
        obtain ⟨reply, refuses, _⟩ := restartGuard_refuses member named waits early spelled
          someone other
        rw [refusal] at refuses
        cases refuses
      · exact waits.admitted admitted old spelled someone

theorem votes_own {term leaseMs : Int} (named : holder ≠ "")
    (waits : voter.Waits conv config holder deadline)
    (exact' : (request.texts conv).op = "vote_request" → request.sourceNode ≠ "" →
      request.sourceNode = holder)
    (kept : ¬voter.Bypassed conv config holder request)
    (votes : request.Votes conv config term leaseMs)
    (free : voter.leasedAway request.sourceNode = false) (new : voter.state.votes.Open term) :
    request.sourceNode = holder := by
  by_contra other
  have newer : voter.state.votes.term < term := by
    rcases new with newer | own
    · exact newer
    · exact absurd (waits.voted.2.symm.trans own.2) named
  refine kept ⟨fun spelled => other (exact' spelled votes.proper.source.1), other,
    ⟨term, leaseMs, votes, newer⟩, free⟩

theorem handle_restrained (named : holder ≠ "")
    (restrained : voter.Restrained conv config holder deadline)
    (exact' : voter.now < deadline → (request.texts conv).op = "vote_request" →
      request.sourceNode ≠ "" → request.sourceNode = holder)
    (kept : voter.now < deadline → ¬voter.Bypassed conv config holder request) :
    (voter.handle conv config request written).Restrained conv config holder deadline := by
  have outcome : Outcome conv config request written voter
    (voter.handleTep conv config request written).1
    (voter.handleTep conv config request written).2 := handleTep_outcome
  have waits := restrained.waits
  unfold Voter.handle
  generalize voter.handleTep conv config request written = result at outcome ⊢
  rcases result with ⟨after, answer⟩
  cases outcome with
  | @refused answer denied =>
      cases answer with
      | error trouble => exact restrained
      | ok reply =>
          have refused : reply.granted = false := denied
          refine ⟨fun early => ?_, guards_record restrained.answers fun _ granted => ?_⟩
          · exact ⟨(waits early).voted, (waits early).saved, (waits early).guard,
              (waits early).recent, (waits early).admitted⟩
          · rw [refused] at granted
            cases granted
  | unsaved votes free new failed =>
      refine ⟨fun early => ?_, restrained.answers⟩
      have same := votes_own named (waits early) (exact' early) (kept early) votes free new
      exact ⟨⟨(waits early).voted.1.trans_le new.le, same⟩, (waits early).saved,
        (waits early).guard, (waits early).recent, (waits early).admitted⟩
  | saved votes free new done =>
      have own (early : voter.now < deadline) : request.sourceNode = holder :=
        votes_own named (waits early) (exact' early) (kept early) votes free new
      refine ⟨fun early => ?_, guards_record restrained.answers fun early _ => own early⟩
      have positive := (waits early).voted.1.trans_le new.le
      exact ⟨⟨positive, own early⟩, ⟨_, positive, own early ▸ rfl⟩, (waits early).guard,
        (waits early).recent, (waits early).admitted⟩
  | repeated votes free same =>
      refine ⟨fun early => ?_, guards_record restrained.answers fun early _ => ?_⟩
      · exact ⟨(waits early).voted, (waits early).saved, (waits early).guard,
          (waits early).recent, (waits early).admitted⟩
      · rw [← (waits early).voted.2]
        exact (congrArg VoteState.votedFor same).symm
  | renewed op proper same =>
      refine ⟨fun early => ?_, guards_record restrained.answers fun early _ => ?_⟩
      · exact ⟨(waits early).voted, (waits early).saved, (waits early).guard,
          (waits early).recent, (waits early).admitted⟩
      · rw [← (waits early).voted.2]
        exact (congrArg VoteState.votedFor same).symm

/-- A request that comes through is granted, to a node that the voter has not voted for. -/
theorem bypassed_granted (bypassed : voter.Bypassed conv config holder request)
    (early : voter.now < deadline) :
    ¬(voter.handle conv config request true).Guards holder deadline := by
  obtain ⟨term, leaseMs, votes, newer⟩ := bypassed.votes
  have granted : voter.handleTep conv config request true =
      { voter with
        state := ⟨⟨term, request.sourceNode⟩, some ⟨term, request.sourceNode⟩⟩ }.grant
          request.sourceNode term leaseMs := by
    rw [handleTep_votes votes]
    unfold Voter.voteRequest
    dsimp only
    rw [bypassed.free, if_neg (by decide), if_neg (by omega), if_pos newer]
    unfold Voter.advanceAndGrant PersistentVotes.advance
    rw [if_neg (by omega), if_pos rfl]
  intro guards
  unfold Voter.handle at guards
  rw [granted] at guards
  have own := guards _ (List.mem_cons_self ..)
  exact bypassed.other (own early rfl)

theorem step_restrained {event : VoterEvent} (member : config.isVoter = true) (named : holder ≠ "")
    (restrained : voter.Restrained conv config holder deadline)
    (kept : NotBypassed conv config holder deadline voter event)
    (step : (voterMachine conv config true).next voter event = some after) :
    after.Restrained conv config holder deadline := by
  cases event with
  | wait seconds =>
      change (if 0 ≤ seconds then _ else _) = _ at step
      split at step
      · rename_i forward
        cases step
        refine ⟨fun early => ?_, restrained.answers⟩
        dsimp only at early
        have waits := restrained.waits (by linarith)
        have recent := waits.recent
        refine ⟨waits.voted, waits.saved, waits.guard, ?_, waits.admitted⟩
        dsimp only
        linarith
      · cases step
  | arrive request =>
      cases step
      exact arrive_restrained member named restrained
  | handle index written =>
      obtain ⟨request, admitted, rfl⟩ := Option.map_eq_some_iff.mp step
      have listed := List.mem_of_getElem? admitted
      refine handle_restrained named ⟨fun early => ?_, restrained.answers⟩
        (fun early => (restrained.waits early).admitted request listed) fun early bypassed =>
          kept early request admitted
            ⟨bypassed.spelled, bypassed.other, bypassed.votes, bypassed.free⟩
      have waits := restrained.waits early
      exact ⟨waits.voted, waits.saved, waits.guard, waits.recent, fun other left =>
        waits.admitted other (List.mem_of_mem_eraseIdx left)⟩
  | restart =>
      cases step
      refine ⟨fun early => ?_, restrained.answers⟩
      have waits := restrained.waits early
      obtain ⟨term, positive, saved⟩ := waits.saved
      exact started_waits member named positive saved waits.recent
  | reboot =>
      cases step
      refine ⟨fun early => ?_, restrained.answers⟩
      have waits := restrained.waits early
      obtain ⟨term, positive, saved⟩ := waits.saved
      exact started_waits member named positive saved waits.recent

end Guard

end HashBurst.Ha
