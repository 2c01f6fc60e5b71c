import HashBurst.Ha.Voter

namespace HashBurst.Ha

open Lib

def Answer.vote (conv : Py.Conversions) (config : Config) (answer : Answer) : Option VoteState :=
  if answer.reply.granted then
    (answer.request.asks conv config).map fun term => ⟨term, (answer.request.texts conv).candidate⟩
  else none

section Votes

variable (conv : Py.Conversions) (config : Config)

def Voter.Durable (voter : Voter) : Prop :=
  ∀ answer ∈ voter.answers, ∀ vote, answer.vote conv config = some vote → answer.file = some vote

def Voter.OncePerTerm (voter : Voter) : Prop :=
  ∀ first ∈ voter.answers, ∀ second ∈ voter.answers, ∀ one two,
    first.vote conv config = some one → second.vote conv config = some two →
      one.term = two.term → one.votedFor = two.votedFor

/-- The request asks for the vote in memory, which an earlier write has failed to save, and comes
through to it. -/
structure Voter.RepeatsUnsaved (voter : Voter) (request : Forwarded) : Prop where
  votes : ∃ leaseMs, request.Votes conv config voter.state.votes.term leaseMs
  own : voter.state.votes.votedFor = request.sourceNode
  free : voter.leasedAway request.sourceNode = false
  unsaved : voter.state.file ≠ some voter.state.votes

def SavesVotes (voter : Voter) : VoterEvent → Prop
  | .handle index _ => ∀ request ∈ voter.admitted[index]?, ¬voter.RepeatsUnsaved conv config request
  | _ => True

/-- What is true of the votes of a voter and its answers. -/
structure SoundVotes (state : PersistentVotes) (answers : List Answer) : Prop where
  counted : 0 ≤ state.votes.term
  behind : (PersistentVotes.load state.file).votes.term ≤ state.votes.term
  agrees : (PersistentVotes.load state.file).votes.term = state.votes.term →
    (PersistentVotes.load state.file).votes.votedFor = "" ∨
      (PersistentVotes.load state.file).votes.votedFor = state.votes.votedFor
  past : ∀ answer ∈ answers, ∀ vote, answer.vote conv config = some vote → vote.votedFor ≠ "" ∧
    (vote.term < (PersistentVotes.load state.file).votes.term ∨
      (PersistentVotes.load state.file).votes = vote)
  durable : ∀ answer ∈ answers, ∀ vote, answer.vote conv config = some vote →
    answer.file = some vote
  once : ∀ first ∈ answers, ∀ second ∈ answers, ∀ one two,
    first.vote conv config = some one → second.vote conv config = some two →
      one.term = two.term → one.votedFor = two.votedFor

variable {conv config} {state : PersistentVotes} {answers : List Answer} {answer : Answer}
  {term : Int} {node : NodeId}

theorem load_counted (file : Option VoteState) : 0 ≤ (PersistentVotes.load file).votes.term := by
  cases file with
  | none => decide
  | some row => exact le_max_left 0 row.term

theorem load_saved {votes : VoteState} (counted : 0 ≤ votes.term) :
    (PersistentVotes.load (some votes)).votes = votes := by
  have read : (PersistentVotes.load (some votes)).votes = ⟨max 0 votes.term, votes.votedFor⟩ := rfl
  rw [read, max_eq_right counted]

theorem sound_load (sound : SoundVotes conv config state answers) :
    SoundVotes conv config (PersistentVotes.load state.file) answers where
  counted := load_counted _
  behind := le_refl _
  agrees := fun _ => .inr rfl
  past := sound.past
  durable := sound.durable
  once := sound.once

theorem sound_denied (sound : SoundVotes conv config state answers)
    (denied : answer.vote conv config = none) : SoundVotes conv config state (answer :: answers) := by
  have kept {row : Answer} {vote : VoteState} (member : row ∈ answer :: answers)
      (granted : row.vote conv config = some vote) : row ∈ answers := by
    rcases List.mem_cons.mp member with new | old
    · rw [new, denied] at granted
      cases granted
    · exact old
  exact
    { counted := sound.counted
      behind := sound.behind
      agrees := sound.agrees
      past := fun row member vote granted => sound.past row (kept member granted) vote granted
      durable := fun row member vote granted => sound.durable row (kept member granted) vote granted
      once := fun first former second latter one two gave given =>
        sound.once first (kept former gave) second (kept latter given) one two gave given }

theorem sound_unsaved (sound : SoundVotes conv config state answers) (new : state.votes.Open term) :
    SoundVotes conv config ⟨⟨term, node⟩, state.file⟩ answers := by
  have forward := new.le
  have behind := sound.behind
  refine ⟨sound.counted.trans forward, behind.trans forward, ?_, sound.past, sound.durable,
    sound.once⟩
  intro same
  dsimp only at same
  rcases new with newer | own
  · omega
  · rcases sound.agrees (by omega) with none | theirs
    · exact .inl none
    · exact .inl (theirs.trans own.2)

theorem sound_granted (sound : SoundVotes conv config state answers) {vote : VoteState}
    (counted : 0 ≤ vote.term) (named : vote.votedFor ≠ "")
    (granted : answer.vote conv config = some vote) (saved : answer.file = some vote)
    (past : ∀ row ∈ answers, ∀ given, row.vote conv config = some given →
      given.term < vote.term ∨ vote = given) :
    SoundVotes conv config ⟨vote, some vote⟩ (answer :: answers) := by
  have own {given : VoteState} (gives : answer.vote conv config = some given) : given = vote :=
    Option.some.inj (gives.symm.trans granted)
  refine ⟨counted, ?_, ?_, ?_, ?_, ?_⟩
  · rw [load_saved counted]
  · intro _
    rw [load_saved counted]
    exact .inr rfl
  · intro row member given gives
    rw [load_saved counted]
    rcases List.mem_cons.mp member with new | old
    · rw [new] at gives
      rw [own gives]
      exact ⟨named, .inr rfl⟩
    · exact ⟨(sound.past row old given gives).1, past row old given gives⟩
  · intro row member given gives
    rcases List.mem_cons.mp member with new | old
    · rw [new] at gives ⊢
      rw [own gives, saved]
    · exact sound.durable row old given gives
  · intro first former second latter one two gave given same
    rcases List.mem_cons.mp former with new | old
    · rw [new] at gave
      rw [own gave] at same ⊢
      rcases List.mem_cons.mp latter with newest | older
      · rw [newest] at given
        rw [own given]
      · rcases past second older two given with before | equal
        · omega
        · rw [equal]
    · rcases List.mem_cons.mp latter with newest | older
      · rw [newest] at given
        rw [own given] at same ⊢
        rcases past first old one gave with before | equal
        · omega
        · rw [equal]
      · exact sound.once first old second older one two gave given same

theorem sound_saved (sound : SoundVotes conv config state answers) (new : state.votes.Open term)
    (named : node ≠ "") (granted : answer.vote conv config = some ⟨term, node⟩)
    (saved : answer.file = some ⟨term, node⟩) :
    SoundVotes conv config ⟨⟨term, node⟩, some ⟨term, node⟩⟩ (answer :: answers) := by
  have forward := new.le
  have behind := sound.behind
  refine sound_granted sound (sound.counted.trans forward) named granted saved ?_
  intro row member given gives
  left
  dsimp only
  rcases sound.past row member given gives with ⟨someone, before | same⟩
  · omega
  · rw [← same] at someone ⊢
    rcases new with newer | own
    · omega
    · rcases lt_or_eq_of_le behind with less | equal
      · omega
      · rcases sound.agrees equal with none | theirs
        · exact absurd none someone
        · exact absurd (theirs.trans own.2) someone

theorem sound_repeated (sound : SoundVotes conv config state answers)
    (saved : state.file = some state.votes) (named : state.votes.votedFor ≠ "")
    (granted : answer.vote conv config = some state.votes)
    (seen : answer.file = state.file) : SoundVotes conv config state (answer :: answers) := by
  have whole : state = ⟨state.votes, some state.votes⟩ := by
    rw [← saved]
  rw [whole]
  refine sound_granted sound sound.counted named granted (seen.trans saved) ?_
  intro row member given gives
  have past := (sound.past row member given gives).2
  rw [saved, load_saved sound.counted] at past
  exact past

variable {request : Forwarded} {written guarded : Bool} {voter after : Voter}
  {reply : Reply}

theorem vote_denied {time : ℚ} {file : Option VoteState} (denied : reply.granted = false) :
    (Answer.mk time request reply file).vote conv config = none := by
  unfold Answer.vote
  rw [denied]
  rfl

theorem vote_granted {time : ℚ} {file : Option VoteState} {leaseMs : Int}
    (votes : request.Votes conv config term leaseMs) (gives : reply.granted = true) :
    (Answer.mk time request reply file).vote conv config = some ⟨term, request.sourceNode⟩ := by
  unfold Answer.vote Forwarded.asks
  rw [if_pos gives, if_pos votes.op, votes.numbers, ← votes.candidate]
  rfl

theorem vote_renewed {time : ℚ} {file : Option VoteState} (renews : request.op conv = "renew") :
    (Answer.mk time request reply file).vote conv config = none := by
  have silent : request.asks conv config = none := by
    unfold Forwarded.asks
    rw [renews, if_neg (by decide)]
  unfold Answer.vote
  dsimp only
  rw [silent]
  split
  · rfl
  · rfl

/-- A request is handled: a vote is granted only if it is saved. -/
theorem handle_sound (sound : SoundVotes conv config voter.state voter.answers)
    (careful : ¬voter.RepeatsUnsaved conv config request) :
    SoundVotes conv config (voter.handle conv config request written).state
      (voter.handle conv config request written).answers := by
  have outcome : Outcome conv config request written voter
    (voter.handleTep conv config request written).1
    (voter.handleTep conv config request written).2 := handleTep_outcome
  unfold Voter.handle
  generalize voter.handleTep conv config request written = result at outcome ⊢
  rcases result with ⟨after, answer⟩
  cases outcome with
  | @refused answer denied =>
      cases answer with
      | error trouble => exact sound
      | ok reply => exact sound_denied sound (vote_denied denied)
  | unsaved votes free new failed => exact sound_unsaved sound new
  | saved votes free new done =>
      exact sound_saved sound new votes.proper.source.1 (vote_granted votes rfl) rfl
  | @repeated term leaseMs votes free same =>
      have saved : voter.state.file = some voter.state.votes := by
        by_contra unsaved
        have own : voter.state.votes.votedFor = request.sourceNode := by
          rw [same]
        refine careful ⟨⟨leaseMs, ?_⟩, own, free, unsaved⟩
        rw [same]
        exact votes
      have named : voter.state.votes.votedFor ≠ "" := by
        rw [same]
        exact votes.proper.source.1
      exact sound_repeated sound saved named (same ▸ vote_granted votes rfl) rfl
  | renewed op proper same => exact sound_denied sound (vote_renewed op)

/-- A vote that is asked for again and that the file has not taken is granted all the same. -/
theorem repeats_unsaved (again : voter.RepeatsUnsaved conv config request) :
    ¬(voter.handle conv config request written).Durable conv config := by
  obtain ⟨leaseMs, votes⟩ := again.votes
  have named : voter.state.votes.votedFor ≠ "" := again.own ▸ votes.proper.source.1
  have granted : voter.handleTep conv config request written =
      voter.grant request.sourceNode voter.state.votes.term leaseMs := by
    rw [handleTep_votes votes]
    unfold Voter.voteRequest
    dsimp only
    rw [again.free, if_neg (by decide), if_neg (lt_irrefl _), if_neg (lt_irrefl _),
      if_neg (by simp [again.own]), if_neg named]
  intro durable
  unfold Voter.handle at durable
  rw [granted] at durable
  have saved := durable _ (List.mem_cons_self ..) _ (vote_granted votes rfl)
  rw [← again.own] at saved
  exact again.unsaved saved

theorem handle_durable_iff (sound : SoundVotes conv config voter.state voter.answers) :
    (voter.handle conv config request written).Durable conv config ↔
      ¬voter.RepeatsUnsaved conv config request :=
  ⟨fun durable again => repeats_unsaved again durable,
    fun careful => (handle_sound sound careful).durable⟩

theorem arrive_sound (sound : SoundVotes conv config voter.state voter.answers) :
    SoundVotes conv config (voter.arrive conv config request guarded).state
      (voter.arrive conv config request guarded).answers := by
  unfold Voter.arrive
  dsimp only
  split
  · rename_i reply refuses
    have denied : reply.granted = false := by
      split at refuses
      · unfold LeaseEngine.restartGuard at refuses
        dsimp only at refuses
        split at refuses
        · cases refuses
          rfl
        · cases refuses
      · cases refuses
    exact sound_denied sound (vote_denied denied)
  · exact sound

theorem step_sound {event : VoterEvent} (sound : SoundVotes conv config voter.state voter.answers)
    (careful : SavesVotes conv config voter event)
    (step : (voterMachine conv config guarded).next voter event = some after) :
    SoundVotes conv config after.state after.answers := by
  cases event with
  | wait seconds =>
      change (if 0 ≤ seconds then _ else _) = _ at step
      split at step
      · cases step
        exact sound
      · cases step
  | arrive request =>
      cases step
      exact arrive_sound sound
  | handle index written =>
      obtain ⟨request, admitted, rfl⟩ := Option.map_eq_some_iff.mp step
      have fresh := careful request admitted
      exact handle_sound sound
        fun again => fresh ⟨again.votes, again.own, again.free, again.unsaved⟩
  | restart =>
      cases step
      exact sound_load sound
  | reboot =>
      cases step
      exact sound_load sound

end Votes

/-- In a life in which no unsaved vote is asked for again, each vote that is granted is in the file
when it is granted, and no term is granted to two candidates. -/
theorem votes_durable (conv : Py.Conversions) (config : Config) (guarded : Bool) (now boot : ℚ)
    (file : Option VoteState) (last : Voter)
    (run : (voterMachine conv config guarded).Run (SavesVotes conv config)
      (Voter.started config now boot file []) last) :
    last.Durable conv config ∧ last.OncePerTerm conv config := by
  have start : SoundVotes conv config (Voter.started config now boot file []).state [] :=
    { counted := load_counted file
      behind := le_refl _
      agrees := fun _ => .inr rfl
      past := fun row member => by cases member
      durable := fun row member => by cases member
      once := fun row member => by cases member }
  have sound : SoundVotes conv config last.state last.answers :=
    run.invariant (fun voter => SoundVotes conv config voter.state voter.answers)
      (fun voter event after kept careful step => step_sound kept careful step) start
  exact ⟨sound.durable, sound.once⟩

theorem votes_durable_saved : ∃ last : Voter,
    last.answers.map (Answer.vote textConversions voterConfig) = [some ⟨5, "alpha"⟩] ∧
    last.Durable textConversions voterConfig ∧ last.OncePerTerm textConversions voterConfig := by
  let request := voteForwarded "vote_request" "alpha" 5
  let first := Voter.started voterConfig 0 0 none []
  let asked := { first with admitted := [request] }
  let last := { first with admitted := [] }.handle textConversions voterConfig request true
  have arrives : (voterMachine textConversions voterConfig false).Step
      (SavesVotes textConversions voterConfig) first asked := ⟨.arrive request, trivial, rfl⟩
  have handles : (voterMachine textConversions voterConfig false).Step
      (SavesVotes textConversions voterConfig) asked last := by
    refine ⟨.handle 0 true, fun forwarded _ again => ?_, rfl⟩
    obtain ⟨leaseMs, votes⟩ := again.votes
    exact votes.proper.source.1 again.own.symm
  refine ⟨last, by decide +kernel, votes_durable textConversions voterConfig false 0 0 none last ?_⟩
  exact (Relation.ReflTransGen.single arrives).tail handles

/-- A vote whose write fails is granted at the second request and forgotten by the restart. -/
def forgottenVote : List VoterEvent :=
  [.arrive (voteForwarded "vote_request" "alpha" 5), .handle 0 false,
    .arrive (voteForwarded "vote_request" "alpha" 5), .handle 0 true, .restart,
    .arrive (voteForwarded "vote_request" "beta" 5), .handle 0 true]

theorem votes_not_durable : ∃ last,
    (voterMachine textConversions voterConfig true).Run (fun _ _ => True)
      (Voter.started voterConfig 0 0 none []) last ∧
    ¬last.Durable textConversions voterConfig ∧ ¬last.OncePerTerm textConversions voterConfig := by
  have played : (((voterMachine textConversions voterConfig true).play (fun _ _ => True)
      (Voter.started voterConfig 0 0 none []) forgottenVote).map fun last =>
        last.answers.map fun answer => (answer.vote textConversions voterConfig, answer.file)) =
      some [(some ⟨5, "beta"⟩, some ⟨5, "beta"⟩), (some ⟨5, "alpha"⟩, none)] := by
    decide +kernel
  obtain ⟨last, lived, rows⟩ := Option.map_eq_some_iff.mp played
  obtain ⟨second, former, answers, later, rest⟩ := List.map_eq_cons_iff.mp rows
  obtain ⟨first, none, listed, row, _⟩ := List.map_eq_cons_iff.mp rest
  have old : first ∈ last.answers := by
    rw [answers, listed]
    simp
  have new : second ∈ last.answers := by
    rw [answers]
    simp
  have alpha : first.vote textConversions voterConfig = some ⟨5, "alpha"⟩ := congrArg Prod.fst row
  have beta : second.vote textConversions voterConfig = some ⟨5, "beta"⟩ := congrArg Prod.fst later
  refine ⟨last, .of_play lived, fun durable => ?_, fun once => ?_⟩
  · have empty : first.file = .none := congrArg Prod.snd row
    have saved := durable first old _ alpha
    rw [empty] at saved
    cases saved
  · have same := once first old second new _ _ alpha beta rfl
    revert same
    decide

end HashBurst.Ha
