import HashBurst.Lib.Protocol
import HashBurst.Ha.Loop

/-! What a candidate does in every round, whatever it is answered: its requests are honest, and
a deadline is at most one lease after a time at which no voter of a quorum had been asked yet.
The exception is the lease that it takes up as its own. -/

namespace HashBurst.Ha

open Lib

structure Honest (cluster : Cluster) (nodeId : NodeId) (payload : Payload) : Prop where
  op : payload.op = "status" ∨ payload.op = "vote_request" ∨ payload.op = "renew"
  lease : payload.op ≠ "status" → payload.leaseMs = some cluster.sentMs
  vote : payload.op = "vote_request" → payload.candidate = nodeId ∧ 0 < payload.term
  renew : payload.op = "renew" → payload.holder = nodeId

/-- What a round has learned: a time that has passed, the voters that granted a request with the
last time before it, the deadline, whether a vote request passed the node's own restart guard,
and whether the node took up a lease as its own. -/
structure Knowledge where
  uptime : ℚ
  grants : List (ℚ × NodeId) := []
  deadline : ℚ
  passed : Bool := false
  adopted : Bool := false

namespace Knowledge

def granted (known : Knowledge) (voter : NodeId) (reply : Reply) : Knowledge :=
  if reply.granted then { known with grants := (known.uptime, voter) :: known.grants } else known

/-- A quorum has granted its leases since a time one lease before the deadline. -/
def Backed (cluster : Cluster) (known : Knowledge) (deadline : ℚ) : Prop :=
  ∃ (started : ℚ) (backing : List NodeId), deadline = started + cluster.lease ∧ backing.Sublist cluster.voters ∧
    cluster.voters.length < 2 * backing.length ∧ ∀ voter ∈ backing, (started, voter) ∈ known.grants

end Knowledge

def learn (nodeId : NodeId) {β : Type} (known : Knowledge) (op : LoopOp β) (answer : β) :
    Knowledge :=
  match op, answer with
  | .bootSeconds, uptime => { known with uptime }
  | .rpc target _, .ok reply => known.granted target reply
  | .handleTep _, .ok reply => known.granted nodeId reply
  | .restartGuard _, some reply => known.granted nodeId reply
  | .restartGuard payload, none =>
      { known with passed := known.passed || payload.op = "vote_request" }
  | .adopt _, _ => { known with adopted := true }
  | .setLeaderDeadline deadline, _ => { known with deadline }
  | .withdraw _, _ => { known with deadline := 0 }
  | _, _ => known

def candidateProtocol (cluster : Cluster) (nodeId : NodeId) : Protocol LoopOp Knowledge where
  allowed known op :=
    match op with
    | .rpc _ payload => Honest cluster nodeId payload
    | .handleTep payload =>
        Honest cluster nodeId payload ∧ (payload.op = "vote_request" → known.passed = true)
    | .setLeaderDeadline deadline => known.Backed cluster deadline ∨ known.adopted = true
    | .writeGuard _ => known.Backed cluster known.deadline
    | _ => True
  learn := learn nodeId

namespace LeaseEngine

section Rounds

variable {cluster : Cluster} {nodeId : NodeId} {known : Knowledge}

theorem statusPayload_honest : Honest cluster nodeId (statusPayload (cluster.config nodeId)) where
  op := .inl rfl
  lease := fun other => absurd rfl other
  vote := fun vote => absurd vote (by simp [statusPayload])
  renew := fun renew => absurd renew (by simp [statusPayload])

private theorem renewPayload_honest {term : Int} :
    Honest cluster nodeId (renewPayload (cluster.config nodeId) term) where
  op := .inr (.inr rfl)
  lease := fun _ => congrArg some (cluster.config_leaseMs nodeId)
  vote := fun vote => absurd vote (by simp [renewPayload])
  renew := fun _ => cluster.named nodeId

private theorem votePayload_honest {term : Int} (positive : 0 < term) :
    Honest cluster nodeId (votePayload (cluster.config nodeId) term) where
  op := .inr (.inl rfl)
  lease := fun _ => congrArg some (cluster.config_leaseMs nodeId)
  vote := fun _ => ⟨cluster.named nodeId, positive⟩
  renew := fun renew => absurd renew (by simp [votePayload])

structure Polled (known after : Knowledge) (answers : List (NodeId × Except Failure Reply)) :
    Prop where
  uptime : after.uptime = known.uptime
  kept : ∀ grant ∈ known.grants, grant ∈ after.grants
  granted : ∀ voter reply, (voter, Except.ok reply) ∈ answers → reply.granted = true →
    (known.uptime, voter) ∈ after.grants

private theorem granted_uptime (known : Knowledge) (voter : NodeId) (reply : Reply) :
    (known.granted voter reply).uptime = known.uptime := by
  unfold Knowledge.granted
  split
  · rfl
  · rfl

private theorem granted_kept {voter : NodeId} {reply : Reply} {grant : ℚ × NodeId}
    (member : grant ∈ known.grants) : grant ∈ (known.granted voter reply).grants := by
  unfold Knowledge.granted
  split
  · exact List.mem_cons_of_mem _ member
  · exact member

private theorem granted_recorded {voter : NodeId} {reply : Reply} (granted : reply.granted = true) :
    (known.uptime, voter) ∈ (known.granted voter reply).grants := by
  unfold Knowledge.granted
  rw [if_pos granted]
  exact List.mem_cons_self

theorem polled_one {voter : NodeId} {reply : Reply} :
    Polled known (known.granted voter reply) [(voter, .ok reply)] where
  uptime := granted_uptime known voter reply
  kept := fun _ => granted_kept
  granted := by
    intro other answer member granted
    cases List.mem_singleton.mp member
    exact granted_recorded granted

theorem polled_failed {voter : NodeId} {failure : Failure} :
    Polled known known [(voter, .error failure)] where
  uptime := rfl
  kept := fun _ member => member
  granted := by
    intro other answer member
    cases List.mem_singleton.mp member

theorem polled_append {middle after : Knowledge} {front back : List (NodeId × Except Failure Reply)}
    (first : Polled known middle front) (second : Polled middle after back) :
    Polled known after (front ++ back) where
  uptime := second.uptime.trans first.uptime
  kept := fun grant member => second.kept grant (first.kept grant member)
  granted := by
    intro voter reply member granted
    rcases List.mem_append.mp member with early | late
    · exact second.kept _ (first.granted voter reply early granted)
    · rw [← first.uptime]
      exact second.granted voter reply late granted

theorem polled_passed {passed : Bool} : Polled known { known with passed } [] where
  uptime := rfl
  kept := fun _ member => member
  granted := fun _ _ member => absurd member List.not_mem_nil

/-- What is learned of one voter, asked over TEP or in the process itself. -/
theorem rpc_obeys {payload : Payload} {target : NodeId} (honest : Honest cluster nodeId payload) :
    (rpc (cluster.config nodeId) target payload).Obeys (candidateProtocol cluster nodeId)
      (fun after result => ∃ answer, result = .ok answer ∧ Polled known after [(target, answer)])
      known := by
  unfold rpc
  split
  · rename_i own
    rw [cluster.named] at own
    subst own
    refine Prog.obeys_ask_bind trivial fun reply => ?_
    cases reply with
    | some reply => exact ⟨.ok reply, rfl, polled_one⟩
    | none =>
        refine Prog.obeys_ask ⟨honest, fun vote => ?_⟩ fun answer => ⟨answer, rfl, ?_⟩
        · simp [candidateProtocol, learn, vote]
        · cases answer with
          | ok reply => exact polled_append polled_passed polled_one
          | error failure => exact polled_append polled_passed polled_failed
  · refine Prog.obeys_ask honest fun answer => ⟨answer, rfl, ?_⟩
    cases answer with
    | ok reply => exact polled_one
    | error failure => exact polled_failed

theorem askVoters_obeys {payload : Payload} (honest : Honest cluster nodeId payload)
    (voters : List NodeId) :
    (askVoters (cluster.config nodeId) payload voters).Obeys (candidateProtocol cluster nodeId)
      (fun after result => ∃ answers, result = .ok answers ∧ answers.map Prod.fst = voters ∧
        Polled known after answers) known := by
  induction voters generalizing known with
  | nil => exact ⟨[], rfl, rfl, polled_passed⟩
  | cons voter voters ih =>
      unfold askVoters
      apply Prog.obeys_bind
      refine Prog.obeys_mono ?_ (rpc_obeys honest)
      rintro middle result ⟨answer, rfl, first⟩
      apply Prog.obeys_bind
      refine Prog.obeys_mono ?_ ih
      rintro after result ⟨answers, rfl, names, second⟩
      exact ⟨(voter, answer) :: answers, rfl, by rw [List.map_cons, names],
        polled_append first second⟩

/-- A quorum of grants backs the deadline one lease after the time they were asked for. -/
theorem backed_of_polled {after : Knowledge} {term : Int}
    {answers : List (NodeId × Except Failure Reply)} (polled : Polled known after answers)
    (asked : answers.map Prod.fst = (cluster.config nodeId).voters)
    (quorum : (cluster.config nodeId).quorum ≤ countGrants term answers) :
    after.Backed cluster (known.uptime + (cluster.config nodeId).leaseSeconds) := by
  have majority := (cluster.config nodeId).quorum_majority
  rw [cluster.sameVoters] at asked majority
  let granting := answers.filter fun answered => grantsTerm term answered.2
  refine ⟨known.uptime, granting.map Prod.fst, ?_, ?_, ?_, ?_⟩
  · rw [cluster.sameLease]
    rfl
  · rw [← asked]
    exact List.filter_sublist.map _
  · have count : countGrants term answers = granting.length := List.countP_eq_length_filter
    rw [List.length_map]
    omega
  · intro voter member
    obtain ⟨⟨name, answer⟩, listed, rfl⟩ := List.mem_map.mp member
    obtain ⟨inside, granted⟩ := List.mem_filter.mp listed
    cases answer with
    | error failure => cases granted
    | ok reply =>
        unfold grantsTerm at granted
        rw [Bool.and_eq_true] at granted
        exact polled.granted name reply inside granted.1

theorem backed_congr {other : Knowledge} {deadline : ℚ} (same : other.grants = known.grants)
    (backed : known.Backed cluster deadline) : other.Backed cluster deadline := by
  unfold Knowledge.Backed at *
  rw [same]
  exact backed

theorem demote_follows (reason : String) :
    (demote reason).Follows (candidateProtocol cluster nodeId) := by
  refine Prog.follows_bind (Prog.follows_ask fun _ => trivial) fun _ => ?_
  refine Prog.follows_bind (Prog.follows_attempt fun _ => trivial) fun _ => ?_
  refine Prog.follows_bind (Prog.follows_ask fun _ => trivial) fun fenced => ?_
  cases fenced with
  | ok done => exact Prog.follows_ret _
  | error failure => exact Prog.follows_ask fun _ => trivial

theorem demoteExpired_follows (reason : String) :
    (demoteExpired reason).Follows (candidateProtocol cluster nodeId) := by
  refine Prog.follows_bind (Prog.follows_ask fun _ => trivial) fun deadline => ?_
  refine Prog.follows_bind (Prog.follows_ask fun _ => trivial) fun now => ?_
  split
  · exact demote_follows reason
  · exact Prog.follows_ret _

theorem takeLease_obeys {term : Int} {deadline : ℚ} (backed : known.Backed cluster deadline) :
    (takeLease (cluster.config nodeId) term deadline).Obeys (candidateProtocol cluster nodeId)
      (fun _ _ => True) known := by
  refine Prog.obeys_ask_bind (.inl backed) fun _ => ?_
  have primary : ∀ done : Unit, (Prog.attempt .setPrimary >>= fun _ => pure true :
      Loop Bool).Follows (candidateProtocol cluster nodeId) := fun _ =>
    Prog.follows_bind (Prog.follows_attempt fun _ => trivial) fun _ => Prog.follows_ret _
  refine Prog.obeys_bind_follows ?_ primary
  unfold writeGuard
  split
  · exact Prog.obeys_attempt (backed_congr rfl backed) fun _ => trivial
  · trivial

/-- The end of a poll: with a quorum, the lease that it backs. -/
theorem polled_takeLease {after : Knowledge} {term : Int} {now : ℚ}
    {answers : List (NodeId × Except Failure Reply)} {front : Loop Unit} {back : Loop Bool}
    (polled : Polled known after answers)
    (asked : answers.map Prod.fst = (cluster.config nodeId).voters)
    (quiet : ∀ known, front.Obeys (candidateProtocol cluster nodeId)
      (fun after _ => after.grants = known.grants) known)
    (otherwise : back.Follows (candidateProtocol cluster nodeId)) :
    (if countGrants term answers ≥ (cluster.config nodeId).quorum &&
          known.uptime + (cluster.config nodeId).leaseSeconds > now then
        front >>= fun _ => takeLease (cluster.config nodeId) term
          (known.uptime + (cluster.config nodeId).leaseSeconds)
      else back).Obeys (candidateProtocol cluster nodeId) (fun _ _ => True)
        { after with uptime := now } := by
  split
  · rename_i won
    rw [Bool.and_eq_true, decide_eq_true_eq] at won
    have backed := backed_of_polled polled asked won.1
    apply Prog.obeys_bind
    refine Prog.obeys_mono (fun later result same => ?_) (quiet _)
    cases result with
    | ok done => exact takeLease_obeys (backed_congr same backed)
    | error failure => trivial
  · exact otherwise _

theorem renew_follows : (renew (cluster.config nodeId)).Follows (candidateProtocol cluster nodeId) := by
  refine Prog.follows_bind (Prog.follows_attempt fun _ => trivial) fun found => ?_
  obtain ⟨eligible, reasons⟩ := found
  dsimp only
  split
  · intro known
    refine Prog.obeys_ask_bind trivial fun started => ?_
    refine Prog.obeys_ask_bind trivial fun term => ?_
    apply Prog.obeys_bind
    refine Prog.obeys_mono ?_ (askVoters_obeys renewPayload_honest _)
    rintro after result ⟨answers, rfl, asked, polled⟩
    refine Prog.obeys_ask_bind trivial fun now => ?_
    have quiet : ∀ known, (pure () : Loop Unit).Obeys (candidateProtocol cluster nodeId)
        (fun after _ => after.grants = known.grants) known := fun _ => rfl
    exact polled_takeLease polled asked quiet (Prog.follows_ret false)
  · exact Prog.follows_bind (demote_follows _) fun _ => Prog.follows_ret _

theorem campaign_follows {term : Int} (positive : 0 < term) :
    (campaign (cluster.config nodeId) term).Follows (candidateProtocol cluster nodeId) := by
  intro known
  refine Prog.obeys_ask_bind trivial fun started => ?_
  apply Prog.obeys_bind
  refine Prog.obeys_mono ?_ (askVoters_obeys (votePayload_honest positive) _)
  rintro after result ⟨answers, rfl, asked, polled⟩
  refine Prog.obeys_ask_bind trivial fun now => ?_
  refine polled_takeLease polled asked (fun _ => Prog.obeys_ask trivial fun _ => rfl) ?_
  split
  · exact Prog.follows_bind (Prog.follows_ask fun _ => trivial) fun _ => Prog.follows_ret _
  · exact Prog.follows_ret _

private theorem rpc_follows {payload : Payload} {target : NodeId}
    (honest : Honest cluster nodeId payload) :
    (rpc (cluster.config nodeId) target payload).Follows (candidateProtocol cluster nodeId) :=
  fun _ => Prog.obeys_mono (fun _ _ _ => trivial) (rpc_obeys honest)

theorem anyReady_follows (candidates : List Candidate) :
    (anyReady (cluster.config nodeId) candidates).Follows (candidateProtocol cluster nodeId) := by
  induction candidates with
  | nil => exact Prog.follows_ret _
  | cons candidate candidates ih =>
      refine Prog.follows_bind (rpc_follows statusPayload_honest) fun answer => ?_
      cases answer with
      | error failure => exact ih
      | ok reply =>
          dsimp only
          split
          · exact Prog.follows_ret _
          · exact ih

theorem leaderRound_follows (maxTerm : Int) :
    (leaderRound (cluster.config nodeId) maxTerm).Follows (candidateProtocol cluster nodeId) := by
  refine Prog.follows_bind (Prog.follows_ask fun _ => trivial) fun term => ?_
  split
  · exact demote_follows _
  · refine Prog.follows_bind renew_follows fun renewed => ?_
    split
    · exact Prog.follows_ret _
    · exact demoteExpired_follows _

theorem candidateRound_follows {reachable : Nat} {maxTerm : Int} {holder : NodeId}
    {holderTerm : Int} (known : 0 ≤ maxTerm) :
    (candidateRound (cluster.config nodeId) reachable maxTerm holder holderTerm).Follows
      (candidateProtocol cluster nodeId) := by
  refine Prog.follows_bind (Prog.follows_attempt fun _ => trivial) fun found => ?_
  obtain ⟨eligible, reasons⟩ := found
  dsimp only
  split
  · exact demote_follows _
  · split
    · exact demote_follows _
    · split
      · intro known
        refine Prog.obeys_ask_bind trivial fun _ => ?_
        refine Prog.obeys_ask_bind trivial fun now => ?_
        refine Prog.obeys_ask_bind (.inr rfl) fun _ => ?_
        exact Prog.obeys_bind_follows (renew_follows _) fun _ => Prog.follows_ret _
      · refine Prog.follows_bind ?_ fun ready => ?_
        · unfold higherPriorityCandidateReady
          split
          · exact anyReady_follows _
          · exact Prog.follows_ret _
        · split
          · exact demote_follows _
          · refine Prog.follows_bind (campaign_follows (by omega)) fun _ => ?_
            exact demoteExpired_follows _

theorem majorityView_nonneg (config : Config) (responses : List (NodeId × Reply)) :
    0 ≤ (majorityView config responses).1 := by
  have grows : ∀ (replies : List (NodeId × Reply)) (start : Int),
      start ≤ replies.foldl (fun term replied => max term replied.2.term) start := by
    intro replies
    induction replies with
    | nil => exact fun start => le_refl start
    | cons head tail ih => exact fun start => (le_max_left _ _).trans (ih _)
  unfold majorityView
  dsimp only
  split
  · exact grows responses 0
  · split
    · exact grows responses 0
    · exact grows responses 0

theorem round_follows : (round (cluster.config nodeId)).Follows (candidateProtocol cluster nodeId) := by
  have polled : (queryVoters (cluster.config nodeId)).Follows (candidateProtocol cluster nodeId) :=
    Prog.follows_bind (fun _ => Prog.obeys_mono (fun _ _ _ => trivial)
      (askVoters_obeys statusPayload_honest _)) fun _ => Prog.follows_ret _
  refine Prog.follows_bind polled fun responses => ?_
  have positive := majorityView_nonneg (cluster.config nodeId) responses
  dsimp only
  generalize majorityView (cluster.config nodeId) responses = view at positive ⊢
  obtain ⟨maxTerm, holder, holderTerm⟩ := view
  refine Prog.follows_bind (Prog.follows_ask fun _ => trivial) fun _ => ?_
  split
  · refine Prog.follows_bind (Prog.follows_ask fun _ => trivial) fun term => ?_
    exact Prog.follows_bind (Prog.follows_ask fun _ => trivial) fun _ => demote_follows _
  · refine Prog.follows_bind (Prog.follows_ask fun _ => trivial) fun deadline => ?_
    refine Prog.follows_bind (Prog.follows_ask fun _ => trivial) fun now => ?_
    split
    · exact leaderRound_follows maxTerm
    · split
      · exact candidateRound_follows positive
      · exact Prog.follows_ret _

theorem runOnce_follows :
    (runOnce (cluster.config nodeId)).Follows (candidateProtocol cluster nodeId) :=
  Prog.follows_handle round_follows fun _ =>
    Prog.follows_bind (Prog.follows_ask fun _ => trivial) fun _ => demoteExpired_follows _

end Rounds

end LeaseEngine

end HashBurst.Ha
