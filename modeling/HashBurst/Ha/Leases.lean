import HashBurst.Ha.Discipline
import HashBurst.Ha.System

/-! What holds at every moment of a cluster: a voter keeps to its leases across restarts, and
what a candidate relies on is backed by leases of a majority. -/

namespace HashBurst.Ha

open Lib LeaseEngine

structure Granting (config : Config) (uptime : ℚ) (source : Source) (payload : Payload)
    (votes : VoteState) (engine : Engine) (newVotes : VoteState) (newEngine : Engine)
    (holder : NodeId) (leaseMs : Int) : Prop where
  voter : config.isVoter = true
  source : holder = Py.strip source.nodeId
  named : holder ≠ ""
  length : leaseMs = payload.leaseMs.getD config.leaseMs ∧ leaseMs ≤ config.leaseMs
  memory : newEngine = { engine with voterHolder := holder, voterDeadline := uptime + leaseMs / 1000 }
  vote : newVotes.votedFor = holder
  how : (Py.strip payload.op = "vote_request" ∧ payload.candidate = holder ∧
      newVotes.term = payload.term ∧
      (uptime < engine.voterDeadline → engine.voterHolder ≠ "" → engine.voterHolder = holder)) ∨
    (Py.strip payload.op = "renew" ∧ payload.holder = holder ∧ newVotes = votes)

section Requests

variable {config : Config} {uptime : ℚ} {source : Source} {payload : Payload} {votes after : VoteState}
  {engine changed : Engine} {reply : Reply}

theorem voteRequest_cases {candidate : NodeId} {term leaseMs : Int}
    (done : voteRequest uptime candidate term leaseMs votes engine = (after, changed, reply)) :
    (reply.granted = false ∧ after = votes ∧ changed = engine) ∨
      (reply.granted = true ∧ after.votedFor = candidate ∧ after.term = term ∧
        changed =
          { engine with voterHolder := candidate, voterDeadline := uptime + leaseMs / 1000 } ∧
        (uptime < engine.voterDeadline → engine.voterHolder ≠ "" →
          engine.voterHolder = candidate)) := by
  unfold voteRequest grant at done
  dsimp only at done
  split at done
  · cases done
    exact .inl ⟨rfl, rfl, rfl⟩
  · rename_i free
    have unbound : uptime < engine.voterDeadline → engine.voterHolder ≠ "" →
        engine.voterHolder = candidate := by
      intro active named
      by_contra other
      exact free (by simp [active, named, other])
    split at done
    · cases done
      exact .inl ⟨rfl, rfl, rfl⟩
    · rename_i current
      split at done
      · cases done
        exact .inr ⟨rfl, rfl, rfl, rfl, unbound⟩
      · rename_i low
        have same : votes.term = term := by omega
        split at done
        · cases done
          exact .inl ⟨rfl, rfl, rfl⟩
        · rename_i own
          split at done
          · cases done
            exact .inr ⟨rfl, rfl, rfl, rfl, unbound⟩
          · rename_i voted
            cases done
            have candidacy : votes.votedFor = candidate := by
              by_contra other
              exact own (by simp [voted, other])
            exact .inr ⟨rfl, candidacy, same, rfl, unbound⟩

/-- A request leaves the voter as it is, unless it is granted. -/
theorem handleTep_cases
    (done : handleTep config uptime source payload votes engine = .ok (after, changed, reply)) :
    (reply.granted = false ∧ after = votes ∧ changed = engine) ∨
      (reply.granted = true ∧ ∃ holder leaseMs,
        Granting config uptime source payload votes engine after changed holder leaseMs) := by
  unfold handleTep at done
  dsimp only at done
  split at done
  · cases done
  · rename_i known
    have named : Py.strip source.nodeId ≠ "" := by
      intro blank
      exact known (by simp [blank])
    split at done
    · cases done
    · split at done
      · cases done
        exact .inl ⟨rfl, rfl, rfl⟩
      · split at done
        · cases done
        · rename_i voter
          have isVoter : config.isVoter = true := by simpa using voter
          split at done
          · cases done
          · split at done
            · rename_i op
              split at done
              · cases done
              · rename_i own
                split at done
                · cases done
                · rename_i length
                  have short : payload.leaseMs.getD config.leaseMs ≤ config.leaseMs := by
                    simp only [Bool.or_eq_true, decide_eq_true_eq, not_or] at length
                    omega
                  have candidate : payload.candidate = Py.strip source.nodeId := not_not.mp own
                  rcases voteRequest_cases (Except.ok.inj done) with refused | ⟨granted, vote,
                    term, memory, unbound⟩
                  · exact .inl refused
                  · refine .inr ⟨granted, payload.candidate, payload.leaseMs.getD config.leaseMs, ?_⟩
                    exact
                      { voter := isVoter, source := candidate, named := candidate ▸ named
                        length := ⟨rfl, short⟩, memory, vote
                        how := .inl ⟨op, rfl, term, unbound⟩ }
            · split at done
              · rename_i op
                split at done
                · cases done
                · rename_i own
                  have held : payload.holder = Py.strip source.nodeId := not_not.mp own
                  unfold renewal grant at done
                  split at done
                  · cases done
                    exact .inl ⟨rfl, rfl, rfl⟩
                  · rename_i current
                    split at done
                    · cases done
                    · rename_i length
                      cases done
                      have short : payload.leaseMs.getD config.leaseMs ≤ config.leaseMs := by
                        simp only [Bool.or_eq_true, decide_eq_true_eq, not_or] at length
                        omega
                      simp only [Bool.or_eq_true, decide_eq_true_eq, not_or, not_not] at current
                      refine .inr ⟨rfl, payload.holder, payload.leaseMs.getD config.leaseMs, ?_⟩
                      exact
                        { voter := isVoter, source := held, named := held ▸ named
                          length := ⟨rfl, short⟩, memory := rfl, vote := current.2
                          how := .inr ⟨op, rfl, rfl⟩ }
              · cases done

/-- Past the restart guard: it has run out, or the voter's vote is the source's. -/
theorem restartGuard_none (op : payload.op = "vote_request")
    (passed : restartGuard config uptime source payload votes engine = none)
    (voter : config.isVoter = true) (named : Py.strip source.nodeId ≠ "") :
    engine.restartGuardUntil ≤ uptime ∨ votes.votedFor = "" ∨
      votes.votedFor = Py.strip source.nodeId := by
  by_contra other
  simp only [not_or, not_le] at other
  obtain ⟨running, voted, apart⟩ := other
  unfold restartGuard at passed
  simp [op, voter, running, voted, named, Ne.symm apart] at passed

theorem restartGuard_some (refused : restartGuard config uptime source payload votes engine =
    some reply) : reply.granted = false := by
  unfold restartGuard at refused
  dsimp only at refused
  split at refused
  · cases refused
    rfl
  · cases refused

end Requests

/-- `boot_seconds()` at a time. -/
def Node.reading (node : Node) (now : ℚ) : ℚ := bootReading (now - node.boot)

section Readings

variable (node : Node) {now later : ℚ}

theorem reading_le (now : ℚ) : node.boot + node.reading now ≤ now := by
  have floor := bootReading_le (now - node.boot)
  unfold Node.reading
  linarith

theorem lt_reading (now : ℚ) : now < node.boot + node.reading now + 1 / 100 := by
  have floor := lt_bootReading (now - node.boot)
  unfold Node.reading
  linarith

private theorem reading_mono (order : now ≤ later) : node.reading now ≤ node.reading later :=
  bootReading_mono (by linarith)

theorem reading_congr {node changed : Node} (boot : changed.boot = node.boot) :
    changed.reading now = node.reading now := by
  unfold Node.reading
  rw [boot]

theorem reading_nonneg (booted : node.boot ≤ now) : 0 ≤ node.reading now :=
  bootReading_nonneg (by linarith)

end Readings

/-- A vote request of the source may change the vote: the restart guard has run out, or the vote
is the source's already. -/
def Passed (cluster : Cluster) (now : ℚ) (voter : NodeId) (node : Node) (engine : Engine)
    (source : NodeId) : Prop :=
  (cluster.config voter).isVoter = true → Py.strip source ≠ "" →
    node.boot + engine.restartGuardUntil ≤ now ∨ node.votes.votedFor = Py.strip source

structure Bound (cluster : Cluster) (now : ℚ) (voter : NodeId) (node : Node)
    (lease : Lease NodeId NodeId ℚ) : Prop where
  vote : node.votes.votedFor = lease.holder
  named : lease.holder ≠ ""
  voter : (cluster.config voter).isVoter = true
  short : lease.expires ≤ node.boot + node.reading now + cluster.span
  kept : ∀ process, node.process = some process →
    (process.engine.voterHolder = lease.holder ∧
      lease.expires ≤ node.boot + process.engine.voterDeadline) ∨
    lease.expires ≤ node.boot + process.engine.restartGuardUntil

/-- No lease of the voter to another candidate has ended so lately that its holder may still take it
for unexpired. -/
def Rested (cluster : Cluster) (world : World) (voter candidate : NodeId) : Prop :=
  ∀ lease ∈ world.register.leases, lease.voter = voter → lease.holder ≠ candidate →
    world.now < lease.expires + cluster.respite → world.now < lease.expires

instance (cluster : Cluster) (world : World) (voter candidate : NodeId) :
    Decidable (Rested cluster world voter candidate) :=
  inferInstanceAs (Decidable (∀ lease ∈ _, _ → _ → _ → _))

/-- The voter of a node; in strict runs its vote outlasts its leases by the respite. -/
structure VoterSound (cluster : Cluster) (strict : Prop) (world : World) (voter : NodeId)
    (node : Node) : Prop where
  booted : node.boot ≤ world.now
  voted : node.votes.votedFor ≠ "" → 0 < node.votes.term
  bound : ∀ lease ∈ world.register.leases, lease.voter = voter → world.now < lease.expires →
    Bound cluster world.now voter node lease
  pledged : strict → ∀ lease ∈ world.register.leases, lease.voter = voter →
    world.now < lease.expires + cluster.respite → node.votes.votedFor = lease.holder
  restart : ∀ process, node.process = some process →
    world.now < node.boot + process.engine.restartGuardUntil → node.votes.votedFor ≠ ""
  admitted : ∀ process, node.process = some process → ∀ number ∈ process.admitted,
    ∃ request, world.requests[number]? = some request ∧
      (request.payload.op = "vote_request" →
        Passed cluster world.now voter node process.engine request.sender)

structure Knows (cluster : Cluster) (strict : Prop) (world : World) (nodeId : NodeId) (node : Node)
    (engine : Engine) (known : Knowledge) : Prop where
  uptime : node.boot + known.uptime ≤ world.now
  grants : ∀ floor voter, (floor, voter) ∈ known.grants → ∃ lease ∈ world.register.leases,
    lease.voter = voter ∧ lease.holder = nodeId ∧ node.boot + floor + cluster.lease - cluster.slack ≤ lease.expires
  deadline : known.deadline = engine.leaderDeadline
  passed : known.passed = true → Passed cluster world.now nodeId node engine nodeId
  adopted : strict → known.adopted = false

def rpcTarget : Loop Unit → Option NodeId
  | .call (.rpc target _) _ => some target
  | _ => none

def Waits (world : World) (nodeId : NodeId) (node : Node) (known : Knowledge) (loop : Loop Unit)
    (number : Nat) : Prop :=
  ∃ request, rpcTarget loop = some request.target ∧ world.requests[number]? = some request ∧
    request.sender = nodeId ∧ node.boot + known.uptime ≤ request.sentAt

/-- The candidate of a node; the leader's deadline counts only in strict runs. -/
structure CandidateSound (cluster : Cluster) (strict : Prop) (world : World) (nodeId : NodeId)
    (node : Node) : Prop where
  guard : ∀ file, node.guardFile = some file →
    world.register.Backed cluster.voters nodeId (node.boot + file.bootDeadline - cluster.slack)
  leader : strict → ∀ process, node.process = some process → process.engine.leaderDeadline ≤ 0 ∨
    world.register.Backed cluster.voters nodeId (node.boot + process.engine.leaderDeadline - cluster.slack)
  loop : ∀ process, node.process = some process → ∃ known,
    Knows cluster strict world nodeId node process.engine known ∧
    process.loop.Obeys (candidateProtocol cluster nodeId) (fun _ _ => True) known ∧
    ∀ number, process.awaiting = some number → Waits world nodeId node known process.loop number

structure MessagesSound (cluster : Cluster) (world : World) : Prop where
  honest : ∀ request ∈ world.requests,
    Honest cluster request.sender request.payload ∧ request.sentAt ≤ world.now
  granted : ∀ number reply, (number, reply) ∈ world.replies → reply.granted = true →
    ∃ request, world.requests[number]? = some request ∧ ∃ lease ∈ world.register.leases,
      lease.voter = request.target ∧ lease.holder = request.sender ∧
      request.sentAt + cluster.lease - cluster.slack ≤ lease.expires

structure Sound (cluster : Cluster) (strict : Prop) (world : World) : Prop where
  voter : ∀ nodeId, VoterSound cluster strict world nodeId (world.nodes nodeId)
  candidate : ∀ nodeId, CandidateSound cluster strict world nodeId (world.nodes nodeId)
  messages : MessagesSound cluster world

section Frames

variable {cluster : Cluster} {strict : Prop} {world after : World} {nodeId : NodeId} {node : Node}

structure Grows (world after : World) : Prop where
  now : world.now ≤ after.now
  leases : ∀ lease ∈ world.register.leases, lease ∈ after.register.leases
  requests : ∀ (number : Nat) request, world.requests[number]? = some request →
    after.requests[number]? = some request

theorem passed_later {now later : ℚ} {engine : Engine} {source : NodeId} (order : now ≤ later)
    (passed : Passed cluster now nodeId node engine source) :
    Passed cluster later nodeId node engine source :=
  fun voter named => (passed voter named).imp (fun ended => ended.trans order) id

theorem voterSound_grows (grows : Grows world after)
    (same : ∀ lease ∈ after.register.leases, lease.voter = nodeId → lease ∈ world.register.leases)
    (sound : VoterSound cluster strict world nodeId node) : VoterSound cluster strict after nodeId node where
  booted := sound.booted.trans grows.now
  voted := sound.voted
  bound := by
    intro lease member own unexpired
    have bound := sound.bound lease (same lease member own) own (grows.now.trans_lt unexpired)
    have later := reading_mono node grows.now
    exact { bound with short := bound.short.trans (by linarith) }
  pledged := fun held lease member own active =>
    sound.pledged held lease (same lease member own) own (grows.now.trans_lt active)
  restart := fun process running active =>
    sound.restart process running (grows.now.trans_lt active)
  admitted := by
    intro process running number member
    obtain ⟨request, found, passed⟩ := sound.admitted process running number member
    exact ⟨request, grows.requests number request found,
      fun vote => passed_later grows.now (passed vote)⟩

theorem knows_grows {engine : Engine} {known : Knowledge} (grows : Grows world after)
    (knows : Knows cluster strict world nodeId node engine known) :
    Knows cluster strict after nodeId node engine known where
  uptime := knows.uptime.trans grows.now
  grants := by
    intro floor voter member
    obtain ⟨lease, granted, facts⟩ := knows.grants floor voter member
    exact ⟨lease, grows.leases lease granted, facts⟩
  deadline := knows.deadline
  passed := fun passed => passed_later grows.now (knows.passed passed)
  adopted := knows.adopted

private theorem waits_grows {known : Knowledge} {loop : Loop Unit} {number : Nat}
    (grows : Grows world after) (waits : Waits world nodeId node known loop number) :
    Waits after nodeId node known loop number := by
  obtain ⟨request, called, found, facts⟩ := waits
  exact ⟨request, called, grows.requests number request found, facts⟩

theorem candidateSound_grows (grows : Grows world after)
    (sound : CandidateSound cluster strict world nodeId node) :
    CandidateSound cluster strict after nodeId node where
  guard := fun file written =>
    Register.backed_mono grows.leases (le_refl _) (sound.guard file written)
  leader := fun held process running => (sound.leader held process running).imp id
    (Register.backed_mono grows.leases (le_refl _))
  loop := by
    intro process running
    obtain ⟨known, knows, obeys, waits⟩ := sound.loop process running
    exact ⟨known, knows_grows grows knows, obeys,
      fun number awaited => waits_grows grows (waits number awaited)⟩

theorem messagesSound_grows (grows : Grows world after)
    (honest : ∀ request ∈ after.requests, request ∈ world.requests ∨
      (Honest cluster request.sender request.payload ∧ request.sentAt ≤ after.now))
    (granted : ∀ number reply, (number, reply) ∈ after.replies → (number, reply) ∈ world.replies ∨
      (reply.granted = true → ∃ request, after.requests[number]? = some request ∧
        ∃ lease ∈ after.register.leases, lease.voter = request.target ∧
          lease.holder = request.sender ∧ request.sentAt + cluster.lease - cluster.slack ≤ lease.expires))
    (sound : MessagesSound cluster world) : MessagesSound cluster after where
  honest := by
    intro request member
    rcases honest request member with old | new
    · obtain ⟨fair, sent⟩ := sound.honest request old
      exact ⟨fair, sent.trans grows.now⟩
    · exact new
  granted := by
    intro number reply member grant
    rcases granted number reply member with old | new
    · obtain ⟨request, found, lease, given, facts⟩ := sound.granted number reply old grant
      exact ⟨request, grows.requests number request found, lease, grows.leases lease given, facts⟩
    · exact new grant

variable (nodeId) in
/-- A step that changes one node: the others only see the world grow. -/
theorem sound_update (sound : Sound cluster strict world) (grows : Grows world after)
    (others : ∀ other, other ≠ nodeId → after.nodes other = world.nodes other)
    (leases : ∀ lease ∈ after.register.leases, lease.voter = nodeId ∨ lease ∈ world.register.leases)
    (voter : VoterSound cluster strict after nodeId (after.nodes nodeId))
    (candidate : CandidateSound cluster strict after nodeId (after.nodes nodeId))
    (messages : MessagesSound cluster after) : Sound cluster strict after where
  voter := by
    intro other
    by_cases same : other = nodeId
    · exact same ▸ voter
    · rw [others other same]
      refine voterSound_grows grows (fun lease member own => ?_) (sound.voter other)
      exact (leases lease member).resolve_left fun mine => same (own.symm.trans mine)
  candidate := by
    intro other
    by_cases same : other = nodeId
    · exact same ▸ candidate
    · rw [others other same]
      exact candidateSound_grows grows (sound.candidate other)
  messages := messages

end Frames

section Votes

variable {cluster : Cluster} {strict : Prop} {world : World} {voter : NodeId} {node : Node} {process : Process}
  {source : Source} {payload : Payload} {votes : VoteState} {engine : Engine} {holder : NodeId}
  {leaseMs : Int}

theorem honest_op {op : String} (honest : Honest cluster source.nodeId payload)
    (stripped : Py.strip payload.op = op) : payload.op = op := by
  have plain : Py.strip payload.op = payload.op := by
    rcases honest.op with status | vote | renew
    · rw [status]
      decide
    · rw [vote]
      decide
    · rw [renew]
      decide
  exact plain.symm.trans stripped

/-- An honest request is granted for a whole lease and to its sender. -/
theorem granting_facts {uptime : ℚ} {before : VoteState} {old : Engine}
    (granting : Granting (cluster.config voter) uptime source payload before old votes engine holder
      leaseMs)
    (honest : Honest cluster source.nodeId payload) :
    leaseMs = cluster.sentMs ∧ holder = source.nodeId ∧
      ((payload.op = "vote_request" ∧ 0 < votes.term ∧ (uptime < old.voterDeadline →
          old.voterHolder ≠ "" → old.voterHolder = holder)) ∨
        (votes = before ∧ before.votedFor = holder)) := by
  have whole : payload.op ≠ "status" → leaseMs = cluster.sentMs := by
    intro request
    rw [granting.length.1, honest.lease request]
    rfl
  rcases granting.how with ⟨op, candidate, term, unbound⟩ | ⟨op, held, same⟩
  · have vote := honest_op honest op
    refine ⟨whole (by rw [vote]; decide), ?_, .inl ⟨vote, ?_, unbound⟩⟩
    · exact candidate.symm.trans (honest.vote vote).1
    · rw [term]
      exact (honest.vote vote).2
  · have renew := honest_op honest op
    refine ⟨whole (by rw [renew]; decide), ?_, .inr ⟨same, ?_⟩⟩
    · exact held.symm.trans (honest.renew renew)
    · rw [← same]
      exact granting.vote

theorem granting_free (sound : VoterSound cluster strict world voter node)
    (running : node.process = some process)
    (granting : Granting (cluster.config voter) (node.reading world.now) source payload node.votes
      process.engine votes engine holder leaseMs)
    (honest : Honest cluster source.nodeId payload)
    (passed : payload.op = "vote_request" →
      Passed cluster world.now voter node process.engine source.nodeId)
    {lease : Lease NodeId NodeId ℚ} (granted : lease ∈ world.register.leases)
    (own : lease.voter = voter) (unexpired : world.now < lease.expires) :
    lease.holder = holder := by
  have bound := sound.bound lease granted own unexpired
  obtain ⟨-, -, how⟩ := granting_facts granting honest
  rcases how with ⟨vote, -, unbound⟩ | ⟨-, voted⟩
  · rcases bound.kept process running with ⟨held, lasts⟩ | guarded
    · rw [← held]
      refine unbound ?_ (held ▸ bound.named)
      have passing := reading_le node world.now
      linarith
    · rcases passed vote granting.voter (granting.source ▸ granting.named) with ended | voted
      · exact absurd unexpired (not_lt.mpr (guarded.trans ended))
      · rw [← bound.vote, voted, granting.source]
  · exact bound.vote.symm.trans voted

/-- A voter that is rested grants only what its leases allow that have ended lately. -/
theorem granting_pledged (sound : VoterSound cluster strict world voter node) (held : strict)
    (running : node.process = some process)
    (granting : Granting (cluster.config voter) (node.reading world.now) source payload node.votes
      process.engine votes engine holder leaseMs)
    (honest : Honest cluster source.nodeId payload)
    (passed : payload.op = "vote_request" →
      Passed cluster world.now voter node process.engine source.nodeId)
    (rested : payload.op = "vote_request" → Rested cluster world voter source.nodeId)
    {lease : Lease NodeId NodeId ℚ} (granted : lease ∈ world.register.leases)
    (own : lease.voter = voter) (late : world.now < lease.expires + cluster.respite) :
    lease.holder = holder := by
  obtain ⟨-, sender, how⟩ := granting_facts granting honest
  rcases how with ⟨vote, -, -⟩ | ⟨-, voted⟩
  · by_contra other
    have unexpired := rested vote lease granted own (sender ▸ other) late
    exact other (granting_free sound running granting honest passed granted own unexpired)
  · exact (sound.pledged held lease granted own late).symm.trans voted

/-- A grant does not change the vote while the restart guard runs. -/
theorem granting_passed
    (granting : Granting (cluster.config voter) (node.reading world.now) source payload node.votes
      process.engine votes engine holder leaseMs)
    (honest : Honest cluster source.nodeId payload)
    (passed : payload.op = "vote_request" →
      Passed cluster world.now voter node process.engine source.nodeId)
    {other : NodeId} (before : Passed cluster world.now voter node process.engine other)
    (changed : Node) (boot : changed.boot = node.boot) (vote : changed.votes = votes) :
    Passed cluster world.now voter changed engine other := by
  intro isVoter named
  have guard : engine.restartGuardUntil = process.engine.restartGuardUntil := by
    rw [granting.memory]
  rw [boot, vote, guard]
  obtain ⟨-, -, how⟩ := granting_facts granting honest
  rcases how with ⟨op, -, -⟩ | ⟨same, -⟩
  · rcases passed op granting.voter (granting.source ▸ granting.named) with ended | voted
    · exact .inl ended
    · have kept : votes.votedFor = node.votes.votedFor := by
        rw [granting.vote, granting.source, voted]
      rw [kept]
      exact before isVoter named
  · rw [same]
    exact before isVoter named

theorem granting_votes {before : VoteState} {uptime : ℚ} {old : Engine}
    (voted : before.votedFor ≠ "" → 0 < before.term)
    (granting : Granting (cluster.config voter) uptime source payload before old votes engine holder
      leaseMs)
    (honest : Honest cluster source.nodeId payload) : 0 < votes.term := by
  obtain ⟨-, -, how⟩ := granting_facts granting honest
  rcases how with ⟨-, positive, -⟩ | ⟨rfl, vote⟩
  · exact positive
  · exact voted (vote ▸ granting.named)

variable {reply : Reply} {after : World} {changed : Node}

theorem handled_lease
    (done : handleTep (cluster.config voter) (node.reading world.now) source payload node.votes
      process.engine = .ok (votes, engine, reply))
    (honest : Honest cluster source.nodeId payload) (granted : reply.granted = true) :
    World.leasesOf voter node.boot engine reply =
      [{ voter, holder := source.nodeId,
         expires := node.boot + node.reading world.now + cluster.span }] := by
  rcases handleTep_cases done with ⟨refused, -, -⟩ | ⟨-, holder, leaseMs, granting⟩
  · rw [granted] at refused
    cases refused
  · obtain ⟨whole, own, -⟩ := granting_facts granting honest
    unfold World.leasesOf
    rw [if_pos granted, granting.memory, whole, own]
    unfold Cluster.span
    congr 2
    ring

theorem handled_leader
    (done : handleTep (cluster.config voter) (node.reading world.now) source payload node.votes
      process.engine = .ok (votes, engine, reply)) :
    engine.leaderDeadline = process.engine.leaderDeadline := by
  rcases handleTep_cases done with ⟨-, -, rfl⟩ | ⟨-, holder, leaseMs, granting⟩
  · rfl
  · rw [granting.memory]

theorem handled_passed
    (done : handleTep (cluster.config voter) (node.reading world.now) source payload node.votes
      process.engine = .ok (votes, engine, reply))
    (honest : Honest cluster source.nodeId payload)
    (passed : payload.op = "vote_request" →
      Passed cluster world.now voter node process.engine source.nodeId)
    {other : NodeId} (before : Passed cluster world.now voter node process.engine other)
    (boot : changed.boot = node.boot) (vote : changed.votes = votes) :
    Passed cluster world.now voter changed engine other := by
  rcases handleTep_cases done with ⟨-, rfl, rfl⟩ | ⟨-, holder, leaseMs, granting⟩
  · intro isVoter named
    rw [boot, vote]
    exact before isVoter named
  · exact granting_passed granting honest passed before changed boot vote

theorem handled_voter (sound : VoterSound cluster strict world voter node)
    (running : node.process = some process)
    (done : handleTep (cluster.config voter) (node.reading world.now) source payload node.votes
      process.engine = .ok (votes, engine, reply))
    (honest : Honest cluster source.nodeId payload)
    (passed : payload.op = "vote_request" →
      Passed cluster world.now voter node process.engine source.nodeId)
    (rested : strict → payload.op = "vote_request" → Rested cluster world voter source.nodeId)
    (now : after.now = world.now)
    (leases : after.register.leases =
      World.leasesOf voter node.boot engine reply ++ world.register.leases)
    (requests : after.requests = world.requests)
    (boot : changed.boot = node.boot) (vote : changed.votes = votes) {moved : Process}
    (moves : changed.process = some moved) (memory : moved.engine = engine)
    (fewer : ∀ number ∈ moved.admitted, number ∈ process.admitted) :
    VoterSound cluster strict after voter changed := by
  have admitted : ∀ process, changed.process = some process → ∀ number ∈ process.admitted,
      ∃ request, after.requests[number]? = some request ∧
        (request.payload.op = "vote_request" →
          Passed cluster after.now voter changed process.engine request.sender) := by
    intro other runs number member
    cases moves.symm.trans runs
    obtain ⟨request, found, admitted⟩ := sound.admitted process running number (fewer number member)
    refine ⟨request, requests ▸ found, fun op => ?_⟩
    rw [memory, now]
    exact handled_passed done honest passed (admitted op) boot vote
  rcases handleTep_cases done with ⟨refused, rfl, rfl⟩ | ⟨granted, holder, leaseMs, granting⟩
  · have same : after.register.leases = world.register.leases := by
      rw [leases]
      simp [World.leasesOf, refused]
    constructor
    · rw [boot, now]
      exact sound.booted
    · rw [vote]
      exact sound.voted
    · intro lease member own unexpired
      rw [same] at member
      rw [now] at unexpired ⊢
      have bound := sound.bound lease member own unexpired
      refine ⟨vote ▸ bound.vote, bound.named, bound.voter, ?_, fun other runs => ?_⟩
      · rw [boot, reading_congr boot]
        exact bound.short
      · cases moves.symm.trans runs
        rw [boot, memory]
        exact bound.kept process running
    · intro held lease member own late
      rw [same] at member
      rw [now] at late
      rw [vote]
      exact sound.pledged held lease member own late
    · intro other runs active
      cases moves.symm.trans runs
      rw [boot, memory, now] at active
      rw [vote]
      exact sound.restart process running active
    · exact admitted
  · obtain ⟨whole, own, -⟩ := granting_facts granting honest
    have deadline : moved.engine.voterHolder = holder ∧
        changed.boot + moved.engine.voterDeadline =
          node.boot + node.reading world.now + cluster.span := by
      rw [memory, granting.memory, boot, whole]
      refine ⟨rfl, ?_⟩
      unfold Cluster.span
      ring
    have new := handled_lease done honest granted
    constructor
    · rw [boot, now]
      exact sound.booted
    · intro _
      rw [vote]
      exact granting_votes sound.voted granting honest
    · intro lease member same unexpired
      rw [leases, new] at member
      rw [now] at unexpired ⊢
      have facts : lease.holder = holder ∧
          lease.expires ≤ node.boot + node.reading world.now + cluster.span := by
        rcases List.mem_cons.mp member with rfl | old
        · exact ⟨own.symm, le_refl _⟩
        · exact ⟨granting_free sound running granting honest passed old same unexpired,
            (sound.bound lease old same unexpired).short⟩
      refine ⟨?_, facts.1 ▸ granting.named, granting.voter, ?_, fun other runs => ?_⟩
      · rw [vote, granting.vote, facts.1]
      · rw [boot, reading_congr boot]
        exact facts.2
      · cases moves.symm.trans runs
        exact .inl ⟨deadline.1.trans facts.1.symm, deadline.2 ▸ facts.2⟩
    · intro held lease member same late
      rw [leases, new] at member
      rw [now] at late
      rw [vote, granting.vote]
      rcases List.mem_cons.mp member with rfl | old
      · exact own
      · exact (granting_pledged sound held running granting honest passed (rested held) old same
          late).symm
    · intro _ _ _
      rw [vote, granting.vote]
      exact granting.named
    · exact admitted

theorem died_voter (sound : VoterSound cluster strict world voter node)
    (running : node.process = some process)
    (done : handleTep (cluster.config voter) (node.reading world.now) source payload node.votes
      process.engine = .ok (votes, engine, reply))
    (honest : Honest cluster source.nodeId payload)
    (passed : payload.op = "vote_request" →
      Passed cluster world.now voter node process.engine source.nodeId)
    (rested : strict → payload.op = "vote_request" → Rested cluster world voter source.nodeId)
    (now : after.now = world.now) (leases : after.register.leases = world.register.leases)
    (boot : changed.boot = node.boot) (vote : changed.votes = votes)
    (dead : changed.process = none) : VoterSound cluster strict after voter changed := by
  have gone : ∀ process, changed.process ≠ some process := by
    intro process runs
    rw [dead] at runs
    cases runs
  have votes_ok : (votes.votedFor ≠ "" → 0 < votes.term) ∧ ∀ lease ∈ world.register.leases,
      lease.voter = voter → (world.now < lease.expires → votes.votedFor = lease.holder) ∧
        (strict → world.now < lease.expires + cluster.respite → votes.votedFor = lease.holder) := by
    rcases handleTep_cases done with ⟨-, rfl, -⟩ | ⟨-, holder, leaseMs, granting⟩
    · exact ⟨sound.voted, fun lease member own =>
        ⟨fun unexpired => (sound.bound lease member own unexpired).vote,
          fun held late => sound.pledged held lease member own late⟩⟩
    · refine ⟨fun _ => granting_votes sound.voted granting honest, fun lease member own => ?_⟩
      rw [granting.vote]
      exact
        ⟨fun unexpired =>
          (granting_free sound running granting honest passed member own unexpired).symm,
        fun held late =>
          (granting_pledged sound held running granting honest passed (rested held) member own
            late).symm⟩
  constructor
  · rw [boot, now]
    exact sound.booted
  · rw [vote]
    exact votes_ok.1
  · intro lease member own unexpired
    rw [leases] at member
    rw [now] at unexpired ⊢
    have bound := sound.bound lease member own unexpired
    exact
      { vote := vote ▸ (votes_ok.2 lease member own).1 unexpired
        named := bound.named, voter := bound.voter
        short := by
          rw [boot, reading_congr boot]
          exact bound.short
        kept := fun process runs => absurd runs (gone process) }
  · intro held lease member own late
    rw [leases] at member
    rw [now] at late
    exact vote ▸ (votes_ok.2 lease member own).2 held late
  · exact fun process runs => absurd runs (gone process)
  · exact fun process runs => absurd runs (gone process)

end Votes

end HashBurst.Ha
