import HashBurst.Ha.System

/-! `run_once` of a candidate that nobody opposes: the other agents answer its requests and do
nothing else. -/

namespace HashBurst.Ha

open Lib

structure Agent where
  votes : VoteState
  engine : Engine

/-- The agents at one time. `ticks` counts the operations of the candidate's loop, `answered` is the
time of the last answer to it. -/
structure Scene where
  now : ℚ
  agents : NodeId → Agent
  guardFile : Option GuardFile := none
  ticks : Nat := 0
  answered : ℚ := now

/-- What is around the loop of the node `self`: the other nodes, the time before each of its
operations, and how those turn out that are not between agents. -/
structure Setting where
  config : NodeId → Config
  peerId : NodeId → String
  boot : NodeId → ℚ
  self : NodeId
  reachable : NodeId → Bool
  delay : Nat → ℚ
  eligibility : Except Failure (Bool × List String)
  files : Except Failure Unit
  services : Nat → Except Failure Unit
  forward : ∀ tick, 0 ≤ delay tick

abbrev Setting.own (setting : Setting) : Config := setting.config setting.self

def Setting.source (setting : Setting) (target : NodeId) : Source where
  nodeId := setting.self
  peerId := if target = setting.self then "local-self" else setting.peerId setting.self

namespace Scene

variable (setting : Setting) (scene : Scene)

def pass : Scene :=
  { scene with now := scene.now + setting.delay scene.ticks, ticks := scene.ticks + 1 }

/-- `boot_seconds()` -/
def uptime (nodeId : NodeId) : ℚ := bootReading (scene.now - setting.boot nodeId)

def setAgent (nodeId : NodeId) (agent : Agent) : Scene :=
  { scene with agents := Function.update scene.agents nodeId agent }

def engine : Engine := (scene.agents setting.self).engine

def setEngine (engine : Engine) : Scene :=
  scene.setAgent setting.self { scene.agents setting.self with engine }

def guarded (target : NodeId) (payload : Payload) : Option Reply :=
  LeaseEngine.restartGuard (setting.config target) (scene.uptime setting target)
    (setting.source target) payload (scene.agents target).votes (scene.agents target).engine

/-- `handle_tep` of the base class at the target. -/
def handled (target : NodeId) (payload : Payload) : Scene × Except Failure Reply :=
  let scene := { scene with answered := scene.now }
  match LeaseEngine.handleTep (setting.config target) (scene.uptime setting target)
      (setting.source target) payload (scene.agents target).votes (scene.agents target).engine with
  | .error error => (scene, .error ⟨"HaError", error.message⟩)
  | .ok (votes, engine, reply) => (scene.setAgent target ⟨votes, engine⟩, .ok reply)

def act {β : Type} : LoopOp β → Scene × β
  | .bootSeconds => (scene, scene.uptime setting setting.self)
  | .rpc target payload =>
      if setting.reachable target then
        match scene.guarded setting target payload with
        | some reply => ({ scene with answered := scene.now }, .ok reply)
        | none => scene.handled setting target payload
      else (scene, .error World.unavailable)
  | .restartGuard payload => (scene, scene.guarded setting setting.self payload)
  | .handleTep payload => scene.handled setting setting.self payload
  | .checkEligibility =>
      match setting.eligibility with
      | .ok found =>
          (scene.setEngine setting { scene.engine setting with eligibilityState := found },
            .ok found)
      | .error failure => (scene, .error failure)
  | .setClusterView view =>
      (scene.setEngine setting { scene.engine setting with clusterView := some view }, ())
  | .leaderTerm => (scene, (scene.engine setting).leaderTerm)
  | .leaderDeadline => (scene, (scene.engine setting).leaderDeadline)
  | .setLeaderTerm term =>
      (scene.setEngine setting { scene.engine setting with leaderTerm := term }, ())
  | .adopt term => (scene.setEngine setting { scene.engine setting with leaderTerm := term }, ())
  | .setLeaderDeadline deadline =>
      (scene.setEngine setting { scene.engine setting with leaderDeadline := deadline }, ())
  | .withdraw _ =>
      (scene.setEngine setting { scene.engine setting with leaderDeadline := 0 }, ())
  | .writeGuard term =>
      let guardFile : GuardFile :=
        { clusterId := setting.own.clusterId, holder := setting.self, term
          bootDeadline := (scene.engine setting).leaderDeadline }
      match setting.files with
      | .ok () => ({ scene with guardFile := some guardFile }, .ok ())
      | .error failure => (scene, .error failure)
  | .clearGuard =>
      match setting.files with
      | .ok () => ({ scene with guardFile := none }, .ok ())
      | .error failure => (scene, .error failure)
  | .setPrimary =>
      (scene.setEngine setting { scene.engine setting with desired := .primary },
        setting.services scene.ticks)
  | .setStandby =>
      (scene.setEngine setting { scene.engine setting with desired := .standby },
        setting.services scene.ticks)
  | .setLastError text =>
      (scene.setEngine setting { scene.engine setting with lastError := text }, ())

end Scene

def perform {β : Type} (op : LoopOp β) (setting : Setting) (scene : Scene) : Scene × β :=
  (scene.pass setting).act setting op

/-- The scene after `run_once`. -/
def Scene.afterRound (setting : Setting) (scene : Scene) : Scene :=
  ((LeaseEngine.runOnce setting.own).exec perform setting scene).1

def asksVote {β : Type} : LoopOp β → Bool
  | .rpc _ payload | .restartGuard payload | .handleTep payload => payload.op = "vote_request"
  | _ => false

/-- The scene in which the campaign of `run_once` has read the clock and asked nobody yet. -/
def Scene.campaignStart (setting : Setting) (scene : Scene) : Scene :=
  (LeaseEngine.runOnce setting.own).upTo perform asksVote setting scene

/-- The node answers the candidate: it is the candidate, or another that its requests reach. -/
def Setting.reaches (setting : Setting) (nodeId : NodeId) : Bool :=
  nodeId = setting.self || setting.reachable nodeId

def Scene.leases (setting : Setting) (scene : Scene) (voter holder : NodeId) : Bool :=
  scene.uptime setting voter < (scene.agents voter).engine.voterDeadline &&
    (scene.agents voter).engine.voterHolder = holder

/-- Neither a lease nor the restart guard of the voter runs for another node than the candidate. -/
structure Vacant (setting : Setting) (scene : Scene) (voter : NodeId) : Prop where
  lease : scene.uptime setting voter < (scene.agents voter).engine.voterDeadline →
    (scene.agents voter).engine.voterHolder = "" ∨
      (scene.agents voter).engine.voterHolder = setting.self
  guard : scene.uptime setting voter < (scene.agents voter).engine.restartGuardUntil →
    (scene.agents voter).votes.votedFor = "" ∨ (scene.agents voter).votes.votedFor = setting.self

/-- The agents are configured for one cluster, with the candidate in it. -/
structure Electorate (setting : Setting) : Prop where
  named : setting.own.nodeId = setting.self
  trimmed : Py.strip setting.self = setting.self ∧ setting.self ≠ ""
  authenticated : Py.strip (setting.peerId setting.self) ≠ ""
  candidate : setting.own.isCandidate = true
  voters : ∀ voter ∈ setting.own.voters, setting.reaches voter = true →
    (setting.config voter).isVoter = true ∧
      (setting.config voter).clusterId = setting.own.clusterId ∧
      (∃ candidate ∈ (setting.config voter).candidates, candidate.nodeId = setting.self) ∧
      setting.own.leaseMs ≤ (setting.config voter).leaseMs

/-- An eligible candidate that does not lead, and that no node opposes. -/
structure Unopposed (setting : Setting) (scene : Scene) : Prop where
  electorate : Electorate setting
  eligible : ∃ reasons, setting.eligibility = .ok (true, reasons)
  files : setting.files = .ok ()
  follows : (scene.engine setting).leaderDeadline ≤ scene.uptime setting setting.self
  vacant : ∀ voter ∈ setting.own.voters, setting.reaches voter = true →
    Vacant setting scene voter
  quorum : setting.own.quorum ≤
    (setting.own.voters.filter setting.reaches).length
  unheld : (setting.own.voters.filter fun voter => setting.reaches voter &&
    scene.leases setting voter setting.self).length < setting.own.quorum
  first : ∀ other ∈ setting.own.candidates,
    other.priority < setting.own.priority →
    other.nodeId ≠ setting.self → setting.reachable other.nodeId = true →
    (scene.agents other.nodeId).engine.eligibilityState.1 = false

/-- The candidate leads, at a new term that each voter it reaches has granted. -/
structure Elected (setting : Setting) (before after : Scene) : Prop where
  leads : after.uptime setting setting.self < (after.engine setting).leaderDeadline
  term : ∀ voter ∈ setting.own.voters, setting.reaches voter = true →
    (before.agents voter).votes.term < (after.engine setting).leaderTerm
  granted : ∀ voter ∈ setting.own.voters, setting.reaches voter = true →
    (after.agents voter).votes = ⟨(after.engine setting).leaderTerm, setting.self⟩ ∧
      (after.agents voter).engine.voterHolder = setting.self

section Operations

variable {setting : Setting} {scene : Scene}

theorem uptime_mono {later : Scene} {nodeId : NodeId} (time : scene.now ≤ later.now) :
    scene.uptime setting nodeId ≤ later.uptime setting nodeId :=
  bootReading_mono (by linarith)

theorem pass_now (setting : Setting) (scene : Scene) : scene.now ≤ (scene.pass setting).now := by
  have forward := setting.forward scene.ticks
  unfold Scene.pass
  simp only
  linarith

theorem handled_now (target : NodeId) (payload : Payload) :
    (scene.handled setting target payload).1.now = scene.now := by
  unfold Scene.handled
  simp only
  split <;> rfl

theorem act_now {β : Type} (op : LoopOp β) : (scene.act setting op).1.now = scene.now := by
  cases op with
  | rpc target payload =>
      unfold Scene.act
      simp only
      split
      · split
        · rfl
        · exact handled_now target payload
      · rfl
  | handleTep payload => exact handled_now setting.self payload
  | checkEligibility =>
      unfold Scene.act
      simp only
      split <;> rfl
  | writeGuard term =>
      unfold Scene.act
      simp only
      split <;> rfl
  | clearGuard =>
      unfold Scene.act
      simp only
      split <;> rfl
  | _ => rfl

theorem exec_now {α : Type} (program : Loop α) (scene : Scene) :
    scene.now ≤ (program.exec perform setting scene).1.now := by
  induction program generalizing scene with
  | ret value => exact le_refl _
  | fail failure => exact le_refl _
  | call op next ih =>
      calc
        scene.now ≤ (scene.pass setting).now := pass_now setting scene
        _ = (perform op setting scene).1.now := (act_now op).symm
        _ ≤ _ := ih _ _

def Agent.ballot (agent : Agent) : VoteState × NodeId × ℚ × ℚ :=
  (agent.votes, agent.engine.voterHolder, agent.engine.voterDeadline,
    agent.engine.restartGuardUntil)

/-- What an operation leaves as it is that asks for the state of nodes or looks at the own one. -/
structure Kept (setting : Setting) (before after : Scene) : Prop where
  time : before.now ≤ after.now
  ballot : ∀ nodeId, (after.agents nodeId).ballot = (before.agents nodeId).ballot
  leader : (after.engine setting).leaderDeadline = (before.engine setting).leaderDeadline
  eligible : ∀ nodeId, nodeId ≠ setting.self →
    (after.agents nodeId).engine.eligibilityState = (before.agents nodeId).engine.eligibilityState

theorem Kept.refl (setting : Setting) (scene : Scene) : Kept setting scene scene :=
  ⟨le_refl _, fun _ => rfl, rfl, fun _ _ => rfl⟩

theorem Kept.trans {middle after : Scene} (first : Kept setting scene middle)
    (second : Kept setting middle after) : Kept setting scene after where
  time := first.time.trans second.time
  ballot nodeId := (second.ballot nodeId).trans (first.ballot nodeId)
  leader := second.leader.trans first.leader
  eligible nodeId other := (second.eligible nodeId other).trans (first.eligible nodeId other)

theorem kept_pass (setting : Setting) (scene : Scene) : Kept setting scene (scene.pass setting) :=
  ⟨pass_now setting scene, fun _ => rfl, rfl, fun _ _ => rfl⟩

theorem setAgent_same (nodeId : NodeId) (agent : Agent) :
    (scene.setAgent nodeId agent).agents nodeId = agent := Function.update_self ..

theorem setAgent_other {nodeId other : NodeId} (apart : other ≠ nodeId) (agent : Agent) :
    (scene.setAgent nodeId agent).agents other = scene.agents other :=
  Function.update_of_ne apart ..

theorem setEngine_self (engine : Engine) :
    (scene.setEngine setting engine).engine setting = engine := by
  unfold Scene.engine Scene.setEngine
  rw [setAgent_same]

theorem setEngine_ballot {engine : Engine}
    (own : (engine.voterHolder, engine.voterDeadline, engine.restartGuardUntil) =
      ((scene.engine setting).voterHolder, (scene.engine setting).voterDeadline,
        (scene.engine setting).restartGuardUntil)) (nodeId : NodeId) :
    ((scene.setEngine setting engine).agents nodeId).ballot = (scene.agents nodeId).ballot := by
  unfold Scene.setEngine
  by_cases same : nodeId = setting.self
  · subst same
    rw [setAgent_same]
    unfold Agent.ballot
    simp only
    rw [own]
    rfl
  · rw [setAgent_other same]

theorem kept_engine {engine : Engine}
    (own : (engine.voterHolder, engine.voterDeadline, engine.restartGuardUntil) =
      ((scene.engine setting).voterHolder, (scene.engine setting).voterDeadline,
        (scene.engine setting).restartGuardUntil))
    (leader : engine.leaderDeadline = (scene.engine setting).leaderDeadline) :
    Kept setting scene (scene.setEngine setting engine) where
  time := le_refl _
  ballot := setEngine_ballot own
  leader := by
    rw [setEngine_self]
    exact leader
  eligible := by
    intro nodeId other
    unfold Scene.setEngine
    rw [setAgent_other other]

end Operations

section Requests

variable {setting : Setting} {scene : Scene} {target : NodeId} {payload : Payload}

/-- A request that the target's restart guard passes on is handled at some later time, with nothing
changed until then. -/
theorem rpc_reached (electorate : Electorate setting) (reached : setting.reaches target = true)
    (unguarded : ∀ uptime, scene.uptime setting target ≤ uptime →
      LeaseEngine.restartGuard (setting.config target) uptime (setting.source target) payload
        (scene.agents target).votes (scene.agents target).engine = none) :
    ∃ later : Scene, scene.now ≤ later.now ∧ later.agents = scene.agents ∧
      (LeaseEngine.rpc setting.own target payload).exec perform setting scene =
        ((later.handled setting target payload).1,
          .ok (later.handled setting target payload).2) := by
  have later : ∀ time, scene.now ≤ time → LeaseEngine.restartGuard (setting.config target)
      (bootReading (time - setting.boot target)) (setting.source target) payload (scene.agents target).votes
      (scene.agents target).engine = none := by
    intro time after
    apply unguarded
    exact bootReading_mono (by linarith)
  unfold LeaseEngine.rpc
  rw [electorate.named]
  by_cases same : target = setting.self
  · subst same
    rw [if_pos rfl]
    refine ⟨(scene.pass setting).pass setting, ?_, rfl, ?_⟩
    · exact (pass_now setting scene).trans (pass_now setting _)
    · have first : (perform (.restartGuard payload) setting scene) =
          (scene.pass setting, none) := by
        have passes := later _ (pass_now setting scene)
        unfold perform Scene.act Scene.guarded Scene.uptime
        simp only
        rw [← passes]
        rfl
      unfold LeaseEngine.localRpc
      rw [Prog.ask_bind, Prog.exec_call, first]
      rfl
  · rw [if_neg same]
    have remote : setting.reachable target = true := by
      unfold Setting.reaches at reached
      rw [decide_eq_false same, Bool.false_or] at reached
      exact reached
    refine ⟨scene.pass setting, pass_now setting scene, rfl, ?_⟩
    have passes := later _ (pass_now setting scene)
    have guarded : (scene.pass setting).guarded setting target payload = none := passes
    have done : perform (.rpc target payload) setting scene =
        (scene.pass setting).handled setting target payload := by
      unfold perform Scene.act
      simp only
      rw [if_pos remote, guarded]
    rw [Prog.exec_ask, done]

theorem rpc_unreached (electorate : Electorate setting)
    (unreached : setting.reaches target = false) :
    (LeaseEngine.rpc setting.own target payload).exec perform setting scene =
      (scene.pass setting, .ok (.error World.unavailable)) := by
  unfold Setting.reaches at unreached
  rw [Bool.or_eq_false_iff, decide_eq_false_iff_not] at unreached
  unfold LeaseEngine.rpc
  rw [electorate.named, if_neg unreached.1, Prog.exec_ask]
  unfold perform Scene.act
  simp only
  rw [if_neg (by rw [unreached.2]; exact Bool.false_ne_true)]

inductive Answers (setting : Setting) (scene : Scene) (target : NodeId) :
    Except Failure Reply → Prop
  | silent (failure : Failure) (away : setting.reaches target = true →
      (setting.config target).clusterId ≠ setting.own.clusterId) :
      Answers setting scene target (.error failure)
  | status {time : ℚ} (later : scene.now ≤ time) (reached : setting.reaches target = true) :
      Answers setting scene target (.ok (.status (LeaseEngine.localStatus (setting.config target)
        (bootReading (time - setting.boot target)) (scene.agents target).votes (scene.agents target).engine)))

theorem source_named (electorate : Electorate setting) (target : NodeId) :
    Py.strip (setting.source target).nodeId = setting.self ∧
      Py.strip (setting.source target).nodeId ≠ "" ∧
      Py.strip (setting.source target).peerId ≠ "" := by
  have named : Py.strip (setting.source target).nodeId = setting.self := electorate.trimmed.1
  refine ⟨named, by rw [named]; exact electorate.trimmed.2, ?_⟩
  unfold Setting.source
  simp only
  split
  · decide
  · exact electorate.authenticated

theorem status_rpc (electorate : Electorate setting) (scene : Scene) (target : NodeId) :
    ∃ after answer, (LeaseEngine.rpc setting.own target
        (LeaseEngine.statusPayload setting.own)).exec perform setting scene =
          (after, .ok answer) ∧
      scene.now ≤ after.now ∧ after.agents = scene.agents ∧
      Answers setting scene target answer := by
  cases reached : setting.reaches target with
  | false =>
      refine ⟨_, _, rpc_unreached electorate reached, pass_now setting scene, rfl, ?_⟩
      apply Answers.silent
      intro up
      rw [reached] at up
      cases up
  | true =>
      have passes : ∀ uptime, scene.uptime setting target ≤ uptime →
          LeaseEngine.restartGuard (setting.config target) uptime (setting.source target)
            (LeaseEngine.statusPayload setting.own) (scene.agents target).votes
            (scene.agents target).engine = none := fun _ _ => rfl
      rcases rpc_reached electorate reached passes with ⟨later, time, same, done⟩
      rcases source_named electorate target with ⟨-, node, peer⟩
      refine ⟨_, _, done, ?_⟩
      unfold Scene.handled LeaseEngine.handleTep
      simp only
      have plain : Py.strip "status" = "status" := by decide
      have op : Py.strip (LeaseEngine.statusPayload setting.own).op = "status" :=
        plain
      rw [if_neg (by simp [node, peer])]
      by_cases cluster : (LeaseEngine.statusPayload setting.own).clusterId ≠
          (setting.config target).clusterId
      · rw [if_pos cluster]
        exact ⟨time, same, .silent _ fun _ equal => cluster equal.symm⟩
      · rw [if_neg cluster, if_pos op]
        refine ⟨time, ?_, ?_⟩
        · simp only [Scene.setAgent, Function.update_eq_self]
          exact same
        · rw [same]
          exact .status time reached

end Requests

section Poll

variable {setting : Setting} {scene : Scene}

/-- A reply that `_majority_view` counts. -/
def counted (reply : Reply) : Bool := reply.holder ≠ "" && reply.leaseRemainingMs > 0

structure Heard (setting : Setting) (scene : Scene) (voters : List NodeId)
    (responses : List (NodeId × Reply)) : Prop where
  reached : responses.length = (voters.filter setting.reaches).length
  terms : ∀ voter ∈ voters, setting.reaches voter = true →
    ∃ response ∈ responses, response.2.term = (scene.agents voter).votes.term
  held : (responses.filter fun response => counted response.2).length ≤
    (voters.filter fun voter => setting.reaches voter &&
      scene.leases setting voter setting.self).length

/-- A counted state is that of a voter with a lease, which can only be the candidate's. -/
theorem counted_leases {voter : NodeId} {time : ℚ} (vacant : Vacant setting scene voter)
    (later : scene.now ≤ time)
    (counts : counted (.status (LeaseEngine.localStatus (setting.config voter)
      (bootReading (time - setting.boot voter)) (scene.agents voter).votes (scene.agents voter).engine)) = true) :
    scene.leases setting voter setting.self = true := by
  unfold counted at counts
  rw [Bool.and_eq_true, decide_eq_true_eq, decide_eq_true_eq] at counts
  have running : scene.uptime setting voter < (scene.agents voter).engine.voterDeadline := by
    by_contra expired
    have past : (scene.agents voter).engine.voterDeadline ≤
        bootReading (time - setting.boot voter) :=
      (not_lt.mp expired).trans (bootReading_mono (by linarith))
    apply counts.1
    unfold Reply.holder LeaseEngine.localStatus
    simp only
    rw [if_pos past]
  have named : (scene.agents voter).engine.voterHolder = setting.self := by
    rcases vacant.lease running with none | own
    · exfalso
      apply counts.1
      unfold Reply.holder LeaseEngine.localStatus
      simp only
      rw [none]
      split <;> rfl
    · exact own
  unfold Scene.leases
  rw [decide_eq_true running, decide_eq_true named]
  rfl

theorem heard_cons {voter : NodeId} {voters : List NodeId} {answer : Except Failure Reply}
    {responses : List (NodeId × Reply)}
    (vacant : setting.reaches voter = true → Vacant setting scene voter)
    (cluster : setting.reaches voter = true →
      (setting.config voter).clusterId = setting.own.clusterId)
    (own : Answers setting scene voter answer) (heard : Heard setting scene voters responses) :
    Heard setting scene (voter :: voters) ((answer.toOption.map fun reply => (voter, reply)).toList
      ++ responses) := by
  cases own with
  | silent failure away =>
      have unreached : setting.reaches voter = false := by
        cases up : setting.reaches voter with
        | false => rfl
        | true => exact absurd (cluster up) (away up)
      change Heard setting scene (voter :: voters) responses
      refine ⟨?_, ?_, ?_⟩
      · rw [List.filter_cons_of_neg (by rw [unreached]; exact Bool.false_ne_true)]
        exact heard.reached
      · intro other member up
        rcases List.mem_cons.mp member with rfl | member
        · rw [unreached] at up
          cases up
        · exact heard.terms other member up
      · rw [List.filter_cons_of_neg (by rw [unreached]; simp)]
        exact heard.held
  | @status time later reached =>
      refine ⟨?_, ?_, ?_⟩
      · rw [List.filter_cons_of_pos reached, List.length_cons, ← heard.reached]
        rfl
      · intro other member up
        rcases List.mem_cons.mp member with rfl | member
        · exact ⟨_, List.mem_cons_self, rfl⟩
        · rcases heard.terms other member up with ⟨response, listed, same⟩
          exact ⟨response, List.mem_cons_of_mem _ listed, same⟩
      · simp only [Except.toOption, Option.map_some, Option.toList_some, List.singleton_append]
        cases counts : counted (.status (LeaseEngine.localStatus (setting.config voter)
            (bootReading (time - setting.boot voter)) (scene.agents voter).votes
            (scene.agents voter).engine)) with
        | false =>
            rw [List.filter_cons_of_neg (by rw [counts]; exact Bool.false_ne_true)]
            apply heard.held.trans
            exact ((List.sublist_cons_self voter voters).filter _).length_le
        | true =>
            have leased := counted_leases (vacant reached) later counts
            have both : (setting.reaches voter &&
                scene.leases setting voter setting.self) = true := by
              rw [reached, leased]
              rfl
            rw [List.filter_cons, List.filter_cons, if_pos counts, if_pos both, List.length_cons,
              List.length_cons]
            exact Nat.succ_le_succ heard.held

private theorem answers_congr {later : Scene} {target : NodeId} {answer : Except Failure Reply}
    (time : scene.now ≤ later.now) (same : later.agents = scene.agents)
    (answers : Answers setting later target answer) : Answers setting scene target answer := by
  cases answers with
  | silent failure away => exact .silent failure away
  | status after reached =>
      rw [same]
      exact .status (time.trans after) reached

theorem askVoters_status (electorate : Electorate setting) (voters : List NodeId)
    (vacant : ∀ voter ∈ voters, setting.reaches voter = true → Vacant setting scene voter)
    (cluster : ∀ voter ∈ voters, setting.reaches voter = true →
      (setting.config voter).clusterId = setting.own.clusterId)
    (start : Scene) (time : scene.now ≤ start.now) (same : start.agents = scene.agents) :
    ∃ after answers, (LeaseEngine.askVoters setting.own
        (LeaseEngine.statusPayload setting.own) voters).exec perform setting start =
          (after, .ok answers) ∧
      scene.now ≤ after.now ∧ after.agents = scene.agents ∧
      Heard setting scene voters (answers.filterMap fun answer =>
        answer.2.toOption.map fun reply => (answer.1, reply)) := by
  induction voters generalizing start with
  | nil => exact ⟨start, [], rfl, time, same, ⟨rfl, by simp, le_refl _⟩⟩
  | cons voter voters ih =>
      rcases status_rpc electorate start voter with ⟨middle, answer, done, later, alike, own⟩
      have first := answers_congr time same own
      rcases ih (fun other member => vacant other (List.mem_cons_of_mem _ member))
        (fun other member => cluster other (List.mem_cons_of_mem _ member)) middle
        (time.trans later) (alike.trans same) with ⟨after, answers, rest, last, kept, heard⟩
      refine ⟨after, (voter, answer) :: answers, ?_, last, kept, ?_⟩
      · unfold LeaseEngine.askVoters
        rw [Prog.exec_bind_ok perform done, Prog.exec_bind_ok perform rest]
        rfl
      · have shape : ((voter, answer) :: answers).filterMap (fun answer =>
            answer.2.toOption.map fun reply => (answer.1, reply)) =
            (answer.toOption.map fun reply => (voter, reply)).toList ++
              answers.filterMap fun answer =>
                answer.2.toOption.map fun reply => (answer.1, reply) := by
          rw [List.filterMap_cons]
          cases answer <;> rfl
        rw [shape]
        exact heard_cons (vacant voter List.mem_cons_self) (cluster voter List.mem_cons_self) first
          heard

end Poll

section Majority

variable {α : Type} [DecidableEq α]

theorem tally_count {key : α} {counts : List (α × Nat)} {total : Nat}
    (bounded : ∀ entry ∈ counts, entry.2 ≤ total) :
    ∀ entry ∈ LeaseEngine.tally key counts, entry.2 ≤ total + 1 := by
  induction counts with
  | nil =>
      intro entry member
      rw [List.mem_singleton.mp member]
      exact Nat.succ_le_succ (Nat.zero_le _)
  | cons head tail ih =>
      have rest := fun entry member => bounded entry (List.mem_cons_of_mem head member)
      intro entry member
      unfold LeaseEngine.tally at member
      split at member
      · rcases List.mem_cons.mp member with rfl | member
        · exact Nat.succ_le_succ (bounded head List.mem_cons_self)
        · exact (rest entry member).trans (Nat.le_succ _)
      · rcases List.mem_cons.mp member with rfl | member
        · exact (bounded _ List.mem_cons_self).trans (Nat.le_succ _)
        · exact ih rest entry member

theorem leading_mem {counts : List ((Int × NodeId) × Nat)} {best : (Int × NodeId) × Nat}
    (found : LeaseEngine.leading counts = some best) : best ∈ counts := by
  cases counts with
  | nil => cases found
  | cons head tail =>
      rw [LeaseEngine.leading, Option.some.injEq] at found
      rw [← found]
      clear found
      induction tail generalizing head with
      | nil => exact List.mem_singleton.mpr rfl
      | cons next more ih =>
          rw [List.foldl_cons]
          split
          · exact List.mem_cons_of_mem _ (ih next)
          · rcases List.mem_cons.mp (ih head) with same | member
            · rw [same]
              exact List.mem_cons_self
            · exact List.mem_cons_of_mem _ (List.mem_cons_of_mem _ member)

/-- No count of the view exceeds the number of the replies that are counted. -/
theorem counts_bounded (responses : List (NodeId × Reply)) (counts : List ((Int × NodeId) × Nat))
    (total : Nat) (bounded : ∀ entry ∈ counts, entry.2 ≤ total) :
    ∀ entry ∈ responses.foldl (fun counts (response : NodeId × Reply) =>
        if response.2.holder ≠ "" && response.2.leaseRemainingMs > 0 then
          LeaseEngine.tally (response.2.term, response.2.holder) counts
        else counts) counts,
      entry.2 ≤ total + (responses.filter fun response => counted response.2).length := by
  induction responses generalizing counts total with
  | nil => exact bounded
  | cons head tail ih =>
      rw [List.foldl_cons, List.filter_cons]
      cases counts' : counted head.2 with
      | false =>
          have skipped : ¬ (head.2.holder ≠ "" && head.2.leaseRemainingMs > 0) = true := by
            change ¬ counted head.2 = true
            rw [counts']
            exact Bool.false_ne_true
          rw [if_neg skipped, if_neg Bool.false_ne_true]
          exact ih counts total bounded
      | true =>
          have taken : (head.2.holder ≠ "" && head.2.leaseRemainingMs > 0) = true := counts'
          rw [if_pos taken, if_pos rfl, List.length_cons]
          intro entry member
          have own := ih _ (total + 1) (tally_count bounded) entry member
          omega

/-- The view names no holder where fewer than a quorum are counted. -/
theorem majorityView_unheld {config : Config} {responses : List (NodeId × Reply)}
    (unheld : (responses.filter fun response => counted response.2).length < config.quorum) :
    LeaseEngine.majorityView config responses =
      (responses.foldl (fun term (response : NodeId × Reply) => max term response.2.term) 0,
        "", 0) := by
  unfold LeaseEngine.majorityView
  simp only
  split
  · rfl
  · rename_i term holder count found
    have few := counts_bounded responses [] 0 (fun _ none => absurd none List.not_mem_nil) _
      (leading_mem found)
    rw [if_neg]
    simp only [Nat.zero_add] at few
    omega

theorem maxTerm_le (responses : List (NodeId × Reply)) (start : Int) :
    start ≤ responses.foldl
        (fun term (response : NodeId × Reply) => max term response.2.term) start ∧
      ∀ response ∈ responses, response.2.term ≤
        responses.foldl
          (fun term (response : NodeId × Reply) => max term response.2.term) start := by
  induction responses generalizing start with
  | nil => exact ⟨le_refl _, fun _ none => absurd none List.not_mem_nil⟩
  | cons head tail ih =>
      rw [List.foldl_cons]
      rcases ih (max start head.2.term) with ⟨above, each⟩
      refine ⟨(le_max_left _ _).trans above, ?_⟩
      intro response member
      rcases List.mem_cons.mp member with rfl | member
      · exact (le_max_right _ _).trans above
      · exact each response member

end Majority

section Campaign

variable {setting : Setting} {scene : Scene} {term : Int}

theorem anyReady_false (electorate : Electorate setting) (candidates : List Candidate)
    (scene : Scene)
    (unready : ∀ candidate ∈ candidates, setting.reachable candidate.nodeId = true →
      (scene.agents candidate.nodeId).engine.eligibilityState.1 = false)
    (others : ∀ candidate ∈ candidates, candidate.nodeId ≠ setting.self) :
    ∃ after, (LeaseEngine.anyReady setting.own candidates).exec perform setting
        scene = (after, .ok false) ∧ scene.now ≤ after.now ∧ after.agents = scene.agents := by
  induction candidates generalizing scene with
  | nil => exact ⟨scene, rfl, le_refl _, rfl⟩
  | cons candidate candidates ih =>
      rcases status_rpc electorate scene candidate.nodeId with
        ⟨middle, answer, done, later, same, answers⟩
      have rest := ih middle
        (by rw [same]; exact fun other member => unready other (List.mem_cons_of_mem _ member))
        (fun other member => others other (List.mem_cons_of_mem _ member))
      rcases rest with ⟨after, rest, last, kept⟩
      refine ⟨after, ?_, later.trans last, kept.trans same⟩
      unfold LeaseEngine.anyReady
      rw [Prog.exec_bind_ok perform done]
      cases answers with
      | silent failure away => exact rest
      | @status time after' reached =>
          have apart := others candidate List.mem_cons_self
          have remote : setting.reachable candidate.nodeId = true := by
            unfold Setting.reaches at reached
            rw [decide_eq_false apart, Bool.false_or] at reached
            exact reached
          have idle : (scene.agents candidate.nodeId).engine.eligibilityState.1 ≠ true := by
            rw [unready candidate List.mem_cons_self remote]
            exact Bool.false_ne_true
          change (if (scene.agents candidate.nodeId).engine.eligibilityState.1 = true then _
            else _ : Loop Bool).exec _ _ _ = _
          rw [if_neg idle]
          exact rest

theorem higherPriority_mem {config : Config} {candidate : Candidate}
    (listed : candidate ∈ LeaseEngine.higherPriority config) :
    candidate ∈ config.candidates ∧ candidate.priority < config.priority ∧
      candidate.nodeId ≠ config.nodeId := by
  unfold LeaseEngine.higherPriority at listed
  rw [List.mem_filter, List.mem_insertionSort, Bool.and_eq_true, decide_eq_true_eq,
    decide_eq_true_eq] at listed
  exact listed

/-- A voter that has not seen the term, and whose lease and guard leave the candidate alone. -/
structure Willing (setting : Setting) (scene : Scene) (term : Int) (voter : NodeId) : Prop where
  vacant : Vacant setting scene voter
  behind : (scene.agents voter).votes.term < term

def Granted (setting : Setting) (scene : Scene) (term : Int) (voter : NodeId) : Prop :=
  (scene.agents voter).votes = ⟨term, setting.self⟩ ∧
    (scene.agents voter).engine.voterHolder = setting.self

theorem vacant_later {later : Scene} {voter : NodeId} (time : scene.now ≤ later.now)
    (same : (later.agents voter).ballot = (scene.agents voter).ballot)
    (vacant : Vacant setting scene voter) : Vacant setting later voter := by
  unfold Agent.ballot at same
  simp only [Prod.mk.injEq] at same
  rcases same with ⟨votes, holder, deadline, guard⟩
  constructor
  · rw [holder, deadline]
    intro running
    exact vacant.lease ((uptime_mono time).trans_lt running)
  · rw [votes, guard]
    intro running
    exact vacant.guard ((uptime_mono time).trans_lt running)

theorem voteRequest_granted {voter : NodeId} (willing : Willing setting scene term voter)
    (leaseMs : Int) :
    LeaseEngine.voteRequest (scene.uptime setting voter) setting.self term leaseMs
        (scene.agents voter).votes (scene.agents voter).engine =
      LeaseEngine.grant (scene.uptime setting voter) setting.self term leaseMs
        ⟨term, setting.self⟩ (scene.agents voter).engine := by
  have free : ¬ ((scene.agents voter).engine.voterDeadline > scene.uptime setting voter &&
      (scene.agents voter).engine.voterHolder ≠ "" &&
      (scene.agents voter).engine.voterHolder ≠ setting.self) = true := by
    rw [Bool.and_eq_true, Bool.and_eq_true]
    simp only [decide_eq_true_eq]
    rintro ⟨⟨running, some⟩, other⟩
    rcases willing.vacant.lease running with none | own
    · exact some none
    · exact other own
  have behind := willing.behind
  unfold LeaseEngine.voteRequest
  simp only
  rw [if_neg free, if_neg (by omega), if_pos (by omega)]

/-- A willing voter that a vote request reaches gives its vote and its lease. -/
theorem handleTep_granted (electorate : Electorate setting) {voter : NodeId}
    (member : voter ∈ setting.own.voters)
    (reached : setting.reaches voter = true) (willing : Willing setting scene term voter) :
    LeaseEngine.handleTep (setting.config voter) (scene.uptime setting voter) (setting.source voter)
        (LeaseEngine.votePayload setting.own term) (scene.agents voter).votes
        (scene.agents voter).engine =
      .ok (LeaseEngine.grant (scene.uptime setting voter) setting.self term
        setting.own.leaseMs ⟨term, setting.self⟩ (scene.agents voter).engine) := by
  rcases source_named electorate voter with ⟨named, node, peer⟩
  rcases electorate.voters voter member reached with ⟨votes, cluster, listed, longest⟩
  have positive := setting.own.leaseMs_positive
  have op : Py.strip (LeaseEngine.votePayload setting.own term).op =
      "vote_request" := by
    change Py.strip "vote_request" = "vote_request"
    decide
  have known : ((setting.config voter).candidates.any fun candidate =>
      candidate.nodeId = Py.strip (setting.source voter).nodeId) = true := by
    rw [List.any_eq_true]
    rcases listed with ⟨candidate, member, own⟩
    exact ⟨candidate, member, by rw [named, decide_eq_true own]⟩
  have candidate : (LeaseEngine.votePayload setting.own term).candidate =
      setting.self := electorate.named
  unfold LeaseEngine.handleTep
  simp only
  rw [if_neg (by simp [node, peer]), if_neg (fun other => other cluster.symm), op,
    if_neg (by decide), if_neg (by simp [votes]), if_neg (by simp [known]), if_pos rfl, candidate,
    if_neg (fun other => other named.symm), if_neg]
  · exact congrArg Except.ok (voteRequest_granted willing setting.own.leaseMs)
  · unfold LeaseEngine.votePayload
    simp only [Option.getD_some, Bool.or_eq_true, decide_eq_true_eq]
    omega

theorem vote_rpc (electorate : Electorate setting) {voter : NodeId}
    (member : voter ∈ setting.own.voters)
    (reached : setting.reaches voter = true) (willing : Willing setting scene term voter) :
    ∃ after reply, (LeaseEngine.rpc setting.own voter
        (LeaseEngine.votePayload setting.own term)).exec perform setting scene =
          (after, .ok (.ok reply)) ∧
      scene.now ≤ after.now ∧ (∀ other, other ≠ voter → after.agents other = scene.agents other) ∧
      Granted setting after term voter ∧ LeaseEngine.grantsTerm term (.ok reply) = true := by
  have passes : ∀ uptime, scene.uptime setting voter ≤ uptime →
      LeaseEngine.restartGuard (setting.config voter) uptime (setting.source voter)
        (LeaseEngine.votePayload setting.own term) (scene.agents voter).votes
        (scene.agents voter).engine = none := by
    intro uptime later
    unfold LeaseEngine.restartGuard
    simp only
    rw [if_neg]
    simp only [Bool.and_eq_true, decide_eq_true_eq]
    rintro ⟨⟨⟨⟨-, running⟩, some⟩, -⟩, other⟩
    rcases willing.vacant.guard (later.trans_lt running) with none | own
    · exact some none
    · exact other ((source_named electorate voter).1.trans own.symm)
  rcases rpc_reached electorate reached passes with ⟨later, time, same, done⟩
  have still : Willing setting later term voter :=
    ⟨vacant_later time (by rw [same]) willing.vacant, by rw [same]; exact willing.behind⟩
  have granted := handleTep_granted electorate member reached still
  have handled : later.handled setting voter
      (LeaseEngine.votePayload setting.own term) =
      (Scene.setAgent { later with answered := later.now } voter
        ⟨⟨term, setting.self⟩, { (later.agents voter).engine with
          voterHolder := setting.self
          voterDeadline := later.uptime setting voter + setting.own.leaseMs / 1000 }⟩,
        .ok (.vote { granted := true, term, holder := setting.self
                     leaseMs := setting.own.leaseMs })) := by
    unfold Scene.uptime at granted
    unfold Scene.handled Scene.uptime
    simp only
    rw [granted]
    rfl
  rw [handled] at done
  refine ⟨_, _, done, time, ?_, ?_, ?_⟩
  · intro other apart
    rw [setAgent_other apart]
    exact congrFun same other
  · unfold Granted
    rw [setAgent_same]
    exact ⟨rfl, rfl⟩
  · simp [LeaseEngine.grantsTerm, Reply.granted, Reply.term]

theorem willing_later {later : Scene} {voter : NodeId} (time : scene.now ≤ later.now)
    (same : later.agents voter = scene.agents voter) (willing : Willing setting scene term voter) :
    Willing setting later term voter :=
  ⟨vacant_later time (by rw [same]) willing.vacant, by rw [same]; exact willing.behind⟩

private theorem granted_later {later : Scene} {voter : NodeId}
    (same : later.agents voter = scene.agents voter) (granted : Granted setting scene term voter) :
    Granted setting later term voter := by
  unfold Granted
  rw [same]
  exact granted

theorem vote_answer (electorate : Electorate setting) {voter : NodeId}
    (member : voter ∈ setting.own.voters)
    (willing : setting.reaches voter = true → Willing setting scene term voter) :
    ∃ after answer, (LeaseEngine.rpc setting.own voter
        (LeaseEngine.votePayload setting.own term)).exec perform setting scene =
          (after, .ok answer) ∧
      scene.now ≤ after.now ∧ (∀ other, other ≠ voter → after.agents other = scene.agents other) ∧
      (setting.reaches voter = true → Granted setting after term voter) ∧
      LeaseEngine.grantsTerm term answer = setting.reaches voter := by
  cases reached : setting.reaches voter with
  | false =>
      refine ⟨_, _, rpc_unreached electorate reached, pass_now setting scene, fun _ _ => rfl, ?_,
        rfl⟩
      intro up
      cases up
  | true =>
      rcases vote_rpc electorate member reached (willing reached) with
        ⟨after, reply, done, time, others, granted, counts⟩
      exact ⟨after, .ok reply, done, time, others, fun _ => granted, counts⟩

theorem askVoters_votes (electorate : Electorate setting) (voters : List NodeId)
    (distinct : voters.Nodup) (members : ∀ voter ∈ voters,
      voter ∈ setting.own.voters) (scene : Scene)
    (willing : ∀ voter ∈ voters, setting.reaches voter = true → Willing setting scene term voter) :
    ∃ after answers, (LeaseEngine.askVoters setting.own
        (LeaseEngine.votePayload setting.own term) voters).exec perform setting
          scene = (after, .ok answers) ∧
      scene.now ≤ after.now ∧
      (∀ other, other ∉ voters → after.agents other = scene.agents other) ∧
      (∀ voter ∈ voters, setting.reaches voter = true → Granted setting after term voter) ∧
      LeaseEngine.countGrants term answers = (voters.filter setting.reaches).length := by
  induction voters generalizing scene with
  | nil => exact ⟨scene, [], rfl, le_refl _, fun _ _ => rfl, by simp, rfl⟩
  | cons voter voters ih =>
      rw [List.nodup_cons] at distinct
      rcases vote_answer electorate (members voter List.mem_cons_self)
        (willing voter List.mem_cons_self) with
        ⟨middle, answer, done, early, others, granted, counts⟩
      have apart : ∀ other ∈ voters, other ≠ voter := by
        rintro other listed rfl
        exact distinct.1 listed
      rcases ih distinct.2 (fun other listed => members other (List.mem_cons_of_mem _ listed))
        middle
        (fun other listed up => willing_later early (others other (apart other listed))
          (willing other (List.mem_cons_of_mem _ listed) up)) with
        ⟨after, answers, rest, late, kept, each, total⟩
      refine ⟨after, (voter, answer) :: answers, ?_, early.trans late, ?_, ?_, ?_⟩
      · unfold LeaseEngine.askVoters
        rw [Prog.exec_bind_ok perform done, Prog.exec_bind_ok perform rest]
        rfl
      · intro other away
        rw [List.mem_cons, not_or] at away
        rw [kept other away.2, others other away.1]
      · intro other listed up
        rcases List.mem_cons.mp listed with rfl | listed
        · exact granted_later (kept other distinct.1) (granted up)
        · exact each other listed up
      · unfold LeaseEngine.countGrants at total ⊢
        rw [List.countP_cons, total, List.filter_cons]
        simp only [counts]
        split <;> rfl

structure Won (setting : Setting) (scene : Scene) (term : Int) (deadline : ℚ) : Prop where
  elected : (scene.engine setting).leaderTerm = term
  deadline : (scene.engine setting).leaderDeadline = deadline
  granted : ∀ voter ∈ setting.own.voters, setting.reaches voter = true →
    Granted setting scene term voter

theorem won_pass {deadline : ℚ} (won : Won setting scene term deadline) :
    Won setting (scene.pass setting) term deadline :=
  ⟨won.elected, won.deadline, won.granted⟩

theorem granted_engine {engine : Engine} {voter : NodeId}
    (holder : engine.voterHolder = (scene.engine setting).voterHolder)
    (granted : Granted setting scene term voter) :
    Granted setting (scene.setEngine setting engine) term voter := by
  unfold Granted Scene.setEngine
  by_cases same : voter = setting.self
  · subst same
    rw [setAgent_same]
    exact ⟨granted.1, holder.trans granted.2⟩
  · rw [setAgent_other same]
    exact granted

theorem won_engine {engine : Engine} {deadline : ℚ}
    (holder : engine.voterHolder = (scene.engine setting).voterHolder)
    (leads : (engine.leaderTerm, engine.leaderDeadline) =
      ((scene.engine setting).leaderTerm, (scene.engine setting).leaderDeadline))
    (won : Won setting scene term deadline) :
    Won setting (scene.setEngine setting engine) term deadline := by
  rw [Prod.mk.injEq] at leads
  constructor
  · rw [setEngine_self, leads.1]
    exact won.elected
  · rw [setEngine_self, leads.2]
    exact won.deadline
  · intro voter member reached
    exact granted_engine holder (won.granted voter member reached)

/-- `writeGuard` and `setPrimary` leave the lease as it is, whether they succeed or not. -/
theorem takeLease_won {deadline : ℚ} (taken : (scene.engine setting).leaderTerm = term)
    (granted : ∀ voter ∈ setting.own.voters, setting.reaches voter = true →
      Granted setting scene term voter) :
    Won setting ((LeaseEngine.takeLease setting.own term deadline).exec perform
      setting scene).1 term deadline := by
  let held := (scene.pass setting).setEngine setting
    { (scene.pass setting).engine setting with leaderDeadline := deadline }
  have won : Won setting held term deadline := by
    constructor
    · rw [setEngine_self]
      exact taken
    · rw [setEngine_self]
    · intro voter member reached
      exact granted_engine rfl (granted voter member reached)
  have primary : ∀ start, Won setting start term deadline →
      Won setting ((Prog.attempt .setPrimary >>= fun _ => return true : Loop Bool).exec perform
        setting start).1 term deadline := by
    intro start won
    have after : Won setting (perform .setPrimary setting start).1 term deadline :=
      won_engine rfl rfl (won_pass won)
    rw [Prog.attempt_bind, Prog.exec_call]
    cases (perform .setPrimary setting start).2 with
    | ok value => exact after
    | error failure => exact after
  unfold LeaseEngine.takeLease LeaseEngine.writeGuard
  rw [Prog.ask_bind, Prog.exec_call]
  change Won setting (Prog.exec _ _ _ held).1 term deadline
  split
  · have after : Won setting (perform (.writeGuard term) setting held).1 term deadline := by
      unfold perform Scene.act
      simp only
      split
      · exact ⟨won.elected, won.deadline, won.granted⟩
      · exact ⟨won.elected, won.deadline, won.granted⟩
    rw [Prog.attempt_bind, Prog.exec_call]
    cases (perform (.writeGuard term) setting held).2 with
    | ok value => exact primary _ after
    | error failure => exact after
  · exact primary held won

/-- A program that takes the lease away when it finds it past. -/
def look (away : Loop Unit) : Loop Unit :=
  .call .leaderDeadline fun deadline => .call .bootSeconds fun now =>
    if deadline ≤ now then away else .ret ()

theorem look_won {deadline : ℚ} (away : Loop Unit) (won : Won setting scene term deadline)
    (early : ((look away).exec perform setting scene).1.uptime setting setting.self < deadline) :
    Won setting ((look away).exec perform setting scene).1 term deadline := by
  unfold look at early ⊢
  have read : perform LoopOp.leaderDeadline setting scene = (scene.pass setting, deadline) :=
    Prod.ext rfl won.deadline
  let timed := (scene.pass setting).pass setting
  have clock : perform LoopOp.bootSeconds setting (scene.pass setting) =
    (timed, timed.uptime setting setting.self) := rfl
  rw [Prog.exec_call, read, Prog.exec_call, clock] at early ⊢
  simp only at early ⊢
  by_cases past : deadline ≤ timed.uptime setting setting.self
  · exfalso
    rw [if_pos past] at early
    exact absurd (past.trans (uptime_mono (exec_now away timed))) (not_le.mpr early)
  · rw [if_neg past]
    exact ⟨won.elected, won.deadline, won.granted⟩

theorem demoteExpired_look (reason : String) :
    LeaseEngine.demoteExpired reason = look (LeaseEngine.demote reason) := rfl

theorem look_handle (away : Loop Unit) (rescue : Failure → Loop Unit) :
    (look away).handle rescue = look (away.handle rescue) := by
  unfold look
  change Prog.call _ _ = Prog.call _ _
  congr 1
  funext deadline
  change Prog.call _ _ = Prog.call _ _
  congr 1
  funext now
  change (if deadline ≤ now then away else .ret ()).handle rescue = _
  split <;> rfl

/-- The `except` of `run_once`. -/
def rescue (failure : Failure) : Loop Unit := do
  Prog.ask (.setLastError s!"loop:{failure.name}:{failure.text}")
  LeaseEngine.demoteExpired "loop_error_without_valid_lease"

private theorem rescue_won {deadline : ℚ} (failure : Failure)
    (won : Won setting scene term deadline)
    (early : ((rescue failure).exec perform setting scene).1.uptime setting setting.self <
      deadline) :
    Won setting ((rescue failure).exec perform setting scene).1 term deadline := by
  unfold rescue at early ⊢
  rw [Prog.ask_bind, Prog.exec_call, demoteExpired_look] at early ⊢
  apply look_won _ _ early
  exact won_engine rfl rfl (won_pass won)

/-- What `run_once` does from its campaign on. -/
def campaignRound (setting : Setting) (term : Int) : Loop Unit :=
  (LeaseEngine.campaign setting.own term >>= fun _ =>
    LeaseEngine.demoteExpired "campaign_no_quorum").handle rescue

/-- A campaign among willing voters, a quorum of which it reaches, and that ends in time. -/
theorem campaign_won (electorate : Electorate setting)
    (willing : ∀ voter ∈ setting.own.voters, setting.reaches voter = true →
      Willing setting scene term voter)
    (quorum : setting.own.quorum ≤
      (setting.own.voters.filter setting.reaches).length)
    (quick : ((LeaseEngine.campaign setting.own term).exec perform setting scene).1.uptime setting
      setting.self < (scene.pass setting).uptime setting setting.self + setting.own.leaseSeconds) :
    Won setting ((LeaseEngine.campaign setting.own term).exec perform setting
        scene).1 term
      ((scene.pass setting).uptime setting setting.self +
        setting.own.leaseSeconds) := by
  rcases askVoters_votes electorate _ setting.own.distinct (fun _ member => member)
    (scene.pass setting) (fun voter member reached =>
      willing_later (pass_now setting scene) rfl (willing voter member reached)) with
    ⟨voted, answers, polled, late, -, granted, counts⟩
  have begun : perform LoopOp.bootSeconds setting scene =
    (scene.pass setting, (scene.pass setting).uptime setting setting.self) := rfl
  have read : perform LoopOp.bootSeconds setting voted =
    (voted.pass setting, (voted.pass setting).uptime setting setting.self) := rfl
  unfold LeaseEngine.campaign at quick ⊢
  rw [Prog.ask_bind, Prog.exec_call, begun, Prog.exec_bind_ok perform polled, Prog.ask_bind,
    Prog.exec_call, read] at quick ⊢
  have ends := (uptime_mono (exec_now _ _)).trans_lt quick
  have elected : (decide (LeaseEngine.countGrants term answers ≥
      setting.own.quorum) && decide ((scene.pass setting).uptime setting
      setting.self + setting.own.leaseSeconds >
      (voted.pass setting).uptime setting setting.self)) = true := by
    rw [Bool.and_eq_true, decide_eq_true_eq, decide_eq_true_eq, counts]
    exact ⟨quorum, ends⟩
  rw [if_pos elected, Prog.ask_bind, Prog.exec_call]
  apply takeLease_won
  · change ((Scene.setEngine setting _ _).engine setting).leaderTerm = term
    rw [setEngine_self]
  · intro voter member reached
    exact granted_engine rfl (granted voter member reached)

theorem campaignRound_won (electorate : Electorate setting)
    (willing : ∀ voter ∈ setting.own.voters, setting.reaches voter = true →
      Willing setting scene term voter)
    (quorum : setting.own.quorum ≤
      (setting.own.voters.filter setting.reaches).length)
    (quick : ((campaignRound setting term).exec perform setting scene).1.uptime setting setting.self <
      (scene.pass setting).uptime setting setting.self + setting.own.leaseSeconds) :
    Won setting ((campaignRound setting term).exec perform setting scene).1 term
      ((scene.pass setting).uptime setting setting.self +
        setting.own.leaseSeconds) := by
  unfold campaignRound at quick ⊢
  have early : ∀ program : Loop Unit, (program.exec perform setting
      ((LeaseEngine.campaign setting.own term).exec perform setting scene).1).1.uptime setting
        setting.self < (scene.pass setting).uptime setting setting.self +
          setting.own.leaseSeconds →
      Won setting ((LeaseEngine.campaign setting.own term).exec perform setting
        scene).1 term ((scene.pass setting).uptime setting setting.self +
          setting.own.leaseSeconds) := by
    intro program quick
    exact campaign_won electorate willing quorum ((uptime_mono (exec_now _ _)).trans_lt quick)
  rw [Prog.exec_handle_bind] at quick ⊢
  generalize (LeaseEngine.campaign setting.own term).exec perform setting scene =
    played at early quick ⊢
  rcases played with ⟨after, failure | elected⟩
  · exact rescue_won failure (early (rescue failure) quick) quick
  · rw [demoteExpired_look, look_handle] at quick ⊢
    exact look_won _ (early _ quick) quick

theorem queryVoters_heard (unopposed : Unopposed setting scene) :
    ∃ asked responses, (LeaseEngine.queryVoters setting.own).exec perform setting
        scene = (asked, .ok responses) ∧ scene.now ≤ asked.now ∧ asked.agents = scene.agents ∧
      Heard setting scene setting.own.voters responses := by
  rcases askVoters_status unopposed.electorate setting.own.voters unopposed.vacant
    (fun voter member reached => (unopposed.electorate.voters voter member reached).2.1)
    scene (le_refl _) rfl with ⟨asked, answers, done, later, same, heard⟩
  refine ⟨asked, _, ?_, later, same, heard⟩
  unfold LeaseEngine.queryVoters
  rw [Prog.exec_bind_ok perform done]
  rfl

/-- A program comes to go on as another, and has asked nobody for a vote until then. -/
structure Continues (setting : Setting) (program rest : Loop Unit) (scene middle : Scene) : Prop where
  exec : program.exec perform setting scene = rest.exec perform setting middle
  start : program.upTo perform asksVote setting scene = rest.upTo perform asksVote setting middle

theorem Continues.trans {first second third : Loop Unit} {middle after : Scene}
    (one : Continues setting first second scene middle)
    (two : Continues setting second third middle after) :
    Continues setting first third scene after :=
  ⟨one.exec.trans two.exec, one.start.trans two.start⟩

theorem continues_bind {α : Type} {first : Loop α} {rest : α → Loop Unit}
    {rescue : Failure → Loop Unit} {after : Scene} {value : α}
    (free : first.All fun op => asksVote op = false)
    (done : first.exec perform setting scene = (after, .ok value)) :
    Continues setting ((first >>= rest).handle rescue) ((rest value).handle rescue) scene after where
  exec := by rw [Prog.exec_handle_bind, done]
  start := Prog.upTo_handle_bind free done

theorem ask_free {β : Type} {op : LoopOp β} (other : asksVote op = false) :
    (Prog.ask op : Loop β).All fun op => asksVote op = false :=
  Prog.all_call other fun _ => trivial

theorem rpc_free {config : Config} {target : NodeId} :
    (LeaseEngine.rpc config target (LeaseEngine.statusPayload config)).All fun op =>
      asksVote op = false := by
  have other : decide ((LeaseEngine.statusPayload config).op = "vote_request") = false :=
    decide_eq_false (show ¬"status" = "vote_request" by decide)
  unfold LeaseEngine.rpc
  split
  · refine Prog.all_call other fun refused => ?_
    cases refused with
    | some reply => trivial
    | none => exact ask_free other
  · exact ask_free other

private theorem queryVoters_free {config : Config} :
    (LeaseEngine.queryVoters config).All fun op => asksVote op = false := by
  refine Prog.all_bind ?_ fun _ => trivial
  induction config.voters with
  | nil => trivial
  | cons voter voters ih =>
      exact Prog.all_bind rpc_free fun _ => Prog.all_bind ih fun _ => trivial

theorem higherPriorityCandidateReady_free {config : Config} :
    (LeaseEngine.higherPriorityCandidateReady config).All fun op => asksVote op = false := by
  unfold LeaseEngine.higherPriorityCandidateReady
  split
  · induction LeaseEngine.higherPriority config with
    | nil => trivial
    | cons candidate candidates ih =>
        refine Prog.all_bind rpc_free fun answer => ?_
        cases answer with
        | error failure => exact ih
        | ok reply =>
            dsimp only
            split
            · trivial
            · exact ih
  · trivial

theorem campaignRound_start (some : setting.own.voters ≠ []) :
    (campaignRound setting term).upTo perform asksVote setting scene = scene.pass setting := by
  obtain ⟨voter, voters, shape⟩ := List.exists_cons_of_ne_nil some
  unfold campaignRound LeaseEngine.campaign
  rw [shape]
  unfold LeaseEngine.askVoters LeaseEngine.rpc
  split
  · rfl
  · rfl

theorem ready_false (unopposed : Unopposed setting scene) {later : Scene}
    (kept : Kept setting scene later) :
    ∃ after, (LeaseEngine.higherPriorityCandidateReady setting.own).exec perform
        setting later = (after, .ok false) ∧
      later.now ≤ after.now ∧ after.agents = later.agents := by
  have named := unopposed.electorate.named
  unfold LeaseEngine.higherPriorityCandidateReady
  rw [if_pos unopposed.electorate.candidate]
  apply anyReady_false unopposed.electorate
  · intro candidate listed reached
    rcases higherPriority_mem listed with ⟨member, before, other⟩
    rw [named] at other
    rw [kept.eligible candidate.nodeId other]
    exact unopposed.first candidate member before other reached
  · intro candidate listed
    have other := (higherPriority_mem listed).2.2
    rw [named] at other
    exact other

theorem candidateRound_campaigns (unopposed : Unopposed setting scene) {later : Scene}
    (kept : Kept setting scene later) {reachable : Nat}
    (quorum : setting.own.quorum ≤ reachable) (maxTerm : Int) :
    ∃ middle, Continues setting ((LeaseEngine.candidateRound setting.own reachable maxTerm "" 0).handle
        rescue) (campaignRound setting (maxTerm + 1)) later middle ∧
      Kept setting scene middle := by
  rcases unopposed.eligible with ⟨reasons, eligible⟩
  let checked := (later.pass setting).setEngine setting
    { (later.pass setting).engine setting with eligibilityState := (true, reasons) }
  have check : (Prog.attempt .checkEligibility : Loop (Bool × List String)).exec perform setting
      later = (checked, .ok (true, reasons)) := by
    rw [Prog.exec_attempt]
    unfold perform Scene.act
    simp only [eligible]
    rfl
  have kept' : Kept setting scene checked :=
    (kept.trans (kept_pass setting later)).trans (kept_engine rfl rfl)
  rcases ready_false unopposed kept' with ⟨middle, ready, late, same⟩
  refine ⟨middle, ?_, kept'.trans ⟨late, ?_, ?_, ?_⟩⟩
  · unfold LeaseEngine.candidateRound
    refine (continues_bind (Prog.all_call rfl fun _ => Prog.all_ofExcept _) check).trans ?_
    simp only
    rw [if_neg (by simp), if_neg (by omega), if_neg (by simp)]
    exact continues_bind higherPriorityCandidateReady_free ready
  · intro nodeId
    rw [same]
  · unfold Scene.engine
    rw [same]
  · intro nodeId _
    rw [same]

/-- `run_once` comes to a campaign for a term that no voter has seen. -/
theorem runOnce_campaigns (unopposed : Unopposed setting scene) :
    ∃ middle term,
      Continues setting (LeaseEngine.runOnce setting.own) (campaignRound setting term) scene middle ∧
      Kept setting scene middle ∧
      ∀ voter ∈ setting.own.voters, setting.reaches voter = true →
        (scene.agents voter).votes.term < term := by
  rcases queryVoters_heard unopposed with ⟨asked, responses, done, later, same, heard⟩
  have few := heard.held.trans_lt unopposed.unheld
  have view := majorityView_unheld few
  have quorum : setting.own.quorum ≤ responses.length := by
    rw [heard.reached]
    exact unopposed.quorum
  have each := (maxTerm_le responses 0).2
  generalize responses.foldl (fun term (response : NodeId × Reply) => max term response.2.term) 0 =
    maxTerm at view each
  let view' : ClusterView :=
    { votersReachable := responses.length
      votersTotal := setting.own.voters.length
      quorum := setting.own.quorum, term := maxTerm, holder := "", holderTerm := 0 }
  let viewed := (asked.pass setting).setEngine setting
    { (asked.pass setting).engine setting with clusterView := some view' }
  have kept : Kept setting scene viewed := by
    have heard : Kept setting scene asked :=
      ⟨later, fun _ => by rw [same], by unfold Scene.engine; rw [same], fun _ _ => by rw [same]⟩
    exact (heard.trans (kept_pass setting asked)).trans (kept_engine rfl rfl)
  let looked := (viewed.pass setting).pass setting
  have kept' : Kept setting scene looked :=
    (kept.trans (kept_pass setting viewed)).trans (kept_pass setting _)
  have follows : ¬ (viewed.engine setting).leaderDeadline > looked.uptime setting setting.self := by
    rw [kept.leader, not_lt]
    exact unopposed.follows.trans (uptime_mono kept'.time)
  rcases candidateRound_campaigns unopposed kept' quorum maxTerm with ⟨middle, round, kept''⟩
  refine ⟨middle, maxTerm + 1, ?_, kept'', ?_⟩
  · unfold LeaseEngine.runOnce LeaseEngine.round
    have set : (Prog.ask (.setClusterView view') : Loop Unit).exec perform setting asked =
      (viewed, .ok ()) := rfl
    have read : (Prog.ask .leaderDeadline : Loop ℚ).exec perform setting viewed =
      (viewed.pass setting, .ok (viewed.engine setting).leaderDeadline) := rfl
    have timed : (Prog.ask .bootSeconds : Loop ℚ).exec perform setting (viewed.pass setting) =
      (looked, .ok (looked.uptime setting setting.self)) := rfl
    refine (continues_bind queryVoters_free done).trans ?_
    rw [view]
    simp only
    refine (continues_bind (ask_free rfl) set).trans ?_
    rw [if_neg (by simp)]
    refine (continues_bind (ask_free rfl) read).trans ?_
    refine (continues_bind (ask_free rfl) timed).trans ?_
    rw [if_neg (by simp only [Bool.and_eq_true, decide_eq_true_eq]; exact fun both => follows both.2),
      if_pos unopposed.electorate.candidate]
    exact round
  · intro voter member reached
    rcases heard.terms voter member reached with ⟨response, listed, own⟩
    have bound := each response listed
    omega

/-- A candidate that nobody opposes leads after one round, if by its own clock less than a lease
passes from the start of its campaign to the end of the round. -/
theorem unopposed_elected (setting : Setting) (scene : Scene) (unopposed : Unopposed setting scene)
    (quick : (scene.afterRound setting).uptime setting setting.self <
      (scene.campaignStart setting).uptime setting setting.self + setting.own.leaseSeconds) :
    Elected setting scene (scene.afterRound setting) := by
  rcases runOnce_campaigns unopposed with ⟨middle, term, campaigns, kept, above⟩
  have voters : setting.own.voters ≠ [] := by
    intro none
    have quorum := unopposed.quorum
    have most := setting.own.quorum_majority
    rw [none] at quorum most
    simp only [List.filter_nil, List.length_nil] at quorum most
    omega
  have start : scene.campaignStart setting = middle.pass setting :=
    campaigns.start.trans (campaignRound_start voters)
  have time := kept.time
  rw [start] at quick
  unfold Scene.afterRound at quick ⊢
  rw [campaigns.exec] at quick ⊢
  have willing : ∀ voter ∈ setting.own.voters, setting.reaches voter = true →
      Willing setting middle term voter := by
    intro voter member reached
    have same := kept.ballot voter
    refine ⟨vacant_later time same (unopposed.vacant voter member reached), ?_⟩
    have votes : (middle.agents voter).votes = (scene.agents voter).votes := congrArg Prod.fst same
    rw [votes]
    exact above voter member reached
  have won := campaignRound_won unopposed.electorate willing unopposed.quorum quick
  constructor
  · rw [won.deadline]
    exact quick
  · intro voter member reached
    rw [won.elected]
    exact above voter member reached
  · intro voter member reached
    rw [won.elected]
    exact won.granted voter member reached

end Campaign

section Samples

/-- Three voters, the first of them a candidate. -/
def trioConfig (nodeId : NodeId) : Config where
  clusterId := "trio"
  nodeId := nodeId
  roles := if nodeId = "a" then [.voter, .candidate] else [.voter]
  voters := ["a", "b", "c"]
  candidates := [⟨"a", 1⟩, ⟨"b", 2⟩]
  leaseSeconds := 10
  armed := true

/-- The candidate "a" reaches "b" but not "c"; its services take a time to start, `pause`. -/
def trio (pause : ℚ) (forward : 0 ≤ pause) : Setting where
  config := trioConfig
  peerId _ := "peer"
  boot _ := 0
  self := "a"
  reachable nodeId := nodeId = "b"
  delay tick := if tick = 18 then pause else 0
  eligibility := .ok (true, [])
  files := .ok ()
  services _ := .ok ()
  forward tick := by
    split
    · exact forward
    · exact le_refl _

def trioScene : Scene where
  now := 100
  agents nodeId :=
    { votes := if nodeId = "b" then ⟨7, "c"⟩ else ⟨3, "a"⟩
      engine := LeaseEngine.start (trioConfig nodeId) 0 ⟨0, ""⟩ }

/-- The votes "a" asks for are those of itself and of "b". -/
theorem trio_voters {pause : ℚ} {forward : 0 ≤ pause} {voter : NodeId}
    (reached : (trio pause forward).reaches voter = true) : voter = "a" ∨ voter = "b" := by
  unfold Setting.reaches at reached
  rw [Bool.or_eq_true, decide_eq_true_eq] at reached
  rcases reached with own | remote
  · exact Or.inl own
  · exact Or.inr (of_decide_eq_true remote)

theorem trio_unopposed (pause : ℚ) (forward : 0 ≤ pause) :
    Unopposed (trio pause forward) trioScene where
  electorate :=
    { named := rfl
      trimmed := by
        change Py.strip "a" = "a" ∧ "a" ≠ ""
        decide
      authenticated := by
        change Py.strip "peer" ≠ ""
        decide
      candidate := rfl
      voters := by
        intro voter member reached
        refine ⟨?_, rfl, ⟨⟨"a", 1⟩, List.mem_cons_self, rfl⟩, le_refl _⟩
        rcases trio_voters reached with rfl | rfl
        · rfl
        · rfl }
  eligible := ⟨[], rfl⟩
  files := rfl
  follows := by
    change (0 : ℚ) ≤ bootReading (100 - 0)
    exact bootReading_nonneg (by norm_num)
  vacant := by
    intro voter member reached
    constructor
    · intro running
      exact Or.inl rfl
    · intro running
      have unguarded : (trioScene.agents voter).engine.restartGuardUntil = 0 := by
        simp [trioScene, LeaseEngine.start]
      have past : 0 ≤ trioScene.uptime (trio pause forward) voter := by
        change (0 : ℚ) ≤ bootReading (100 - 0)
        exact bootReading_nonneg (by norm_num)
      exact absurd (unguarded ▸ running) (not_lt.mpr past)
  quorum := by
    change (trioConfig "a").quorum ≤ (["a", "b", "c"].filter (trio 0 (le_refl 0)).reaches).length
    decide
  unheld := by
    change (["a", "b", "c"].filter fun voter => (trio 0 (le_refl 0)).reaches voter &&
      trioScene.leases (trio 0 (le_refl 0)) voter "a").length < (trioConfig "a").quorum
    decide +kernel
  first := by
    intro other member before apart reached
    rfl

theorem trio_elected : Elected (trio 0 (le_refl 0)) trioScene
    (trioScene.afterRound (trio 0 (le_refl 0))) :=
  unopposed_elected _ _ (trio_unopposed 0 (le_refl 0)) (by decide +kernel)

/-- Its requests are answered at once, but its services take a lease to start. -/
theorem trio_slow : Unopposed (trio 10 (by decide)) trioScene ∧
    (trioScene.afterRound (trio 10 (by decide))).answered <
      trioScene.now + ((trio 10 (by decide)).config "a").leaseSeconds ∧
    ¬ Elected (trio 10 (by decide)) trioScene (trioScene.afterRound (trio 10 (by decide))) := by
  refine ⟨trio_unopposed 10 _, by decide +kernel, ?_⟩
  intro elected
  exact absurd elected.leads (by decide +kernel)

end Samples

end HashBurst.Ha
