import HashBurst.Ha.Leases

namespace HashBurst.Ha

open Lib LeaseEngine

section Steps

variable {cluster : Cluster} {strict : Prop} {world : World} {nodeId : NodeId} {process : Process}

/-- The voter of a node whose process moves on without touching it. -/
theorem voterSound_moved {after : World} {node changed : Node} {moved : Process}
    (sound : VoterSound cluster strict world nodeId node) (running : node.process = some process)
    (now : after.now = world.now) (leases : after.register.leases = world.register.leases)
    (requests : ∀ (number : Nat) request, world.requests[number]? = some request →
      after.requests[number]? = some request)
    (boot : changed.boot = node.boot) (votes : changed.votes = node.votes)
    (moves : changed.process = some moved)
    (memory : moved.engine.voterHolder = process.engine.voterHolder ∧
      moved.engine.voterDeadline = process.engine.voterDeadline ∧
      moved.engine.restartGuardUntil = process.engine.restartGuardUntil)
    (admitted : ∀ number ∈ moved.admitted, number ∈ process.admitted ∨
      ∃ request, world.requests[number]? = some request ∧
        (request.payload.op = "vote_request" →
          Passed cluster world.now nodeId node process.engine request.sender)) :
    VoterSound cluster strict after nodeId changed := by
  obtain ⟨holder, deadline, guard⟩ := memory
  constructor
  · rw [boot, now]
    exact sound.booted
  · rw [votes]
    exact sound.voted
  · intro lease member own unexpired
    rw [leases] at member
    rw [now] at unexpired ⊢
    have bound := sound.bound lease member own unexpired
    refine ⟨votes ▸ bound.vote, bound.named, bound.voter, ?_, fun other runs => ?_⟩
    · rw [boot, reading_congr boot]
      exact bound.short
    · cases moves.symm.trans runs
      rw [boot, holder, deadline, guard]
      exact bound.kept process running
  · intro held lease member own late
    rw [leases] at member
    rw [now] at late
    rw [votes]
    exact sound.pledged held lease member own late
  · intro other runs active
    cases moves.symm.trans runs
    rw [boot, guard, now] at active
    rw [votes]
    exact sound.restart process running active
  · intro other runs number member
    cases moves.symm.trans runs
    have known : ∃ request, world.requests[number]? = some request ∧
        (request.payload.op = "vote_request" →
          Passed cluster world.now nodeId node process.engine request.sender) := by
      rcases admitted number member with old | new
      · exact sound.admitted process running number old
      · exact new
    obtain ⟨request, found, passed⟩ := known
    refine ⟨request, requests number request found, fun vote => ?_⟩
    unfold Passed
    rw [now, boot, votes, guard]
    exact passed vote

/-- What a round knows does not depend on the guard file, the process or the messages. -/
theorem knows_congr {node changed : Node} {engine : Engine} {known : Knowledge}
    (knows : Knows cluster strict world nodeId node engine known)
    (boot : changed.boot = node.boot) (votes : changed.votes = node.votes) :
    Knows cluster strict world nodeId changed engine known := by
  constructor
  · rw [boot]
    exact knows.uptime
  · rw [boot]
    exact knows.grants
  · exact knows.deadline
  · unfold Passed
    rw [boot, votes]
    exact knows.passed
  · exact knows.adopted

theorem knows_backed {node : Node} {engine : Engine} {known : Knowledge} {deadline : ℚ}
    (knows : Knows cluster strict world nodeId node engine known)
    (backed : known.Backed cluster deadline) :
    world.register.Backed cluster.voters nodeId (node.boot + deadline - cluster.slack) := by
  obtain ⟨started, backing, rfl, inside, most, granted⟩ := backed
  refine ⟨backing, inside, most, fun voter member => ?_⟩
  obtain ⟨lease, given, own, held, lasts⟩ := knows.grants started voter (granted voter member)
  refine ⟨lease, given, own, held, ?_⟩
  linarith

theorem knows_granted {node : Node} {engine : Engine} {known : Knowledge} {voter : NodeId}
    {reply : Reply} (knows : Knows cluster strict world nodeId node engine known)
    (backed : reply.granted = true → ∃ lease ∈ world.register.leases, lease.voter = voter ∧
      lease.holder = nodeId ∧
        node.boot + known.uptime + cluster.lease - cluster.slack ≤ lease.expires) :
    Knows cluster strict world nodeId node engine (known.granted voter reply) := by
  unfold Knowledge.granted
  split
  · rename_i granted
    refine { knows with grants := fun floor other member => ?_ }
    rcases List.mem_cons.mp member with same | old
    · cases same
      exact backed granted
    · exact knows.grants floor other old
  · exact knows

theorem quiet_step (sound : Sound cluster strict world)
    (running : (world.nodes nodeId).process = some process)
    (file : Option GuardFile) (moved : Process) (known : Knowledge)
    (memory : moved.engine.voterHolder = process.engine.voterHolder ∧
      moved.engine.voterDeadline = process.engine.voterDeadline ∧
      moved.engine.restartGuardUntil = process.engine.restartGuardUntil)
    (admitted : moved.admitted = process.admitted) (idle : moved.awaiting = none)
    (guard : ∀ written, file = some written → world.register.Backed cluster.voters nodeId
      ((world.nodes nodeId).boot + written.bootDeadline - cluster.slack))
    (leader : strict → moved.engine.leaderDeadline ≤ 0 ∨ world.register.Backed cluster.voters nodeId
      ((world.nodes nodeId).boot + moved.engine.leaderDeadline - cluster.slack))
    (knows : Knows cluster strict world nodeId (world.nodes nodeId) moved.engine known)
    (obeys : moved.loop.Obeys (candidateProtocol cluster nodeId) (fun _ _ => True) known) :
    Sound cluster strict (world.setNode nodeId
      { world.nodes nodeId with guardFile := file, process := some moved }) := by
  have grows : ∀ node, Grows world (world.setNode nodeId node) := fun node =>
    ⟨le_refl _, fun _ member => member, fun _ _ found => found⟩
  refine sound_update nodeId sound (grows _) (fun other apart => Function.update_of_ne apart _ _)
    (fun lease member => .inr member) ?_ ?_ ?_
  · simp only [World.setNode, Function.update_self]
    exact voterSound_moved (sound.voter nodeId) running rfl rfl (fun _ _ found => found) rfl rfl rfl
      memory fun number member => .inl (admitted ▸ member)
  · simp only [World.setNode, Function.update_self]
    constructor
    · exact fun written same => guard written same
    · intro held other runs
      cases runs
      exact leader held
    · intro other runs
      cases runs
      refine ⟨known, knows_congr (knows_grows (grows _) knows) rfl rfl, obeys, ?_⟩
      intro number awaited
      rw [idle] at awaited
      cases awaited
  · exact messagesSound_grows (grows _) (fun _ member => .inl member) (fun _ _ member => .inl member)
      sound.messages

/-- The step is the one with which a round takes up a lease as its own. -/
def Adopts (world : World) : Happening → Bool
  | .loop nodeId _ =>
      (world.nodes nodeId).process.any fun process =>
        match process.loop with
        | .call (.adopt _) _ => true
        | _ => false
  | _ => false

/-- The voter that the step asks for its vote, and the candidate: by a request that it handles, or
in its own process. -/
def World.asked (world : World) : Happening → Option (NodeId × NodeId)
  | .loop nodeId _ =>
      (world.nodes nodeId).process.bind fun process =>
        match process.loop with
        | .call (.handleTep payload) _ =>
            if payload.op = "vote_request" then some (nodeId, nodeId) else none
        | _ => none
  | .handle number | .dieVoting number =>
      world.requests[number]?.bind fun request =>
        if request.payload.op = "vote_request" then some (request.target, request.sender) else none
  | _ => none

/-- A voter that is asked for its vote is rested. -/
def Spaced (cluster : Cluster) (world : World) (happening : Happening) : Prop :=
  ∀ pair ∈ world.asked happening, Rested cluster world pair.1 pair.2

instance (cluster : Cluster) (world : World) (happening : Happening) :
    Decidable (Spaced cluster world happening) :=
  inferInstanceAs (Decidable (∀ pair ∈ world.asked happening, _))

theorem handle_step (sound : Sound cluster strict world)
    (running : (world.nodes nodeId).process = some process) {source : Source} {payload : Payload}
    {votes : VoteState} {engine : Engine} {reply : Reply}
    (done : handleTep (cluster.config nodeId) (world.bootSeconds nodeId) source payload
      (world.nodes nodeId).votes process.engine = .ok (votes, engine, reply))
    (honest : Honest cluster source.nodeId payload)
    (passed : payload.op = "vote_request" →
      Passed cluster world.now nodeId (world.nodes nodeId) process.engine source.nodeId)
    (rested : strict → payload.op = "vote_request" → Rested cluster world nodeId source.nodeId)
    {after : World} (moved : Process) (extra : List (Nat × Reply)) (memory : moved.engine = engine)
    (fewer : ∀ number ∈ moved.admitted, number ∈ process.admitted)
    (register : after.register =
      { world.register with
        leases := World.leasesOf nodeId (world.nodes nodeId).boot engine reply ++
          world.register.leases })
    (nodes : after.nodes = Function.update world.nodes nodeId
      { world.nodes nodeId with votes, process := some moved })
    (requests : after.requests = world.requests) (replies : after.replies = world.replies ++ extra)
    (answers : ∀ number answer, (number, answer) ∈ extra → answer = reply ∧
      ∃ request, world.requests[number]? = some request ∧ request.target = nodeId ∧
        request.sender = source.nodeId)
    (loop : ∀ changed : Node, changed.boot = (world.nodes nodeId).boot → changed.votes = votes →
      ∃ known, Knows cluster strict after nodeId changed engine known ∧
        moved.loop.Obeys (candidateProtocol cluster nodeId) (fun _ _ => True) known ∧
        ∀ number, moved.awaiting = some number → Waits after nodeId changed known moved.loop number) :
    Sound cluster strict after := by
  have candidate := sound.candidate nodeId
  have leases : after.register.leases =
      World.leasesOf nodeId (world.nodes nodeId).boot engine reply ++ world.register.leases := by
    rw [register]
  have now : after.now = world.now := by
    unfold World.now
    rw [register]
  have grows : Grows world after := by
    refine ⟨now.ge, fun lease member => ?_, fun number request found => requests ▸ found⟩
    rw [leases]
    exact List.mem_append_right _ member
  have self : after.nodes nodeId =
      { world.nodes nodeId with votes, process := some moved } := by
    rw [nodes, Function.update_self]
  have deadline : engine.leaderDeadline = process.engine.leaderDeadline := handled_leader done
  refine sound_update nodeId sound grows (fun other apart => ?_) (fun lease member => ?_) ?_ ?_ ?_
  · rw [nodes, Function.update_of_ne apart]
  · rw [leases] at member
    rcases List.mem_append.mp member with new | old
    · unfold World.leasesOf at new
      split at new
      · cases List.mem_singleton.mp new
        exact .inl rfl
      · cases new
    · exact .inr old
  · rw [self]
    exact handled_voter (sound.voter nodeId) running done honest passed rested now leases
      requests rfl rfl rfl memory fewer
  · rw [self]
    constructor
    · exact fun file written =>
        Register.backed_mono grows.leases (le_refl _) (candidate.guard file written)
    · intro held other runs
      cases runs
      rw [memory, deadline]
      exact (candidate.leader held process running).imp id
        (Register.backed_mono grows.leases (le_refl _))
    · intro other runs
      cases runs
      rw [memory]
      exact loop _ rfl rfl
  · refine messagesSound_grows grows (fun request member => .inl (requests ▸ member)) ?_
      sound.messages
    intro number answer member
    rw [replies] at member
    rcases List.mem_append.mp member with old | new
    · exact .inl old
    · refine .inr fun granted => ?_
      obtain ⟨rfl, request, found, target, sender⟩ := answers number answer new
      refine ⟨request, grows.requests number request found,
        { voter := nodeId, holder := source.nodeId,
          expires := (world.nodes nodeId).boot + (world.nodes nodeId).reading world.now +
            cluster.span }, ?_, target.symm, sender.symm, ?_⟩
      · rw [leases, handled_lease done honest granted]
        exact List.mem_append_left _ List.mem_cons_self
      · have sent := (sound.messages.honest request (List.mem_of_getElem? found)).2
        have passing := lt_reading (world.nodes nodeId) world.now
        unfold Cluster.slack
        dsimp only
        linarith

theorem send_step (sound : Sound cluster strict world)
    (running : (world.nodes nodeId).process = some process) {target : NodeId} {payload : Payload}
    {known : Knowledge} (honest : Honest cluster nodeId payload)
    (knows : Knows cluster strict world nodeId (world.nodes nodeId) process.engine known)
    (obeys : process.loop.Obeys (candidateProtocol cluster nodeId) (fun _ _ => True) known)
    (called : rpcTarget process.loop = some target) :
    Sound cluster strict
      { world.setProcess nodeId { process with awaiting := some world.requests.length } with
        requests := world.requests ++ [{ sender := nodeId, target, payload, sentAt := world.now }] } := by
  have candidate := sound.candidate nodeId
  have kept : ∀ (number : Nat) request, world.requests[number]? = some request →
      (world.requests ++ [{ sender := nodeId, target, payload, sentAt := world.now }])[number]? =
        some request := by
    intro number request found
    rw [List.getElem?_append_left (List.getElem?_eq_some_iff.mp found).1]
    exact found
  have grows : Grows world
      { world.setProcess nodeId { process with awaiting := some world.requests.length } with
        requests := world.requests ++ [{ sender := nodeId, target, payload, sentAt := world.now }] } :=
    ⟨le_refl _, fun _ member => member, kept⟩
  refine sound_update nodeId sound grows (fun other apart => Function.update_of_ne apart _ _)
    (fun lease member => .inr member) ?_ ?_ ?_
  · simp only [World.setProcess, World.setNode, Function.update_self]
    exact voterSound_moved (sound.voter nodeId) running rfl rfl kept rfl rfl rfl ⟨rfl, rfl, rfl⟩
      fun number member => .inl member
  · simp only [World.setProcess, World.setNode, Function.update_self]
    constructor
    · exact fun written same => candidate.guard written same
    · intro held other runs
      cases runs
      exact candidate.leader held process running
    · intro other runs
      cases runs
      refine ⟨known, knows_congr (knows_grows grows knows) rfl rfl, obeys, ?_⟩
      intro number awaited
      cases awaited
      exact ⟨_, called, List.getElem?_concat_length, rfl, knows.uptime⟩
  · refine messagesSound_grows grows (fun request member => ?_) (fun _ _ member => .inl member)
      sound.messages
    rcases List.mem_append.mp member with old | new
    · exact .inl old
    · cases List.mem_singleton.mp new
      exact .inr ⟨honest, le_refl _⟩

theorem guard_passed (source : Source) {payload : Payload} (sound : Sound cluster strict world)
    (running : (world.nodes nodeId).process = some process) (op : payload.op = "vote_request")
    (checked : restartGuard (cluster.config nodeId) (world.bootSeconds nodeId) source payload
      (world.nodes nodeId).votes process.engine = none) :
    Passed cluster world.now nodeId (world.nodes nodeId) process.engine source.nodeId := by
  intro voter named
  rcases restartGuard_none op checked voter named with ended | unvoted | voted
  · have passing := reading_le (world.nodes nodeId) world.now
    change _ ≤ (world.nodes nodeId).reading world.now at ended
    exact .inl (by linarith)
  · refine .inl (not_lt.mp fun active => ?_)
    exact (sound.voter nodeId).restart process running active unvoted
  · exact .inr voted

structure Ready (cluster : Cluster) (strict : Prop) (world : World) (nodeId : NodeId)
    (process : Process) {β : Type} (op : LoopOp β) (next : β → Loop Unit) (known : Knowledge) :
    Prop where
  sound : Sound cluster strict world
  running : (world.nodes nodeId).process = some process
  idle : process.awaiting = none
  knows : Knows cluster strict world nodeId (world.nodes nodeId) process.engine known
  later : ∀ answer, (next answer).Obeys (candidateProtocol cluster nodeId) (fun _ _ => True)
    (learn nodeId known op answer)

def World.took (world : World) (cluster : Cluster) (nodeId : NodeId) (process : Process)
    (around : Surroundings) {β : Type} (op : LoopOp β) (next : β → Loop Unit) : Option World :=
  (world.localOp cluster nodeId process around op).map fun (world, process, answer) =>
    world.setProcess nodeId { process with loop := next answer }

section Operations

variable {β : Type} {op : LoopOp β} {next : β → Loop Unit} {known : Knowledge}
  (around : Surroundings) {after : World}

theorem Ready.guard (ready : Ready cluster strict world nodeId process op next known)
    (file : GuardFile) (written : (world.nodes nodeId).guardFile = some file) :
    world.register.Backed cluster.voters nodeId
      ((world.nodes nodeId).boot + file.bootDeadline - cluster.slack) :=
  (ready.sound.candidate nodeId).guard file written

theorem Ready.leader (ready : Ready cluster strict world nodeId process op next known)
    (held : strict) : process.engine.leaderDeadline ≤ 0 ∨ world.register.Backed cluster.voters
      nodeId ((world.nodes nodeId).boot + process.engine.leaderDeadline - cluster.slack) :=
  (ready.sound.candidate nodeId).leader held process ready.running

/-- The operation teaches something, and leaves the voter and the deadlines as they are. -/
theorem Ready.learned (ready : Ready cluster strict world nodeId process op next known)
    (engine : Engine) (answer : β)
    (memory : engine.voterHolder = process.engine.voterHolder ∧
      engine.voterDeadline = process.engine.voterDeadline ∧
      engine.restartGuardUntil = process.engine.restartGuardUntil)
    (deadline : engine.leaderDeadline = process.engine.leaderDeadline)
    (knows : Knows cluster strict world nodeId (world.nodes nodeId) engine
      (learn nodeId known op answer)) :
    Sound cluster strict (world.setProcess nodeId { process with engine, loop := next answer }) := by
  refine quiet_step ready.sound ready.running _ _ _ memory rfl ready.idle ready.guard ?_ knows
    (ready.later answer)
  rw [deadline]
  exact ready.leader

theorem Ready.unlearned (ready : Ready cluster strict world nodeId process op next known)
    (engine : Engine) (answer : β)
    (memory : engine.voterHolder = process.engine.voterHolder ∧
      engine.voterDeadline = process.engine.voterDeadline ∧
      engine.restartGuardUntil = process.engine.restartGuardUntil)
    (deadline : engine.leaderDeadline = process.engine.leaderDeadline)
    (nothing : learn nodeId known op answer = known) :
    Sound cluster strict (world.setProcess nodeId { process with engine, loop := next answer }) := by
  have knows := ready.knows
  refine ready.learned engine answer memory deadline ?_
  rw [nothing]
  refine ⟨knows.uptime, knows.grants, deadline ▸ knows.deadline, ?_, knows.adopted⟩
  unfold Passed
  rw [memory.2.2]
  exact knows.passed

private theorem bootSeconds_op {next : ℚ → Loop Unit}
    (ready : Ready cluster strict world nodeId process .bootSeconds next known)
    (taken : world.took cluster nodeId process around .bootSeconds next = some after) :
    Sound cluster strict after := by
  have knows := ready.knows
  cases taken
  refine ready.learned process.engine _ ⟨rfl, rfl, rfl⟩ rfl ?_
  exact ⟨reading_le _ _, knows.grants, knows.deadline, knows.passed, knows.adopted⟩

theorem restartGuard_op {payload : Payload} {next : Option Reply → Loop Unit}
    (ready : Ready cluster strict world nodeId process (.restartGuard payload) next known)
    (taken : world.took cluster nodeId process around (.restartGuard payload) next = some after) :
    Sound cluster strict after := by
  have knows := ready.knows
  cases checked : restartGuard (cluster.config nodeId) (world.bootSeconds nodeId)
      ⟨nodeId, "local-self"⟩ payload (world.nodes nodeId).votes process.engine with
  | some reply =>
      simp only [World.took, World.localOp, checked] at taken
      cases taken
      refine ready.learned process.engine _ ⟨rfl, rfl, rfl⟩ rfl ?_
      refine knows_granted knows fun granted => ?_
      rw [restartGuard_some checked] at granted
      cases granted
  | none =>
      simp only [World.took, World.localOp, checked] at taken
      cases taken
      refine ready.learned process.engine _ ⟨rfl, rfl, rfl⟩ rfl ?_
      refine { knows with passed := fun passed => ?_ }
      rcases (Bool.or_eq_true _ _).mp passed with old | vote
      · exact knows.passed old
      · exact guard_passed ⟨nodeId, "local-self"⟩ ready.sound ready.running
          (of_decide_eq_true vote) checked

theorem handleTep_op {payload : Payload} {next : Except Failure Reply → Loop Unit}
    (ready : Ready cluster strict world nodeId process (.handleTep payload) next known)
    (honest : Honest cluster nodeId payload)
    (passed : payload.op = "vote_request" → known.passed = true)
    (rested : strict → payload.op = "vote_request" → Rested cluster world nodeId nodeId)
    (taken : world.took cluster nodeId process around (.handleTep payload) next = some after) :
    Sound cluster strict after := by
  have knows := ready.knows
  simp only [World.took, World.localOp, World.handleAt, Option.map_some, Option.some.injEq] at taken
  cases done : handleTep (cluster.config nodeId) (world.bootSeconds nodeId) ⟨nodeId, "local-self"⟩
      payload (world.nodes nodeId).votes process.engine with
  | error failure =>
      simp only [done] at taken
      subst taken
      exact ready.unlearned process.engine (.error _) ⟨rfl, rfl, rfl⟩ rfl rfl
  | ok result =>
      obtain ⟨votes, engine, reply⟩ := result
      simp only [done] at taken
      subst taken
      have may : payload.op = "vote_request" →
          Passed cluster world.now nodeId (world.nodes nodeId) process.engine nodeId :=
        fun vote => knows.passed (passed vote)
      refine handle_step ready.sound ready.running done honest may rested
        { process with engine, loop := next (.ok reply) } [] rfl (fun _ member => member) rfl ?_ rfl
        (List.append_nil _).symm (fun _ _ member => absurd member List.not_mem_nil) ?_
      · simp [World.setProcess, World.setNode, Except.mapError]
      · intro changed boot vote
        refine ⟨known.granted nodeId reply, ?_, ready.later (.ok reply), fun number awaited => ?_⟩
        · apply knows_granted
          · constructor
            · rw [boot]
              exact knows.uptime
            · intro floor voter member
              obtain ⟨lease, given, facts⟩ := knows.grants floor voter member
              rw [boot]
              exact ⟨lease, List.mem_append_right _ given, facts⟩
            · rw [handled_leader done]
              exact knows.deadline
            · exact fun passes => handled_passed done honest may (knows.passed passes) boot vote
            · exact knows.adopted
          · intro granted
            refine ⟨_, List.mem_append_left _ (handled_lease done honest granted ▸ List.mem_cons_self),
              rfl, rfl, ?_⟩
            have passing := lt_reading (world.nodes nodeId) world.now
            have uptime := knows.uptime
            rw [boot]
            unfold Cluster.slack
            dsimp only
            linarith
        · exact nomatch ready.idle.symm.trans awaited

theorem checkEligibility_op {next : Except Failure (Bool × List String) → Loop Unit}
    (ready : Ready cluster strict world nodeId process .checkEligibility next known)
    (taken : world.took cluster nodeId process around .checkEligibility next = some after) :
    Sound cluster strict after := by
  cases found : around.eligibility with
  | ok eligible =>
      simp only [World.took, World.localOp, found] at taken
      cases taken
      exact ready.unlearned _ _ ⟨rfl, rfl, rfl⟩ rfl rfl
  | error failure =>
      simp only [World.took, World.localOp, found] at taken
      cases taken
      exact ready.unlearned _ _ ⟨rfl, rfl, rfl⟩ rfl rfl

theorem adopt_op {term : Int} {next : Unit → Loop Unit}
    (ready : Ready cluster strict world nodeId process (.adopt term) next known)
    (loose : ¬strict)
    (taken : world.took cluster nodeId process around (.adopt term) next = some after) :
    Sound cluster strict after := by
  have knows := ready.knows
  cases taken
  refine ready.learned _ () ⟨rfl, rfl, rfl⟩ rfl ?_
  exact ⟨knows.uptime, knows.grants, knows.deadline, knows.passed, fun held => absurd held loose⟩

theorem setLeaderDeadline_op {deadline : ℚ} {next : Unit → Loop Unit}
    (ready : Ready cluster strict world nodeId process (.setLeaderDeadline deadline) next known)
    (allowed : known.Backed cluster deadline ∨ known.adopted = true)
    (taken : world.took cluster nodeId process around (.setLeaderDeadline deadline) next =
      some after) : Sound cluster strict after := by
  have knows := ready.knows
  cases taken
  refine quiet_step ready.sound ready.running _ _ { known with deadline } ⟨rfl, rfl, rfl⟩ rfl
    ready.idle ready.guard (fun held => .inr ?_)
    ⟨knows.uptime, knows.grants, rfl, knows.passed, knows.adopted⟩
    (ready.later ())
  rcases allowed with backed | adopted
  · exact knows_backed knows backed
  · rw [knows.adopted held] at adopted
    cases adopted

theorem withdraw_op {reason : String} {next : Unit → Loop Unit}
    (ready : Ready cluster strict world nodeId process (.withdraw reason) next known)
    (taken : world.took cluster nodeId process around (.withdraw reason) next = some after) :
    Sound cluster strict after := by
  have knows := ready.knows
  cases taken
  exact quiet_step ready.sound ready.running _ _ { known with deadline := 0 } ⟨rfl, rfl, rfl⟩ rfl
    ready.idle ready.guard (fun _ => .inl (le_refl _))
    ⟨knows.uptime, knows.grants, rfl, knows.passed, knows.adopted⟩
    (ready.later ())

theorem writeGuard_op {term : Int} {next : Except Failure Unit → Loop Unit}
    (ready : Ready cluster strict world nodeId process (.writeGuard term) next known)
    (backed : known.Backed cluster known.deadline)
    (taken : world.took cluster nodeId process around (.writeGuard term) next = some after) :
    Sound cluster strict after := by
  have knows := ready.knows
  cases wrote : around.outcome with
  | error failure =>
      simp only [World.took, World.localOp, wrote] at taken
      cases taken
      exact ready.unlearned process.engine _ ⟨rfl, rfl, rfl⟩ rfl rfl
  | ok done =>
      simp only [World.took, World.localOp, wrote] at taken
      cases taken
      simp only [World.setProcess, World.setNode, Function.update_self, Function.update_idem]
      refine quiet_step ready.sound ready.running _ _ _ ⟨rfl, rfl, rfl⟩ rfl ready.idle ?_
        ready.leader knows (ready.later (.ok ()))
      intro written same
      cases same
      have lasting := knows_backed knows backed
      rw [knows.deadline] at lasting
      exact lasting

theorem clearGuard_op {next : Except Failure Unit → Loop Unit}
    (ready : Ready cluster strict world nodeId process .clearGuard next known)
    (taken : world.took cluster nodeId process around .clearGuard next = some after) :
    Sound cluster strict after := by
  cases removed : around.outcome with
  | error failure =>
      simp only [World.took, World.localOp, removed] at taken
      cases taken
      exact ready.unlearned process.engine _ ⟨rfl, rfl, rfl⟩ rfl rfl
  | ok done =>
      simp only [World.took, World.localOp, removed] at taken
      cases taken
      simp only [World.setProcess, World.setNode, Function.update_self, Function.update_idem]
      exact quiet_step ready.sound ready.running _ _ _ ⟨rfl, rfl, rfl⟩ rfl ready.idle
        (fun _ same => nomatch same) ready.leader ready.knows (ready.later (.ok ()))

end Operations

theorem answerTo_cases {number : Nat} {chosen : Option Nat} {answer : Except Failure Reply}
    (told : world.answerTo number chosen = some answer) :
    (∃ failure, answer = .error failure) ∨
      ∃ reply, answer = .ok reply ∧ (number, reply) ∈ world.replies := by
  unfold World.answerTo at told
  split at told
  · exact .inl ⟨_, (Option.some.inj told).symm⟩
  · split at told
    · rename_i answered reply found
      split at told
      · rename_i own
        subst own
        exact .inr ⟨reply, (Option.some.inj told).symm, List.mem_of_getElem? found⟩
      · cases told
    · cases told

theorem rpc_op (sound : Sound cluster strict world)
    (running : (world.nodes nodeId).process = some process) {target : NodeId} {payload : Payload}
    {next : Except Failure Reply → Loop Unit} {known : Knowledge} {around : Surroundings}
    {after : World} (shape : process.loop = .call (.rpc target payload) next)
    (knows : Knows cluster strict world nodeId (world.nodes nodeId) process.engine known)
    (obeys : process.loop.Obeys (candidateProtocol cluster nodeId) (fun _ _ => True) known)
    (waits : ∀ number, process.awaiting = some number →
      Waits world nodeId (world.nodes nodeId) known process.loop number)
    (taken : world.loopStep cluster nodeId process around = some after) :
    Sound cluster strict after := by
  have guard := (sound.candidate nodeId).guard
  have leader := fun held => (sound.candidate nodeId).leader held process running
  obtain ⟨honest, later⟩ := id (shape ▸ obeys)
  unfold World.loopStep at taken
  rw [shape] at taken
  dsimp only at taken
  cases awaited : process.awaiting with
  | none =>
      simp only [awaited] at taken
      cases taken
      rw [← shape]
      exact send_step sound running honest knows obeys (by rw [shape]; rfl)
  | some number =>
      simp only [awaited] at taken
      obtain ⟨answer, told, rfl⟩ := Option.map_eq_some_iff.mp taken
      rcases answerTo_cases told with ⟨failure, rfl⟩ | ⟨reply, rfl, member⟩
      · exact quiet_step sound running _ _ known ⟨rfl, rfl, rfl⟩ rfl rfl guard leader knows
          (later (.error failure))
      · refine quiet_step sound running _ _ (known.granted target reply) ⟨rfl, rfl, rfl⟩ rfl rfl
          guard leader (knows_granted knows fun granted => ?_) (later (.ok reply))
        obtain ⟨request, called, found, sender, sent⟩ := waits number awaited
        obtain ⟨other, again, lease, given, voter, holder, lasts⟩ :=
          sound.messages.granted number reply member granted
        rw [found] at again
        cases again
        rw [shape] at called
        cases called
        exact ⟨lease, given, voter, holder.trans sender, by linarith⟩

/-- One operation of a loop keeps the cluster sound. -/
theorem loop_sound (sound : Sound cluster strict world)
    (running : (world.nodes nodeId).process = some process) {around : Surroundings} {after : World}
    (bound : strict → Adopts world (.loop nodeId around) = false ∧
      Spaced cluster world (.loop nodeId around))
    (taken : world.loopStep cluster nodeId process around = some after) :
    Sound cluster strict after := by
  obtain ⟨known, knows, obeys, waits⟩ := (sound.candidate nodeId).loop process running
  cases shape : process.loop with
  | ret value => simp [World.loopStep, shape] at taken
  | fail failure => simp [World.loopStep, shape] at taken
  | call op next =>
      have ready : rpcTarget (.call op next) = none →
          Ready cluster strict world nodeId process op next known := by
        intro quiet
        refine ⟨sound, running, ?_, knows, (shape ▸ obeys).2⟩
        cases awaited : process.awaiting with
        | none => rfl
        | some number =>
            obtain ⟨request, called, -⟩ := waits number awaited
            rw [shape, quiet] at called
            cases called
      have allowed := (shape ▸ obeys).1
      have step := taken
      unfold World.loopStep at step
      rw [shape] at step
      cases op with
      | rpc target payload => exact rpc_op sound running shape knows obeys waits taken
      | bootSeconds => exact bootSeconds_op around (ready rfl) step
      | restartGuard payload => exact restartGuard_op around (ready rfl) step
      | handleTep payload =>
          refine handleTep_op around (ready rfl) allowed.1 allowed.2 ?_ step
          exact fun held vote => (bound held).2 (nodeId, nodeId)
            (by simp [World.asked, running, shape, vote])
      | checkEligibility => exact checkEligibility_op around (ready rfl) step
      | adopt term =>
          refine adopt_op around (ready rfl) (fun held => ?_) step
          have other := (bound held).1
          simp [Adopts, running, shape] at other
      | setLeaderDeadline deadline =>
          exact setLeaderDeadline_op around (ready rfl) allowed step
      | withdraw reason => exact withdraw_op around (ready rfl) step
      | writeGuard term => exact writeGuard_op around (ready rfl) allowed step
      | clearGuard => exact clearGuard_op around (ready rfl) step
      | setClusterView | leaderTerm | leaderDeadline | setLeaderTerm | setPrimary | setStandby
      | setLastError =>
          cases step
          exact (ready rfl).unlearned _ _ ⟨rfl, rfl, rfl⟩ rfl rfl

theorem wait_step (sound : Sound cluster strict world) {seconds : ℚ} (forward : 0 ≤ seconds) :
    Sound cluster strict
      { world with register := { world.register with now := world.now + seconds } } := by
  have grows : Grows world
      { world with register := { world.register with now := world.now + seconds } } :=
    ⟨le_add_of_nonneg_right forward, fun _ member => member, fun _ _ found => found⟩
  constructor
  · exact fun other => voterSound_grows grows (fun _ member _ => member) (sound.voter other)
  · exact fun other => candidateSound_grows grows (sound.candidate other)
  · exact messagesSound_grows grows (fun _ member => .inl member) (fun _ _ member => .inl member)
      sound.messages

theorem node_step (sound : Sound cluster strict world) {node : Node}
    (voter : VoterSound cluster strict world nodeId node)
    (candidate : CandidateSound cluster strict world nodeId node) :
    Sound cluster strict (world.setNode nodeId node) := by
  have grows : Grows world (world.setNode nodeId node) :=
    ⟨le_refl _, fun _ member => member, fun _ _ found => found⟩
  refine sound_update nodeId sound grows (fun other apart => Function.update_of_ne apart _ _)
    (fun lease member => .inr member) ?_ ?_ ?_
  · simp only [World.setNode, Function.update_self]
    exact voterSound_grows grows (fun _ member _ => member) voter
  · simp only [World.setNode, Function.update_self]
    exact candidateSound_grows grows candidate
  · exact messagesSound_grows grows (fun _ member => .inl member) (fun _ _ member => .inl member)
      sound.messages

/-- A node whose process is gone, on the same boot or a new one. -/
theorem down_step (sound : Sound cluster strict world) {node : Node}
    (dead : node.process = none) (votes : node.votes = (world.nodes nodeId).votes)
    (boot : node.boot = (world.nodes nodeId).boot ∧ node.guardFile = (world.nodes nodeId).guardFile ∨
      node.boot = world.now ∧ node.guardFile = none) :
    Sound cluster strict (world.setNode nodeId node) := by
  have own := sound.voter nodeId
  have gone : ∀ process, node.process ≠ some process := by
    intro process runs
    rw [dead] at runs
    cases runs
  refine node_step sound ?_ ?_
  · constructor
    · rcases boot with ⟨same, -⟩ | ⟨now, -⟩
      · rw [same]
        exact own.booted
      · exact now.le
    · rw [votes]
      exact own.voted
    · intro lease member mine unexpired
      have bound := own.bound lease member mine unexpired
      refine
        { vote := votes ▸ bound.vote, named := bound.named, voter := bound.voter
          short := ?_, kept := fun process runs => absurd runs (gone process) }
      rcases boot with ⟨same, -⟩ | ⟨now, -⟩
      · rw [same, reading_congr same]
        exact bound.short
      · have passed := reading_le (world.nodes nodeId) world.now
        have begun := reading_nonneg node now.le
        rw [now]
        exact bound.short.trans (by linarith)
    · rw [votes]
      exact own.pledged
    · exact fun process runs => absurd runs (gone process)
    · exact fun process runs => absurd runs (gone process)
  · constructor
    · intro file written
      rcases boot with ⟨same, kept⟩ | ⟨-, none⟩
      · rw [same]
        exact (sound.candidate nodeId).guard file (kept ▸ written)
      · rw [none] at written
        cases written
    · exact fun _ process runs => absurd runs (gone process)
    · exact fun process runs => absurd runs (gone process)

theorem fresh_knows {node : Node} {engine : Engine} (booted : node.boot ≤ world.now) :
    Knows cluster strict world nodeId node engine
      { uptime := 0, deadline := engine.leaderDeadline } where
  uptime := by simpa using booted
  grants := fun _ _ member => absurd member List.not_mem_nil
  deadline := rfl
  passed := fun passed => nomatch passed
  adopted := fun _ => rfl

theorem start_step (sound : Sound cluster strict world) :
    Sound cluster strict (world.setProcess nodeId (world.started cluster nodeId)) := by
  have own := sound.voter nodeId
  refine node_step sound ?_ ?_
  · constructor
    · exact own.booted
    · exact own.voted
    · intro lease member mine unexpired
      have bound := own.bound lease member mine unexpired
      refine ⟨bound.vote, bound.named, bound.voter, bound.short, fun process runs => ?_⟩
      cases runs
      have voted : (world.nodes nodeId).votes.votedFor ≠ "" := bound.vote ▸ bound.named
      have term := own.voted voted
      have guard : (world.started cluster nodeId).engine.restartGuardUntil =
          world.bootSeconds nodeId + (cluster.config nodeId).leaseSeconds := by
        simp [World.started, start, bound.voter, term, voted]
      refine .inr (bound.short.trans ?_)
      rw [guard, cluster.sameLease, ← add_assoc]
      exact add_le_add_right cluster.span_le _
    · exact own.pledged
    · intro process runs active
      cases runs
      intro unvoted
      have blank : (world.nodes nodeId).votes.votedFor = "" := unvoted
      simp [World.started, start, blank] at active
      exact absurd active (not_lt.mpr own.booted)
    · intro process runs number member
      cases runs
      cases member
  · constructor
    · exact fun file written => (sound.candidate nodeId).guard file written
    · intro _ process runs
      cases runs
      exact .inl (le_refl _)
    · intro process runs
      cases runs
      exact ⟨_, fresh_knows own.booted, runOnce_follows _, fun _ awaited => nomatch awaited⟩

theorem again_step (sound : Sound cluster strict world)
    (running : (world.nodes nodeId).process = some process) {value : Unit}
    (ended : process.loop = .ret value) :
    Sound cluster strict (world.setProcess nodeId
      { process with loop := runOnce (cluster.config nodeId) }) := by
  have candidate := sound.candidate nodeId
  have idle : process.awaiting = none := by
    obtain ⟨known, -, -, waits⟩ := candidate.loop process running
    cases awaited : process.awaiting with
    | none => rfl
    | some number =>
        obtain ⟨request, called, -⟩ := waits number awaited
        rw [ended] at called
        cases called
  exact quiet_step sound running _ _ _ ⟨rfl, rfl, rfl⟩ rfl idle candidate.guard
    (fun held => candidate.leader held process running) (fresh_knows (sound.voter nodeId).booted)
    (runOnce_follows _)

theorem arrive_step (sound : Sound cluster strict world) {number : Nat} {request : Request}
    (found : world.requests[number]? = some request)
    (running : (world.nodes request.target).process = some process) :
    Sound cluster strict (world.arrive cluster number request process) := by
  have candidate := sound.candidate request.target
  unfold World.arrive
  split
  · rename_i reply refused
    have grows : Grows world { world with replies := world.replies ++ [(number, reply)] } :=
      ⟨le_refl _, fun _ member => member, fun _ _ found => found⟩
    constructor
    · exact fun other => voterSound_grows grows (fun _ member _ => member) (sound.voter other)
    · exact fun other => candidateSound_grows grows (sound.candidate other)
    · refine messagesSound_grows grows (fun _ member => .inl member) (fun other answer member => ?_)
        sound.messages
      rcases List.mem_append.mp member with old | new
      · exact .inl old
      · cases List.mem_singleton.mp new
        refine .inr fun granted => ?_
        rw [restartGuard_some refused] at granted
        cases granted
  · rename_i checked
    refine node_step sound ?_ ?_
    · refine voterSound_moved (sound.voter request.target) running rfl rfl (fun _ _ found => found)
        rfl rfl rfl ⟨rfl, rfl, rfl⟩ fun other member => ?_
      rcases List.mem_cons.mp member with rfl | old
      · exact .inr ⟨request, found, fun op =>
          guard_passed (World.Request.source cluster request) sound running op checked⟩
      · exact .inl old
    · constructor
      · exact fun file written => candidate.guard file written
      · intro held other runs
        cases runs
        exact candidate.leader held process running
      · intro other runs
        cases runs
        obtain ⟨known, knows, obeys, waits⟩ := candidate.loop process running
        exact ⟨known, knows_congr knows rfl rfl, obeys, waits⟩

theorem admittedBy_cases {number : Nat} {request : Request}
    (admitted : world.admittedBy number = some (request, process)) :
    world.requests[number]? = some request ∧
      (world.nodes request.target).process = some process ∧ number ∈ process.admitted := by
  unfold World.admittedBy at admitted
  obtain ⟨sent, found, chosen⟩ := Option.bind_eq_some_iff.mp admitted
  obtain ⟨running, present, same⟩ := Option.map_eq_some_iff.mp chosen
  cases same
  obtain ⟨runs, member⟩ := Option.filter_eq_some_iff.mp present
  exact ⟨found, runs, of_decide_eq_true member⟩

theorem admitted_facts (sound : Sound cluster strict world) {number : Nat} {request : Request}
    (found : world.requests[number]? = some request)
    (running : (world.nodes request.target).process = some process)
    (member : number ∈ process.admitted) :
    Honest cluster request.sender request.payload ∧ (request.payload.op = "vote_request" →
      Passed cluster world.now request.target (world.nodes request.target) process.engine
        request.sender) := by
  refine ⟨(sound.messages.honest request (List.mem_of_getElem? found)).1, ?_⟩
  obtain ⟨other, again, passed⟩ :=
    (sound.voter request.target).admitted process running number member
  rw [found] at again
  cases again
  exact passed

private theorem handleAt_error {source : Source} {payload : Payload} {engine : Engine}
    {failure : HaError}
    (done : handleTep (cluster.config nodeId) (world.bootSeconds nodeId) source payload
      (world.nodes nodeId).votes engine = .error failure) :
    world.handleAt cluster nodeId engine source payload = (world, engine, .error failure) := by
  unfold World.handleAt
  simp only [done]

theorem handleAt_ok {source : Source} {payload : Payload} {engine changed : Engine}
    {votes : VoteState} {reply : Reply}
    (done : handleTep (cluster.config nodeId) (world.bootSeconds nodeId) source payload
      (world.nodes nodeId).votes engine = .ok (votes, changed, reply)) :
    world.handleAt cluster nodeId engine source payload =
      ({ world.setNode nodeId { world.nodes nodeId with votes } with
          register :=
            { world.register with
              leases := World.leasesOf nodeId (world.nodes nodeId).boot changed reply ++
                world.register.leases } },
        changed, .ok reply) := by
  unfold World.handleAt
  simp only [done]

theorem raise_step (sound : Sound cluster strict world) {number : Nat}
    (running : (world.nodes nodeId).process = some process) :
    Sound cluster strict (world.setProcess nodeId
      { process with admitted := process.admitted.erase number }) := by
  have candidate := sound.candidate nodeId
  refine node_step sound ?_ ?_
  · exact voterSound_moved (sound.voter nodeId) running rfl rfl (fun _ _ found => found) rfl rfl rfl
      ⟨rfl, rfl, rfl⟩ fun other member => .inl (List.mem_of_mem_erase member)
  · constructor
    · exact fun file written => candidate.guard file written
    · intro held other runs
      cases runs
      exact candidate.leader held process running
    · intro other runs
      cases runs
      obtain ⟨known, knows, obeys, waits⟩ := candidate.loop process running
      exact ⟨known, knows_congr knows rfl rfl, obeys, waits⟩

theorem answer_step (sound : Sound cluster strict world) {number : Nat} {request : Request}
    (found : world.requests[number]? = some request)
    (running : (world.nodes request.target).process = some process)
    (member : number ∈ process.admitted)
    (rested : strict → request.payload.op = "vote_request" →
      Rested cluster world request.target request.sender) :
    Sound cluster strict (world.handle cluster number request process) := by
  obtain ⟨honest, passed⟩ := admitted_facts sound found running member
  unfold World.handle
  cases done : handleTep (cluster.config request.target) (world.bootSeconds request.target)
      (World.Request.source cluster request) request.payload (world.nodes request.target).votes
      process.engine with
  | error failure =>
      rw [handleAt_error done]
      dsimp only [World.answered]
      rw [List.append_nil]
      exact raise_step sound running
  | ok result =>
      obtain ⟨votes, engine, reply⟩ := result
      obtain ⟨known, knows, obeys, waits⟩ :=
        (sound.candidate request.target).loop process running
      rw [handleAt_ok done]
      dsimp only [World.answered]
      refine handle_step sound running done honest passed rested
        { process with engine, admitted := process.admitted.erase number } [(number, reply)] rfl
        (fun _ member => List.mem_of_mem_erase member) rfl ?_ rfl rfl (fun other answer new => ?_) ?_
      · simp [World.setProcess, World.setNode]
      · obtain ⟨rfl, rfl⟩ := Prod.mk.inj (List.mem_singleton.mp new)
        exact ⟨rfl, request, found, rfl, rfl⟩
      · intro changed boot vote
        refine ⟨known, ?_, obeys, fun other awaited => ?_⟩
        · constructor
          · rw [boot]
            exact knows.uptime
          · intro floor voter member
            obtain ⟨lease, given, facts⟩ := knows.grants floor voter member
            rw [boot]
            exact ⟨lease, List.mem_append_right _ given, facts⟩
          · rw [handled_leader done]
            exact knows.deadline
          · exact fun passes => handled_passed done honest passed (knows.passed passes) boot vote
          · exact knows.adopted
        · obtain ⟨sent, called, present, sender, later⟩ := waits other awaited
          exact ⟨sent, called, present, sender, boot ▸ later⟩

theorem die_step (sound : Sound cluster strict world) {number : Nat} {request : Request}
    (found : world.requests[number]? = some request)
    (running : (world.nodes request.target).process = some process)
    (member : number ∈ process.admitted)
    (rested : strict → request.payload.op = "vote_request" →
      Rested cluster world request.target request.sender) :
    Sound cluster strict (world.dieVoting cluster request process) := by
  obtain ⟨honest, passed⟩ := admitted_facts sound found running member
  unfold World.dieVoting
  dsimp only
  split
  · rename_i votes engine reply done
    refine node_step sound ?_ ?_
    · exact died_voter (sound.voter request.target) running done honest passed rested
        rfl rfl rfl rfl rfl
    · constructor
      · exact fun file written => (sound.candidate request.target).guard file written
      · exact fun _ other runs => nomatch runs
      · exact fun other runs => nomatch runs
  · exact down_step sound rfl rfl (.inl ⟨rfl, rfl⟩)

/-- Every step keeps the cluster sound, in strict runs as long as no round takes up a lease and
voters are rested. -/
theorem sound_step (sound : Sound cluster strict world) {happening : Happening} {after : World}
    (bound : strict → Adopts world happening = false ∧ Spaced cluster world happening)
    (taken : (clusterMachine cluster).next world happening = some after) :
    Sound cluster strict after := by
  cases happening with
  | wait seconds =>
      simp only [clusterMachine] at taken
      split at taken
      · rename_i forward
        cases taken
        exact wait_step sound forward
      · cases taken
  | start nodeId =>
      simp only [clusterMachine] at taken
      split at taken
      · cases taken
        exact start_step sound
      · cases taken
  | stop nodeId =>
      cases taken
      exact down_step sound rfl rfl (.inl ⟨rfl, rfl⟩)
  | reboot nodeId =>
      cases taken
      exact down_step sound rfl rfl (.inr ⟨rfl, rfl⟩)
  | loop nodeId around =>
      obtain ⟨process, running, step⟩ := Option.bind_eq_some_iff.mp taken
      exact loop_sound sound running bound step
  | again nodeId =>
      obtain ⟨process, running, step⟩ := Option.bind_eq_some_iff.mp taken
      split at step
      · rename_i value ended
        cases step
        exact again_step sound running ended
      · cases step
  | arrive number =>
      obtain ⟨request, found, step⟩ := Option.bind_eq_some_iff.mp taken
      obtain ⟨process, running, rfl⟩ := Option.map_eq_some_iff.mp step
      exact arrive_step sound found running
  | handle number =>
      obtain ⟨⟨request, process⟩, admitted, rfl⟩ := Option.map_eq_some_iff.mp taken
      obtain ⟨found, running, member⟩ := admittedBy_cases admitted
      exact answer_step sound found running member fun held vote =>
        (bound held).2 (request.target, request.sender) (by simp [World.asked, found, vote])
  | dieVoting number =>
      obtain ⟨⟨request, process⟩, admitted, rfl⟩ := Option.map_eq_some_iff.mp taken
      obtain ⟨found, running, member⟩ := admittedBy_cases admitted
      exact die_step sound found running member fun held vote =>
        (bound held).2 (request.target, request.sender) (by simp [World.asked, found, vote])

end Steps

end HashBurst.Ha
