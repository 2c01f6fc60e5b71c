import HashBurst.Ha.Steps

/-! At most one primary: the lease guards of a cluster exclude each other in every run, up to the
precision of the clocks; the leases in memory do where no round takes up a lease that it finds its
own and the voters are rested. -/

namespace HashBurst.Ha

open Lib LeaseEngine

/-- The node has a guard file that names it and has more than the margin left. -/
def World.Guarded (world : World) (margin : ℚ) (nodeId : NodeId) : Prop :=
  ((world.nodes nodeId).guardFile.any fun file =>
    file.holder = nodeId && world.uptime nodeId + margin < file.bootDeadline) = true

/-- The node is primary through an unexpired lease. -/
def World.Leads (world : World) (nodeId : NodeId) : Prop :=
  ((world.nodes nodeId).process.any fun process =>
    world.bootSeconds nodeId < process.engine.leaderDeadline) = true

instance (world : World) (margin : ℚ) (nodeId : NodeId) : Decidable (world.Guarded margin nodeId) :=
  inferInstanceAs (Decidable (_ = true))

instance (world : World) (nodeId : NodeId) : Decidable (world.Leads nodeId) :=
  inferInstanceAs (Decidable (_ = true))

section Runs

variable {cluster : Cluster} {strict : Prop} {start world : World}

theorem fresh_sound (fresh : start.Fresh) : Sound cluster strict start := by
  obtain ⟨requests, replies, leases⟩ := fresh.quiet
  constructor
  · intro nodeId
    constructor
    · exact fresh.booted nodeId
    · exact fresh.voted nodeId
    · intro lease member
      rw [leases] at member
      cases member
    · intro _ lease member
      rw [leases] at member
      cases member
    · intro process runs
      rw [fresh.down nodeId] at runs
      cases runs
    · intro process runs
      rw [fresh.down nodeId] at runs
      cases runs
  · intro nodeId
    constructor
    · intro file written
      rw [fresh.unguarded nodeId] at written
      cases written
    · intro _ process runs
      rw [fresh.down nodeId] at runs
      cases runs
    · intro process runs
      rw [fresh.down nodeId] at runs
      cases runs
  · constructor
    · intro request member
      rw [requests] at member
      cases member
    · intro number reply member
      rw [replies] at member
      cases member

def Strict (cluster : Cluster) (world : World) (happening : Happening) : Prop :=
  Adopts world happening = false ∧ Spaced cluster world happening

instance (cluster : Cluster) (world : World) (happening : Happening) :
    Decidable (Strict cluster world happening) :=
  inferInstanceAs (Decidable (_ ∧ _))

theorem sound_run (fresh : start.Fresh)
    (run : (clusterMachine cluster).Run
      (fun world happening => strict → Strict cluster world happening) start world) :
    Sound cluster strict world :=
  Machine.Run.invariant (Sound cluster strict)
    (fun _ _ _ sound bound taken => sound_step sound bound taken) run (fresh_sound fresh)

/-- A voter is bound to the candidate that it has last voted for. -/
theorem sound_exclusive (sound : Sound cluster strict world) : world.register.Exclusive := by
  refine Register.exclusive_of_pledge (fun voter => (world.nodes voter).votes.votedFor) ?_
  exact fun lease member unexpired => ((sound.voter lease.voter).bound lease member rfl unexpired).vote

private theorem prolonged_exclusive (sound : Sound cluster strict world) (held : strict) :
    (world.register.prolonged cluster.respite).Exclusive := by
  refine Register.exclusive_of_pledge (fun voter => (world.nodes voter).votes.votedFor) ?_
  intro longer member late
  obtain ⟨lease, granted, rfl⟩ := List.mem_map.mp member
  exact (sound.voter lease.voter).pledged held lease granted rfl late

end Runs

/-- No two nodes have valid lease guards at once, but for the last moments of one: a reading of the
clock, and the millisecond that the lease of the voters may be shorter. -/
theorem lease_guards_exclusive {cluster : Cluster} {start world : World} {first second : NodeId}
    (fresh : start.Fresh) (run : (clusterMachine cluster).Run (fun _ _ => True) start world)
    (one : world.Guarded cluster.slack first) (two : world.Guarded cluster.slack second) :
    first = second := by
  have sound : Sound cluster False world :=
    sound_run fresh (Machine.Run.mono (fun _ _ _ held => held.elim) run)
  have backed : ∀ nodeId, world.Guarded cluster.slack nodeId → ∃ time, world.now < time ∧
      world.register.Backed cluster.voters nodeId time := by
    intro nodeId guarded
    obtain ⟨file, written, valid⟩ := Option.any_eq_true _ _ |>.mp guarded
    rw [Bool.and_eq_true, decide_eq_true_eq, decide_eq_true_eq] at valid
    refine ⟨_, ?_, (sound.candidate nodeId).guard file written⟩
    have left := valid.2
    unfold World.uptime at left
    linarith
  obtain ⟨early, unexpired, front⟩ := backed first one
  obtain ⟨late, valid, back⟩ := backed second two
  exact Register.holder_unique (sound_exclusive sound) cluster.voters_nodup front back unexpired valid

private theorem smallVoters_distinct : (["a", "b", "c"] : List NodeId).Nodup := by decide

private theorem tenSeconds_bounded : (6 : ℚ) ≤ 10 ∧ (10 : ℚ) ≤ 120 := by decide

/-- Three voters of which two are candidates. -/
def smallConfig (nodeId : NodeId) : Config where
  clusterId := "hashburst"
  nodeId
  roles := if nodeId = "c" then [.voter] else [.voter, .candidate]
  voters := ["a", "b", "c"]
  candidates := [⟨"a", 10⟩, ⟨"b", 20⟩]
  leaseSeconds := 10
  armed := true
  distinct := smallVoters_distinct
  bounded := tenSeconds_bounded

def smallCluster : Cluster where
  config := smallConfig
  peerId nodeId := "peer-" ++ nodeId
  voters := ["a", "b", "c"]
  leaseMs := 10000
  named := fun _ => rfl
  sameVoters := fun _ => rfl
  sameLease := fun _ => by norm_num [smallConfig]

def smallStart : World where
  register := { now := 0, leases := [] }
  nodes := fun _ => { boot := 0, votes := { term := 0, votedFor := "" } }

theorem smallStart_fresh : smallStart.Fresh where
  booted := fun _ => le_refl _
  voted := fun _ voted => absurd rfl voted
  down := fun _ => rfl
  unguarded := fun _ => rfl
  quiet := ⟨rfl, rfl, rfl⟩

def steps (nodeId : NodeId) (count : Nat) : List Happening :=
  List.replicate count (.loop nodeId {})

/-- A call over TEP that is answered, and one that is not. -/
def exchange (nodeId : NodeId) (request answer : Nat) : List Happening :=
  [.loop nodeId {}, .arrive request, .handle request, .loop nodeId { answer := some answer }]

/-- "a" asks all voters, campaigns, and is granted by all, by the others after a delay. -/
def election (delay : ℚ) : List Happening :=
  [.start "a", .start "b", .start "c"] ++ steps "a" 2 ++ exchange "a" 0 0 ++ exchange "a" 1 1 ++
    steps "a" 5 ++ steps "a" 2 ++ [.wait delay] ++ exchange "a" 2 2 ++ exchange "a" 3 3 ++ steps "a" 5

def electedWorld : World :=
  ((clusterMachine smallCluster).play (Strict smallCluster) smallStart (election 1)).get
    (by decide +kernel)

theorem elected_run :
    (clusterMachine smallCluster).Run (Strict smallCluster) smallStart electedWorld :=
  Machine.Run.of_play (Option.some_get _).symm

theorem elected_guard_exclusive : electedWorld.Guarded smallCluster.slack "a" ∧
    ∀ other, electedWorld.Guarded smallCluster.slack other → "a" = other := by
  have guarded : electedWorld.Guarded smallCluster.slack "a" := by decide +kernel
  exact ⟨guarded, fun other also => lease_guards_exclusive smallStart_fresh
    (Machine.Run.mono (fun _ _ _ => trivial) elected_run) guarded also⟩

def lost (nodeId : NodeId) : List Happening := steps nodeId 2

/-- "b", which cannot reach "a", is elected by itself and "c". -/
def challenge (request answer : Nat) : List Happening :=
  lost "b" ++ steps "b" 2 ++ exchange "b" request answer ++ steps "b" 4 ++ lost "b" ++
    steps "b" 1 ++ lost "b" ++ steps "b" 2 ++ exchange "b" (request + 3) (answer + 1) ++
    steps "b" 5

/-- The clocks of "b" and "c" come to the next hundredth nine milliseconds before that of "a". -/
def skewedStart : World :=
  { smallStart with
    nodes := fun nodeId => { smallStart.nodes nodeId with boot := if nodeId = "a" then 0 else -9 / 1000 } }

def handoverWorld : World :=
  ((clusterMachine smallCluster).play (fun _ _ => True) skewedStart
    (election 0 ++ [.wait (9991 / 1000)] ++ challenge 5 4)).get (by decide +kernel)

/-- The voters are free while the guard of "a" has nine milliseconds left. -/
theorem guards_overlap : ¬∀ (cluster : Cluster) (start world : World) (first second : NodeId),
    start.Fresh → (clusterMachine cluster).Run (fun _ _ => True) start world →
      world.Guarded 0 first → world.Guarded 0 second → first = second := by
  intro always
  have fresh : skewedStart.Fresh :=
    { smallStart_fresh with
      booted := by
        intro nodeId
        change (if nodeId = "a" then (0 : ℚ) else -9 / 1000) ≤ 0
        split
        · exact le_refl _
        · norm_num }
  have run : (clusterMachine smallCluster).Run (fun _ _ => True) skewedStart handoverWorld :=
    Machine.Run.of_play (Option.some_get _).symm
  have same := always smallCluster skewedStart handoverWorld "a" "b" fresh run (by decide +kernel)
    (by decide +kernel)
  exact absurd same (by decide)

/-- No two nodes lead at once, as long as no round takes up a lease as its own and no voter is asked
for its vote while the last holder of its lease may still take that for unexpired. -/
theorem primaries_exclusive {cluster : Cluster} {start world : World} {first second : NodeId}
    (fresh : start.Fresh) (run : (clusterMachine cluster).Run (Strict cluster) start world)
    (one : world.Leads first) (two : world.Leads second) : first = second := by
  have sound : Sound cluster True world :=
    sound_run fresh (Machine.Run.mono (fun _ _ bound _ => bound) run)
  have backed : ∀ nodeId, world.Leads nodeId → ∃ time, world.now < time ∧
      (world.register.prolonged cluster.respite).Backed cluster.voters nodeId time := by
    intro nodeId leads
    obtain ⟨process, running, valid⟩ := Option.any_eq_true _ _ |>.mp leads
    rw [decide_eq_true_eq] at valid
    change (world.nodes nodeId).reading world.now < _ at valid
    have passing := lt_reading (world.nodes nodeId) world.now
    rcases (sound.candidate nodeId).leader trivial process running with none | backed
    · have passed := reading_nonneg (world.nodes nodeId) (sound.voter nodeId).booted
      linarith
    · refine ⟨_, ?_, Register.backed_prolonged cluster.respite backed⟩
      unfold Cluster.respite
      linarith
  obtain ⟨early, unexpired, front⟩ := backed first one
  obtain ⟨late, valid, back⟩ := backed second two
  exact Register.holder_unique (prolonged_exclusive sound trivial) cluster.voters_nodup front back
    unexpired valid

theorem elected_primary_exclusive : electedWorld.Leads "a" ∧
    ∀ other, electedWorld.Leads other → "a" = other := by
  have leads : electedWorld.Leads "a" := by decide +kernel
  exact ⟨leads, fun other also => primaries_exclusive smallStart_fresh elected_run leads also⟩

/-- The lease of "a" has run out at "a" but not at the other voters: "a" takes it up for a whole
lease more, and "b" is elected once the voters are free. -/
def takeover : List Happening :=
  steps "a" 2 ++ [.wait (19 / 2), .again "a"] ++ steps "a" 2 ++ exchange "a" 4 4 ++
    exchange "a" 5 5 ++ steps "a" 7 ++ [.wait (1 / 2)] ++ challenge 7 6

def splitWorld : World :=
  ((clusterMachine smallCluster).play (fun _ _ => True) electedWorld takeover).get
    (by decide +kernel)

theorem primaries_not_exclusive : ¬∀ (cluster : Cluster) (start world : World)
    (first second : NodeId), start.Fresh →
      (clusterMachine cluster).Run (fun _ _ => True) start world → world.Leads first →
        world.Leads second → first = second := by
  intro always
  have first : (clusterMachine smallCluster).Run (fun _ _ => True) smallStart electedWorld :=
    Machine.Run.mono (fun _ _ _ => trivial) elected_run
  have second : (clusterMachine smallCluster).Run (fun _ _ => True) electedWorld splitWorld :=
    Machine.Run.of_play (Option.some_get _).symm
  have same := always smallCluster smallStart splitWorld "a" "b" smallStart_fresh
    (first.trans second) (by decide +kernel) (by decide +kernel)
  exact absurd same (by decide)

end HashBurst.Ha
