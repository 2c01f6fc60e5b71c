import HashBurst.Lib.Lease
import HashBurst.Lib.Machine
import HashBurst.Ha.Loop

/-! A cluster of agents: their processes, clocks and files, and the messages between them.

Requests are never taken out of flight, so that each may arrive late, twice or not at all. -/

namespace HashBurst.Ha

open Lib

/-- The guard file; `holder` and `cluster_id` are the node's own. -/
structure GuardFile where
  clusterId : String
  holder : NodeId
  term : Int
  bootDeadline : ℚ
  deriving DecidableEq, Repr

/-- A running agent: `awaiting` is the request whose answer its loop waits for, `admitted` are
the requests that have passed the restart guard. -/
structure Process where
  engine : Engine
  loop : Loop Unit
  awaiting : Option Nat := none
  admitted : List Nat := []

/-- `boot` is the time at which the node's uptime was zero. -/
structure Node where
  boot : ℚ
  votes : VoteState
  guardFile : Option GuardFile := none
  process : Option Process := none

structure Request where
  sender : NodeId
  target : NodeId
  payload : Payload
  sentAt : ℚ
  deriving DecidableEq, Repr

/-- `register` holds the time and, as a history, the leases that voters have granted; `replies`
are the answers, each with the number of its request. -/
structure World where
  register : Register NodeId NodeId ℚ
  nodes : NodeId → Node
  requests : List Request := []
  replies : List (Nat × Reply) := []

structure Surroundings where
  eligibility : Except Failure (Bool × List String) := .ok (true, [])
  outcome : Except Failure Unit := .ok ()
  answer : Option Nat := none

inductive Happening
  | wait (seconds : ℚ)
  | start (nodeId : NodeId)
  | stop (nodeId : NodeId)
  | reboot (nodeId : NodeId)
  /-- The loop of the node makes its next operation. -/
  | loop (nodeId : NodeId) (around : Surroundings)
  /-- The loop of the node comes round. -/
  | again (nodeId : NodeId)
  /-- A request reaches the agent of its target. -/
  | arrive (request : Nat)
  /-- An admitted request is handled; the process may die between its vote and its answer. -/
  | handle (request : Nat)
  | dieVoting (request : Nat)

namespace World

variable (cluster : Cluster) (world : World)

abbrev now : ℚ := world.register.now

def uptime (nodeId : NodeId) : ℚ := world.now - (world.nodes nodeId).boot

def bootSeconds (nodeId : NodeId) : ℚ := bootReading (world.uptime nodeId)

def setNode (nodeId : NodeId) (node : Node) : World :=
  { world with nodes := Function.update world.nodes nodeId node }

def setProcess (nodeId : NodeId) (process : Process) : World :=
  world.setNode nodeId { world.nodes nodeId with process := some process }

def Request.source (cluster : Cluster) (request : Request) : Source where
  nodeId := request.sender
  peerId := cluster.peerId request.sender

def leasesOf (voter : NodeId) (boot : ℚ) (engine : Engine) (reply : Reply) :
    List (Lease NodeId NodeId ℚ) :=
  if reply.granted then
    [{ voter, holder := engine.voterHolder, expires := boot + engine.voterDeadline }]
  else []

def handleAt (nodeId : NodeId) (engine : Engine) (source : Source) (payload : Payload) :
    World × Engine × Except HaError Reply :=
  let node := world.nodes nodeId
  match LeaseEngine.handleTep (cluster.config nodeId) (world.bootSeconds nodeId) source payload
      node.votes engine with
  | .error failure => (world, engine, .error failure)
  | .ok (votes, engine, reply) =>
      let leases := leasesOf nodeId node.boot engine reply ++ world.register.leases
      ({ world.setNode nodeId { node with votes } with
          register := { world.register with leases } },
        engine, .ok reply)

def localOp {β : Type} (nodeId : NodeId) (process : Process) (around : Surroundings) :
    LoopOp β → Option (World × Process × β)
  | .bootSeconds => some (world, process, world.bootSeconds nodeId)
  | .rpc _ _ => none
  | .restartGuard payload =>
      some (world, process, LeaseEngine.restartGuard (cluster.config nodeId)
        (world.bootSeconds nodeId) ⟨nodeId, "local-self"⟩ payload (world.nodes nodeId).votes
        process.engine)
  | .handleTep payload =>
      let (world, engine, answer) :=
        world.handleAt cluster nodeId process.engine ⟨nodeId, "local-self"⟩ payload
      some (world, { process with engine }, answer.mapError fun error => ⟨"HaError", error.message⟩)
  | .checkEligibility =>
      let engine :=
        match around.eligibility with
        | .ok found => { process.engine with eligibilityState := found }
        | .error _ => process.engine
      some (world, { process with engine }, around.eligibility)
  | .setClusterView view =>
      some (world, { process with engine := { process.engine with clusterView := some view } }, ())
  | .leaderTerm => some (world, process, process.engine.leaderTerm)
  | .leaderDeadline => some (world, process, process.engine.leaderDeadline)
  | .setLeaderTerm term =>
      some (world, { process with engine := { process.engine with leaderTerm := term } }, ())
  | .adopt term =>
      some (world, { process with engine := { process.engine with leaderTerm := term } }, ())
  | .setLeaderDeadline deadline =>
      some (world,
        { process with engine := { process.engine with leaderDeadline := deadline } }, ())
  | .withdraw _ =>
      some (world, { process with engine := { process.engine with leaderDeadline := 0 } }, ())
  | .writeGuard term =>
      let guardFile : GuardFile :=
        { clusterId := (cluster.config nodeId).clusterId, holder := nodeId, term
          bootDeadline := process.engine.leaderDeadline }
      match around.outcome with
      | .ok () =>
          some (world.setNode nodeId { world.nodes nodeId with guardFile := some guardFile },
            process, .ok ())
      | .error failure => some (world, process, .error failure)
  | .clearGuard =>
      match around.outcome with
      | .ok () =>
          some (world.setNode nodeId { world.nodes nodeId with guardFile := none }, process, .ok ())
      | .error failure => some (world, process, .error failure)
  | .setPrimary =>
      some (world, { process with engine := { process.engine with desired := .primary } },
        around.outcome)
  | .setStandby =>
      some (world, { process with engine := { process.engine with desired := .standby } },
        around.outcome)
  | .setLastError text =>
      some (world, { process with engine := { process.engine with lastError := text } }, ())

def unavailable : Failure where
  name := "HaError"
  text := "local TEP IPC unavailable"

/-- The answer that a waiting loop gets: a reply to its request, or the failure of the call. -/
def answerTo (request : Nat) : Option Nat → Option (Except Failure Reply)
  | none => some (.error unavailable)
  | some index =>
      match world.replies[index]? with
      | some (answered, reply) => if answered = request then some (.ok reply) else none
      | none => none

def loopStep (nodeId : NodeId) (process : Process) (around : Surroundings) : Option World :=
  match process.loop with
  | .ret _ => none
  | .fail _ => none
  | .call (.rpc target payload) next =>
      match process.awaiting with
      | none =>
          let request : Request := { sender := nodeId, target, payload, sentAt := world.now }
          some { world.setProcess nodeId { process with awaiting := some world.requests.length } with
            requests := world.requests ++ [request] }
      | some request =>
          (world.answerTo request around.answer).map fun answer =>
            world.setProcess nodeId { process with awaiting := none, loop := next answer }
  | .call op next =>
      (world.localOp cluster nodeId process around op).map fun (world, process, answer) =>
        world.setProcess nodeId { process with loop := next answer }

/-- A process that starts, with `run_once` ahead. -/
def started (nodeId : NodeId) : Process where
  engine := LeaseEngine.start (cluster.config nodeId) (world.bootSeconds nodeId)
    (world.nodes nodeId).votes
  loop := LeaseEngine.runOnce (cluster.config nodeId)

/-- The agent of the request's target passes it on or answers it. -/
def arrive (number : Nat) (request : Request) (process : Process) : World :=
  match LeaseEngine.restartGuard (cluster.config request.target)
      (world.bootSeconds request.target) (Request.source cluster request) request.payload
      (world.nodes request.target).votes process.engine with
  | some reply => { world with replies := world.replies ++ [(number, reply)] }
  | none =>
      world.setProcess request.target { process with admitted := number :: process.admitted }

def answered (number : Nat) : Except HaError Reply → List (Nat × Reply)
  | .ok reply => [(number, reply)]
  | .error _ => []

def handle (number : Nat) (request : Request) (process : Process) : World :=
  let (after, engine, answer) := world.handleAt cluster request.target process.engine
    (Request.source cluster request) request.payload
  { after.setProcess request.target
      { process with engine, admitted := process.admitted.erase number } with
    replies := world.replies ++ answered number answer }

def dieVoting (request : Request) (process : Process) : World :=
  let node := world.nodes request.target
  match LeaseEngine.handleTep (cluster.config request.target) (world.bootSeconds request.target)
      (Request.source cluster request) request.payload node.votes process.engine with
  | .ok (votes, _, _) => world.setNode request.target { node with votes, process := none }
  | .error _ => world.setNode request.target { node with process := none }

end World

def World.admittedBy (world : World) (number : Nat) : Option (Request × Process) :=
  world.requests[number]?.bind fun request =>
    ((world.nodes request.target).process.filter fun process => number ∈ process.admitted).map
      fun process => (request, process)

def clusterMachine (cluster : Cluster) : Machine World Happening where
  next world
    | .wait seconds =>
        if 0 ≤ seconds then
          some { world with register := { world.register with now := world.now + seconds } }
        else none
    | .start nodeId =>
        if (world.nodes nodeId).process.isNone then
          some (world.setProcess nodeId (world.started cluster nodeId))
        else none
    | .stop nodeId =>
        some (world.setNode nodeId { world.nodes nodeId with process := none })
    | .reboot nodeId =>
        some (world.setNode nodeId
          { world.nodes nodeId with boot := world.now, guardFile := none, process := none })
    | .loop nodeId around =>
        (world.nodes nodeId).process.bind fun process =>
          world.loopStep cluster nodeId process around
    | .again nodeId =>
        (world.nodes nodeId).process.bind fun process =>
          match process.loop with
          | .ret _ =>
              some (world.setProcess nodeId
                { process with loop := LeaseEngine.runOnce (cluster.config nodeId) })
          | _ => none
    | .arrive number =>
        world.requests[number]?.bind fun request =>
          (world.nodes request.target).process.map fun process =>
            world.arrive cluster number request process
    | .handle number =>
        (world.admittedBy number).map fun (request, process) =>
          world.handle cluster number request process
    | .dieVoting number =>
        (world.admittedBy number).map fun (request, process) =>
          world.dieVoting cluster request process

/-- No agent runs, no message is in flight, no lease is granted and no guard file is left; the
votes may be any that agents write. -/
structure World.Fresh (world : World) : Prop where
  booted : ∀ nodeId, (world.nodes nodeId).boot ≤ world.now
  voted : ∀ nodeId, (world.nodes nodeId).votes.votedFor ≠ "" → 0 < (world.nodes nodeId).votes.term
  down : ∀ nodeId, (world.nodes nodeId).process = none
  unguarded : ∀ nodeId, (world.nodes nodeId).guardFile = none
  quiet : world.requests = [] ∧ world.replies = [] ∧ world.register.leases = []

end HashBurst.Ha
