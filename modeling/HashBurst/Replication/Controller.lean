import HashBurst.Replication.Access

/-! The controller over the store: `Controller` (`hb_replication_controller.py`) and
`ControllerV214` (`hb_replication_controller_v214.py`). Every method is the sequence of
store accesses it makes. -/

namespace HashBurst.Replication

open Lib

inductive Mode
  | observe
  | pinOnly
  | full
  deriving DecidableEq, Repr

structure Intervals where
  nodeStale : Int := 90
  verifyInterval : Int := 900
  edgeGrace : Int := 6 * 3600
  committableGrace : Int := 60
  deleteGrace : Int := 900
  deriving DecidableEq, Repr

structure Controller where
  defaultPolicy : PlacementPolicy
  mode : Mode
  unpinEnabled : Bool := false
  intervals : Intervals
  scoring : Scoring

namespace Controller

def init (defaultPolicy : PlacementPolicy) (mode : Mode) (intervals : Intervals)
    (scoring : Scoring) : Except PyError Controller :=
  if mode = .full then .error (.valueError "HB_REPL_MODE must be observe or pin-only")
  else .ok { defaultPolicy, mode, intervals, scoring }

variable (ctl : Controller)

def nodeOnline (node : Node) (now : Int) : Bool :=
  node.enabled && node.lastSeen > 0 && now - node.lastSeen ≤ ctl.intervals.nodeStale

/-- The first of the three times that is set, else `now`. -/
def offlineSince (node : Node) (replica : Replica) (now : Int) : Int :=
  if node.lastSeen ≠ 0 then node.lastSeen
  else if replica.confirmedAt ≠ 0 then replica.confirmedAt
  else if replica.assignedAt ≠ 0 then replica.assignedAt
  else now

/-- How `_classify_observed_replicas` marks a row, if it marks it. -/
def observedMark (now : Int) (node : Option Node) (replica : Replica) :
    Option (ReplicaState × String) :=
  match node with
  | none => some (.missing, "node removed from registry")
  | some node =>
      if ctl.nodeOnline node now then
        if replica.state = .grace then some (.pinned, "") else none
      else if replica.state = .pinned || replica.state = .grace then
        let grace := if replica.classAtAssignment = .bestEffort then ctl.intervals.edgeGrace
          else ctl.intervals.committableGrace
        if now - offlineSince node replica now < grace then
          some (.grace, "node offline within grace")
        else some (.missing, "node offline beyond grace")
      else none

/-- One round of the loop of `_classify_observed_replicas`. -/
def classifyReplica (cid : Cid) (now : Int) (nodes : List Node) (replica : Replica) : Call Unit :=
  match ctl.observedMark now (nodes.find? fun node => node.nodeId = replica.nodeId) replica with
  | none => return ()
  | some (state, error) => Prog.ask (.markReplicaState cid replica.nodeId state error)

def classifyObservedReplicas (cid : Cid) (now : Int) : Call Unit := do
  let rows ← Prog.ask (.replicaRows cid)
  let nodes ← Prog.ask .nodes
  Prog.forEach (ctl.classifyReplica cid now nodes) rows

/-- `_confirmed_counts` without the edge copies: all confirmed, and committable. -/
def confirmedCounts (replicas : List Replica) : Int × Int :=
  let confirmed := replicas.filter Replica.confirmed
  (confirmed.length, confirmed.countP fun replica => replica.classAtAssignment = .committable)

def graceCounts (replicas : List Replica) : Int × Int :=
  let grace := replicas.filter fun replica => replica.desired && replica.state = .grace
  (grace.length, grace.countP fun replica => replica.classAtAssignment = .committable)

def policyOf (object : Object) : PlacementPolicy where
  replicationN := object.replicationN
  committableM := object.committableM
  preferEdgeForExtra := ctl.defaultPolicy.preferEdgeForExtra
  safetyMarginBytes := ctl.defaultPolicy.safetyMarginBytes

def onlineNodes (now : Int) (nodes : List Node) : List OnlineNode :=
  nodes.map fun node => { node with online := ctl.nodeOnline node now }

def currentNodeIds (replicas : List Replica) : List NodeId :=
  (replicas.filter Replica.desired).map Replica.nodeId

def picks (cid : Cid) (now : Int) (object : Object) (replicas : List Replica) (nodes : List Node)
    (load : PlacementLoad) : Except PyError (List OnlineNode) :=
  let (total, comm) := confirmedCounts replicas
  let (graceTotal, graceComm) := graceCounts replicas
  choosePlacements ctl.scoring cid object.sizeBytes (ctl.onlineNodes now nodes)
    (currentNodeIds replicas) (comm + graceComm) (total + graceTotal) load (ctl.policyOf object)

def verifyDue (now : Int) (nodes : List OnlineNode) (replica : Replica) : Bool :=
  replica.state = .pinned && replica.desired &&
    (nodes.find? fun node => node.nodeId = replica.nodeId).any OnlineNode.online &&
    now - replica.lastVerifiedAt ≥ ctl.intervals.verifyInterval

def verifyReplica (cid : Cid) (now : Int) (object : Object) (nodes : List OnlineNode)
    (replica : Replica) : Call Unit :=
  if ctl.verifyDue now nodes replica then do
    let generation := if replica.generation ≠ 0 then replica.generation else object.generation
    let _ ← Prog.attempt (.createVerifyJob cid replica.nodeId generation)
    return ()
  else return ()

def assignPin (cid : Cid) (node : OnlineNode) : Call Unit := do
  let _ ← Prog.attempt (.createPinAssignment cid node.nodeId node.capacityClass)
  return ()

/-- The state and reason that the last lines of `reconcile_cid` write. -/
def health (policy : PlacementPolicy) (replicas : List Replica) : ObjectState × String :=
  let (total, comm) := confirmedCounts replicas
  if comm < policy.committableM then
    (.degradedCommittable, s!"confirmed_committable={comm} required={policy.committableM}")
  else if total < policy.replicationN then
    if replicas.any fun replica => replica.state = .grace then
      (.degradedTotal, "replica offline within grace")
    else (.degradedTotal, s!"confirmed_total={total} target={policy.replicationN}")
  else (.healthy, "")

/-- What `reconcile_cid` does in a mode that repairs. -/
def repair (cid : Cid) (now : Int) (object : Object) (replicas : List Replica) (nodes : List Node)
    (chosen : List OnlineNode) : Call Unit := do
  Prog.forEach (assignPin cid) chosen
  Prog.forEach (ctl.verifyReplica cid now object (ctl.onlineNodes now nodes)) replicas

def reportHealth (cid : Cid) (object : Object) : Call Unit := do
  let replicas ← Prog.ask (.replicaRows cid)
  let (state, reason) := health (ctl.policyOf object) replicas
  Prog.ask (.updateObjectHealth cid state reason)

/-- `reconcile_cid` after it has classified the replicas. -/
def reconcileClassified (cid : Cid) (now : Int) : Call Unit := do
  match ← Prog.ask (.object cid) with
  | none => return ()
  | some (object, replicas) =>
      let nodes ← Prog.ask .nodes
      let load ← Prog.ask .placementLoad
      let chosen ← Prog.ofExcept (ctl.picks cid now object replicas nodes load)
      if ctl.mode = .pinOnly then ctl.repair cid now object replicas nodes chosen
      ctl.reportHealth cid object

def reconcileCid (cid : Cid) : Call Unit := do
  let now ← Prog.ask .time
  match ← Prog.ask (.object cid) with
  | none => return ()
  | some (object, _) =>
      if object.refcount = 0 then return ()
      else do
        ctl.classifyObservedReplicas cid now
        ctl.reconcileClassified cid now

end Controller

namespace ControllerV214

/-- The base class is told "pin-only" for the mode "full", then the attribute is set again. -/
def init (defaultPolicy : PlacementPolicy) (mode : Mode) (unpinEnabled : Bool)
    (intervals : Intervals) (scoring : Scoring) : Except PyError Controller := do
  let base ← Controller.init defaultPolicy (if mode = .full then .pinOnly else mode) intervals
    scoring
  return { base with mode, unpinEnabled }

variable (ctl : Controller)

def planRelease (object : Object) (replica : Replica) : Call Unit :=
  if replica.state = .unpinned then return ()
  else do
    let _ ← Prog.attempt (.createUnpinJob object.cid replica.nodeId object.generation
      ReplicationDBV214.finalReason (object.releasedAt + ctl.intervals.deleteGrace))
    return ()

def planFinalRelease (object : Object) (replicas : List Replica) (now : Int) : Call Unit :=
  if ctl.mode ≠ .full || !ctl.unpinEnabled then return ()
  else if object.releasedAt = 0 || now < object.releasedAt + ctl.intervals.deleteGrace then
    return ()
  else Prog.forEach (planRelease ctl object) replicas

/-- The order in which `_plan_trim` tries the replicas. -/
def trimBefore (first second : Replica) : Bool :=
  let rank (replica : Replica) : Nat := if replica.classAtAssignment = .bestEffort then 0 else 1
  rank first < rank second || (rank first = rank second &&
    (first.lastVerifiedAt < second.lastVerifiedAt ||
      (first.lastVerifiedAt = second.lastVerifiedAt && first.nodeId ≤ second.nodeId)))

/-- The loop of `_plan_trim`; the numbers are `remove` and `comm_after_active`. -/
def trimLoop (object : Object) : List Replica → Int → Int → Call Unit
  | [], _, _ => return ()
  | replica :: rest, remove, comm =>
      let isComm := ReplicationDBV214.isCommittable replica
      if remove ≤ 0 then return ()
      else if isComm && comm - 1 < object.committableM then trimLoop object rest remove comm
      else do
        match ← Prog.attempt (.createUnpinJob object.cid replica.nodeId object.generation
          ReplicationDBV214.trimReason 0) with
        | some _ => trimLoop object rest (remove - 1) (if isComm then comm - 1 else comm)
        | none => trimLoop object rest remove comm

def planTrim (object : Object) (replicas : List Replica) : Call Unit :=
  if ctl.mode ≠ .full || !ctl.unpinEnabled || object.refcount = 0 then return ()
  else
    let pinned := replicas.filter Replica.confirmed
    if (pinned.length : Int) ≤ object.replicationN then return ()
    else do
      let active ← Prog.ask (.activeUnpinNodes object.cid ReplicationDBV214.trimReason)
      let remove : Int := max 0 (pinned.length - object.replicationN - active.dedup.length)
      if remove ≤ 0 then return ()
      else
        let comm : Int := pinned.countP ReplicationDBV214.isCommittable
        let activeComm : Int := pinned.countP fun replica =>
          replica.nodeId ∈ active && ReplicationDBV214.isCommittable replica
        let candidates := (pinned.filter fun replica => replica.nodeId ∉ active).insertionSort
          fun first second => trimBefore first second
        trimLoop object candidates remove (comm - activeComm)

def reconcileCid (cid : Cid) : Call Unit := do
  match ← Prog.ask (.object cid) with
  | none => return ()
  | some (object, replicas) =>
      if object.refcount = 0 then
        let now ← Prog.ask .time
        planFinalRelease ctl object replicas now
      else do
        ctl.reconcileCid cid
        match ← Prog.ask (.object cid) with
        | none => return ()
        | some (object, replicas) => planTrim ctl object replicas

end ControllerV214

end HashBurst.Replication
