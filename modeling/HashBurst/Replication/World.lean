import HashBurst.Lib.Threads
import HashBurst.Replication.Calls

/-! A controller, its store and the copies that the storage nodes really pin: what an agent
removes under an authorization, what is lost on the way, and what the record says of it. -/

namespace HashBurst.Replication

open Lib ReplicationDBV214

/-- A positive answer of `authorize_unpin` that its agent may still act on. -/
structure Grant where
  jobId : JobId
  cid : Cid
  nodeId : NodeId
  deriving DecidableEq, Repr

/-- `pins` are the contents that the IPFS nodes pin. -/
structure World where
  pool : Pool Db Op PyError Unit Event
  pins : List (Cid × NodeId)
  grants : List Grant

abbrev World.db (world : World) : Db := world.pool.shared

inductive Happening
  /-- A thread of the controller starts a call or makes its next access. -/
  | control (label : Pool.Label Event Int)
  /-- The controller process starts again; its store is on disk. -/
  | restart
  | pinAdd (cid : Cid) (nodeId : NodeId)
  /-- The agent of the grant runs `pin/rm`, once. -/
  | pinRm (grant : Grant)
  /-- The answer is lost, or the agent dies or gives up before `pin/rm`. -/
  | lose (grant : Grant)

def grantedBy (now : Int) (db : Db) : Call Unit → Option Grant
  | .call (.authorizeUnpin nodeId jobId leaseUntil) _ =>
      match (authorizeUnpin now nodeId jobId leaseUntil db).2 with
      | .granted cid _ => some { jobId, cid, nodeId }
      | .denied _ => none
  | _ => none

/-- What is left of the program of the thread that makes the step. -/
def steppedBy (pool : Pool Db Op PyError Unit Event) :
    Pool.Label Event Int → Option (Int × Call Unit)
  | .start _ => none
  | .step index now => (pool.threads[index]?).map fun thread => (now, thread.rest)

def worldMachine : Machine World Happening where
  next world
    | .control label =>
        ((Pool.machine runOp Event.program).next world.pool label).map fun pool =>
          { world with
            pool
            grants := ((steppedBy world.pool label).bind fun (now, rest) =>
              grantedBy now world.db rest).toList ++ world.grants }
    | .restart => some { world with pool := { world.pool with threads := [] } }
    | .pinAdd cid nodeId => some { world with pins := (cid, nodeId) :: world.pins }
    | .pinRm grant =>
        if grant ∈ world.grants then
          some { world with
            pins := world.pins.filter fun pin => pin ≠ (grant.cid, grant.nodeId)
            grants := world.grants.erase grant }
        else none
    | .lose grant => some { world with grants := world.grants.erase grant }

def World.fresh (pins : List (Cid × NodeId)) : World where
  pool := { shared := Db.empty, threads := [] }
  pins
  grants := []

def World.pinned (world : World) (cid : Cid) (nodeId : NodeId) : Bool :=
  decide ((cid, nodeId) ∈ world.pins)

/-- The node pins the content and no agent may still remove it. -/
def World.safe (world : World) (cid : Cid) (nodeId : NodeId) : Bool :=
  world.pinned cid nodeId &&
    world.grants.all fun grant => !(grant.cid = cid && grant.nodeId = nodeId)

def Db.live (db : Db) (cid : Cid) : Bool := (db.object cid).any fun object => object.refcount ≠ 0

/-- The record counts a copy on the node, now or once the node is back. -/
def Db.counts (db : Db) (cid : Cid) (nodeId : NodeId) : Bool :=
  db.live cid && (db.replica cid nodeId).any fun replica => replica.desired && replica.settled

def Job.trims (job : Job) (cid : Cid) (nodeId : NodeId) : Bool :=
  job.cid = cid && job.nodeId = nodeId && job.operation = .unpin && job.reason = trimReason &&
    job.state = .authorized

def Db.trimming (db : Db) (cid : Cid) (nodeId : NodeId) : Bool :=
  db.jobs.rows.any fun job => job.trims cid nodeId

end HashBurst.Replication
