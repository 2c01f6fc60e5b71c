import HashBurst.Agent.Ipfs

/-! The jobs of a replica agent (`execute_job` in `hb_replica_agent.py` and
`hb_replica_agent_v214.py`). -/

namespace HashBurst.Agent

open Lib Lib.Py

structure Report where
  jobId : String
  state : String
  leaseUntil : Int
  error : Option String := none
  deriving DecidableEq

/-- The settings of an agent; `allowUnpin` is `HB_REPL_ALLOW_UNPIN=1`. -/
structure Settings where
  nodeId : String
  allowUnpin : Bool := false
  py : Python

/-- A report of the state that the body comes to, or of its exception. -/
def reporting (jobId : String) (leaseUntil : Int) (body : Program String) : Program Report :=
  (body >>= fun state => Prog.ret { jobId, state, leaseUntil }).handle fun failure =>
    .ret { jobId, state := "failed", leaseUntil, error := some (clip 500 failure.message) }

/-- `int(job.get("lease_until") or 0)` stands before the `try`: its exceptions are not reported. -/
def leased (py : Python) (job : Dict) (rest : Int → Program Report) : Program Report :=
  match py.conv.intOrZero (job.get "lease_until") with
  | .error message => .fail (.other message)
  | .ok leaseUntil => rest leaseUntil

variable (agent : Settings)

def performBase (operation cid : String) : Program String :=
  if operation = "PIN" then do
    let _ ← pin agent.py cid
    if ← isPinned agent.py cid then return "pinned"
    else .fail (.ipfs "pin/add returned but pin/ls did not confirm recursive pin")
  else if operation = "VERIFY" then do
    if ← isPinned agent.py cid then return "verified"
    else .fail (.ipfs "CID is not recursively pinned")
  else if operation = "UNPIN" then
    if agent.allowUnpin then do
      let _ ← unpin agent.py cid
      return "verified"
    else .fail (.other "UNPIN disabled by HB_REPL_ALLOW_UNPIN=0")
  else .fail (.other s!"unsupported operation: {operation}")

def authorization (cid : String) (answer : Except String Json) : Except Failure Unit := do
  let auth ←
    match answer with
    | .error message => .error (.other message)
    | .ok data => dictOf agent.py data
  if !(auth.get "authorized").truthy then
    .error (.other ("controller denied UNPIN: " ++ agent.py.conv.strOr (auth.get "reason") "denied"))
  else if agent.py.conv.strOr (auth.get "cid") "" ≠ cid then
    .error (.other "controller UNPIN authorization CID mismatch")
  else return ()

def performUnpin (jobId cid : String) (leaseUntil : Int) : Program String :=
  if !agent.allowUnpin then .fail (.other "UNPIN disabled by HB_REPL_ALLOW_UNPIN=0")
  else
    .call (.authorizeUnpin agent.nodeId jobId leaseUntil) fun answer => do
      let _ ← Prog.ofExcept (authorization agent cid answer)
      if ← isPinned agent.py cid then do
        let _ ← unpin agent.py cid
        if ← isPinned agent.py cid then
          .fail (.other "pin/rm returned but recursive pin still exists")
        else return "unpinned"
      else return "unpinned"

def performVerify (cid : String) : Program String := do
  if ← isPinned agent.py cid then return "verified" else return "unpinned"

def executeJob (job : Dict) : Program Report :=
  let conv := agent.py.conv
  let operation := conv.strOr (job.get "operation") ""
  let jobId := conv.strOr (job.get "job_id") ""
  let cid := conv.strOr (job.get "cid") ""
  leased agent.py job fun leaseUntil =>
    reporting jobId leaseUntil <|
      if operation = "UNPIN_VERIFY" then performVerify agent cid
      else if operation ≠ "UNPIN" then performBase agent operation cid
      else performUnpin agent jobId cid leaseUntil

end HashBurst.Agent
