import HashBurst.Lib.Machine
import HashBurst.Lib.PyJson

/-! The connection of the master node to a mining pool: `StratumUpstream` of
`master_node_v220.py`. -/

namespace HashBurst.Master

open Lib Lib.Py

/-- An entry of `_pending_submits`. -/
structure Share where
  worker : Json
  jobId : Json
  nonce : Json
  submittedAt : ℚ

inductive PoolEvent
  | stratumConnected
  | stratumDisconnected (error : String)
  | stratumTx (message : Json)
  | stratumRx (message : Json)
  /-- `share_accepted` or `share_rejected` -/
  | share (accepted : Bool) (share : Share) (requestId response : Json)

inductive PoolFault
  | keyError
  | attributeError
  | typeError
  | connectionError
  | callback
  deriving DecidableEq

/-- `StratumUpstream`, with the events that it has reported, the newest first, and the jobs that its
callbacks were given. -/
structure StratumUpstream where
  writer : Bool := false
  connected : Bool := false
  jobId : Json := .null
  target : Json := .str "f3220000"
  seedHash : Json := .str (String.ofList (List.replicate 64 '0'))
  blob : Json := .str (String.ofList (List.replicate 76 '0'))
  sessionId : Json := .null
  reqId : Nat := 1
  pending : List (Nat × Share) := []
  events : List PoolEvent := []
  jobs : List Dict := []

namespace StratumUpstream

variable (upstream : StratumUpstream)

def event (event : PoolEvent) : StratumUpstream :=
  { upstream with events := event :: upstream.events }

/-- `_send`, up to `drain` -/
def send (message : Json) : StratumUpstream × Except PoolFault Unit :=
  if upstream.writer then (upstream.event (.stratumTx message), .ok ())
  else (upstream, .error .connectionError)

def login (conv : Conversions) (cfg : Dict) : StratumUpstream × Except PoolFault Unit :=
  match cfg.lookup "wallet" with
  | none => (upstream, .error .keyError)
  | some wallet =>
      upstream.send (.obj [("id", .int 1), ("method", .str "login"),
        ("params", .obj [("login", .str (conv.toStr wallet ++ ".master")),
          ("pass", Dict.getD cfg "password" (.str "x")), ("agent", .str "HashBurst-Master/1.1")])])

/-- `_dispatch_job`, where `callbacks` is what the callbacks come to. -/
def dispatchJob (time : ℚ) (callbacks : Except PoolFault Unit) :
    Json → StratumUpstream × Except PoolFault Unit
  | .obj job =>
      let jobId := Dict.getD job "job_id" upstream.jobId
      let blob := Dict.getD job "blob" upstream.blob
      let target := Dict.getD job "target" upstream.target
      let seedHash := Dict.getD job "seed_hash" upstream.seedHash
      let data : Dict :=
        [("job_id", jobId), ("blob", blob), ("seed_hash", seedHash), ("target", target),
          ("height", Dict.getD job "height" (.int 0)), ("coin", .str "XMR"),
          ("timestamp", .float time)]
      ({ upstream with jobId, blob, target, seedHash, jobs := data :: upstream.jobs }, callbacks)
  | _ => (upstream, .error .attributeError)

def waiting (key : Key) : Option (Nat × Share) :=
  upstream.pending.find? fun entry => key = .number entry.1

/-- `not msg.get("error") and msg.get("result") is not None` -/
def isAccepted (message : Dict) : Bool :=
  !(Dict.get message "error").truthy &&
    match Dict.get message "result" with
    | .null => false
    | _ => true

def settle (message : Dict) (requestId : Json) (entry : Nat × Share) : StratumUpstream :=
  { upstream with pending := upstream.pending.filter fun other => other.1 ≠ entry.1 }.event
    (.share (isAccepted message) entry.2 requestId (.obj message))

def handle (time : ℚ) (callbacks : Except PoolFault Unit) :
    Json → StratumUpstream × Except PoolFault Unit
  | .obj message =>
      let msgId := Dict.get message "id"
      if msgId.key = some (.number 1) ∧ (Dict.get message "result").truthy then
        match Dict.get message "result" with
        | .obj result =>
            let logged := { upstream with sessionId := Dict.get result "id" }
            let job := Dict.getD result "job" (.obj [])
            if job.truthy then logged.dispatchJob time callbacks job else (logged, .ok ())
        | _ => (upstream, .error .attributeError)
      else if (Dict.get message "method").isStr "job" then
        upstream.dispatchJob time callbacks (Dict.getD message "params" (.obj []))
      else
        match msgId.key with
        | none => (upstream, .error .typeError)
        | some key =>
            match upstream.waiting key with
            | some entry => (upstream.settle message msgId entry, .ok ())
            | none => (upstream, .ok ())
  | _ => (upstream, .error .attributeError)

/-- What `submit_share` sends. -/
def submitMessage (id : Nat) (jobId nonce result : Json) : Json :=
  .obj [("id", .int id), ("method", .str "submit"),
    ("params", .obj [
      ("id", if upstream.sessionId.truthy then upstream.sessionId else .str "1"),
      ("job_id", jobId), ("nonce", nonce), ("result", result)])]

/-- `_pending_submits[id] = …` -/
def store (id : Nat) (share : Share) : StratumUpstream :=
  { upstream with
    reqId := id
    pending := (upstream.pending.filter fun other => other.1 ≠ id) ++ [(id, share)] }

/-- `submit_share`, up to `drain` -/
def submitShare (worker jobId nonce result : Json) (time : ℚ) :
    StratumUpstream × Except PoolFault Unit :=
  let id := upstream.reqId + 1
  (upstream.store id ⟨worker, jobId, nonce, time⟩).send (upstream.submitMessage id jobId nonce result)

end StratumUpstream

/-- An upstream with the history of its submissions: every share under its id, the ids that were
written to the pool and the ids whose `submit_share` raised. -/
structure PoolLink where
  upstream : StratumUpstream := {}
  receiving : Bool := false
  draining : List Nat := []
  submitted : List (Nat × Share) := []
  written : List Nat := []
  raised : List Nat := []

inductive PoolLabel
  | connect
  | submit (worker jobId nonce result : Json) (time : ℚ)
  | drain (id : Nat) (fails : Bool)
  | receive (message : Json) (time : ℚ) (callbacks : Except PoolFault Unit)
  | drop (error : String)
  | close

namespace PoolLink

variable (link : PoolLink)

/-- The `except` of `connect`, before the writer is closed. -/
def disconnect (error : String) : PoolLink :=
  { link with
    upstream := { link.upstream with connected := false }.event (.stratumDisconnected error)
    receiving := false }

def submit (worker jobId nonce result : Json) (time : ℚ) : PoolLink :=
  let id := link.upstream.reqId + 1
  let submitted := (id, ⟨worker, jobId, nonce, time⟩) :: link.submitted
  match link.upstream.submitShare worker jobId nonce result time with
  | (upstream, .ok ()) =>
      { link with upstream, submitted, draining := id :: link.draining, written := id :: link.written }
  | (upstream, .error _) => { link with upstream, submitted, raised := id :: link.raised }

def connect (conv : Conversions) (cfg : Dict) : PoolLink :=
  let opened := { link.upstream with writer := true, connected := true }
  match (opened.event .stratumConnected).login conv cfg with
  | (upstream, .ok ()) => { link with upstream, receiving := true }
  | (upstream, .error _) => { link with upstream }.disconnect "exception"

/-- A line of `_recv_loop`. -/
def receive (message : Json) (time : ℚ) (callbacks : Except PoolFault Unit) : PoolLink :=
  match (link.upstream.event (.stratumRx message)).handle time callbacks message with
  | (upstream, .ok ()) => { link with upstream }
  | (upstream, .error _) => { link with upstream }.disconnect "exception"

end PoolLink

/-- The connection, the submissions of the workers and what the pool sends, in any order. -/
def poolMachine (conv : Conversions) (cfg : Dict) : Machine PoolLink PoolLabel where
  next link
    | .connect =>
        if link.upstream.writer then none else some (link.connect conv cfg)
    | .submit worker jobId nonce result time =>
        some (link.submit worker jobId nonce result time)
    | .drain id fails =>
        if id ∈ link.draining then
          some { link with
            draining := link.draining.erase id
            raised := if fails then id :: link.raised else link.raised }
        else none
    | .receive message time callbacks =>
        if link.receiving then some (link.receive message time callbacks) else none
    | .drop error =>
        if link.receiving || !link.upstream.writer then some (link.disconnect error) else none
    | .close =>
        if link.upstream.writer && !link.receiving then
          some { link with upstream := { link.upstream with writer := false } }
        else none

section Replies

def RepliesTo (message : Json) (id : Nat) : Prop :=
  ∃ fields, message = .obj fields ∧ (Dict.get fields "id").key = some (.number id) ∧
    (Dict.get fields "method").isStr "job" = false

namespace StratumUpstream

variable (upstream : StratumUpstream) (time : ℚ) (callbacks : Except PoolFault Unit)

/-- The table, its counter, the writer and the events are those of before. -/
structure Same (after : StratumUpstream) : Prop where
  writer : after.writer = upstream.writer
  reqId : after.reqId = upstream.reqId
  pending : after.pending = upstream.pending
  events : after.events = upstream.events

theorem dispatchJob_same (job : Json) :
    upstream.Same (upstream.dispatchJob time callbacks job).1 := by
  cases job with
  | obj fields => exact ⟨rfl, rfl, rfl, rfl⟩
  | _ => exact ⟨rfl, rfl, rfl, rfl⟩

/-- What `_handle` can do with a message. -/
inductive Handled (message : Json) : StratumUpstream × Except PoolFault Unit → Prop
  | passed {after answer} (same : upstream.Same after)
      (others : ∀ id, 1 < id → RepliesTo message id → upstream.waiting (.number id) = none) :
      Handled message (after, answer)
  | settled {fields key entry} (object : message = .obj fields)
      (named : (Dict.get fields "id").key = some key)
      (reply : (Dict.get fields "method").isStr "job" = false)
      (found : upstream.waiting key = some entry) :
      Handled message (upstream.settle fields (Dict.get fields "id") entry, .ok ())

variable {upstream}

theorem Handled.unread {message : Json} {after : StratumUpstream} {answer : Except PoolFault Unit}
    (same : upstream.Same after) (other : ∀ id, 1 < id → ¬RepliesTo message id) :
    upstream.Handled message (after, answer) :=
  .passed same fun id above replies => absurd replies (other id above)

private theorem login_other {fields : Dict} (own : (Dict.get fields "id").key = some (.number 1)) :
    ∀ id, 1 < id → ¬RepliesTo (.obj fields) id := by
  rintro id above ⟨other, same, named, -⟩
  cases same
  rw [own] at named
  have one : (1 : ℚ) = id := Key.number.inj (Option.some.inj named)
  have same : 1 = id := by exact_mod_cast one
  omega

private theorem job_other {fields : Dict} (job : (Dict.get fields "method").isStr "job" = true) :
    ∀ id, 1 < id → ¬RepliesTo (.obj fields) id := by
  rintro id above ⟨other, same, -, reply⟩
  cases same
  rw [job] at reply
  cases reply

private theorem nameless_other {fields : Dict} (own : (Dict.get fields "id").key = none) :
    ∀ id, 1 < id → ¬RepliesTo (.obj fields) id := by
  rintro id above ⟨other, same, named, -⟩
  cases same
  rw [own] at named
  cases named

private theorem value_other {message : Json} (value : ∀ fields, message ≠ .obj fields) :
    ∀ id, 1 < id → ¬RepliesTo message id := by
  rintro id above ⟨fields, same, -⟩
  exact value fields same

theorem handle_handled (message : Json) :
    upstream.Handled message (upstream.handle time callbacks message) := by
  have same : upstream.Same upstream := ⟨rfl, rfl, rfl, rfl⟩
  cases message with
  | obj fields =>
      unfold handle
      dsimp only
      by_cases login : (Dict.get fields "id").key = some (.number 1) ∧
          (Dict.get fields "result").truthy = true
      · rw [if_pos login]
        have other := login_other login.1
        cases Dict.get fields "result" with
        | obj result =>
            dsimp only
            by_cases job : (Dict.getD result "job" (.obj [])).truthy = true
            · rw [if_pos job]
              have kept := dispatchJob_same { upstream with sessionId := Dict.get result "id" } time
                callbacks (Dict.getD result "job" (.obj []))
              exact .unread ⟨kept.writer, kept.reqId, kept.pending, kept.events⟩ other
            · rw [if_neg job]
              exact .unread ⟨rfl, rfl, rfl, rfl⟩ other
        | _ => exact .unread same other
      · rw [if_neg login]
        by_cases job : (Dict.get fields "method").isStr "job" = true
        · rw [if_pos job]
          exact .unread (dispatchJob_same upstream time callbacks _) (job_other job)
        · rw [if_neg job]
          cases named : (Dict.get fields "id").key with
          | none => exact .unread same (nameless_other named)
          | some key =>
              dsimp only
              cases found : upstream.waiting key with
              | some entry => exact .settled rfl named (by simpa using job) found
              | none =>
                  refine .passed same ?_
                  rintro id above ⟨other, own, reply, -⟩
                  cases own
                  rw [named] at reply
                  rw [← Option.some.inj reply]
                  exact found
  | _ => exact .unread same (value_other (by intro fields impossible; cases impossible))

end StratumUpstream

end Replies

section Accounting

def Answered (events : List PoolEvent) (id : Nat) : Prop :=
  ∃ message, .stratumRx message ∈ events ∧ RepliesTo message id

def shareKey : PoolEvent → Option Key
  | .share _ _ requestId _ => requestId.key
  | _ => none

/-- Each share has at most one event, which is about what was submitted under its id. -/
structure PoolLink.Attributed (link : PoolLink) : Prop where
  distinct : (link.submitted.map Prod.fst).Nodup
  once : (link.upstream.events.filterMap shareKey).Nodup
  attributed : ∀ accepted share requestId response,
    .share accepted share requestId response ∈ link.upstream.events →
      ∃ id : Nat, requestId.key = some (.number id) ∧ (id, share) ∈ link.submitted ∧
        id ∈ link.written

/-- The table holds what was sent and is not answered, and nothing of a submission that raised. -/
structure PoolLink.Exact (link : PoolLink) : Prop extends link.Attributed where
  pending : ∀ id share, (id, share) ∈ link.upstream.pending ↔
    (id, share) ∈ link.submitted ∧ id ∈ link.written ∧ ¬Answered link.upstream.events id
  raised : ∀ id ∈ link.raised, ∀ share, (id, share) ∉ link.upstream.pending

def PoolAnswers (link : PoolLink) : PoolLabel → Prop
  | .receive message _ _ => ∀ id, 1 < id → RepliesTo message id → id ∈ link.written
  | _ => True

/-- No submission comes while there is no writer, and none fails before its share is answered. -/
def SendsThrough (link : PoolLink) : PoolLabel → Prop
  | .submit .. => link.upstream.writer = true
  | .drain id fails => fails = true → Answered link.upstream.events id
  | _ => True

structure PoolLink.Tracked (link : PoolLink) : Prop extends link.Attributed where
  counted : 1 ≤ link.upstream.reqId
  fresh : ∀ entry ∈ link.submitted, 1 < entry.1 ∧ entry.1 ≤ link.upstream.reqId
  known : ∀ id ∈ link.written, ∃ share, (id, share) ∈ link.submitted
  heard : ∀ id, 1 < id → Answered link.upstream.events id → id ∈ link.written
  waiting : ∀ entry ∈ link.upstream.pending,
    entry ∈ link.submitted ∧ ¬Answered link.upstream.events entry.1
  answered : ∀ key ∈ link.upstream.events.filterMap shareKey,
    ∃ id : Nat, key = .number id ∧ Answered link.upstream.events id

def Quiet : PoolEvent → Prop
  | .stratumRx _ => False
  | .share .. => False
  | _ => True

theorem answered_append {added events : List PoolEvent} (quiet : ∀ event ∈ added, Quiet event)
    {id : Nat} : Answered (added ++ events) id ↔ Answered events id := by
  constructor
  · rintro ⟨message, listed, replies⟩
    rcases List.mem_append.mp listed with new | old
    · exact (quiet _ new).elim
    · exact ⟨message, old, replies⟩
  · rintro ⟨message, listed, replies⟩
    exact ⟨message, List.mem_append_right _ listed, replies⟩

theorem filterMap_append {added events : List PoolEvent} (quiet : ∀ event ∈ added, Quiet event) :
    (added ++ events).filterMap shareKey = events.filterMap shareKey := by
  rw [List.filterMap_append, List.filterMap_eq_nil_iff.mpr, List.nil_append]
  intro event listed
  cases event with
  | share accepted share requestId response => exact (quiet _ listed).elim
  | _ => rfl

variable {link after : PoolLink} {conv : Conversions} {cfg : Dict}

/-- A step that leaves the submissions alone and adds only quiet events. -/
structure Apart (link after : PoolLink) : Prop where
  submitted : after.submitted = link.submitted
  written : after.written = link.written
  reqId : after.upstream.reqId = link.upstream.reqId
  pending : after.upstream.pending = link.upstream.pending
  events : ∃ added, after.upstream.events = added ++ link.upstream.events ∧
    ∀ event ∈ added, Quiet event

theorem Apart.answered (apart : Apart link after) (id : Nat) :
    Answered after.upstream.events id ↔ Answered link.upstream.events id := by
  rcases apart.events with ⟨added, same, quiet⟩
  rw [same]
  exact answered_append quiet

theorem Apart.tracked (apart : Apart link after) (tracked : link.Tracked) : after.Tracked := by
  rcases apart.events with ⟨added, same, quiet⟩
  have keys : after.upstream.events.filterMap shareKey =
      link.upstream.events.filterMap shareKey := by
    rw [same]
    exact filterMap_append quiet
  constructor
  · constructor
    · rw [apart.submitted]
      exact tracked.distinct
    · rw [keys]
      exact tracked.once
    · intro accepted share requestId response listed
      rw [apart.submitted, apart.written]
      rw [same] at listed
      rcases List.mem_append.mp listed with new | old
      · exact (quiet _ new).elim
      · exact tracked.attributed accepted share requestId response old
  · rw [apart.reqId]
    exact tracked.counted
  · rw [apart.submitted, apart.reqId]
    exact tracked.fresh
  · rw [apart.submitted, apart.written]
    exact tracked.known
  · intro id above answered
    rw [apart.written]
    exact tracked.heard id above ((apart.answered id).mp answered)
  · intro entry waits
    rw [apart.submitted, apart.answered]
    rw [apart.pending] at waits
    exact tracked.waiting entry waits
  · intro key listed
    rw [keys] at listed
    rcases tracked.answered key listed with ⟨id, named, answered⟩
    exact ⟨id, named, (apart.answered id).mpr answered⟩

theorem disconnect_apart (error : String) : Apart link (link.disconnect error) :=
  ⟨rfl, rfl, rfl, rfl, [_], rfl, by simp [Quiet]⟩

theorem Apart.trans {last : PoolLink} (first : Apart link after) (second : Apart after last) :
    Apart link last := by
  rcases first.events with ⟨early, one, quiet⟩
  rcases second.events with ⟨late, two, still⟩
  refine ⟨second.submitted.trans first.submitted, second.written.trans first.written,
    second.reqId.trans first.reqId, second.pending.trans first.pending, late ++ early, ?_, ?_⟩
  · rw [two, one, List.append_assoc]
  · intro event listed
    rcases List.mem_append.mp listed with new | old
    · exact still event new
    · exact quiet event old

private theorem connect_raised : (link.connect conv cfg).raised = link.raised := by
  unfold PoolLink.connect StratumUpstream.login
  cases cfg.lookup "wallet" with
  | none => rfl
  | some wallet => rfl

theorem connect_apart : Apart link (link.connect conv cfg) := by
  unfold PoolLink.connect StratumUpstream.login
  cases cfg.lookup "wallet" with
  | none =>
      have opened : Apart link { link with
          upstream := { link.upstream with writer := true, connected := true }.event
            .stratumConnected } :=
        ⟨rfl, rfl, rfl, rfl, [_], rfl, by simp [Quiet]⟩
      exact opened.trans (disconnect_apart _)
  | some wallet => exact ⟨rfl, rfl, rfl, rfl, [_, .stratumConnected], rfl, by simp [Quiet]⟩

private theorem waiting_le (tracked : link.Tracked) :
    ∀ entry ∈ link.upstream.pending, entry.1 ≤ link.upstream.reqId := by
  intro entry waits
  exact (tracked.fresh entry (tracked.waiting entry waits).1).2

theorem store_pending (tracked : link.Tracked) (share : Share) :
    (link.upstream.store (link.upstream.reqId + 1) share).pending =
      link.upstream.pending ++ [(link.upstream.reqId + 1, share)] := by
  have kept : (link.upstream.pending.filter fun other => other.1 ≠ link.upstream.reqId + 1) =
      link.upstream.pending := by
    apply List.filter_eq_self.mpr
    intro entry waits
    have below := waiting_le tracked entry waits
    apply decide_eq_true
    omega
  unfold StratumUpstream.store
  rw [kept]

structure Submission (link after : PoolLink) (share : Share) (sent : Bool) : Prop where
  submitted : after.submitted = (link.upstream.reqId + 1, share) :: link.submitted
  written : after.written =
    if sent then (link.upstream.reqId + 1) :: link.written else link.written
  raised : after.raised =
    if sent then link.raised else (link.upstream.reqId + 1) :: link.raised
  reqId : after.upstream.reqId = link.upstream.reqId + 1
  pending : after.upstream.pending =
    (link.upstream.store (link.upstream.reqId + 1) share).pending
  events : ∃ added, after.upstream.events = added ++ link.upstream.events ∧
    ∀ event ∈ added, Quiet event

theorem submit_submission (worker jobId nonce result : Json) (time : ℚ) :
    Submission link (link.submit worker jobId nonce result time) ⟨worker, jobId, nonce, time⟩
      link.upstream.writer := by
  unfold PoolLink.submit StratumUpstream.submitShare StratumUpstream.send
  have writer : (link.upstream.store (link.upstream.reqId + 1)
      ⟨worker, jobId, nonce, time⟩).writer = link.upstream.writer := rfl
  dsimp only
  rw [writer]
  cases link.upstream.writer with
  | true => exact ⟨rfl, rfl, rfl, rfl, rfl, [_], rfl, by simp [Quiet]⟩
  | false => exact ⟨rfl, rfl, rfl, rfl, rfl, [], rfl, by simp⟩

theorem Submission.tracked {share : Share} {sent : Bool}
    (submission : Submission link after share sent) (tracked : link.Tracked) : after.Tracked := by
  rcases submission.events with ⟨added, same, quiet⟩
  have answered (id : Nat) : Answered after.upstream.events id ↔
      Answered link.upstream.events id := by
    rw [same]
    exact answered_append quiet
  have keys : after.upstream.events.filterMap shareKey =
      link.upstream.events.filterMap shareKey := by
    rw [same]
    exact filterMap_append quiet
  have grown : ∀ id ∈ link.written, id ∈ after.written := by
    intro id listed
    rw [submission.written]
    cases sent with
    | true => exact List.mem_cons_of_mem _ listed
    | false => exact listed
  have unsent : link.upstream.reqId + 1 ∉ link.written := by
    intro listed
    rcases tracked.known _ listed with ⟨own, found⟩
    have below := (tracked.fresh _ found).2
    dsimp only at below
    omega
  constructor
  · constructor
    · rw [submission.submitted, List.map_cons, List.nodup_cons]
      refine ⟨?_, tracked.distinct⟩
      intro listed
      rcases List.mem_map.mp listed with ⟨entry, found, named⟩
      have below := (tracked.fresh entry found).2
      omega
    · rw [keys]
      exact tracked.once
    · intro accepted own requestId response listed
      rw [same] at listed
      rcases List.mem_append.mp listed with new | old
      · exact (quiet _ new).elim
      · rcases tracked.attributed accepted own requestId response old with ⟨id, named, found, sent⟩
        refine ⟨id, named, ?_, grown id sent⟩
        rw [submission.submitted]
        exact List.mem_cons_of_mem _ found
  · rw [submission.reqId]
    omega
  · rw [submission.submitted, submission.reqId]
    intro entry listed
    rcases List.mem_cons.mp listed with rfl | old
    · have counted := tracked.counted
      dsimp only
      omega
    · have below := tracked.fresh entry old
      omega
  · rw [submission.submitted, submission.written]
    intro id listed
    have cases : id = link.upstream.reqId + 1 ∨ id ∈ link.written := by
      cases sent with
      | true => exact List.mem_cons.mp listed
      | false => exact .inr listed
    rcases cases with rfl | old
    · exact ⟨share, List.mem_cons_self⟩
    · rcases tracked.known id old with ⟨own, found⟩
      exact ⟨own, List.mem_cons_of_mem _ found⟩
  · intro id above heard
    exact grown id (tracked.heard id above ((answered id).mp heard))
  · rw [submission.pending, store_pending tracked, submission.submitted]
    intro entry waits
    rw [answered]
    rcases List.mem_append.mp waits with old | new
    · have held := tracked.waiting entry old
      exact ⟨List.mem_cons_of_mem _ held.1, held.2⟩
    · rw [List.mem_singleton.mp new]
      refine ⟨List.mem_cons_self, ?_⟩
      intro heard
      have counted := tracked.counted
      exact unsent (tracked.heard _ (by omega) heard)
  · intro key listed
    rw [keys] at listed
    rcases tracked.answered key listed with ⟨id, named, heard⟩
    exact ⟨id, named, (answered id).mpr heard⟩

variable {message : Json} {time : ℚ} {callbacks : Except PoolFault Unit}

theorem answered_read {events : List PoolEvent} {id : Nat} :
    Answered (.stratumRx message :: events) id ↔ RepliesTo message id ∨ Answered events id := by
  constructor
  · rintro ⟨own, listed, replies⟩
    rcases List.mem_cons.mp listed with same | old
    · cases same
      exact .inl replies
    · exact .inr ⟨own, old, replies⟩
  · rintro (replies | ⟨own, old, replies⟩)
    · exact ⟨message, List.mem_cons_self, replies⟩
    · exact ⟨own, List.mem_cons_of_mem _ old, replies⟩

theorem answered_share {events : List PoolEvent} {id : Nat} {accepted : Bool} {share : Share}
    {requestId response : Json} :
    Answered (.share accepted share requestId response :: events) id ↔ Answered events id := by
  constructor
  · rintro ⟨own, listed, replies⟩
    rcases List.mem_cons.mp listed with same | old
    · cases same
    · exact ⟨own, old, replies⟩
  · rintro ⟨own, old, replies⟩
    exact ⟨own, List.mem_cons_of_mem _ old, replies⟩

private theorem waiting_entry {upstream : StratumUpstream} {key : Key} {entry : Nat × Share}
    (found : upstream.waiting key = some entry) :
    entry ∈ upstream.pending ∧ key = .number entry.1 := by
  have held := List.find?_some found
  exact ⟨List.mem_of_find?_eq_some found, of_decide_eq_true held⟩

theorem repliesTo_inj {first second : Nat} {fields : Dict}
    (named : (Dict.get fields "id").key = some (.number first))
    (replies : RepliesTo (.obj fields) second) : second = first := by
  rcases replies with ⟨other, same, own, -⟩
  cases same
  rw [named] at own
  have equal : (first : ℚ) = second := Key.number.inj (Option.some.inj own)
  exact_mod_cast equal.symm

theorem read_tracked (tracked : link.Tracked)
    (answers : ∀ id, 1 < id → RepliesTo message id → id ∈ link.written)
    (others : ∀ id, 1 < id → RepliesTo message id → link.upstream.waiting (.number id) = none) :
    { link with upstream := link.upstream.event (.stratumRx message) }.Tracked := by
  constructor
  · constructor
    · exact tracked.distinct
    · exact tracked.once
    · intro accepted share requestId response listed
      rcases List.mem_cons.mp listed with impossible | old
      · cases impossible
      · exact tracked.attributed accepted share requestId response old
  · exact tracked.counted
  · exact tracked.fresh
  · exact tracked.known
  · intro id above answered
    rcases answered_read.mp answered with replies | old
    · exact answers id above replies
    · exact tracked.heard id above old
  · intro entry waits
    have held := tracked.waiting entry waits
    refine ⟨held.1, ?_⟩
    intro answered
    rcases answered_read.mp answered with replies | old
    · have unknown := others entry.1 (tracked.fresh entry held.1).1 replies
      have matches' := List.find?_eq_none.mp unknown entry waits
      exact matches' (decide_eq_true rfl)
    · exact held.2 old
  · intro key listed
    rcases tracked.answered key listed with ⟨id, named, answered⟩
    exact ⟨id, named, answered_read.mpr (.inr answered)⟩

theorem settle_keys {upstream : StratumUpstream} {fields : Dict} {entry : Nat × Share}
    (named : (Dict.get fields "id").key = some (.number entry.1)) :
    ((upstream.event (.stratumRx message)).settle fields (Dict.get fields "id")
      entry).events.filterMap shareKey =
      .number entry.1 :: upstream.events.filterMap shareKey := by
  have key : shareKey (.share (StratumUpstream.isAccepted fields) entry.2
      (Dict.get fields "id") (.obj fields)) = some (.number entry.1) := named
  change List.filterMap shareKey (_ :: _ :: upstream.events) = _
  rw [List.filterMap_cons_some key, List.filterMap_cons_none rfl]

theorem settle_tracked {fields : Dict} {entry : Nat × Share} (tracked : link.Tracked)
    (answers : ∀ id, 1 < id → RepliesTo (.obj fields) id → id ∈ link.written)
    (named : (Dict.get fields "id").key = some (.number entry.1))
    (reply : (Dict.get fields "method").isStr "job" = false)
    (waits : entry ∈ link.upstream.pending) :
    { link with
      upstream := (link.upstream.event (.stratumRx (.obj fields))).settle fields
        (Dict.get fields "id") entry }.Tracked := by
  have replies : RepliesTo (.obj fields) entry.1 := ⟨fields, rfl, named, reply⟩
  have held := tracked.waiting entry waits
  constructor
  · constructor
    · exact tracked.distinct
    · dsimp only
      rw [settle_keys named, List.nodup_cons]
      refine ⟨?_, tracked.once⟩
      intro listed
      rcases tracked.answered _ listed with ⟨id, same, answered⟩
      have equal : (entry.1 : ℚ) = id := Key.number.inj same
      have own : entry.1 = id := by exact_mod_cast equal
      rw [← own] at answered
      exact held.2 answered
    · intro accepted share requestId response listed
      rcases List.mem_cons.mp listed with same | old
      · cases same
        exact ⟨entry.1, named, held.1, answers _ (tracked.fresh entry held.1).1 replies⟩
      · rcases List.mem_cons.mp old with impossible | older
        · cases impossible
        · exact tracked.attributed accepted share requestId response older
  · exact tracked.counted
  · exact tracked.fresh
  · exact tracked.known
  · intro id above answered
    rcases answered_read.mp (answered_share.mp answered) with own | old
    · exact answers id above own
    · exact tracked.heard id above old
  · intro other listed
    rcases List.mem_filter.mp listed with ⟨still, apart⟩
    have kept := tracked.waiting other still
    refine ⟨kept.1, ?_⟩
    intro answered
    rcases answered_read.mp (answered_share.mp answered) with own | old
    · exact of_decide_eq_true apart (repliesTo_inj named own)
    · exact kept.2 old
  · intro key listed
    dsimp only at listed
    rw [settle_keys named] at listed
    rcases List.mem_cons.mp listed with same | old
    · exact ⟨entry.1, same, answered_share.mpr (answered_read.mpr (.inl replies))⟩
    · rcases tracked.answered key old with ⟨id, same, answered⟩
      exact ⟨id, same, answered_share.mpr (answered_read.mpr (.inr answered))⟩

/-- What `receive` does: a message that is passed over, or a share that is settled. -/
theorem receive_cases (link : PoolLink) (message : Json) (time : ℚ)
    (callbacks : Except PoolFault Unit) :
    Apart { link with upstream := link.upstream.event (.stratumRx message) }
        (link.receive message time callbacks) ∧
      (link.receive message time callbacks).raised = link.raised ∧
      (∀ id, 1 < id → RepliesTo message id → link.upstream.waiting (.number id) = none) ∨
    ∃ fields entry, message = .obj fields ∧ entry ∈ link.upstream.pending ∧
      (Dict.get fields "id").key = some (.number entry.1) ∧
      (Dict.get fields "method").isStr "job" = false ∧
      link.receive message time callbacks = { link with
        upstream := (link.upstream.event (.stratumRx (.obj fields))).settle fields
          (Dict.get fields "id") entry } := by
  have handled : (link.upstream.event (.stratumRx message)).Handled message _ :=
    StratumUpstream.handle_handled time callbacks message
  unfold PoolLink.receive
  generalize (link.upstream.event (.stratumRx message)).handle time callbacks message = result
    at handled
  cases handled with
  | @passed after answer same others =>
      have apart : Apart { link with upstream := link.upstream.event (.stratumRx message) }
          { link with upstream := after } :=
        ⟨rfl, rfl, same.reqId, same.pending, [], same.events, by simp⟩
      cases answer with
      | ok done => exact .inl ⟨apart, rfl, others⟩
      | error fault => exact .inl ⟨apart.trans (disconnect_apart _), rfl, others⟩
  | settled object named reply found =>
      cases object
      rcases waiting_entry found with ⟨waits, key⟩
      rw [key] at named
      exact .inr ⟨_, _, rfl, waits, named, reply, rfl⟩

theorem receive_tracked (tracked : link.Tracked)
    (answers : ∀ id, 1 < id → RepliesTo message id → id ∈ link.written) :
    (link.receive message time callbacks).Tracked := by
  rcases receive_cases link message time callbacks with ⟨apart, -, others⟩ |
    ⟨fields, entry, object, waits, named, reply, same⟩
  · exact apart.tracked (read_tracked tracked answers others)
  · rw [same]
    rw [object] at answers
    exact settle_tracked tracked answers named reply waits

theorem tracked_step {label : PoolLabel} (tracked : link.Tracked) (answers : PoolAnswers link label)
    (taken : (poolMachine conv cfg).next link label = some after) : after.Tracked := by
  cases label with
  | connect =>
      rcases Option.ite_none_left_eq_some.mp taken with ⟨-, same⟩
      cases same
      exact connect_apart.tracked tracked
  | submit worker jobId nonce result time =>
      cases taken
      exact (submit_submission worker jobId nonce result time).tracked tracked
  | drain id fails =>
      rcases Option.ite_none_right_eq_some.mp taken with ⟨-, same⟩
      cases same
      refine Apart.tracked ?_ tracked
      exact ⟨rfl, rfl, rfl, rfl, [], rfl, by simp⟩
  | receive message time callbacks =>
      rcases Option.ite_none_right_eq_some.mp taken with ⟨-, same⟩
      cases same
      exact receive_tracked tracked answers
  | drop error =>
      rcases Option.ite_none_right_eq_some.mp taken with ⟨-, same⟩
      cases same
      exact (disconnect_apart error).tracked tracked
  | close =>
      rcases Option.ite_none_right_eq_some.mp taken with ⟨-, same⟩
      cases same
      refine Apart.tracked ?_ tracked
      exact ⟨rfl, rfl, rfl, rfl, [], rfl, by simp⟩

structure PoolLink.Through (link : PoolLink) : Prop where
  sent : ∀ entry ∈ link.submitted, entry.1 ∈ link.written
  kept : ∀ entry ∈ link.submitted, ¬Answered link.upstream.events entry.1 →
    entry ∈ link.upstream.pending
  raised : ∀ id ∈ link.raised, Answered link.upstream.events id

theorem Apart.through (apart : Apart link after) (raised : after.raised = link.raised)
    (through : link.Through) : after.Through := by
  constructor
  · rw [apart.submitted, apart.written]
    exact through.sent
  · intro entry listed
    rw [apart.submitted] at listed
    rw [apart.answered, apart.pending]
    exact through.kept entry listed
  · intro id listed
    rw [raised] at listed
    exact (apart.answered id).mpr (through.raised id listed)

theorem Submission.through {share : Share} (submission : Submission link after share true)
    (tracked : link.Tracked) (through : link.Through) : after.Through := by
  rcases submission.events with ⟨added, same, quiet⟩
  have answered (id : Nat) : Answered after.upstream.events id ↔
      Answered link.upstream.events id := by
    rw [same]
    exact answered_append quiet
  constructor
  · rw [submission.submitted, submission.written, if_pos rfl]
    intro entry listed
    rcases List.mem_cons.mp listed with rfl | old
    · exact List.mem_cons_self
    · exact List.mem_cons_of_mem _ (through.sent entry old)
  · rw [submission.submitted, submission.pending, store_pending tracked]
    intro entry listed unanswered
    rw [answered] at unanswered
    rcases List.mem_cons.mp listed with rfl | old
    · exact List.mem_append_right _ List.mem_cons_self
    · exact List.mem_append_left _ (through.kept entry old unanswered)
  · rw [submission.raised, if_pos rfl]
    intro id listed
    exact (answered id).mpr (through.raised id listed)

theorem settle_through {fields : Dict} {entry : Nat × Share} (through : link.Through)
    (named : (Dict.get fields "id").key = some (.number entry.1))
    (reply : (Dict.get fields "method").isStr "job" = false) :
    { link with
      upstream := (link.upstream.event (.stratumRx (.obj fields))).settle fields
        (Dict.get fields "id") entry }.Through := by
  constructor
  · exact through.sent
  · intro other listed unanswered
    apply List.mem_filter.mpr
    constructor
    · apply through.kept other listed
      intro answered
      exact unanswered (answered_share.mpr (answered_read.mpr (.inr answered)))
    · apply decide_eq_true
      intro same
      apply unanswered
      apply answered_share.mpr
      apply answered_read.mpr
      rw [same]
      exact .inl ⟨fields, rfl, named, reply⟩
  · intro id listed
    exact answered_share.mpr (answered_read.mpr (.inr (through.raised id listed)))

theorem read_through (through : link.Through) :
    { link with upstream := link.upstream.event (.stratumRx message) }.Through := by
  constructor
  · exact through.sent
  · intro entry listed unanswered
    apply through.kept entry listed
    intro answered
    exact unanswered (answered_read.mpr (.inr answered))
  · intro id listed
    exact answered_read.mpr (.inr (through.raised id listed))

theorem through_step {label : PoolLabel} (tracked : link.Tracked) (through : link.Through)
    (sends : SendsThrough link label)
    (taken : (poolMachine conv cfg).next link label = some after) : after.Through := by
  cases label with
  | connect =>
      rcases Option.ite_none_left_eq_some.mp taken with ⟨-, same⟩
      cases same
      exact connect_apart.through connect_raised through
  | submit worker jobId nonce result time =>
      cases taken
      have submission : Submission link (link.submit worker jobId nonce result time) _ _ :=
        submit_submission worker jobId nonce result time
      rw [show link.upstream.writer = true from sends] at submission
      exact submission.through tracked through
  | drain id fails =>
      rcases Option.ite_none_right_eq_some.mp taken with ⟨-, same⟩
      cases same
      refine ⟨through.sent, through.kept, ?_⟩
      intro own listed
      cases fails with
      | false => exact through.raised own listed
      | true =>
          rcases List.mem_cons.mp listed with rfl | old
          · exact sends rfl
          · exact through.raised own old
  | receive message time callbacks =>
      rcases Option.ite_none_right_eq_some.mp taken with ⟨-, same⟩
      cases same
      rcases receive_cases link message time callbacks with ⟨apart, raised, -⟩ |
        ⟨fields, entry, object, waits, named, reply, same⟩
      · exact apart.through raised (read_through through)
      · rw [same]
        exact settle_through through named reply
  | drop error =>
      rcases Option.ite_none_right_eq_some.mp taken with ⟨-, same⟩
      cases same
      exact (disconnect_apart error).through rfl through
  | close =>
      rcases Option.ite_none_right_eq_some.mp taken with ⟨-, same⟩
      cases same
      exact ⟨through.sent, through.kept, through.raised⟩

theorem PoolLink.Tracked.exact (tracked : link.Tracked) (through : link.Through) : link.Exact := by
  refine ⟨tracked.toAttributed, ?_, ?_⟩
  · intro id share
    constructor
    · intro waits
      have held := tracked.waiting (id, share) waits
      exact ⟨held.1, through.sent _ held.1, held.2⟩
    · rintro ⟨listed, -, unanswered⟩
      exact through.kept (id, share) listed unanswered
  · intro id raised share waits
    exact (tracked.waiting (id, share) waits).2 (through.raised id raised)

theorem tracked_start : ({} : PoolLink).Tracked where
  distinct := List.nodup_nil
  once := List.nodup_nil
  attributed _ _ _ _ listed := nomatch listed
  counted := le_refl 1
  fresh _ listed := nomatch listed
  known _ listed := nomatch listed
  heard _ _ answered := nomatch answered
  waiting _ listed := nomatch listed
  answered _ listed := nomatch listed

private theorem through_start : ({} : PoolLink).Through where
  sent _ listed := nomatch listed
  kept _ listed := nomatch listed
  raised _ listed := nomatch listed

/-- Whatever fails, a share has at most one event, which is about what was submitted. -/
theorem shares_attributed (run : (poolMachine conv cfg).Run PoolAnswers {} link) :
    link.Attributed := by
  have tracked : link.Tracked := by
    apply run.invariant PoolLink.Tracked _ tracked_start
    intro before label after tracked answers taken
    exact tracked_step tracked answers taken
  exact tracked.toAttributed

/-- Where the submissions come through, the table is exact in every state of every run. -/
theorem shares_exact
    (run : (poolMachine conv cfg).Run
      (fun link label => PoolAnswers link label ∧ SendsThrough link label) {} link) :
    link.Exact := by
  have both : link.Tracked ∧ link.Through := by
    apply run.invariant (fun link => link.Tracked ∧ link.Through) _ ⟨tracked_start, through_start⟩
    rintro before label after ⟨tracked, through⟩ ⟨answers, sends⟩ taken
    exact ⟨tracked_step tracked answers taken, through_step tracked through sends taken⟩
  exact both.1.exact both.2

end Accounting

def poolConversions : Conversions where
  str _ := ""
  float _ := none
  int _ := none
  error kind _ := kind

def samplePool : Dict := [("wallet", .str "wallet")]

def okReply : Json := .obj [("id", .int 2), ("result", .obj [("status", .str "OK")])]

def openLink : PoolLink := ({} : PoolLink).connect poolConversions samplePool

def sentLink : PoolLink :=
  openLink.submit (.str "worker") (.str "job") (.str "nonce") (.str "result") 0

theorem acceptedLink_exact :
    (poolMachine poolConversions samplePool).Run
      (fun link label => PoolAnswers link label ∧ SendsThrough link label) {}
      (sentLink.receive okReply 0 (.ok ())) ∧
    sentLink.submitted.map Prod.fst = [2] ∧ (sentLink.receive okReply 0 (.ok ())).Exact := by
  have answers : PoolAnswers sentLink (.receive okReply 0 (.ok ())) := by
    intro id _ replies
    have named : (Dict.get [("id", .int 2), ("result", .obj [("status", .str "OK")])] "id").key =
        some (.number ((2 : Nat) : ℚ)) := rfl
    exact List.mem_singleton.mpr (repliesTo_inj named replies)
  let allowed (link : PoolLink) (label : PoolLabel) : Prop :=
    PoolAnswers link label ∧ SendsThrough link label
  have opens : (poolMachine poolConversions samplePool).Step allowed {} openLink :=
    ⟨.connect, ⟨trivial, trivial⟩, rfl⟩
  have sends : (poolMachine poolConversions samplePool).Step allowed openLink sentLink :=
    ⟨.submit (.str "worker") (.str "job") (.str "nonce") (.str "result") 0, ⟨trivial, rfl⟩, rfl⟩
  have accepts : (poolMachine poolConversions samplePool).Step allowed sentLink
      (sentLink.receive okReply 0 (.ok ())) :=
    ⟨.receive okReply 0 (.ok ()), ⟨answers, trivial⟩, rfl⟩
  have run := ((Relation.ReflTransGen.single opens).tail sends).tail accepts
  exact ⟨run, rfl, shares_exact run⟩

/-- Without a writer `submit_share` raises and leaves its entry. -/
theorem unsentShare_left : ∃ link,
    (poolMachine poolConversions samplePool).Run PoolAnswers {} link ∧ ¬link.Exact := by
  refine ⟨({} : PoolLink).submit (.str "worker") (.str "job") (.str "nonce") (.str "result") 0,
    .single ⟨.submit (.str "worker") (.str "job") (.str "nonce") (.str "result") 0, trivial, rfl⟩,
    ?_⟩
  intro exact
  exact exact.raised 2 List.mem_cons_self _ List.mem_cons_self

end HashBurst.Master
