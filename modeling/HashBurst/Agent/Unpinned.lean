import HashBurst.Agent.Jobs

namespace HashBurst.Agent

open Lib Lib.Py

def KuboCall.cid : KuboCall → String
  | pinAdd cid => cid
  | pinLs cid => cid
  | pinRm cid => cid

/-- The text of an error of `pin/ls` with which Kubo denies the pin. -/
def notPinned (text : String) : Bool := decide ("not pinned".toList <:+: text.toList)

/-- Whether a reply shows that the CID is not recursively pinned; `none` where Kubo has not
answered, or with a body that cannot be parsed. -/
def KuboCall.shows (py : Python) : KuboCall → Reply → Option Bool
  | pinLs cid, .body raw =>
      match py.parse raw with
      | .json data =>
          match recursivelyPinned py cid data with
          | .ok pinned => some !pinned
          | .error _ => some false
      | _ => none
  | pinLs _, .httpError _ text => some (notPinned text)
  | pinRm _, .body _ => some true
  | pinRm _, .httpError _ _ => some false
  | pinAdd _, .body _ => some false
  | pinAdd _, .httpError _ _ => some false
  | _, .unreachable _ => none
  | _, .raised _ => none

def lastAnswer (py : Python) (cid : String) (log : Log) : Option Bool :=
  (log.filterMap fun entry =>
    if entry.1.cid = cid then entry.1.shows py entry.2 else none).getLast?

section Job

variable (agent : Settings) (job : Dict) (scene : Scene)

def jobOperation : String := agent.py.conv.strOr (job.get "operation") ""

def jobCid : String := agent.py.conv.strOr (job.get "cid") ""

/-- `unpinned` is reported only if Kubo's last answer has shown it. -/
def NoDoubt : Prop :=
  let done := (executeJob agent job).exec runOp scene []
  ∀ report, done.2 = .ok report → report.state = "unpinned" →
    lastAnswer agent.py (jobCid agent job) done.1 = some true

/-- No connection to Kubo, or a body that is no JSON. -/
def Reply.silent (py : Python) : Reply → Bool
  | .body raw =>
      match py.parse raw with
      | .invalid => true
      | _ => false
  | .unreachable _ => true
  | _ => false

/-- An error of `pin/ls` with another text than that the CID is not pinned. -/
def Reply.stray : Reply → Bool
  | .httpError _ text => !notPinned text
  | _ => false

def Reply.isBody : Reply → Bool
  | .body _ => true
  | _ => false

def Reply.isRaised : Reply → Bool
  | .raised _ => true
  | _ => false

def Asks : Prop :=
  (∃ leaseUntil, agent.py.conv.intOrZero (job.get "lease_until") = .ok leaseUntil) ∧
    (jobOperation agent job = "UNPIN_VERIFY" ∨
      (jobOperation agent job = "UNPIN" ∧ agent.allowUnpin = true ∧
        authorization agent (jobCid agent job) scene.authorize = .ok ()))

/-- The second `pin/ls` of an UNPIN is answered, or Kubo has answered the `pin/rm`. -/
def Confirmed (py : Python) (removed second : Reply) : Prop :=
  removed.isRaised = false → second.stray = false ∧ (second.silent py = true → removed.isBody = true)

/-- The CID is named and each `pin/ls` that counts is answered. -/
def Settled : Prop :=
  Asks agent job scene →
    jobCid agent job ≠ "" ∧ (scene.kubo 0).silent agent.py = false ∧ (scene.kubo 0).stray = false ∧
      (jobOperation agent job = "UNPIN" →
        reading agent.py (jobCid agent job) (scene.kubo 0) = .ok true →
          Confirmed agent.py (scene.kubo 1) (scene.kubo 2))

end Job

section Readings

variable {py : Python} {cid : String} {reply : Reply}

/-- `is_pinned` is False on an answer that shows it, on silence, and on any error of Kubo. -/
theorem reading_false_iff : reading py cid reply = .ok false ↔
    (KuboCall.pinLs cid).shows py reply = some true ∨ reply.silent py = true ∨
      reply.stray = true := by
  cases reply with
  | body raw =>
      simp only [reading, received, KuboCall.shows, Reply.silent, Reply.stray]
      cases py.parse raw with
      | json data =>
          simp only
          cases recursivelyPinned py cid data with
          | error failure => simp
          | ok pinned => simp
      | invalid => simp
      | raised message => simp
  | httpError code text =>
      simp only [reading, received, KuboCall.shows, Reply.silent, Reply.stray]
      cases notPinned text <;> simp
  | unreachable reason => simp [reading, received, Reply.silent]
  | raised message => simp [reading, received, KuboCall.shows, Reply.silent, Reply.stray]

theorem removal_raised :
    (∃ failure, removal py cid reply = .error failure) ↔ reply.isRaised = true := by
  cases reply <;> simp [removal, received, Reply.isRaised]

theorem shows_silent (silent : reply.silent py = true) :
    (KuboCall.pinLs cid).shows py reply = none := by
  cases reply with
  | body raw =>
      simp only [Reply.silent] at silent
      simp only [KuboCall.shows]
      cases parsed : py.parse raw with
      | json data => rw [parsed] at silent; cases silent
      | invalid => rfl
      | raised message => rfl
  | httpError code text => cases silent
  | unreachable reason => rfl
  | raised message => rfl

theorem shows_stray (stray : reply.stray = true) :
    (KuboCall.pinLs cid).shows py reply = some false := by
  cases reply with
  | httpError code text =>
      simp only [Reply.stray, Bool.not_eq_true'] at stray
      simp only [KuboCall.shows, stray]
  | body raw => cases stray
  | unreachable reason => cases stray
  | raised message => cases stray

/-- An answer that lists the pin does not show that it is gone. -/
theorem shows_pinned (pinned : reading py cid reply = .ok true) :
    (KuboCall.pinLs cid).shows py reply = some false := by
  cases reply with
  | body raw =>
      simp only [reading, received] at pinned
      simp only [KuboCall.shows]
      cases parsed : py.parse raw with
      | json data =>
          simp only [parsed] at pinned
          simp only [pinned, Bool.not_true]
      | invalid => rw [parsed] at pinned; cases pinned
      | raised message => rw [parsed] at pinned; cases pinned
  | httpError code text => cases pinned
  | unreachable reason => cases pinned
  | raised message => cases pinned

/-- Where `is_pinned` is False the answer has shown it, except on silence and on other errors. -/
theorem reading_settled : (reading py cid reply = .ok false →
      (KuboCall.pinLs cid).shows py reply = some true) ↔
    reply.silent py = false ∧ reply.stray = false := by
  constructor
  · intro shown
    constructor
    · cases silent : reply.silent py with
      | false => rfl
      | true =>
          have answer := shown (reading_false_iff.mpr (.inr (.inl silent)))
          rw [shows_silent silent] at answer
          cases answer
    · cases stray : reply.stray with
      | false => rfl
      | true =>
          have answer := shown (reading_false_iff.mpr (.inr (.inr stray)))
          rw [shows_stray stray] at answer
          cases answer
  · rintro ⟨answered, plain⟩ unpinned
    rcases reading_false_iff.mp unpinned with shown | silent | stray
    · exact shown
    · rw [answered] at silent
      cases silent
    · rw [plain] at stray
      cases stray

/-- After a `pin/rm` silence counts where Kubo has answered that. -/
theorem confirmed_iff {removed : Reply} (unraised : removed.isRaised = false) :
    (reading py cid reply = .ok false →
      ((KuboCall.pinLs cid).shows py reply).or
        (((KuboCall.pinRm cid).shows py removed).or (some false)) = some true) ↔
      Confirmed py removed reply := by
  have answer : ((KuboCall.pinRm cid).shows py removed).or (some false) = some removed.isBody := by
    cases removed with
    | body raw => rfl
    | httpError code text => rfl
    | unreachable reason => rfl
    | raised message => cases unraised
  rw [answer]
  constructor
  · intro shown _
    constructor
    · cases stray : reply.stray with
      | false => rfl
      | true =>
          have last := shown (reading_false_iff.mpr (.inr (.inr stray)))
          rw [shows_stray stray] at last
          cases last
    · intro silent
      have last := shown (reading_false_iff.mpr (.inr (.inl silent)))
      rw [shows_silent silent] at last
      exact Option.some.inj last
  · intro confirmed unpinned
    obtain ⟨plain, counted⟩ := confirmed unraised
    rcases reading_false_iff.mp unpinned with shown | silent | stray
    · rw [shown]
      rfl
    · rw [shows_silent silent, counted silent]
      rfl
    · rw [plain] at stray
      cases stray

end Readings

section Executions

variable {agent : Settings} {job : Dict} {scene : Scene} {cid jobId operation : String}
  {leaseUntil : Int} {body : Program String} {log : Log}

/-- The last entry of a log is the last answer, if it is one. -/
theorem lastAnswer_concat {py : Python} {call : KuboCall} {reply : Reply} (about : call.cid = cid) :
    lastAnswer py cid (log ++ [(call, reply)]) =
      (call.shows py reply).or (lastAnswer py cid log) := by
  simp only [lastAnswer, List.filterMap_append, List.filterMap_cons, List.filterMap_nil, about,
    if_true]
  cases call.shows py reply with
  | none => simp
  | some shown => simp

theorem lastAnswer_first {py : Python} {call : KuboCall} {reply : Reply} (about : call.cid = cid) :
    lastAnswer py cid [(call, reply)] = call.shows py reply := by
  have last : lastAnswer py cid ([] ++ [(call, reply)]) = _ := lastAnswer_concat about
  exact last.trans Option.or_none

private theorem exec_reporting : (reporting jobId leaseUntil body).exec runOp scene log =
    ((body.exec runOp scene log).1, .ok
      (match (body.exec runOp scene log).2 with
      | .ok state => { jobId, state, leaseUntil }
      | .error failure =>
          { jobId, state := "failed", leaseUntil, error := some (clip 500 failure.message) })) := by
  rw [reporting, Prog.exec_handle, Prog.exec_bind]
  rcases body.exec runOp scene log with ⟨after, failure | state⟩ <;> rfl

theorem performBase_state {after : Log} {state : String}
    (done : (performBase agent operation cid).exec runOp scene log = (after, .ok state)) :
    state ≠ "unpinned" := by
  have confirmed : ∀ (start : Log) (named : String) (failure : Failure), named ≠ "unpinned" →
      (isPinned agent.py cid >>= fun pinned =>
        if pinned = true then pure named else Prog.fail failure).exec runOp scene start =
          (after, .ok state) → state ≠ "unpinned" := by
    intro start named failure other done
    obtain ⟨middle, pinned, -, rest⟩ := (Prog.exec_bind_eq_ok runOp).mp done
    cases pinned with
    | false => cases rest
    | true =>
        cases rest
        exact other
  unfold performBase at done
  split at done
  · obtain ⟨middle, listed, -, rest⟩ := (Prog.exec_bind_eq_ok runOp).mp done
    exact confirmed middle "pinned" _ (by decide) rest
  · split at done
    · exact confirmed log "verified" _ (by decide) done
    · split at done
      · split at done
        · obtain ⟨middle, removed, -, rest⟩ := (Prog.exec_bind_eq_ok runOp).mp done
          cases rest
          decide
        · cases done
      · cases done

theorem exec_performUnpin (allowed : agent.allowUnpin = true)
    (authorized : authorization agent cid scene.authorize = .ok ()) (named : cid ≠ "") :
    (performUnpin agent jobId cid leaseUntil).exec runOp scene [] =
      match reading agent.py cid (scene.kubo 0) with
      | .error failure => ([(.pinLs cid, scene.kubo 0)], .error failure)
      | .ok false => ([(.pinLs cid, scene.kubo 0)], .ok "unpinned")
      | .ok true =>
          match removal agent.py cid (scene.kubo 1) with
          | .error failure =>
              ([(.pinLs cid, scene.kubo 0), (.pinRm cid, scene.kubo 1)], .error failure)
          | .ok _ =>
              ([(.pinLs cid, scene.kubo 0), (.pinRm cid, scene.kubo 1),
                (.pinLs cid, scene.kubo 2)],
                (reading agent.py cid (scene.kubo 2)).bind fun pinned =>
                  if pinned then .error (.other "pin/rm returned but recursive pin still exists")
                  else .ok "unpinned") := by
  rw [performUnpin, allowed, Bool.not_true, if_neg Bool.false_ne_true, Prog.exec_call]
  simp only [runOp, authorized, Prog.ofExcept, Prog.ret_bind]
  rw [Prog.exec_bind, exec_isPinned named]
  cases reading agent.py cid (scene.kubo 0) with
  | error failure => rfl
  | ok pinned =>
      cases pinned with
      | false => rfl
      | true =>
          simp only [if_true]
          rw [Prog.exec_bind, exec_unpin]
          simp only [List.nil_append, List.cons_append, List.length_cons, List.length_nil,
            Nat.zero_add]
          cases removal agent.py cid (scene.kubo 1) with
          | error failure => rfl
          | ok removed =>
              simp only
              rw [Prog.exec_bind, exec_isPinned named]
              cases reading agent.py cid (scene.kubo 2) with
              | error failure => rfl
              | ok again => cases again <;> rfl

/-- A report of `unpinned` is one of a body that comes to it. -/
theorem noDoubt_iff {body : Program String}
    (runs : executeJob agent job = reporting jobId leaseUntil body) :
    NoDoubt agent job scene ↔
      ((body.exec runOp scene []).2 = .ok "unpinned" →
        lastAnswer agent.py (jobCid agent job) (body.exec runOp scene []).1 = some true) := by
  unfold NoDoubt
  simp only [runs, exec_reporting]
  rcases body.exec runOp scene [] with ⟨after, failure | state⟩
  · constructor
    · intro _ impossible
      cases impossible
    · rintro - report done failed
      cases done
      have failed : "failed" = "unpinned" := failed
      exact absurd failed (by decide)
  · constructor
    · intro shown unpinned
      cases unpinned
      exact shown _ rfl rfl
    · intro shown report done unpinned
      cases done
      exact shown (congrArg Except.ok unpinned)

theorem performVerify_shown :
    (((performVerify agent cid).exec runOp scene []).2 = .ok "unpinned" →
      lastAnswer agent.py cid ((performVerify agent cid).exec runOp scene []).1 = some true) ↔
      cid ≠ "" ∧ (scene.kubo 0).silent agent.py = false ∧ (scene.kubo 0).stray = false := by
  by_cases empty : cid = ""
  · -- The empty CID is never asked about.
    subst empty
    rw [performVerify, Prog.exec_bind, exec_isPinned_empty]
    constructor
    · intro shown
      cases shown rfl
    · rintro ⟨named, -⟩
      exact absurd rfl named
  · have answered := @lastAnswer_first cid agent.py (.pinLs cid) (scene.kubo 0) rfl
    have settled : _ ↔ (scene.kubo 0).silent agent.py = false ∧ (scene.kubo 0).stray = false :=
      @reading_settled agent.py cid (scene.kubo 0)
    rw [and_iff_right empty, ← settled, performVerify, Prog.exec_bind,
      exec_isPinned empty]
    simp only [List.nil_append, List.length_nil]
    cases reading agent.py cid (scene.kubo 0) with
    | error failure => simp
    | ok pinned => cases pinned <;> simp [answered]

theorem performUnpin_shown (allowed : agent.allowUnpin = true)
    (authorized : authorization agent cid scene.authorize = .ok ()) :
    (((performUnpin agent jobId cid leaseUntil).exec runOp scene []).2 = .ok "unpinned" →
      lastAnswer agent.py cid ((performUnpin agent jobId cid leaseUntil).exec runOp scene []).1 =
        some true) ↔
      cid ≠ "" ∧ (scene.kubo 0).silent agent.py = false ∧ (scene.kubo 0).stray = false ∧
        (reading agent.py cid (scene.kubo 0) = .ok true →
          Confirmed agent.py (scene.kubo 1) (scene.kubo 2)) := by
  by_cases empty : cid = ""
  · subst empty
    have done : (performUnpin agent jobId "" leaseUntil).exec runOp scene [] =
        ([], .ok "unpinned") := by
      rw [performUnpin, allowed, Bool.not_true, if_neg Bool.false_ne_true, Prog.exec_call]
      simp only [runOp, authorized, Prog.ofExcept, Prog.ret_bind]
      rw [Prog.exec_bind, exec_isPinned_empty]
      rfl
    rw [done]
    constructor
    · intro shown
      cases shown rfl
    · rintro ⟨named, -⟩
      exact absurd rfl named
  · have settled : _ ↔ (scene.kubo 0).silent agent.py = false ∧ (scene.kubo 0).stray = false :=
      @reading_settled agent.py cid (scene.kubo 0)
    have answered := @lastAnswer_first cid agent.py (.pinLs cid) (scene.kubo 0) rfl
    rw [and_iff_right empty, ← and_assoc, ← settled, exec_performUnpin allowed authorized empty]
    cases first : reading agent.py cid (scene.kubo 0) with
    | error failure => simp
    | ok pinned =>
        cases pinned with
        | false => simp [answered]
        | true =>
            have listed := shows_pinned first
            cases removed : removal agent.py cid (scene.kubo 1) with
            | error failure =>
                have raised := removal_raised.mp ⟨failure, removed⟩
                simp [Confirmed, raised]
            | ok done =>
                have unraised : (scene.kubo 1).isRaised = false := by
                  cases raised : (scene.kubo 1).isRaised with
                  | false => rfl
                  | true =>
                      obtain ⟨failure, other⟩ := removal_raised.mpr raised
                      rw [removed] at other
                      cases other
                have last : lastAnswer agent.py cid ([(.pinLs cid, scene.kubo 0),
                    (.pinRm cid, scene.kubo 1)] ++ [(.pinLs cid, scene.kubo 2)]) = _ :=
                  lastAnswer_concat rfl
                have before : lastAnswer agent.py cid ([(.pinLs cid, scene.kubo 0)] ++
                    [(.pinRm cid, scene.kubo 1)]) = _ := lastAnswer_concat rfl
                rw [answered, listed] at before
                have confirmed := @confirmed_iff agent.py cid (scene.kubo 2) _ unraised
                simp only [List.cons_append, List.nil_append] at last before
                rw [before] at last
                simp only [last, ← confirmed]
                cases reading agent.py cid (scene.kubo 2) with
                | error failure => simp [Except.bind]
                | ok again => cases again <;> simp [Except.bind]

theorem executeJob_eq
    (lease : agent.py.conv.intOrZero (job.get "lease_until") = .ok leaseUntil) :
    executeJob agent job = reporting (agent.py.conv.strOr (job.get "job_id") "") leaseUntil
      (if jobOperation agent job = "UNPIN_VERIFY" then performVerify agent (jobCid agent job)
      else if jobOperation agent job ≠ "UNPIN" then
        performBase agent (jobOperation agent job) (jobCid agent job)
      else performUnpin agent (agent.py.conv.strOr (job.get "job_id") "") (jobCid agent job)
        leaseUntil) := by
  rw [executeJob, leased, lease]
  rfl

/-- An UNPIN that is not enabled, or that the controller does not authorize. -/
theorem performUnpin_refused (jobId : String) (leaseUntil : Int) (refused : ¬ (agent.allowUnpin = true ∧
      authorization agent cid scene.authorize = .ok ())) :
    ((performUnpin agent jobId cid leaseUntil).exec runOp scene []).2 ≠ .ok "unpinned" := by
  unfold performUnpin
  cases allowed : agent.allowUnpin with
  | false =>
      intro impossible
      cases impossible
  | true =>
      rw [Bool.not_true, if_neg Bool.false_ne_true, Prog.exec_call]
      cases decided : authorization agent cid scene.authorize with
      | ok done => exact absurd ⟨allowed, decided⟩ refused
      | error failure =>
          simp only [runOp, decided, Prog.ofExcept, Prog.fail_bind, Prog.exec_fail]
          intro impossible
          cases impossible

end Executions

def samplePython : Python where
  conv :=
    { str := fun _ => ""
      float := fun _ => none
      int := fun _ => none
      error := fun kind _ => kind }
  quote text := text
  parse _ := .invalid

def sampleSettings : Settings := { nodeId := "node-a", py := samplePython }

def sampleJob : Dict :=
  [("operation", .str "UNPIN_VERIFY"), ("job_id", .str "job-1"), ("cid", .str "bafy"),
    ("lease_until", .int 100)]

def downScene : Scene where
  authorize := .error "HTTP Error 503: Service Unavailable"
  kubo _ := .unreachable "[Errno 111] Connection refused"

end HashBurst.Agent
