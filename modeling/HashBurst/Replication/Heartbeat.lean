import HashBurst.Lib.Batch
import HashBurst.Lib.PyJson
import HashBurst.Replication.Moves
import HashBurst.Replication.Recovery

/-! A heartbeat with its job reports (`Controller.heartbeat`, `Agent.heartbeat`): what the
controller reads in a report, what one report that raises does to the others, and to the queue of
the agent that sends them. -/

namespace HashBurst.Replication

open Lib ReplicationDB ReplicationDBV214 ReplicationDBV214Recovery

/-- What the controller makes of the values of a payload: Python's conversions, the job that a text
is the id of, `used > total * 1.10`, and which texts SQLite can take. A text may stand for one with
lone surrogates, which it cannot. -/
structure Reading where
  conv : Py.Conversions
  jobNamed : String → Option JobId
  overfull : Int → Int → Except String Bool
  encodable : String → Bool

inductive HeartbeatError
  | store (failure : PyError)
  | conversion (text : String)
  | capacity (text : String)
  | encoding
  deriving DecidableEq, Repr

def reportState (text : String) : ReportState :=
  if text = "pinned" then .pinned
  else if text = "verified" then .verified
  else if text = "failed" then .failed
  else if text = "unpinned" then .unpinned
  else .other text

section Controller

variable (reading : Reading) (now : Int) (nodeId : NodeId)

/-- `str(report.get("job_id") or "")` -/
def jobText (fields : Py.Dict) : String := reading.conv.strOr (fields.get "job_id") ""

def reportedJob (fields : Py.Dict) (db : Db) : Option Job :=
  (reading.jobNamed (jobText reading fields)).bind fun jobId => findJob db jobId nodeId

/-- The report that the fields make, once its lease has been read. -/
def readReport (fields : Py.Dict) (jobId : JobId) (leaseUntil : Int) : Report where
  jobId
  state := reportState (reading.conv.strOr (fields.get "state") "")
  leaseUntil
  error := reading.conv.strOr (fields.get "error") ""

/-- A PIN or VERIFY job is marked stale before its lease is read. -/
def staleUnread (db : Db) (job : Job) : Bool :=
  job.operation ≠ .unpin && job.operation ≠ .unpinVerify && !db.current job

/-- Whether the transaction of the report comes to look at its state. -/
def reachesState (db : Db) (job : Job) (report : Report) : Bool :=
  match job.operation with
  | .unpin => db.unpinStands job && job.leaseUntil = report.leaseUntil && job.state = .authorized
  | .unpinVerify => db.checkStands job && job.leaseUntil = report.leaseUntil
  | _ => db.current job && reportIsCurrent now job report

/-- What a report of a failure writes into the rows is a text that SQLite can take. -/
def storable (report : Report) : Bool :=
  report.state ≠ .failed || report.error = "" || reading.encodable (Py.clip 500 report.error)

/-- `apply_job_report` of a dict. -/
def applyReport (fields : Py.Dict) (db : Db) : Db × Except HeartbeatError Unit :=
  if !reading.encodable (jobText reading fields) then (db, .error .encoding)
  else
    match reportedJob reading nodeId fields db with
    | none => (db, .error (.store (.keyError s!"unknown job {jobText reading fields}")))
    | some job =>
        match reading.conv.intOrZero (fields.get "lease_until") with
        | .error text =>
            if staleUnread db job then (markStale now job.jobId db, .ok ())
            else (db, .error (.conversion text))
        | .ok leaseUntil =>
            let report := readReport reading fields job.jobId leaseUntil
            if reachesState now db job report && !storable reading report then
              (db, .error .encoding)
            else
              let (after, answer) :=
                (ReplicationDBV214Recovery.applyJobReport nodeId report).runAt now db
              (after, answer.mapError .store)

/-- One element of `payload["jobs"]`; only dicts are looked at. -/
def applyElement (db : Db) : Py.Json → Db × Except HeartbeatError Unit
  | .obj fields => applyReport reading now nodeId fields db
  | _ => (db, .ok ())

/-- The capacity that `payload["repo"]` tells. -/
def readCapacity (repo : Py.Dict) : Except HeartbeatError (Int × Int) := do
  let total ← (reading.conv.intOrZero (repo.get "total_bytes")).mapError .conversion
  let used ← (reading.conv.intOrZero (repo.get "used_bytes")).mapError .conversion
  let full ← if total < 0 || used < 0 then .ok true
    else if total = 0 then .ok false
    else (reading.overfull used total).mapError .conversion
  if full then .error (.capacity "invalid repo capacity") else .ok (total, used)

def Controller.heartbeat (repo : Py.Dict) (jobs : List Py.Json) (db : Db) :
    Db × Except HeartbeatError Unit :=
  match readCapacity reading repo with
  | .error failure => (db, .error failure)
  | .ok (total, used) =>
      match (ReplicationDB.heartbeat now nodeId total used).commit db with
      | (after, .error failure) => (after, .error (.store failure))
      | (after, .ok ()) => Batch.stopping (applyElement reading now nodeId) jobs after

/-- `Agent.heartbeat`, where it reaches the controller: the store and `pending_reports`. -/
def Agent.heartbeat (repo : Py.Dict) (pendingReports : List Py.Json) (db : Db) :
    Db × List Py.Json :=
  match Controller.heartbeat reading now nodeId repo pendingReports db with
  | (after, .ok ()) => (after, [])
  | (after, .error _) => (after, pendingReports)

/-- The states that a report on a job of the operation may have. -/
def handled (operation : Operation) (state : ReportState) : Bool :=
  match operation, state with
  | .unpin, .unpinned => true
  | .unpin, .failed => true
  | .unpin, _ => false
  | .unpinVerify, .unpinned => true
  | .unpinVerify, .verified => true
  | .unpinVerify, .failed => true
  | .unpinVerify, _ => false
  | _, .pinned => true
  | _, .verified => true
  | _, .failed => true
  | _, _ => false

/-- A report that names no job of the node, or whose lease, state or error cannot be read or stored
where the store comes to it. -/
def troubles (db : Db) : Py.Json → Bool
  | .obj fields =>
      !reading.encodable (jobText reading fields) ||
        match reportedJob reading nodeId fields db with
        | none => true
        | some job =>
            match reading.conv.intOrZero (Py.Dict.get fields "lease_until") with
            | .error _ => !staleUnread db job
            | .ok leaseUntil =>
                let report := readReport reading fields job.jobId leaseUntil
                reachesState now db job report &&
                  !(storable reading report && handled job.operation report.state)
  | _ => false

end Controller

section Reports

variable {now : Int} {nodeId : NodeId} {db : Db} {job : Job} {report : Report}

theorem commit_isOk {tx : Tx Unit} {db : Db} : (tx.commit db).2 = .ok () ↔ (tx db).isOk = true := by
  unfold Tx.commit
  rcases tx db with failure | ⟨after, value⟩
  · simp [Except.isOk, Except.toBool]
  · simp [Except.isOk, Except.toBool]

theorem jobReport_succeeds (found : findJob db report.jobId nodeId = some job)
    (plain : job.operation = .pin ∨ job.operation = .verify) :
    (ReplicationDB.applyJobReport now nodeId report db).isOk = true ↔
      (reachesState now db job report && !handled job.operation report.state) = false := by
  have reaches : reachesState now db job report = (db.current job && reportIsCurrent now job report) := by
    rcases plain with pin | verify
    · simp [reachesState, pin]
    · simp [reachesState, verify]
  have states : handled job.operation report.state = handled .pin report.state := by
    rcases plain with pin | verify
    · rw [pin]
    · rw [verify]
      cases report.state <;> rfl
  rw [reaches, states]
  unfold ReplicationDB.applyJobReport Db.current
  rw [found]
  dsimp only
  split
  · rename_i current
    rw [current]
    split
    · rename_i fits
      rw [fits]
      cases report.state <;> simp [handled, Except.isOk, Except.toBool]
    · rename_i loose
      simp [loose, Except.isOk, Except.toBool]
  · rename_i outdated
    simp [outdated, Except.isOk, Except.toBool]

theorem unpinReport_succeeds (found : findJob db report.jobId nodeId = some job)
    (unpin : job.operation = .unpin) :
    (applyUnpinReport now nodeId report db).isOk = true ↔
      (reachesState now db job report && !handled job.operation report.state) = false := by
  have reaches : reachesState now db job report = (db.unpinStands job &&
      job.leaseUntil = report.leaseUntil && job.state = .authorized) := by
    simp [reachesState, unpin]
  rw [reaches, unpin]
  unfold applyUnpinReport
  rw [found]
  dsimp only
  by_cases stands : db.unpinStands job = true
  · rw [if_neg]
    · by_cases fits : job.leaseUntil = report.leaseUntil ∧ job.state = .authorized
      · rw [if_neg]
        · cases report.state <;> simp [handled, stands, fits, Except.isOk, Except.toBool]
        · simp [fits]
      · rw [if_pos]
        · have apart : (decide (job.leaseUntil = report.leaseUntil) &&
              decide (job.state = .authorized)) = false := by
            simpa using fits
          simp [Bool.and_assoc, apart, Except.isOk, Except.toBool]
        · simpa [not_and_or] using not_and_or.mp fits
    · unfold Db.unpinStands at stands
      simp [stands]
  · rw [if_pos]
    · simp [stands, Except.isOk, Except.toBool]
    · unfold Db.unpinStands at stands
      simpa using stands

theorem unpinVerifyReport_succeeds (found : findJob db report.jobId nodeId = some job)
    (check : job.operation = .unpinVerify) :
    (applyUnpinVerifyReport now nodeId report db).isOk = true ↔
      (reachesState now db job report && !handled job.operation report.state) = false := by
  have reaches : reachesState now db job report = (db.checkStands job &&
      job.leaseUntil = report.leaseUntil) := by
    simp [reachesState, check]
  rw [reaches, check]
  unfold applyUnpinVerifyReport
  rw [found]
  dsimp only
  by_cases stands : db.checkStands job = true
  · rw [if_neg]
    · by_cases fits : job.leaseUntil = report.leaseUntil
      · rw [if_neg (not_not.mpr fits)]
        cases report.state <;> simp [handled, stands, fits, Except.isOk, Except.toBool]
      · rw [if_pos fits]
        simp [fits, Except.isOk, Except.toBool]
    · unfold Db.checkStands at stands
      simp [stands]
  · rw [if_pos]
    · simp [stands, Except.isOk, Except.toBool]
    · unfold Db.checkStands at stands
      simpa using stands

/-- A report goes through exactly where it does not come to a state that its job does not have. -/
theorem applyJobReport_succeeds (found : findJob db report.jobId nodeId = some job) :
    ((ReplicationDBV214Recovery.applyJobReport nodeId report).runAt now db).2 = .ok () ↔
      (reachesState now db job report && !handled job.operation report.state) = false := by
  rw [applyJobReport_runAt, found, Option.map_some]
  cases operation : job.operation with
  | unpinVerify =>
      rw [if_pos rfl, commit_isOk, unpinVerifyReport_succeeds found operation, operation]
  | unpin =>
      rw [if_neg (by decide), if_pos rfl, commit_isOk, unpinReport_succeeds found operation,
        operation]
  | pin =>
      rw [if_neg (by decide), if_neg (by decide), commit_isOk,
        jobReport_succeeds found (.inl operation), operation]
  | verify =>
      rw [if_neg (by decide), if_neg (by decide), commit_isOk,
        jobReport_succeeds found (.inr operation), operation]

end Reports

section Batches

variable {reading : Reading} {now : Int} {nodeId : NodeId} {db : Db}

private theorem mapError_ok {answer : Except PyError Unit} :
    answer.mapError HeartbeatError.store = .ok () ↔ answer = .ok () := by
  cases answer with
  | error failure => simp [Except.mapError]
  | ok value => simp [Except.mapError]

variable (reading now nodeId) in
theorem applyElement_succeeds (db : Db) (element : Py.Json) :
    troubles reading now nodeId db element = false ↔
      (applyElement reading now nodeId db element).2 = .ok () := by
  cases element with
  | obj fields =>
      simp only [troubles, applyElement, applyReport]
      cases encoded : reading.encodable (jobText reading fields) with
      | false => simp
      | true =>
          rw [Bool.not_true, Bool.false_or, if_neg Bool.false_ne_true]
          cases found : reportedJob reading nodeId fields db with
          | none => simp
          | some job =>
              cases read : reading.conv.intOrZero (Py.Dict.get fields "lease_until") with
              | error text =>
                  dsimp only
                  by_cases stale : staleUnread db job = true
                  · simp [stale]
                  · simp [stale]
              | ok leaseUntil =>
                  dsimp only
                  obtain ⟨jobId, -, looked⟩ := Option.bind_eq_some_iff.mp found
                  have named : jobId = job.jobId := (findJob_cases looked).2.1.symm
                  rw [named] at looked
                  by_cases unstorable : (reachesState now db job
                      (readReport reading fields job.jobId leaseUntil) &&
                        !storable reading (readReport reading fields job.jobId leaseUntil)) = true
                  · rw [if_pos unstorable]
                    obtain ⟨reaches, bad⟩ := Bool.and_eq_true_iff.mp unstorable
                    rw [Bool.not_eq_true'] at bad
                    simp [reaches, bad]
                  · rw [if_neg unstorable, mapError_ok]
                    refine Iff.trans ?_ (applyJobReport_succeeds looked).symm
                    cases reaches : reachesState now db job
                      (readReport reading fields job.jobId leaseUntil) with
                    | false => simp
                    | true =>
                        have fine : storable reading
                            (readReport reading fields job.jobId leaseUntil) = true := by
                          simpa [reaches] using unstorable
                        rw [fine, Bool.true_and, Bool.true_and, Bool.true_and]
  | _ => simp [troubles, applyElement]

theorem readCapacity_nonneg {repo : Py.Dict} {total used : Int}
    (told : readCapacity reading repo = .ok (total, used)) : 0 ≤ total ∧ 0 ≤ used := by
  simp only [readCapacity, bind, Except.bind] at told
  split at told
  · cases told
  · rename_i first _
    split at told
    · cases told
    · rename_i second _
      by_cases negative : (decide (first < 0) || decide (second < 0)) = true
      · rw [if_pos negative] at told
        cases told
      · rw [if_neg negative] at told
        split at told
        · cases told
          simpa using negative
        · split at told
          · cases told
          · split at told
            · cases told
            · cases told
              simpa using negative

variable (now) in
/-- The row of a known node takes the numbers that an INTEGER can hold. -/
theorem heartbeat_heard {total used : Int} (known : (db.nodes.find? nodeId).isSome)
    (nonneg : 0 ≤ total ∧ 0 ≤ used) :
    ((ReplicationDB.heartbeat now nodeId total used).commit db).2 = .ok () ↔
      total < 2 ^ 63 ∧ used < 2 ^ 63 := by
  obtain ⟨row, found⟩ := Option.isSome_iff_exists.mp known
  have fits : (fitsInteger (max 0 total) && fitsInteger (max 0 used)) = true ↔
      total < 2 ^ 63 ∧ used < 2 ^ 63 := by
    rw [max_eq_right nonneg.1, max_eq_right nonneg.2]
    simp only [fitsInteger, Bool.and_eq_true, decide_eq_true_eq]
    omega
  rw [← fits, commit_isOk]
  unfold ReplicationDB.heartbeat
  rw [found]
  cases fitsInteger (max 0 total) && fitsInteger (max 0 used) <;>
    simp [Except.isOk, Except.toBool]

variable (reading now nodeId) in
theorem controllerHeartbeat_eq (repo : Py.Dict) (jobs : List Py.Json) {total used : Int}
    (told : readCapacity reading repo = .ok (total, used)) (known : (db.nodes.find? nodeId).isSome)
    (fits : total < 2 ^ 63 ∧ used < 2 ^ 63) :
    Controller.heartbeat reading now nodeId repo jobs db =
      Batch.stopping (applyElement reading now nodeId) jobs
        ((ReplicationDB.heartbeat now nodeId total used).commit db).1 := by
  have heard := (heartbeat_heard now known (readCapacity_nonneg told)).mpr fits
  unfold Controller.heartbeat
  rw [told]
  dsimp only
  rcases ran : (ReplicationDB.heartbeat now nodeId total used).commit db with
    ⟨after, failure | value⟩
  · rw [ran] at heard
    cases heard
  · rfl

variable (reading now nodeId) in
/-- No report is looked at if the row cannot take the numbers. -/
theorem controllerHeartbeat_overflow (repo : Py.Dict) (jobs : List Py.Json) {total used : Int}
    (told : readCapacity reading repo = .ok (total, used)) (known : (db.nodes.find? nodeId).isSome)
    (large : ¬(total < 2 ^ 63 ∧ used < 2 ^ 63)) :
    (Controller.heartbeat reading now nodeId repo jobs db).2 ≠ .ok () := by
  intro done
  have unheard := (heartbeat_heard now known (readCapacity_nonneg told)).not.mpr large
  unfold Controller.heartbeat at done
  rw [told] at done
  dsimp only at done
  rcases ran : (ReplicationDB.heartbeat now nodeId total used).commit db with
    ⟨after, failure | value⟩
  · rw [ran] at done
    cases done
  · rw [ran] at unheard
    exact unheard rfl

variable (reading nodeId) in
/-- One report on a job that does not exist keeps the whole queue for ever, whatever becomes of the
store between the heartbeats. -/
theorem unknown_report_blocks {fields : Py.Dict} {queue : List Py.Json}
    (queued : Py.Json.obj fields ∈ queue)
    (unknown : reading.jobNamed (jobText reading fields) = none)
    (beats : List (Int × Py.Dict × Db)) :
    (beats.foldl (fun left beat =>
      (Agent.heartbeat reading beat.1 nodeId beat.2.1 left beat.2.2).2) queue) = queue := by
  have kept : ∀ (now : Int) (repo : Py.Dict) (db : Db),
      (Agent.heartbeat reading now nodeId repo queue db).2 = queue := by
    intro now repo db
    have raised : (Controller.heartbeat reading now nodeId repo queue db).2 ≠ .ok () := by
      intro done
      unfold Controller.heartbeat at done
      split at done
      · cases done
      · split at done
        · cases done
        · rename_i after _
          have calm := Batch.stopping_ok (applyElement_succeeds reading now nodeId) done
          apply Batch.smooth_of_mem calm queued
          intro state
          simp [troubles, reportedJob, unknown]
    unfold Agent.heartbeat
    rcases answer : Controller.heartbeat reading now nodeId repo queue db with
      ⟨after, failure | value⟩
    · rfl
    · rw [answer] at raised
      exact absurd rfl raised
  induction beats with
  | nil => rfl
  | cons beat rest ih => rw [List.foldl_cons, kept, ih]

end Batches

/-- The call succeeds and applies every report as if those that raise were absent, and the queue of
the agent is emptied, exactly where the capacity fits its columns and no report raises. -/
theorem heartbeat_isolates (reading : Reading) (now : Int) (nodeId : NodeId) (repo : Py.Dict)
    (jobs : List Py.Json) (db : Db) {total used : Int}
    (told : readCapacity reading repo = .ok (total, used))
    (known : (db.nodes.find? nodeId).isSome) :
    (Controller.heartbeat reading now nodeId repo jobs db =
        (Batch.isolating (applyElement reading now nodeId) (troubles reading now nodeId) jobs
          ((ReplicationDB.heartbeat now nodeId total used).commit db).1, .ok ()) ∧
      (Agent.heartbeat reading now nodeId repo jobs db).2 = []) ↔
      (total < 2 ^ 63 ∧ used < 2 ^ 63) ∧
        Batch.smooth (applyElement reading now nodeId) (troubles reading now nodeId) jobs
          ((ReplicationDB.heartbeat now nodeId total used).commit db).1 = true := by
  by_cases fits : total < 2 ^ 63 ∧ used < 2 ^ 63
  · have run := controllerHeartbeat_eq reading now nodeId repo jobs told known fits
    rw [← Batch.stopping_isolates (applyElement_succeeds reading now nodeId), run]
    constructor
    · exact fun done => ⟨fits, done.1⟩
    · rintro ⟨-, same⟩
      refine ⟨same, ?_⟩
      unfold Agent.heartbeat
      rw [run, same]
  · have raised := controllerHeartbeat_overflow reading now nodeId repo jobs told known fits
    constructor
    · rintro ⟨done, -⟩
      exact absurd (congrArg Prod.snd done) raised
    · rintro ⟨within, -⟩
      exact absurd within fits

/-- Ids of two jobs, and their reading in a controller that has given out only the first. -/
def leasedId : String := "9f1c2b7e5d3a4c60810f6a2b3c4d5e6f"

def strayId : String := "00b14a6cf2de4b1c9d07e35f8a6b2c4d"

def sampleReading : Reading where
  conv :=
    { str := fun _ => "", float := fun _ => none, int := String.toInt?
      error := fun name _ => name }
  jobNamed text := if text = leasedId then some 0 else none
  overfull used total := .ok (11 * total < 10 * used)
  encodable _ := true

def leasedDb : Db where
  nodes := ⟨[{ nodeId := "alpha", capacityClass := .committable, lastSeen := 1000 }], by decide⟩
  objects := ⟨[{ cid := "bafy", sizeBytes := 10, createdAt := 890, replicationN := 1
                 committableM := 1 }], by decide⟩
  objectRefs := .empty
  replicas := ⟨[{ cid := "bafy", nodeId := "alpha", assignedAt := 900, generation := 1 }], by decide⟩
  jobs :=
    { rows := [{ jobId := 0, cid := "bafy", nodeId := "alpha", operation := .pin, generation := 1
                 leaseUntil := 1130, createdAt := 900, updatedAt := 1010 }]
      distinct := by decide
      next := 1
      fresh := by decide }

def pinnedFields (jobId : String) : Py.Dict :=
  [("job_id", .str jobId), ("state", .str "pinned"), ("lease_until", .int 1130)]

def pinnedReport (jobId : String) : Py.Json := .obj (pinnedFields jobId)

def sampleRepo : Py.Dict := [("total_bytes", .int 1000), ("used_bytes", .int 10)]

theorem heartbeat_isolates_scrap :
    Controller.heartbeat sampleReading 1020 "alpha" sampleRepo [.null, pinnedReport leasedId]
        leasedDb =
      (Batch.isolating (applyElement sampleReading 1020 "alpha")
        (troubles sampleReading 1020 "alpha") [.null, pinnedReport leasedId]
        ((ReplicationDB.heartbeat 1020 "alpha" 1000 10).commit leasedDb).1, .ok ()) ∧
    (Agent.heartbeat sampleReading 1020 "alpha" sampleRepo [.null, pinnedReport leasedId]
      leasedDb).2 = [] :=
  (heartbeat_isolates sampleReading 1020 "alpha" sampleRepo [.null, pinnedReport leasedId] leasedDb
    (by decide) (by decide)).mpr (by decide)

theorem heartbeat_stops : ¬∀ (reading : Reading) (now : Int) (nodeId : NodeId) (repo : Py.Dict)
    (jobs : List Py.Json) (db : Db) (total used : Int),
    readCapacity reading repo = .ok (total, used) → (db.nodes.find? nodeId).isSome →
      Controller.heartbeat reading now nodeId repo jobs db =
          (Batch.isolating (applyElement reading now nodeId) (troubles reading now nodeId) jobs
            ((ReplicationDB.heartbeat now nodeId total used).commit db).1, .ok ()) ∧
        (Agent.heartbeat reading now nodeId repo jobs db).2 = [] := by
  intro always
  have emptied := (always sampleReading 1020 "alpha" sampleRepo
    [pinnedReport strayId, pinnedReport leasedId] leasedDb 1000 10 (by decide)
    (by decide)).2
  have queued : Py.Json.obj (pinnedFields strayId) ∈
      [pinnedReport strayId, pinnedReport leasedId] := List.mem_cons_self
  have blocked := unknown_report_blocks sampleReading "alpha" queued (by decide)
    [(1020, sampleRepo, leasedDb)]
  rw [List.foldl_cons, List.foldl_nil, emptied] at blocked
  cases blocked

end HashBurst.Replication
