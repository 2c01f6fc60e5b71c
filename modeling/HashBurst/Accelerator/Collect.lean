import HashBurst.Lib.Table
import HashBurst.Accelerator.Derailed

/-! A collection of telemetry: `collect` of `accelerator.py`, which reads every worker that it is
given and commits once. -/

namespace HashBurst.Accelerator

open Lib Lib.Py

/-- A row of `samples`. -/
structure Sample where
  worker : String
  sampled : Int
  profile : String
  payload : List Char

def Sample.key (sample : Sample) : String × Int := (sample.worker, sample.sampled)

/-- A row of `worker_health`. -/
structure Health where
  worker : String
  collected : Int
  healthy : Bool

structure Counts where
  inserted : Nat := 0
  duplicates : Nat := 0
  excluded : Nat := 0
  deriving DecidableEq

/-- What `collect` returns and stores. -/
structure Summary where
  collectedAt : Int
  received : Nat
  counts : Counts
  reasons : List (String × Nat)
  poolGeneratedAt : Int
  poolCount : Nat
  poolHash : String
  workersHash : String
  deriving DecidableEq

structure Database where
  salt : Bytes
  samples : Table Sample.key := .empty
  health : List Health := []
  collections : List Summary := []

def Fault.reason : Fault → String
  | .value text => text
  | _ => "incomplete telemetry"

structure Progress where
  db : Database
  counts : Counts := {}
  reasons : List (String × Nat) := []

namespace Progress

variable (progress : Progress)

/-- `reasons[reason] = reasons.get(reason, 0) + 1` -/
def exclude (reason : String) : Progress :=
  { progress with
    counts := { progress.counts with excluded := progress.counts.excluded + 1 }
    reasons :=
      if progress.reasons.any fun entry => entry.1 = reason then
        progress.reasons.map fun entry =>
          if entry.1 = reason then (entry.1, entry.2 + 1) else entry
      else progress.reasons ++ [(reason, 1)] }

/-- `INSERT OR REPLACE INTO worker_health VALUES (?, ?, 0)` -/
def mark (key : String) (now : Int) : Progress :=
  { progress with
    db := { progress.db with
      health := (progress.db.health.filter fun row => row.worker ≠ key) ++ [⟨key, now, false⟩] } }

/-- `UPDATE worker_health SET healthy=1 WHERE worker=?` -/
def heal (key : String) : Progress :=
  { progress with
    db := { progress.db with
      health := progress.db.health.map fun row =>
        if row.worker = key then { row with healthy := true } else row } }

/-- `INSERT OR IGNORE INTO samples`, and what is counted. -/
def record (row : Row) (payload : List Char) : Progress :=
  match progress.db.samples.insert? ⟨row.worker, row.sampled, row.profile, payload⟩ with
  | some samples =>
      { progress with
        db := { progress.db with samples }
        counts := { progress.counts with inserted := progress.counts.inserted + 1 } }
  | none =>
      { progress with
        counts := { progress.counts with duplicates := progress.counts.duplicates + 1 } }

/-- The `try` of a round, with what reading the worker comes to. -/
def settle (key : String) : Except Fault (Row × List Char) → Except Fault Progress
  | .ok (row, payload) => .ok ((progress.record row payload).heal key)
  | .error fault => if fault.isCaught then .ok (progress.exclude fault.reason) else .error fault

end Progress

section Collect

variable (py : Python) (now maxAge : Int)

/-- `normalize`, and the text of its row. -/
def readRow (salt : Bytes) (worker : Dict) : Except Fault (Row × List Char) := do
  let row ← normalize py now maxAge salt worker
  let payload ← row.text py
  .ok (row, payload)

/-- A round of `collect`. -/
def collectWorker (progress : Progress) : Json → Except Fault Progress
  | .obj worker => do
      let key ← keyOf py progress.db.salt worker
      (progress.mark key now).settle key (readRow py now maxAge progress.db.salt worker)
  | _ => .ok (progress.exclude "incomplete telemetry")

def collectWorkers (progress : Progress) : List Json → Except Fault Progress
  | [] => .ok progress
  | worker :: rest => do
      let progress ← collectWorker py now maxAge progress worker
      collectWorkers progress rest

/-- The time of a pool summary and the number of its pools. -/
def readPools (pools : Json) : Except Fault (Int × Nat) :=
  match pools with
  | .obj fields =>
      match Dict.get fields "pools" with
      | .arr listed => do
          let generated ← subscript pools "generated_at"
          let generated ← number generated
          require (-30 ≤ now - generated.toInt && now - generated.toInt ≤ maxAge) "pool summary stale"
          .ok (generated.toInt, listed.length)
      | _ => .error (.value "pool summary schema not recognized")
  | _ => .error (.value "pool summary schema not recognized")

/-- The transaction of `collect`, with what it is committed with. -/
def transact (db : Database) (entries : List Json) (pools : Json) : Except Fault (Database × Summary) := do
  let (poolGeneratedAt, poolCount) ← readPools now maxAge pools
  let progress ← collectWorkers py now maxAge { db } entries
  let poolHash ← digest py pools
  let workersHash ← digest py (.arr entries)
  let summary : Summary :=
    { collectedAt := now, received := entries.length, counts := progress.counts
      reasons := progress.reasons, poolGeneratedAt, poolCount, poolHash, workersHash }
  .ok ({ progress.db with
    collections := (progress.db.collections.filter fun own => own.collectedAt ≠ now) ++ [summary] },
    summary)

/-- `collect`: an exception rolls everything back. -/
def collect (db : Database) (workers pools : Json) : Database × Except Fault Summary :=
  match workers with
  | .arr entries =>
      match transact py now maxAge db entries pools with
      | .ok (after, summary) => (after, .ok summary)
      | .error fault => (db, .error fault)
  | _ => (db, .error (.value "RainbowMiner response must be a worker list"))

/-- Whether `normalize` accepts an entry on its own. -/
def isAccepted (salt : Bytes) : Json → Bool
  | .obj worker =>
      match normalize py now maxAge salt worker with
      | .ok _ => true
      | .error _ => false
  | _ => false

end Collect

section Claims

variable (py : Python) (now maxAge : Int)

/-- `collect` returns and counts every entry, and those that `normalize` accepts are recorded, or
counted as duplicates, as if they had come alone. -/
structure Isolated (db : Database) (entries : List Json) (pools : Json) : Prop where
  returned : ∃ summary, (collect py now maxAge db (.arr entries) pools).2 = .ok summary ∧
    summary.received = entries.length ∧
      summary.counts.inserted + summary.counts.duplicates + summary.counts.excluded = entries.length
  recorded : ∀ summary, (collect py now maxAge db (.arr entries) pools).2 = .ok summary →
    ∃ own, (collect py now maxAge db
        (.arr (entries.filter (isAccepted py now maxAge db.salt))) pools).2 = .ok own ∧
      own.counts.excluded = 0 ∧ own.counts.inserted = summary.counts.inserted ∧
        own.counts.duplicates = summary.counts.duplicates ∧
          (collect py now maxAge db
            (.arr (entries.filter (isAccepted py now maxAge db.salt))) pools).1.samples =
              (collect py now maxAge db (.arr entries) pools).1.samples

/-- The numbers that a worker is read to can be written: no sum of it is infinite. -/
def Finite (worker : Dict) : Prop :=
  ∀ sample data telemetry, readWorker now maxAge worker = .ok sample → readData worker = .ok data →
    readMiners py {} data = .ok telemetry →
      ([.int sample.1, telemetry.revenue, sample.2, telemetry.temp, telemetry.accepted,
        telemetry.rejected] : List Number).all (Number.isWritten py.digits) = true

/-- Answers that Python can write, with entries that it can read without an exception that is not
caught. -/
structure Collectable (entries : List Json) (pools : Json) : Prop where
  summarised : Written py pools
  written : Written py (.arr entries)
  tame : ∀ worker, .obj worker ∈ entries → ¬Derails py now maxAge worker
  finite : ∀ worker, .obj worker ∈ entries → Finite py now maxAge worker

end Claims

section Rounds

variable {py : Python} {now maxAge : Int} {salt : Bytes} {worker : Dict} {progress next : Progress}

private theorem text_tame {row : Row} : ¬Escapes (row.text py) := by
  unfold Row.text
  split
  · exact escapes_ok
  · exact caught_tame rfl

theorem readRow_escapes : Escapes (readRow py now maxAge salt worker) ↔
    Escapes (normalize py now maxAge salt worker) := by
  unfold readRow
  rw [escapes_bind]
  constructor
  · intro either
    rcases either with escapes | ⟨row, -, escapes⟩
    · exact escapes
    · rw [escapes_after text_tame] at escapes
      rcases escapes with ⟨payload, -, impossible⟩
      exact absurd impossible escapes_ok
  · intro escapes
    exact .inl escapes

theorem keyOf_ok (written : Written py (.obj worker)) : ∃ key, keyOf py salt worker = .ok key := by
  have room := dump_obj.mp written
  have each : ∀ name, dump py.digits (py.nesting - 1) (Dict.get worker name) = .ok () := by
    intro name
    unfold Dict.get Dict.getD
    cases listed : worker.lookup name with
    | none => rfl
    | some value =>
        rcases List.lookup_eq_some_iff.mp listed with ⟨front, back, same, -⟩
        apply room.2 (name, value)
        rw [same]
        exact List.mem_append_right _ List.mem_cons_self
  have identity : dump py.digits py.nesting (JsonText.sortKeys (.arr (identityOf worker))) =
      .ok () := by
    rw [dump_sortKeys, dump_arr]
    refine ⟨room.1, ?_⟩
    unfold identityOf
    simp only [List.forall_mem_cons]
    exact ⟨each _, each _, each _, fun _ none => absurd none List.not_mem_nil⟩
  unfold keyOf canonical
  rw [identity]
  exact ⟨_, rfl⟩

theorem settle_ok {key : String} {read : Except Fault (Row × List Char)} :
    (∃ next, progress.settle key read = .ok next) ↔ ¬Escapes read := by
  cases read with
  | ok pair => exact iff_of_true ⟨_, rfl⟩ escapes_ok
  | error fault =>
      rw [escapes_error]
      unfold Progress.settle
      dsimp only
      cases fault.isCaught with
      | true => exact iff_of_true ⟨_, rfl⟩ (by decide)
      | false =>
          apply iff_of_false
          · intro passed
            rcases passed with ⟨next, impossible⟩
            cases impossible
          · exact fun other => other rfl

theorem collectWorker_ok {entry : Json} (written : Written py entry) :
    (∃ next, collectWorker py now maxAge progress entry = .ok next) ↔
      ∀ worker, entry = .obj worker → ¬Derails py now maxAge worker := by
  cases entry with
  | obj own =>
      rcases @keyOf_ok py progress.db.salt own written with ⟨key, keyed⟩
      have settles : (∃ next, collectWorker py now maxAge progress (.obj own) = .ok next) ↔
          ¬Derails py now maxAge own := by
        rw [← normalize_escapes written, ← readRow_escapes, ← settle_ok]
        simp only [collectWorker, keyed]
        exact Iff.rfl
      rw [settles]
      constructor
      · intro tame worker same
        cases same
        exact tame
      · intro tame
        exact tame own rfl
  | _ =>
      apply iff_of_true ⟨_, rfl⟩
      intro worker impossible
      cases impossible

theorem collectWorkers_ok {entries : List Json} (written : ∀ entry ∈ entries, Written py entry) :
    (∃ last, collectWorkers py now maxAge progress entries = .ok last) ↔
      ∀ worker, .obj worker ∈ entries → ¬Derails py now maxAge worker := by
  induction entries generalizing progress with
  | nil =>
      apply iff_of_true ⟨progress, rfl⟩
      intro worker none
      exact absurd none List.not_mem_nil
  | cons entry rest ih =>
      rw [List.forall_mem_cons] at written
      rw [collectWorkers]
      simp only [bind_ok]
      constructor
      · intro passed
        rcases passed with ⟨last, middle, first, others⟩
        intro worker member
        rcases List.mem_cons.mp member with own | later
        · exact (collectWorker_ok written.1).mp ⟨middle, first⟩ worker own.symm
        · exact (ih written.2).mp ⟨last, others⟩ worker later
      · intro tame
        have able : ∃ next, collectWorker py now maxAge progress entry = .ok next := by
          apply (collectWorker_ok written.1).mpr
          intro worker same
          exact tame worker (by rw [same]; exact List.mem_cons_self)
        rcases able with ⟨middle, first⟩
        have others : ∃ last, collectWorkers py now maxAge middle rest = .ok last := by
          apply (ih written.2).mpr
          intro worker member
          exact tame worker (List.mem_cons_of_mem _ member)
        rcases others with ⟨last, passed⟩
        exact ⟨last, middle, first, passed⟩

end Rounds

section Cores

variable {py : Python} {now maxAge : Int} {progress next : Progress}

structure Core where
  samples : Table Sample.key
  inserted : Nat
  duplicates : Nat

def Progress.core (progress : Progress) : Core :=
  ⟨progress.db.samples, progress.counts.inserted, progress.counts.duplicates⟩

def Core.record (core : Core) (row : Row) (payload : List Char) : Core :=
  match core.samples.insert? ⟨row.worker, row.sampled, row.profile, payload⟩ with
  | some samples => { core with samples, inserted := core.inserted + 1 }
  | none => { core with duplicates := core.duplicates + 1 }

theorem record_core (row : Row) (payload : List Char) :
    (progress.record row payload).core = progress.core.record row payload ∧
      (progress.record row payload).db.salt = progress.db.salt ∧
        (progress.record row payload).counts.excluded = progress.counts.excluded := by
  unfold Progress.record Core.record Progress.core
  dsimp only
  cases progress.db.samples.insert? ⟨row.worker, row.sampled, row.profile, payload⟩ with
  | some samples => exact ⟨rfl, rfl, rfl⟩
  | none => exact ⟨rfl, rfl, rfl⟩

def Counts.total (counts : Counts) : Nat := counts.inserted + counts.duplicates + counts.excluded

theorem record_total (row : Row) (payload : List Char) :
    (progress.record row payload).counts.total = progress.counts.total + 1 := by
  unfold Progress.record Counts.total
  cases progress.db.samples.insert? ⟨row.worker, row.sampled, row.profile, payload⟩ with
  | some samples =>
      dsimp only
      omega
  | none =>
      dsimp only
      omega

/-- What a round does: a row is recorded, or the entry is excluded. -/
inductive Round (py : Python) (now maxAge : Int) (progress : Progress) : Json → Progress → Prop
  | recorded {worker row payload next}
      (read : readRow py now maxAge progress.db.salt worker = .ok (row, payload))
      (core : next.core = progress.core.record row payload) (salt : next.db.salt = progress.db.salt)
      (excluded : next.counts.excluded = progress.counts.excluded)
      (total : next.counts.total = progress.counts.total + 1) :
      Round py now maxAge progress (.obj worker) next
  | excluded {entry next}
      (unread : ∀ worker pair, entry = .obj worker →
        readRow py now maxAge progress.db.salt worker ≠ .ok pair)
      (core : next.core = progress.core) (salt : next.db.salt = progress.db.salt)
      (excluded : next.counts.excluded = progress.counts.excluded + 1)
      (total : next.counts.total = progress.counts.total + 1) :
      Round py now maxAge progress entry next

theorem collectWorker_round {entry : Json}
    (passed : collectWorker py now maxAge progress entry = .ok next) :
    Round py now maxAge progress entry next := by
  cases entry with
  | obj worker =>
      simp only [collectWorker, bind_ok] at passed
      rcases passed with ⟨key, -, settled⟩
      cases read : readRow py now maxAge progress.db.salt worker with
      | ok pair =>
          rw [read] at settled
          cases settled
          rcases @record_core (progress.mark key now) pair.1 pair.2 with ⟨core, salt, excluded⟩
          exact .recorded read core salt excluded (record_total pair.1 pair.2)
      | error fault =>
          rw [read] at settled
          unfold Progress.settle at settled
          dsimp only at settled
          by_cases caught : fault.isCaught = true
          · rw [if_pos caught] at settled
            cases settled
            refine .excluded ?_ rfl rfl rfl ?_
            · intro own pair same
              cases same
              rw [read]
              intro impossible
              cases impossible
            · exact (Nat.add_assoc _ _ 1).symm
          · rw [if_neg caught] at settled
            cases settled
  | _ =>
      cases passed
      refine .excluded ?_ rfl rfl rfl ?_
      · intro own pair impossible
        cases impossible
      · exact (Nat.add_assoc _ _ 1).symm

theorem collectWorkers_total {entries : List Json} {last : Progress}
    (passed : collectWorkers py now maxAge progress entries = .ok last) :
    last.counts.total = progress.counts.total + entries.length := by
  induction entries generalizing progress with
  | nil =>
      cases passed
      rfl
  | cons entry rest ih =>
      simp only [collectWorkers, bind_ok] at passed
      rcases passed with ⟨middle, first, others⟩
      have later := ih others
      have one : middle.counts.total = progress.counts.total + 1 := by
        cases collectWorker_round first with
        | recorded read core salt excluded total => exact total
        | excluded unread core salt excluded total => exact total
      rw [later, one, List.length_cons]
      omega

theorem collectWorkers_read {entries : List Json} {last : Progress}
    (passed : collectWorkers py now maxAge progress entries = .ok last) :
    progress.counts.excluded ≤ last.counts.excluded ∧
      (last.counts.excluded = progress.counts.excluded → ∀ entry ∈ entries,
        ∃ worker pair, entry = .obj worker ∧
          readRow py now maxAge progress.db.salt worker = .ok pair) := by
  induction entries generalizing progress with
  | nil =>
      cases passed
      exact ⟨le_refl _, fun _ entry none => absurd none List.not_mem_nil⟩
  | cons entry rest ih =>
      simp only [collectWorkers, bind_ok] at passed
      rcases passed with ⟨middle, first, others⟩
      have later := ih others
      cases collectWorker_round first with
      | recorded read core salt excluded total =>
          rw [excluded, salt] at later
          refine ⟨later.1, ?_⟩
          intro same own member
          rcases List.mem_cons.mp member with rfl | other
          · exact ⟨_, _, rfl, read⟩
          · exact later.2 same own other
      | excluded unread core salt excluded total =>
          constructor
          · omega
          · intro same
            omega

private theorem accepted_of_read {salt : Bytes} {worker : Dict} {pair : Row × List Char}
    (read : readRow py now maxAge salt worker = .ok pair) :
    isAccepted py now maxAge salt (.obj worker) = true := by
  simp only [readRow, bind_ok] at read
  rcases read with ⟨row, normalized, -⟩
  unfold isAccepted
  dsimp only
  rw [normalized]

/-- A row that is read from an accepted entry, under whatever is collected around it. -/
theorem collectWorker_recorded {worker : Dict} {pair : Row × List Char}
    (passed : collectWorker py now maxAge progress (.obj worker) = .ok next)
    (read : readRow py now maxAge progress.db.salt worker = .ok pair) {own : Progress}
    (salt : own.db.salt = progress.db.salt) :
    ∃ after, collectWorker py now maxAge own (.obj worker) = .ok after ∧
      next.core = progress.core.record pair.1 pair.2 ∧ next.db.salt = progress.db.salt ∧
      after.core = own.core.record pair.1 pair.2 ∧ after.db.salt = own.db.salt ∧
      after.counts.excluded = own.counts.excluded := by
  simp only [collectWorker, bind_ok] at passed
  rcases passed with ⟨key, keyed, settled⟩
  rw [read] at settled
  cases settled
  rcases @record_core (progress.mark key now) pair.1 pair.2 with ⟨core, kept, -⟩
  rcases @record_core (own.mark key now) pair.1 pair.2 with ⟨other, still, excluded⟩
  refine ⟨((own.mark key now).record pair.1 pair.2).heal key, ?_, core, kept, other, still, excluded⟩
  simp only [collectWorker, bind_ok]
  rw [salt, read]
  exact ⟨key, keyed, rfl⟩

theorem collectWorkers_alone {entries : List Json} {last own : Progress}
    (passed : collectWorkers py now maxAge progress entries = .ok last)
    (core : own.core = progress.core) (salt : own.db.salt = progress.db.salt)
    (finite : ∀ worker, .obj worker ∈ entries → isAccepted py now maxAge own.db.salt (.obj worker) →
      ∃ pair, readRow py now maxAge own.db.salt worker = .ok pair) :
    ∃ alone, collectWorkers py now maxAge own
        (entries.filter (isAccepted py now maxAge own.db.salt)) = .ok alone ∧
      alone.core = last.core ∧ alone.counts.excluded = own.counts.excluded := by
  induction entries generalizing progress own with
  | nil =>
      cases passed
      exact ⟨own, rfl, core, rfl⟩
  | cons entry rest ih =>
      simp only [collectWorkers, bind_ok] at passed
      rcases passed with ⟨middle, first, others⟩
      have later (worker : Dict) (member : .obj worker ∈ rest) :=
        finite worker (List.mem_cons_of_mem _ member)
      by_cases accepted : isAccepted py now maxAge own.db.salt entry = true
      · rw [List.filter_cons_of_pos accepted]
        cases entry with
        | obj worker =>
            rcases finite worker List.mem_cons_self accepted with ⟨pair, read⟩
            rw [salt] at read
            rcases collectWorker_recorded first read salt with
              ⟨after, round, grown, kept, same, still, excluded⟩
            have cores : after.core = middle.core := by rw [same, grown, core]
            have salts : after.db.salt = middle.db.salt := by rw [still, kept, salt]
            rcases ih others cores salts (by rw [still]; exact later) with ⟨alone, run, ends, counted⟩
            rw [still] at run
            refine ⟨alone, ?_, ends, counted.trans excluded⟩
            simp only [collectWorkers, bind_ok]
            exact ⟨after, round, run⟩
        | _ => cases accepted
      · rw [List.filter_cons_of_neg accepted]
        cases collectWorker_round first with
        | recorded read grown kept excluded total =>
            rw [← salt] at read
            exact absurd (accepted_of_read read) accepted
        | excluded unread same kept excluded total =>
            exact ih others (core.trans same.symm) (salt.trans kept.symm) later

end Cores

section Isolation

variable {py : Python} {now maxAge : Int} {db : Database} {entries : List Json} {pools : Json}

theorem digest_ok {value : Json} : (∃ hash, digest py value = .ok hash) ↔ Written py value := by
  unfold digest canonical Written
  rw [← dump_sortKeys]
  cases dump py.digits py.nesting (JsonText.sortKeys value) with
  | ok done => exact iff_of_true ⟨_, rfl⟩ rfl
  | error fault =>
      apply iff_of_false
      · intro hashed
        rcases hashed with ⟨hash, impossible⟩
        cases impossible
      · intro impossible
        cases impossible

/-- What `collect` has done where it returns. -/
theorem collect_done {after : Database} {summary : Summary}
    (collected : collect py now maxAge db (.arr entries) pools = (after, .ok summary)) :
    Written py pools ∧ Written py (.arr entries) ∧ ∃ last,
      collectWorkers py now maxAge { db } entries = .ok last ∧
        summary.received = entries.length ∧ summary.counts = last.counts ∧
          after.samples = last.db.samples := by
  unfold collect at collected
  dsimp only at collected
  cases transacted : transact py now maxAge db entries pools with
  | error fault =>
      rw [transacted] at collected
      cases collected
  | ok pair =>
      rw [transacted] at collected
      cases collected
      simp only [transact, bind_ok] at transacted
      rcases transacted with
        ⟨generated, -, last, passed, poolHash, hashed, workersHash, written, same⟩
      cases same
      refine ⟨digest_ok.mp ⟨poolHash, hashed⟩, digest_ok.mp ⟨workersHash, written⟩, last, passed, ?_⟩
      exact ⟨rfl, rfl, rfl⟩

/-- With a valid pool summary, `collect` returns where the entries are read and written. -/
theorem collect_returns (valid : ∃ generated, readPools now maxAge pools = .ok generated)
    (summarised : Written py pools) (written : Written py (.arr entries)) {last : Progress}
    (passed : collectWorkers py now maxAge { db } entries = .ok last) :
    ∃ summary, (collect py now maxAge db (.arr entries) pools).2 = .ok summary ∧
      summary.received = entries.length ∧ summary.counts = last.counts ∧
        (collect py now maxAge db (.arr entries) pools).1.samples = last.db.samples := by
  rcases valid with ⟨⟨time, count⟩, valid⟩
  rcases digest_ok.mpr summarised with ⟨poolHash, first⟩
  rcases digest_ok.mpr written with ⟨workersHash, second⟩
  have transacted : ∃ pair, transact py now maxAge db entries pools = .ok pair ∧
      pair.2.received = entries.length ∧ pair.2.counts = last.counts ∧
        pair.1.samples = last.db.samples := by
    let summary : Summary :=
      { collectedAt := now, received := entries.length, counts := last.counts
        reasons := last.reasons, poolGeneratedAt := time, poolCount := count, poolHash, workersHash }
    let others := last.db.collections.filter fun own => own.collectedAt ≠ now
    refine ⟨({ last.db with collections := others ++ [summary] }, summary), ?_, rfl, rfl, rfl⟩
    simp only [transact, bind_ok]
    exact ⟨(time, count), valid, last, passed, poolHash, first, workersHash, second, rfl⟩
  rcases transacted with ⟨pair, same, received, counts, samples⟩
  unfold collect
  dsimp only
  rw [same]
  exact ⟨pair.2, rfl, received, counts, samples⟩

theorem text_ok {row : Row} : (∃ payload, row.text py = .ok payload) ↔
    row.numbers.all (Number.isWritten py.digits) = true := by
  unfold Row.text
  by_cases written : row.numbers.all (Number.isWritten py.digits) = true
  · rw [if_pos written]
    exact iff_of_true ⟨_, rfl⟩ written
  · rw [if_neg written]
    apply iff_of_false
    · intro passed
      rcases passed with ⟨payload, impossible⟩
      cases impossible
    · exact written

theorem readRow_accepted {salt : Bytes} {worker : Dict} (written : Written py (.obj worker))
    (accepted : isAccepted py now maxAge salt (.obj worker) = true)
    (finite : Finite py now maxAge worker) :
    ∃ pair, readRow py now maxAge salt worker = .ok pair := by
  cases normalized : normalize py now maxAge salt worker with
  | error fault =>
      unfold isAccepted at accepted
      dsimp only at accepted
      rw [normalized] at accepted
      cases accepted
  | ok row =>
      have steps := normalized
      simp only [normalize, bind_ok] at steps
      rcases steps with ⟨sample, read, data, listed, telemetry, summed, made⟩
      rcases @rowOf_ok py worker salt sample.1 sample.2 telemetry written with ⟨own, same, numbers⟩
      rw [same] at made
      cases made
      have fits := finite sample data telemetry read listed summed
      rw [← numbers] at fits
      rcases text_ok.mpr fits with ⟨payload, text⟩
      refine ⟨(row, payload), ?_⟩
      simp only [readRow, bind_ok]
      exact ⟨row, normalized, payload, text, rfl⟩

theorem finite_of_readRow {salt : Bytes} {worker : Dict} (written : Written py (.obj worker))
    (able : isAccepted py now maxAge salt (.obj worker) = true →
      ∃ pair, readRow py now maxAge salt worker = .ok pair) : Finite py now maxAge worker := by
  intro sample data telemetry read listed summed
  rcases @rowOf_ok py worker salt sample.1 sample.2 telemetry written with ⟨row, made, numbers⟩
  have normalized : normalize py now maxAge salt worker = .ok row := by
    simp only [normalize, bind_ok]
    exact ⟨sample, read, data, listed, telemetry, summed, made⟩
  have accepted : isAccepted py now maxAge salt (.obj worker) = true := by
    unfold isAccepted
    dsimp only
    rw [normalized]
  rcases able accepted with ⟨pair, full⟩
  simp only [readRow, bind_ok] at full
  rcases full with ⟨own, same, payload, text, -⟩
  rw [normalized] at same
  cases same
  rw [← numbers]
  exact text_ok.mp ⟨payload, text⟩

/-- Malformed entries do no harm exactly where everything can be written and read. -/
theorem isolated_iff (valid : ∃ generated, readPools now maxAge pools = .ok generated) :
    Isolated py now maxAge db entries pools ↔ Collectable py now maxAge entries pools := by
  constructor
  · intro isolated
    rcases isolated.returned with ⟨summary, returned, -⟩
    rcases collect_done (Prod.ext rfl returned) with ⟨summarised, written, last, passed, -⟩
    have each : ∀ entry ∈ entries, Written py entry := fun entry member => written.item member
    refine ⟨summarised, written, (collectWorkers_ok each).mp ⟨last, passed⟩, ?_⟩
    intro worker member
    rcases isolated.recorded summary returned with ⟨own, alone, excluded, -⟩
    rcases collect_done (Prod.ext rfl alone) with ⟨-, -, ends, run, -, counts, -⟩
    have rows := (collectWorkers_read run).2 (by rw [← counts, excluded])
    apply finite_of_readRow (each _ member)
    intro accepted
    rcases rows _ (List.mem_filter.mpr ⟨member, accepted⟩) with ⟨other, pair, same, read⟩
    cases same
    exact ⟨pair, read⟩
  · intro collectable
    have each : ∀ entry ∈ entries, Written py entry :=
      fun entry member => collectable.written.item member
    have able : ∃ last, collectWorkers py now maxAge { db } entries = .ok last :=
      (collectWorkers_ok each).mpr collectable.tame
    rcases able with ⟨last, passed⟩
    rcases collect_returns valid collectable.summarised collectable.written passed with
      ⟨summary, returned, received, counts, samples⟩
    have total := collectWorkers_total passed
    constructor
    · refine ⟨summary, returned, received, ?_⟩
      rw [counts]
      exact total.trans (Nat.zero_add _)
    · intro own same
      rw [returned] at same
      cases same
      have able (worker : Dict) (member : .obj worker ∈ entries)
          (accepted : isAccepted py now maxAge db.salt (.obj worker) = true) :=
        readRow_accepted (each _ member) accepted (collectable.finite worker member)
      have alone : ∃ ends, collectWorkers py now maxAge { db }
          (entries.filter (isAccepted py now maxAge db.salt)) = .ok ends ∧
            ends.core = last.core ∧ ends.counts.excluded = 0 :=
        collectWorkers_alone passed rfl rfl able
      rcases alone with ⟨ends, run, core, excluded⟩
      have fewer : Written py (.arr (entries.filter (isAccepted py now maxAge db.salt))) := by
        apply dump_arr.mpr
        have all := dump_arr.mp collectable.written
        exact ⟨all.1, fun entry member => all.2 entry (List.mem_filter.mp member).1⟩
      rcases collect_returns valid collectable.summarised fewer run with ⟨other, ran, -, counted, recorded⟩
      refine ⟨other, ran, ?_, ?_, ?_, ?_⟩
      · rw [counted, excluded]
      · rw [counted, counts]
        exact congrArg Core.inserted core
      · rw [counted, counts]
        exact congrArg Core.duplicates core
      · rw [recorded, samples]
        exact congrArg Core.samples core

end Isolation

section Samples

def sampleWorker (data : List Json) : Dict :=
  [("user", .str "test"), ("worker", .str "worker"), ("machinename", .str "host"),
    ("cpu", .str "cpu"), ("lastseen", .int 1000), ("online", .bool true),
    ("status", .str "Running"), ("powerdraw", .int 100), ("data", .arr data)]

def sampleMiner : Json :=
  .obj [("Name", .str "miner"), ("Version", .str "1"), ("Algorithm", .arr [.str "RandomX"]),
    ("Pool", .arr [.str "Zpool"]),
    ("Devices", .arr [.obj [("Id", .int 0), ("Name", .str "CPU"), ("Temp", .int 50)]]),
    ("BTC/day", .int 0), ("Benchmarking", .bool false), ("Donator", .bool false),
    ("Accepted", .arr [.int 100]), ("Rejected", .arr [.int 0]), ("Stale", .arr [.int 0])]

def samplePools : Json := .obj [("generated_at", .int 1000), ("pools", .arr [])]

def sampleSalt : Bytes := List.replicate 32 0

/-- The hashes of the texts of the samples, which differ in length. -/
def samplePython : Python where
  digits := 4300
  nesting := 1000
  conv :=
    { str := fun _ => "0"
      float := fun _ => none
      int := fun _ => none
      error := fun text _ => text }
  hmac _ _ := "f670dcecb337a9858feaf46e9ce354ae64dd217b79e510fd21fd2e254a136197"
  sha256 text :=
    match text.length with
    | 32 => "6f61685dbff264c37f9c94c82c81826c93f07ccffbdc549a788d1ce9a96f0e07"
    | 49 => "8aa370dc26272e53592042c1193f56a15fc3fd47e5f9b8d20dbf85764d52c536"
    | 112 => "ea58a210818cd46aab2dc790e8008220161846516b0bc1d41bce575196b1db4c"
    | 351 => "765bc226dd757a0075c151cbf1f88824dd01feb97ab9841c1142fe382abad86f"
    | _ => "9afff536b8dc0e3938867049a93fa96458cd8f6b84ce9e04ba533bf46dadfd8e"

theorem sampleWorker_read : ∃ pair,
    readRow samplePython 1000 300 sampleSalt (sampleWorker [sampleMiner]) = .ok pair := by
  have passed : (readRow samplePython 1000 300 sampleSalt
      (sampleWorker [sampleMiner])).toBool = true := by decide +kernel
  cases read : readRow samplePython 1000 300 sampleSalt (sampleWorker [sampleMiner]) with
  | ok pair => exact ⟨pair, rfl⟩
  | error fault =>
      rw [read] at passed
      cases passed

theorem sampleWorker_collectable : Collectable samplePython 1000 300
    [.null, .obj (sampleWorker [sampleMiner])] samplePools := by
  have written : Written samplePython (.arr [.null, .obj (sampleWorker [sampleMiner])]) := by
    unfold Written
    decide +kernel
  have own : Written samplePython (.obj (sampleWorker [sampleMiner])) :=
    written.item (List.mem_cons_of_mem _ List.mem_cons_self)
  have only (worker : Dict)
      (member : .obj worker ∈ [Json.null, .obj (sampleWorker [sampleMiner])]) :
      worker = sampleWorker [sampleMiner] := by
    rcases List.mem_cons.mp member with impossible | later
    · cases impossible
    · cases List.mem_singleton.mp later
      rfl
  constructor
  · unfold Written
    decide +kernel
  · exact written
  · intro worker member
    rw [only worker member, ← @normalize_escapes _ _ _ _ sampleSalt own, ← readRow_escapes]
    rcases sampleWorker_read with ⟨pair, read⟩
    rw [read]
    exact escapes_ok
  · intro worker member
    rw [only worker member]
    exact finite_of_readRow own fun _ => sampleWorker_read

theorem absentWorker_isolated : Isolated samplePython 1000 300 { salt := sampleSalt }
    [.null, .obj (sampleWorker [sampleMiner])] samplePools :=
  (isolated_iff ⟨(1000, 0), by decide +kernel⟩).mpr sampleWorker_collectable

/-- A worker with a miner that is no object takes the others with it. -/
theorem absentMiner_spoils :
    readPools 1000 300 samplePools = .ok (1000, 0) ∧
      isAccepted samplePython 1000 300 sampleSalt (.obj (sampleWorker [sampleMiner])) = true ∧
        (collect samplePython 1000 300 { salt := sampleSalt }
          (.arr [.obj (sampleWorker [sampleMiner]), .obj (sampleWorker [.null])])
            samplePools).2 = .error .attribute ∧
          ¬Isolated samplePython 1000 300 { salt := sampleSalt }
            [.obj (sampleWorker [sampleMiner]), .obj (sampleWorker [.null])] samplePools := by
  have raised : (collect samplePython 1000 300 { salt := sampleSalt }
      (.arr [.obj (sampleWorker [sampleMiner]), .obj (sampleWorker [.null])])
        samplePools).2 = .error .attribute := by decide +kernel
  refine ⟨by decide +kernel, by decide +kernel, raised, ?_⟩
  intro isolated
  rcases isolated.returned with ⟨summary, returned, -⟩
  rw [raised] at returned
  cases returned

end Samples

end HashBurst.Accelerator
