import HashBurst.Lib.Machine
import HashBurst.Tep.Receive

/-! The nonces of the packets that endpoints build (`_next_counter` and `_build_packet` in
`hb_tep.py`): the seconds of the sender's clock and a counter of its process. -/

namespace HashBurst.Tep

open Lib Lib.Py

/-- A node that builds packets; `encrypt` is AES-GCM. -/
structure Sender where
  nodeId : String
  crypto : Crypto
  encrypt : Bytes → Key → Bytes → Bytes

/-- Where a call of `_build_packet` stands: the clock is read, the counter is loaded, its successor
is stored, the counter is loaded again as the packet's number. -/
inductive Building.Stage
  | timed (second : Nat)
  | loaded (second value : Nat)
  | stored (second value : Nat)
  | numbered (second number : Nat)

structure Building where
  type : UInt8
  plain : Bytes
  key : Key
  stage : Building.Stage

/-- A process of an endpoint: how often the endpoint was restarted before it, its `_counter` and
its threads. -/
structure Process where
  start : Nat := 0
  counter : Nat := 0
  threads : Nat → Option Building := fun _ => none

structure Numbering (ε : Type) where
  endpoint : ε
  start : Nat
  key : Key
  second : Nat
  number : Nat
  plain : Bytes
  deriving DecidableEq

/-- A call of `encrypt`, and the datagram around what it returned. -/
structure Encryption (ε : Type) where
  endpoint : ε
  key : Key
  nonce : Bytes
  plain : Bytes
  packet : Option Bytes

structure Traffic (ε : Type) where
  processes : ε → Process := fun _ => {}
  numbered : List (Numbering ε) := []
  encrypted : List (Encryption ε) := []

inductive Traffic.Label (ε : Type)
  | call (endpoint : ε) (thread : Nat) (pubkey : Option String) (type : UInt8) (plain : Bytes)
      (second : Int)
  | step (endpoint : ε) (thread : Nat)
  | restart (endpoint : ε)

/-- What `_build_packet` makes of a number. -/
def Sender.encryption {ε : Type} (sender : Sender) (endpoint : ε) (type : UInt8) (key : Key)
    (second number : Nat) (plain : Bytes) : Encryption ε :=
  let nonce := packNonce second number
  { endpoint, key, nonce, plain
    packet := buildPacket sender.nodeId type nonce (sender.encrypt plain key nonce) }

def Process.put (process : Process) (thread : Nat) (building : Option Building) : Process :=
  { process with threads := Function.update process.threads thread building }

section Run

variable {ε : Type} [DecidableEq ε]

def Traffic.put (state : Traffic ε) (endpoint : ε) (process : Process) : Traffic ε :=
  { state with processes := Function.update state.processes endpoint process }

def Traffic.advance (senders : ε → Sender) (state : Traffic ε) (endpoint : ε) (thread : Nat)
    (building : Building) : Traffic ε :=
  let process := state.processes endpoint
  let moved (stage : Building.Stage) := process.put thread (some { building with stage })
  match building.stage with
  | .timed second => state.put endpoint (moved (.loaded second process.counter))
  | .loaded second value =>
      state.put endpoint { moved (.stored second (value + 1)) with counter := value + 1 }
  | .stored second _ =>
      { state.put endpoint (moved (.numbered second process.counter)) with
        numbered := ⟨endpoint, process.start, building.key, second, process.counter,
          building.plain⟩ :: state.numbered }
  | .numbered second number =>
      { state.put endpoint (process.put thread none) with
        encrypted := (senders endpoint).encryption endpoint building.type building.key second number
          building.plain :: state.encrypted }

/-- Endpoints that send packets and are restarted. A call needs a key and a time that `struct.pack`
takes; where it has none it raises before it touches the counter. -/
def Traffic.machine (senders : ε → Sender) : Machine (Traffic ε) (Traffic.Label ε) where
  next state
    | .call endpoint thread pubkey type plain second =>
        match (state.processes endpoint).threads thread,
          (senders endpoint).crypto.deriveSharedKey pubkey with
        | none, some key =>
            if 0 ≤ second ∧ second < 2 ^ 64 then
              some (state.put endpoint ((state.processes endpoint).put thread
                (some { type, plain, key, stage := .timed second.toNat })))
            else none
        | _, _ => none
    | .step endpoint thread =>
        ((state.processes endpoint).threads thread).map
          (state.advance senders endpoint thread)
    | .restart endpoint =>
        some (state.put endpoint { start := (state.processes endpoint).start + 1 })

/-- The two keys are the one on which two endpoints agree; the key of the fallback without
cryptography never leaves its host. -/
def Key.Shared (first second : Key) : Prop := first = second ∧ first ≠ .hmac

instance (first second : Key) : Decidable (Key.Shared first second) :=
  inferInstanceAs (Decidable (_ ∧ _))

/-- No two plaintexts were encrypted under one key and one nonce. -/
def Traffic.NoncesUnique (state : Traffic ε) : Prop :=
  ∀ first ∈ state.encrypted, ∀ second ∈ state.encrypted, Key.Shared first.key second.key →
    first.nonce = second.nonce → first.plain = second.plain

/-- The number is free for a packet of this process: among the packets for the same key in the same
second, no other process, and no earlier round of this counter, has given a number with the same
low 32 bits. -/
def Traffic.Free (state : Traffic ε) (endpoint : ε) (building : Building) (second : Nat) : Prop :=
  let process := state.processes endpoint
  ∀ old ∈ state.numbered, old.second = second →
    old.number % 2 ^ 32 = process.counter % 2 ^ 32 →
    ¬ (old.endpoint = endpoint ∧ old.start = process.start ∧ old.number = process.counter) →
    Key.Shared old.key building.key → old.plain = building.plain

/-- No thread stores the counter between another one's load and store or store and load, and each
number is free where it is given. -/
def Traffic.Undisturbed (state : Traffic ε) : Traffic.Label ε → Prop
  | .step endpoint thread =>
      match (state.processes endpoint).threads thread with
      | some building =>
          match building.stage with
          | .loaded _ value => value = (state.processes endpoint).counter
          | .stored second value =>
              value = (state.processes endpoint).counter ∧ state.Free endpoint building second
          | _ => True
      | none => True
  | _ => True

instance (state : Traffic ε) (endpoint : ε) (building : Building) (second : Nat) :
    Decidable (state.Free endpoint building second) :=
  inferInstanceAs (Decidable (∀ old ∈ state.numbered, _ → _ → _ → _ → _))

instance (state : Traffic ε) (label : Traffic.Label ε) : Decidable (state.Undisturbed label) := by
  unfold Traffic.Undisturbed
  split
  · split
    · split <;> infer_instance
    · infer_instance
  · infer_instance

end Run

/-- Equal nonces carry the same second and the same low 32 bits of the number. -/
theorem packNonce_inj {second other number last : Nat} (early : second < 2 ^ 64)
    (late : other < 2 ^ 64) (same : packNonce second number = packNonce other last) :
    second = other ∧ number % 2 ^ 32 = last % 2 ^ 32 := by
  have sized : (Bytes.bigEndian 8 second).length = (Bytes.bigEndian 8 other).length := by
    rw [Bytes.bigEndian_length, Bytes.bigEndian_length]
  have parts := List.append_inj same sized
  have low (value : Nat) : value % 2 ^ 32 < 256 ^ 4 := by
    have bound := Nat.mod_lt value (show 0 < 2 ^ 32 by decide)
    omega
  constructor
  · exact Bytes.bigEndian_inj (by omega) (by omega) parts.1
  · exact Bytes.bigEndian_inj (low number) (low last) parts.2

def Building.Stage.storedValue : Building.Stage → Option Nat
  | .stored _ value => some value
  | _ => none

section Invariant

variable {ε : Type} {numbered : List (Numbering ε)} {endpoint : ε} {process : Process}
  {thread : Nat} {building : Building} {second value : Nat}

def Numbering.Of (old : Numbering ε) (endpoint : ε) (process : Process) : Prop :=
  old.endpoint = endpoint ∧ old.start = process.start

/-- A stored value is one that no packet of the process has been given. -/
def Building.Placed (building : Building) (numbered : List (Numbering ε)) (endpoint : ε)
    (process : Process) : Prop :=
  match building.stage with
  | .timed second => second < 2 ^ 64
  | .loaded second _ => second < 2 ^ 64
  | .stored second value =>
      second < 2 ^ 64 ∧ value ≤ process.counter ∧
        ∀ old ∈ numbered, old.Of endpoint process → old.number ≠ value
  | .numbered second number =>
      ∃ old ∈ numbered, old.key = building.key ∧ old.second = second ∧ old.number = number ∧
        old.plain = building.plain

/-- The counter has reached every number of its process, and no two threads have stored the same
value. -/
structure Process.Orderly (process : Process) (numbered : List (Numbering ε)) (endpoint : ε) :
    Prop where
  past : ∀ old ∈ numbered, old.endpoint = endpoint → old.start ≤ process.start
  bounded : ∀ old ∈ numbered, old.Of endpoint process → old.number ≤ process.counter
  placed : ∀ thread building, process.threads thread = some building →
    building.Placed numbered endpoint process
  distinct : ∀ first second one other value, process.threads first = some one →
    process.threads second = some other → one.stage.storedValue = some value →
    other.stage.storedValue = some value → first = second

theorem Building.Placed.timely (placed : building.Placed numbered endpoint process)
    (stage : building.stage = .timed second) : second < 2 ^ 64 := by
  unfold Building.Placed at placed
  rw [stage] at placed
  exact placed

theorem Building.Placed.early (placed : building.Placed numbered endpoint process)
    (stage : building.stage = .loaded second value) : second < 2 ^ 64 := by
  unfold Building.Placed at placed
  rw [stage] at placed
  exact placed

theorem Building.Placed.fresh (placed : building.Placed numbered endpoint process)
    (stage : building.stage = .stored second value) :
    second < 2 ^ 64 ∧ value ≤ process.counter ∧
      ∀ old ∈ numbered, old.Of endpoint process → old.number ≠ value := by
  unfold Building.Placed at placed
  rw [stage] at placed
  exact placed

theorem Building.Placed.given {number : Nat} (placed : building.Placed numbered endpoint process)
    (stage : building.stage = .numbered second number) :
    ∃ old ∈ numbered, old.key = building.key ∧ old.second = second ∧ old.number = number ∧
      old.plain = building.plain := by
  unfold Building.Placed at placed
  rw [stage] at placed
  exact placed

theorem Building.Placed.grow {after : Process} (placed : building.Placed numbered endpoint process)
    (same : after.start = process.start) (grown : process.counter ≤ after.counter) :
    building.Placed numbered endpoint after := by
  have ofSame (old : Numbering ε) (of : old.Of endpoint after) : old.Of endpoint process :=
    ⟨of.1, of.2.trans same⟩
  cases stage : building.stage with
  | timed second =>
      have early := placed.timely stage
      simpa only [Building.Placed, stage] using early
  | loaded second value =>
      have early := placed.early stage
      simpa only [Building.Placed, stage] using early
  | stored second value =>
      have fresh := placed.fresh stage
      simp only [Building.Placed, stage]
      exact ⟨fresh.1, fresh.2.1.trans grown, fun old member of =>
        fresh.2.2 old member (ofSame old of)⟩
  | numbered second number =>
      have given := placed.given stage
      simpa only [Building.Placed, stage] using given

theorem Building.Placed.cons {new : Numbering ε}
    (placed : building.Placed numbered endpoint process)
    (differs : ∀ value, building.stage.storedValue = some value → new.Of endpoint process →
      new.number ≠ value) :
    building.Placed (new :: numbered) endpoint process := by
  cases stage : building.stage with
  | timed second =>
      have early := placed.timely stage
      simpa only [Building.Placed, stage] using early
  | loaded second value =>
      have early := placed.early stage
      simpa only [Building.Placed, stage] using early
  | stored second value =>
      have fresh := placed.fresh stage
      simp only [Building.Placed, stage]
      refine ⟨fresh.1, fresh.2.1, ?_⟩
      intro old member of
      rcases List.mem_cons.mp member with rfl | earlier
      · exact differs value (by rw [stage]; rfl) of
      · exact fresh.2.2 old earlier of
  | numbered second number =>
      have given := placed.given stage
      simp only [Building.Placed, stage]
      obtain ⟨old, member, data⟩ := given
      exact ⟨old, List.mem_cons_of_mem new member, data⟩

theorem Process.put_cases {moved : Option Building} {place : Nat} {found : Building}
    (present : (process.put thread moved).threads place = some found) :
    (place = thread ∧ moved = some found) ∨
      (place ≠ thread ∧ process.threads place = some found) := by
  unfold Process.put at present
  by_cases here : place = thread
  · subst here
    simp only [Function.update_self] at present
    exact .inl ⟨rfl, present⟩
  · simp only [Function.update_of_ne here] at present
    exact .inr ⟨here, present⟩

/-- The other threads stay where they are, and the one that moves has stored nothing. -/
theorem Process.Orderly.put {moved : Option Building}
    (orderly : process.Orderly numbered endpoint)
    (placed : ∀ building, moved = some building → building.Placed numbered endpoint process)
    (unstored : ∀ building, moved = some building → building.stage.storedValue = none) :
    (process.put thread moved).Orderly numbered endpoint where
  past := orderly.past
  bounded := orderly.bounded
  placed place building present := by
    rcases Process.put_cases present with ⟨-, here⟩ | ⟨-, earlier⟩
    · exact (placed building here).grow rfl le_rfl
    · exact (orderly.placed place building earlier).grow rfl le_rfl
  distinct first second one other value found found' stored stored' := by
    rcases Process.put_cases found with ⟨-, here⟩ | ⟨-, earlier⟩
    · rw [unstored one here] at stored
      cases stored
    · rcases Process.put_cases found' with ⟨-, here⟩ | ⟨-, earlier'⟩
      · rw [unstored other here] at stored'
        cases stored'
      · exact orderly.distinct first second one other value earlier earlier' stored stored'

/-- A store of the next value: no packet has been given it and no thread has stored it. -/
theorem Process.Orderly.store (orderly : process.Orderly numbered endpoint)
    (early : second < 2 ^ 64) :
    Process.Orderly
      { process.put thread (some { building with stage := .stored second (process.counter + 1) })
        with counter := process.counter + 1 } numbered endpoint where
  past := orderly.past
  bounded old member of := (orderly.bounded old member of).trans (Nat.le_succ _)
  placed place found present := by
    rcases Process.put_cases present with ⟨-, here⟩ | ⟨-, earlier⟩
    · cases here
      refine ⟨early, le_rfl, ?_⟩
      intro old member of
      have bound := orderly.bounded old member of
      omega
    · exact (orderly.placed place found earlier).grow rfl (Nat.le_succ _)
  distinct first last one other value found found' stored stored' := by
    -- What the others have stored the counter has reached already.
    have reached : ∀ place found, process.threads place = some found →
        found.stage.storedValue = some value → value ≤ process.counter := by
      intro place found present stored
      have placed := orderly.placed place found present
      cases stage : found.stage with
      | stored second stored' =>
          rw [stage] at stored
          have fresh := placed.fresh stage
          cases stored
          exact fresh.2.1
      | timed second => rw [stage] at stored; cases stored
      | loaded second held => rw [stage] at stored; cases stored
      | numbered second number => rw [stage] at stored; cases stored
    rcases Process.put_cases found with ⟨place, here⟩ | ⟨-, earlier⟩
    · rcases Process.put_cases found' with ⟨place', -⟩ | ⟨-, earlier'⟩
      · exact place.trans place'.symm
      · have bound := reached last other earlier' stored'
        cases here
        cases stored
        omega
    · rcases Process.put_cases found' with ⟨-, here⟩ | ⟨-, earlier'⟩
      · have bound := reached first one earlier stored
        cases here
        cases stored'
        omega
      · exact orderly.distinct first last one other value earlier earlier' stored stored'

/-- The thread that gives the counter's value as a number is the one that stored it. -/
theorem Process.Orderly.number (orderly : process.Orderly numbered endpoint)
    (present : process.threads thread = some building)
    (stage : building.stage = .stored second process.counter) :
    Process.Orderly
      (process.put thread (some { building with stage := .numbered second process.counter }))
      (⟨endpoint, process.start, building.key, second, process.counter, building.plain⟩ ::
        numbered) endpoint where
  past old member here := by
    rcases List.mem_cons.mp member with rfl | earlier
    · exact le_rfl
    · exact orderly.past old earlier here
  bounded old member of := by
    rcases List.mem_cons.mp member with rfl | earlier
    · exact le_rfl
    · exact orderly.bounded old earlier of
  placed place found given := by
    rcases Process.put_cases given with ⟨-, here⟩ | ⟨apart, earlier⟩
    · cases here
      exact ⟨_, List.mem_cons_self, rfl, rfl, rfl, rfl⟩
    · -- Two threads would have stored the counter's value.
      have differs : ∀ value, found.stage.storedValue = some value → process.counter ≠ value := by
        intro value stored same
        have mine : building.stage.storedValue = some value := by
          rw [stage, ← same]
          rfl
        exact apart (orderly.distinct place thread found building value earlier present stored mine)
      exact ((orderly.placed place found earlier).cons fun value stored _ =>
        differs value stored).grow rfl le_rfl
  distinct first last one other value found found' stored stored' := by
    rcases Process.put_cases found with ⟨-, here⟩ | ⟨-, earlier⟩
    · cases here
      cases stored
    · rcases Process.put_cases found' with ⟨-, here⟩ | ⟨-, earlier'⟩
      · cases here
        cases stored'
      · exact orderly.distinct first last one other value earlier earlier' stored stored'

theorem Process.Orderly.other (orderly : process.Orderly numbered endpoint) {new : Numbering ε}
    (elsewhere : new.endpoint ≠ endpoint) : process.Orderly (new :: numbered) endpoint where
  past old member here := by
    rcases List.mem_cons.mp member with rfl | earlier
    · exact absurd here elsewhere
    · exact orderly.past old earlier here
  bounded old member of := by
    rcases List.mem_cons.mp member with rfl | earlier
    · exact absurd of.1 elsewhere
    · exact orderly.bounded old earlier of
  placed thread building present :=
    (orderly.placed thread building present).cons fun _ _ of => absurd of.1 elsewhere
  distinct := orderly.distinct

theorem Process.Orderly.restart (orderly : process.Orderly numbered endpoint) :
    Process.Orderly { start := process.start + 1 } numbered endpoint where
  past old member here := (orderly.past old member here).trans (Nat.le_succ _)
  bounded old member of := by
    have bound := orderly.past old member of.1
    have start : old.start = process.start + 1 := of.2
    omega
  placed thread building present := by cases present
  distinct first second one other value found := by cases found

end Invariant

section Runs

variable {ε : Type} {state after : Traffic ε} {endpoint : ε} {thread : Nat} {building : Building}
  {second value : Nat}

def Numbering.Clash (first second : Numbering ε) : Prop :=
  Key.Shared first.key second.key ∧ first.second = second.second ∧
    first.number % 2 ^ 32 = second.number % 2 ^ 32

theorem Numbering.Clash.symm {first second : Numbering ε} (clash : first.Clash second) :
    second.Clash first :=
  ⟨⟨clash.1.1.symm, fun hmac => clash.1.2 (clash.1.1.trans hmac)⟩, clash.2.1.symm,
    clash.2.2.symm⟩

structure Traffic.Orderly (state : Traffic ε) : Prop where
  processes : ∀ endpoint, (state.processes endpoint).Orderly state.numbered endpoint
  timely : ∀ old ∈ state.numbered, old.second < 2 ^ 64
  apart : ∀ first ∈ state.numbered, ∀ second ∈ state.numbered, first.Clash second →
    first.plain = second.plain
  recorded : ∀ entry ∈ state.encrypted, ∃ old ∈ state.numbered, old.key = entry.key ∧
    entry.nonce = packNonce old.second old.number ∧ old.plain = entry.plain

theorem Traffic.Orderly.unique (orderly : state.Orderly) : state.NoncesUnique := by
  intro first member second member' shared same
  obtain ⟨one, numbered, key, nonce, plain⟩ := orderly.recorded first member
  obtain ⟨other, numbered', key', nonce', plain'⟩ := orderly.recorded second member'
  have packed : packNonce one.second one.number = packNonce other.second other.number := by
    rw [← nonce, ← nonce', same]
  have parts := packNonce_inj (orderly.timely one numbered) (orderly.timely other numbered') packed
  have clash : one.Clash other := by
    refine ⟨?_, parts.1, parts.2⟩
    rw [key, key']
    exact shared
  calc
    first.plain = one.plain := plain.symm
    _ = other.plain := orderly.apart one numbered other numbered' clash
    _ = second.plain := plain'

theorem Traffic.Orderly.initial : Traffic.Orderly ({} : Traffic ε) where
  processes endpoint :=
    { past := fun old member => absurd member List.not_mem_nil
      bounded := fun old member => absurd member List.not_mem_nil
      placed := fun thread building present => by cases present
      distinct := fun first second one other value found => by cases found }
  timely old member := absurd member List.not_mem_nil
  apart first member := absurd member List.not_mem_nil
  recorded entry member := absurd member List.not_mem_nil

variable [DecidableEq ε] {senders : ε → Sender}

/-- A process that was replaced by an orderly one, and the others. -/
theorem Traffic.Orderly.put {process : Process} (orderly : state.Orderly)
    (replaced : process.Orderly state.numbered endpoint) :
    (state.put endpoint process).Orderly where
  processes other := by
    simp only [Traffic.put]
    by_cases here : other = endpoint
    · subst here
      rw [Function.update_self]
      exact replaced
    · rw [Function.update_of_ne here]
      exact orderly.processes other
  timely := orderly.timely
  apart := orderly.apart
  recorded := orderly.recorded

theorem Traffic.Orderly.number (orderly : state.Orderly)
    (present : (state.processes endpoint).threads thread = some building)
    (stage : building.stage = .stored second value)
    (kept : value = (state.processes endpoint).counter)
    (free : state.Free endpoint building second) :
    (state.advance senders endpoint thread building).Orderly := by
  have fresh := ((orderly.processes endpoint).placed thread building present).fresh stage
  subst kept
  unfold Traffic.advance
  rw [stage]
  refine ⟨?_, ?_, ?_, ?_⟩
  · intro other
    simp only [Traffic.put]
    by_cases here : other = endpoint
    · subst here
      rw [Function.update_self]
      exact (orderly.processes other).number present stage
    · rw [Function.update_of_ne here]
      exact (orderly.processes other).other (Ne.symm here)
  · intro old member
    rcases List.mem_cons.mp member with rfl | earlier
    · exact fresh.1
    · exact orderly.timely old earlier
  · -- Within the process no number comes twice; among processes the number is free.
    have clear : ∀ old ∈ state.numbered,
        old.Clash ⟨endpoint, (state.processes endpoint).start, building.key, second,
          (state.processes endpoint).counter, building.plain⟩ → old.plain = building.plain := by
      intro old member clash
      have apart : ¬ (old.endpoint = endpoint ∧ old.start = (state.processes endpoint).start ∧
          old.number = (state.processes endpoint).counter) := by
        rintro ⟨here, start, number⟩
        exact fresh.2.2 old member ⟨here, start⟩ number
      exact free old member clash.2.1 clash.2.2 apart clash.1
    intro first member last member' clash
    rcases List.mem_cons.mp member with rfl | earlier
    · rcases List.mem_cons.mp member' with rfl | earlier'
      · rfl
      · exact (clear last earlier' clash.symm).symm
    · rcases List.mem_cons.mp member' with rfl | earlier'
      · exact clear first earlier clash
      · exact orderly.apart first earlier last earlier' clash
  · intro entry member
    obtain ⟨old, numbered, data⟩ := orderly.recorded entry member
    exact ⟨old, List.mem_cons_of_mem _ numbered, data⟩

theorem Traffic.Orderly.encrypt (orderly : state.Orderly)
    (present : (state.processes endpoint).threads thread = some building)
    (stage : building.stage = .numbered second value) :
    (state.advance senders endpoint thread building).Orderly := by
  have placed := (orderly.processes endpoint).placed thread building present
  have cleared : (state.put endpoint
      ((state.processes endpoint).put thread none)).Orderly := by
    apply orderly.put
    apply (orderly.processes endpoint).put
    · intro building none
      cases none
    · intro building none
      cases none
  unfold Traffic.advance
  rw [stage]
  refine ⟨cleared.processes, cleared.timely, cleared.apart, ?_⟩
  intro entry member
  rcases List.mem_cons.mp member with rfl | earlier
  · obtain ⟨old, numbered, key, timed, number, plain⟩ := placed.given stage
    refine ⟨old, numbered, key, ?_, plain⟩
    rw [timed, number]
    rfl
  · exact orderly.recorded entry earlier

theorem Traffic.Orderly.advance (orderly : state.Orderly)
    (present : (state.processes endpoint).threads thread = some building)
    (undisturbed : state.Undisturbed (.step endpoint thread)) :
    (state.advance senders endpoint thread building).Orderly := by
  have process := orderly.processes endpoint
  have placed := process.placed thread building present
  simp only [Traffic.Undisturbed, present] at undisturbed
  cases stage : building.stage with
  | timed second =>
      have early := placed.timely stage
      unfold Traffic.advance
      rw [stage]
      apply orderly.put
      apply process.put
      · intro moved here
        cases here
        exact early
      · intro moved here
        cases here
        rfl
  | loaded second value =>
      rw [stage] at undisturbed
      have early := placed.early stage
      unfold Traffic.advance
      rw [stage, undisturbed]
      exact orderly.put (process.store early)
  | stored second value =>
      rw [stage] at undisturbed
      exact orderly.number present stage undisturbed.1 undisturbed.2
  | numbered second number => exact orderly.encrypt present stage

theorem Traffic.Orderly.step {label : Traffic.Label ε} (orderly : state.Orderly)
    (undisturbed : state.Undisturbed label)
    (taken : (Traffic.machine senders).next state label = some after) : after.Orderly := by
  cases label with
  | call endpoint thread pubkey type plain second =>
      simp only [Traffic.machine] at taken
      split at taken
      · split at taken
        · rename_i fits
          cases taken
          apply orderly.put
          apply (orderly.processes endpoint).put
          · intro moved here
            cases here
            have early : second.toNat < 2 ^ 64 := by omega
            exact early
          · intro moved here
            cases here
            rfl
        · cases taken
      · cases taken
  | step endpoint thread =>
      simp only [Traffic.machine, Option.map_eq_some_iff] at taken
      obtain ⟨building, present, rfl⟩ := taken
      exact orderly.advance present undisturbed
  | restart endpoint =>
      simp only [Traffic.machine, Option.some.injEq] at taken
      rw [← taken]
      exact orderly.put (orderly.processes endpoint).restart

/-- Endpoints that share keys encrypt no two plaintexts under one key and one nonce, as long as
no two threads of a process are inside `_next_counter` at once and each packet's number is free. -/
theorem nonces_unique (senders : ε → Sender)
    (run : (Traffic.machine senders).Run Traffic.Undisturbed {} state) : state.NoncesUnique := by
  have orderly : state.Orderly :=
    Machine.Run.invariant Traffic.Orderly
      (fun _ _ _ orderly undisturbed taken => orderly.step undisturbed taken) run .initial
  exact orderly.unique

/-- A call that runs to its end gives its packet the number after the counter's. -/
theorem call_sends (state : Traffic ε) (thread : Nat) {key : Key} {pubkey : Option String}
    (idle : (state.processes endpoint).threads thread = none)
    (derived : (senders endpoint).crypto.deriveSharedKey pubkey = some key) (type : UInt8)
    (plain : Bytes) (early : second < 2 ^ 64) :
    ∃ after, (Traffic.machine senders).Run (fun _ _ => True) state after ∧
      (∀ other, other ≠ endpoint → after.processes other = state.processes other) ∧
      after.encrypted = (senders endpoint).encryption endpoint type key second
        ((state.processes endpoint).counter + 1) plain :: state.encrypted := by
  have fits : (0 : Int) ≤ (second : Int) ∧ (second : Int) < 2 ^ 64 := by omega
  have played : ∃ after, (Traffic.machine senders).play (fun _ _ => True) state
      (.call endpoint thread pubkey type plain second ::
        List.replicate 4 (.step endpoint thread)) = some after ∧
      (∀ other, other ≠ endpoint → after.processes other = state.processes other) ∧
      after.encrypted = (senders endpoint).encryption endpoint type key second
        ((state.processes endpoint).counter + 1) plain :: state.encrypted := by
    simp only [Machine.play, Traffic.machine, idle, derived, fits, and_self, if_true,
      Option.bind_some, List.replicate, Traffic.put, Process.put, Traffic.advance,
      Function.update_self, Option.map_some, Int.toNat_natCast]
    refine ⟨_, rfl, ?_, rfl⟩
    intro other apart
    simp only [Function.update_of_ne apart]
  obtain ⟨after, reached, data⟩ := played
  exact ⟨after, Machine.Run.of_play reached, data⟩

end Runs

section Sample

/-- The public keys of the private keys of 32 bytes 1 and of 32 bytes 2. -/
def samplePubkey (second : Bool) : String :=
  if second then "ce8d3ad1ccb633ec7b70c17814a5c76ecd029685050d344745ba05870e587d59"
  else "a4e09292b651c278b9772c569f5fa9bb13d906b46ab68c9df9dc2b4409f8a209"

def hexBytes (text : String) : Bytes := ((fromHex text.toList).getD []).map UInt8.ofNat

def sampleDigest : Bytes :=
  hexBytes "6435f48513e676181df138fa7bccc3a88bedc9dfc3191d0790dadf9bfce1d332"

def sampleSender (second : Bool) : Sender where
  nodeId := if second then "node-b" else "node-a"
  crypto :=
    { pubkey := hexBytes (samplePubkey second)
      exchange key := if key = hexBytes (samplePubkey !second) then some sampleDigest else none
      decrypt _ _ _ := none }
  encrypt plain _ _ := plain

/-- All operations of `_build_packet` for one packet of one endpoint. -/
def sampleBuild (sender : Bool) (plain : Bytes) (second : Int) : List (Traffic.Label Bool) :=
  .call sender 0 (some (samplePubkey !sender)) pktHeartbeat plain second ::
    List.replicate 4 (.step sender 0)

def sampleTraffic : List (Traffic.Label Bool) := sampleBuild false [1] 5 ++ sampleBuild false [2] 5

theorem nonces_unique_sample : ∃ state,
    (Traffic.machine sampleSender).Run Traffic.Undisturbed {} state ∧
      state.encrypted.map Encryption.plain = [[2], [1]] ∧ state.NoncesUnique := by
  have played : ((Traffic.machine sampleSender).play Traffic.Undisturbed {} sampleTraffic).map
      (fun state => state.encrypted.map Encryption.plain) = some [[2], [1]] := by decide +kernel
  obtain ⟨state, reached, plains⟩ := Option.map_eq_some_iff.mp played
  have run := Machine.Run.of_play reached
  exact ⟨state, run, plains, nonces_unique sampleSender run⟩

theorem sampleSender_derives (sender : Bool) :
    (sampleSender sender).crypto.deriveSharedKey (some (samplePubkey !sender)) =
      some (.agreed sampleDigest) := by
  cases sender <;> decide +kernel

/-- Two endpoints send each other their first packets in the same second. -/
theorem nonces_reused : ∃ state, (Traffic.machine sampleSender).Run (fun _ _ => True) {} state ∧
    ¬ state.NoncesUnique := by
  obtain ⟨middle, front, others, first⟩ :=
    call_sends ({} : Traffic Bool) 0 rfl (sampleSender_derives false) pktHeartbeat [1]
      (show 5 < 2 ^ 64 by decide)
  have idle : middle.processes true = {} := others true (by decide)
  obtain ⟨state, back, -, second⟩ :=
    call_sends middle 0 (by rw [idle]) (sampleSender_derives true) pktHeartbeat [2]
      (show 5 < 2 ^ 64 by decide)
  refine ⟨state, front.trans back, ?_⟩
  intro unique
  have newest : _ ∈ state.encrypted := List.mem_of_mem_head? (by rw [second]; rfl)
  have oldest : _ ∈ middle.encrypted := List.mem_of_mem_head? (by rw [first]; rfl)
  have kept : ∀ entry ∈ middle.encrypted, entry ∈ state.encrypted := by
    intro entry member
    rw [second]
    exact List.mem_cons_of_mem _ member
  have nonces : packNonce 5 ((middle.processes true).counter + 1) = packNonce 5 1 := by rw [idle]
  have shared : Key.Shared (.agreed sampleDigest) (.agreed sampleDigest) :=
    ⟨rfl, Key.noConfusion⟩
  have same : ([2] : Bytes) = [1] := unique _ newest _ (kept _ oldest) shared nonces
  exact absurd same (by decide)

end Sample

end HashBurst.Tep
