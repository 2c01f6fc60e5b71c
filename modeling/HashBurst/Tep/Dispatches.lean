import HashBurst.Tep.HaGate

namespace HashBurst.Tep

open Lib Lib.Py

def Outcome.dispatched : Outcome → Option ValidatedEnvelope
  | called env _ => some env
  | delivered inner _ => some inner
  | _ => none

/-- The peer id of the source, the request id and the timestamp. -/
abbrev Request := String × String × Int

def ValidatedEnvelope.request (env : ValidatedEnvelope) : Request :=
  (env.source.peerId, env.requestId, env.timestampMs)

def Done.dispatches (done : Done) (request : Request) : Bool :=
  done.outcome.dispatched.any fun env => env.request = request

def Daemon.dispatches (daemon : Daemon) (request : Request) : Nat :=
  daemon.done.countP fun done => done.dispatches request

/-- Fewer other keys than the replay cache holds are entered within one window after the entry of
the request. -/
def Daemon.Uncrowded (daemon : Daemon) (request : Request) : Prop :=
  ∀ done ∈ daemon.done, done.dispatches request = true → ∀ entry later,
    daemon.record.drop done.recorded = entry :: later →
    TtlCache.crowd replayCache.window entry later < replayCache.limit

/-- Time does not run back, wall and monotonic clock differ by a constant, and a handler asks the
replay cache within the budget after its datagram came. -/
def Timely (offset budget : ℚ) (daemon : Daemon) : DaemonLabel → Prop
  | .recv datagram =>
      daemon.time ≤ datagram.monotonic ∧ datagram.time = datagram.monotonic + offset
  | .run index clocks time => daemon.time ≤ time ∧ ∀ job ∈ daemon.jobs[index]?,
      job.datagram.time ≤ clocks.wall ∧ clocks.wall ≤ clocks.replay + offset ∧
        clocks.replay ≤ time ∧ time ≤ job.datagram.monotonic + budget
  | .elsewhere _ => True

/-- The longest delay with which no entry leaves the cache while a copy of it is fresh. -/
def delayBudget : ℚ := 79999 / 1000

section Handlers

variable {node : Receiver} {relay : RelayConfig} {engine : Engine} {replay : ReplayCache}
  {clocks : Clocks} {handler : Handler} {env : ValidatedEnvelope} {key : String × String}
  {peerId requestId : String} {now : ℚ}

theorem checkReplay_ok (passed : (checkReplay replay peerId requestId now).2.isOk = true) :
    (replay.checkAndAdd (peerId, requestId) now).2 = true ∧
      (checkReplay replay peerId requestId now).1 = (replay.checkAndAdd (peerId, requestId) now).1 := by
  unfold checkReplay at passed ⊢
  split
  · rename_i malformed
    rw [if_pos malformed] at passed
    cases passed
  · rename_i formed
    rw [if_neg formed] at passed
    rcases asked : replay.checkAndAdd (peerId, requestId) now with ⟨after, _ | _⟩
    · rw [asked] at passed
      cases passed
    · exact ⟨rfl, rfl⟩

/-- The cache after a check that failed: as it was, or with the expired entries gone. -/
theorem checkReplay_error (failed : (checkReplay replay peerId requestId now).2.isOk = false) :
    (checkReplay replay peerId requestId now).1 = replay ∨
      (replay.checkAndAdd (peerId, requestId) now).2 = false ∧
      (checkReplay replay peerId requestId now).1 = (replay.checkAndAdd (peerId, requestId) now).1 := by
  unfold checkReplay at failed ⊢
  split
  · exact .inl rfl
  · rename_i formed
    rw [if_neg formed] at failed
    rcases asked : replay.checkAndAdd (peerId, requestId) now with ⟨after, _ | _⟩
    · exact .inr ⟨rfl, rfl⟩
    · rw [asked] at failed
      cases failed

/-- A handler changes the cache by the one check that it makes, if it makes one. -/
theorem runHandler_replay : (runHandler node relay engine replay clocks handler).1 =
    match asksFor node relay clocks handler with
    | some key => (checkReplay replay key.1 key.2 clocks.replay).1
    | none => replay := by
  cases handler with
  | appRequest env peer ip port =>
      simp only [runHandler, handleAppRequest, asksFor]
      rcases checkReplay replay env.source.peerId env.requestId clocks.replay with
        ⟨after, failure | done⟩
      · rfl
      · simp only
        split <;> rename_i result <;> exact (congrArg Prod.fst result).symm
  | relayRequest env peer ip port =>
      simp only [runHandler, asksFor]
      by_cases mine : relayTarget node env = node.self.peerId
      · simp only [if_pos mine, handleRelayDelivery]
        cases opened : openDelivery node relay env clocks with
        | error failure => rfl
        | ok inner =>
            simp only
            rcases checkReplay replay inner.source.peerId inner.requestId clocks.replay with
              ⟨after, failure | done⟩
            · rfl
            · simp only
              split <;> rename_i result <;> exact (congrArg Prod.fst result).symm
      · simp only [if_neg mine, handleFirstHop]
        by_cases refused : !relay.relayEnabled ∨ env.source.peerId ∉ relay.relayClients
        · simp only [if_pos refused]
        · simp only [if_neg refused]
          rcases checkReplay replay env.source.peerId env.requestId clocks.replay with
            ⟨after, failure | done⟩
          · rfl
          · simp only
            split <;> rename_i result <;> exact (congrArg Prod.fst result).symm

theorem checkReplay_bounds : (checkReplay replay peerId requestId now).1.window = replay.window ∧
    (checkReplay replay peerId requestId now).1.limit = replay.limit := by
  have kept : (replay.checkAndAdd (peerId, requestId) now).1.window = replay.window ∧
      (replay.checkAndAdd (peerId, requestId) now).1.limit = replay.limit := by
    unfold TtlCache.checkAndAdd
    simp only
    split
    · exact ⟨rfl, rfl⟩
    · exact ⟨rfl, rfl⟩
  cases passed : (checkReplay replay peerId requestId now).2.isOk with
  | true =>
      rw [(checkReplay_ok passed).2]
      exact kept
  | false =>
      rcases checkReplay_error passed with same | ⟨-, checked⟩
      · rw [same]
        exact ⟨rfl, rfl⟩
      · rw [checked]
        exact kept

theorem checkReplay_accounts {record : List (TtlCache.Entry (String × String))} {before time : ℚ}
    (accounts : replay.Accounts record before) (later : before ≤ time) (read : now ≤ time) :
    (checkReplay replay peerId requestId now).1.Accounts
      (if (checkReplay replay peerId requestId now).2.isOk
        then record ++ [⟨(peerId, requestId), now, time⟩] else record) time := by
  have checked : (replay.checkAndAdd (peerId, requestId) now).1.Accounts
      (if (replay.checkAndAdd (peerId, requestId) now).2
        then record ++ [⟨(peerId, requestId), now, time⟩] else record) time :=
    accounts.checkAndAdd later read
  cases passed : (checkReplay replay peerId requestId now).2.isOk with
  | true =>
      rw [(checkReplay_ok passed).2]
      rwa [(checkReplay_ok passed).1] at checked
  | false =>
      rcases checkReplay_error passed with same | ⟨known, after⟩
      · rw [same]
        exact accounts.later later
      · rw [after]
        rwa [known] at checked

theorem openDelivery_decoded {inner : ValidatedEnvelope}
    (opened : openDelivery node relay env clocks = .ok inner) :
    ∃ raw, openInner node env clocks = .ok (raw, inner) ∧
      decodeMessage node.py clocks.nowMs raw = .ok inner := by
  unfold openDelivery at opened
  split at opened
  · cases opened
  · split at opened
    · cases opened
    · rename_i raw own found
      split at opened
      · cases opened
      · split at opened
        · cases opened
        · cases opened
          refine ⟨raw, found, ?_⟩
          unfold openInner at found
          split at found
          · cases found
          · rename_i bytes read
            cases decoded : decodeMessage node.py clocks.nowMs bytes with
            | error raised =>
                rw [decoded] at found
                cases found
            | ok env =>
                rw [decoded] at found
                cases found
                exact decoded

/-- What a handler dispatches has passed its replay check, and was fresh when its datagram came or,
for a delivery, when the handler decoded it. -/
theorem runHandler_dispatched
    (called : (runHandler node relay engine replay clocks handler).2.dispatched = some env) :
    asksFor node relay clocks handler = some (env.source.peerId, env.requestId) ∧
      (checkReplay replay env.source.peerId env.requestId clocks.replay).2.isOk = true ∧
      (handler.env = env ∨ ∃ raw, decodeMessage node.py clocks.nowMs raw = .ok env) := by
  cases handler with
  | appRequest own peer ip port =>
      simp only [runHandler, handleAppRequest] at called
      rcases asked : checkReplay replay own.source.peerId own.requestId clocks.replay with
        ⟨after, failure | done⟩
      · simp only [asked] at called
        cases called
      · simp only [asked] at called
        split at called
        · cases called
          refine ⟨rfl, ?_, .inl rfl⟩
          rw [asked]
          rfl
        · cases called
  | relayRequest own peer ip port =>
      simp only [runHandler] at called
      split at called
      · rename_i mine
        simp only [handleRelayDelivery] at called
        cases opened : openDelivery node relay own clocks with
        | error failure =>
            simp only [opened] at called
            cases called
        | ok inner =>
            obtain ⟨raw, -, decoded⟩ := openDelivery_decoded opened
            simp only [opened] at called
            rcases asked : checkReplay replay inner.source.peerId inner.requestId clocks.replay with
              ⟨after, failure | done⟩
            · simp only [asked] at called
              cases called
            · simp only [asked] at called
              cases reached : dispatchService node.py.services inner with
              | error failure =>
                  rw [reached] at called
                  cases called
              | ok call =>
                  rw [reached] at called
                  cases called
                  refine ⟨?_, ?_, .inr ⟨raw, decoded⟩⟩
                  · simp only [asksFor, if_pos mine, opened]
                  · rw [asked]
                    rfl
      · split at called
        · cases called
        · cases called

end Handlers

section Runs

variable {node : Receiver} {relay : RelayConfig} {daemon after : Daemon} {label : DaemonLabel}
  {offset budget : ℚ} {request : Request} {index : Nat} {job : Job} {clocks : Clocks} {time : ℚ}
  {env : ValidatedEnvelope}

/-- The replay cache answers for the record, and each dispatched request has an entry that was made
when it was not too early for its timestamp. -/
structure Daemon.Logged (offset : ℚ) (daemon : Daemon) : Prop where
  bounds : daemon.replay.window = replayCache.window ∧ daemon.replay.limit = replayCache.limit
  accounts : daemon.replay.Accounts daemon.record daemon.time
  jobs : ∀ job ∈ daemon.jobs, job.datagram.time = job.datagram.monotonic + offset
  entered : ∀ done ∈ daemon.done, ∀ env, done.outcome.dispatched = some env →
    ∃ entry later, daemon.record.drop done.recorded = entry :: later ∧
      entry.key = (env.source.peerId, env.requestId) ∧
      (env.timestampMs : ℚ) / 1000 - 10 ≤ entry.seen + offset

theorem dispatched_window (authentic : ∃ packet plain, Authentic node job packet plain)
    (offsetIs : job.datagram.time = job.datagram.monotonic + offset)
    (timely : job.datagram.time ≤ clocks.wall ∧ clocks.wall ≤ clocks.replay + offset ∧
      clocks.replay ≤ time ∧ time ≤ job.datagram.monotonic + budget)
    (fresh : job.handler.env = env ∨ ∃ raw, decodeMessage node.py clocks.nowMs raw = .ok env) :
    (env.timestampMs : ℚ) / 1000 - 10 ≤ clocks.replay + offset ∧
      time + offset < (env.timestampMs : ℚ) / 1000 + 30001 / 1000 + budget := by
  have window : ∀ wall : ℚ, job.datagram.time ≤ wall → wall ≤ clocks.wall →
      (wall * 1000).floor - pastSkewMs ≤ env.timestampMs →
      env.timestampMs ≤ (wall * 1000).floor + futureSkewMs →
      (env.timestampMs : ℚ) / 1000 - 10 ≤ clocks.replay + offset ∧
        time + offset < (env.timestampMs : ℚ) / 1000 + 30001 / 1000 + budget := by
    intro wall received decoded past future
    obtain ⟨-, read, -, asked⟩ := timely
    have low : ((wall * 1000).floor : ℚ) ≤ wall * 1000 := Int.floor_le _
    have high : wall * 1000 < ((wall * 1000).floor : ℚ) + 1 := Int.lt_floor_add_one _
    have pastSeconds : ((wall * 1000).floor : ℚ) - 30000 ≤ env.timestampMs := by
      exact_mod_cast past
    have futureSeconds : (env.timestampMs : ℚ) ≤ (wall * 1000).floor + 10000 := by
      exact_mod_cast future
    constructor
    · linarith
    · linarith
  rcases fresh with own | ⟨raw, decoded⟩
  · obtain ⟨packet, plain, authentic⟩ := authentic
    have fresh := decodeMessage_fresh authentic.checked.decoded
    rw [own] at fresh
    exact window job.datagram.time (le_refl _) timely.1 fresh.1 fresh.2
  · have fresh := decodeMessage_fresh decoded
    exact window clocks.wall timely.1 (le_refl _) fresh.1 fresh.2

theorem drop_grows {α : Type} {record more later : List α} {count : Nat} {entry : α}
    (dropped : record.drop count = entry :: later) :
    (record ++ more).drop count = entry :: (later ++ more) := by
  have short : count < record.length := by
    by_contra beyond
    rw [List.drop_eq_nil_of_le (Nat.le_of_not_lt beyond)] at dropped
    cases dropped
  rw [List.drop_append_of_le_length (Nat.le_of_lt short), dropped, List.cons_append]

/-- The record after a handler: a new entry where the handler has asked for a new key. -/
theorem run_record (daemon : Daemon) (index : Nat) (job : Job) (clocks : Clocks) (time : ℚ) :
    (daemon.run node relay index job clocks time).record =
      match asksFor node relay clocks job.handler with
      | some key =>
          if (checkReplay daemon.replay key.1 key.2 clocks.replay).2.isOk
          then daemon.record ++ [⟨key, clocks.replay, time⟩] else daemon.record
      | none => daemon.record := by
  simp only [Daemon.run]
  cases asksFor node relay clocks job.handler with
  | none => exact List.append_nil _
  | some key =>
      simp only [Option.filter_some]
      split
      · rfl
      · exact List.append_nil _

private theorem run_replay (daemon : Daemon) (index : Nat) (job : Job) (clocks : Clocks)
    (time : ℚ) :
    (daemon.run node relay index job clocks time).replay =
      (runHandler node relay daemon.engine daemon.replay clocks job.handler).1 := rfl

theorem run_grows (node : Receiver) (relay : RelayConfig) (daemon : Daemon) (index : Nat) (job : Job)
    (clocks : Clocks) (time : ℚ) : ∃ more,
    (daemon.run node relay index job clocks time).record = daemon.record ++ more := by
  rw [run_record]
  split
  · split
    · exact ⟨_, rfl⟩
    · exact ⟨[], (List.append_nil _).symm⟩
  · exact ⟨[], (List.append_nil _).symm⟩

private theorem run_entered (dispatched : (runHandler node relay daemon.engine daemon.replay clocks
      job.handler).2.dispatched = some env) :
    (daemon.run node relay index job clocks time).record =
      daemon.record ++ [⟨(env.source.peerId, env.requestId), clocks.replay, time⟩] := by
  obtain ⟨asks, new, -⟩ := runHandler_dispatched dispatched
  rw [run_record, asks]
  simp only [new, if_true]

theorem logged_run (logged : daemon.Logged offset) (sound : daemon.Sound node relay)
    (waiting : daemon.jobs[index]? = some job)
    (timely : Timely offset budget daemon (.run index clocks time)) :
    (daemon.run node relay index job clocks time).Logged offset := by
  have member := List.mem_of_getElem? waiting
  have due := timely.2 job waiting
  have cache : (daemon.run node relay index job clocks time).replay =
      match asksFor node relay clocks job.handler with
      | some key => (checkReplay daemon.replay key.1 key.2 clocks.replay).1
      | none => daemon.replay := run_replay .. |>.trans runHandler_replay
  refine ⟨?_, ?_, ?_, ?_⟩
  · rw [cache]
    cases asksFor node relay clocks job.handler with
    | none => exact logged.bounds
    | some key =>
        simp only [checkReplay_bounds]
        exact logged.bounds
  · rw [cache, run_record]
    cases asksFor node relay clocks job.handler with
    | none => exact logged.accounts.later timely.1
    | some key => exact checkReplay_accounts logged.accounts timely.1 due.2.2.1
  · intro other left
    exact logged.jobs other (List.mem_of_mem_eraseIdx left)
  · intro done finished env dispatched
    rw [Daemon.run_done] at finished
    rcases List.mem_cons.mp finished with rfl | old
    · obtain ⟨-, -, fresh⟩ := runHandler_dispatched dispatched
      have window := dispatched_window (sound.jobs job member) (logged.jobs job member) due fresh
      rw [run_entered dispatched]
      exact ⟨_, [], List.drop_left, rfl, window.1⟩
    · obtain ⟨entry, later, entered, own⟩ := logged.entered done old env dispatched
      obtain ⟨more, grown⟩ := run_grows node relay daemon index job clocks time
      rw [grown]
      exact ⟨entry, later ++ more, drop_grows entered, own⟩

theorem dispatched_before (logged : daemon.Logged offset) (sound : daemon.Sound node relay)
    (waiting : daemon.jobs[index]? = some job)
    (timely : Timely offset delayBudget daemon (.run index clocks time))
    (sparse : daemon.Uncrowded env.request)
    (dispatched : (runHandler node relay daemon.engine daemon.replay clocks
      job.handler).2.dispatched = some env) : daemon.dispatches env.request = 0 := by
  apply List.countP_eq_zero.mpr
  intro done finished again
  obtain ⟨own, called, same⟩ := Option.any_eq_true _ _ |>.mp again
  simp only [ValidatedEnvelope.request, decide_eq_true_eq, Prod.mk.injEq] at same
  obtain ⟨entry, later, entered, key, early⟩ := logged.entered done finished own called
  have few := sparse done finished again entry later entered
  obtain ⟨-, new, fresh⟩ := runHandler_dispatched dispatched
  have member := List.mem_of_getElem? waiting
  have due := timely.2 job waiting
  have window := dispatched_window (sound.jobs job member) (logged.jobs job member) due fresh
  have split : daemon.record = daemon.record.take done.recorded ++ entry :: later := by
    rw [← entered, List.take_append_drop]
  rw [same.1, same.2.1] at key
  rw [same.2.2] at early
  have added := (checkReplay_ok new).1
  rw [← key] at added
  rcases logged.accounts.again timely.1 due.2.2.1 split added with expired | crowded
  · rw [logged.bounds.1] at expired
    have late := window.2
    simp only [delayBudget, replayCache] at late expired
    linarith
  · rw [logged.bounds.1, logged.bounds.2] at crowded
    omega

theorem Daemon.Uncrowded.before {request : Request} (sparse :
    (daemon.run node relay index job clocks time).Uncrowded request) : daemon.Uncrowded request := by
  intro done finished again entry later entered
  obtain ⟨more, grown⟩ := run_grows node relay daemon index job clocks time
  have still : (daemon.run node relay index job clocks time).record.drop done.recorded =
      entry :: (later ++ more) := by
    rw [grown]
    exact drop_grows entered
  have finishedAfter : done ∈ (daemon.run node relay index job clocks time).done := by
    rw [Daemon.run_done]
    exact List.mem_cons_of_mem _ finished
  exact Nat.lt_of_le_of_lt TtlCache.crowd_mono (sparse done finishedAfter again entry _ still)

/-- The cache answers for the record, and no request that is not crowded out was dispatched twice. -/
structure Daemon.Once (offset : ℚ) (node : Receiver) (relay : RelayConfig) (daemon : Daemon) :
    Prop where
  sound : daemon.Sound node relay
  logged : daemon.Logged offset
  once : ∀ request, daemon.Uncrowded request → daemon.dispatches request ≤ 1

theorem process_once (once : daemon.Once offset node relay)
    (timely : Timely offset delayBudget daemon label)
    (taken : (process node relay).next daemon label = some after) : after.Once offset node relay := by
  refine ⟨process_sound once.sound taken, ?_, ?_⟩
  · cases label with
    | recv datagram =>
        rw [← Option.some.inj taken]
        have logged := once.logged
        refine ⟨logged.bounds, logged.accounts.later timely.1, ?_, logged.entered⟩
        intro job waiting
        rcases Daemon.recv_jobs waiting with old | ⟨packet, plain, -, received, -⟩
        · exact logged.jobs job old
        · rw [received]
          exact timely.2
    | run index clocks time =>
        obtain ⟨job, waiting, rfl⟩ := Option.map_eq_some_iff.mp taken
        exact logged_run once.logged once.sound waiting timely
    | elsewhere engine =>
        rw [← Option.some.inj taken]
        exact ⟨once.logged.bounds, once.logged.accounts, once.logged.jobs, once.logged.entered⟩
  · intro request sparse
    cases label with
    | recv datagram =>
        rw [← Option.some.inj taken] at sparse ⊢
        exact once.once request sparse
    | run index clocks time =>
        obtain ⟨job, waiting, rfl⟩ := Option.map_eq_some_iff.mp taken
        have front := sparse.before
        rw [Daemon.dispatches, Daemon.run_done, List.countP_cons]
        split
        · rename_i again
          obtain ⟨env, called, same⟩ := Option.any_eq_true _ _ |>.mp again
          rw [← of_decide_eq_true same] at front ⊢
          have none := dispatched_before once.logged once.sound waiting timely front called
          rw [Daemon.dispatches] at none
          rw [none]
        · exact once.once request front
    | elsewhere engine =>
        rw [← Option.some.inj taken] at sparse ⊢
        exact once.once request sparse

/-- In every run in which each handler asks the replay cache within 79.999 seconds of its receipt,
a request after which the cache is not crowded is dispatched at most once. -/
theorem dispatched_once {engine : Engine}
    (run : (process node relay).Run (Timely offset delayBudget) { engine } daemon)
    (request : Request) (sparse : daemon.Uncrowded request) :
    daemon.dispatches request ≤ 1 := by
  have start : Daemon.Once offset node relay { engine } := by
    refine ⟨⟨?_, ?_⟩, ⟨⟨rfl, rfl⟩, TtlCache.accounts_empty _ _ _, ?_, ?_⟩, ?_⟩
    · intro job none
      cases none
    · intro done none
      cases none
    · intro job none
      cases none
    · intro done none
      cases none
    · intro request _
      exact Nat.zero_le 1
  have once : daemon.Once offset node relay := by
    apply run.invariant (Daemon.Once offset node relay) _ start
    intro before label after once timely taken
    exact process_once once timely taken
  exact once.once request sparse

end Runs

def copyDatagram : Datagram := { queryDatagram with time := 90, monotonic := 90 }

def answeredVoter : Daemon := askedVoter.run sampleVoter {} 0 queryJob ⟨50, 50, 50⟩ 50

def heardPeer : Peer :=
  ((sampleEngine.recordEndpoint samplePeer queryDatagram).1.peers.find? "node-b").getD samplePeer

def copyJob : Job :=
  ⟨.appRequest queryEnvelope heardPeer "198.51.100.7" 47777, copyDatagram, answeredVoter.engine⟩

def askedTwice : Daemon := answeredVoter.recv sampleVoter copyDatagram

theorem askedTwice_jobs : askedTwice.jobs = [copyJob] := by
  have peers : answeredVoter.engine.peers =
      (sampleEngine.recordEndpoint samplePeer queryDatagram).1.peers := by
    rw [answeredVoter, Daemon.run_engine]
    exact askedVoter_received.2
  have waiting : answeredVoter.jobs = [] := by
    rw [answeredVoter, Daemon.run_jobs, askedVoter_received.1]
    rfl
  have found : answeredVoter.engine.peers.findByWireNodeId "node-b" = some heardPeer := by
    rw [peers]
    decide +kernel
  have named : heardPeer.id = "node-b" ∧ heardPeer.peerId = some "peer-b" ∧
      heardPeer.pubkey = some sampleKey := by decide +kernel
  have data : copyDatagram.data = queryDatagram.data := rfl
  have received := voter_receives answeredVoter data (by decide +kernel) found named
    (by decide)
  exact received.1.trans (by rw [waiting]; rfl)

def queryRequest : Request := ("peer-b", "0123456789abcdef0123456789abcdef", 60000)

/-- The voter after it has answered the query and its handler has looked at the copy. -/
def askedTwiceAt (time : ℚ) : Daemon := askedTwice.run sampleVoter {} 0 copyJob ⟨90, time, time⟩ time


theorem askedTwice_run {budget time : ℚ} (positive : 0 ≤ budget) (late : 90 ≤ time)
    (soon : time ≤ 90 + budget) : (process sampleVoter {}).Run (Timely 0 budget)
      { engine := sampleEngine } (askedTwiceAt time) := by
  have first : askedVoter.jobs[0]? = some queryJob := by
    rw [askedVoter_received.1]
    rfl
  have second : askedTwice.jobs[0]? = some copyJob := by
    rw [askedTwice_jobs]
    rfl
  have asked : (process sampleVoter {}).Step (Timely 0 budget) { engine := sampleEngine }
      askedVoter := by
    refine ⟨.recv queryDatagram, ⟨?_, ?_⟩, process_receives _ _⟩
    · norm_num [queryDatagram]
    · norm_num [queryDatagram]
  have answered : (process sampleVoter {}).Step (Timely 0 budget) askedVoter answeredVoter := by
    have at50 : askedVoter.time ≤ 50 := by
      rw [askedVoter, Daemon.recv_time]
      exact le_refl 50
    refine ⟨.run 0 ⟨50, 50, 50⟩ 50, ⟨at50, ?_⟩, process_runs _ _ first⟩
    intro job waiting
    rw [first] at waiting
    rw [← Option.some.inj waiting]
    simp only [queryJob, queryDatagram, add_zero, le_refl, true_and, le_add_iff_nonneg_right]
    exact positive
  have copied : (process sampleVoter {}).Step (Timely 0 budget) answeredVoter askedTwice := by
    have at50 : answeredVoter.time = 50 := Daemon.run_time ..
    refine ⟨.recv copyDatagram, ⟨?_, ?_⟩, process_receives _ _⟩
    · norm_num [at50, copyDatagram]
    · norm_num [copyDatagram]
  have again : (process sampleVoter {}).Step (Timely 0 budget) askedTwice (askedTwiceAt time) := by
    have at90 : askedTwice.time ≤ time := by
      rw [askedTwice, Daemon.recv_time]
      exact late
    refine ⟨.run 0 ⟨90, time, time⟩ time, ⟨at90, ?_⟩, process_runs _ _ second⟩
    intro job waiting
    rw [second] at waiting
    rw [← Option.some.inj waiting]
    simp only [copyJob, copyDatagram, add_zero, le_refl, true_and]
    exact ⟨late, soon⟩
  exact ((((Relation.ReflTransGen.refl).tail asked).tail answered).tail copied).tail again

theorem run_record_length (node : Receiver) (relay : RelayConfig) (daemon : Daemon) (index : Nat)
    (job : Job) (clocks : Clocks) (time : ℚ) :
    (daemon.run node relay index job clocks time).record.length ≤ daemon.record.length + 1 := by
  rw [run_record]
  split
  · split
    · rw [List.length_append, List.length_singleton]
    · omega
  · omega

theorem uncrowded_of_few {daemon : Daemon} (few : daemon.record.length ≤ replayCache.limit)
    (request : Request) : daemon.Uncrowded request := by
  intro done _ _ entry later entered
  have crowd : TtlCache.crowd replayCache.window entry later ≤ later.length := by
    unfold TtlCache.crowd
    calc
      _ ≤ _ := (List.dedup_sublist _).length_le
      _ = _ := List.length_map _
      _ ≤ later.length := List.length_filter_le _ _
  have dropped := congrArg List.length entered
  rw [List.length_drop, List.length_cons] at dropped
  omega

theorem askedTwice_uncrowded (time : ℚ) : (askedTwiceAt time).Uncrowded queryRequest := by
  have none : askedVoter.record.length = 0 := rfl
  have first := run_record_length sampleVoter {} askedVoter 0 queryJob ⟨50, 50, 50⟩ 50
  have second := run_record_length sampleVoter {} askedTwice 0 copyJob ⟨90, time, time⟩ time
  have same : askedTwice.record = answeredVoter.record := Daemon.recv_record ..
  rw [same] at second
  apply uncrowded_of_few
  simp only [askedTwiceAt, replayCache]
  simp only [answeredVoter] at second
  omega

theorem dispatched_once_copy : (askedTwiceAt 160).dispatches queryRequest ≤ 1 :=
  dispatched_once (askedTwice_run (by norm_num [delayBudget]) (by norm_num)
    (by norm_num [delayBudget])) queryRequest (askedTwice_uncrowded 160)

/-- With a delay of 80 seconds the entry of the first copy can be gone. -/
theorem dispatched_twice : ¬ ∀ (node : Receiver) (relay : RelayConfig) (engine : Engine)
    (daemon : Daemon) (offset : ℚ) (request : Request),
    (process node relay).Run (Timely offset 80) { engine } daemon → daemon.Uncrowded request →
    daemon.dispatches request ≤ 1 := by
  intro claim
  have once := claim sampleVoter {} sampleEngine (askedTwiceAt 170) 0 queryRequest
    (askedTwice_run (by norm_num) (by norm_num) (by norm_num)) (askedTwice_uncrowded 170)
  have first : (runHandler sampleVoter {} askedVoter.engine askedVoter.replay ⟨50, 50, 50⟩
      queryJob.handler).2.dispatched.any (fun env => env.request = queryRequest) = true := by
    decide +kernel
  have second : (runHandler sampleVoter {} askedTwice.engine askedTwice.replay ⟨90, 170, 170⟩
      copyJob.handler).2.dispatched.any (fun env => env.request = queryRequest) = true := by
    decide +kernel
  have before : askedTwice.done = answeredVoter.done := Daemon.recv_done ..
  rw [Daemon.dispatches, askedTwiceAt, Daemon.run_done, List.countP_cons, before, answeredVoter,
    Daemon.run_done, List.countP_cons] at once
  simp only [Done.dispatches, first, second, if_true] at once
  omega

end HashBurst.Tep
