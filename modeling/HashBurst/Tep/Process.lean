import HashBurst.Tep.Binding
import HashBurst.Tep.Daemon

namespace HashBurst.Tep

open Lib Lib.Py

def Handler.env : Handler → ValidatedEnvelope
  | appRequest env _ _ _ | relayRequest env _ _ _ => env

def Handler.peer : Handler → Peer
  | appRequest _ peer _ _ | relayRequest _ peer _ _ => peer

def Handler.msgType : Handler → String
  | appRequest _ _ _ _ => "req"
  | relayRequest _ _ _ _ => "relay_req"

/-- A handler thread, with the datagram that it was started for and the state of the daemon that
received it. -/
structure Job where
  handler : Handler
  datagram : Datagram
  engine : Engine

/-- The key that a handler asks the replay cache for, if it comes to that. -/
def asksFor (node : Receiver) (relay : RelayConfig) (clocks : Clocks) :
    Handler → Option (String × String)
  | .appRequest env _ _ _ => some (env.source.peerId, env.requestId)
  | .relayRequest env _ _ _ =>
      if relayTarget node env = node.self.peerId then
        match openDelivery node relay env clocks with
        | .ok inner => some (inner.source.peerId, inner.requestId)
        | .error _ => none
      else if !relay.relayEnabled ∨ env.source.peerId ∉ relay.relayClients then none
      else some (env.source.peerId, env.requestId)

/-- A handler that has run, with the cache and the number of recorded entries that it found. -/
structure Done where
  job : Job
  replay : ReplayCache
  clocks : Clocks
  outcome : Outcome
  recorded : Nat

/-- `record` lists all entries that were ever made in the replay cache; `time` is the monotonic
clock. -/
structure Daemon where
  engine : Engine := {}
  replay : ReplayCache := replayCache
  jobs : List Job := []
  time : ℚ := 0
  done : List Done := []
  record : List (TtlCache.Entry (String × String)) := []

/-- A datagram is received, a handler runs with its clocks and asks the replay cache at a time, or
other code of the node runs. -/
inductive DaemonLabel
  | recv (datagram : Datagram)
  | run (index : Nat) (clocks : Clocks) (time : ℚ)
  | elsewhere (engine : Engine)

section Process

variable (node : Receiver) (relay : RelayConfig)

def Daemon.recv (daemon : Daemon) (datagram : Datagram) : Daemon :=
  let after := (recvOnce node { daemon.engine with started := [] } datagram).1
  { daemon with
    engine := after
    jobs := daemon.jobs ++ after.started.map fun handler => ⟨handler, datagram, daemon.engine⟩
    time := datagram.monotonic }

def Daemon.run (daemon : Daemon) (index : Nat) (job : Job) (clocks : Clocks) (time : ℚ) : Daemon :=
  let (replay, outcome) := runHandler node relay daemon.engine daemon.replay clocks job.handler
  let entered := (asksFor node relay clocks job.handler).filter fun key =>
    (checkReplay daemon.replay key.1 key.2 clocks.replay).2.isOk
  { daemon with
    replay
    jobs := daemon.jobs.eraseIdx index
    time
    done := ⟨job, daemon.replay, clocks, outcome, daemon.record.length⟩ :: daemon.done
    record := daemon.record ++ entered.toList.map fun key => ⟨key, clocks.replay, time⟩ }

def process : Machine Daemon DaemonLabel where
  next daemon label :=
    match label with
    | .recv datagram => some (daemon.recv node datagram)
    | .run index clocks time =>
        (daemon.jobs[index]?).map fun job => daemon.run node relay index job clocks time
    | .elsewhere engine => some { daemon with engine }

end Process

/-- The packet that started a handler was opened with the key of a registered peer, and its message
passed all checks when it was received. -/
structure Authentic (node : Receiver) (job : Job) (packet : Packet) (plain : Bytes) : Prop where
  parsed : packet ∈ parsePacket job.datagram.data
  opened : openApp node job.engine packet = some (job.handler.peer, plain)
  passed : checkAppPacket node packet job.datagram job.handler.peer plain = .ok job.handler.env
  kind : job.handler.env.msgType = job.handler.msgType

section Started

variable {node : Receiver} {relay : RelayConfig} {engine : Engine} {datagram : Datagram}
  {handler : Handler}

theorem rejectApp_started (engine : Engine) (raised : Raised) :
    (engine.rejectApp raised).1.started = engine.started :=
  (rejectApp_quiet engine raised).started

theorem recordEndpoint_started (engine : Engine) (peer : Peer) (datagram : Datagram) :
    (engine.recordEndpoint peer datagram).1.started = engine.started := by
  rcases recordEndpoint_cases engine peer datagram with ⟨raised, recorded⟩ | ⟨routes, -, recorded⟩
  · rw [recorded]
  · rw [recorded]

theorem recvHeartbeat_started (node : Receiver) (engine : Engine) (packet : Packet)
    (datagram : Datagram) :
    (recvHeartbeat node engine packet datagram).1.started = engine.started := by
  have quiet := (openHeartbeat_quiet node engine packet datagram).started
  unfold recvHeartbeat
  rcases opened : openHeartbeat node engine packet datagram with ⟨after, _ | ⟨peer, plain⟩⟩
  · rw [opened] at quiet
    exact quiet
  · rw [opened] at quiet
    simp only [handleHeartbeat]
    cases readHeartbeat node peer plain with
    | error raised => exact (rejectHeartbeat_quiet after raised).started.trans quiet
    | ok done =>
        have same := recordEndpoint_started after peer datagram
        rcases recorded : after.recordEndpoint peer datagram with ⟨moved, _ | raised⟩
        · rw [recorded] at same
          exact same.trans quiet
        · rw [recorded] at same
          exact ((rejectHeartbeat_quiet moved raised).started.trans same).trans quiet

/-- An authenticated packet starts at most the handler of its own message. -/
theorem handleApp_started {packet : Packet} {peer : Peer} {plain : Bytes}
    (started : handler ∈
      (handleAuthenticatedAppPacket node engine packet datagram peer plain).1.started) :
    handler ∈ engine.started ∨
      checkAppPacket node packet datagram peer plain = .ok handler.env ∧ handler.peer = peer ∧
        handler.env.msgType = handler.msgType := by
  unfold handleAuthenticatedAppPacket at started
  cases passed : checkAppPacket node packet datagram peer plain with
  | error raised =>
      simp only [passed, rejectApp_started] at started
      exact .inl started
  | ok env =>
      simp only [passed] at started
      have same := recordEndpoint_started engine peer datagram
      rcases recorded : engine.recordEndpoint peer datagram with ⟨moved, _ | raised⟩
      · rw [recorded] at same started
        simp only [dispatch] at started
        split at started
        · rename_i request
          rcases List.mem_append.mp started with old | new
          · exact .inl (same ▸ old)
          · rw [List.mem_singleton.mp new]
            exact .inr ⟨rfl, rfl, request⟩
        · split at started
          · rename_i relayed
            rcases List.mem_append.mp started with old | new
            · exact .inl (same ▸ old)
            · rw [List.mem_singleton.mp new]
              exact .inr ⟨rfl, rfl, relayed⟩
          · left
            rw [← same]
            unfold Engine.pendingComplete at started
            split at started
            · exact started
            · exact started
      · rw [recorded] at same started
        simp only [rejectApp_started] at started
        exact .inl (same ▸ started)

theorem recvOnce_dispatches {packet : Packet} {peer : Peer} {plain : Bytes} {env : ValidatedEnvelope}
    (ready : node.appReady = true) (parsed : parsePacket datagram.data = some packet)
    (app : packet.type ∈ appPacketTypes) (opened : openApp node engine packet = some (peer, plain))
    (passed : checkAppPacket node packet datagram peer plain = .ok env)
    (good : ¬ BadRoute peer datagram) :
    (recvOnce node engine datagram).1 =
      dispatch (engine.received.recordEndpoint peer datagram).1 datagram env peer plain := by
  have again : openApp node engine.received packet = some (peer, plain) := opened
  have routed := recordEndpoint_ok engine.received good
  simp only [recvOnce, parsed, if_pos app, recvApp, ready, Bool.not_true, Bool.false_eq_true,
    if_false, again, handleAuthenticatedAppPacket, passed]
  rcases recorded : engine.received.recordEndpoint peer datagram with ⟨moved, _ | raised⟩
  · rfl
  · rw [recorded] at routed
    cases routed

def startedBy (datagram : Datagram) (env : ValidatedEnvelope) (peer : Peer) : Handler :=
  if env.msgType = "req" then .appRequest env peer datagram.ip datagram.port
  else .relayRequest env peer datagram.ip datagram.port

theorem Daemon.recv_starts (daemon : Daemon) {packet : Packet} {peer : Peer} {plain : Bytes}
    {env : ValidatedEnvelope} (ready : node.appReady = true)
    (parsed : parsePacket datagram.data = some packet) (app : packet.type ∈ appPacketTypes)
    (opened : openApp node daemon.engine packet = some (peer, plain))
    (passed : checkAppPacket node packet datagram peer plain = .ok env)
    (good : ¬ BadRoute peer datagram) (kind : env.msgType = "req" ∨ env.msgType = "relay_req") :
    (daemon.recv node datagram).jobs =
        daemon.jobs ++ [⟨startedBy datagram env peer, datagram, daemon.engine⟩] ∧
      (daemon.recv node datagram).engine.peers =
        (daemon.engine.recordEndpoint peer datagram).1.peers ∧
      (daemon.recv node datagram).engine.routes =
        (daemon.engine.recordEndpoint peer datagram).1.routes := by
  have again : openApp node { daemon.engine with started := [] } packet = some (peer, plain) := opened
  have dispatched := recvOnce_dispatches ready parsed app again passed good
  have fresh : (Engine.received { daemon.engine with started := [] }).started = [] ∧
      (Engine.received { daemon.engine with started := [] }).peers = daemon.engine.peers ∧
      (Engine.received { daemon.engine with started := [] }).routes = daemon.engine.routes :=
    ⟨rfl, rfl, rfl⟩
  generalize Engine.received { daemon.engine with started := [] } = counted at dispatched fresh
  obtain ⟨none, peers, routes⟩ := fresh
  have started := recordEndpoint_started counted peer datagram
  rw [none] at started
  have tables : (counted.recordEndpoint peer datagram).1.peers =
        (daemon.engine.recordEndpoint peer datagram).1.peers ∧
      (counted.recordEndpoint peer datagram).1.routes =
        (daemon.engine.recordEndpoint peer datagram).1.routes := by
    simp only [Engine.recordEndpoint, peers, routes]
    split
    · exact ⟨rfl, rfl⟩
    · exact ⟨rfl, rfl⟩
  rcases kind with request | relayed
  · simp only [Daemon.recv, dispatched, dispatch, startedBy, if_pos request, started,
      List.nil_append, List.map_cons, List.map_nil, true_and]
    exact tables
  · have other : ¬ env.msgType = "req" := by
      rw [relayed]
      decide
    simp only [Daemon.recv, dispatched, dispatch, startedBy, if_neg other, if_pos relayed, started,
      List.nil_append, List.map_cons, List.map_nil, true_and]
    exact tables

theorem recvOnce_started
    (started : handler ∈ (recvOnce node { engine with started := [] } datagram).1.started) :
    ∃ packet plain, Authentic node ⟨handler, datagram, engine⟩ packet plain := by
  unfold recvOnce at started
  cases parsed : parsePacket datagram.data with
  | none =>
      rw [parsed] at started
      cases started
  | some packet =>
      simp only [parsed] at started
      split at started
      · unfold recvApp at started
        split at started
        · cases started
        · split at started
          · cases started
          · rename_i peer plain opened
            rcases handleApp_started started with none | ⟨passed, own, kind⟩
            · cases none
            · subst own
              exact ⟨packet, plain, parsed, opened, passed, kind⟩
      · rw [recvHeartbeat_started] at started
        cases started

end Started

section Checks

variable {node : Receiver} {job : Job} {packet : Packet} {plain : Bytes} {py : Python}
  {env : ValidatedEnvelope} {nowMs : Int} {raw : Bytes} {peer : Peer} {datagram : Datagram}

theorem decodeMessage_fresh (decoded : decodeMessage py nowMs raw = .ok env) :
    nowMs - pastSkewMs ≤ env.timestampMs ∧ env.timestampMs ≤ nowMs + futureSkewMs := by
  obtain ⟨-, -, text, -, message, -, -, reads⟩ := decodeMessage_eq_ok.mp decoded
  have window := reads.window
  simp only [Envelope.checkWindow, bind_eq_ok, require_eq_ok, decide_eq_true_eq,
    exists_const] at window
  exact window

structure AppChecked (node : Receiver) (packet : Packet) (datagram : Datagram) (peer : Peer)
    (plain : Bytes) (env : ValidatedEnvelope) : Prop where
  decoded : decodeMessage node.py datagram.nowMs plain = .ok env
  source : env.source.nodeId = peer.id ∧ some env.source.peerId = peer.peerId
  destination : env.destination = node.self
  type : some env.msgType = expectedType packet.type

private theorem appChecked_of_ok
    (passed : checkAppPacket node packet datagram peer plain = .ok env) :
    AppChecked node packet datagram peer plain env := by
  simp only [checkAppPacket, validateAppIdentity, bind_eq_ok, require_eq_ok, decide_eq_true_eq,
    exists_const] at passed
  obtain ⟨-, own, decoded, ⟨source, destination⟩, type, same⟩ := passed
  cases same
  exact ⟨decoded, source, destination, type⟩

theorem Authentic.checked (authentic : Authentic node job packet plain) :
    AppChecked node packet job.datagram job.handler.peer plain job.handler.env :=
  appChecked_of_ok authentic.passed

theorem Authentic.app (authentic : Authentic node job packet plain) :
    packet.type ∈ appPacketTypes := by
  have type := authentic.checked.type
  by_contra other
  simp only [appPacketTypes, List.mem_cons, List.not_mem_nil, or_false, not_or] at other
  obtain ⟨request, response, error, relayRequest, relayResponse⟩ := other
  simp only [expectedType, List.lookup_cons, beq_eq_false_iff_ne.mpr request,
    beq_eq_false_iff_ne.mpr response, beq_eq_false_iff_ne.mpr error,
    beq_eq_false_iff_ne.mpr relayRequest, beq_eq_false_iff_ne.mpr relayResponse,
    List.lookup_nil] at type
  cases type

theorem Authentic.kind_name (authentic : Authentic node job packet plain) :
    (packetKind packet).name = job.handler.msgType := by
  have type := authentic.checked.type
  rw [(expectedType_kind authentic.app).1] at type
  rw [← authentic.kind, ← Option.some.inj type]

theorem Authentic.accepted (authentic : Authentic node job packet plain) :
    ProcessedAs node job.engine job.datagram packet (packetKind packet) job.handler.peer := by
  refine ⟨authentic.parsed, rfl, plain, ?_⟩
  rw [AcceptedAs, if_pos authentic.app]
  exact ⟨authentic.opened, by rw [authentic.passed]; rfl⟩

end Checks

section Runs

variable {node : Receiver} {relay : RelayConfig} {daemon after : Daemon} {label : DaemonLabel}

theorem Daemon.run_done (daemon : Daemon) (index : Nat) (job : Job) (clocks : Clocks) (time : ℚ) :
    (daemon.run node relay index job clocks time).done =
      ⟨job, daemon.replay, clocks,
        (runHandler node relay daemon.engine daemon.replay clocks job.handler).2,
        daemon.record.length⟩ :: daemon.done := rfl

theorem Daemon.run_jobs (daemon : Daemon) (index : Nat) (job : Job) (clocks : Clocks) (time : ℚ) :
    (daemon.run node relay index job clocks time).jobs = daemon.jobs.eraseIdx index := rfl

theorem Daemon.run_engine (daemon : Daemon) (index : Nat) (job : Job) (clocks : Clocks) (time : ℚ) :
    (daemon.run node relay index job clocks time).engine = daemon.engine := rfl

theorem Daemon.run_time (daemon : Daemon) (index : Nat) (job : Job) (clocks : Clocks) (time : ℚ) :
    (daemon.run node relay index job clocks time).time = time := rfl

/-- After a datagram a handler waits because it has waited before, or because the datagram starts
it. -/
theorem Daemon.recv_jobs {job : Job} {datagram : Datagram}
    (waiting : job ∈ (daemon.recv node datagram).jobs) : job ∈ daemon.jobs ∨
      ∃ packet plain, Authentic node job packet plain ∧ job.datagram = datagram ∧
        job.engine = daemon.engine := by
  rcases List.mem_append.mp waiting with old | new
  · exact .inl old
  · obtain ⟨handler, begun, made⟩ := List.mem_map.mp new
    obtain ⟨packet, plain, authentic⟩ := recvOnce_started begun
    rw [← made]
    exact .inr ⟨packet, plain, authentic, rfl, rfl⟩

theorem Daemon.recv_time (daemon : Daemon) (datagram : Datagram) :
    (daemon.recv node datagram).time = datagram.monotonic := rfl

theorem Daemon.recv_done (daemon : Daemon) (datagram : Datagram) :
    (daemon.recv node datagram).done = daemon.done := rfl

theorem Daemon.recv_replay (daemon : Daemon) (datagram : Datagram) :
    (daemon.recv node datagram).replay = daemon.replay := rfl

theorem Daemon.recv_record (daemon : Daemon) (datagram : Datagram) :
    (daemon.recv node datagram).record = daemon.record := rfl

theorem process_receives (daemon : Daemon) (datagram : Datagram) :
    (process node relay).next daemon (.recv datagram) = some (daemon.recv node datagram) := rfl

theorem process_runs {index : Nat} {job : Job} (clocks : Clocks) (time : ℚ)
    (waiting : daemon.jobs[index]? = some job) :
    (process node relay).next daemon (.run index clocks time) =
      some (daemon.run node relay index job clocks time) := by
  simp only [process, waiting, Option.map_some]

/-- Each handler, waiting or done, was started by an authentic packet. -/
structure Daemon.Sound (node : Receiver) (relay : RelayConfig) (daemon : Daemon) : Prop where
  jobs : ∀ job ∈ daemon.jobs, ∃ packet plain, Authentic node job packet plain
  done : ∀ done ∈ daemon.done, (∃ packet plain, Authentic node done.job packet plain) ∧
    ∃ engine, (runHandler node relay engine done.replay done.clocks done.job.handler).2 =
      done.outcome

theorem process_sound (sound : daemon.Sound node relay)
    (taken : (process node relay).next daemon label = some after) : after.Sound node relay := by
  cases label with
  | recv datagram =>
      rw [process_receives] at taken
      rw [← Option.some.inj taken]
      refine ⟨?_, ?_⟩
      · intro job waiting
        rcases Daemon.recv_jobs waiting with old | ⟨packet, plain, authentic, -, -⟩
        · exact sound.jobs job old
        · exact ⟨packet, plain, authentic⟩
      · rw [Daemon.recv_done]
        exact sound.done
  | run index clocks time =>
      obtain ⟨job, waiting, rfl⟩ := Option.map_eq_some_iff.mp taken
      refine ⟨?_, ?_⟩
      · rw [Daemon.run_jobs]
        exact fun other left => sound.jobs other (List.mem_of_mem_eraseIdx left)
      · rw [Daemon.run_done]
        intro done finished
        rcases List.mem_cons.mp finished with rfl | old
        · exact ⟨sound.jobs job (List.mem_of_getElem? waiting), daemon.engine, rfl⟩
        · exact sound.done done old
  | elsewhere engine =>
      rw [← Option.some.inj taken]
      exact ⟨sound.jobs, sound.done⟩

theorem process_run_sound {allowed : Daemon → DaemonLabel → Prop} {engine : Engine}
    (run : (process node relay).Run allowed { engine } daemon) : daemon.Sound node relay := by
  have start : Daemon.Sound node relay { engine } :=
    ⟨fun _ none => absurd none List.not_mem_nil, fun _ none => absurd none List.not_mem_nil⟩
  apply run.invariant (Daemon.Sound node relay) _ start
  intro before label after sound _ taken
  exact process_sound sound taken

end Runs

end HashBurst.Tep
