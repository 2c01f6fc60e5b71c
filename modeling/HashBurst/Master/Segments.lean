import HashBurst.Master.Node
import HashBurst.Master.Saved
import Mathlib.Data.Int.ConditionallyCompleteOrder
import Mathlib.Order.CompletePartialOrder
import Mathlib.Order.Interval.Set.Basic

namespace HashBurst.Master

open Lib Lib.Py

def Segment.nonces (segment : Segment) : Set Int :=
  Set.Ico segment.start (segment.start + segment.count)

/-- Each segment has its place below the cursor, and begins where the earlier ones have ended. -/
structure Placed (node : MasterNode) : Prop where
  places : ∀ segment ∈ node.handedOut, 0 ≤ segment.count ∧
    ∃ place : Nat, place < node.nonceCursor ∧ segment.start = place * segment.count
  ordered : node.handedOut.Pairwise fun later earlier => earlier.start + earlier.count ≤ later.start

def SizePositive (py : Interpreter) (cfg : Settings) : Prop :=
  ∃ size, segmentSize py cfg = .ok size ∧ 0 < size

/-- No segment that is handed out is longer than the next one. -/
def NotShrunk (py : Interpreter) (node : MasterNode) : Prop :=
  ∀ size, segmentSize py node.cfg = .ok size → ∀ segment ∈ node.handedOut, segment.count ≤ size

theorem Placed.disjoint {node : MasterNode} (placed : Placed node) :
    node.handedOut.Pairwise fun first second => Disjoint first.nonces second.nonces := by
  apply placed.ordered.imp
  intro later earlier after
  apply Set.disjoint_left.mpr
  intro nonce own other
  have above := own.1
  have below := other.2
  omega

section Changes

variable {py : Interpreter} {now : ℚ} {node : MasterNode} {β : Type}

/-- What the handlers keep from one change of the node to the next. -/
structure Dispatching (py : Interpreter) (node : MasterNode) : Prop where
  placed : Placed node
  positive : SizePositive py node.cfg
  fits : NotShrunk py node

def Keeps (py : Interpreter) {β : Type} (change : Change β) : Prop :=
  ∀ node, Dispatching py node → Dispatching py (change node).1

structure Steady (node after : MasterNode) : Prop where
  cfg : after.cfg = node.cfg
  nonceCursor : after.nonceCursor = node.nonceCursor
  handedOut : after.handedOut = node.handedOut

theorem Steady.trans {first second third : MasterNode} (front : Steady first second)
    (back : Steady second third) : Steady first third :=
  ⟨back.cfg.trans front.cfg, back.nonceCursor.trans front.nonceCursor,
    back.handedOut.trans front.handedOut⟩

theorem Steady.dispatching {after : MasterNode} (steady : Steady node after)
    (dispatching : Dispatching py node) : Dispatching py after := by
  constructor
  · constructor
    · rw [steady.handedOut, steady.nonceCursor]
      exact dispatching.placed.places
    · rw [steady.handedOut]
      exact dispatching.placed.ordered
  · rw [steady.cfg]
    exact dispatching.positive
  · unfold NotShrunk
    rw [steady.cfg, steady.handedOut]
    exact dispatching.fits

theorem setWorker_steady (key : Key) (worker : Worker) : Steady node (node.setWorker key worker) :=
  ⟨rfl, rfl, rfl⟩

theorem adjust_steady (key : Key) (change : Worker → Worker) :
    Steady node (node.adjust key change) := by
  unfold MasterNode.adjust
  cases node.worker key with
  | none => exact ⟨rfl, rfl, rfl⟩
  | some worker => exact setWorker_steady key _

private theorem touchWorker_steady (nodeId : Json) (addr : Addr) (payload : Dict) :
    Steady node (node.touchWorker py nodeId addr payload now).1 := by
  unfold MasterNode.touchWorker
  cases nodeId.key with
  | none => exact ⟨rfl, rfl, rfl⟩
  | some key => exact setWorker_steady key _

theorem send_steady (kind : Nat) (payload : Dict) (addr : Addr) :
    Steady node (node.send kind payload addr).1 := by
  unfold MasterNode.send
  by_cases deaf : (!node.listening) = true
  · rw [if_pos deaf]
    exact ⟨rfl, rfl, rfl⟩
  · rw [if_neg deaf]
    by_cases long : 65535 < (JsonText.compactAscii.write 0 (.obj payload)).length
    · rw [if_pos long]
      exact ⟨rfl, rfl, rfl⟩
    · rw [if_neg long]
      exact ⟨rfl, rfl, rfl⟩

theorem claimed_dispatching {after : MasterNode} (dispatching : Dispatching py node)
    (cfg : after.cfg = node.cfg) (cursor : after.nonceCursor = node.nonceCursor + 1)
    (handedOut : after.handedOut = node.handedOut) : Dispatching py after := by
  constructor
  · constructor
    · rw [handedOut, cursor]
      intro segment member
      rcases dispatching.placed.places segment member with ⟨counted, place, below, start⟩
      exact ⟨counted, place, by omega, start⟩
    · rw [handedOut]
      exact dispatching.placed.ordered
  · rw [cfg]
    exact dispatching.positive
  · unfold NotShrunk
    rw [cfg, handedOut]
    exact dispatching.fits

/-- The segment at the cursor begins where every segment before it has ended. -/
theorem segment_after {size : Int} {segment : Segment} {place cursor : Nat} (counted : 0 ≤ segment.count)
    (fits : segment.count ≤ size) (below : place < cursor)
    (start : segment.start = place * segment.count) :
    segment.start + segment.count ≤ cursor * size := by
  have next : ((place + 1 : Nat) : Int) ≤ cursor := by exact_mod_cast below
  calc
    segment.start + segment.count = ((place + 1 : Nat) : Int) * segment.count := by
      rw [start]
      push_cast
      ring
    _ ≤ cursor * segment.count := mul_le_mul_of_nonneg_right next counted
    _ ≤ cursor * size := mul_le_mul_of_nonneg_left fits (Int.natCast_nonneg cursor)

theorem dispatch_dispatching {key : Key} {worker : Worker} {job : Dict} {size : Int}
    (dispatching : Dispatching py node) (read : segmentSize py node.cfg = .ok size) :
    Dispatching py (node.dispatch key worker job size).1 := by
  have positive : 0 < size := by
    rcases dispatching.positive with ⟨own, same, positive⟩
    rw [read] at same
    cases same
    exact positive
  unfold MasterNode.dispatch
  dsimp only
  have steady := @send_steady ({ node with nonceCursor := node.nonceCursor + 1 }.setWorker key
    { worker with lastJobId := Dict.get job "job_id" }) tepJob
    (MasterNode.dispatchOf job worker ⟨node.nonceCursor * size, size⟩) worker.addr
  rcases sent : MasterNode.send _ _ _ _ with ⟨after, fault | done⟩
  · rw [sent] at steady
    exact claimed_dispatching dispatching steady.cfg steady.nonceCursor steady.handedOut
  · rw [sent] at steady
    have claimed := claimed_dispatching dispatching steady.cfg steady.nonceCursor steady.handedOut
    have known : after.handedOut = node.handedOut := steady.handedOut
    have cursor : after.nonceCursor = node.nonceCursor + 1 := steady.nonceCursor
    constructor
    · constructor
      · intro segment member
        rcases List.mem_cons.mp member with rfl | old
        · exact ⟨positive.le, node.nonceCursor, by dsimp only; omega, rfl⟩
        · exact claimed.placed.places segment old
      · apply List.pairwise_cons.mpr
        refine ⟨?_, claimed.placed.ordered⟩
        intro segment member
        rw [known] at member
        rcases dispatching.placed.places segment member with ⟨counted, place, below, start⟩
        exact segment_after counted (dispatching.fits size read segment member) below start
    · exact claimed.positive
    · intro own same segment member
      rcases List.mem_cons.mp member with rfl | old
      · have cfg : after.cfg = node.cfg := steady.cfg
        dsimp only at same
        rw [cfg, read] at same
        cases same
        exact le_refl _
      · exact claimed.fits own same segment old

theorem dispatchSegment_keeps (key : Key) (job : Option Dict) :
    Keeps py fun node => node.dispatchSegment py key job now := by
  intro node dispatching
  dsimp only
  unfold MasterNode.dispatchSegment
  split
  · rename_i worker own found given
    by_cases idle : (decide (own = []) || !node.listening) = true
    · rw [if_pos idle]
      exact dispatching
    · rw [if_neg idle]
      by_cases lost : now - worker.lastSeen > workerTimeout
      · rw [if_pos lost]
        exact (setWorker_steady key _).dispatching dispatching
      · rw [if_neg lost]
        cases read : segmentSize py node.cfg with
        | error fault => exact dispatching
        | ok size => exact dispatch_dispatching dispatching read
  · exact dispatching

theorem steady_keeps {change : Change β} (steady : ∀ node, Steady node (change node).1) :
    Keeps py change :=
  fun node dispatching => (steady node).dispatching dispatching

end Changes

section Handlers

variable {py : Interpreter} {now : ℚ} {payload : Dict} {addr : Addr}

theorem readNode_keeps {α : Type} (read : MasterNode → α) :
    (readNode read).All fun change => Keeps py change :=
  ⟨fun _ dispatching => dispatching, fun _ => trivial⟩

theorem changeNode_keeps {change : MasterNode → MasterNode}
    (steady : ∀ node, Steady node (change node)) :
    (changeNode change).All fun change => Keeps py change :=
  ⟨steady_keeps steady, fun _ => trivial⟩

theorem attemptNode_keeps {α : Type} {change : MasterNode → MasterNode × Except NodeFault α}
    (keeps : Keeps py change) : (attemptNode change).All fun change => Keeps py change :=
  ⟨keeps, fun answer => Prog.all_ofExcept answer⟩

theorem touch_keeps (nodeId : Json) :
    (touch py now nodeId addr payload).All fun change => Keeps py change :=
  attemptNode_keeps (steady_keeps fun _ => touchWorker_steady nodeId addr payload)

theorem acknowledge_keeps (fields : Dict) :
    (acknowledge fields addr).All fun change => Keeps py change :=
  attemptNode_keeps (steady_keeps fun _ => send_steady tepAck fields addr)

theorem dispatchTo_keeps (key : Key) (job : Option Dict) :
    (dispatchTo py now key job).All fun change => Keeps py change :=
  attemptNode_keeps (dispatchSegment_keeps key job)

/-- A segment for the worker, where there is a reason for it. -/
theorem dispatchIf_keeps (condition : Bool) (key : Key) {other : Handler Unit}
    (idle : other.All fun change => Keeps py change) :
    (if condition then dispatchTo py now key none else other).All fun change => Keeps py change := by
  cases condition with
  | true => exact dispatchTo_keeps key none
  | false => exact idle

theorem handleRegister_keeps (fresh : String) :
    (handleRegister py now payload addr fresh).All fun change => Keeps py change := by
  apply Prog.all_bind (touch_keeps _)
  intro key
  apply Prog.all_bind
  · apply changeNode_keeps
    intro node
    by_cases caps : (Dict.get payload "caps").truthy = true
    · rw [if_pos caps]
      exact adjust_steady key _
    · rw [if_neg caps]
      exact ⟨rfl, rfl, rfl⟩
  intro changed
  apply Prog.all_bind (readNode_keeps _)
  intro network
  apply Prog.all_bind (acknowledge_keeps _)
  intro sent
  apply Prog.all_bind (readNode_keeps _)
  intro job
  exact dispatchIf_keeps job key trivial

theorem finishShare_keeps (share : WaitingShare) :
    (finishShare py now share).All fun change => Keeps py change := by
  apply Prog.all_bind (acknowledge_keeps _)
  intro sent
  apply Prog.all_bind (readNode_keeps _)
  intro current
  exact dispatchIf_keeps current share.key trivial

theorem handleShare_keeps : (handleShare py now payload addr).All fun change => Keeps py change := by
  apply Prog.all_bind (touch_keeps _)
  intro key
  apply Prog.all_bind (changeNode_keeps fun node => adjust_steady key _)
  intro counted
  cases (Dict.getD payload "coin" (.str "XMR")).key with
  | none => trivial
  | some coin =>
      apply Prog.all_bind (readNode_keeps _)
      intro pooled
      cases pooled with
      | true => trivial
      | false =>
          apply Prog.all_bind (finishShare_keeps _)
          intro finished
          trivial

theorem handleHeartbeat_keeps :
    (handleHeartbeat py now payload addr).All fun change => Keeps py change := by
  apply Prog.all_bind (touch_keeps _)
  intro key
  apply Prog.all_bind (acknowledge_keeps _)
  intro sent
  apply Prog.all_bind (readNode_keeps _)
  intro stale
  exact dispatchIf_keeps stale key trivial

private theorem handleStats_keeps :
    (handleStats py now payload addr).All fun change => Keeps py change := by
  apply Prog.all_bind (touch_keeps _)
  intro key
  apply Prog.all_bind (readNode_keeps _)
  intro current
  exact dispatchIf_keeps _ key trivial

theorem handleTep_keeps (kind : Nat) (message : Json) (fresh : String) :
    (handleTep py now kind message addr fresh).All fun change => Keeps py change := by
  cases message with
  | obj fields =>
      unfold handleTep
      dsimp only
      by_cases registers : kind = tepRegister
      · rw [if_pos registers]
        exact Prog.all_bind (handleRegister_keeps fresh) fun _ => trivial
      rw [if_neg registers]
      by_cases shares : kind = tepShare
      · rw [if_pos shares]
        exact handleShare_keeps
      rw [if_neg shares]
      by_cases beats : kind = tepHeartbeat
      · rw [if_pos beats]
        exact Prog.all_bind handleHeartbeat_keeps fun _ => trivial
      rw [if_neg beats]
      by_cases stats : kind = tepStats
      · rw [if_pos stats]
        exact Prog.all_bind handleStats_keeps fun _ => trivial
      · rw [if_neg stats]
        trivial
  | _ => trivial

/-- The rounds of `_on_new_job`, after its start. -/
theorem dispatchAll_keeps (job : Dict) (workers : List (Key × Worker)) :
    (Prog.forEach
      (fun entry : Key × Worker =>
        (if now - entry.2.lastSeen ≤ workerTimeout then do
          changeNode fun node => node.adjust entry.1 fun worker => { worker with active := true }
          dispatchTo py now entry.1 (some job)
        else .ret () : Handler Unit))
      workers).All fun change => Keeps py change := by
  apply Prog.all_forEach
  intro entry member
  by_cases seen : now - entry.2.lastSeen ≤ workerTimeout
  · rw [if_pos seen]
    apply Prog.all_bind (changeNode_keeps fun node => adjust_steady entry.1 _)
    intro changed
    exact dispatchTo_keeps entry.1 (some job)
  · rw [if_neg seen]
    trivial

theorem Handler.run_dispatching {α : Type} {handler : Handler α}
    (keeps : handler.All fun change => Keeps py change) {node : MasterNode}
    (dispatching : Dispatching py node) : Dispatching py (handler.run node).1 := by
  apply Prog.exec_invariant (Dispatching py) () _ handler keeps node dispatching
  intro β change state allowed kept
  exact allowed state kept

private theorem takeJob_dispatching {node : MasterNode} (positive : SizePositive py node.cfg)
    (job : Dict) :
    Dispatching py (node.takeJob job) where
  placed := ⟨fun _ none => absurd none List.not_mem_nil, List.Pairwise.nil⟩
  positive := positive
  fits _ _ _ none := absurd none List.not_mem_nil

/-- A job starts over, so that nothing of the segments before it matters. -/
theorem onNewJob_dispatching {node : MasterNode} (positive : SizePositive py node.cfg) (job : Dict) :
    Dispatching py ((onNewJob py now job).run node).1 := by
  have started := takeJob_dispatching positive job
  exact Handler.run_dispatching
    (Prog.all_bind (readNode_keeps _) fun workers => dispatchAll_keeps job workers) started

end Handlers

section Runs

variable {py : Interpreter} {serving after : Serving}

def PostsPositive (py : Interpreter) (serving : Serving) : ServingLabel → Prop
  | .post body writes => SizePositive py (handleConfig py serving.node.cfg body writes).1
  | _ => True

/-- While a job lasts, messages are not handled with a smaller size than that of a segment before. -/
def SizeKept (py : Interpreter) (serving : Serving) : ServingLabel → Prop
  | .message .. => NotShrunk py serving.node
  | .submitted .. => NotShrunk py serving.node
  | _ => True

theorem handled_dispatching {α : Type} {handler : Handler α}
    (keeps : handler.All fun change => Keeps py change) (placed : Placed serving.node)
    (positive : SizePositive py serving.node.cfg) (fits : NotShrunk py serving.node) :
    Placed (handler.run serving.node).1 ∧ SizePositive py (handler.run serving.node).1.cfg := by
  have dispatching := Handler.run_dispatching keeps ⟨placed, positive, fits⟩
  exact ⟨dispatching.placed, dispatching.positive⟩

theorem serving_step {label : ServingLabel} (placed : Placed serving.node)
    (positive : SizePositive py serving.node.cfg) (posts : PostsPositive py serving label)
    (kept : SizeKept py serving label) (taken : (masterMachine py).next serving label = some after) :
    Placed after.node ∧ SizePositive py after.node.cfg := by
  cases label with
  | message kind payload addr fresh now =>
      have keeps : (handleTep py now kind payload addr fresh).All fun change => Keeps py change :=
        handleTep_keeps kind payload fresh
      have both := handled_dispatching keeps placed positive kept
      simp only [masterMachine] at taken
      rcases handled : (handleTep py now kind payload addr fresh).run serving.node with
        ⟨node, fault | (_ | share)⟩
      · rw [handled] at taken both
        cases taken
        exact both
      · rw [handled] at taken both
        cases taken
        exact both
      · rw [handled] at taken both
        cases taken
        exact both
  | submitted index now =>
      rcases Option.map_eq_some_iff.mp taken with ⟨share, -, same⟩
      cases same
      exact handled_dispatching (finishShare_keeps share) placed positive kept
  | job job now =>
      cases taken
      have dispatching : Dispatching py ((onNewJob py now job).run serving.node).1 :=
        onNewJob_dispatching positive job
      exact ⟨dispatching.placed, dispatching.positive⟩
  | post body writes =>
      cases taken
      exact ⟨⟨placed.places, placed.ordered⟩, posts⟩
  | housekeeping now =>
      cases taken
      exact ⟨⟨placed.places, placed.ordered⟩, positive⟩

/-- What `load_config` has checked. -/
theorem checkConfig_positive {cfg : Settings} (running : checkConfig py cfg = .ok ()) :
    SizePositive py cfg := by
  rcases checkConfig_ok.mp running with ⟨-, -, fields, named, valid⟩
  unfold segmentationInvalid at valid
  unfold SizePositive segmentSize
  rw [named]
  dsimp only at valid ⊢
  cases listed : fields.lookup "nonce_segment_size" with
  | none =>
      have zero : Dict.getD fields "nonce_segment_size" (.int 0) = .int 0 := by
        unfold Dict.getD
        rw [listed]
        rfl
      rw [zero] at valid
      cases valid
  | some size =>
      have own : Dict.getD fields "nonce_segment_size" (.int 0) = size := by
        unfold Dict.getD
        rw [listed]
        rfl
      rw [own] at valid
      unfold Conversions.intOrZero at valid
      by_cases truthy : size.truthy = true
      · rw [if_pos truthy] at valid
        cases read : py.conv.toInt size with
        | error text =>
            rw [read] at valid
            cases valid
        | ok number =>
            rw [read] at valid
            have above : decide (number ≤ 0) = false := Except.ok.inj valid
            have positive := of_decide_eq_false above
            refine ⟨number, ?_, by omega⟩
            dsimp only
            rw [read]
            rfl
      · rw [if_neg truthy] at valid
        cases valid

/-- Between two jobs, the segments that are handed out have no nonce in common. -/
theorem segments_disjoint (cfg : Settings) (stratum : List Key)
    (running : checkConfig py cfg = .ok ())
    (run : (masterMachine py).Run
      (fun serving label => PostsPositive py serving label ∧ SizeKept py serving label)
      { node := { cfg, stratum } } serving) :
    serving.node.handedOut.Pairwise fun first second => Disjoint first.nonces second.nonces := by
  have placed : Placed { cfg, stratum } :=
    ⟨fun _ none => absurd none List.not_mem_nil, List.Pairwise.nil⟩
  have both : Placed serving.node ∧ SizePositive py serving.node.cfg := by
    apply run.invariant (fun serving => Placed serving.node ∧ SizePositive py serving.node.cfg) _
      ⟨placed, checkConfig_positive running⟩
    rintro before label after ⟨placed, positive⟩ ⟨posts, kept⟩ taken
    exact serving_step placed positive posts kept taken
  exact both.1.disjoint

end Runs

section Samples

/-- A run checks its posts and its sizes as it goes. -/
instance (py : Interpreter) (cfg : Settings) : Decidable (SizePositive py cfg) :=
  match read : segmentSize py cfg with
  | .ok size =>
      if positive : 0 < size then .isTrue ⟨size, read, positive⟩
      else .isFalse (by
        rintro ⟨own, same, above⟩
        rw [read] at same
        cases same
        exact positive above)
  | .error _ =>
      .isFalse (by
        rintro ⟨own, same, -⟩
        rw [read] at same
        cases same)

instance (py : Interpreter) (node : MasterNode) : Decidable (NotShrunk py node) :=
  match read : segmentSize py node.cfg with
  | .ok size =>
      if fits : ∀ segment ∈ node.handedOut, segment.count ≤ size then
        .isTrue (by
          intro own same
          rw [read] at same
          cases same
          exact fits)
      else .isFalse fun kept => fits (kept size read)
  | .error _ =>
      .isTrue (by
        intro own same
        rw [read] at same
        cases same)

instance (py : Interpreter) (serving : Serving) (label : ServingLabel) :
    Decidable (PostsPositive py serving label) :=
  match label with
  | .post body writes =>
      inferInstanceAs (Decidable (SizePositive py (handleConfig py serving.node.cfg body writes).1))
  | .message .. => .isTrue trivial
  | .submitted .. => .isTrue trivial
  | .job .. => .isTrue trivial
  | .housekeeping _ => .isTrue trivial

instance (py : Interpreter) (serving : Serving) (label : ServingLabel) :
    Decidable (SizeKept py serving label) :=
  match label with
  | .message .. => inferInstanceAs (Decidable (NotShrunk py serving.node))
  | .submitted .. => inferInstanceAs (Decidable (NotShrunk py serving.node))
  | .post .. => .isTrue trivial
  | .job .. => .isTrue trivial
  | .housekeeping _ => .isTrue trivial

def tenNonces : Settings :=
  Settings.ofDict [("network", .str "stagenet"), ("tep_host", .str "0.0.0.0"),
    ("tep_port", .int 8765), ("api_port", .int 9000),
    ("coins", .obj [("XMR", .obj [("enabled", .bool true)])]),
    ("segmentation", .obj [("nonce_segment_size", .int 10)])]

def postedSize (size : Int) : ServingLabel :=
  .post (JsonText.write (.obj [("segmentation", .obj [("nonce_segment_size", .int size)])])) true

def registering (name : String) : ServingLabel :=
  .message tepRegister (.obj [("node_id", .str name)]) ⟨"192.0.2.1", 8765⟩ "fresh" 0

def sampleJob : ServingLabel := .job [("job_id", .str "job")] 0

def startServing : Serving := { node := { cfg := tenNonces, stratum := [] } }

theorem largerSize_disjoint : ∃ serving,
    (masterMachine samplePython).Run
      (fun serving label => PostsPositive samplePython serving label ∧
        SizeKept samplePython serving label) startServing serving ∧
      serving.node.handedOut = [⟨20, 20⟩, ⟨0, 10⟩] ∧
      serving.node.handedOut.Pairwise fun first second =>
        Disjoint first.nonces second.nonces := by
  have played : ((masterMachine samplePython).play
      (fun serving label => PostsPositive samplePython serving label ∧
        SizeKept samplePython serving label) startServing
      [sampleJob, registering "first", postedSize 20, registering "second"]).map
        (fun serving => serving.node.handedOut) = some [⟨20, 20⟩, ⟨0, 10⟩] := by
    decide +kernel
  rcases Option.map_eq_some_iff.mp played with ⟨serving, lived, rows⟩
  have run := Machine.Run.of_play lived
  exact ⟨serving, run, rows, segments_disjoint tenNonces [] rfl run⟩

/-- Two workers register, a smaller size is posted, and a third worker registers. -/
theorem smallerSize_overlaps : checkConfig samplePython tenNonces = .ok () ∧ ∃ serving,
    (masterMachine samplePython).Run (PostsPositive samplePython) startServing serving ∧
      ¬serving.node.handedOut.Pairwise fun first second =>
        Disjoint first.nonces second.nonces := by
  have played : ((masterMachine samplePython).play (PostsPositive samplePython) startServing
      [sampleJob, registering "first", registering "second", postedSize 5,
        registering "third"]).map (fun serving => serving.node.handedOut) =
      some [⟨10, 5⟩, ⟨10, 10⟩, ⟨0, 10⟩] := by
    decide +kernel
  refine ⟨rfl, ?_⟩
  rcases Option.map_eq_some_iff.mp played with ⟨serving, lived, rows⟩
  refine ⟨serving, .of_play lived, ?_⟩
  intro disjoint
  rw [rows] at disjoint
  have apart := List.rel_of_pairwise_cons disjoint (List.mem_cons_self)
  have ten : ∀ count : Int, 0 < count → (10 : Int) ∈ (⟨10, count⟩ : Segment).nonces :=
    fun count positive => ⟨le_refl _, by dsimp only; omega⟩
  exact Set.disjoint_left.mp apart (ten 5 (by decide)) (ten 10 (by decide))

end Samples

end HashBurst.Master
