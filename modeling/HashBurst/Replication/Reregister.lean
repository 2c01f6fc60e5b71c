import HashBurst.Replication.Planner

namespace HashBurst.Replication

open Lib ReplicationDB ReplicationDBV214

/-- The objects up to their health, the copies and the jobs are as before. -/
structure Unregistered (db after : Db) : Prop where
  objects : ∀ cid, after.core cid = db.core cid
  replicas : ∀ cid nodeId,
    (after.replica cid nodeId).map (fun replica => (replica.state, replica.desired)) =
      (db.replica cid nodeId).map fun replica => (replica.state, replica.desired)
  jobs : after.jobs.rows = db.jobs.rows

/-- The source that a registration names, if any, holds a confirmed copy. -/
def sourceConfirmed (db : Db) (cid : Cid) (sourceNode : Option NodeId) : Bool :=
  (sourceOf sourceNode).all fun source => (db.replica cid source).any Replica.confirmed

/-- The object is referenced again, but has not started the generation of its new life. -/
def reviving (db : Db) (cid : Cid) : Bool :=
  (db.object cid).any fun object => object.refcount > 0 && object.releasedAt ≠ 0

section Repeats

variable {now : Int} {db middle after : Db} {cid : Cid} {sizeBytes n m : Int}

theorem addReference_recorded {reference : RefId} {row : ObjectRef} {added : Bool}
    (recorded : db.objectRefs.find? reference = some row)
    (done : addReference now cid sizeBytes n m (some reference) db = .ok (middle, added)) :
    middle = db ∧ ∃ object, db.object cid = some object := by
  simp only [addReference, recorded] at done
  split at done
  · cases done
  · split at done
    · cases done
    · rename_i present
      cases done
      rw [Option.isNone_iff_eq_none] at present
      exact ⟨rfl, Option.ne_none_iff_exists'.mp present⟩

theorem registerGuard_policy {oldPolicy : Option (Int × Int)} {object : Object}
    (found : db.object cid = some object) (passed : registerGuard cid n m db = .ok oldPolicy) :
    oldPolicy = some (object.replicationN, object.committableM) := by
  simp only [registerGuard, found] at passed
  split at passed
  · split at passed
    · cases passed
    · split at passed
      · cases passed
      · cases passed
        rfl
  · cases passed
    rfl

theorem registerObject_blocks {sourceNode : Option NodeId} {referenceId : Option String}
    {out : Registration}
    (done : (ReplicationDBV214.registerObject cid sizeBytes n m sourceNode referenceId).runAt now db =
      (after, .ok out)) :
    ∃ oldPolicy middle, registerGuard cid n m db = .ok oldPolicy ∧
      ReplicationDB.registerObject now cid sizeBytes n m sourceNode referenceId db =
        .ok (middle, out) ∧ after = registerBump now cid oldPolicy middle := by
  rw [registerObject_runAt] at done
  cases passed : registerGuard cid n m db with
  | error failure => simp [passed] at done
  | ok oldPolicy =>
      simp only [passed] at done
      cases ran : ReplicationDB.registerObject now cid sizeBytes n m sourceNode referenceId db with
      | error failure => simp [commit_error ran] at done
      | ok result =>
          rw [commit_ok ran] at done
          simp only [Prod.mk.injEq, Except.ok.injEq] at done
          exact ⟨oldPolicy, result.1, rfl, by rw [← done.2], done.1.symm⟩

/-- The source's row after the registration: pinned and wanted, whatever it was. -/
theorem upsertSource_replica {source : NodeId}
    (done : upsertSource now cid source db = .ok (after, ())) :
    (after.replica cid source).any Replica.confirmed = true ∧
      ∀ wanted nodeId, (cid, source) ≠ (wanted, nodeId) →
        after.replica wanted nodeId = db.replica wanted nodeId := by
  unfold upsertSource at done
  split at done
  · cases done
    constructor
    · unfold Db.replica
      rw [Table.find?_upsert, if_pos rfl]
      cases db.replicas.find? (cid, source) <;> rfl
    · intro wanted nodeId other
      exact (Table.find?_upsert _ _ _ _ _).trans (if_neg other)
  · cases done

theorem confirmed_shape (found : Option Replica) :
    found.any Replica.confirmed = true ↔
      found.map (fun replica => (replica.state, replica.desired)) = some (.pinned, true) := by
  cases found with
  | none => simp
  | some replica => simp [Replica.confirmed, and_comm]

/-- Past the guard and without a new generation, only the source's row may move. -/
theorem upsertSource_unregistered {source : NodeId}
    (done : upsertSource now cid source db = .ok (after, ())) :
    Unregistered db after ↔ (db.replica cid source).any Replica.confirmed = true := by
  have tables := upsertSource_tables done
  have rows := upsertSource_replica done
  constructor
  · intro same
    rw [confirmed_shape, ← same.replicas cid source, ← confirmed_shape]
    exact rows.1
  · intro settled
    constructor
    · exact core_congr tables.2.1
    · intro wanted nodeId
      by_cases own : (cid, source) = (wanted, nodeId)
      · cases own
        rw [(confirmed_shape _).mp settled, (confirmed_shape _).mp rows.1]
      · rw [rows.2 wanted nodeId own]
    · rw [tables.2.2.2]

private theorem registerBump_skipped {object : Object} {oldPolicy : Option (Int × Int)}
    (found : db.object cid = some object) (skipped : bumps object oldPolicy = false) :
    registerBump now cid oldPolicy db = db := by
  simp [registerBump, found, skipped]

end Repeats

section Again

variable (now : Int) (db : Db) (cid : Cid) (sizeBytes n m : Int) (sourceNode : Option NodeId)
  (referenceId : Option String)

theorem registered_again_unchanged {reference : RefId} {row : ObjectRef} {after : Db}
    {out : Registration} (named : Py.stripOrNone referenceId = some reference)
    (recorded : db.objectRefs.find? reference = some row)
    (done : (ReplicationDBV214.registerObject cid sizeBytes n m sourceNode referenceId).runAt now db =
      (after, .ok out)) :
    Unregistered db after ↔ sourceConfirmed db cid sourceNode = true ∧ reviving db cid = false := by
  obtain ⟨oldPolicy, middle, passed, ran, rfl⟩ := registerObject_blocks done
  obtain ⟨counted, added, sourced⟩ := registerBase_cases ran
  rw [named] at added
  obtain ⟨rfl, object, found⟩ := addReference_recorded recorded added
  have kept : middle.objects = counted.objects := by
    rcases sourced with ⟨-, rfl⟩ | ⟨source, -, written⟩
    · rfl
    · exact (upsertSource_tables written).2.1
  have present : middle.object cid = some object := by
    rw [← found]
    unfold Db.object
    rw [kept]
  have policy := registerGuard_policy found passed
  have bumped : bumps object oldPolicy = reviving counted cid := by
    simp [bumps, reviving, found, policy]
  by_cases revives : reviving counted cid = true
  · -- The last transaction starts a new generation.
    have object_after := registerBump_object now cid oldPolicy middle cid
    rw [if_pos rfl, present, Option.map_some, if_pos (bumped.trans revives)] at object_after
    constructor
    · intro same
      have cores := same.objects cid
      rw [core_of_object object_after, core_of_object found] at cores
      have generations : object.generation + 1 = object.generation :=
        congrArg Object.generation (Option.some.inj cores)
      omega
    · rintro ⟨-, settled⟩
      rw [settled] at revives
      cases revives
  · have idle : reviving counted cid = false := Bool.eq_false_iff.mpr revives
    rw [registerBump_skipped present (bumped.trans idle)]
    unfold sourceConfirmed
    rcases sourced with ⟨unnamed, rfl⟩ | ⟨source, named, written⟩
    · rw [unnamed]
      exact iff_of_true ⟨fun _ => rfl, fun _ _ => rfl, rfl⟩ ⟨rfl, idle⟩
    · rw [named, upsertSource_unregistered written]
      exact (and_iff_left idle).symm

end Again

/-- A registration with a source, served once and then asked for again. -/
def uploaded : Registering where
  cid := "bafy"
  sizeBytes := 10
  n := 1
  m := 0
  sourceNode := some "alpha"
  referenceId := some "file-1"

def uploadedPool : EventPool :=
  (eventMachine.play (fun _ _ => True) freshEvents (serve 0
    [(1, 1000, .upsertNode { nodeId := "alpha" }), (3, 1000, .register uploaded)])).get
      (by decide)

/-- The reference is released before the registration is asked for again. -/
def withdrawnPool : EventPool :=
  (eventMachine.play (fun _ _ => True) uploadedPool (serve 2
    [(1, 1010, .release "bafy" (some "file-1") "req")])).get (by decide)

def repeatedUpload (pool : EventPool) : Db × Except PyError Registration :=
  (ReplicationDBV214.registerObject "bafy" 10 1 0 (some "alpha") (some "file-1")).runAt 1020
    pool.shared

def uploadAnswer : Registration where
  cid := "bafy"
  referenceId := some "file-1"
  newReference := false

def uploadRef : ObjectRef where
  referenceId := "file-1"
  cid := "bafy"
  createdAt := 1000

theorem uploaded_again_unchanged :
    Unregistered uploadedPool.shared (repeatedUpload uploadedPool).1 := by
  have named : Py.stripOrNone (some "file-1") = some "file-1" := by decide
  have recorded : uploadedPool.shared.objectRefs.find? "file-1" = some uploadRef := by
    decide
  have answered : (repeatedUpload uploadedPool).2 = .ok uploadAnswer := by decide
  have done : repeatedUpload uploadedPool =
      ((repeatedUpload uploadedPool).1, .ok uploadAnswer) := Prod.ext rfl answered
  have confirmed : sourceConfirmed uploadedPool.shared "bafy" (some "alpha") = true := by
    decide
  have settled : reviving uploadedPool.shared "bafy" = false := by decide
  exact (registered_again_unchanged 1020 uploadedPool.shared "bafy" 10 1 0 (some "alpha")
    (some "file-1") named recorded done).mpr ⟨confirmed, settled⟩

theorem registered_again_changed : ¬∀ (pool : EventPool) (args : Registering) (now : Int)
    (reference : RefId) (row : ObjectRef) (after : Db) (out : Registration),
    eventMachine.Run (fun _ _ => True) freshEvents pool →
      Py.stripOrNone args.referenceId = some reference →
        pool.shared.objectRefs.find? reference = some row → row.cid = args.cid →
          (ReplicationDBV214.registerObject args.cid args.sizeBytes args.n args.m args.sourceNode
            args.referenceId).runAt now pool.shared = (after, .ok out) →
              Unregistered pool.shared after := by
  intro always
  have first : eventMachine.Run (fun _ _ => True) freshEvents uploadedPool :=
    Machine.Run.of_play (Option.some_get _).symm
  have reached : eventMachine.Run (fun _ _ => True) freshEvents withdrawnPool :=
    first.trans (Machine.Run.of_play (Option.some_get _).symm)
  have named : Py.stripOrNone (some "file-1") = some "file-1" := by decide
  have recorded : withdrawnPool.shared.objectRefs.find? "file-1" =
      some { uploadRef with releasedAt := 1010, releaseRequestId := "req" } := by decide
  have answered : (repeatedUpload withdrawnPool).2 = .ok uploadAnswer := by decide
  have done : repeatedUpload withdrawnPool =
      ((repeatedUpload withdrawnPool).1, .ok uploadAnswer) := Prod.ext rfl answered
  have same := (always withdrawnPool uploaded 1020 "file-1" _ _ _ reached named recorded rfl
    done).replicas "bafy" "alpha"
  have wanted : ((repeatedUpload withdrawnPool).1.replica "bafy" "alpha").map
      (fun replica => (replica.state, replica.desired)) = some (.pinned, true) := by
    decide
  have unwanted : (withdrawnPool.shared.replica "bafy" "alpha").map
      (fun replica => (replica.state, replica.desired)) = some (.pinned, false) := by
    decide
  rw [wanted, unwanted] at same
  cases same

end HashBurst.Replication
