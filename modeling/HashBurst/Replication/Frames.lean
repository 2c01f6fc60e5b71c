import HashBurst.Replication.Access

namespace HashBurst.Replication

open Lib

def Object.core (object : Object) : Object := { object with state := .pending, reason := "" }

def Db.core (db : Db) (cid : Cid) : Option Object := (db.object cid).map Object.core

theorem core_congr {first second : Db} (same : first.objects = second.objects) (cid : Cid) :
    first.core cid = second.core cid := by
  unfold Db.core
  rw [object_congr same]

theorem core_of_object {db : Db} {cid : Cid} {object : Object}
    (found : db.object cid = some object) : db.core cid = some object.core := by
  simp [Db.core, found]

theorem object_of_core {db : Db} {cid : Cid} {core : Object} (found : db.core cid = some core) :
    ∃ object, db.object cid = some object ∧ object.core = core :=
  Option.map_eq_some_iff.mp found

def Op.writes {β : Type} (op : Op β) (cid : Cid) : Bool :=
  match op with
  | .registerBase written .. => written = cid
  | .registerBump written _ => written = cid
  | .releaseObject written .. => written = cid
  | _ => false

section Objects

variable {now : Int} {db after : Db}

theorem tx_objects {α : Type} {tx : Tx α} (keeps : ∀ after value, tx db = .ok (after, value) →
    after.objects = db.objects) : (tx.commit db).1.objects = db.objects := by
  cases result : tx db with
  | error failure => rw [commit_error result]
  | ok done =>
      rw [commit_ok result]
      exact keeps done.1 done.2 result

open ReplicationDB ReplicationDBV214 ReplicationDBV214Recovery

private theorem heartbeat_objects {nodeId : NodeId} {totalBytes usedBytes : Int}
    (done : heartbeat now nodeId totalBytes usedBytes db = .ok (after, ())) :
    after.objects = db.objects := by
  obtain ⟨nodes, rfl⟩ := heartbeat_nodes done
  rfl

theorem createPinAssignment_objects {cid : Cid} {nodeId : NodeId} {capacityClass : CapacityClass}
    {answer : Option JobId}
    (done : createPinAssignment now cid nodeId capacityClass db = .ok (after, answer)) :
    after.objects = db.objects := by
  obtain ⟨object, -, rfl | ⟨-, rfl⟩ | rfl⟩ := createPinAssignment_cases done
  · rfl
  · rfl
  · rfl

theorem createVerifyJob_objects {cid : Cid} {nodeId : NodeId} {generation : Nat}
    {answer : Option JobId}
    (done : createVerifyJob now cid nodeId generation db = .ok (after, answer)) :
    after.objects = db.objects := by
  obtain rfl | ⟨-, rfl⟩ := createVerifyJob_cases done
  · rfl
  · rfl

theorem createUnpinJob_objects {cid : Cid} {nodeId : NodeId} {generation : Nat} {reason : String}
    {notBefore : Int} {answer : Option JobId}
    (done : createUnpinJob now cid nodeId generation reason notBefore db = .ok (after, answer)) :
    after.objects = db.objects := by
  obtain rfl | ⟨object, -, -, rfl, -⟩ := createUnpinJob_cases done
  · rfl
  · rfl

theorem applyJobReport_objects {nodeId : NodeId} {report : Report}
    (done : ReplicationDB.applyJobReport now nodeId report db = .ok (after, ())) :
    after.objects = db.objects := by
  obtain ⟨job, -, reported⟩ := applyJobReport_cases done
  cases reported <;> rfl

theorem applyUnpinReport_objects {nodeId : NodeId} {report : Report}
    (done : applyUnpinReport now nodeId report db = .ok (after, ())) :
    after.objects = db.objects := by
  obtain ⟨job, -, reported⟩ := applyUnpinReport_cases done
  cases reported <;> rfl

theorem applyUnpinVerifyReport_objects {nodeId : NodeId} {report : Report}
    (done : applyUnpinVerifyReport now nodeId report db = .ok (after, ())) :
    after.objects = db.objects := by
  obtain ⟨job, -, reported⟩ := applyUnpinVerifyReport_cases done
  cases reported <;> rfl

private theorem authorizeUnpin_objects (now : Int) (nodeId : NodeId) (jobId : JobId)
    (leaseUntil : Int)
    (db : Db) : (authorizeUnpin now nodeId jobId leaseUntil db).1.objects = db.objects := by
  unfold authorizeUnpin
  split
  · rfl
  · split <;> rfl

theorem recoverJob_objects (now : Int) (db : Db) (job : Job) :
    (recoverJob now db job).objects = db.objects := by
  unfold recoverJob
  dsimp only
  split <;> rfl

theorem recoverV214_objects (now : Int) (db : Db) :
    (recoverV214 now db).objects = db.objects := by
  unfold recoverV214
  generalize db.jobs.rows.filter interrupted = jobs
  induction jobs generalizing db with
  | nil => rfl
  | cons head tail ih =>
      rw [List.foldl_cons, ih]
      exact recoverJob_objects now db head

def Object.retained (object : Object) (n m : Int) : Object :=
  { object with
    refcount := object.refcount + 1
    replicationN := max object.replicationN n, committableM := max object.committableM m }

theorem retain_object {cid : Cid} {sizeBytes n m : Int}
    (done : retain now cid sizeBytes n m db = .ok (after, ())) :
    ((∀ wanted, wanted ≠ cid → after.object wanted = db.object wanted) ∧
      match db.object cid with
      | some object => after.object cid = some (object.retained n m)
      | none => after.object cid =
          some { cid, sizeBytes, createdAt := now, replicationN := n, committableM := m }) ∧
      after.objectRefs = db.objectRefs ∧ after.jobs = db.jobs := by
  unfold retain at done
  cases found : db.object cid with
  | some object =>
      rw [found] at done
      by_cases sized : object.sizeBytes ≠ sizeBytes
      · simp [sized] at done
      · simp only [sized, if_false, Except.ok.injEq, Prod.mk.injEq, and_true] at done
        subst done
        refine ⟨⟨fun wanted other => ?_, ?_⟩, rfl, rfl⟩
        · rw [object_updateObject, if_neg other]
        · dsimp only
          rw [object_updateObject, if_pos rfl, found]
          rfl
  | none =>
      rw [found] at done
      cases inserted : db.objects.insert?
          { cid, sizeBytes, createdAt := now, replicationN := n, committableM := m } with
      | none => simp [inserted] at done
      | some objects =>
          simp only [inserted, Except.ok.injEq, Prod.mk.injEq, and_true] at done
          subst done
          have seen := Table.find?_insert? inserted
          refine ⟨⟨fun wanted other => ?_, ?_⟩, rfl, rfl⟩
          · exact (seen wanted).trans (if_neg (Ne.symm other))
          · exact (seen cid).trans (if_pos rfl)

theorem recordReference_objects {cid : Cid} {referenceId : RefId}
    (done : recordReference now cid referenceId db = .ok (after, ())) :
    after.objects = db.objects ∧ after.jobs = db.jobs := by
  unfold recordReference at done
  split at done
  · cases done
  · cases done
    exact ⟨rfl, rfl⟩

/-- A reference is known already, or the object is retained and a name recorded. -/
theorem addReference_cases {cid : Cid} {sizeBytes n m : Int} {referenceId : Option RefId}
    {added : Bool} (done : addReference now cid sizeBytes n m referenceId db = .ok (after, added)) :
    (after = db ∧ added = false ∧ referenceId.isSome) ∨
      (added = true ∧ ∃ middle, retain now cid sizeBytes n m db = .ok (middle, ()) ∧
        ((referenceId = none ∧ after = middle) ∨ ∃ reference, referenceId = some reference ∧
          recordReference now cid reference middle = .ok (after, ()))) := by
  cases referenceId with
  | none =>
      simp only [addReference, bind, Except.bind] at done
      cases kept : retain now cid sizeBytes n m db with
      | error failure => simp [kept] at done
      | ok result =>
          simp only [kept, Except.ok.injEq, Prod.mk.injEq] at done
          exact .inr ⟨done.2.symm, result.1, rfl, .inl ⟨rfl, done.1.symm⟩⟩
  | some reference =>
      cases known : db.objectRefs.find? reference with
      | some row =>
          simp only [addReference, known] at done
          split at done
          · cases done
          · split at done
            · cases done
            · cases done
              exact .inl ⟨rfl, rfl, rfl⟩
      | none =>
          simp only [addReference, known, bind, Except.bind] at done
          cases kept : retain now cid sizeBytes n m db with
          | error failure => simp [kept] at done
          | ok result =>
              simp only [kept] at done
              cases recorded : recordReference now cid reference result.1 with
              | error failure => simp [recorded] at done
              | ok final =>
                  simp only [recorded, Except.ok.injEq, Prod.mk.injEq] at done
                  obtain ⟨rfl, rfl⟩ := done
                  exact .inr ⟨rfl, result.1, rfl, .inr ⟨reference, rfl, recorded⟩⟩

theorem registerBase_cases {cid : Cid} {sizeBytes n m : Int} {sourceNode : Option NodeId}
    {referenceId : Option String} {out : Registration}
    (done : ReplicationDB.registerObject now cid sizeBytes n m sourceNode referenceId db =
      .ok (after, out)) :
    ∃ middle, addReference now cid sizeBytes n m (Py.stripOrNone referenceId) db =
        .ok (middle, out.newReference) ∧
      ((sourceOf sourceNode = none ∧ after = middle) ∨ ∃ source, sourceOf sourceNode = some source ∧
        upsertSource now cid source middle = .ok (after, ())) := by
  simp only [ReplicationDB.registerObject, bind, Except.bind] at done
  cases counted : addReference now cid sizeBytes n m (Py.stripOrNone referenceId) db with
  | error failure => simp [counted] at done
  | ok result =>
      simp only [counted] at done
      cases named : sourceOf sourceNode with
      | none =>
          simp only [named, Except.ok.injEq, Prod.mk.injEq] at done
          obtain ⟨rfl, rfl⟩ := done
          exact ⟨result.1, rfl, .inl ⟨rfl, rfl⟩⟩
      | some source =>
          cases sourced : upsertSource now cid source result.1 with
          | error failure => simp [named, sourced] at done
          | ok final =>
              simp only [named, sourced, Except.ok.injEq, Prod.mk.injEq] at done
              obtain ⟨rfl, rfl⟩ := done
              exact ⟨result.1, rfl, .inr ⟨source, rfl, sourced⟩⟩

theorem upsertSource_tables {cid : Cid} {sourceNode : NodeId}
    (done : upsertSource now cid sourceNode db = .ok (after, ())) :
    after.nodes = db.nodes ∧ after.objects = db.objects ∧ after.objectRefs = db.objectRefs ∧
      after.jobs = db.jobs := by
  unfold upsertSource at done
  split at done
  · cases done
    exact ⟨rfl, rfl, rfl, rfl⟩
  · cases done

/-- What a registration does to the objects before it looks at the generation. -/
theorem registerBase_object {cid : Cid} {sizeBytes n m : Int} {sourceNode : Option NodeId}
    {referenceId : Option String} {out : Registration}
    (done : ReplicationDB.registerObject now cid sizeBytes n m sourceNode referenceId db =
      .ok (after, out)) :
    (∀ wanted, wanted ≠ cid → after.object wanted = db.object wanted) ∧
      (after.object cid = db.object cid ∨
        match db.object cid with
        | some object => after.object cid = some (object.retained n m)
        | none => after.object cid =
            some { cid, sizeBytes, createdAt := now, replicationN := n, committableM := m }) := by
  obtain ⟨middle, counted, sourced⟩ := registerBase_cases done
  have same : ∀ wanted, after.object wanted = middle.object wanted := by
    rcases sourced with ⟨-, rfl⟩ | ⟨source, -, recorded⟩
    · exact fun _ => rfl
    · exact object_congr (upsertSource_tables recorded).2.1
  simp only [same]
  rcases addReference_cases counted with ⟨rfl, -, -⟩ | ⟨-, kept, retained, recorded⟩
  · exact ⟨fun _ _ => rfl, .inl rfl⟩
  · have named : ∀ wanted, middle.object wanted = kept.object wanted := by
      rcases recorded with ⟨-, rfl⟩ | ⟨reference, -, inserted⟩
      · exact fun _ => rfl
      · exact object_congr (recordReference_objects inserted).1
    simp only [named]
    exact ⟨(retain_object retained).1.1, .inr (retain_object retained).1.2⟩

theorem registerBase_jobs {cid : Cid} {sizeBytes n m : Int} {sourceNode : Option NodeId}
    {referenceId : Option String} {out : Registration}
    (done : ReplicationDB.registerObject now cid sizeBytes n m sourceNode referenceId db =
      .ok (after, out)) : after.jobs = db.jobs := by
  obtain ⟨middle, counted, sourced⟩ := registerBase_cases done
  have same : after.jobs = middle.jobs := by
    rcases sourced with ⟨-, rfl⟩ | ⟨source, -, recorded⟩
    · rfl
    · exact (upsertSource_tables recorded).2.2.2
  rw [same]
  rcases addReference_cases counted with ⟨rfl, -, -⟩ | ⟨-, kept, retained, recorded⟩
  · rfl
  · have named : middle.jobs = kept.jobs := by
      rcases recorded with ⟨-, rfl⟩ | ⟨reference, -, inserted⟩
      · rfl
      · exact (recordReference_objects inserted).2
    rw [named]
    exact (retain_object retained).2.2

def Object.bumped (object : Object) : Object :=
  { object with generation := object.generation + 1, releasedAt := 0, state := .pending, reason := "" }

theorem registerBump_object (now : Int) (cid : Cid) (oldPolicy : Option (Int × Int)) (db : Db)
    (wanted : Cid) :
    (registerBump now cid oldPolicy db).object wanted =
      if wanted = cid then (db.object cid).map fun object =>
        if bumps object oldPolicy then object.bumped else object
      else db.object wanted := by
  unfold registerBump
  cases found : db.object cid with
  | none =>
      by_cases same : wanted = cid
      · subst same
        simp [found]
      · simp [same]
  | some object =>
      dsimp only
      by_cases bumping : bumps object oldPolicy
      · rw [if_pos bumping]
        unfold staleWaiting
        rw [object_updateJobs]
        by_cases same : wanted = cid
        · split <;> simp [same, bumping, found, Object.bumped]
        · split <;> simp [same]
      · rw [if_neg bumping]
        by_cases same : wanted = cid
        · subst same
          simp [found, bumping]
        · simp [same]

def Object.finallyReleased (object : Object) (now : Int) : Object :=
  { object with
    refcount := 0, releasedAt := now, state := .releasePending
    reason := "logical references released", generation := object.generation + 1 }

theorem dropReference_object {cid : Cid} {object : Object} {result : ReleaseResult}
    (found : db.object cid = some object)
    (done : dropReference now cid object db = .ok (after, result)) :
    (∀ wanted, wanted ≠ cid → after.object wanted = db.object wanted) ∧
      ((object.refcount - 1 ≠ 0 ∧
          after.object cid = some { object with refcount := object.refcount - 1 }) ∨
        (object.refcount - 1 = 0 ∧ unpinAuthorized db cid = false ∧
          after.object cid = some (object.finallyReleased now))) := by
  rcases dropReference_cases done with ⟨counted, rfl, -⟩ | ⟨last, free, rfl, -⟩
  · refine ⟨fun wanted other => ?_, .inl ⟨counted, ?_⟩⟩
    · rw [object_updateObject, if_neg other]
    · rw [object_updateObject, if_pos rfl, found]
      rfl
  · unfold staleWaiting
    refine ⟨fun wanted other => ?_, .inr ⟨last, free, ?_⟩⟩
    · rw [object_updateJobs, object_updateReplicas, object_updateObject, if_neg other]
    · rw [object_updateJobs, object_updateReplicas, object_updateObject, if_pos rfl, found]
      rfl

theorem releaseObject_object {cid : Cid} {referenceId : Option String} {requestId : String}
    {result : ReleaseResult}
    (done : releaseObject now cid referenceId requestId db = .ok (after, result)) :
    (∀ wanted, wanted ≠ cid → after.object wanted = db.object wanted) ∧
      (after.object cid = db.object cid ∨ ∃ object, db.object cid = some object ∧
        ((object.refcount - 1 ≠ 0 ∧
            after.object cid = some { object with refcount := object.refcount - 1 }) ∨
          (object.refcount - 1 = 0 ∧ unpinAuthorized db cid = false ∧
            after.object cid = some (object.finallyReleased now)))) := by
  rcases releaseObject_cases done with ⟨rfl, -⟩ | ⟨object, refs, found, done⟩
  · exact ⟨fun _ _ => rfl, .inl rfl⟩
  · have dropped := dropReference_object (show
      Db.object { db with objectRefs := refs } cid = some object from found) done
    exact ⟨dropped.1, .inr ⟨object, found, dropped.2⟩⟩

theorem core_runOp {β : Type} (op : Op β) (now : Int) (db : Db) {cid : Cid}
    (quiet : op.writes cid = false) : (runOp op now db).1.core cid = db.core cid := by
  cases op with
  | time => rfl
  | object => rfl
  | objects => rfl
  | replicaRows => rfl
  | nodes => rfl
  | placementLoad => rfl
  | activeUnpinNodes => rfl
  | jobOperation => rfl
  | upsertNode => rfl
  | registerGuard => rfl
  | heartbeat => exact core_congr (tx_objects fun _ _ => heartbeat_objects) cid
  | markReplicaState => rfl
  | updateObjectHealth written state reason =>
      simp only [runOp, updateObjectHealth, Db.core, object_updateObject]
      by_cases same : cid = written
      · cases db.object cid <;> simp [same, Object.core]
      · simp [same]
  | createPinAssignment => exact core_congr (tx_objects fun _ _ => createPinAssignment_objects) cid
  | createVerifyJob => exact core_congr (tx_objects fun _ _ => createVerifyJob_objects) cid
  | createUnpinJob => exact core_congr (tx_objects fun _ _ => createUnpinJob_objects) cid
  | pendingJobs nodeId limit allowed ties =>
      refine core_congr ?_ cid
      cases allowed <;> rfl
  | authorizeUnpin nodeId jobId leaseUntil =>
      exact core_congr (authorizeUnpin_objects now nodeId jobId leaseUntil db) cid
  | jobReport => exact core_congr (tx_objects fun _ _ => applyJobReport_objects) cid
  | unpinReport => exact core_congr (tx_objects fun _ _ => applyUnpinReport_objects) cid
  | unpinVerifyReport => exact core_congr (tx_objects fun _ _ => applyUnpinVerifyReport_objects) cid
  | registerBase written sizeBytes n m sourceNode referenceId =>
      have other : cid ≠ written := fun same => by simp [Op.writes, same] at quiet
      unfold Db.core
      cases done : ReplicationDB.registerObject now written sizeBytes n m sourceNode referenceId
          db with
      | error failure => rw [runOp, commit_error done]
      | ok result => rw [runOp, commit_ok done, (registerBase_object done).1 cid other]
  | registerBump written oldPolicy =>
      have other : cid ≠ written := fun same => by simp [Op.writes, same] at quiet
      unfold Db.core
      rw [runOp, registerBump_object, if_neg other]
  | releaseObject written referenceId requestId =>
      have other : cid ≠ written := fun same => by simp [Op.writes, same] at quiet
      unfold Db.core
      cases done : releaseObject now written referenceId requestId db with
      | error failure => rw [runOp, commit_error done]
      | ok result => rw [runOp, commit_ok done, (releaseObject_object done).1 cid other]
  | recoverV214 => exact core_congr (recoverV214_objects now db) cid

end Objects

section Authorized

open ReplicationDB ReplicationDBV214 ReplicationDBV214Recovery

variable {now : Int} {db after : Db} {cid : Cid}

theorem unpinAuthorized_iff : unpinAuthorized db cid = true ↔
    ∃ job ∈ db.jobs.rows, job.cid = cid ∧ job.operation = .unpin ∧ job.state = .authorized := by
  simp [unpinAuthorized, and_assoc]

theorem unpinAuthorized_congr {first second : Db} (same : first.jobs = second.jobs) (cid : Cid) :
    unpinAuthorized first cid = unpinAuthorized second cid := by
  unfold unpinAuthorized
  rw [same]

theorem updateJobs_authorized {which : Job → Bool} {change : Job → Job}
    {keeps : ∀ job, (change job).jobId = job.jobId}
    (calm : ∀ job, (change job).cid = cid → (change job).operation = .unpin →
      (change job).state = .authorized →
        job.cid = cid ∧ job.operation = .unpin ∧ job.state = .authorized)
    (later : unpinAuthorized (db.updateJobs which change keeps) cid) :
    unpinAuthorized db cid := by
  rw [unpinAuthorized_iff] at later ⊢
  obtain ⟨job, member, named, unpin, authorized⟩ := later
  obtain ⟨old, present, rfl⟩ := Serial.mem_update.mp member
  by_cases chosen : which old
  · rw [if_pos chosen] at named unpin authorized
    exact ⟨old, present, calm old named unpin authorized⟩
  · rw [if_neg chosen] at named unpin authorized
    exact ⟨old, present, named, unpin, authorized⟩

theorem insertJob_authorized {make : JobId → Job} {numbered : ∀ number, (make number).jobId = number}
    (waiting : ∀ number, (make number).state ≠ .authorized)
    (later : unpinAuthorized (insertJob db make numbered).1 cid) : unpinAuthorized db cid := by
  rw [unpinAuthorized_iff] at later ⊢
  obtain ⟨job, member, named, unpin, authorized⟩ := later
  simp only [insertJob, Serial.append_rows, List.mem_append, List.mem_singleton] at member
  rcases member with old | rfl
  · exact ⟨job, old, named, unpin, authorized⟩
  · exact absurd authorized (waiting _)

theorem staleWaiting_authorized {written : Cid}
    (later : unpinAuthorized (staleWaiting now written db) cid) : unpinAuthorized db cid :=
  updateJobs_authorized (fun _ _ _ stale => by cases stale) later

theorem markStale_authorized {jobId : JobId}
    (later : unpinAuthorized (markStale now jobId db) cid) : unpinAuthorized db cid :=
  updateJobs_authorized (fun _ _ _ stale => by cases stale) later

theorem markDone_authorized {jobId : JobId}
    (later : unpinAuthorized (markDone now jobId db) cid) : unpinAuthorized db cid :=
  updateJobs_authorized (fun _ _ _ done => by cases done) later

theorem markRetry_authorized {jobId : JobId} {attempts : Nat} {error : String}
    (later : unpinAuthorized (markRetry now jobId attempts error db) cid) :
    unpinAuthorized db cid :=
  updateJobs_authorized (fun _ _ _ retry => by cases retry) later

/-- The content whose UNPIN `authorize_unpin` grants, if it grants one. -/
def unpinGrant (db : Db) (nodeId : NodeId) (jobId : JobId) (leaseUntil : Int) : Option Cid :=
  ((findJob db jobId nodeId).filter fun job =>
    job.operation = .unpin && job.leaseUntil = leaseUntil && job.waiting &&
      unpinLawful db job nodeId).map Job.cid

def Op.grants {β : Type} (op : Op β) (db : Db) : Option Cid :=
  match op with
  | .authorizeUnpin nodeId jobId leaseUntil => unpinGrant db nodeId jobId leaseUntil
  | _ => none

theorem tx_authorized {α : Type} {tx : Tx α} (keeps : ∀ after value, tx db = .ok (after, value) →
    unpinAuthorized after cid → unpinAuthorized db cid)
    (later : unpinAuthorized (tx.commit db).1 cid) : unpinAuthorized db cid := by
  cases result : tx db with
  | error failure =>
      rw [commit_error result] at later
      exact later
  | ok done =>
      rw [commit_ok result] at later
      exact keeps done.1 done.2 result later

theorem authorizeUnpin_authorized {nodeId : NodeId} {jobId : JobId} {leaseUntil : Int}
    (ungranted : unpinGrant db nodeId jobId leaseUntil ≠ some cid)
    (later : unpinAuthorized (authorizeUnpin now nodeId jobId leaseUntil db).1 cid) :
    unpinAuthorized db cid := by
  unfold authorizeUnpin at later
  unfold unpinGrant at ungranted
  cases found : findJob db jobId nodeId with
  | none => simpa [found] using later
  | some job =>
      rw [found] at later ungranted
      by_cases unpin : job.operation = .unpin
      · simp only [Option.filter_some, unpin, decide_true, if_true] at later
        split at later
        · rename_i lawful
          simp only [Bool.and_eq_true, decide_eq_true_eq] at lawful
          have other : job.cid ≠ cid := fun same => ungranted (by simp [unpin, lawful, same])
          rw [unpinAuthorized_iff] at later ⊢
          obtain ⟨final, member, named, operation, authorized⟩ := later
          obtain ⟨old, present, rfl⟩ := Serial.mem_update.mp member
          have known := Table.find?_mem (Option.filter_eq_some_iff.mp found).1
          have keyed := Table.find?_key (Option.filter_eq_some_iff.mp found).1
          by_cases chosen : old.jobId = jobId
          · have same : old = job := Table.eq_of_key present known (chosen.trans keyed.symm)
            rw [if_pos (by simpa using chosen)] at named
            exact absurd (same ▸ named) other
          · rw [if_neg (by simpa using chosen)] at named operation authorized
            exact ⟨old, present, named, operation, authorized⟩
        · exact markStale_authorized later
      · rw [Option.filter_some, if_neg (by simpa using unpin)] at later
        exact later

private theorem recoverJob_authorized {job : Job}
    (later : unpinAuthorized (recoverJob now db job) cid) : unpinAuthorized db cid := by
  unfold recoverJob at later
  dsimp only at later
  split at later
  · exact markStale_authorized later
  · exact markStale_authorized (insertJob_authorized (fun _ => by simp) later)

private theorem recoverV214_authorized (later : unpinAuthorized (recoverV214 now db) cid) :
    unpinAuthorized db cid := by
  unfold recoverV214 at later
  generalize db.jobs.rows.filter interrupted = jobs at later
  induction jobs generalizing db with
  | nil => exact later
  | cons head tail ih => exact recoverJob_authorized (ih later)

theorem createPinAssignment_authorized {written : Cid} {nodeId : NodeId}
    {capacityClass : CapacityClass} {answer : Option JobId}
    (done : createPinAssignment now written nodeId capacityClass db = .ok (after, answer))
    (later : unpinAuthorized after cid) : unpinAuthorized db cid := by
  obtain ⟨object, -, rfl | ⟨-, rfl⟩ | rfl⟩ := createPinAssignment_cases done
  · exact later
  · exact later
  · have fresh := insertJob_authorized (fun _ => by simp [newJob]) later
    exact fresh

theorem createVerifyJob_authorized {written : Cid} {nodeId : NodeId} {generation : Nat}
    {answer : Option JobId}
    (done : createVerifyJob now written nodeId generation db = .ok (after, answer))
    (later : unpinAuthorized after cid) : unpinAuthorized db cid := by
  obtain rfl | ⟨-, rfl⟩ := createVerifyJob_cases done
  · exact later
  · exact insertJob_authorized (fun _ => by simp [newJob]) later

theorem createUnpinJob_authorized {written : Cid} {nodeId : NodeId} {generation : Nat}
    {reason : String} {notBefore : Int} {answer : Option JobId}
    (done : createUnpinJob now written nodeId generation reason notBefore db = .ok (after, answer))
    (later : unpinAuthorized after cid) : unpinAuthorized db cid := by
  obtain rfl | ⟨object, -, -, rfl, -⟩ := createUnpinJob_cases done
  · exact later
  · exact insertJob_authorized (fun _ => by simp [unpinJob]) later

theorem applyJobReport_authorized {nodeId : NodeId} {report : Report}
    (done : ReplicationDB.applyJobReport now nodeId report db = .ok (after, ()))
    (later : unpinAuthorized after cid) : unpinAuthorized db cid := by
  obtain ⟨job, -, reported⟩ := applyJobReport_cases done
  cases reported with
  | stale => exact markStale_authorized later
  | ignored => exact later
  | pinned => exact markDone_authorized later
  | verified => exact markDone_authorized later
  | failed => exact markRetry_authorized later

theorem applyUnpinReport_authorized {nodeId : NodeId} {report : Report}
    (done : applyUnpinReport now nodeId report db = .ok (after, ()))
    (later : unpinAuthorized after cid) : unpinAuthorized db cid := by
  obtain ⟨job, -, reported⟩ := applyUnpinReport_cases done
  cases reported with
  | stale => exact markStale_authorized later
  | ignored => exact later
  | unpinned => exact markDone_authorized later
  | failed => exact updateJobs_authorized (fun _ _ _ retry => by cases retry) later

theorem applyUnpinVerifyReport_authorized {nodeId : NodeId} {report : Report}
    (done : applyUnpinVerifyReport now nodeId report db = .ok (after, ()))
    (later : unpinAuthorized after cid) : unpinAuthorized db cid := by
  obtain ⟨job, -, reported⟩ := applyUnpinVerifyReport_cases done
  cases reported with
  | stale => exact markStale_authorized later
  | ignored => exact later
  | unpinned => exact markDone_authorized later
  | verified => exact markDone_authorized later
  | failed => exact markRetry_authorized later

theorem registerBump_authorized {written : Cid} {oldPolicy : Option (Int × Int)}
    (later : unpinAuthorized (registerBump now written oldPolicy db) cid) :
    unpinAuthorized db cid := by
  unfold registerBump at later
  split at later
  · exact later
  · dsimp only at later
    split at later
    · have before := staleWaiting_authorized later
      split at before <;> exact before
    · exact later

theorem releaseObject_authorized {written : Cid} {referenceId : Option String}
    {requestId : String} {result : ReleaseResult}
    (done : releaseObject now written referenceId requestId db = .ok (after, result))
    (later : unpinAuthorized after cid) : unpinAuthorized db cid := by
  rcases releaseObject_cases done with ⟨rfl, -⟩ | ⟨object, refs, -, done⟩
  · exact later
  · rcases dropReference_cases done with ⟨-, rfl, -⟩ | ⟨-, -, rfl, -⟩
    · exact later
    · have before := staleWaiting_authorized later
      exact before

/-- Only a granted `authorize_unpin` makes an UNPIN authorized. -/
theorem authorized_runOp {β : Type} (op : Op β) (ungranted : op.grants db ≠ some cid)
    (later : unpinAuthorized (runOp op now db).1 cid) : unpinAuthorized db cid := by
  cases op with
  | time => exact later
  | object => exact later
  | objects => exact later
  | replicaRows => exact later
  | nodes => exact later
  | placementLoad => exact later
  | activeUnpinNodes => exact later
  | jobOperation => exact later
  | upsertNode => exact later
  | registerGuard => exact later
  | markReplicaState => exact later
  | updateObjectHealth => exact later
  | heartbeat nodeId totalBytes usedBytes =>
      refine tx_authorized (fun after _ done later => ?_) later
      obtain ⟨nodes, rfl⟩ := heartbeat_nodes done
      exact later
  | createPinAssignment =>
      exact tx_authorized (fun _ _ => createPinAssignment_authorized) later
  | createVerifyJob => exact tx_authorized (fun _ _ => createVerifyJob_authorized) later
  | createUnpinJob => exact tx_authorized (fun _ _ => createUnpinJob_authorized) later
  | pendingJobs nodeId limit allowed ties =>
      have leased : unpinAuthorized (ReplicationDB.pendingJobs now nodeId limit ties db).1 cid := by
        cases allowed <;> exact later
      unfold ReplicationDB.pendingJobs at leased
      refine updateJobs_authorized (fun job named unpin authorized => ?_) leased
      exact ⟨named, unpin, authorized⟩
  | authorizeUnpin => exact authorizeUnpin_authorized ungranted later
  | jobReport => exact tx_authorized (fun _ _ => applyJobReport_authorized) later
  | unpinReport => exact tx_authorized (fun _ _ => applyUnpinReport_authorized) later
  | unpinVerifyReport => exact tx_authorized (fun _ _ => applyUnpinVerifyReport_authorized) later
  | registerBase =>
      refine tx_authorized (fun after _ done later => ?_) later
      rw [← unpinAuthorized_congr (registerBase_jobs done)]
      exact later
  | registerBump => exact registerBump_authorized later
  | releaseObject => exact tx_authorized (fun _ _ => releaseObject_authorized) later
  | recoverV214 => exact recoverV214_authorized later

end Authorized

end HashBurst.Replication
