import HashBurst.Replication.Frames
import HashBurst.Replication.Reconcile

/-! Desired replicas that are not confirmed, paired with active jobs of the current generation:
what each access of the store does to the pairs. -/

namespace HashBurst.Replication

open Lib ReplicationDB ReplicationDBV214 ReplicationDBV214Recovery

def Replica.wanting (replica : Replica) : Bool := replica.desired && !replica.settled

/-- An active PIN or VERIFY job for the row, of the generation. -/
def Job.serves (job : Job) (cid : Cid) (nodeId : NodeId) (generation : Nat) : Bool :=
  job.cid = cid && job.nodeId = nodeId && (job.operation = .pin || job.operation = .verify) &&
    job.generation = generation && job.waiting

def Db.served (db : Db) (cid : Cid) (nodeId : NodeId) (generation : Nat) : Bool :=
  db.jobs.rows.any fun job => job.serves cid nodeId generation

/-- Each wanting row has a job of the generation of its object, or is excused. -/
def Paired (excused : NodeId → Prop) (db : Db) : Prop :=
  ∀ cid nodeId replica, db.replica cid nodeId = some replica → replica.wanting = true →
    excused nodeId ∨ ∃ object, db.object cid = some object ∧
      db.served cid nodeId object.generation = true

structure Keeps (db after : Db) : Prop where
  rows : ∀ cid nodeId replica, after.replica cid nodeId = some replica → replica.wanting = true →
    ∃ old, db.replica cid nodeId = some old ∧ old.wanting = true
  objects : ∀ cid object, db.object cid = some object →
    ∃ later, after.object cid = some later ∧ later.generation = object.generation
  served : ∀ cid nodeId object, db.object cid = some object →
    db.served cid nodeId object.generation = true →
      after.served cid nodeId object.generation = true

section Keeps

variable {excused : NodeId → Prop} {db after : Db}

theorem Keeps.paired (keeps : Keeps db after) (paired : Paired excused db) :
    Paired excused after := by
  intro cid nodeId replica present wanting
  obtain ⟨old, found, wanted⟩ := keeps.rows cid nodeId replica present wanting
  rcases paired cid nodeId old found wanted with free | ⟨object, known, served⟩
  · exact .inl free
  · obtain ⟨later, remains, same⟩ := keeps.objects cid object known
    have kept := keeps.served cid nodeId object known served
    rw [← same] at kept
    exact .inr ⟨later, remains, kept⟩

theorem Keeps.refl (db : Db) : Keeps db db where
  rows _ _ replica present wanting := ⟨replica, present, wanting⟩
  objects _ object known := ⟨object, known, rfl⟩
  served _ _ _ _ kept := kept

theorem Keeps.of_eq (replicas : after.replicas = db.replicas) (objects : after.objects = db.objects)
    (jobs : after.jobs = db.jobs) : Keeps db after where
  rows cid nodeId replica present wanting := by
    rw [replica_congr replicas] at present
    exact ⟨replica, present, wanting⟩
  objects cid object known := by
    rw [object_congr objects]
    exact ⟨object, known, rfl⟩
  served cid nodeId object _ kept := by
    unfold Db.served at *
    rw [jobs]
    exact kept

theorem served_iff {cid : Cid} {nodeId : NodeId} {generation : Nat} :
    db.served cid nodeId generation = true ↔
      ∃ job ∈ db.jobs.rows, job.serves cid nodeId generation = true := by
  unfold Db.served
  rw [List.any_eq_true]

theorem Keeps.insertJob {make : JobId → Job} {numbered : ∀ number, (make number).jobId = number} :
    Keeps db (insertJob db make numbered).1 where
  rows _ _ replica present wanting := ⟨replica, present, wanting⟩
  objects _ object known := ⟨object, known, rfl⟩
  served _ _ _ _ served := any_insertJob served

theorem Keeps.updateJobs {which : Job → Bool} {change : Job → Job}
    {keeps : ∀ job, (change job).jobId = job.jobId}
    (spared : ∀ job ∈ db.jobs.rows, which job = true → ∀ cid nodeId object,
      db.object cid = some object → job.serves cid nodeId object.generation = true →
        (change job).serves cid nodeId object.generation = true) :
    Keeps db (db.updateJobs which change keeps) where
  rows _ _ replica present wanting := ⟨replica, present, wanting⟩
  objects _ object known := ⟨object, known, rfl⟩
  served cid nodeId object known served :=
    any_updateJobs (fun job member chosen => spared job member chosen cid nodeId object known)
      served

end Keeps

section Ops

variable {excused : NodeId → Prop} {db after : Db} {now : Int}

/-- A change of one job that is neither a PIN nor a VERIFY job. -/
theorem Keeps.updateJob {job : Job} {change : Job → Job}
    {keeps : ∀ job, (change job).jobId = job.jobId} (member : job ∈ db.jobs.rows)
    (other : job.operation ≠ .pin ∧ job.operation ≠ .verify) :
    Keeps db (db.updateJob job.jobId change keeps) := by
  refine Keeps.updateJobs fun row present chosen cid nodeId object _ serves => ?_
  have same : row = job := Table.eq_of_key present member (of_decide_eq_true chosen)
  subst same
  simp [Job.serves, other.1, other.2] at serves

theorem Keeps.trans {first second third : Db} (front : Keeps first second)
    (back : Keeps second third) (same : ∀ cid object, first.object cid = some object →
      second.object cid = some object) : Keeps first third where
  rows cid nodeId replica present wanting := by
    obtain ⟨middle, found, wanted⟩ := back.rows cid nodeId replica present wanting
    exact front.rows cid nodeId middle found wanted
  objects cid object known := back.objects cid object (same cid object known)
  served cid nodeId object known served :=
    back.served cid nodeId object (same cid object known) (front.served cid nodeId object known served)

theorem pendingJobs_keeps {nodeId : NodeId} {limit : Nat} {allowed : Option (List Operation)}
    {ties : TieOrder} :
    Keeps db (ReplicationDBV214.pendingJobs now nodeId limit allowed ties db).1 := by
  unfold ReplicationDBV214.pendingJobs ReplicationDB.pendingJobs
  cases allowed with
  | none => exact Keeps.updateJobs fun _ _ _ _ _ _ _ serves => serves
  | some operations => exact Keeps.updateJobs fun _ _ _ _ _ _ _ serves => serves

theorem heartbeat_keeps {nodeId : NodeId} {totalBytes usedBytes : Int}
    (done : heartbeat now nodeId totalBytes usedBytes db = .ok (after, ())) : Keeps db after := by
  obtain ⟨nodes, rfl⟩ := heartbeat_nodes done
  exact Keeps.of_eq rfl rfl rfl

theorem createVerifyJob_keeps {cid : Cid} {nodeId : NodeId} {generation : Nat}
    {answer : Option JobId}
    (done : createVerifyJob now cid nodeId generation db = .ok (after, answer)) :
    Keeps db after := by
  obtain rfl | ⟨-, rfl⟩ := createVerifyJob_cases done
  · exact Keeps.refl _
  · exact Keeps.insertJob

theorem createUnpinJob_keeps {cid : Cid} {nodeId : NodeId} {generation : Nat} {reason : String}
    {notBefore : Int} {answer : Option JobId}
    (done : createUnpinJob now cid nodeId generation reason notBefore db = .ok (after, answer)) :
    Keeps db after := by
  obtain rfl | ⟨object, -, -, rfl, -⟩ := createUnpinJob_cases done
  · exact Keeps.refl _
  · exact Keeps.insertJob

theorem authorizeUnpin_keeps {nodeId : NodeId} {jobId : JobId} {leaseUntil : Int} :
    Keeps db (authorizeUnpin now nodeId jobId leaseUntil db).1 := by
  obtain same | ⟨job, member, rfl, rfl, operation, moved⟩ :=
    authorizeUnpin_cases now nodeId jobId leaseUntil db
  · rw [same]
    exact Keeps.refl db
  · have other : job.operation ≠ .pin ∧ job.operation ≠ .verify := by
      rw [operation]
      decide
    obtain stale | ⟨-, -, -, granted⟩ := moved
    · rw [stale]
      exact Keeps.updateJob member other
    · rw [granted]
      exact Keeps.updateJob member other

variable (now) in
theorem recoverJob_keeps {job : Job} (member : ∃ row ∈ db.jobs.rows, row.jobId = job.jobId ∧
    row.operation = .unpin) : Keeps db (recoverJob now db job) := by
  obtain ⟨row, present, named, operation⟩ := member
  have other : row.operation ≠ .pin ∧ row.operation ≠ .verify := by
    rw [operation]
    decide
  have staled : Keeps db (markStale now job.jobId db) := by
    rw [← named]
    exact Keeps.updateJob present other
  unfold recoverJob
  dsimp only
  split
  · exact staled
  · exact staled.trans Keeps.insertJob fun _ _ known => known

/-- The UNPIN jobs stay UNPIN jobs while `recover_v214` goes through them. -/
theorem recoverJob_unpin {job : Job} {jobId : JobId}
    (present : ∃ row ∈ db.jobs.rows, row.jobId = jobId ∧ row.operation = .unpin) :
    ∃ row ∈ (recoverJob now db job).jobs.rows, row.jobId = jobId ∧ row.operation = .unpin := by
  obtain ⟨row, member, named, operation⟩ := present
  have staled : ∃ kept ∈ (markStale now job.jobId db).jobs.rows,
      kept.jobId = jobId ∧ kept.operation = .unpin := by
    refine ⟨_, Serial.mem_update.mpr ⟨row, member, rfl⟩, ?_⟩
    split
    · exact ⟨named, operation⟩
    · exact ⟨named, operation⟩
  unfold recoverJob
  dsimp only
  split
  · exact staled
  · obtain ⟨kept, remains, same⟩ := staled
    refine ⟨kept, ?_, same⟩
    rw [insertJob_rows]
    exact List.mem_append_left _ remains

theorem recoverV214_keeps : Keeps db (recoverV214 now db) := by
  have fold : ∀ (jobs : List Job) (db : Db),
      (∀ job ∈ jobs, ∃ row ∈ db.jobs.rows, row.jobId = job.jobId ∧ row.operation = .unpin) →
        Keeps db (jobs.foldl (recoverJob now) db) := by
    intro jobs
    induction jobs with
    | nil => exact fun db _ => Keeps.refl db
    | cons head tail ih =>
        intro db present
        have first := recoverJob_keeps now (present head List.mem_cons_self)
        have rest := ih (recoverJob now db head) fun job member =>
          recoverJob_unpin (present job (List.mem_cons_of_mem head member))
        refine first.trans rest fun cid object known => ?_
        rw [object_congr (recoverJob_objects now db head)]
        exact known
  refine fold _ db fun job listed => ?_
  obtain ⟨member, interrupted⟩ := List.mem_filter.mp listed
  unfold ReplicationDBV214Recovery.interrupted at interrupted
  simp only [Bool.and_eq_true, decide_eq_true_eq] at interrupted
  exact ⟨job, member, rfl, interrupted.1⟩

private theorem served_of_pinWaiting {cid : Cid} {nodeId : NodeId} {generation : Nat}
    (waiting : pinWaiting db cid nodeId generation = true) :
    db.served cid nodeId generation = true := by
  obtain ⟨job, member, serves⟩ := List.any_eq_true.mp waiting
  simp only [Bool.and_eq_true, decide_eq_true_eq] at serves
  obtain ⟨⟨⟨⟨content, node⟩, operation⟩, current⟩, active⟩ := serves
  refine served_iff.mpr ⟨job, member, ?_⟩
  simp [Job.serves, content, node, operation, current, active]

private theorem served_newPin {cid : Cid} {nodeId : NodeId} {generation : Nat} :
    (insertJob db (newJob now cid nodeId .pin generation)).1.served cid nodeId generation =
      true := by
  refine served_iff.mpr ⟨newJob now cid nodeId .pin generation db.jobs.next, ?_, ?_⟩
  · change _ ∈ db.jobs.rows ++ [newJob now cid nodeId .pin generation db.jobs.next]
    exact List.mem_append_right _ List.mem_cons_self
  · simp [Job.serves, newJob, Job.waiting]

/-- A PIN assignment makes a row and leaves a PIN job of the current generation. -/
theorem paired_createPinAssignment {cid : Cid} {nodeId : NodeId} {capacityClass : CapacityClass}
    {answer : Option JobId} (paired : Paired excused db)
    (done : createPinAssignment now cid nodeId capacityClass db = .ok (after, answer)) :
    Paired excused after := by
  obtain ⟨object, found, rest⟩ := createPinAssignment_cases done
  let assigned := assignReplica now cid nodeId capacityClass object.generation db
  have jobless : ∀ final : Db, final.replicas = assigned.replicas →
      final.objects = db.objects → final.served cid nodeId object.generation = true →
      (∀ content node generation, db.served content node generation = true →
        final.served content node generation = true) → Paired excused final := by
    intro final replicas objects own kept content node row present wanting
    rw [replica_congr replicas, replica_assignReplica] at present
    rw [object_congr objects]
    split at present
    · rename_i same
      obtain ⟨rfl, rfl⟩ := same
      exact .inr ⟨object, found, own⟩
    · rcases paired content node row present wanting with free | ⟨owner, known, served⟩
      · exact .inl free
      · exact .inr ⟨owner, known, kept content node owner.generation served⟩
  obtain rfl | ⟨waiting, rfl⟩ | rfl := rest
  · exact paired
  · exact jobless _ rfl rfl (served_of_pinWaiting waiting) fun _ _ _ served => served
  · exact jobless _ rfl rfl served_newPin fun _ _ _ served => any_insertJob served

theorem serves_cases {job : Job} {cid : Cid} {nodeId : NodeId} {generation : Nat}
    (serves : job.serves cid nodeId generation = true) :
    job.cid = cid ∧ job.nodeId = nodeId ∧ job.generation = generation := by
  unfold Job.serves at serves
  simp only [Bool.and_eq_true, decide_eq_true_eq] at serves
  exact ⟨serves.1.1.1.1, serves.1.1.1.2, serves.1.2⟩

theorem paired_settle {job : Job} {finish : Job → Job} {change : Replica → Replica}
    {named : ∀ job, (finish job).jobId = job.jobId}
    {keeps : ∀ replica, (change replica).key = replica.key} (paired : Paired excused db)
    (member : job ∈ db.jobs.rows) (settles : ∀ replica, (change replica).wanting = false) :
    Paired excused ((db.updateJob job.jobId finish named).updateReplica job.cid job.nodeId change
      keeps) := by
  intro cid nodeId replica present wanting
  rw [replica_updateReplica, replica_updateJob] at present
  rw [object_updateReplica, object_updateJob]
  split at present
  · obtain ⟨old, -, rfl⟩ := Option.map_eq_some_iff.mp present
    rw [settles old] at wanting
    cases wanting
  · rename_i other
    rcases paired cid nodeId replica present wanting with free | ⟨object, known, served⟩
    · exact .inl free
    · refine .inr ⟨object, known, any_updateJobs (fun row listed chosen serves => ?_) served⟩
      have same : row = job := Table.eq_of_key listed member (of_decide_eq_true chosen)
      subst same
      obtain ⟨content, node, -⟩ := serves_cases serves
      exact absurd ⟨content.symm, node.symm⟩ other

/-- A failed PIN or VERIFY job is tried again, and so serves the row that it fails. -/
theorem paired_retry {job : Job} {attempts : Nat} {error : String} {change : Replica → Replica}
    {keeps : ∀ replica, (change replica).key = replica.key} (paired : Paired excused db)
    (member : job ∈ db.jobs.rows) (operation : job.operation = .pin ∨ job.operation = .verify)
    (current : ∃ object, db.object job.cid = some object ∧ object.generation = job.generation) :
    Paired excused ((markRetry now job.jobId attempts error db).updateReplica job.cid job.nodeId
      change keeps) := by
  obtain ⟨owner, owned, same⟩ := current
  have retried : ∀ cid nodeId generation, db.served cid nodeId generation = true →
      (markRetry now job.jobId attempts error db).served cid nodeId generation = true := by
    intro cid nodeId generation served
    refine any_updateJobs (fun row _ _ serves => ?_) served
    unfold Job.serves at *
    simp only [Bool.and_eq_true] at serves ⊢
    exact ⟨serves.1, rfl⟩
  have own : (markRetry now job.jobId attempts error db).served job.cid job.nodeId
      owner.generation = true := by
    refine served_iff.mpr ⟨_, Serial.mem_update.mpr ⟨job, member, rfl⟩, ?_⟩
    rcases operation with pin | verify
    · simp [Job.serves, Job.waiting, pin, same]
    · simp [Job.serves, Job.waiting, verify, same]
  intro cid nodeId replica present wanting
  rw [replica_updateReplica] at present
  split at present
  · rename_i here
    obtain ⟨rfl, rfl⟩ := here
    exact .inr ⟨owner, owned, own⟩
  · rcases paired cid nodeId replica present wanting with free | ⟨object, known, served⟩
    · exact .inl free
    · exact .inr ⟨object, known, retried cid nodeId object.generation served⟩

private theorem markStale_keeps {job : Job} (member : job ∈ db.jobs.rows)
    (old : ∀ object, db.object job.cid = some object → object.generation ≠ job.generation) :
    Keeps db (markStale now job.jobId db) := by
  refine Keeps.updateJobs fun row listed chosen cid nodeId object known serves => ?_
  have same : row = job := Table.eq_of_key listed member (of_decide_eq_true chosen)
  subst same
  obtain ⟨rfl, -, current⟩ := serves_cases serves
  exact absurd current.symm (old object known)

theorem paired_jobReport {nodeId : NodeId} {report : Report} (paired : Paired excused db)
    (operation : ∀ job, findJob db report.jobId nodeId = some job →
      job.operation = .pin ∨ job.operation = .verify)
    (done : ReplicationDB.applyJobReport now nodeId report db = .ok (after, ())) :
    Paired excused after := by
  obtain ⟨job, found, reported⟩ := applyJobReport_cases done
  obtain ⟨member, -, rfl⟩ := findJob_cases found
  cases reported with
  | stale outdated =>
      refine (markStale_keeps member fun object known same => ?_).paired paired
      unfold Db.current at outdated
      rw [known, Option.any_some, decide_eq_false_iff_not] at outdated
      exact outdated same
  | ignored current => exact paired
  | pinned current fits state =>
      exact paired_settle paired member fun replica => by simp [Replica.wanting, Replica.settled]
  | verified current fits state =>
      exact paired_settle paired member fun replica => by simp [Replica.wanting, Replica.settled]
  | failed error current fits state =>
      obtain ⟨owner, owned, generation⟩ := (Option.any_eq_true _ _).mp current
      exact paired_retry paired member (operation job found)
        ⟨owner, owned, of_decide_eq_true generation⟩

/-- A report on a job that is neither a PIN nor a VERIFY job may only drop a row. -/
theorem paired_drop {job : Job} {finish : Job → Job} {change : Replica → Replica}
    {named : ∀ job, (finish job).jobId = job.jobId}
    {keeps : ∀ replica, (change replica).key = replica.key} {cid : Cid} {nodeId : NodeId}
    (paired : Paired excused db) (member : job ∈ db.jobs.rows)
    (other : job.operation ≠ .pin ∧ job.operation ≠ .verify)
    (drops : ∀ replica, (change replica).wanting = false) :
    Paired excused ((db.updateJob job.jobId finish named).updateReplica cid nodeId change
      keeps) := by
  have kept : Paired excused (db.updateJob job.jobId finish named) :=
    (Keeps.updateJob member other).paired paired
  intro wantedCid wantedNode replica present wanting
  rw [replica_updateReplica] at present
  split at present
  · obtain ⟨old, -, rfl⟩ := Option.map_eq_some_iff.mp present
    rw [drops old] at wanting
    cases wanting
  · exact kept wantedCid wantedNode replica present wanting

theorem paired_unpinReport {nodeId : NodeId} {report : Report} (paired : Paired excused db)
    (operation : ∀ job, findJob db report.jobId nodeId = some job → job.operation = .unpin)
    (done : applyUnpinReport now nodeId report db = .ok (after, ())) : Paired excused after := by
  obtain ⟨job, found, reported⟩ := applyUnpinReport_cases done
  obtain ⟨member, -, rfl⟩ := findJob_cases found
  have other : job.operation ≠ .pin ∧ job.operation ≠ .verify := by
    rw [operation job found]
    decide
  cases reported with
  | stale => exact (Keeps.updateJob member other).paired paired
  | ignored => exact paired
  | unpinned => exact paired_drop paired member other fun replica => by simp [Replica.wanting]
  | failed => exact (Keeps.updateJob member other).paired paired

theorem paired_unpinVerifyReport {nodeId : NodeId} {report : Report} (paired : Paired excused db)
    (operation : ∀ job, findJob db report.jobId nodeId = some job → job.operation = .unpinVerify)
    (done : applyUnpinVerifyReport now nodeId report db = .ok (after, ())) :
    Paired excused after := by
  obtain ⟨job, found, reported⟩ := applyUnpinVerifyReport_cases done
  obtain ⟨member, -, rfl⟩ := findJob_cases found
  have other : job.operation ≠ .pin ∧ job.operation ≠ .verify := by
    rw [operation job found]
    decide
  cases reported with
  | stale => exact (Keeps.updateJob member other).paired paired
  | ignored => exact paired
  | unpinned => exact paired_drop paired member other fun replica => by simp [Replica.wanting]
  | verified => exact paired_drop paired member other fun replica => by simp [Replica.wanting]
  | failed => exact (Keeps.updateJob member other).paired paired

theorem paired_report {nodeId : NodeId} {report : Report} (paired : Paired excused db) :
    Paired excused ((ReplicationDBV214Recovery.applyJobReport nodeId report).runAt now db).1 := by
  rw [applyJobReport_runAt]
  split
  · rename_i recheck
    refine commit_invariant (Paired excused) paired fun after _ done => paired_unpinVerifyReport paired ?_ done
    intro job found
    rw [found] at recheck
    exact Option.some.inj recheck
  · rename_i recheck
    split
    · rename_i unpin
      refine commit_invariant (Paired excused) paired fun after _ done => paired_unpinReport paired ?_ done
      intro job found
      rw [found] at unpin
      exact Option.some.inj unpin
    · rename_i unpin
      refine commit_invariant (Paired excused) paired fun after _ done => paired_jobReport paired ?_ done
      intro job found
      rw [found, Option.map_some] at recheck unpin
      cases kind : job.operation with
      | pin => exact .inl rfl
      | verify => exact .inr rfl
      | unpin => exact absurd (congrArg some kind) unpin
      | unpinVerify => exact absurd (congrArg some kind) recheck

end Ops

section Lifecycle

variable {excused : NodeId → Prop} {db after : Db} {now : Int} {cid : Cid}

theorem retain_replicas {sizeBytes n m : Int}
    (done : retain now cid sizeBytes n m db = .ok (after, ())) : after.replicas = db.replicas := by
  unfold retain at done
  split at done
  · split at done
    · cases done
    · cases done
      rfl
  · split at done
    · cases done
    · cases done
      rfl

private theorem recordReference_replicas {referenceId : RefId}
    (done : recordReference now cid referenceId db = .ok (after, ())) :
    after.replicas = db.replicas := by
  unfold recordReference at done
  split at done
  · cases done
  · cases done
    rfl

theorem addReference_replicas {sizeBytes n m : Int} {referenceId : Option RefId} {added : Bool}
    (done : addReference now cid sizeBytes n m referenceId db = .ok (after, added)) :
    after.replicas = db.replicas := by
  rcases addReference_cases done with ⟨rfl, -, -⟩ | ⟨-, middle, retained, recorded⟩
  · rfl
  · rw [← retain_replicas retained]
    rcases recorded with ⟨-, rfl⟩ | ⟨reference, -, named⟩
    · rfl
    · exact recordReference_replicas named

/-- A registration writes the row of its source alone, and pins it. -/
theorem registerBase_replica {sizeBytes n m : Int} {sourceNode : Option NodeId}
    {referenceId : Option String} {out : Registration}
    (done : ReplicationDB.registerObject now cid sizeBytes n m sourceNode referenceId db =
      .ok (after, out)) {content : Cid} {nodeId : NodeId} {replica : Replica}
    (present : after.replica content nodeId = some replica) :
    (content = cid ∧ sourceOf sourceNode = some nodeId ∧ replica.settled = true) ∨
      db.replica content nodeId = some replica := by
  obtain ⟨middle, counted, sourced⟩ := registerBase_cases done
  have same := replica_congr (addReference_replicas counted) content nodeId
  rcases sourced with ⟨-, rfl⟩ | ⟨source, named, written⟩
  · rw [same] at present
    exact .inr present
  · unfold upsertSource at written
    split at written
    · cases written
      unfold Db.replica at present
      rw [Table.find?_upsert] at present
      split at present
      · rename_i here
        cases here
        refine .inl ⟨rfl, named, ?_⟩
        cases Option.some.inj present
        split <;> rfl
      · exact .inr (same ▸ present)
    · cases written

theorem registerBase_source {sizeBytes n m : Int} {sourceNode : Option NodeId}
    {referenceId : Option String} {out : Registration}
    (done : ReplicationDB.registerObject now cid sizeBytes n m sourceNode referenceId db =
      .ok (after, out)) {nodeId : NodeId} {replica : Replica}
    (named : sourceOf sourceNode = some nodeId) (present : after.replica cid nodeId = some replica) : replica.settled = true := by
  obtain ⟨middle, -, sourced⟩ := registerBase_cases done
  rw [named] at sourced
  rcases sourced with ⟨absent, -⟩ | ⟨node, same, written⟩
  · cases absent
  · cases same
    unfold upsertSource at written
    split at written
    · cases written
      unfold Db.replica at present
      rw [Table.find?_upsert, if_pos rfl] at present
      cases Option.some.inj present
      split <;> rfl
    · cases written

theorem registerBase_keeps {sizeBytes n m : Int} {sourceNode : Option NodeId}
    {referenceId : Option String} {out : Registration}
    (done : ReplicationDB.registerObject now cid sizeBytes n m sourceNode referenceId db =
      .ok (after, out)) : Keeps db after where
  rows content nodeId replica present wanting := by
    rcases registerBase_replica done present with ⟨-, -, settled⟩ | old
    · simp [Replica.wanting, settled] at wanting
    · exact ⟨replica, old, wanting⟩
  objects content object known := by
    obtain ⟨others, own⟩ := registerBase_object done
    by_cases same : content = cid
    · subst same
      rw [known] at own
      rcases own with kept | retained
      · exact ⟨object, kept, rfl⟩
      · exact ⟨object.retained n m, retained, rfl⟩
    · rw [others content same]
      exact ⟨object, known, rfl⟩
  served content nodeId object _ served := by
    unfold Db.served at *
    rw [registerBase_jobs done]
    exact served

/-- The jobs of other contents outlive `staleWaiting`. -/
theorem served_staleWaiting {content : Cid} {nodeId : NodeId} {generation : Nat}
    (other : content ≠ cid) (served : db.served content nodeId generation = true) :
    (staleWaiting now cid db).served content nodeId generation = true := by
  refine any_updateJobs (fun job _ chosen serves => ?_) served
  simp only [Bool.and_eq_true, decide_eq_true_eq] at chosen
  exact absurd ((serves_cases serves).1.symm.trans chosen.1) other

variable (cid) in
/-- A change of one content that leaves no row of it waiting. -/
theorem paired_elsewhere (paired : Paired excused db)
    (objects : ∀ content, content ≠ cid → after.object content = db.object content)
    (others : ∀ content nodeId, content ≠ cid →
      after.replica content nodeId = db.replica content nodeId)
    (served : ∀ content nodeId generation, content ≠ cid →
      db.served content nodeId generation = true → after.served content nodeId generation = true)
    (own : ∀ nodeId replica, after.replica cid nodeId = some replica → replica.wanting = false) :
    Paired excused after := by
  intro content nodeId replica present wanting
  by_cases same : content = cid
  · subst same
    rw [own nodeId replica present] at wanting
    cases wanting
  · rw [others content nodeId same] at present
    rw [objects content same]
    rcases paired content nodeId replica present wanting with free | ⟨object, known, kept⟩
    · exact .inl free
    · exact .inr ⟨object, known, served content nodeId object.generation same kept⟩

theorem replica_updateReplicas_other {which : Replica → Bool} {change : Replica → Replica}
    {keeps : ∀ replica, (change replica).key = replica.key} {content : Cid} {nodeId : NodeId}
    (other : content ≠ cid) (own : ∀ replica, which replica = true → replica.cid = cid) :
    (db.updateReplicas which change keeps).replica content nodeId = db.replica content nodeId := by
  rw [replica_updateReplicas]
  cases present : db.replica content nodeId with
  | none => rfl
  | some replica =>
      have named : replica.cid = content := (Prod.ext_iff.mp (Table.find?_key present)).1
      have outside : ¬which replica = true := fun chosen => other (named.symm.trans (own _ chosen))
      rw [Option.map_some, if_neg outside]

/-- A new generation ends all jobs of the content, so its desired rows have to be settled. -/
theorem paired_registerBump {oldPolicy : Option (Int × Int)} (paired : Paired excused db)
    (safe : ∀ object, db.object cid = some object → bumps object oldPolicy = true →
      ∀ nodeId replica, db.replica cid nodeId = some replica →
        (replica.desired = true ∨ (object.releasedAt ≠ 0 ∧ replica.state ≠ .unpinned)) →
          replica.settled = true) :
    Paired excused (registerBump now cid oldPolicy db) := by
  unfold registerBump
  cases found : db.object cid with
  | none => exact paired
  | some object =>
      dsimp only
      by_cases bumping : bumps object oldPolicy = true
      · rw [if_pos bumping]
        have settled := safe object found bumping
        refine paired_elsewhere cid paired ?_ ?_ ?_ ?_
        · intro content other
          unfold staleWaiting
          rw [object_updateJobs]
          split
          · rw [object_updateReplicas, object_updateObject, if_neg other]
          · rw [object_updateReplicas, object_updateObject, if_neg other]
        · intro content nodeId other
          unfold staleWaiting
          rw [replica_updateJobs]
          split
          · refine (replica_updateReplicas_other other ?_).trans (replica_updateObject ..)
            intro replica chosen
            simp only [Bool.and_eq_true, decide_eq_true_eq] at chosen
            exact chosen.1
          · exact (replica_updateReplicas_other other fun replica chosen =>
              of_decide_eq_true chosen).trans (replica_updateObject ..)
        · intro content nodeId generation other served
          refine served_staleWaiting other ?_
          split
          · exact served
          · exact served
        · intro nodeId replica present
          unfold staleWaiting at present
          rw [replica_updateJobs] at present
          split at present
          · rename_i resurrected
            simp only [Bool.and_eq_true, decide_eq_true_eq] at resurrected
            rw [replica_updateReplicas, replica_updateObject] at present
            obtain ⟨old, known, rfl⟩ := Option.map_eq_some_iff.mp present
            have named : old.cid = cid := (Prod.ext_iff.mp (Table.find?_key known)).1
            by_cases gone : old.state = .unpinned
            · have kept := settled nodeId old known
              cases desired : old.desired with
              | false => simp [Replica.wanting, gone, desired]
              | true => simp [Replica.settled, gone, desired] at kept
            · have kept := settled nodeId old known (.inr ⟨resurrected.2, gone⟩)
              simp only [Replica.wanting, Replica.settled] at kept ⊢
              simp [named, gone, kept]
          · rw [replica_updateReplicas, replica_updateObject] at present
            obtain ⟨old, known, rfl⟩ := Option.map_eq_some_iff.mp present
            have named : old.cid = cid := (Prod.ext_iff.mp (Table.find?_key known)).1
            have kept := settled nodeId old known
            cases desired : old.desired with
            | false => simp [Replica.wanting, named]
            | true =>
                have held := kept (.inl desired)
                simp only [Replica.wanting, Replica.settled] at held ⊢
                simp [named, held]
      · rw [if_neg bumping]
        exact paired

theorem paired_dropReference {object : Object} {result : ReleaseResult}
    (paired : Paired excused db)
    (done : dropReference now cid object db = .ok (after, result)) : Paired excused after := by
  rcases dropReference_cases done with ⟨-, rfl, -⟩ | ⟨-, -, rfl, -⟩
  · refine (Keeps.mk ?_ ?_ ?_ : Keeps db _).paired paired
    · intro content nodeId replica present wanting
      exact ⟨replica, present, wanting⟩
    · intro content owner known
      rw [object_updateObject]
      split
      · rw [known]
        exact ⟨_, rfl, rfl⟩
      · exact ⟨owner, known, rfl⟩
    · intro content nodeId owner _ served
      exact served
  · refine paired_elsewhere cid paired ?_ ?_ ?_ ?_
    · intro content other
      unfold staleWaiting
      rw [object_updateJobs, object_updateReplicas, object_updateObject, if_neg other]
    · intro content nodeId other
      unfold staleWaiting
      rw [replica_updateJobs]
      exact (replica_updateReplicas_other other fun replica chosen =>
        of_decide_eq_true chosen).trans (replica_updateObject ..)
    · intro content nodeId generation other served
      exact served_staleWaiting other served
    · intro nodeId replica present
      unfold staleWaiting at present
      rw [replica_updateJobs, replica_updateReplicas, replica_updateObject] at present
      obtain ⟨old, known, rfl⟩ := Option.map_eq_some_iff.mp present
      have named : old.cid = cid := (Prod.ext_iff.mp (Table.find?_key known)).1
      simp [Replica.wanting, named]

theorem paired_releaseObject {referenceId : Option String} {requestId : String}
    {result : ReleaseResult} (paired : Paired excused db)
    (done : releaseObject now cid referenceId requestId db = .ok (after, result)) :
    Paired excused after := by
  rcases releaseObject_cases done with ⟨rfl, -⟩ | ⟨object, refs, -, done⟩
  · exact paired
  · refine paired_dropReference ?_ done
    exact (Keeps.of_eq rfl rfl rfl).paired paired

end Lifecycle

end HashBurst.Replication
