import HashBurst.Replication.Pairing
import HashBurst.Replication.World

namespace HashBurst.Replication

open Lib ReplicationDB ReplicationDBV214 ReplicationDBV214Recovery

def Db.trimmingNodes (db : Db) (cid : Cid) (chosen : Job → Bool) : List NodeId :=
  (db.jobs.rows.filter fun job => job.trims cid job.nodeId && chosen job).map Job.nodeId

/-- The nodes whose copy the next access may leave without the trim that was authorized: at
recovery, at a second request for the same job, at a report of its failure or one that comes
after a new generation. -/
def Op.withdraws {β : Type} (op : Op β) (db : Db) (cid : Cid) : List NodeId :=
  let concerns (jobId : JobId) (reporter : NodeId) (job : Job) : Bool :=
    job.jobId = jobId && job.nodeId = reporter
  match op with
  | .recoverV214 => db.trimmingNodes cid fun _ => true
  | .authorizeUnpin reporter jobId _ => db.trimmingNodes cid (concerns jobId reporter)
  | .jobReport reporter report => db.trimmingNodes cid (concerns report.jobId reporter)
  | .unpinReport reporter report => db.trimmingNodes cid fun job =>
      concerns report.jobId reporter job &&
        (!(db.object cid).any (fun object => object.generation = job.generation) ||
          report.state = .failed)
  | .unpinVerifyReport reporter report => db.trimmingNodes cid (concerns report.jobId reporter)
  | _ => []

/-- A row of a referenced content that waits for a copy, or has one. -/
def Db.wants (db : Db) (cid : Cid) (nodeId : NodeId) : Bool :=
  db.live cid && (db.replica cid nodeId).any Replica.desired

/-- The nodes whose copy the next access may make the record count: at the report of a current
PIN or VERIFY job, at a mark, at the registration of a source, and when a content that was
released is registered again. -/
def Op.confirms {β : Type} (op : Op β) (now : Int) (db : Db) (cid : Cid) : List NodeId :=
  match op with
  | .jobReport reporter report =>
      if db.wants cid reporter && (report.state = .pinned || report.state = .verified) &&
          (findJob db report.jobId reporter).any fun job => job.cid = cid &&
            (db.object cid).any (fun object => object.generation = job.generation) &&
            reportIsCurrent now job report then [reporter]
      else []
  | .markReplicaState content marked state _ =>
      if content = cid && db.wants cid marked && (state = .pinned || state = .grace) then [marked]
      else []
  | .registerBase content _ _ _ source _ =>
      if content = cid then
        (sourceOf source).toList ++ ((db.replicaRows cid).filter fun replica =>
          replica.desired && replica.settled && !db.live cid).map Replica.nodeId
      else []
  | .registerBump content _ =>
      if content = cid && (db.object cid).any fun object =>
          object.refcount > 0 && object.releasedAt ≠ 0 then
        ((db.replicaRows cid).filter Replica.settled).map Replica.nodeId
      else []
  | _ => []

section Trimming

variable {db after : Db} {now : Int} {cid : Cid} {nodeId : NodeId}

theorem counts_iff : db.counts cid nodeId = true ↔ db.live cid = true ∧
    ∃ replica, db.replica cid nodeId = some replica ∧ replica.desired = true ∧
      replica.settled = true := by
  unfold Db.counts
  rw [Bool.and_eq_true, Option.any_eq_true]
  simp only [Bool.and_eq_true]

theorem trims_cases {job : Job} (trims : job.trims cid nodeId = true) :
    job.cid = cid ∧ job.nodeId = nodeId ∧ job.operation = .unpin ∧ job.reason = trimReason ∧
      job.state = .authorized := by
  simpa [Job.trims, and_assoc] using trims

theorem trimming_congr (same : after.jobs = db.jobs) (trimming : db.trimming cid nodeId = true) :
    after.trimming cid nodeId = true := by
  unfold Db.trimming
  rw [same]
  exact trimming

theorem trimming_updateJob {job : Job} {change : Job → Job}
    {keeps : ∀ job, (change job).jobId = job.jobId} (member : job ∈ db.jobs.rows)
    (other : ¬job.trims cid nodeId = true) (trimming : db.trimming cid nodeId = true) :
    (db.updateJob job.jobId change keeps).trimming cid nodeId = true := by
  refine any_updateJobs (fun row present chosen trims => ?_) trimming
  have same : row = job := Table.eq_of_key present member (of_decide_eq_true chosen)
  exact absurd (same ▸ trims) other

theorem trimming_staleWaiting {content : Cid} (trimming : db.trimming cid nodeId = true) :
    (staleWaiting now content db).trimming cid nodeId = true := by
  refine any_updateJobs (fun job _ chosen trims => ?_) trimming
  obtain ⟨-, -, -, -, authorized⟩ := trims_cases trims
  simp [Job.waiting, authorized] at chosen

theorem mem_trimmingNodes {chosen : Job → Bool} {job : Job} (member : job ∈ db.jobs.rows)
    (trims : job.trims cid nodeId = true) (own : chosen job = true) :
    nodeId ∈ db.trimmingNodes cid chosen := by
  have placed := (trims_cases trims).2.1
  refine List.mem_map.mpr ⟨job, List.mem_filter.mpr ⟨member, ?_⟩, placed⟩
  rw [placed, trims, own]
  rfl

/-- What a transaction does to the one job that it is about. -/
theorem trimming_concern {tx : Tx Unit} {jobId : JobId} {reporter : NodeId} {other : Prop}
    (each : ∀ job, findJob db jobId reporter = some job → ¬job.trims cid nodeId = true →
      ∀ after, tx db = .ok (after, ()) → after.trimming cid nodeId = true)
    (own : ∀ job, findJob db jobId reporter = some job → job.trims cid nodeId = true → other)
    (absent : findJob db jobId reporter = none → ∃ failure, tx db = .error failure)
    (trimming : db.trimming cid nodeId = true) :
    (tx.commit db).1.trimming cid nodeId = true ∨ other := by
  cases found : findJob db jobId reporter with
  | none =>
      obtain ⟨failure, raised⟩ := absent found
      rw [commit_error raised]
      exact .inl trimming
  | some job =>
      by_cases trims : job.trims cid nodeId = true
      · exact .inr (own job found trims)
      · exact .inl (commit_invariant (fun state => state.trimming cid nodeId = true) trimming
          fun after _ done => each job found trims after done)

theorem applyJobReport_trimming {reporter : NodeId} {report : Report} {job : Job}
    (found : findJob db report.jobId reporter = some job) (other : ¬job.trims cid nodeId = true)
    (trimming : db.trimming cid nodeId = true)
    (done : ReplicationDB.applyJobReport now reporter report db = .ok (after, ())) :
    after.trimming cid nodeId = true := by
  obtain ⟨_, known, reported⟩ := applyJobReport_cases done
  cases found.symm.trans known
  obtain ⟨member, -, -⟩ := findJob_cases found
  cases reported with
  | stale => exact trimming_updateJob member other trimming
  | ignored => exact trimming
  | pinned => exact trimming_updateJob member other trimming
  | verified => exact trimming_updateJob member other trimming
  | failed => exact trimming_updateJob member other trimming

theorem applyUnpinReport_trimming {reporter : NodeId} {report : Report} {job : Job}
    (found : findJob db report.jobId reporter = some job) (other : ¬job.trims cid nodeId = true)
    (trimming : db.trimming cid nodeId = true)
    (done : applyUnpinReport now reporter report db = .ok (after, ())) :
    after.trimming cid nodeId = true := by
  obtain ⟨_, known, reported⟩ := applyUnpinReport_cases done
  cases found.symm.trans known
  obtain ⟨member, -, -⟩ := findJob_cases found
  cases reported with
  | stale => exact trimming_updateJob member other trimming
  | ignored => exact trimming
  | unpinned => exact trimming_updateJob member other trimming
  | failed => exact trimming_updateJob member other trimming

theorem applyUnpinVerifyReport_trimming {reporter : NodeId} {report : Report} {job : Job}
    (found : findJob db report.jobId reporter = some job) (other : ¬job.trims cid nodeId = true)
    (trimming : db.trimming cid nodeId = true)
    (done : applyUnpinVerifyReport now reporter report db = .ok (after, ())) :
    after.trimming cid nodeId = true := by
  obtain ⟨_, known, reported⟩ := applyUnpinVerifyReport_cases done
  cases found.symm.trans known
  obtain ⟨member, -, -⟩ := findJob_cases found
  cases reported with
  | stale => exact trimming_updateJob member other trimming
  | ignored => exact trimming
  | unpinned => exact trimming_updateJob member other trimming
  | verified => exact trimming_updateJob member other trimming
  | failed => exact trimming_updateJob member other trimming

theorem releaseObject_trimming {content : Cid} {referenceId : Option String} {requestId : String}
    {result : ReleaseResult} (trimming : db.trimming cid nodeId = true)
    (done : releaseObject now content referenceId requestId db = .ok (after, result)) :
    after.trimming cid nodeId = true := by
  rcases releaseObject_cases done with ⟨rfl, -⟩ | ⟨object, refs, -, done⟩
  · exact trimming
  · rcases dropReference_cases done with ⟨-, rfl, -⟩ | ⟨-, -, rfl, -⟩
    · exact trimming
    · exact trimming_staleWaiting trimming

/-- A report on the job of an authorized trim: the copy is no longer counted, or the
authorization is withdrawn. -/
theorem applyUnpinReport_outcome {reporter : NodeId} {report : Report} {job : Job}
    (found : findJob db report.jobId reporter = some job) (own : job.trims cid nodeId = true)
    (trimming : db.trimming cid nodeId = true)
    (done : applyUnpinReport now reporter report db = .ok (after, ()))
    (counts : after.counts cid nodeId = true) :
    after.trimming cid nodeId = true ∨
      nodeId ∈ (Op.unpinReport reporter report).withdraws db cid := by
  obtain ⟨_, known, reported⟩ := applyUnpinReport_cases done
  cases found.symm.trans known
  obtain ⟨member, named, placed⟩ := findJob_cases found
  obtain ⟨content, node, -, reason, -⟩ := trims_cases own
  have withdrawn : ((db.object job.cid).any fun object =>
      object.generation = job.generation) = false ∨ report.state = .failed →
        nodeId ∈ (Op.unpinReport reporter report).withdraws db cid := by
    intro ended
    refine mem_trimmingNodes member own ?_
    rw [content] at ended
    rcases ended with stale | failed
    · simp [named, placed, stale]
    · simp [named, placed, failed]
  have trim : isTrimReason job.reason = true := decide_eq_true reason
  cases reported with
  | stale unlawful =>
      simp only [Db.unpinStands, trim, Bool.true_or, Bool.and_true] at unlawful
      exact .inr (withdrawn (.inl unlawful))
  | ignored => exact .inl trimming
  | unpinned =>
      obtain ⟨-, replica, present, desired, -⟩ := counts_iff.mp counts
      rw [replica_updateReplica, if_pos ⟨content.symm, (node.symm.trans placed)⟩] at present
      obtain ⟨old, -, rfl⟩ := Option.map_eq_some_iff.mp present
      cases desired
  | failed _ _ _ _ failed => exact .inr (withdrawn (.inr failed))

theorem createPinAssignment_trimming {content : Cid} {target : NodeId}
    {capacityClass : CapacityClass} {jobId : Option JobId}
    (trimming : db.trimming cid nodeId = true)
    (done : createPinAssignment now content target capacityClass db = .ok (after, jobId)) :
    after.trimming cid nodeId = true := by
  obtain ⟨object, -, rfl | ⟨-, rfl⟩ | rfl⟩ := createPinAssignment_cases done
  · exact trimming
  · exact trimming
  · exact any_insertJob trimming

theorem createVerifyJob_trimming {content : Cid} {target : NodeId} {generation : Nat}
    {jobId : Option JobId} (trimming : db.trimming cid nodeId = true)
    (done : createVerifyJob now content target generation db = .ok (after, jobId)) :
    after.trimming cid nodeId = true := by
  obtain rfl | ⟨-, rfl⟩ := createVerifyJob_cases done
  · exact trimming
  · exact any_insertJob trimming

theorem createUnpinJob_trimming {content : Cid} {target : NodeId} {generation : Nat}
    {reason : String} {notBefore : Int} {jobId : Option JobId}
    (trimming : db.trimming cid nodeId = true)
    (done : createUnpinJob now content target generation reason notBefore db = .ok (after, jobId)) :
    after.trimming cid nodeId = true := by
  obtain rfl | ⟨object, -, -, rfl, -⟩ := createUnpinJob_cases done
  · exact trimming
  · exact any_insertJob trimming

theorem pendingJobs_trimming {reporter : NodeId} {limit : Nat} {allowed : Option (List Operation)}
    {ties : TieOrder} (trimming : db.trimming cid nodeId = true) :
    (pendingJobs now reporter limit allowed ties db).1.trimming cid nodeId = true := by
  have leased :
      (ReplicationDB.pendingJobs now reporter limit ties db).1.trimming cid nodeId = true :=
    any_updateJobs (fun _ _ _ trims => trims) trimming
  cases allowed with
  | none => exact leased
  | some operations => exact leased

/-- The call may name the authorized trim itself, which it then finds stale. -/
theorem authorizeUnpin_trimming {reporter : NodeId} {jobId : JobId} {leaseUntil : Int}
    (trimming : db.trimming cid nodeId = true) :
    (authorizeUnpin now reporter jobId leaseUntil db).1.trimming cid nodeId = true ∨
      nodeId ∈ (Op.authorizeUnpin reporter jobId leaseUntil).withdraws db cid := by
  obtain same | ⟨job, member, rfl, placed, -, moved⟩ :=
    authorizeUnpin_cases now reporter jobId leaseUntil db
  · rw [same]
    exact .inl trimming
  · by_cases trims : job.trims cid nodeId = true
    · exact .inr (mem_trimmingNodes member trims (by simp [placed]))
    · obtain stale | ⟨-, -, -, granted⟩ := moved
      · rw [stale]
        exact .inl (trimming_updateJob member trims trimming)
      · rw [granted]
        exact .inl (trimming_updateJob member trims trimming)

theorem jobReport_trimming {reporter : NodeId} {report : Report}
    (trimming : db.trimming cid nodeId = true) :
    ((ReplicationDB.applyJobReport now reporter report).commit db).1.trimming cid nodeId = true ∨
      nodeId ∈ (Op.jobReport reporter report).withdraws db cid := by
  refine trimming_concern (fun job found other after done =>
    applyJobReport_trimming found other trimming done) (fun job found own => ?_)
    (fun absent => ?_) trimming
  · obtain ⟨member, named, placed⟩ := findJob_cases found
    exact mem_trimmingNodes member own (by simp [named, placed])
  · unfold ReplicationDB.applyJobReport
    rw [absent]
    exact ⟨_, rfl⟩

theorem unpinReport_trimming {reporter : NodeId} {report : Report}
    (trimming : db.trimming cid nodeId = true)
    (counts : ((applyUnpinReport now reporter report).commit db).1.counts cid nodeId = true) :
    ((applyUnpinReport now reporter report).commit db).1.trimming cid nodeId = true ∨
      nodeId ∈ (Op.unpinReport reporter report).withdraws db cid := by
  revert counts
  refine commit_invariant (fun state => state.counts cid nodeId = true →
    state.trimming cid nodeId = true ∨ _) (fun _ => .inl trimming) fun after _ done counts => ?_
  cases found : findJob db report.jobId reporter with
  | none =>
      unfold applyUnpinReport at done
      rw [found] at done
      cases done
  | some job =>
      by_cases own : job.trims cid nodeId = true
      · exact applyUnpinReport_outcome found own trimming done counts
      · exact .inl (applyUnpinReport_trimming found own trimming done)

theorem unpinVerifyReport_trimming {reporter : NodeId} {report : Report}
    (trimming : db.trimming cid nodeId = true) :
    ((applyUnpinVerifyReport now reporter report).commit db).1.trimming cid nodeId = true ∨
      nodeId ∈ (Op.unpinVerifyReport reporter report).withdraws db cid := by
  refine trimming_concern (fun job found other after done =>
    applyUnpinVerifyReport_trimming found other trimming done) (fun job found own => ?_)
    (fun absent => ?_) trimming
  · obtain ⟨member, named, placed⟩ := findJob_cases found
    exact mem_trimmingNodes member own (by simp [named, placed])
  · unfold applyUnpinVerifyReport
    rw [absent]
    exact ⟨_, rfl⟩

theorem registerBump_trimming {content : Cid} {oldPolicy : Option (Int × Int)}
    (trimming : db.trimming cid nodeId = true) :
    (registerBump now content oldPolicy db).trimming cid nodeId = true := by
  unfold registerBump
  split
  · exact trimming
  · split
    · refine trimming_staleWaiting ?_
      split
      · exact trimming
      · exact trimming
    · exact trimming

/-- Only these accesses end the authorization of a trim and let its row count. -/
theorem trimming_runOp {β : Type} (op : Op β) (trimming : db.trimming cid nodeId = true)
    (counts : (runOp op now db).1.counts cid nodeId = true) :
    (runOp op now db).1.trimming cid nodeId = true ∨ nodeId ∈ op.withdraws db cid := by
  have committed : ∀ {α : Type} {tx : Tx α}, (∀ after value, tx db = .ok (after, value) →
      after.trimming cid nodeId = true) → (tx.commit db).1.trimming cid nodeId = true :=
    fun each => commit_invariant (fun state => state.trimming cid nodeId = true) trimming each
  cases op with
  | time => exact .inl trimming
  | object => exact .inl trimming
  | objects => exact .inl trimming
  | replicaRows => exact .inl trimming
  | nodes => exact .inl trimming
  | placementLoad => exact .inl trimming
  | activeUnpinNodes => exact .inl trimming
  | jobOperation => exact .inl trimming
  | upsertNode => exact .inl trimming
  | registerGuard => exact .inl trimming
  | markReplicaState => exact .inl trimming
  | updateObjectHealth => exact .inl trimming
  | heartbeat =>
      refine .inl (committed fun after value done => ?_)
      obtain ⟨nodes, rfl⟩ := heartbeat_nodes done
      exact trimming
  | createPinAssignment =>
      exact .inl (committed fun after value done => createPinAssignment_trimming trimming done)
  | createVerifyJob =>
      exact .inl (committed fun after value done => createVerifyJob_trimming trimming done)
  | createUnpinJob =>
      exact .inl (committed fun after value done => createUnpinJob_trimming trimming done)
  | pendingJobs => exact .inl (pendingJobs_trimming trimming)
  | authorizeUnpin => exact authorizeUnpin_trimming trimming
  | jobReport => exact jobReport_trimming trimming
  | unpinReport => exact unpinReport_trimming trimming counts
  | unpinVerifyReport => exact unpinVerifyReport_trimming trimming
  | registerBase =>
      exact .inl (committed fun after value done =>
        trimming_congr (registerBase_jobs done) trimming)
  | registerBump => exact .inl (registerBump_trimming trimming)
  | releaseObject =>
      exact .inl (committed fun after value done => releaseObject_trimming trimming done)
  | recoverV214 =>
      obtain ⟨job, member, trims⟩ := List.any_eq_true.mp trimming
      exact .inr (mem_trimmingNodes member trims rfl)

end Trimming

section Counts

variable {db after : Db} {now : Int} {cid : Cid} {nodeId : NodeId}

private theorem live_core (db : Db) (cid : Cid) :
    db.live cid = (db.core cid).any fun object => object.refcount ≠ 0 := by
  unfold Db.live Db.core
  cases db.object cid <;> rfl

theorem counts_mono (counts : after.counts cid nodeId = true)
    (live : after.live cid = true → db.live cid = true)
    (rows : ∀ replica, after.replica cid nodeId = some replica → replica.desired = true →
      replica.settled = true → ∃ old, db.replica cid nodeId = some old ∧ old.desired = true ∧
        old.settled = true) : db.counts cid nodeId = true := by
  obtain ⟨alive, replica, present, desired, settled⟩ := counts_iff.mp counts
  exact counts_iff.mpr ⟨live alive, rows replica present desired settled⟩

theorem counts_congr (objects : after.objects = db.objects)
    (replicas : after.replicas = db.replicas) (counts : after.counts cid nodeId = true) :
    db.counts cid nodeId = true := by
  unfold Db.counts Db.live at *
  rw [object_congr objects, replica_congr replicas] at counts
  exact counts

theorem counts_drop {content : Cid} {marked : NodeId} {change : Replica → Replica}
    {keeps : ∀ replica, (change replica).key = replica.key}
    (drops : ∀ replica, (change replica).desired = true → (change replica).settled = false)
    (counts : (db.updateReplica content marked change keeps).counts cid nodeId = true) :
    db.counts cid nodeId = true := by
  refine counts_mono counts (fun alive => alive) fun replica present desired settled => ?_
  rw [replica_updateReplica] at present
  split at present
  · obtain ⟨old, -, rfl⟩ := Option.map_eq_some_iff.mp present
    rw [drops old desired] at settled
    cases settled
  · exact ⟨replica, present, desired, settled⟩

theorem counts_other {content : Cid} {marked : NodeId} {change : Replica → Replica}
    {keeps : ∀ replica, (change replica).key = replica.key}
    (other : ¬(cid = content ∧ nodeId = marked))
    (counts : (db.updateReplica content marked change keeps).counts cid nodeId = true) :
    db.counts cid nodeId = true := by
  refine counts_mono counts (fun alive => alive) fun replica present desired settled => ?_
  rw [replica_updateReplica, if_neg other] at present
  exact ⟨replica, present, desired, settled⟩

theorem counts_wants {content : Cid} {marked : NodeId} {change : Replica → Replica}
    {keeps : ∀ replica, (change replica).key = replica.key}
    (counts : (db.updateReplica content marked change keeps).counts cid nodeId = true)
    (same : ∀ replica, (change replica).desired = replica.desired) :
    db.wants cid nodeId = true := by
  obtain ⟨live, replica, present, desired, -⟩ := counts_iff.mp counts
  unfold Db.wants
  rw [Bool.and_eq_true, Option.any_eq_true]
  refine ⟨live, ?_⟩
  rw [replica_updateReplica] at present
  split at present
  · obtain ⟨old, known, rfl⟩ := Option.map_eq_some_iff.mp present
    exact ⟨old, known, same old ▸ desired⟩
  · exact ⟨replica, present, desired⟩

theorem applyJobReport_counts {reporter : NodeId} {report : Report}
    (done : ReplicationDB.applyJobReport now reporter report db = .ok (after, ()))
    (counts : after.counts cid nodeId = true) :
    db.counts cid nodeId = true ∨ nodeId ∈ (Op.jobReport reporter report).confirms now db cid := by
  obtain ⟨job, found, reported⟩ := applyJobReport_cases done
  by_cases own : reporter = nodeId ∧ job.cid = cid
  · obtain ⟨rfl, rfl⟩ := own
    have confirmed : db.wants job.cid reporter = true → db.current job = true →
        reportIsCurrent now job report = true →
        (report.state = .pinned ∨ report.state = .verified) →
          reporter ∈ (Op.jobReport reporter report).confirms now db job.cid := by
      intro wants generation current state
      unfold Db.current at generation
      simp only [Op.confirms, found, Option.any_some, wants, generation, current]
      rcases state with pinned | verified
      · simp [pinned]
      · simp [verified]
    have wanted : ∀ change keeps, ((markDone now job.jobId db).updateReplica job.cid reporter change
        keeps).counts job.cid reporter = true →
          (∀ replica, (change replica).desired = replica.desired) →
            db.wants job.cid reporter = true := fun _ _ counts same => counts_wants counts same
    cases reported with
    | stale => exact .inl counts
    | ignored => exact .inl counts
    | pinned generation current state =>
        exact .inr (confirmed (wanted _ _ counts fun _ => rfl) generation current (.inl state))
    | verified generation current state =>
        exact .inr (confirmed (wanted _ _ counts fun _ => rfl) generation current (.inr state))
    | failed => exact .inl (counts_drop (fun _ _ => rfl) counts)
  · have other : ¬(cid = job.cid ∧ nodeId = reporter) := fun same =>
      own ⟨same.2.symm, same.1.symm⟩
    refine .inl ?_
    cases reported with
    | stale => exact counts
    | ignored => exact counts
    | pinned => exact counts_other other counts
    | verified => exact counts_other other counts
    | failed => exact counts_other other counts

theorem markReplicaState_counts {content : Cid} {marked : NodeId} {state : ReplicaState}
    {error : String}
    (counts : (markReplicaState now content marked state error db).counts cid nodeId = true) :
    db.counts cid nodeId = true ∨
      nodeId ∈ (Op.markReplicaState content marked state error).confirms now db cid := by
  by_cases own : cid = content ∧ nodeId = marked
  · obtain ⟨rfl, rfl⟩ := own
    have wants : db.wants cid nodeId = true := counts_wants counts fun _ => rfl
    obtain ⟨-, replica, present, -, settled⟩ := counts_iff.mp counts
    refine .inr ?_
    have written : (markReplicaState now cid nodeId state error db).replica cid nodeId =
        (db.replica cid nodeId).map (markedReplica now state error) :=
      (replica_updateReplica db cid nodeId _ _ cid nodeId).trans (if_pos ⟨rfl, rfl⟩)
    rw [written] at present
    obtain ⟨old, -, rfl⟩ := Option.map_eq_some_iff.mp present
    have state : (decide (state = .pinned) || decide (state = .grace)) = true := settled
    simp only [Op.confirms, wants, state]
    simp
  · exact .inl (counts_other own counts)

theorem applyUnpinReport_counts {reporter : NodeId} {report : Report}
    (done : applyUnpinReport now reporter report db = .ok (after, ()))
    (counts : after.counts cid nodeId = true) : db.counts cid nodeId = true := by
  obtain ⟨job, -, reported⟩ := applyUnpinReport_cases done
  cases reported with
  | stale => exact counts
  | ignored => exact counts
  | unpinned => exact counts_drop (fun _ desired => by cases desired) counts
  | failed => exact counts

theorem applyUnpinVerifyReport_counts {reporter : NodeId} {report : Report}
    (done : applyUnpinVerifyReport now reporter report db = .ok (after, ()))
    (counts : after.counts cid nodeId = true) : db.counts cid nodeId = true := by
  obtain ⟨job, -, reported⟩ := applyUnpinVerifyReport_cases done
  cases reported with
  | stale => exact counts
  | ignored => exact counts
  | unpinned => exact counts_drop (fun _ desired => by cases desired) counts
  | verified => exact counts_drop (fun _ desired => by cases desired) counts
  | failed => exact counts

theorem createPinAssignment_counts {content : Cid} {target : NodeId} {capacityClass : CapacityClass}
    {answer : Option JobId}
    (done : createPinAssignment now content target capacityClass db = .ok (after, answer))
    (counts : after.counts cid nodeId = true) : db.counts cid nodeId = true := by
  have assigned : ∀ generation, (assignReplica now content target capacityClass generation
      db).counts cid nodeId = true → db.counts cid nodeId = true := by
    intro generation counts
    refine counts_mono counts (fun alive => alive) fun replica present desired settled => ?_
    rw [replica_assignReplica] at present
    split at present
    · cases Option.some.inj present
      cases known : db.replica cid nodeId <;> simp [known, Replica.settled] at settled
    · exact ⟨replica, present, desired, settled⟩
  obtain ⟨object, -, rfl | ⟨-, rfl⟩ | rfl⟩ := createPinAssignment_cases done
  · exact counts
  · exact assigned _ counts
  · exact assigned _ counts

theorem dropReference_counts_of {content : Cid} {object : Object} {result : ReleaseResult}
    (found : db.object content = some object)
    (done : dropReference now content object db = .ok (after, result))
    (counts : after.counts cid nodeId = true) : db.counts cid nodeId = true := by
  obtain ⟨others, own⟩ := dropReference_object found done
  have alive : after.live cid = true → db.live cid = true := by
    intro live
    by_cases same : cid = content
    · subst same
      unfold Db.live at *
      rw [found]
      rcases own with ⟨counted, later⟩ | ⟨-, -, later⟩
      · have positive : object.refcount ≠ 0 := by
          intro zero
          rw [zero] at counted
          exact counted rfl
        simpa using positive
      · rw [later] at live
        simp [Object.finallyReleased] at live
    · unfold Db.live at *
      rw [← others cid same]
      exact live
  refine counts_mono counts alive fun replica present desired settled => ?_
  rcases dropReference_cases done with ⟨-, rfl, -⟩ | ⟨-, -, rfl, -⟩
  · exact ⟨replica, present, desired, settled⟩
  · unfold staleWaiting at present
    rw [replica_updateJobs, replica_updateReplicas, replica_updateObject] at present
    obtain ⟨old, known, rfl⟩ := Option.map_eq_some_iff.mp present
    by_cases own : old.cid = content
    · simp [own] at desired
    · have outside : ¬decide (old.cid = content) = true := by simpa using own
      rw [if_neg outside] at desired settled
      exact ⟨old, known, desired, settled⟩

theorem releaseObject_counts {content : Cid} {referenceId : Option String} {requestId : String}
    {result : ReleaseResult}
    (done : releaseObject now content referenceId requestId db = .ok (after, result))
    (counts : after.counts cid nodeId = true) : db.counts cid nodeId = true := by
  rcases releaseObject_cases done with ⟨rfl, -⟩ | ⟨object, refs, found, done⟩
  · exact counts
  · have before := dropReference_counts_of (show
      Db.object { db with objectRefs := refs } content = some object from found) done counts
    exact counts_congr rfl rfl before

theorem registerBase_counted {content : Cid} {sizeBytes n m : Int} {sourceNode : Option NodeId}
    {referenceId : Option String} {out : Registration}
    (done : ReplicationDB.registerObject now content sizeBytes n m sourceNode referenceId db =
      .ok (after, out))
    (counts : after.counts cid nodeId = true) :
    db.counts cid nodeId = true ∨
      nodeId ∈ (Op.registerBase content sizeBytes n m sourceNode referenceId).confirms now db cid := by
  obtain ⟨alive, replica, present, desired, settled⟩ := counts_iff.mp counts
  rcases registerBase_replica done present with ⟨rfl, named, -⟩ | old
  · exact .inr (by simp [Op.confirms, named])
  · by_cases live : db.live cid = true
    · exact .inl (counts_iff.mpr ⟨live, replica, old, desired, settled⟩)
    · by_cases same : cid = content
      · subst same
        have key := Table.find?_key old
        simp only [Replica.key, Prod.mk.injEq] at key
        have listed : replica ∈ (db.replicaRows cid).filter fun replica =>
            replica.desired && replica.settled && !db.live cid := by
          refine List.mem_filter.mpr ⟨List.mem_filter.mpr ⟨Table.find?_mem old,
            decide_eq_true key.1⟩, ?_⟩
          simp [desired, settled, live]
        refine .inr ?_
        simp only [Op.confirms, if_true]
        exact List.mem_append_right _ (List.mem_map.mpr ⟨replica, listed, key.2⟩)
      · unfold Db.live at *
        rw [(registerBase_object done).1 cid same] at alive
        exact absurd alive live

theorem registerBump_counted {content : Cid} {oldPolicy : Option (Int × Int)}
    (counts : (registerBump now content oldPolicy db).counts cid nodeId = true) :
    db.counts cid nodeId = true ∨
      nodeId ∈ (Op.registerBump content oldPolicy).confirms now db cid := by
  obtain ⟨alive, replica, present, desired, settled⟩ := counts_iff.mp counts
  have live : db.live cid = true := by
    unfold Db.live at *
    rw [registerBump_object] at alive
    split at alive
    · rename_i same
      subst same
      cases found : db.object cid with
      | none => simp [found] at alive
      | some object =>
          rw [found, Option.map_some] at alive
          split at alive
          · exact alive
          · exact alive
    · exact alive
  have counted : ∀ old, db.replica cid nodeId = some old → old.desired = true →
      old.settled = true → db.counts cid nodeId = true := fun old known desired settled =>
    counts_iff.mpr ⟨live, old, known, desired, settled⟩
  unfold registerBump at present
  split at present
  · exact .inl (counted replica present desired settled)
  · rename_i object found
    dsimp only at present
    split at present
    · unfold staleWaiting at present
      rw [replica_updateJobs] at present
      split at present
      · rename_i revived
        rw [replica_updateReplicas, replica_updateObject] at present
        obtain ⟨old, known, rfl⟩ := Option.map_eq_some_iff.mp present
        split at settled
        · rename_i chosen
          simp only [Bool.and_eq_true, decide_eq_true_eq] at chosen
          obtain ⟨rfl, -⟩ := chosen
          have key := Table.find?_key known
          simp only [Replica.key, Prod.mk.injEq] at key
          obtain ⟨rfl, rfl⟩ := key
          refine .inr ?_
          simp only [Op.confirms, found, Option.any_some, revived, decide_true, Bool.and_self,
            if_true]
          exact List.mem_map.mpr ⟨old, List.mem_filter.mpr ⟨List.mem_filter.mpr
            ⟨Table.find?_mem known, decide_eq_true rfl⟩, settled⟩, rfl⟩
        · rename_i kept
          rw [if_neg kept] at desired
          exact .inl (counted old known desired settled)
      · rw [replica_updateReplicas, replica_updateObject] at present
        obtain ⟨old, known, rfl⟩ := Option.map_eq_some_iff.mp present
        refine .inl (counted old known ?_ ?_)
        · split at desired
          · exact desired
          · exact desired
        · split at settled
          · exact settled
          · exact settled
    · exact .inl (counted replica present desired settled)

theorem recoverV214_replicas : (recoverV214 now db).replicas = db.replicas := by
  unfold recoverV214
  generalize db.jobs.rows.filter interrupted = jobs
  induction jobs generalizing db with
  | nil => rfl
  | cons head tail ih =>
      rw [List.foldl_cons, ih]
      unfold recoverJob
      dsimp only
      split
      · rfl
      · rfl

theorem createVerifyJob_counts {content : Cid} {target : NodeId} {generation : Nat}
    {jobId : Option JobId}
    (done : createVerifyJob now content target generation db = .ok (after, jobId))
    (counts : after.counts cid nodeId = true) : db.counts cid nodeId = true := by
  obtain rfl | ⟨-, rfl⟩ := createVerifyJob_cases done
  · exact counts
  · exact counts_congr rfl rfl counts

theorem createUnpinJob_counts {content : Cid} {target : NodeId} {generation : Nat}
    {reason : String} {notBefore : Int} {jobId : Option JobId}
    (done : createUnpinJob now content target generation reason notBefore db = .ok (after, jobId))
    (counts : after.counts cid nodeId = true) : db.counts cid nodeId = true := by
  obtain rfl | ⟨object, -, -, rfl, -⟩ := createUnpinJob_cases done
  · exact counts
  · exact counts_congr rfl rfl counts

theorem authorizeUnpin_counts {reporter : NodeId} {jobId : JobId} {leaseUntil : Int}
    (counts : (authorizeUnpin now reporter jobId leaseUntil db).1.counts cid nodeId = true) :
    db.counts cid nodeId = true := by
  obtain same | ⟨job, -, -, -, -, moved⟩ := authorizeUnpin_cases now reporter jobId leaseUntil db
  · rw [same] at counts
    exact counts
  · obtain stale | ⟨-, -, -, granted⟩ := moved
    · rw [stale] at counts
      exact counts_congr rfl rfl counts
    · rw [granted] at counts
      exact counts_congr rfl rfl counts

theorem counts_runOp {β : Type} (op : Op β)
    (counts : (runOp op now db).1.counts cid nodeId = true) :
    db.counts cid nodeId = true ∨ nodeId ∈ op.confirms now db cid := by
  have tx_counts : ∀ {α : Type} {tx : Tx α} {other : Prop}, (∀ after value,
      tx db = .ok (after, value) → after.counts cid nodeId = true →
        db.counts cid nodeId = true ∨ other) → (tx.commit db).1.counts cid nodeId = true →
          db.counts cid nodeId = true ∨ other :=
    fun {_ _ other} each => commit_invariant
      (fun state => state.counts cid nodeId = true → db.counts cid nodeId = true ∨ other) .inl each
  cases op with
  | time => exact .inl counts
  | object => exact .inl counts
  | objects => exact .inl counts
  | replicaRows => exact .inl counts
  | nodes => exact .inl counts
  | placementLoad => exact .inl counts
  | activeUnpinNodes => exact .inl counts
  | jobOperation => exact .inl counts
  | registerGuard => exact .inl counts
  | upsertNode => exact .inl (counts_congr rfl rfl counts)
  | markReplicaState => exact markReplicaState_counts counts
  | updateObjectHealth content state reason =>
      refine .inl (counts_mono counts (fun alive => ?_) fun replica present desired settled =>
        ⟨replica, present, desired, settled⟩)
      rw [live_core] at alive ⊢
      rw [core_runOp _ now db (by rfl)] at alive
      exact alive
  | heartbeat =>
      refine tx_counts (fun after value done counts => .inl ?_) counts
      obtain ⟨nodes, rfl⟩ := heartbeat_nodes done
      exact counts_congr rfl rfl counts
  | createPinAssignment =>
      exact tx_counts (fun after value done counts => .inl (createPinAssignment_counts done counts))
        counts
  | createVerifyJob =>
      exact tx_counts (fun after value done counts => .inl (createVerifyJob_counts done counts)) counts
  | createUnpinJob =>
      exact tx_counts (fun after value done counts => .inl (createUnpinJob_counts done counts)) counts
  | pendingJobs reporter limit allowed ties =>
      cases allowed with
      | none => exact .inl (counts_congr rfl rfl counts)
      | some operations => exact .inl (counts_congr rfl rfl counts)
  | authorizeUnpin => exact .inl (authorizeUnpin_counts counts)
  | jobReport =>
      exact tx_counts (fun after value done counts => applyJobReport_counts done counts) counts
  | unpinReport =>
      exact tx_counts (fun after value done counts => .inl (applyUnpinReport_counts done counts)) counts
  | unpinVerifyReport =>
      exact tx_counts (fun after value done counts => .inl (applyUnpinVerifyReport_counts done counts))
        counts
  | registerBase =>
      exact tx_counts (fun after value done counts => registerBase_counted done counts) counts
  | registerBump => exact registerBump_counted counts
  | releaseObject =>
      exact tx_counts (fun after value done counts => .inl (releaseObject_counts done counts)) counts
  | recoverV214 =>
      exact .inl (counts_congr (recoverV214_objects now db) recoverV214_replicas counts)

end Counts

end HashBurst.Replication
