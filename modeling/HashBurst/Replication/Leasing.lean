import HashBurst.Replication.Deliveries

namespace HashBurst.Replication

open Lib ReplicationDB ReplicationDBV214

def permitted (allowed : Option (List Operation)) (job : Job) : Bool :=
  allowed.all fun operations => job.operation ∈ operations

/-- The first `limit` of the rows in some order of `created_at`. -/
def Earliest (limit : Nat) (rows jobs : List Job) : Prop :=
  ∃ order : List Job, order.Perm rows ∧
    order.Pairwise (fun first second => first.createdAt ≤ second.createdAt) ∧
    jobs = order.take limit

def deliveryOf (now : Int) (db : Db) (job : Job) : Delivery where
  job := { job with leaseUntil := now + 120 }
  sizeBytes := ((db.object job.cid).map Object.sizeBytes).getD 0

/-- A poll that leases exactly the jobs it hands out: the first allowed ones. -/
structure LeasesServed (now : Int) (nodeId : NodeId) (limit : Nat)
    (allowed : Option (List Operation)) (db after : Db) (deliveries : List Delivery)
    (served : List Job) : Prop where
  earliest : Earliest limit ((dueRows now nodeId db).filter (permitted allowed)) served
  handed : deliveries = served.map (deliveryOf now db)
  leased : ∀ job ∈ served, after.jobs.find? job.jobId = some (job.leased now)
  kept : ∀ job ∈ db.jobs.rows, job ∉ served → after.jobs.find? job.jobId = some job

section Polls

variable {now : Int} {nodeId : NodeId} {limit : Nat} {allowed : Option (List Operation)}
  {ties : TieOrder} {db : Db}

theorem pendingJobs_deliveries :
    (ReplicationDBV214.pendingJobs now nodeId limit allowed ties db).2 =
      ((leasedRows now nodeId limit ties db).filter (permitted allowed)).map (deliveryOf now db) := by
  have base : (ReplicationDB.pendingJobs now nodeId limit ties db).2 =
      (leasedRows now nodeId limit ties db).map (deliveryOf now db) := rfl
  unfold ReplicationDBV214.pendingJobs
  cases allowed with
  | none =>
      have every : (leasedRows now nodeId limit ties db).filter (permitted none) =
          leasedRows now nodeId limit ties db := List.filter_eq_self.mpr fun _ _ => rfl
      rw [every]
      exact base
  | some operations =>
      change (ReplicationDB.pendingJobs now nodeId limit ties db).2.filter _ = _
      rw [base, List.filter_map]
      rfl

/-- A job past the first `limit` due ones, or of another node, keeps its row. -/
theorem find?_unleased {job : Job} (present : job ∈ db.jobs.rows)
    (passed : job ∉ leasedRows now nodeId limit ties db) :
    (ReplicationDBV214.pendingJobs now nodeId limit allowed ties db).1.jobs.find? job.jobId =
      some job := by
  have found : db.jobs.find? job.jobId = some job := Table.find?_some_iff.mpr ⟨present, rfl⟩
  have clear :
      ¬((leasedRows now nodeId limit ties db).any fun row => row.jobId = job.jobId) = true := by
    intro chosen
    obtain ⟨row, member, same⟩ := List.any_eq_true.mp chosen
    have known : row = job :=
      Table.eq_of_key (leasedRows_mem member).1 present (of_decide_eq_true same)
    exact passed (known ▸ member)
  rw [pendingJobs_leases.1]
  apply (find?_updateJobs _ (Job.leased now) (fun _ => rfl) job.jobId).trans
  rw [found, Option.map_some, if_neg clear]

/-- Where the first due jobs are all allowed, they are the ones to serve. -/
theorem earliest_leased
    (all : ∀ job ∈ leasedRows now nodeId limit ties db, permitted allowed job = true) :
    Earliest limit ((dueRows now nodeId db).filter (permitted allowed))
      (leasedRows now nodeId limit ties db) := by
  let order := (ties.arrange (dueRows now nodeId db)).insertionSort
    fun first second => first.createdAt ≤ second.createdAt
  have sorted : order.Pairwise fun first second => first.createdAt ≤ second.createdAt :=
    (ties.arrange (dueRows now nodeId db)).pairwise_insertionSort fun first second : Job =>
      first.createdAt ≤ second.createdAt
  have same : order.Perm (dueRows now nodeId db) :=
    (List.perm_insertionSort _ _).trans (ties.perm _)
  have front : (order.take limit).filter (permitted allowed) = order.take limit :=
    List.filter_eq_self.mpr all
  refine ⟨order.filter (permitted allowed), same.filter _, sorted.filter _, ?_⟩
  symm
  calc (order.filter (permitted allowed)).take limit
      = ((order.take limit ++ order.drop limit).filter (permitted allowed)).take limit := by
        rw [List.take_append_drop]
    _ = (order.take limit ++ (order.drop limit).filter (permitted allowed)).take limit := by
        rw [List.filter_append, front]
    _ = order.take limit := by
        by_cases enough : limit ≤ order.length
        · exact List.take_left' (List.length_take_of_le enough)
        · have short : order.length ≤ limit := by omega
          rw [List.drop_eq_nil_of_le short, List.filter_nil, List.append_nil, List.take_take,
            min_self]

private theorem leased_ne {job : Job} (waits : due now nodeId job = true) (token : now + 120 ≠ 0) :
    job.leased now ≠ job := by
  intro same
  have lease : now + 120 = job.leaseUntil := congrArg Job.leaseUntil same
  simp only [due, Bool.and_eq_true, Bool.or_eq_true, decide_eq_true_eq] at waits
  omega

/-- Whatever the order of the ties, a poll serves the jobs it leases exactly if all are allowed. -/
theorem serves_iff (token : now + 120 ≠ 0) :
    (∃ served, LeasesServed now nodeId limit allowed db
        (ReplicationDBV214.pendingJobs now nodeId limit allowed ties db).1
        (ReplicationDBV214.pendingJobs now nodeId limit allowed ties db).2 served) ↔
      ∀ job ∈ leasedRows now nodeId limit ties db, permitted allowed job = true := by
  constructor
  · rintro ⟨served, serves⟩ job member
    by_contra refused
    obtain ⟨order, same, -, rfl⟩ := serves.earliest
    have unserved : job ∉ order.take limit := fun chosen =>
      refused (List.mem_filter.mp (same.mem_iff.mp (List.mem_of_mem_take chosen))).2
    have untouched := serves.kept job (leasedRows_mem member).1 unserved
    rw [find?_leased member] at untouched
    exact leased_ne (leasedRows_mem member).2 token (Option.some.inj untouched)
  · intro all
    refine ⟨leasedRows now nodeId limit ties db, earliest_leased all, ?_,
      fun job member => find?_leased member, fun job present unserved => find?_unleased present unserved⟩
    rw [pendingJobs_deliveries, List.filter_eq_self.mpr all]

/-- In an order of `created_at`, fewer than `limit` jobs are older than one of the first `limit`. -/
theorem countP_older_lt {order : List Job} {job : Job}
    (sorted : order.Pairwise fun first second => first.createdAt ≤ second.createdAt)
    (member : job ∈ order.take limit) :
    order.countP (fun other => other.createdAt < job.createdAt) < limit := by
  obtain ⟨before, after, split⟩ := List.append_of_mem member
  have whole : order = before ++ job :: (after ++ order.drop limit) := by
    rw [← List.cons_append, ← List.append_assoc, ← split, List.take_append_drop]
  have short : before.length < limit := by
    have length := congrArg List.length split
    rw [List.length_take, List.length_append, List.length_cons] at length
    omega
  rw [whole] at sorted
  have later : (job :: (after ++ order.drop limit)).countP
      (fun other => decide (other.createdAt < job.createdAt)) = 0 := by
    refine List.countP_eq_zero.mpr fun other inside => ?_
    rcases List.mem_cons.mp inside with rfl | inside
    · simp
    · have ordered := (List.pairwise_cons.mp (List.pairwise_append.mp sorted).2.1).1 other inside
      simpa using ordered
  rw [whole, List.countP_append, later, Nat.add_zero]
  exact List.countP_le_length.trans_lt short

def TieOrder.foremost (job : Job) : TieOrder where
  arrange rows := if job ∈ rows then job :: rows.erase job else rows
  perm rows := by
    split
    · rename_i member
      exact (List.perm_cons_erase member).symm
    · exact .refl rows

/-- Unless `limit` jobs are older, some order puts the job among the first. -/
theorem foremost_leased {job : Job} (member : job ∈ dueRows now nodeId db)
    (few : (dueRows now nodeId db).countP (fun other => other.createdAt < job.createdAt) < limit) :
    job ∈ leasedRows now nodeId limit (TieOrder.foremost job) db := by
  have arranged : (TieOrder.foremost job).arrange (dueRows now nodeId db) =
      job :: (dueRows now nodeId db).erase job := if_pos member
  unfold leasedRows
  rw [arranged, List.insertionSort_cons_eq_take_drop]
  generalize sorting : ((dueRows now nodeId db).erase job).insertionSort
    (fun first second : Job => first.createdAt ≤ second.createdAt) = rest
  have same : rest.Perm ((dueRows now nodeId db).erase job) :=
    sorting ▸ List.perm_insertionSort _ _
  -- what stands before the job is older than it
  let older := rest.takeWhile fun other => decide ¬job.createdAt ≤ other.createdAt
  have counted : older.length ≤
      (dueRows now nodeId db).countP fun other => other.createdAt < job.createdAt := by
    calc older.length
        = older.countP (fun other => decide (other.createdAt < job.createdAt)) := by
          refine (List.countP_eq_length.mpr fun other inside => ?_).symm
          simpa using List.all_eq_true.mp List.all_takeWhile other inside
      _ ≤ rest.countP _ := (List.takeWhile_sublist _).countP_le
      _ = ((dueRows now nodeId db).erase job).countP _ := same.countP_eq _
      _ ≤ _ := List.erase_sublist.countP_le
  rw [List.take_append]
  refine List.mem_append_right _ ?_
  obtain ⟨extra, room⟩ := Nat.exists_eq_succ_of_ne_zero
    (Nat.sub_ne_zero_of_lt (counted.trans_lt few))
  rw [room, List.take_succ_cons]
  exact List.mem_cons_self

end Polls

section Served

variable (now : Int) (nodeId : NodeId) (limit : Nat) (allowed : Option (List Operation)) (db : Db)

/-- The lease must not be the number that stands for "no lease". -/
theorem pendingJobs_leases_served (token : now + 120 ≠ 0) :
    (∀ ties, ∃ served, LeasesServed now nodeId limit allowed db
        (ReplicationDBV214.pendingJobs now nodeId limit allowed ties db).1
        (ReplicationDBV214.pendingJobs now nodeId limit allowed ties db).2 served) ↔
      ∀ job ∈ dueRows now nodeId db, permitted allowed job = false →
        limit ≤ (dueRows now nodeId db).countP fun other => other.createdAt < job.createdAt := by
  constructor
  · intro serves job member refused
    by_contra few
    have foremost := foremost_leased member (Nat.lt_of_not_le few)
    rw [(serves_iff token).mp (serves (TieOrder.foremost job)) job foremost] at refused
    cases refused
  · intro older ties
    refine (serves_iff token).mpr fun job member => ?_
    by_contra refused
    rw [Bool.not_eq_true] at refused
    have listed : job ∈ dueRows now nodeId db :=
      (ties.perm _).mem_iff.mp ((List.mem_insertionSort _).mp (List.mem_of_mem_take member))
    have sorted := (ties.arrange (dueRows now nodeId db)).pairwise_insertionSort
      fun first second : Job => first.createdAt ≤ second.createdAt
    have fewer := countP_older_lt sorted member
    rw [((List.perm_insertionSort _ _).trans (ties.perm _)).countP_eq] at fewer
    exact absurd (older job listed refused) (Nat.not_le_of_lt fewer)

end Served

/-- A planned removal stands before a copy to make, as after a mode that forbids removals. -/
def backlogDb : Db where
  nodes := ⟨[{ nodeId := "alpha" }], by decide⟩
  objects := ⟨[{ cid := "bafy", sizeBytes := 10, createdAt := 905, replicationN := 1
                 committableM := 1 }], by decide⟩
  objectRefs := .empty
  replicas := .empty
  jobs :=
    { rows := [{ jobId := 0, cid := "bafy", nodeId := "alpha", operation := .unpin, generation := 1
                 createdAt := 910, updatedAt := 910 },
               { jobId := 1, cid := "bafy", nodeId := "alpha", operation := .pin, generation := 1
                 createdAt := 920, updatedAt := 920 }]
      distinct := by decide
      next := 2
      fresh := by decide }

theorem pendingJobs_leases_served_all : ∃ served,
    LeasesServed 1000 "alpha" 1 (some [.unpin]) backlogDb
      (ReplicationDBV214.pendingJobs 1000 "alpha" 1 (some [.unpin]) .inserted backlogDb).1
      (ReplicationDBV214.pendingJobs 1000 "alpha" 1 (some [.unpin]) .inserted backlogDb).2 served :=
  (pendingJobs_leases_served 1000 "alpha" 1 (some [.unpin]) backlogDb (by decide)).mpr (by decide)
    .inserted

theorem pendingJobs_leases_unserved :
    ¬∀ now nodeId limit allowed ties db, ∃ served, LeasesServed now nodeId limit allowed db
      (ReplicationDBV214.pendingJobs now nodeId limit allowed ties db).1
      (ReplicationDBV214.pendingJobs now nodeId limit allowed ties db).2 served := by
  intro every
  obtain ⟨served, serves⟩ :=
    every 1000 "alpha" 1 (some [.pin, .verify, .unpinVerify]) .inserted backlogDb
  have none_handed : served.map (deliveryOf 1000 backlogDb) = [] :=
    serves.handed.symm.trans (by decide)
  obtain ⟨order, same, -, rfl⟩ := serves.earliest
  have waiting : order.length = 1 := same.length_eq.trans (by decide)
  have length := congrArg List.length none_handed
  rw [List.length_map, List.length_take, waiting] at length
  cases length

end HashBurst.Replication
