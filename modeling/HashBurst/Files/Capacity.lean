import Mathlib.Data.Rat.Floor
import Mathlib.Tactic.Linarith
import HashBurst.Lib.Machine
import HashBurst.Lib.Table

/-! The capacity accounting of HB-Files (`hb_capacity.py`) in exact arithmetic: quotas are granted
out of what the stakeholders and the earlier grants leave of the physical size. -/

namespace HashBurst.Files

open Lib

structure Grant where
  apikey : String
  gb : ℚ
  positive : 0 < gb
  paymentRef : String
  grantedAt : Int
  deriving DecidableEq

abbrev Grants := Table Grant.apikey

/-- How a read goes: it succeeds, it fails and the code puts a default in its place, or it raises
what the code does not catch. -/
inductive Reading
  | ok
  | failed
  | raises
  deriving DecidableEq

def Reading.fetch {α : Type} (reading : Reading) (value default : α) : Option α :=
  match reading with
  | ok => some value
  | failed => some default
  | raises => none

/-- The reads of one call: ZFS, the disk, the grants file for the sum and for the change. -/
structure Readings where
  zfs : Reading := .ok
  disk : Bool := true
  sum : Reading := .ok
  grants : Reading := .ok
  deriving DecidableEq

/-- The `storage_quota_gb` of each entry of `list.json`, `none` where it is missing or no number. -/
structure Stakeholders where
  quotas : List (Option ℚ)
  defaultQuotaGb : ℚ := 100

def Stakeholders.sumAssignedQuotaGb (registry : Stakeholders) : ℚ :=
  (registry.quotas.map fun quota => quota.getD registry.defaultQuotaGb).sum

/-- `HB_STORAGE_BACKEND` is `zfs` or not, `limitGb` is `HB_CAPACITY_LIMIT_GB`. -/
structure StorageNode where
  registry : Stakeholders
  zfsBackend : Bool
  limitGb : Option ℚ
  zfsQuota : Nat
  diskTotal : Nat

def bytesPerGb : Nat := 1024 ^ 3

/-- `int(value)`, towards zero. -/
def truncate (value : ℚ) : Int := value.num.tdiv value.den

structure Commerciable where
  physicalTotalGb : ℚ
  committedGb : ℚ
  surplusGb : ℚ
  oversubscribed : Bool
  deriving DecidableEq

inductive QuotaReply
  | notPositive
  | insufficient (requestedGb surplusGb : ℚ)
  | granted (apikey : String) (gb : ℚ) (paymentRef : String)
  | revoked (apikey : String)
  | noGrant
  deriving DecidableEq

def QuotaReply.error : QuotaReply → Option String
  | notPositive => some "gb deve essere positivo"
  | insufficient _ _ => some "eccedenza insufficiente"
  | noGrant => some "nessuna concessione per questa apikey"
  | granted _ _ _ | revoked _ => none

namespace Grants

def put (grants : Grants) (grant : Grant) : Grants :=
  grants.upsert grant fun old => { grant with apikey := old.apikey }

/-- `_load_grants`: a file that cannot be read looks empty. -/
def load (stored : Grants) (reading : Reading) : Option Grants := reading.fetch stored Table.empty

/-- `_sum_grants_gb` of what was loaded. -/
def sumGb (grants : Grants) : ℚ := grants.total Grant.gb

end Grants

namespace StorageNode

variable (node : StorageNode) (readings : Readings) (stored : Grants)

/-- `physical_total_bytes` of `physical`. -/
def physical : Option (Option Int) := do
  let quota ← readings.zfs.fetch (some (node.zfsQuota : Int)) none
  if node.zfsBackend then
    return quota
  else
    match node.limitGb with
    | some limit => return some (truncate (limit * bytesPerGb))
    | none => return if readings.disk then some (node.diskTotal : Int) else none

/-- A size of 0 bytes is shown as unknown. -/
def physicalTotalGb : Option (Option ℚ) :=
  (node.physical readings).map fun bytes =>
    (bytes.filter (· ≠ 0)).map fun size : Int => (size : ℚ) / bytesPerGb

/-- `total_committed_gb` of `sovereign`. -/
def sovereign : Option ℚ :=
  (Grants.load stored readings.sum).map fun grants =>
    node.registry.sumAssignedQuotaGb + grants.sumGb

/-- `none` inside where `available` is false. -/
def commerciable : Option (Option Commerciable) := do
  let total ← node.physicalTotalGb readings
  let committed ← node.sovereign readings stored
  return total.map fun total =>
    { physicalTotalGb := total
      committedGb := committed
      surplusGb := total - committed
      oversubscribed := total - committed < 0 }

def grantQuota (apikey : String) (gb : ℚ) (paymentRef : String) (now : Int) :
    Option (Grants × QuotaReply) :=
  if positive : 0 < gb then do
    let comm ← node.commerciable readings stored
    match comm.filter fun comm => comm.surplusGb < gb with
    | some comm => return (stored, .insufficient gb comm.surplusGb)
    | none =>
        let grants ← Grants.load stored readings.grants
        return (grants.put { apikey, gb, positive, paymentRef, grantedAt := now },
          .granted apikey gb paymentRef)
  else some (stored, .notPositive)

def revokeQuota (apikey : String) : Option (Grants × QuotaReply) := do
  let grants ← Grants.load stored readings.grants
  match grants.find? apikey with
  | some _ => return (grants.erase apikey, .revoked apikey)
  | none => return (stored, .noGrant)

end StorageNode

inductive QuotaCall
  | grant (apikey : String) (gb : ℚ) (paymentRef : String) (now : Int)
  | revoke (apikey : String)
  deriving DecidableEq

def QuotaCall.apikey : QuotaCall → String
  | grant apikey _ _ _ | revoke apikey => apikey

namespace StorageNode

variable (node : StorageNode) (readings : Readings) (stored : Grants)

def quotaCall : QuotaCall → Option (Grants × QuotaReply)
  | .grant apikey gb paymentRef now => node.grantQuota readings stored apikey gb paymentRef now
  | .revoke apikey => revokeQuota readings stored apikey

/-- The calls on the grants file: one that raises has not written it. -/
def accounting : Machine Grants (QuotaCall × Readings) where
  next stored label := some (((node.quotaCall label.2 stored label.1).map Prod.fst).getD stored)

/-- The physical size that a read gives if it does not fail. -/
def sizeBytes : Int :=
  if node.zfsBackend then node.zfsQuota
  else
    match node.limitGb with
    | some limit => truncate (limit * bytesPerGb)
    | none => node.diskTotal

def sizeGb : ℚ := node.sizeBytes / bytesPerGb

def committedGb : ℚ := node.registry.sumAssignedQuotaGb + stored.sumGb

def SizeRead : Prop :=
  node.sizeBytes ≠ 0 ∧
    if node.zfsBackend then readings.zfs ≠ .failed else node.limitGb = none → readings.disk = true

/-- No default takes the place of the physical size, or of grants that are stored. -/
def Faithful (stored : Grants) (label : QuotaCall × Readings) : Prop :=
  match label with
  | (.grant _ gb _ _, readings) => 0 < gb → node.SizeRead readings ∧
      (stored.rows ≠ [] → readings.sum ≠ .failed ∧ readings.grants ≠ .failed)
  | (.revoke _, _) => True

instance : Decidable (node.SizeRead readings) := inferInstanceAs (Decidable (_ ∧ ite _ _ _))

instance (stored : Grants) (label : QuotaCall × Readings) :
    Decidable (node.Faithful stored label) :=
  match label with
  | (.grant _ _ _ _, _) => inferInstanceAs (Decidable (_ → _ ∧ (_ → _)))
  | (.revoke _, _) => .isTrue trivial

end StorageNode

section Grants

variable {stored grants : Grants} {reading : Reading} {grant : Grant} {apikey : String}

theorem grants_weight_nonneg (grants : Grants) (apikey : String) :
    0 ≤ grants.weightAt Grant.gb apikey := by
  unfold Table.weightAt
  cases grants.find? apikey with
  | none => exact le_refl 0
  | some grant => exact grant.positive.le

private theorem put_sum_le (grants : Grants) (grant : Grant) :
    (grants.put grant).sumGb ≤ grants.sumGb + grant.gb := by
  have moved := grants.total_upsert Grant.gb grant (fun old => { grant with apikey := old.apikey })
    (fun _ => rfl) (fun _ => rfl)
  have replaced := grants_weight_nonneg grants grant.apikey
  simp only [Grants.sumGb, Grants.put]
  linarith

theorem put_find?_other (grants : Grants) (apart : apikey ≠ grant.apikey) :
    (grants.put grant).find? apikey = grants.find? apikey := by
  rw [Grants.put, Table.find?_upsert, if_neg (Ne.symm apart)]

private theorem erase_sum_le (grants : Grants) (apikey : String) :
    Grants.sumGb (grants.erase apikey) ≤ grants.sumGb := by
  have removed := grants.total_erase Grant.gb apikey
  have weighed := grants_weight_nonneg grants apikey
  simp only [Grants.sumGb]
  linarith

theorem load_cases (loaded : stored.load reading = some grants) :
    grants = stored ∨ (reading = .failed ∧ grants = Table.empty) := by
  cases reading with
  | ok => exact .inl (Option.some.inj loaded).symm
  | failed => exact .inr ⟨rfl, (Option.some.inj loaded).symm⟩
  | raises => cases loaded

theorem load_stored (loaded : stored.load reading = some grants)
    (sound : stored.rows ≠ [] → reading ≠ .failed) : grants = stored := by
  rcases load_cases loaded with same | ⟨failed, empty⟩
  · exact same
  · have none : stored.rows = [] := by
      by_contra some
      exact sound some failed
    rw [empty]
    exact Table.ext none.symm

end Grants

namespace StorageNode

variable {node : StorageNode} {readings : Readings} {stored after : Grants} {reply : QuotaReply}
  {apikey paymentRef : String} {gb : ℚ} {now : Int}

theorem physical_read {bytes : Option Int} (size : node.SizeRead readings)
    (read : node.physical readings = some bytes) : bytes = some node.sizeBytes := by
  obtain ⟨-, size⟩ := size
  unfold physical at read
  unfold sizeBytes
  obtain ⟨quota, fetched, read⟩ := Option.bind_eq_some_iff.mp read
  by_cases zfs : node.zfsBackend = true
  · rw [if_pos zfs] at read size ⊢
    rw [← Option.some.inj read]
    cases state : readings.zfs with
    | ok =>
        rw [state] at fetched
        exact (Option.some.inj fetched).symm
    | failed => exact absurd state size
    | raises =>
        rw [state] at fetched
        cases fetched
  · rw [if_neg zfs] at read size ⊢
    cases limit : node.limitGb with
    | some limitGb =>
        rw [limit] at read
        exact (Option.some.inj read).symm
    | none =>
        rw [limit] at read
        simp only [size limit, if_true] at read
        exact (Option.some.inj read).symm

private theorem physicalTotalGb_read {total : Option ℚ} (size : node.SizeRead readings)
    (read : node.physicalTotalGb readings = some total) : total = some node.sizeGb := by
  obtain ⟨bytes, physical, rfl⟩ := Option.map_eq_some_iff.mp read
  rw [physical_read size physical]
  simp [size.1, sizeGb]

/-- A grant leaves the file alone, or stores the new amount with what was loaded, after a check
against the surplus where it is known. -/
theorem grantQuota_cases
    (granted : node.grantQuota readings stored apikey gb paymentRef now = some (after, reply)) :
    after = stored ∨
    ∃ (positive : 0 < gb) (total : Option ℚ) (committed : ℚ) (grants : Grants),
      node.physicalTotalGb readings = some total ∧
      node.sovereign readings stored = some committed ∧
      (∀ size ∈ total, gb ≤ size - committed) ∧
      stored.load readings.grants = some grants ∧
      after = grants.put { apikey, gb, positive, paymentRef, grantedAt := now } := by
  unfold grantQuota at granted
  by_cases positive : 0 < gb
  · rw [dif_pos positive] at granted
    obtain ⟨comm, checked, granted⟩ := Option.bind_eq_some_iff.mp granted
    obtain ⟨total, physical, checked⟩ := Option.bind_eq_some_iff.mp checked
    obtain ⟨committed, sovereign, checked⟩ := Option.bind_eq_some_iff.mp checked
    have shown := Option.some.inj checked
    cases refused : comm.filter fun comm => comm.surplusGb < gb with
    | some comm =>
        rw [refused] at granted
        exact .inl (Prod.mk.inj (Option.some.inj granted)).1.symm
    | none =>
        rw [refused] at granted
        obtain ⟨grants, loaded, granted⟩ := Option.bind_eq_some_iff.mp granted
        refine .inr ⟨positive, total, committed, grants, physical, sovereign, ?_, loaded,
          (Prod.mk.inj (Option.some.inj granted)).1.symm⟩
        intro size known
        rw [Option.mem_def.mp known] at shown
        rw [← shown] at refused
        simpa using refused
  · rw [dif_neg positive] at granted
    exact .inl (Prod.mk.inj (Option.some.inj granted)).1.symm

theorem revokeQuota_cases (revoked : revokeQuota readings stored apikey = some (after, reply)) :
    after = stored ∨ after = stored.erase apikey := by
  obtain ⟨grants, loaded, revoked⟩ := Option.bind_eq_some_iff.mp revoked
  cases found : grants.find? apikey with
  | none =>
      rw [found] at revoked
      exact .inl (Prod.mk.inj (Option.some.inj revoked)).1.symm
  | some grant =>
      rw [found] at revoked
      rcases load_cases loaded with same | ⟨-, empty⟩
      · rw [same] at revoked
        exact .inr (Prod.mk.inj (Option.some.inj revoked)).1.symm
      · rw [empty] at found
        cases found

/-- One faithful call: what is committed stays within the size, the grants of others stay. -/
theorem accounting_step {label : QuotaCall × Readings} (faithful : node.Faithful stored label)
    (taken : node.accounting.next stored label = some after) :
    (node.committedGb stored ≤ node.sizeGb → node.committedGb after ≤ node.sizeGb) ∧
      ∀ other ≠ label.1.apikey, after.find? other = stored.find? other := by
  obtain ⟨call, readings⟩ := label
  have stays : after = stored →
      (node.committedGb stored ≤ node.sizeGb → node.committedGb after ≤ node.sizeGb) ∧
        ∀ other ≠ call.apikey, after.find? other = stored.find? other := by
    intro same
    rw [same]
    exact ⟨id, fun _ _ => rfl⟩
  cases result : node.quotaCall readings stored call with
  | none =>
      simp only [accounting, result, Option.map_none, Option.getD_none] at taken
      exact stays (Option.some.inj taken).symm
  | some answer =>
      obtain ⟨written, reply⟩ := answer
      simp only [accounting, result, Option.map_some, Option.getD_some] at taken
      have named : written = after := Option.some.inj taken
      subst named
      cases call with
      | grant apikey gb paymentRef now =>
          rcases grantQuota_cases result with
            same | ⟨positive, total, committed, grants, physical, sovereign, covered, loaded, rfl⟩
          · exact stays same
          · obtain ⟨size, sound⟩ := faithful positive
            have kept := load_stored loaded fun some => (sound some).2
            obtain ⟨summed, summing, rfl⟩ := Option.map_eq_some_iff.mp sovereign
            have counted := load_stored summing fun some => (sound some).1
            have fits := covered node.sizeGb (physicalTotalGb_read size physical)
            rw [counted] at fits
            rw [kept]
            constructor
            · intro _
              have grown := put_sum_le stored
                { apikey, gb, positive, paymentRef, grantedAt := now }
              simp only [committedGb]
              linarith
            · intro other apart
              exact put_find?_other stored apart
      | revoke apikey =>
          rcases revokeQuota_cases result with same | rfl
          · exact stays same
          · constructor
            · intro fits
              have shrunk := erase_sum_le stored apikey
              simp only [committedGb] at fits ⊢
              linarith
            · intro other apart
              exact Table.find?_erase_other apart

theorem capacity_not_oversold {first later : Grants}
    (fits : node.committedGb first ≤ node.sizeGb)
    (run : node.accounting.Run node.Faithful first later) :
    node.committedGb later ≤ node.sizeGb ∧
      ∀ label after, node.Faithful later label → node.accounting.next later label = some after →
        ∀ other ≠ label.1.apikey, after.find? other = later.find? other := by
  constructor
  · apply run.invariant (fun stored => node.committedGb stored ≤ node.sizeGb) _ fits
    intro stored label after fits faithful taken
    exact (accounting_step faithful taken).1 fits
  · intro label after faithful taken
    exact (accounting_step faithful taken).2

def sampleNode : StorageNode where
  registry := { quotas := [none, some 50] }
  zfsBackend := false
  limitGb := none
  zfsQuota := 0
  diskTotal := 1000 * bytesPerGb

theorem capacity_not_oversold_once :
    ∃ later, later ≠ Table.empty ∧ sampleNode.committedGb later ≤ sampleNode.sizeGb := by
  have played : (sampleNode.accounting.play sampleNode.Faithful Table.empty
      [(.grant "alice" 600 "" 1, {}), (.grant "bob" 200 "" 2, { zfs := .failed }),
        (.grant "alice" 250 "" 3, {}), (.revoke "bob", {})]).any
      (fun later => later ≠ Table.empty) = true := by decide +kernel
  obtain ⟨later, reached, some⟩ := (Option.any_eq_true _ _).mp played
  have fits : sampleNode.committedGb Table.empty ≤ sampleNode.sizeGb := by decide +kernel
  exact ⟨later, of_decide_eq_true some, (capacity_not_oversold fits (.of_play reached)).1⟩

/-- With the disk unreadable more is granted than there is, and with the grants file unreadable a
grant for one key erases that of another. -/
theorem capacity_oversold :
    sampleNode.committedGb Table.empty ≤ sampleNode.sizeGb ∧
    ∃ later, sampleNode.accounting.Run (fun _ _ => True) Table.empty later ∧
      sampleNode.sizeGb < sampleNode.committedGb later ∧
      ∃ label after, sampleNode.accounting.next later label = some after ∧
        ∃ other ≠ label.1.apikey, later.find? other ≠ none ∧ after.find? other = none := by
  have played : (sampleNode.accounting.play (fun _ _ => True) Table.empty
      [(.grant "alice" 600 "" 1, {}), (.grant "bob" 2000 "" 2, { disk := false })]).any
      (fun later => sampleNode.sizeGb < sampleNode.committedGb later ∧
        (sampleNode.accounting.next later
          (.grant "carol" 1 "" 3, { disk := false, grants := .failed })).any fun after =>
            later.find? "alice" ≠ none ∧ after.find? "alice" = none) = true := by decide +kernel
  obtain ⟨later, reached, shown⟩ := (Option.any_eq_true _ _).mp played
  obtain ⟨oversold, dropped⟩ := of_decide_eq_true shown
  obtain ⟨after, taken, gone⟩ := (Option.any_eq_true _ _).mp dropped
  have fits : sampleNode.committedGb Table.empty ≤ sampleNode.sizeGb := by decide +kernel
  exact ⟨fits, later, .of_play reached, oversold, _, after, taken, "alice", by decide,
    of_decide_eq_true gone⟩

end StorageNode

end HashBurst.Files
