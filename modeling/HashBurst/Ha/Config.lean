import HashBurst.Lib.Binary64
import HashBurst.Lib.PyString

/-! The clock and the configuration of a TEP-HA agent, and the clusters whose agents share one. -/

namespace HashBurst.Ha

open Lib

abbrev NodeId := String

/-- `boot_seconds()` at this uptime: `/proc/uptime` shows it in hundredths of a second. -/
def bootReading (uptime : ℚ) : ℚ := ⌊uptime * 100⌋ / 100

section Clock

variable {uptime later : ℚ}

theorem bootReading_le (uptime : ℚ) : bootReading uptime ≤ uptime := by
  have floor := Int.floor_le (uptime * 100)
  unfold bootReading
  linarith

theorem lt_bootReading (uptime : ℚ) : uptime < bootReading uptime + 1 / 100 := by
  have floor := Int.lt_floor_add_one (uptime * 100)
  unfold bootReading
  linarith

theorem bootReading_mono (order : uptime ≤ later) : bootReading uptime ≤ bootReading later := by
  have floor : ((⌊uptime * 100⌋ : ℤ) : ℚ) ≤ ⌊later * 100⌋ := by
    exact_mod_cast Int.floor_le_floor (by linarith)
  unfold bootReading
  linarith

theorem bootReading_nonneg (booted : 0 ≤ uptime) : 0 ≤ bootReading uptime := by
  have floor : (0 : ℚ) ≤ ⌊uptime * 100⌋ := by
    exact_mod_cast Int.floor_nonneg.mpr (by linarith)
  unfold bootReading
  linarith

end Clock

inductive Role
  | voter
  | candidate
  | observer
  deriving DecidableEq, Repr

structure Candidate where
  nodeId : NodeId
  priority : Int
  deriving DecidableEq, Repr

/-- The part of `Config` that the lease engine reads, with what `Config.load` has checked. -/
structure Config where
  clusterId : String
  nodeId : NodeId
  roles : List Role
  voters : List NodeId
  candidates : List Candidate
  leaseSeconds : ℚ
  armed : Bool
  distinct : voters.Nodup := by decide
  unique : (candidates.map Candidate.nodeId).Nodup := by decide
  bounded : 6 ≤ leaseSeconds ∧ leaseSeconds ≤ 120 := by decide

namespace Config

def isVoter (config : Config) : Bool := config.roles.contains .voter

def isCandidate (config : Config) : Bool := config.roles.contains .candidate

def quorum (config : Config) : Nat := config.voters.length / 2 + 1

def priority (config : Config) : Int :=
  match config.candidates.find? fun candidate => candidate.nodeId = config.nodeId with
  | some candidate => candidate.priority
  | none => 2 ^ 31 - 1

/-- `int(self.config.lease_seconds * 1000)`, a product of binary64 numbers. -/
def leaseMs (config : Config) : Int :=
  ⌊(binary64 ((binary64 config.leaseSeconds).getD 0 * 1000)).getD 0⌋

theorem quorum_majority (config : Config) : config.voters.length < 2 * config.quorum := by
  unfold quorum
  omega

theorem lease_positive (config : Config) : 0 < config.leaseSeconds := by
  have long := config.bounded.1
  linarith

theorem leaseMs_product (config : Config) : ∃ product : ℚ, config.leaseMs = ⌊product⌋ ∧
    |product - config.leaseSeconds * 1000| ≤ 1 / 2 := by
  have bounded := config.bounded
  have small : config.leaseSeconds < 2 ^ (7 : ℤ) := by
    norm_num
    linarith
  obtain ⟨float, read, near⟩ := binary64_close (by linarith) small (by norm_num) (by norm_num)
  norm_num [abs_le] at near
  have modest : float * 1000 < 2 ^ (17 : ℤ) := by
    norm_num
    linarith
  obtain ⟨product, made, close⟩ := binary64_close (by linarith) modest (by norm_num) (by norm_num)
  norm_num [abs_le] at close
  refine ⟨product, ?_, ?_⟩
  · unfold leaseMs
    rw [read, Option.getD_some, made, Option.getD_some]
  · rw [abs_le]
    constructor
    · linarith
    · linarith

theorem leaseMs_positive (config : Config) : 0 < config.leaseMs := by
  obtain ⟨product, floor, near⟩ := config.leaseMs_product
  have bounded := config.bounded
  have close := abs_le.mp near
  rw [floor, Int.floor_pos]
  linarith

/-- Of a whole number of milliseconds the last one may be lost. -/
theorem leaseMs_near {config : Config} {whole : Int} (exact : config.leaseSeconds = whole / 1000) :
    whole - 1 ≤ config.leaseMs ∧ config.leaseMs ≤ whole := by
  obtain ⟨product, floor, near⟩ := config.leaseMs_product
  have close := abs_le.mp near
  have scaled : config.leaseSeconds * 1000 = whole := by
    rw [exact, div_mul_cancel₀ _ (by norm_num)]
  rw [floor]
  constructor
  · rw [Int.le_floor]
    push_cast
    linarith
  · rw [← Int.lt_add_one_iff, Int.floor_lt]
    push_cast
    linarith

end Config

/-- A cluster whose agents have the same voters and the same lease, a whole number of
milliseconds. `peerId` is the identity that TEP authenticates for a node. -/
structure Cluster where
  config : NodeId → Config
  peerId : NodeId → String
  voters : List NodeId
  leaseMs : Int
  named : ∀ nodeId, (config nodeId).nodeId = nodeId
  sameVoters : ∀ nodeId, (config nodeId).voters = voters
  sameLease : ∀ nodeId, (config nodeId).leaseSeconds = leaseMs / 1000

namespace Cluster

/-- How long a lease lasts at its holder, in seconds. -/
def lease (cluster : Cluster) : ℚ := cluster.leaseMs / 1000

/-- The lease that a request asks for. -/
def sentMs (cluster : Cluster) : Int := (cluster.config "").leaseMs

/-- How long a lease lasts at a voter. -/
def span (cluster : Cluster) : ℚ := cluster.sentMs / 1000

/-- By how much the lease of a voter may fall short of that of its holder: a reading of the clock,
and the millisecond that the product loses. -/
def slack (cluster : Cluster) : ℚ := cluster.lease - cluster.span + 1 / 100

/-- How long past its deadline a holder may still take its lease for unexpired, and a voter's lease
be over: one more reading of the clock. -/
def respite (cluster : Cluster) : ℚ := cluster.slack + 1 / 100

theorem config_leaseMs (cluster : Cluster) (nodeId : NodeId) :
    (cluster.config nodeId).leaseMs = cluster.sentMs := by
  unfold sentMs Config.leaseMs
  rw [cluster.sameLease, cluster.sameLease]

private theorem sentMs_near (cluster : Cluster) :
    cluster.leaseMs - 1 ≤ cluster.sentMs ∧ cluster.sentMs ≤ cluster.leaseMs :=
  Config.leaseMs_near (cluster.sameLease "")

theorem span_le (cluster : Cluster) : cluster.span ≤ cluster.lease := by
  have near : (cluster.sentMs : ℚ) ≤ cluster.leaseMs := by exact_mod_cast cluster.sentMs_near.2
  unfold span lease
  linarith

theorem lease_positive (cluster : Cluster) : 0 < cluster.lease := by
  have positive := (cluster.config "").lease_positive
  rw [cluster.sameLease] at positive
  exact positive

theorem voters_nodup (cluster : Cluster) : cluster.voters.Nodup := by
  rw [← cluster.sameVoters ""]
  exact (cluster.config "").distinct

end Cluster

end HashBurst.Ha
