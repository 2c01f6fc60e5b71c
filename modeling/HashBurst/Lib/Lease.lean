import Mathlib.Algebra.Order.Monoid.Defs
import Mathlib.Data.Finset.Card
import Mathlib.Order.Defs.LinearOrder

/-! Leases that voters grant to holders for a time: a holder with the leases of a majority is
the only one. -/

namespace Lib

structure Lease (ν η τ : Type*) where
  voter : ν
  holder : η
  expires : τ
  deriving DecidableEq, Repr

structure Register (ν η τ : Type*) where
  now : τ
  leases : List (Lease ν η τ)

namespace Register

variable {ν η τ : Type*} [LinearOrder τ]

/-- No voter is bound to two holders at once. -/
def Exclusive (register : Register ν η τ) : Prop :=
  ∀ first ∈ register.leases, ∀ second ∈ register.leases, first.voter = second.voter →
    register.now < first.expires → register.now < second.expires → first.holder = second.holder

/-- A majority of the voters is bound to the holder until the time. -/
def Backed (register : Register ν η τ) (voters : List ν) (holder : η) (time : τ) : Prop :=
  ∃ backing : List ν, backing.Sublist voters ∧ voters.length < 2 * backing.length ∧
    ∀ voter ∈ backing, ∃ lease ∈ register.leases,
      lease.voter = voter ∧ lease.holder = holder ∧ time ≤ lease.expires

variable {register : Register ν η τ}

theorem backed_mono {more : Register ν η τ} {voters : List ν} {holder : η} {time sooner : τ}
    (grown : ∀ lease ∈ register.leases, lease ∈ more.leases) (order : sooner ≤ time)
    (backed : register.Backed voters holder time) : more.Backed voters holder sooner := by
  obtain ⟨backing, inside, most, bound⟩ := backed
  refine ⟨backing, inside, most, fun voter member => ?_⟩
  obtain ⟨lease, granted, own, held, lasts⟩ := bound voter member
  exact ⟨lease, grown lease granted, own, held, order.trans lasts⟩

/-- Voters that are pledged to one holder each are bound to no other. -/
theorem exclusive_of_pledge (pledge : ν → η)
    (kept : ∀ lease ∈ register.leases, register.now < lease.expires →
      pledge lease.voter = lease.holder) : register.Exclusive := by
  intro first one second two voter early late
  rw [← kept first one early, ← kept second two late, voter]

def prolonged [Add τ] (register : Register ν η τ) (margin : τ) : Register ν η τ where
  now := register.now
  leases := register.leases.map fun lease => { lease with expires := lease.expires + margin }

theorem backed_prolonged [AddCommMonoid τ] [IsOrderedAddMonoid τ] {voters : List ν} {holder : η}
    {time : τ} (margin : τ) (backed : register.Backed voters holder time) :
    (register.prolonged margin).Backed voters holder (time + margin) := by
  obtain ⟨backing, inside, most, bound⟩ := backed
  refine ⟨backing, inside, most, fun voter member => ?_⟩
  obtain ⟨lease, granted, own, held, lasts⟩ := bound voter member
  exact ⟨_, List.mem_map_of_mem granted, own, held, add_le_add_left lasts margin⟩

theorem common_voter [DecidableEq ν] {voters first second : List ν} (distinct : voters.Nodup)
    (one : first.Sublist voters) (two : second.Sublist voters)
    (most : voters.length < 2 * first.length) (majority : voters.length < 2 * second.length) :
    ∃ voter ∈ first, voter ∈ second := by
  have cards : ∀ {part : List ν}, part.Sublist voters → part.toFinset.card = part.length :=
    fun inside => List.toFinset_card_of_nodup (inside.nodup distinct)
  have total := List.toFinset_card_of_nodup distinct
  have meet : (first.toFinset ∩ second.toFinset).Nonempty := by
    apply Finset.inter_nonempty_of_card_lt_card_add_card (s := voters.toFinset)
    · exact fun voter member => List.mem_toFinset.mpr (one.subset (List.mem_toFinset.mp member))
    · exact fun voter member => List.mem_toFinset.mpr (two.subset (List.mem_toFinset.mp member))
    · have left := cards one
      have right := cards two
      omega
  obtain ⟨voter, member⟩ := meet
  obtain ⟨left, right⟩ := Finset.mem_inter.mp member
  exact ⟨voter, List.mem_toFinset.mp left, List.mem_toFinset.mp right⟩

/-- At most one holder is backed by a majority beyond the present. -/
theorem holder_unique {voters : List ν} {first second : η} {early late : τ}
    (exclusive : register.Exclusive) (distinct : voters.Nodup)
    (one : register.Backed voters first early) (two : register.Backed voters second late)
    (unexpired : register.now < early) (valid : register.now < late) : first = second := by
  classical
  obtain ⟨backing, inside, most, bound⟩ := one
  obtain ⟨support, within, majority, held⟩ := two
  obtain ⟨voter, member, also⟩ := common_voter distinct inside within most majority
  obtain ⟨lease, granted, own, owner, lasts⟩ := bound voter member
  obtain ⟨other, given, same, holder, longer⟩ := held voter also
  rw [← owner, ← holder]
  exact exclusive lease granted other given (own.trans same.symm) (unexpired.trans_le lasts)
    (valid.trans_le longer)

end Register

end Lib
