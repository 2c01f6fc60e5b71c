import Mathlib.Logic.Relation

namespace Lib

/-- A machine answers `none` where a label cannot be taken in a state. All
nondeterminism of the modelled system is in the choice of the label. -/
structure Machine (σ α : Type*) where
  next : σ → α → Option σ

namespace Machine

variable {σ α : Type*} (machine : Machine σ α)

def Step (allowed : σ → α → Prop) (before after : σ) : Prop :=
  ∃ label, allowed before label ∧ machine.next before label = some after

/-- Runs whose steps all meet `allowed`. -/
def Run (allowed : σ → α → Prop) : σ → σ → Prop :=
  Relation.ReflTransGen (machine.Step allowed)

/-- The labels in order, as long as each is allowed where it comes and can be taken. -/
def play (allowed : σ → α → Prop) [∀ state label, Decidable (allowed state label)] :
    σ → List α → Option σ
  | state, [] => some state
  | state, label :: labels =>
      if allowed state label then
        (machine.next state label).bind fun after => play allowed after labels
      else none

variable {machine}

theorem Run.refl {allowed : σ → α → Prop} (state : σ) : machine.Run allowed state state :=
  Relation.ReflTransGen.refl

theorem Run.trans {allowed : σ → α → Prop} {first second third : σ}
    (front : machine.Run allowed first second) (back : machine.Run allowed second third) :
    machine.Run allowed first third :=
  Relation.ReflTransGen.trans front back

theorem Run.mono {allowed weaker : σ → α → Prop} {first last : σ}
    (weaken : ∀ state label, allowed state label → weaker state label)
    (run : machine.Run allowed first last) : machine.Run weaker first last := by
  induction run with
  | refl => exact Relation.ReflTransGen.refl
  | tail _ step ih =>
      obtain ⟨label, met, taken⟩ := step
      exact ih.tail ⟨label, weaken _ label met, taken⟩

/-- What each allowed step preserves, a whole run preserves. -/
theorem Run.invariant {allowed : σ → α → Prop} {first last : σ} (Keeps : σ → Prop)
    (preserved : ∀ before label after, Keeps before → allowed before label →
      machine.next before label = some after → Keeps after)
    (run : machine.Run allowed first last) (start : Keeps first) : Keeps last := by
  induction run with
  | refl => exact start
  | tail _ step ih =>
      obtain ⟨label, met, taken⟩ := step
      exact preserved _ label _ ih met taken

theorem Run.of_play {allowed : σ → α → Prop} [∀ state label, Decidable (allowed state label)]
    {labels : List α} {first last : σ} (played : machine.play allowed first labels = some last) :
    machine.Run allowed first last := by
  induction labels generalizing first with
  | nil =>
      cases played
      exact Run.refl _
  | cons label labels ih =>
      rw [play] at played
      split at played
      · rename_i met
        obtain ⟨middle, taken, rest⟩ := Option.bind_eq_some_iff.mp played
        exact Relation.ReflTransGen.head ⟨label, met, taken⟩ (ih rest)
      · cases played

end Machine

end Lib
