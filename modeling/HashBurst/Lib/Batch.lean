import Mathlib.Tactic.TypeStar

/-! Batches of items that one step takes in turn: a loop that an exception ends, and one that leaves
out the items that raise. -/

namespace Lib.Batch

variable {σ ι ε : Type*} (step : σ → ι → σ × Except ε Unit)

def stopping : List ι → σ → σ × Except ε Unit
  | [], state => (state, .ok ())
  | item :: rest, state =>
      match step state item with
      | (after, .ok ()) => stopping rest after
      | (after, .error failure) => (after, .error failure)

variable (raises : σ → ι → Bool)

/-- The items that raise might as well be absent. -/
def isolating : List ι → σ → σ
  | [], state => state
  | item :: rest, state => isolating rest (if raises state item then state else (step state item).1)

def smooth : List ι → σ → Bool
  | [], _ => true
  | item :: rest, state => !raises state item && smooth rest (step state item).1

variable {step raises} {state : σ} {item : ι} {items : List ι}

theorem stopping_cons_ok (done : (step state item).2 = .ok ()) :
    stopping step (item :: items) state = stopping step items (step state item).1 := by
  rw [stopping]
  rcases taken : step state item with ⟨after, failure | value⟩
  · rw [taken] at done
    cases done
  · rfl

theorem stopping_cons_error {failure : ε} (raised : (step state item).2 = .error failure) :
    stopping step (item :: items) state = ((step state item).1, .error failure) := by
  rw [stopping]
  rcases taken : step state item with ⟨after, own | value⟩
  · rw [taken] at raised
    cases raised
    rfl
  · rw [taken] at raised
    cases raised

theorem stopping_ok (exact : ∀ state item, raises state item = false ↔ (step state item).2 = .ok ())
    (done : (stopping step items state).2 = .ok ()) : smooth step raises items state = true := by
  induction items generalizing state with
  | nil => rfl
  | cons head tail ih =>
      rw [smooth, Bool.and_eq_true, Bool.not_eq_true', exact]
      cases answer : (step state head).2 with
      | ok value =>
          rw [stopping_cons_ok answer] at done
          exact ⟨rfl, ih done⟩
      | error failure =>
          rw [stopping_cons_error answer] at done
          cases done

/-- The loop that an exception ends does the work of the other exactly where no item raises. -/
theorem stopping_isolates
    (exact : ∀ state item, raises state item = false ↔ (step state item).2 = .ok ()) :
    stopping step items state = (isolating step raises items state, .ok ()) ↔
      smooth step raises items state = true := by
  induction items generalizing state with
  | nil => exact iff_of_true rfl rfl
  | cons head tail ih =>
      rw [smooth, Bool.and_eq_true, Bool.not_eq_true']
      cases answer : (step state head).2 with
      | ok value =>
          have calm := (exact state head).mpr answer
          rw [stopping_cons_ok answer, isolating, calm, if_neg Bool.false_ne_true, ih]
          exact (and_iff_right rfl).symm
      | error failure =>
          have loud : ¬ raises state head = false := by
            rw [exact, answer]
            exact fun ended => by cases ended
          rw [stopping_cons_error answer]
          refine iff_of_false ?_ fun both => loud both.1
          intro same
          cases congrArg Prod.snd same

theorem smooth_of_mem (smoothly : smooth step raises items state = true) (member : item ∈ items)
    (always : ∀ state, raises state item = true) : False := by
  induction items generalizing state with
  | nil => cases member
  | cons head tail ih =>
      rw [smooth, Bool.and_eq_true, Bool.not_eq_true'] at smoothly
      rcases List.mem_cons.mp member with rfl | later
      · rw [always state] at smoothly
        cases smoothly.1
      · exact ih smoothly.2 later

end Lib.Batch
