import Mathlib.Data.List.Basic
import HashBurst.Lib.Machine
import HashBurst.Lib.Prog

/-! Threads that run programs over one shared object: any thread may make its next
operation at any moment, and calls may start at any moment. -/

namespace Lib

/-- A call, the operations it has made so far, and what is left of its program. -/
structure Thread (Op : Type → Type) (ε ρ : Type) (γ : Type) where
  call : γ
  steps : Nat := 0
  rest : Prog Op ε ρ

structure Pool (σ : Type) (Op : Type → Type) (ε ρ γ : Type) where
  shared : σ
  threads : List (Thread Op ε ρ γ)

namespace Prog

def finished {Op : Type → Type} {ε α : Type} : Prog Op ε α → Bool
  | ret _ => true
  | fail _ => true
  | call _ _ => false

end Prog

namespace Pool

variable {σ : Type} {Op : Type → Type} {ε ρ γ ι : Type}

inductive Label (γ ι : Type)
  | start (call : γ)
  | step (thread : Nat) (env : ι)

/-- The pool runs `program call` for each call, every operation by `run`. -/
def machine (run : ∀ {β : Type}, Op β → ι → σ → σ × β) (program : γ → Prog Op ε ρ) :
    Machine (Pool σ Op ε ρ γ) (Label γ ι) where
  next pool
    | .start call =>
        some { pool with threads := pool.threads ++ [{ call, rest := program call }] }
    | .step index env =>
        pool.threads[index]?.bind fun thread =>
          (thread.rest.advance run env pool.shared).map fun (shared, rest) =>
            { shared
              threads := pool.threads.set index
                { call := thread.call, steps := thread.steps + 1, rest } }

variable {run : ∀ {β : Type}, Op β → ι → σ → σ × β} {program : γ → Prog Op ε ρ}
  {pool after : Pool σ Op ε ρ γ}

/-- What one step does: one thread makes its next operation, the others wait. -/
theorem step_cases {index : Nat} {env : ι}
    (taken : (machine run program).next pool (.step index env) = some after) :
    ∃ thread shared rest, pool.threads[index]? = some thread ∧
      thread.rest.advance run env pool.shared = some (shared, rest) ∧
      after =
        { shared
          threads := pool.threads.set index
            { call := thread.call, steps := thread.steps + 1, rest } } := by
  simp only [machine, Option.bind_eq_some_iff, Option.map_eq_some_iff] at taken
  obtain ⟨thread, found, ⟨shared, rest⟩, advanced, rfl⟩ := taken
  exact ⟨thread, shared, rest, found, advanced, rfl⟩

theorem start_cases {call : γ}
    (taken : (machine run program).next pool (.start call) = some after) :
    after = { pool with threads := pool.threads ++ [{ call, rest := program call }] } :=
  (Option.some.inj taken).symm

/-- The next operations of a program, up to so many of them, with nothing in between. -/
def ahead (run : ∀ {β : Type}, Op β → ι → σ → σ × β) (env : ι) :
    Nat → Prog Op ε ρ → σ → σ × Prog Op ε ρ
  | 0, rest, state => (state, rest)
  | count + 1, .call op next, state =>
      ahead run env count (next (run op env state).2) (run op env state).1
  | _ + 1, .ret value, state => (state, .ret value)
  | _ + 1, .fail failure, state => (state, .fail failure)

/-- A thread may make its next operations before any other thread does. -/
theorem run_turn (front back : List (Thread Op ε ρ γ)) (call : γ) (env : ι) (count steps : Nat)
    (rest : Prog Op ε ρ) (state : σ) :
    ∃ later, (machine run program).Run (fun _ _ => True)
      { shared := state, threads := front ++ { call, steps, rest } :: back }
      { shared := (ahead run env count rest state).1
        threads := front ++
          { call, steps := later, rest := (ahead run env count rest state).2 } :: back } := by
  induction count generalizing steps rest state with
  | zero => exact ⟨steps, Machine.Run.refl _⟩
  | succ count ih =>
      cases rest with
      | ret value => exact ⟨steps, Machine.Run.refl _⟩
      | fail failure => exact ⟨steps, Machine.Run.refl _⟩
      | call op next =>
          rcases ih (steps + 1) (next (run op env state).2) (run op env state).1 with ⟨later, runs⟩
          refine ⟨later, Relation.ReflTransGen.head ⟨.step front.length env, trivial, ?_⟩ runs⟩
          have found : (front ++ { call, steps, rest := .call op next } :: back)[front.length]? =
              some { call, steps, rest := .call op next } := by
            rw [List.getElem?_append_right (Nat.le_refl _), Nat.sub_self]
            rfl
          simp only [machine, found, Option.bind_some, Prog.advance, Option.map_some,
            List.set_append_right _ _ (Nat.le_refl _), Nat.sub_self, List.set_cons_zero]

/-- A call that starts may make its next operations before any other thread does. -/
theorem run_ahead (pool : Pool σ Op ε ρ γ) (call : γ) (env : ι) (count : Nat) :
    ∃ steps, (machine run program).Run (fun _ _ => True) pool
      { shared := (ahead run env count (program call) pool.shared).1
        threads := pool.threads ++
          [{ call, steps, rest := (ahead run env count (program call) pool.shared).2 }] } := by
  have turn : ∃ later, (machine run program).Run (fun _ _ => True) _ _ :=
    run_turn pool.threads [] call env count 0 (program call) pool.shared
  rcases turn with ⟨steps, runs⟩
  exact ⟨steps, Relation.ReflTransGen.head ⟨.start call, trivial, rfl⟩ runs⟩

theorem mem_set_of_ne {threads : List (Thread Op ε ρ γ)} {index : Nat}
    {thread moved other : Thread Op ε ρ γ} (found : threads[index]? = some thread)
    (member : other ∈ threads) (different : other ≠ thread) : other ∈ threads.set index moved := by
  obtain ⟨position, present⟩ := List.mem_iff_getElem?.mp member
  have apart : index ≠ position := by
    intro same
    rw [← same, found] at present
    exact different (Option.some.inj present).symm
  exact List.mem_iff_getElem?.mpr ⟨position, (List.getElem?_set_ne apart).trans present⟩

end Pool

end Lib
