import Mathlib.Data.List.Forall2
import HashBurst.Lib.Protocol
import HashBurst.Lib.Threads

/-! Pools whose threads each follow the protocol of their call, where what all of them know
together fits the shared object: who holds a permit, or who waits for an answer. -/

namespace Lib

variable {σ ι κ : Type} {Op : Type → Type} {ε ρ γ : Type}

/-- The body, and then the last operation, whether the body has raised or not. -/
def Prog.ensuring {α : Type} (body : Prog Op ε α) (last : Op Unit) : Prog Op ε α :=
  (body.handle fun failure => .call last fun _ => .fail failure) >>= fun value =>
    .call last fun _ => .ret value

/-- Each thread obeys with what it knows, and all that they know fits the shared object. -/
structure Pool.Joint (protocol : γ → Protocol Op κ) (post : γ → κ → Except ε ρ → Prop)
    (Fits : σ → List κ → Prop) (pool : Pool σ Op ε ρ γ) (knowns : List κ) : Prop where
  fits : Fits pool.shared knowns
  obeys : List.Forall₂
    (fun thread known => thread.rest.Obeys (protocol thread.call) (post thread.call) known)
    pool.threads knowns

/-- Every access that is allowed to a thread leaves an object that fits, with what the thread
learns from it. -/
def Protocol.Keeps (protocol : Protocol Op κ) (run : ∀ {β : Type}, Op β → ι → σ → σ × β)
    (Fits : σ → List κ → Prop) : Prop :=
  ∀ {β : Type} (op : Op β) (env : ι) (state : σ) (front back : List κ) (known : κ),
    Fits state (front ++ known :: back) → protocol.allowed known op →
      Fits (run op env state).1 (front ++ protocol.learn known op (run op env state).2 :: back)

theorem forall₂_set {α β : Type*} {Related : α → β → Prop} {items : List α} {others : List β}
    (related : List.Forall₂ Related items others) {index : Nat} {item : α}
    (found : items[index]? = some item) :
    ∃ front other back, others = front ++ other :: back ∧ Related item other ∧
      ∀ moved learned, Related moved learned →
        List.Forall₂ Related (items.set index moved) (front ++ learned :: back) := by
  induction related generalizing index with
  | nil => simp at found
  | cons head tail ih =>
      cases index with
      | zero =>
          simp only [List.getElem?_cons_zero, Option.some.injEq] at found
          rw [← found]
          exact ⟨[], _, _, rfl, head, fun moved learned first => .cons first tail⟩
      | succ index =>
          rcases ih found with ⟨front, other, back, shape, own, rest⟩
          refine ⟨_ :: front, other, back, by rw [shape, List.cons_append], own, ?_⟩
          intro moved learned first
          exact .cons head (rest moved learned first)

/-- What is seen of the items, with what is seen of one of them first. -/
theorem filterMap_split {α β : Type*} (look : α → Option β) (front back : List α) (item : α) :
    ((front ++ item :: back).filterMap look).Perm
      ((look item).toList ++ (front ++ back).filterMap look) := by
  have own : (item :: back).filterMap look = (look item).toList ++ back.filterMap look := by
    cases seen : look item with
    | none => rw [List.filterMap_cons_none seen, Option.toList_none, List.nil_append]
    | some value => rw [List.filterMap_cons_some seen, Option.toList_some, List.singleton_append]
  rw [List.filterMap_append, List.filterMap_append, own, ← List.append_assoc, ← List.append_assoc]
  exact List.perm_append_comm.append_right _

section Joint

variable {run : ∀ {β : Type}, Op β → ι → σ → σ × β} {program : γ → Prog Op ε ρ}
  {protocol : γ → Protocol Op κ} {post : γ → κ → Except ε ρ → Prop} {Fits : σ → List κ → Prop}
  {pool after : Pool σ Op ε ρ γ} {knowns : List κ}

theorem Prog.obeys_ensuring {α : Type} {own : Protocol Op κ} {body : Prog Op ε α} {last : Op Unit}
    {ends : κ → Except ε α → Prop} {known : κ}
    (obeys : body.Obeys own (fun known result => own.allowed known last ∧
      ends (own.learn known last ()) result) known) :
    (body.ensuring last).Obeys own ends known := by
  apply obeys_bind
  apply obeys_handle
  apply obeys_mono _ obeys
  intro middle result closes
  cases result with
  | ok value => exact ⟨closes.1, fun _ => closes.2⟩
  | error failure => exact ⟨closes.1, fun _ => closes.2⟩

theorem Pool.Joint.start (joint : pool.Joint protocol post Fits knowns) {call : γ} {known : κ}
    (obeys : (program call).Obeys (protocol call) (post call) known)
    (fits : Fits pool.shared (knowns ++ [known]))
    (taken : (Pool.machine run program).next pool (.start call) = some after) :
    after.Joint protocol post Fits (knowns ++ [known]) := by
  rw [Pool.start_cases taken]
  exact ⟨fits, List.rel_append joint.obeys (.cons obeys .nil)⟩

theorem Pool.Joint.step (keeps : ∀ call, (protocol call).Keeps run Fits)
    (joint : pool.Joint protocol post Fits knowns) {index : Nat} {env : ι}
    (taken : (Pool.machine run program).next pool (.step index env) = some after) :
    ∃ learned, after.Joint protocol post Fits learned := by
  rcases Pool.step_cases taken with ⟨thread, shared, rest, found, advanced, rfl⟩
  rcases forall₂_set joint.obeys found with ⟨front, known, back, shape, obeys, others⟩
  have fits := joint.fits
  rw [shape] at fits
  cases program : thread.rest with
  | ret value =>
      rw [program] at advanced
      cases advanced
  | fail failure =>
      rw [program] at advanced
      cases advanced
  | call op next =>
      rw [program] at advanced obeys
      cases advanced
      have own := obeys.2 (run op env pool.shared).2
      exact ⟨_, keeps thread.call op env pool.shared front back known fits obeys.1, others _ _ own⟩

/-- In every run whose calls start with a knowledge that fits, the threads fit. -/
theorem Pool.Joint.runs {admits : γ → Prop} (keeps : ∀ call, (protocol call).Keeps run Fits)
    (admitted : ∀ call, admits call → ∃ known,
      (program call).Obeys (protocol call) (post call) known ∧
        ∀ state knowns, Fits state knowns → Fits state (knowns ++ [known]))
    (moved : (Pool.machine run program).Run
      (fun _ label => ∀ call, label = .start call → admits call) pool after)
    (joint : ∃ knowns, pool.Joint protocol post Fits knowns) :
    ∃ knowns, after.Joint protocol post Fits knowns := by
  apply Machine.Run.invariant (fun pool => ∃ knowns, pool.Joint protocol post Fits knowns) _ moved
    joint
  intro before label next start met taken
  rcases start with ⟨knowns, start⟩
  cases label with
  | start call =>
      rcases admitted call (met call rfl) with ⟨known, obeys, fits⟩
      exact ⟨_, start.start obeys (fits _ _ start.fits) taken⟩
  | step index env => exact start.step keeps taken

end Joint

end Lib
