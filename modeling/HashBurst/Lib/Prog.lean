import Mathlib.Tactic.TypeStar

/-! Programs over a shared object whose operations each run atomically.

A program is the sequence of operations a caller makes, each chosen from the answers
to the earlier ones; it ends with a value or with an exception. It has two readings: run
alone (`exec`), or one operation at a time with anything in between (`advance`). -/

namespace Lib

inductive Prog (Op : Type → Type) (ε α : Type) : Type 1
  | ret (value : α)
  | fail (failure : ε)
  | call {β : Type} (op : Op β) (next : β → Prog Op ε α)

namespace Prog

variable {Op : Type → Type} {ε α β γ σ ι item : Type}

protected def bind : Prog Op ε α → (α → Prog Op ε β) → Prog Op ε β
  | ret value, rest => rest value
  | fail failure, _ => fail failure
  | call op next, rest => call op fun answer => (next answer).bind rest

instance : Monad (Prog Op ε) where
  pure := ret
  bind := Prog.bind

def ask (request : Op β) : Prog Op ε β := call request ret

def ofExcept : Except ε α → Prog Op ε α
  | .ok value => ret value
  | .error failure => fail failure

/-- An operation whose exceptions the program passes on. -/
def attempt (request : Op (Except ε β)) : Prog Op ε β := call request ofExcept

@[simp] theorem pure_eq (value : α) : (pure value : Prog Op ε α) = ret value := rfl

@[simp] theorem ret_bind (value : α) (rest : α → Prog Op ε β) :
    (ret value : Prog Op ε α) >>= rest = rest value := rfl

@[simp] theorem fail_bind (failure : ε) (rest : α → Prog Op ε β) :
    (fail failure : Prog Op ε α) >>= rest = fail failure := rfl

@[simp] theorem call_bind (request : Op γ) (next : γ → Prog Op ε α) (rest : α → Prog Op ε β) :
    call request next >>= rest = call request fun answer => next answer >>= rest := rfl

@[simp] theorem ask_bind (request : Op γ) (rest : γ → Prog Op ε β) :
    ask request >>= rest = call request rest := rfl

@[simp] theorem attempt_bind (request : Op (Except ε γ)) (rest : γ → Prog Op ε β) :
    attempt request >>= rest = call request fun answer => ofExcept answer >>= rest := rfl

def handle : Prog Op ε α → (ε → Prog Op ε α) → Prog Op ε α
  | ret value, _ => ret value
  | fail failure, rescue => rescue failure
  | call request next, rescue => call request fun answer => (next answer).handle rescue

def forEach (body : item → Prog Op ε Unit) : List item → Prog Op ε Unit
  | [] => ret ()
  | head :: tail => (body head).bind fun _ => forEach body tail

variable (run : ∀ {β : Type}, Op β → ι → σ → σ × β)

/-- The program run alone: every operation sees the environment `env`. -/
def exec (env : ι) : Prog Op ε α → σ → σ × Except ε α
  | ret value, state => (state, .ok value)
  | fail failure, state => (state, .error failure)
  | call request next, state =>
      (next (run request env state).2).exec env (run request env state).1

/-- One operation of the program, the rest of it left to run. -/
def advance (env : ι) : Prog Op ε α → σ → Option (σ × Prog Op ε α)
  | ret _, _ => none
  | fail _, _ => none
  | call request next, state =>
      some ((run request env state).1, next (run request env state).2)

@[simp] theorem exec_ret (env : ι) (value : α) (state : σ) :
    (ret value : Prog Op ε α).exec run env state = (state, .ok value) := rfl

@[simp] theorem exec_fail (env : ι) (failure : ε) (state : σ) :
    (fail failure : Prog Op ε α).exec run env state = (state, .error failure) := rfl

@[simp] theorem exec_call (env : ι) (request : Op β) (next : β → Prog Op ε α) (state : σ) :
    (call request next).exec run env state =
      (next (run request env state).2).exec run env (run request env state).1 := rfl

@[simp] theorem exec_ask (env : ι) (request : Op β) (state : σ) :
    (ask request : Prog Op ε β).exec run env state =
      ((run request env state).1, .ok (run request env state).2) := rfl

@[simp] theorem exec_ofExcept (env : ι) (answer : Except ε α) (state : σ) :
    (ofExcept answer : Prog Op ε α).exec run env state = (state, answer) := by
  cases answer <;> rfl

@[simp] theorem exec_attempt (env : ι) (request : Op (Except ε β)) (state : σ) :
    (attempt request).exec run env state = run request env state := by
  simp [attempt]

theorem exec_bind (env : ι) (first : Prog Op ε α) (rest : α → Prog Op ε β) (state : σ) :
    (first >>= rest).exec run env state =
      match first.exec run env state with
      | (after, .ok value) => (rest value).exec run env after
      | (after, .error failure) => (after, .error failure) := by
  induction first generalizing state with
  | ret value => rfl
  | fail failure => rfl
  | call request next ih => exact ih _ _

theorem exec_bind_ok {env : ι} {first : Prog Op ε α} {rest : α → Prog Op ε β} {state after : σ}
    {value : α} (done : first.exec run env state = (after, .ok value)) :
    (first >>= rest).exec run env state = (rest value).exec run env after := by
  rw [exec_bind, done]

theorem exec_bind_eq_ok {env : ι} {first : Prog Op ε α} {rest : α → Prog Op ε β} {state after : σ}
    {result : β} : (first >>= rest).exec run env state = (after, .ok result) ↔
      ∃ middle value, first.exec run env state = (middle, .ok value) ∧
        (rest value).exec run env middle = (after, .ok result) := by
  rw [exec_bind]
  rcases first.exec run env state with ⟨middle, failure | value⟩
  · simp
  · constructor
    · intro done
      exact ⟨middle, value, rfl, done⟩
    · rintro ⟨_, _, ⟨⟩, done⟩
      exact done

theorem exec_handle (env : ι) (program : Prog Op ε α) (rescue : ε → Prog Op ε α) (state : σ) :
    (program.handle rescue).exec run env state =
      match program.exec run env state with
      | (after, .ok value) => (after, .ok value)
      | (after, .error failure) => (rescue failure).exec run env after := by
  induction program generalizing state with
  | ret value => rfl
  | fail failure => rfl
  | call request next ih => exact ih _ _

theorem exec_handle_bind (env : ι) (first : Prog Op ε α) (rest : α → Prog Op ε β)
    (rescue : ε → Prog Op ε β) (state : σ) :
    ((first >>= rest).handle rescue).exec run env state =
      match first.exec run env state with
      | (after, .ok value) => ((rest value).handle rescue).exec run env after
      | (after, .error failure) => (rescue failure).exec run env after := by
  rw [exec_handle, exec_bind]
  rcases first.exec run env state with ⟨after, failure | value⟩
  · rfl
  · exact (exec_handle run env (rest value) rescue after).symm

@[simp] theorem exec_forEach_nil (env : ι) (body : item → Prog Op ε Unit) (state : σ) :
    (forEach body []).exec run env state = (state, .ok ()) := rfl

theorem exec_forEach_cons (env : ι) (body : item → Prog Op ε Unit) (head : item)
    (tail : List item) (state : σ) :
    (forEach body (head :: tail)).exec run env state =
      match (body head).exec run env state with
      | (after, .ok _) => (forEach body tail).exec run env after
      | (after, .error failure) => (after, .error failure) := by
  change (body head >>= fun _ => forEach body tail).exec run env state = _
  rw [exec_bind]
  rcases (body head).exec run env state with ⟨after, failure | value⟩ <;> rfl

/-- A loop whose rounds all succeed under an invariant is a fold. -/
theorem exec_forEach_ok {run} (Keeps : σ → Prop) (next : σ → item → σ) (env : ι)
    (body : item → Prog Op ε Unit) (items : List item)
    (each : ∀ entry ∈ items, ∀ state, Keeps state →
      (body entry).exec run env state = (next state entry, .ok ()) ∧ Keeps (next state entry))
    (state : σ) (start : Keeps state) :
    (forEach body items).exec run env state = (items.foldl next state, .ok ()) ∧
      Keeps (items.foldl next state) := by
  induction items generalizing state with
  | nil => exact ⟨rfl, start⟩
  | cons head tail ih =>
      obtain ⟨first, kept⟩ := each head List.mem_cons_self state start
      rw [exec_forEach_cons, first]
      exact ih (fun entry member => each entry (List.mem_cons_of_mem head member)) _ kept

/-- The state before the first operation of a kind, or at the end of a program that makes none. -/
def upTo (stops : ∀ {β : Type}, Op β → Bool) (env : ι) : Prog Op ε α → σ → σ
  | ret _, state => state
  | fail _, state => state
  | call request next, state =>
      if stops request then state
      else (next (run request env state).2).upTo stops env (run request env state).1

/-- Every operation the program can still make satisfies `Allowed`. -/
def All (Allowed : ∀ {β : Type}, Op β → Prop) : Prog Op ε α → Prop
  | ret _ => True
  | fail _ => True
  | call request next => Allowed request ∧ ∀ answer, (next answer).All Allowed

section All

variable {Allowed : ∀ {β : Type}, Op β → Prop}

@[simp] theorem all_ret (value : α) : (ret value : Prog Op ε α).All Allowed := trivial

@[simp] theorem all_fail (failure : ε) : (fail failure : Prog Op ε α).All Allowed := trivial

theorem all_call {request : Op β} {next : β → Prog Op ε α} (first : Allowed request)
    (later : ∀ answer, (next answer).All Allowed) : (call request next).All Allowed :=
  ⟨first, later⟩

theorem all_ofExcept (answer : Except ε α) : (ofExcept answer : Prog Op ε α).All Allowed := by
  cases answer <;> trivial

theorem all_bind {first : Prog Op ε α} {rest : α → Prog Op ε β} (front : first.All Allowed)
    (back : ∀ value, (rest value).All Allowed) : (first >>= rest).All Allowed := by
  induction first with
  | ret value => exact back value
  | fail failure => trivial
  | call request next ih => exact ⟨front.1, fun answer => ih answer (front.2 answer)⟩

theorem all_forEach {body : item → Prog Op ε Unit} {items : List item}
    (each : ∀ entry ∈ items, (body entry).All Allowed) : (forEach body items).All Allowed := by
  induction items with
  | nil => trivial
  | cons head tail ih =>
      exact all_bind (each head List.mem_cons_self)
        fun _ => ih fun entry member => each entry (List.mem_cons_of_mem head member)

theorem all_mono {Weaker : ∀ {β : Type}, Op β → Prop} {program : Prog Op ε α}
    (weaken : ∀ {β : Type} (request : Op β), Allowed request → Weaker request)
    (allowed : program.All Allowed) : program.All Weaker := by
  induction program with
  | ret value => trivial
  | fail failure => trivial
  | call request next ih =>
      exact ⟨weaken request allowed.1, fun answer => ih answer (allowed.2 answer)⟩

variable {run}

theorem exec_invariant (Keeps : σ → Prop) (env : ι)
    (preserved : ∀ {β : Type} (request : Op β) (state : σ), Allowed request → Keeps state →
      Keeps (run request env state).1)
    (program : Prog Op ε α) (allowed : program.All Allowed) (state : σ) (start : Keeps state) :
    Keeps (program.exec run env state).1 := by
  induction program generalizing state with
  | ret value => exact start
  | fail failure => exact start
  | call request next ih =>
      exact ih _ (allowed.2 _) _ (preserved request state allowed.1 start)

theorem upTo_handle_bind {stops : ∀ {β : Type}, Op β → Bool} {env : ι} {first : Prog Op ε α}
    {rest : α → Prog Op ε β} {rescue : ε → Prog Op ε β} {state after : σ} {value : α}
    (free : first.All fun op => stops op = false)
    (done : first.exec run env state = (after, .ok value)) :
    ((first >>= rest).handle rescue).upTo run stops env state =
      ((rest value).handle rescue).upTo run stops env after := by
  induction first generalizing state with
  | ret value =>
      cases done
      rfl
  | fail failure => cases done
  | call request next ih =>
      change (if stops request then state else _) = _
      rw [if_neg (by simp [free.1])]
      exact ih _ (free.2 _) done

end All

end Prog

end Lib
