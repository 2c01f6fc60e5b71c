import HashBurst.Lib.Protocol
import HashBurst.Lib.Threads

/-! Pools whose threads follow a protocol: what a thread has learned stays true while the
others step. And pools that keep a ledger of their accesses beside the shared object. -/

namespace Lib

variable {σ ι κ item : Type} {Op : Type → Type} {ε ρ γ : Type}

namespace Pool

/-- The next access meets `meets`; a call that starts is admitted. -/
def guard (meets : ∀ {β : Type}, σ → ι → Op β → Bool) (admits : γ → Bool)
    (pool : Pool σ Op ε ρ γ) : Label γ ι → Bool
  | .start call => admits call
  | .step index env => (pool.threads[index]?).all fun thread =>
      match thread.rest with
      | .call op _ => meets pool.shared env op
      | _ => true

theorem guard_free (pool : Pool σ Op ε ρ γ) (label : Label γ ι) :
    pool.guard (fun _ _ _ => true) (fun _ => true) label = true := by
  cases label with
  | start call => rfl
  | step index env =>
      simp only [guard]
      cases pool.threads[index]? with
      | none => rfl
      | some thread =>
          rw [Option.all_some]
          split <;> rfl

/-- The run of an access beside a ledger that `note` keeps of the accesses. -/
def noting (run : ∀ {β : Type}, Op β → ι → σ → σ × β)
    (note : ∀ {β : Type}, Op β → ι → σ → item → item) {β : Type} (op : Op β) (env : ι)
    (state : σ × item) : (σ × item) × β :=
  (((run op env state.1).1, note op env state.1 state.2), (run op env state.1).2)

end Pool

/-- Every access keeps `Holds`, teaches its own thread the truth, and leaves true what the other
threads know. -/
structure Protocol.Sound (protocol : Protocol Op κ) (run : ∀ {β : Type}, Op β → ι → σ → σ × β)
    (meets : ∀ {β : Type}, σ → ι → Op β → Bool) (Holds : σ → Prop) (Knows : σ → κ → Prop) :
    Prop where
  keeps : ∀ {β : Type} (op : Op β) (env : ι) (state : σ) (known : κ), meets state env op = true →
    Holds state → Knows state known → protocol.allowed known op → Holds (run op env state).1
  learns : ∀ {β : Type} (op : Op β) (env : ι) (state : σ) (known : κ), meets state env op = true →
    Holds state → Knows state known → protocol.allowed known op →
      Knows (run op env state).1 (protocol.learn known op (run op env state).2)
  stable : ∀ {β : Type} (op : Op β) (env : ι) (state : σ) (known other : κ),
    meets state env op = true → Holds state → Knows state known → protocol.allowed known op →
      Knows state other → Knows (run op env state).1 other

/-- The shared object is as it should be, and every thread obeys with what it knows. -/
structure Pool.Informed (protocol : Protocol Op κ) (Holds : σ → Prop) (Knows : σ → κ → Prop)
    (pool : Pool σ Op ε ρ γ) : Prop where
  holds : Holds pool.shared
  obeys : ∀ thread ∈ pool.threads, ∃ known, Knows pool.shared known ∧
    thread.rest.Obeys protocol (fun _ _ => True) known

namespace Protocol.Sound

variable {protocol : Protocol Op κ} {run : ∀ {β : Type}, Op β → ι → σ → σ × β}
  {meets : ∀ {β : Type}, σ → ι → Op β → Bool} {admits : γ → Bool} {Holds : σ → Prop}
  {Knows : σ → κ → Prop} {program : γ → Prog Op ε ρ} {pool after : Pool σ Op ε ρ γ}

theorem access_informed (sound : protocol.Sound run meets Holds Knows) {β : Type} (op : Op β)
    (env : ι) {known : κ} (informed : pool.Informed protocol Holds Knows)
    (met : meets pool.shared env op = true) (knows : Knows pool.shared known)
    (allowed : protocol.allowed known op) :
    Pool.Informed protocol Holds Knows { pool with shared := (run op env pool.shared).1 } := by
  refine ⟨sound.keeps op env _ known met informed.holds knows allowed, fun thread member => ?_⟩
  obtain ⟨kept, true_of, follows⟩ := informed.obeys thread member
  exact ⟨kept, sound.stable op env _ known kept met informed.holds knows allowed true_of, follows⟩

theorem step_informed (sound : protocol.Sound run meets Holds Knows) {index : Nat} {env : ι}
    (informed : pool.Informed protocol Holds Knows)
    (met : pool.guard meets admits (.step index env) = true)
    (taken : (Pool.machine run program).next pool (.step index env) = some after) :
    after.Informed protocol Holds Knows := by
  obtain ⟨thread, shared, rest, found, advanced, rfl⟩ := Pool.step_cases taken
  obtain ⟨known, knows, obeys⟩ := informed.obeys thread (List.mem_of_getElem? found)
  have meeting : (match thread.rest with
      | .call op _ => meets pool.shared env op
      | _ => true) = true := by
    simpa only [Pool.guard, found, Option.all_some] using met
  cases program : thread.rest with
  | ret value =>
      rw [program] at advanced
      cases advanced
  | fail failure =>
      rw [program] at advanced
      cases advanced
  | call op next =>
      rw [program] at advanced obeys meeting
      cases advanced
      have others := sound.access_informed op env informed meeting knows obeys.1
      refine ⟨others.holds, fun other member => ?_⟩
      rcases List.mem_or_eq_of_mem_set member with old | rfl
      · exact others.obeys other old
      · exact ⟨_, sound.learns op env _ known meeting informed.holds knows obeys.1, obeys.2 _⟩

theorem start_informed {call : γ} (admitted : ∀ call, admits call = true → ∃ known,
      (∀ state, Holds state → Knows state known) ∧
        (program call).Obeys protocol (fun _ _ => True) known)
    (informed : pool.Informed protocol Holds Knows) (met : admits call = true)
    (taken : (Pool.machine run program).next pool (.start call) = some after) :
    after.Informed protocol Holds Knows := by
  rw [Pool.start_cases taken]
  refine ⟨informed.holds, ?_⟩
  intro thread member
  rcases List.mem_append.mp member with old | new
  · exact informed.obeys thread old
  · rw [List.mem_singleton.mp new]
    obtain ⟨known, knows, obeys⟩ := admitted call met
    exact ⟨known, knows pool.shared informed.holds, obeys⟩

/-- In every run whose accesses meet `meets`, `Holds` is an invariant. -/
theorem run_informed (sound : protocol.Sound run meets Holds Knows)
    (admitted : ∀ call, admits call = true → ∃ known,
      (∀ state, Holds state → Knows state known) ∧
        (program call).Obeys protocol (fun _ _ => True) known)
    (start : pool.Informed protocol Holds Knows)
    (moved : (Pool.machine run program).Run
      (fun pool label => pool.guard meets admits label = true) pool after) :
    after.Informed protocol Holds Knows := by
  refine Machine.Run.invariant (Pool.Informed protocol Holds Knows) ?_ moved start
  intro before label next informed met taken
  cases label with
  | start call => exact start_informed admitted informed met taken
  | step index env => exact sound.step_informed informed met taken

end Protocol.Sound

/-- The protocol that allows everything and teaches nothing: an invariant needs no knowledge. -/
def Protocol.free : Protocol Op Unit where
  allowed _ _ := True
  learn _ _ _ := ()

theorem Prog.obeys_free {α : Type} (program : Prog Op ε α) :
    program.Obeys Protocol.free (fun _ _ => True) () := by
  induction program with
  | ret value => trivial
  | fail failure => trivial
  | call request next ih => exact ⟨trivial, ih⟩

theorem Prog.follows_of_all {α : Type} {protocol : Protocol Op κ} {program : Prog Op ε α}
    {Allowed : ∀ {β : Type}, Op β → Prop} (all : program.All Allowed)
    (always : ∀ {β : Type} (op : Op β) (known : κ), Allowed op → protocol.allowed known op) :
    program.Follows protocol := by
  induction program with
  | ret value => exact fun _ => trivial
  | fail failure => exact fun _ => trivial
  | call request next ih =>
      exact fun known => ⟨always request known all.1, fun answer => ih answer (all.2 answer) _⟩

/-- What every access keeps, a run keeps. -/
theorem Pool.run_invariant {run : ∀ {β : Type}, Op β → ι → σ → σ × β}
    {meets : ∀ {β : Type}, σ → ι → Op β → Bool} {admits : γ → Bool} {program : γ → Prog Op ε ρ}
    {pool after : Pool σ Op ε ρ γ} (Holds : σ → Prop)
    (keeps : ∀ {β : Type} (op : Op β) (env : ι) (state : σ), meets state env op = true →
      Holds state → Holds (run op env state).1)
    (start : Holds pool.shared)
    (moved : (Pool.machine run program).Run
      (fun pool label => pool.guard meets admits label = true) pool after) :
    Holds after.shared := by
  have sound : Protocol.free.Sound run meets Holds fun _ _ => True :=
    { keeps := fun op env state _ met holds _ _ => keeps op env state met holds
      learns := fun _ _ _ _ _ _ _ _ => trivial
      stable := fun _ _ _ _ _ _ _ _ _ _ => trivial }
  refine (sound.run_informed (fun call _ => ⟨(), fun _ _ => trivial, Prog.obeys_free _⟩) ?_
    moved).holds
  exact ⟨start, fun thread _ => ⟨(), trivial, Prog.obeys_free thread.rest⟩⟩

end Lib
