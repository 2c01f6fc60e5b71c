import HashBurst.Lib.Prog

/-! Programs that obey a protocol: which operation comes next may depend on what the answers
so far have shown. -/

namespace Lib

/-- What a program may do with what it knows, and what an answer teaches it. -/
structure Protocol (Op : Type → Type) (κ : Type) where
  allowed : ∀ {β : Type}, κ → Op β → Prop
  learn : ∀ {β : Type}, κ → Op β → β → κ

namespace Prog

variable {Op : Type → Type} {ε α β : Type} {κ : Type} (protocol : Protocol Op κ)

/-- Whatever the answers are, every operation is allowed where it comes, and the end meets
`post`. -/
def Obeys (post : κ → Except ε α → Prop) : κ → Prog Op ε α → Prop
  | known, ret value => post known (.ok value)
  | known, fail failure => post known (.error failure)
  | known, call request next => protocol.allowed known request ∧
      ∀ answer, (next answer).Obeys post (protocol.learn known request answer)

variable {protocol} {post weaker : κ → Except ε α → Prop} {known : κ}

theorem obeys_mono {program : Prog Op ε α} (weaken : ∀ known result, post known result →
    weaker known result) (obeys : program.Obeys protocol post known) :
    program.Obeys protocol weaker known := by
  induction program generalizing known with
  | ret value => exact weaken _ _ obeys
  | fail failure => exact weaken _ _ obeys
  | call request next ih => exact ⟨obeys.1, fun answer => ih answer (obeys.2 answer)⟩

theorem obeys_ask {request : Op α} (allowed : protocol.allowed known request)
    (learned : ∀ answer, post (protocol.learn known request answer) (.ok answer)) :
    (ask request : Prog Op ε α).Obeys protocol post known :=
  ⟨allowed, learned⟩

theorem obeys_attempt {request : Op (Except ε α)} (allowed : protocol.allowed known request)
    (learned : ∀ answer, post (protocol.learn known request answer) answer) :
    (attempt request).Obeys protocol post known := by
  refine ⟨allowed, fun answer => ?_⟩
  cases answer with
  | ok value => exact learned (.ok value)
  | error failure => exact learned (.error failure)

theorem obeys_bind {first : Prog Op ε β} {rest : β → Prog Op ε α}
    (obeys : first.Obeys protocol (fun known result =>
      match result with
      | .ok value => (rest value).Obeys protocol post known
      | .error failure => post known (.error failure)) known) :
    (first >>= rest).Obeys protocol post known := by
  induction first generalizing known with
  | ret value => exact obeys
  | fail failure => exact obeys
  | call request next ih => exact ⟨obeys.1, fun answer => ih answer (obeys.2 answer)⟩

theorem obeys_handle {body : Prog Op ε α} {rescue : ε → Prog Op ε α}
    (obeys : body.Obeys protocol (fun known result =>
      match result with
      | .ok value => post known (.ok value)
      | .error failure => (rescue failure).Obeys protocol post known) known) :
    (body.handle rescue).Obeys protocol post known := by
  induction body generalizing known with
  | ret value => exact obeys
  | fail failure => exact obeys
  | call request next ih => exact ⟨obeys.1, fun answer => ih answer (obeys.2 answer)⟩

theorem obeys_ask_bind {request : Op β} {rest : β → Prog Op ε α}
    (allowed : protocol.allowed known request)
    (later : ∀ answer, (rest answer).Obeys protocol post (protocol.learn known request answer)) :
    (ask request >>= rest).Obeys protocol post known :=
  ⟨allowed, later⟩

/-- A loop whose rounds all keep what the next one needs to know. -/
theorem obeys_forEach {item : Type} {body : item → Prog Op ε Unit} {items : List item}
    (Keeps : κ → Prop) (each : ∀ entry ∈ items, ∀ known, Keeps known →
      (body entry).Obeys protocol (fun after _ => Keeps after) known) (start : Keeps known) :
    (forEach body items).Obeys protocol (fun after _ => Keeps after) known := by
  induction items generalizing known with
  | nil => exact start
  | cons head tail ih =>
      refine obeys_bind (obeys_mono (fun after result kept => ?_)
        (each head List.mem_cons_self known start))
      cases result with
      | ok value => exact ih (fun entry member => each entry (List.mem_cons_of_mem head member)) kept
      | error failure => exact kept

variable (protocol) in
/-- Whatever it knows at first, the program obeys. -/
def Follows (program : Prog Op ε α) : Prop :=
  ∀ known, program.Obeys protocol (fun _ _ => True) known

theorem follows_ret (value : α) : (ret value : Prog Op ε α).Follows protocol :=
  fun _ => trivial

theorem follows_ask {request : Op α} (allowed : ∀ known, protocol.allowed known request) :
    (ask request : Prog Op ε α).Follows protocol :=
  fun known => obeys_ask (allowed known) fun _ => trivial

theorem follows_attempt {request : Op (Except ε α)}
    (allowed : ∀ known, protocol.allowed known request) :
    (attempt request).Follows protocol :=
  fun known => obeys_attempt (allowed known) fun _ => trivial

/-- A program that ends anyhow, before one that obeys whatever it knows. -/
theorem obeys_bind_follows {first : Prog Op ε β} {rest : β → Prog Op ε α}
    (front : first.Obeys protocol (fun _ _ => True) known)
    (back : ∀ value, (rest value).Follows protocol) :
    (first >>= rest).Obeys protocol (fun _ _ => True) known := by
  apply obeys_bind
  refine obeys_mono (fun known result _ => ?_) front
  cases result with
  | ok value => exact back value known
  | error failure => trivial

theorem follows_bind {first : Prog Op ε β} {rest : β → Prog Op ε α}
    (front : first.Follows protocol) (back : ∀ value, (rest value).Follows protocol) :
    (first >>= rest).Follows protocol :=
  fun known => obeys_bind_follows (front known) back

theorem follows_handle {body : Prog Op ε α} {rescue : ε → Prog Op ε α}
    (front : body.Follows protocol) (back : ∀ failure, (rescue failure).Follows protocol) :
    (body.handle rescue).Follows protocol := by
  intro known
  apply obeys_handle
  refine obeys_mono (fun known result _ => ?_) (front known)
  cases result with
  | ok value => trivial
  | error failure => exact back failure known

end Prog

end Lib
