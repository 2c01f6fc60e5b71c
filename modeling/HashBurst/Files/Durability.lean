import HashBurst.Files.Keystore

namespace HashBurst.Files

open Lib

def World.Backed (world : World) (rk : Wrap) : Prop :=
  ∃ keystore ∈ world.stored, keystore.rk = rk

def World.Holds (world : World) (dataKey : DataKey) : Prop :=
  ∃ keystore ∈ world.stored, keystore.rk.dataKey = dataKey

/-- Each uploaded file can be opened with the recovery key that was issued with its data key. -/
def Durable (world : World) : Prop :=
  ∀ dataKey ∈ world.uploaded, ∃ issue ∈ world.issued.find? dataKey,
    world.Backed ⟨issue.recoveryKey, dataKey⟩

instance (world : World) (rk : Wrap) : Decidable (world.Backed rk) :=
  inferInstanceAs (Decidable (∃ _ ∈ _, _))

instance (world : World) : Decidable (Durable world) :=
  inferInstanceAs (Decidable (∀ dataKey ∈ world.uploaded, ∃ _ ∈ _, _))

/-- Both parts wrap one data key, the second under the recovery key issued with it. -/
def Keystore.Sound (issued : Table Issue.dataKey) (keystore : Keystore) : Prop :=
  keystore.pw.dataKey = keystore.rk.dataKey ∧
    ∃ issue ∈ issued.find? keystore.rk.dataKey, issue.recoveryKey = keystore.rk.passphrase

def Task.Sound (world : World) : Task → Prop
  | .firstSetup keystore _ => keystore.Sound world.issued
  | .rewrapped keystore => keystore.Sound world.issued ∧ world.Backed keystore.rk
  | .upload dataKey => world.Holds dataKey
  | _ => True

def Answer.Sound (world : World) : Task → Answer → Prop
  | _, .keystore (some found) => found.Sound world.issued ∧ world.Backed found.rk
  | .firstSetup made _, .saved => world.Backed made.rk
  | _, _ => True

structure Waiting.Sound (world : World) (waiting : Waiting) : Prop where
  task : waiting.task.Sound world
  answer : ∀ answer ∈ waiting.answer, Answer.Sound world waiting.task answer

structure Page.Sound (world : World) (page : Page) : Prop where
  dataKey : ∀ dataKey ∈ page.dataKey, world.Holds dataKey
  waiting : ∀ waiting ∈ page.waiting, waiting.Sound world

structure Coherent (world : World) : Prop where
  stored : ∀ keystore ∈ world.stored, keystore.Sound world.issued
  pages : ∀ id, (world.pages id).Sound world
  late : ∀ task ∈ world.late, task.Sound world
  uploaded : ∀ dataKey ∈ world.uploaded, world.Holds dataKey

/-- The later world has the wrapping that is stored, and all recovery keys that were issued. -/
structure World.Grows (before after : World) : Prop where
  backed : ∀ rk, before.Backed rk → after.Backed rk
  issued : ∀ dataKey issue, before.issued.find? dataKey = some issue →
    after.issued.find? dataKey = some issue

section Growth

variable {before after world : World} {keystore : Keystore} {task : Task} {answer : Answer}
  {waiting : Waiting} {page : Page} {dataKey : DataKey}

theorem World.Grows.refl (world : World) : world.Grows world where
  backed _ backed := backed
  issued _ _ found := found

theorem World.Grows.of_eq (stored : after.stored = before.stored)
    (issued : after.issued = before.issued) : before.Grows after where
  backed rk backed := by
    unfold World.Backed
    rw [stored]
    exact backed
  issued dataKey issue found := by rw [issued, found]

theorem World.Grows.holds (grows : before.Grows after) (holds : before.Holds dataKey) :
    after.Holds dataKey := by
  obtain ⟨keystore, stored, same⟩ := holds
  obtain ⟨later, kept, rk⟩ := grows.backed keystore.rk ⟨keystore, stored, rfl⟩
  exact ⟨later, kept, rk ▸ same⟩

theorem Keystore.Sound.grow (grows : before.Grows after) (sound : keystore.Sound before.issued) :
    keystore.Sound after.issued := by
  obtain ⟨same, issue, found, recovery⟩ := sound
  exact ⟨same, issue, grows.issued _ _ found, recovery⟩

theorem Task.Sound.grow (grows : before.Grows after) (sound : task.Sound before) :
    task.Sound after := by
  cases task with
  | firstSetup keystore password => exact Keystore.Sound.grow grows sound
  | rewrapped keystore => exact ⟨Keystore.Sound.grow grows sound.1, grows.backed _ sound.2⟩
  | upload dataKey => exact grows.holds sound
  | _ => trivial

theorem Answer.Sound.grow (grows : before.Grows after) (sound : Answer.Sound before task answer) :
    Answer.Sound after task answer := by
  cases answer with
  | keystore found =>
      cases found with
      | none => cases task <;> trivial
      | some found =>
          have fits : found.Sound before.issued ∧ before.Backed found.rk := by
            cases task <;> exact sound
          have still : found.Sound after.issued ∧ after.Backed found.rk :=
            ⟨fits.1.grow grows, grows.backed _ fits.2⟩
          cases task <;> exact still
  | saved =>
      cases task with
      | firstSetup made password => exact grows.backed made.rk sound
      | _ => trivial
  | _ => cases task <;> trivial

theorem Waiting.Sound.grow (grows : before.Grows after) (sound : waiting.Sound before) :
    waiting.Sound after where
  task := sound.task.grow grows
  answer answer given := (sound.answer answer given).grow grows

theorem Page.Sound.grow (grows : before.Grows after) (sound : page.Sound before) :
    page.Sound after where
  dataKey dataKey open_ := grows.holds (sound.dataKey dataKey open_)
  waiting waiting member := (sound.waiting waiting member).grow grows

end Growth

section Server

variable {world : World} {task : Task} {serving : Serving}

/-- A first setup is saved where no keystore is stored yet. -/
def FirstSetup (world : World) (task : Task) (serving : Serving) : Prop :=
  match task with
  | .firstSetup _ _ => serving ≠ .refused → world.stored = none
  | _ => True

private theorem save_grows (keystore : Keystore)
    (kept : ∀ old ∈ world.stored, old.rk = keystore.rk) :
    world.Grows { world with stored := some keystore } where
  backed rk backed := by
    obtain ⟨old, stored, same⟩ := backed
    exact ⟨keystore, rfl, (kept old stored).symm.trans same⟩
  issued _ _ found := found

theorem handle_cases (world : World) (task : Task) (serving : Serving) :
    (world.handle task serving).1 = world ∨
    (serving ≠ .refused ∧ ∃ keystore, (world.handle task serving).1 =
        { world with stored := some keystore } ∧
      ((∃ password, task = .firstSetup keystore password) ∨ task = .rewrapped keystore)) ∨
    ∃ dataKey, task = .upload dataKey ∧
      (world.handle task serving).1 = { world with uploaded := dataKey :: world.uploaded } := by
  unfold World.handle
  by_cases refused : serving = .refused
  · rw [if_pos refused]
    exact .inl rfl
  · rw [if_neg refused]
    cases task with
    | firstSetup keystore password =>
        exact .inr (.inl ⟨refused, keystore, rfl, .inl ⟨password, rfl⟩⟩)
    | rewrapped keystore => exact .inr (.inl ⟨refused, keystore, rfl, .inr rfl⟩)
    | upload dataKey => exact .inr (.inr ⟨dataKey, rfl, rfl⟩)
    | _ => exact .inl rfl

/-- A keystore that comes to be stored has the recovery wrapping of the stored one. -/
theorem saved_kept {keystore : Keystore} (sound : task.Sound world)
    (first : FirstSetup world task serving) (served : serving ≠ .refused)
    (saves : (∃ password, task = .firstSetup keystore password) ∨ task = .rewrapped keystore) :
    keystore.Sound world.issued ∧ ∀ old ∈ world.stored, old.rk = keystore.rk := by
  rcases saves with ⟨password, rfl⟩ | rfl
  · refine ⟨sound, ?_⟩
    intro old stored
    have empty : world.stored = none := first served
    rw [empty] at stored
    cases stored
  · obtain ⟨fits, current, stored, same⟩ := sound
    refine ⟨fits, ?_⟩
    intro old again
    rw [Option.mem_unique again stored]
    exact same

theorem handle_grows (sound : task.Sound world)
    (first : FirstSetup world task serving) : world.Grows (world.handle task serving).1 := by
  rcases handle_cases world task serving with same | ⟨served, keystore, saved, saves⟩ |
    ⟨dataKey, _, uploaded⟩
  · rw [same]
    exact .refl world
  · rw [saved]
    exact save_grows keystore (saved_kept sound first served saves).2
  · rw [uploaded]
    exact .of_eq rfl rfl

theorem handle_coherent (coherent : Coherent world) (sound : task.Sound world)
    (first : FirstSetup world task serving) : Coherent (world.handle task serving).1 := by
  have grows := handle_grows sound first
  rcases handle_cases world task serving with same | ⟨served, keystore, saved, saves⟩ |
    ⟨dataKey, asked, uploaded⟩
  · rw [same]
    exact coherent
  · rw [saved] at grows ⊢
    refine ⟨?_, fun id => (coherent.pages id).grow grows,
      fun task member => (coherent.late task member).grow grows,
      fun dataKey member => grows.holds (coherent.uploaded dataKey member)⟩
    intro stored member
    cases member
    exact (saved_kept sound first served saves).1
  · rw [uploaded] at grows ⊢
    refine ⟨coherent.stored, fun id => (coherent.pages id).grow grows,
      fun task member => (coherent.late task member).grow grows, ?_⟩
    intro other member
    rcases List.mem_cons.mp member with rfl | older
    · rw [asked] at sound
      exact grows.holds sound
    · exact grows.holds (coherent.uploaded other older)

private theorem stored_backed (coherent : Coherent world) {keystore : Keystore}
    (stored : world.stored = some keystore) :
    keystore.Sound world.issued ∧ world.Backed keystore.rk :=
  ⟨coherent.stored keystore stored, keystore, stored, rfl⟩

theorem handle_answer (coherent : Coherent world) :
    Answer.Sound (world.handle task serving).1 task (world.handle task serving).2 := by
  unfold World.handle
  by_cases refused : serving = .refused
  · rw [if_pos refused]
    cases task <;> trivial
  · rw [if_neg refused]
    have read : ∀ found, world.getKeystore serving = some found →
        found.Sound world.issued ∧ world.Backed found.rk := by
      intro found got
      unfold World.getKeystore at got
      split at got
      · cases got
      · exact stored_backed coherent got
    cases task with
    | firstSetup keystore password => exact ⟨keystore, rfl, rfl⟩
    | rewrapped keystore => trivial
    | upload dataKey => trivial
    | _ =>
        cases found : world.getKeystore serving with
        | none => trivial
        | some keystore => exact read keystore found

end Server

section Pages

variable {world after : World} {page : Page} {task : Task} {answer : Answer} {waiting : Waiting}
  {id : Nat}

theorem Task.Sound.waits (sound : task.Sound world) : Waiting.Sound world { task } where
  task := sound
  answer _ given := by cases given

theorem Page.Sound.ask (sound : page.Sound world) (asked : task.Sound world) :
    (page.ask task).Sound world where
  dataKey := sound.dataKey
  waiting waiting member := by
    rcases List.mem_append.mp member with older | single
    · exact sound.waiting waiting older
    · rw [List.mem_singleton.mp single]
      exact asked.waits

/-- The page with another data key and another list of waiting handlers. -/
theorem Page.Sound.change (sound : page.Sound world) (step : PageStep) (inApp : Bool)
    {dataKey : Option DataKey} (holds : ∀ key ∈ dataKey, world.Holds key) :
    ({ page with step, inApp, dataKey } : Page).Sound world where
  dataKey := holds
  waiting := sound.waiting

theorem holds_of_unwrap {wrap : Wrap} {passphrase : String} {dataKey : DataKey}
    (opened : wrap.unwrap passphrase = some dataKey) : wrap.dataKey = dataKey := by
  unfold Wrap.unwrap at opened
  split at opened
  · exact Option.some.inj opened
  · cases opened

theorem holds_of_backed {keystore : Keystore} {dataKey : DataKey}
    (backed : world.Backed keystore.rk) (same : keystore.rk.dataKey = dataKey) :
    world.Holds dataKey := by
  obtain ⟨stored, found, rk⟩ := backed
  exact ⟨stored, found, (congrArg Wrap.dataKey rk).trans same⟩

/-- A handler that takes up a sound answer leaves a sound page. -/
theorem resume_sound (sound : page.Sound world) (asked : task.Sound world)
    (answered : Answer.Sound world task answer) : (page.resume task answer).Sound world := by
  unfold Page.resume
  split
  · exact sound.change _ _ sound.dataKey
  · exact sound.change _ _ sound.dataKey
  · rename_i password keystore
    split
    · rename_i dataKey opened
      have same := answered.1.1.symm.trans (holds_of_unwrap opened)
      have holds := holds_of_backed answered.2 same
      exact sound.change _ _ fun key one => Option.some.inj one ▸ holds
    · exact sound
  · rename_i recoveryKey newPassword keystore
    split
    · rename_i dataKey opened
      have same := holds_of_unwrap opened
      have holds := holds_of_backed answered.2 same
      have opens : Page.Sound world { page with dataKey := some dataKey } :=
        sound.change _ _ fun key one => Option.some.inj one ▸ holds
      exact opens.ask ⟨⟨same.symm, answered.1.2⟩, answered.2⟩
    · exact sound
  · rename_i keystore password
    split
    · rename_i dataKey opened
      have fits : keystore.Sound world.issued := asked
      have same := fits.1.symm.trans (holds_of_unwrap opened)
      have holds := holds_of_backed answered same
      exact sound.change _ _ fun key one => Option.some.inj one ▸ holds
    · exact sound
  · exact sound.change _ _ sound.dataKey
  · exact sound

theorem issue_grows {issue : Issue} {issued : Table Issue.dataKey}
    (drawn : world.issued.insert? issue = some issued) : world.Grows { world with issued } where
  backed _ backed := backed
  issued dataKey other found := by
    rw [Table.find?_insert? drawn]
    split
    · rename_i same
      have absent := (Table.insert?_eq_some drawn).1
      rw [same, found] at absent
      cases absent
    · exact found

/-- A click leaves a sound page, and issues at most one recovery key more. -/
theorem act_sound {action : Action} {issued : Table Issue.dataKey} (sound : (world.pages id).Sound world)
    (taken : action.act (world.pages id) world.issued = some (page, issued)) :
    world.Grows { world with issued } ∧ page.Sound { world with issued } := by
  have plain : ∀ page : Page, page.Sound world → issued = world.issued →
      world.Grows { world with issued } ∧ page.Sound { world with issued } := by
    rintro page sound rfl
    exact ⟨.refl world, sound⟩
  cases action with
  | onCreds =>
      simp only [Action.act, Option.ite_none_right_eq_some] at taken
      obtain ⟨_, same⟩ := taken
      cases same
      exact plain _ (sound.ask trivial) rfl
  | onLogin password =>
      simp only [Action.act, Option.ite_none_right_eq_some] at taken
      obtain ⟨_, same⟩ := taken
      cases same
      exact plain _ (sound.ask trivial) rfl
  | onSetup password repeated recoveryKey dataKey =>
      simp only [Action.act, Option.ite_none_right_eq_some] at taken
      obtain ⟨_, drawn⟩ := taken
      obtain ⟨grown, inserted, same⟩ := Option.map_eq_some_iff.mp drawn
      cases same
      have grows := issue_grows inserted
      have made : (createKeystore password recoveryKey dataKey).Sound issued := by
        refine ⟨rfl, { dataKey, recoveryKey }, ?_, rfl⟩
        have found := Table.find?_insert? inserted dataKey
        rw [if_pos rfl] at found
        exact found
      exact ⟨grows, (sound.grow grows).ask made⟩
  | onProceed =>
      simp only [Action.act, Option.ite_none_right_eq_some] at taken
      obtain ⟨_, same⟩ := taken
      cases same
      exact plain _ (sound.change _ _ sound.dataKey) rfl
  | showRecovery =>
      simp only [Action.act, Option.ite_none_right_eq_some] at taken
      obtain ⟨_, same⟩ := taken
      cases same
      exact plain _ (sound.change _ _ sound.dataKey) rfl
  | backToLogin =>
      simp only [Action.act, Option.ite_none_right_eq_some] at taken
      obtain ⟨_, same⟩ := taken
      cases same
      exact plain _ (sound.change _ _ sound.dataKey) rfl
  | onRecover recoveryKey newPassword =>
      simp only [Action.act, Option.ite_none_right_eq_some] at taken
      obtain ⟨_, same⟩ := taken
      cases same
      exact plain _ (sound.ask trivial) rfl
  | upload =>
      simp only [Action.act] at taken
      split at taken
      · rename_i dataKey opened
        obtain ⟨_, same⟩ := Option.ite_none_right_eq_some.mp taken
        cases same
        exact plain _ (sound.ask (sound.dataKey dataKey opened)) rfl
      · cases taken
  | lockApp =>
      simp only [Action.act, Option.ite_none_right_eq_some] at taken
      obtain ⟨_, same⟩ := taken
      cases same
      exact plain _ (sound.change _ _ fun key none => by cases none) rfl

theorem Coherent.setPage (coherent : Coherent world) (sound : page.Sound world) :
    Coherent (world.setPage id page) := by
  have grows : world.Grows (world.setPage id page) := .of_eq rfl rfl
  refine ⟨coherent.stored, ?_, fun task member => (coherent.late task member).grow grows,
    fun dataKey member => grows.holds (coherent.uploaded dataKey member)⟩
  intro other
  by_cases same : other = id
  · rw [same, World.setPage_self]
    exact sound.grow grows
  · rw [World.setPage_other world page same]
    exact (coherent.pages other).grow grows

theorem Coherent.setLate (coherent : Coherent world) {late : List Task}
    (sound : ∀ task ∈ late, task.Sound world) : Coherent { world with late } := by
  have grows : world.Grows { world with late } := .of_eq rfl rfl
  exact ⟨coherent.stored, fun id => (coherent.pages id).grow grows,
    fun task member => (sound task member).grow grows, coherent.uploaded⟩

theorem Coherent.setIssued (coherent : Coherent world) {issued : Table Issue.dataKey}
    (grows : world.Grows { world with issued }) : Coherent { world with issued } where
  stored keystore stored := (coherent.stored keystore stored).grow grows
  pages id := (coherent.pages id).grow grows
  late task member := (coherent.late task member).grow grows
  uploaded := coherent.uploaded

theorem Page.Sound.wait (sound : page.Sound world) {rest : List Waiting}
    (kept : ∀ waiting ∈ rest, waiting.Sound world) :
    ({ page with waiting := rest } : Page).Sound world where
  dataKey := sound.dataKey
  waiting := kept

end Pages

section Run

variable {before after : World} {id index : Nat} {serving : Serving}

/-- What the steps of a run leave a tenant: no first setup is saved over a stored keystore. -/
def FirstSetups (world : World) : Label → Prop
  | .serve page index serving => ∀ waiting ∈ (world.pages page).waiting[index]?,
      FirstSetup world waiting.task serving
  | .serveLate index serving => ∀ task ∈ world.late[index]?, FirstSetup world task serving
  | _ => True

private theorem coherent_start : Coherent {} where
  stored _ stored := by cases stored
  pages _ :=
    { dataKey := fun _ opened => by cases opened
      waiting := fun _ member => by cases member }
  late _ member := by cases member
  uploaded _ member := by cases member

private theorem act_coherent {action : Action} (coherent : Coherent before)
    (taken : before.act id action = some after) : Coherent after := by
  obtain ⟨⟨page, issued⟩, acted, rfl⟩ := Option.map_eq_some_iff.mp taken
  have clicked := act_sound (coherent.pages id) acted
  exact (coherent.setIssued clicked.1).setPage clicked.2

theorem serve_coherent (coherent : Coherent before)
    (first : ∀ waiting ∈ (before.pages id).waiting[index]?, FirstSetup before waiting.task serving)
    (taken : before.serve id index serving = some after) : Coherent after := by
  unfold World.serve at taken
  split at taken
  · rename_i task found
    cases taken
    have member := List.mem_of_getElem? found
    have sound := ((coherent.pages id).waiting _ member).task
    have grows := handle_grows sound (first _ found)
    have page := (coherent.pages id).grow grows
    apply (handle_coherent coherent sound (first _ found)).setPage
    apply page.wait
    intro waiting kept
    rcases List.mem_or_eq_of_mem_set kept with older | rfl
    · exact page.waiting waiting older
    · refine ⟨sound.grow grows, ?_⟩
      intro answer given
      cases given
      exact handle_answer coherent
  · cases taken

theorem resume_coherent (coherent : Coherent before)
    (taken : before.resume id index = some after) : Coherent after := by
  unfold World.resume at taken
  split at taken
  · rename_i task answer found
    cases taken
    have page := coherent.pages id
    have sound := page.waiting _ (List.mem_of_getElem? found)
    have rest : ({ before.pages id with waiting := (before.pages id).waiting.eraseIdx index } :
        Page).Sound before :=
      page.wait fun waiting kept => page.waiting waiting (List.mem_of_mem_eraseIdx kept)
    exact coherent.setPage (resume_sound rest sound.task (sound.answer answer rfl))
  · cases taken

theorem fail_coherent (coherent : Coherent before) (taken : before.fail id index = some after) :
    Coherent after := by
  obtain ⟨waiting, found, rfl⟩ := Option.map_eq_some_iff.mp taken
  have page := coherent.pages id
  have sound := (page.waiting _ (List.mem_of_getElem? found)).task
  have rest := page.wait fun other kept => page.waiting other
    (List.mem_of_mem_eraseIdx (i := index) kept)
  apply (coherent.setPage rest).setLate
  intro task member
  have grows : before.Grows (before.setPage id
      { before.pages id with waiting := (before.pages id).waiting.eraseIdx index }) := .of_eq rfl rfl
  rcases List.mem_cons.mp member with rfl | older
  · exact sound.grow grows
  · exact (coherent.late task older).grow grows

theorem serveLate_coherent (coherent : Coherent before)
    (first : ∀ task ∈ before.late[index]?, FirstSetup before task serving)
    (taken : before.serveLate index serving = some after) : Coherent after := by
  obtain ⟨task, found, rfl⟩ := Option.map_eq_some_iff.mp taken
  have sound := coherent.late task (List.mem_of_getElem? found)
  have grows := handle_grows sound (first task found)
  apply (handle_coherent coherent sound (first task found)).setLate
  intro other kept
  exact (coherent.late other (List.mem_of_mem_eraseIdx kept)).grow grows

theorem close_coherent (coherent : Coherent before) : Coherent (before.close id) := by
  have empty : ({} : Page).Sound before :=
    { dataKey := fun _ opened => by cases opened
      waiting := fun _ member => by cases member }
  apply (coherent.setPage empty).setLate
  intro task member
  have grows : before.Grows (before.setPage id {}) := .of_eq rfl rfl
  rcases List.mem_append.mp member with given | older
  · obtain ⟨waiting, kept, rfl⟩ := List.mem_map.mp given
    exact ((coherent.pages id).waiting waiting kept).task.grow grows
  · exact (coherent.late task older).grow grows

private theorem durable_of_coherent {world : World} (coherent : Coherent world) :
    Durable world := by
  intro dataKey member
  obtain ⟨keystore, stored, same⟩ := coherent.uploaded dataKey member
  obtain ⟨_, issue, issued, recovery⟩ := coherent.stored keystore stored
  rw [same] at issued
  refine ⟨issue, issued, keystore, stored, ?_⟩
  rw [recovery, ← same]

/-- The stored keystore opens every uploaded file, over any run in which no first setup is saved
over a keystore. -/
theorem keystore_durable (world : World) (run : panels.Run FirstSetups {} world) :
    Durable world := by
  apply durable_of_coherent
  apply run.invariant Coherent _ coherent_start
  intro before label after coherent first taken
  cases label with
  | act page action => exact act_coherent coherent taken
  | serve page index serving => exact serve_coherent coherent first taken
  | resume page index => exact resume_coherent coherent taken
  | fail page index => exact fail_coherent coherent taken
  | serveLate index serving => exact serveLate_coherent coherent first taken
  | close page =>
      cases taken
      exact close_coherent coherent

instance (world : World) (task : Task) (serving : Serving) :
    Decidable (FirstSetup world task serving) :=
  match task with
  | .firstSetup _ _ => inferInstanceAs (Decidable (_ → _))
  | .creds | .login _ | .recover _ _ | .rewrapped _ | .upload _ => .isTrue trivial

instance (world : World) (label : Label) : Decidable (FirstSetups world label) :=
  match label with
  | .serve _ _ _ => inferInstanceAs (Decidable (∀ _ ∈ _, _))
  | .serveLate _ _ => inferInstanceAs (Decidable (∀ _ ∈ _, _))
  | .act _ _ | .resume _ _ | .fail _ _ | .close _ => .isTrue trivial

/-- A page that opens on a tenant, up to the answer about its keystore. -/
def opening (page : Nat) (serving : Serving) : List Label :=
  [.act page .onCreds, .serve page 0 serving, .resume page 0]

def settingUp (page : Nat) (dataKey : DataKey) : List Label :=
  [.act page (.onSetup "correct horse" "correct horse" "HBRK-AAAA" dataKey), .serve page 0 .ok,
    .resume page 0, .act page .onProceed, .act page .upload, .serve page 0 .ok]

theorem keystore_durable_once : ∃ world : World, world.uploaded = [7] ∧ Durable world := by
  have played : (panels.play FirstSetups {} (opening 0 .ok ++ settingUp 0 7)).any
      (fun world => world.uploaded = [7]) = true := by decide
  obtain ⟨world, reached, uploaded⟩ := (Option.any_eq_true _ _).mp played
  exact ⟨world, of_decide_eq_true uploaded, keystore_durable world (Machine.Run.of_play reached)⟩

/-- A second page opens while the file cannot be read, is taken for the first one, and saves a
keystore of its own. -/
theorem keystore_not_durable :
    ¬ ∀ world : World, panels.Run (fun _ _ => True) {} world → Durable world := by
  intro claim
  have played : (panels.play (fun _ _ => True) {} (opening 0 .ok ++ settingUp 0 7 ++
      opening 1 .unreadable ++ settingUp 1 8)).any (fun world => ¬ Durable world) = true := by
    decide
  obtain ⟨world, reached, lost⟩ := (Option.any_eq_true _ _).mp played
  exact of_decide_eq_true lost (claim world (Machine.Run.of_play reached))

end Run

end HashBurst.Files
