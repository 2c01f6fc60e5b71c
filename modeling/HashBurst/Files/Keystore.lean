import Mathlib.Algebra.GroupWithZero.Nat
import Mathlib.Logic.Function.Basic
import HashBurst.Lib.Machine
import HashBurst.Lib.Table

/-! The keystore of one tenant: the panel's pages in its browsers (`panel.html`) and the file on the
server (`hb_files.py`). -/

namespace HashBurst.Files

open Lib

/-- A random AES key, told apart from all others by its number. -/
abbrev DataKey := Nat

/-- A data key wrapped under a key derived from a passphrase: only that passphrase opens it. -/
structure Wrap where
  passphrase : String
  dataKey : DataKey
  deriving DecidableEq

def Wrap.unwrap (wrap : Wrap) (passphrase : String) : Option DataKey :=
  if wrap.passphrase = passphrase then some wrap.dataKey else none

structure Keystore where
  pw : Wrap
  rk : Wrap
  deriving DecidableEq

/-- `createKeystore`, with the data key and the recovery key that it draws. -/
def createKeystore (password recoveryKey : String) (dataKey : DataKey) : Keystore where
  pw := ⟨password, dataKey⟩
  rk := ⟨recoveryKey, dataKey⟩

def rewrapPassword (keystore : Keystore) (dataKey : DataKey) (newPassword : String) : Keystore :=
  { keystore with pw := ⟨newPassword, dataKey⟩ }

inductive Task
  | creds
  | login (password : String)
  | recover (recoveryKey newPassword : String)
  | firstSetup (keystore : Keystore) (password : String)
  | rewrapped (keystore : Keystore)
  | upload (dataKey : DataKey)
  deriving DecidableEq

inductive Answer
  | keystore (found : Option Keystore)
  | saved
  | uploaded
  | refused
  deriving DecidableEq

structure Waiting where
  task : Task
  answer : Option Answer := none
  deriving DecidableEq

inductive PageStep
  | creds
  | password
  | setup
  | showkey
  | recover
  deriving DecidableEq

structure Page where
  step : PageStep := .creds
  inApp : Bool := false
  dataKey : Option DataKey := none
  waiting : List Waiting := []

structure Issue where
  dataKey : DataKey
  recoveryKey : String
  deriving DecidableEq

/-- `late` holds the requests that the network still may deliver after their page has given up. -/
structure World where
  stored : Option Keystore := none
  pages : Nat → Page := fun _ => {}
  late : List Task := []
  issued : Table Issue.dataKey := Table.empty
  uploaded : List DataKey := []

namespace Page

variable (page : Page)

def shows (step : PageStep) : Bool := !page.inApp && page.step = step

def ask (task : Task) : Page := { page with waiting := page.waiting ++ [{ task }] }

def enterApp : Page := { page with inApp := true }

def resume (task : Task) (answer : Answer) : Page :=
  match task, answer with
  | .creds, .keystore none => { page with step := .setup }
  | .creds, .keystore (some _) => { page with step := .password }
  | .login password, .keystore (some keystore) =>
      match keystore.pw.unwrap password with
      | some dataKey => enterApp { page with dataKey := some dataKey }
      | none => page
  | .recover recoveryKey newPassword, .keystore (some keystore) =>
      match keystore.rk.unwrap recoveryKey with
      | some dataKey =>
          ask { page with dataKey := some dataKey }
            (.rewrapped (rewrapPassword keystore dataKey newPassword))
      | none => page
  | .firstSetup keystore password, .saved =>
      match keystore.pw.unwrap password with
      | some dataKey => { page with dataKey := some dataKey, step := .showkey }
      | none => page
  | .rewrapped _, .saved => page.enterApp
  | _, _ => page

end Page

inductive Serving
  | ok
  | unreadable
  | refused
  deriving DecidableEq

namespace World

variable (world : World)

/-- `get_keystore`: a file that cannot be read or parsed looks like none. -/
def getKeystore (serving : Serving) : Option Keystore :=
  if serving = .unreadable then none else world.stored

def handle (task : Task) (serving : Serving) : World × Answer :=
  if serving = .refused then (world, .refused)
  else
    match task with
    | .creds | .login _ | .recover _ _ => (world, .keystore (world.getKeystore serving))
    | .firstSetup keystore _ | .rewrapped keystore => ({ world with stored := some keystore }, .saved)
    | .upload dataKey => ({ world with uploaded := dataKey :: world.uploaded }, .uploaded)

def setPage (id : Nat) (page : Page) : World :=
  { world with pages := Function.update world.pages id page }

end World

@[simp] theorem World.setPage_self (world : World) (id : Nat) (page : Page) :
    (world.setPage id page).pages id = page := Function.update_self ..

theorem World.setPage_other (world : World) {id other : Nat} (page : Page) (apart : other ≠ id) :
    (world.setPage id page).pages other = world.pages other := Function.update_of_ne apart ..

/-- `length` of a JavaScript string. -/
def utf16Length (text : String) : Nat :=
  (text.toList.map fun c => if c.toNat < 0x10000 then 1 else 2).sum

inductive Action
  | onCreds
  | onLogin (password : String)
  | onSetup (password repeated recoveryKey : String) (dataKey : DataKey)
  | onProceed
  | showRecovery
  | backToLogin
  | onRecover (recoveryKey newPassword : String)
  | upload
  | lockApp

/-- The page on which a button is clicked, and the data key drawn by the click, if it is not
refused. -/
def Action.act (page : Page) (issued : Table Issue.dataKey) :
    Action → Option (Page × Table Issue.dataKey)
  | onCreds => if page.shows .creds then some (page.ask .creds, issued) else none
  | onLogin password =>
      if page.shows .password ∧ password ≠ "" then some (page.ask (.login password), issued)
      else none
  | onSetup password repeated recoveryKey dataKey =>
      if page.shows .setup ∧ 8 ≤ utf16Length password ∧ password = repeated then
        (issued.insert? { dataKey, recoveryKey }).map fun issued =>
          (page.ask (.firstSetup (createKeystore password recoveryKey dataKey) password), issued)
      else none
  | onProceed => if page.shows .showkey then some (page.enterApp, issued) else none
  | showRecovery =>
      if page.shows .password then some ({ page with step := .recover }, issued) else none
  | backToLogin =>
      if page.shows .recover then some ({ page with step := .password }, issued) else none
  | onRecover recoveryKey newPassword =>
      if page.shows .recover ∧ recoveryKey ≠ "" ∧ 8 ≤ utf16Length newPassword then
        some (page.ask (.recover recoveryKey newPassword), issued)
      else none
  | upload =>
      match page.dataKey with
      | some dataKey => if page.inApp then some (page.ask (.upload dataKey), issued) else none
      | none => none
  | lockApp =>
      if page.inApp then
        some ({ page with dataKey := none, inApp := false, step := .password }, issued)
      else none

/-- A click, a request served, an answer taken up, a request given up, a request served after that,
or a page closed. -/
inductive Label
  | act (page : Nat) (action : Action)
  | serve (page index : Nat) (serving : Serving)
  | resume (page index : Nat)
  | fail (page index : Nat)
  | serveLate (index : Nat) (serving : Serving)
  | close (page : Nat)

namespace World

variable (world : World)

def act (id : Nat) (action : Action) : Option World :=
  (action.act (world.pages id) world.issued).map fun (page, issued) =>
    { world.setPage id page with issued }

def serve (id index : Nat) (serving : Serving) : Option World :=
  match (world.pages id).waiting[index]? with
  | some ⟨task, none⟩ =>
      let (after, answer) := world.handle task serving
      let page := world.pages id
      some (after.setPage id
        { page with waiting := page.waiting.set index { task, answer := some answer } })
  | _ => none

def resume (id index : Nat) : Option World :=
  match (world.pages id).waiting[index]? with
  | some ⟨task, some answer⟩ =>
      let page := world.pages id
      some (world.setPage id
        (Page.resume { page with waiting := page.waiting.eraseIdx index } task answer))
  | _ => none

def fail (id index : Nat) : Option World :=
  ((world.pages id).waiting[index]?).map fun waiting =>
    let page := world.pages id
    { world.setPage id { page with waiting := page.waiting.eraseIdx index } with
      late := waiting.task :: world.late }

def serveLate (index : Nat) (serving : Serving) : Option World :=
  (world.late[index]?).map fun task =>
    { (world.handle task serving).1 with late := world.late.eraseIdx index }

def close (id : Nat) : World :=
  { world.setPage id {} with late := (world.pages id).waiting.map Waiting.task ++ world.late }

end World

def panels : Machine World Label where
  next world label :=
    match label with
    | .act page action => world.act page action
    | .serve page index serving => world.serve page index serving
    | .resume page index => world.resume page index
    | .fail page index => world.fail page index
    | .serveLate index serving => world.serveLate index serving
    | .close page => some (world.close page)

end HashBurst.Files
