import HashBurst.Lib.PyValue
import HashBurst.Tep.Daemon
import HashBurst.Ha.Voter

/-! A `ha.lease` request from the bridge to the answer of the agent, with every payload that Python's
parser admits: `_validate_payload` of `hb_tep_ha_service.py`, then `handle_tep` of v2.2.0. -/

namespace HashBurst.Ha

open Lib Lib.Py

namespace HaLeaseHandler

section Validator

variable (conv : WideConversions) (payload : Fields)

def fieldText (field : String) : String := conv.text (Fields.get payload field)

/-- `set(out) == set(allowed)` -/
def keysAre (allowed : List String) : Bool :=
  (payload.all fun field => field.1 ∈ allowed) &&
    allowed.all fun name => (payload.lookup name).isSome

def named (field : String) : Bool :=
  fieldText conv payload field ≠ "" && (fieldText conv payload field).length ≤ 128

def requireName (field : String) : Except Tep.Failure Unit :=
  if named conv payload field then .ok () else .error (.protocol "bad_request" s!"invalid {field}")

/-- `int(out.get(field))` under `except (TypeError, ValueError)` -/
def intField (field message : String) : Except Tep.Failure Int :=
  match conv.toInt (Fields.get payload field) with
  | .ok value => .ok value
  | .error (.typeError _) => .error (.protocol "bad_request" message)
  | .error (.valueError _) => .error (.protocol "bad_request" message)
  | .error (.overflowError _) => .error .other

def validateVote : Except Tep.Failure Fields := do
  requireName conv payload "candidate"
  let priority ← intField conv payload "priority" "invalid vote_request numeric fields"
  let term ← intField conv payload "term" "invalid vote_request numeric fields"
  let leaseMs ← intField conv payload "lease_ms" "invalid vote_request numeric fields"
  if priority < 0 ∨ term < 1 ∨ leaseMs < 1000 ∨ 120000 < leaseMs then
    .error (.protocol "bad_request" "vote_request fields out of range")
  else .ok payload

def validateRenewal : Except Tep.Failure Fields := do
  requireName conv payload "holder"
  let term ← intField conv payload "term" "invalid renew numeric fields"
  let leaseMs ← intField conv payload "lease_ms" "invalid renew numeric fields"
  if term < 1 ∨ leaseMs < 1000 ∨ 120000 < leaseMs then
    .error (.protocol "bad_request" "renew fields out of range")
  else .ok payload

def validateOperation (op : String) : Except Tep.Failure Fields :=
  if op = "vote_request" then validateVote conv payload
  else if op = "renew" then validateRenewal conv payload
  else .ok payload

def validatePayload : Except Tep.Failure Fields := do
  let op := fieldText conv payload "op"
  match Tep.allowedOpKeys.lookup op with
  | none => .error (.protocol "unsupported_op"
      ("unsupported ha.lease operation " ++ orElse op "<missing>"))
  | some allowed =>
      if !keysAre payload allowed then
        .error (.protocol "bad_request" "ha.lease payload contains missing or unexpected fields")
      else
        requireName conv payload "cluster_id"
        validateOperation conv payload op

end Validator

end HaLeaseHandler

structure Bridged where
  source : Source
  payload : Fields

namespace Bridged

variable (conv : WideConversions) (config : Config) (request : Bridged)

def texts : Payload where
  op := conv.strOr (Fields.get request.payload "op") ""
  clusterId := conv.strOr (Fields.get request.payload "cluster_id") ""
  candidate := conv.strOr (Fields.get request.payload "candidate") ""
  holder := conv.strOr (Fields.get request.payload "holder") ""

def readInt (value : Value) : Except Trouble Int :=
  (conv.toInt value).mapError fun error => .conversion error.text

def numbers : Except Trouble (Int × Int) := do
  let term ← readInt conv (Fields.getD request.payload "term" (.int (-1)))
  let leaseMs ← readInt conv (Fields.getD request.payload "lease_ms" (.int config.leaseMs))
  .ok (term, leaseMs)

end Bridged

namespace Voter

variable (config : Config) (source : Source) (texts : Payload)
  (numbers : Except Trouble (Int × Int)) (written : Bool) (voter : Voter)

/-- `handle_tep` of the base class, given what it reads in the payload. -/
def handleRead : Voter × Except Trouble Reply :=
  let sourceNode := strip source.nodeId
  let op := strip texts.op
  if sourceNode = "" || strip source.peerId = "" then
    (voter, .error (.haError "bad_request" "authenticated TEP source identity is required"))
  else if texts.clusterId ≠ config.clusterId then
    (voter, .error (.haError "cluster_mismatch" "HA cluster_id mismatch"))
  else if op = "status" then
    (voter, .ok (.status
      (LeaseEngine.localStatus config voter.uptime voter.state.votes voter.engine)))
  else if !config.isVoter then
    (voter, .error (.haError "not_voter" "node does not grant HA leases"))
  else if !(config.candidates.any fun candidate => candidate.nodeId = sourceNode) then
    (voter, .error (.haError "candidate_unknown" "source is not an allowed HA candidate"))
  else if op = "vote_request" then
    match numbers with
    | .error trouble => (voter, .error trouble)
    | .ok (term, leaseMs) =>
        if texts.candidate ≠ sourceNode then
          (voter, .error
            (.haError "identity_mismatch" "candidate must equal authenticated TEP source"))
        else if leaseMs ≤ 0 || leaseMs > config.leaseMs then
          (voter, .error (.haError "bad_lease" "invalid requested lease duration"))
        else voter.voteRequest written texts.candidate term leaseMs
  else if op = "renew" then
    match numbers with
    | .error trouble => (voter, .error trouble)
    | .ok (term, leaseMs) =>
        if texts.holder ≠ sourceNode then
          (voter, .error
            (.haError "identity_mismatch" "holder must equal authenticated TEP source"))
        else voter.renewal config texts.holder term leaseMs
  else
    (voter, .error
      (.haError "unsupported_op" ("unsupported HA operation: " ++ orElse op "<missing>")))

/-- `handle_tep` of v2.2.0 -/
def answer (conv : WideConversions) (request : Bridged) : Voter × Except Trouble Reply :=
  match LeaseEngine.restartGuard config voter.uptime request.source (request.texts conv)
      voter.state.votes voter.engine with
  | some reply => (voter, .ok reply)
  | none =>
      voter.handleRead config request.source (request.texts conv) (request.numbers conv config)
        written

end Voter

inductive ServeError
  | bridge (failure : Tep.Failure)
  | agent (trouble : Trouble)

/-- `dispatch_envelope` of the bridge, then the agent. -/
def Voter.serve (conv : WideConversions) (config : Config) (written : Bool) (source : Source)
    (payload : Fields) (voter : Voter) : Voter × Except ServeError Reply :=
  match HaLeaseHandler.validatePayload conv payload with
  | .error failure => (voter, .error (.bridge failure))
  | .ok kept =>
      ((voter.answer config written conv ⟨source, kept⟩).1,
        (voter.answer config written conv ⟨source, kept⟩).2.mapError .agent)

section Grace

variable {conv : WideConversions} {payload : Fields} {α β : Type}

/-- A `ProtocolError`, or none at all. -/
def Graceful : Except Tep.Failure α → Prop
  | .error (.raised (.protocol _ _)) => True
  | .error _ => False
  | .ok _ => True

theorem Graceful.cases {result : Except Tep.Failure α} (graceful : Graceful result) :
    (∃ value, result = .ok value) ∨ ∃ code message, result = .error (.protocol code message) := by
  match result, graceful with
  | .error (.raised (.protocol code message)), _ => exact .inr ⟨code, message, rfl⟩
  | .ok value, _ => exact .inl ⟨value, rfl⟩

theorem graceful_bind {first : Except Tep.Failure α} {next : α → Except Tep.Failure β} :
    Graceful (first >>= next) ↔ Graceful first ∧ ∀ value, first = .ok value → Graceful (next value) := by
  cases first with
  | error failure =>
      constructor
      · intro graceful
        refine ⟨?_, fun value same => by cases same⟩
        cases failure with
        | raised raised =>
            cases raised with
            | protocol code message => trivial
            | _ => exact graceful
        | _ => exact graceful
      · rintro ⟨graceful, -⟩
        cases failure with
        | raised raised =>
            cases raised with
            | protocol code message => trivial
            | _ => exact graceful
        | _ => exact graceful
  | ok value =>
      constructor
      · intro graceful
        refine ⟨trivial, ?_⟩
        intro own same
        cases same
        exact graceful
      · rintro ⟨-, graceful⟩
        exact graceful value rfl

open HaLeaseHandler

theorem requireName_ok {field : String} :
    requireName conv payload field = .ok () ↔ named conv payload field = true := by
  unfold requireName
  by_cases good : named conv payload field = true
  · simp [good]
  · simp [good]

private theorem requireName_graceful {field : String} :
    Graceful (requireName conv payload field) := by
  unfold requireName
  by_cases good : named conv payload field = true
  · rw [if_pos good]
    trivial
  · rw [if_neg good]
    trivial

theorem intField_ok {field message : String} {number : Int} :
    intField conv payload field message = .ok number ↔
      conv.toInt (Fields.get payload field) = .ok number := by
  unfold intField
  rcases conv.toInt (Fields.get payload field) with (_ | _ | _) | value
  · simp
  · simp
  · simp
  · simp

theorem intField_graceful {field message : String} :
    Graceful (intField conv payload field message) ↔
      ¬(Fields.get payload field).isInfinity = true := by
  constructor
  · intro graceful infinite
    unfold intField at graceful
    rcases WideConversions.toInt_infinity infinite with ⟨text, failed⟩
    rw [failed] at graceful
    exact graceful
  · intro finite
    unfold intField
    rcases read : conv.toInt (Fields.get payload field) with (_ | _ | text) | value
    · trivial
    · trivial
    · exact absurd (WideConversions.toInt_overflow read) finite
    · trivial

/-- `int` comes to an infinity, and reads every field before it. -/
def Overflows (conv : WideConversions) (payload : Fields) : List String → Prop
  | [] => False
  | field :: rest => (Fields.get payload field).isInfinity = true ∨
      (∃ number, conv.toInt (Fields.get payload field) = .ok number) ∧
        Overflows conv payload rest

theorem intField_overflows {field message : String} {rest : List String}
    {next : Int → Except Tep.Failure β}
    (later : ∀ number, Graceful (next number) ↔ ¬Overflows conv payload rest) :
    Graceful (intField conv payload field message >>= next) ↔
      ¬Overflows conv payload (field :: rest) := by
  rw [graceful_bind, intField_graceful, Overflows, not_or, not_and]
  apply and_congr_right
  intro finite
  constructor
  · rintro graceful ⟨number, read⟩
    exact (later number).mp (graceful number (intField_ok.mpr read))
  · intro overflows number read
    exact (later number).mpr (overflows ⟨number, intField_ok.mp read⟩)

theorem requireName_overflows {field : String} {next : Unit → Except Tep.Failure β} {reached : Prop}
    (later : Graceful (next ()) ↔ ¬reached) :
    Graceful (requireName conv payload field >>= next) ↔
      ¬(named conv payload field = true ∧ reached) := by
  rw [graceful_bind, not_and]
  constructor
  · rintro ⟨-, graceful⟩ good
    exact later.mp (graceful () (requireName_ok.mpr good))
  · intro finite
    refine ⟨requireName_graceful, ?_⟩
    intro value passed
    exact later.mpr (finite (requireName_ok.mp passed))

theorem range_graceful {text : String} {bad : Prop} [Decidable bad] :
    Graceful (if bad then .error (.protocol "bad_request" text) else
      (.ok payload : Except Tep.Failure Fields)) ↔ ¬Overflows conv payload [] := by
  by_cases outside : bad
  · simp [outside, Graceful, Tep.Failure.protocol, Overflows]
  · simp [outside, Graceful, Overflows]

theorem validateVote_graceful : Graceful (validateVote conv payload) ↔
    ¬(named conv payload "candidate" = true ∧
      Overflows conv payload ["priority", "term", "lease_ms"]) := by
  apply requireName_overflows
  apply intField_overflows
  intro priority
  apply intField_overflows
  intro term
  apply intField_overflows
  intro leaseMs
  exact range_graceful

private theorem validateRenewal_graceful : Graceful (validateRenewal conv payload) ↔
    ¬(named conv payload "holder" = true ∧ Overflows conv payload ["term", "lease_ms"]) := by
  apply requireName_overflows
  apply intField_overflows
  intro term
  apply intField_overflows
  intro leaseMs
  exact range_graceful

/-- The name and the numbers of an operation that the bridge checks. -/
def checkedFields (op : String) : Option (String × List String) :=
  if op = "vote_request" then some ("candidate", ["priority", "term", "lease_ms"])
  else if op = "renew" then some ("holder", ["term", "lease_ms"])
  else none

/-- A request with the fields of its operation and with good names, whose numbers can be read up to
an infinity. -/
def MeetsInfinity (conv : WideConversions) (payload : Fields) : Prop :=
  ∃ allowed, Tep.allowedOpKeys.lookup (fieldText conv payload "op") = some allowed ∧
    keysAre payload allowed = true ∧ named conv payload "cluster_id" = true ∧
      ∃ name numbers, checkedFields (fieldText conv payload "op") = some (name, numbers) ∧
        named conv payload name = true ∧ Overflows conv payload numbers

theorem validateOperation_graceful (op : String) :
    Graceful (validateOperation conv payload op) ↔
      ¬∃ name numbers, checkedFields op = some (name, numbers) ∧
        named conv payload name = true ∧ Overflows conv payload numbers := by
  unfold validateOperation checkedFields
  by_cases asks : op = "vote_request"
  · rw [if_pos asks, if_pos asks, validateVote_graceful]
    simp
  · rw [if_neg asks, if_neg asks]
    by_cases renews : op = "renew"
    · rw [if_pos renews, if_pos renews, validateRenewal_graceful]
      simp
    · rw [if_neg renews, if_neg renews]
      simp [Graceful]

theorem validatePayload_graceful :
    Graceful (validatePayload conv payload) ↔ ¬MeetsInfinity conv payload := by
  unfold validatePayload MeetsInfinity
  dsimp only
  cases listed : Tep.allowedOpKeys.lookup (fieldText conv payload "op") with
  | none => simp [Graceful, Tep.Failure.protocol]
  | some allowed =>
      dsimp only
      by_cases keys : keysAre payload allowed = true
      · rw [if_neg (by simp [keys]), requireName_overflows (validateOperation_graceful _)]
        simp [keys]
      · rw [if_pos (by simp [keys])]
        simp [keys, Graceful, Tep.Failure.protocol]

end Grace

section Agent

variable {config : Config} {source : Source} {texts : Payload} {numbers : Except Trouble (Int × Int)}
  {voter : Voter} {term leaseMs : Int} {trouble : Trouble}

/-- An exception leaves the voter as it was, and is an `HaError` or one of those given. -/
def LeavesAsIs (voter : Voter) (others : Trouble → Prop)
    (result : Voter × Except Trouble Reply) : Prop :=
  ∀ trouble, result.2 = .error trouble →
    result.1 = voter ∧ ((∃ error, trouble = .ha error) ∨ others trouble)

variable {others : Trouble → Prop}

theorem LeavesAsIs.replied {after : Voter} {reply : Reply} :
    LeavesAsIs voter others (after, .ok reply) := by
  intro trouble failed
  cases failed

theorem LeavesAsIs.rejected {code message : String} :
    LeavesAsIs voter others (voter, .error (.haError code message)) := by
  intro trouble failed
  cases failed
  exact ⟨rfl, .inl ⟨_, rfl⟩⟩

theorem LeavesAsIs.raised (other : others trouble) :
    LeavesAsIs voter others (voter, .error trouble) := by
  intro own failed
  cases failed
  exact ⟨rfl, .inr other⟩

theorem LeavesAsIs.ite {condition : Prop} [Decidable condition]
    {first second : Voter × Except Trouble Reply}
    (yes : condition → LeavesAsIs voter others first)
    (no : ¬condition → LeavesAsIs voter others second) :
    LeavesAsIs voter others (if condition then first else second) := by
  by_cases holds : condition
  · rw [if_pos holds]
    exact yes holds
  · rw [if_neg holds]
    exact no holds

theorem advanceAndGrant_leaves {candidate : NodeId} (forward : ¬term < voter.state.votes.term) :
    LeavesAsIs voter others (voter.advanceAndGrant true candidate term leaseMs) := by
  unfold Voter.advanceAndGrant PersistentVotes.advance
  rw [if_neg forward, if_pos rfl]
  exact .replied

theorem voteRequest_leaves {candidate : NodeId} :
    LeavesAsIs voter others (voter.voteRequest true candidate term leaseMs) := by
  apply LeavesAsIs.ite
  · intro away
    exact .replied
  · intro free
    apply LeavesAsIs.ite
    · intro stale
      exact .replied
    · intro forward
      apply LeavesAsIs.ite
      · intro newer
        exact advanceAndGrant_leaves forward
      · intro own
        apply LeavesAsIs.ite
        · intro other
          exact .replied
        · intro same
          apply LeavesAsIs.ite
          · intro first
            exact advanceAndGrant_leaves forward
          · intro again
            exact .replied

theorem renewal_leaves {holder : NodeId} :
    LeavesAsIs voter others (voter.renewal config holder term leaseMs) := by
  apply LeavesAsIs.ite
  · intro other
    exact .replied
  · intro own
    apply LeavesAsIs.ite
    · intro long
      exact .rejected
    · intro fits
      exact .replied

def Reads (numbers : Except Trouble (Int × Int)) (op : String) (trouble : Trouble) : Prop :=
  numbers = .error trouble ∧ (op = "vote_request" ∨ op = "renew")

theorem handleRead_leaves : LeavesAsIs voter (Reads numbers (strip texts.op))
    (voter.handleRead config source texts numbers true) := by
  apply LeavesAsIs.ite
  · intro anonymous
    exact .rejected
  intro authenticated
  apply LeavesAsIs.ite
  · intro foreign
    exact .rejected
  intro cluster
  apply LeavesAsIs.ite
  · intro status
    exact .replied
  intro other
  apply LeavesAsIs.ite
  · intro none
    exact .rejected
  intro member
  apply LeavesAsIs.ite
  · intro unknown
    exact .rejected
  intro known
  apply LeavesAsIs.ite
  · intro asks
    cases read : numbers with
    | error trouble => exact .raised ⟨rfl, .inl asks⟩
    | ok pair =>
        apply LeavesAsIs.ite
        · intro mismatch
          exact .rejected
        · intro candidate
          apply LeavesAsIs.ite
          · intro long
            exact .rejected
          · intro fits
            exact voteRequest_leaves
  · intro otherwise
    apply LeavesAsIs.ite
    · intro renews
      cases read : numbers with
      | error trouble => exact .raised ⟨rfl, .inr renews⟩
      | ok pair =>
          apply LeavesAsIs.ite
          · intro mismatch
            exact .rejected
          · intro holder
            exact renewal_leaves
    · intro unsupported
      exact .rejected

end Agent

section Rejection

open HaLeaseHandler

variable (conv : WideConversions) (config : Config) (payload : Fields)

/-- The bridge returns a payload or raises a `ProtocolError`; on a payload that it returns, the agent
answers or raises an `HaError`; and nothing that is raised changes the voter. -/
structure RejectsCleanly : Prop where
  validated : (∃ kept, validatePayload conv payload = .ok kept) ∨
    ∃ code message, validatePayload conv payload = .error (.protocol code message)
  answered : ∀ kept, validatePayload conv payload = .ok kept → ∀ source (voter : Voter),
    (∃ reply, (voter.answer config true conv ⟨source, kept⟩).2 = .ok reply) ∨
      ∃ error, (voter.answer config true conv ⟨source, kept⟩).2 = .error (.ha error)
  unchanged : ∀ source (voter : Voter) error,
    (voter.serve conv config true source payload).2 = .error error →
      (voter.serve conv config true source payload).1 = voter

variable {conv config payload} {kept : Fields} {source : Source} {voter : Voter} {field : String}
  {default : Value} {number : Int}

private theorem getD_of_toInt (read : conv.toInt (Fields.get payload field) = .ok number) :
    Fields.getD payload field default = Fields.get payload field := by
  unfold Fields.get Fields.getD at *
  cases listed : payload.lookup field with
  | none =>
      rw [listed] at read
      cases read
  | some value => rfl

theorem readInt_of_toInt (read : conv.toInt (Fields.get payload field) = .ok number) :
    Bridged.readInt conv (Fields.getD payload field default) = .ok number := by
  unfold Bridged.readInt
  rw [getD_of_toInt read, read]
  rfl

theorem numbers_of_intField {message : String} {first second : Int}
    (term : intField conv payload "term" message = .ok first)
    (leaseMs : intField conv payload "lease_ms" message = .ok second) :
    (⟨source, payload⟩ : Bridged).numbers conv config = .ok (first, second) := by
  unfold Bridged.numbers
  rw [readInt_of_toInt (intField_ok.mp term), readInt_of_toInt (intField_ok.mp leaseMs)]
  rfl

theorem range_kept {text : String} {bad : Prop} [Decidable bad]
    (passed : (if bad then .error (.protocol "bad_request" text) else .ok payload) =
      (.ok kept : Except Tep.Failure Fields)) : kept = payload := by
  by_cases outside : bad
  · rw [if_pos outside] at passed
    cases passed
  · rw [if_neg outside] at passed
    exact (Except.ok.inj passed).symm

private theorem validateVote_kept (config : Config)
    (passed : validateVote conv payload = .ok kept) :
    kept = payload ∧ ∀ source, ∃ pair, (⟨source, payload⟩ : Bridged).numbers conv config = .ok pair := by
  simp only [validateVote, Tep.bind_eq_ok] at passed
  rcases passed with ⟨-, -, priority, -, term, first, leaseMs, second, ranged⟩
  exact ⟨range_kept ranged, fun source => ⟨_, numbers_of_intField first second⟩⟩

private theorem validateRenewal_kept (config : Config)
    (passed : validateRenewal conv payload = .ok kept) :
    kept = payload ∧ ∀ source, ∃ pair, (⟨source, payload⟩ : Bridged).numbers conv config = .ok pair := by
  simp only [validateRenewal, Tep.bind_eq_ok] at passed
  rcases passed with ⟨-, -, term, first, leaseMs, second, ranged⟩
  exact ⟨range_kept ranged, fun source => ⟨_, numbers_of_intField first second⟩⟩

theorem validatePayload_kept (config : Config) (passed : validatePayload conv payload = .ok kept) :
    kept = payload ∧
      (fieldText conv payload "op" = "vote_request" ∨ fieldText conv payload "op" = "renew" →
        ∀ source, ∃ pair, (⟨source, payload⟩ : Bridged).numbers conv config = .ok pair) := by
  unfold validatePayload at passed
  dsimp only at passed
  cases listed : Tep.allowedOpKeys.lookup (fieldText conv payload "op") with
  | none =>
      rw [listed] at passed
      cases passed
  | some allowed =>
      rw [listed] at passed
      dsimp only at passed
      by_cases keys : keysAre payload allowed = true
      · rw [if_neg (by simp [keys]), Tep.bind_eq_ok] at passed
        rcases passed with ⟨-, -, passed⟩
        unfold validateOperation at passed
        by_cases asks : fieldText conv payload "op" = "vote_request"
        · rw [if_pos asks] at passed
          have kept := validateVote_kept config passed
          exact ⟨kept.1, fun _ => kept.2⟩
        · rw [if_neg asks] at passed
          by_cases renews : fieldText conv payload "op" = "renew"
          · rw [if_pos renews] at passed
            have kept := validateRenewal_kept config passed
            exact ⟨kept.1, fun _ => kept.2⟩
          · rw [if_neg renews] at passed
            refine ⟨(Except.ok.inj passed).symm, ?_⟩
            rintro (asked | renewed)
            · exact absurd asked asks
            · exact absurd renewed renews
      · rw [if_pos (by simp [keys])] at passed
        cases passed

/-- A payload that has passed the bridge: every exception of the agent is an `HaError`. -/
theorem answer_rejects (passed : validatePayload conv payload = .ok kept) :
    LeavesAsIs voter (fun _ => False) (voter.answer config true conv ⟨source, kept⟩) := by
  rcases validatePayload_kept config passed with ⟨rfl, reads⟩
  unfold Voter.answer
  cases LeaseEngine.restartGuard config voter.uptime source _ voter.state.votes voter.engine with
  | some reply => exact .replied
  | none =>
      intro trouble failed
      rcases handleRead_leaves trouble failed with ⟨same, error | ⟨unread, op⟩⟩
      · exact ⟨same, .inl error⟩
      · rcases reads op source with ⟨pair, read⟩
        rw [read] at unread
        cases unread

theorem serve_leaves {error : ServeError}
    (failed : (voter.serve conv config true source payload).2 = .error error) :
    (voter.serve conv config true source payload).1 = voter := by
  unfold Voter.serve at failed ⊢
  cases passed : validatePayload conv payload with
  | error failure => rfl
  | ok kept =>
      rw [passed] at failed
      dsimp only at failed ⊢
      cases answered : (voter.answer config true conv ⟨source, kept⟩).2 with
      | ok reply =>
          rw [answered] at failed
          cases failed
      | error trouble => exact (answer_rejects passed trouble answered).1

/-- The bridge and the agent reject cleanly exactly where `int` does not come to an infinity. -/
theorem rejectsCleanly_iff : RejectsCleanly conv config payload ↔ ¬MeetsInfinity conv payload := by
  rw [← validatePayload_graceful]
  constructor
  · intro clean
    rcases clean.validated with ⟨kept, passed⟩ | ⟨code, message, failed⟩
    · rw [passed]
      trivial
    · rw [failed]
      trivial
  · intro graceful
    refine ⟨graceful.cases, ?_, fun source voter error failed => serve_leaves failed⟩
    intro kept passed source voter
    cases answered : (voter.answer config true conv ⟨source, kept⟩).2 with
    | ok reply => exact .inl ⟨reply, rfl⟩
    | error trouble =>
        rcases (answer_rejects passed trouble answered).2 with ⟨error, same⟩ | none
        · exact .inr ⟨error, congrArg Except.error same⟩
        · exact none.elim

end Rejection

section Finite

open HaLeaseHandler

variable {conv : WideConversions} {payload : Dict} {config : Config}

theorem fieldText_ofFields (field : String) :
    fieldText conv (Value.ofFields payload) field = Tep.fieldText conv.toConversions payload field := by
  unfold fieldText Tep.fieldText
  rw [get_ofFields, WideConversions.text_ofJson]

theorem requireName_ofFields (field : String) :
    requireName conv (Value.ofFields payload) field =
      Tep.requireName conv.toConversions payload field := by
  unfold requireName named Tep.requireName
  rw [fieldText_ofFields]
  dsimp only
  by_cases empty : Tep.fieldText conv.toConversions payload field = ""
  · simp [empty]
  · by_cases long : 128 < (Tep.fieldText conv.toConversions payload field).length
    · have short : ¬(Tep.fieldText conv.toConversions payload field).length ≤ 128 := by omega
      simp [long, short]
    · have short : (Tep.fieldText conv.toConversions payload field).length ≤ 128 := by omega
      simp [empty, long, short]

theorem intField_ofFields (field message : String) :
    intField conv (Value.ofFields payload) field message =
      Tep.intField conv.toConversions payload field message := by
  have same : (conv.toInt _).mapError _ = _ := WideConversions.toInt_ofJson (Dict.get payload field)
  unfold intField Tep.intField
  rw [get_ofFields]
  rcases read : conv.toInt (.ofJson (Dict.get payload field)) with (_ | _ | text) | value
  · rw [read] at same
    rw [← same]
    rfl
  · rw [read] at same
    rw [← same]
    rfl
  · have infinite := WideConversions.toInt_overflow read
    rw [Value.isInfinity_ofJson] at infinite
    cases infinite
  · rw [read] at same
    rw [← same]
    rfl

theorem keysAre_ofFields (allowed : List String) :
    keysAre (Value.ofFields payload) allowed =
      ((payload.all fun field => field.1 ∈ allowed) &&
        allowed.all fun name => (payload.lookup name).isSome) := by
  have keys : (Value.ofFields payload).map Prod.fst = _ := keys_ofFields
  unfold keysAre
  congr 1
  · have all (fields : List (String × Value)) : (fields.all fun field => field.1 ∈ allowed) =
        (fields.map Prod.fst).all fun name => name ∈ allowed := by
      rw [List.all_map]
      rfl
    rw [all, keys, List.all_map]
    rfl
  · congr 1
    funext name
    rw [lookup_ofFields, Option.isSome_map]

theorem map_bind {ε α β γ : Type} (change : β → γ) (first : Except ε α) (next : α → Except ε β) :
    (first >>= next).map change = first >>= fun value => (next value).map change := by
  cases first with
  | error failure => rfl
  | ok value => rfl

theorem range_ofFields {bad : Prop} [Decidable bad] (failure : Tep.Failure) :
    (if bad then .error failure else .ok (Value.ofFields payload)) =
      (if bad then .error failure else .ok payload : Except Tep.Failure Dict).map
        Value.ofFields := by
  by_cases outside : bad
  · rw [if_pos outside, if_pos outside]
    rfl
  · rw [if_neg outside, if_neg outside]
    rfl

theorem validateOperation_ofFields (op : String) :
    validateOperation conv (Value.ofFields payload) op =
      (if op = "vote_request" then do
          Tep.requireName conv.toConversions payload "candidate"
          let priority ← Tep.intField conv.toConversions payload "priority"
            "invalid vote_request numeric fields"
          let term ← Tep.intField conv.toConversions payload "term"
            "invalid vote_request numeric fields"
          let leaseMs ← Tep.intField conv.toConversions payload "lease_ms"
            "invalid vote_request numeric fields"
          if priority < 0 ∨ term < 1 ∨ leaseMs < 1000 ∨ 120000 < leaseMs then
            .error (.protocol "bad_request" "vote_request fields out of range")
          else .ok payload
        else if op = "renew" then do
          Tep.requireName conv.toConversions payload "holder"
          let term ← Tep.intField conv.toConversions payload "term" "invalid renew numeric fields"
          let leaseMs ← Tep.intField conv.toConversions payload "lease_ms"
            "invalid renew numeric fields"
          if term < 1 ∨ leaseMs < 1000 ∨ 120000 < leaseMs then
            .error (.protocol "bad_request" "renew fields out of range")
          else .ok payload
        else .ok payload).map Value.ofFields := by
  unfold validateOperation
  by_cases asks : op = "vote_request"
  · rw [if_pos asks, if_pos asks]
    unfold validateVote
    simp only [map_bind, requireName_ofFields, intField_ofFields, range_ofFields]
  · rw [if_neg asks, if_neg asks]
    by_cases renews : op = "renew"
    · rw [if_pos renews, if_pos renews]
      unfold validateRenewal
      simp only [map_bind, requireName_ofFields, intField_ofFields, range_ofFields]
    · rw [if_neg renews, if_neg renews]
      rfl

/-- On finite numbers the bridge does what the model without the others does. -/
theorem validatePayload_ofFields :
    validatePayload conv (Value.ofFields payload) =
      (Tep.validatePayload conv.toConversions payload).map Value.ofFields := by
  unfold validatePayload Tep.validatePayload
  dsimp only
  rw [fieldText_ofFields]
  cases Tep.allowedOpKeys.lookup (Tep.fieldText conv.toConversions payload "op") with
  | none => rfl
  | some allowed =>
      dsimp only
      rw [keysAre_ofFields, Bool.not_and]
      rw [apply_ite (Except.map Value.ofFields), map_bind, requireName_ofFields]
      congr 2
      funext passed
      exact validateOperation_ofFields _

variable {source : Source} {written : Bool} {voter : Voter}

private theorem texts_ofFields : (⟨source, Value.ofFields payload⟩ : Bridged).texts conv =
    (⟨source, payload⟩ : Forwarded).texts conv.toConversions := by
  unfold Bridged.texts Forwarded.texts
  simp only [get_ofFields, WideConversions.strOr_ofJson]

theorem readInt_ofJson (value : Json) :
    Bridged.readInt conv (.ofJson value) =
      (conv.toConversions.toInt value).mapError .conversion := by
  unfold Bridged.readInt
  rw [← WideConversions.toInt_ofJson]
  cases conv.toInt (.ofJson value) with
  | error error => rfl
  | ok number => rfl

theorem numbers_ofFields : (⟨source, Value.ofFields payload⟩ : Bridged).numbers conv config =
    (⟨source, payload⟩ : Forwarded).numbers conv.toConversions config := by
  have term : Fields.getD (Value.ofFields payload) "term" (.int (-1)) = _ :=
    @getD_ofFields payload "term" (.int (-1))
  have leaseMs : Fields.getD (Value.ofFields payload) "lease_ms" (.int config.leaseMs) = _ :=
    @getD_ofFields payload "lease_ms" (.int config.leaseMs)
  unfold Bridged.numbers Forwarded.numbers
  dsimp only
  rw [term, leaseMs, readInt_ofJson, readInt_ofJson]

/-- On finite numbers the agent does what the voter does behind its guard. -/
theorem answer_ofFields : voter.answer config written conv ⟨source, Value.ofFields payload⟩ =
    match LeaseEngine.restartGuard config voter.uptime source
        ((⟨source, payload⟩ : Forwarded).texts conv.toConversions) voter.state.votes
        voter.engine with
    | some reply => (voter, .ok reply)
    | none => voter.handleTep conv.toConversions config ⟨source, payload⟩ written := by
  unfold Voter.answer
  rw [texts_ofFields, numbers_ofFields]
  rfl

end Finite

def wideConversions : WideConversions where
  toConversions := textConversions
  strValue _ := ""
  strValue_ofJson _ := rfl
  errorValue target _ := target
  errorValue_ofJson _ _ := rfl

/-- A vote request with a priority as `Infinity` or `1e400` writes it. -/
def infiniteVote : Fields :=
  [("op", .str "vote_request"), ("cluster_id", .str "hashburst"), ("candidate", .str "alpha"),
    ("priority", .infinity false), ("term", .int 1), ("lease_ms", .int 12000)]

theorem infiniteVote_escapes :
    HaLeaseHandler.validatePayload wideConversions infiniteVote = .error .other ∧
      ¬RejectsCleanly wideConversions voterConfig infiniteVote := by
  have escapes : HaLeaseHandler.validatePayload wideConversions infiniteVote = .error .other := rfl
  refine ⟨escapes, ?_⟩
  intro clean
  rcases clean.validated with ⟨kept, passed⟩ | ⟨code, message, failed⟩
  · rw [escapes] at passed
    cases passed
  · rw [escapes] at failed
    cases failed

/-- NaN is refused like any other value that is no number. -/
example : HaLeaseHandler.validatePayload wideConversions
    [("op", .str "renew"), ("cluster_id", .str "hashburst"), ("holder", .str "alpha"),
      ("term", .nan), ("lease_ms", .int 12000)] =
    .error (.protocol "bad_request" "invalid renew numeric fields") := rfl

end HashBurst.Ha
