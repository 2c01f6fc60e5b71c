import HashBurst.Tep.Messages

namespace HashBurst.Tep

open Lib Lib.Py

/-- `validate_envelope(value, check_time=False)` of any JSON value. -/
def validateJson (services : List String) (value : Json) : Except Raised ValidatedEnvelope := do
  let message ← requireDict value "message"
  validateUntimed services message

section Grammar

variable (fields : Dict) (field : String)

/-- A string that is not blank, and not longer than the limit without the blanks around it. -/
def Named (limit : Nat) : Prop :=
  ∃ text, fields.get field = .str text ∧ strip text ≠ "" ∧ (strip text).length ≤ limit

def IntWithin (low high : Int) : Prop :=
  ∃ value, fields.get field = .int value ∧ low ≤ value ∧ value ≤ high

def HasObject (holds : Dict → Prop) : Prop :=
  ∃ inner, fields.get field = .obj inner ∧ holds inner

def Identified : Prop :=
  HasObject fields field fun inner => Named inner "node_id" 128 ∧ Named inner "peer_id" 256

def HexField (hex : String → Prop) : Prop := ∃ text, fields.get field = .str text ∧ hex text

def Hex32 (text : String) : Prop :=
  text.length = 32 ∧ ∀ c ∈ text.toList, c ∈ "0123456789abcdef".toList

structure Wording where
  hex : String → Prop
  service : String → Prop

def Wording.strict (services : List String) : Wording where
  hex := Hex32
  service text := text ∈ services

/-- As the code reads them: `bytes.fromhex` skips blanks, and a service is trimmed. -/
def Wording.read (services : List String) : Wording where
  hex text := isHex text 32 = true
  service text := strip text ≠ "" ∧ (strip text).length ≤ 128 ∧ strip text ∈ services

variable (wording : Wording) (type : String)

def Served : Prop := ∃ text, fields.get "service" = .str text ∧ wording.service text

/-- A code, and a message of up to 512 characters if there is one. -/
def ErrorObject (inner : Dict) : Prop :=
  Named inner "code" 128 ∧ (inner.get "message" = .null ∨
    ∃ text, inner.get "message" = .str text ∧ text.length ≤ 512)

structure Typed : Prop where
  service : type = "req" ∨ type = "res" ∨ type = "err" → Served fields wording
  ttl : type = "req" ∨ type = "relay_req" → IntWithin fields "ttl_ms" 1 5000
  payload : type = "req" ∨ type = "res" → HasObject fields "payload" fun _ => True
  status : type = "res" → IntWithin fields "status" 200 399
  errorStatus : type = "err" → IntWithin fields "status" 400 599
  error : type = "err" → HasObject fields "error" ErrorObject
  target : type = "relay_req" ∨ type = "relay_res" →
    HasObject fields "relay_target" fun inner => Named inner "peer_id" 256
  inner : type = "relay_req" ∨ type = "relay_res" →
    HasObject fields "payload" fun inner => ∃ text, inner.get "inner" = .str text ∧ text ≠ ""

structure Conforms : Prop where
  version : fields.get "v" = .int 1
  requestId : HexField fields "request_id" wording.hex
  nonce : HexField fields "nonce" wording.hex
  source : Identified fields "source"
  destination : Identified fields "destination"
  timestamp : ∃ value, fields.get "timestamp_ms" = .int value ∧ 0 ≤ value
  typed : ∃ type ∈ supportedTypes, fields.get "type" = .str type ∧ Typed fields wording type

end Grammar

def Grammar (wording : Wording) (value : Json) : Prop :=
  ∃ fields, value = .obj fields ∧ Conforms fields wording

def Accepted (services : List String) (value : Json) : Prop :=
  ∃ env, validateJson services value = .ok env

section Fields

variable {message fields : Dict} {field : String} {limit : Nat}

theorem requireNonemptyStr_accepts :
    (∃ name, requireNonemptyStr fields field limit = .ok name) ↔ Named fields field limit := by
  unfold requireNonemptyStr Named
  cases fields.get field with
  | str text =>
      simp only [Json.str.injEq, exists_eq_left']
      by_cases empty : strip text = ""
      · simp [empty]
      · by_cases long : limit < (strip text).length
        · simp [empty, long]
        · simp [empty, long, Nat.le_of_not_lt long]
  | _ => simp

theorem requireDict_accepts {value : Json} {own : Dict} :
    requireDict value field = .ok own ↔ value = .obj own := by
  cases value with
  | obj fields => simp [requireDict]
  | _ => simp [requireDict]

theorem validateIdentity_accepts :
    (∃ identity, validateIdentity (message.get field) field = .ok identity) ↔
      Identified message field := by
  unfold validateIdentity Identified HasObject
  simp only [bind_eq_ok, requireDict_accepts]
  constructor
  · rintro ⟨identity, inner, same, nodeId, named, peerId, known, -⟩
    exact ⟨inner, same, requireNonemptyStr_accepts.mp ⟨nodeId, named⟩,
      requireNonemptyStr_accepts.mp ⟨peerId, known⟩⟩
  · rintro ⟨inner, same, named, known⟩
    obtain ⟨nodeId, node⟩ := requireNonemptyStr_accepts.mpr named
    obtain ⟨peerId, peer⟩ := requireNonemptyStr_accepts.mpr known
    exact ⟨_, inner, same, nodeId, node, peerId, peer, rfl⟩

theorem version_accepts : (∃ version, Envelope.version message = .ok version) ↔
    message.get "v" = .int 1 := by
  unfold Envelope.version
  cases message.get "v" with
  | int version =>
      simp only [bind_eq_ok, require_eq_ok, decide_eq_true_eq, Json.int.injEq]
      constructor
      · rintro ⟨own, -, one, -⟩
        exact one
      · intro one
        exact ⟨version, (), one, rfl⟩
  | _ => simp

theorem msgType_accepts {type : String} : Envelope.msgType message = .ok type ↔
    message.get "type" = .str type ∧ type ∈ supportedTypes := by
  unfold Envelope.msgType
  cases message.get "type" with
  | str own =>
      simp only [bind_eq_ok, require_eq_ok, decide_eq_true_eq, Json.str.injEq]
      constructor
      · rintro ⟨-, supported, done⟩
        cases done
        exact ⟨rfl, supported⟩
      · rintro ⟨rfl, supported⟩
        exact ⟨(), supported, rfl⟩
  | _ => simp

theorem hexField_accepts : (∃ text, Envelope.hexField message field limit = .ok text) ↔
    HexField message field fun text => isHex text limit = true := by
  unfold Envelope.hexField HexField
  cases message.get field with
  | str text =>
      simp only [bind_eq_ok, require_eq_ok, Json.str.injEq, exists_eq_left']
      constructor
      · rintro ⟨own, -, hex, -⟩
        exact hex
      · intro hex
        exact ⟨text, (), hex, rfl⟩
  | _ => simp

theorem timestampMs_accepts : (∃ timestamp, Envelope.timestampMs message = .ok timestamp) ↔
    ∃ value, message.get "timestamp_ms" = .int value ∧ 0 ≤ value := by
  unfold Envelope.timestampMs
  cases message.get "timestamp_ms" with
  | int value =>
      simp only [bind_eq_ok, require_eq_ok, decide_eq_true_eq, Json.int.injEq, exists_eq_left']
      constructor
      · rintro ⟨own, -, past, -⟩
        exact past
      · intro past
        exact ⟨value, (), past, rfl⟩
  | _ => simp

theorem timestampMs_read {timestamp : Int} (read : Envelope.timestampMs message = .ok timestamp) :
    message.get "timestamp_ms" = .int timestamp := by
  unfold Envelope.timestampMs at read
  cases own : message.get "timestamp_ms" with
  | int value =>
      simp only [own, bind_eq_ok, require_eq_ok] at read
      rcases read with ⟨-, -, done⟩
      rw [Except.ok.inj done]
  | _ =>
      rw [own] at read
      cases read

end Fields

section Types

variable {message : Dict} {services : List String} {type : String}

theorem service_accepts : (∃ service, Envelope.service message services type = .ok service) ↔
    (type = "req" ∨ type = "res" ∨ type = "err" → Served message (.read services)) := by
  unfold Envelope.service
  by_cases app : type = "req" ∨ type = "res" ∨ type = "err"
  · rw [if_pos app, forall_prop_of_true app]
    simp only [bind_eq_ok, require_eq_ok, decide_eq_true_eq]
    constructor
    · rintro ⟨_, name, named, -, supported, -⟩
      unfold requireNonemptyStr at named
      cases own : message.get "service" with
      | str text =>
          rw [own] at named
          simp only at named
          split at named
          · cases named
          · split at named
            · cases named
            · rename_i filled short
              cases named
              exact ⟨text, own, filled, Nat.le_of_not_lt short, supported⟩
      | _ =>
          rw [own] at named
          cases named
    · rintro ⟨text, own, filled, short, supported⟩
      refine ⟨_, strip text, ?_, (), supported, rfl⟩
      rw [requireNonemptyStr, own]
      simp only [if_neg filled, if_neg (Nat.not_lt.mpr short)]
  · rw [if_neg app]
    exact iff_of_true ⟨none, rfl⟩ fun other => absurd other app

theorem ttlMs_accepts : (∃ ttl, Envelope.ttlMs message type = .ok ttl) ↔
    (type = "req" ∨ type = "relay_req" → IntWithin message "ttl_ms" 1 5000) := by
  unfold Envelope.ttlMs IntWithin
  by_cases lives : type = "req" ∨ type = "relay_req"
  · rw [if_pos lives, forall_prop_of_true lives]
    cases message.get "ttl_ms" with
    | int value =>
        have limit : maxTtlMs = 5000 := rfl
        simp only [bind_eq_ok, require_eq_ok, Bool.and_eq_true, decide_eq_true_eq, Json.int.injEq,
          exists_eq_left', limit]
        constructor
        · rintro ⟨_, -, ⟨positive, bounded⟩, -⟩
          exact ⟨by omega, bounded⟩
        · rintro ⟨positive, bounded⟩
          exact ⟨some value, (), ⟨by omega, bounded⟩, rfl⟩
    | _ => simp
  · rw [if_neg lives]
    exact iff_of_true ⟨none, rfl⟩ fun other => absurd other lives

theorem checkPayload_accepts : Envelope.checkPayload message type = .ok () ↔
    (type = "req" ∨ type = "res" → HasObject message "payload" fun _ => True) := by
  unfold Envelope.checkPayload HasObject
  by_cases carries : type = "req" ∨ type = "res"
  · rw [if_pos carries, forall_prop_of_true carries, require_eq_ok]
    cases message.get "payload" with
    | obj inner => simp [Envelope.isDict]
    | _ => simp [Envelope.isDict]
  · rw [if_neg carries]
    exact iff_of_true rfl fun other => absurd other carries

theorem checkStatus_accepts {low high : Int} {text : String} :
    Envelope.checkStatus message low high text = .ok () ↔ IntWithin message "status" low high := by
  unfold Envelope.checkStatus IntWithin
  cases message.get "status" with
  | int value =>
      simp only [require_eq_ok, Bool.and_eq_true, decide_eq_true_eq, Json.int.injEq, exists_eq_left']
  | _ => simp

theorem checkResponse_accepts : Envelope.checkResponse message type = .ok () ↔
    (type = "res" → IntWithin message "status" 200 399) := by
  unfold Envelope.checkResponse
  by_cases response : type = "res"
  · rw [if_pos response, forall_prop_of_true response, checkStatus_accepts]
  · rw [if_neg response]
    exact iff_of_true rfl fun other => absurd other response

theorem checkError_accepts : Envelope.checkError message type = .ok () ↔
    (type = "err" → IntWithin message "status" 400 599) ∧
      (type = "err" → HasObject message "error" ErrorObject) := by
  unfold Envelope.checkError
  by_cases error : type = "err"
  · rw [if_pos error, forall_prop_of_true error, forall_prop_of_true error]
    simp only [bind_eq_ok, requireDict_accepts, HasObject, ErrorObject]
    constructor
    · rintro ⟨⟨⟩, status, inner, own, code, named, passed⟩
      refine ⟨checkStatus_accepts.mp status, inner, own, requireNonemptyStr_accepts.mp ⟨code, named⟩, ?_⟩
      cases text : Dict.get inner "message" with
      | null => exact .inl rfl
      | str words =>
          simp only [text, require_eq_ok, decide_eq_true_eq] at passed
          exact .inr ⟨words, rfl, passed⟩
      | _ =>
          rw [text] at passed
          cases passed
    · rintro ⟨status, inner, own, named, message⟩
      obtain ⟨code, named⟩ := requireNonemptyStr_accepts.mpr named
      refine ⟨(), checkStatus_accepts.mpr status, inner, own, code, named, ?_⟩
      rcases message with none | ⟨words, text, short⟩
      · rw [none]
        rfl
      · simp only [text, require_eq_ok, decide_eq_true_eq]
        exact short
  · rw [if_neg error]
    exact iff_of_true rfl ⟨fun other => absurd other error, fun other => absurd other error⟩

theorem checkRelay_accepts : Envelope.checkRelay message type = .ok () ↔
    (type = "relay_req" ∨ type = "relay_res" →
        HasObject message "relay_target" fun inner => Named inner "peer_id" 256) ∧
      (type = "relay_req" ∨ type = "relay_res" → HasObject message "payload" fun inner =>
        ∃ text, inner.get "inner" = .str text ∧ text ≠ "") := by
  unfold Envelope.checkRelay
  by_cases relay : type = "relay_req" ∨ type = "relay_res"
  · rw [if_pos relay, forall_prop_of_true relay, forall_prop_of_true relay]
    simp only [bind_eq_ok, requireDict_accepts, HasObject]
    constructor
    · rintro ⟨target, own, peer, named, passed⟩
      refine ⟨⟨target, own, requireNonemptyStr_accepts.mp ⟨peer, named⟩⟩, ?_⟩
      cases payload : message.get "payload" with
      | obj inner =>
          simp only [payload, bind_eq_ok] at passed
          obtain ⟨-, -, passed⟩ := passed
          refine ⟨inner, rfl, ?_⟩
          cases text : Dict.get inner "inner" with
          | str words =>
              simp only [text, require_eq_ok, decide_eq_true_eq] at passed
              exact ⟨words, rfl, passed⟩
          | _ =>
              rw [text] at passed
              cases passed
      | _ =>
          rw [payload] at passed
          cases passed
    · rintro ⟨⟨target, own, named⟩, inner, payload, words, text, filled⟩
      obtain ⟨peer, named⟩ := requireNonemptyStr_accepts.mpr named
      refine ⟨target, own, peer, named, ?_⟩
      have present : (List.lookup "inner" inner).isSome = true := by
        cases found : List.lookup "inner" inner with
        | some value => rfl
        | none =>
            rw [Dict.get, Dict.getD, found] at text
            cases text
      simp only [payload, bind_eq_ok, require_eq_ok, text, decide_eq_true_eq]
      exact ⟨(), present, filled⟩
  · rw [if_neg relay]
    exact iff_of_true rfl ⟨fun other => absurd other relay, fun other => absurd other relay⟩

end Types

section Acceptance

variable {services : List String} {message : Dict}

theorem checkWindow_own (timestamp : Int) :
    Envelope.checkWindow timestamp timestamp = .ok () := by
  unfold Envelope.checkWindow
  simp only [bind_eq_ok, require_eq_ok, decide_eq_true_eq]
  refine ⟨(), ?_, ?_⟩
  · unfold pastSkewMs
    omega
  · unfold futureSkewMs
    omega

/-- What the code accepts is the grammar, with its own notion of hexadecimal text, within the
window. -/
theorem validateEnvelope_accepts {nowMs : Int} :
    (∃ env, validateEnvelope services message nowMs = .ok env) ↔
      Conforms message (.read services) ∧
        ∃ timestamp, message.get "timestamp_ms" = .int timestamp ∧
          Envelope.checkWindow timestamp nowMs = .ok () := by
  simp only [validateEnvelope_eq_ok]
  constructor
  · rintro ⟨env, reads⟩
    obtain ⟨typed, supported⟩ := msgType_accepts.mp reads.msgType
    obtain ⟨errorStatus, error⟩ := checkError_accepts.mp reads.error
    obtain ⟨target, inner⟩ := checkRelay_accepts.mp reads.relay
    refine ⟨?_, env.timestampMs, timestampMs_read reads.timestampMs, reads.window⟩
    exact
      { version := version_accepts.mp ⟨_, reads.version⟩
        requestId := hexField_accepts.mp ⟨_, reads.requestId⟩
        nonce := hexField_accepts.mp ⟨_, reads.nonce⟩
        source := validateIdentity_accepts.mp ⟨_, reads.source⟩
        destination := validateIdentity_accepts.mp ⟨_, reads.destination⟩
        timestamp := timestampMs_accepts.mp ⟨_, reads.timestampMs⟩
        typed := ⟨env.msgType, supported, typed,
          { service := service_accepts.mp ⟨_, reads.service⟩
            ttl := ttlMs_accepts.mp ⟨_, reads.ttlMs⟩
            payload := checkPayload_accepts.mp reads.payload
            status := checkResponse_accepts.mp reads.response
            errorStatus, error, target, inner }⟩ }
  · rintro ⟨conforms, timestamp, stamped, window⟩
    obtain ⟨type, supported, named, typed⟩ := conforms.typed
    obtain ⟨version, versioned⟩ := version_accepts.mpr conforms.version
    obtain ⟨requestId, identified⟩ := hexField_accepts.mpr conforms.requestId
    obtain ⟨nonce, nonced⟩ := hexField_accepts.mpr conforms.nonce
    obtain ⟨source, sourced⟩ := validateIdentity_accepts.mpr conforms.source
    obtain ⟨destination, addressed⟩ := validateIdentity_accepts.mpr conforms.destination
    obtain ⟨read, stamp⟩ := timestampMs_accepts.mpr conforms.timestamp
    obtain ⟨service, served⟩ := service_accepts.mpr typed.service
    obtain ⟨ttl, lived⟩ := ttlMs_accepts.mpr typed.ttl
    have same : read = timestamp := Json.int.inj ((timestampMs_read stamp).symm.trans stamped)
    exact ⟨⟨message, version, type, requestId, source, destination, service, read, nonce, ttl⟩,
      { raw := rfl
        version := versioned
        msgType := msgType_accepts.mpr ⟨named, supported⟩
        requestId := identified
        source := sourced
        destination := addressed
        nonce := nonced
        timestampMs := stamp
        window := by
          rw [same]
          exact window
        service := served
        ttlMs := lived
        payload := checkPayload_accepts.mpr typed.payload
        error := checkError_accepts.mpr ⟨typed.errorStatus, typed.error⟩
        response := checkResponse_accepts.mpr typed.status
        relay := checkRelay_accepts.mpr ⟨typed.target, typed.inner⟩ }⟩

theorem validateUntimed_accepts : (∃ env, validateUntimed services message = .ok env) ↔
    Conforms message (.read services) := by
  unfold validateUntimed
  rw [validateEnvelope_accepts]
  constructor
  · exact fun both => both.1
  · intro conforms
    obtain ⟨timestamp, stamped, -⟩ := conforms.timestamp
    refine ⟨conforms, timestamp, stamped, ?_⟩
    rw [stamped]
    exact checkWindow_own timestamp

theorem accepted_iff {value : Json} : Accepted services value ↔
    Grammar (.read services) value := by
  unfold Accepted validateJson Grammar
  simp only [bind_eq_ok, requireDict_accepts]
  constructor
  · rintro ⟨env, message, same, valid⟩
    exact ⟨message, same, validateUntimed_accepts.mp ⟨env, valid⟩⟩
  · rintro ⟨message, same, conforms⟩
    obtain ⟨env, valid⟩ := validateUntimed_accepts.mpr conforms
    exact ⟨env, message, same, valid⟩

end Acceptance

section Hex

/-- The ASCII blanks, which `bytes.fromhex` skips. -/
def blank (c : Char) : Bool := decide (c = ' ' ∨ (9 ≤ c.toNat ∧ c.toNat ≤ 13))

theorem hexDigit_lower (c : Char) : c ∈ "0123456789abcdef".toList ↔
    (hexDigit c).isSome = true ∧ c.toLower = c := by
  have all : ∀ code < 128, Char.ofNat code ∈ "0123456789abcdef".toList ↔
      (hexDigit (Char.ofNat code)).isSome = true ∧
        (Char.ofNat code).toLower = Char.ofNat code := by decide +kernel
  have small : (hexDigit c).isSome = true → c.toNat < 128 := by
    unfold hexDigit
    simp only
    repeat' split
    all_goals first | omega | simp
  have listed : ∀ own ∈ "0123456789abcdef".toList, own.toNat < 128 := by
    have all : "0123456789abcdef".toList.all fun own => own.toNat < 128 := by decide
    intro own member
    exact of_decide_eq_true (List.all_eq_true.mp all own member)
  have own := Char.ofNat_toNat c
  constructor
  · intro member
    have digit := (all c.toNat (listed c member)).mp
    rw [own] at digit
    exact digit member
  · intro digit
    have member := (all c.toNat (small digit.1)).mpr
    rw [own] at member
    exact member digit

theorem fromHex_digits {text : List Char} (solid : ∀ c ∈ text, blank c = false)
    (read : (fromHex text).isSome = true) : ∀ c ∈ text, (hexDigit c).isSome = true := by
  induction text using fromHex.induct with
  | case1 => exact fun c member => absurd member List.not_mem_nil
  | case2 first rest skipped ih =>
      have filled := solid first List.mem_cons_self
      rw [blank, decide_eq_true skipped] at filled
      cases filled
  | case3 first solidFirst =>
      rw [fromHex, if_neg solidFirst] at read
      cases read
  | case4 first solidFirst second rest high low bytes later lower upper ih =>
      have tail := ih (fun c member => solid c (List.mem_cons_of_mem _ (List.mem_cons_of_mem _ member)))
        (by rw [later]; rfl)
      intro c member
      rcases List.mem_cons.mp member with rfl | member
      · rw [upper]
        rfl
      · rcases List.mem_cons.mp member with rfl | member
        · rw [lower]
          rfl
        · exact tail c member
  | case5 first solidFirst second rest fails ih =>
      rw [fromHex, if_neg solidFirst] at read
      simp only at read
      cases read

theorem fromHex_even {text : List Char} (even : text.length % 2 = 0)
    (digits : ∀ c ∈ text, (hexDigit c).isSome = true) (solid : ∀ c ∈ text, blank c = false) :
    (fromHex text).isSome = true := by
  match text with
  | [] => rfl
  | [first] => cases even
  | first :: second :: rest =>
      have later : (fromHex rest).isSome = true := by
        apply fromHex_even
        · rw [List.length_cons, List.length_cons] at even
          omega
        · exact fun c member => digits c (List.mem_cons_of_mem _ (List.mem_cons_of_mem _ member))
        · exact fun c member => solid c (List.mem_cons_of_mem _ (List.mem_cons_of_mem _ member))
      obtain ⟨bytes, later⟩ := Option.isSome_iff_exists.mp later
      obtain ⟨high, upper⟩ := Option.isSome_iff_exists.mp (digits first List.mem_cons_self)
      obtain ⟨low, lower⟩ := Option.isSome_iff_exists.mp
        (digits second (List.mem_cons_of_mem _ List.mem_cons_self))
      have filled := of_decide_eq_false (solid first List.mem_cons_self)
      rw [fromHex, if_neg filled]
      simp only [upper, lower, later]
      rfl

theorem isHex_iff {text : String} :
    Hex32 text ↔ isHex text 32 = true ∧ ∀ c ∈ text.toList, blank c = false := by
  have digit := hexDigit_lower
  have solidDigit : ∀ c ∈ "0123456789abcdef".toList, blank c = false := by
    have all : "0123456789abcdef".toList.all fun c => !blank c := by decide
    intro c member
    have solid := List.all_eq_true.mp all c member
    rwa [Bool.not_eq_true'] at solid
  have lowered : lower text = text ↔ ∀ c ∈ text.toList, c.toLower = c := by
    have mapped : text.toList.map Char.toLower = text.toList.map id ↔ _ := List.map_inj_left
    rw [List.map_id] at mapped
    simp only [id_eq] at mapped
    rw [← mapped, lower]
    constructor
    · intro same
      have lists := congrArg String.toList same
      rw [String.toList_ofList] at lists
      exact lists
    · intro same
      rw [same, String.ofList_toList]
  unfold isHex Hex32
  rw [Bool.and_eq_true, Bool.and_eq_true, decide_eq_true_eq, decide_eq_true_eq, lowered]
  constructor
  · rintro ⟨sized, each⟩
    have solid : ∀ c ∈ text.toList, blank c = false := fun c member => solidDigit c (each c member)
    refine ⟨⟨⟨sized, ?_⟩, fun c member => ((digit c).mp (each c member)).2⟩, solid⟩
    apply fromHex_even _ (fun c member => ((digit c).mp (each c member)).1) solid
    rw [String.length_toList, sized]
  · rintro ⟨⟨⟨sized, read⟩, lowercase⟩, solid⟩
    refine ⟨sized, ?_⟩
    intro c member
    exact (digit c).mpr ⟨fromHex_digits solid read c member, lowercase c member⟩

example : isHex "0123456789ABCDEF0123456789abcdef" 32 = false := by decide +kernel

theorem hexField_reads {message : Dict} {field text : String} (held : message.get field = .str text)
    (sized : text.length = 32)
    (digits : text.toList.all fun c => "0123456789abcdef".toList.contains c) :
    Envelope.hexField message field 32 = .ok text := by
  have hex : Hex32 text := by
    refine ⟨sized, ?_⟩
    intro c member
    exact List.contains_iff_mem.mp (List.all_eq_true.mp digits c member)
  unfold Envelope.hexField
  rw [held]
  simp only [bind_eq_ok, require_eq_ok]
  exact ⟨(), (isHex_iff.mp hex).1, rfl⟩

end Hex

/-- The identifiers of the message have no blanks, and its service has none around it. -/
structure Solid (fields : Dict) : Prop where
  identifiers : ∀ field ∈ ["request_id", "nonce"], ∀ text, fields.get field = .str text →
    ∀ c ∈ text.toList, blank c = false
  service : ∀ type ∈ ["req", "res", "err"], fields.get "type" = .str type →
    ∀ text, fields.get "service" = .str text → strip text = text

theorem hexField_solid {fields : Dict} {field : String} : HexField fields field Hex32 ↔
    HexField fields field (fun text => isHex text 32 = true) ∧
      ∀ text, fields.get field = .str text → ∀ c ∈ text.toList, blank c = false := by
  constructor
  · rintro ⟨text, own, hex⟩
    obtain ⟨read, solid⟩ := isHex_iff.mp hex
    refine ⟨⟨text, own, read⟩, ?_⟩
    intro other same
    have equal : text = other := Json.str.inj (own.symm.trans same)
    rw [← equal]
    exact solid
  · rintro ⟨⟨text, own, read⟩, solid⟩
    exact ⟨text, own, isHex_iff.mpr ⟨read, solid text own⟩⟩

/-- Names that trimming leaves as they are, and that are not too long. -/
def Trimmed (services : List String) : Prop :=
  ∀ service ∈ services, strip service = service ∧ service ≠ "" ∧ service.length ≤ 128

section Wordings

variable {services : List String} {fields : Dict}

theorem served_solid (trimmed : Trimmed services) : Served fields (.strict services) ↔
    Served fields (.read services) ∧
      ∀ text, fields.get "service" = .str text → strip text = text := by
  constructor
  · rintro ⟨text, own, supported⟩
    obtain ⟨same, filled, short⟩ := trimmed text supported
    constructor
    · refine ⟨text, own, ?_⟩
      simp only [Wording.read, same]
      exact ⟨filled, short, supported⟩
    · intro other held
      rw [← Json.str.inj (own.symm.trans held)]
      exact same
  · rintro ⟨⟨text, own, filled, short, supported⟩, solid⟩
    rw [solid text own] at supported
    exact ⟨text, own, supported⟩

theorem typed_solid (trimmed : Trimmed services) {type : String} :
    Typed fields (.strict services) type ↔ Typed fields (.read services) type ∧
      (type = "req" ∨ type = "res" ∨ type = "err" →
        ∀ text, fields.get "service" = .str text → strip text = text) := by
  constructor
  · intro typed
    exact ⟨{ typed with service := fun app => ((served_solid trimmed).mp (typed.service app)).1 },
      fun app => ((served_solid trimmed).mp (typed.service app)).2⟩
  · rintro ⟨typed, solid⟩
    exact { typed with
      service := fun app => (served_solid trimmed).mpr ⟨typed.service app, solid app⟩ }

theorem conforms_solid (trimmed : Trimmed services) : Conforms fields (.strict services) ↔
    Conforms fields (.read services) ∧ Solid fields := by
  constructor
  · intro conforms
    obtain ⟨requestId, first⟩ := hexField_solid.mp conforms.requestId
    obtain ⟨nonce, second⟩ := hexField_solid.mp conforms.nonce
    obtain ⟨type, supported, own, typed⟩ := conforms.typed
    obtain ⟨loose, solid⟩ := (typed_solid trimmed).mp typed
    refine ⟨{ conforms with requestId, nonce, typed := ⟨type, supported, own, loose⟩ }, ?_⟩
    constructor
    · intro field member
      rcases List.mem_cons.mp member with rfl | member
      · exact first
      · rcases List.mem_cons.mp member with rfl | member
        · exact second
        · cases member
    · intro other member named
      have same : type = other := Json.str.inj (own.symm.trans named)
      rw [← same] at member
      simp only [List.mem_cons, List.not_mem_nil, or_false] at member
      exact solid member
  · rintro ⟨conforms, solid⟩
    obtain ⟨type, supported, own, typed⟩ := conforms.typed
    refine { conforms with requestId := ?_, nonce := ?_, typed := ⟨type, supported, own, ?_⟩ }
    · exact hexField_solid.mpr ⟨conforms.requestId, solid.identifiers "request_id" (by decide)⟩
    · exact hexField_solid.mpr ⟨conforms.nonce, solid.identifiers "nonce" (by decide)⟩
    · refine (typed_solid trimmed).mpr ⟨typed, ?_⟩
      intro app
      apply solid.service type _ own
      simp only [List.mem_cons, List.not_mem_nil, or_false]
      exact app

end Wordings

/-- The validator accepts exactly the grammar, except for messages that are in order but for blanks
among the digits of their request id or nonce, or around their service: it accepts these too. -/
theorem accepted_grammar_iff (services : List String) (trimmed : Trimmed services) (value : Json) :
    (Accepted services value ↔ Grammar (.strict services) value) ↔
      ∀ fields, value = .obj fields → Conforms fields (.read services) → Solid fields := by
  rw [accepted_iff]
  constructor
  · intro same fields own loose
    obtain ⟨other, held, conforms⟩ := same.mp ⟨fields, own, loose⟩
    rw [Json.obj.inj (own.symm.trans held)]
    exact ((conforms_solid trimmed).mp conforms).2
  · intro solid
    constructor
    · rintro ⟨fields, own, loose⟩
      exact ⟨fields, own, (conforms_solid trimmed).mpr ⟨loose, solid fields own loose⟩⟩
    · rintro ⟨fields, own, conforms⟩
      exact ⟨fields, own, ((conforms_solid trimmed).mp conforms).1⟩

def requestOf (requestId service : String) : Dict :=
  [("v", .int 1), ("type", .str "req"), ("request_id", .str requestId),
    ("source", .obj [("node_id", .str "node-a"), ("peer_id", .str "peer-a")]),
    ("destination", .obj [("node_id", .str "node-b"), ("peer_id", .str "peer-b")]),
    ("service", .str service), ("timestamp_ms", .int 5000),
    ("nonce", .str "00112233445566778899aabbccddeeff"), ("ttl_ms", .int 3000),
    ("payload", .obj [])]

def paddedMessage : Dict := requestOf "0123456789abcdef0123456789abcdef" " storage.summary\n"

theorem summary_trimmed : Trimmed ["storage.summary"] := by
  unfold Trimmed
  decide

theorem accepted_grammar_iff_padded : Trimmed ["storage.summary"] ∧
    ((Accepted ["storage.summary"] (.obj paddedMessage) ↔
        Grammar (.strict ["storage.summary"]) (.obj paddedMessage)) ↔
      ∀ fields, Json.obj paddedMessage = .obj fields →
        Conforms fields (.read ["storage.summary"]) → Solid fields) :=
  ⟨summary_trimmed, accepted_grammar_iff _ summary_trimmed _⟩

theorem padded_accepted : ¬ (Accepted ["storage.summary"] (.obj paddedMessage) ↔
    Grammar (.strict ["storage.summary"]) (.obj paddedMessage)) := by
  intro same
  have passes : (validateJson ["storage.summary"] (.obj paddedMessage)).isOk = true := by
    decide +kernel
  obtain ⟨fields, own, conforms⟩ := same.mp (exists_of_isOk passes)
  cases own
  obtain ⟨type, -, named, typed⟩ := conforms.typed
  have request : type = "req" := (Json.str.inj named).symm
  obtain ⟨text, own, supported⟩ := typed.service (.inl request)
  have padded : text = " storage.summary\n" := (Json.str.inj own).symm
  rw [padded] at supported
  exact absurd (List.mem_singleton.mp supported) (by decide)

/-- A request whose id is 15 bytes in hexadecimal, and two blanks. -/
def blankMessage : Dict := requestOf "00 112233445566778899aabbccddee " "storage.summary"

theorem blank_accepted : ¬ (Accepted ["storage.summary"] (.obj blankMessage) ↔
    Grammar (.strict ["storage.summary"]) (.obj blankMessage)) := by
  intro same
  have passes : (validateJson ["storage.summary"] (.obj blankMessage)).isOk = true := by decide +kernel
  obtain ⟨fields, own, conforms⟩ := same.mp (exists_of_isOk passes)
  cases own
  obtain ⟨text, own, -, digits⟩ := conforms.requestId
  have spaced : text = "00 112233445566778899aabbccddee " := (Json.str.inj own).symm
  rw [spaced] at digits
  exact absurd (digits ' ' (by decide)) (by decide)

end HashBurst.Tep
