import HashBurst.Tep.RoundTrip

namespace HashBurst.Tep

open Lib Lib.Py JsonText

def textBytes (text : String) : Nat := bytesOf (writeStr text)

def intBytes (value : Int) : Nat := bytesOf (Numeral.ofInt value).text

def identityBytes (identity : Identity) : Nat :=
  23 + textBytes identity.nodeId + textBytes identity.peerId

section Wrap

variable (services : List String) (source destination : Identity) (stamp : Stamp)
  (targetPeerId requestId : String)

/-- What every relay message has around its `inner`, apart from the names of its own fields. -/
def wrapperBytes : Nat :=
  textBytes requestId + identityBytes source + identityBytes destination + textBytes targetPeerId +
    intBytes stamp.timestampMs + textBytes stamp.nonce

def relayRequestBytes (ttlMs : Int) (inner : Nat) : Nat :=
  151 + wrapperBytes source destination stamp targetPeerId requestId + intBytes ttlMs +
    (inner + 2) / 3 * 4

def relayResponseBytes (inner : Nat) : Nat :=
  141 + wrapperBytes source destination stamp targetPeerId requestId + (inner + 2) / 3 * 4

end Wrap

/-- The message is built, encoded and decoded, and its `inner` is read as these bytes. -/
def Carried (py : Python) (codec : Codec) (nowMs : Int) (built : Except Raised Dict)
    (inner : Bytes) : Prop :=
  ∃ outer raw env payload text, built = .ok outer ∧
    encodeMessage py.services codec outer = .ok raw ∧ decodeMessage py nowMs raw = .ok env ∧
    env.raw.get "payload" = .obj payload ∧ Dict.get payload "inner" = .str text ∧
    Base64.strictDecode text.toList = some inner

section Carry

variable {conv : Conversions} {bounds : Bounds} {outside : String → Except LoadsError Json}
  {dumps : Dict → Bytes} {services : List String} {message outer : Dict} {nowMs : Int}
  {inner raw : Bytes} {source destination : Identity} {stamp : Stamp}
  {targetPeerId requestId : String} {ttlMs : Int}

theorem utf8_length (text : List Char) : (utf8 (String.ofList text)).length = bytesOf text := by
  induction text with
  | nil => rfl
  | cons head tail ih =>
      have one : (utf8 (String.ofList [head])).length = head.utf8Size := by
        simp only [utf8, String.toUTF8, String.toByteArray_ofList, List.utf8Encode_singleton]
        simp
      have split : String.ofList (head :: tail) = String.ofList [head] ++ String.ofList tail := by
        rw [← String.ofList_append]
        rfl
      rw [split, utf8_append_length, one, ih, bytesOf_cons]

theorem compact_length (fits : Fits bounds bounds.nesting (.obj message)) :
    ((textCodec dumps).compact message).length = bytesOf (write (.obj message)) := by
  change (utf8 (String.ofList (JsonText.dumps (.obj message)))).length = _
  rw [utf8_length, bytesOf_dumps fits]

theorem checked_ok : checked services message = .ok outer ↔
    message = outer ∧ ∃ env, validateUntimed services message = .ok env := by
  unfold checked
  cases validateUntimed services message with
  | error raised =>
      constructor
      · intro built
        cases built
      · rintro ⟨-, env, impossible⟩
        cases impossible
  | ok env =>
      constructor
      · intro built
        exact ⟨Except.ok.inj built, env, rfl⟩
      · rintro ⟨same, -⟩
        exact congrArg Except.ok same

theorem encode_filled (filled : inner ≠ []) : b64Encode inner ≠ "" := by
  intro empty
  have read := Base64.urlsafeDecode_encode inner
  have nothing : Base64.encode inner = [] := by
    have text := congrArg String.toList empty
    rw [b64Encode, String.toList_ofList] at text
    exact text
  rw [nothing] at read
  exact filled (Option.some.inj read).symm

theorem b64Encode_bytes (inner : Bytes) :
    textBytes (b64Encode inner) = 2 + (inner.length + 2) / 3 * 4 := by
  have plain : ∀ code < 128, (Char.ofNat code = '=' ∨ (Base64.sextet (Char.ofNat code)).isSome) →
      escape (Char.ofNat code) = [Char.ofNat code] := by decide
  have each : ∀ c ∈ Base64.encode inner, escape c = [c] := by
    intro c member
    have own := plain c.toNat (Base64.encode_ascii inner c member)
    rw [Char.ofNat_toNat] at own
    rcases Base64.encode_alphabet inner c member with pad | digit
    · exact own (.inl pad)
    · exact own (.inr digit.2)
  have unescaped : (Base64.encode inner).flatMap escape = Base64.encode inner := by
    rw [List.flatMap_congr each, List.flatMap_singleton']
  rw [textBytes, writeStr, b64Encode, String.toList_ofList, unescaped, bytesOf_cons, bytesOf_append,
    bytesOf_ascii (Base64.encode_ascii inner), Base64.encode_length]
  have quotes : '"'.utf8Size = 1 ∧ bytesOf ['"'] = 1 := by decide
  omega

theorem identity_bytes (identity : Identity) :
    bytesOf (write identity.toDict) = identityBytes identity := by
  have names : bytesOf (writeStr "node_id") = 9 ∧ bytesOf (writeStr "peer_id") = 9 := by decide
  have marks : '{'.utf8Size = 1 ∧ ':'.utf8Size = 1 ∧ '}'.utf8Size = 1 ∧ bytesOf [] = 0 := by decide
  unfold identityBytes textBytes Identity.toDict
  simp only [write, writeFields, bytesOf_cons, bytesOf_append, bytesOf_commas, List.map_cons,
    List.map_nil, List.sum_cons, List.sum_nil, List.length_cons, List.length_nil]
  omega

/-- The message of `new_relay_request`. -/
def requestAround (source destination : Identity) (stamp : Stamp) (targetPeerId requestId : String)
    (ttlMs : Int) (inner : Bytes) : Dict :=
  [("v", .int 1), ("type", .str "relay_req"), ("request_id", .str requestId),
    ("source", source.toDict), ("destination", destination.toDict),
    ("relay_target", .obj [("peer_id", .str targetPeerId)]),
    ("timestamp_ms", .int stamp.timestampMs), ("nonce", .str stamp.nonce),
    ("ttl_ms", .int ttlMs), ("payload", .obj [("inner", .str (b64Encode inner))])]

/-- The message of `new_relay_response`. -/
def responseAround (source destination : Identity) (stamp : Stamp) (targetPeerId requestId : String)
    (inner : Bytes) : Dict :=
  [("v", .int 1), ("type", .str "relay_res"), ("request_id", .str requestId),
    ("source", source.toDict), ("destination", destination.toDict),
    ("relay_target", .obj [("peer_id", .str targetPeerId)]),
    ("timestamp_ms", .int stamp.timestampMs), ("nonce", .str stamp.nonce),
    ("payload", .obj [("inner", .str (b64Encode inner))])]

theorem target_bytes (targetPeerId : String) :
    bytesOf (write (.obj [("peer_id", .str targetPeerId)])) = 12 + textBytes targetPeerId := by
  have name : bytesOf (writeStr "peer_id") = 9 := by decide
  have marks : '{'.utf8Size = 1 ∧ ':'.utf8Size = 1 ∧ '}'.utf8Size = 1 ∧ bytesOf [] = 0 := by decide
  unfold textBytes
  simp only [write, writeFields, bytesOf_cons, bytesOf_append, bytesOf_commas, List.map_cons,
    List.map_nil, List.sum_cons, List.sum_nil, List.length_cons, List.length_nil]
  omega

theorem payload_bytes (inner : Bytes) :
    bytesOf (write (.obj [("inner", .str (b64Encode inner))])) = 12 + (inner.length + 2) / 3 * 4 := by
  have name : bytesOf (writeStr "inner") = 7 := by decide
  have marks : '{'.utf8Size = 1 ∧ ':'.utf8Size = 1 ∧ '}'.utf8Size = 1 ∧ bytesOf [] = 0 := by decide
  have own := b64Encode_bytes inner
  unfold textBytes at own
  simp only [write, writeFields, bytesOf_cons, bytesOf_append, bytesOf_commas, List.map_cons,
    List.map_nil, List.sum_cons, List.sum_nil, List.length_cons, List.length_nil, own]
  omega

theorem fieldNames_bytes : bytesOf (writeStr "v") = 3 ∧ bytesOf (writeStr "type") = 6 ∧
    bytesOf (writeStr "request_id") = 12 ∧ bytesOf (writeStr "source") = 8 ∧
    bytesOf (writeStr "destination") = 13 ∧ bytesOf (writeStr "relay_target") = 14 ∧
    bytesOf (writeStr "timestamp_ms") = 14 ∧ bytesOf (writeStr "nonce") = 7 ∧
    bytesOf (writeStr "ttl_ms") = 8 ∧ bytesOf (writeStr "payload") = 9 ∧
    bytesOf (writeStr "relay_req") = 11 ∧ bytesOf (writeStr "relay_res") = 11 ∧
    bytesOf (Numeral.ofInt 1).text = 1 := by
  decide

theorem request_bytes :
    bytesOf (write (.obj (requestAround source destination stamp targetPeerId requestId ttlMs inner))) =
      relayRequestBytes source destination stamp targetPeerId requestId ttlMs inner.length := by
  have names := fieldNames_bytes
  have marks : '{'.utf8Size = 1 ∧ ':'.utf8Size = 1 ∧ '}'.utf8Size = 1 ∧ bytesOf [] = 0 := by decide
  unfold requestAround relayRequestBytes wrapperBytes textBytes intBytes
  rw [write]
  simp only [writeFields, bytesOf_cons, bytesOf_append, bytesOf_commas, List.map_cons,
    List.map_nil, List.sum_cons, List.sum_nil, List.length_cons, List.length_nil, identity_bytes,
    target_bytes, payload_bytes]
  simp only [write, textBytes]
  omega

theorem response_bytes :
    bytesOf (write (.obj (responseAround source destination stamp targetPeerId requestId inner))) =
      relayResponseBytes source destination stamp targetPeerId requestId inner.length := by
  have names := fieldNames_bytes
  have marks : '{'.utf8Size = 1 ∧ ':'.utf8Size = 1 ∧ '}'.utf8Size = 1 ∧ bytesOf [] = 0 := by decide
  unfold responseAround relayResponseBytes wrapperBytes textBytes intBytes
  rw [write]
  simp only [writeFields, bytesOf_cons, bytesOf_append, bytesOf_commas, List.map_cons,
    List.map_nil, List.sum_cons, List.sum_nil, List.length_cons, List.length_nil, identity_bytes,
    target_bytes, payload_bytes]
  simp only [write, textBytes]
  omega

theorem request_valid {other : Bytes} (filled : other ≠ [])
    (conforms : Conforms (requestAround source destination stamp targetPeerId requestId ttlMs inner)
      (.read services)) :
    Conforms (requestAround source destination stamp targetPeerId requestId ttlMs other)
      (.read services) := by
  rcases conforms.typed with ⟨type, supported, own, typed⟩
  exact
    { version := conforms.version
      requestId := conforms.requestId
      nonce := conforms.nonce
      source := conforms.source
      destination := conforms.destination
      timestamp := conforms.timestamp
      typed := ⟨type, supported, own,
        { typed with
          payload := fun _ => ⟨_, rfl, trivial⟩
          inner := fun _ => ⟨_, rfl, _, rfl, encode_filled filled⟩ }⟩ }

theorem response_valid {other : Bytes} (filled : other ≠ [])
    (conforms : Conforms (responseAround source destination stamp targetPeerId requestId inner)
      (.read services)) :
    Conforms (responseAround source destination stamp targetPeerId requestId other)
      (.read services) := by
  rcases conforms.typed with ⟨type, supported, own, typed⟩
  exact
    { version := conforms.version
      requestId := conforms.requestId
      nonce := conforms.nonce
      source := conforms.source
      destination := conforms.destination
      timestamp := conforms.timestamp
      typed := ⟨type, supported, own,
        { typed with
          payload := fun _ => ⟨_, rfl, trivial⟩
          inner := fun _ => ⟨_, rfl, _, rfl, encode_filled filled⟩ }⟩ }

/-- A relay message is carried exactly if it is within the limit of its own type. -/
theorem carried_iff {type : String} (dumps : Dict → Bytes) (conv : Conversions)
    (outside : String → Except LoadsError Json)
    (fits : Fits bounds bounds.nesting (.obj outer)) (fresh : Fresh outer nowMs)
    (valid : ∃ env, validateUntimed services outer = .ok env) (own : outer.get "type" = .str type)
    (payload : outer.get "payload" = .obj [("inner", .str (b64Encode inner))]) :
    Carried (textPython conv bounds outside services) (textCodec dumps) nowMs (.ok outer) inner ↔
      bytesOf (write (.obj outer)) ≤ maxSizeForType type := by
  have sized : sizeOk outer ((textCodec dumps).compact outer) = true ↔
      bytesOf (write (.obj outer)) ≤ maxSizeForType type := by
    rw [sizeOk, own, compact_length fits]
    exact decide_eq_true_iff
  constructor
  · rintro ⟨same, raw, env, shown, text, built, encoded, -⟩
    cases built
    exact sized.mp (encodeMessage_eq_ok.mp encoded).2.1
  · intro small
    have encoded := encodeMessage_eq_ok.mpr ⟨valid, sized.mpr small, rfl⟩
    rcases encodeMessage_decodes conv outside fits encoded fresh with ⟨env, decoded, same⟩
    have read := same_get same "payload"
    rw [payload] at read
    rcases same_obj read with ⟨shown, shape, alike⟩
    refine ⟨outer, _, env, shown, b64Encode inner, rfl, encoded, decoded, shape, ?_, ?_⟩
    · exact get_str alike rfl
    · rw [b64Encode, String.toList_ofList]
      exact Base64.strictDecode_encode inner

structure Roomy (bounds : Bounds) (stamp : Stamp) : Prop where
  nesting : 2 ≤ bounds.nesting
  digits : 4 ≤ bounds.digits
  timestamp : (Nat.toDigits 10 stamp.timestampMs.natAbs).length ≤ bounds.digits

theorem identity_fits {nesting : Nat} (identity : Identity) :
    Fits bounds (nesting + 1) identity.toDict := by
  apply Fits.obj
  · change ["node_id", "peer_id"].Nodup
    decide
  · simp only [List.forall_mem_cons]
    exact ⟨.str _, .str _, fun _ none => absurd none List.not_mem_nil⟩

theorem single_fits {nesting : Nat} (name text : String) :
    Fits bounds (nesting + 1) (.obj [(name, .str text)]) := by
  apply Fits.obj
  · exact List.nodup_singleton name
  · simp only [List.forall_mem_cons]
    exact ⟨.str _, fun _ none => absurd none List.not_mem_nil⟩

theorem request_fits (roomy : Roomy bounds stamp) (short : 0 < ttlMs ∧ ttlMs ≤ 5000) :
    Fits bounds bounds.nesting
      (.obj (requestAround source destination stamp targetPeerId requestId ttlMs inner)) := by
  rcases Nat.exists_eq_add_of_le' roomy.nesting with ⟨nesting, deep⟩
  have one : (Nat.toDigits 10 (1 : Int).natAbs).length ≤ bounds.digits := by
    have single : (Nat.toDigits 10 (1 : Int).natAbs).length = 1 := rfl
    have digits := roomy.digits
    omega
  have ttl : (Nat.toDigits 10 ttlMs.natAbs).length ≤ bounds.digits := by
    apply le_trans _ roomy.digits
    rw [Nat.length_toDigits_le_iff (by decide) (by decide)]
    omega
  rw [deep]
  apply Fits.obj
  · change ["v", "type", "request_id", "source", "destination", "relay_target", "timestamp_ms",
      "nonce", "ttl_ms", "payload"].Nodup
    decide
  · unfold requestAround
    simp only [List.forall_mem_cons]
    exact ⟨.int one, .str _, .str _, identity_fits _, identity_fits _, single_fits _ _,
      .int roomy.timestamp, .str _, .int ttl, single_fits _ _,
      fun _ none => absurd none List.not_mem_nil⟩

theorem response_fits (roomy : Roomy bounds stamp) :
    Fits bounds bounds.nesting
      (.obj (responseAround source destination stamp targetPeerId requestId inner)) := by
  rcases Nat.exists_eq_add_of_le' roomy.nesting with ⟨nesting, deep⟩
  have one : (Nat.toDigits 10 (1 : Int).natAbs).length ≤ bounds.digits := by
    have single : (Nat.toDigits 10 (1 : Int).natAbs).length = 1 := rfl
    have digits := roomy.digits
    omega
  rw [deep]
  apply Fits.obj
  · change ["v", "type", "request_id", "source", "destination", "relay_target", "timestamp_ms",
      "nonce", "payload"].Nodup
    decide
  · unfold responseAround
    simp only [List.forall_mem_cons]
    exact ⟨.int one, .str _, .str _, identity_fits _, identity_fits _, single_fits _ _,
      .int roomy.timestamp, .str _, single_fits _ _,
      fun _ none => absurd none List.not_mem_nil⟩

theorem newRelayRequest_around (small : inner.length ≤ maxInnerBytes) :
    newRelayRequest services source destination stamp targetPeerId requestId inner ttlMs =
      checked services
        (requestAround source destination stamp targetPeerId requestId ttlMs inner) := by
  rw [newRelayRequest, if_neg (Nat.not_lt.mpr small)]
  rfl

theorem newRelayResponse_around {relayRequest : Dict}
    (asked : relayRequest.get "request_id" = .str requestId)
    (small : inner.length ≤ maxInnerBytes) :
    newRelayResponse services source destination stamp relayRequest targetPeerId inner =
      checked services (responseAround source destination stamp targetPeerId requestId inner) := by
  rw [newRelayResponse, if_neg (Nat.not_lt.mpr small), asked]
  rfl

/-- What the builder accepts around some bytes, it accepts around any others that are not too many. -/
theorem newRelayRequest_any (accepts : ∃ sample outer, newRelayRequest services source destination
      stamp targetPeerId requestId sample ttlMs = .ok outer)
    (filled : inner ≠ []) (small : inner.length ≤ maxInnerBytes) :
    newRelayRequest services source destination stamp targetPeerId requestId inner ttlMs =
        .ok (requestAround source destination stamp targetPeerId requestId ttlMs inner) ∧
      ∃ env, validateUntimed services
        (requestAround source destination stamp targetPeerId requestId ttlMs inner) = .ok env := by
  rcases accepts with ⟨sample, outer, built⟩
  have fewer : sample.length ≤ maxInnerBytes := by
    by_contra many
    rw [newRelayRequest, if_pos (Nat.lt_of_not_le many)] at built
    cases built
  rw [newRelayRequest_around fewer] at built
  have conforms := validateUntimed_accepts.mp (checked_ok.mp built).2
  have valid := validateUntimed_accepts.mpr (request_valid filled conforms)
  rw [newRelayRequest_around small]
  exact ⟨checked_ok.mpr ⟨rfl, valid⟩, valid⟩

theorem newRelayResponse_any {relayRequest : Dict}
    (asked : relayRequest.get "request_id" = .str requestId)
    (accepts : ∃ sample outer, newRelayResponse services source destination stamp relayRequest
      targetPeerId sample = .ok outer)
    (filled : inner ≠ []) (small : inner.length ≤ maxInnerBytes) :
    newRelayResponse services source destination stamp relayRequest targetPeerId inner =
        .ok (responseAround source destination stamp targetPeerId requestId inner) ∧
      ∃ env, validateUntimed services
        (responseAround source destination stamp targetPeerId requestId inner) = .ok env := by
  rcases accepts with ⟨sample, outer, built⟩
  have fewer : sample.length ≤ maxInnerBytes := by
    by_contra many
    rw [newRelayResponse, if_pos (Nat.lt_of_not_le many)] at built
    cases built
  rw [newRelayResponse_around asked fewer] at built
  have conforms := validateUntimed_accepts.mp (checked_ok.mp built).2
  have valid := validateUntimed_accepts.mpr (response_valid filled conforms)
  rw [newRelayResponse_around asked small]
  exact ⟨checked_ok.mpr ⟨rfl, valid⟩, valid⟩

theorem encoded_inner (encoded : encodeMessage services (textCodec dumps) message = .ok inner)
    {type : String} (own : message.get "type" = .str type)
    (direct : maxSizeForType type ≤ maxInnerBytes) : inner ≠ [] ∧ inner.length ≤ maxInnerBytes := by
  rcases encodeMessage_eq_ok.mp encoded with ⟨-, sized, written⟩
  rw [← written]
  refine ⟨compact_filled message, ?_⟩
  rw [sizeOk, own] at sized
  exact (of_decide_eq_true sized).trans direct

theorem request_carried (conv : Conversions) (outside : String → Except LoadsError Json)
    (roomy : Roomy bounds stamp)
    (fresh : nowMs - 30000 ≤ stamp.timestampMs ∧ stamp.timestampMs ≤ nowMs + 10000)
    (accepts : ∃ sample outer, newRelayRequest services source destination stamp targetPeerId
      requestId sample ttlMs = .ok outer)
    (filled : inner ≠ []) (small : inner.length ≤ maxInnerBytes) :
    Carried (textPython conv bounds outside services) (textCodec dumps) nowMs
        (newRelayRequest services source destination stamp targetPeerId requestId inner ttlMs) inner ↔
      relayRequestBytes source destination stamp targetPeerId requestId ttlMs inner.length ≤ 8192 := by
  rcases newRelayRequest_any accepts filled small with ⟨built, valid⟩
  have conforms := validateUntimed_accepts.mp valid
  rcases conforms.typed with ⟨type, -, own, typed⟩
  have request : type = "relay_req" := (Json.str.inj own).symm
  rcases typed.ttl (.inr request) with ⟨ttl, same, low, high⟩
  have lived : ttl = ttlMs := (Json.int.inj same).symm
  have short : 0 < ttlMs ∧ ttlMs ≤ 5000 := by omega
  have carried := carried_iff dumps conv outside (request_fits roomy short)
    ⟨stamp.timestampMs, rfl, fresh⟩ valid own rfl
  rw [built, carried, request_bytes, request]
  exact Iff.rfl

theorem response_carried {relayRequest : Dict} (conv : Conversions)
    (outside : String → Except LoadsError Json) (roomy : Roomy bounds stamp)
    (fresh : nowMs - 30000 ≤ stamp.timestampMs ∧ stamp.timestampMs ≤ nowMs + 10000)
    (asked : relayRequest.get "request_id" = .str requestId)
    (accepts : ∃ sample outer, newRelayResponse services source destination stamp relayRequest
      targetPeerId sample = .ok outer)
    (filled : inner ≠ []) (small : inner.length ≤ maxInnerBytes) :
    Carried (textPython conv bounds outside services) (textCodec dumps) nowMs
        (newRelayResponse services source destination stamp relayRequest targetPeerId inner) inner ↔
      relayResponseBytes source destination stamp targetPeerId requestId inner.length ≤ 32768 := by
  rcases newRelayResponse_any asked accepts filled small with ⟨built, valid⟩
  have own : (responseAround source destination stamp targetPeerId requestId inner).get "type" =
      .str "relay_res" := rfl
  have carried := carried_iff dumps conv outside (response_fits roomy)
    ⟨stamp.timestampMs, rfl, fresh⟩ valid own rfl
  rw [built, carried, response_bytes]
  exact Iff.rfl

end Carry

/-- A message that fits the direct path is carried by a relay exactly where the relay message around
it, in base64, is within the limit of relay messages too. -/
theorem relay_carries_iff (conv : Conversions) (bounds : Bounds)
    (outside : String → Except LoadsError Json) (dumps : Dict → Bytes) (services : List String)
    (source destination : Identity) (stamp : Stamp) (targetPeerId requestId : String) (nowMs : Int)
    (roomy : Roomy bounds stamp)
    (fresh : nowMs - 30000 ≤ stamp.timestampMs ∧ stamp.timestampMs ≤ nowMs + 10000)
    (message : Dict) (inner : Bytes)
    (encoded : encodeMessage services (textCodec dumps) message = .ok inner) :
    (∀ ttlMs, message.get "type" = .str "req" →
      (∃ sample outer, newRelayRequest services source destination stamp targetPeerId requestId
        sample ttlMs = .ok outer) →
      (Carried (textPython conv bounds outside services) (textCodec dumps) nowMs
          (newRelayRequest services source destination stamp targetPeerId requestId inner ttlMs)
          inner ↔
        relayRequestBytes source destination stamp targetPeerId requestId ttlMs inner.length ≤
          8192)) ∧
    (∀ relayRequest, message.get "type" = .str "res" ∨ message.get "type" = .str "err" →
      relayRequest.get "request_id" = .str requestId →
      (∃ sample outer, newRelayResponse services source destination stamp relayRequest targetPeerId
        sample = .ok outer) →
      (Carried (textPython conv bounds outside services) (textCodec dumps) nowMs
          (newRelayResponse services source destination stamp relayRequest targetPeerId inner)
          inner ↔
        relayResponseBytes source destination stamp targetPeerId requestId inner.length ≤
          32768)) := by
  constructor
  · intro ttlMs request accepts
    rcases encoded_inner encoded request (by decide) with ⟨filled, small⟩
    exact request_carried conv outside roomy fresh accepts filled small
  · intro relayRequest response asked accepts
    have both : inner ≠ [] ∧ inner.length ≤ maxInnerBytes := by
      rcases response with result | error
      · exact encoded_inner encoded result (by decide)
      · exact encoded_inner encoded error (by decide)
    exact response_carried conv outside roomy fresh asked accepts both.1 both.2

section Samples

def sampleStamp : Stamp := ⟨5000, "0123456789abcdef0123456789abcdef"⟩

def sampleSource : Identity := ⟨"node-a", "peer-a"⟩
def sampleRendezvous : Identity := ⟨"node-r", "peer-r"⟩

theorem sample_accepts : ∃ sample outer, newRelayRequest ["storage.summary"] sampleSource
    sampleRendezvous sampleStamp "peer-b" "00112233445566778899aabbccddeeff" sample 3000 =
      .ok outer := by
  have valid : (newRelayRequest ["storage.summary"] sampleSource sampleRendezvous sampleStamp
      "peer-b" "00112233445566778899aabbccddeeff" [0] 3000).isOk = true := by decide +kernel
  exact ⟨[0], exists_of_isOk valid⟩

theorem sample_roomy : Roomy { nesting := 100 } sampleStamp := ⟨by decide, by decide, by decide⟩

theorem quotedRequest_carried :
    Carried (textPython noConversions { nesting := 100 } (fun _ => .error .decode)
        ["storage.summary"]) (textCodec fun _ => []) 5000
      (newRelayRequest ["storage.summary"] sampleSource sampleRendezvous sampleStamp "peer-b"
        "00112233445566778899aabbccddeeff" ((textCodec fun _ => []).compact quotedRequest) 3000)
      ((textCodec fun _ => []).compact quotedRequest) :=
  ((relay_carries_iff noConversions { nesting := 100 } (fun _ => .error .decode) (fun _ => [])
    ["storage.summary"] sampleSource sampleRendezvous sampleStamp "peer-b"
    "00112233445566778899aabbccddeeff" 5000 sample_roomy ⟨by decide, by decide⟩ quotedRequest _
    quotedRequest_encoded).1 3000 rfl sample_accepts).mpr (by decide +kernel)

def paddedRequest (count : Nat) : Dict :=
  [("v", .int 1), ("type", .str "req"), ("request_id", .str "00112233445566778899aabbccddeeff"),
    ("source", sampleSource.toDict),
    ("destination", .obj [("node_id", .str "node-b"), ("peer_id", .str "peer-b")]),
    ("service", .str "storage.summary"), ("timestamp_ms", .int 5000),
    ("nonce", .str "ffeeddccbbaa99887766554433221100"), ("ttl_ms", .int 3000),
    ("payload", .obj [("pad", .str (String.ofList (List.replicate count 'a')))])]

theorem padded_bytes (count : Nat) : bytesOf (write (.obj (paddedRequest count))) = 297 + count := by
  have pad : bytesOf (writeStr (String.ofList (List.replicate count 'a'))) = 2 + count := by
    have plain : ∀ c ∈ List.replicate count 'a', escape c = [c] := by
      intro c member
      rw [List.eq_of_mem_replicate member]
      rfl
    have ascii : ∀ c ∈ List.replicate count 'a', c.toNat < 128 := by
      intro c member
      rw [List.eq_of_mem_replicate member]
      decide
    have quotes : '"'.utf8Size = 1 ∧ bytesOf ['"'] = 1 := by decide
    rw [writeStr, String.toList_ofList, List.flatMap_congr plain, List.flatMap_singleton',
      bytesOf_cons, bytesOf_append, bytesOf_ascii ascii, List.length_replicate]
    omega
  have names := fieldNames_bytes
  have texts : bytesOf (writeStr "req") = 5 ∧ bytesOf (writeStr "service") = 9 ∧
      bytesOf (writeStr "storage.summary") = 17 ∧ bytesOf (writeStr "pad") = 5 ∧
      bytesOf (writeStr "00112233445566778899aabbccddeeff") = 34 ∧
      bytesOf (writeStr "ffeeddccbbaa99887766554433221100") = 34 ∧
      bytesOf (write sampleSource.toDict) = 39 ∧
      bytesOf (write (.obj [("node_id", .str "node-b"), ("peer_id", .str "peer-b")])) = 39 ∧
      bytesOf (Numeral.ofInt 5000).text = 4 ∧ bytesOf (Numeral.ofInt 3000).text = 4 := by decide
  have marks : '{'.utf8Size = 1 ∧ ':'.utf8Size = 1 ∧ '}'.utf8Size = 1 ∧ bytesOf [] = 0 := by decide
  unfold paddedRequest
  generalize String.ofList (List.replicate count 'a') = text at pad
  rw [write]
  simp only [writeFields, bytesOf_cons, bytesOf_append, bytesOf_commas, List.map_cons, List.map_nil,
    List.sum_cons, List.sum_nil, List.length_cons, List.length_nil, texts]
  simp only [write, writeFields, bytesOf_cons, bytesOf_append, bytesOf_commas, List.map_cons,
    List.map_nil, List.sum_cons, List.sum_nil, List.length_cons, List.length_nil]
  omega

theorem padded_fits (count : Nat) : Fits { nesting := 100 } 100 (.obj (paddedRequest count)) := by
  apply Fits.obj
  · change ["v", "type", "request_id", "source", "destination", "service", "timestamp_ms", "nonce",
      "ttl_ms", "payload"].Nodup
    decide
  · unfold paddedRequest
    simp only [List.forall_mem_cons]
    exact ⟨.int (by decide), .str _, .str _, identity_fits _, identity_fits ⟨"node-b", "peer-b"⟩,
      .str _, .int (by decide), .str _, .int (by decide), single_fits _ _,
      fun _ none => absurd none List.not_mem_nil⟩

theorem padded_encoded {count : Nat} (small : 297 + count ≤ 8192) :
    ∃ inner, encodeMessage ["storage.summary"] (textCodec fun _ => []) (paddedRequest count) =
      .ok inner ∧ inner.length = 297 + count := by
  have length : ((textCodec fun _ => []).compact (paddedRequest count)).length = 297 + count := by
    rw [compact_length (padded_fits count), padded_bytes]
  have accepted : (validateUntimed ["storage.summary"] (paddedRequest 0)).isOk = true := by
    decide +kernel
  have conforms := validateUntimed_accepts.mp (exists_of_isOk accepted)
  rcases conforms.typed with ⟨type, supported, own, typed⟩
  have request : type = "req" := (Json.str.inj own).symm
  have valid : ∃ env, validateUntimed ["storage.summary"] (paddedRequest count) = .ok env := by
    apply validateUntimed_accepts.mpr
    exact
      { version := conforms.version
        requestId := conforms.requestId
        nonce := conforms.nonce
        source := conforms.source
        destination := conforms.destination
        timestamp := conforms.timestamp
        typed := ⟨type, supported, own,
          { typed with
            payload := fun _ => ⟨_, rfl, trivial⟩
            inner := by
              rw [request]
              rintro (other | other)
              · exact absurd other (by decide)
              · exact absurd other (by decide) }⟩ }
  have sized : sizeOk (paddedRequest count)
      ((textCodec fun _ => []).compact (paddedRequest count)) = true := by
    have named : (paddedRequest count).get "type" = .str "req" := rfl
    have limit : maxSizeForType "req" = 8192 := by decide
    rw [sizeOk, named, length]
    simp only [limit, small, decide_true]
  exact ⟨_, encodeMessage_eq_ok.mpr ⟨valid, sized, rfl⟩, length⟩

/-- A request of 6297 bytes is encoded, but no relay request around it is. -/
theorem padded_not_carried : ¬ ∀ (message : Dict) (inner : Bytes),
    encodeMessage ["storage.summary"] (textCodec fun _ => []) message = .ok inner →
    message.get "type" = .str "req" →
    Carried (textPython noConversions { nesting := 100 } (fun _ => .error .decode)
        ["storage.summary"]) (textCodec fun _ => []) 5000
      (newRelayRequest ["storage.summary"] sampleSource sampleRendezvous sampleStamp "peer-b"
        "00112233445566778899aabbccddeeff" inner 3000) inner := by
  intro carries
  have fitting : 297 + 6000 ≤ 8192 := by decide
  rcases padded_encoded fitting with ⟨inner, encoded, length⟩
  rcases encoded_inner encoded (rfl : (paddedRequest 6000).get "type" = .str "req") (by decide) with
    ⟨filled, small⟩
  have carried := carries (paddedRequest 6000) inner encoded rfl
  rw [request_carried noConversions (fun _ => .error .decode) sample_roomy ⟨by decide, by decide⟩
    sample_accepts filled small, length] at carried
  have large : 8192 < relayRequestBytes sampleSource sampleRendezvous sampleStamp "peer-b"
      "00112233445566778899aabbccddeeff" 3000 6297 := by decide +kernel
  exact absurd carried (Nat.not_le.mpr large)

end Samples

end HashBurst.Tep
