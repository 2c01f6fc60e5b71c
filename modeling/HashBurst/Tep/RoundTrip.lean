import HashBurst.Tep.Grammar

namespace HashBurst.Tep

open Lib Lib.Py

section Same

variable {first second : Dict} {field : String} {wording : Wording} {type : String}

theorem named_same (same : (Json.obj first).Same (.obj second)) {limit : Nat}
    (named : Named second field limit) : Named first field limit := by
  rcases named with ⟨text, own, filled, short⟩
  exact ⟨text, get_str same own, filled, short⟩

theorem intWithin_same (same : (Json.obj first).Same (.obj second)) {low high : Int}
    (within : IntWithin second field low high) : IntWithin first field low high := by
  rcases within with ⟨value, own, bounds⟩
  exact ⟨value, get_int same own, bounds⟩

theorem hexField_same (same : (Json.obj first).Same (.obj second))
    (read : HexField second field hex) : HexField first field hex := by
  rcases read with ⟨text, own, digits⟩
  exact ⟨text, get_str same own, digits⟩

/-- An object within the message, where what is asked of it does not depend on the order either. -/
theorem hasObject_same (same : (Json.obj first).Same (.obj second)) {holds : Dict → Prop}
    (stable : ∀ one other : Dict, (Json.obj one).Same (.obj other) → holds other → holds one)
    (has : HasObject second field holds) : HasObject first field holds := by
  rcases has with ⟨inner, own, held⟩
  have value := same_get same field
  rw [own] at value
  rcases same_obj value with ⟨one, shape, alike⟩
  exact ⟨one, shape, stable one inner alike held⟩

theorem identified_same (same : (Json.obj first).Same (.obj second))
    (identified : Identified second field) : Identified first field := by
  apply hasObject_same same _ identified
  rintro one other alike ⟨node, peer⟩
  exact ⟨named_same alike node, named_same alike peer⟩

private theorem errorObject_same (same : (Json.obj first).Same (.obj second))
    (error : ErrorObject second) : ErrorObject first := by
  rcases error with ⟨code, none | ⟨text, own, short⟩⟩
  · have value := same_get same "message"
    rw [none] at value
    exact ⟨named_same same code, .inl (same_null value)⟩
  · exact ⟨named_same same code, .inr ⟨text, get_str same own, short⟩⟩

theorem typed_same (same : (Json.obj first).Same (.obj second))
    (typed : Typed second wording type) : Typed first wording type where
  service := by
    intro app
    rcases typed.service app with ⟨text, own, read⟩
    exact ⟨text, get_str same own, read⟩
  ttl := fun request => intWithin_same same (typed.ttl request)
  payload := fun app => hasObject_same same (fun _ _ _ _ => trivial) (typed.payload app)
  status := fun response => intWithin_same same (typed.status response)
  errorStatus := fun error => intWithin_same same (typed.errorStatus error)
  error := fun error => hasObject_same same (fun _ _ alike => errorObject_same alike) (typed.error error)
  target := fun relay => hasObject_same same (fun _ _ alike => named_same alike) (typed.target relay)
  inner := by
    intro relay
    apply hasObject_same same _ (typed.inner relay)
    rintro one other alike ⟨text, own, filled⟩
    exact ⟨text, get_str alike own, filled⟩

theorem conforms_same (same : (Json.obj first).Same (.obj second))
    (conforms : Conforms second wording) : Conforms first wording where
  version := get_int same conforms.version
  requestId := hexField_same same conforms.requestId
  nonce := hexField_same same conforms.nonce
  source := identified_same same conforms.source
  destination := identified_same same conforms.destination
  timestamp := by
    rcases conforms.timestamp with ⟨value, own, past⟩
    exact ⟨value, get_int same own, past⟩
  typed := by
    rcases conforms.typed with ⟨type, supported, own, typed⟩
    exact ⟨type, supported, get_str same own, typed_same same typed⟩

end Same

/-- `json.dumps` of `encode_message`, beside any other form of it. -/
def textCodec (dumps : Dict → Bytes) : Codec where
  dumps := dumps
  compact message := utf8 (String.ofList (JsonText.dumps (.obj message)))

/-- An interpreter with the `json.loads` of the text. What it makes of a text that is outside the
JSON values is any outcome. -/
def textPython (conv : Conversions) (bounds : Bounds) (outside : String → Except LoadsError Json)
    (services : List String) : Python where
  conv := conv
  services := services
  loads text :=
    match JsonText.loads bounds text.toList with
    | .ok value => .ok value
    | .error .decode => .error .decode
    | .error .value => .error .value
    | .error .recursion => .error .recursion
    | .error .outside => outside text

def Fresh (message : Dict) (nowMs : Int) : Prop :=
  ∃ timestamp, message.get "timestamp_ms" = .int timestamp ∧
    nowMs - 30000 ≤ timestamp ∧ timestamp ≤ nowMs + 10000

section RoundTrip

variable {conv : Conversions} {bounds : Bounds} {outside : String → Except LoadsError Json}
  {dumps : Dict → Bytes} {services : List String} {message : Dict} {nowMs : Int} {raw : Bytes}

theorem encodeMessage_eq_ok {codec : Codec} : encodeMessage services codec message = .ok raw ↔
    (∃ env, validateUntimed services message = .ok env) ∧
      sizeOk message (codec.compact message) = true ∧ codec.compact message = raw := by
  unfold encodeMessage
  simp only [bind_eq_ok, require_eq_ok]
  constructor
  · rintro ⟨env, valid, -, sized, done⟩
    exact ⟨⟨env, valid⟩, sized, Except.ok.inj done⟩
  · rintro ⟨⟨env, valid⟩, sized, done⟩
    exact ⟨env, valid, (), sized, congrArg Except.ok done⟩

private theorem checkWindow_fresh (fresh : Fresh message nowMs) :
    ∃ timestamp, message.get "timestamp_ms" = .int timestamp ∧
      Envelope.checkWindow timestamp nowMs = .ok () := by
  rcases fresh with ⟨timestamp, own, past, future⟩
  refine ⟨timestamp, own, ?_⟩
  unfold Envelope.checkWindow
  simp only [bind_eq_ok, require_eq_ok, decide_eq_true_eq]
  exact ⟨(), past, future⟩

private theorem sizeOk_generic {type : String} (supported : type ∈ supportedTypes)
    (own : message.get "type" = .str type) (sized : sizeOk message raw = true) :
    raw.length ≤ maxGenericBytes := by
  have limits : ∀ type ∈ supportedTypes, maxSizeForType type ≤ maxGenericBytes := by decide
  unfold sizeOk at sized
  rw [own] at sized
  exact (of_decide_eq_true sized).trans (limits type supported)

theorem compact_filled (message : Dict) : (textCodec dumps).compact message ≠ [] := by
  intro empty
  have decoded := decodeUtf8_utf8 (String.ofList (JsonText.dumps (.obj message)))
  change utf8 (String.ofList (JsonText.dumps (.obj message))) = [] at empty
  rw [empty] at decoded
  have text := congrArg String.toList (Option.some.inj decoded)
  rw [JsonText.dumps, JsonText.sortKeys, JsonText.write, String.toList_ofList] at text
  cases text

/-- The message is read back, up to the order of its fields. -/
theorem loads_compact (conv : Conversions) (outside : String → Except LoadsError Json)
    (services : List String) (fits : JsonText.Fits bounds bounds.nesting (.obj message)) :
    ∃ sorted, (textPython conv bounds outside services).loads
        (String.ofList (JsonText.dumps (.obj message))) = .ok (.obj sorted) ∧
      (Json.obj sorted).Same (.obj message) := by
  have read := JsonText.loads_dumps fits
  have same := JsonText.sortKeys_same fits
  rcases same_obj same with ⟨sorted, shape, alike⟩
  rw [shape] at read
  refine ⟨sorted, ?_, alike⟩
  simp only [textPython, String.toList_ofList, read]

theorem encodeMessage_decodes (conv : Conversions) (outside : String → Except LoadsError Json)
    (fits : JsonText.Fits bounds bounds.nesting (.obj message))
    (encoded : encodeMessage services (textCodec dumps) message = .ok raw)
    (fresh : Fresh message nowMs) :
    ∃ env, decodeMessage (textPython conv bounds outside services) nowMs raw = .ok env ∧
      (Json.obj env.raw).Same (.obj message) := by
  rcases encodeMessage_eq_ok.mp encoded with ⟨valid, sized, written⟩
  have conforms := validateUntimed_accepts.mp valid
  rcases conforms.typed with ⟨type, supported, own, -⟩
  have filled : raw ≠ [] := by
    rw [← written]
    exact compact_filled message
  have generic : raw.length ≤ maxGenericBytes := by
    rw [← written]
    exact sizeOk_generic supported own sized
  have decoded : decodeUtf8 raw = some (String.ofList (JsonText.dumps (.obj message))) := by
    rw [← written]
    exact decodeUtf8_utf8 _
  rcases loads_compact conv outside services fits with ⟨sorted, read, same⟩
  have sizedSorted : sizeOk sorted raw = true := by
    rw [← written]
    unfold sizeOk at sized ⊢
    rw [own] at sized
    rw [get_str same own]
    exact sized
  rcases checkWindow_fresh fresh with ⟨timestamp, stamped, window⟩
  have accepted := validateEnvelope_accepts.mpr
    ⟨conforms_same same conforms, timestamp, get_int same stamped, window⟩
  rcases accepted with ⟨env, accepted⟩
  have reads := validateEnvelope_eq_ok.mp accepted
  refine ⟨env, decodeMessage_eq_ok.mpr ⟨filled, generic, _, decoded, sorted, read, sizedSorted,
    reads⟩, ?_⟩
  rw [reads.raw]
  exact same

end RoundTrip

/-- Each message that is encoded is decoded, within its freshness window, to a message that is the
same but for the order of the fields. -/
theorem decode_encode (conv : Conversions) (bounds : Bounds)
    (outside : String → Except LoadsError Json) (dumps : Dict → Bytes) (services : List String)
    (message : Dict) (nowMs : Int) (raw : Bytes)
    (fits : JsonText.Fits bounds bounds.nesting (.obj message))
    (encoded : encodeMessage services (textCodec dumps) message = .ok raw)
    (fresh : Fresh message nowMs) :
    ∃ env, decodeMessage (textPython conv bounds outside services) nowMs raw = .ok env ∧
      (Json.obj env.raw).Same (.obj message) :=
  encodeMessage_decodes conv outside fits encoded fresh

/-- A request with text that is escaped, text that is not ASCII, and a float. -/
def quotedRequest : Dict :=
  [("v", .int 1), ("type", .str "req"), ("request_id", .str "00112233445566778899aabbccddeeff"),
    ("source", .obj [("node_id", .str "node-a"), ("peer_id", .str "peer-a")]),
    ("destination", .obj [("node_id", .str "node-b"), ("peer_id", .str "peer-b")]),
    ("service", .str "storage.summary"), ("timestamp_ms", .int 5000),
    ("nonce", .str "ffeeddccbbaa99887766554433221100"), ("ttl_ms", .int 3000),
    ("payload", .obj [("città", .str "\"a\"\n"), ("sizes", .arr [.int (-3), .float (1 / 2)])])]

def noConversions : Conversions where
  str _ := ""
  float _ := none
  int _ := none
  error name _ := name

theorem quotedRequest_fits : JsonText.Fits { nesting := 100 } 100 (.obj quotedRequest) := by
  have identity : ∀ node peer : String,
      JsonText.Fits { nesting := 100 } 99 (.obj [("node_id", .str node), ("peer_id", .str peer)]) := by
    intro node peer
    apply JsonText.Fits.obj
    · change ["node_id", "peer_id"].Nodup
      decide
    · simp only [List.forall_mem_cons]
      exact ⟨.str node, .str peer, fun _ none => absurd none List.not_mem_nil⟩
  have sizes : JsonText.Fits { nesting := 100 } 98 (.arr [.int (-3), .float (1 / 2)]) := by
    apply JsonText.Fits.arr
    simp only [List.forall_mem_cons]
    exact ⟨.int (by decide), .float (by decide +kernel), fun _ none => absurd none List.not_mem_nil⟩
  have payload : JsonText.Fits { nesting := 100 } 99
      (.obj [("città", .str "\"a\"\n"), ("sizes", .arr [.int (-3), .float (1 / 2)])]) := by
    apply JsonText.Fits.obj
    · change ["città", "sizes"].Nodup
      decide
    · simp only [List.forall_mem_cons]
      exact ⟨.str _, sizes, fun _ none => absurd none List.not_mem_nil⟩
  apply JsonText.Fits.obj
  · change ["v", "type", "request_id", "source", "destination", "service", "timestamp_ms", "nonce",
      "ttl_ms", "payload"].Nodup
    decide
  · unfold quotedRequest
    simp only [List.forall_mem_cons]
    exact ⟨.int (by decide), .str _, .str _, identity _ _, identity _ _, .str _, .int (by decide),
      .str _, .int (by decide), payload, fun _ none => absurd none List.not_mem_nil⟩

theorem quotedRequest_encoded :
    encodeMessage ["storage.summary"] (textCodec fun _ => []) quotedRequest =
      .ok ((textCodec fun _ => []).compact quotedRequest) := by
  have accepted : (validateUntimed ["storage.summary"] quotedRequest).isOk = true := by
    decide +kernel
  have sized : sizeOk quotedRequest ((textCodec fun _ => []).compact quotedRequest) = true := by
    decide +kernel
  exact encodeMessage_eq_ok.mpr ⟨exists_of_isOk accepted, sized, rfl⟩

theorem quotedRequest_decoded :
    ∃ env, decodeMessage (textPython noConversions { nesting := 100 } (fun _ => .error .decode)
        ["storage.summary"]) 5000 ((textCodec fun _ => []).compact quotedRequest) = .ok env ∧
      (Json.obj env.raw).Same (.obj quotedRequest) :=
  decode_encode noConversions { nesting := 100 } (fun _ => .error .decode) (fun _ => [])
    ["storage.summary"] quotedRequest 5000 _ quotedRequest_fits quotedRequest_encoded
    ⟨5000, rfl, by decide, by decide⟩

end HashBurst.Tep
