import HashBurst.Aggregator.Isolation

namespace HashBurst.Aggregator

open Lib Lib.Py

def answering (node summary : Dict) : Asked where
  node
  http := .decoded (.obj summary)
  ipc := .answered (.json (.obj
    [("ok", .bool true), ("summary", .obj summary), ("path", .str "direct")]))

def mute (node : Dict) : Asked := answering node []

def offer (nodeId role configuredClass : Json) (gigabytes : Int) : Dict :=
  [("node_id", nodeId), ("role", role), ("configured_class", configuredClass),
    ("capacity_total_gb", .int gigabytes)]

def offering (node : Dict) (nodeId role configuredClass : Json) (gigabytes : Int) : Asked :=
  answering node (offer nodeId role configuredClass gigabytes)

structure Offered (nodeId role configuredClass : Json) (gigabytes : Int) (result : Dict) : Prop where
  online : result.get "online" = .bool true
  nodeId : result.get "node_id" = nodeId
  role : result.get "role" = role
  configuredClass : result.get "configured_class" = configuredClass
  capacity : result.get "capacity_total_gb" = .int gigabytes
  blank : ∀ name ∈ ["used_gb", "reserved_stakeholders_gb", "sold_active_gb", "stakeholders"],
    result.get name = .null

section Offers

variable {settings : Settings} {node summary : Dict}

variable (settings) in
theorem validateSummary_mute (summary : Dict) (nameless : summary.get "node_id" = .null) :
    ∃ failure, validateSummary settings (.obj summary) = .error failure := by
  cases valid : validateSummary settings (.obj summary) with
  | error failure => exact ⟨failure, rfl⟩
  | ok accepted =>
      obtain ⟨same, identity, -⟩ := validateSummary_cases valid
      cases same
      rw [nameless] at identity
      have empty : settings.conv.text .null = "" := rfl
      simp [identityValid, empty] at identity

theorem fetchSummary_answered {body : Dict} (config : (TepAdapter.checkConfig settings node).toBool)
    (ok : body.get "ok" = .bool true) (remote : body.get "summary" = .obj summary)
    (path : body.get "path" = .str "direct") (relay : body.get "relay_peer_id" = .null)
    (rtt : body.get "rtt_ms" = .null) :
    TepAdapter.fetchSummary settings node (.answered (.json (.obj body))) =
      .ok (TepAdapter.withMetadata summary ⟨"direct", none, none⟩) := by
  have passed : TepAdapter.checkConfig settings node = .ok () := by
    cases checked : TepAdapter.checkConfig settings node with
    | error failure =>
        rw [checked] at config
        cases config
    | ok value => rfl
  have metadata : TepAdapter.metadataOf settings.conv body = .ok ⟨"direct", none, none⟩ := by
    have text : settings.conv.text (.str "direct") = "direct" := by
      change strip "direct" = "direct"
      decide
    simp only [TepAdapter.metadataOf, path, text, TepAdapter.relayOf, relay, TepAdapter.rttOf, rtt,
      bind, Except.bind]
    rfl
  simp only [TepAdapter.fetchSummary, passed, TepAdapter.receive, TepAdapter.decodeResponse, ok,
    remote, metadata, Json.isTrue, bind, Except.bind]
  rfl

theorem lookup_withMetadata (metadata : TepAdapter.Metadata) (name : String)
    (remote : startsWith name "_tep_" = false) :
    (TepAdapter.withMetadata summary metadata).lookup name = summary.lookup name := by
  have apart : ∀ key, startsWith key "_tep_" = true → name ≠ key := by
    rintro key own rfl
    rw [remote] at own
    cases own
  have filtered : (Dict.set (summary.filter fun item => !startsWith item.1 "_tep_")
      "_tep_transport_path" (.str metadata.path)).lookup name = summary.lookup name := by
    rw [lookup_set, if_neg (apart _ (by decide))]
    refine (lookup_filter fun key => !startsWith key "_tep_").trans (if_pos ?_)
    rw [remote]
    rfl
  unfold TepAdapter.withMetadata
  dsimp only
  cases metadata.rtt with
  | none =>
      cases metadata.relay with
      | none => exact filtered
      | some relay =>
          dsimp only
          rw [lookup_set, if_neg (apart _ (by decide))]
          exact filtered
  | some rtt =>
      dsimp only
      rw [lookup_set, if_neg (apart _ (by decide))]
      cases metadata.relay with
      | none => exact filtered
      | some relay =>
          dsimp only
          rw [lookup_set, if_neg (apart _ (by decide))]
          exact filtered

theorem get_withMetadata (name : String) (remote : startsWith name "_tep_" = false) :
    (TepAdapter.withMetadata summary ⟨"direct", none, none⟩).get name = summary.get name := by
  unfold Dict.get Dict.getD
  rw [lookup_withMetadata _ name remote]

theorem mute_refused (settings : Settings) (node : Dict) :
    Refused settings node (fetchSummary settings (mute node)) := by
  obtain ⟨failure, direct⟩ : ∃ failure,
      checkedDirectSummary settings (mute node).http = .error failure :=
    validateSummary_mute settings [] rfl
  obtain ⟨error, tep⟩ : ∃ error,
      checkedTepSummary settings node (mute node).ipc = .error error := by
    by_cases config : (TepAdapter.checkConfig settings node).toBool = true
    · have fetched : TepAdapter.fetchSummary settings node (mute node).ipc =
          .ok (TepAdapter.withMetadata [] ⟨"direct", none, none⟩) :=
        fetchSummary_answered config rfl rfl rfl rfl rfl
      obtain ⟨failure, refused⟩ := validateSummary_mute settings
        (TepAdapter.withMetadata [] ⟨"direct", none, none⟩) (get_withMetadata "node_id" (by decide))
      refine ⟨failure, ?_⟩
      simp only [checkedTepSummary, fetched, Except.mapError, refused, bind, Except.bind]
    · cases checked : checkedTepSummary settings node (mute node).ipc with
      | error failure => exact ⟨failure, rfl⟩
      | ok accepted => exact absurd (checkedTepSummary_cases checked).1 config
  have own : (mute node).node = node := rfl
  unfold fetchSummary
  rw [own]
  dsimp only
  split
  · unfold fetchSummaryDirect
    rw [direct]
    exact ⟨_, rfl⟩
  · split
    · unfold fetchSummaryTep
      rw [tep]
      exact ⟨_, rfl⟩
    · exact ⟨_, rfl⟩

theorem validateSummary_offer {gigabytes : Int} (capacious : 0 ≤ gigabytes)
    (identity : identityValid settings.conv (summary.get "node_id") (summary.get "role") = true)
    (available : summary.get "available" = .null)
    (capacity : summary.get "capacity_total_gb" = .int gigabytes)
    (used : summary.get "used_gb" = .null) (timestamp : summary.get "timestamp" = .null) :
    validateSummary settings (.obj summary) = .ok summary := by
  have positive : ¬(gigabytes : ℚ) < 0 := not_lt.mpr (by exact_mod_cast capacious)
  have within : ¬(0 : ℚ) > gigabytes * (105 / 100) :=
    not_lt.mpr (mul_nonneg (by exact_mod_cast capacious) (by norm_num))
  simp only [validateSummary, available, identity, capacity, used, timestamp, Json.isFalse,
    Conversions.toFloat, Conversions.floatOrZero, Conversions.intOrZero, Json.truthy, bind,
    Except.bind, Bool.not_true, Bool.false_eq_true, if_false, positive, within, lt_irrefl,
    decide_false, Bool.or_self, ne_eq, not_true_eq_false, Bool.false_and]
  rfl

variable {nodeId role configuredClass : Json} {gigabytes : Int}

variable (configuredClass) in
/-- An offer that the node's checks admit is merged into the base of its result. -/
theorem offering_merged (admitted : admits settings node nodeId role = true)
    (capacious : 0 ≤ gigabytes) :
    (fetchSummary settings (offering node nodeId role configuredClass gigabytes)).get "online" =
        .bool true ∧
      ∀ name, name ∉ lateKeys → startsWith name "_tep_" = false →
        (fetchSummary settings (offering node nodeId role configuredClass gigabytes)).get name =
          ((baseResult settings.conv node).update
            (offer nodeId role configuredClass gigabytes)).get name := by
  unfold admits at admitted
  simp only [Bool.and_eq_true, Bool.or_eq_true, decide_eq_true_eq] at admitted
  obtain ⟨identity, ways⟩ := admitted
  have accepted : ∀ summary : Dict, (∀ name, startsWith name "_tep_" = false →
      summary.lookup name = (offer nodeId role configuredClass gigabytes).lookup name) →
      validateSummary settings (.obj summary) = .ok summary := by
    intro summary remote
    have column : ∀ name, startsWith name "_tep_" = false →
        summary.get name = (offer nodeId role configuredClass gigabytes).get name :=
      fun name plain => congrArg (fun value => value.getD .null) (remote name plain)
    refine validateSummary_offer capacious ?_ (column _ (by decide)) (column _ (by decide))
      (column _ (by decide)) (column _ (by decide))
    rw [column "node_id" (by decide), column "role" (by decide)]
    exact identity
  have own : (offering node nodeId role configuredClass gigabytes).node = node := rfl
  unfold fetchSummary
  rw [own]
  dsimp only
  by_cases direct : transport settings.conv node = "direct"
  · rw [if_pos direct]
    have checked : checkedDirectSummary settings
        (offering node nodeId role configuredClass gigabytes).http =
          .ok (offer nodeId role configuredClass gigabytes) := accepted _ fun _ _ => rfl
    rcases @fetchSummaryDirect_cases settings node
      (offering node nodeId role configuredClass gigabytes).http with ⟨error, refused⟩ | ⟨summary,
        same, online, merged⟩
    · unfold fetchSummaryDirect at refused
      rw [checked] at refused
      cases congrArg (fun result => Dict.get result "online") refused
    · rw [checked] at same
      cases same
      exact ⟨online, fun name early _ => merged name early⟩
  · obtain ⟨⟨⟨tep, config⟩, ownRole⟩, ownId⟩ := ways.resolve_left direct
    rw [if_neg direct, if_pos tep]
    let summary := TepAdapter.withMetadata (offer nodeId role configuredClass gigabytes)
      ⟨"direct", none, none⟩
    have fetched : TepAdapter.fetchSummary settings node
        (offering node nodeId role configuredClass gigabytes).ipc = .ok summary :=
      fetchSummary_answered config rfl rfl rfl rfl rfl
    have remote : ∀ name, startsWith name "_tep_" = false →
        summary.lookup name = (offer nodeId role configuredClass gigabytes).lookup name :=
      fun name plain => lookup_withMetadata _ name plain
    have checked : checkedTepSummary settings node
        (offering node nodeId role configuredClass gigabytes).ipc = .ok summary := by
      have named : settings.conv.text (summary.get "node_id") = settings.conv.text nodeId :=
        congrArg settings.conv.text (get_withMetadata "node_id" (by decide))
      have roled : settings.conv.text (summary.get "role") = settings.conv.text role :=
        congrArg settings.conv.text (get_withMetadata "role" (by decide))
      have fits : ∀ own wanted : String, wanted = "" ∨ own = wanted →
          (decide (wanted ≠ "") && decide (own ≠ wanted)) = false := by
        rintro own wanted (rfl | rfl)
        · rfl
        · simp
      simp only [checkedTepSummary, fetched, Except.mapError, accepted summary remote, named, roled,
        fits _ _ ownRole, fits _ _ ownId, bind, Except.bind]
      rfl
    rcases @fetchSummaryTep_cases settings node
      (offering node nodeId role configuredClass gigabytes).ipc with ⟨error, refused⟩ | ⟨taken,
        same, online, merged⟩
    · unfold fetchSummaryTep at refused
      rw [checked] at refused
      have online := congrArg (fun result => Dict.get result "online") refused
      dsimp only at online
      rw [get_withTransport (by decide) (by decide), get_set_other (by decide),
        get_set_other (by decide), get_set_self] at online
      cases online
    · rw [checked] at same
      cases same
      refine ⟨online, fun name early plain => (merged name early).trans ?_⟩
      rw [get_update, get_update]
      unfold Dict.getD
      rw [remote name plain]

theorem offering_offered (admitted : admits settings node nodeId role = true)
    (capacious : 0 ≤ gigabytes) : Offered nodeId role configuredClass gigabytes
      (fetchSummary settings (offering node nodeId role configuredClass gigabytes)) := by
  obtain ⟨online, merged⟩ := offering_merged configuredClass admitted capacious
  refine ⟨online, merged _ (by decide) (by decide), merged _ (by decide) (by decide),
    merged _ (by decide) (by decide), merged _ (by decide) (by decide), fun name member => ?_⟩
  simp only [List.mem_cons, List.not_mem_nil, or_false] at member
  rcases member with rfl | rfl | rfl | rfl
  · exact merged _ (by decide) (by decide)
  · exact merged _ (by decide) (by decide)
  · exact merged _ (by decide) (by decide)
  · exact merged _ (by decide) (by decide)

theorem offer_accepted (configuredClass : Json) (admitted : admits settings node nodeId role = true)
    (capacious : 0 ≤ gigabytes) : ∃ asked : Asked, asked.node = node ∧
      Offered nodeId role configuredClass gigabytes (fetchSummary settings asked) :=
  ⟨offering node nodeId role configuredClass gigabytes, rfl, offering_offered admitted capacious⟩

end Offers

/-- A result that adds no capacity, and whose class can be told, also as that of a duplicate. -/
inductive Calm (result : Dict) : Prop
  | refused (offline : result.get "online" = .bool false) (told : classable result = true)
  | offered {nodeId role key} (named : nodeId.key = some key)
      (offered : Offered nodeId role (.str "best-effort") 0 result)

def offeredGb (result : Dict) : ℚ :=
  match result.get "capacity_total_gb" with
  | .int gigabytes => gigabytes
  | _ => 0

section Totals

variable {settings : Settings} {nodeId role configuredClass : Json} {gigabytes : Int}
  {committable : List Dict}

def AllOffered (committable : List Dict) : Prop :=
  ∀ result ∈ committable, ∃ nodeId role configuredClass gigabytes,
    Offered nodeId role configuredClass gigabytes result

theorem offeredGb_of_offered {result : Dict}
    (offered : Offered nodeId role configuredClass gigabytes result) :
    offeredGb result = gigabytes := by
  unfold offeredGb
  rw [offered.capacity]

theorem total_offered (conv : Conversions) (offered : AllOffered committable) :
    total conv "capacity_total_gb" committable = .ok (committable.map offeredGb).sum := by
  have values : (committable.mapM fun result => conv.floatOrZero (result.get "capacity_total_gb")) =
      .ok (committable.map offeredGb) := by
    induction committable with
    | nil => rfl
    | cons head tail ih =>
        obtain ⟨nodeId, role, configuredClass, gigabytes, own⟩ := offered head List.mem_cons_self
        have read : conv.floatOrZero (head.get "capacity_total_gb") = .ok (offeredGb head) := by
          rw [offeredGb_of_offered own, own.capacity]
          unfold Conversions.floatOrZero
          by_cases zero : gigabytes = 0
          · rw [zero]
            simp [Json.truthy]
          · simp [Json.truthy, zero, Conversions.toFloat]
        rw [List.mapM_cons, read, ih fun result member => offered result (.tail head member)]
        rfl
  unfold total
  rw [values]
  rfl

theorem commitments_offered (conv : Conversions) (offered : AllOffered committable) :
    ∃ primary, commitments conv committable = .ok primary := by
  unfold commitments
  split
  · rename_i primary
    obtain ⟨nodeId, role, configuredClass, gigabytes, own⟩ := offered primary List.mem_cons_self
    rw [own.blank "reserved_stakeholders_gb" (by decide), own.blank "sold_active_gb" (by decide),
      own.blank "stakeholders" (by decide)]
    exact ⟨_, rfl⟩
  · exact ⟨none, rfl⟩

theorem settle_offered (conv : Conversions) (offered : AllOffered committable) :
    ∃ used free, settle conv committable = .ok ((committable.map offeredGb).sum, used, free) := by
  obtain ⟨used, usage⟩ : ∃ used, total conv "used_gb" committable = .ok used := by
    refine total_ok fun result member => ?_
    obtain ⟨nodeId, role, configuredClass, gigabytes, own⟩ := offered result member
    rw [own.blank "used_gb" (by decide)]
    exact ⟨0, rfl⟩
  obtain ⟨primary, committed⟩ := commitments_offered conv fun result member =>
    offered result (List.mem_filter.mp member : _ ∧ isPrimary result = true).1
  unfold settle
  rw [total_offered conv offered, usage, committed]
  exact ⟨_, _, rfl⟩

end Totals

def Heard (results : List Dict) (key : Key) : Prop :=
  ∃ result ∈ results, result.get "online" = .bool true ∧ (result.get "node_id").key = some key

/-- The results count nothing that can be sold, and leave the keys that are heard of them. -/
structure Passed (seen : List Key) (results : List Dict) (later : List Key) (counted : List Dict) :
    Prop where
  onwards : ∀ rest, survey seen (results ++ rest) =
    (survey later rest).map fun (committable, told) => (counted ++ committable, told)
  keys : ∀ key, key ∈ later ↔ key ∈ seen ∨ Heard results key
  offered : AllOffered counted
  nothing : (counted.map offeredGb).sum = 0

section Calmness

variable {settings : Settings} {seen later : List Key} {head : Dict} {tail counted : List Dict}
  {nodeId role : Json} {key : Key}

private theorem heard_offline (offline : head.get "online" = .bool false) :
    Heard (head :: tail) key ↔ Heard tail key := by
  unfold Heard
  rw [List.exists_mem_cons_iff, offline]
  simp

theorem heard_online (online : head.get "online" = .bool true)
    (named : (head.get "node_id").key = some key) {other : Key} :
    Heard (head :: tail) other ↔ other = key ∨ Heard tail other := by
  unfold Heard
  rw [List.exists_mem_cons_iff, online, named]
  simp [eq_comm]

private theorem passed_refused (offline : head.get "online" = .bool false)
    (told : classable head = true)
    (passed : Passed seen tail later counted) : Passed seen (head :: tail) later counted where
  onwards rest := by
    rw [List.cons_append, survey_offline offline, passed.onwards rest, told]
    cases survey later rest <;> rfl
  keys key := by rw [passed.keys key, heard_offline offline]
  offered := passed.offered
  nothing := passed.nothing

theorem passed_repeated (own : Offered nodeId role (.str "best-effort") 0 head)
    (named : nodeId.key = some key) (known : key ∈ seen)
    (passed : Passed seen tail later counted) : Passed seen (head :: tail) later counted where
  onwards rest := by
    have told : classable (markDuplicate head) = true := classable_best (markDuplicate_online head)
      ((markDuplicate_class head).trans own.configuredClass)
    rw [List.cons_append, survey_duplicate own.online (own.nodeId ▸ named) known,
      passed.onwards rest, told]
    cases survey later rest <;> rfl
  keys other := by
    rw [passed.keys other, heard_online own.online (own.nodeId ▸ named)]
    constructor
    · rintro (old | new)
      · exact .inl old
      · exact .inr (.inr new)
    · rintro (old | rfl | new)
      · exact .inl old
      · exact .inl known
      · exact .inr new
  offered := passed.offered
  nothing := passed.nothing

theorem passed_new (own : Offered nodeId role (.str "best-effort") 0 head)
    (named : nodeId.key = some key) (new : key ∉ seen)
    (passed : Passed (key :: seen) tail later counted) :
    Passed seen (head :: tail) later
      (if isCommittable head then head :: counted else counted) where
  onwards rest := by
    rw [List.cons_append, survey_new own.online (own.nodeId ▸ named) new, passed.onwards rest]
    cases survey later rest with
    | none => rfl
    | some outcome => cases isCommittable head <;> rfl
  keys other := by
    rw [passed.keys other, heard_online own.online (own.nodeId ▸ named), List.mem_cons, or_assoc,
      or_left_comm]
  offered := by
    split
    · intro result member
      rcases List.mem_cons.mp member with rfl | inside
      · exact ⟨_, _, _, _, own⟩
      · exact passed.offered result inside
    · exact passed.offered
  nothing := by
    split
    · rw [List.map_cons, List.sum_cons, offeredGb_of_offered own, passed.nothing, Int.cast_zero,
        zero_add]
    · exact passed.nothing

variable (seen) in
theorem passed_calm {results : List Dict} (calm : ∀ result ∈ results, Calm result) :
    ∃ later counted, Passed seen results later counted := by
  induction results generalizing seen with
  | nil => exact ⟨seen, [], fun rest => Option.map_id'.symm, fun key => by simp [Heard],
      fun result member => absurd member List.not_mem_nil, rfl⟩
  | cons head tail ih =>
      have calmer : ∀ result ∈ tail, Calm result := fun result member => calm result (.tail head member)
      cases calm head List.mem_cons_self with
      | refused offline told =>
          obtain ⟨later, counted, passed⟩ := ih seen calmer
          exact ⟨later, counted, passed_refused offline told passed⟩
      | @offered nodeId role key named own =>
          by_cases known : key ∈ seen
          · obtain ⟨later, counted, passed⟩ := ih seen calmer
            exact ⟨later, counted, passed_repeated own named known passed⟩
          · obtain ⟨later, counted, passed⟩ := ih (key :: seen) calmer
            exact ⟨later, _, passed_new own named known passed⟩

variable (seen) in
theorem survey_calm {results : List Dict} (calm : ∀ result ∈ results, Calm result) :
    ∃ counted, survey seen results = some (counted, true) ∧ AllOffered counted ∧
      (counted.map offeredGb).sum = 0 := by
  obtain ⟨later, counted, passed⟩ := passed_calm seen calm
  refine ⟨counted, ?_, passed.offered, passed.nothing⟩
  have whole := passed.onwards []
  rw [List.append_nil] at whole
  rw [whole]
  change some (counted ++ [], true) = _
  rw [List.append_nil]

theorem accounting_told {asked : List Asked} {committable : List Dict}
    (some_asked : asked.isEmpty = false)
    (surveyed : survey [] (asked.map (fetchSummary settings)) = some (committable, true))
    (offered : AllOffered committable) : ∃ used free, accounting settings asked =
      some (some ((committable.map offeredGb).sum, used, free)) := by
  obtain ⟨used, free, settled⟩ := settle_offered settings.conv offered
  refine ⟨used, free, ?_⟩
  rw [accounting_eq some_asked, surveyed, Option.bind_some]
  dsimp only
  rw [settled]
  rfl

end Calmness

/-- The node answers, or not, with a calm result. -/
def CalmAnswer (settings : Settings) (asked : Asked) : Prop := Calm (fetchSummary settings asked)

section Interference

variable {settings : Settings} {node : Dict} {nodeId role : Json} {key : Key} {gigabytes : Int}
  {before after : List Asked} {asked : Asked}

theorem calm_results {asked : List Asked} (calm : ∀ one ∈ asked, CalmAnswer settings one) :
    ∀ result ∈ asked.map (fetchSummary settings), Calm result := by
  intro result member
  obtain ⟨one, inside, rfl⟩ := List.mem_map.mp member
  exact calm one inside

theorem calm_mute (classed : classable (baseResult settings.conv node) = true) :
    CalmAnswer settings (mute node) :=
  .refused (refused_offline (mute_refused settings node))
    ((refused_classable (mute_refused settings node)).trans classed)

theorem calm_offer (admitted : admits settings node nodeId role = true)
    (named : nodeId.key = some key) : ∃ asked : Asked, asked.node = node ∧
      CalmAnswer settings asked ∧ Heard [fetchSummary settings asked] key := by
  obtain ⟨asked, own, offered⟩ := offer_accepted (.str "best-effort") admitted le_rfl
  exact ⟨asked, own, .offered named offered,
    ⟨_, List.mem_cons_self, offered.online, offered.nodeId ▸ named⟩⟩

private theorem accounting_calm {asked : List Asked} (some_asked : asked.isEmpty = false)
    (calm : ∀ one ∈ asked, CalmAnswer settings one) :
    ∃ used free, accounting settings asked = some (some (0, used, free)) := by
  obtain ⟨counted, surveyed, offered, nothing⟩ := survey_calm [] (calm_results calm)
  rw [← nothing]
  exact accounting_told some_asked surveyed offered

/-- A duplicate whose class cannot be told makes `aggregate` raise. -/
theorem accounting_repeated (calm : ∀ one ∈ before, CalmAnswer settings one)
    (heard : Heard (before.map (fetchSummary settings)) key)
    (own : Offered nodeId role (.arr []) gigabytes (fetchSummary settings asked))
    (named : nodeId.key = some key) : accounting settings (before ++ asked :: after) = none := by
  obtain ⟨later, counted, passed⟩ := passed_calm [] (calm_results calm)
  have untold := classable_unhashable (markDuplicate_online (fetchSummary settings asked))
    ((markDuplicate_class _).trans own.configuredClass)
  refine accounting_untold (by simp) fun committable told surveyed => ?_
  rw [List.map_append, List.map_cons, passed.onwards, survey_duplicate own.online
    (own.nodeId ▸ named) ((passed.keys key).mpr (.inr heard)), untold] at surveyed
  cases rest : survey later (after.map (fetchSummary settings)) with
  | none =>
      rw [rest] at surveyed
      cases surveyed
  | some outcome =>
      rw [rest] at surveyed
      simp only [Option.map_some, Bool.false_and, Option.some.injEq, Prod.mk.injEq] at surveyed
      exact surveyed.2.symm

theorem accounting_first (calm : ∀ one ∈ before, CalmAnswer settings one)
    (calm' : ∀ one ∈ after, CalmAnswer settings one)
    (unheard : ¬Heard (before.map (fetchSummary settings)) key)
    (own : Offered nodeId role (.arr []) gigabytes (fetchSummary settings asked))
    (named : nodeId.key = some key) : ∃ used free,
      accounting settings (before ++ asked :: after) =
        some (some (if committableRole role then (gigabytes : ℚ) else 0, used, free)) := by
  obtain ⟨later, counted, passed⟩ := passed_calm [] (calm_results calm)
  have new : key ∉ later := fun known =>
    ((passed.keys key).mp known).elim List.not_mem_nil unheard
  obtain ⟨counted', surveyed, offered, nothing⟩ := survey_calm (key :: later)
    (calm_results calm')
  have committable : isCommittable (fetchSummary settings asked) = committableRole role := by
    unfold isCommittable
    rw [own.role]
    rfl
  have whole : survey [] ((before ++ asked :: after).map (fetchSummary settings)) =
      some (counted ++ (if committableRole role then fetchSummary settings asked :: counted'
        else counted'), true) := by
    rw [List.map_append, List.map_cons, passed.onwards, survey_new own.online
      (own.nodeId ▸ named) new, surveyed, committable, Option.map_some, Option.map_some]
  have sold : AllOffered (counted ++ (if committableRole role then
      fetchSummary settings asked :: counted' else counted')) := by
    intro result member
    rcases List.mem_append.mp member with old | rest
    · exact passed.offered result old
    · split at rest
      · rcases List.mem_cons.mp rest with rfl | inside
        · exact ⟨_, _, _, _, own⟩
        · exact offered result inside
      · exact offered result rest
  obtain ⟨used, free, settled⟩ := accounting_told (by simp) whole sold
  refine ⟨used, free, settled.trans ?_⟩
  rw [List.map_append, List.sum_append, passed.nothing, zero_add]
  split
  · rw [List.map_cons, List.sum_cons, offeredGb_of_offered own, nothing, add_zero]
  · rw [nothing]

theorem sameButEdges_refl (asked : List Asked) : SameButEdges asked asked :=
  List.forall₂_same.mpr fun _ _ => ⟨rfl, fun _ => rfl⟩

theorem sameButEdges_one {before after : List Asked} {first second : Asked}
    (node : first.node = second.node) (edge : edgeConfigured first.node = true) :
    SameButEdges (before ++ first :: after) (before ++ second :: after) := by
  refine List.rel_append (sameButEdges_refl before) (.cons ⟨node, fun kept => ?_⟩
    (sameButEdges_refl after))
  rw [edge] at kept
  cases kept

end Interference

/-- The accounting does not depend on what the edge nodes among these answer. -/
def EdgesSilent (settings : Settings) (nodes : List Dict) : Prop :=
  ∀ first second : List Asked, first.map Asked.node = nodes → SameButEdges first second →
    accounting settings first = accounting settings second

def MayReport (settings : Settings) (node : Dict) (key : Key) : Prop :=
  ∃ nodeId role, admits settings node nodeId role = true ∧ nodeId.key = some key

theorem pairwise_of_splits {α : Type} {relates : α → α → Prop} {items : List α}
    (splits : ∀ before first between second after,
      items = before ++ first :: (between ++ second :: after) → relates first second) :
    items.Pairwise relates := by
  induction items with
  | nil => exact .nil
  | cons head tail ih =>
      refine .cons (fun other member => ?_) (ih fun before first between second after same => ?_)
      · obtain ⟨between, after, rfl⟩ := List.append_of_mem member
        exact splits [] head between other after rfl
      · exact splits (head :: before) first between second after (by rw [same]; rfl)

section Silence

variable {settings : Settings} {nodes : List Dict} {node : Dict} {nodeId role : Json} {key : Key}

theorem heard_reported {run : List Asked} (heard : Heard (run.map (fetchSummary settings)) key) :
    ∃ one ∈ run, (fetchSummary settings one).get "online" = .bool true ∧
      MayReport settings one.node key := by
  obtain ⟨result, member, online, named⟩ := heard
  obtain ⟨one, inside, rfl⟩ := List.mem_map.mp member
  refine ⟨one, inside, online, ?_⟩
  rcases fetchSummary_taken settings one with refused | ⟨summary, taken⟩
  · rw [refused_offline refused] at online
    cases online
  · rw [taken.columns (by decide)] at named
    exact ⟨_, _, taken.admitted, named⟩

variable (settings nodes) in
def Calmable : Prop := ∀ node ∈ nodes, ∃ asked : Asked, asked.node = node ∧ CalmAnswer settings asked

theorem calmable_of_undoomed (undoomed : ¬Doomed settings nodes) : Calmable settings nodes := by
  intro node member
  cases classed : classable (baseResult settings.conv node) with
  | true => exact ⟨mute node, rfl, calm_mute classed⟩
  | false =>
      by_contra none_calm
      refine undoomed ⟨node, member, classed, fun nodeId role admitted => ?_⟩
      cases named : nodeId.key with
      | none => rfl
      | some key =>
          obtain ⟨asked, own, calm, -⟩ := calm_offer admitted named
          exact absurd ⟨asked, own, calm⟩ none_calm

theorem calm_run (calmable : Calmable settings nodes) : ∃ run : List Asked,
    run.map Asked.node = nodes ∧ ∀ one ∈ run, CalmAnswer settings one := by
  induction nodes with
  | nil => exact ⟨[], rfl, fun one member => absurd member List.not_mem_nil⟩
  | cons head tail ih =>
      obtain ⟨run, same, calm⟩ := ih fun node member => calmable node (.tail head member)
      obtain ⟨asked, rfl, own⟩ := calmable head List.mem_cons_self
      refine ⟨asked :: run, by rw [List.map_cons, same], fun one member => ?_⟩
      rcases List.mem_cons.mp member with rfl | inside
      · exact own
      · exact calm one inside

theorem calm_split (calmable : Calmable settings nodes) (member : node ∈ nodes) :
    ∃ (before after : List Asked) (asked : Asked), asked.node = node ∧
      (before ++ asked :: after).map Asked.node = nodes ∧
      ∀ one ∈ before ++ asked :: after, CalmAnswer settings one := by
  obtain ⟨run, same, calm⟩ := calm_run calmable
  rw [← same] at member
  obtain ⟨asked, inside, rfl⟩ := List.mem_map.mp member
  obtain ⟨before, after, rfl⟩ := List.append_of_mem inside
  exact ⟨before, after, asked, rfl, same, calm⟩

/-- In a calm run, the other answers of an edge node change nothing that can be sold. -/
theorem silent_calm (silent : EdgesSilent settings nodes) {before after : List Asked}
    {asked other : Asked} (same : (before ++ asked :: after).map Asked.node = nodes)
    (calm : ∀ one ∈ before ++ asked :: after, CalmAnswer settings one)
    (own : asked.node = other.node) (edge : edgeConfigured asked.node = true) :
    ∃ used free, accounting settings (before ++ other :: after) = some (some (0, used, free)) := by
  rw [← silent _ _ same (sameButEdges_one own edge)]
  exact accounting_calm (by simp) calm

theorem silent_classed (silent : EdgesSilent settings nodes) (calmable : Calmable settings nodes)
    (member : node ∈ nodes) (edge : edgeConfigured node = true) :
    classable (baseResult settings.conv node) = true := by
  obtain ⟨before, after, asked, rfl, same, calm⟩ := calm_split calmable member
  refine Bool.eq_true_of_not_eq_false fun untold => ?_
  have refused := mute_refused settings asked.node
  have spoils : Spoils (fetchSummary settings (mute asked.node)) :=
    .inl ⟨refused_offline refused, (refused_classable refused).trans untold⟩
  obtain ⟨used, free, sold⟩ := silent_calm silent same calm (rfl : _ = (mute asked.node).node) edge
  generalize mute asked.node = other at spoils sold
  rw [accounting_spoiled (List.mem_append_right before List.mem_cons_self) spoils] at sold
  cases sold

/-- An edge node that may report a committable role, or an identity that is no key, is heard. -/
theorem silent_uncommitted (silent : EdgesSilent settings nodes)
    (calmable : Calmable settings nodes) (member : node ∈ nodes)
    (edge : edgeConfigured node = true) (admitted : admits settings node nodeId role = true) :
    committableRole role = false ∧ nodeId.key.isSome = true := by
  obtain ⟨before, after, asked, rfl, same, calm⟩ := calm_split calmable member
  obtain ⟨other, own, offered⟩ := offer_accepted (.arr []) admitted Int.one_nonneg
  obtain ⟨used, free, sold⟩ := silent_calm silent same calm own.symm edge
  cases named : nodeId.key with
  | none =>
      rw [accounting_spoiled (List.mem_append_right before List.mem_cons_self)
        (.inr ⟨offered.online, offered.nodeId ▸ named⟩)] at sold
      cases sold
  | some key =>
      refine ⟨Bool.eq_false_of_not_eq_true fun committable => ?_, rfl⟩
      have calm' : ∀ one ∈ before, CalmAnswer settings one := fun one inside =>
        calm one (List.mem_append_left _ inside)
      by_cases heard : Heard (before.map (fetchSummary settings)) key
      · rw [accounting_repeated calm' heard offered named] at sold
        cases sold
      · have later : ∀ one ∈ after, CalmAnswer settings one := fun one inside =>
          calm one (List.mem_append_right before (.tail asked inside))
        obtain ⟨used', free', counted⟩ := accounting_first calm' later heard offered named
        rw [counted, if_pos committable] at sold
        simp at sold

section Pairs

variable {before between after : List Dict} {first second : Dict}

theorem calm_part (part : List Dict) (calmable : Calmable settings nodes)
    (inside : ∀ node ∈ part, node ∈ nodes) : ∃ run : List Asked,
    run.map Asked.node = part ∧ ∀ one ∈ run, CalmAnswer settings one :=
  calm_run fun node member => calmable node (inside node member)

/-- A later edge node that may report the identity of another repeats it. -/
theorem silent_second (silent : EdgesSilent settings (before ++ first :: (between ++ second :: after)))
    (calmable : Calmable settings (before ++ first :: (between ++ second :: after)))
    (edge : edgeConfigured second = true) (one : MayReport settings first key) :
    ¬MayReport settings second key := by
  rintro ⟨nodeId', role', answers, named'⟩
  obtain ⟨nodeId, role, admitted, named⟩ := one
  obtain ⟨run, rfl, calm⟩ := calm_part before calmable (by simp +contextual)
  obtain ⟨run', rfl, calm'⟩ := calm_part between calmable (by simp +contextual)
  obtain ⟨run'', rfl, calm''⟩ := calm_part after calmable (by simp +contextual)
  obtain ⟨answer, rfl, own, heard⟩ := calm_offer admitted named
  obtain ⟨still, rfl, own'⟩ := calmable second (by simp)
  obtain ⟨other, same, offered⟩ := offer_accepted (.arr []) answers le_rfl
  have early : ∀ one ∈ run ++ answer :: run', CalmAnswer settings one :=
    List.forall_mem_append.mpr ⟨calm, List.forall_mem_cons.mpr ⟨own, calm'⟩⟩
  have whole : ∀ one ∈ (run ++ answer :: run') ++ still :: run'', CalmAnswer settings one :=
    List.forall_mem_append.mpr ⟨early, List.forall_mem_cons.mpr ⟨own', calm''⟩⟩
  obtain ⟨used, free, sold⟩ := silent_calm silent (by simp) whole same.symm edge
  rw [accounting_repeated early ?_ offered named'] at sold
  · cases sold
  · obtain ⟨result, inside, online⟩ := heard
    refine ⟨result, ?_, online⟩
    rw [List.mem_singleton.mp inside]
    exact List.mem_map_of_mem (by simp)

/-- The first node after an edge node that may report the same identity is masked. -/
theorem silent_first (silent : EdgesSilent settings (before ++ first :: (between ++ second :: after)))
    (calmable : Calmable settings (before ++ first :: (between ++ second :: after)))
    (edge : edgeConfigured first = true) (one : MayReport settings first key)
    (apart : ∀ node ∈ before ++ between, ¬MayReport settings node key) :
    ¬MayReport settings second key := by
  rintro ⟨nodeId', role', answers, named'⟩
  obtain ⟨nodeId, role, admitted, named⟩ := one
  have classed := silent_classed silent calmable (by simp) edge
  obtain ⟨run, rfl, calm⟩ := calm_part before calmable (by simp +contextual)
  obtain ⟨run', rfl, calm'⟩ := calm_part between calmable (by simp +contextual)
  obtain ⟨run'', rfl, calm''⟩ := calm_part after calmable (by simp +contextual)
  obtain ⟨answer, rfl, own, heard⟩ := calm_offer admitted named
  obtain ⟨other, rfl, offered⟩ := offer_accepted (.arr []) answers le_rfl
  have early : ∀ mine, CalmAnswer settings mine →
      ∀ one ∈ run ++ mine :: run', CalmAnswer settings one := fun mine own =>
    List.forall_mem_append.mpr ⟨calm, List.forall_mem_cons.mpr ⟨own, calm'⟩⟩
  have refused := mute_refused settings answer.node
  have quiet := calm_mute classed
  have masked : accounting settings ((run ++ answer :: run') ++ other :: run'') = none := by
    refine accounting_repeated (early answer own) ?_ offered named'
    obtain ⟨result, inside, online⟩ := heard
    refine ⟨result, ?_, online⟩
    rw [List.mem_singleton.mp inside]
    exact List.mem_map_of_mem (by simp)
  have unheard : ¬Heard ((run ++ mute answer.node :: run').map (fetchSummary settings)) key := by
    intro heard
    obtain ⟨one, member, online, reports⟩ := heard_reported heard
    rcases List.mem_append.mp member with inside | inside
    · exact apart _ (List.mem_append_left _ (List.mem_map_of_mem inside)) reports
    · rcases List.mem_cons.mp inside with rfl | inside
      · rw [refused_offline refused] at online
        cases online
      · exact apart _ (List.mem_append_right _ (List.mem_map_of_mem inside)) reports
  obtain ⟨used, free, sold⟩ := accounting_first (early _ quiet) calm'' unheard offered named'
  have same := silent (run ++ answer :: (run' ++ other :: run''))
    (run ++ mute answer.node :: (run' ++ other :: run'')) (by simp) (sameButEdges_one rfl edge)
  rw [List.append_assoc, List.cons_append] at masked sold
  rw [masked, sold] at same
  cases same

/-- Of two nodes, one of them of the edge, at most one may report a given identity. -/
theorem silent_apart (silent : EdgesSilent settings (before ++ first :: (between ++ second :: after)))
    (calmable : Calmable settings (before ++ first :: (between ++ second :: after)))
    (edge : edgeConfigured first = true ∨ edgeConfigured second = true)
    (one : MayReport settings first key) : ¬MayReport settings second key := by
  rcases edge with edge | edge
  · intro other
    have earlier : ∀ node ∈ before, ¬MayReport settings node key := by
      intro node member reports
      obtain ⟨before', after', rfl⟩ := List.append_of_mem member
      rw [List.append_assoc, List.cons_append] at silent calmable
      exact silent_second silent calmable edge reports one
    classical
    -- the first node after the edge node that may report the identity
    obtain ⟨next, found⟩ := Option.isSome_iff_exists.mp <| List.find?_isSome.mpr
      (⟨second, by simp, by simpa using other⟩ : ∃ node ∈ between ++ second :: after,
        decide (MayReport settings node key) = true)
    obtain ⟨reports, between', after', split, apart⟩ := List.find?_eq_some_iff_append.mp found
    rw [split] at silent calmable
    refine silent_first silent calmable edge one (fun node member => ?_) (of_decide_eq_true reports)
    rcases List.mem_append.mp member with inside | inside
    · exact earlier node inside
    · simpa using apart node inside
  · exact silent_second silent calmable edge one

end Pairs

theorem isolated_of_silent (silent : EdgesSilent settings nodes)
    (calmable : Calmable settings nodes) : EdgesIsolated settings nodes where
  classed node member edge := silent_classed silent calmable member edge
  uncommitted node member edge nodeId role admitted :=
    silent_uncommitted silent calmable member edge admitted
  apart := by
    refine pairwise_of_splits fun before first between second after split => ?_
    intro edge nodeId role nodeId' role' admitted answers collide
    have hashable : nodeId.key.isSome = true := by
      rcases edge with edge | edge
      · exact (silent_uncommitted silent calmable (split ▸ by simp) edge admitted).2
      · rw [collide]
        exact (silent_uncommitted silent calmable (split ▸ by simp) edge answers).2
    obtain ⟨key, named⟩ := Option.isSome_iff_exists.mp hashable
    subst split
    exact silent_apart silent calmable edge ⟨_, _, admitted, named⟩
      ⟨_, _, answers, collide.symm.trans named⟩

end Silence

/-- The edge nodes of a configuration change nothing in the accounting of the committable capacity
exactly if they are isolated, or if there is never an accounting. -/
theorem edges_silent_iff (settings : Settings) (file : Option Json) :
    EdgesSilent settings (discoverNodes settings.conv file) ↔
      EdgesIsolated settings (discoverNodes settings.conv file) ∨
        Doomed settings (discoverNodes settings.conv file) := by
  constructor
  · intro silent
    refine or_iff_not_imp_right.mpr fun undoomed => ?_
    exact isolated_of_silent silent (calmable_of_undoomed undoomed)
  · rintro (isolated | doomed) first second nodes same
    · exact accounting_agree same (nodes ▸ isolated)
    · have nodes' : second.map Asked.node = first.map Asked.node := by
        refine (List.forall₂_eq_eq_eq ▸ List.forall₂_map_left_iff.mpr
          (List.forall₂_map_right_iff.mpr ?_) : List.map Asked.node second = _)
        exact (same.imp fun _ _ pair => pair.1.symm).flip
      rw [accounting_doomed (nodes ▸ doomed), accounting_doomed (nodes' ▸ nodes ▸ doomed)]

def digits (text : String) : Option Int :=
  if text ≠ "" && text.toList.all Char.isDigit then
    some (text.toList.foldl (fun number digit => number * 10 + (digit.toNat - 48 : Nat)) 0)
  else none

/-- Of the values that are not texts only integers are shown, and of the texts only digits read. -/
def plainConversions : Conversions where
  str
    | .int value => toString value
    | _ => ""
  float text := (digits text).map Int.cast
  int := digits
  error name _ := name

def plainSettings : Settings where
  now := 1000
  conv := plainConversions

/-- A file lists its nodes, if each is enabled and can be reached. -/
def registryFile (nodes : List Dict) : Json := .obj [("nodes", .arr (nodes.map .obj))]

theorem discoverNodes_registry {conv : Conversions} {nodes : List Dict}
    (valid : ∀ node ∈ nodes, (node.getD "enabled" (.bool true)).isFalse = false ∧
      nodeConfigValid conv node = true) :
    discoverNodes conv (some (registryFile nodes)) = nodes := by
  change (nodes.map Json.obj).filterMap _ = nodes
  induction nodes with
  | nil => rfl
  | cons head tail ih =>
      obtain ⟨enabled, reachable⟩ := valid head List.mem_cons_self
      rw [List.map_cons, List.filterMap_cons]
      simp only [enabled, reachable, Bool.not_false, Bool.and_self, if_true]
      rw [ih fun node member => valid node (List.mem_cons_of_mem head member)]

def directPrimary : Dict :=
  [("name", .str "primary"), ("url", .str "http://primary:8091"), ("role", .str "primary"),
    ("capacity_class", .str "committable")]

def directEdge : Dict :=
  [("name", .str "node-7"), ("url", .str "http://node-7:8091"), ("role", .str "edge"),
    ("capacity_class", .str "best-effort")]

def storageSummary (nodeId role : String) (gigabytes : Int) : Dict :=
  [("node_id", .str nodeId), ("role", .str role), ("capacity_total_gb", .int gigabytes)]

def directRun (role : String) : List Asked :=
  [answering directPrimary (storageSummary "primary" "primary" 1000),
    answering directEdge (storageSummary "node-7" role 9000)]

theorem edges_not_silent : ¬∀ (settings : Settings) (file : Option Json),
    EdgesSilent settings (discoverNodes settings.conv file) := by
  intro always
  have nodes : discoverNodes plainSettings.conv (some (registryFile [directPrimary, directEdge])) =
      [directPrimary, directEdge] := discoverNodes_registry (by decide)
  have silent := always plainSettings (some (registryFile [directPrimary, directEdge]))
  rw [nodes] at silent
  have same := silent (directRun "edge") (directRun "secondary") rfl
    (.cons ⟨rfl, fun _ => rfl⟩ (.cons ⟨rfl, fun kept => absurd kept (by decide)⟩ .nil))
  revert same
  decide +kernel

end HashBurst.Aggregator
