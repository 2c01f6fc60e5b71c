import HashBurst.Aggregator.Aggregate

namespace HashBurst.Aggregator

open Lib Lib.Py

/-- `role` is edge, or `capacity_class` is best-effort, in the configuration. -/
def edgeConfigured (node : Dict) : Bool :=
  (node.get "role").isStr "edge" || (node.get "capacity_class").isStr "best-effort"

def committableRole (role : Json) : Bool := role.isStr "primary" || role.isStr "secondary"

/-- The checks of the node's transport let a summary of that identity through. -/
def admits (settings : Settings) (node : Dict) (nodeId role : Json) : Bool :=
  let conv := settings.conv
  identityValid conv nodeId role &&
    (transport conv node = "direct" ||
      (transport conv node = "tep" && (TepAdapter.checkConfig settings node).toBool &&
        (conv.text (node.get "role") = "" || conv.text role = conv.text (node.get "role")) &&
        (configuredSummaryId conv node = "" || conv.text nodeId = configuredSummaryId conv node)))

def classable (result : Dict) : Bool := (capacityClass result).toBool

/-- The class of every edge node can be told when it does not answer, and no identity that it may
report has a committable role, cannot be a key, or is also one of another node. -/
structure EdgesIsolated (settings : Settings) (nodes : List Dict) : Prop where
  classed : ∀ node ∈ nodes, edgeConfigured node = true →
    classable (baseResult settings.conv node) = true
  uncommitted : ∀ node ∈ nodes, edgeConfigured node = true → ∀ nodeId role,
    admits settings node nodeId role = true → committableRole role = false ∧ nodeId.key.isSome = true
  apart : nodes.Pairwise fun first second =>
    edgeConfigured first = true ∨ edgeConfigured second = true → ∀ nodeId role nodeId' role',
      admits settings first nodeId role = true → admits settings second nodeId' role' = true →
        nodeId.key ≠ nodeId'.key

/-- The class of some node cannot be told, and no identity that it may report is a key. -/
def Doomed (settings : Settings) (nodes : List Dict) : Prop :=
  ∃ node ∈ nodes, classable (baseResult settings.conv node) = false ∧ ∀ nodeId role,
    admits settings node nodeId role = true → nodeId.key = none

/-- The same nodes, of which only the edge nodes may answer otherwise. -/
def SameButEdges (first second : List Asked) : Prop :=
  List.Forall₂ (fun asked other => asked.node = other.node ∧
    (edgeConfigured asked.node = false → asked = other)) first second

/-- The committable capacity and usage, and what of it may be sold; nothing if `aggregate` raises. -/
def accounting (settings : Settings) (asked : List Asked) : Option (Option (ℚ × ℚ × Option ℚ)) :=
  (aggregate settings asked).toOption.map fun report => report.network.map fun network =>
    (network.capacityCommittableGb, network.usedCommittableGb, network.freeSellableGb)

/-- The keys of a result that the aggregator writes itself. -/
def ownKeys : List String :=
  ["name", "url", "online", "configured_class", "configured_role", "transport", "tep_peer_id",
    "transport_path", "relay_peer_id", "rtt_ms"]

/-- The keys that are set after the summary has been merged. -/
def lateKeys : List String := ["online", "transport", "transport_path", "relay_peer_id", "rtt_ms"]

structure Taken (settings : Settings) (node summary result : Dict) : Prop where
  online : result.get "online" = .bool true
  admitted : admits settings node (summary.get "node_id") (summary.get "role") = true
  merged : ∀ name, name ∉ lateKeys →
    result.get name = ((baseResult settings.conv node).update summary).get name
  capacity : ∃ value, settings.conv.toFloat (summary.get "capacity_total_gb") = .ok value
  used : ∃ value, settings.conv.floatOrZero (summary.get "used_gb") = .ok value

def Refused (settings : Settings) (node result : Dict) : Prop :=
  ∃ error, result = (baseResult settings.conv node).set "error" error

section Fetch

variable {settings : Settings} {node summary : Dict}

theorem validateSummary_cases {value : Json} (valid : validateSummary settings value = .ok summary) :
    value = .obj summary ∧
      identityValid settings.conv (summary.get "node_id") (summary.get "role") = true ∧
      (∃ total, settings.conv.toFloat (summary.get "capacity_total_gb") = .ok total) ∧
      ∃ used, settings.conv.floatOrZero (summary.get "used_gb") = .ok used := by
  cases value with
  | obj fields =>
      simp only [validateSummary, bind, Except.bind, pure, Except.pure] at valid
      split at valid
      · cases valid
      · split at valid
        · cases valid
        · rename_i identity
          simp only [Bool.not_eq_true', Bool.not_eq_false] at identity
          split at valid
          · cases valid
          · rename_i total capacity
            split at valid
            · cases valid
            · rename_i used usage
              split at valid
              · cases valid
              · split at valid
                · cases valid
                · split at valid
                  · cases valid
                  · cases valid
                    exact ⟨rfl, identity, ⟨total, capacity⟩, ⟨used, usage⟩⟩
  | _ => cases valid

theorem checkedTepSummary_cases {reply : TepAdapter.IpcReply}
    (checked : checkedTepSummary settings node reply = .ok summary) :
    (TepAdapter.checkConfig settings node).toBool = true ∧
      TepAdapter.fetchSummary settings node reply = .ok summary ∧
      validateSummary settings (.obj summary) = .ok summary ∧
      (settings.conv.text (node.get "role") = "" ∨
        settings.conv.text (summary.get "role") = settings.conv.text (node.get "role")) ∧
      (configuredSummaryId settings.conv node = "" ∨
        settings.conv.text (summary.get "node_id") = configuredSummaryId settings.conv node) := by
  simp only [checkedTepSummary, bind, Except.bind, pure, Except.pure] at checked
  split at checked
  · cases checked
  · rename_i fetched received
    have config : (TepAdapter.checkConfig settings node).toBool = true := by
      cases config : TepAdapter.checkConfig settings node with
      | error failure =>
          simp only [TepAdapter.fetchSummary, config, bind, Except.bind, Except.mapError] at received
          cases received
      | ok value => rfl
    split at checked
    · cases checked
    · rename_i same valid
      split at checked
      · cases checked
      · rename_i role
        split at checked
        · cases checked
        · rename_i identity
          cases checked
          have equal : summary = fetched := by
            have whole := (validateSummary_cases valid).1
            cases whole
            rfl
          subst equal
          have answered : TepAdapter.fetchSummary settings node reply = .ok summary := by
            cases fetched : TepAdapter.fetchSummary settings node reply with
            | error failure =>
                rw [fetched] at received
                cases received
            | ok value =>
                rw [fetched] at received
                cases received
                rfl
          refine ⟨config, answered, valid, ?_, ?_⟩
          · simpa only [Bool.and_eq_true, decide_eq_true_eq, not_and_or, ne_eq, not_not] using role
          · simpa only [Bool.and_eq_true, decide_eq_true_eq, not_and_or, ne_eq, not_not] using identity

/-- The columns of a summary that the aggregator does not write itself are merged as they are. -/
theorem get_merged {name : String} (foreign : name ∉ ownKeys) :
    ((baseResult settings.conv node).update summary).get name = summary.get name := by
  have absent : (baseResult settings.conv node).lookup name = none := by
    rw [List.lookup_eq_none_iff]
    intro pair member
    have own : pair.1 ∈ ownKeys := by
      simp only [baseResult, List.mem_cons, List.not_mem_nil, or_false] at member
      rcases member with rfl | rfl | rfl | rfl | rfl | rfl | rfl <;> simp [ownKeys]
    exact bne_iff_ne.mpr fun same => foreign (same ▸ own)
  rw [get_update]
  unfold Dict.get Dict.getD
  rw [absent]
  rfl

theorem Taken.columns {result : Dict} (taken : Taken settings node summary result) {name : String}
    (foreign : name ∉ ownKeys) : result.get name = summary.get name := by
  have own : ∀ key ∈ lateKeys, key ∈ ownKeys := by decide
  exact (taken.merged name fun late => foreign (own name late)).trans (get_merged foreign)

theorem fetchSummaryDirect_cases (reply : HttpReply) :
    Refused settings node (fetchSummaryDirect settings node reply) ∨ ∃ summary,
      checkedDirectSummary settings reply = .ok summary ∧
      (fetchSummaryDirect settings node reply).get "online" = .bool true ∧
      ∀ name, name ∉ lateKeys → (fetchSummaryDirect settings node reply).get name =
        ((baseResult settings.conv node).update summary).get name := by
  unfold fetchSummaryDirect
  cases checked : checkedDirectSummary settings reply with
  | error failure => exact .inl ⟨_, rfl⟩
  | ok summary =>
      refine .inr ⟨summary, rfl, ?_, fun name early => ?_⟩
      · rw [get_set_other (by decide), get_set_self]
      · have path : name ≠ "transport_path" := fun same => early (by simp [same, lateKeys])
        have online : name ≠ "online" := fun same => early (by simp [same, lateKeys])
        rw [get_set_other path, get_set_other online]

/-- The keys that `withTransport` does not set at its end. -/
theorem get_withTransport {out : Dict} {name : String} (relay : name ≠ "relay_peer_id")
    (rtt : name ≠ "rtt_ms") : (withTransport settings.conv summary out).get name =
      (((out.set "online" (.bool true)).set "transport" (.str "tep")).set "transport_path"
        (.str (settings.conv.strOr (summary.get "_tep_transport_path") "direct"))).get name := by
  unfold withTransport
  dsimp only
  split
  · split
    · exact get_set_other relay
    · rfl
  · rw [get_set_other rtt]
    split
    · exact get_set_other relay
    · rfl

theorem fetchSummaryTep_cases (reply : TepAdapter.IpcReply) :
    Refused settings node (fetchSummaryTep settings node reply) ∨ ∃ summary,
      checkedTepSummary settings node reply = .ok summary ∧
      (fetchSummaryTep settings node reply).get "online" = .bool true ∧
      ∀ name, name ∉ lateKeys → (fetchSummaryTep settings node reply).get name =
        ((baseResult settings.conv node).update summary).get name := by
  unfold fetchSummaryTep
  cases checked : checkedTepSummary settings node reply with
  | error failure => exact .inl ⟨_, rfl⟩
  | ok summary =>
      refine .inr ⟨summary, rfl, ?_, fun name early => ?_⟩
      · rw [get_withTransport (by decide) (by decide), get_set_other (by decide),
          get_set_other (by decide), get_set_self]
      · have late : ∀ key ∈ lateKeys, name ≠ key := fun key member same => early (same ▸ member)
        rw [get_withTransport (late _ (by decide)) (late _ (by decide)),
          get_set_other (late "transport_path" (by decide)),
          get_set_other (late "transport" (by decide)), get_set_other (late "online" (by decide))]

/-- A result is that of a refusal, or of a summary which the node's transport admits. -/
theorem fetchSummary_taken (settings : Settings) (asked : Asked) :
    Refused settings asked.node (fetchSummary settings asked) ∨
      ∃ summary, Taken settings asked.node summary (fetchSummary settings asked) := by
  unfold fetchSummary
  dsimp only
  split
  · rename_i direct
    rcases fetchSummaryDirect_cases asked.http with offline | ⟨summary, checked, online, merged⟩
    · exact .inl offline
    · cases reply : asked.http with
      | failed error =>
          rw [reply] at checked
          cases checked
      | tooLarge =>
          rw [reply] at checked
          cases checked
      | decoded value =>
          rw [reply] at checked online merged
          obtain ⟨-, identity, capacity, used⟩ := validateSummary_cases checked
          refine .inr ⟨summary, online, ?_, merged, capacity, used⟩
          unfold admits
          simp [identity, direct]
  · split
    · rename_i tep
      rcases fetchSummaryTep_cases asked.ipc with offline | ⟨summary, checked, online, merged⟩
      · exact .inl offline
      · obtain ⟨config, -, valid, role, named⟩ := checkedTepSummary_cases checked
        obtain ⟨-, identity, capacity, used⟩ := validateSummary_cases valid
        refine .inr ⟨summary, online, ?_, merged, capacity, used⟩
        unfold admits
        simp [identity, tep, config, role, named]
    · exact .inl ⟨_, rfl⟩

end Fetch

/-- The committable results that are counted, and whether the class of every result can be told. -/
def survey (seen : List Key) (results : List Dict) : Option (List Dict × Bool) :=
  (countOnline seen results).toOption.map fun outcome =>
    (outcome.2.filter isCommittable, outcome.1.all classable)

def settle (conv : Conversions) (committable : List Dict) : Except String (ℚ × ℚ × Option ℚ) := do
  let commTotal ← total conv "capacity_total_gb" committable
  let commUsed ← total conv "used_gb" committable
  let primary ← commitments conv (committable.filter isPrimary)
  return (commTotal, commUsed, (primary.map fun primary =>
    commTotal - primary.reserved - primary.sold).map fun headroom =>
      max 0 (min headroom (commTotal - commUsed)))

section Classes

variable {settings : Settings} {node result other : Dict}

private theorem classable_online (online : result.get "online" = .bool true) :
    classable result = true := by
  unfold classable capacityClass
  rw [online]
  rfl

/-- The class of a result that is offline is told by its configured class and role. -/
theorem classable_congr (one : result.get "online" = .bool false)
    (two : other.get "online" = .bool false)
    (configuredClass : result.get "configured_class" = other.get "configured_class")
    (configuredRole : result.get "configured_role" = other.get "configured_role") :
    classable result = classable other := by
  unfold classable capacityClass
  rw [one, two, configuredClass, configuredRole]
  rfl

theorem classable_best (offline : result.get "online" = .bool false)
    (best : result.get "configured_class" = .str "best-effort") : classable result = true := by
  unfold classable capacityClass
  rw [offline, best]
  rfl

theorem classable_unhashable (offline : result.get "online" = .bool false)
    (unhashable : result.get "configured_class" = .arr []) : classable result = false := by
  unfold classable capacityClass
  rw [offline, unhashable]
  rfl

theorem markDuplicate_online (result : Dict) :
    (markDuplicate result).get "online" = .bool false := rfl

theorem markDuplicate_class (result : Dict) :
    (markDuplicate result).get "configured_class" = result.get "configured_class" := rfl

theorem refused_offline (refused : Refused settings node result) :
    result.get "online" = .bool false := by
  obtain ⟨error, rfl⟩ := refused
  rfl

theorem refused_classable (refused : Refused settings node result) :
    classable result = classable (baseResult settings.conv node) := by
  have offline := refused_offline refused
  obtain ⟨error, rfl⟩ := refused
  exact classable_congr offline rfl rfl rfl

end Classes

section Counting

variable {settings : Settings} {seen : List Key} {result : Dict} {rest : List Dict} {nodeId : Key}

theorem survey_offline (offline : result.get "online" = .bool false) :
    survey seen (result :: rest) = (survey seen rest).map fun (committable, told) =>
      (committable, classable result && told) := by
  unfold survey
  simp only [countOnline, offline, Json.truthy, Bool.not_false, if_true, bind, Except.bind]
  cases countOnline seen rest <;> rfl

theorem survey_unhashable (online : result.get "online" = .bool true)
    (none : (result.get "node_id").key = none) : survey seen (result :: rest) = Option.none := by
  unfold survey
  simp only [countOnline, online, none, Json.truthy, Bool.not_true, Bool.false_eq_true, if_false]
  rfl

theorem survey_duplicate (online : result.get "online" = .bool true)
    (named : (result.get "node_id").key = some nodeId) (known : nodeId ∈ seen) :
    survey seen (result :: rest) = (survey seen rest).map fun (committable, told) =>
      (committable, classable (markDuplicate result) && told) := by
  unfold survey
  simp only [countOnline, online, named, known, Json.truthy, Bool.not_true, Bool.false_eq_true,
    if_false, if_true, bind, Except.bind]
  cases countOnline seen rest <;> rfl

theorem survey_new (online : result.get "online" = .bool true)
    (named : (result.get "node_id").key = some nodeId) (new : nodeId ∉ seen) :
    survey seen (result :: rest) = (survey (nodeId :: seen) rest).map fun (committable, told) =>
      (if isCommittable result then result :: committable else committable, told) := by
  unfold survey
  simp only [countOnline, online, named, new, Json.truthy, Bool.not_true, Bool.false_eq_true,
    if_false, bind, Except.bind]
  cases countOnline (nodeId :: seen) rest with
  | error failure => rfl
  | ok outcome =>
      simp only [pure, Except.pure, Except.toOption, Option.map_some, List.filter_cons,
        List.all_cons, classable_online online, Bool.true_and]

/-- What a survey makes of its first result, and what the rest of it has seen. -/
inductive Surveyed (seen : List Key) (result : Dict) (rest : List Dict) : List Dict × Bool → Prop
  | offline {committable told} (offline : result.get "online" = .bool false)
      (later : survey seen rest = some (committable, told)) :
      Surveyed seen result rest (committable, classable result && told)
  | duplicate {nodeId committable told} (online : result.get "online" = .bool true)
      (named : (result.get "node_id").key = some nodeId) (known : nodeId ∈ seen)
      (later : survey seen rest = some (committable, told)) :
      Surveyed seen result rest (committable, classable (markDuplicate result) && told)
  | new {nodeId committable told} (online : result.get "online" = .bool true)
      (named : (result.get "node_id").key = some nodeId) (new : nodeId ∉ seen)
      (later : survey (nodeId :: seen) rest = some (committable, told)) :
      Surveyed seen result rest
        (if isCommittable result then result :: committable else committable, told)

theorem survey_cons {outcome : List Dict × Bool}
    (lit : result.get "online" = .bool false ∨ result.get "online" = .bool true)
    (done : survey seen (result :: rest) = some outcome) : Surveyed seen result rest outcome := by
  rcases lit with offline | online
  · rw [survey_offline offline] at done
    obtain ⟨later, surveyed, rfl⟩ := Option.map_eq_some_iff.mp done
    exact .offline offline surveyed
  · cases named : (result.get "node_id").key with
    | none =>
        rw [survey_unhashable online named] at done
        cases done
    | some nodeId =>
        by_cases known : nodeId ∈ seen
        · rw [survey_duplicate online named known] at done
          obtain ⟨later, surveyed, rfl⟩ := Option.map_eq_some_iff.mp done
          exact .duplicate online named known surveyed
        · rw [survey_new online named known] at done
          obtain ⟨later, surveyed, rfl⟩ := Option.map_eq_some_iff.mp done
          exact .new online named known surveyed

end Counting

section Accounting

variable {settings : Settings}

theorem countOnline_counted {results : List Dict} {outcome : List Dict × List Dict}
    (done : countOnline seen results = .ok outcome) :
    ∀ counted ∈ outcome.2, counted ∈ results ∧ counted.get "online" ≠ .bool false := by
  induction results generalizing seen outcome with
  | nil =>
      cases done
      intro counted member
      cases member
  | cons head tail ih =>
      simp only [countOnline, bind, Except.bind] at done
      have later : ∀ after left, countOnline after tail = .ok left → ∀ counted ∈ left.2,
          counted ∈ head :: tail ∧ counted.get "online" ≠ .bool false := by
        intro after left counts counted member
        obtain ⟨inside, online⟩ := ih counts counted member
        exact ⟨List.mem_cons_of_mem head inside, online⟩
      split at done
      · split at done
        · cases done
        · rename_i left counts
          cases done
          exact later _ left counts
      · rename_i truthy
        have online : head.get "online" ≠ .bool false := by
          intro same
          simp [same, Json.truthy] at truthy
        split at done
        · cases done
        · split at done
          · split at done
            · cases done
            · rename_i left counts
              cases done
              exact later _ left counts
          · split at done
            · cases done
            · rename_i left counts
              cases done
              intro counted member
              rcases List.mem_cons.mp member with rfl | old
              · exact ⟨List.mem_cons_self, online⟩
              · exact later _ left counts counted old

theorem total_ok {conv : Conversions} {name : String} {results : List Dict}
    (priced : ∀ result ∈ results, ∃ value, conv.floatOrZero (result.get name) = .ok value) :
    ∃ value, total conv name results = .ok value := by
  unfold total
  have values : ∃ values, (results.mapM fun result => conv.floatOrZero (result.get name)) =
      .ok values := by
    induction results with
    | nil => exact ⟨[], rfl⟩
    | cons head tail ih =>
        obtain ⟨value, read⟩ := priced head List.mem_cons_self
        obtain ⟨values, rest⟩ := ih fun result member => priced result (List.mem_cons_of_mem head member)
        exact ⟨value :: values, by rw [List.mapM_cons, read, rest]; rfl⟩
  obtain ⟨values, read⟩ := values
  exact ⟨values.sum, by rw [read]; rfl⟩

theorem taken_priced {node summary result : Dict} (taken : Taken settings node summary result) :
    (∃ value, settings.conv.floatOrZero (result.get "capacity_total_gb") = .ok value) ∧
      ∃ value, settings.conv.floatOrZero (result.get "used_gb") = .ok value := by
  rw [taken.columns (by decide), taken.columns (by decide)]
  refine ⟨?_, taken.used⟩
  unfold Conversions.floatOrZero
  split
  · exact taken.capacity
  · exact ⟨0, rfl⟩

/-- The reports of the nodes fail exactly where a class cannot be told. -/
theorem nodeReports_told (results : List Dict) :
    (results.mapM nodeReport).toOption.isSome = results.all classable := by
  induction results with
  | nil => rfl
  | cons head tail ih =>
      rw [List.mapM_cons, List.all_cons, ← ih]
      unfold nodeReport classable
      cases capacityClass head with
      | error failure => rfl
      | ok capacityClass =>
          cases tail.mapM fun result =>
              (Aggregator.capacityClass result).map fun capacityClass =>
                reportOf capacityClass result with
          | error failure => rfl
          | ok nodes => rfl

/-- The accounting depends on the committable results that are counted, and on whether every class
can be told. -/
theorem accounting_eq {asked : List Asked} (some_asked : asked.isEmpty = false) :
    accounting settings asked =
      (survey [] (asked.map (fetchSummary settings))).bind fun (committable, told) =>
        (settle settings.conv committable).toOption.bind fun settled =>
          if told then some (some settled) else none := by
  unfold accounting survey aggregate
  rw [some_asked]
  simp only [Bool.false_eq_true, if_false, bind, Except.bind]
  cases done : countOnline [] (asked.map (fetchSummary settings)) with
  | error failure => rfl
  | ok outcome =>
      have priced : ∀ result ∈ outcome.2,
          (∃ value, settings.conv.floatOrZero (result.get "capacity_total_gb") = .ok value) ∧
            ∃ value, settings.conv.floatOrZero (result.get "used_gb") = .ok value := by
        intro result member
        obtain ⟨fetched, online⟩ := countOnline_counted done result member
        obtain ⟨one, -, rfl⟩ := List.mem_map.mp fetched
        rcases fetchSummary_taken settings one with refused | ⟨summary, taken⟩
        · exact absurd (refused_offline refused) online
        · exact taken_priced taken
      obtain ⟨edgeTotal, edges⟩ : ∃ value, total settings.conv "capacity_total_gb"
          (outcome.2.filter isEdge) = .ok value :=
        total_ok fun result member => (priced result (List.mem_filter.mp member).1).1
      obtain ⟨edgeUsed, usage⟩ : ∃ value, total settings.conv "used_gb"
          (outcome.2.filter isEdge) = .ok value :=
        total_ok fun result member => (priced result (List.mem_filter.mp member).1).2
      have primaries : (outcome.2.filter isCommittable).filter isPrimary =
          outcome.2.filter isPrimary := by
        rw [List.filter_filter]
        apply List.filter_congr
        intro result _
        unfold isPrimary isCommittable
        cases (result.get "role").isStr "primary" <;> rfl
      obtain ⟨results, counted⟩ := outcome
      have told := nodeReports_told results
      dsimp only at edges usage primaries ⊢
      unfold settle
      simp only [Except.toOption, Option.map_some, Option.bind_some, edges, usage, primaries, bind,
        Except.bind]
      cases total settings.conv "capacity_total_gb" (counted.filter isCommittable) with
      | error failure => rfl
      | ok commTotal =>
          dsimp only
          cases total settings.conv "used_gb" (counted.filter isCommittable) with
          | error failure => rfl
          | ok commUsed =>
              dsimp only
              cases commitments settings.conv (counted.filter isPrimary) with
              | error failure => rfl
              | ok primary =>
                  dsimp only
                  rw [← told]
                  cases results.mapM nodeReport with
                  | error failure => rfl
                  | ok nodes => rfl

end Accounting

def Awaited (settings : Settings) (nodes : List Dict) (key : Key) : Prop :=
  ∃ node ∈ nodes, edgeConfigured node = false ∧ ∃ nodeId role,
    admits settings node nodeId role = true ∧ nodeId.key = some key

def Foreign (settings : Settings) (nodes : List Dict) (seen : List Key) : Prop :=
  ∀ node ∈ nodes, edgeConfigured node = true → ∀ nodeId role,
    admits settings node nodeId role = true → ∀ key ∈ seen, nodeId.key ≠ some key

section Agreement

variable {settings : Settings} {nodes : List Dict} {seen : List Key}

private theorem edgesIsolated_tail {node : Dict}
    (isolated : EdgesIsolated settings (node :: nodes)) : EdgesIsolated settings nodes where
  classed other member := isolated.classed other (List.mem_cons_of_mem node member)
  uncommitted other member := isolated.uncommitted other (List.mem_cons_of_mem node member)
  apart := (List.pairwise_cons.mp isolated.apart).2

/-- What a node reports keeps the keys apart from those of the later edge nodes. -/
theorem foreign_cons {node : Dict} {nodeId role : Json} {key : Key}
    (isolated : EdgesIsolated settings (node :: nodes)) (foreign : Foreign settings nodes seen)
    (admitted : admits settings node nodeId role = true) (named : nodeId.key = some key) :
    Foreign settings nodes (key :: seen) := by
  intro other member edge otherId otherRole answers reported known
  rcases List.mem_cons.mp known with rfl | old
  · intro same
    exact (List.pairwise_cons.mp isolated.apart).1 other member (.inr edge) _ _ _ _ admitted answers
      (named.trans same.symm)
  · exact foreign other member edge otherId otherRole answers reported old

/-- An edge node adds nothing committable, no class that cannot be told, and no awaited key. -/
theorem survey_edge {asked : Asked} {rest : List Dict}
    (isolated : EdgesIsolated settings (asked.node :: nodes))
    (foreign : Foreign settings (asked.node :: nodes) seen)
    (edge : edgeConfigured asked.node = true) :
    ∃ later, survey seen (fetchSummary settings asked :: rest) = survey later rest ∧
      Foreign settings nodes later ∧
      ∀ key, Awaited settings nodes key → (key ∈ later ↔ key ∈ seen) := by
  have onwards : Foreign settings nodes seen := fun other member =>
    foreign other (List.mem_cons_of_mem _ member)
  rcases fetchSummary_taken settings asked with refused | ⟨summary, taken⟩
  · refine ⟨seen, ?_, onwards, fun key _ => Iff.rfl⟩
    rw [survey_offline (refused_offline refused), refused_classable refused,
      isolated.classed asked.node List.mem_cons_self edge]
    exact Option.map_id'
  · obtain ⟨plain, hashable⟩ := isolated.uncommitted asked.node List.mem_cons_self edge _ _
      taken.admitted
    obtain ⟨nodeId, named⟩ := Option.isSome_iff_exists.mp hashable
    have own : ((fetchSummary settings asked).get "node_id").key = some nodeId := by
      rw [taken.columns (by decide)]
      exact named
    have uncommitted : isCommittable (fetchSummary settings asked) = false := by
      unfold isCommittable
      rw [taken.columns (by decide)]
      exact plain
    have new : nodeId ∉ seen := fun known =>
      foreign asked.node List.mem_cons_self edge _ _ taken.admitted nodeId known named
    refine ⟨nodeId :: seen, ?_, foreign_cons isolated onwards taken.admitted named, ?_⟩
    · rw [survey_new taken.online own new, uncommitted]
      exact Option.map_id'
    · rintro key ⟨other, listed, -, otherId, role, admitted, keyed⟩
      rw [List.mem_cons, or_iff_right]
      intro same
      refine (List.pairwise_cons.mp isolated.apart).1 other listed (.inl edge) _ _ _ _ taken.admitted
        admitted ?_
      rw [named, keyed, same]

/-- Both runs count the same committable results and can tell the same classes, as long as they have
seen the same awaited keys. -/
theorem survey_agree {first second : List Asked} (same : SameButEdges first second)
    (isolated : EdgesIsolated settings (first.map Asked.node)) {other : List Key}
    (one : Foreign settings (first.map Asked.node) seen)
    (two : Foreign settings (first.map Asked.node) other)
    (agree : ∀ key, Awaited settings (first.map Asked.node) key → (key ∈ seen ↔ key ∈ other)) :
    survey seen (first.map (fetchSummary settings)) =
      survey other (second.map (fetchSummary settings)) := by
  induction same generalizing seen other with
  | nil => rfl
  | @cons asked asked' tail tail' pair rest ih =>
      obtain ⟨node, unless_edge⟩ := pair
      have wider : ∀ key, Awaited settings (tail.map Asked.node) key →
          Awaited settings ((asked :: tail).map Asked.node) key := by
        rintro key ⟨found, listed, others⟩
        exact ⟨found, List.mem_cons_of_mem _ listed, others⟩
      have later : ∀ {keys : List Key}, Foreign settings ((asked :: tail).map Asked.node) keys →
          Foreign settings (tail.map Asked.node) keys :=
        fun foreign found member => foreign found (List.mem_cons_of_mem _ member)
      have onwards := edgesIsolated_tail isolated
      rw [List.map_cons, List.map_cons]
      by_cases edge : edgeConfigured asked.node = true
      · have isolated' : EdgesIsolated settings (asked'.node :: tail.map Asked.node) :=
          node ▸ isolated
        have two' : Foreign settings (asked'.node :: tail.map Asked.node) other := node ▸ two
        obtain ⟨keys, skipped, foreign, known⟩ := survey_edge isolated one edge
        obtain ⟨keys', skipped', foreign', known'⟩ := survey_edge isolated' two' (node ▸ edge)
        rw [skipped, skipped']
        refine ih onwards foreign foreign' fun key awaited => ?_
        rw [known key awaited, known' key awaited]
        exact agree key (wider key awaited)
      · rw [Bool.not_eq_true] at edge
        cases unless_edge edge
        have agree' : ∀ key, Awaited settings (tail.map Asked.node) key →
            (key ∈ seen ↔ key ∈ other) := fun key awaited => agree key (wider key awaited)
        rcases fetchSummary_taken settings asked with refused | ⟨summary, taken⟩
        · have offline := refused_offline refused
          rw [survey_offline offline, survey_offline offline,
            ih onwards (later one) (later two) agree']
        · cases named : ((fetchSummary settings asked).get "node_id").key with
          | none =>
              rw [survey_unhashable taken.online named, survey_unhashable taken.online named]
          | some nodeId =>
              have keyed : (summary.get "node_id").key = some nodeId := by
                rw [← taken.columns (by decide)]
                exact named
              have own : Awaited settings ((asked :: tail).map Asked.node) nodeId :=
                ⟨asked.node, List.mem_cons_self, edge, _, _, taken.admitted, keyed⟩
              by_cases known : nodeId ∈ seen
              · rw [survey_duplicate taken.online named known,
                  survey_duplicate taken.online named ((agree nodeId own).mp known),
                  ih onwards (later one) (later two) agree']
              · have new : nodeId ∉ other := fun there => known ((agree nodeId own).mpr there)
                rw [survey_new taken.online named known, survey_new taken.online named new,
                  ih onwards (foreign_cons isolated (later one) taken.admitted keyed)
                    (foreign_cons isolated (later two) taken.admitted keyed) fun key awaited => ?_]
                rw [List.mem_cons, List.mem_cons, agree' key awaited]

theorem sameButEdges_empty {first second : List Asked} (same : SameButEdges first second) :
    first.isEmpty = second.isEmpty := by
  cases same with
  | nil => rfl
  | cons pair rest => rfl

theorem accounting_agree {first second : List Asked} (same : SameButEdges first second)
    (isolated : EdgesIsolated settings (first.map Asked.node)) :
    accounting settings first = accounting settings second := by
  cases empty : first.isEmpty with
  | true =>
      have none_either := (sameButEdges_empty same).symm.trans empty
      rw [List.isEmpty_iff] at empty none_either
      rw [empty, none_either]
  | false =>
      have nothing : Foreign settings (first.map Asked.node) [] :=
        fun _ _ _ _ _ _ _ known => absurd known List.not_mem_nil
      rw [accounting_eq empty, accounting_eq ((sameButEdges_empty same).symm.trans empty),
        survey_agree same isolated nothing nothing fun key _ => Iff.rfl]

end Agreement

/-- The result makes `aggregate` raise, if nothing has before. -/
def Spoils (result : Dict) : Prop :=
  (result.get "online" = .bool false ∧ classable result = false) ∨
    (result.get "online" = .bool true ∧ (result.get "node_id").key = none)

section Spoiled

variable {settings : Settings} {seen : List Key} {result : Dict}

theorem fetchSummary_lit (settings : Settings) (asked : Asked) :
    (fetchSummary settings asked).get "online" = .bool false ∨
      (fetchSummary settings asked).get "online" = .bool true := by
  rcases fetchSummary_taken settings asked with refused | ⟨summary, taken⟩
  · exact .inl (refused_offline refused)
  · exact .inr taken.online

theorem survey_spoiled {asked : List Asked} (spoils : Spoils result)
    (member : result ∈ asked.map (fetchSummary settings)) {committable : List Dict} {told : Bool}
    (done : survey seen (asked.map (fetchSummary settings)) = some (committable, told)) :
    told = false := by
  induction asked generalizing seen committable told with
  | nil => cases member
  | cons head tail ih =>
      rw [List.map_cons] at member done
      rcases List.mem_cons.mp member with rfl | inside
      · rcases spoils with ⟨offline, untold⟩ | ⟨online, unhashable⟩
        · cases survey_cons (fetchSummary_lit settings head) done with
          | offline _ later => rw [untold, Bool.false_and]
          | duplicate online =>
              rw [offline] at online
              cases online
          | new online =>
              rw [offline] at online
              cases online
        · rw [survey_unhashable online unhashable] at done
          cases done
      · cases survey_cons (fetchSummary_lit settings head) done with
        | offline _ later => exact Bool.and_eq_false_imp.mpr fun _ => ih inside later
        | duplicate _ _ _ later => exact Bool.and_eq_false_imp.mpr fun _ => ih inside later
        | new _ _ _ later => exact ih inside later

theorem accounting_untold {asked : List Asked} (some_asked : asked.isEmpty = false)
    (untold : ∀ committable told, survey [] (asked.map (fetchSummary settings)) =
      some (committable, told) → told = false) : accounting settings asked = none := by
  rw [accounting_eq some_asked]
  cases surveyed : survey [] (asked.map (fetchSummary settings)) with
  | none => rfl
  | some outcome =>
      obtain ⟨committable, told⟩ := outcome
      have never : told = false := untold _ _ surveyed
      rw [never]
      change ((settle settings.conv committable).toOption.bind fun settled => none) = none
      cases settle settings.conv committable <;> rfl

theorem accounting_spoiled {asked : List Asked} {one : Asked} (member : one ∈ asked)
    (spoils : Spoils (fetchSummary settings one)) : accounting settings asked = none := by
  refine accounting_untold ?_ fun committable told surveyed => survey_spoiled spoils
    (List.mem_map_of_mem member) surveyed
  cases asked with
  | nil => cases member
  | cons head tail => rfl

/-- Where some node can only be refused or report what is no key, `aggregate` raises in every run. -/
theorem accounting_doomed {asked : List Asked} (doomed : Doomed settings (asked.map Asked.node)) :
    accounting settings asked = none := by
  obtain ⟨node, listed, untellable, keyless⟩ := doomed
  obtain ⟨one, member, rfl⟩ := List.mem_map.mp listed
  refine accounting_spoiled member ?_
  rcases fetchSummary_taken settings one with refused | ⟨summary, taken⟩
  · exact .inl ⟨refused_offline refused, (refused_classable refused).trans untellable⟩
  · refine .inr ⟨taken.online, ?_⟩
    rw [taken.columns (by decide)]
    exact keyless _ _ taken.admitted

end Spoiled

end HashBurst.Aggregator
