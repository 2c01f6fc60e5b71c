import HashBurst.Aggregator.Interference

namespace HashBurst.Aggregator

open Lib Lib.Py

structure LocalFacts where
  name : Json
  transport : Json
  transportPath : Json
  tepPeerId : Json
  relayPeerId : Json
  rttMs : Json

def NodeReport.facts (report : NodeReport) : LocalFacts where
  name := report.name
  transport := report.transport
  transportPath := report.transportPath
  tepPeerId := report.tepPeerId
  relayPeerId := report.relayPeerId
  rttMs := report.rttMs

def Asked.remote (conv : Conversions) (asked : Asked) : Dict :=
  if transport conv asked.node = "direct" then
    match asked.http with
    | .decoded (.obj summary) => summary
    | _ => []
  else
    match asked.ipc with
    | .answered (.json (.obj body)) =>
        match Dict.get body "summary" with
        | .obj summary => summary
        | _ => []
    | _ => []

def Asked.metadata (conv : Conversions) (asked : Asked) : TepAdapter.Metadata :=
  match asked.ipc with
  | .answered (.json (.obj body)) =>
      match TepAdapter.metadataOf conv body with
      | .ok metadata => metadata
      | .error _ => ⟨"", none, none⟩
  | _ => ⟨"", none, none⟩

def Asked.unguarded (conv : Conversions) (asked : Asked) : List String :=
  if transport conv asked.node = "direct" then
    ["name", "transport", "tep_peer_id", "relay_peer_id", "rtt_ms"]
  else
    ["name", "tep_peer_id"] ++
      (if (asked.metadata conv).relay.isNone then ["relay_peer_id"] else []) ++
      if (asked.metadata conv).rtt.isNone then ["rtt_ms"] else []

/-- The value of a key in the summary, or else the aggregator's own. -/
def Asked.told (conv : Conversions) (asked : Asked) (key : String) : Json :=
  (asked.remote conv).getD key ((baseResult conv asked.node).get key)

def nodeAt (settings : Settings) (asked : List Asked) (index : Nat) : Option NodeReport :=
  match aggregate settings asked with
  | .ok answer => answer.nodes[index]?
  | .error _ => none

/-- A node at the same place of two runs, online in both, and over TEP with the same metadata. -/
structure Compared (settings : Settings) (first second : List Asked) (index : Nat)
    (asked other : Asked) (report report' : NodeReport) : Prop where
  same : asked.node = other.node
  asks : first[index]? = some asked
  asks' : second[index]? = some other
  reports : nodeAt settings first index = some report
  reports' : nodeAt settings second index = some report'
  online : report.online = .bool true
  online' : report'.online = .bool true
  metadata : transport settings.conv asked.node = "direct" ∨
    asked.metadata settings.conv = other.metadata settings.conv

section Facts

variable {settings : Settings} {asked : Asked}

/-- The results that the duplicate check leaves are the fetched ones, or are marked offline. -/
theorem countOnline_results {seen : List Key} {fetched results counted : List Dict}
    (done : countOnline seen fetched = .ok (results, counted)) :
    List.Forall₂ (fun result later => later = result ∨ later.get "online" = .bool false) fetched
      results := by
  induction fetched generalizing seen results counted with
  | nil =>
      cases done
      exact .nil
  | cons head tail ih =>
      simp only [countOnline, bind, Except.bind] at done
      split at done
      · split at done
        · cases done
        · rename_i left counts
          cases done
          exact .cons (.inl rfl) (ih counts)
      · split at done
        · cases done
        · split at done
          · split at done
            · cases done
            · rename_i left counts
              cases done
              exact .cons (.inr (markDuplicate_online head)) (ih counts)
          · split at done
            · cases done
            · rename_i left counts
              cases done
              exact .cons (.inl rfl) (ih counts)

/-- The nodes of the answer are the results of the duplicate check. -/
theorem aggregate_nodes {asked : List Asked} {answer : Report}
    (done : aggregate settings asked = .ok answer) : ∃ results,
      results.mapM nodeReport = .ok answer.nodes ∧
        List.Forall₂ (fun result later => later = result ∨ later.get "online" = .bool false)
          (asked.map (fetchSummary settings)) results := by
  unfold aggregate at done
  cases empty : asked.isEmpty with
  | true =>
      rw [empty, if_pos rfl] at done
      cases done
      rw [List.isEmpty_iff.mp empty]
      exact ⟨[], rfl, .nil⟩
  | false =>
      rw [empty] at done
      simp only [Bool.false_eq_true, if_false, bind, Except.bind] at done
      cases counts : countOnline [] (asked.map (fetchSummary settings)) with
      | error failure =>
          rw [counts] at done
          cases done
      | ok outcome =>
          rw [counts] at done
          dsimp only at done
          refine ⟨outcome.1, ?_, countOnline_results counts⟩
          split at done
          · cases done
          · split at done
            · cases done
            · split at done
              · cases done
              · split at done
                · cases done
                · split at done
                  · cases done
                  · split at done
                    · cases done
                    · rename_i nodes reported
                      cases done
                      exact reported

theorem nodeReports_at {results : List Dict} {nodes : List NodeReport} {index : Nat}
    {report : NodeReport} (reported : results.mapM nodeReport = .ok nodes)
    (found : nodes[index]? = some report) : ∃ result capacityClass,
      results[index]? = some result ∧ report = reportOf capacityClass result := by
  induction results generalizing nodes index with
  | nil =>
      cases reported
      cases found
  | cons head tail ih =>
      simp only [List.mapM_cons, bind, Except.bind, pure, Except.pure] at reported
      split at reported
      · cases reported
      · rename_i first classed
        split at reported
        · cases reported
        · rename_i rest later
          cases reported
          cases index with
          | zero =>
              cases found
              unfold nodeReport at classed
              cases known : capacityClass head with
              | error failure =>
                  rw [known] at classed
                  cases classed
              | ok capacityClass =>
                  rw [known] at classed
                  cases classed
                  exact ⟨head, capacityClass, rfl, rfl⟩
          | succ index => exact ih later found

/-- A node that the answer has online is reported as it was fetched. -/
theorem nodeAt_fetched {first : List Asked} {index : Nat} {report : NodeReport}
    (asks : first[index]? = some asked) (reports : nodeAt settings first index = some report)
    (online : report.online = .bool true) :
    (∃ capacityClass, report = reportOf capacityClass (fetchSummary settings asked)) ∧
      (fetchSummary settings asked).get "online" = .bool true := by
  unfold nodeAt at reports
  cases done : aggregate settings first with
  | error failure =>
      rw [done] at reports
      cases reports
  | ok answer =>
      rw [done] at reports
      obtain ⟨results, nodes, kept⟩ := aggregate_nodes done
      dsimp only at reports
      obtain ⟨later, capacityClass, found, rfl⟩ := nodeReports_at nodes reports
      have fetched : (first.map (fetchSummary settings))[index]? = some (fetchSummary settings asked) := by
        rw [List.getElem?_map, asks]
        rfl
      obtain ⟨inside, same⟩ := List.getElem?_eq_some_iff.mp fetched
      obtain ⟨within, equal⟩ := List.getElem?_eq_some_iff.mp found
      have related := kept.get inside within
      rw [List.get_eq_getElem, List.get_eq_getElem] at related
      dsimp only at related
      rw [same, equal] at related
      have shown : later.getD "online" (.bool false) = .bool true := online
      have lit : later.get "online" = .bool true := by
        unfold Dict.get Dict.getD at *
        cases listed : later.lookup "online" with
        | none =>
            rw [listed] at shown
            cases shown
        | some value =>
            rw [listed] at shown
            exact shown
      rcases related with rfl | offline
      · exact ⟨⟨_, rfl⟩, lit⟩
      · rw [lit] at offline
        cases offline

variable {capacityClass : String}

/-- Over HTTP every local field but the path comes from the summary, if it has the key. -/
theorem facts_direct (direct : transport settings.conv asked.node = "direct")
    (online : (fetchSummary settings asked).get "online" = .bool true) :
    (reportOf capacityClass (fetchSummary settings asked)).facts =
      { name := asked.told settings.conv "name"
        transport := asked.told settings.conv "transport"
        transportPath := .str "direct"
        tepPeerId := asked.told settings.conv "tep_peer_id"
        relayPeerId := asked.told settings.conv "relay_peer_id"
        rttMs := asked.told settings.conv "rtt_ms" } := by
  unfold NodeReport.facts reportOf
  dsimp only
  unfold fetchSummary at online ⊢
  dsimp only at online ⊢
  rw [if_pos direct] at online ⊢
  unfold fetchSummaryDirect at online ⊢
  cases reply : asked.http with
  | failed error =>
      rw [reply] at online
      cases online
  | tooLarge =>
      rw [reply] at online
      cases online
  | decoded value =>
      rw [reply] at online
      rw [checkedDirectSummary] at online ⊢
      cases valid : validateSummary settings value with
      | error failure =>
          rw [valid] at online
          cases online
      | ok summary =>
          obtain ⟨rfl, -⟩ := validateSummary_cases valid
          have own : ∀ key, key ≠ "online" → key ≠ "transport_path" →
              (((((baseResult settings.conv asked.node).update summary).set "online"
                (.bool true)).set "transport_path" (.str "direct")).get key) =
                  asked.told settings.conv key := by
            intro key apart away
            have remote : asked.remote settings.conv = summary := by
              unfold Asked.remote
              rw [if_pos direct, reply]
            rw [get_set_other away, get_set_other apart, get_update, Asked.told, remote]
          dsimp only
          rw [own "name" (by decide) (by decide), own "transport" (by decide) (by decide),
            own "tep_peer_id" (by decide) (by decide),
            own "relay_peer_id" (by decide) (by decide), own "rtt_ms" (by decide) (by decide),
            get_set_self]

theorem get_withMetadata_own (summary : Dict) (metadata : TepAdapter.Metadata) :
    let out := TepAdapter.withMetadata summary metadata
    out.get "_tep_transport_path" = .str metadata.path ∧
      out.get "_tep_relay_peer_id" = (metadata.relay.map Json.str).getD .null ∧
      out.get "_tep_rtt_ms" = (metadata.rtt.map Json.float).getD .null := by
  have dropped : ∀ name, startsWith name "_tep_" = true →
      (summary.filter fun item => !startsWith item.1 "_tep_").lookup name = none := by
    intro name own
    refine (lookup_filter fun key => !startsWith key "_tep_").trans (if_neg ?_)
    rw [own]
    exact Bool.false_ne_true
  unfold TepAdapter.withMetadata Dict.get Dict.getD
  dsimp only
  refine ⟨?_, ?_, ?_⟩
  all_goals
    cases metadata.relay
    all_goals
      cases metadata.rtt
      all_goals
        simp only [lookup_set, dropped _ (show startsWith "_tep_relay_peer_id" "_tep_" = true by decide),
          dropped _ (show startsWith "_tep_rtt_ms" "_tep_" = true by decide)]
        simp

theorem relayOf_named {path : String} {body : Dict} {relay : String}
    (named : TepAdapter.relayOf path body = .ok (some relay)) : relay ≠ "" := by
  unfold TepAdapter.relayOf at named
  split at named
  · split at named
    · split at named
      · cases named
      · rename_i filled
        cases named
        exact filled
    · split at named
      · cases named
      · cases named
  · split at named
    · cases named
    · cases named
  · split at named
    · cases named
    · cases named

theorem fetchSummary_received {node summary : Dict} {reply : TepAdapter.IpcReply}
    (fetched : TepAdapter.fetchSummary settings node reply = .ok summary) :
    ∃ (body remote : Dict) (metadata : TepAdapter.Metadata), reply = .answered (.json (.obj body)) ∧
      body.get "summary" = .obj remote ∧
      TepAdapter.metadataOf settings.conv body = .ok metadata ∧
      summary = TepAdapter.withMetadata remote metadata := by
  simp only [TepAdapter.fetchSummary, bind, Except.bind] at fetched
  split at fetched
  · cases fetched
  · split at fetched
    · cases fetched
    · rename_i body received
      have answered : reply = .answered (.json (.obj body)) := by
        unfold TepAdapter.receive at received
        split at received
        · unfold TepAdapter.decodeResponse at received
          split at received
          · cases received
          · cases received
          · cases received
            rfl
          · cases received
        · split at received
          · cases received
          · cases received
        · cases received
      split at fetched
      · cases fetched
      · split at fetched
        · rename_i remote sent
          cases metadata : TepAdapter.metadataOf settings.conv body with
          | error failure =>
              rw [metadata] at fetched
              cases fetched
          | ok found =>
              rw [metadata] at fetched
              cases fetched
              exact ⟨body, remote, found, answered, sent, metadata, rfl⟩
        · cases fetched

theorem metadataOf_relay {body : Dict} {metadata : TepAdapter.Metadata} {relay : String}
    (found : TepAdapter.metadataOf settings.conv body = .ok metadata)
    (named : metadata.relay = some relay) : relay ≠ "" := by
  simp only [TepAdapter.metadataOf, bind, Except.bind, pure, Except.pure] at found
  split at found
  · cases found
  · split at found
    · cases found
    · rename_i own relayed
      split at found
      · cases found
      · cases found
        cases named
        exact relayOf_named relayed

/-- What `withTransport` makes of the last two keys. -/
theorem get_withTransport_last (summary out : Dict) :
    (withTransport settings.conv summary out).get "relay_peer_id" =
        (if (summary.get "_tep_relay_peer_id").truthy then summary.get "_tep_relay_peer_id"
          else out.get "relay_peer_id") ∧
      (withTransport settings.conv summary out).get "rtt_ms" =
        match summary.get "_tep_rtt_ms" with
        | .null => out.get "rtt_ms"
        | rtt => rtt := by
  have plain : ∀ key, key ≠ "online" → key ≠ "transport" → key ≠ "transport_path" →
      (((out.set "online" (.bool true)).set "transport" (.str "tep")).set "transport_path"
        (.str (settings.conv.strOr (summary.get "_tep_transport_path") "direct"))).get key =
          out.get key := by
    intro key first second third
    rw [get_set_other third, get_set_other second, get_set_other first]
  have relay := plain "relay_peer_id" (by decide) (by decide) (by decide)
  have rtt := plain "rtt_ms" (by decide) (by decide) (by decide)
  unfold withTransport
  dsimp only
  constructor
  · have inner : ∀ front : Dict, front.get "relay_peer_id" = out.get "relay_peer_id" →
        (if (summary.get "_tep_relay_peer_id").truthy then
          front.set "relay_peer_id" (summary.get "_tep_relay_peer_id") else front).get
            "relay_peer_id" =
          if (summary.get "_tep_relay_peer_id").truthy then summary.get "_tep_relay_peer_id"
          else out.get "relay_peer_id" := by
      intro front kept
      split
      · exact get_set_self
      · exact kept
    split
    · exact inner _ relay
    · rw [get_set_other (by decide)]
      exact inner _ relay
  · cases summary.get "_tep_rtt_ms" with
    | null =>
        dsimp only
        split
        · rw [get_set_other (by decide)]
          exact rtt
        · exact rtt
    | _ => exact get_set_self

/-- Over TEP the summary reaches the name, the peer, and what the metadata leaves open. -/
theorem facts_tep (other : transport settings.conv asked.node ≠ "direct")
    (online : (fetchSummary settings asked).get "online" = .bool true) :
    (reportOf capacityClass (fetchSummary settings asked)).facts =
      { name := asked.told settings.conv "name"
        transport := .str "tep"
        transportPath := .str (settings.conv.strOr (.str (asked.metadata settings.conv).path) "direct")
        tepPeerId := asked.told settings.conv "tep_peer_id"
        relayPeerId := ((asked.metadata settings.conv).relay.map Json.str).getD
          (asked.told settings.conv "relay_peer_id")
        rttMs := ((asked.metadata settings.conv).rtt.map Json.float).getD
          (asked.told settings.conv "rtt_ms") } := by
  unfold NodeReport.facts reportOf
  dsimp only
  unfold fetchSummary at online ⊢
  dsimp only at online ⊢
  rw [if_neg other] at online ⊢
  split at online
  · rename_i tep
    rw [if_pos tep]
    unfold fetchSummaryTep at online ⊢
    cases checked : checkedTepSummary settings asked.node asked.ipc with
    | error failure =>
        rw [checked] at online
        cases online
    | ok summary =>
        dsimp only
        have fetched := (checkedTepSummary_cases checked).2.1
        obtain ⟨body, remote, metadata, replied, sent, described, rfl⟩ := fetchSummary_received fetched
        have known : asked.metadata settings.conv = metadata := by
          unfold Asked.metadata
          rw [replied]
          dsimp only
          rw [described]
        have summary : asked.remote settings.conv = remote := by
          unfold Asked.remote
          rw [if_neg other, replied]
          dsimp only
          rw [sent]
        have told : ∀ key, startsWith key "_tep_" = false →
            ((baseResult settings.conv asked.node).update
              (TepAdapter.withMetadata remote metadata)).get key = asked.told settings.conv key := by
          intro key plain
          rw [get_update, Asked.told, summary]
          unfold Dict.getD
          rw [lookup_withMetadata metadata key plain]
        obtain ⟨path, relay, rtt⟩ := get_withMetadata_own remote metadata
        obtain ⟨lastRelay, lastRtt⟩ := get_withTransport_last
          (TepAdapter.withMetadata remote metadata) ((baseResult settings.conv asked.node).update
            (TepAdapter.withMetadata remote metadata))
        have front : ∀ key, key ≠ "relay_peer_id" → key ≠ "rtt_ms" → key ≠ "online" →
            key ≠ "transport" → key ≠ "transport_path" → startsWith key "_tep_" = false →
            (withTransport settings.conv (TepAdapter.withMetadata remote metadata)
              ((baseResult settings.conv asked.node).update
                (TepAdapter.withMetadata remote metadata))).get key = asked.told settings.conv key := by
          intro key first second third fourth fifth plain
          rw [get_withTransport first second, get_set_other fifth, get_set_other fourth,
            get_set_other third]
          exact told key plain
        rw [lastRelay, lastRtt, relay, rtt, told "relay_peer_id" (by decide),
          told "rtt_ms" (by decide), known,
          front "name" (by decide) (by decide) (by decide) (by decide) (by decide) (by decide),
          front "tep_peer_id" (by decide) (by decide) (by decide) (by decide) (by decide) (by decide),
          get_withTransport (by decide) (by decide), get_withTransport (by decide) (by decide),
          get_set_other (by decide), get_set_self, get_set_self, path]
        have relayed : (if ((metadata.relay.map Json.str).getD .null).truthy then
            (metadata.relay.map Json.str).getD .null else asked.told settings.conv "relay_peer_id") =
              (metadata.relay.map Json.str).getD (asked.told settings.conv "relay_peer_id") := by
          cases named : metadata.relay with
          | none => rfl
          | some relay =>
              have filled : relay ≠ "" := metadataOf_relay described named
              exact if_pos (by simpa [Json.truthy] using filled)
        have timed : (match (metadata.rtt.map Json.float).getD .null with
            | .null => asked.told settings.conv "rtt_ms"
            | rtt => rtt) =
              (metadata.rtt.map Json.float).getD (asked.told settings.conv "rtt_ms") := by
          cases metadata.rtt <;> rfl
        rw [relayed, timed]
  · cases online

end Facts

/-- The local fields of a node agree in two runs exactly if the two summaries give the same value
to each key that can replace one, where a key that a summary lacks has the aggregator's own value. -/
theorem facts_agree_iff {settings : Settings} {first second : List Asked} {index : Nat}
    {asked other : Asked} {report report' : NodeReport}
    (compared : Compared settings first second index asked other report report') :
    report.facts = report'.facts ↔ ∀ key ∈ asked.unguarded settings.conv,
      asked.told settings.conv key = other.told settings.conv key := by
  obtain ⟨⟨_, rfl⟩, online⟩ := nodeAt_fetched compared.asks compared.reports compared.online
  obtain ⟨⟨_, rfl⟩, online'⟩ := nodeAt_fetched compared.asks' compared.reports' compared.online'
  unfold Asked.unguarded
  by_cases direct : transport settings.conv asked.node = "direct"
  · rw [facts_direct direct online, facts_direct (compared.same ▸ direct) online', if_pos direct]
    simp only [LocalFacts.mk.injEq, List.mem_cons, List.not_mem_nil, or_false, forall_eq_or_imp,
      forall_eq, true_and]
  · have same := compared.metadata.resolve_left direct
    rw [facts_tep direct online, facts_tep (compared.same ▸ direct) online', if_neg direct, same]
    cases (other.metadata settings.conv).relay <;> cases (other.metadata settings.conv).rtt <;>
      simp [LocalFacts.mk.injEq]

theorem remote_answering (conv : Conversions) (node summary : Dict) :
    (answering node summary).remote conv = summary := by
  unfold Asked.remote
  split <;> rfl

theorem metadata_answering (conv : Conversions) (node summary other : Dict) :
    (answering node summary).metadata conv = (answering node other).metadata conv := by
  unfold Asked.metadata answering TepAdapter.metadataOf TepAdapter.relayOf TepAdapter.rttOf
  dsimp only
  have own : ∀ name, name ≠ "summary" → ∀ sent : Dict, Dict.get [("ok", .bool true),
      ("summary", .obj sent), ("path", .str "direct")] name =
        Dict.get [("ok", .bool true), ("path", .str "direct")] name := by
    intro name apart sent
    unfold Dict.get Dict.getD
    simp only [List.lookup_cons, beq_false_of_ne apart]
  simp only [own "path" (by decide), own "relay_peer_id" (by decide), own "rtt_ms" (by decide)]

def tepEdge : Dict :=
  [("name", .str "node-7"), ("transport", .str "tep"), ("tep_peer_id", .str "peer-node7"),
    ("role", .str "edge"), ("capacity_class", .str "best-effort")]

def tepAnswer (more : Dict) : Asked :=
  answering tepEdge (more ++ storageSummary "node-7" "edge" 200)

theorem tepAnswer_compared (more : Dict)
    (listed : ((nodeAt plainSettings [tepAnswer []] 0).map fun report => report.online.isTrue) =
      some true)
    (listed' : ((nodeAt plainSettings [tepAnswer more] 0).map fun report => report.online.isTrue) =
      some true) : ∃ report report',
      Compared plainSettings [tepAnswer []] [tepAnswer more] 0 (tepAnswer []) (tepAnswer more)
        report report' := by
  obtain ⟨report, reports, online⟩ := Option.map_eq_some_iff.mp listed
  obtain ⟨report', reports', online'⟩ := Option.map_eq_some_iff.mp listed'
  exact ⟨report, report', rfl, rfl, rfl, reports, reports', Json.isTrue_iff.mp online,
    Json.isTrue_iff.mp online',
    .inr (metadata_answering _ _ _ _)⟩

theorem honest_facts_agree : ∃ report report',
    Compared plainSettings [tepAnswer []] [tepAnswer [("used_gb", .int 5)]] 0 (tepAnswer [])
      (tepAnswer [("used_gb", .int 5)]) report report' ∧ report.facts = report'.facts := by
  obtain ⟨report, report', compared⟩ := tepAnswer_compared [("used_gb", .int 5)]
    (by decide +kernel) (by decide +kernel)
  refine ⟨report, report', compared, (facts_agree_iff compared).mpr fun key listed => ?_⟩
  have keys : (tepAnswer []).unguarded plainConversions =
      ["name", "tep_peer_id", "relay_peer_id", "rtt_ms"] := by decide +kernel
  change key ∈ (tepAnswer []).unguarded plainConversions at listed
  rw [keys] at listed
  unfold Asked.told tepAnswer
  rw [remote_answering, remote_answering]
  simp only [List.mem_cons, List.not_mem_nil, or_false] at listed
  rcases listed with rfl | rfl | rfl | rfl <;> rfl

theorem facts_forged : ¬∀ (settings : Settings) (first second : List Asked) (index : Nat)
    (asked other : Asked) (report report' : NodeReport),
    Compared settings first second index asked other report report' →
      report.facts = report'.facts := by
  intro always
  obtain ⟨report, report', compared⟩ := tepAnswer_compared [("tep_peer_id", .str "peer-other")]
    (by decide +kernel) (by decide +kernel)
  have same := congrArg LocalFacts.tepPeerId (always _ _ _ _ _ _ _ _ compared)
  have peer : (nodeAt plainSettings [tepAnswer []] 0).any fun report =>
      report.facts.tepPeerId.isStr "peer-node7" := by decide +kernel
  have forged : (nodeAt plainSettings [tepAnswer [("tep_peer_id", .str "peer-other")]] 0).any fun
      report => report.facts.tepPeerId.isStr "peer-other" := by decide +kernel
  rw [compared.reports, Option.any_some, Json.isStr_iff] at peer
  rw [compared.reports', Option.any_some, Json.isStr_iff] at forged
  rw [peer, forged] at same
  exact absurd (Json.str.inj same) (by decide)

end HashBurst.Aggregator
