import HashBurst.Aggregator.Adapter

/-! The aggregator of storage summaries (`hb_aggregator.py`), over exact numbers: no sum and no
output is rounded. -/

namespace HashBurst.Aggregator

open Lib Lib.Py

def transport (conv : Conversions) (node : Dict) : String :=
  match node.get "transport" with
  | .null => "direct"
  | raw =>
      let text := strip (conv.toStr raw)
      if text = "" then "direct" else text.toLower

def nodeConfigValid (conv : Conversions) (node : Dict) : Bool :=
  if transport conv node = "direct" then conv.text (node.get "url") ≠ ""
  else if transport conv node = "tep" then conv.text (node.get "tep_peer_id") ≠ ""
  else false

/-- `discover_nodes` of the decoded file, or of none that could be read. -/
def discoverNodes (conv : Conversions) (file : Option Json) : List Dict :=
  match file with
  | some (.obj data) =>
      match Dict.getD data "nodes" (.arr []) with
      | .arr nodes => nodes.filterMap fun node =>
          match node with
          | .obj node =>
              if !(Dict.getD node "enabled" (.bool true)).isFalse && nodeConfigValid conv node then
                some node
              else none
          | _ => none
      | _ => []
  | _ => []

def baseResult (conv : Conversions) (node : Dict) : Dict :=
  [("name", node.getD "name" (.str "?")), ("url", node.get "url"), ("online", .bool false),
    ("configured_class", node.get "capacity_class"), ("configured_role", node.get "role"),
    ("transport", .str (transport conv node)),
    ("tep_peer_id", if transport conv node = "tep" then node.get "tep_peer_id" else .null)]

/-- The identity part of `_validate_summary`. -/
def identityValid (conv : Conversions) (nodeId role : Json) : Bool :=
  conv.text nodeId ≠ "" && ["primary", "secondary", "edge"].contains (conv.text role)

def validateSummary (settings : Settings) : Json → Except String Dict
  | .obj summary => do
      let conv := settings.conv
      if (Dict.get summary "available").isFalse then .error "node summary unavailable"
      if !identityValid conv (Dict.get summary "node_id") (Dict.get summary "role") then
        .error "invalid node_id/role"
      let total ← conv.toFloat (Dict.get summary "capacity_total_gb")
      let used ← conv.floatOrZero (Dict.get summary "used_gb")
      if total < 0 || used < 0 || used > total * (105 / 100) then .error "invalid capacity values"
      let ts ← conv.intOrZero (Dict.get summary "timestamp")
      if ts ≠ 0 && ((settings.now - ts).natAbs : Int) > settings.maxStale then
        .error "stale summary"
      return summary
  | _ => .error "summary must be an object"

/-- What a direct request ends with: an exception and its text, or a decoded response. -/
inductive HttpReply
  | failed (error : String)
  | tooLarge
  | decoded (value : Json)

def checkedDirectSummary (settings : Settings) : HttpReply → Except String Dict
  | .failed error => .error error
  | .tooLarge => .error "summary too large"
  | .decoded value => validateSummary settings value

def fetchSummaryDirect (settings : Settings) (node : Dict) (reply : HttpReply) : Dict :=
  let out := baseResult settings.conv node
  match checkedDirectSummary settings reply with
  | .ok summary =>
      ((out.update summary).set "online" (.bool true)).set "transport_path" (.str "direct")
  | .error error => out.set "error" (.str (clip 120 error))

def configuredSummaryId (conv : Conversions) (node : Dict) : String :=
  strip (conv.strOfFirst [node.get "summary_node_id", node.get "tep_node_id", node.get "name"])

def checkedTepSummary (settings : Settings) (node : Dict) (reply : TepAdapter.IpcReply) :
    Except String Dict := do
  let conv := settings.conv
  let summary ← (TepAdapter.fetchSummary settings node reply).mapError
    TepAdapter.TepAdapterError.text
  let summary ← validateSummary settings (.obj summary)
  let configuredRole := conv.text (node.get "role")
  if configuredRole ≠ "" && conv.text (summary.get "role") ≠ configuredRole then
    .error "TEP summary role does not match configured role"
  let configuredId := configuredSummaryId conv node
  if configuredId ≠ "" && conv.text (summary.get "node_id") ≠ configuredId then
    .error "TEP summary node_id does not match configured summary identity"
  return summary

/-- The assignments that end `_fetch_summary_tep`, with what the adapter has added. -/
def withTransport (conv : Conversions) (summary out : Dict) : Dict :=
  let out := ((out.set "online" (.bool true)).set "transport" (.str "tep")).set "transport_path"
    (.str (conv.strOr (summary.get "_tep_transport_path") "direct"))
  let relay := summary.get "_tep_relay_peer_id"
  let out := if relay.truthy then out.set "relay_peer_id" relay else out
  match summary.get "_tep_rtt_ms" with
  | .null => out
  | rtt => out.set "rtt_ms" rtt

def fetchSummaryTep (settings : Settings) (node : Dict) (reply : TepAdapter.IpcReply) : Dict :=
  let out := baseResult settings.conv node
  match checkedTepSummary settings node reply with
  | .ok summary => withTransport settings.conv summary (out.update summary)
  | .error error => out.set "error" (.str (clip 120 error))

/-- A configured node, and what its request of either transport ends with. -/
structure Asked where
  node : Dict
  http : HttpReply
  ipc : TepAdapter.IpcReply

def fetchSummary (settings : Settings) (asked : Asked) : Dict :=
  let transport := transport settings.conv asked.node
  if transport = "direct" then fetchSummaryDirect settings asked.node asked.http
  else if transport = "tep" then fetchSummaryTep settings asked.node asked.ipc
  else (baseResult settings.conv asked.node).set "error"
    (.str (clip 120 s!"unsupported transport: {transport}"))

/-- `value in {…}`, which raises for a value that is not hashable. -/
def inSet (value : Json) (texts : List String) : Except String Bool :=
  match value.key with
  | none => .error "unhashable type"
  | some _ => .ok (texts.any value.isStr)

/-- `_capacity_class`; the role of an online node is one of the three. -/
def capacityClass (result : Dict) : Except String String :=
  let role := result.get "role"
  let configuredClass := result.get "configured_class"
  let configuredRole := result.get "configured_role"
  if (result.get "online").truthy then
    .ok (if role.isStr "primary" || role.isStr "secondary" then "committable"
      else if role.isStr "edge" then "best-effort"
      else "unknown")
  else do
    if ← inSet configuredClass ["committable", "best-effort"] then
      return if configuredClass.isStr "committable" then "committable" else "best-effort"
    if ← inSet configuredRole ["primary", "secondary"] then return "committable"
    return if configuredRole.isStr "edge" then "best-effort" else "unknown"

def markDuplicate (result : Dict) : Dict :=
  ((result.set "duplicate" (.bool true)).set "online" (.bool false)).set "error"
    (.str "duplicate node_id")

/-- The loop that drops duplicates: the results it leaves, and those it counts. -/
def countOnline (seen : List Key) : List Dict → Except String (List Dict × List Dict)
  | [] => .ok ([], [])
  | result :: rest =>
      if !(result.get "online").truthy then do
        let (results, counted) ← countOnline seen rest
        return (result :: results, counted)
      else
        match (result.get "node_id").key with
        | none => .error "unhashable type"
        | some nodeId =>
            if nodeId ∈ seen then do
              let (results, counted) ← countOnline seen rest
              return (markDuplicate result :: results, counted)
            else do
              let (results, counted) ← countOnline (nodeId :: seen) rest
              return (result :: results, result :: counted)

def total (conv : Conversions) (name : String) (results : List Dict) : Except String ℚ := do
  let values ← results.mapM fun result => conv.floatOrZero (result.get name)
  return values.sum

def isPrimary (result : Dict) : Bool := (result.get "role").isStr "primary"

def isCommittable (result : Dict) : Bool :=
  (result.get "role").isStr "primary" || (result.get "role").isStr "secondary"

def isEdge (result : Dict) : Bool := (result.get "role").isStr "edge"

structure Network where
  storageNodesTotal : Nat
  storageNodesOnline : Nat
  storageNodesOffline : Nat
  committableNodesOnline : Nat
  edgeNodesOnline : Nat
  capacityCommittableGb : ℚ
  usedCommittableGb : ℚ
  capacityBestEffortGb : ℚ
  usedBestEffortGb : ℚ
  reservedStakeholdersGb : Option ℚ
  soldActiveGb : Option ℚ
  freeSellableGb : Option ℚ
  stakeholders : Option Int
  oversubscribed : Option Bool
  deriving DecidableEq

structure NodeReport where
  name : Json
  nodeId : Json
  role : Json
  capacityClass : String
  online : Json
  capacityGb : Json
  usedGb : Json
  source : Json
  error : Json
  transport : Json
  transportPath : Json
  tepPeerId : Json
  relayPeerId : Json
  rttMs : Json

/-- The answer; without nodes it has neither a time nor totals. -/
structure Report where
  available : Bool
  accountingStatus : String
  timestamp : Option Int := none
  network : Option Network := none
  nodes : List NodeReport := []

def reportOf (capacityClass : String) (result : Dict) : NodeReport where
  name := result.get "name"
  nodeId := result.get "node_id"
  role := result.getD "role"
    (if (result.get "configured_role").truthy then result.get "configured_role" else .str "?")
  capacityClass
  online := result.getD "online" (.bool false)
  capacityGb := result.get "capacity_total_gb"
  usedGb := result.get "used_gb"
  source := result.get "capacity_source"
  error := result.get "error"
  transport := result.get "transport"
  transportPath := result.get "transport_path"
  tepPeerId := result.get "tep_peer_id"
  relayPeerId := result.get "relay_peer_id"
  rttMs := result.get "rtt_ms"

def nodeReport (result : Dict) : Except String NodeReport :=
  (capacityClass result).map fun capacityClass => reportOf capacityClass result

structure Commitments where
  reserved : ℚ
  sold : ℚ
  stakeholders : Int

def commitments (conv : Conversions) (primaries : List Dict) :
    Except String (Option Commitments) :=
  match primaries with
  | [primary] => do
      let reserved ← conv.floatOrZero (primary.get "reserved_stakeholders_gb")
      let sold ← conv.floatOrZero (primary.get "sold_active_gb")
      let stakeholders ← conv.intOrZero (primary.get "stakeholders")
      return some { reserved, sold, stakeholders }
  | _ => .ok none

def aggregate (settings : Settings) (asked : List Asked) : Except String Report :=
  let conv := settings.conv
  if asked.isEmpty then .ok { available := false, accountingStatus := "no-nodes" }
  else do
    let (results, counted) ← countOnline [] (asked.map (fetchSummary settings))
    let primaries := counted.filter isPrimary
    let committable := counted.filter isCommittable
    let edge := counted.filter isEdge
    let commTotal ← total conv "capacity_total_gb" committable
    let commUsed ← total conv "used_gb" committable
    let edgeTotal ← total conv "capacity_total_gb" edge
    let edgeUsed ← total conv "used_gb" edge
    let primary ← commitments conv primaries
    let commitmentHeadroom := primary.map fun primary => commTotal - primary.reserved - primary.sold
    let physicalHeadroom := commTotal - commUsed
    let onlineCount := results.countP fun result => (result.get "online").truthy
    let nodes ← results.mapM nodeReport
    return {
      available := primary.isSome
      accountingStatus :=
        if primary.isSome then "ok"
        else if primaries.isEmpty then "primary-unavailable" else "multiple-primary"
      timestamp := settings.now
      network := some {
        storageNodesTotal := asked.length
        storageNodesOnline := onlineCount
        storageNodesOffline := asked.length - onlineCount
        committableNodesOnline := committable.length
        edgeNodesOnline := edge.length
        capacityCommittableGb := commTotal
        usedCommittableGb := commUsed
        capacityBestEffortGb := edgeTotal
        usedBestEffortGb := edgeUsed
        reservedStakeholdersGb := primary.map Commitments.reserved
        soldActiveGb := primary.map Commitments.sold
        freeSellableGb := commitmentHeadroom.map fun headroom =>
          max 0 (min headroom physicalHeadroom)
        stakeholders := primary.map Commitments.stakeholders
        oversubscribed := commitmentHeadroom.map fun headroom =>
          headroom < 0 || physicalHeadroom < 0 }
      nodes }

end HashBurst.Aggregator
