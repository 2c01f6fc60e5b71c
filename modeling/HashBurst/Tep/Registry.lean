import Mathlib.Data.List.Dedup
import Mathlib.Data.List.Sort
import HashBurst.Lib.PyJson
import HashBurst.Tep.Peers

/-! Reconciliation of the two blockchain registries into the peer table (`hb_tep_runtime.py`). -/

namespace HashBurst.Tep

open Lib Lib.Py

/-- `[item for item in data if isinstance(item, dict)]` -/
def dictsOf (items : List Json) : List Dict :=
  items.filterMap fun
    | .obj fields => some fields
    | _ => none

/-- What `_tep_peer_snapshot` makes of a decoded answer, `none` where it raises. -/
def tepPeerSnapshot : Option Json → Option (List Dict)
  | some (.obj data) =>
      match Dict.getD data "peers" (.arr []) with
      | .arr peers => some (dictsOf peers)
      | _ => none
  | _ => none

/-- What `_authoritative_nodes` makes of a decoded answer, `none` where it raises. -/
def authoritativeNodes : Option Json → Option (List Dict)
  | some (.arr data) => some (dictsOf data)
  | _ => none

section Records

variable (conv : Conversions)

structure StableIdentity where
  peerId : String
  pubkey : String
  deriving DecidableEq

/-- A peer id and an X25519 key in hex, if both are well formed. -/
def identityOf (peerId pubkey : String) : Option StableIdentity :=
  if peerId = "" ∨ pubkey.length ≠ 64 then none
  else if fromHex pubkey.toList = none then none
  else some { peerId, pubkey }

def identityFromRecord (item : Dict) : Option StableIdentity :=
  identityOf (conv.text (item.get "peer_id")) (lower (conv.text (item.get "tep_pubkey")))

def identityFromTepRecord (item : Dict) : Option StableIdentity :=
  identityOf (conv.text (item.get "peer_id"))
    (lower (strip (conv.strOfFirst [item.get "pubkey", item.get "tep_pubkey"])))

/-- What a `for` loop gets out of a value, and nothing but an error out of a number or a flag. -/
def iterate : Json → Except String (List Json)
  | .arr items => .ok items
  | .obj fields => .ok (fields.map fun field => .str field.1)
  | .str text => .ok (text.toList.map fun c => .str (String.singleton c))
  | value => .error (conv.error "iter" value)

def multiaddrIp (addr : Json) : Option String :=
  match (conv.toStr addr).toList.splitOn '/' with
  | _ :: kind :: ip :: _ =>
      if (kind = ['i', 'p', '4'] ∨ kind = ['i', 'p', '6']) ∧ ip ≠ [] then some (String.ofList ip)
      else none
  | _ => none

def bootstrapIpFromRecord (item : Dict) : Except String String :=
  let externalIp := conv.text (item.get "external_ip")
  if externalIp ≠ "" then .ok externalIp
  else
    let multiaddrs := item.get "multiaddrs"
    if multiaddrs.truthy then
      (iterate conv multiaddrs).map fun addrs => (addrs.findSome? (multiaddrIp conv)).getD ""
    else .ok ""

/-- `value or default` for the fields of a record that may be missing. -/
def firstTruthy : List Json → Option Json := List.find? Json.truthy

def registryEndpoint (tepItem nodeItem : Option Dict) : Except String (String × Int) :=
  let tepIp := conv.text ((tepItem.getD []).get "ip")
  let port :=
    match firstTruthy [(tepItem.getD []).get "port", (nodeItem.getD []).get "tep_port"] with
    | none => listenPort
    | some value =>
        match conv.toInt value with
        | .ok port => port
        | .error _ => listenPort
  match tepIp, nodeItem with
  | "", some item => (bootstrapIpFromRecord conv item).map fun ip => (ip, port)
  | ip, _ => .ok (ip, port)

def Peer.observed (peer : Peer) : Bool := 0 < peer.lastSeen

/-- The coordinates of `_peer_from_registry_records`: observed ones are never overwritten. -/
def endpointFor (tepItem nodeItem : Option Dict) (previous : Option Peer) :
    Except String (String × Int) :=
  match previous with
  | some peer =>
      if peer.observed then .ok (strip peer.ip, peer.port)
      else registryEndpoint conv tepItem nodeItem
  | none => registryEndpoint conv tepItem nodeItem

def recordedIdentity (tepItem nodeItem : Option Dict) : Option StableIdentity :=
  (identityFromRecord conv (nodeItem.getD [])).or (identityFromTepRecord conv (tepItem.getD []))

/-- The peer id of the records, or else of the previous peer. -/
def peerIdFor (identity : Option StableIdentity) (previous : Option Peer) : Option String :=
  match identity with
  | some identity => some identity.peerId
  | none => stripOrNone (previous.bind Peer.peerId)

def pubkeyFor (identity : Option StableIdentity) (previous : Option Peer) : Option String :=
  match identity with
  | some identity => some identity.pubkey
  | none => stripOrNone (previous.bind Peer.pubkey)

/-- The peer at its coordinates, with what is known of it from before. -/
def peerAt (nodeId : String) (endpoint : String × Int) (identity : Option StableIdentity)
    (previous : Option Peer) : Option Peer :=
  if endpoint.1 = "" then none
  else some
    { id := nodeId
      ip := endpoint.1
      port := endpoint.2
      pubkey := pubkeyFor identity previous
      peerId := peerIdFor identity previous
      lastSeen := (previous.map Peer.lastSeen).getD 0
      latencyMs := previous.bind Peer.latencyMs
      online := (previous.map Peer.online).getD false }

def peerFromRegistryRecords (nodeId : String) (tepItem nodeItem : Option Dict)
    (previous : Option Peer) : Except String (Option Peer) :=
  (endpointFor conv tepItem nodeItem previous).map fun endpoint =>
    peerAt nodeId endpoint (recordedIdentity conv tepItem nodeItem) previous

/-- `{key(item): item for item in records if key(item)}`: of two records with one key the later. -/
def recordsById (name : String) (records : List Dict) : List (String × Dict) :=
  records.reverse.filterMap fun item =>
    let id := conv.text (item.get name)
    if id = "" then none else some (id, item)

def candidateIds (self : String) (tepById nodesById : List (String × Dict)) : List String :=
  (((tepById ++ nodesById).map Prod.fst).filter fun id => id ≠ self).dedup.insertionSort (· ≤ ·)

/-- What the registries and the table before them make of one candidate. -/
def candidate (tepById nodesById : List (String × Dict)) (previous : PeerTable) (id : String) :
    Except String (Option Peer) :=
  peerFromRegistryRecords conv id (tepById.lookup id) (nodesById.lookup id) (previous.find? id)

def addPeer (fresh : PeerTable) : Option Peer → PeerTable
  | some peer => fresh.upsert peer fun old => { peer with id := old.id }
  | none => fresh

def freshPeers (tepById nodesById : List (String × Dict)) (previous fresh : PeerTable) :
    List String → Except String PeerTable
  | [] => .ok fresh
  | id :: ids =>
      match candidate conv tepById nodesById previous id with
      | .error message => .error message
      | .ok made => freshPeers tepById nodesById previous (addPeer fresh made) ids

/-- The table that two lists of records and the table before them make. -/
def reconciledPeers (self : String) (previous : PeerTable) (tepRecords nodeRecords : List Dict) :
    Except String PeerTable :=
  let tepById := recordsById conv "id" tepRecords
  let nodesById := recordsById conv "node_id" nodeRecords
  freshPeers conv tepById nodesById previous Table.empty (candidateIds self tepById nodesById)

inductive DnsSource
  | blockchain
  | static
  deriving DecidableEq

structure Dns where
  peers : PeerTable
  dnsSource : DnsSource

/-- One call. A failed read counts as an empty registry, unless both fail. -/
def reconciledSync (self : String) (dns : Dns) (tep nodes : Option (List Dict)) :
    Dns × Except String Bool :=
  match tep, nodes with
  | none, none => ({ dns with dnsSource := .static }, .ok false)
  | _, _ =>
      match reconciledPeers conv self dns.peers (tep.getD []) (nodes.getD []) with
      | .ok fresh => ({ peers := fresh, dnsSource := .blockchain }, .ok true)
      | .error message => (dns, .error message)

end Records

end HashBurst.Tep
