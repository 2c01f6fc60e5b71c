import Mathlib.Data.Rat.Floor
import HashBurst.Lib.PyString
import HashBurst.Lib.Table

/-! The peer table of the TEP daemon (`Peer` and `PeerManager` in `hb_tep.py`). -/

namespace HashBurst.Tep

open Lib Lib.Py

def listenPort : Int := 47777

structure Peer where
  id : String
  ip : String
  port : Int := listenPort
  lastSeen : ℚ := 0
  latencyMs : Option ℚ := none
  online : Bool := false
  pubkey : Option String := none
  peerId : Option String := none
  deriving DecidableEq

abbrev PeerTable := Table Peer.id

/-- The 16 bytes of the header that name a node, read back as text. -/
def wireNodeId (id : String) : String :=
  String.ofList ((id.toList.map fun c => if c.toNat < 128 then c else '?').take 16)

namespace PeerTable

variable (peers : PeerTable)

/-- The peer whose header id this is, when there is exactly one. -/
def findByWireNodeId (wire : String) : Option Peer :=
  match peers.rows.filter fun peer => wireNodeId peer.id = wire with
  | [peer] => some peer
  | _ => none

def findByPeerId (peerId : String) : Option Peer :=
  peers.rows.find? fun peer => peer.peerId = some peerId

def modify (nodeId : String) (change : Peer → Peer)
    (keeps : ∀ peer, (change peer).id = peer.id := by intro peer; rfl) : PeerTable :=
  peers.update (fun peer => peer.id = nodeId) change keeps

def markSeen (nodeId : String) (latencyMs now : ℚ) : PeerTable :=
  modify peers nodeId fun peer =>
    { peer with lastSeen := now, latencyMs := some latencyMs, online := true }

def updateAuthenticatedEndpoint (nodeId ip : String) (port : Int) : PeerTable :=
  modify peers nodeId fun peer => { peer with ip, port }

/-- `_ensure_peer_identity`, once the node registry has named the identity. -/
def enrich (nodeId peerId pubkey : String) : PeerTable :=
  modify peers nodeId fun peer => { peer with peerId := some peerId, pubkey := some pubkey }

end PeerTable

end HashBurst.Tep
