import HashBurst.Lib.Machine
import HashBurst.Tep.Registry

namespace HashBurst.Tep

open Lib Lib.Py

section Fresh

variable {conv : Conversions} {self id nodeId wanted message : String}
  {tepItem nodeItem : Option Dict} {previous made : Option Peer} {peer : Peer}
  {tepById nodesById : List (String × Dict)} {table fresh last : PeerTable} {ids : List String}

private theorem peerAt_id {endpoint : String × Int} {identity : Option StableIdentity}
    (placed : peerAt nodeId endpoint identity previous = some peer) : peer.id = nodeId := by
  unfold peerAt at placed
  split at placed
  · cases placed
  · cases placed
    rfl

theorem candidate_id (built : candidate conv tepById nodesById table id = .ok made) :
    ∀ peer ∈ made, peer.id = id := by
  intro peer member
  unfold candidate peerFromRegistryRecords at built
  cases found : endpointFor conv (tepById.lookup id) (nodesById.lookup id) (table.find? id) with
  | error message =>
      rw [found] at built
      cases built
  | ok endpoint =>
      rw [found] at built
      have placed := (Except.ok.inj built).trans member
      exact peerAt_id placed

theorem find?_addPeer_other (named : ∀ peer ∈ made, peer.id = id) (apart : wanted ≠ id) :
    (addPeer fresh made).find? wanted = fresh.find? wanted := by
  cases made with
  | none => rfl
  | some peer =>
      have other : peer.id ≠ wanted := fun same => apart (same.symm.trans (named peer rfl))
      rw [addPeer, Table.find?_upsert, if_neg other]

theorem find?_addPeer_self (named : ∀ peer ∈ made, peer.id = id) (absent : fresh.find? id = none) :
    (addPeer fresh made).find? id = made := by
  cases made with
  | none => exact absent
  | some peer => rw [addPeer, Table.find?_upsert, if_pos (named peer rfl), absent]

theorem find?_freshPeers_other
    (built : freshPeers conv tepById nodesById table fresh ids = .ok last) (apart : wanted ∉ ids) :
    last.find? wanted = fresh.find? wanted := by
  induction ids generalizing fresh with
  | nil =>
      cases built
      rfl
  | cons id ids ih =>
      rw [freshPeers] at built
      cases one : candidate conv tepById nodesById table id with
      | error message =>
          rw [one] at built
          cases built
      | ok made =>
          rw [one] at built
          have rest := ih built fun member => apart (List.mem_cons_of_mem _ member)
          have other : wanted ≠ id := fun same => apart (same ▸ List.mem_cons_self)
          exact rest.trans (find?_addPeer_other (candidate_id one) other)

/-- A candidate is in the fresh table as its records make it. -/
theorem find?_freshPeers_self
    (built : freshPeers conv tepById nodesById table fresh ids = .ok last) (member : id ∈ ids)
    (distinct : ids.Nodup) (absent : fresh.find? id = none) :
    candidate conv tepById nodesById table id = .ok (last.find? id) := by
  induction ids generalizing fresh with
  | nil => cases member
  | cons head ids ih =>
      rw [freshPeers] at built
      cases one : candidate conv tepById nodesById table head with
      | error message =>
          rw [one] at built
          cases built
      | ok made =>
          rw [one] at built
          have named := candidate_id one
          rcases List.mem_cons.mp member with rfl | later
          · rw [one, find?_freshPeers_other built (List.nodup_cons.mp distinct).1,
              find?_addPeer_self named absent]
          · have other : id ≠ head := by
              intro same
              exact (List.nodup_cons.mp distinct).1 (same ▸ later)
            apply ih built later (List.nodup_cons.mp distinct).2
            rw [find?_addPeer_other named other, absent]

theorem freshPeers_error
    (raised : freshPeers conv tepById nodesById table fresh ids = .error message) :
    ∃ id ∈ ids, candidate conv tepById nodesById table id = .error message := by
  induction ids generalizing fresh with
  | nil => cases raised
  | cons head ids ih =>
      rw [freshPeers] at raised
      cases one : candidate conv tepById nodesById table head with
      | error own =>
          rw [one] at raised
          cases raised
          exact ⟨head, List.mem_cons_self, one⟩
      | ok made =>
          rw [one] at raised
          obtain ⟨id, member, own⟩ := ih raised
          exact ⟨id, List.mem_cons_of_mem _ member, own⟩

theorem mem_candidateIds : id ∈ candidateIds self tepById nodesById ↔
    (id ∈ tepById.map Prod.fst ∨ id ∈ nodesById.map Prod.fst) ∧ id ≠ self := by
  unfold candidateIds
  rw [List.mem_insertionSort, List.mem_dedup, List.mem_filter, List.map_append, List.mem_append,
    decide_eq_true_eq]

theorem candidateIds_nodup : (candidateIds self tepById nodesById).Nodup :=
  (List.perm_insertionSort _ _).nodup_iff.mpr (List.nodup_dedup _)

end Fresh

/-- What a reconciliation owes a peer of the table that is still registered. -/
structure Peer.Kept (peer later : Peer) : Prop where
  lastSeen : later.lastSeen = peer.lastSeen
  online : later.online = peer.online
  endpoint : peer.observed → later.ip = peer.ip ∧ later.port = peer.port
  peerId : ∀ own ∈ peer.peerId, later.peerId = some own
  pubkey : ∀ own ∈ peer.pubkey, later.pubkey = some own

namespace Peer.Kept

variable {peer middle later : Peer}

theorem refl (peer : Peer) : peer.Kept peer where
  lastSeen := rfl
  online := rfl
  endpoint _ := ⟨rfl, rfl⟩
  peerId _ known := known
  pubkey _ known := known

theorem trans (front : peer.Kept middle) (back : middle.Kept later) : peer.Kept later where
  lastSeen := back.lastSeen.trans front.lastSeen
  online := back.online.trans front.online
  endpoint seen := by
    have still : middle.observed := by
      unfold Peer.observed
      rw [front.lastSeen]
      exact seen
    have one := front.endpoint seen
    have two := back.endpoint still
    exact ⟨two.1.trans one.1, two.2.trans one.2⟩
  peerId own known := back.peerId own (front.peerId own known)
  pubkey own known := back.pubkey own (front.pubkey own known)

end Peer.Kept

section Condition

variable (conv : Conversions) (tepItem nodeItem : Option Dict) (peer : Peer)

/-- An observed peer has an address without blanks around it, another peer has one in its records. -/
def Addressed : Prop :=
  (peer.observed ∧ peer.ip ≠ "" ∧ strip peer.ip = peer.ip) ∨
    (¬ peer.observed ∧
      (registryEndpoint conv tepItem nodeItem).toOption.any fun endpoint => endpoint.1 ≠ "")

/-- The records name no other identity than the table, and what only the table knows has no blanks
around it. -/
def SameIdentity (identity : Option StableIdentity) : Prop :=
  match identity with
  | some identity => peer.peerId.all (fun own => own = identity.peerId) ∧
      peer.pubkey.all fun own => own = identity.pubkey
  | none => peer.peerId.all (fun own => stripOrNone (some own) = some own) ∧
      peer.pubkey.all fun own => stripOrNone (some own) = some own

/-- The records that a call has read of a peer are enough to keep it as it is. -/
def RecordsFit : Prop :=
  (tepItem.isSome ∨ nodeItem.isSome) ∧ Addressed conv tepItem nodeItem peer ∧
    SameIdentity peer (recordedIdentity conv tepItem nodeItem)

instance : Decidable (Addressed conv tepItem nodeItem peer) :=
  inferInstanceAs (Decidable ((_ ∧ _ ∧ _) ∨ (_ ∧ _)))

instance (identity : Option StableIdentity) : Decidable (SameIdentity peer identity) :=
  match identity with
  | some _ => inferInstanceAs (Decidable (_ ∧ _))
  | none => inferInstanceAs (Decidable (_ ∧ _))

instance : Decidable (RecordsFit conv tepItem nodeItem peer) :=
  inferInstanceAs (Decidable ((_ ∨ _) ∧ _ ∧ _))

end Condition

section Call

variable {conv : Conversions} {self id : String} {tepItem nodeItem : Option Dict} {peer : Peer}
  {endpoint : String × Int} {identity : Option StableIdentity}

private theorem endpointFor_some : endpointFor conv tepItem nodeItem (some peer) =
    if peer.observed then .ok (strip peer.ip, peer.port)
    else registryEndpoint conv tepItem nodeItem := rfl

theorem addressed_iff (found : endpointFor conv tepItem nodeItem (some peer) = .ok endpoint) :
    Addressed conv tepItem nodeItem peer ↔
      endpoint.1 ≠ "" ∧ (peer.observed → endpoint.1 = peer.ip ∧ endpoint.2 = peer.port) := by
  rw [endpointFor_some] at found
  unfold Addressed
  by_cases seen : peer.observed
  · rw [if_pos seen] at found
    have same : (strip peer.ip, peer.port) = endpoint := Except.ok.inj found
    rw [← same]
    constructor
    · rintro (⟨_, filled, clean⟩ | ⟨unseen, _⟩)
      · rw [clean]
        exact ⟨filled, fun _ => ⟨rfl, rfl⟩⟩
      · exact absurd seen unseen
    · rintro ⟨filled, kept⟩
      have clean : strip peer.ip = peer.ip := (kept seen).1
      rw [clean] at filled
      exact .inl ⟨seen, filled, clean⟩
  · rw [if_neg seen] at found
    rw [found]
    simp [seen, Except.toOption]

theorem sameIdentity_iff : SameIdentity peer identity ↔
    (∀ own ∈ peer.peerId, peerIdFor identity (some peer) = some own) ∧
      ∀ own ∈ peer.pubkey, pubkeyFor identity (some peer) = some own := by
  unfold SameIdentity peerIdFor pubkeyFor
  cases identity with
  | some identity => cases peer.peerId <;> cases peer.pubkey <;> simp [eq_comm]
  | none =>
      rw [Option.bind_some, Option.bind_some]
      cases peer.peerId <;> cases peer.pubkey <;> simp

theorem peerAt_kept_iff :
    (∃ later, peerAt id endpoint identity (some peer) = some later ∧ peer.Kept later) ↔
      (endpoint.1 ≠ "" ∧ (peer.observed → endpoint.1 = peer.ip ∧ endpoint.2 = peer.port)) ∧
        SameIdentity peer identity := by
  rw [sameIdentity_iff]
  unfold peerAt
  by_cases blank : endpoint.1 = ""
  · simp [blank]
  · rw [if_neg blank]
    constructor
    · rintro ⟨later, placed, kept⟩
      cases placed
      exact ⟨⟨blank, kept.endpoint⟩, kept.peerId, kept.pubkey⟩
    · rintro ⟨⟨_, endpoint⟩, peerId, pubkey⟩
      exact ⟨_, rfl, rfl, rfl, endpoint, peerId, pubkey⟩

end Call

/-- The daemon, and the contents that the two registries had when they were last read. -/
structure Node where
  dns : Dns
  lastTep : List Dict := []
  lastNodes : List Dict := []

/-- A call with what the two reads answered, or a change of the table by other code. -/
inductive NodeLabel
  | sync (tep nodes : Option Json)
  | elsewhere (peers : PeerTable)

section Runs

variable (conv : Conversions) (self id : String)

def registries : Machine Node NodeLabel where
  next node label :=
    match label with
    | .sync tep nodes => some
        { dns := (reconciledSync conv self node.dns (tepPeerSnapshot tep)
            (authoritativeNodes nodes)).1
          lastTep := (tepPeerSnapshot tep).getD node.lastTep
          lastNodes := (authoritativeNodes nodes).getD node.lastNodes }
    | .elsewhere peers => some { node with dns := { node.dns with peers } }

def tepRecord (records : List Dict) : Option Dict := (recordsById conv "id" records).lookup id

def nodeRecord (records : List Dict) : Option Dict := (recordsById conv "node_id" records).lookup id

/-- At least one registry listed the peer when it was last read. -/
def Registered (node : Node) : Prop :=
  (tepRecord conv id node.lastTep).isSome ∨ (nodeRecord conv id node.lastNodes).isSome

/-- The call leaves the table alone, or what it has read of the peer fits what the table holds. -/
def ReadsCover (dns : Dns) (tep nodes : Option (List Dict)) : Prop :=
  (tep = none ∧ nodes = none) ∨
    (∃ other ∈ candidateIds self (recordsById conv "id" (tep.getD []))
        (recordsById conv "node_id" (nodes.getD [])),
      (endpointFor conv (tepRecord conv other (tep.getD []))
        (nodeRecord conv other (nodes.getD [])) (dns.peers.find? other)).isOk = false) ∨
    ∃ peer ∈ dns.peers.find? id, RecordsFit conv (tepRecord conv id (tep.getD []))
      (nodeRecord conv id (nodes.getD [])) peer

instance (node : Node) : Decidable (Registered conv id node) :=
  inferInstanceAs (Decidable (_ ∨ _))

instance (dns : Dns) (tep nodes : Option (List Dict)) :
    Decidable (ReadsCover conv self id dns tep nodes) :=
  inferInstanceAs (Decidable ((_ ∧ _) ∨ (∃ other ∈ candidateIds _ _ _, _) ∨ ∃ peer ∈ _, _))

end Runs

section Step

variable {conv : Conversions} {self id : String} {dns : Dns} {tep nodes : Option (List Dict)}
  {peer : Peer}

private theorem reconciledSync_failed :
    (reconciledSync conv self dns none none).1.peers = dns.peers := rfl

/-- Outside of the call in which both reads fail, the table is left alone or swapped. -/
theorem reconciledSync_cases (conv : Conversions) (self : String) (dns : Dns)
    (read : ¬ (tep = none ∧ nodes = none)) :
    (∃ message, reconciledPeers conv self dns.peers (tep.getD []) (nodes.getD []) = .error message ∧
      (reconciledSync conv self dns tep nodes).1 = dns) ∨
    reconciledPeers conv self dns.peers (tep.getD []) (nodes.getD []) =
      .ok (reconciledSync conv self dns tep nodes).1.peers := by
  unfold reconciledSync
  split
  · exact absurd ⟨rfl, rfl⟩ read
  · cases reconciledPeers conv self dns.peers (tep.getD []) (nodes.getD []) with
    | error message => exact .inl ⟨message, rfl, rfl⟩
    | ok fresh => exact .inr rfl

theorem mem_keys_iff {records : List (String × Dict)} :
    id ∈ records.map Prod.fst ↔ (records.lookup id).isSome := by
  induction records with
  | nil => simp
  | cons head tail ih =>
      rw [List.map_cons, List.mem_cons, List.lookup_cons, ih]
      by_cases same : id = head.1
      · simp [same]
      · simp [same, beq_false_of_ne same]

theorem candidate_raises_iff {tepById nodesById : List (String × Dict)} {table : PeerTable}
    {other : String} :
    (∃ message, candidate conv tepById nodesById table other = .error message) ↔
      (endpointFor conv (tepById.lookup other) (nodesById.lookup other)
        (table.find? other)).isOk = false := by
  unfold candidate peerFromRegistryRecords
  cases endpointFor conv (tepById.lookup other) (nodesById.lookup other) (table.find? other) with
  | error message => simp [Except.map, Except.isOk, Except.toBool]
  | ok endpoint => simp [Except.map, Except.isOk, Except.toBool]

section Swap

variable {tepRecords nodeRecords : List Dict} {table fresh : PeerTable} {message : String}

theorem find?_reconciledPeers
    (built : reconciledPeers conv self table tepRecords nodeRecords = .ok fresh)
    (apart : id ≠ self)
    (listed : (tepRecord conv id tepRecords).isSome ∨ (nodeRecord conv id nodeRecords).isSome) :
    peerFromRegistryRecords conv id (tepRecord conv id tepRecords) (nodeRecord conv id nodeRecords)
      (table.find? id) = .ok (fresh.find? id) := by
  have chosen : id ∈ candidateIds self (recordsById conv "id" tepRecords)
      (recordsById conv "node_id" nodeRecords) := by
    rw [mem_candidateIds, mem_keys_iff, mem_keys_iff]
    exact ⟨listed, apart⟩
  exact find?_freshPeers_self built chosen candidateIds_nodup (Table.find?_empty id)

theorem find?_reconciledPeers_unlisted
    (built : reconciledPeers conv self table tepRecords nodeRecords = .ok fresh)
    (unlisted : ¬ ((tepRecord conv id tepRecords).isSome ∨
      (nodeRecord conv id nodeRecords).isSome)) : fresh.find? id = none := by
  have passed : id ∉ candidateIds self (recordsById conv "id" tepRecords)
      (recordsById conv "node_id" nodeRecords) := by
    rw [mem_candidateIds, mem_keys_iff, mem_keys_iff]
    exact fun chosen => unlisted chosen.1
  exact (find?_freshPeers_other built passed).trans (Table.find?_empty id)

theorem swap_keeps_iff
    (built : reconciledPeers conv self table tepRecords nodeRecords = .ok fresh)
    (apart : id ≠ self) (present : table.find? id = some peer) :
    (∃ later, fresh.find? id = some later ∧ peer.Kept later) ↔
      RecordsFit conv (tepRecord conv id tepRecords) (nodeRecord conv id nodeRecords) peer := by
  by_cases listed : (tepRecord conv id tepRecords).isSome ∨ (nodeRecord conv id nodeRecords).isSome
  · have made := find?_reconciledPeers built apart listed
    rw [present] at made
    unfold peerFromRegistryRecords at made
    cases found : endpointFor conv (tepRecord conv id tepRecords) (nodeRecord conv id nodeRecords)
        (some peer) with
    | error message =>
        rw [found] at made
        cases made
    | ok endpoint =>
        rw [found] at made
        have placed := Except.ok.inj made
        rw [← placed, peerAt_kept_iff, ← addressed_iff found]
        exact ⟨fun fits => ⟨listed, fits⟩, fun fits => fits.2⟩
  · rw [find?_reconciledPeers_unlisted built listed]
    constructor
    · rintro ⟨later, found, _⟩
      cases found
    · intro fits
      exact absurd fits.1 listed

theorem candidate_of_swap {other : String}
    (built : reconciledPeers conv self table tepRecords nodeRecords = .ok fresh)
    (chosen : other ∈ candidateIds self (recordsById conv "id" tepRecords)
      (recordsById conv "node_id" nodeRecords)) :
    (endpointFor conv (tepRecord conv other tepRecords) (nodeRecord conv other nodeRecords)
      (table.find? other)).isOk ≠ false := by
  intro raises
  have made := find?_freshPeers_self built chosen candidateIds_nodup (Table.find?_empty other)
  obtain ⟨message, raised⟩ := candidate_raises_iff.mpr raises
  cases made.symm.trans raised

end Swap

/-- One call keeps a peer of the table exactly when its reads cover it. -/
theorem sync_keeps_iff (apart : id ≠ self) (present : dns.peers.find? id = some peer) :
    (∃ later, (reconciledSync conv self dns tep nodes).1.peers.find? id = some later ∧
      peer.Kept later) ↔ ReadsCover conv self id dns tep nodes := by
  by_cases failed : tep = none ∧ nodes = none
  · rw [failed.1, failed.2, reconciledSync_failed]
    exact iff_of_true ⟨peer, present, .refl peer⟩ (.inl ⟨rfl, rfl⟩)
  rcases reconciledSync_cases conv self dns failed with ⟨message, raised, same⟩ | built
  · rw [same]
    obtain ⟨other, chosen, own⟩ := freshPeers_error raised
    have raises := candidate_raises_iff.mp ⟨message, own⟩
    exact iff_of_true ⟨peer, present, .refl peer⟩ (.inr (.inl ⟨other, chosen, raises⟩))
  · rw [swap_keeps_iff built apart present]
    constructor
    · intro fits
      exact .inr (.inr ⟨peer, present, fits⟩)
    · rintro (none | ⟨other, chosen, raises⟩ | ⟨own, found, fits⟩)
      · exact absurd none failed
      · exact absurd raises (candidate_of_swap built chosen)
      · cases present.symm.trans found
        exact fits

end Step

/-- What the steps of a run leave a peer: other code does not touch it, and at each call the
registries still list it and the reads cover it. -/
def Sustained (conv : Conversions) (self id : String) (node : Node) : NodeLabel → Prop
  | .elsewhere peers => peers.find? id = node.dns.peers.find? id
  | .sync tep nodes =>
      Registered conv id
          { node with
            lastTep := (tepPeerSnapshot tep).getD node.lastTep
            lastNodes := (authoritativeNodes nodes).getD node.lastNodes } ∧
        ReadsCover conv self id node.dns (tepPeerSnapshot tep) (authoritativeNodes nodes)

/-- A peer of the table stays in it over any number of calls, as it was. -/
theorem registered_peer_kept (conv : Conversions) (self id : String) (first last : Node)
    (peer : Peer) (apart : id ≠ self) (present : first.dns.peers.find? id = some peer)
    (run : (registries conv self).Run (Sustained conv self id) first last) :
    ∃ later, last.dns.peers.find? id = some later ∧ peer.Kept later := by
  apply run.invariant (fun node => ∃ later, node.dns.peers.find? id = some later ∧ peer.Kept later)
    _ ⟨peer, present, .refl peer⟩
  rintro before label after ⟨middle, found, kept⟩ met taken
  cases label with
  | elsewhere peers =>
      cases taken
      have same : peers.find? id = before.dns.peers.find? id := met
      exact ⟨middle, same.trans found, kept⟩
  | sync tep nodes =>
      cases taken
      obtain ⟨later, still, more⟩ := (sync_keeps_iff apart found).mpr met.2
      exact ⟨later, still, kept.trans more⟩

instance (conv : Conversions) (self id : String) (node : Node) (label : NodeLabel) :
    Decidable (Sustained conv self id node label) :=
  match label with
  | .elsewhere _ => inferInstanceAs (Decidable (_ = _))
  | .sync _ _ => inferInstanceAs (Decidable (_ ∧ _))

def plainConversions : Conversions where
  str _ := ""
  float _ := none
  int _ := none
  error kind _ := kind

def emptyNode : Node := { dns := { peers := Table.empty, dnsSource := .static } }

def tepListing : Json :=
  .obj [("peers", .arr [.obj [("id", .str "node-b"), ("ip", .str "10.0.0.2")]])]

def nodesListing : Json := .arr [.obj [("node_id", .str "node-b")]]

def seenPeer : Peer := { id := "node-b", ip := "198.51.100.7", port := 40001, lastSeen := 5 }

def seenNode : Node :=
  { dns := { peers := Table.empty.upsert seenPeer fun old => old, dnsSource := .blockchain } }

theorem registered_peer_kept_through : ∃ last : Node,
    (∃ later, last.dns.peers.find? "node-b" = some later ∧ seenPeer.Kept later) := by
  have played : (((registries plainConversions "node-a").play
      (Sustained plainConversions "node-a" "node-b") seenNode
      [.sync none (some nodesListing), .sync none none]).isSome) = true := by decide
  exact ⟨_, registered_peer_kept plainConversions "node-a" "node-b" seenNode _ seenPeer (by decide)
    (by decide) (Machine.Run.of_play (Option.some_get played).symm)⟩

def listedNode : Node where
  dns := (reconciledSync plainConversions "node-a" emptyNode.dns (tepPeerSnapshot (some tepListing))
    (authoritativeNodes (some (.arr [])))).1
  lastTep := (tepPeerSnapshot (some tepListing)).getD []
  lastNodes := (authoritativeNodes (some (.arr []))).getD []

/-- The registry that lists a peer is read once, and then fails while the other one is read. -/
theorem registered_peer_dropped : ¬ ∀ (before after : Node) (tep nodes : Option Json),
    (registries plainConversions "node-a").Run (fun _ _ => True) emptyNode before →
    (registries plainConversions "node-a").next before (.sync tep nodes) = some after →
    Registered plainConversions "node-b" after → before.dns.peers.find? "node-b" ≠ none →
    after.dns.peers.find? "node-b" ≠ none := by
  intro claim
  apply claim listedNode _ none (some (.arr []))
    (.single ⟨.sync (some tepListing) (some (.arr [])), trivial, rfl⟩) rfl
  · decide
  · decide
  · decide

end HashBurst.Tep
