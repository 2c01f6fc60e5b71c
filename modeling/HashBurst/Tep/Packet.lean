import HashBurst.Lib.Bytes
import HashBurst.Tep.Peers

/-! TEP datagrams (`_build_packet` and `_parse_packet` in `hb_tep.py`). -/

namespace HashBurst.Tep

open Lib

def tepMagic : Bytes := [72, 66, 84, 2]

def tepVersion : UInt8 := 2

def pktHeartbeat : UInt8 := 0x01
def pktAppRequest : UInt8 := 0x20
def pktAppResponse : UInt8 := 0x21
def pktAppError : UInt8 := 0x22
def pktRelayRequest : UInt8 := 0x23
def pktRelayResponse : UInt8 := 0x24

def appPacketTypes : List UInt8 :=
  [pktAppRequest, pktAppResponse, pktAppError, pktRelayRequest, pktRelayResponse]

def headerSize : Nat := 36

/-- `text.encode('ascii', 'replace')[:16]` -/
def nodeIdBytes (nodeId : String) : Bytes :=
  (nodeId.toList.map fun c => if c.toNat < 128 then UInt8.ofNat c.toNat else 63).take 16

/-- `bytes.ljust(16, b'\x00')` -/
def padNodeId (bytes : Bytes) : Bytes := bytes ++ List.replicate (16 - bytes.length) 0

/-- `bytes.rstrip(b'\x00').decode('ascii', 'replace')` -/
def readNodeId (bytes : Bytes) : String :=
  String.ofList (((bytes.reverse.dropWhile fun byte => byte = 0).reverse).map fun byte =>
    if byte < 128 then Char.ofNat byte.toNat else Char.ofNat 0xFFFD)

/-- The 12 bytes of a nonce: whole seconds, then the low 32 bits of a counter. -/
def packNonce (seconds counter : Nat) : Bytes :=
  Bytes.bigEndian 8 seconds ++ Bytes.bigEndian 4 (counter % 2 ^ 32)

structure Packet where
  version : UInt8
  type : UInt8
  nodeId : String
  nonce : Bytes
  encPayload : Bytes
  deriving DecidableEq

/-- The datagram around an encrypted payload, `none` where its length does not fit into 16 bits. -/
def buildPacket (nodeId : String) (type : UInt8) (nonce encrypted : Bytes) : Option Bytes :=
  if encrypted.length < 65536 then
    some (tepMagic ++ ([tepVersion, type] ++ (padNodeId (nodeIdBytes nodeId) ++ (nonce ++
      (Bytes.bigEndian 2 encrypted.length ++ encrypted)))))
  else none

def parsePacket (data : Bytes) : Option Packet :=
  if data.length < headerSize ∨ data.take 4 ≠ tepMagic then none
  else
    let plen := Bytes.fromBigEndian (Bytes.slice data 34 36)
    some
      { version := data.getD 4 0
        type := data.getD 5 0
        nodeId := readNodeId (Bytes.slice data 6 22)
        nonce := Bytes.slice data 22 34
        encPayload := Bytes.slice data 36 (36 + plen) }

@[simp] theorem packNonce_length (seconds counter : Nat) : (packNonce seconds counter).length = 12 := by
  simp [packNonce]

@[simp] theorem padNodeId_length (nodeId : String) : (padNodeId (nodeIdBytes nodeId)).length = 16 := by
  simp only [padNodeId, nodeIdBytes, List.length_append, List.length_take, List.length_map,
    List.length_replicate]
  omega

theorem parse_build {nodeId : String} {type : UInt8} {nonce encrypted data : Bytes}
    (sized : nonce.length = 12) (built : buildPacket nodeId type nonce encrypted = some data) :
    parsePacket data = some
      { version := tepVersion
        type
        nodeId := readNodeId (padNodeId (nodeIdBytes nodeId))
        nonce
        encPayload := encrypted } := by
  unfold buildPacket at built
  split at built
  · rename_i short
    have whole := Option.some.inj built
    have padded := padNodeId_length nodeId
    have size : data.length = 36 + encrypted.length := by
      rw [← whole]
      simp only [List.length_append, Bytes.bigEndian_length, padded, sized, tepMagic,
        List.length_cons, List.length_nil]
      omega
    have named : Bytes.slice data 6 22 = padNodeId (nodeIdBytes nodeId) := by
      rw [← whole, ← List.append_assoc tepMagic]
      exact Bytes.slice_append rfl (by rw [padded])
    have nonced : Bytes.slice data 22 34 = nonce := by
      rw [← whole, ← List.append_assoc tepMagic, ← List.append_assoc (tepMagic ++ _)]
      apply Bytes.slice_append _ (by rw [sized])
      rw [List.length_append, padded]
      rfl
    have counted : Bytes.slice data 34 36 = Bytes.bigEndian 2 encrypted.length := by
      rw [← whole, ← List.append_assoc tepMagic, ← List.append_assoc (tepMagic ++ _),
        ← List.append_assoc ((tepMagic ++ _) ++ _)]
      apply Bytes.slice_append _ (by rw [Bytes.bigEndian_length])
      rw [List.length_append, List.length_append, padded, sized]
      rfl
    have carried : Bytes.slice data 36 (36 + encrypted.length) = encrypted := by
      rw [← whole, ← List.append_assoc tepMagic, ← List.append_assoc (tepMagic ++ _),
        ← List.append_assoc ((tepMagic ++ _) ++ _), ← List.append_assoc (((tepMagic ++ _) ++ _) ++ _)]
      apply Bytes.slice_end _ rfl
      simp only [List.length_append, Bytes.bigEndian_length, padded, sized, tepMagic,
        List.length_cons, List.length_nil]
    have magic : data.take 4 = tepMagic := by
      rw [← whole]
      rfl
    have version : data.getD 4 0 = tepVersion := by
      rw [← whole]
      rfl
    have typed : data.getD 5 0 = type := by
      rw [← whole]
      rfl
    have fits : encrypted.length < 256 ^ 2 := short
    have large : ¬ (data.length < headerSize ∨ data.take 4 ≠ tepMagic) := by
      rw [size, magic]
      unfold headerSize
      simp
    unfold parsePacket
    rw [if_neg large, counted, Bytes.fromBigEndian_bigEndian fits]
    simp only [version, typed, named, nonced, carried]
  · cases built

end HashBurst.Tep
