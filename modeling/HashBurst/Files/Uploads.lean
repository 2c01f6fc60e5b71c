import Mathlib.Data.Finset.Basic
import HashBurst.Files.Capacity

/-! The files of all tenants and the pins of the local IPFS node (`hb_files.py`, `hb_ipfs.py`):
`HTTPServer` serves one upload or deletion after the other. -/

namespace HashBurst.Files

open Lib

structure Tenant where
  id : String
  quotaGb : ℚ

structure FileRecord where
  id : String
  tenantId : String
  filename : String
  sizeBytes : Nat
  path : String
  cid : String
  encrypted : Bool
  deriving DecidableEq

/-- `blobs` are the files that records from before IPFS have on the disk. -/
structure Storage where
  files : Table FileRecord.id := Table.empty
  blobs : Finset String := ∅
  pins : Finset String := ∅

/-- How the daemon takes an `add`: it refuses, or pins the content under its CID and then answers
with it or fails. -/
inductive Adding
  | refused (failure : String)
  | pinned (cid : String) (failure : Option String)
  deriving DecidableEq

/-- `IPFSClient.add` -/
def ipfsAdd (pins : Finset String) : Adding → Finset String × Except String String
  | .refused failure => (pins, .error failure)
  | .pinned cid (some failure) => (insert cid pins, .error failure)
  | .pinned cid none =>
      (insert cid pins, if cid = "" then .error "add: nessun CID nella risposta" else .ok cid)

/-- What `_handle_upload` finds in a request: `part` is the name and the length of the file. -/
structure Upload where
  multipart : Bool := true
  contentLength : Nat
  boundary : Bool := true
  part : Option (String × Nat)
  encrypted : Bool := true
  deriving DecidableEq

inductive UploadReply
  | error (text : String) (code : Nat)
  | created (record : FileRecord)
  deriving DecidableEq

def maxUploadMb : Nat := 10240

namespace Storage

variable (storage : Storage)

def tenantUsageBytes (tenantId : String) : Nat :=
  ((storage.files.rows.filter fun record => record.tenantId = tenantId).map
    FileRecord.sizeBytes).sum

def saveFile (record : FileRecord) : Storage :=
  { storage with
    files := storage.files.upsert record fun old => { record with id := old.id } }

/-- `_handle_upload`, with the random `file_id`. -/
def handleUpload (tenant : Tenant) (fileId : String) (upload : Upload) (adding : Adding) :
    Storage × UploadReply :=
  if !upload.multipart then (storage, .error "Expected multipart/form-data" 400)
  else if upload.contentLength > maxUploadMb * 1024 ^ 2 then
    (storage, .error "File too large (max 10240 MB)" 413)
  else if !upload.boundary then (storage, .error "No boundary in Content-Type" 400)
  else
    match upload.part with
    | none => (storage, .error "No file in multipart body" 400)
    | some (filename, size) =>
        if filename = "" then (storage, .error "No file in multipart body" 400)
        else if ((storage.tenantUsageBytes tenant.id + size : Nat) : Int) > truncate (tenant.quotaGb * bytesPerGb) then
          (storage, .error "Storage quota exceeded" 413)
        else
          let (pins, answer) := ipfsAdd storage.pins adding
          let added := { storage with pins }
          match answer with
          | .error failure => (added, .error ("IPFS unavailable: " ++ failure) 502)
          | .ok cid =>
              let record : FileRecord :=
                { id := fileId, tenantId := tenant.id, filename, sizeBytes := size, path := "",
                  cid, encrypted := upload.encrypted }
              (added.saveFile record, .created record)

def refs (fid cid : String) : Nat :=
  storage.files.rows.countP fun other => other.id ≠ fid ∧ other.cid = cid

/-- `delete_file`; `unpinned` is whether the daemon has removed the pin if it was asked to, whatever
it has answered. -/
def deleteFile (fid tenantId : String) (unpinned : Bool) : Storage × Bool :=
  match storage.files.find? fid with
  | none => (storage, false)
  | some record =>
      if record.tenantId ≠ tenantId then (storage, false)
      else
        let last := record.cid ≠ "" ∧ storage.refs fid record.cid = 0
        ({ files := storage.files.erase fid
           blobs := if record.path ≠ "" then storage.blobs.erase record.path else storage.blobs
           pins := if last ∧ unpinned then storage.pins.erase record.cid else storage.pins }, true)

end Storage

inductive FileCall
  | upload (tenant : Tenant) (fileId : String) (upload : Upload) (adding : Adding)
  | delete (tenantId fid : String) (unpinned : Bool)

def filesServer : Machine Storage FileCall where
  next storage call := some (match call with
    | .upload tenant fileId upload adding => (storage.handleUpload tenant fileId upload adding).1
    | .delete tenantId fid unpinned => (storage.deleteFile fid tenantId unpinned).1)

/-- The CID of each record is pinned, where it has one. -/
def Storage.Pinned (storage : Storage) : Prop :=
  ∀ record ∈ storage.files.rows, record.cid ≠ "" → record.cid ∈ storage.pins

/-- The record under `fid` is the only one that references its CID. -/
def Storage.LastReference (storage : Storage) (fid cid : String) : Prop :=
  ∃ record, storage.files.find? fid = some record ∧ record.cid = cid ∧
    ∀ other ∈ storage.files.rows, other.cid = cid → other = record

section Server

variable {storage after : Storage} {fid tenantId cid : String} {unpinned : Bool}

private theorem ipfsAdd_keeps (pins : Finset String) (adding : Adding) :
    pins ⊆ (ipfsAdd pins adding).1 := by
  cases adding with
  | refused failure => exact fun _ => id
  | pinned cid failure =>
      cases failure with
      | none => exact Finset.subset_insert cid pins
      | some failure => exact Finset.subset_insert cid pins

theorem ipfsAdd_pins {pins : Finset String} {adding : Adding}
    (added : (ipfsAdd pins adding).2 = .ok cid) : cid ∈ (ipfsAdd pins adding).1 := by
  cases adding with
  | refused failure => cases added
  | pinned content failure =>
      cases failure with
      | some failure => cases added
      | none =>
          simp only [ipfsAdd] at added ⊢
          split at added
          · cases added
          · cases added
            exact Finset.mem_insert_self cid pins

/-- An upload leaves all but the pins alone, or saves a record whose CID is pinned. -/
theorem handleUpload_cases (storage : Storage) (tenant : Tenant) (fileId : String)
    (upload : Upload) (adding : Adding) :
    storage.pins ⊆ (storage.handleUpload tenant fileId upload adding).1.pins ∧
      ((storage.handleUpload tenant fileId upload adding).1.files = storage.files ∨
        ∃ record : FileRecord,
          (storage.handleUpload tenant fileId upload adding).1.files =
            (storage.saveFile record).files ∧
          record.cid ∈ (storage.handleUpload tenant fileId upload adding).1.pins) := by
  have kept : storage.pins ⊆ storage.pins := fun _ => id
  unfold Storage.handleUpload
  split
  · exact ⟨kept, .inl rfl⟩
  split
  · exact ⟨kept, .inl rfl⟩
  split
  · exact ⟨kept, .inl rfl⟩
  cases upload.part with
  | none => exact ⟨kept, .inl rfl⟩
  | some part =>
      obtain ⟨filename, size⟩ := part
      simp only
      split
      · exact ⟨kept, .inl rfl⟩
      split
      · exact ⟨kept, .inl rfl⟩
      have grown := ipfsAdd_keeps storage.pins adding
      rcases added : ipfsAdd storage.pins adding with ⟨pins, failure | cid⟩
      · rw [added] at grown
        exact ⟨grown, .inl rfl⟩
      · have held : cid ∈ (ipfsAdd storage.pins adding).1 := ipfsAdd_pins (by rw [added])
        rw [added] at grown held
        exact ⟨grown, .inr ⟨_, rfl, held⟩⟩

theorem upload_pinned (pinned : storage.Pinned) (tenant : Tenant) (fileId : String)
    (upload : Upload) (adding : Adding) :
    (storage.handleUpload tenant fileId upload adding).1.Pinned := by
  obtain ⟨grown, same | ⟨saved, files, held⟩⟩ :=
    handleUpload_cases storage tenant fileId upload adding
  · intro record member some
    rw [same] at member
    exact grown (pinned record member some)
  · intro record member some
    rw [files] at member
    rcases Table.mem_upsert member with old | rfl | ⟨old, -, -, rfl⟩
    · exact grown (pinned record old some)
    · exact held
    · exact held

/-- Where no other record counts, the deleted one is the last that references its CID. -/
theorem lastReference_of_refs {record : FileRecord} (found : storage.files.find? fid = some record)
    (none : storage.refs fid record.cid = 0) : storage.LastReference fid record.cid := by
  refine ⟨record, found, rfl, fun other member same => ?_⟩
  have uncounted := List.countP_eq_zero.mp none other member
  have named : other.id = fid := by
    by_contra apart
    exact uncounted (decide_eq_true ⟨apart, same⟩)
  exact Table.eq_of_key member (Table.find?_mem found) (named.trans (Table.find?_key found).symm)

/-- A deletion removes at most the record, and the pin only with the last reference. -/
theorem deleteFile_cases (storage : Storage) (fid tenantId : String) (unpinned : Bool) :
    (storage.deleteFile fid tenantId unpinned).1 = storage ∨
    ∃ record, storage.files.find? fid = some record ∧
      (storage.deleteFile fid tenantId unpinned).1.files = storage.files.erase fid ∧
      ((storage.deleteFile fid tenantId unpinned).1.pins = storage.pins ∨
        (storage.deleteFile fid tenantId unpinned).1.pins = storage.pins.erase record.cid ∧
          storage.LastReference fid record.cid) := by
  unfold Storage.deleteFile
  cases found : storage.files.find? fid with
  | none => exact .inl rfl
  | some record =>
      simp only
      split
      · exact .inl rfl
      refine .inr ⟨record, rfl, rfl, ?_⟩
      by_cases last : (record.cid ≠ "" ∧ storage.refs fid record.cid = 0) ∧ unpinned = true
      · exact .inr ⟨if_pos last, lastReference_of_refs found last.1.2⟩
      · exact .inl (if_neg last)

theorem delete_pinned (pinned : storage.Pinned) (fid tenantId : String) (unpinned : Bool) :
    (storage.deleteFile fid tenantId unpinned).1.Pinned := by
  rcases deleteFile_cases storage fid tenantId unpinned with
    same | ⟨record, found, files, pins | ⟨pins, last⟩⟩
  · rw [same]
    exact pinned
  · intro other member some
    rw [files] at member
    rw [pins]
    exact pinned other (Table.mem_erase.mp member).1 some
  · intro other member some
    rw [files] at member
    obtain ⟨present, apart⟩ := Table.mem_erase.mp member
    rw [pins]
    refine Finset.mem_erase.mpr ⟨?_, pinned other present some⟩
    -- another record with this CID would be the deleted one
    intro same
    obtain ⟨only, held, -, alone⟩ := last
    rw [alone other present same] at apart
    exact apart (Table.find?_key held)

theorem filesServer_pinned {call : FileCall} (pinned : storage.Pinned)
    (taken : filesServer.next storage call = some after) : after.Pinned := by
  cases call with
  | upload tenant fileId upload adding =>
      rw [← Option.some.inj taken]
      exact upload_pinned pinned tenant fileId upload adding
  | delete tenantId fid unpinned =>
      rw [← Option.some.inj taken]
      exact delete_pinned pinned fid tenantId unpinned

theorem filesServer_unpins {call : FileCall}
    (taken : filesServer.next storage call = some after) (before : cid ∈ storage.pins)
    (gone : cid ∉ after.pins) :
    ∃ tenantId fid unpinned, call = .delete tenantId fid unpinned ∧
      storage.LastReference fid cid := by
  cases call with
  | upload tenant fileId upload adding =>
      rw [← Option.some.inj taken] at gone
      exact absurd ((handleUpload_cases storage tenant fileId upload adding).1 before) gone
  | delete tenantId fid unpinned =>
      refine ⟨tenantId, fid, unpinned, rfl, ?_⟩
      rw [← Option.some.inj taken] at gone
      rcases deleteFile_cases storage fid tenantId unpinned with
        same | ⟨record, -, -, pins | ⟨pins, last⟩⟩
      · simp only [same] at gone
        exact absurd before gone
      · simp only [pins] at gone
        exact absurd before gone
      · simp only [pins] at gone
        have named : cid = record.cid := by
          by_contra apart
          exact gone (Finset.mem_erase.mpr ⟨apart, before⟩)
        rw [named]
        exact last

def sampleUpload (tenantId fileId : String) : FileCall :=
  .upload { id := tenantId, quotaGb := 100 } fileId
    { contentLength := 900, part := some (fileId, 700) } (.pinned "bafy" none)

end Server

end HashBurst.Files
