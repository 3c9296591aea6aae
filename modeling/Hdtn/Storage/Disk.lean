import Hdtn.Storage.Basic

/-! # Store files and disk rings

Each disk of the store has a store file, a single-producer/single-consumer ring of segment
requests and the ring's data area.  `CircularIndexBufferSingleProducerSingleConsumerConfigurable`
and the disk worker threads are not in the sources; the ring and the worker's effect on the file
are modelled from the spec:

* a file is a dense sequence of `SEGMENT_SIZE` records, the record of segment `id` at offset
  `id / D`; a write past the end extends the file, and the records skipped read as zeros;
* a producer fills a slot and commits it; the worker serves the slots in commit order;
* a write slot carries its data area, of which `PushSegment` and `RemoveReadBundleFromDisk`
  overwrite only part: the rest is what the slot last carried (`commitWrite`).

The ring's capacity only makes a producer wait until the worker frees a slot, so the ring is an
unbounded list here: every run of the code is a run of the model.

`applyWrites` is the file as it will be once every queued write is served (the *effective*
file).  A write committed to the ring writes one record of it (`applyWrites_concat_write`), a
read leaves it as it is (`applyWrites_concat_read`), and so does the worker serving the oldest
request, by the definition of `applyWrites`. -/

namespace Hdtn.Storage

/-- The all-zero record: what a file holds where nothing was written. -/
def Segment.zero (perSegmentSize : Nat) : Segment := ⟨0, 0, List.replicate perSegmentSize 0⟩

/-- The record at offset `idx`, if the file reaches past it (`fread` returns a whole segment). -/
def readSegment (file : List Segment) (idx : Nat) : Option Segment := file[idx]?

/-- Writing a whole record at offset `idx`; a file ending before it grows, zero-filled. -/
def writeSegment (perSegmentSize : Nat) (file : List Segment) (idx : Nat) (seg : Segment) :
    List Segment :=
  if idx < file.length then file.set idx seg
  else file ++ List.replicate (idx - file.length) (Segment.zero perSegmentSize) ++ [seg]

/-- A committed ring slot: the segment it targets and what to do with it. -/
inductive DiskRequest where
  /-- A write of the slot's data area (`m_circularBufferReadFromStoragePointers` is `NULL`). -/
  | write (segmentId : Nat) (data : Segment)
  /-- A read into slot `cacheIndex` of read session `session`'s read cache. -/
  | read (segmentId : Nat) (session : Nat) (cacheIndex : Nat)
deriving DecidableEq, Repr

/-- Whether a ring slot is a write. -/
def DiskRequest.isWrite : DiskRequest → Bool
  | .write .. => true
  | .read .. => false

/-- One disk: its store file, the requests committed and not yet served (oldest first), the
ring's data area by slot, and the number of commits so far. -/
structure Disk where
  file : List Segment
  ring : List DiskRequest
  arena : Nat → Segment
  commits : Nat

namespace Disk

/-- `GetIndexForWrite`, filling the slot's data area with `update` of what it held, `CommitWrite`. -/
def commitWrite (ringSize : Nat) (disk : Disk) (segmentId : Nat) (update : Segment → Segment) :
    Disk :=
  let slot := disk.commits % ringSize
  let data := update (disk.arena slot)
  { disk with ring := disk.ring ++ [.write segmentId data]
              arena := Function.update disk.arena slot data
              commits := disk.commits + 1 }

/-- `GetIndexForWrite`, a read request for the slot, `CommitWrite`. -/
def commitRead (disk : Disk) (segmentId session cacheIndex : Nat) : Disk :=
  { disk with ring := disk.ring ++ [.read segmentId session cacheIndex]
              commits := disk.commits + 1 }

@[simp] theorem commitWrite_file (N : Nat) (disk : Disk) (x : Nat) (u : Segment → Segment) :
    (disk.commitWrite N x u).file = disk.file := rfl

@[simp] theorem commitRead_file (disk : Disk) (x r j : Nat) : (disk.commitRead x r j).file = disk.file :=
  rfl

@[simp] theorem commitRead_ring (disk : Disk) (x r j : Nat) :
    (disk.commitRead x r j).ring = disk.ring ++ [.read x r j] := rfl

theorem commitWrite_ring (N : Nat) (disk : Disk) (x : Nat) (u : Segment → Segment) :
    ∃ data, (disk.commitWrite N x u).ring = disk.ring ++ [.write x data] ∧
      ∃ old, data = u old :=
  ⟨_, rfl, _, rfl⟩

end Disk

/-! ### The effective file -/

section effective

variable (D P : Nat)

/-- The file once every queued write of `ring` is served. -/
def applyWrites (file : List Segment) (ring : List DiskRequest) : List Segment :=
  ring.foldl (fun f req => match req with
    | .write segmentId data => writeSegment P f (segmentId / D) data
    | .read .. => f) file

@[simp] theorem applyWrites_nil (file : List Segment) : applyWrites D P file [] = file := rfl

@[simp] theorem applyWrites_write (file : List Segment) (x : Nat) (data : Segment)
    (ring : List DiskRequest) :
    applyWrites D P file (.write x data :: ring) = applyWrites D P (writeSegment P file (x / D) data) ring :=
  rfl

@[simp] theorem applyWrites_read (file : List Segment) (x r j : Nat) (ring : List DiskRequest) :
    applyWrites D P file (.read x r j :: ring) = applyWrites D P file ring := rfl

theorem applyWrites_append (file : List Segment) (ring ring' : List DiskRequest) :
    applyWrites D P file (ring ++ ring') = applyWrites D P (applyWrites D P file ring) ring' :=
  List.foldl_append _ _ _ _

theorem applyWrites_concat_write (file : List Segment) (ring : List DiskRequest) (x : Nat)
    (data : Segment) :
    applyWrites D P file (ring ++ [.write x data]) = writeSegment P (applyWrites D P file ring) (x / D) data :=
  applyWrites_append D P file ring _

theorem applyWrites_concat_read (file : List Segment) (ring : List DiskRequest) (x r j : Nat) :
    applyWrites D P file (ring ++ [.read x r j]) = applyWrites D P file ring :=
  applyWrites_append D P file ring _

theorem applyWrites_of_reads (file : List Segment) {ring : List DiskRequest}
    (h : ∀ req ∈ ring, req.isWrite = false) : applyWrites D P file ring = file := by
  induction ring with
  | nil => rfl
  | cons req ring ih =>
    cases req with
    | write x data => cases h _ (List.mem_cons_self _ _)
    | read x r j => exact ih fun req hr => h req (List.mem_cons_of_mem _ hr)

variable {D P}

theorem length_writeSegment (file : List Segment) (idx : Nat) (seg : Segment) :
    (writeSegment P file idx seg).length = max file.length (idx + 1) := by
  unfold writeSegment
  split_ifs with h
  · simp; omega
  · simp; omega

theorem readSegment_writeSegment (file : List Segment) (idx idx' : Nat) (seg : Segment) :
    readSegment (writeSegment P file idx seg) idx' =
      if idx' = idx then some seg
      else if idx' < file.length then readSegment file idx'
      else if idx' < idx then some (Segment.zero P) else none := by
  unfold writeSegment readSegment
  split_ifs with h₁ h₂ h₃ h₄ h₂ h₃ h₄ <;> subst_vars
  · simp [h₁]
  · simp [List.getElem?_set, Ne.symm h₂]
  · simp [List.getElem?_set, Ne.symm h₂]; omega
  · simp [List.getElem?_set, Ne.symm h₂]; omega
  · rw [List.append_assoc, List.getElem?_append_right (by omega),
      List.getElem?_append_right (by simp)]
    simp
  · simp [List.getElem?_append_left, h₃]
  · rw [List.getElem?_append_left (by simp; omega), List.getElem?_append_right (by omega)]
    simp [List.getElem?_replicate]; omega
  · rw [List.getElem?_eq_none (by simp; omega)]

end effective

end Hdtn.Storage
