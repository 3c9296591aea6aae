import Mathlib.Data.Finset.Basic
import Mathlib.Data.List.Range

/-! # Segments, chains and the segment memory manager

The data of `BundleStorageManagerBase` below the catalog.

* **Configuration.** `StorageConfig` gathers the sizes the store is built with.  Its fields come
  from headers that are not in the sources (`BundleStorageConfig.h`) or from the storage JSON
  configuration, so they are parameters; each field names its macro.  The two bounds say that
  segment IDs fit `segment_id_t` below the chain terminator `UINT32_MAX`, and that no chain of
  at most `M_MAX_SEGMENTS` segments holds `UINT64_MAX` bytes.
* **Chains.** `chain_info_t` is the pair `(bundleSizeBytes, segmentIdChainVec)`.
* **Segments.** A store file is a sequence of `SEGMENT_SIZE` records, each a header
  `bundleSizeBytes | nextSegmentId` and a payload area (`Segment`).
* **Primary blocks.** `Push` and `RestoreFromDisk` read four fields of `bpv6_primary_block`:
  the destination node, the priority bits of the flags, and `creation + lifetime`.
* **Memory manager.** `MemoryManagerTreeArray` is not in the sources either; `MemoryManager`
  follows the spec's contract: a set of allocated segment IDs, allocation of the smallest free
  IDs first, all or nothing. -/

namespace Hdtn.Storage

/-- `UINT64_MAX`: the `bundleSizeBytes` of every segment that is not the head of a chain. -/
def uint64Max : Nat := 2 ^ 64 - 1

/-- `UINT32_MAX`: the `nextSegmentId` of the last segment of a chain. -/
def uint32Max : Nat := 2 ^ 32 - 1

/-- `NUMBER_OF_PRIORITIES`: bulk, normal and expedited. -/
abbrev numberOfPriorities : Nat := 3

/-- The sizes `BundleStorageManagerBase` is constructed with. -/
structure StorageConfig where
  /-- `M_NUM_STORAGE_DISKS`: one store file and one disk worker per disk. -/
  numStorageDisks : Nat
  /-- `M_MAX_SEGMENTS`: the memory manager hands out IDs below it. -/
  maxSegments : Nat
  /-- `BUNDLE_STORAGE_PER_SEGMENT_SIZE`: payload bytes per segment. -/
  perSegmentSize : Nat
  /-- `READ_CACHE_NUM_SEGMENTS_PER_SESSION`: read-ahead slots of a read session. -/
  readCacheNumSegments : Nat
  /-- `CIRCULAR_INDEX_BUFFER_SIZE`: slots of each disk's ring. -/
  circularIndexBufferSize : Nat
  numStorageDisks_pos : 0 < numStorageDisks
  perSegmentSize_pos : 0 < perSegmentSize
  readCacheNumSegments_pos : 0 < readCacheNumSegments
  circularIndexBufferSize_pos : 0 < circularIndexBufferSize
  maxSegments_lt : maxSegments < uint32Max
  capacity_lt : maxSegments * perSegmentSize < uint64Max

/-- `chain_info_t`: the bundle's size in bytes and the IDs of the segments holding it, in order. -/
abbrev ChainInfo := Nat × List Nat

/-- `totalSegmentsRequired` of `Push` and `RestoreFromDisk`: the segments a bundle of `size`
bytes fills. -/
def totalSegmentsRequired (perSegmentSize size : Nat) : Nat :=
  size / perSegmentSize + (if size % perSegmentSize = 0 then 0 else 1)

theorem totalSegmentsRequired_pos {P size : Nat} (h : 0 < size) :
    0 < totalSegmentsRequired P size := by
  unfold totalSegmentsRequired
  split_ifs with hm
  · have := Nat.div_add_mod size P
    rw [hm] at this
    rcases Nat.eq_zero_or_pos (size / P) with h0 | h0
    · rw [h0] at this; simp at this; omega
    · omega
  · exact Nat.succ_pos _

theorem pos_of_totalSegmentsRequired_pos {P size : Nat} (h : 0 < totalSegmentsRequired P size) :
    0 < size := by
  unfold totalSegmentsRequired at h
  rcases Nat.eq_zero_or_pos size with rfl | hs
  · simp at h
  · exact hs

theorem totalSegmentsRequired_spec {P size : Nat} (hP : 0 < P) :
    size ≤ P * totalSegmentsRequired P size ∧ P * (totalSegmentsRequired P size - 1) < size ∨
      size = 0 := by
  unfold totalSegmentsRequired
  have hdm := Nat.div_add_mod size P
  have hlt := Nat.mod_lt size hP
  split_ifs with hm
  · rw [Nat.add_zero, Nat.mul_sub_one]
    generalize P * (size / P) = t at *
    omega
  · rw [Nat.mul_add, Nat.mul_one, Nat.add_sub_cancel]
    generalize P * (size / P) = t at *
    omega

/-- One `SEGMENT_SIZE` record of a store file: the header, then the payload area. -/
structure Segment where
  bundleSizeBytes : Nat
  nextSegmentId : Nat
  payload : List UInt8
deriving DecidableEq, Repr

/-- `memcpy(dataCb + SEGMENT_RESERVED_SPACE, buf, size)`: the payload area with its first
bytes replaced by `buf`. -/
def overwritePayload (old buf : List UInt8) : List UInt8 := buf ++ old.drop buf.length

@[simp] theorem take_overwritePayload (old buf : List UInt8) :
    (overwritePayload old buf).take buf.length = buf := by
  simp [overwritePayload]

/-- The fields of `bpv6_primary_block` that the store reads. -/
structure Bpv6PrimaryBlock where
  flags : Nat
  creation : Nat
  lifetime : Nat
  dstNode : Nat
deriving DecidableEq, Repr

namespace Bpv6PrimaryBlock

/-- `(flags >> 7) & 3`: the two priority bits (`00` bulk, `01` normal, `10` expedited). -/
def priorityIndex (p : Bpv6PrimaryBlock) : Nat := (p.flags >>> 7) &&& 3

/-- `creation + lifetime` in `uint64_t` arithmetic. -/
def absExpiration (p : Bpv6PrimaryBlock) : Nat := (p.creation + p.lifetime) % 2 ^ 64

end Bpv6PrimaryBlock

/-- Modelled from the spec: `MemoryManagerTreeArray` is not in the sources.  The spec's
contract: the set of allocated segment IDs, allocation of the smallest free IDs below
`M_MAX_SEGMENTS` first and all at once, and freeing that fails on an ID that is already free. -/
structure MemoryManager where
  allocated : Finset Nat

namespace MemoryManager

/-- A memory manager with every segment free. -/
def empty : MemoryManager := ⟨∅⟩

/-- `IsSegmentFree`. -/
def isSegmentFree (mm : MemoryManager) (segmentId : Nat) : Bool := segmentId ∉ mm.allocated

/-- The free IDs below `maxSegments`, smallest first. -/
def freeIds (mm : MemoryManager) (maxSegments : Nat) : List Nat :=
  (List.range maxSegments).filter (· ∉ mm.allocated)

/-- `AllocateSegments_ThreadSafe`: the `n` smallest free IDs, or nothing when fewer are free. -/
def allocateSegments (mm : MemoryManager) (maxSegments n : Nat) :
    Option (List Nat × MemoryManager) :=
  let ids := (mm.freeIds maxSegments).take n
  if ids.length = n then some (ids, ⟨mm.allocated ∪ ids.toFinset⟩) else none

/-- `AllocateSegmentId_NoCheck_NotThreadSafe`. -/
def allocateSegmentIdNoCheck (mm : MemoryManager) (segmentId : Nat) : MemoryManager :=
  ⟨insert segmentId mm.allocated⟩

/-- `FreeSegments_ThreadSafe`: frees the IDs in order; one that is already free stops it with
`false`. -/
def freeSegments (mm : MemoryManager) : List Nat → Bool × MemoryManager
  | [] => (true, mm)
  | segmentId :: rest =>
    if segmentId ∈ mm.allocated then freeSegments ⟨mm.allocated.erase segmentId⟩ rest
    else (false, mm)

variable {mm mm' : MemoryManager} {maxSegments n : Nat} {ids : List Nat}

theorem mem_freeIds {x : Nat} : x ∈ mm.freeIds maxSegments ↔ x < maxSegments ∧ x ∉ mm.allocated := by
  simp [freeIds]

theorem nodup_freeIds : (mm.freeIds maxSegments).Nodup :=
  (List.nodup_range maxSegments).filter _

theorem allocateSegments_spec (h : mm.allocateSegments maxSegments n = some (ids, mm')) :
    ids.length = n ∧ ids.Nodup ∧ (∀ x ∈ ids, x < maxSegments ∧ x ∉ mm.allocated) ∧
      mm'.allocated = mm.allocated ∪ ids.toFinset := by
  unfold allocateSegments at h
  dsimp only at h
  split_ifs at h with hlen
  cases h
  refine ⟨hlen, nodup_freeIds.sublist (List.take_sublist _ _), fun x hx => ?_, rfl⟩
  exact mem_freeIds.mp (List.mem_of_mem_take hx)

theorem allocateSegments_smallest (h : mm.allocateSegments maxSegments n = some (ids, mm'))
    {x y : Nat} (hx : x ∈ ids) (hy : y < x) : y ∈ mm.allocated ∨ y ∈ ids := by
  unfold allocateSegments at h
  dsimp only at h
  split_ifs at h with hlen
  cases h
  by_cases hya : y ∈ mm.allocated
  · exact .inl hya
  refine .inr ?_
  have hsorted : (mm.freeIds maxSegments).Pairwise (· < ·) :=
    (List.pairwise_lt_range maxSegments).filter _
  obtain ⟨i, hi, rfl⟩ := List.getElem_of_mem hx
  have hyfree : y ∈ mm.freeIds maxSegments := mem_freeIds.mpr ⟨by
    have := (mem_freeIds.mp (List.mem_of_mem_take (List.getElem_mem hi))).1; omega, hya⟩
  obtain ⟨j, hj, rfl⟩ := List.getElem_of_mem hyfree
  have hi' : i < (mm.freeIds maxSegments).length := by simp at hi; omega
  rw [List.getElem_take] at hy
  have hji : j < i := by
    by_contra hij
    rcases Nat.eq_or_lt_of_not_lt hij with rfl | hlt
    · omega
    · exact absurd hy (Nat.lt_asymm (List.pairwise_iff_getElem.mp hsorted i j hi' hj hlt))
  have hjt : j < ((mm.freeIds maxSegments).take n).length := by simp at hi ⊢; omega
  rw [← List.getElem_take (j := n) (h := hjt)]
  exact List.getElem_mem hjt

theorem freeSegments_of_subset (hnd : ids.Nodup) (hsub : ∀ x ∈ ids, x ∈ mm.allocated) :
    mm.freeSegments ids = (true, ⟨mm.allocated \ ids.toFinset⟩) := by
  induction ids generalizing mm with
  | nil => simp [freeSegments]
  | cons x rest ih =>
    obtain ⟨hx, hnd⟩ := List.nodup_cons.mp hnd
    rw [freeSegments, if_pos (hsub x (List.mem_cons_self _ _)),
      @ih ⟨mm.allocated.erase x⟩ hnd fun y hy => Finset.mem_erase.mpr
        ⟨fun e => hx (by subst e; exact hy), hsub y (List.mem_cons_of_mem _ hy)⟩]
    congr 2
    ext y
    simp only [Finset.mem_sdiff, Finset.mem_erase, List.mem_toFinset, List.mem_cons, not_or]
    tauto

end MemoryManager

end Hdtn.Storage
