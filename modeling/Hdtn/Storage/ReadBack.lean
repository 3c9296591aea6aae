import Hdtn.Storage.Step

/-! # Reading a chain back

What `TopSegment` returns for a record in its read slot, and how a read session's cache can be
filled by a read that an earlier chain of the session scheduled.

`PopTop` resets the session's four counters (the `memset` of the cache flags is commented out
in the C++) but not the reads its read-ahead loop has committed to the rings for the chain the
session held before.  Such a read still targets a slot of the session's cache; when it is
served after the session has taken a new chain and scheduled its own read into the same slot,
it stores the old chain's record there and sets the slot's flag, and `TopSegment` returns the
old chain's payload (`stale_read_ahead_fills_new_chain`).

`TopSegment`'s header checks only log, and the size it returns follows the `nextSegmentId` in the
slot, not the session's position in its chain (`topSegmentResult_size_eq_chunkLength_iff`): a
stale last-segment record in the slot of a middle segment gives a short read that advances the
session as a good one does (`header_mismatch_truncates_segment`). -/

namespace Hdtn.Storage

/-! ### The record in the read slot -/

section result

variable (cfg : StorageConfig)

/-- The payload size of logical segment `k` of a bundle of `n` bytes: the remainder on the last
segment when it is not `0`, a whole segment otherwise. -/
def chunkLength (n k : Nat) : Nat :=
  if k + 1 = totalSegmentsRequired cfg.perSegmentSize n ∧ n % cfg.perSegmentSize ≠ 0 then
    n % cfg.perSegmentSize
  else cfg.perSegmentSize

variable {cfg}

/-- **`TopSegment` on the record `PushSegment` wrote.**  When the read slot holds the record
written for the session's next logical segment, none of `TopSegment`'s checks fires, and it
returns the segment's payload size and the bytes `PushSegment` was given. -/
theorem topSegmentResult_pushedSegment {session : SessionReadFromDisk} {buf : List UInt8}
    {old : Segment} (hslot : session.readCache session.cacheReadIndex =
      pushedSegment session.chainInfo session.nextLogicalSegment buf old)
    (hk : session.nextLogicalSegment < session.chainInfo.2.length)
    (hlen : session.chainInfo.2.length = totalSegmentsRequired cfg.perSegmentSize session.chainInfo.1)
    (hids : ∀ x ∈ session.chainInfo.2, x < uint32Max)
    (hbuf : buf.length = chunkLength cfg session.chainInfo.1 session.nextLogicalSegment) :
    topSegmentResult cfg session = ⟨buf.length, buf, []⟩ := by
  have hlast : (pushedSegment session.chainInfo session.nextLogicalSegment buf old).nextSegmentId =
      uint32Max ↔ session.nextLogicalSegment + 1 = session.chainInfo.2.length := by
    simp only [pushedSegment]
    split_ifs with h
    · simp [h]
    · have hlt : session.nextLogicalSegment + 1 < session.chainInfo.2.length := by omega
      simp only [List.getD_eq_getElem?_getD, List.getElem?_eq_getElem hlt, Option.getD_some, h, iff_false]
      exact (hids _ (List.getElem_mem hlt)).ne
  have hsize : (if (pushedSegment session.chainInfo session.nextLogicalSegment buf old).nextSegmentId =
      uint32Max ∧ session.chainInfo.1 % cfg.perSegmentSize ≠ 0 then session.chainInfo.1 % cfg.perSegmentSize
      else cfg.perSegmentSize) = buf.length := by
    simp only [hbuf, chunkLength, hlast, hlen]
  simp only [topSegmentResult, hslot, hsize]
  simp only [pushedSegment, take_overwritePayload, TopSegmentResult.mk.injEq, true_and]
  -- the head carries the bundle size and the last segment `UINT32_MAX`, so no check fires
  by_cases h₀ : session.nextLogicalSegment = 0 <;>
    by_cases hl : session.nextLogicalSegment + 1 = session.chainInfo.2.length <;> simp only [hl] <;> simp [h₀]

/-- **The size follows the header read.**  For a bundle that does not fill its last segment,
`TopSegment` returns the payload size of the logical segment it reads exactly when the
`nextSegmentId` in its read slot says `UINT32_MAX` at the chain's last segment and only there:
the size is taken from the record, not from the in-memory chain. -/
theorem topSegmentResult_size_eq_chunkLength_iff {session : SessionReadFromDisk}
    (hlen : session.chainInfo.2.length = totalSegmentsRequired cfg.perSegmentSize session.chainInfo.1)
    (hrem : session.chainInfo.1 % cfg.perSegmentSize ≠ 0) :
    (topSegmentResult cfg session).size = chunkLength cfg session.chainInfo.1 session.nextLogicalSegment ↔
      ((session.readCache session.cacheReadIndex).nextSegmentId = uint32Max ↔
        session.nextLogicalSegment + 1 = session.chainInfo.2.length) := by
  -- the remainder is never a whole segment, so the two sizes differ
  have hne : session.chainInfo.1 % cfg.perSegmentSize ≠ cfg.perSegmentSize :=
    (Nat.mod_lt _ cfg.perSegmentSize_pos).ne
  simp only [topSegmentResult, chunkLength, ← hlen, hrem, ne_eq, not_false_eq_true, and_true]
  split_ifs <;> simp_all [hne.symm]

end result

/-! ### A stale read-ahead completion -/

/-- The primary block of a bulk bundle to node `1` whose expiration key is `20`. -/
def laterPrimary : Bpv6PrimaryBlock := ⟨0, 0, 20, 1⟩

/-- A read session reads two segments ahead of chain `[0, 1]` and takes the first; the chain is
removed with `forceRemove`, and the session pops chain `[2, 3]` and schedules both its
segments.  The read of segment `1` committed for the first chain is served after the session's
own read of segment `3`'s slot was scheduled: `TopSegment` at logical segment `1` of `[2, 3]`
returns the payload of segment `1`, `[2, 2, 2, 2]`, where the file holds `[4, 4, 4, 4]` for
segment `3`, and none of its header checks fires. -/
theorem stale_read_ahead_fills_new_chain :
    ∃ s, Reachable smallConfig s ∧
      (s.readSessions[0]?).map SessionReadFromDisk.chainInfo = some (8, [2, 3]) ∧
      (s.readSessions[0]?).map SessionReadFromDisk.nextLogicalSegment = some 1 ∧
      (readSegment (s.disks (diskIndex smallConfig 3)).file (3 / 2)).map (·.payload) = some [4, 4, 4, 4] ∧
      (topSegment smallConfig s 0).map (·.1) = some ⟨4, [2, 2, 2, 2], []⟩ := by
  obtain ⟨s, hs, hp⟩ := reachableUnder_of_runTrace smallConfig oneChainPerSession
    (freshStore_initial smallConfig 1 1)
    [.push 0 ⟨0, 0, 10, 1⟩ 8, .pushSegment 0 [1, 1, 1, 1], .pushSegment 0 [2, 2, 2, 2],
     .push 0 laterPrimary 8, .pushSegment 0 [3, 3, 3, 3], .pushSegment 0 [4, 4, 4, 4],
     .diskWorker 0, .diskWorker 0, .diskWorker 1, .diskWorker 1,
     .popTop 0 [1], .topSegmentCacheOne 0, .topSegmentCacheOne 0, .diskWorker 0, .topSegment 0,
     .removeReadBundleFromDisk 0 true,
     .popTop 0 [1], .topSegmentCacheOne 0, .topSegmentCacheOne 0, .diskWorker 0, .diskWorker 0,
     .topSegment 0, .diskWorker 1]
    (fun s => decide ((s.readSessions[0]?).map SessionReadFromDisk.chainInfo = some (8, [2, 3]) ∧
      (s.readSessions[0]?).map SessionReadFromDisk.nextLogicalSegment = some 1 ∧
      (readSegment (s.disks (diskIndex smallConfig 3)).file (3 / 2)).map (·.payload) = some [4, 4, 4, 4] ∧
      (topSegment smallConfig s 0).map (·.1) = some ⟨4, [2, 2, 2, 2], []⟩))
    (by decide)
  exact ⟨s, hs, of_decide_eq_true hp⟩

/-- A stale record in the slot of a middle segment.  As above, but the second chain `[2, 3, 4]`
holds a `9`-byte bundle, and the session reads a segment ahead of its first read before the
read of segment `1` committed for the removed chain `[0, 1]` is served into slot `1`.
`TopSegment` at logical segment `1` of `[2, 3, 4]` finds that record, whose `nextSegmentId` is
`UINT32_MAX` where the chain has `4`: it logs `nextIdMismatch`, returns size `1` (the bundle's
remainder on a last segment) and one byte of the old payload where segment `3` holds four, and
advances the session to logical segment `2` as after a good read. -/
theorem header_mismatch_truncates_segment :
    ∃ s, Reachable smallConfig s ∧
      (s.readSessions[0]?).map SessionReadFromDisk.chainInfo = some (9, [2, 3, 4]) ∧
      (s.readSessions[0]?).map SessionReadFromDisk.nextLogicalSegment = some 1 ∧
      (readSegment (s.disks (diskIndex smallConfig 3)).file (3 / 2)).map (fun g => (g.payload, g.nextSegmentId)) =
        some ([4, 4, 4, 4], 4) ∧
      chunkLength smallConfig 9 1 = 4 ∧
      (topSegment smallConfig s 0).map (fun p => (p.1, (p.2.readSessions[0]?).map SessionReadFromDisk.nextLogicalSegment)) =
        some (⟨1, [2], [.nextIdMismatch]⟩, some 2) := by
  obtain ⟨s, hs, hp⟩ := reachableUnder_of_runTrace smallConfig oneChainPerSession
    (freshStore_initial smallConfig 1 1)
    [.push 0 ⟨0, 0, 10, 1⟩ 8, .pushSegment 0 [1, 1, 1, 1], .pushSegment 0 [2, 2, 2, 2],
     .push 0 laterPrimary 9, .pushSegment 0 [3, 3, 3, 3], .pushSegment 0 [4, 4, 4, 4], .pushSegment 0 [5],
     .diskWorker 0, .diskWorker 0, .diskWorker 0, .diskWorker 1, .diskWorker 1,
     .popTop 0 [1], .topSegmentCacheOne 0, .topSegmentCacheOne 0, .diskWorker 0, .topSegment 0,
     .removeReadBundleFromDisk 0 true,
     .popTop 0 [1], .topSegmentCacheOne 0, .topSegmentCacheOne 0, .diskWorker 0, .diskWorker 0,
     .topSegment 0, .topSegmentCacheOne 0, .diskWorker 1]
    (fun s => decide ((s.readSessions[0]?).map SessionReadFromDisk.chainInfo = some (9, [2, 3, 4]) ∧
      (s.readSessions[0]?).map SessionReadFromDisk.nextLogicalSegment = some 1 ∧
      (readSegment (s.disks (diskIndex smallConfig 3)).file (3 / 2)).map (fun g => (g.payload, g.nextSegmentId)) =
        some ([4, 4, 4, 4], 4) ∧
      chunkLength smallConfig 9 1 = 4 ∧
      (topSegment smallConfig s 0).map (fun p => (p.1, (p.2.readSessions[0]?).map SessionReadFromDisk.nextLogicalSegment)) =
        some (⟨1, [2], [.nextIdMismatch]⟩, some 2)))
    (by decide)
  exact ⟨s, hs, of_decide_eq_true hp⟩

end Hdtn.Storage
