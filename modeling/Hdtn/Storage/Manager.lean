import Hdtn.Storage.Catalog
import Hdtn.Storage.Disk

/-! # `BundleStorageManagerBase`

The store's state and its operations, one definition per member function of
`BundleStorageManagerBase.cpp`: `push`, `pushSegment`, `popTop`, `returnTop`, `topSegment`
(with its read-ahead loop `topSegmentCacheOne`) and `removeReadBundleFromDisk`, and the disk
worker `diskWorker` that serves the rings.

* Each operation returns `none` where the C++ has undefined behaviour: a `priority_array_t`
  indexed by a priority index of `3`, `front()` of an empty list, `NULL` dereferenced by
  `ReturnTop`, a chain vector read past its end, a `memcpy` longer than a segment.  A run of the
  model never passes through such a point.
* The main thread makes one call at a time.  `TopSegment` is the one call that blocks while the
  disk workers run: it schedules read-ahead one slot at a time (`topSegmentCacheOne`, whose slot
  may have to wait for ring space), then waits for its slot's completion flag and reads it
  (`topSegment`).  `topSegmentIn` records the read session of a call in progress.
* Sessions are the caller's objects; the state holds every session the caller owns, by index.
  Each session has one ghost field that the C++ does not have: it records the session protocol
  (`pushSucceeded`, `holdsCustody`).
* `std::move` of a chain leaves its vector empty and its size as it was. -/

namespace Hdtn.Storage

/-- `BundleStorageManagerSession_WriteToDisk`. -/
structure SessionWriteToDisk where
  chainInfo : ChainInfo
  nextLogicalSegment : Nat
  destLinkId : Nat
  priorityIndex : Nat
  absExpiration : Nat
  /-- Ghost: the last `Push` on the session returned a non-zero segment count. -/
  pushSucceeded : Bool

/-- `BundleStorageManagerSession_ReadFromDisk`. -/
structure SessionReadFromDisk where
  chainInfo : ChainInfo
  nextLogicalSegment : Nat
  nextLogicalSegmentToCache : Nat
  cacheReadIndex : Nat
  cacheWriteIndex : Nat
  readCache : Nat → Segment
  readCacheIsSegmentReady : Nat → Bool
  /-- `expirationMapPtr`: the destination and priority index of the expiration map the chain
  was taken from; `none` is `NULL`. -/
  expirationMapPtr : Option (Nat × Fin numberOfPriorities)
  absExpiration : Nat
  destLinkId : Nat
  priorityIndex : Nat
  /-- Ghost: the session holds the chain of a non-zero `PopTop`, not yet returned or removed. -/
  holdsCustody : Bool

/-- The store: memory manager, catalog, the caller's sessions, and the disks. -/
structure StoreState where
  memoryManager : MemoryManager
  destMap : DestinationMap
  writeSessions : List SessionWriteToDisk
  readSessions : List SessionReadFromDisk
  disks : Nat → Disk
  /-- The read session whose `TopSegment` call is in progress on the main thread. -/
  topSegmentIn : Option Nat

/-- `segmentIdChainVec.resize(n)`. -/
def resizeChain (v : List Nat) (n : Nat) : List Nat := v.take n ++ List.replicate (n - v.length) 0

/-- `a - b` in `uint64_t` arithmetic, for `a, b < 2^64`. -/
def wrappingSub (a b : Nat) : Nat := if b ≤ a then a - b else a + 2 ^ 64 - b

/-- The messages `TopSegment` logs when a header disagrees with the in-memory chain. -/
inductive TopSegmentError where
  /-- `read bundle size bytes = .. does not match chainInfo = ..` -/
  | headSizeMismatch
  /-- `read bundle size bytes = .. is not UINT64_MAX` -/
  | sizeNotUint64Max
  /-- `read nextSegmentId = .. does not match chainInfo = ..` -/
  | nextIdMismatch
  /-- `read nextSegmentId = .. is not UINT32_MAX` -/
  | nextIdNotUint32Max
deriving DecidableEq, Repr

/-- What a `TopSegment` call returns (`size`), copies to the caller's buffer (`bytes`) and
logs. -/
structure TopSegmentResult where
  size : Nat
  bytes : List UInt8
  logged : List TopSegmentError
deriving DecidableEq, Repr

namespace StoreState

/-- Replace write session `w`. -/
def setWrite (s : StoreState) (w : Nat) (ws : SessionWriteToDisk) : StoreState :=
  { s with writeSessions := s.writeSessions.set w ws }

/-- Replace read session `r`. -/
def setRead (s : StoreState) (r : Nat) (rs : SessionReadFromDisk) : StoreState :=
  { s with readSessions := s.readSessions.set r rs }

/-- Change disk `d`. -/
def updateDisk (s : StoreState) (d : Nat) (f : Disk → Disk) : StoreState :=
  { s with disks := Function.update s.disks d (f (s.disks d)) }

@[simp] theorem setWrite_writeSessions (s : StoreState) (w : Nat) (ws : SessionWriteToDisk) :
    (s.setWrite w ws).writeSessions = s.writeSessions.set w ws := rfl
@[simp] theorem setWrite_readSessions (s : StoreState) (w : Nat) (ws : SessionWriteToDisk) :
    (s.setWrite w ws).readSessions = s.readSessions := rfl
@[simp] theorem setWrite_destMap (s : StoreState) (w : Nat) (ws : SessionWriteToDisk) :
    (s.setWrite w ws).destMap = s.destMap := rfl
@[simp] theorem setWrite_memoryManager (s : StoreState) (w : Nat) (ws : SessionWriteToDisk) :
    (s.setWrite w ws).memoryManager = s.memoryManager := rfl
@[simp] theorem setWrite_disks (s : StoreState) (w : Nat) (ws : SessionWriteToDisk) :
    (s.setWrite w ws).disks = s.disks := rfl
@[simp] theorem setWrite_topSegmentIn (s : StoreState) (w : Nat) (ws : SessionWriteToDisk) :
    (s.setWrite w ws).topSegmentIn = s.topSegmentIn := rfl

@[simp] theorem setRead_readSessions (s : StoreState) (r : Nat) (rs : SessionReadFromDisk) :
    (s.setRead r rs).readSessions = s.readSessions.set r rs := rfl
@[simp] theorem setRead_writeSessions (s : StoreState) (r : Nat) (rs : SessionReadFromDisk) :
    (s.setRead r rs).writeSessions = s.writeSessions := rfl
@[simp] theorem setRead_destMap (s : StoreState) (r : Nat) (rs : SessionReadFromDisk) :
    (s.setRead r rs).destMap = s.destMap := rfl
@[simp] theorem setRead_memoryManager (s : StoreState) (r : Nat) (rs : SessionReadFromDisk) :
    (s.setRead r rs).memoryManager = s.memoryManager := rfl
@[simp] theorem setRead_disks (s : StoreState) (r : Nat) (rs : SessionReadFromDisk) :
    (s.setRead r rs).disks = s.disks := rfl
@[simp] theorem setRead_topSegmentIn (s : StoreState) (r : Nat) (rs : SessionReadFromDisk) :
    (s.setRead r rs).topSegmentIn = s.topSegmentIn := rfl

@[simp] theorem updateDisk_disks (s : StoreState) (d : Nat) (f : Disk → Disk) :
    (s.updateDisk d f).disks = Function.update s.disks d (f (s.disks d)) := rfl
@[simp] theorem updateDisk_writeSessions (s : StoreState) (d : Nat) (f : Disk → Disk) :
    (s.updateDisk d f).writeSessions = s.writeSessions := rfl
@[simp] theorem updateDisk_readSessions (s : StoreState) (d : Nat) (f : Disk → Disk) :
    (s.updateDisk d f).readSessions = s.readSessions := rfl
@[simp] theorem updateDisk_destMap (s : StoreState) (d : Nat) (f : Disk → Disk) :
    (s.updateDisk d f).destMap = s.destMap := rfl
@[simp] theorem updateDisk_memoryManager (s : StoreState) (d : Nat) (f : Disk → Disk) :
    (s.updateDisk d f).memoryManager = s.memoryManager := rfl
@[simp] theorem updateDisk_topSegmentIn (s : StoreState) (d : Nat) (f : Disk → Disk) :
    (s.updateDisk d f).topSegmentIn = s.topSegmentIn := rfl

end StoreState

section operations

variable (cfg : StorageConfig)

/-- The disk holding segment `segmentId`: `segmentId % M_NUM_STORAGE_DISKS`. -/
def diskIndex (segmentId : Nat) : Nat := segmentId % cfg.numStorageDisks

/-- A write of segment `segmentId` committed to its disk's ring, the slot's data area being
`update` of what it held. -/
def StoreState.queueWrite (s : StoreState) (segmentId : Nat) (update : Segment → Segment) :
    StoreState :=
  s.updateDisk (diskIndex cfg segmentId) fun disk =>
    disk.commitWrite cfg.circularIndexBufferSize segmentId update

/-- A read of segment `segmentId` into slot `j` of read session `r`'s cache, committed to its
disk's ring. -/
def StoreState.queueRead (s : StoreState) (segmentId r j : Nat) : StoreState :=
  s.updateDisk (diskIndex cfg segmentId) fun disk => disk.commitRead segmentId r j

@[simp] theorem StoreState.queueWrite_writeSessions (s : StoreState) (x : Nat) (u : Segment → Segment) :
    (s.queueWrite cfg x u).writeSessions = s.writeSessions := rfl
@[simp] theorem StoreState.queueWrite_readSessions (s : StoreState) (x : Nat) (u : Segment → Segment) :
    (s.queueWrite cfg x u).readSessions = s.readSessions := rfl
@[simp] theorem StoreState.queueWrite_destMap (s : StoreState) (x : Nat) (u : Segment → Segment) :
    (s.queueWrite cfg x u).destMap = s.destMap := rfl
@[simp] theorem StoreState.queueWrite_memoryManager (s : StoreState) (x : Nat) (u : Segment → Segment) :
    (s.queueWrite cfg x u).memoryManager = s.memoryManager := rfl
@[simp] theorem StoreState.queueWrite_topSegmentIn (s : StoreState) (x : Nat) (u : Segment → Segment) :
    (s.queueWrite cfg x u).topSegmentIn = s.topSegmentIn := rfl

@[simp] theorem StoreState.queueRead_writeSessions (s : StoreState) (x r j : Nat) :
    (s.queueRead cfg x r j).writeSessions = s.writeSessions := rfl
@[simp] theorem StoreState.queueRead_readSessions (s : StoreState) (x r j : Nat) :
    (s.queueRead cfg x r j).readSessions = s.readSessions := rfl
@[simp] theorem StoreState.queueRead_destMap (s : StoreState) (x r j : Nat) :
    (s.queueRead cfg x r j).destMap = s.destMap := rfl
@[simp] theorem StoreState.queueRead_memoryManager (s : StoreState) (x r j : Nat) :
    (s.queueRead cfg x r j).memoryManager = s.memoryManager := rfl
@[simp] theorem StoreState.queueRead_topSegmentIn (s : StoreState) (x r j : Nat) :
    (s.queueRead cfg x r j).topSegmentIn = s.topSegmentIn := rfl

/-- The record `PushSegment` writes for logical segment `k` of `chainInfo`: the header
`bundleSizeBytes | nextSegmentId`, and `buf` over the start of the slot's payload area. -/
def pushedSegment (chainInfo : ChainInfo) (k : Nat) (buf : List UInt8) (old : Segment) : Segment :=
  ⟨if k = 0 then chainInfo.1 else uint64Max,
   if k + 1 = chainInfo.2.length then uint32Max else chainInfo.2.getD (k + 1) 0,
   overwritePayload old.payload buf⟩

/-- The fields `Push` sets on its session before allocating: the chain's size and segments, the
logical segment counter and the catalog key. -/
def SessionWriteToDisk.prepare (session : SessionWriteToDisk) (primary : Bpv6PrimaryBlock)
    (bundleSizeBytes : Nat) (ids : List Nat) (pushSucceeded : Bool) : SessionWriteToDisk :=
  { session with
    chainInfo := (bundleSizeBytes, ids), nextLogicalSegment := 0, destLinkId := primary.dstNode,
    priorityIndex := primary.priorityIndex, absExpiration := primary.absExpiration,
    pushSucceeded := pushSucceeded }

/-- `Push`: reserve the chain of a bundle of `bundleSizeBytes` bytes on write session `w`, and
record where it goes in the catalog.  Returns the number of segments, `0` if they could not be
allocated. -/
def push (s : StoreState) (w : Nat) (primary : Bpv6PrimaryBlock) (bundleSizeBytes : Nat) :
    Option (Nat × StoreState) :=
  match s.writeSessions[w]?, s.topSegmentIn with
  | some session, none =>
    let total := totalSegmentsRequired cfg.perSegmentSize bundleSizeBytes
    match s.memoryManager.allocateSegments cfg.maxSegments total with
    | some (ids, mm) =>
      some (total, { s.setWrite w (session.prepare primary bundleSizeBytes ids (decide (0 < total))) with
        memoryManager := mm })
    | none =>
      some (0, s.setWrite w
        (session.prepare primary bundleSizeBytes (resizeChain session.chainInfo.2 total) false))
  | _, _ => none

/-- `PushSegment`: write the next segment of write session `w`'s chain, holding `buf`; after the
last one, `push_front` the chain at its catalog key.  Returns `1`, or `0` when the chain is
complete. -/
def pushSegment (s : StoreState) (w : Nat) (buf : List UInt8) : Option (Nat × StoreState) :=
  match s.writeSessions[w]?, s.topSegmentIn with
  | some session, none =>
    let k := session.nextLogicalSegment
    match session.chainInfo.2[k]? with
    | some segmentId =>
      if buf.length ≤ cfg.perSegmentSize then
        let s' := s.queueWrite cfg segmentId (pushedSegment session.chainInfo k buf)
        if k + 1 = session.chainInfo.2.length then
          if hp : session.priorityIndex < numberOfPriorities then
            some (1, { s'.setWrite w { session with
                nextLogicalSegment := k + 1, chainInfo := (session.chainInfo.1, []) } with
              destMap := s.destMap.insertChain session.destLinkId ⟨session.priorityIndex, hp⟩
                session.absExpiration session.chainInfo })
          else none
        else some (1, s'.setWrite w { session with nextLogicalSegment := k + 1 })
      else none
    | none => some (0, s)
  | _, _ => none

/-- `PopTop`'s inner loop at priority `i`: over the candidate destinations, the first whose
least expiration is below every earlier one, starting from `lowestExpiration = UINT64_MAX`. -/
def selectLowestExpiration (i : Fin numberOfPriorities) (candidates : List (Nat × PriorityArray)) :
    Nat × Option (Nat × Nat × List ChainInfo) :=
  candidates.foldl (fun acc cand =>
    match (cand.2 i).first? with
    | some (e, l) => if acc.1 > e then (e, some (cand.1, e, l)) else acc
    | none => acc) (uint64Max, none)

/-- The destinations of `availableDestLinks` that the catalog has, with their priority arrays. -/
def candidates (dm : DestinationMap) (availableDestLinks : List Nat) : List (Nat × PriorityArray) :=
  availableDestLinks.filterMap fun link => (dm.find? link).map (link, ·)

/-- `PopTop`'s outer loop over the priorities still to scan: the first priority with a selection
gives the key and front chain of the selected list; `some none` when no priority has one, `none`
at `front()` of an empty list. -/
def popTopAt (cands : List (Nat × PriorityArray)) :
    List (Fin numberOfPriorities) → Option (Option (CatalogKey × ChainInfo))
  | [] => some none
  | i :: is =>
    match (selectLowestExpiration i cands).2 with
    | some (link, e, c :: _) => some (some (⟨link, i, e⟩, c))
    | some (_, _, []) => none
    | none => popTopAt cands is

/-- The chain `PopTop(availableDestLinks)` takes from the catalog, with its key. -/
def selectTop (dm : DestinationMap) (availableDestLinks : List Nat) :
    Option (Option (CatalogKey × ChainInfo)) :=
  popTopAt (candidates dm availableDestLinks) [2, 1, 0]

/-- `PopTop`: take custody of the chain that is first by priority (highest first), then
expiration (earliest first), among the destinations of `availableDestLinks`.  Returns its size,
or `0` when there is none. -/
def popTop (s : StoreState) (r : Nat) (availableDestLinks : List Nat) : Option (Nat × StoreState) :=
  match s.readSessions[r]?, s.topSegmentIn with
  | some session, none =>
    let session := { session with nextLogicalSegment := 0, nextLogicalSegmentToCache := 0,
                                  cacheReadIndex := 0, cacheWriteIndex := 0 }
    match selectTop s.destMap availableDestLinks with
    | some (some (k, c)) =>
      some (c.1, { s.setRead r { session with
          chainInfo := c, expirationMapPtr := some (k.dest, k.priority), absExpiration := k.expiration,
          destLinkId := k.dest, priorityIndex := k.priority, holdsCustody := true } with
        destMap := s.destMap.popFront k.dest k.priority k.expiration })
    | some none => some (0, s.setRead r { session with expirationMapPtr := none })
    | none => none
  | _, _ => none

/-- `ReturnTop`: `push_front` the session's chain back where `PopTop` took it from. -/
def returnTop (s : StoreState) (r : Nat) : Option StoreState :=
  match s.readSessions[r]?, s.topSegmentIn with
  | some session, none =>
    match session.expirationMapPtr with
    | some (link, i) =>
      some { s.setRead r { session with chainInfo := (session.chainInfo.1, []), holdsCustody := false } with
        destMap := s.destMap.insertChain link i session.absExpiration session.chainInfo }
    | none => none
  | _, _ => none

/-- The condition of `TopSegment`'s read-ahead loop. -/
def SessionReadFromDisk.mayCacheMore (session : SessionReadFromDisk) : Prop :=
  wrappingSub session.nextLogicalSegmentToCache session.nextLogicalSegment < cfg.readCacheNumSegments ∧
    session.nextLogicalSegmentToCache < session.chainInfo.2.length

instance (session : SessionReadFromDisk) : Decidable (session.mayCacheMore cfg) :=
  inferInstanceAs (Decidable (_ ∧ _))

/-- One iteration of `TopSegment`'s read-ahead loop on read session `r`: a read of the next
segment to cache into slot `cacheWriteIndex`, whose completion flag is cleared. -/
def topSegmentCacheOne (s : StoreState) (r : Nat) : Option StoreState :=
  match s.readSessions[r]? with
  | some session =>
    if (s.topSegmentIn = none ∨ s.topSegmentIn = some r) ∧ session.mayCacheMore cfg then
      let j := session.cacheWriteIndex
      some { (s.queueRead cfg (session.chainInfo.2.getD session.nextLogicalSegmentToCache 0) r j).setRead r
               { session with
                 nextLogicalSegmentToCache := session.nextLogicalSegmentToCache + 1
                 readCacheIsSegmentReady := Function.update session.readCacheIsSegmentReady j false
                 cacheWriteIndex := (j + 1) % cfg.readCacheNumSegments } with
             topSegmentIn := some r }
    else none
  | none => none

/-- What `TopSegment` returns for the record in its read slot: the payload size (the remainder of
the bundle on the last segment), that many payload bytes, and the header checks that fail. -/
def topSegmentResult (session : SessionReadFromDisk) : TopSegmentResult :=
  let seg := session.readCache session.cacheReadIndex
  let k := session.nextLogicalSegment
  let chain := session.chainInfo
  let sizeErrors :=
    if k = 0 ∧ seg.bundleSizeBytes ≠ chain.1 then [TopSegmentError.headSizeMismatch]
    else if k ≠ 0 ∧ seg.bundleSizeBytes ≠ uint64Max then [TopSegmentError.sizeNotUint64Max]
    else []
  let nextErrors :=
    if k + 1 ≠ chain.2.length ∧ seg.nextSegmentId ≠ chain.2.getD (k + 1) 0 then
      [TopSegmentError.nextIdMismatch]
    else if k + 1 = chain.2.length ∧ seg.nextSegmentId ≠ uint32Max then
      [TopSegmentError.nextIdNotUint32Max]
    else []
  let size :=
    if seg.nextSegmentId = uint32Max ∧ chain.1 % cfg.perSegmentSize ≠ 0 then
      chain.1 % cfg.perSegmentSize
    else cfg.perSegmentSize
  ⟨size, seg.payload.take size, sizeErrors ++ nextErrors⟩

/-- The end of a `TopSegment` call on read session `r`, once read-ahead is done and its slot's
completion flag is set: check the header against the chain, copy the payload, advance.  The
check of `nextSegmentId` reads the chain at the next logical index, past its end when the chain
has been read to the end already. -/
def topSegment (s : StoreState) (r : Nat) : Option (TopSegmentResult × StoreState) :=
  match s.readSessions[r]? with
  | some session =>
    if (s.topSegmentIn = none ∨ s.topSegmentIn = some r) ∧ ¬ session.mayCacheMore cfg ∧
        session.readCacheIsSegmentReady session.cacheReadIndex = true ∧
        session.nextLogicalSegment + 1 ≤ session.chainInfo.2.length then
      some (topSegmentResult cfg session,
        { s.setRead r { session with
            nextLogicalSegment := session.nextLogicalSegment + 1
            cacheReadIndex := (session.cacheReadIndex + 1) % cfg.readCacheNumSegments } with
          topSegmentIn := none })
    else none
  | none => none

/-- `RemoveReadBundleFromDisk`: unless the chain is not read to its end and `forceRemove` is
false, mark its head segment with `UINT64_MAX` on disk and free its segments.  Returns what
`FreeSegments_ThreadSafe` returns. -/
def removeReadBundleFromDisk (s : StoreState) (r : Nat) (forceRemove : Bool) :
    Option (Bool × StoreState) :=
  match s.readSessions[r]?, s.topSegmentIn with
  | some session, none =>
    if !forceRemove ∧ session.nextLogicalSegment ≠ session.chainInfo.2.length then some (false, s)
    else
      match session.chainInfo.2 with
      | [] => none
      | segmentId :: _ =>
        let freed := s.memoryManager.freeSegments session.chainInfo.2
        some (freed.1, { (s.queueWrite cfg segmentId fun old => { old with bundleSizeBytes := uint64Max }).setRead r
            { session with holdsCustody := false } with memoryManager := freed.2 })
  | _, _ => none

/-- A read completing into slot `j` of a session's cache: the record, if the file reaches it,
then the slot's completion flag. -/
def SessionReadFromDisk.completeRead (session : SessionReadFromDisk) (j : Nat)
    (seg : Option Segment) : SessionReadFromDisk :=
  { session with
    readCache := match seg with
      | some seg => Function.update session.readCache j seg
      | none => session.readCache
    readCacheIsSegmentReady := Function.update session.readCacheIsSegmentReady j true }

/-- Modelled from the spec: the disk worker threads are not in the sources.  The worker of disk
`d` serves the oldest slot of its ring: a write stores the slot's record at offset
`segmentId / D`; a read copies the record into the read session's cache slot and then sets that
slot's completion flag. -/
def diskWorker (s : StoreState) (d : Nat) : Option StoreState :=
  match (s.disks d).ring with
  | [] => none
  | .write segmentId data :: rest =>
    some (s.updateDisk d fun disk => { disk with
      file := writeSegment cfg.perSegmentSize disk.file (segmentId / cfg.numStorageDisks) data
      ring := rest })
  | .read segmentId r j :: rest =>
    let s' := s.updateDisk d fun disk => { disk with ring := rest }
    match s.readSessions[r]? with
    | some session =>
      some (s'.setRead r
        (session.completeRead j (readSegment (s.disks d).file (segmentId / cfg.numStorageDisks))))
    | none => some s'

end operations

/-! ### What each operation does

One lemma per operation lists every way it can succeed, guards included, so that the proofs
about runs never unfold the operations. -/

section inversion

variable {cfg : StorageConfig} {s s' : StoreState}

theorem push_eq_some {w n k : Nat} {primary : Bpv6PrimaryBlock}
    (h : push cfg s w primary n = some (k, s')) :
    ∃ ws, s.writeSessions[w]? = some ws ∧ s.topSegmentIn = none ∧
      ((∃ ids mm, s.memoryManager.allocateSegments cfg.maxSegments k = some (ids, mm) ∧
          k = totalSegmentsRequired cfg.perSegmentSize n ∧
          s' = { s.setWrite w (ws.prepare primary n ids (decide (0 < k))) with memoryManager := mm }) ∨
        (k = 0 ∧ s' = s.setWrite w (ws.prepare primary n
          (resizeChain ws.chainInfo.2 (totalSegmentsRequired cfg.perSegmentSize n)) false))) := by
  unfold push at h
  cases hw : s.writeSessions[w]? with
  | none => simp [hw] at h
  | some ws =>
    cases ht : s.topSegmentIn with
    | some _ => simp [hw, ht] at h
    | none =>
      simp only [hw, ht] at h
      refine ⟨ws, rfl, rfl, ?_⟩
      cases ha : s.memoryManager.allocateSegments cfg.maxSegments
          (totalSegmentsRequired cfg.perSegmentSize n) with
      | none =>
        simp only [ha, Option.some.injEq, Prod.mk.injEq] at h
        exact .inr ⟨h.1.symm, h.2.symm⟩
      | some p =>
        simp only [ha, Option.some.injEq, Prod.mk.injEq] at h
        obtain ⟨rfl, rfl⟩ := h
        exact .inl ⟨p.1, p.2, ha, rfl, rfl⟩

theorem pushSegment_eq_some {w k : Nat} {buf : List UInt8}
    (h : pushSegment cfg s w buf = some (k, s')) :
    ∃ ws, s.writeSessions[w]? = some ws ∧ s.topSegmentIn = none ∧
      ((ws.chainInfo.2[ws.nextLogicalSegment]? = none ∧ k = 0 ∧ s' = s) ∨
        ∃ x, ws.chainInfo.2[ws.nextLogicalSegment]? = some x ∧ buf.length ≤ cfg.perSegmentSize ∧
          k = 1 ∧
          ((ws.nextLogicalSegment + 1 ≠ ws.chainInfo.2.length ∧
              s' = (s.queueWrite cfg x (pushedSegment ws.chainInfo ws.nextLogicalSegment buf)).setWrite
                w { ws with nextLogicalSegment := ws.nextLogicalSegment + 1 }) ∨
            ∃ hp : ws.priorityIndex < numberOfPriorities,
              ws.nextLogicalSegment + 1 = ws.chainInfo.2.length ∧
              s' = { (s.queueWrite cfg x (pushedSegment ws.chainInfo ws.nextLogicalSegment buf)).setWrite
                  w { ws with nextLogicalSegment := ws.nextLogicalSegment + 1,
                              chainInfo := (ws.chainInfo.1, []) } with
                destMap := s.destMap.insertChain ws.destLinkId ⟨ws.priorityIndex, hp⟩
                  ws.absExpiration ws.chainInfo })) := by
  unfold pushSegment at h
  cases hw : s.writeSessions[w]? with
  | none => simp [hw] at h
  | some ws =>
    cases ht : s.topSegmentIn with
    | some _ => simp [hw, ht] at h
    | none =>
      simp only [hw, ht] at h
      refine ⟨ws, rfl, rfl, ?_⟩
      cases hx : ws.chainInfo.2[ws.nextLogicalSegment]? with
      | none =>
        simp only [hx, Option.some.injEq, Prod.mk.injEq] at h
        exact .inl ⟨rfl, h.1.symm, h.2.symm⟩
      | some x =>
        simp only [hx] at h
        split_ifs at h with hb hl hp <;> simp only [Option.some.injEq, Prod.mk.injEq] at h <;>
          obtain ⟨rfl, rfl⟩ := h
        · exact .inr ⟨x, rfl, hb, rfl, .inr ⟨hp, hl, rfl⟩⟩
        · exact .inr ⟨x, rfl, hb, rfl, .inl ⟨hl, rfl⟩⟩

theorem popTop_eq_some {r k : Nat} {links : List Nat} (h : popTop s r links = some (k, s')) :
    ∃ rs, s.readSessions[r]? = some rs ∧ s.topSegmentIn = none ∧
      ((selectTop s.destMap links = some none ∧ k = 0 ∧
          s' = s.setRead r { rs with
            nextLogicalSegment := 0, nextLogicalSegmentToCache := 0, cacheReadIndex := 0,
            cacheWriteIndex := 0, expirationMapPtr := none }) ∨
        ∃ key c, selectTop s.destMap links = some (some (key, c)) ∧ k = c.1 ∧
          s' = { s.setRead r { rs with
              nextLogicalSegment := 0, nextLogicalSegmentToCache := 0, cacheReadIndex := 0,
              cacheWriteIndex := 0, chainInfo := c, expirationMapPtr := some (key.dest, key.priority),
              absExpiration := key.expiration, destLinkId := key.dest, priorityIndex := key.priority,
              holdsCustody := true } with
            destMap := s.destMap.popFront key.dest key.priority key.expiration }) := by
  unfold popTop at h
  cases hr : s.readSessions[r]? with
  | none => simp [hr] at h
  | some rs =>
    cases ht : s.topSegmentIn with
    | some _ => simp [hr, ht] at h
    | none =>
      simp only [hr, ht] at h
      refine ⟨rs, rfl, rfl, ?_⟩
      cases hsel : selectTop s.destMap links with
      | none => simp [hsel] at h
      | some o =>
        cases o with
        | none =>
          simp only [hsel, Option.some.injEq, Prod.mk.injEq] at h
          exact .inl ⟨rfl, h.1.symm, h.2.symm⟩
        | some kc =>
          simp only [hsel, Option.some.injEq, Prod.mk.injEq] at h
          obtain ⟨rfl, rfl⟩ := h
          exact .inr ⟨kc.1, kc.2, rfl, rfl, rfl⟩

theorem returnTop_eq_some {r : Nat} (h : returnTop s r = some s') :
    ∃ rs d p, s.readSessions[r]? = some rs ∧ s.topSegmentIn = none ∧
      rs.expirationMapPtr = some (d, p) ∧
      s' = { s.setRead r { rs with chainInfo := (rs.chainInfo.1, []), holdsCustody := false } with
        destMap := s.destMap.insertChain d p rs.absExpiration rs.chainInfo } := by
  unfold returnTop at h
  cases hr : s.readSessions[r]? with
  | none => simp [hr] at h
  | some rs =>
    cases ht : s.topSegmentIn with
    | some _ => simp [hr, ht] at h
    | none =>
      simp only [hr, ht] at h
      split at h
      · rename_i d p he
        exact ⟨rs, d, p, rfl, rfl, he, (Option.some.inj h).symm⟩
      · simp at h

theorem topSegmentCacheOne_eq_some {r : Nat} (h : topSegmentCacheOne cfg s r = some s') :
    ∃ rs, s.readSessions[r]? = some rs ∧ (s.topSegmentIn = none ∨ s.topSegmentIn = some r) ∧
      rs.mayCacheMore cfg ∧
      s' = { (s.queueRead cfg (rs.chainInfo.2.getD rs.nextLogicalSegmentToCache 0) r
                rs.cacheWriteIndex).setRead r
              { rs with
                nextLogicalSegmentToCache := rs.nextLogicalSegmentToCache + 1
                readCacheIsSegmentReady := Function.update rs.readCacheIsSegmentReady rs.cacheWriteIndex false
                cacheWriteIndex := (rs.cacheWriteIndex + 1) % cfg.readCacheNumSegments } with
            topSegmentIn := some r } := by
  unfold topSegmentCacheOne at h
  cases hr : s.readSessions[r]? with
  | none => simp [hr] at h
  | some rs =>
    simp only [hr] at h
    split_ifs at h with hg
    exact ⟨rs, rfl, hg.1, hg.2, (Option.some.inj h).symm⟩

theorem topSegment_eq_some {r : Nat} {res : TopSegmentResult}
    (h : topSegment cfg s r = some (res, s')) :
    ∃ rs, s.readSessions[r]? = some rs ∧ (s.topSegmentIn = none ∨ s.topSegmentIn = some r) ∧
      ¬ rs.mayCacheMore cfg ∧ rs.readCacheIsSegmentReady rs.cacheReadIndex = true ∧
      rs.nextLogicalSegment + 1 ≤ rs.chainInfo.2.length ∧ res = topSegmentResult cfg rs ∧
      s' = { s.setRead r { rs with
          nextLogicalSegment := rs.nextLogicalSegment + 1
          cacheReadIndex := (rs.cacheReadIndex + 1) % cfg.readCacheNumSegments } with
        topSegmentIn := none } := by
  unfold topSegment at h
  cases hr : s.readSessions[r]? with
  | none => simp [hr] at h
  | some rs =>
    simp only [hr] at h
    split_ifs at h with hg
    simp only [Option.some.injEq, Prod.mk.injEq] at h
    exact ⟨rs, rfl, hg.1, hg.2.1, hg.2.2.1, hg.2.2.2, h.1.symm, h.2.symm⟩

theorem removeReadBundleFromDisk_eq_some {r : Nat} {forceRemove ok : Bool}
    (h : removeReadBundleFromDisk cfg s r forceRemove = some (ok, s')) :
    ∃ rs, s.readSessions[r]? = some rs ∧ s.topSegmentIn = none ∧
      ((forceRemove = false ∧ rs.nextLogicalSegment ≠ rs.chainInfo.2.length ∧ ok = false ∧ s' = s) ∨
        (forceRemove = true ∨ rs.nextLogicalSegment = rs.chainInfo.2.length) ∧
          ∃ x rest, rs.chainInfo.2 = x :: rest ∧
            ok = (s.memoryManager.freeSegments rs.chainInfo.2).1 ∧
            s' = { (s.queueWrite cfg x fun old => { old with bundleSizeBytes := uint64Max }).setRead r
                { rs with holdsCustody := false } with
              memoryManager := (s.memoryManager.freeSegments rs.chainInfo.2).2 }) := by
  unfold removeReadBundleFromDisk at h
  cases hr : s.readSessions[r]? with
  | none => simp [hr] at h
  | some rs =>
    cases ht : s.topSegmentIn with
    | some _ => simp [hr, ht] at h
    | none =>
      simp only [hr, ht] at h
      refine ⟨rs, rfl, rfl, ?_⟩
      split_ifs at h with hg
      · simp only [Option.some.injEq, Prod.mk.injEq] at h
        simp only [Bool.not_eq_true', ne_eq] at hg
        exact .inl ⟨hg.1, hg.2, h.1.symm, h.2.symm⟩
      · have hg' : forceRemove = true ∨ rs.nextLogicalSegment = rs.chainInfo.2.length := by
          cases forceRemove <;> simp_all
        obtain ⟨x, rest, hc⟩ : ∃ x rest, rs.chainInfo.2 = x :: rest := by
          cases hc : rs.chainInfo.2 with
          | nil => simp [hc] at h
          | cons x rest => exact ⟨x, rest, rfl⟩
        simp only [hc, Option.some.injEq, Prod.mk.injEq] at h
        exact .inr ⟨hg', x, rest, hc, by rw [hc]; exact h.1.symm, by rw [hc]; exact h.2.symm⟩

theorem diskWorker_eq_some {d : Nat} (h : diskWorker cfg s d = some s') :
    (∃ x data rest, (s.disks d).ring = .write x data :: rest ∧
      s' = s.updateDisk d fun disk => { disk with
        file := writeSegment cfg.perSegmentSize disk.file (x / cfg.numStorageDisks) data
        ring := rest }) ∨
    (∃ x r j rest, (s.disks d).ring = .read x r j :: rest ∧
      ((∃ rs, s.readSessions[r]? = some rs ∧
          s' = (s.updateDisk d fun disk => { disk with ring := rest }).setRead r
            (rs.completeRead j (readSegment (s.disks d).file (x / cfg.numStorageDisks)))) ∨
        (s.readSessions[r]? = none ∧ s' = s.updateDisk d fun disk => { disk with ring := rest }))) := by
  unfold diskWorker at h
  cases hring : (s.disks d).ring with
  | nil => simp [hring] at h
  | cons req rest =>
    cases req with
    | write x data =>
      simp only [hring, Option.some.injEq] at h
      exact .inl ⟨x, data, rest, rfl, h.symm⟩
    | read x r j =>
      simp only [hring] at h
      refine .inr ⟨x, r, j, rest, rfl, ?_⟩
      cases hr : s.readSessions[r]? with
      | none =>
        simp only [hr, Option.some.injEq] at h
        exact .inr ⟨rfl, h.symm⟩
      | some rs =>
        simp only [hr, Option.some.injEq] at h
        exact .inl ⟨rs, rfl, h.symm⟩

end inversion

end Hdtn.Storage
