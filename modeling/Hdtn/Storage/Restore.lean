import Hdtn.Storage.Step

/-! # `RestoreFromDisk`

The constructor's restore of the memory manager and the catalog from the store files, one
definition per loop of `RestoreFromDisk`:

* `restoreChain` is the inner loop: from a head record, it walks `nextSegmentId` segment by
  segment, marking each segment allocated, and checks the linkage on the way;
* `restoreHead` is one iteration of the outer loop at a potential head segment: skipped when it
  is allocated or its record is not a head, the end of the restore when its record lies past the
  end of its file, otherwise the walk of its chain and the `push_front` of the chain into the
  catalog;
* `restoreScan` is the outer loop over `potentialHeadSegmentId = 0, 1, ...` in `uint32_t`
  arithmetic.

`cbhe_bpv6_primary_block_decode` is not in the sources: the restore takes it as a parameter
`decode`, whose `none` is the offset `0` of a malformed block.  The store files exist and open
(the model has no other files), and their sizes are whole records.

Each iteration of the outer loop goes on with what it has rebuilt or files one chain of free
segments, which it allocates (`restoreHead_spec`).  So whatever the files hold, a restore that
returns true has filed well-formed chains (`restoreFromDisk_wellFormed`) and allocated exactly
their segments (`restoreFromDisk_allocatedExactly`). -/

namespace Hdtn.Storage

/-- The three counters `RestoreFromDisk` reports. -/
structure RestoreTotals where
  totalBundlesRestored : Nat
  totalBytesRestored : Nat
  totalSegmentsRestored : Nat
deriving DecidableEq, Repr

/-- What `RestoreFromDisk` rebuilds: the memory manager, the catalog and the counters. -/
structure RestoreState where
  memoryManager : MemoryManager
  destMap : DestinationMap
  totals : RestoreTotals

/-- How one iteration of the outer loop ends. -/
inductive HeadScan where
  /-- `restoreInProgress = false`: the potential head lies past the end of its file. -/
  | endOfRestore
  /-- The loop goes on with what it has rebuilt. -/
  | next (st : RestoreState)

section restore

variable (cfg : StorageConfig) (decode : List UInt8 → Option Bpv6PrimaryBlock)
  (files : Nat → List Segment)

/-- `fseek` and `fread` of segment `segmentId`'s record: `none` when its file ends before it. -/
def readStored (segmentId : Nat) : Option Segment :=
  readSegment (files (diskIndex cfg segmentId)) (segmentId / cfg.numStorageDisks)

/-- The inner loop from logical segment `k`, at segment `segmentId` whose record `seg` has been
read, for a chain of `chainSize` segments: the logical segment must lie within the chain and
the segment be free; it is allocated and recorded in the chain; the last segment must end the
linkage with `UINT32_MAX`, any other must not, and the walk reads the next record.  `fuel`
counts the iterations left before `k` reaches `chainSize`. -/
def restoreChain (chainSize : Nat) :
    (fuel k segmentId : Nat) → Segment → MemoryManager → List Nat → Option (MemoryManager × List Nat)
  | 0, _, _, _, _, _ => none
  | fuel + 1, k, segmentId, seg, mm, chain =>
    if chainSize ≤ k ∨ !mm.isSegmentFree segmentId then none
    else
      let mm := mm.allocateSegmentIdNoCheck segmentId
      let chain := chain.set k segmentId
      if chainSize ≤ k + 1 then
        if seg.nextSegmentId = uint32Max then some (mm, chain) else none
      else if seg.nextSegmentId = uint32Max then none
      else match readStored cfg files seg.nextSegmentId with
        | some seg' => restoreChain chainSize fuel (k + 1) seg.nextSegmentId seg' mm chain
        | none => none

/-- One iteration of the outer loop at `potentialHeadSegmentId`; `none` where `RestoreFromDisk`
returns `false` (or indexes `priority_array_t` with `3`). -/
def restoreHead (st : RestoreState) (potentialHeadSegmentId : Nat) : Option HeadScan :=
  if !st.memoryManager.isSegmentFree potentialHeadSegmentId then some (.next st)
  else match readStored cfg files potentialHeadSegmentId with
    | none => some .endOfRestore
    | some seg =>
      if seg.bundleSizeBytes = uint64Max then some (.next st)
      else match decode seg.payload with
        | none => none
        | some primary =>
          let total := totalSegmentsRequired cfg.perSegmentSize seg.bundleSizeBytes
          match restoreChain cfg files total total 0 potentialHeadSegmentId seg st.memoryManager
              (List.replicate total 0) with
          | none => none
          | some (mm, chain) =>
            if hp : primary.priorityIndex < numberOfPriorities then
              some (.next ⟨mm,
                st.destMap.insertChain primary.dstNode ⟨_, hp⟩ primary.absExpiration
                  (seg.bundleSizeBytes, chain),
                ⟨st.totals.totalBundlesRestored + 1, st.totals.totalBytesRestored + seg.bundleSizeBytes,
                  st.totals.totalSegmentsRestored + total⟩⟩)
            else none

/-- The outer loop from `potentialHeadSegmentId` on, for at most `fuel` iterations. -/
def restoreScan : (fuel potentialHeadSegmentId : Nat) → RestoreState → Option RestoreState
  | 0, _, _ => none
  | fuel + 1, x, st =>
    match restoreHead cfg decode files st x with
    | none => none
    | some .endOfRestore => some st
    | some (.next st') => restoreScan fuel ((x + 1) % 2 ^ 32) st'

/-- `RestoreFromDisk`, run by the constructor on an empty memory manager and catalog: what it
rebuilds, or `none` when it returns `false`.  After `2^32` iterations without an end every
segment ID has been visited, and a second pass changes nothing, so the C++ loop would not end:
`none` there too. -/
def restoreFromDisk : Option RestoreState :=
  restoreScan cfg decode files (2 ^ 32) 0 ⟨MemoryManager.empty, StdMap.empty, ⟨0, 0, 0⟩⟩

/-! ### What a restore builds from any files -/

/-- **The walk of one chain.**  A walk that succeeds from logical segment `k` visits
`chainSize - k` distinct segments, all free before it, allocates them, and records them from
position `k` on. -/
theorem restoreChain_spec {chainSize : Nat} :
    ∀ {fuel k segmentId : Nat} {seg : Segment} {mm mm' : MemoryManager} {chain chain' : List Nat},
      restoreChain cfg files chainSize fuel k segmentId seg mm chain = some (mm', chain') →
      chain.length = chainSize →
      ∃ ids : List Nat, k + ids.length = chainSize ∧ 0 < ids.length ∧ ids.Nodup ∧
        (∀ x ∈ ids, x ∉ mm.allocated) ∧ mm'.allocated = mm.allocated ∪ ids.toFinset ∧
        chain' = chain.take k ++ ids
  | 0, _, _, _, _, _, _, _, h, _ => nomatch h
  | fuel + 1, k, segmentId, seg, mm, mm', chain, chain', h, hlen => by
    simp only [restoreChain, MemoryManager.isSegmentFree, MemoryManager.allocateSegmentIdNoCheck] at h
    split_ifs at h with h₁ h₂ h₃
    all_goals
      have hs : segmentId ∉ mm.allocated := by simp at h₁; exact h₁.2
      have hlt : k < chain.length := by simp at h₁; omega
    · obtain ⟨rfl, rfl⟩ := Prod.mk.inj (Option.some.inj h)
      refine ⟨[segmentId], by simp; omega, Nat.one_pos, List.nodup_singleton _, by simpa using hs,
        by simp [Finset.insert_eq, Finset.union_comm], ?_⟩
      rw [List.set_eq_take_append_cons_drop, if_pos hlt, List.drop_eq_nil_of_le (by omega)]
    · split at h
      · obtain ⟨ids, hids, -, hnd, hfree, halloc, hchain⟩ := restoreChain_spec h (by simp [hlen])
        refine ⟨segmentId :: ids, by simp; omega, by simp, ?_, ?_, ?_, ?_⟩
        · exact List.nodup_cons.mpr ⟨fun hm => hfree _ hm (Finset.mem_insert_self _ _), hnd⟩
        · intro x hx
          rcases List.mem_cons.mp hx with rfl | hx
          · exact hs
          · exact fun hm => hfree x hx (Finset.mem_insert_of_mem hm)
        · rw [halloc]
          ext x
          simp [or_assoc, or_left_comm]
        · rw [hchain, List.set_eq_take_append_cons_drop, if_pos hlt]
          simp [List.take_append_eq_append_take, Nat.min_eq_left hlt.le]
      · exact nomatch h

/-- What a restore from any files has rebuilt so far: each chain in the catalog has the number
of segments its size asks for, at least one, all allocated, and no segment is in two chains or
twice in one. -/
def RestoreState.WellFormed (st : RestoreState) : Prop :=
  (st.destMap.items.flatMap (·.2.2)).Nodup ∧
    ∀ kc ∈ st.destMap.items, 0 < kc.2.2.length ∧
      kc.2.2.length = totalSegmentsRequired cfg.perSegmentSize kc.2.1 ∧
      ∀ x ∈ kc.2.2, x ∈ st.memoryManager.allocated

/-- **One iteration of the outer loop.**  It goes on with what it has rebuilt, or files one
chain of `totalSegmentsRequired` distinct segments, all free before it, which it allocates. -/
theorem restoreHead_spec {st st' : RestoreState} {x : Nat}
    (h : restoreHead cfg decode files st x = some (.next st')) :
    st' = st ∨ ∃ (k : CatalogKey) (size : Nat) (ids : List Nat), 0 < ids.length ∧
      ids.length = totalSegmentsRequired cfg.perSegmentSize size ∧ ids.Nodup ∧
      (∀ y ∈ ids, y ∉ st.memoryManager.allocated) ∧
      st'.memoryManager.allocated = st.memoryManager.allocated ∪ ids.toFinset ∧
      List.Perm st'.destMap.items ((k, (size, ids)) :: st.destMap.items) := by
  unfold restoreHead at h
  split_ifs at h with hfree
  · cases h; exact .inl rfl
  rcases hseg : readStored cfg files x with _ | seg <;> simp only [hseg] at h
  · cases h
  split_ifs at h with hmax
  · cases h; exact .inl rfl
  rcases hdec : decode seg.payload with _ | primary <;> simp only [hdec] at h
  · cases h
  rcases hrc : restoreChain cfg files (totalSegmentsRequired cfg.perSegmentSize seg.bundleSizeBytes)
      (totalSegmentsRequired cfg.perSegmentSize seg.bundleSizeBytes) 0 x seg st.memoryManager
      (List.replicate (totalSegmentsRequired cfg.perSegmentSize seg.bundleSizeBytes) 0) with _ | ⟨mm, chain⟩ <;>
    simp only [hrc] at h
  · cases h
  split_ifs at h with hp
  cases h
  obtain ⟨ids, hids, hpos, hnd, hfree', halloc, hchain⟩ :=
    restoreChain_spec cfg files hrc (List.length_replicate _ _)
  simp only [List.take_zero, List.nil_append, Nat.zero_add] at hids hchain
  subst hchain
  exact .inr ⟨_, _, _, hpos, hids, hnd, hfree', halloc, DestinationMap.items_insertChain⟩

theorem restoreHead_wellFormed {st st' : RestoreState} {x : Nat} (hwf : st.WellFormed cfg)
    (h : restoreHead cfg decode files st x = some (.next st')) : st'.WellFormed cfg := by
  obtain rfl | ⟨k, size, ids, hpos, hids, hnd, hfree, halloc, hperm⟩ := restoreHead_spec cfg decode files h
  · exact hwf
  refine ⟨?_, fun kc hkc => ?_⟩
  · rw [(hperm.flatMap_right _).nodup_iff, List.flatMap_cons, List.nodup_append]
    refine ⟨hnd, hwf.1, fun a ha hb => ?_⟩
    obtain ⟨kc, hkc, hakc⟩ := List.mem_flatMap.mp hb
    exact hfree a ha ((hwf.2 kc hkc).2.2 a hakc)
  · rcases List.mem_cons.mp (hperm.mem_iff.mp hkc) with rfl | hold
    · exact ⟨hpos, hids, fun y hy => by simp [halloc, hy]⟩
    · obtain ⟨h₁, h₂, h₃⟩ := hwf.2 kc hold
      exact ⟨h₁, h₂, fun y hy => by rw [halloc]; exact Finset.mem_union_left _ (h₃ y hy)⟩

/-- The allocated segments are exactly those of the catalog's chains. -/
def RestoreState.AllocatedExactly (st : RestoreState) : Prop :=
  ∀ y, y ∈ st.memoryManager.allocated ↔ ∃ kc ∈ st.destMap.items, y ∈ kc.2.2

theorem restoreHead_allocatedExactly {st st' : RestoreState} {x : Nat} (hex : st.AllocatedExactly)
    (h : restoreHead cfg decode files st x = some (.next st')) : st'.AllocatedExactly := by
  obtain rfl | ⟨k, size, ids, -, -, -, -, halloc, hperm⟩ := restoreHead_spec cfg decode files h
  · exact hex
  intro y
  rw [halloc, Finset.mem_union, hex y, List.mem_toFinset]
  simp only [hperm.mem_iff, List.mem_cons, exists_eq_or_imp]
  exact or_comm

theorem restoreScan_invariant {I : RestoreState → Prop}
    (hI : ∀ {st st' : RestoreState} {x : Nat}, I st → restoreHead cfg decode files st x = some (.next st') → I st') :
    ∀ {fuel x : Nat} {st st' : RestoreState}, I st → restoreScan cfg decode files fuel x st = some st' → I st'
  | 0, _, _, _, _, h => nomatch h
  | fuel + 1, x, st, st', hst, h => by
    unfold restoreScan at h
    split at h
    · cases h
    · cases h; exact hst
    · exact restoreScan_invariant hI (hI hst ‹_›) h

/-- **The catalog of any restore is well formed.**  Whatever the store files hold, when
`RestoreFromDisk` returns true every chain it filed has the number of segments its size asks
for, at least one, all allocated, and no segment is in two chains or twice in one. -/
theorem restoreFromDisk_wellFormed {st : RestoreState} (h : restoreFromDisk cfg decode files = some st) :
    st.WellFormed cfg :=
  restoreScan_invariant cfg decode files (restoreHead_wellFormed cfg decode files)
    (by simp [RestoreState.WellFormed, DestinationMap.items, StdMap.empty]) h

theorem restoreFromDisk_allocatedExactly {st : RestoreState} (h : restoreFromDisk cfg decode files = some st) :
    st.AllocatedExactly :=
  restoreScan_invariant cfg decode files (restoreHead_allocatedExactly cfg decode files)
    (by simp [RestoreState.AllocatedExactly, DestinationMap.items, StdMap.empty, MemoryManager.empty]) h

/-- The store as the constructor leaves it after a restore that rebuilt `st` from `files`, with
`nw` write and `nr` read sessions. -/
def RestoreState.toStore (st : RestoreState) (nw nr : Nat) : StoreState :=
  { freshStore cfg nw nr with
    memoryManager := st.memoryManager
    destMap := st.destMap
    disks := fun d => ⟨files d, [], fun _ => Segment.zero cfg.perSegmentSize, 0⟩ }

end restore

/-! ### Runs a restart can rely on -/

/-- The decoder reads a primary block from the start of its bytes: what follows a decodable
prefix does not change the result. -/
def PrefixDecoder (decode : List UInt8 → Option Bpv6PrimaryBlock) : Prop :=
  ∀ buf rest p, decode buf = some p → decode (buf ++ rest) = some p

/-- The bytes of a chain's head segment decode to the primary block of its `Push`: to the
destination, priority and expiration key the write session recorded. -/
def headDecodes (decode : List UInt8 → Option Bpv6PrimaryBlock) (s : StoreState) : Label → Bool
  | .pushSegment w buf =>
    match s.writeSessions[w]? with
    | some ws => ws.nextLogicalSegment != 0 || (decode buf).any fun p =>
        p.dstNode == ws.destLinkId && p.priorityIndex == ws.priorityIndex &&
          p.absExpiration == ws.absExpiration
    | none => true
  | _ => true

/-- `oneChainPerSession`, with every bundle's first bytes its primary block. -/
def restartable (decode : List UInt8 → Option Bpv6PrimaryBlock) (s : StoreState) (l : Label) : Bool :=
  oneChainPerSession s l && headDecodes decode s l

/-- A store closed cleanly: no write session with a chain still to push, no read session holding
a chain, and no write left in a disk's ring. -/
def StoreState.Closed (cfg : StorageConfig) (s : StoreState) : Prop :=
  (∀ ws ∈ s.writeSessions, ws.isOpen = false) ∧ (∀ rs ∈ s.readSessions, rs.holdsCustody = false) ∧
    ∀ d < cfg.numStorageDisks, ∀ req ∈ (s.disks d).ring, req.isWrite = false

instance (cfg : StorageConfig) (s : StoreState) : Decidable (s.Closed cfg) :=
  inferInstanceAs (Decidable (_ ∧ _ ∧ _))

end Hdtn.Storage
