import Hdtn.Storage.Durability
import Mathlib.Algebra.Order.Ring.Nat

/-! # Restart

`RestoreFromDisk` on the files of a store closed cleanly after a run a restart can rely on
(`restartable`).  It rebuilds exactly the chains of the catalog:

* `Restorable` is what the restore needs of the files: their records reach exactly the segment
  IDs below a bound, each chain of the catalog is stored with its headers and its key, and any
  other record is marked `UINT64_MAX`.  A store closed cleanly has it (`restorable_of_closed`).
* The outer loop visits the segment IDs in order.  Once past the IDs below `n` it has rebuilt
  `rebuilt (headsBelow items n)`: the chains whose heads lie below `n`, each pushed to the front
  of its list in the order of their heads (`restoreHead_next`, `restoreScan_rebuilt`); the walk of
  one chain is `restoreChain_walk`.
* So the restore rebuilds the allocated segments and every list of the catalog up to order, with
  exact counters (`restore_recovers_catalog`).  Within a list it orders the chains by decreasing
  head segment, where before the close the last chain pushed was in front
  (`restore_orders_by_head`, `restart_reorders_equal_keys`).
* Whatever the files hold, a restore that returns true files well-formed chains and allocates
  exactly their segments, so the store it rebuilds has `Ownership`, and every run from it keeps
  it (`restored_run_ownership`), also when the files make it allocate past `M_MAX_SEGMENTS`
  (`restore_allocates_past_max_segments`). -/

namespace Hdtn.Storage

open scoped List

/-! ### What the scan rebuilds -/

section rebuilt

/-- The entry of `items` whose chain starts at segment `x`. -/
def headedAt (items : List (CatalogKey × ChainInfo)) (x : Nat) : Option (CatalogKey × ChainInfo) :=
  items.find? fun kc => kc.2.2.head? == some x

/-- The entries whose chains start below segment `n`, in the order of their heads. -/
def headsBelow (items : List (CatalogKey × ChainInfo)) (n : Nat) : List (CatalogKey × ChainInfo) :=
  (List.range n).filterMap (headedAt items)

/-- `entries` pushed to the front of their lists, one after the other. -/
def insertAll (dm : DestinationMap) (entries : List (CatalogKey × ChainInfo)) : DestinationMap :=
  entries.foldl (fun dm kc => dm.insertChain kc.1.dest kc.1.priority kc.1.expiration kc.2) dm

/-- What `RestoreFromDisk` has rebuilt once it has found `entries`, in this order. -/
def rebuilt (entries : List (CatalogKey × ChainInfo)) : RestoreState :=
  ⟨⟨(entries.flatMap (·.2.2)).toFinset⟩, insertAll StdMap.empty entries,
    ⟨entries.length, (entries.map (·.2.1)).sum, (entries.map (·.2.2.length)).sum⟩⟩

theorem headsBelow_succ (items : List (CatalogKey × ChainInfo)) (n : Nat) :
    headsBelow items (n + 1) = headsBelow items n ++ (headedAt items n).toList := by
  rw [headsBelow, headsBelow, List.range_succ, List.filterMap_append]
  cases h : headedAt items n <;> simp [List.filterMap, h]

theorem rebuilt_concat (entries : List (CatalogKey × ChainInfo)) (kc : CatalogKey × ChainInfo) :
    rebuilt (entries ++ [kc]) =
      ⟨⟨(entries.flatMap (·.2.2)).toFinset ∪ kc.2.2.toFinset⟩,
        (insertAll StdMap.empty entries).insertChain kc.1.dest kc.1.priority kc.1.expiration kc.2,
        ⟨entries.length + 1, (entries.map (·.2.1)).sum + kc.2.1,
          (entries.map (·.2.2.length)).sum + kc.2.2.length⟩⟩ := by
  simp [rebuilt, insertAll, List.foldl_append, List.toFinset_append]

theorem bucket_insertAll (dm : DestinationMap) (entries : List (CatalogKey × ChainInfo)) (d : Nat)
    (p : Fin numberOfPriorities) (e : Nat) :
    (insertAll dm entries).bucket d p e =
      ((entries.filter (·.1 = ⟨d, p, e⟩)).map (·.2)).reverse ++ dm.bucket d p e := by
  induction entries generalizing dm with
  | nil => rfl
  | cons kc entries ih =>
    obtain ⟨⟨d', p', e'⟩, c⟩ := kc
    rw [insertAll, List.foldl_cons, ← insertAll, ih, DestinationMap.bucket_insertChain]
    by_cases h : d = d' ∧ p = p' ∧ e = e'
    · obtain ⟨rfl, rfl, rfl⟩ := h
      simp
    · have h' : ¬ (⟨d', p', e'⟩ : CatalogKey) = ⟨d, p, e⟩ := fun h'' => by
        simp only [CatalogKey.mk.injEq] at h''
        exact h ⟨h''.1.symm, h''.2.1.symm, h''.2.2.symm⟩
      simp [h, h']

variable {items : List (CatalogKey × ChainInfo)}

theorem eq_of_mem_chains (hnd : (items.flatMap (·.2.2)).Nodup) {kc kc' : CatalogKey × ChainInfo}
    (h : kc ∈ items) (h' : kc' ∈ items) {x : Nat} (hx : x ∈ kc.2.2) (hx' : x ∈ kc'.2.2) : kc = kc' := by
  by_contra hne
  exact (List.nodup_flatMap.mp hnd).2.forall (fun _ _ h => h.symm) h h' hne hx hx'

theorem headedAt_eq_some {x : Nat} {kc : CatalogKey × ChainInfo} (h : headedAt items x = some kc) :
    kc ∈ items ∧ kc.2.2.head? = some x := by
  unfold headedAt at h
  exact ⟨List.mem_of_find?_eq_some h, by simpa using List.find?_some h⟩

theorem headedAt_of_mem (hnd : (items.flatMap (·.2.2)).Nodup) {kc : CatalogKey × ChainInfo}
    (h : kc ∈ items) {x : Nat} (hx : kc.2.2.head? = some x) : headedAt items x = some kc := by
  cases hf : headedAt items x with
  | none =>
    unfold headedAt at hf
    exact absurd (List.find?_eq_none.mp hf kc h) (by simpa using hx)
  | some kc' =>
    obtain ⟨h', hx'⟩ := headedAt_eq_some hf
    rw [eq_of_mem_chains hnd h h' (List.mem_of_mem_head? hx) (List.mem_of_mem_head? hx')]

theorem mem_headsBelow {n : Nat} {kc : CatalogKey × ChainInfo} (h : kc ∈ headsBelow items n) :
    kc ∈ items ∧ ∃ x < n, kc.2.2.head? = some x := by
  simp only [headsBelow, List.mem_filterMap, List.mem_range] at h
  obtain ⟨x, hx, h⟩ := h
  exact ⟨(headedAt_eq_some h).1, x, hx, (headedAt_eq_some h).2⟩

end rebuilt

/-! ### What the restore needs of the files -/

/-- What `RestoreFromDisk` needs of the store files `files` to rebuild the catalog entries
`items`. -/
structure Restorable (cfg : StorageConfig) (decode : List UInt8 → Option Bpv6PrimaryBlock)
    (files : Nat → List Segment) (items : List (CatalogKey × ChainInfo)) (hw : Nat) : Prop where
  /-- The records reach exactly the segment IDs below `hw`. -/
  present : ∀ x, readStored cfg files x ≠ none ↔ x < hw
  hw_lt : hw < uint32Max
  /-- The chains' segments are distinct, and each chain has the length its size calls for. -/
  nodup : (items.flatMap (·.2.2)).Nodup
  chainLength : ∀ kc ∈ items, 0 < kc.2.1 ∧ kc.2.2.length = totalSegmentsRequired cfg.perSegmentSize kc.2.1
  size_lt : ∀ kc ∈ items, kc.2.1 < uint64Max
  /-- Each chain's records hold their headers, and the head's payload decodes to its key. -/
  stored : ∀ kc ∈ items, ∀ k < kc.2.2.length, ∃ seg, readStored cfg files (kc.2.2.getD k 0) = some seg ∧
    RecordOk kc.2 k seg ∧ (k = 0 → (StoredChain.ofItem kc).KeyDecodes decode seg)
  /-- Any other record is no chain's head. -/
  free_marked : ∀ x seg, readStored cfg files x = some seg → x ∉ items.flatMap (·.2.2) →
    seg.bundleSizeBytes = uint64Max

section walk

variable {cfg : StorageConfig} {decode : List UInt8 → Option Bpv6PrimaryBlock}
  {files : Nat → List Segment} {items : List (CatalogKey × ChainInfo)} {hw : Nat}

theorem getD_eq_getElem' {l : List Nat} {k : Nat} (hk : k < l.length) : l.getD k 0 = l[k] := by
  rw [List.getD_eq_getElem?_getD, List.getElem?_eq_getElem hk, Option.getD_some]

theorem Restorable.lt_of_mem (hR : Restorable cfg decode files items hw) {kc : CatalogKey × ChainInfo}
    (h : kc ∈ items) {x : Nat} (hx : x ∈ kc.2.2) : x < hw := by
  obtain ⟨k, hk, rfl⟩ := List.mem_iff_getElem.mp hx
  obtain ⟨seg, hseg, -⟩ := hR.stored kc h k hk
  rw [getD_eq_getElem' hk] at hseg
  exact (hR.present _).mp (by rw [hseg]; exact Option.some_ne_none _)

theorem not_mem_take_getElem {l : List Nat} (hnd : l.Nodup) {k : Nat} (hk : k < l.length) :
    l[k] ∉ l.take k := fun h => by
  rw [← List.take_append_drop k l] at hnd
  exact List.disjoint_of_nodup_append hnd h
    (List.mem_drop_iff_getElem.mpr ⟨0, by simp; omega, by simp⟩)

/-- **The walk of one chain.**  From logical segment `k` of a chain of the catalog whose segments
are all free, the inner loop allocates the rest of the chain and returns it whole. -/
theorem restoreChain_walk (hR : Restorable cfg decode files items hw) {kc : CatalogKey × ChainInfo}
    (hkc : kc ∈ items) (A : Finset Nat) (hA : ∀ x ∈ kc.2.2, x ∉ A) :
    ∀ j k (seg : Segment) (mm : MemoryManager), k + j = kc.2.2.length → 0 < j →
      readStored cfg files (kc.2.2.getD k 0) = some seg → mm.allocated = A ∪ (kc.2.2.take k).toFinset →
      ∃ mm', restoreChain cfg files kc.2.2.length j k (kc.2.2.getD k 0) seg mm
          (kc.2.2.take k ++ List.replicate j 0) = some (mm', kc.2.2) ∧
        mm'.allocated = A ∪ kc.2.2.toFinset := by
  intro j
  induction j with
  | zero => exact fun _ _ _ _ hj => absurd hj (Nat.lt_irrefl 0)
  | succ j ih =>
    intro k seg mm hkj _ hseg hmm
    have hk : k < kc.2.2.length := by omega
    obtain ⟨seg₀, hseg₀, hok, -⟩ := hR.stored kc hkc k hk
    rw [hseg, Option.some.injEq] at hseg₀
    subst hseg₀
    rw [getD_eq_getElem' hk] at hseg ⊢
    have hfree : kc.2.2[k] ∉ mm.allocated := by
      rw [hmm, Finset.mem_union, List.mem_toFinset, not_or]
      exact ⟨hA _ (List.getElem_mem hk), not_mem_take_getElem ((List.nodup_flatMap.mp hR.nodup).1 kc hkc) hk⟩
    have hset : (kc.2.2.take k ++ List.replicate (j + 1) 0).set k kc.2.2[k] =
        kc.2.2.take (k + 1) ++ List.replicate j 0 := by
      rw [List.set_append_right _ _ (by simp), List.take_succ, List.getElem?_eq_getElem hk]
      simp only [List.length_take, Nat.min_eq_left hk.le, Nat.sub_self, List.replicate_succ,
        List.set_cons_zero, Option.toList_some, List.append_assoc, List.singleton_append]
    have hmm' : (mm.allocateSegmentIdNoCheck kc.2.2[k]).allocated = A ∪ (kc.2.2.take (k + 1)).toFinset := by
      rw [MemoryManager.allocateSegmentIdNoCheck, List.take_succ, List.getElem?_eq_getElem hk, hmm,
        Option.toList_some, List.toFinset_append]
      ext y
      simp only [Finset.mem_insert, Finset.mem_union, List.mem_toFinset, List.mem_singleton]
      exact or_comm.trans or_assoc
    have hcond : ¬ (kc.2.2.length ≤ k ∨ !mm.isSegmentFree kc.2.2[k]) := by
      simp [MemoryManager.isSegmentFree, hfree, hk]
    rw [restoreChain, if_neg hcond]
    dsimp only
    rw [hset]
    by_cases hlast : j = 0
    · subst hlast
      have hnext : seg.nextSegmentId = uint32Max := by
        rw [hok.2, if_pos (show k + 1 = kc.2.2.length by omega)]
      have htake : kc.2.2.take (k + 1) = kc.2.2 := List.take_of_length_le (by omega)
      rw [if_pos (show kc.2.2.length ≤ k + 1 by omega), if_pos hnext, List.replicate_zero,
        List.append_nil, htake]
      exact ⟨_, rfl, by rw [hmm', htake]⟩
    · have hk1 : k + 1 < kc.2.2.length := by omega
      have hnext : seg.nextSegmentId = kc.2.2.getD (k + 1) 0 := by
        rw [hok.2, if_neg (show k + 1 ≠ kc.2.2.length by omega)]
      have hne : seg.nextSegmentId ≠ uint32Max := by
        rw [hnext]
        exact Nat.ne_of_lt (Nat.lt_trans (hR.lt_of_mem hkc (by rw [getD_eq_getElem' hk1]; exact List.getElem_mem hk1))
          hR.hw_lt)
      obtain ⟨seg', hseg', -⟩ := hR.stored kc hkc (k + 1) hk1
      rw [if_neg (show ¬ kc.2.2.length ≤ k + 1 by omega), if_neg hne, hnext, hseg']
      exact ih (k + 1) seg' _ (by omega) (Nat.pos_of_ne_zero hlast) hseg' hmm'

theorem not_mem_headsBelow_of_headedAt (hnd : (items.flatMap (·.2.2)).Nodup) {x : Nat}
    {kc : CatalogKey × ChainInfo} (h : headedAt items x = some kc) {y : Nat} (hy : y ∈ kc.2.2) :
    y ∉ (headsBelow items x).flatMap (·.2.2) := by
  simp only [List.mem_flatMap, not_exists, not_and]
  intro kc' h' hy'
  obtain ⟨hkc, hhead⟩ := headedAt_eq_some h
  obtain ⟨hkc', z, hz, hhead'⟩ := mem_headsBelow h'
  rw [eq_of_mem_chains hnd hkc hkc' hy hy', hhead'] at hhead
  exact Nat.ne_of_lt hz (Option.some.inj hhead)

theorem Restorable.headedAt_of_record (hR : Restorable cfg decode files items hw) {x : Nat}
    {seg : Segment} (hseg : readStored cfg files x = some seg) (hne : seg.bundleSizeBytes ≠ uint64Max) :
    ∃ kc, headedAt items x = some kc := by
  have hmem : x ∈ items.flatMap (·.2.2) := by_contra fun h => hne (hR.free_marked x seg hseg h)
  obtain ⟨kc, hkc, hx⟩ := List.mem_flatMap.mp hmem
  obtain ⟨k, hk, rfl⟩ := List.mem_iff_getElem.mp hx
  obtain ⟨seg', hseg', hok, -⟩ := hR.stored kc hkc k hk
  rw [getD_eq_getElem' hk, hseg, Option.some.injEq] at hseg'
  subst hseg'
  obtain rfl : k = 0 := by_contra fun h => hne (by rw [hok.1, if_neg h])
  exact ⟨kc, headedAt_of_mem hR.nodup hkc (by rw [List.head?_eq_getElem?, List.getElem?_eq_getElem hk])⟩

/-- **One iteration of the outer loop.**  At a segment below `hw`, the restore skips a segment of
a chain already rebuilt and a record marked `UINT64_MAX`, and rebuilds the chain headed there. -/
theorem restoreHead_next (hR : Restorable cfg decode files items hw) {x : Nat} (hx : x < hw) :
    restoreHead cfg decode files (rebuilt (headsBelow items x)) x =
      some (.next (rebuilt (headsBelow items (x + 1)))) := by
  rw [headsBelow_succ]
  cases hh : headedAt items x with
  | none =>
    rw [Option.toList_none, List.append_nil, restoreHead]
    cases hfree : (rebuilt (headsBelow items x)).memoryManager.isSegmentFree x with
    | false => rfl
    | true =>
      obtain ⟨seg, hseg⟩ := Option.ne_none_iff_exists'.mp ((hR.present x).mpr hx)
      have hmax : seg.bundleSizeBytes = uint64Max := by
        by_contra hne
        obtain ⟨kc, hkc⟩ := hR.headedAt_of_record hseg hne
        rw [hh] at hkc
        cases hkc
      simp [hseg, hmax]
  | some kc =>
    obtain ⟨hkc, hhead⟩ := headedAt_eq_some hh
    obtain ⟨hpos, hlen⟩ := hR.chainLength kc hkc
    have hk0 : 0 < kc.2.2.length := hlen ▸ totalSegmentsRequired_pos hpos
    have hx0 : kc.2.2.getD 0 0 = x := by
      rw [List.head?_eq_getElem?, List.getElem?_eq_getElem hk0, Option.some.injEq] at hhead
      rw [getD_eq_getElem' hk0, hhead]
    obtain ⟨seg, hseg, hok, hkey⟩ := hR.stored kc hkc 0 hk0
    obtain ⟨p, hdec, hdst, hprio, hexp⟩ := hkey rfl
    have hsize : seg.bundleSizeBytes = kc.2.1 := by rw [hok.1, if_pos rfl]
    have hdisj : ∀ y ∈ kc.2.2, y ∉ (headsBelow items x).flatMap (·.2.2) := fun _ hy =>
      not_mem_headsBelow_of_headedAt hR.nodup hh hy
    have hfree : (rebuilt (headsBelow items x)).memoryManager.isSegmentFree x = true := by
      simpa [MemoryManager.isSegmentFree, rebuilt] using hdisj x (List.mem_of_mem_head? hhead)
    obtain ⟨mm', hwalk, hmm'⟩ := restoreChain_walk hR hkc (((headsBelow items x).flatMap (·.2.2)).toFinset)
      (fun y hy => by simpa using hdisj y hy) kc.2.2.length 0 seg
      (rebuilt (headsBelow items x)).memoryManager (Nat.zero_add _) hk0 hseg (by simp [rebuilt])
    rw [hx0, List.take_zero, List.nil_append] at hwalk
    rw [hx0] at hseg
    have hp : p.priorityIndex < numberOfPriorities := hprio ▸ kc.1.priority.isLt
    simp only [restoreHead, hfree, Bool.not_true, Bool.false_eq_true, if_false, hseg, hsize,
      if_neg (Nat.ne_of_lt (hR.size_lt kc hkc)), hdec, ← hlen, hwalk, dif_pos hp, Option.toList_some,
      rebuilt_concat]
    obtain ⟨A⟩ := mm'
    obtain rfl : A = _ := hmm'
    have hkey : (⟨p.priorityIndex, hp⟩ : Fin numberOfPriorities) = kc.1.priority := Fin.ext hprio
    rw [show p.dstNode = kc.1.dest from hdst, show p.absExpiration = kc.1.expiration from hexp, hkey]
    rfl

theorem restoreHead_end (hR : Restorable cfg decode files items hw) :
    restoreHead cfg decode files (rebuilt (headsBelow items hw)) hw = some .endOfRestore := by
  have hfree : hw ∉ (headsBelow items hw).flatMap (·.2.2) := fun h => by
    obtain ⟨kc, hkc, hx⟩ := List.mem_flatMap.mp h
    exact Nat.lt_irrefl _ (hR.lt_of_mem (mem_headsBelow hkc).1 hx)
  have hnone : readStored cfg files hw = none := by
    by_contra h
    exact Nat.lt_irrefl _ ((hR.present hw).mp h)
  simp [restoreHead, MemoryManager.isSegmentFree, rebuilt, hfree, hnone]

/-- **The outer loop.**  From any segment below `hw`, with enough iterations left, the scan
ends with the chains headed below `hw`. -/
theorem restoreScan_rebuilt (hR : Restorable cfg decode files items hw) :
    ∀ j x f, x + j = hw →
      restoreScan cfg decode files (f + j + 1) x (rebuilt (headsBelow items x)) =
        some (rebuilt (headsBelow items hw))
  | 0, x, f, h => by
    obtain rfl : x = hw := h
    simp only [restoreScan, restoreHead_end hR]
  | j + 1, x, f, h => by
    have hlt : x + 1 < 2 ^ 32 := by have := hR.hw_lt; unfold uint32Max at this; omega
    rw [show f + (j + 1) + 1 = f + j + 1 + 1 by omega]
    simp only [restoreScan, restoreHead_next hR (show x < hw by omega), Nat.mod_eq_of_lt hlt]
    exact restoreScan_rebuilt hR j (x + 1) f (by omega)

theorem restoreFromDisk_eq (hR : Restorable cfg decode files items hw) :
    restoreFromDisk cfg decode files = some (rebuilt (headsBelow items hw)) := by
  have h := restoreScan_rebuilt hR hw 0 (2 ^ 32 - hw - 1) (Nat.zero_add hw)
  rw [show 2 ^ 32 - hw - 1 + hw + 1 = 2 ^ 32 by have := hR.hw_lt; unfold uint32Max at this; omega] at h
  exact h

/-! ### What the scan ends with -/

theorem headsBelow_nodup (items : List (CatalogKey × ChainInfo)) (n : Nat) : (headsBelow items n).Nodup :=
  (List.nodup_range n).filterMap fun _ _ _ ha ha' =>
    Option.some.inj (((headedAt_eq_some ha).2).symm.trans (headedAt_eq_some ha').2)

theorem headsBelow_sorted (items : List (CatalogKey × ChainInfo)) (n : Nat) :
    (headsBelow items n).Pairwise fun kc kc' => kc.2.2.headD 0 < kc'.2.2.headD 0 :=
  (List.pairwise_lt_range n).filterMap _ fun _ _ h _ ha _ ha' => by
    rwa [List.headD_eq_head?_getD, List.headD_eq_head?_getD, (headedAt_eq_some ha).2,
      (headedAt_eq_some ha').2]

theorem bucket_rebuilt (entries : List (CatalogKey × ChainInfo)) (d : Nat) (p : Fin numberOfPriorities)
    (e : Nat) : (rebuilt entries).destMap.bucket d p e = ((entries.filter (·.1 = ⟨d, p, e⟩)).map (·.2)).reverse :=
  (bucket_insertAll _ _ d p e).trans (List.append_nil _)

theorem Restorable.nodup_items (hR : Restorable cfg decode files items hw) : items.Nodup :=
  (List.nodup_flatMap.mp hR.nodup).2.imp_of_mem fun {kc _} hkc _ hd heq => by
    subst heq
    obtain ⟨hpos, hlen⟩ := hR.chainLength kc hkc
    have hk0 : 0 < kc.2.2.length := hlen ▸ totalSegmentsRequired_pos hpos
    exact hd (List.getElem_mem hk0) (List.getElem_mem hk0)

theorem Restorable.headsBelow_perm (hR : Restorable cfg decode files items hw) : headsBelow items hw ~ items :=
  (List.perm_ext_iff_of_nodup (headsBelow_nodup items hw) hR.nodup_items).mpr fun kc =>
    ⟨fun h => (mem_headsBelow h).1, fun h => by
      obtain ⟨hpos, hlen⟩ := hR.chainLength kc h
      have hk0 : 0 < kc.2.2.length := hlen ▸ totalSegmentsRequired_pos hpos
      have hhead : kc.2.2.head? = some kc.2.2[0] := by
        rw [List.head?_eq_getElem?, List.getElem?_eq_getElem hk0]
      exact List.mem_filterMap.mpr ⟨_, List.mem_range.mpr (hR.lt_of_mem h (List.getElem_mem hk0)),
        headedAt_of_mem hR.nodup h hhead⟩⟩

theorem Restorable.bucket_perm (hR : Restorable cfg decode files items hw) (d : Nat)
    (p : Fin numberOfPriorities) (e : Nat) :
    (rebuilt (headsBelow items hw)).destMap.bucket d p e ~ (items.filter (·.1 = ⟨d, p, e⟩)).map (·.2) := by
  rw [bucket_rebuilt]
  exact (List.reverse_perm _).trans ((hR.headsBelow_perm.filter _).map _)

end walk

/-! ### A store closed cleanly -/

section closed

variable {cfg : StorageConfig} {decode : List UInt8 → Option Bpv6PrimaryBlock} {s : StoreState}

theorem storedChains_of_closed (hc : s.Closed cfg) :
    s.storedChains = s.destMap.items.map StoredChain.ofItem := by
  have hw : s.writeSessions.flatMap (·.stored) = [] := List.flatMap_eq_nil_iff.mpr fun ws h => by
    simp [SessionWriteToDisk.stored, hc.1 ws h]
  have hr : s.readSessions.flatMap (·.stored) = [] := List.flatMap_eq_nil_iff.mpr fun rs h => by
    simp [SessionReadFromDisk.stored, hc.2.1 rs h]
  rw [StoreState.storedChains, hw, hr, List.append_nil, List.append_nil]

theorem heldChains_of_closed (hc : s.Closed cfg) : s.heldChains = s.destMap.items.map (·.2) := by
  rw [heldChains_eq_map, storedChains_of_closed hc, List.map_map]
  rfl

theorem readStored_of_closed (hc : s.Closed cfg) (x : Nat) :
    readStored cfg (fun d => (s.disks d).file) x = s.record cfg x := by
  simp only [StoreState.record, StoreState.effectiveFile, readStored]
  rw [applyWrites_of_reads _ _ _ (hc.2.2 (diskIndex cfg x) (Nat.mod_lt x cfg.numStorageDisks_pos))]

theorem live_iff_of_closed (hc : s.Closed cfg) (x : Nat) : s.Live cfg x ↔ s.record cfg x ≠ none := by
  have h : ∀ e ∈ s.storedChains, e.unwritten = [] := by
    rw [storedChains_of_closed hc]
    intro e he
    obtain ⟨kc, -, rfl⟩ := List.mem_map.mp he
    exact List.drop_length _
  exact or_iff_left fun ⟨e, he, hx⟩ => by rw [h e he] at hx; cases hx

theorem Ownership.mem_allocated_of_closed {P : Nat} (hI : Ownership P s) (hc : s.Closed cfg) (x : Nat) :
    x ∈ s.memoryManager.allocated ↔ x ∈ s.destMap.items.flatMap (·.2.2) := by
  rw [hI.allocated, StoreState.held, heldChains_of_closed hc, List.mem_flatMap]
  simp only [Multiset.mem_coe, List.mem_map]
  exact ⟨fun ⟨_, ⟨kc, hkc, rfl⟩, hx⟩ => ⟨kc, hkc, hx⟩, fun ⟨kc, hkc, hx⟩ => ⟨_, ⟨kc, hkc, rfl⟩, hx⟩⟩

theorem size_lt_of_chain {c : ChainInfo} (hpos : 0 < c.1)
    (hlen : c.2.length = totalSegmentsRequired cfg.perSegmentSize c.1) (hnd : c.2.Nodup)
    (hlt : ∀ x ∈ c.2, x < cfg.maxSegments) : c.1 < uint64Max := by
  have hM : c.2.length ≤ cfg.maxSegments := by
    simpa using (hnd.subperm fun x hx => List.mem_range.mpr (hlt x hx)).length_le
  obtain ⟨hle, -⟩ | h0 := @totalSegmentsRequired_spec _ c.1 cfg.perSegmentSize_pos
  · calc c.1 ≤ cfg.perSegmentSize * c.2.length := hlen ▸ hle
      _ ≤ cfg.perSegmentSize * cfg.maxSegments := Nat.mul_le_mul_left _ hM
      _ = cfg.maxSegments * cfg.perSegmentSize := Nat.mul_comm _ _
      _ < uint64Max := cfg.capacity_lt
  · omega

/-- **The files of a store closed cleanly are restorable.** -/
theorem restorable_of_closed (hpre : PrefixDecoder decode)
    (hs : ReachableUnder cfg (restartable decode) s) (hc : s.Closed cfg) :
    ∃ hw, Restorable cfg decode (fun d => (s.disks d).file) s.destMap.items hw := by
  classical
  obtain ⟨hI, hD⟩ := durable_of_reachable hpre hs
  have hrec := readStored_of_closed hc
  have hlive := live_iff_of_closed hc
  have hmem : ∀ kc ∈ s.destMap.items, StoredChain.ofItem kc ∈ s.storedChains := fun kc h => by
    rw [storedChains_of_closed hc]
    exact List.mem_map_of_mem _ h
  have hheld : ∀ kc ∈ s.destMap.items, kc.2 ∈ s.held := fun kc h => by
    rw [StoreState.held, heldChains_of_closed hc]
    exact Multiset.mem_coe.mpr (List.mem_map_of_mem _ h)
  have hM : s.record cfg cfg.maxSegments = none :=
    by_contra fun h => Nat.lt_irrefl _ (hD.live_lt _ ((hlive _).mpr h))
  have hex : ∃ n, s.record cfg n = none := ⟨_, hM⟩
  refine ⟨Nat.find hex, ⟨fun x => ?present, lt_of_le_of_lt (Nat.find_min' hex hM) cfg.maxSegments_lt,
    ?nodup, fun kc h => hI.chainLength _ (hheld kc h), fun kc h => ?size, fun kc h k hk => ?stored,
    fun x seg h hx => ?marked⟩⟩
  case present =>
    rw [hrec]
    refine ⟨fun h => ?_, fun h => Nat.find_min hex h⟩
    by_contra hge
    exact (hlive _).mp (hD.live_closed x _ (not_lt.mp hge) ((hlive x).mpr h)) (Nat.find_spec hex)
  case nodup =>
    have h : (s.heldChains.flatMap (·.2)).Nodup := by
      rw [← Multiset.coe_nodup, ← Multiset.coe_bind]
      exact hI.nodup
    rwa [heldChains_of_closed hc, List.flatMap_map] at h
  case size =>
    obtain ⟨hpos, hlen⟩ := hI.chainLength _ (hheld kc h)
    exact size_lt_of_chain hpos hlen (hI.nodup_of_mem (hmem kc h)) fun x hx =>
      hD.live_lt x (hD.live_of_allocated hI (hI.allocated_of_mem (hmem kc h) hx))
  case stored =>
    obtain ⟨seg, hseg, hok, hkey⟩ := hD.stored _ (hmem kc h) k hk
    exact ⟨seg, (hrec _).trans hseg, hok, hkey⟩
  case marked =>
    exact hD.free_marked x seg ((hrec x).symm.trans h) fun ha => hx ((hI.mem_allocated_of_closed hc x).mp ha)

end closed

/-! ### A decoder and a run for concrete restarts -/

/-- A decoder for concrete runs: a bundle to node `1`, created at `0`, whose lifetime is its
first byte. -/
def firstByteDecode : List UInt8 → Option Bpv6PrimaryBlock
  | b :: _ => some ⟨0, 0, b.toNat, 1⟩
  | [] => none

theorem prefixDecoder_firstByteDecode : PrefixDecoder firstByteDecode := by
  rintro (_ | ⟨b, buf⟩) rest p h
  · cases h
  · exact h

/-- Bundle `X` (key `5`, segment `0`) and bundle `A` (key `10`, segment `1`) are stored; `X` is
popped and removed, bundle `B` (key `10`, two bytes) reuses segment `0`, and the workers serve
every write. -/
def reuseTrace : List Label :=
  [.push 0 ⟨0, 0, 5, 1⟩ 1, .pushSegment 0 [5], .push 0 ⟨0, 0, 10, 1⟩ 1, .pushSegment 0 [10],
   .popTop 0 [1], .removeReadBundleFromDisk 0 true, .push 0 ⟨0, 0, 10, 1⟩ 2, .pushSegment 0 [10, 7],
   .diskWorker 0, .diskWorker 0, .diskWorker 0, .diskWorker 1]

theorem reuseTrace_closed :
    ∃ s, ReachableUnder smallConfig (restartable firstByteDecode) s ∧ s.Closed smallConfig ∧
      s.destMap.items.length = 2 := by
  obtain ⟨s, hs, hp⟩ := reachableUnder_of_runTrace smallConfig (restartable firstByteDecode)
    (freshStore_initial smallConfig 1 1) reuseTrace
    (fun s => decide (s.Closed smallConfig ∧ s.destMap.items.length = 2)) (by decide)
  exact ⟨s, hs, of_decide_eq_true hp⟩

/-! ### Restart -/

section restart

variable {cfg : StorageConfig} {decode : List UInt8 → Option Bpv6PrimaryBlock} {s : StoreState}

/-- **Restart durability.**  After a run that keeps one chain per session and stores each
bundle's primary block first, closed cleanly, `RestoreFromDisk` on the store files succeeds and
rebuilds the allocated segments, each list of the catalog up to order, and counters that count
the catalog's chains, their bytes and their segments. -/
theorem restore_recovers_catalog (hpre : PrefixDecoder decode)
    (hs : ReachableUnder cfg (restartable decode) s) (hc : s.Closed cfg) :
    ∃ st, restoreFromDisk cfg decode (fun d => (s.disks d).file) = some st ∧
      st.memoryManager.allocated = s.memoryManager.allocated ∧
      (∀ d p e, st.destMap.bucket d p e ~ s.destMap.bucket d p e) ∧
      st.totals = ⟨s.destMap.items.length, (s.destMap.items.map (·.2.1)).sum,
        (s.destMap.items.map (·.2.2.length)).sum⟩ := by
  obtain ⟨hw, hR⟩ := restorable_of_closed hpre hs hc
  have hperm := hR.headsBelow_perm
  refine ⟨_, restoreFromDisk_eq hR, Finset.ext fun x => ?_, fun d p e => ?_, ?_⟩
  · rw [(durable_of_reachable hpre hs).1.mem_allocated_of_closed hc x, ← (hperm.flatMap_right _).mem_iff]
    simp [rebuilt]
  · exact (hR.bucket_perm d p e).trans (.of_eq (DestinationMap.bucket_eq_filter_items ⟨d, p, e⟩).symm)
  · simp only [rebuilt, hperm.length_eq, (hperm.map _).sum_eq]

theorem restore_recovers_catalog_after_reuse :
    ∃ s, ReachableUnder smallConfig (restartable firstByteDecode) s ∧ s.Closed smallConfig ∧
      s.destMap.items.length = 2 ∧
      ∃ st, restoreFromDisk smallConfig firstByteDecode (fun d => (s.disks d).file) = some st ∧
        st.memoryManager.allocated = s.memoryManager.allocated ∧
        (∀ d p e, st.destMap.bucket d p e ~ s.destMap.bucket d p e) ∧
        st.totals = ⟨s.destMap.items.length, (s.destMap.items.map (·.2.1)).sum,
          (s.destMap.items.map (·.2.2.length)).sum⟩ := by
  obtain ⟨s, hs, hc, hlen⟩ := reuseTrace_closed
  exact ⟨s, hs, hc, hlen, restore_recovers_catalog prefixDecoder_firstByteDecode hs hc⟩

/-- Bundle `X` (key `5`, segment `0`) and bundle `A` (key `10`, segment `1`) are stored; read
session `0` pops `X`, then pops again and takes `A`, and removes `A`. -/
def doublePopTrace : List Label :=
  [.push 0 ⟨0, 0, 5, 1⟩ 1, .pushSegment 0 [5], .push 0 ⟨0, 0, 10, 1⟩ 1, .pushSegment 0 [10],
   .diskWorker 0, .diskWorker 1, .popTop 0 [1], .popTop 0 [1], .removeReadBundleFromDisk 0 true, .diskWorker 1]

/-- Starting a session again while it holds a chain breaks the restart.  A second `Push` on a
write session whose chain is not yet written drops that chain: its segment `0` stays allocated
and is never written, so the restore, which finds no record at segment `0`, rebuilds nothing of
the bundle stored at segment `1`.  A second `PopTop` on a read session that holds custody drops
the chain it held (`doublePopTrace`): `X` stays allocated and stored on segment `0` with no owner,
so the restore files `X` in the catalog, which was empty at the close. -/
theorem reused_session_breaks_restart :
    (∃ s, ReachableUnder smallConfig (fun s l => sessionRules s l && headDecodes firstByteDecode s l) s ∧
      s.Closed smallConfig ∧ s.destMap.bucket 1 0 10 = [(1, [1])] ∧ s.memoryManager.allocated = {0, 1} ∧
      (restoreFromDisk smallConfig firstByteDecode fun d => (s.disks d).file).map
        (fun st => (st.memoryManager.allocated, st.destMap.bucket 1 0 10)) = some (∅, [])) ∧
    ∃ s, ReachableUnder smallConfig (fun s l => sessionRules s l && headDecodes firstByteDecode s l) s ∧
      s.Closed smallConfig ∧ s.destMap.items = [] ∧ s.memoryManager.allocated = {0} ∧
      (restoreFromDisk smallConfig firstByteDecode fun d => (s.disks d).file).map
        (fun st => (st.memoryManager.allocated, st.destMap.bucket 1 0 5)) = some ({0}, [(1, [0])]) := by
  obtain ⟨s, hs, hp⟩ := reachableUnder_of_runTrace smallConfig
    (fun s l => sessionRules s l && headDecodes firstByteDecode s l) (freshStore_initial smallConfig 1 1)
    [.push 0 ⟨0, 0, 5, 1⟩ 1, .push 0 ⟨0, 0, 10, 1⟩ 1, .pushSegment 0 [10], .diskWorker 1]
    (fun s => decide (s.Closed smallConfig ∧ s.destMap.bucket 1 0 10 = [(1, [1])] ∧
      s.memoryManager.allocated = {0, 1} ∧
      (restoreFromDisk smallConfig firstByteDecode fun d => (s.disks d).file).map
        (fun st => (st.memoryManager.allocated, st.destMap.bucket 1 0 10)) = some (∅, [])))
    (by decide)
  obtain ⟨s', hs', hp'⟩ := reachableUnder_of_runTrace smallConfig
    (fun s l => sessionRules s l && headDecodes firstByteDecode s l) (freshStore_initial smallConfig 1 1)
    doublePopTrace
    (fun s => decide (s.Closed smallConfig ∧ s.destMap.items = [] ∧ s.memoryManager.allocated = {0} ∧
      (restoreFromDisk smallConfig firstByteDecode fun d => (s.disks d).file).map
        (fun st => (st.memoryManager.allocated, st.destMap.bucket 1 0 5)) = some ({0}, [(1, [0])])))
    (by decide)
  exact ⟨⟨s, hs, of_decide_eq_true hp⟩, s', hs', of_decide_eq_true hp'⟩

/-- **Restart order.**  The restore rebuilds each list of the catalog with the same chains,
ordered by decreasing head segment ID. -/
theorem restore_orders_by_head (hpre : PrefixDecoder decode)
    (hs : ReachableUnder cfg (restartable decode) s) (hc : s.Closed cfg) :
    ∃ st, restoreFromDisk cfg decode (fun d => (s.disks d).file) = some st ∧
      ∀ d p e, st.destMap.bucket d p e ~ s.destMap.bucket d p e ∧
        (st.destMap.bucket d p e).Pairwise fun c c' => c'.2.headD 0 < c.2.headD 0 := by
  obtain ⟨hw, hR⟩ := restorable_of_closed hpre hs hc
  refine ⟨_, restoreFromDisk_eq hR, fun d p e => ⟨?_, ?_⟩⟩
  · exact (hR.bucket_perm d p e).trans (.of_eq (DestinationMap.bucket_eq_filter_items ⟨d, p, e⟩).symm)
  · rw [bucket_rebuilt]
    exact List.pairwise_reverse.mpr (List.pairwise_map.mpr ((headsBelow_sorted _ _).filter _))

theorem restore_orders_by_head_after_reuse :
    ∃ s, ReachableUnder smallConfig (restartable firstByteDecode) s ∧ s.Closed smallConfig ∧
      s.destMap.items.length = 2 ∧
      ∃ st, restoreFromDisk smallConfig firstByteDecode (fun d => (s.disks d).file) = some st ∧
        ∀ d p e, st.destMap.bucket d p e ~ s.destMap.bucket d p e ∧
          (st.destMap.bucket d p e).Pairwise fun c c' => c'.2.headD 0 < c.2.headD 0 := by
  obtain ⟨s, hs, hc, hlen⟩ := reuseTrace_closed
  exact ⟨s, hs, hc, hlen, restore_orders_by_head prefixDecoder_firstByteDecode hs hc⟩

/-- On the run `reuseTrace`, `PopTop` returns `B` (2 bytes) first before the close: it was
pushed last.  The restore inserts chains in the order of their head segments, `B` (segment `0`)
first, so `PopTop` on the restored store returns `A` (1 byte) first. -/
theorem restart_reorders_equal_keys :
    ∃ s, ReachableUnder smallConfig (restartable firstByteDecode) s ∧ s.Closed smallConfig ∧
      (popTop s 0 [1]).map (·.1) = some 2 ∧
      ((restoreFromDisk smallConfig firstByteDecode fun d => (s.disks d).file).bind fun st =>
        (popTop (st.toStore smallConfig (fun d => (s.disks d).file) 1 1) 0 [1]).map (·.1)) = some 1 := by
  obtain ⟨s, hs, hp⟩ := reachableUnder_of_runTrace smallConfig (restartable firstByteDecode)
    (freshStore_initial smallConfig 1 1) reuseTrace
    (fun s => decide (s.Closed smallConfig ∧ (popTop s 0 [1]).map (·.1) = some 2 ∧
      ((restoreFromDisk smallConfig firstByteDecode fun d => (s.disks d).file).bind fun st =>
        (popTop (st.toStore smallConfig (fun d => (s.disks d).file) 1 1) 0 [1]).map (·.1)) = some 1))
    (by decide)
  exact ⟨s, hs, of_decide_eq_true hp⟩

end restart

/-! ### Files the store did not write

`RestoreFromDisk` scans potential head segments until one lies past the end of its file, and
follows `nextSegmentId` wherever it points; it checks neither against `M_MAX_SEGMENTS`.  Store
files longer than `M_MAX_SEGMENTS / M_NUM_STORAGE_DISKS` records make it allocate segment IDs
that the memory manager does not have, and file them in the catalog. -/

/-- Store files of `smallConfig`'s two disks: records that are not heads at the segment IDs `0`
to `7`, all of `M_MAX_SEGMENTS`, and at segment `8` the head of a one-byte bundle. -/
def oversizedStoreFiles : Nat → List Segment
  | 0 => List.replicate 4 ⟨uint64Max, uint32Max, [0, 0, 0, 0]⟩ ++ [⟨1, uint32Max, [7, 0, 0, 0]⟩]
  | _ => List.replicate 4 ⟨uint64Max, uint32Max, [0, 0, 0, 0]⟩

theorem restore_allocates_past_max_segments :
    ∃ st, restoreFromDisk smallConfig firstByteDecode oversizedStoreFiles = some st ∧
      smallConfig.maxSegments ∈ st.memoryManager.allocated ∧
      st.destMap.items.map (·.2) = [(1, [smallConfig.maxSegments])] :=
  ⟨_, rfl, by decide, rfl⟩

/-! ### Runs after a restore -/

section restored

variable {cfg : StorageConfig} {files : Nat → List Segment}

theorem heldChains_toStore (st : RestoreState) (nw nr : Nat) :
    (st.toStore cfg files nw nr).heldChains = st.destMap.items.map (·.2) := by
  simp [StoreState.heldChains, RestoreState.toStore, freshStore, SessionWriteToDisk.held,
    SessionReadFromDisk.held, SessionWriteToDisk.isOpen, SessionWriteToDisk.fresh, SessionReadFromDisk.fresh]

theorem Ownership.of_restore {st : RestoreState} (hwf : st.WellFormed cfg) (hex : st.AllocatedExactly)
    (nw nr : Nat) : Ownership cfg.perSegmentSize (st.toStore cfg files nw nr) := by
  have hheld : (st.toStore cfg files nw nr).held = (st.destMap.items.map (·.2) : List ChainInfo) := by
    rw [StoreState.held, heldChains_toStore]
  refine ⟨?_, fun x => ?_, fun c hc => ?_⟩
  · rw [hheld, Multiset.coe_bind, Multiset.coe_nodup, List.flatMap_map]
    exact hwf.1
  · rw [hheld]
    simp only [Multiset.mem_coe, List.mem_map, exists_exists_and_eq_and]
    exact hex x
  · obtain ⟨kc, hkc, rfl⟩ := List.mem_map.mp (hheld ▸ hc)
    obtain ⟨hpos, hlen, -⟩ := hwf.2 kc hkc
    exact ⟨pos_of_totalSegmentsRequired_pos (hlen ▸ hpos), hlen⟩

/-- **A restart keeps segment ownership.**  Whatever the store files hold and whatever the
decoder reads from them, when `RestoreFromDisk` returns true, the store the constructor leaves
with `nw` write and `nr` read sessions has `Ownership`, and so has every state a run from it
reaches when no session is started again while it holds a chain. -/
theorem restored_run_ownership {decode : List UInt8 → Option Bpv6PrimaryBlock} {st : RestoreState}
    {nw nr : Nat} {s : StoreState} (h : restoreFromDisk cfg decode files = some st)
    (hrun : Run cfg oneChainPerSession (st.toStore cfg files nw nr) s) : Ownership cfg.perSegmentSize s :=
  hrun.invariant (fun _ _ _ hI hp hs => hI.step hp hs)
    (Ownership.of_restore (restoreFromDisk_wellFormed cfg decode files h)
      (restoreFromDisk_allocatedExactly cfg decode files h) nw nr)

/-- The store rebuilt from `oversizedStoreFiles` pops its one bundle; the run keeps `Ownership`
although the chain's segment lies past `M_MAX_SEGMENTS`. -/
theorem restored_run_ownership_oversized :
    ∃ st s, restoreFromDisk smallConfig firstByteDecode oversizedStoreFiles = some st ∧
      Run smallConfig oneChainPerSession (st.toStore smallConfig oversizedStoreFiles 1 1) s ∧
      s.readSessions[0]?.map (·.holdsCustody) = some true ∧ Ownership smallConfig.perSegmentSize s := by
  obtain ⟨st, s, hst, hrun, hc⟩ : ∃ st s, restoreFromDisk smallConfig firstByteDecode oversizedStoreFiles = some st ∧
      Run smallConfig oneChainPerSession (st.toStore smallConfig oversizedStoreFiles 1 1) s ∧
      s.readSessions[0]?.map (·.holdsCustody) = some true :=
    ⟨_, _, rfl, .cons (.popTop 0 [1]) rfl rfl (.refl _), by decide⟩
  exact ⟨st, s, hst, hrun, hc, restored_run_ownership hst hrun⟩

end restored

end Hdtn.Storage
