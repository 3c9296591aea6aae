import Hdtn.Storage.Ownership

/-! # What the store files hold

The records a run leaves in the store files, once the disk workers have served every queued
write (`StoreState.record`, read from the effective files of `applyWrites`).  Reads and the
workers leave these records as they are; `PushSegment` and `RemoveReadBundleFromDisk` each write
one.  `Durable` is what a restart relies on:

* every written segment of a held chain has the header `PushSegment` gave it, and a head's
  payload decodes to the chain's catalog key;
* a free segment whose record exists carries `bundleSizeBytes = UINT64_MAX`;
* the segments whose record exists, with those allocated and not yet written, are the IDs below
  some bound (no gap), all below `M_MAX_SEGMENTS`.

It holds along every run of `restartable` (`Durable.of_reachable`). -/

namespace Hdtn.Storage

open scoped List

/-! ### Written chains -/

namespace StoredChain

/-- The segments of the chain still to write. -/
def unwritten (e : StoredChain) : List Nat := e.chain.2.drop e.written

/-- The written segments of the chain hold the headers `PushSegment` gave them, and the head a
payload that decodes to the chain's key. -/
def Stored (decode : List UInt8 → Option Bpv6PrimaryBlock) (record : Nat → Option Segment)
    (e : StoredChain) : Prop :=
  ∀ k < e.written, ∃ seg, record (e.chain.2.getD k 0) = some seg ∧ RecordOk e.chain k seg ∧
    (k = 0 → e.KeyDecodes decode seg)

end StoredChain

/-- Segment `x` has a record in the effective files, or belongs to a chain and is still to be
written. -/
def StoreState.Live (cfg : StorageConfig) (s : StoreState) (x : Nat) : Prop :=
  s.record cfg x ≠ none ∨ ∃ e ∈ s.storedChains, x ∈ e.unwritten

/-- **What the store files hold**, once the queued writes are served. -/
structure Durable (cfg : StorageConfig) (decode : List UInt8 → Option Bpv6PrimaryBlock)
    (s : StoreState) : Prop where
  /-- Every held chain's written segments hold their headers; a head, the chain's key. -/
  stored : ∀ e ∈ s.storedChains, e.Stored decode (s.record cfg)
  /-- A free segment with a record is marked as no chain's head. -/
  free_marked : ∀ x seg, s.record cfg x = some seg → x ∉ s.memoryManager.allocated →
    seg.bundleSizeBytes = uint64Max
  /-- The live segments have no gap. -/
  live_closed : ∀ x y, y ≤ x → s.Live cfg x → s.Live cfg y
  live_lt : ∀ x, s.Live cfg x → x < cfg.maxSegments

variable {cfg : StorageConfig} {decode : List UInt8 → Option Bpv6PrimaryBlock} {s s' : StoreState}

theorem written_le_of_mem {e : StoredChain} (he : e ∈ s.storedChains) : e.written ≤ e.chain.2.length := by
  simp only [StoreState.storedChains, List.mem_append, List.mem_map, List.mem_flatMap] at he
  rcases he with (⟨item, -, rfl⟩ | ⟨ws, -, he⟩) | ⟨rs, -, he⟩
  · exact le_rfl
  · unfold SessionWriteToDisk.stored at he
    split_ifs at he with ho
    · simp only [SessionWriteToDisk.isOpen, Bool.and_eq_true, decide_eq_true_eq] at ho
      simp only [List.mem_singleton] at he
      subst he
      exact ho.2.le
    · simp at he
  · unfold SessionReadFromDisk.stored at he
    split_ifs at he
    · simp only [List.mem_singleton] at he
      subst he
      exact le_rfl
    · simp at he

theorem getD_mem_of_lt {l : List Nat} {k : Nat} (hk : k < l.length) : l.getD k 0 ∈ l := by
  rw [List.getD_eq_getElem?_getD, List.getElem?_eq_getElem hk, Option.getD_some]
  exact List.getElem_mem hk

/-! ### Disjoint chains -/

section ownership

variable {P : Nat}

theorem Ownership.nodup_of_mem (hI : Ownership P s) {e : StoredChain} (he : e ∈ s.storedChains) :
    e.chain.2.Nodup := by
  have := (Multiset.nodup_bind.mp hI.nodup).1 e.chain
    (by rw [held_eq_map]; exact Multiset.mem_map_of_mem _ (Multiset.mem_coe.mpr he))
  exact Multiset.coe_nodup.mp this

theorem Ownership.not_mem_of_cons (hI : Ownership P s) {e : StoredChain} {m : Multiset StoredChain}
    (hs : (s.storedChains : Multiset StoredChain) = e ::ₘ m) {f : StoredChain} (hf : f ∈ m) {x : Nat}
    (hx : x ∈ e.chain.2) : x ∉ f.chain.2 := fun hxf => by
  have hnd := hI.nodup
  rw [held_eq_map, hs, Multiset.map_cons, Multiset.cons_bind, Multiset.nodup_add] at hnd
  exact Multiset.disjoint_left.mp hnd.2.2 (Multiset.mem_coe.mpr hx)
    (Multiset.mem_bind.mpr ⟨f.chain, Multiset.mem_map_of_mem _ hf, Multiset.mem_coe.mpr hxf⟩)

theorem Ownership.allocated_of_mem (hI : Ownership P s) {e : StoredChain} (he : e ∈ s.storedChains)
    {x : Nat} (hx : x ∈ e.chain.2) : x ∈ s.memoryManager.allocated :=
  (hI.allocated x).mpr ⟨e.chain, by rw [held_eq_map]; exact Multiset.mem_map_of_mem _ (Multiset.mem_coe.mpr he), hx⟩

theorem Ownership.mem_of_allocated (hI : Ownership P s) {x : Nat} (hx : x ∈ s.memoryManager.allocated) :
    ∃ e ∈ s.storedChains, x ∈ e.chain.2 := by
  obtain ⟨c, hc, hxc⟩ := (hI.allocated x).mp hx
  rw [held_eq_map, Multiset.mem_map] at hc
  obtain ⟨e, he, rfl⟩ := hc
  exact ⟨e, Multiset.mem_coe.mp he, hxc⟩

end ownership

/-! ### Each step -/

section steps

variable {P : Nat}

theorem Durable.live_of_allocated (hI : Ownership P s) (hD : Durable cfg decode s) {x : Nat}
    (hx : x ∈ s.memoryManager.allocated) : s.Live cfg x := by
  obtain ⟨e, he, hxe⟩ := hI.mem_of_allocated hx
  obtain ⟨k, hk, rfl⟩ := List.mem_iff_getElem.mp hxe
  by_cases hkw : k < e.written
  · obtain ⟨seg, hseg, -⟩ := hD.stored e he k hkw
    rw [List.getD_eq_getElem?_getD, List.getElem?_eq_getElem hk, Option.getD_some] at hseg
    exact .inl (by rw [hseg]; exact Option.some_ne_none _)
  · refine .inr ⟨e, he, List.mem_drop_iff_getElem.mpr ⟨k - e.written, by omega, ?_⟩⟩
    congr 1
    omega

theorem WritesRecord.eq_of_ne {record record' : Nat → Option Segment} {y : Nat} {seg : Segment}
    (h : WritesRecord cfg record record' y seg) {x : Nat} (hxy : x ≠ y) (hx : record x ≠ none) :
    record' x = record x :=
  (h.2 x hxy).resolve_right fun h' => hx h'.1

theorem StoredChain.Stored.of_eq {e : StoredChain} {record record' : Nat → Option Segment}
    (h : e.Stored decode record) (heq : ∀ k < e.written, record' (e.chain.2.getD k 0) = record (e.chain.2.getD k 0)) :
    e.Stored decode record' := fun k hk => by
  rw [heq k hk]
  exact h k hk

theorem StoredChain.Stored.of_writesRecord {e : StoredChain} {record record' : Nat → Option Segment}
    {y : Nat} {seg : Segment} (h : e.Stored decode record) (hw : WritesRecord cfg record record' y seg)
    (hy : ∀ k < e.written, e.chain.2.getD k 0 ≠ y) : e.Stored decode record' :=
  h.of_eq fun k hk => hw.eq_of_ne (hy k hk) (by
    obtain ⟨seg, hseg, -⟩ := h k hk
    rw [hseg]
    exact Option.some_ne_none _)

theorem mem_drop_of_mem_drop_succ {l : List Nat} {n x : Nat} (h : x ∈ l.drop (n + 1)) : x ∈ l.drop n := by
  rw [← List.drop_drop] at h
  exact List.mem_of_mem_drop h

theorem mem_drop_iff_eq_or {l : List Nat} {n x : Nat} (hn : n < l.length) :
    x ∈ l.drop n ↔ x = l.getD n 0 ∨ x ∈ l.drop (n + 1) := by
  rw [List.drop_eq_getElem_cons hn, List.mem_cons, List.getD_eq_getElem?_getD, List.getElem?_eq_getElem hn,
    Option.getD_some]

theorem Durable.of_same (hD : Durable cfg decode s)
    (hst : (s'.storedChains : Multiset StoredChain) = s.storedChains)
    (hm : s'.memoryManager.allocated = s.memoryManager.allocated) (hrec : s'.record cfg = s.record cfg) :
    Durable cfg decode s' := by
  have hmem : ∀ e, e ∈ s'.storedChains ↔ e ∈ s.storedChains := fun e => by
    rw [← Multiset.mem_coe, hst, Multiset.mem_coe]
  have hlive : s'.Live cfg = s.Live cfg := by
    funext x
    simp only [StoreState.Live, hrec, hmem]
  exact ⟨fun e he => hrec ▸ hD.stored e ((hmem e).mp he),
    fun x seg hx hxa => hD.free_marked x seg (hrec ▸ hx) (hm ▸ hxa), hlive ▸ hD.live_closed,
    hlive ▸ hD.live_lt⟩

theorem Durable.of_alloc (hI : Ownership P s) (hD : Durable cfg decode s) {e : StoredChain}
    (hst : (s'.storedChains : Multiset StoredChain) = e ::ₘ s.storedChains) (h0 : e.written = 0)
    (hfresh : ∀ x ∈ e.chain.2, x < cfg.maxSegments ∧ x ∉ s.memoryManager.allocated)
    (hsmall : ∀ x ∈ e.chain.2, ∀ y < x, y ∈ s.memoryManager.allocated ∨ y ∈ e.chain.2)
    (hm : s'.memoryManager.allocated = s.memoryManager.allocated ∪ e.chain.2.toFinset)
    (hrec : s'.record cfg = s.record cfg) : Durable cfg decode s' := by
  have hmem : ∀ f, f ∈ s'.storedChains ↔ f = e ∨ f ∈ s.storedChains := fun f => by
    rw [← Multiset.mem_coe, hst, Multiset.mem_cons, Multiset.mem_coe]
  have hlive : ∀ x, s'.Live cfg x ↔ s.Live cfg x ∨ x ∈ e.chain.2 := fun x => by
    simp only [StoreState.Live, hrec]
    constructor
    · rintro (hx | ⟨f, hf, hxf⟩)
      · exact .inl (.inl hx)
      rcases (hmem f).mp hf with rfl | hf
      · exact .inr (by simpa [StoredChain.unwritten, h0] using hxf)
      · exact .inl (.inr ⟨f, hf, hxf⟩)
    · rintro ((hx | ⟨f, hf, hxf⟩) | hx)
      · exact .inl hx
      · exact .inr ⟨f, (hmem f).mpr (.inr hf), hxf⟩
      · exact .inr ⟨e, (hmem e).mpr (.inl rfl), by simpa [StoredChain.unwritten, h0] using hx⟩
  refine ⟨fun f hf => ?_, fun x seg hx hxa => ?_, fun x y hyx hx => ?_, fun x hx => ?_⟩
  · rcases (hmem f).mp hf with rfl | hf
    · exact fun k hk => absurd hk (h0 ▸ Nat.not_lt_zero k)
    · exact hrec ▸ hD.stored f hf
  · rw [hm, Finset.mem_union, not_or] at hxa
    exact hD.free_marked x seg (hrec ▸ hx) hxa.1
  · rcases (hlive x).mp hx with hx | hx
    · exact (hlive y).mpr (.inl (hD.live_closed x y hyx hx))
    rcases Nat.lt_or_eq_of_le hyx with hlt | rfl
    · rcases hsmall x hx y hlt with hy | hy
      · exact (hlive y).mpr (.inl (hD.live_of_allocated hI hy))
      · exact (hlive y).mpr (.inr hy)
    · exact (hlive y).mpr (.inr hx)
  · rcases (hlive x).mp hx with hx | hx
    · exact hD.live_lt x hx
    · exact (hfresh x hx).1

theorem Durable.of_write (hpre : PrefixDecoder decode) (hI : Ownership P s) (hD : Durable cfg decode s)
    {l : Label} (hh : headDecodes decode s l = true) {e : StoredChain} {m : Multiset StoredChain}
    {seg : Segment} (hs : (s.storedChains : Multiset StoredChain) = e ::ₘ m)
    (hs' : (s'.storedChains : Multiset StoredChain) = { e with written := e.written + 1 } ::ₘ m)
    (hlt : e.written < e.chain.2.length) (hok : RecordOk e.chain e.written seg)
    (hkey : ∀ decode, PrefixDecoder decode → headDecodes decode s l = true → e.written = 0 →
      e.KeyDecodes decode seg)
    (hw : WritesRecord cfg (s.record cfg) (s'.record cfg) (e.chain.2.getD e.written 0) seg)
    (hm : s'.memoryManager.allocated = s.memoryManager.allocated) : Durable cfg decode s' := by
  set y := e.chain.2.getD e.written 0 with hy
  have he : e ∈ s.storedChains := by rw [← Multiset.mem_coe, hs]; exact Multiset.mem_cons_self _ _
  have hmemm : ∀ f ∈ m, f ∈ s.storedChains := fun f hf => by
    rw [← Multiset.mem_coe, hs]; exact Multiset.mem_cons_of_mem hf
  have hmem' : ∀ f, f ∈ s'.storedChains ↔ f = { e with written := e.written + 1 } ∨ f ∈ m := fun f => by
    rw [← Multiset.mem_coe, hs', Multiset.mem_cons]
  have hye : y ∈ e.chain.2 := getD_mem_of_lt hlt
  have hyw : y ∈ e.unwritten := (mem_drop_iff_eq_or hlt).mpr (.inl rfl)
  have hya : y ∈ s.memoryManager.allocated := hI.allocated_of_mem he hye
  have hyLive : s.Live cfg y := .inr ⟨e, he, hyw⟩
  have hlive : ∀ x, s'.Live cfg x ↔ s.Live cfg x := fun x => by
    constructor
    · rintro (hx | ⟨f, hf, hxf⟩)
      · by_cases hxy : x = y
        · exact hxy ▸ hyLive
        rcases hw.2 x hxy with hx' | ⟨-, -, hxlt⟩
        · exact .inl (hx' ▸ hx)
        · exact hD.live_closed y x hxlt.le hyLive
      rcases (hmem' f).mp hf with rfl | hf
      · exact .inr ⟨e, he, mem_drop_of_mem_drop_succ hxf⟩
      · exact .inr ⟨f, hmemm f hf, hxf⟩
    · rintro (hx | ⟨f, hf, hxf⟩)
      · by_cases hxy : x = y
        · exact .inl (by rw [hxy, hw.1]; exact Option.some_ne_none _)
        · exact .inl (by rw [hw.eq_of_ne hxy hx]; exact hx)
      rw [← Multiset.mem_coe, hs, Multiset.mem_cons] at hf
      rcases hf with rfl | hf
      · rcases (mem_drop_iff_eq_or hlt).mp hxf with rfl | hxf
        · exact .inl (by rw [hw.1]; exact Option.some_ne_none _)
        · exact .inr ⟨_, (hmem' _).mpr (.inl rfl), hxf⟩
      · exact .inr ⟨f, (hmem' f).mpr (.inr hf), hxf⟩
  refine ⟨fun f hf => ?_, fun x seg' hx hxa => ?_, fun x z hzx hx => ?_, fun x hx => ?_⟩
  · rcases (hmem' f).mp hf with rfl | hf
    · intro k hk
      rcases Nat.lt_or_eq_of_le (Nat.le_of_lt_succ hk) with hk | rfl
      · have hne : e.chain.2.getD k 0 ≠ y := fun heq => by
          rw [hy, List.getD_eq_getElem?_getD, List.getD_eq_getElem?_getD,
            List.getElem?_eq_getElem (by omega), List.getElem?_eq_getElem hlt, Option.getD_some,
            Option.getD_some] at heq
          exact absurd ((hI.nodup_of_mem he).getElem_inj_iff.mp heq) (by omega)
        obtain ⟨seg'', hseg, hok', hkey'⟩ := hD.stored e he k hk
        exact ⟨seg'', by rw [hw.eq_of_ne hne (by rw [hseg]; exact Option.some_ne_none _), hseg], hok', hkey'⟩
      · exact ⟨seg, hw.1, hok, hkey decode hpre hh⟩
    · exact (hD.stored f (hmemm f hf)).of_writesRecord hw fun k hk heq =>
        hI.not_mem_of_cons hs hf hye (heq ▸ getD_mem_of_lt (by
          have := written_le_of_mem (hmemm f hf); omega))
  · rw [hm] at hxa
    by_cases hxy : x = y
    · exact absurd (hxy ▸ hya) hxa
    rcases hw.2 x hxy with hx' | ⟨hnone, -, hxlt⟩
    · exact hD.free_marked x seg' (hx' ▸ hx) hxa
    · rcases hD.live_closed y x hxlt.le hyLive with hx'' | ⟨f, hf, hxf⟩
      · exact absurd hnone hx''
      · exact absurd (hI.allocated_of_mem hf (List.mem_of_mem_drop hxf)) hxa
  · exact (hlive z).mpr (hD.live_closed x z hzx ((hlive x).mp hx))
  · exact hD.live_lt x ((hlive x).mp hx)

theorem Durable.of_free (hI : Ownership cfg.perSegmentSize s) (hD : Durable cfg decode s)
    {e : StoredChain} {seg : Segment} (hs : (s.storedChains : Multiset StoredChain) = e ::ₘ s'.storedChains)
    (hwr : e.written = e.chain.2.length)
    (hmm : s'.memoryManager = (s.memoryManager.freeSegments e.chain.2).2)
    (hmark : seg.bundleSizeBytes = uint64Max)
    (hw : WritesRecord cfg (s.record cfg) (s'.record cfg) (e.chain.2.getD 0 0) seg) :
    Durable cfg decode s' := by
  set y := e.chain.2.getD 0 0 with hy
  have he : e ∈ s.storedChains := by rw [← Multiset.mem_coe, hs]; exact Multiset.mem_cons_self _ _
  have hmem : ∀ f ∈ s'.storedChains, f ∈ s.storedChains := fun f hf => by
    rw [← Multiset.mem_coe, hs]; exact Multiset.mem_cons_of_mem (Multiset.mem_coe.mpr hf)
  have hlen : 0 < e.chain.2.length := by
    obtain ⟨hpos, hl⟩ := hI.chainLength e.chain
      (by rw [held_eq_map]; exact Multiset.mem_map_of_mem _ (Multiset.mem_coe.mpr he))
    rw [hl]
    exact totalSegmentsRequired_pos hpos
  have hye : y ∈ e.chain.2 := getD_mem_of_lt hlen
  have hyp : s.record cfg y ≠ none := by
    obtain ⟨segy, hsegy, -⟩ := hD.stored e he 0 (hwr ▸ hlen)
    exact fun h => Option.some_ne_none segy (hsegy.symm.trans h)
  have hrec : ∀ x ≠ y, s'.record cfg x = s.record cfg x := fun x hxy =>
    (hw.2 x hxy).resolve_right fun ⟨hnone, hd, hxlt⟩ => record_ne_none_of_lt hd hxlt hyp hnone
  have hnd := hI.nodup_of_mem he
  rw [MemoryManager.freeSegments_of_subset hnd fun x hx => hI.allocated_of_mem he hx] at hmm
  have hlive : ∀ x, s'.Live cfg x ↔ s.Live cfg x := fun x => by
    have hpres : s'.record cfg x ≠ none ↔ s.record cfg x ≠ none := by
      by_cases hxy : x = y
      · rw [hxy, hw.1]
        exact iff_of_true (Option.some_ne_none _) hyp
      · rw [hrec x hxy]
    have hunw : (∃ f ∈ s'.storedChains, x ∈ f.unwritten) ↔ ∃ f ∈ s.storedChains, x ∈ f.unwritten := by
      constructor
      · rintro ⟨f, hf, hxf⟩
        exact ⟨f, hmem f hf, hxf⟩
      · rintro ⟨f, hf, hxf⟩
        rw [← Multiset.mem_coe, hs, Multiset.mem_cons] at hf
        rcases hf with rfl | hf
        · simp [StoredChain.unwritten, hwr] at hxf
        · exact ⟨f, Multiset.mem_coe.mp hf, hxf⟩
    exact or_congr hpres hunw
  refine ⟨fun f hf => ?_, fun x seg' hx hxa => ?_, fun x z hzx hx => ?_, fun x hx => ?_⟩
  · exact (hD.stored f (hmem f hf)).of_eq fun k hk => hrec _ fun heq =>
      hI.not_mem_of_cons hs (Multiset.mem_coe.mpr hf) hye
        (heq ▸ getD_mem_of_lt (by have := written_le_of_mem (hmem f hf); omega))
  · by_cases hxy : x = y
    · rw [hxy, hw.1] at hx
      cases hx
      exact hmark
    rw [hrec x hxy] at hx
    rw [hmm, Finset.mem_sdiff, not_and, not_not, List.mem_toFinset] at hxa
    by_cases hxa' : x ∈ s.memoryManager.allocated
    · obtain ⟨k, hk, rfl⟩ := List.mem_iff_getElem.mp (hxa hxa')
      have hk0 : k ≠ 0 := fun h => hxy (by
        subst h
        rw [hy, List.getD_eq_getElem?_getD, List.getElem?_eq_getElem hk, Option.getD_some])
      obtain ⟨seg'', hseg, hok, -⟩ := hD.stored e he k (hwr ▸ hk)
      rw [List.getD_eq_getElem?_getD, List.getElem?_eq_getElem hk, Option.getD_some, hx] at hseg
      cases hseg
      simpa [hk0] using hok.1
    · exact hD.free_marked x seg' hx hxa'
  · exact (hlive z).mpr (hD.live_closed x z hzx ((hlive x).mp hx))
  · exact hD.live_lt x ((hlive x).mp hx)

/-- **Each step keeps `Durable`.** -/
theorem Durable.of_stepEffect (hpre : PrefixDecoder decode) (hI : Ownership cfg.perSegmentSize s)
    (hD : Durable cfg decode s) {l : Label} (hh : headDecodes decode s l = true)
    (h : StepEffect cfg l s s') : Durable cfg decode s' := by
  cases h with
  | same hst hm hrec => exact hD.of_same hst hm hrec
  | alloc e hst h0 _ _ _ hfresh hsmall hm hrec => exact hD.of_alloc hI hst h0 hfresh hsmall hm hrec
  | write e m seg hs hs' hlt hok hkey hw hm => exact hD.of_write hpre hI hh hs hs' hlt hok hkey hw hm
  | free e seg hs hwr hmm hmark hw => exact hD.of_free hI hs hwr hmm hmark hw

end steps

/-! ### Runs -/

theorem Durable.initial (h₀ : s.Initial) : Durable cfg decode s := by
  have hrec : ∀ x, s.record cfg x = none := fun x => by
    simp [StoreState.record, readStored, StoreState.effectiveFile, h₀.file_nil, h₀.ring_nil, readSegment]
  have hlive : ∀ x, ¬ s.Live cfg x := fun x => by
    simp [StoreState.Live, hrec, storedChains_initial h₀]
  exact ⟨fun e he => by simp [storedChains_initial h₀] at he, fun x seg hx => by simp [hrec] at hx,
    fun x _ _ hx => absurd hx (hlive x), fun x hx => absurd hx (hlive x)⟩

/-- **Along every run a restart can rely on, the store files hold what `Durable` says.** -/
theorem durable_of_reachable (hpre : PrefixDecoder decode)
    (h : ReachableUnder cfg (restartable decode) s) :
    Ownership cfg.perSegmentSize s ∧ Durable cfg decode s := by
  obtain ⟨s₀, h₀, hrun⟩ := h
  refine hrun.invariant (fun t t' l (hInv : Ownership cfg.perSegmentSize t ∧ Durable cfg decode t) hp ht => ?_)
    ⟨Ownership.initial h₀, Durable.initial h₀⟩
  simp only [restartable, Bool.and_eq_true] at hp
  have he := stepEffect_of_step hp.1 ht
  exact ⟨hInv.1.of_stepEffect he, hInv.2.of_stepEffect hpre hInv.1 hp.2 he⟩

end Hdtn.Storage

