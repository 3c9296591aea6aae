import Hdtn.Storage.Effect
import Mathlib.Data.Multiset.Bind

/-! # Segment ownership

Every chain of the store has one owner: the catalog, an open write session, or a read session
that holds custody (`StoreState.heldChains`).  `Ownership` says that the chains' segment IDs
are pairwise distinct, that together they are exactly the segments the memory manager has
allocated, and that each chain has the length its size calls for.

It follows from what each step does (`StepEffect`): moving chains between owners and writing
their segments change none of this, `Push` adds a chain of free segments and
`RemoveReadBundleFromDisk` frees one (`Ownership.of_stepEffect`).  By induction over runs it
holds in every reachable state under `oneChainPerSession` (`Ownership.of_reachable`).  Under the
weaker `sessionRules` a second `Push` on an open write session drops its chain while its
segments stay allocated. -/

namespace Hdtn.Storage

open scoped List

/-- The chain a write session holds: its chain, while the session is open. -/
def SessionWriteToDisk.held (ws : SessionWriteToDisk) : List ChainInfo :=
  if ws.isOpen then [ws.chainInfo] else []

/-- The chain a read session holds: its chain, while it holds custody. -/
def SessionReadFromDisk.held (rs : SessionReadFromDisk) : List ChainInfo :=
  if rs.holdsCustody then [rs.chainInfo] else []

/-- The chains of the store by owner: the catalog, the open write sessions, the read sessions
that hold custody. -/
def StoreState.heldChains (s : StoreState) : List ChainInfo :=
  s.destMap.items.map (·.2) ++ s.writeSessions.flatMap (·.held) ++ s.readSessions.flatMap (·.held)

/-- The chains of the store, as a multiset. -/
def StoreState.held (s : StoreState) : Multiset ChainInfo := s.heldChains

variable {cfg : StorageConfig} {s s' : StoreState}

theorem heldChains_eq_map (s : StoreState) : s.heldChains = s.storedChains.map (·.chain) := by
  have hw : ∀ ws : SessionWriteToDisk, ws.held = ws.stored.map (·.chain) := fun ws => by
    unfold SessionWriteToDisk.held SessionWriteToDisk.stored; split <;> rfl
  have hr : ∀ rs : SessionReadFromDisk, rs.held = rs.stored.map (·.chain) := fun rs => by
    unfold SessionReadFromDisk.held SessionReadFromDisk.stored; split <;> rfl
  simp [StoreState.heldChains, StoreState.storedChains, List.map_flatMap, hw, hr, StoredChain.ofItem,
    Function.comp_def]

theorem held_eq_map (s : StoreState) :
    s.held = (s.storedChains : Multiset StoredChain).map (·.chain) := by
  rw [StoreState.held, heldChains_eq_map, Multiset.map_coe]

theorem mem_held_of_mem_items {k : CatalogKey} {c : ChainInfo} (h : (k, c) ∈ s.destMap.items) :
    c ∈ s.held := by
  rw [held_eq_map, Multiset.mem_map]
  exact ⟨StoredChain.ofItem (k, c), Multiset.mem_coe.mpr
    (by simp only [StoreState.storedChains, List.mem_append, List.mem_map]; exact .inl (.inl ⟨_, h, rfl⟩)),
    rfl⟩

/-! ### The invariant -/

/-- **Segment ownership.**  The segment IDs of the store's chains are pairwise distinct and are
exactly the allocated ones, and each chain has `0 < size` and `totalSegmentsRequired` segments. -/
structure Ownership (P : Nat) (s : StoreState) : Prop where
  nodup : (s.held.bind fun c => (c.2 : Multiset Nat)).Nodup
  allocated : ∀ x, x ∈ s.memoryManager.allocated ↔ ∃ c ∈ s.held, x ∈ c.2
  chainLength : ∀ c ∈ s.held, 0 < c.1 ∧ c.2.length = totalSegmentsRequired P c.1

theorem Ownership.of_held_eq {P : Nat} (hI : Ownership P s) (hh : s'.held = s.held)
    (hm : s'.memoryManager.allocated = s.memoryManager.allocated) : Ownership P s' :=
  ⟨hh ▸ hI.nodup, fun x => hh ▸ hm ▸ hI.allocated x, fun c hc => hI.chainLength c (hh ▸ hc)⟩

theorem Ownership.of_stepEffect {l : Label} (hI : Ownership cfg.perSegmentSize s)
    (h : StepEffect cfg l s s') : Ownership cfg.perSegmentSize s' := by
  obtain ⟨hnd, halloc, hlen⟩ := hI
  cases h with
  | same hst hm _ => exact Ownership.of_held_eq ⟨hnd, halloc, hlen⟩ (by rw [held_eq_map, held_eq_map, hst]) hm
  | write e m seg hs hs' _ _ _ _ hm =>
    exact Ownership.of_held_eq ⟨hnd, halloc, hlen⟩ (by simp [held_eq_map, hs, hs']) hm
  | alloc e hst _ hcnd hpos hclen hfresh _ hm _ =>
    have hh : s'.held = e.chain ::ₘ s.held := by rw [held_eq_map, held_eq_map, hst, Multiset.map_cons]
    refine ⟨?_, fun x => ?_, fun c' hc' => ?_⟩
    · rw [hh, Multiset.cons_bind, Multiset.nodup_add]
      refine ⟨Multiset.coe_nodup.mpr hcnd, hnd, Multiset.disjoint_left.mpr fun hx hx' => ?_⟩
      obtain ⟨c', hc', hxc'⟩ := Multiset.mem_bind.mp hx'
      exact (hfresh _ hx).2 ((halloc _).mpr ⟨c', hc', hxc'⟩)
    · rw [hm, hh, Finset.mem_union, halloc, List.mem_toFinset]
      simp only [Multiset.mem_cons, exists_eq_or_imp]
      exact or_comm
    · rw [hh, Multiset.mem_cons] at hc'
      rcases hc' with rfl | hc'
      · exact ⟨hpos, hclen⟩
      · exact hlen c' hc'
  | free e seg hs _ hmm _ _ =>
    have hh : s.held = e.chain ::ₘ s'.held := by rw [held_eq_map, held_eq_map, hs, Multiset.map_cons]
    rw [hh, Multiset.cons_bind, Multiset.nodup_add] at hnd
    obtain ⟨hcnd, hnd', hdisj⟩ := hnd
    -- the chain's segments are distinct and allocated, so freeing them succeeds
    have hsub : ∀ y ∈ e.chain.2, y ∈ s.memoryManager.allocated := fun y hy =>
      (halloc y).mpr ⟨e.chain, hh ▸ Multiset.mem_cons_self _ _, hy⟩
    rw [MemoryManager.freeSegments_of_subset (Multiset.coe_nodup.mp hcnd) hsub] at hmm
    refine ⟨hnd', fun x => ?_, fun c' hc' => hlen c' (hh ▸ Multiset.mem_cons_of_mem hc')⟩
    rw [hmm, Finset.mem_sdiff, halloc, List.mem_toFinset, hh]
    simp only [Multiset.mem_cons, exists_eq_or_imp]
    constructor
    · rintro ⟨hx | hx, hxc⟩
      · exact absurd hx hxc
      · exact hx
    · rintro ⟨c', hc', hxc'⟩
      exact ⟨.inr ⟨c', hc', hxc'⟩, fun hxc => Multiset.disjoint_left.mp hdisj
        (Multiset.mem_coe.mpr hxc) (Multiset.mem_bind.mpr ⟨c', hc', hxc'⟩)⟩

/-! ### Runs -/

theorem Ownership.step {l : Label} (hI : Ownership cfg.perSegmentSize s)
    (hp : oneChainPerSession s l = true) (h : step cfg s l = some s') :
    Ownership cfg.perSegmentSize s' :=
  hI.of_stepEffect (stepEffect_of_step hp h)

theorem storedChains_initial (h₀ : s.Initial) : s.storedChains = [] := by
  simp only [StoreState.storedChains, DestinationMap.items, h₀.destMap_eq, List.flatMap_nil, List.map_nil,
    List.nil_append, List.append_eq_nil, List.flatMap_eq_nil_iff]
  exact ⟨fun ws hws => by simp [SessionWriteToDisk.stored, SessionWriteToDisk.isOpen,
      h₀.writeSessions_fresh ws hws],
    fun rs hrs => by simp [SessionReadFromDisk.stored, h₀.readSessions_fresh rs hrs]⟩

theorem Ownership.initial {P : Nat} (h₀ : s.Initial) : Ownership P s := by
  have hheld : s.held = 0 := by rw [held_eq_map, storedChains_initial h₀]; rfl
  exact ⟨by simp [hheld], fun x => by simp [hheld, h₀.allocated_eq], fun c hc => by simp [hheld] at hc⟩

/-- **Ownership holds in every reachable state.** -/
theorem Ownership.of_reachable (h : Reachable cfg s) : Ownership cfg.perSegmentSize s := by
  obtain ⟨s₀, h₀, hrun⟩ := h
  exact hrun.invariant (fun _ _ _ hI hp hs => hI.step hp hs) (Ownership.initial h₀)

/-- **Segment ownership.**  In every state a fresh store reaches when no session is started
again while it holds a chain, the chains held by the catalog, the open write sessions and the
read sessions with custody are duplicate-free and pairwise disjoint, together they are exactly
the allocated segments, and every chain of the catalog has `0 < size` and `⌈size / P⌉`
segments. -/
theorem reachable_segment_ownership (h : Reachable cfg s) :
    (∀ c ∈ s.heldChains, c.2.Nodup) ∧ s.heldChains.Pairwise (fun c c' => c.2.Disjoint c'.2) ∧
      (∀ x, x ∈ s.memoryManager.allocated ↔ ∃ c ∈ s.heldChains, x ∈ c.2) ∧
      ∀ c ∈ s.destMap.items.map (·.2),
        0 < c.1 ∧ c.2.length = totalSegmentsRequired cfg.perSegmentSize c.1 := by
  obtain ⟨hnd, halloc, hlen⟩ := Ownership.of_reachable h
  have hnd' : (s.heldChains.flatMap (·.2)).Nodup := by
    rw [← Multiset.coe_nodup, ← Multiset.coe_bind]
    exact hnd
  rw [List.nodup_flatMap] at hnd'
  refine ⟨hnd'.1, hnd'.2, fun x => (halloc x).trans (by simp [StoreState.held]), fun c hc => ?_⟩
  exact hlen c (by simp [StoreState.held, StoreState.heldChains, hc])

/-- The primary block of a bulk bundle to node `1` created at `0` with lifetime `10`. -/
def bulkPrimary : Bpv6PrimaryBlock := ⟨0, 0, 10, 1⟩

/-- A one-byte bundle to node `1` and one to node `2`, the second popped by read session `0`, and
a five-byte bundle of two segments of which the first is pushed. -/
def threeOwnersTrace : List Label :=
  [.push 0 bulkPrimary 1, .pushSegment 0 [7], .push 0 ⟨0, 0, 10, 2⟩ 1, .pushSegment 0 [8], .popTop 0 [2],
   .push 0 ⟨0, 0, 20, 1⟩ 5, .pushSegment 0 [1, 2, 3, 4]]

/-- A chain in the catalog, one in read session `0`'s custody and one in write session `0`. -/
def threeOwnersStore : StoreState :=
  (runTrace smallConfig oneChainPerSession (freshStore smallConfig 1 1) threeOwnersTrace).getD
    (freshStore smallConfig 1 1)

theorem runTrace_threeOwnersTrace :
    runTrace smallConfig oneChainPerSession (freshStore smallConfig 1 1) threeOwnersTrace = some threeOwnersStore :=
  rfl

theorem reachable_segment_ownership_threeOwners :
    Reachable smallConfig threeOwnersStore ∧ threeOwnersStore.heldChains = [(1, [0]), (5, [2, 3]), (1, [1])] ∧
      (∀ c ∈ threeOwnersStore.heldChains, c.2.Nodup) ∧
      threeOwnersStore.heldChains.Pairwise (fun c c' => c.2.Disjoint c'.2) ∧
      (∀ x, x ∈ threeOwnersStore.memoryManager.allocated ↔ ∃ c ∈ threeOwnersStore.heldChains, x ∈ c.2) ∧
      ∀ c ∈ threeOwnersStore.destMap.items.map (·.2),
        0 < c.1 ∧ c.2.length = totalSegmentsRequired smallConfig.perSegmentSize c.1 :=
  have hs : Reachable smallConfig threeOwnersStore :=
    ⟨_, freshStore_initial smallConfig 1 1, run_of_runTrace runTrace_threeOwnersTrace⟩
  ⟨hs, rfl, reachable_segment_ownership hs⟩

/-- Under `sessionRules` alone, a second `Push` on a write session whose chain is not written
yet drops that chain: its segment stays allocated and no owner holds it. -/
theorem second_push_leaks_segment :
    ∃ s, ReachableUnder smallConfig sessionRules s ∧
      ∃ x ∈ s.memoryManager.allocated, ∀ c ∈ s.heldChains, x ∉ c.2 := by
  obtain ⟨s, hs, hp⟩ := reachableUnder_of_runTrace smallConfig sessionRules (freshStore_initial smallConfig 1 1)
    [.push 0 bulkPrimary 1, .push 0 bulkPrimary 1]
    (fun s => decide (0 ∈ s.memoryManager.allocated ∧ ∀ c ∈ s.heldChains, 0 ∉ c.2)) (by decide)
  exact ⟨s, hs, 0, (of_decide_eq_true hp).1, (of_decide_eq_true hp).2⟩

end Hdtn.Storage
