import Mathlib.Data.Finset.Card
import Hdtn.Storage.Frame

/-! # When `Push` fails

`Push` returns the number of segments of the bundle, or `0` when `AllocateSegments_ThreadSafe`
finds fewer free segment IDs below `M_MAX_SEGMENTS` (`push_count`).  Along every run from a fresh
store the allocated IDs stay below `M_MAX_SEGMENTS`: `Push` allocates below it,
`RemoveReadBundleFromDisk` only frees, and no other step touches the memory manager
(`allocatedBelow_of_reachable`).  By segment ownership the allocated IDs are the segments of the
chains the store holds, each once, so `M_MAX_SEGMENTS` less those segments are free.

So `Push` fails exactly when the bundle is empty or its segments do not fit beside the segments
of every chain held by the catalog, the write sessions and the read sessions
(`push_fails_iff`): the memory manager never runs out while room is left. -/

namespace Hdtn.Storage

namespace MemoryManager

variable {mm : MemoryManager} {maxSegments n : Nat}

theorem allocateSegments_isSome_iff :
    (mm.allocateSegments maxSegments n).isSome ↔ n ≤ (mm.freeIds maxSegments).length := by
  unfold allocateSegments
  dsimp only
  split_ifs with h <;> simp only [List.length_take, Option.isSome_some, Option.isSome_none, true_iff,
    Bool.false_eq_true, false_iff, not_le] at h ⊢ <;> omega

theorem freeSegments_subset (ids : List Nat) : (mm.freeSegments ids).2.allocated ⊆ mm.allocated := by
  induction ids generalizing mm with
  | nil => exact subset_rfl
  | cons x rest ih =>
    unfold freeSegments
    split_ifs
    · exact ih.trans (Finset.erase_subset _ _)
    · exact subset_rfl

theorem length_freeIds (h : ∀ x ∈ mm.allocated, x < maxSegments) :
    (mm.freeIds maxSegments).length = maxSegments - mm.allocated.card := by
  have hset : (mm.freeIds maxSegments).toFinset = Finset.range maxSegments \ mm.allocated := by
    ext x
    simp [mem_freeIds]
  rw [← List.toFinset_card_of_nodup nodup_freeIds, hset,
    Finset.card_sdiff fun x hx => Finset.mem_range.mpr (h x hx), Finset.card_range]

end MemoryManager

variable {cfg : StorageConfig} {s s' : StoreState}

theorem push_count {w n k : Nat} {primary : Bpv6PrimaryBlock} (h : push cfg s w primary n = some (k, s')) :
    k = if totalSegmentsRequired cfg.perSegmentSize n ≤ (s.memoryManager.freeIds cfg.maxSegments).length
      then totalSegmentsRequired cfg.perSegmentSize n else 0 := by
  unfold push at h
  split at h
  · dsimp only at h
    split at h <;> rename_i halloc <;> cases h
    · rw [if_pos (MemoryManager.allocateSegments_isSome_iff.mp (by rw [halloc]; rfl))]
    · rw [if_neg (mt MemoryManager.allocateSegments_isSome_iff.mpr (by rw [halloc]; exact Bool.false_ne_true))]
  · cases h

/-! ### Allocated IDs stay below `M_MAX_SEGMENTS` -/

/-- Every allocated segment ID is below `M_MAX_SEGMENTS`. -/
def AllocatedBelow (maxSegments : Nat) (s : StoreState) : Prop :=
  ∀ x ∈ s.memoryManager.allocated, x < maxSegments

theorem AllocatedBelow.step {l : Label} (hI : AllocatedBelow cfg.maxSegments s) (h : step cfg s l = some s') :
    AllocatedBelow cfg.maxSegments s' := by
  cases l
  case push w primary n =>
    obtain ⟨⟨k, t⟩, ht, rfl⟩ := Option.map_eq_some'.mp h
    obtain ⟨ws, -, -, ⟨ids, mm, halloc, -, rfl⟩ | ⟨-, rfl⟩⟩ := push_eq_some ht
    · obtain ⟨-, -, hids, hmm⟩ := MemoryManager.allocateSegments_spec halloc
      intro x hx
      rw [hmm, Finset.mem_union, List.mem_toFinset] at hx
      exact hx.elim (hI x) fun hx => (hids x hx).1
    · exact hI
  case removeReadBundleFromDisk r force =>
    obtain ⟨⟨ok, t⟩, ht, rfl⟩ := Option.map_eq_some'.mp h
    obtain ⟨rs, -, -, ⟨-, -, -, rfl⟩ | ⟨-, x, rest, -, -, rfl⟩⟩ := removeReadBundleFromDisk_eq_some ht
    · exact hI
    · exact fun y hy => hI y (MemoryManager.freeSegments_subset _ hy)
  all_goals
    unfold AllocatedBelow
    rw [(step_frame h).2.2 (fun _ _ _ => nofun) (fun _ _ => nofun)]
    exact hI

theorem allocatedBelow_of_reachable (h : Reachable cfg s) : AllocatedBelow cfg.maxSegments s := by
  obtain ⟨s₀, h₀, hrun⟩ := h
  exact hrun.invariant (fun _ _ _ hI _ hs => hI.step hs) (by simp [AllocatedBelow, h₀.allocated_eq])

theorem Ownership.card_allocated {P : Nat} (hI : Ownership P s) :
    s.memoryManager.allocated.card = (s.held.map fun c => c.2.length).sum := by
  have hset : s.memoryManager.allocated = (s.held.bind fun c => (c.2 : Multiset Nat)).toFinset := by
    ext x
    simp [hI.allocated x]
  rw [hset, Multiset.toFinset_card_of_nodup hI.nodup, Multiset.card_bind]
  simp

/-! ### The result -/

/-- **When `Push` fails.**  In every state a fresh store reaches, every allocated segment ID is
below `M_MAX_SEGMENTS`, and `Push` of `n` bytes returns `0` exactly when the bundle is empty or
its `⌈n / BUNDLE_STORAGE_PER_SEGMENT_SIZE⌉` segments do not fit in `M_MAX_SEGMENTS` beside the
segments of every chain the store holds, in the catalog, in the write sessions and in the read
sessions' custody. -/
theorem push_fails_iff {w n k : Nat} {primary : Bpv6PrimaryBlock} (hs : Reachable cfg s)
    (h : push cfg s w primary n = some (k, s')) :
    (∀ x ∈ s.memoryManager.allocated, x < cfg.maxSegments) ∧ (k = 0 ↔ n = 0 ∨
      cfg.maxSegments < (s.held.map fun c => c.2.length).sum + totalSegmentsRequired cfg.perSegmentSize n) := by
  have hbelow := allocatedBelow_of_reachable hs
  have hfree : (s.memoryManager.freeIds cfg.maxSegments).length =
      cfg.maxSegments - (s.held.map fun c => c.2.length).sum := by
    rw [MemoryManager.length_freeIds hbelow, (Ownership.of_reachable hs).card_allocated]
  refine ⟨hbelow, ?_⟩
  rw [push_count h, hfree]
  rcases Nat.eq_zero_or_pos n with rfl | hn
  · simp [totalSegmentsRequired]
  · have hT : 0 < totalSegmentsRequired cfg.perSegmentSize n := totalSegmentsRequired_pos hn
    split_ifs <;> omega

/-- Two bundles of `9` bytes, three segments each, pushed on a fresh store. -/
def twoBundleTrace : List Label :=
  [.push 0 ⟨0, 0, 10, 1⟩ 9, .pushSegment 0 [1, 1, 1, 1], .pushSegment 0 [2, 2, 2, 2], .pushSegment 0 [3],
   .push 0 ⟨0, 0, 20, 1⟩ 9, .pushSegment 0 [4, 4, 4, 4], .pushSegment 0 [5, 5, 5, 5], .pushSegment 0 [6]]

/-- The two bundles stored on the eight segments of `smallConfig`. -/
def twoBundleStore : StoreState :=
  (runTrace smallConfig oneChainPerSession (freshStore smallConfig 1 1) twoBundleTrace).getD
    (freshStore smallConfig 1 1)

theorem runTrace_twoBundleTrace :
    runTrace smallConfig oneChainPerSession (freshStore smallConfig 1 1) twoBundleTrace = some twoBundleStore :=
  rfl

/-- A third bundle of three segments does not fit. -/
theorem push_fails_iff_twoBundles :
    Reachable smallConfig twoBundleStore ∧
      ∃ s', push smallConfig twoBundleStore 0 ⟨0, 0, 30, 1⟩ 9 = some (0, s') ∧
        (∀ x ∈ twoBundleStore.memoryManager.allocated, x < smallConfig.maxSegments) ∧ (0 = 0 ↔ 9 = 0 ∨
          smallConfig.maxSegments <
            (twoBundleStore.held.map fun c => c.2.length).sum + totalSegmentsRequired smallConfig.perSegmentSize 9) := by
  have hs : Reachable smallConfig twoBundleStore :=
    ⟨_, freshStore_initial smallConfig 1 1, run_of_runTrace runTrace_twoBundleTrace⟩
  obtain ⟨s', h⟩ : ∃ s', push smallConfig twoBundleStore 0 ⟨0, 0, 30, 1⟩ 9 = some (0, s') := ⟨_, rfl⟩
  exact ⟨hs, s', h, push_fails_iff hs h⟩

end Hdtn.Storage
