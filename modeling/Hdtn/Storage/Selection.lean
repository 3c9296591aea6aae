import Hdtn.Storage.Manager
import Mathlib.Order.Fin.Basic

/-! # `PopTop`'s selection

`PopTop` scans the priorities from expedited down to bulk; at each it keeps, over the candidate
destinations, the first least expiration key strictly below its running minimum, which starts
at `UINT64_MAX`.  So a key equal to `UINT64_MAX` is never selected.

* `selectLowestExpiration_spec`: the scan of one priority yields the least first key of the
  candidates, with the list stored there, unless every first key is at least `UINT64_MAX`.
* `popTopAt_eq_some_some`: the outer loop stops at the first priority with a selection.
* On the catalog: `selectTop_some` (the taken chain is the front of its bucket, its key is below
  `UINT64_MAX`, and no chain under the available destinations with a key below `UINT64_MAX` is
  of higher priority, or of the same priority and earlier), `selectTop_none` (nothing is
  selected only when every such key is at least `UINT64_MAX`) and `selectTop_ne_none` (no
  undefined behaviour on a catalog without empty lists). -/

namespace Hdtn.Storage

/-! ### One priority -/

section lowest

variable (i : Fin numberOfPriorities)

/-- What the scan of priority `i` over the candidates `M` has established in its accumulator:
the running minimum is at most every first key, and it is either still `UINT64_MAX` with nothing
selected, or the first key of a candidate, below `UINT64_MAX`, with that candidate's list. -/
def LowestOf (M : List (Nat × PriorityArray)) (acc : Nat × Option (Nat × Nat × List ChainInfo)) :
    Prop :=
  (∀ cand ∈ M, ∀ e l, (cand.2 i).first? = some (e, l) → acc.1 ≤ e) ∧
    (acc.2 = none ∧ acc.1 = uint64Max ∨
      ∃ link l, acc.2 = some (link, acc.1, l) ∧ acc.1 < uint64Max ∧
        ∃ pa, (link, pa) ∈ M ∧ (pa i).first? = some (acc.1, l))

theorem lowestOf_foldl :
    ∀ (cands M : List (Nat × PriorityArray)) (acc : Nat × Option (Nat × Nat × List ChainInfo)),
      LowestOf i M acc →
      LowestOf i (M ++ cands) (cands.foldl (fun acc cand =>
        match (cand.2 i).first? with
        | some (e, l) => if acc.1 > e then (e, some (cand.1, e, l)) else acc
        | none => acc) acc)
  | [], M, acc, h => by simpa using h
  | cand :: cands, M, acc, ⟨hle, hsel⟩ => by
    rw [List.foldl_cons, ← List.singleton_append, ← List.append_assoc]
    apply lowestOf_foldl
    cases hf : (cand.2 i).first? with
    | none =>
      dsimp only
      refine ⟨fun c hc e l he => ?_, hsel.imp id fun ⟨link, l, h1, h2, pa, hpa, h3⟩ =>
        ⟨link, l, h1, h2, pa, List.mem_append_left _ hpa, h3⟩⟩
      rcases List.mem_append.mp hc with hc | hc
      · exact hle c hc e l he
      · simp only [List.mem_singleton] at hc; subst hc; simp [hf] at he
    | some el =>
      obtain ⟨e, l⟩ := el
      dsimp only
      split_ifs with hlt
      · have he : e < uint64Max := by rcases hsel with ⟨-, h⟩ | ⟨_, _, -, h, -⟩ <;> omega
        refine ⟨fun c hc e' l' he' => ?_, .inr ⟨cand.1, l, rfl, he, cand.2, by simp, hf⟩⟩
        rcases List.mem_append.mp hc with hc | hc
        · exact (Nat.le_of_lt hlt).trans (hle c hc e' l' he')
        · simp only [List.mem_singleton] at hc; subst hc
          rw [hf] at he'; cases he'; exact le_rfl
      · refine ⟨fun c hc e' l' he' => ?_, ?_⟩
        · rcases List.mem_append.mp hc with hc | hc
          · exact hle c hc e' l' he'
          · simp only [List.mem_singleton] at hc; subst hc
            rw [hf] at he'; cases he'; omega
        · rcases hsel with h | ⟨link, l', h1, h2, pa, hpa, h3⟩
          · exact .inl h
          · exact .inr ⟨link, l', h1, h2, pa, List.mem_append_left _ hpa, h3⟩

/-- **The scan of one priority.** -/
theorem selectLowestExpiration_spec (cands : List (Nat × PriorityArray)) :
    LowestOf i cands (selectLowestExpiration i cands) := by
  simpa using lowestOf_foldl i cands [] (uint64Max, none) ⟨by simp, .inl ⟨rfl, rfl⟩⟩

/-- The candidate the scan of priority `i` has selected comes first among those with its first
key: every candidate before it has a greater first key, or none. -/
def FirstOf (M : List (Nat × PriorityArray)) (acc : Nat × Option (Nat × Nat × List ChainInfo)) : Prop :=
  ∀ link e l, acc.2 = some (link, e, l) → ∃ M₁ pa M₂, M = M₁ ++ (link, pa) :: M₂ ∧
    ∀ cand ∈ M₁, ∀ e' l', (cand.2 i).first? = some (e', l') → e < e'

theorem firstOf_foldl :
    ∀ (cands M : List (Nat × PriorityArray)) (acc : Nat × Option (Nat × Nat × List ChainInfo)),
      LowestOf i M acc → FirstOf i M acc →
      FirstOf i (M ++ cands) (cands.foldl (fun acc cand =>
        match (cand.2 i).first? with
        | some (e, l) => if acc.1 > e then (e, some (cand.1, e, l)) else acc
        | none => acc) acc)
  | [], M, acc, _, h => by simpa using h
  | cand :: cands, M, acc, hlow, hfirst => by
    rw [List.foldl_cons, ← List.singleton_append, ← List.append_assoc]
    refine firstOf_foldl cands _ _ (lowestOf_foldl i [cand] M acc hlow) ?_
    have hkeep : FirstOf i (M ++ [cand]) acc := fun link e l hsel => by
      obtain ⟨M₁, pa, M₂, rfl, h⟩ := hfirst link e l hsel
      exact ⟨M₁, pa, M₂ ++ [cand], by simp, h⟩
    cases hf : (cand.2 i).first? with
    | none => exact hkeep
    | some el =>
      obtain ⟨e, l⟩ := el
      dsimp only
      split_ifs with hlt
      · intro link' e' l' hsel
        simp only [Option.some.injEq, Prod.mk.injEq] at hsel
        obtain ⟨rfl, rfl, rfl⟩ := hsel
        exact ⟨M, cand.2, [], by simp, fun c hc e'' l'' he'' => lt_of_lt_of_le hlt (hlow.1 c hc e'' l'' he'')⟩
      · exact hkeep

/-- **The scan of one priority keeps the first candidate with the least key.** -/
theorem selectLowestExpiration_first (cands : List (Nat × PriorityArray)) :
    FirstOf i cands (selectLowestExpiration i cands) := by
  simpa using firstOf_foldl i cands [] (uint64Max, none) ⟨by simp, .inl ⟨rfl, rfl⟩⟩ (by simp [FirstOf])

end lowest

/-! ### The priorities -/

section outer

variable (cands : List (Nat × PriorityArray))

theorem popTopAt_eq_some_none :
    ∀ {is : List (Fin numberOfPriorities)}, popTopAt cands is = some none →
      ∀ i ∈ is, (selectLowestExpiration i cands).2 = none
  | [], _ => by simp
  | i :: is, h => by
    unfold popTopAt at h
    split at h
    · cases h
    · cases h
    · rename_i hsel
      simp only [List.mem_cons, forall_eq_or_imp]
      exact ⟨hsel, popTopAt_eq_some_none h⟩

theorem popTopAt_eq_some_some {k : CatalogKey} {c : ChainInfo} :
    ∀ {is : List (Fin numberOfPriorities)}, is.Pairwise (· > ·) →
      popTopAt cands is = some (some (k, c)) →
      (∃ rest, (selectLowestExpiration k.priority cands).2 = some (k.dest, k.expiration, c :: rest)) ∧
        ∀ i ∈ is, k.priority < i → (selectLowestExpiration i cands).2 = none
  | [], _, h => by simp [popTopAt] at h
  | i :: is, hdesc, h => by
    obtain ⟨hi, hdesc⟩ := List.pairwise_cons.mp hdesc
    unfold popTopAt at h
    split at h
    · rename_i link e c' rest hsel
      simp only [Option.some.injEq, Option.some.injEq] at h
      cases h
      refine ⟨⟨rest, hsel⟩, fun j hj hlt => ?_⟩
      rcases List.mem_cons.mp hj with rfl | hj
      · exact absurd hlt (lt_irrefl _)
      · exact absurd (hi j hj) (lt_asymm hlt)
    · cases h
    · rename_i hsel
      obtain ⟨hfront, hhigher⟩ := popTopAt_eq_some_some hdesc h
      refine ⟨hfront, fun j hj hlt => ?_⟩
      rcases List.mem_cons.mp hj with rfl | hj
      · exact hsel
      · exact hhigher j hj hlt

theorem popTopAt_eq_none :
    ∀ {is : List (Fin numberOfPriorities)}, popTopAt cands is = none →
      ∃ i link e, (selectLowestExpiration i cands).2 = some (link, e, [])
  | [], h => by simp [popTopAt] at h
  | i :: is, h => by
    unfold popTopAt at h
    split at h
    · cases h
    · rename_i link e hsel
      exact ⟨i, link, e, hsel⟩
    · exact popTopAt_eq_none h

end outer

theorem mem_priorities (p : Fin numberOfPriorities) : p ∈ ([2, 1, 0] : List (Fin numberOfPriorities)) := by
  revert p; decide

/-! ### On the catalog -/

namespace DestinationMap

/-- No expiration map of the catalog maps a key to an empty list: `PopTop` erases a list it
empties. -/
def NoEmptyBucket (dm : DestinationMap) : Prop :=
  ∀ d pa, dm.find? d = some pa → ∀ p e, (pa p).find? e ≠ some []

variable {dm : DestinationMap} {d : Nat} {p : Fin numberOfPriorities} {e : Nat} {c : ChainInfo}

theorem noEmptyBucket_empty : NoEmptyBucket StdMap.empty := by
  simp [NoEmptyBucket]

theorem NoEmptyBucket.insertChain (h : dm.NoEmptyBucket) : (dm.insertChain d p e c).NoEmptyBucket := by
  intro d' pa hpa p' e' he
  simp only [DestinationMap.insertChain, StdMap.find?_modify] at hpa
  split_ifs at hpa with hd
  · cases hpa
    by_cases hp : p' = p
    · subst hp
      simp only [Function.update_same, ExpirationMap.find?_pushFront] at he
      split_ifs at he with he'
      · simp at he
      · cases hf : dm.find? d with
        | none => simp [hf, PriorityArray.empty] at he
        | some pa => exact h d pa hf p' e' (by simpa [hf] using he)
    · rw [Function.update_noteq hp] at he
      cases hf : dm.find? d with
      | none => simp [hf, PriorityArray.empty] at he
      | some pa => exact h d pa hf p' e' (by simpa [hf] using he)
  · exact h d' pa hpa p' e' he

theorem NoEmptyBucket.popFront (h : dm.NoEmptyBucket) : (dm.popFront d p e).NoEmptyBucket := by
  intro d' pa hpa p' e' he
  simp only [DestinationMap.popFront, StdMap.find?_modify] at hpa
  split_ifs at hpa with hd
  · cases hpa
    by_cases hp : p' = p
    · subst hp
      simp only [Function.update_same, ExpirationMap.find?_popFront] at he
      split_ifs at he with he' hr
      · exact hr (by simpa using he)
      · cases hf : dm.find? d with
        | none => simp [hf, PriorityArray.empty] at he
        | some pa => exact h d pa hf p' e' (by simpa [hf] using he)
    · rw [Function.update_noteq hp] at he
      cases hf : dm.find? d with
      | none => simp [hf, PriorityArray.empty] at he
      | some pa => exact h d pa hf p' e' (by simpa [hf] using he)
  · exact h d' pa hpa p' e' he

end DestinationMap

section catalog

variable {dm : DestinationMap} {links : List Nat}

theorem mem_candidates {link : Nat} {pa : PriorityArray} :
    (link, pa) ∈ candidates dm links ↔ link ∈ links ∧ dm.find? link = some pa := by
  simp only [candidates, List.mem_filterMap, Option.map_eq_some']
  constructor
  · rintro ⟨l, hl, pa', hpa, he⟩
    cases he
    exact ⟨hl, hpa⟩
  · rintro ⟨hl, hpa⟩
    exact ⟨link, hl, pa, hpa, rfl⟩

theorem first?_le_of_bucket {link : Nat} {p : Fin numberOfPriorities} {e : Nat}
    (hb : dm.bucket link p e ≠ []) :
    ∃ pa, dm.find? link = some pa ∧ ∃ e₀ l₀, (pa p).first? = some (e₀, l₀) ∧ e₀ ≤ e := by
  unfold DestinationMap.bucket at hb
  cases hpa : dm.find? link with
  | none => simp [hpa] at hb
  | some pa =>
    cases hl : (pa p).find? e with
    | none => simp [hpa, hl] at hb
    | some l =>
      cases hf : (pa p).first? with
      | none => exact absurd hl (by simp [StdMap.first?_eq_none_iff.mp hf])
      | some el =>
        obtain ⟨e₀, l₀⟩ := el
        exact ⟨pa, rfl, e₀, l₀, hf, StdMap.first?_le hf hl⟩

theorem bucket_of_first? {link : Nat} {pa : PriorityArray} {p : Fin numberOfPriorities} {e : Nat}
    {l : List ChainInfo} (hpa : dm.find? link = some pa) (hf : (pa p).first? = some (e, l)) :
    dm.bucket link p e = l := by
  simp [DestinationMap.bucket, hpa, StdMap.find?_of_first? hf]

/-- **What `PopTop` takes.** -/
theorem selectTop_some {k : CatalogKey} {c : ChainInfo}
    (h : selectTop dm links = some (some (k, c))) :
    k.dest ∈ links ∧ (∃ rest, dm.bucket k.dest k.priority k.expiration = c :: rest) ∧
      k.expiration < uint64Max ∧
      ∀ link ∈ links, ∀ p e, dm.bucket link p e ≠ [] → e < uint64Max →
        p < k.priority ∨ p = k.priority ∧ k.expiration ≤ e := by
  obtain ⟨⟨rest, hsel⟩, hhigher⟩ := popTopAt_eq_some_some _ (by decide) h
  obtain ⟨hle, hacc⟩ := selectLowestExpiration_spec k.priority (candidates dm links)
  obtain ⟨hne, -⟩ | ⟨link, l, hl, hlt, pa, hpa, hf⟩ := hacc
  · rw [hsel] at hne; cases hne
  rw [hsel] at hl
  simp only [Option.some.injEq, Prod.mk.injEq] at hl
  obtain ⟨rfl, he, rfl⟩ := hl
  obtain ⟨hlink, hpa⟩ := mem_candidates.mp hpa
  rw [← he] at hf hlt
  refine ⟨hlink, ⟨rest, bucket_of_first? hpa hf⟩, hlt, fun link' hlink' p e hb heM => ?_⟩
  obtain ⟨pa', hpa', e₀, l₀, hf', he₀⟩ := first?_le_of_bucket hb
  have hcand := mem_candidates.mpr ⟨hlink', hpa'⟩
  rcases lt_trichotomy p k.priority with hp | rfl | hp
  · exact .inl hp
  · exact .inr ⟨rfl, (he ▸ hle _ hcand e₀ l₀ hf').trans he₀⟩
  · -- a higher priority had no selection, so its first keys are at least `UINT64_MAX`
    obtain ⟨hle', ⟨-, hmax⟩ | ⟨_, _, h', -⟩⟩ := selectLowestExpiration_spec p (candidates dm links)
    · have := hle' _ hcand e₀ l₀ hf'
      omega
    · rw [hhigher p (mem_priorities p) hp] at h'; cases h'

/-- **Ties go to the destination listed first.**  The destination `PopTop` takes from is listed
after no destination that holds a chain of the same priority with an expiration key at most the
taken one. -/
theorem selectTop_first_listed {k : CatalogKey} {c : ChainInfo} (h : selectTop dm links = some (some (k, c))) :
    ∃ L₁ L₂, links = L₁ ++ k.dest :: L₂ ∧ ∀ link ∈ L₁, ∀ e ≤ k.expiration, dm.bucket link k.priority e = [] := by
  obtain ⟨⟨rest, hsel⟩, -⟩ := popTopAt_eq_some_some _ (by decide) h
  obtain ⟨M₁, pa, M₂, hM, hbefore⟩ := selectLowestExpiration_first k.priority (candidates dm links) _ _ _ hsel
  obtain ⟨l₁, l₂, rfl, hl₁, hl₂⟩ := List.filterMap_eq_append_iff.mp hM
  obtain ⟨l₃, a, l₄, rfl, hnone, ha, -⟩ := List.filterMap_eq_cons_iff.mp hl₂
  obtain ⟨pa', -, hpa'⟩ := Option.map_eq_some'.mp ha
  cases hpa'
  refine ⟨l₁ ++ l₃, l₄, by simp, fun link hlink e he => ?_⟩
  by_contra hb
  obtain ⟨pb, hpb, e₀, l₀, hf, he₀⟩ := first?_le_of_bucket hb
  rcases List.mem_append.mp hlink with hlink | hlink
  · have hc : (link, pb) ∈ M₁ := hl₁ ▸ List.mem_filterMap.mpr ⟨link, hlink, by simp [hpb]⟩
    have := hbefore _ hc e₀ l₀ hf
    omega
  · simpa [hpb] using hnone link hlink

/-- **`PopTop` finds nothing** only when every chain under the available destinations has a key of
at least `UINT64_MAX`. -/
theorem selectTop_none (h : selectTop dm links = some none) :
    ∀ link ∈ links, ∀ p e, dm.bucket link p e ≠ [] → uint64Max ≤ e := by
  intro link hlink p e hb
  obtain ⟨pa, hpa, e₀, l₀, hf, he₀⟩ := first?_le_of_bucket hb
  obtain ⟨hle, ⟨-, hmax⟩ | ⟨_, _, h', -⟩⟩ := selectLowestExpiration_spec p (candidates dm links)
  · have := hle (link, pa) (mem_candidates.mpr ⟨hlink, hpa⟩) e₀ l₀ hf
    omega
  · rw [popTopAt_eq_some_none _ h p (mem_priorities p)] at h'; cases h'

theorem selectTop_ne_none (hne : dm.NoEmptyBucket) : selectTop dm links ≠ none := by
  intro h
  obtain ⟨i, link, e, hsel⟩ := popTopAt_eq_none _ h
  obtain ⟨-, ⟨h', -⟩ | ⟨link', l, h', -, pa, hpa, hf⟩⟩ :=
    selectLowestExpiration_spec i (candidates dm links)
  · rw [hsel] at h'; cases h'
  · rw [hsel] at h'
    simp only [Option.some.injEq, Prod.mk.injEq] at h'
    obtain ⟨-, -, rfl⟩ := h'
    exact hne link' pa (mem_candidates.mp hpa).2 i _ (StdMap.find?_of_first? hf)

end catalog

end Hdtn.Storage
