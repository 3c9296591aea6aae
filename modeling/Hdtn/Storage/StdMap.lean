import Mathlib.Data.List.Perm.Basic
import Mathlib.Data.List.Sort

/-! # `std::map` with `uint64_t` keys

`BundleStorageManagerBase` keeps its catalog in two nested `std::map`s keyed by `uint64_t`
(destination node, then expiration time).  `StdMap V` models such a map by its entries in
increasing key order; the order is a field of the structure, so no unordered map can be
built.  The operations are the ones the store uses: `find` (`find?`), `operator[]` followed by
an update of the mapped value (`modify`), `erase` and `begin()` (`first?`).

Every fact the catalog needs is proved once here: what `find?` returns after each operation,
that `first?` holds the least key (`first?_le`), and how the concatenated contents of the map
change under `modify` (`flatMap_modify_perm`). -/

namespace Hdtn

open scoped List

variable {V α : Type}

/-- Keys strictly increasing: the order a `std::map` keeps its entries in. -/
def KeysSorted (l : List (Nat × V)) : Prop := l.Pairwise (fun a b => a.1 < b.1)

/-- The value at key `k` of an entry list. -/
def lookupKey (k : Nat) : List (Nat × V) → Option V
  | [] => none
  | (k', v) :: rest => if k' = k then some v else lookupKey k rest

/-- `operator[](k)` followed by `f` on the mapped value; an absent key starts at `d` and its
entry goes in key order. -/
def alterKey (k : Nat) (d : V) (f : V → V) : List (Nat × V) → List (Nat × V)
  | [] => [(k, f d)]
  | (k', v) :: rest =>
    if k < k' then (k, f d) :: (k', v) :: rest
    else if k' = k then (k', f v) :: rest
    else (k', v) :: alterKey k d f rest

/-- `erase(k)`. -/
def eraseKey (k : Nat) (l : List (Nat × V)) : List (Nat × V) := l.filter (fun e => e.1 ≠ k)

/-! ### Entry lists -/

section lists

variable {k k' : Nat} {d v : V} {f : V → V} {l : List (Nat × V)}

theorem lookupKey_eq_none_of_lt (h : ∀ e ∈ l, k < e.1) : lookupKey k l = none := by
  induction l with
  | nil => rfl
  | cons e rest ih =>
    have hk : e.1 ≠ k := Nat.ne_of_gt (h e (List.mem_cons_self _ _))
    simp only [lookupKey, hk, if_false]
    exact ih fun e' he' => h e' (List.mem_cons_of_mem _ he')

theorem eraseKey_eq_self_of_lt (h : ∀ e ∈ l, k < e.1) : eraseKey k l = l := by
  refine List.filter_eq_self.mpr fun e he => ?_
  simpa using Nat.ne_of_gt (h e he)

theorem mem_alterKey {e : Nat × V} (he : e ∈ alterKey k d f l) : e.1 = k ∨ ∃ v, (e.1, v) ∈ l := by
  induction l with
  | nil => simp_all [alterKey]
  | cons e' rest ih =>
    obtain ⟨k', v'⟩ := e'
    simp only [alterKey] at he
    split_ifs at he with h₁ h₂
    · rcases List.mem_cons.mp he with rfl | he
      · exact .inl rfl
      · exact .inr ⟨e.2, by simpa using he⟩
    · rcases List.mem_cons.mp he with rfl | he
      · exact .inl h₂
      · exact .inr ⟨e.2, List.mem_cons_of_mem _ he⟩
    · rcases List.mem_cons.mp he with rfl | he
      · exact .inr ⟨v', List.mem_cons_self _ _⟩
      · obtain h | ⟨w, hw⟩ := ih he
        · exact .inl h
        · exact .inr ⟨w, List.mem_cons_of_mem _ hw⟩

theorem keysSorted_alterKey (h : KeysSorted l) : KeysSorted (alterKey k d f l) := by
  induction l with
  | nil => exact List.pairwise_singleton _ _
  | cons e rest ih =>
    obtain ⟨k', v'⟩ := e
    obtain ⟨hhead, hrest⟩ := List.pairwise_cons.mp h
    simp only [alterKey]
    split_ifs with h₁ h₂
    · refine List.pairwise_cons.mpr ⟨fun e he => ?_, h⟩
      rcases List.mem_cons.mp he with rfl | he
      · exact h₁
      · exact Nat.lt_trans h₁ (hhead e he)
    · exact List.pairwise_cons.mpr ⟨hhead, hrest⟩
    · refine List.pairwise_cons.mpr ⟨fun e he => ?_, ih hrest⟩
      rcases mem_alterKey he with h' | ⟨w, hw⟩
      · show k' < e.1
        omega
      · have := hhead _ hw
        exact this

theorem lookupKey_alterKey (h : KeysSorted l) :
    lookupKey k' (alterKey k d f l) =
      if k' = k then some (f ((lookupKey k l).getD d)) else lookupKey k' l := by
  induction l with
  | nil =>
    by_cases hk : k' = k
    · simp [alterKey, lookupKey, hk]
    · simp [alterKey, lookupKey, hk, Ne.symm hk]
  | cons e rest ih =>
    obtain ⟨k'', v'⟩ := e
    obtain ⟨hhead, hrest⟩ := List.pairwise_cons.mp h
    by_cases h₁ : k < k''
    · have hnone : lookupKey k ((k'', v') :: rest) = none :=
        lookupKey_eq_none_of_lt fun e he => by
          rcases List.mem_cons.mp he with rfl | he
          · exact h₁
          · exact Nat.lt_trans h₁ (hhead e he)
      rw [hnone]
      by_cases hk : k' = k
      · subst hk
        simp [alterKey, lookupKey, h₁]
      · simp [alterKey, lookupKey, h₁, hk, Ne.symm hk]
    · by_cases h₂ : k'' = k
      · subst h₂
        by_cases hk : k' = k''
        · subst hk
          simp [alterKey, lookupKey]
        · simp [alterKey, lookupKey, hk, Ne.symm hk]
      · simp only [alterKey, h₁, h₂, if_false, lookupKey, ih hrest]
        by_cases hk : k' = k
        · subst hk
          simp [h₂]
        · simp [hk]

theorem lookupKey_eraseKey : lookupKey k' (eraseKey k l) = if k' = k then none else lookupKey k' l := by
  induction l with
  | nil => simp [eraseKey, lookupKey]
  | cons e rest ih =>
    obtain ⟨k'', v'⟩ := e
    by_cases h : k'' = k
    · have : eraseKey k ((k'', v') :: rest) = eraseKey k rest := by simp [eraseKey, h]
      rw [this, ih]
      subst h
      by_cases h' : k' = k''
      · simp [lookupKey, h']
      · simp [lookupKey, h', Ne.symm h']
    · have : eraseKey k ((k'', v') :: rest) = (k'', v') :: eraseKey k rest := by simp [eraseKey, h]
      rw [this]
      by_cases h' : k'' = k' <;> simp_all [lookupKey]

theorem mem_iff_lookupKey (h : KeysSorted l) : (k, v) ∈ l ↔ lookupKey k l = some v := by
  induction l with
  | nil => simp [lookupKey]
  | cons e rest ih =>
    obtain ⟨k', v'⟩ := e
    obtain ⟨hhead, hrest⟩ := List.pairwise_cons.mp h
    by_cases hk : k' = k
    · subst hk
      have : (k', v) ∉ rest := fun hm => Nat.lt_irrefl k' (hhead (k', v) hm)
      simp [lookupKey, this, eq_comm]
    · simp [lookupKey, hk, Ne.symm hk, ih hrest]

theorem KeysSorted.eraseKey (h : KeysSorted l) : KeysSorted (eraseKey k l) := h.filter _

theorem flatMap_alterKey_perm (h : KeysSorted l) (G : Nat × V → List α) :
    (alterKey k d f l).flatMap G ~ G (k, f ((lookupKey k l).getD d)) ++ (eraseKey k l).flatMap G := by
  induction l with
  | nil => simp [alterKey, lookupKey, eraseKey]
  | cons e rest ih =>
    obtain ⟨k', v'⟩ := e
    obtain ⟨hhead, hrest⟩ := List.pairwise_cons.mp h
    simp only [alterKey]
    split_ifs with h₁ h₂
    · have hlt : ∀ e ∈ (k', v') :: rest, k < e.1 := fun e he => by
        rcases List.mem_cons.mp he with rfl | he
        · exact h₁
        · exact Nat.lt_trans h₁ (hhead e he)
      rw [lookupKey_eq_none_of_lt hlt, eraseKey_eq_self_of_lt hlt]
      simp
    · subst h₂
      have he : eraseKey k' ((k', v') :: rest) = rest := by
        simpa [eraseKey] using eraseKey_eq_self_of_lt (k := k') fun e he => hhead e he
      simp [lookupKey, he]
    · have hne : k' ≠ k := h₂
      have hl : lookupKey k ((k', v') :: rest) = lookupKey k rest := by simp [lookupKey, hne]
      have he : eraseKey k ((k', v') :: rest) = (k', v') :: eraseKey k rest := by
        simp [eraseKey, hne]
      rw [hl, he, List.flatMap_cons, List.flatMap_cons]
      exact ((ih hrest).append_left _).trans (List.perm_append_comm_assoc _ _ _)

theorem flatMap_perm_lookupKey (h : KeysSorted l) (G : Nat × V → List α) (hd : G (k, d) = []) :
    l.flatMap G ~ G (k, (lookupKey k l).getD d) ++ (eraseKey k l).flatMap G := by
  induction l with
  | nil => simp [lookupKey, eraseKey, hd]
  | cons e rest ih =>
    obtain ⟨k', v'⟩ := e
    obtain ⟨hhead, hrest⟩ := List.pairwise_cons.mp h
    by_cases h₂ : k' = k
    · subst h₂
      have he : eraseKey k' ((k', v') :: rest) = rest := by
        simpa [eraseKey] using eraseKey_eq_self_of_lt (k := k') fun e he => hhead e he
      simp [lookupKey, he]
    · have hl : lookupKey k ((k', v') :: rest) = lookupKey k rest := by simp [lookupKey, h₂]
      have he : eraseKey k ((k', v') :: rest) = (k', v') :: eraseKey k rest := by
        simp [eraseKey, h₂]
      rw [hl, he, List.flatMap_cons, List.flatMap_cons]
      exact ((ih hrest).append_left _).trans (List.perm_append_comm_assoc _ _ _)

theorem flatMap_eq_lookupKey (h : KeysSorted l) (G : Nat × V → List α)
    (hG : ∀ e ∈ l, e.1 ≠ k → G e = []) :
    l.flatMap G = ((lookupKey k l).map fun v => G (k, v)).getD [] := by
  induction l with
  | nil => rfl
  | cons e rest ih =>
    obtain ⟨k', v'⟩ := e
    obtain ⟨hhead, hrest⟩ := List.pairwise_cons.mp h
    rw [List.flatMap_cons]
    by_cases hk : k' = k
    · subst hk
      have hnil : rest.flatMap G = [] := List.flatMap_eq_nil_iff.mpr fun e he =>
        hG e (List.mem_cons_of_mem _ he) (Nat.ne_of_gt (hhead e he))
      simp [lookupKey, hnil]
    · rw [hG _ (List.mem_cons_self _ _) hk, ih hrest fun e he => hG e (List.mem_cons_of_mem _ he)]
      simp [lookupKey, hk]

end lists

/-! ### The map -/

/-- A `std::map<uint64_t, V>`: its entries, in increasing key order. -/
structure StdMap (V : Type) where
  entries : List (Nat × V)
  sorted : KeysSorted entries

namespace StdMap

/-- The empty map. -/
def empty : StdMap V := ⟨[], List.Pairwise.nil⟩

/-- `find(k)`: the mapped value, if `k` is present. -/
def find? (m : StdMap V) (k : Nat) : Option V := lookupKey k m.entries

/-- `operator[](k)`, creating `d` when `k` is absent, then `f` on the mapped value. -/
def modify (m : StdMap V) (k : Nat) (d : V) (f : V → V) : StdMap V :=
  ⟨alterKey k d f m.entries, keysSorted_alterKey m.sorted⟩

/-- `erase(k)`. -/
def erase (m : StdMap V) (k : Nat) : StdMap V := ⟨eraseKey k m.entries, m.sorted.eraseKey⟩

/-- `begin()`: the entry with the least key, if any. -/
def first? (m : StdMap V) : Option (Nat × V) := m.entries.head?

variable {m : StdMap V} {k k' : Nat} {d v : V} {f : V → V}

theorem mem_entries : (k, v) ∈ m.entries ↔ m.find? k = some v := mem_iff_lookupKey m.sorted

@[simp] theorem find?_empty : (empty : StdMap V).find? k = none := rfl

@[simp] theorem find?_modify :
    (m.modify k d f).find? k' = if k' = k then some (f ((m.find? k).getD d)) else m.find? k' :=
  lookupKey_alterKey m.sorted

@[simp] theorem find?_erase : (m.erase k).find? k' = if k' = k then none else m.find? k' :=
  lookupKey_eraseKey

theorem find?_of_first? (h : m.first? = some (k, v)) : m.find? k = some v := by
  obtain ⟨entries, sorted⟩ := m
  cases entries with
  | nil => cases h
  | cons e rest =>
    cases h
    simp [find?, lookupKey]

theorem first?_le (h : m.first? = some (k, v)) (h' : m.find? k' = some d) : k ≤ k' := by
  obtain ⟨entries, sorted⟩ := m
  cases entries with
  | nil => cases h
  | cons e rest =>
    cases h
    by_contra hlt
    have hnone : lookupKey k' ((k, v) :: rest) = none :=
      lookupKey_eq_none_of_lt fun e he => by
        rcases List.mem_cons.mp he with rfl | he
        · exact Nat.lt_of_not_le hlt
        · exact Nat.lt_trans (Nat.lt_of_not_le hlt) ((List.pairwise_cons.mp sorted).1 e he)
    simp [find?, hnone] at h'

theorem first?_eq_none_iff : m.first? = none ↔ ∀ k, m.find? k = none := by
  obtain ⟨entries, sorted⟩ := m
  cases entries with
  | nil => simp [first?, find?, lookupKey]
  | cons e rest =>
    simp only [first?, List.head?_cons, reduceCtorEq, false_iff, not_forall]
    exact ⟨e.1, by simp [find?, lookupKey]⟩

theorem ext {m' : StdMap V} (h : ∀ k, m.find? k = m'.find? k) : m = m' := by
  obtain ⟨l, hl⟩ := m
  obtain ⟨l', hl'⟩ := m'
  have : IsAntisymm (Nat × V) fun a b => a.1 < b.1 := ⟨fun _ _ h h' => absurd (h.trans h') (Nat.lt_irrefl _)⟩
  have hnd : ∀ {l : List (Nat × V)}, KeysSorted l → l.Nodup := fun hl =>
    hl.imp fun {a b} h (e : a = b) => Nat.lt_irrefl _ (e ▸ h)
  have hperm : l ~ l' := (List.perm_ext_iff_of_nodup (hnd hl) (hnd hl')).mpr fun e => by
    rw [mem_iff_lookupKey hl, mem_iff_lookupKey hl']
    exact Eq.to_iff (congrArg (· = some e.2) (h e.1))
  simp only [mk.injEq]
  exact List.eq_of_perm_of_sorted hperm hl hl'

theorem flatMap_modify_perm (G : Nat × V → List α) :
    (m.modify k d f).entries.flatMap G ~
      G (k, f ((m.find? k).getD d)) ++ (m.erase k).entries.flatMap G :=
  flatMap_alterKey_perm m.sorted G

theorem flatMap_eq_find? (G : Nat × V → List α) (hG : ∀ e ∈ m.entries, e.1 ≠ k → G e = []) :
    m.entries.flatMap G = ((m.find? k).map fun v => G (k, v)).getD [] :=
  flatMap_eq_lookupKey m.sorted G hG

theorem flatMap_perm_find? (G : Nat × V → List α) (hd : G (k, d) = []) :
    m.entries.flatMap G ~ G (k, (m.find? k).getD d) ++ (m.erase k).entries.flatMap G :=
  flatMap_perm_lookupKey m.sorted G hd

end StdMap

end Hdtn
