import Hdtn.Storage.Basic
import Hdtn.Storage.StdMap
import Mathlib.Data.List.FinRange

/-! # The catalog `m_destMap`

`destination_map_t` maps a destination node to a `priority_array_t`, which holds one
`expiration_map_t` per priority index; an expiration map sends an absolute expiration time to a
`chain_info_flist_t`, a forward list of chains, front first.

`bucket` reads the list at one key and `items` lists every chain of the catalog with its key.
The catalog changes in two ways only: `insertChain` (`push_front`, in `PushSegment`, `ReturnTop`
and `RestoreFromDisk`) and `popFront` (`pop_front`, then `erase` of a list left empty, in
`PopTop`).  Each gets its `bucket` equation and its effect on `items` up to permutation
(`items_insertChain`, `items_popFront`); the ownership and restart proofs use nothing else. -/

namespace Hdtn.Storage

open scoped List

/-- `expiration_map_t`: absolute expiration time to the chains stored under it, front first. -/
abbrev ExpirationMap := StdMap (List ChainInfo)

/-- `priority_array_t`: one expiration map per priority index. -/
abbrev PriorityArray := Fin numberOfPriorities → ExpirationMap

/-- `destination_map_t`: destination node to its priority array. -/
abbrev DestinationMap := StdMap PriorityArray

/-- A place of the catalog: destination node, priority index and expiration time. -/
structure CatalogKey where
  dest : Nat
  priority : Fin numberOfPriorities
  expiration : Nat
deriving DecidableEq, Repr

namespace ExpirationMap

/-- The chains of one entry, each with its key. -/
def keyed (d : Nat) (p : Fin numberOfPriorities) (entry : Nat × List ChainInfo) :
    List (CatalogKey × ChainInfo) :=
  entry.2.map (⟨d, p, entry.1⟩, ·)

/-- Every chain of the map with its key. -/
def items (d : Nat) (p : Fin numberOfPriorities) (em : ExpirationMap) :
    List (CatalogKey × ChainInfo) :=
  em.entries.flatMap (keyed d p)

/-- `operator[](e).push_front(c)`. -/
def pushFront (em : ExpirationMap) (e : Nat) (c : ChainInfo) : ExpirationMap :=
  em.modify e [] (c :: ·)

/-- `pop_front()` on the list at `e`, then `erase(e)` when it is left empty. -/
def popFront (em : ExpirationMap) (e : Nat) : ExpirationMap :=
  let rest := ((em.find? e).getD []).tail
  if rest = [] then em.erase e else em.modify e [] fun _ => rest

variable {em : ExpirationMap} {d e e' : Nat} {p : Fin numberOfPriorities} {c : ChainInfo}

@[simp] theorem find?_pushFront :
    (em.pushFront e c).find? e' = if e' = e then some (c :: (em.find? e).getD []) else em.find? e' := by
  simp [pushFront]

theorem find?_popFront :
    (em.popFront e).find? e' =
      if e' = e then (if ((em.find? e).getD []).tail = [] then none else some ((em.find? e).getD []).tail)
      else em.find? e' := by
  unfold popFront
  dsimp only
  split_ifs <;> simp_all

theorem items_pushFront : items d p (em.pushFront e c) ~ (⟨d, p, e⟩, c) :: items d p em := by
  refine (StdMap.flatMap_modify_perm (keyed d p)).trans ?_
  refine List.Perm.trans ?_
    (List.Perm.cons _ (StdMap.flatMap_perm_find? (k := e) (d := []) (keyed d p) rfl).symm)
  simp [keyed]

theorem items_popFront {rest : List ChainInfo} (h : em.find? e = some (c :: rest)) :
    items d p em ~ (⟨d, p, e⟩, c) :: items d p (em.popFront e) := by
  refine (StdMap.flatMap_perm_find? (k := e) (d := []) (keyed d p) rfl).trans ?_
  unfold popFront
  simp only [h, Option.getD_some, List.tail_cons]
  split_ifs with hr
  · subst hr
    simp [keyed, items, StdMap.erase]
  · refine List.Perm.cons _ (List.Perm.trans ?_ (StdMap.flatMap_modify_perm (keyed d p)).symm)
    simp [keyed, items]

theorem pushFront_popFront {rest : List ChainInfo} (h : em.find? e = some (c :: rest)) :
    (em.popFront e).pushFront e c = em :=
  StdMap.ext fun e' => by
    by_cases he : e' = e
    · subst he
      cases rest <;> simp [find?_popFront, h]
    · simp [find?_popFront, he]

end ExpirationMap

namespace PriorityArray

/-- A priority array of empty expiration maps, as `operator[]` creates it. -/
def empty : PriorityArray := fun _ => StdMap.empty

/-- Every chain of the array with its key. -/
def items (d : Nat) (pa : PriorityArray) : List (CatalogKey × ChainInfo) :=
  (List.finRange numberOfPriorities).flatMap fun p => ExpirationMap.items d p (pa p)

@[simp] theorem items_empty (d : Nat) : items d empty = [] := by
  simp [items, empty, ExpirationMap.items, StdMap.empty]

theorem flatMap_update_perm {β : Type} {f f' : Fin numberOfPriorities → List β} {p : Fin numberOfPriorities}
    {x : β} (hp : f' p ~ x :: f p) (hq : ∀ q, q ≠ p → f' q = f q) :
    ∀ l : List (Fin numberOfPriorities), p ∈ l → l.Nodup → l.flatMap f' ~ x :: l.flatMap f
  | [], h, _ => absurd h (List.not_mem_nil _)
  | q :: l, h, hnd => by
    obtain ⟨hq', hnd⟩ := List.nodup_cons.mp hnd
    simp only [List.flatMap_cons]
    by_cases hqp : q = p
    · subst hqp
      have hl : l.flatMap f' = l.flatMap f :=
        List.flatMap_congr fun r hr => hq r fun e => hq' (e ▸ hr)
      rw [hl]
      exact hp.append_right _
    · rw [hq q hqp]
      have := flatMap_update_perm hp hq l ((List.mem_cons.mp h).resolve_left (Ne.symm hqp)) hnd
      exact (this.append_left _).trans List.perm_middle

theorem items_update {pa : PriorityArray} {d : Nat} {p : Fin numberOfPriorities} {em : ExpirationMap}
    {x : CatalogKey × ChainInfo}
    (h : ExpirationMap.items d p em ~ x :: ExpirationMap.items d p (pa p)) :
    items d (Function.update pa p em) ~ x :: items d pa :=
  flatMap_update_perm (by simpa using h) (fun q hq => by simp [hq]) _ (List.mem_finRange p)
    (List.nodup_finRange _)

end PriorityArray

namespace DestinationMap

/-- Every chain of the catalog with its key. -/
def items (dm : DestinationMap) : List (CatalogKey × ChainInfo) :=
  dm.entries.flatMap fun entry => PriorityArray.items entry.1 entry.2

/-- The chains stored at one key, front first; none when a map on the way has no entry. -/
def bucket (dm : DestinationMap) (d : Nat) (p : Fin numberOfPriorities) (e : Nat) : List ChainInfo :=
  ((dm.find? d).map fun pa => ((pa p).find? e).getD []).getD []

/-- `m_destMap[d][p][e].push_front(c)`. -/
def insertChain (dm : DestinationMap) (d : Nat) (p : Fin numberOfPriorities) (e : Nat)
    (c : ChainInfo) : DestinationMap :=
  dm.modify d PriorityArray.empty fun pa => Function.update pa p (ExpirationMap.pushFront (pa p) e c)

/-- `pop_front()` on `m_destMap[d][p][e]`, then `erase` of the list when it is left empty. -/
def popFront (dm : DestinationMap) (d : Nat) (p : Fin numberOfPriorities) (e : Nat) :
    DestinationMap :=
  dm.modify d PriorityArray.empty fun pa => Function.update pa p (ExpirationMap.popFront (pa p) e)

variable {dm : DestinationMap} {d d' e e' : Nat} {p p' : Fin numberOfPriorities} {c : ChainInfo}

theorem bucket_insertChain :
    (dm.insertChain d p e c).bucket d' p' e' =
      if d' = d ∧ p' = p ∧ e' = e then c :: dm.bucket d p e else dm.bucket d' p' e' := by
  unfold bucket insertChain
  rw [StdMap.find?_modify]
  by_cases hd : d' = d
  · subst hd
    by_cases hp : p' = p
    · subst hp
      by_cases he : e' = e
      · subst he
        cases dm.find? d' <;> simp [PriorityArray.empty]
      · cases dm.find? d' <;> simp [PriorityArray.empty, he]
    · cases dm.find? d' <;> simp [PriorityArray.empty, hp, Function.update_noteq hp]
  · simp [hd]

theorem bucket_popFront :
    (dm.popFront d p e).bucket d' p' e' =
      if d' = d ∧ p' = p ∧ e' = e then (dm.bucket d p e).tail else dm.bucket d' p' e' := by
  unfold bucket popFront
  rw [StdMap.find?_modify]
  by_cases hd : d' = d
  · subst hd
    by_cases hp : p' = p
    · subst hp
      by_cases he : e' = e
      · subst he
        cases dm.find? d' <;> simp [PriorityArray.empty, ExpirationMap.find?_popFront]
        split_ifs <;> simp_all
      · cases dm.find? d' <;> simp [PriorityArray.empty, ExpirationMap.find?_popFront, he]
    · cases dm.find? d' <;> simp [PriorityArray.empty, hp, Function.update_noteq hp]
  · simp [hd]

theorem items_insertChain : (dm.insertChain d p e c).items ~ (⟨d, p, e⟩, c) :: dm.items := by
  refine (StdMap.flatMap_modify_perm _).trans ?_
  refine List.Perm.trans ?_ (List.Perm.cons _
    (StdMap.flatMap_perm_find? (k := d) (d := PriorityArray.empty) _ (PriorityArray.items_empty d)).symm)
  exact (PriorityArray.items_update ExpirationMap.items_pushFront).append_right _

theorem bucket_eq_cons {rest : List ChainInfo} (h : dm.bucket d p e = c :: rest) :
    ∃ pa, dm.find? d = some pa ∧ (pa p).find? e = some (c :: rest) := by
  unfold bucket at h
  cases hf : dm.find? d with
  | none => simp [hf] at h
  | some pa =>
    cases he : (pa p).find? e with
    | none => simp [hf, he] at h
    | some l => exact ⟨pa, rfl, by simp_all⟩

theorem items_popFront {rest : List ChainInfo} (h : dm.bucket d p e = c :: rest) :
    dm.items ~ (⟨d, p, e⟩, c) :: (dm.popFront d p e).items := by
  obtain ⟨pa, hpa, hem⟩ := bucket_eq_cons h
  refine (StdMap.flatMap_perm_find? (k := d) (d := PriorityArray.empty) _
    (PriorityArray.items_empty d)).trans ?_
  refine List.Perm.trans ?_ (List.Perm.cons _ (StdMap.flatMap_modify_perm _).symm)
  simp only [hpa, Option.getD_some, ← List.cons_append]
  refine List.Perm.append_right _ ?_
  have key := PriorityArray.items_update (d := d) (x := (⟨d, p, e⟩, c))
    (show ExpirationMap.items d p (pa p) ~ (⟨d, p, e⟩, c) ::
      ExpirationMap.items d p (Function.update pa p (ExpirationMap.popFront (pa p) e) p) by
      simpa using ExpirationMap.items_popFront hem)
  simpa using key

/-- **`push_front` undoes `pop_front`.**  Putting the front chain of a list back at its key
gives the catalog back, as it was: also when `pop_front` erased the list it emptied. -/
theorem insertChain_popFront {rest : List ChainInfo} (h : dm.bucket d p e = c :: rest) :
    (dm.popFront d p e).insertChain d p e c = dm := by
  obtain ⟨pa, hpa, hem⟩ := bucket_eq_cons h
  refine StdMap.ext fun d' => ?_
  by_cases hd : d' = d
  · subst hd
    simp [insertChain, popFront, hpa, ExpirationMap.pushFront_popFront hem]
  · simp [insertChain, popFront, hd]

theorem flatMap_ite_eq {β γ : Type} [DecidableEq β] (X : β → List γ) {q : β} :
    ∀ {l : List β}, l.Nodup → q ∈ l → l.flatMap (fun p => if p = q then X p else []) = X q
  | [], _, hq => absurd hq (List.not_mem_nil _)
  | a :: l, hnd, hq => by
    obtain ⟨ha, hnd⟩ := List.nodup_cons.mp hnd
    rw [List.flatMap_cons]
    by_cases haq : a = q
    · subst haq
      rw [if_pos rfl, List.flatMap_eq_nil_iff.mpr fun b hb => if_neg fun (h : b = a) => ha (h ▸ hb),
        List.append_nil]
    · rw [if_neg haq, flatMap_ite_eq X hnd ((List.mem_cons.mp hq).resolve_left (Ne.symm haq)), List.nil_append]

theorem bucket_eq_filter_items (key : CatalogKey) :
    dm.bucket key.dest key.priority key.expiration = (dm.items.filter (·.1 = key)).map (·.2) := by
  obtain ⟨d, p, e⟩ := key
  have hkeyed : ∀ d' p' (entry : Nat × List ChainInfo),
      ((ExpirationMap.keyed d' p' entry).filter (·.1 = ⟨d, p, e⟩)).map (·.2) =
        if d' = d ∧ p' = p ∧ entry.1 = e then entry.2 else [] := fun d' p' entry => by
    unfold ExpirationMap.keyed
    split_ifs with h
    · obtain ⟨rfl, rfl, h⟩ := h
      simp [List.filter_map, Function.comp_def, h]
    · simp only [List.filter_map, Function.comp_def, CatalogKey.mk.injEq]
      simp_all
  have hem : ∀ d' p' (em : ExpirationMap), ((ExpirationMap.items d' p' em).filter (·.1 = ⟨d, p, e⟩)).map (·.2) =
      if d' = d ∧ p' = p then (em.find? e).getD [] else [] := fun d' p' em => by
    rw [ExpirationMap.items, List.filter_flatMap, List.map_flatMap]
    simp only [hkeyed]
    by_cases h : d' = d ∧ p' = p
    · simp only [h, true_and, if_true]
      rw [StdMap.flatMap_eq_find? (k := e) _ fun entry _ he => if_neg he]
      cases em.find? e <;> simp
    · rw [if_neg h]
      exact List.flatMap_eq_nil_iff.mpr fun (entry : Nat × List ChainInfo) _ =>
        if_neg fun (h' : d' = d ∧ p' = p ∧ entry.1 = e) => h ⟨h'.1, h'.2.1⟩
  have hpa : ∀ d' (pa : PriorityArray), ((PriorityArray.items d' pa).filter (·.1 = ⟨d, p, e⟩)).map (·.2) =
      if d' = d then ((pa p).find? e).getD [] else [] := fun d' pa => by
    rw [PriorityArray.items, List.filter_flatMap, List.map_flatMap]
    simp only [hem]
    by_cases hd : d' = d
    · simp only [hd, true_and, if_true]
      exact flatMap_ite_eq (fun p' => ((pa p').find? e).getD []) (List.nodup_finRange _) (List.mem_finRange p)
    · rw [if_neg hd]
      exact List.flatMap_eq_nil_iff.mpr fun p' _ => if_neg fun (h' : d' = d ∧ p' = p) => hd h'.1
  rw [items, List.filter_flatMap, List.map_flatMap]
  simp only [hpa]
  rw [StdMap.flatMap_eq_find? (k := d) _ fun entry _ he => if_neg he]
  unfold bucket
  cases dm.find? d <;> simp

theorem mem_items {k : CatalogKey} :
    (k, c) ∈ dm.items ↔ c ∈ dm.bucket k.dest k.priority k.expiration := by
  rw [bucket_eq_filter_items]
  simp

end DestinationMap

end Hdtn.Storage
