import Hdtn.Storage.Ownership

/-! # Pop order

`PopTop(availableDestLinks)` on a reachable store: it is always defined, returns `0` exactly
when no chain under the available destinations has an expiration key below `UINT64_MAX`, and
otherwise detaches the front chain of the bucket that is first by priority (highest first) and
then by expiration key (earliest first) among those chains (`popTop_takes_first`).

A key equal to `UINT64_MAX` is passed over: `PopTop`'s running minimum starts at `UINT64_MAX` and
a key must be strictly below it.  Keys are `creation + lifetime` in `uint64_t` arithmetic, so a
bundle whose sum is `2^64 - 1` stays in the catalog where `PopTop` never returns it
(`popTop_misses_uint64Max_key`).

The priority index is `(flags >> 7) & 3`, so the two priority bits set, the value reserved for
future use, give `3`, one past the priority array, which `PushSegment` then indexes
(`reserved_priority_out_of_bounds`).

`ReturnTop` right after a `PopTop` that returned a chain puts the catalog back exactly as it was,
so a second `PopTop` takes the same chain again (`returnTop_undoes_popTop`).

Among chains of the same priority and key, `PopTop` takes the one of the destination listed first
in `availableDestLinks`: its running minimum is replaced only by a key strictly below it
(`popTop_takes_first_listed`). -/

namespace Hdtn.Storage

variable {cfg : StorageConfig} {s s' : StoreState}

/-! ### No empty lists in the catalog -/

theorem noEmptyBucket_step {l : Label} (hne : s.destMap.NoEmptyBucket)
    (h : step cfg s l = some s') : s'.destMap.NoEmptyBucket := by
  cases l with
  | push w primary n =>
    obtain ⟨⟨k, t⟩, ht, rfl⟩ := Option.map_eq_some'.mp h
    obtain ⟨ws, -, -, ⟨ids, mm, -, -, rfl⟩ | ⟨-, rfl⟩⟩ := push_eq_some ht <;> exact hne
  | pushSegment w buf =>
    obtain ⟨⟨k, t⟩, ht, rfl⟩ := Option.map_eq_some'.mp h
    obtain ⟨ws, -, -, ⟨-, -, rfl⟩ | ⟨x, -, -, -, ⟨-, rfl⟩ | ⟨hp, -, rfl⟩⟩⟩ := pushSegment_eq_some ht
    · exact hne
    · exact hne
    · exact hne.insertChain
  | popTop r links =>
    obtain ⟨⟨k, t⟩, ht, rfl⟩ := Option.map_eq_some'.mp h
    obtain ⟨rs, -, -, ⟨-, -, rfl⟩ | ⟨key, c, -, -, rfl⟩⟩ := popTop_eq_some ht
    · exact hne
    · exact hne.popFront
  | returnTop r =>
    obtain ⟨rs, d, p, -, -, -, rfl⟩ := returnTop_eq_some h
    exact hne.insertChain
  | topSegmentCacheOne r =>
    obtain ⟨rs, -, -, -, rfl⟩ := topSegmentCacheOne_eq_some h
    exact hne
  | topSegment r =>
    obtain ⟨⟨res, t⟩, ht, rfl⟩ := Option.map_eq_some'.mp h
    obtain ⟨rs, -, -, -, -, -, -, rfl⟩ := topSegment_eq_some ht
    exact hne
  | removeReadBundleFromDisk r forceRemove =>
    obtain ⟨⟨ok, t⟩, ht, rfl⟩ := Option.map_eq_some'.mp h
    obtain ⟨rs, -, -, ⟨-, -, -, rfl⟩ | ⟨-, x, rest, -, -, rfl⟩⟩ := removeReadBundleFromDisk_eq_some ht
    · exact hne
    · exact hne
  | diskWorker d =>
    rcases diskWorker_eq_some h with ⟨x, data, rest, -, rfl⟩ | ⟨x, r, j, rest, -, ⟨rs, -, rfl⟩ | ⟨-, rfl⟩⟩
    all_goals exact hne

theorem noEmptyBucket_of_reachable (h : Reachable cfg s) : s.destMap.NoEmptyBucket := by
  obtain ⟨s₀, h₀, hrun⟩ := h
  refine hrun.invariant (fun _ _ _ hne _ hs => noEmptyBucket_step hne hs) ?_
  intro d pa hpa
  simp [StdMap.find?, h₀.destMap_eq, lookupKey] at hpa

/-! ### `PopTop` -/

theorem popTop_of_selectTop {r : Nat} {rs : SessionReadFromDisk} (hr : s.readSessions[r]? = some rs)
    (hidle : s.topSegmentIn = none) {links : List Nat} {o : Option (CatalogKey × ChainInfo)}
    (hsel : selectTop s.destMap links = some o) :
    ∃ k s', popTop s r links = some (k, s') ∧
      (o = none → k = 0 ∧ s'.destMap = s.destMap) ∧
      ∀ key c, o = some (key, c) → k = c.1 ∧
        s'.destMap = s.destMap.popFront key.dest key.priority key.expiration ∧
        (s'.readSessions[r]?).map (·.chainInfo) = some c := by
  unfold popTop
  cases o with
  | none =>
    simp only [hr, hidle, hsel]
    exact ⟨_, _, rfl, fun _ => ⟨rfl, rfl⟩, by simp⟩
  | some kc =>
    obtain ⟨key, c⟩ := kc
    simp only [hr, hidle, hsel]
    refine ⟨_, _, rfl, by simp, fun key' c' h => ?_⟩
    simp only [Option.some.injEq, Prod.mk.injEq] at h
    obtain ⟨rfl, rfl⟩ := h
    refine ⟨rfl, rfl, ?_⟩
    simp [List.getElem?_set, (List.getElem?_eq_some_iff.mp hr).1]

theorem mem_held_of_bucket {d : Nat} {p : Fin numberOfPriorities} {e : Nat} {c : ChainInfo}
    (h : c ∈ s.destMap.bucket d p e) : c ∈ s.held :=
  mem_held_of_mem_items (k := ⟨d, p, e⟩) (DestinationMap.mem_items.mpr h)

/-- **`PopTop` takes the first chain.**  On a reachable store, `PopTop` is defined; it returns
`0`, leaving the catalog as it is, exactly when no chain under the available destinations has a
key below `UINT64_MAX`; otherwise it returns the size (never `0`) of the chain it detaches from
the front of its bucket, which is first by priority, then expiration key, among those chains. -/
theorem popTop_takes_first (hs : Reachable cfg s) {r : Nat} {rs : SessionReadFromDisk}
    (hr : s.readSessions[r]? = some rs) (hidle : s.topSegmentIn = none) (links : List Nat) :
    ∃ k s', popTop s r links = some (k, s') ∧
      ((k = 0 ∧ s'.destMap = s.destMap ∧
          ∀ link ∈ links, ∀ p e, e < uint64Max → s.destMap.bucket link p e = []) ∨
        ∃ (key : CatalogKey) (c : ChainInfo) (rest : List ChainInfo),
          0 < k ∧ k = c.1 ∧ key.dest ∈ links ∧ key.expiration < uint64Max ∧
          s.destMap.bucket key.dest key.priority key.expiration = c :: rest ∧
          s'.destMap = s.destMap.popFront key.dest key.priority key.expiration ∧
          s'.destMap.bucket key.dest key.priority key.expiration = rest ∧
          (s'.readSessions[r]?).map (·.chainInfo) = some c ∧
          ∀ link ∈ links, ∀ p e, e < uint64Max → s.destMap.bucket link p e ≠ [] →
            p < key.priority ∨ p = key.priority ∧ key.expiration ≤ e) := by
  obtain ⟨o, hsel⟩ := Option.ne_none_iff_exists'.mp
    (selectTop_ne_none (noEmptyBucket_of_reachable hs) : selectTop s.destMap links ≠ none)
  obtain ⟨k, s', hpop, hnone, hsome⟩ := popTop_of_selectTop hr hidle hsel
  refine ⟨k, s', hpop, ?_⟩
  cases o with
  | none =>
    obtain ⟨rfl, hdm⟩ := hnone rfl
    refine .inl ⟨rfl, hdm, fun link hlink p e he => ?_⟩
    by_contra hb
    exact absurd (selectTop_none hsel link hlink p e hb) (by omega)
  | some kc =>
    obtain ⟨key, c⟩ := kc
    obtain ⟨rfl, hdm, hc⟩ := hsome key c rfl
    obtain ⟨hlink, ⟨rest, hb⟩, hlt, hfirst⟩ := selectTop_some hsel
    have hpos := ((Ownership.of_reachable hs).chainLength c
      (mem_held_of_bucket (by rw [hb]; exact List.mem_cons_self _ _))).1
    refine .inr ⟨key, c, rest, hpos, rfl, hlink, hlt, hb, hdm, ?_, hc,
      fun link hlink p e he hb' => hfirst link hlink p e hb' he⟩
    rw [hdm, DestinationMap.bucket_popFront, if_pos ⟨rfl, rfl, rfl⟩, hb, List.tail_cons]

/-- One-byte bulk bundles to nodes `1` and `2`, of the same expiration key, pushed on a fresh
store. -/
def tiedTrace : List Label :=
  [.push 0 bulkPrimary 1, .pushSegment 0 [7], .push 0 ⟨0, 0, 10, 2⟩ 1, .pushSegment 0 [8]]

def tiedStore : StoreState :=
  (runTrace smallConfig oneChainPerSession (freshStore smallConfig 1 1) tiedTrace).getD (freshStore smallConfig 1 1)

theorem runTrace_tiedTrace :
    runTrace smallConfig oneChainPerSession (freshStore smallConfig 1 1) tiedTrace = some tiedStore :=
  rfl

theorem popTop_takes_first_tied :
    Reachable smallConfig tiedStore ∧ ∃ k s', popTop tiedStore 0 [2, 1] = some (k, s') ∧
      ((k = 0 ∧ s'.destMap = tiedStore.destMap ∧
          ∀ link ∈ [2, 1], ∀ p e, e < uint64Max → tiedStore.destMap.bucket link p e = []) ∨
        ∃ (key : CatalogKey) (c : ChainInfo) (rest : List ChainInfo),
          0 < k ∧ k = c.1 ∧ key.dest ∈ [2, 1] ∧ key.expiration < uint64Max ∧
          tiedStore.destMap.bucket key.dest key.priority key.expiration = c :: rest ∧
          s'.destMap = tiedStore.destMap.popFront key.dest key.priority key.expiration ∧
          s'.destMap.bucket key.dest key.priority key.expiration = rest ∧
          (s'.readSessions[0]?).map (·.chainInfo) = some c ∧
          ∀ link ∈ [2, 1], ∀ p e, e < uint64Max → tiedStore.destMap.bucket link p e ≠ [] →
            p < key.priority ∨ p = key.priority ∧ key.expiration ≤ e) :=
  have hs : Reachable smallConfig tiedStore := ⟨_, freshStore_initial smallConfig 1 1, run_of_runTrace runTrace_tiedTrace⟩
  ⟨hs, popTop_takes_first hs rfl rfl [2, 1]⟩

/-- **Ties go to the destination listed first.**  When `PopTop` returns a non-zero size, the
session holds the chain taken from the expiration map of destination `d` and priority `p` it
points to, and no destination listed before `d` in `availableDestLinks` holds a chain of priority
`p` with a key at most the recorded one: of the chains `PopTop` may take (`popTop_takes_first`),
it takes the front chain of the destination listed first. -/
theorem popTop_takes_first_listed {r k : Nat} {links : List Nat} (h : popTop s r links = some (k, s'))
    (hk : 0 < k) :
    ∃ rs' d p, s'.readSessions[r]? = some rs' ∧ rs'.holdsCustody = true ∧ rs'.destLinkId = d ∧
      rs'.expirationMapPtr = some (d, p) ∧ ∃ L₁ L₂, links = L₁ ++ d :: L₂ ∧
        ∀ link ∈ L₁, ∀ e ≤ rs'.absExpiration, s.destMap.bucket link p e = [] := by
  obtain ⟨rs, hr, -, ⟨-, rfl, -⟩ | ⟨key, c, hsel, rfl, rfl⟩⟩ := popTop_eq_some h
  · exact absurd hk (Nat.lt_irrefl 0)
  obtain ⟨L₁, L₂, hl, hfirst⟩ := selectTop_first_listed hsel
  exact ⟨_, key.dest, key.priority, List.getElem?_set_self (List.getElem?_eq_some_iff.mp hr).1, rfl, rfl, rfl,
    L₁, L₂, hl, hfirst⟩

theorem popTop_takes_first_listed_tied :
    ∃ s', popTop tiedStore 0 [2, 1] = some (1, s') ∧ 0 < 1 ∧
      ∃ rs' d p, s'.readSessions[0]? = some rs' ∧ rs'.holdsCustody = true ∧ rs'.destLinkId = d ∧
        rs'.expirationMapPtr = some (d, p) ∧ ∃ L₁ L₂, [2, 1] = L₁ ++ d :: L₂ ∧
          ∀ link ∈ L₁, ∀ e ≤ rs'.absExpiration, tiedStore.destMap.bucket link p e = [] :=
  have ⟨s', h⟩ : ∃ s', popTop tiedStore 0 [2, 1] = some (1, s') := ⟨_, rfl⟩
  ⟨s', h, Nat.one_pos, popTop_takes_first_listed h Nat.one_pos⟩

/-- The primary block of a bulk bundle to node `1` whose `creation + lifetime` is `2^64 - 1`. -/
def uint64MaxPrimary : Bpv6PrimaryBlock := ⟨0, 0, 2 ^ 64 - 1, 1⟩

/-- A bundle stored under the key `UINT64_MAX` is never popped: `PopTop` returns `0` although the
catalog holds a chain under the available destination. -/
theorem popTop_misses_uint64Max_key :
    ∃ s, Reachable smallConfig s ∧ s.destMap.bucket 1 0 uint64Max ≠ [] ∧
      (popTop s 0 [1]).map (·.1) = some 0 := by
  obtain ⟨s, hs, hp⟩ := reachableUnder_of_runTrace smallConfig oneChainPerSession
    (freshStore_initial smallConfig 1 1)
    [.push 0 uint64MaxPrimary 1, .pushSegment 0 [7]]
    (fun s => decide (s.destMap.bucket 1 0 uint64Max ≠ [] ∧ (popTop s 0 [1]).map (·.1) = some 0))
    (by decide)
  exact ⟨s, hs, of_decide_eq_true hp⟩

/-! ### The priority index -/

/-- The primary block of a one-byte bundle to node `1` whose flags set both priority bits, the
value `11` reserved for future use. -/
def reservedPriorityPrimary : Bpv6PrimaryBlock := ⟨0x180, 0, 10, 1⟩

theorem priorityIndex_eq (p : Bpv6PrimaryBlock) : p.priorityIndex = p.flags / 2 ^ 7 % 4 := by
  rw [Bpv6PrimaryBlock.priorityIndex, Nat.shiftRight_eq_div_pow, show (3 : Nat) = 2 ^ 2 - 1 from rfl,
    Nat.and_pow_two_sub_one_eq_mod]

/-- **The reserved priority indexes past the priority array.**  `(flags >> 7) & 3` is below
`NUMBER_OF_PRIORITIES` exactly when the two priority bits are not both set.  A bundle whose
flags set both is pushed like any other, with priority index `3`; the `PushSegment` of its last
segment then indexes `priority_array_t`, of three expiration maps, with `3`. -/
theorem reserved_priority_out_of_bounds :
    (∀ p : Bpv6PrimaryBlock, p.priorityIndex < numberOfPriorities ↔ p.flags / 2 ^ 7 % 4 ≠ 3) ∧
      ∃ s, Reachable smallConfig s ∧ (s.writeSessions[0]?).map SessionWriteToDisk.priorityIndex = some 3 ∧
        (s.writeSessions[0]?).map SessionWriteToDisk.chainInfo = some (1, [0]) ∧
        pushSegment smallConfig s 0 [7] = none := by
  refine ⟨fun p => by rw [priorityIndex_eq, show numberOfPriorities = 3 from rfl]; omega, ?_⟩
  obtain ⟨s, hs, hp⟩ := reachableUnder_of_runTrace smallConfig oneChainPerSession
    (freshStore_initial smallConfig 1 1) [.push 0 reservedPriorityPrimary 1]
    (fun s => decide ((s.writeSessions[0]?).map SessionWriteToDisk.priorityIndex = some 3 ∧
      (s.writeSessions[0]?).map SessionWriteToDisk.chainInfo = some (1, [0]) ∧
        (pushSegment smallConfig s 0 [7]).isNone))
    (by decide)
  obtain ⟨h₁, h₂, h₃⟩ := of_decide_eq_true hp
  exact ⟨s, hs, h₁, h₂, Option.isNone_iff_eq_none.mp h₃⟩

/-! ### `ReturnTop` -/

/-- **`ReturnTop` undoes `PopTop`.**  When `PopTop` returns a non-zero size, an immediately
following `ReturnTop` on the same session puts the catalog back exactly as it was, also when
`PopTop` erased the list it emptied; a second `PopTop` with the same destinations then takes the
same chain again, into the same state. -/
theorem returnTop_undoes_popTop {r k : Nat} {links : List Nat} {s₁ : StoreState}
    (h : popTop s r links = some (k, s₁)) (hk : 0 < k) :
    ∃ s₂, returnTop s₁ r = some s₂ ∧ s₂.destMap = s.destMap ∧ popTop s₂ r links = some (k, s₁) := by
  obtain ⟨rs, hr, hidle, ⟨-, rfl, -⟩ | ⟨key, c, hsel, rfl, hs₁⟩⟩ := popTop_eq_some h
  · exact absurd hk (Nat.lt_irrefl 0)
  obtain ⟨-, ⟨rest, hb⟩, -⟩ := selectTop_some hsel
  have hlt := (List.getElem?_eq_some_iff.mp hr).1
  subst hs₁
  refine ⟨_, by simp [returnTop, hidle, List.getElem?_set_self hlt]; rfl,
    by exact DestinationMap.insertChain_popFront hb, ?_⟩
  simp [popTop, hidle, List.getElem?_set_self hlt, DestinationMap.insertChain_popFront hb, hsel, List.set_set]

/-- A one-byte bulk bundle to node `1` pushed on a fresh store. -/
def oneBundleTrace : List Label := [.push 0 bulkPrimary 1, .pushSegment 0 [7]]

def oneBundleStore : StoreState :=
  (runTrace smallConfig oneChainPerSession (freshStore smallConfig 1 1) oneBundleTrace).getD
    (freshStore smallConfig 1 1)

theorem runTrace_oneBundleTrace :
    runTrace smallConfig oneChainPerSession (freshStore smallConfig 1 1) oneBundleTrace = some oneBundleStore :=
  rfl

theorem returnTop_undoes_popTop_oneBundle :
    ∃ s₁, popTop oneBundleStore 0 [1] = some (1, s₁) ∧ 0 < 1 ∧
      ∃ s₂, returnTop s₁ 0 = some s₂ ∧ s₂.destMap = oneBundleStore.destMap ∧ popTop s₂ 0 [1] = some (1, s₁) :=
  have ⟨s₁, h⟩ : ∃ s₁, popTop oneBundleStore 0 [1] = some (1, s₁) := ⟨_, rfl⟩
  ⟨s₁, h, Nat.one_pos, returnTop_undoes_popTop h Nat.one_pos⟩

end Hdtn.Storage
