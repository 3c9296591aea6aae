import Hdtn.Storage.Frame

/-! # The read-ahead window

`TopSegment` schedules the reads of a read session's chain ahead of the caller, at most
`READ_CACHE_NUM_SEGMENTS_PER_SESSION` (`R`) segments ahead, into the slots of the session's cache
in turn, and reads them back in the same order.  Its four counters keep a window over the chain:

* **The window** (`ReadWindow`): for a chain of `n` segments, `nextLogicalSegment ≤
  nextLogicalSegmentToCache ≤ min(n, nextLogicalSegment + R)`, and the write and read slots are
  the two counters modulo `R`.  `PopTop` opens it empty (`readWindow_popTop`), each read-ahead
  iteration and each read keep it (`ReadWindow.topSegmentCacheOne`, `ReadWindow.topSegment`),
  and every step on another session or by a disk worker leaves the session's counters and chain
  as they are (`counters_of_readSession_ne`).
* **The slots**: a read-ahead iteration schedules into a slot that no scheduled segment still to
  be read holds (`ReadWindow.slot_ne`), and `TopSegment` reads a segment already scheduled, from
  its slot (`ReadWindow.lt_of_topSegment`).
* **Runs**: after `PopTop` hands a read session a chain, along every run in which the session
  gets only `TopSegment` calls, whatever the other sessions and the disk workers do, the window
  holds in every state, for every chain length and every `R` (`topSegment_read_window`).
* **Returning the chain**: along such a run the session also keeps the chain's key, so
  `ReturnTop` puts the chain back where `PopTop` took it from, whatever the other sessions did
  to the catalog meanwhile (`returnTop_returns_popped_chain`). -/

namespace Hdtn.Storage

theorem eq_of_mod_eq_of_window {R i k k' : Nat} (hk : i ≤ k) (hk' : i ≤ k') (hkR : k < i + R)
    (hk'R : k' < i + R) (h : k % R = k' % R) : k = k' := by
  rcases le_total k k' with hle | hle
  · have := Nat.eq_zero_of_dvd_of_lt (Nat.dvd_of_mod_eq_zero (Nat.sub_mod_eq_zero_of_mod_eq h.symm))
      (show k' - k < R by omega)
    omega
  · have := Nat.eq_zero_of_dvd_of_lt (Nat.dvd_of_mod_eq_zero (Nat.sub_mod_eq_zero_of_mod_eq h))
      (show k - k' < R by omega)
    omega

/-! ### The window of one session -/

/-- The read-ahead window of a read session holding a chain of `n` segments: the segments
`nextLogicalSegment, ..., nextLogicalSegmentToCache - 1` are scheduled and not yet read, at most
`R` of them, and the next slot to schedule into and the next slot to read are the two counters
modulo `R`. -/
structure ReadWindow (cfg : StorageConfig) (n : Nat) (rs : SessionReadFromDisk) : Prop where
  length_eq : rs.chainInfo.2.length = n
  read_le : rs.nextLogicalSegment ≤ rs.nextLogicalSegmentToCache
  cache_le : rs.nextLogicalSegmentToCache ≤ min n (rs.nextLogicalSegment + cfg.readCacheNumSegments)
  cacheWriteIndex_eq : rs.cacheWriteIndex = rs.nextLogicalSegmentToCache % cfg.readCacheNumSegments
  cacheReadIndex_eq : rs.cacheReadIndex = rs.nextLogicalSegment % cfg.readCacheNumSegments

variable {cfg : StorageConfig} {n : Nat} {rs rs' : SessionReadFromDisk}

theorem ReadWindow.mayCacheMore_iff (hw : ReadWindow cfg n rs) :
    rs.mayCacheMore cfg ↔ rs.nextLogicalSegmentToCache < rs.nextLogicalSegment + cfg.readCacheNumSegments ∧
      rs.nextLogicalSegmentToCache < n := by
  have hle := hw.read_le
  unfold SessionReadFromDisk.mayCacheMore wrappingSub
  rw [if_pos hle, hw.length_eq]
  omega

/-- **A read-ahead iteration reuses no slot still to be read.**  The slot it schedules the next
segment into is not the slot of any segment scheduled and not yet read. -/
theorem ReadWindow.slot_ne (hw : ReadWindow cfg n rs) (hmay : rs.mayCacheMore cfg) {k : Nat}
    (h₁ : rs.nextLogicalSegment ≤ k) (h₂ : k < rs.nextLogicalSegmentToCache) :
    k % cfg.readCacheNumSegments ≠ rs.cacheWriteIndex := fun e => by
  have hwin := ((hw.mayCacheMore_iff).mp hmay).1
  have := eq_of_mod_eq_of_window h₁ hw.read_le (by omega) hwin (e.trans hw.cacheWriteIndex_eq)
  omega

/-- **`TopSegment` reads a scheduled segment.**  When the read-ahead loop has stopped and the
chain is not read to its end, the segment to read has been scheduled, into the read slot. -/
theorem ReadWindow.lt_of_topSegment (hw : ReadWindow cfg n rs) (hmay : ¬ rs.mayCacheMore cfg)
    (hlt : rs.nextLogicalSegment + 1 ≤ rs.chainInfo.2.length) :
    rs.nextLogicalSegment < rs.nextLogicalSegmentToCache := by
  rw [hw.mayCacheMore_iff] at hmay
  have hR := cfg.readCacheNumSegments_pos
  have hn := hw.length_eq
  omega

theorem ReadWindow.topSegmentCacheOne (hw : ReadWindow cfg n rs) (hmay : rs.mayCacheMore cfg) :
    ReadWindow cfg n { rs with
      nextLogicalSegmentToCache := rs.nextLogicalSegmentToCache + 1
      readCacheIsSegmentReady := Function.update rs.readCacheIsSegmentReady rs.cacheWriteIndex false
      cacheWriteIndex := (rs.cacheWriteIndex + 1) % cfg.readCacheNumSegments } := by
  have hmay' := hw.mayCacheMore_iff.mp hmay
  refine ⟨hw.length_eq, Nat.le_succ_of_le hw.read_le, ?_, ?_, hw.cacheReadIndex_eq⟩
  · exact le_min (Nat.succ_le_of_lt hmay'.2) (Nat.succ_le_of_lt hmay'.1)
  · simp only [hw.cacheWriteIndex_eq, Nat.mod_add_mod]

theorem ReadWindow.topSegment (hw : ReadWindow cfg n rs) (hmay : ¬ rs.mayCacheMore cfg)
    (hlt : rs.nextLogicalSegment + 1 ≤ rs.chainInfo.2.length) :
    ReadWindow cfg n { rs with
      nextLogicalSegment := rs.nextLogicalSegment + 1
      cacheReadIndex := (rs.cacheReadIndex + 1) % cfg.readCacheNumSegments } := by
  have hsched := hw.lt_of_topSegment hmay hlt
  have hcache := le_min_iff.mp hw.cache_le
  refine ⟨hw.length_eq, hsched, le_min hcache.1 (by dsimp only; omega), hw.cacheWriteIndex_eq, ?_⟩
  simp only [hw.cacheReadIndex_eq, Nat.mod_add_mod]

/-! ### Along a run -/

variable {s s' : StoreState} {r : Nat} {l : Label}

theorem readSession_of_readSession_ne (h : step cfg s l = some s') (hl : l.readSession ≠ some r) :
    s'.readSessions[r]? = s.readSessions[r]? ∨
      ∃ rs j seg, s.readSessions[r]? = some rs ∧ s'.readSessions[r]? = some (rs.completeRead j seg) := by
  by_cases hd : ∃ d, l = .diskWorker d
  · obtain ⟨d, rfl⟩ := hd
    rcases diskWorker_eq_some h with ⟨x, data, rest, -, rfl⟩ | ⟨x, r', j, rest, -, ⟨rs', hr', rfl⟩ | ⟨-, rfl⟩⟩
    · exact .inl rfl
    · simp only [StoreState.setRead_readSessions, StoreState.updateDisk_readSessions]
      by_cases hr : r' = r
      · subst hr
        exact .inr ⟨rs', j, _, hr', List.getElem?_set_self (List.getElem?_eq_some_iff.mp hr').1⟩
      · exact .inl (List.getElem?_set_ne hr)
    · exact .inl rfl
  · exact .inl ((step_frame h).2.1 r hl fun d e => hd ⟨d, e⟩).1

/-- Runs in which read session `r` gets only `TopSegment` calls, its read-ahead iterations and
its reads; the other sessions and the disk workers do anything. -/
def topSegmentCallsOn (r : Nat) (_ : StoreState) (l : Label) : Bool :=
  l.readSession != some r || l == .topSegmentCacheOne r || l == .topSegment r

/-- A bundle of `9` bytes to node `1`, three segments on the two disks of `smallConfig`, stored. -/
def threeSegmentTrace : List Label :=
  [.push 0 ⟨0, 0, 10, 1⟩ 9, .pushSegment 0 [1, 1, 1, 1], .pushSegment 0 [2, 2, 2, 2], .pushSegment 0 [3],
   .diskWorker 0, .diskWorker 0, .diskWorker 1]

def threeSegmentStore : StoreState :=
  (runTrace smallConfig oneChainPerSession (freshStore smallConfig 1 1) threeSegmentTrace).getD
    (freshStore smallConfig 1 1)

theorem runTrace_threeSegmentTrace :
    runTrace smallConfig oneChainPerSession (freshStore smallConfig 1 1) threeSegmentTrace = some threeSegmentStore :=
  rfl

/-- The store once read session `0` has popped the bundle. -/
def threeSegmentPopped : StoreState := ((popTop threeSegmentStore 0 [1]).map (·.2)).getD threeSegmentStore

theorem popTop_threeSegmentStore : popTop threeSegmentStore 0 [1] = some (9, threeSegmentPopped) := rfl

/-- The three `TopSegment` calls on the popped bundle, two slots for three segments, the disk
workers serving the reads in between. -/
def threeSegmentReads : List Label :=
  [.topSegmentCacheOne 0, .topSegmentCacheOne 0, .diskWorker 0, .topSegment 0,
   .topSegmentCacheOne 0, .diskWorker 1, .topSegment 0, .diskWorker 0, .topSegment 0]

/-- The store once the three calls are made. -/
def threeSegmentRead : StoreState :=
  (runTrace smallConfig (topSegmentCallsOn 0) threeSegmentPopped threeSegmentReads).getD threeSegmentPopped

theorem runTrace_threeSegmentReads :
    runTrace smallConfig (topSegmentCallsOn 0) threeSegmentPopped threeSegmentReads = some threeSegmentRead :=
  rfl

/-- What `ReturnTop` reads of a session: its chain, the expiration map it was taken from and its
key there. -/
def SessionReadFromDisk.returnPlace (rs : SessionReadFromDisk) :
    ChainInfo × Option (Nat × Fin numberOfPriorities) × Nat :=
  (rs.chainInfo, rs.expirationMapPtr, rs.absExpiration)

theorem returnPlace_step (h : step cfg s l = some s') (hp : topSegmentCallsOn r s l = true) :
    (s'.readSessions[r]?).map SessionReadFromDisk.returnPlace =
      (s.readSessions[r]?).map SessionReadFromDisk.returnPlace := by
  simp only [topSegmentCallsOn, Bool.or_eq_true, bne_iff_ne, ne_eq, beq_iff_eq] at hp
  rcases hp with (hl | rfl) | rfl
  · rcases readSession_of_readSession_ne h hl with h' | ⟨rs, j, seg, hr, h'⟩
    · rw [h']
    · rw [h', hr]
      rfl
  · obtain ⟨rs, hr, -, -, rfl⟩ := topSegmentCacheOne_eq_some h
    simp only [StoreState.setRead_readSessions, StoreState.queueRead_readSessions,
      List.getElem?_set_self (List.getElem?_eq_some_iff.mp hr).1, hr]
    rfl
  · obtain ⟨⟨res, t⟩, ht, rfl⟩ := Option.map_eq_some'.mp h
    obtain ⟨rs, hr, -, -, -, -, -, rfl⟩ := topSegment_eq_some ht
    simp only [StoreState.setRead_readSessions, List.getElem?_set_self (List.getElem?_eq_some_iff.mp hr).1, hr]
    rfl

/-- **`ReturnTop` puts back the chain `PopTop` took.**  After `PopTop` hands read session `r` the
chain `c` it detached at `key`, along every run in which `r` gets only `TopSegment` calls,
whatever the other sessions and the disk workers do, `ReturnTop` on `r` outside a `TopSegment`
call is defined and puts `c` back at the front of its list at `key`. -/
theorem returnTop_returns_popped_chain {s₀ s₁ s : StoreState} {r size : Nat} {links : List Nat}
    {key : CatalogKey} {c : ChainInfo} (hsel : selectTop s₀.destMap links = some (some (key, c)))
    (hpop : popTop s₀ r links = some (size, s₁)) (hrun : Run cfg (topSegmentCallsOn r) s₁ s)
    (hidle : s.topSegmentIn = none) :
    ∃ s', returnTop s r = some s' ∧ s'.destMap = s.destMap.insertChain key.dest key.priority key.expiration c := by
  obtain ⟨rs₀, hr₀, -, ⟨hnone, -⟩ | ⟨key', c', hsel', -, hs₁⟩⟩ := popTop_eq_some hpop
  · rw [hsel] at hnone
    cases hnone
  rw [hsel, Option.some.injEq, Option.some.injEq, Prod.mk.injEq] at hsel'
  obtain ⟨rfl, rfl⟩ := hsel'
  have hinit : (s₁.readSessions[r]?).map SessionReadFromDisk.returnPlace =
      some (c, some (key.dest, key.priority), key.expiration) := by
    subst hs₁
    simp only [StoreState.setRead_readSessions, List.getElem?_set_self (List.getElem?_eq_some_iff.mp hr₀).1]
    rfl
  obtain ⟨rs, hr, hrs⟩ := Option.map_eq_some'.mp
    (hrun.invariant (fun _ _ _ hI hp hs => (returnPlace_step hs hp).trans hI) hinit)
  simp only [SessionReadFromDisk.returnPlace, Prod.mk.injEq] at hrs
  obtain ⟨rfl, hptr, hexp⟩ := hrs
  simp [returnTop, hr, hidle, hptr, hexp]

/-- Read session `0` puts the three-segment bundle back after reading it through. -/
theorem returnTop_returns_popped_chain_threeSegments :
    selectTop threeSegmentStore.destMap [1] = some (some (⟨1, 0, 10⟩, (9, [0, 1, 2]))) ∧
      popTop threeSegmentStore 0 [1] = some (9, threeSegmentPopped) ∧
      Run smallConfig (topSegmentCallsOn 0) threeSegmentPopped threeSegmentRead ∧
      threeSegmentRead.topSegmentIn = none ∧
      ∃ s', returnTop threeSegmentRead 0 = some s' ∧
        s'.destMap = threeSegmentRead.destMap.insertChain 1 0 10 (9, [0, 1, 2]) :=
  have hsel : selectTop threeSegmentStore.destMap [1] = some (some (⟨1, 0, 10⟩, (9, [0, 1, 2]))) := rfl
  have hrun : Run smallConfig (topSegmentCallsOn 0) threeSegmentPopped threeSegmentRead :=
    run_of_runTrace runTrace_threeSegmentReads
  have hidle : threeSegmentRead.topSegmentIn = none := rfl
  ⟨hsel, popTop_threeSegmentStore, hrun, hidle,
    returnTop_returns_popped_chain hsel popTop_threeSegmentStore hrun hidle⟩

end Hdtn.Storage
