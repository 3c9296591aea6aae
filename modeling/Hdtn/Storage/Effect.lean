import Hdtn.Storage.Restore
import Hdtn.Storage.Selection
import Mathlib.Tactic.Abel

/-! # What one step does

Every step of the store, stated once: how it moves the store's chains between their owners,
what it allocates or frees, and which records of the store files it writes.  The invariants
(`Ownership`, `Durable`) are derived from this alone.

* **Records.**  `StoreState.record` is the record of a segment in the *effective* files, the
  store files once every queued write is served.  Reads and the disk workers leave the records
  as they are; a committed write sets its segment's record and may extend the file with zeros
  below it (`record_queueWrite`).
* **Keyed chains.**  Each chain of the store has one owner: the catalog, an open write session
  or a read session holding custody.  `StoredChain` records it with the catalog key it belongs
  under and the number of its segments already written.
* **Steps.**  `StepEffect` lists the four things a step can do: move chains between owners,
  allocate a chain (`Push`), write the next segment of an open chain (`PushSegment`), or free a
  chain whose custody its read session gives up (`RemoveReadBundleFromDisk`).  One lemma per
  operation says which. -/

namespace Hdtn.Storage

open scoped List

/-! ### Effective records -/

theorem div_eq_div_iff_of_mod_eq {D x y : Nat} (h : x % D = y % D) : x / D = y / D ↔ x = y := by
  refine ⟨fun hd => ?_, fun hxy => hxy ▸ rfl⟩
  rw [← Nat.div_add_mod x D, ← Nat.div_add_mod y D, hd, h]

theorem div_lt_div_iff_of_mod_eq {D x y : Nat} (h : x % D = y % D) : x / D < y / D ↔ x < y := by
  have hx := Nat.div_add_mod x D
  have hy := Nat.div_add_mod y D
  rcases Nat.eq_zero_or_pos D with rfl | hD
  · simp only [Nat.mod_zero] at h
    simp [h]
  have := Nat.mod_lt x hD
  constructor
  · intro hlt
    have : D * (x / D) + D ≤ D * (y / D) := by
      calc D * (x / D) + D = D * (x / D + 1) := (Nat.mul_succ D _).symm
        _ ≤ D * (y / D) := Nat.mul_le_mul_left _ hlt
    omega
  · intro hlt
    by_contra hle
    have : D * (y / D) ≤ D * (x / D) := Nat.mul_le_mul_left _ (not_lt.mp hle)
    omega

namespace StoreState

variable (cfg : StorageConfig) (s : StoreState)

/-- The file of disk `d` once every write queued in its ring is served. -/
def effectiveFile (d : Nat) : List Segment :=
  applyWrites cfg.numStorageDisks cfg.perSegmentSize (s.disks d).file (s.disks d).ring

/-- The record of segment `x` in the effective files. -/
def record (x : Nat) : Option Segment := readStored cfg (s.effectiveFile cfg) x

end StoreState

section records

variable {cfg : StorageConfig} {s s' : StoreState}

theorem record_of_disks (h : s'.disks = s.disks) : s'.record cfg = s.record cfg := by
  unfold StoreState.record StoreState.effectiveFile
  rw [h]

theorem record_queueRead (x r j : Nat) : (s.queueRead cfg x r j).record cfg = s.record cfg := by
  funext y
  simp only [StoreState.record, readStored, StoreState.effectiveFile, StoreState.queueRead,
    StoreState.updateDisk_disks]
  by_cases hd : diskIndex cfg y = diskIndex cfg x
  · rw [hd, Function.update_same]
    simp [Disk.commitRead, applyWrites_concat_read]
  · rw [Function.update_noteq hd]

theorem record_queueWrite (y : Nat) (u : Segment → Segment) (x : Nat) :
    (s.queueWrite cfg y u).record cfg x =
      if x = y then
        some (u ((s.disks (diskIndex cfg y)).arena
          ((s.disks (diskIndex cfg y)).commits % cfg.circularIndexBufferSize)))
      else if diskIndex cfg x = diskIndex cfg y ∧ s.record cfg x = none ∧ x < y then
        some (Segment.zero cfg.perSegmentSize)
      else s.record cfg x := by
  simp only [StoreState.record, readStored, StoreState.effectiveFile, StoreState.queueWrite,
    StoreState.updateDisk_disks]
  by_cases hd : diskIndex cfg x = diskIndex cfg y
  · rw [hd, Function.update_same]
    simp only [Disk.commitWrite, applyWrites_concat_write, readSegment_writeSegment]
    have hmod : x % cfg.numStorageDisks = y % cfg.numStorageDisks := hd
    simp only [div_eq_div_iff_of_mod_eq hmod, div_lt_div_iff_of_mod_eq hmod, readSegment,
      List.getElem?_eq_none_iff, true_and, not_le]
    split_ifs <;> first | rfl | omega | exact (List.getElem?_eq_none (by omega)).symm
  · have hxy : x ≠ y := fun h => hd (h ▸ rfl)
    rw [Function.update_noteq hd, if_neg hxy, if_neg (fun h => hd h.1)]

theorem record_diskWorker {d : Nat} (h : diskWorker cfg s d = some s') : s'.record cfg = s.record cfg := by
  funext y
  simp only [StoreState.record, readStored, StoreState.effectiveFile]
  rcases diskWorker_eq_some h with ⟨x, data, rest, hring, rfl⟩ | ⟨x, r, j, rest, hring, ⟨rs, -, rfl⟩ | ⟨-, rfl⟩⟩
  all_goals
    by_cases hd : diskIndex cfg y = d
    · subst hd
      simp [hring]
    · simp [Function.update_noteq hd]

theorem record_ne_none_of_lt {x y : Nat} (hd : diskIndex cfg x = diskIndex cfg y) (hxy : x < y)
    (hy : s.record cfg y ≠ none) : s.record cfg x ≠ none := by
  simp only [StoreState.record, readStored, readSegment, ne_eq, List.getElem?_eq_none_iff,
    not_le] at hy ⊢
  rw [hd]
  exact lt_trans ((div_lt_div_iff_of_mod_eq hd).mpr hxy) hy

end records

/-! ### Keyed chains -/

/-- A chain of the store, with the catalog key it belongs under and the number of its segments
already written. -/
structure StoredChain where
  dest : Nat
  priority : Nat
  expiration : Nat
  chain : ChainInfo
  written : Nat

/-- The destination and priority index of `expirationMapPtr`, where `ReturnTop` puts the chain
back. -/
def SessionReadFromDisk.returnKey (rs : SessionReadFromDisk) : Nat × Nat :=
  match rs.expirationMapPtr with
  | some (link, i) => (link, i)
  | none => (0, 0)

/-- The chain an open write session holds, under the key of its `Push`. -/
def SessionWriteToDisk.stored (ws : SessionWriteToDisk) : List StoredChain :=
  if ws.isOpen then
    [⟨ws.destLinkId, ws.priorityIndex, ws.absExpiration, ws.chainInfo, ws.nextLogicalSegment⟩]
  else []

/-- The chain a read session holds custody of, under the key it was taken from. -/
def SessionReadFromDisk.stored (rs : SessionReadFromDisk) : List StoredChain :=
  if rs.holdsCustody then
    [⟨rs.returnKey.1, rs.returnKey.2, rs.absExpiration, rs.chainInfo, rs.chainInfo.2.length⟩]
  else []

/-- A chain of the catalog under its key. -/
def StoredChain.ofItem (item : CatalogKey × ChainInfo) : StoredChain :=
  ⟨item.1.dest, item.1.priority, item.1.expiration, item.2, item.2.2.length⟩

/-- The chains of the store by owner: the catalog, the open write sessions, the read sessions
that hold custody. -/
def StoreState.storedChains (s : StoreState) : List StoredChain :=
  s.destMap.items.map StoredChain.ofItem ++ s.writeSessions.flatMap (·.stored) ++
    s.readSessions.flatMap (·.stored)

/-- The header `PushSegment` gives logical segment `k` of chain `c` (`pushedSegment`). -/
def RecordOk (c : ChainInfo) (k : Nat) (seg : Segment) : Prop :=
  seg.bundleSizeBytes = (if k = 0 then c.1 else uint64Max) ∧
    seg.nextSegmentId = (if k + 1 = c.2.length then uint32Max else c.2.getD (k + 1) 0)

/-- `decode` reads the key of `e` from the payload of `seg`. -/
def StoredChain.KeyDecodes (decode : List UInt8 → Option Bpv6PrimaryBlock) (e : StoredChain)
    (seg : Segment) : Prop :=
  ∃ p, decode seg.payload = some p ∧ p.dstNode = e.dest ∧ p.priorityIndex = e.priority ∧
    p.absExpiration = e.expiration

section keyed

variable {s t : StoreState}

theorem flatMap_set {α β : Type} (g : α → List β) (b : α) :
    ∀ {l : List α} {i : Nat} {a : α}, l[i]? = some a →
      ∃ m : Multiset β, ↑(l.flatMap g) = ↑(g a) + m ∧ ↑((l.set i b).flatMap g) = ↑(g b) + m
  | [], _, _, h => by simp at h
  | x :: xs, 0, a, h => by
    simp only [List.getElem?_cons_zero, Option.some.injEq] at h
    subst h
    exact ⟨↑(xs.flatMap g), by simp, by simp⟩
  | x :: xs, i + 1, a, h => by
    simp only [List.getElem?_cons_succ] at h
    obtain ⟨m, h₁, h₂⟩ := flatMap_set g b h
    refine ⟨↑(g x) + m, ?_, ?_⟩
    · rw [List.flatMap_cons, ← Multiset.coe_add, h₁]; abel
    · rw [List.set_cons_succ, List.flatMap_cons, ← Multiset.coe_add, h₂]; abel

theorem flatMap_set_of_eq {α β : Type} {g : α → List β} {l : List α} {i : Nat} {a b : α}
    (h : l[i]? = some a) (hab : g b = g a) :
    (↑((l.set i b).flatMap g) : Multiset β) = ↑(l.flatMap g) := by
  obtain ⟨m, h₁, h₂⟩ := flatMap_set g b h
  rw [h₂, hab, h₁]

theorem storedChains_coe (s : StoreState) :
    (s.storedChains : Multiset StoredChain) = ↑(s.destMap.items.map StoredChain.ofItem) +
      ↑(s.writeSessions.flatMap (·.stored)) + ↑(s.readSessions.flatMap (·.stored)) := by
  simp [StoreState.storedChains]

theorem ofItems_insertChain (dm : DestinationMap) (d : Nat) (p : Fin numberOfPriorities) (e : Nat)
    (c : ChainInfo) :
    (↑((dm.insertChain d p e c).items.map StoredChain.ofItem) : Multiset StoredChain) =
      StoredChain.ofItem (⟨d, p, e⟩, c) ::ₘ ↑(dm.items.map StoredChain.ofItem) :=
  Multiset.coe_eq_coe.mpr (by simpa using DestinationMap.items_insertChain.map StoredChain.ofItem)

theorem ofItems_popFront {dm : DestinationMap} {d : Nat} {p : Fin numberOfPriorities} {e : Nat}
    {c : ChainInfo} {rest : List ChainInfo} (h : dm.bucket d p e = c :: rest) :
    (↑(dm.items.map StoredChain.ofItem) : Multiset StoredChain) =
      StoredChain.ofItem (⟨d, p, e⟩, c) ::ₘ ↑((dm.popFront d p e).items.map StoredChain.ofItem) :=
  Multiset.coe_eq_coe.mpr (by simpa using (DestinationMap.items_popFront h).map StoredChain.ofItem)

end keyed

/-! ### What a step can do -/

/-- `record'` is `record` with segment `y` written as `seg`: another record changes only where
the file did not reach it, below `y` on the same disk. -/
def WritesRecord (cfg : StorageConfig) (record record' : Nat → Option Segment) (y : Nat)
    (seg : Segment) : Prop :=
  record' y = some seg ∧
    ∀ x ≠ y, record' x = record x ∨ record x = none ∧ diskIndex cfg x = diskIndex cfg y ∧ x < y

/-- The effect of step `l` from `s` to `s'`. -/
inductive StepEffect (cfg : StorageConfig) (l : Label) (s s' : StoreState) : Prop
  /-- Chains change owner; nothing is allocated, freed or written. -/
  | same : (s'.storedChains : Multiset StoredChain) = s.storedChains →
      s'.memoryManager.allocated = s.memoryManager.allocated → s'.record cfg = s.record cfg →
      StepEffect cfg l s s'
  /-- A new chain of the smallest free segments, none written yet. -/
  | alloc (e : StoredChain) : (s'.storedChains : Multiset StoredChain) = e ::ₘ s.storedChains →
      e.written = 0 → e.chain.2.Nodup → 0 < e.chain.1 →
      e.chain.2.length = totalSegmentsRequired cfg.perSegmentSize e.chain.1 →
      (∀ x ∈ e.chain.2, x < cfg.maxSegments ∧ x ∉ s.memoryManager.allocated) →
      (∀ x ∈ e.chain.2, ∀ y < x, y ∈ s.memoryManager.allocated ∨ y ∈ e.chain.2) →
      s'.memoryManager.allocated = s.memoryManager.allocated ∪ e.chain.2.toFinset →
      s'.record cfg = s.record cfg → StepEffect cfg l s s'
  /-- The next segment of an open chain written, with its header; a head's payload decodes as
  the protocol says. -/
  | write (e : StoredChain) (m : Multiset StoredChain) (seg : Segment) :
      (s.storedChains : Multiset StoredChain) = e ::ₘ m →
      (s'.storedChains : Multiset StoredChain) = { e with written := e.written + 1 } ::ₘ m →
      e.written < e.chain.2.length → RecordOk e.chain e.written seg →
      (∀ decode, PrefixDecoder decode → headDecodes decode s l = true → e.written = 0 →
        e.KeyDecodes decode seg) →
      WritesRecord cfg (s.record cfg) (s'.record cfg) (e.chain.2.getD e.written 0) seg →
      s'.memoryManager.allocated = s.memoryManager.allocated → StepEffect cfg l s s'
  /-- A fully written chain given up: its head marked `UINT64_MAX`, its segments freed. -/
  | free (e : StoredChain) (seg : Segment) :
      (s.storedChains : Multiset StoredChain) = e ::ₘ s'.storedChains →
      e.written = e.chain.2.length →
      s'.memoryManager = (s.memoryManager.freeSegments e.chain.2).2 →
      seg.bundleSizeBytes = uint64Max →
      WritesRecord cfg (s.record cfg) (s'.record cfg) (e.chain.2.getD 0 0) seg →
      StepEffect cfg l s s'

section effects

variable {cfg : StorageConfig} {s s' : StoreState}

theorem writesRecord_queueWrite (y : Nat) (u : Segment → Segment) :
    WritesRecord cfg (s.record cfg) ((s.queueWrite cfg y u).record cfg) y
      (u ((s.disks (diskIndex cfg y)).arena
        ((s.disks (diskIndex cfg y)).commits % cfg.circularIndexBufferSize))) := by
  refine ⟨by rw [record_queueWrite, if_pos rfl], fun x hxy => ?_⟩
  rw [record_queueWrite, if_neg hxy]
  split_ifs with h
  · exact .inr ⟨h.2.1, h.1, h.2.2⟩
  · exact .inl rfl

theorem stepEffect_push {w n k : Nat} {primary : Bpv6PrimaryBlock}
    (hclosed : (s.writeSessions[w]?).any (·.isOpen) = false)
    (h : push cfg s w primary n = some (k, s')) : StepEffect cfg (.push w primary n) s s' := by
  obtain ⟨ws, hw, -, hres⟩ := push_eq_some h
  rw [hw, Option.any_some] at hclosed
  have hws : ws.stored = [] := by simp [SessionWriteToDisk.stored, hclosed]
  have hrec : s'.record cfg = s.record cfg :=
    record_of_disks (by rcases hres with ⟨_, _, _, _, rfl⟩ | ⟨_, rfl⟩ <;> rfl)
  rcases hres with ⟨ids, mm, ha, hk, rfl⟩ | ⟨rfl, rfl⟩
  · obtain ⟨hlen, hnd, hfresh, hmm⟩ := MemoryManager.allocateSegments_spec ha
    by_cases hpos : 0 < k
    · obtain ⟨m, h₁, h₂⟩ := flatMap_set (·.stored) (ws.prepare primary n ids (decide (0 < k))) hw
      refine .alloc ⟨primary.dstNode, primary.priorityIndex, primary.absExpiration, (n, ids), 0⟩ ?_ rfl
        hnd (pos_of_totalSegmentsRequired_pos (hk ▸ hpos)) (hlen.trans hk) hfresh
        (fun x hx y hy => MemoryManager.allocateSegments_smallest ha hx hy) hmm hrec
      simp only [storedChains_coe, StoreState.setWrite_destMap, StoreState.setWrite_writeSessions,
        StoreState.setWrite_readSessions, h₁, h₂, hws]
      simp [SessionWriteToDisk.stored, SessionWriteToDisk.isOpen, SessionWriteToDisk.prepare, hpos, hlen,
        ← Multiset.singleton_add]
      abel
    · have hids : ids = [] := List.eq_nil_of_length_eq_zero (by omega)
      refine .same ?_ (by simp [hmm, hids]) hrec
      simp only [storedChains_coe, StoreState.setWrite_destMap, StoreState.setWrite_writeSessions,
        StoreState.setWrite_readSessions]
      rw [flatMap_set_of_eq hw (by rw [hws]; simp [SessionWriteToDisk.stored,
        SessionWriteToDisk.isOpen, SessionWriteToDisk.prepare, hpos])]
  · refine .same ?_ rfl hrec
    simp only [storedChains_coe, StoreState.setWrite_destMap, StoreState.setWrite_writeSessions,
      StoreState.setWrite_readSessions]
    rw [flatMap_set_of_eq hw (by rw [hws]; simp [SessionWriteToDisk.stored,
      SessionWriteToDisk.isOpen, SessionWriteToDisk.prepare])]

theorem stepEffect_pushSegment {w k : Nat} {buf : List UInt8}
    (hopen : (s.writeSessions[w]?).any (·.pushSucceeded) = true)
    (h : pushSegment cfg s w buf = some (k, s')) : StepEffect cfg (.pushSegment w buf) s s' := by
  obtain ⟨ws, hw, -, hres⟩ := pushSegment_eq_some h
  rw [hw, Option.any_some] at hopen
  rcases hres with ⟨-, -, rfl⟩ | ⟨x, hx, -, -, hres⟩
  · exact .same rfl rfl rfl
  obtain ⟨hlt, hxeq⟩ := List.getElem?_eq_some_iff.mp hx
  let e : StoredChain :=
    ⟨ws.destLinkId, ws.priorityIndex, ws.absExpiration, ws.chainInfo, ws.nextLogicalSegment⟩
  have hold : ws.stored = [e] := by
    simp [SessionWriteToDisk.stored, SessionWriteToDisk.isOpen, hopen, hlt, e]
  have hy : e.chain.2.getD e.written 0 = x := by simp [e, List.getD_eq_getElem?_getD, hx]
  let old := (s.disks (diskIndex cfg x)).arena
    ((s.disks (diskIndex cfg x)).commits % cfg.circularIndexBufferSize)
  have hrec : WritesRecord cfg (s.record cfg)
      ((s.queueWrite cfg x (pushedSegment ws.chainInfo ws.nextLogicalSegment buf)).record cfg)
      (e.chain.2.getD e.written 0) (pushedSegment ws.chainInfo ws.nextLogicalSegment buf old) := by
    rw [hy]
    exact writesRecord_queueWrite x _
  have hdec : ∀ decode, PrefixDecoder decode → headDecodes decode s (.pushSegment w buf) = true →
      e.written = 0 → e.KeyDecodes decode (pushedSegment ws.chainInfo ws.nextLogicalSegment buf old) := by
    intro decode hpre hhead h0
    simp only [headDecodes, hw, show ws.nextLogicalSegment = 0 from h0, bne_self_eq_false,
      Bool.false_or] at hhead
    cases hb : decode buf with
    | none => simp [hb] at hhead
    | some p =>
      simp only [hb, Option.any_some, Bool.and_eq_true, beq_iff_eq] at hhead
      exact ⟨p, hpre _ _ _ hb, hhead.1.1, hhead.1.2, hhead.2⟩
  rcases hres with ⟨hne, rfl⟩ | ⟨hp, hlast, rfl⟩
  · obtain ⟨m, h₁, h₂⟩ := flatMap_set (·.stored) { ws with nextLogicalSegment := ws.nextLogicalSegment + 1 } hw
    refine .write e (↑(s.destMap.items.map StoredChain.ofItem) + m + ↑(s.readSessions.flatMap (·.stored)))
      _ ?_ ?_ hlt ⟨rfl, rfl⟩ hdec hrec rfl
    · simp only [storedChains_coe, h₁, hold, Multiset.coe_singleton, ← Multiset.singleton_add]
      abel
    · simp only [storedChains_coe, StoreState.setWrite_destMap, StoreState.setWrite_writeSessions,
        StoreState.setWrite_readSessions, StoreState.queueWrite_destMap,
        StoreState.queueWrite_writeSessions, StoreState.queueWrite_readSessions, h₂]
      rw [show ({ ws with nextLogicalSegment := ws.nextLogicalSegment + 1 } : SessionWriteToDisk).stored =
          [{ e with written := e.written + 1 }] by
        simp [SessionWriteToDisk.stored, SessionWriteToDisk.isOpen, hopen, e]; omega]
      simp only [Multiset.coe_singleton, ← Multiset.singleton_add]
      abel
  · let ws' : SessionWriteToDisk :=
      { ws with nextLogicalSegment := ws.nextLogicalSegment + 1, chainInfo := (ws.chainInfo.1, []) }
    have hnew : ws'.stored = [] := by simp [ws', SessionWriteToDisk.stored, SessionWriteToDisk.isOpen]
    have hitem : StoredChain.ofItem (⟨ws.destLinkId, ⟨ws.priorityIndex, hp⟩, ws.absExpiration⟩,
        ws.chainInfo) = { e with written := e.written + 1 } := by simp [StoredChain.ofItem, e, hlast]
    obtain ⟨m, h₁, h₂⟩ := flatMap_set (·.stored) ws' hw
    refine .write e (↑(s.destMap.items.map StoredChain.ofItem) + m + ↑(s.readSessions.flatMap (·.stored)))
      _ ?_ ?_ hlt ⟨rfl, rfl⟩ hdec hrec rfl
    · simp only [storedChains_coe, h₁, hold, Multiset.coe_singleton, ← Multiset.singleton_add]
      abel
    · simp only [storedChains_coe, StoreState.setWrite_writeSessions, StoreState.setWrite_readSessions,
        StoreState.queueWrite_writeSessions, StoreState.queueWrite_readSessions, h₂,
        ofItems_insertChain, hnew, hitem]
      simp only [Multiset.coe_nil, zero_add, ← Multiset.singleton_add]
      abel

theorem stepEffect_popTop {r k : Nat} {links : List Nat}
    (hfree : (s.readSessions[r]?).any (·.holdsCustody) = false)
    (h : popTop s r links = some (k, s')) : StepEffect cfg (.popTop r links) s s' := by
  obtain ⟨rs, hr, -, hres⟩ := popTop_eq_some h
  rw [hr, Option.any_some] at hfree
  have hold : rs.stored = [] := by simp [SessionReadFromDisk.stored, hfree]
  rcases hres with ⟨-, -, rfl⟩ | ⟨key, c, hsel, -, rfl⟩
  · refine .same ?_ rfl rfl
    simp only [storedChains_coe, StoreState.setRead_destMap, StoreState.setRead_writeSessions,
      StoreState.setRead_readSessions]
    rw [flatMap_set_of_eq hr (by rw [hold]; simp [SessionReadFromDisk.stored, hfree])]
  · obtain ⟨-, ⟨rest, hb⟩, -⟩ := selectTop_some hsel
    obtain ⟨m, h₁, h₂⟩ := flatMap_set (·.stored) { rs with
      nextLogicalSegment := 0, nextLogicalSegmentToCache := 0, cacheReadIndex := 0,
      cacheWriteIndex := 0, chainInfo := c, expirationMapPtr := some (key.dest, key.priority),
      absExpiration := key.expiration, destLinkId := key.dest, priorityIndex := key.priority,
      holdsCustody := true } hr
    refine .same ?_ rfl rfl
    simp only [storedChains_coe, StoreState.setRead_writeSessions, StoreState.setRead_readSessions,
      ofItems_popFront hb, h₁, h₂, hold]
    simp only [SessionReadFromDisk.stored, SessionReadFromDisk.returnKey, if_true, StoredChain.ofItem,
      Multiset.coe_nil, zero_add, Multiset.coe_singleton, ← Multiset.singleton_add]
    abel

theorem stepEffect_returnTop {r : Nat} (hcust : (s.readSessions[r]?).any (·.holdsCustody) = true)
    (h : returnTop s r = some s') : StepEffect cfg (.returnTop r) s s' := by
  obtain ⟨rs, d, p, hr, -, hptr, rfl⟩ := returnTop_eq_some h
  rw [hr, Option.any_some] at hcust
  obtain ⟨m, h₁, h₂⟩ := flatMap_set (·.stored)
    { rs with chainInfo := (rs.chainInfo.1, []), holdsCustody := false } hr
  refine .same ?_ rfl rfl
  simp only [storedChains_coe, StoreState.setRead_writeSessions, StoreState.setRead_readSessions,
    ofItems_insertChain, h₁, h₂]
  simp only [SessionReadFromDisk.stored, SessionReadFromDisk.returnKey, hptr, hcust, if_true,
    Bool.false_eq_true, if_false, StoredChain.ofItem, Multiset.coe_nil, zero_add,
    Multiset.coe_singleton, ← Multiset.singleton_add]
  abel

theorem stepEffect_topSegmentCacheOne {r : Nat} (h : topSegmentCacheOne cfg s r = some s') :
    StepEffect cfg (.topSegmentCacheOne r) s s' := by
  obtain ⟨rs, hr, -, -, rfl⟩ := topSegmentCacheOne_eq_some h
  refine .same ?_ rfl (record_queueRead _ _ _)
  simp only [storedChains_coe, StoreState.setRead_destMap, StoreState.setRead_writeSessions,
    StoreState.setRead_readSessions, StoreState.queueRead_destMap, StoreState.queueRead_writeSessions,
    StoreState.queueRead_readSessions]
  rw [flatMap_set_of_eq hr]
  rfl

theorem stepEffect_topSegment {r : Nat} {res : TopSegmentResult}
    (h : topSegment cfg s r = some (res, s')) : StepEffect cfg (.topSegment r) s s' := by
  obtain ⟨rs, hr, -, -, -, -, -, rfl⟩ := topSegment_eq_some h
  refine .same ?_ rfl rfl
  simp only [storedChains_coe, StoreState.setRead_destMap, StoreState.setRead_writeSessions,
    StoreState.setRead_readSessions]
  rw [flatMap_set_of_eq hr]
  rfl

theorem stepEffect_removeReadBundleFromDisk {r : Nat} {forceRemove ok : Bool}
    (hcust : (s.readSessions[r]?).any (·.holdsCustody) = true)
    (h : removeReadBundleFromDisk cfg s r forceRemove = some (ok, s')) :
    StepEffect cfg (.removeReadBundleFromDisk r forceRemove) s s' := by
  obtain ⟨rs, hr, -, ⟨-, -, -, rfl⟩ | ⟨-, x, rest, hc, -, rfl⟩⟩ :=
    removeReadBundleFromDisk_eq_some h
  · exact .same rfl rfl rfl
  rw [hr, Option.any_some] at hcust
  obtain ⟨m, h₁, h₂⟩ := flatMap_set (·.stored) { rs with holdsCustody := false } hr
  refine .free ⟨rs.returnKey.1, rs.returnKey.2, rs.absExpiration, rs.chainInfo, rs.chainInfo.2.length⟩
    { (s.disks (diskIndex cfg x)).arena ((s.disks (diskIndex cfg x)).commits % cfg.circularIndexBufferSize) with
      bundleSizeBytes := uint64Max } ?_ rfl rfl rfl ?_
  · simp only [storedChains_coe, StoreState.setRead_destMap, StoreState.setRead_writeSessions,
      StoreState.setRead_readSessions, StoreState.queueWrite_destMap, StoreState.queueWrite_writeSessions,
      StoreState.queueWrite_readSessions, h₁, h₂]
    simp only [SessionReadFromDisk.stored, hcust, if_true, Bool.false_eq_true, if_false,
      Multiset.coe_nil, zero_add, Multiset.coe_singleton, ← Multiset.singleton_add]
    abel
  · rw [show rs.chainInfo.2.getD 0 0 = x by simp [hc]]
    exact writesRecord_queueWrite x _

theorem stepEffect_diskWorker {d : Nat} (h : diskWorker cfg s d = some s') :
    StepEffect cfg (.diskWorker d) s s' := by
  refine .same ?_ ?_ (record_diskWorker h) <;>
  rcases diskWorker_eq_some h with ⟨x, data, rest, -, rfl⟩ | ⟨x, r, j, rest, -, ⟨rs, hr, rfl⟩ | ⟨-, rfl⟩⟩
  all_goals try rfl
  simp only [storedChains_coe, StoreState.setRead_destMap, StoreState.setRead_writeSessions,
    StoreState.setRead_readSessions, StoreState.updateDisk_destMap, StoreState.updateDisk_writeSessions,
    StoreState.updateDisk_readSessions]
  rw [flatMap_set_of_eq hr]
  rfl

/-- **What one step does.** -/
theorem stepEffect_of_step {l : Label} (hp : oneChainPerSession s l = true)
    (h : step cfg s l = some s') : StepEffect cfg l s s' := by
  simp only [oneChainPerSession, sessionRules, Bool.and_eq_true] at hp
  cases l with
  | push w primary n =>
    obtain ⟨⟨k, t⟩, ht, rfl⟩ := Option.map_eq_some'.mp h
    exact stepEffect_push (by simpa using hp.2) ht
  | pushSegment w buf =>
    obtain ⟨⟨k, t⟩, ht, rfl⟩ := Option.map_eq_some'.mp h
    exact stepEffect_pushSegment hp.1 ht
  | popTop r links =>
    obtain ⟨⟨k, t⟩, ht, rfl⟩ := Option.map_eq_some'.mp h
    exact stepEffect_popTop (by simpa using hp.2) ht
  | returnTop r => exact stepEffect_returnTop hp.1 h
  | topSegmentCacheOne r => exact stepEffect_topSegmentCacheOne h
  | topSegment r =>
    obtain ⟨⟨res, t⟩, ht, rfl⟩ := Option.map_eq_some'.mp h
    exact stepEffect_topSegment ht
  | removeReadBundleFromDisk r forceRemove =>
    obtain ⟨⟨ok, t⟩, ht, rfl⟩ := Option.map_eq_some'.mp h
    exact stepEffect_removeReadBundleFromDisk hp.1 ht
  | diskWorker d => exact stepEffect_diskWorker h

end effects

end Hdtn.Storage
