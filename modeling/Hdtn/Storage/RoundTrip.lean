import Hdtn.Storage.ReadBack
import Hdtn.Storage.Window

/-! # The store round trip

`Push`, then `PushSegment` calls that carry a byte string `b` chunk by chunk, then `PopTop` and
`TopSegment` calls on a read session give `b` back, and `RemoveReadBundleFromDisk(r, false)` then
frees exactly the chain.  This holds whatever the other sessions do in between, under the session
protocol and as long as none of them removes the chain, and whatever the order in which the disk
workers serve their rings (`store_round_trip`).

* **Chunks.**  `chunk b k` is what the caller hands `PushSegment` for logical segment `k`.  The
  chunks make up `b` (`flatMap_chunk`), and each has the payload size `TopSegment` computes for
  its segment (`length_chunk`).
* **Storing.**  While the write session stores `b` (`Writing`), and once it is stored
  (`ChunksStored`), the records of the chain's written segments are those `PushSegment` wrote
  (`HoldsChunks`): no other session writes a segment of the chain (`storing_step`).
* **Reading.**  `Reading` follows the read session's window `[i, t)` of logical segments whose
  reads are scheduled: a slot whose flag is set holds its segment's record, and each read of the
  session that waits in a ring is for a slot of the window whose flag is clear, and finds the
  segment's record once the writes queued ahead of it are served.  It holds from `PopTop` on
  (`reading_of_popTop`) and along every step (`Reading.other`), so each `TopSegment` call returns
  the next chunk (`Reading.readRun`); and the read-ahead and the disk workers can always bring the
  next slot in (`Reading.exists_run_topSegment`).
* **Removing.**  At the end of the chain `RemoveReadBundleFromDisk(r, false)` frees exactly the
  chain's segments (`Reading.removeReadBundleFromDisk_frees`). -/

namespace Hdtn.Storage

open scoped List

/-! ### Chunks -/

section chunks

variable (cfg : StorageConfig)

/-- Chunk `k` of `b`, as the caller hands it to `PushSegment`: the `P` bytes from `k * P` on, the
last chunk being the remainder. -/
def chunk (b : List UInt8) (k : Nat) : List UInt8 :=
  (b.drop (k * cfg.perSegmentSize)).take cfg.perSegmentSize

/-- What `TopSegment` returns for chunk `k` of `b` when none of its checks fires. -/
def chunkResult (b : List UInt8) (k : Nat) : TopSegmentResult :=
  ⟨(chunk cfg b k).length, chunk cfg b k, []⟩

/-- The sizes a sequence of `TopSegment` calls returned, added up. -/
def totalSize : List TopSegmentResult → Nat
  | [] => 0
  | res :: out => res.size + totalSize out

variable {cfg}

theorem flatMap_chunk_range (b : List UInt8) (m : Nat) :
    (List.range m).flatMap (chunk cfg b) = b.take (m * cfg.perSegmentSize) := by
  induction m with
  | zero => simp
  | succ m ih =>
    rw [List.range_succ, List.flatMap_append, ih, List.flatMap_singleton, chunk, Nat.succ_mul, List.take_add]

theorem flatMap_chunk (b : List UInt8) :
    (List.range (totalSegmentsRequired cfg.perSegmentSize b.length)).flatMap (chunk cfg b) = b := by
  rw [flatMap_chunk_range, List.take_of_length_le]
  rcases @totalSegmentsRequired_spec _ b.length cfg.perSegmentSize_pos with ⟨h, -⟩ | h
  · rwa [Nat.mul_comm]
  · omega

theorem length_chunk {b : List UInt8} {k : Nat} (hk : k < totalSegmentsRequired cfg.perSegmentSize b.length) :
    (chunk cfg b k).length = chunkLength cfg b.length k := by
  have hdm := Nat.div_add_mod b.length cfg.perSegmentSize
  have hmod := Nat.mod_lt b.length cfg.perSegmentSize_pos
  unfold totalSegmentsRequired at hk
  simp only [chunk, chunkLength, totalSegmentsRequired, List.length_take, List.length_drop]
  rcases Nat.lt_or_ge k (b.length / cfg.perSegmentSize) with hq | hq
  · have h := Nat.mul_le_mul_right cfg.perSegmentSize (Nat.succ_le_of_lt hq)
    rw [Nat.succ_mul, Nat.mul_comm (b.length / _)] at h
    split_ifs <;> omega
  · have hm : b.length % cfg.perSegmentSize ≠ 0 := fun h0 => by rw [if_pos h0] at hk; omega
    have hkq : k = b.length / cfg.perSegmentSize := by simp only [hm, if_false] at hk; omega
    subst hkq
    simp only [hm, if_false, ne_eq, not_false_eq_true, and_true, if_true]
    rw [Nat.mul_comm]
    omega

theorem totalSize_map_chunkResult (b : List UInt8) (ks : List Nat) :
    totalSize (ks.map (chunkResult cfg b)) = (ks.flatMap (chunk cfg b)).length := by
  induction ks with
  | nil => rfl
  | cons k ks ih => simp [totalSize, chunkResult, ih]

theorem flatten_map_chunkResult (b : List UInt8) (ks : List Nat) :
    ((ks.map (chunkResult cfg b)).map (·.bytes)).flatten = ks.flatMap (chunk cfg b) := by
  simp [List.flatMap, chunkResult, Function.comp_def]

end chunks

/-! ### Storing -/

section storing

variable (cfg : StorageConfig)

/-- Chain `c` is the chain `Push` allocates for `b`: its size is `|b|`, and it has
`⌈|b| / P⌉` distinct segments below `M_MAX_SEGMENTS`. -/
structure ChainFor (c : ChainInfo) (b : List UInt8) : Prop where
  size_eq : c.1 = b.length
  length_eq : c.2.length = totalSegmentsRequired cfg.perSegmentSize b.length
  nodup : c.2.Nodup
  lt_maxSegments : ∀ x ∈ c.2, x < cfg.maxSegments

/-- The records of the first `k` segments of chain `c` hold `b`'s chunks as `PushSegment` wrote
them. -/
def HoldsChunks (c : ChainInfo) (b : List UInt8) (k : Nat) (s : StoreState) : Prop :=
  ∀ j < k, ∃ old, s.record cfg (c.2.getD j 0) = some (pushedSegment c j (chunk cfg b j) old)

/-- Write session `w` is storing `b` on chain `c`: the chunks before its next logical segment are
written. -/
def Writing (w : Nat) (c : ChainInfo) (b : List UInt8) (s : StoreState) : Prop :=
  ∃ ws, s.writeSessions[w]? = some ws ∧ ws.chainInfo = c ∧ ws.pushSucceeded = true ∧
    ws.nextLogicalSegment < c.2.length ∧ HoldsChunks cfg c b ws.nextLogicalSegment s

/-- `b` is stored on chain `c`: an owner holds `c` written through, and its records hold all of
`b`'s chunks. -/
def ChunksStored (c : ChainInfo) (b : List UInt8) (s : StoreState) : Prop :=
  (∃ e ∈ s.storedChains, e.chain = c ∧ e.written = c.2.length) ∧ HoldsChunks cfg c b c.2.length s

/-- What the round trip allows of a step: the session protocol; the steps `P` lets through;
while write session `w` holds chain `c`, `PushSegment` on it carries the next chunk of `b`; and
no session that holds `c` removes it. -/
def storeRules (P : Label → Bool) (w : Nat) (c : ChainInfo) (b : List UInt8) (s : StoreState) (l : Label) :
    Bool :=
  oneChainPerSession s l && P l && match l with
    | .pushSegment w' buf => decide (w' ≠ w) || (s.writeSessions[w]?).all fun ws =>
        decide (ws.chainInfo ≠ c) || decide (buf = chunk cfg b ws.nextLogicalSegment)
    | .removeReadBundleFromDisk r _ =>
        !(s.readSessions[r]?).any fun rs => rs.holdsCustody && decide (rs.chainInfo = c)
    | _ => true

variable {cfg} {P : Label → Bool} {w : Nat} {c : ChainInfo} {b : List UInt8} {s s' : StoreState} {l : Label}

theorem storeRules_spec (h : storeRules cfg P w c b s l = true) :
    oneChainPerSession s l = true ∧ P l = true ∧
      (∀ buf ws, l = .pushSegment w buf → s.writeSessions[w]? = some ws → ws.chainInfo = c →
        buf = chunk cfg b ws.nextLogicalSegment) ∧
      ∀ r force rs, l = .removeReadBundleFromDisk r force → s.readSessions[r]? = some rs →
        rs.holdsCustody = true → rs.chainInfo ≠ c := by
  simp only [storeRules, Bool.and_eq_true] at h
  obtain ⟨⟨h₁, h₂⟩, h₃⟩ := h
  refine ⟨h₁, h₂, ?_, ?_⟩
  · rintro buf ws rfl hw hc
    simpa [hw, hc] using h₃
  · rintro r force rs rfl hr hcu hc
    simp [hr, hcu, hc] at h₃

theorem ChainFor.getD_ne (hC : ChainFor cfg c b) {j k : Nat} (hj : j < c.2.length) (hk : k < c.2.length)
    (hjk : j ≠ k) : c.2.getD j 0 ≠ c.2.getD k 0 := by
  simp only [List.getD_eq_getElem?_getD, List.getElem?_eq_getElem hj, List.getElem?_eq_getElem hk,
    Option.getD_some, ne_eq, hC.nodup.getElem_inj_iff]
  exact hjk

theorem HoldsChunks.of_record {k : Nat} (h : HoldsChunks cfg c b k s) (hrec : s'.record cfg = s.record cfg) :
    HoldsChunks cfg c b k s' := by
  unfold HoldsChunks
  rwa [hrec]

theorem HoldsChunks.of_mem {Q k : Nat} (h : HoldsChunks cfg c b k s) (hI : Ownership Q s)
    (hE : StepEffect cfg l s s') {e : StoredChain} (he : e ∈ s.storedChains) (he' : e ∈ s'.storedChains)
    (hce : e.chain = c) (hk : k ≤ c.2.length) : HoldsChunks cfg c b k s' := fun j hj => by
  obtain ⟨old, hold⟩ := h j hj
  refine ⟨old, ?_⟩
  rw [record_eq_of_mem hI hE he he' (by rw [hce]; exact getD_mem_of_lt (by omega))
    (by rw [hold]; exact Option.some_ne_none _), hold]

theorem HoldsChunks.queueWrite (hC : ChainFor cfg c b) {k x : Nat} (h : HoldsChunks cfg c b k s)
    (hk : k < c.2.length) (hx : c.2.getD k 0 = x) :
    HoldsChunks cfg c b (k + 1) (s.queueWrite cfg x (pushedSegment c k (chunk cfg b k))) := by
  have hw : WritesRecord cfg (s.record cfg) _ x _ := writesRecord_queueWrite (s := s) x (pushedSegment c k (chunk cfg b k))
  intro j hj
  rcases Nat.lt_succ_iff_lt_or_eq.mp hj with hj | rfl
  · obtain ⟨old, hold⟩ := h j hj
    refine ⟨old, ?_⟩
    rw [hw.eq_of_ne (hx ▸ hC.getD_ne (by omega) hk (by omega)) (by rw [hold]; exact Option.some_ne_none _), hold]
  · exact ⟨_, by rw [hx]; exact hw.1⟩

theorem Writing.pushSegment (hC : ChainFor cfg c b) {ws : SessionWriteToDisk} (hw : s.writeSessions[w]? = some ws)
    (hc : ws.chainInfo = c) (hsucc : ws.pushSucceeded = true) (hk : ws.nextLogicalSegment < c.2.length)
    (hch : HoldsChunks cfg c b ws.nextLogicalSegment s) {n : Nat}
    (h : pushSegment cfg s w (chunk cfg b ws.nextLogicalSegment) = some (n, s')) :
    Writing cfg w c b s' ∨ ChunksStored cfg c b s' := by
  obtain ⟨ws', hw', -, hres⟩ := pushSegment_eq_some h
  cases hw.symm.trans hw'
  subst hc
  rcases hres with ⟨hnone, -, -⟩ | ⟨x, hx, -, -, hres⟩
  · rw [List.getElem?_eq_getElem hk] at hnone
    cases hnone
  have hch' := hch.queueWrite hC hk
    (show ws.chainInfo.2.getD ws.nextLogicalSegment 0 = x by simp [List.getD_eq_getElem?_getD, hx])
  rcases hres with ⟨hne, rfl⟩ | ⟨hp, hlast, rfl⟩
  · exact .inl ⟨{ ws with nextLogicalSegment := ws.nextLogicalSegment + 1 },
      List.getElem?_set_self (List.getElem?_eq_some_iff.mp hw).1, rfl, hsucc,
      show ws.nextLogicalSegment + 1 < ws.chainInfo.2.length by omega,
      hch'.of_record (record_of_disks rfl)⟩
  · refine .inr ⟨⟨_, mem_storedChains_of_items ((List.Perm.mem_iff DestinationMap.items_insertChain).mpr
      (List.mem_cons_self _ _)), rfl, rfl⟩, ?_⟩
    rw [← hlast]
    exact hch'.of_record (record_of_disks rfl)

/-- **Storing.**  Every step the round trip allows keeps `b` on its way to chain `c`, or stored
on it. -/
theorem storing_step (hC : ChainFor cfg c b) (hI : Ownership cfg.perSegmentSize s)
    (hs : Writing cfg w c b s ∨ ChunksStored cfg c b s) (hp : storeRules cfg P w c b s l = true)
    (h : step cfg s l = some s') : Writing cfg w c b s' ∨ ChunksStored cfg c b s' := by
  obtain ⟨hp₁, -, hchunk, hkeep⟩ := storeRules_spec hp
  have hE := stepEffect_of_step hp₁ h
  rcases hs with ⟨ws, hw, hc, hsucc, hk, hch⟩ | ⟨⟨e, he, hce, hfull⟩, hch⟩
  · have ho : ws.isOpen = true := by simp [SessionWriteToDisk.isOpen, hsucc, hc, hk]
    by_cases hl : l.writeSession = some w
    · cases l with
      | push w' primary n =>
        cases hl
        simp [oneChainPerSession, sessionRules, hw, ho] at hp₁
      | pushSegment w' buf =>
        cases hl
        obtain ⟨⟨n, t⟩, ht, rfl⟩ := Option.map_eq_some'.mp h
        rw [hchunk buf ws rfl hw hc] at ht
        exact Writing.pushSegment hC hw hc hsucc hk hch ht
      | _ => cases hl
    · have hw' := ((step_frame h).1 w hl).trans hw
      exact .inl ⟨ws, hw', hc, hsucc, hk, hch.of_mem hI hE (mem_storedChains_of_open hw ho)
        (mem_storedChains_of_open hw' ho) hc hk.le⟩
  · have he' := mem_storedChains_of_written hI hp₁ h he (by rw [hce]; exact hfull) fun r force rs hl hr hcu => by
      rw [hce]; exact hkeep r force rs hl hr hcu
    exact .inr ⟨⟨e, he', hce, hfull⟩, hch.of_mem hI hE he he' hce le_rfl⟩

end storing

/-! ### Reading -/

/-- The file of a disk once the requests queued ahead of ring position `p` are served. -/
def Disk.fileAt (D P : Nat) (disk : Disk) (p : Nat) : List Segment :=
  applyWrites D P disk.file (disk.ring.take p)

section reading

variable (cfg : StorageConfig)

/-- No read of session `r` waits in a ring: `r` has no read-ahead outstanding. -/
def NoReadsFor (s : StoreState) (r : Nat) : Prop :=
  ∀ d x j, DiskRequest.read x r j ∉ (s.disks d).ring

/-- Read session `r` holds chain `c` of `b`.  It has returned the logical segments below
`i = nextLogicalSegment` and scheduled the reads of those below `t = nextLogicalSegmentToCache`;
logical segment `k` of the window `[i, t)` goes to slot `k % R` of its cache. -/
structure Reading (r : Nat) (c : ChainInfo) (b : List UInt8) (s : StoreState) (rs : SessionReadFromDisk) :
    Prop where
  session : s.readSessions[r]? = some rs
  custody : rs.holdsCustody = true
  chainInfo_eq : rs.chainInfo = c
  chunks : HoldsChunks cfg c b c.2.length s
  read_le : rs.nextLogicalSegment ≤ rs.nextLogicalSegmentToCache
  cache_le : rs.nextLogicalSegmentToCache ≤ c.2.length
  window : rs.nextLogicalSegmentToCache ≤ rs.nextLogicalSegment + cfg.readCacheNumSegments
  cacheReadIndex_eq : rs.cacheReadIndex = rs.nextLogicalSegment % cfg.readCacheNumSegments
  cacheWriteIndex_eq : rs.cacheWriteIndex = rs.nextLogicalSegmentToCache % cfg.readCacheNumSegments
  /-- A slot of the window whose flag is set holds its segment's record. -/
  ready : ∀ k : Nat, rs.nextLogicalSegment ≤ k → k < rs.nextLogicalSegmentToCache →
    rs.readCacheIsSegmentReady (k % cfg.readCacheNumSegments) = true →
    ∃ old, rs.readCache (k % cfg.readCacheNumSegments) = pushedSegment c k (chunk cfg b k) old
  /-- A read of `r` waiting in a ring is for a slot of the window whose flag is clear, on the
  segment's disk; the file holds the segment's record once the writes ahead of the read are
  served. -/
  pending : ∀ d p x j : Nat, (s.disks d).ring[p]? = some (.read x r j) →
    ∃ k, rs.nextLogicalSegment ≤ k ∧ k < rs.nextLogicalSegmentToCache ∧ j = k % cfg.readCacheNumSegments ∧
      x = c.2.getD k 0 ∧ d = diskIndex cfg x ∧ rs.readCacheIsSegmentReady j = false ∧
      ∃ old, readSegment ((s.disks d).fileAt cfg.numStorageDisks cfg.perSegmentSize p)
        (x / cfg.numStorageDisks) = some (pushedSegment c k (chunk cfg b k) old)
  /-- A ring holds at most one read of `r` into a slot. -/
  unique : ∀ d p q x x' j : Nat, (s.disks d).ring[p]? = some (.read x r j) →
    (s.disks d).ring[q]? = some (.read x' r j) → p = q
  /-- A slot of the window whose flag is clear has its read waiting. -/
  waiting : ∀ k : Nat, rs.nextLogicalSegment ≤ k → k < rs.nextLogicalSegmentToCache →
    rs.readCacheIsSegmentReady (k % cfg.readCacheNumSegments) = false →
    ∃ p : Nat, (s.disks (diskIndex cfg (c.2.getD k 0))).ring[p]? =
      some (.read (c.2.getD k 0) r (k % cfg.readCacheNumSegments))

variable {cfg} {r : Nat} {c : ChainInfo} {b : List UInt8} {s s' : StoreState} {rs : SessionReadFromDisk}

theorem Reading.readWindow (hR : Reading cfg r c b s rs) : ReadWindow cfg c.2.length rs :=
  ⟨by rw [hR.chainInfo_eq], hR.read_le, le_min hR.cache_le hR.window, hR.cacheWriteIndex_eq, hR.cacheReadIndex_eq⟩

theorem Reading.of_appended (hR : Reading cfg r c b s rs) (hA : Appended r s s')
    (hrs : s'.readSessions[r]? = s.readSessions[r]?) (hch : HoldsChunks cfg c b c.2.length s') :
    Reading cfg r c b s' rs := by
  have hread : ∀ {d p x j}, (s'.disks d).ring[p]? = some (.read x r j) →
      p < (s.disks d).ring.length ∧ (s.disks d).ring[p]? = some (.read x r j) := fun {d p x j} h => by
    obtain ⟨-, extra, hring, hext⟩ := hA d
    rw [hring, List.getElem?_append] at h
    split_ifs at h with hp
    · exact ⟨hp, h⟩
    · exact absurd (List.getElem?_mem h) (hext x j)
  refine { hR with session := hrs.trans hR.session, chunks := hch, pending := ?_, unique := ?_, waiting := ?_ }
  · intro d p x j h
    obtain ⟨hp, h⟩ := hread h
    obtain ⟨k, h₁, h₂, hj, hx, hd, hf, old, hold⟩ := hR.pending d p x j h
    obtain ⟨hfile, extra, hring, -⟩ := hA d
    refine ⟨k, h₁, h₂, hj, hx, hd, hf, old, ?_⟩
    rw [Disk.fileAt, hfile, hring, List.take_append_of_le_length hp.le]
    exact hold
  · intro d p q x x' j hp hq
    exact hR.unique d p q x x' j (hread hp).2 (hread hq).2
  · intro k h₁ h₂ hf
    obtain ⟨p, hp⟩ := hR.waiting k h₁ h₂ hf
    obtain ⟨-, extra, hring, -⟩ := hA (diskIndex cfg (c.2.getD k 0))
    exact ⟨p, by rw [hring, List.getElem?_append_left (List.getElem?_eq_some_iff.mp hp).1]; exact hp⟩

/-! #### The disk workers -/

theorem diskWorker_served {d₀ : Nat} (h : diskWorker cfg s d₀ = some s') :
    ∃ req, (s.disks d₀).ring = req :: (s'.disks d₀).ring ∧
      (∀ p, (s'.disks d₀).fileAt cfg.numStorageDisks cfg.perSegmentSize p =
        (s.disks d₀).fileAt cfg.numStorageDisks cfg.perSegmentSize (p + 1)) ∧
      (∀ d ≠ d₀, s'.disks d = s.disks d) ∧ s'.topSegmentIn = s.topSegmentIn := by
  rcases diskWorker_eq_some h with ⟨x, data, rest, hring, rfl⟩ | ⟨x, r', j, rest, hring, ⟨rs', -, rfl⟩ | ⟨-, rfl⟩⟩
  · exact ⟨.write x data, by simp [hring], fun p => by simp [Disk.fileAt, hring],
      fun d hd => by simp [Function.update_noteq hd], rfl⟩
  all_goals exact ⟨.read x r' j, by simp [hring], fun p => by simp [Disk.fileAt, hring],
    fun d hd => by simp [Function.update_noteq hd], rfl⟩

theorem served_getElem? {d₀ : Nat} {req : DiskRequest} (hhead : (s.disks d₀).ring = req :: (s'.disks d₀).ring)
    (hd : ∀ d ≠ d₀, s'.disks d = s.disks d) (d p : Nat) :
    (s'.disks d).ring[p]? = (s.disks d).ring[if d = d₀ then p + 1 else p]? := by
  split_ifs with h
  · subst h; rw [hhead, List.getElem?_cons_succ]
  · rw [hd d h]

theorem served_fileAt {d₀ : Nat} (hfile : ∀ p, (s'.disks d₀).fileAt cfg.numStorageDisks cfg.perSegmentSize p =
      (s.disks d₀).fileAt cfg.numStorageDisks cfg.perSegmentSize (p + 1))
    (hd : ∀ d ≠ d₀, s'.disks d = s.disks d) (d p : Nat) :
    (s'.disks d).fileAt cfg.numStorageDisks cfg.perSegmentSize p =
      (s.disks d).fileAt cfg.numStorageDisks cfg.perSegmentSize (if d = d₀ then p + 1 else p) := by
  split_ifs with h
  · subst h; exact hfile p
  · rw [hd d h]

theorem served_exists {d₀ : Nat} {req : DiskRequest} (hhead : (s.disks d₀).ring = req :: (s'.disks d₀).ring)
    (hd : ∀ d ≠ d₀, s'.disks d = s.disks d) {d p : Nat} {a : DiskRequest} (hp : (s.disks d).ring[p]? = some a)
    (hne : d = d₀ → a ≠ req) : ∃ p' : Nat, (s'.disks d).ring[p']? = some a := by
  by_cases hdd : d = d₀
  · subst hdd
    rw [hhead] at hp
    cases p with
    | zero => exact absurd (Option.some.inj (List.getElem?_cons_zero.symm.trans hp)).symm (hne rfl)
    | succ p => exact ⟨p, List.getElem?_cons_succ.symm.trans hp⟩
  · exact ⟨p, by rw [hd d hdd]; exact hp⟩

theorem Reading.of_served (hR : Reading cfg r c b s rs) {d₀ : Nat} {req : DiskRequest}
    (hhead : (s.disks d₀).ring = req :: (s'.disks d₀).ring)
    (hfile : ∀ p, (s'.disks d₀).fileAt cfg.numStorageDisks cfg.perSegmentSize p =
      (s.disks d₀).fileAt cfg.numStorageDisks cfg.perSegmentSize (p + 1))
    (hd : ∀ d ≠ d₀, s'.disks d = s.disks d) (hreq : ∀ x j, req ≠ .read x r j)
    (hrs : s'.readSessions[r]? = s.readSessions[r]?) (hch : HoldsChunks cfg c b c.2.length s') :
    Reading cfg r c b s' rs := by
  refine { hR with session := hrs.trans hR.session, chunks := hch, pending := ?_, unique := ?_, waiting := ?_ }
  · intro d p x j h
    rw [served_getElem? hhead hd] at h
    obtain ⟨k, h₁, h₂, hj, hx, hdk, hf, old, hold⟩ := hR.pending d _ x j h
    exact ⟨k, h₁, h₂, hj, hx, hdk, hf, old, by rw [served_fileAt hfile hd]; exact hold⟩
  · intro d p q x x' j hp hq
    rw [served_getElem? hhead hd] at hp hq
    have := hR.unique d _ _ x x' j hp hq
    split_ifs at this <;> omega
  · intro k h₁ h₂ hf
    obtain ⟨p, hp⟩ := hR.waiting k h₁ h₂ hf
    exact served_exists hhead hd hp fun _ e => hreq _ _ e.symm

theorem Reading.of_served_read (hR : Reading cfg r c b s rs) {d₀ x₀ j₀ : Nat}
    (hhead : (s.disks d₀).ring = .read x₀ r j₀ :: (s'.disks d₀).ring)
    (hfile : ∀ p, (s'.disks d₀).fileAt cfg.numStorageDisks cfg.perSegmentSize p =
      (s.disks d₀).fileAt cfg.numStorageDisks cfg.perSegmentSize (p + 1))
    (hd : ∀ d ≠ d₀, s'.disks d = s.disks d)
    (hrs : s'.readSessions[r]? =
      some (rs.completeRead j₀ (readSegment (s.disks d₀).file (x₀ / cfg.numStorageDisks))))
    (hch : HoldsChunks cfg c b c.2.length s') :
    Reading cfg r c b s' (rs.completeRead j₀ (readSegment (s.disks d₀).file (x₀ / cfg.numStorageDisks))) := by
  obtain ⟨k₀, hk₁, hk₂, hj₀, hx₀, hd₀, hf₀, old₀, hold₀⟩ := hR.pending d₀ 0 x₀ j₀ (by rw [hhead, List.getElem?_cons_zero])
  have hwin := hR.window
  rw [show (s.disks d₀).fileAt cfg.numStorageDisks cfg.perSegmentSize 0 = (s.disks d₀).file from rfl] at hold₀
  rw [hold₀] at hrs ⊢
  have hslot : ∀ k, rs.nextLogicalSegment ≤ k → k < rs.nextLogicalSegmentToCache →
      k % cfg.readCacheNumSegments = j₀ → k = k₀ := fun k h₁ h₂ hk =>
    eq_of_mod_eq_of_window h₁ hk₁ (by omega) (by omega) (hk.trans hj₀)
  refine { hR with session := hrs, chunks := hch, ready := ?_, pending := ?_, unique := ?_, waiting := ?_ }
  · intro k h₁ h₂ hflag
    simp only [SessionReadFromDisk.completeRead] at hflag ⊢
    by_cases hk : k % cfg.readCacheNumSegments = j₀
    · obtain rfl := hslot k h₁ h₂ hk
      exact ⟨old₀, by rw [hk, Function.update_same]⟩
    · rw [Function.update_noteq hk] at hflag ⊢
      exact hR.ready k h₁ h₂ hflag
  · intro d p x j h
    rw [served_getElem? hhead hd] at h
    obtain ⟨k, h₁, h₂, hj, hx, hdk, hf, old, hold⟩ := hR.pending d _ x j h
    have hjne : j ≠ j₀ := by
      rintro rfl
      by_cases hdd : d = d₀
      · subst hdd
        have := hR.unique d _ 0 x x₀ j h (by rw [hhead, List.getElem?_cons_zero])
        simp at this
      · exact hdd (by rw [hdk, hd₀, hx, hx₀, hslot k h₁ h₂ hj.symm])
    refine ⟨k, h₁, h₂, hj, hx, hdk, ?_, old, by rw [served_fileAt hfile hd]; exact hold⟩
    simp only [SessionReadFromDisk.completeRead]
    rw [Function.update_noteq hjne]
    exact hf
  · intro d p q x x' j hp hq
    rw [served_getElem? hhead hd] at hp hq
    have := hR.unique d _ _ x x' j hp hq
    split_ifs at this <;> omega
  · intro k h₁ h₂ hflag
    simp only [SessionReadFromDisk.completeRead] at hflag
    have hk : k % cfg.readCacheNumSegments ≠ j₀ := fun hk => by rw [hk, Function.update_same] at hflag; cases hflag
    rw [Function.update_noteq hk] at hflag
    obtain ⟨p, hp⟩ := hR.waiting k h₁ h₂ hflag
    exact served_exists hhead hd hp fun _ e => hk (by cases e; rfl)

/-- **The disk workers keep `Reading`.** -/
theorem Reading.of_diskWorker (hR : Reading cfg r c b s rs) {d₀ : Nat} (h : diskWorker cfg s d₀ = some s') :
    ∃ rs', Reading cfg r c b s' rs' ∧ rs'.nextLogicalSegment = rs.nextLogicalSegment ∧
      rs'.nextLogicalSegmentToCache = rs.nextLogicalSegmentToCache := by
  obtain ⟨req, hhead, hfile, hd, -⟩ := diskWorker_served h
  have hch := hR.chunks.of_record (record_diskWorker h)
  rcases diskWorker_eq_some h with ⟨x, data, rest, hring, rfl⟩ | ⟨x, r', j, rest, hring, hres⟩
  · have hreq : req = .write x data := (List.cons.inj (hhead.symm.trans hring)).1
    exact ⟨rs, hR.of_served hhead hfile hd (fun _ _ e => DiskRequest.noConfusion (hreq.symm.trans e)) rfl hch,
      rfl, rfl⟩
  have hreq : req = .read x r' j := (List.cons.inj (hhead.symm.trans hring)).1
  by_cases hr : r' = r
  · rw [hr] at hreq hres
    rcases hres with ⟨rs', hr', rfl⟩ | ⟨hr', -⟩
    · cases hR.session.symm.trans hr'
      exact ⟨_, hR.of_served_read (hreq ▸ hhead) hfile hd
        (List.getElem?_set_self (List.getElem?_eq_some_iff.mp hR.session).1) hch, rfl, rfl⟩
    · cases hR.session.symm.trans hr'
  · have hrs : s'.readSessions[r]? = s.readSessions[r]? := by
      rcases hres with ⟨rs', -, rfl⟩ | ⟨-, rfl⟩
      · exact List.getElem?_set_ne hr
      · rfl
    exact ⟨rs, hR.of_served hhead hfile hd (fun _ _ e => hr (by rw [hreq] at e; cases e; rfl)) hrs hch, rfl, rfl⟩

/-! #### `TopSegment` -/

theorem queueRead_disks (x r' j d : Nat) :
    ((s.queueRead cfg x r' j).disks d).file = (s.disks d).file ∧
      ((s.queueRead cfg x r' j).disks d).ring =
        (s.disks d).ring ++ (if d = diskIndex cfg x then [.read x r' j] else []) := by
  by_cases hd : d = diskIndex cfg x
  · subst hd
    simp [StoreState.queueRead, Disk.commitRead]
  · simp [StoreState.queueRead, Function.update_noteq hd, hd]

/-- **Read-ahead keeps `Reading`.**  The read of the next segment goes to its disk's ring, for the
slot just past the window, whose flag is cleared. -/
theorem Reading.of_topSegmentCacheOne (hR : Reading cfg r c b s rs) (h : topSegmentCacheOne cfg s r = some s') :
    ∃ rs', Reading cfg r c b s' rs' ∧ rs'.nextLogicalSegment = rs.nextLogicalSegment ∧
      rs'.nextLogicalSegmentToCache = rs.nextLogicalSegmentToCache + 1 := by
  obtain ⟨rs₀, hr, -, hmay, hs'⟩ := topSegmentCacheOne_eq_some h
  cases hR.session.symm.trans hr
  have hle := hR.read_le
  have hw := hR.readWindow
  have hW := hw.topSegmentCacheOne hmay
  have hlt := (hw.mayCacheMore_iff.mp hmay).2
  have hx : rs.chainInfo.2.getD rs.nextLogicalSegmentToCache 0 = c.2.getD rs.nextLogicalSegmentToCache 0 := by
    rw [hR.chainInfo_eq]
  have hdisks : s'.disks = (s.queueRead cfg (c.2.getD rs.nextLogicalSegmentToCache 0) r rs.cacheWriteIndex).disks := by
    rw [hs', ← hx]; rfl
  have hj : rs.cacheWriteIndex = rs.nextLogicalSegmentToCache % cfg.readCacheNumSegments := hR.cacheWriteIndex_eq
  have hslot : ∀ k, rs.nextLogicalSegment ≤ k → k < rs.nextLogicalSegmentToCache →
      k % cfg.readCacheNumSegments ≠ rs.cacheWriteIndex := fun _ => hw.slot_ne hmay
  -- the reads of `r` in the rings: those that waited before, and the new one
  have hread : ∀ {d p x j}, (s'.disks d).ring[p]? = some (.read x r j) →
      (p < (s.disks d).ring.length ∧ (s.disks d).ring[p]? = some (.read x r j)) ∨
        (d = diskIndex cfg (c.2.getD rs.nextLogicalSegmentToCache 0) ∧ p = (s.disks d).ring.length ∧
          x = c.2.getD rs.nextLogicalSegmentToCache 0 ∧ j = rs.cacheWriteIndex) := fun {d p x j} h => by
    rw [hdisks, (queueRead_disks _ _ _ d).2, List.getElem?_append] at h
    split_ifs at h with hp hd
    · exact .inl ⟨hp, h⟩
    · have hp' : p = (s.disks d).ring.length := by
        have := (List.getElem?_eq_some_iff.mp h).1
        simp at this
        omega
      subst hp'
      simp only [Nat.sub_self, List.getElem?_cons_zero, Option.some.injEq, DiskRequest.read.injEq] at h
      exact .inr ⟨hd, rfl, h.1.symm, h.2.2.symm⟩
    · simp at h
  refine ⟨{ rs with
      nextLogicalSegmentToCache := rs.nextLogicalSegmentToCache + 1
      readCacheIsSegmentReady := Function.update rs.readCacheIsSegmentReady rs.cacheWriteIndex false
      cacheWriteIndex := (rs.cacheWriteIndex + 1) % cfg.readCacheNumSegments },
    { session := by rw [hs']; exact List.getElem?_set_self (List.getElem?_eq_some_iff.mp hR.session).1
      custody := hR.custody
      chainInfo_eq := hR.chainInfo_eq
      chunks := hR.chunks.of_record ((record_of_disks hdisks).trans (record_queueRead _ _ _))
      read_le := hW.read_le
      cache_le := (le_min_iff.mp hW.cache_le).1
      window := (le_min_iff.mp hW.cache_le).2
      cacheReadIndex_eq := hR.cacheReadIndex_eq
      cacheWriteIndex_eq := hW.cacheWriteIndex_eq
      ready := ?_
      pending := ?_
      unique := ?_
      waiting := ?_ }, rfl, rfl⟩
  · intro k h₁ h₂ hflag
    dsimp only at h₁ h₂ hflag ⊢
    have hk : k < rs.nextLogicalSegmentToCache := by
      refine lt_of_le_of_ne (Nat.lt_succ_iff.mp h₂) fun e => ?_
      subst e
      rw [← hj, Function.update_same] at hflag
      cases hflag
    rw [Function.update_noteq (hslot k h₁ hk)] at hflag
    exact hR.ready k h₁ hk hflag
  · intro d p x j h
    rcases hread h with ⟨hp, h⟩ | ⟨rfl, rfl, rfl, rfl⟩
    · obtain ⟨k, h₁, h₂, rfl, hx, hd, hf, old, hold⟩ := hR.pending d p x _ h
      refine ⟨k, h₁, by dsimp only; omega, rfl, hx, hd, ?_, old, ?_⟩
      · dsimp only
        rw [Function.update_noteq (hslot k h₁ h₂)]
        exact hf
      · rw [Disk.fileAt, hdisks, (queueRead_disks _ _ _ d).1, (queueRead_disks _ _ _ d).2,
          List.take_append_of_le_length hp.le]
        exact hold
    · obtain ⟨old, hold⟩ := hR.chunks _ hlt
      refine ⟨rs.nextLogicalSegmentToCache, hle, Nat.lt_succ_self _, hj, rfl, rfl, Function.update_same _ _ _,
        old, ?_⟩
      rw [Disk.fileAt, hdisks, (queueRead_disks _ _ _ _).1, (queueRead_disks _ _ _ _).2,
        List.take_append_of_le_length le_rfl, List.take_length]
      exact hold
  · intro d p q x x' j hp hq
    rcases hread hp with ⟨-, hp⟩ | ⟨-, rfl, -, rfl⟩ <;> rcases hread hq with ⟨-, hq⟩ | ⟨-, rfl, -, hjq⟩
    · exact hR.unique d p q x x' j hp hq
    · obtain ⟨k, h₁, h₂, hjk, -⟩ := hR.pending d p x j hp
      exact absurd (hjk.symm.trans hjq) (hslot k h₁ h₂)
    · obtain ⟨k, h₁, h₂, hjk, -⟩ := hR.pending d q x' _ hq
      exact absurd hjk.symm (hslot k h₁ h₂)
    · rfl
  · intro k h₁ h₂ hflag
    dsimp only at h₁ h₂ hflag ⊢
    rw [hdisks]
    rcases Nat.lt_succ_iff_lt_or_eq.mp h₂ with hk | rfl
    · rw [Function.update_noteq (hslot k h₁ hk)] at hflag
      obtain ⟨p, hp⟩ := hR.waiting k h₁ hk hflag
      refine ⟨p, ?_⟩
      rw [(queueRead_disks _ _ _ _).2, List.getElem?_append_left (List.getElem?_eq_some_iff.mp hp).1]
      exact hp
    · refine ⟨(s.disks (diskIndex cfg (c.2.getD rs.nextLogicalSegmentToCache 0))).ring.length, ?_⟩
      rw [(queueRead_disks _ _ _ _).2, if_pos rfl, List.getElem?_append_right le_rfl, Nat.sub_self, hj]
      rfl

/-- **`TopSegment` returns the next chunk.**  Its slot holds the record `PushSegment` wrote for
the session's next logical segment, so none of its checks fires and it returns the chunk written
there; the window moves on by one. -/
theorem Reading.of_topSegment (hC : ChainFor cfg c b) (hR : Reading cfg r c b s rs) {res : TopSegmentResult}
    (h : topSegment cfg s r = some (res, s')) :
    res = chunkResult cfg b rs.nextLogicalSegment ∧ ∃ rs', Reading cfg r c b s' rs' ∧
      rs'.nextLogicalSegment = rs.nextLogicalSegment + 1 ∧
      rs'.nextLogicalSegmentToCache = rs.nextLogicalSegmentToCache := by
  obtain ⟨rs₀, hr, -, hmay, hflag, hlen, rfl, rfl⟩ := topSegment_eq_some h
  cases hR.session.symm.trans hr
  have hc := hR.chainInfo_eq
  have hw := hR.readWindow
  have hit := hw.lt_of_topSegment hmay hlen
  have hW := hw.topSegment hmay hlen
  rw [hR.cacheReadIndex_eq] at hflag
  obtain ⟨old, hold⟩ := hR.ready _ le_rfl hit hflag
  have hk : rs.nextLogicalSegment < totalSegmentsRequired cfg.perSegmentSize b.length := by
    rw [← hC.length_eq]
    exact lt_of_lt_of_le hit hR.cache_le
  refine ⟨topSegmentResult_pushedSegment (by rw [hR.cacheReadIndex_eq, hc]; exact hold)
    (by rw [hc]; exact lt_of_lt_of_le hit hR.cache_le)
    (by rw [hc, hC.length_eq, hC.size_eq])
    (fun x hx => lt_trans (hC.lt_maxSegments x (hc ▸ hx)) cfg.maxSegments_lt)
    (by rw [hc, hC.size_eq]; exact length_chunk hk), _,
    { hR with
      session := List.getElem?_set_self (List.getElem?_eq_some_iff.mp hR.session).1
      chunks := hR.chunks.of_record (record_of_disks rfl)
      read_le := hit
      window := (le_min_iff.mp hW.cache_le).2
      cacheReadIndex_eq := hW.cacheReadIndex_eq
      ready := fun k h₁ h₂ => hR.ready k (Nat.le_of_succ_le h₁) h₂
      pending := fun d p x j h' => ?_
      waiting := fun k h₁ h₂ => hR.waiting k (Nat.le_of_succ_le h₁) h₂ }, rfl, rfl⟩
  obtain ⟨k, h₁, h₂, hj, hx, hd, hf, hold'⟩ := hR.pending d p x j h'
  refine ⟨k, lt_of_le_of_ne h₁ fun e => ?_, h₂, hj, hx, hd, hf, hold'⟩
  subst e hj
  rw [hflag] at hf
  cases hf

/-! #### The other steps -/

theorem Reading.of_step (hI : Ownership cfg.perSegmentSize s) (hR : Reading cfg r c b s rs) {l : Label}
    (hp : oneChainPerSession s l = true) (hl : l.readSession ≠ some r) (hd : ∀ d, l ≠ .diskWorker d)
    (h : step cfg s l = some s') : Reading cfg r c b s' rs := by
  obtain ⟨hrs, hA⟩ := (step_frame h).2.1 r hl hd
  exact hR.of_appended hA hrs (hR.chunks.of_mem hI (stepEffect_of_step hp h)
    (mem_storedChains_of_custody hR.session hR.custody)
    (mem_storedChains_of_custody (hrs.trans hR.session) hR.custody) hR.chainInfo_eq le_rfl)

/-! #### Bringing the next slot in -/

/-- Read session `r`'s read-ahead and the disk workers, under the session protocol. -/
def readAheadRules (r : Nat) (s : StoreState) (l : Label) : Bool :=
  oneChainPerSession s l && match l with
    | .topSegmentCacheOne r' => decide (r' = r)
    | .diskWorker _ => true
    | _ => false

theorem diskWorker_isSome {d : Nat} (h : (s.disks d).ring ≠ []) : ∃ s', diskWorker cfg s d = some s' := by
  obtain ⟨req, rest, hring⟩ := List.exists_cons_of_ne_nil h
  unfold diskWorker
  rw [hring]
  cases req with
  | write x data => exact ⟨_, rfl⟩
  | read x r' j => cases hr : s.readSessions[r']? <;> simp [hr]

theorem Reading.exists_run_readAhead (m : Nat) :
    ∀ {s : StoreState} {rs : SessionReadFromDisk}, c.2.length - rs.nextLogicalSegmentToCache ≤ m →
      Reading cfg r c b s rs → (s.topSegmentIn = none ∨ s.topSegmentIn = some r) →
      ∃ s' rs', Run cfg (readAheadRules r) s s' ∧ Reading cfg r c b s' rs' ∧
        rs'.nextLogicalSegment = rs.nextLogicalSegment ∧ ¬ rs'.mayCacheMore cfg ∧
        (s'.topSegmentIn = none ∨ s'.topSegmentIn = some r) := by
  induction m with
  | zero =>
    intro s rs hm hR ht
    exact ⟨s, rs, .refl _, hR, rfl, fun h => by have := (hR.readWindow.mayCacheMore_iff.mp h).2; omega, ht⟩
  | succ m ih =>
    intro s rs hm hR ht
    by_cases hmay : rs.mayCacheMore cfg
    · obtain ⟨s₁, hs₁⟩ : ∃ s₁, topSegmentCacheOne cfg s r = some s₁ :=
        ⟨_, by rw [topSegmentCacheOne, hR.session]; exact if_pos ⟨ht, hmay⟩⟩
      obtain ⟨rs₁, hR₁, hi, ht₁⟩ := hR.of_topSegmentCacheOne hs₁
      have htop : s₁.topSegmentIn = some r := by
        obtain ⟨_, -, -, -, rfl⟩ := topSegmentCacheOne_eq_some hs₁
        rfl
      obtain ⟨s', rs', hrun, hR', hi', hmay', ht'⟩ := ih (by omega) hR₁ (.inr htop)
      exact ⟨s', rs', .cons (.topSegmentCacheOne r)
        (by simp [readAheadRules, oneChainPerSession, sessionRules, hR.session, hR.custody])
        hs₁ hrun, hR', hi'.trans hi, hmay', ht'⟩
    · exact ⟨s, rs, .refl _, hR, rfl, hmay, ht⟩

theorem Reading.exists_run_drain (d m : Nat) :
    ∀ {s : StoreState} {rs : SessionReadFromDisk}, (s.disks d).ring.length ≤ m → Reading cfg r c b s rs →
      ∃ s' rs', Run cfg (readAheadRules r) s s' ∧ Reading cfg r c b s' rs' ∧
        rs'.nextLogicalSegment = rs.nextLogicalSegment ∧
        rs'.nextLogicalSegmentToCache = rs.nextLogicalSegmentToCache ∧
        s'.topSegmentIn = s.topSegmentIn ∧ (s'.disks d).ring = [] := by
  induction m with
  | zero =>
    intro s rs hm hR
    exact ⟨s, rs, .refl _, hR, rfl, rfl, rfl, List.eq_nil_of_length_eq_zero (by omega)⟩
  | succ m ih =>
    intro s rs hm hR
    by_cases hnil : (s.disks d).ring = []
    · exact ⟨s, rs, .refl _, hR, rfl, rfl, rfl, hnil⟩
    obtain ⟨s₁, hs₁⟩ : ∃ s₁, diskWorker cfg s d = some s₁ := diskWorker_isSome hnil
    obtain ⟨req, hhead, -, -, ht₁⟩ := diskWorker_served hs₁
    obtain ⟨rs₁, hR₁, hi₁, ht₁'⟩ := hR.of_diskWorker hs₁
    obtain ⟨s', rs', hrun, hR', hi', htc', ht', hempty⟩ :=
      ih (by rw [hhead, List.length_cons] at hm; omega) hR₁
    exact ⟨s', rs', .cons (.diskWorker d) (by simp [readAheadRules, oneChainPerSession, sessionRules]) hs₁ hrun, hR',
      hi'.trans hi₁, htc'.trans ht₁', ht'.trans ht₁, hempty⟩

/-- **`TopSegment` does not wait forever.**  From any state where `r` has not read its whole
chain and the main thread is free (or in `r`'s own `TopSegment`), `r`'s read-ahead and the worker
of the disk of its next segment lead to a state where `TopSegment` on `r` completes. -/
theorem Reading.exists_run_topSegment (hR : Reading cfg r c b s rs) (hi : rs.nextLogicalSegment < c.2.length)
    (ht : s.topSegmentIn = none ∨ s.topSegmentIn = some r) :
    ∃ s', Run cfg (readAheadRules r) s s' ∧ (topSegment cfg s' r).isSome := by
  obtain ⟨s₁, rs₁, hrun₁, hR₁, hi₁, hmay₁, ht₁⟩ := Reading.exists_run_readAhead _ le_rfl hR ht
  obtain ⟨s₂, rs₂, hrun₂, hR₂, hi₂, htc₂, ht₂, hempty⟩ :=
    Reading.exists_run_drain (diskIndex cfg (c.2.getD rs₁.nextLogicalSegment 0)) _ le_rfl hR₁
  have hmay₂ : ¬ rs₂.mayCacheMore cfg := by rw [hR₂.readWindow.mayCacheMore_iff, hi₂, htc₂, ← hR₁.readWindow.mayCacheMore_iff]; exact hmay₁
  have hit : rs₂.nextLogicalSegment < rs₂.nextLogicalSegmentToCache := by
    rw [hR₂.readWindow.mayCacheMore_iff] at hmay₂
    have := cfg.readCacheNumSegments_pos
    have := hR₂.cache_le
    omega
  have hflag : rs₂.readCacheIsSegmentReady (rs₂.nextLogicalSegment % cfg.readCacheNumSegments) = true := by
    by_contra hf
    obtain ⟨p, hp⟩ := hR₂.waiting _ le_rfl hit (Bool.eq_false_iff.mpr hf)
    rw [hi₂, hempty] at hp
    cases hp
  refine ⟨s₂, hrun₁.trans hrun₂, ?_⟩
  rw [topSegment, hR₂.session]
  dsimp only
  rw [if_pos ⟨ht₂ ▸ ht₁, hmay₂, hR₂.cacheReadIndex_eq ▸ hflag, by rw [hR₂.chainInfo_eq]; omega⟩]
  rfl

/-! #### The end of the chain -/

/-- **`RemoveReadBundleFromDisk` frees the chain.**  Once `r` has read its whole chain,
`RemoveReadBundleFromDisk(r, false)` returns `true` and frees exactly the chain's segments. -/
theorem Reading.removeReadBundleFromDisk_frees (hI : Ownership cfg.perSegmentSize s) (hR : Reading cfg r c b s rs)
    (hi : rs.nextLogicalSegment = c.2.length) (ht : s.topSegmentIn = none) :
    ∃ s', removeReadBundleFromDisk cfg s r false = some (true, s') ∧
      s'.memoryManager.allocated = s.memoryManager.allocated \ c.2.toFinset := by
  have he := mem_storedChains_of_custody hR.session hR.custody
  have hfree := MemoryManager.freeSegments_of_subset (hI.nodup_of_mem he) fun y hy => hI.allocated_of_mem he hy
  obtain ⟨x, rest, hc⟩ := List.exists_cons_of_ne_nil (List.ne_nil_of_length_pos (hI.length_pos he))
  dsimp only at hfree hc
  rw [hR.chainInfo_eq] at hfree hc
  refine ⟨{ (s.queueWrite cfg x fun old => { old with bundleSizeBytes := uint64Max }).setRead r
      { rs with holdsCustody := false } with memoryManager := ⟨s.memoryManager.allocated \ c.2.toFinset⟩ }, ?_, rfl⟩
  rw [removeReadBundleFromDisk, hR.session, ht]
  dsimp only
  rw [if_neg (by simp [hi, hR.chainInfo_eq]), hR.chainInfo_eq, hc]
  dsimp only
  rw [← hc, hfree]

end reading

/-! ### Runs -/

section runs

variable (cfg : StorageConfig)

/-- `storeRules`, and no `ReturnTop` or `RemoveReadBundleFromDisk` on read session `r`: `r` only
reads. -/
def readRules (P : Label → Bool) (w r : Nat) (c : ChainInfo) (b : List UInt8) (s : StoreState) (l : Label) :
    Bool :=
  storeRules cfg P w c b s l && match l with
    | .returnTop r' | .removeReadBundleFromDisk r' _ => decide (r' ≠ r)
    | _ => true

/-- The runs whose every step `P` allows, with the results of the `TopSegment` calls on read
session `r`, in the order they were made. -/
inductive ReadRun (P : StoreState → Label → Bool) (r : Nat) :
    StoreState → List TopSegmentResult → StoreState → Prop
  | refl (s : StoreState) : ReadRun P r s [] s
  | other {s s' s'' : StoreState} {out : List TopSegmentResult} (l : Label) : l ≠ .topSegment r →
      P s l = true → step cfg s l = some s' → ReadRun P r s' out s'' → ReadRun P r s out s''
  | read {s s' s'' : StoreState} {res : TopSegmentResult} {out : List TopSegmentResult} :
      P s (.topSegment r) = true → topSegment cfg s r = some (res, s') → ReadRun P r s' out s'' →
      ReadRun P r s (res :: out) s''

/-- The steps of the round trip alone: `w`'s `PushSegment`, `r`'s `TopSegment`, and the disk
workers. -/
def quiet (w r : Nat) : Label → Bool
  | .pushSegment w' _ => decide (w' = w)
  | .topSegmentCacheOne r' | .topSegment r' => decide (r' = r)
  | .diskWorker _ => true
  | _ => false

/-- The round trip of `b` up to state `s`.  From `s₀`, `Push(w, primary, |b|)` allocates chain
`c`; a run whose steps `storeRules P` allows stores `b` on it; `PopTop` on read session `r`, with
no read of `r` waiting in a ring, returns `c`; and in a run whose steps `readRules P` allows, the
`TopSegment` calls on `r` return `out`. -/
def RoundTrip (P : Label → Bool) (s₀ : StoreState) (w : Nat) (primary : Bpv6PrimaryBlock) (b : List UInt8)
    (r : Nat) (c : ChainInfo) (out : List TopSegmentResult) (s : StoreState) : Prop :=
  ∃ s₁ s₂ links s₃, push cfg s₀ w primary b.length = some (c.2.length, s₁) ∧ 0 < c.2.length ∧
    (s₁.writeSessions[w]?).map (·.chainInfo) = some c ∧ Run cfg (storeRules cfg P w c b) s₁ s₂ ∧
    oneChainPerSession s₂ (.popTop r links) = true ∧ NoReadsFor s₂ r ∧
    popTop s₂ r links = some (c.1, s₃) ∧ (s₃.readSessions[r]?).map (·.chainInfo) = some c ∧
    ReadRun cfg (readRules cfg P w r c b) r s₃ out s

/-- Run a list of labels, checking each against `P`, with the results of the `TopSegment` calls
on `r`. -/
def readTrace (P : StoreState → Label → Bool) (r : Nat) (s : StoreState) :
    List Label → Option (List TopSegmentResult × StoreState)
  | [] => some ([], s)
  | l :: ls =>
    if P s l then
      if l = .topSegment r then
        (topSegment cfg s r).bind fun (res, s') => (readTrace P r s' ls).map fun (out, s'') => (res :: out, s'')
      else (step cfg s l).bind (readTrace P r · ls)
    else none

variable {cfg} {P : Label → Bool} {w r : Nat} {c : ChainInfo} {b : List UInt8} {s s' : StoreState}
  {l : Label} {rs : SessionReadFromDisk}

theorem readRun_of_readTrace {Q : StoreState → Label → Bool} :
    ∀ {s s' : StoreState} {out : List TopSegmentResult} {ls : List Label},
      readTrace cfg Q r s ls = some (out, s') → ReadRun cfg Q r s out s'
  | s, s', out, [], h => by
    cases h
    exact .refl s
  | s, s', out, l :: ls, h => by
    simp only [readTrace] at h
    split_ifs at h with hp hl
    · subst hl
      obtain ⟨⟨res, s₁⟩, h₁, h⟩ := Option.bind_eq_some.mp h
      obtain ⟨⟨out', s''⟩, h₂, h⟩ := Option.map_eq_some'.mp h
      cases h
      exact .read hp h₁ (readRun_of_readTrace h₂)
    · obtain ⟨s₁, h₁, h⟩ := Option.bind_eq_some.mp h
      exact .other l hl hp h₁ (readRun_of_readTrace h)

theorem NoReadsFor.step (hno : NoReadsFor s r) (hl : l.readSession ≠ some r) (h : step cfg s l = some s') :
    NoReadsFor s' r := by
  intro d x j hmem
  cases l
  case diskWorker d₀ =>
    obtain ⟨req, hhead, -, hd, -⟩ := diskWorker_served (show diskWorker cfg s d₀ = some s' from h)
    by_cases hd₀ : d = d₀
    · subst hd₀
      exact hno d x j (hhead ▸ List.mem_cons_of_mem _ hmem)
    · exact hno d x j (hd d hd₀ ▸ hmem)
  all_goals
    obtain ⟨-, hA⟩ := (step_frame h).2.1 r hl fun _ => nofun
    obtain ⟨-, extra, hring, hext⟩ := hA d
    rw [hring, List.mem_append] at hmem
    exact hmem.elim (hno d x j) (hext x j)

theorem NoReadsFor.of_runTrace {Q : StoreState → Label → Bool} :
    ∀ {s s' : StoreState} {ls : List Label}, runTrace cfg Q s ls = some s' → (∀ l ∈ ls, l.readSession ≠ some r) →
      NoReadsFor s r → NoReadsFor s' r
  | s, s', [], h, _, hno => by
    cases h
    exact hno
  | s, s', l :: ls, h, hl, hno => by
    simp only [runTrace] at h
    split_ifs at h
    obtain ⟨s₁, h₁, h⟩ := Option.bind_eq_some.mp h
    exact NoReadsFor.of_runTrace h (fun l' hl' => hl l' (List.mem_cons_of_mem _ hl'))
      (hno.step (hl l (List.mem_cons_self _ _)) h₁)

theorem readRules_spec (h : readRules cfg P w r c b s l = true) :
    storeRules cfg P w c b s l = true ∧ l ≠ .returnTop r ∧ ∀ force, l ≠ .removeReadBundleFromDisk r force := by
  simp only [readRules, Bool.and_eq_true] at h
  refine ⟨h.1, ?_, ?_⟩
  · rintro rfl
    simp at h
  · rintro force rfl
    simp at h

/-- **Every step but `TopSegment` on `r` keeps `Reading`**, at the same logical segment. -/
theorem Reading.other (hI : Ownership cfg.perSegmentSize s) (hR : Reading cfg r c b s rs)
    (hp : readRules cfg P w r c b s l = true) (hl : l ≠ .topSegment r) (h : step cfg s l = some s') :
    ∃ rs', Reading cfg r c b s' rs' ∧ rs'.nextLogicalSegment = rs.nextLogicalSegment := by
  obtain ⟨hs, hret, hrem⟩ := readRules_spec hp
  have hp₁ := (storeRules_spec hs).1
  have hstep : l.readSession ≠ some r → (∀ d, l ≠ .diskWorker d) →
      ∃ rs', Reading cfg r c b s' rs' ∧ rs'.nextLogicalSegment = rs.nextLogicalSegment :=
    fun h₁ h₂ => ⟨rs, hR.of_step hI hp₁ h₁ h₂ h, rfl⟩
  cases l with
  | diskWorker d =>
    obtain ⟨rs', h', hi, -⟩ := hR.of_diskWorker h
    exact ⟨rs', h', hi⟩
  | topSegmentCacheOne r' =>
    by_cases hr : r' = r
    · subst hr
      obtain ⟨rs', h', hi, -⟩ := hR.of_topSegmentCacheOne h
      exact ⟨rs', h', hi⟩
    · exact hstep (by simpa [Label.readSession] using hr) fun _ h => nomatch h
  | popTop r' links =>
    by_cases hr : r' = r
    · subst hr
      simp [oneChainPerSession, sessionRules, hR.session, hR.custody] at hp₁
    · exact hstep (by simpa [Label.readSession] using hr) fun _ h => nomatch h
  | returnTop r' =>
    by_cases hr : r' = r
    · exact absurd (hr ▸ rfl) hret
    · exact hstep (by simpa [Label.readSession] using hr) fun _ h => nomatch h
  | removeReadBundleFromDisk r' force =>
    by_cases hr : r' = r
    · exact absurd (hr ▸ rfl) (hrem force)
    · exact hstep (by simpa [Label.readSession] using hr) fun _ h => nomatch h
  | topSegment r' =>
    by_cases hr : r' = r
    · exact absurd (hr ▸ rfl) hl
    · exact hstep (by simpa [Label.readSession] using hr) fun _ h => nomatch h
  | push w' primary n => exact hstep (by simp [Label.readSession]) fun _ h => nomatch h
  | pushSegment w' buf => exact hstep (by simp [Label.readSession]) fun _ h => nomatch h

/-- **Reading back.**  Along a run in which `r` only reads, each `TopSegment` call on `r` returns
the next chunk of `b`. -/
theorem Reading.readRun (hC : ChainFor cfg c b) (hI : Ownership cfg.perSegmentSize s)
    (hR : Reading cfg r c b s rs) {out : List TopSegmentResult}
    (hrun : ReadRun cfg (readRules cfg P w r c b) r s out s') :
    Ownership cfg.perSegmentSize s' ∧
      out = (List.range' rs.nextLogicalSegment out.length).map (chunkResult cfg b) ∧
      ∃ rs', Reading cfg r c b s' rs' ∧ rs'.nextLogicalSegment = rs.nextLogicalSegment + out.length := by
  induction hrun generalizing rs with
  | refl => exact ⟨hI, rfl, rs, hR, rfl⟩
  | other l hl hp hst _ ih =>
    obtain ⟨rs₁, hR₁, hi₁⟩ := hR.other hI hp hl hst
    obtain ⟨hI', hout, rs', hR', hi'⟩ := ih (hI.step (storeRules_spec (readRules_spec hp).1).1 hst) hR₁
    exact ⟨hI', by rw [← hi₁]; exact hout, rs', hR', by rw [hi', hi₁]⟩
  | read hp hst _ ih =>
    obtain ⟨hres, rs₁, hR₁, hi₁, -⟩ := hR.of_topSegment hC hst
    obtain ⟨hI', hout, rs', hR', hi'⟩ :=
      ih (hI.step (storeRules_spec (readRules_spec hp).1).1 (by simp [step, hst])) hR₁
    refine ⟨hI', ?_, rs', hR', by rw [hi', hi₁, List.length_cons]; omega⟩
    rw [List.length_cons, List.range'_succ, List.map_cons, ← hres, ← hi₁]
    exact congrArg _ hout

theorem ReadRun.invariant {Q : StoreState → Label → Bool} {I : StoreState → Prop}
    (hstep : ∀ s s' l, I s → Q s l = true → step cfg s l = some s' → I s') {out : List TopSegmentResult}
    (h : ReadRun cfg Q r s out s') (hs : I s) : I s' := by
  induction h with
  | refl => exact hs
  | other l _ hp hst _ ih => exact ih (hstep _ _ l hs hp hst)
  | read hp hst _ ih => exact ih (hstep _ _ _ hs hp (by simp [step, hst]))

theorem writing_of_push {s₀ s₁ : StoreState} {primary : Bpv6PrimaryBlock}
    (h : push cfg s₀ w primary b.length = some (c.2.length, s₁)) (hpos : 0 < c.2.length)
    (hc : (s₁.writeSessions[w]?).map (·.chainInfo) = some c) :
    ChainFor cfg c b ∧ Writing cfg w c b s₁ ∧
      s₁.memoryManager.allocated = s₀.memoryManager.allocated ∪ c.2.toFinset ∧
      ∀ x ∈ c.2, x ∉ s₀.memoryManager.allocated := by
  obtain ⟨ws, hw, -, ⟨ids, mm, ha, hk, rfl⟩ | ⟨hk, -⟩⟩ := push_eq_some h
  · have hws : ({ s₀.setWrite w (ws.prepare primary b.length ids (decide (0 < c.2.length))) with
        memoryManager := mm } : StoreState).writeSessions[w]? =
        some (ws.prepare primary b.length ids (decide (0 < c.2.length))) :=
      List.getElem?_set_self (List.getElem?_eq_some_iff.mp hw).1
    obtain rfl : (b.length, ids) = c := by
      rw [hws] at hc
      exact Option.some.inj hc
    obtain ⟨hlen, hnd, hfresh, hmm⟩ := MemoryManager.allocateSegments_spec ha
    refine ⟨⟨rfl, hk, hnd, fun x hx => (hfresh x hx).1⟩,
      ⟨_, hws, rfl, by simpa [SessionWriteToDisk.prepare] using hpos, hpos, fun j hj => absurd hj (Nat.not_lt_zero j)⟩,
      hmm, fun x hx => (hfresh x hx).2⟩
  · omega

theorem reading_of_popTop (hI : Ownership cfg.perSegmentSize s) (hst : Writing cfg w c b s ∨ ChunksStored cfg c b s)
    (hno : NoReadsFor s r) (hpos : 0 < c.1) {links : List Nat} (h : popTop s r links = some (c.1, s'))
    (hc : (s'.readSessions[r]?).map (·.chainInfo) = some c) :
    ∃ rs, Reading cfg r c b s' rs ∧ rs.nextLogicalSegment = 0 := by
  obtain ⟨rs, hr, -, ⟨-, hk, -⟩ | ⟨key, c', hsel, -, rfl⟩⟩ := popTop_eq_some h
  · omega
  have hrs := List.getElem?_set_self (a := { rs with
    nextLogicalSegment := 0, nextLogicalSegmentToCache := 0, cacheReadIndex := 0, cacheWriteIndex := 0,
    chainInfo := c', expirationMapPtr := some (key.dest, key.priority), absExpiration := key.expiration,
    destLinkId := key.dest, priorityIndex := key.priority, holdsCustody := true })
    (List.getElem?_eq_some_iff.mp hr).1
  obtain rfl : c' = c := by simpa [hrs] using hc
  have hitem : (key, c') ∈ s.destMap.items := by
    obtain ⟨-, ⟨rest, hb⟩, -⟩ := selectTop_some hsel
    exact DestinationMap.mem_items.mpr (by rw [hb]; exact List.mem_cons_self _ _)
  have hch : HoldsChunks cfg c' b c'.2.length s := by
    rcases hst with ⟨ws, hw, hwc, hsucc, hk, -⟩ | ⟨-, hch⟩
    · have he₁ := mem_storedChains_of_items hitem
      have he₂ := mem_storedChains_of_open hw (by simp [SessionWriteToDisk.isOpen, hsucc, hwc, hk])
      have hx := getD_mem_of_lt (hI.length_pos he₁)
      have := congrArg StoredChain.written (hI.eq_of_mem_chain he₁ he₂ hx (by rw [hwc]; exact hx))
      simp only [StoredChain.ofItem] at this
      omega
    · exact hch
  exact ⟨_,
    { session := hrs
      custody := rfl
      chainInfo_eq := rfl
      chunks := hch.of_record (record_of_disks rfl)
      read_le := le_rfl
      cache_le := Nat.zero_le _
      window := Nat.zero_le _
      cacheReadIndex_eq := (Nat.zero_mod _).symm
      cacheWriteIndex_eq := (Nat.zero_mod _).symm
      ready := fun k _ h₂ => absurd h₂ (Nat.not_lt_zero k)
      pending := fun d p x j hp => absurd (List.getElem?_mem hp) (hno d x j)
      unique := fun d p q x x' j hp => absurd (List.getElem?_mem hp) (hno d x j)
      waiting := fun k _ h₂ => absurd h₂ (Nat.not_lt_zero k) }, rfl⟩

theorem memoryManager_of_quiet (hq : quiet w r l = true) (h : step cfg s l = some s') :
    s'.memoryManager = s.memoryManager :=
  (step_frame h).2.2 (fun _ _ _ e => by subst e; simp [quiet] at hq) (fun _ _ e => by subst e; simp [quiet] at hq)

theorem RoundTrip.reading {s₀ : StoreState} {primary : Bpv6PrimaryBlock} {out : List TopSegmentResult}
    (hs₀ : Reachable cfg s₀) (hp : oneChainPerSession s₀ (.push w primary b.length) = true)
    (h : RoundTrip cfg P s₀ w primary b r c out s) :
    ChainFor cfg c b ∧ Ownership cfg.perSegmentSize s ∧ out = (List.range out.length).map (chunkResult cfg b) ∧
      ∃ rs, Reading cfg r c b s rs ∧ rs.nextLogicalSegment = out.length := by
  obtain ⟨s₁, s₂, links, s₃, hpush, hpos, hc, hstore, hpop₁, hno, hpop, hc₃, hread⟩ := h
  obtain ⟨hC, hW, -, -⟩ := writing_of_push hpush hpos hc
  have hI₁ : Ownership cfg.perSegmentSize s₁ :=
    (Ownership.of_reachable hs₀).step hp (show step cfg s₀ _ = some s₁ by simp [step, hpush])
  obtain ⟨hI₂, hst₂⟩ := hstore.invariant
    (I := fun s => Ownership cfg.perSegmentSize s ∧ (Writing cfg w c b s ∨ ChunksStored cfg c b s))
    (fun _ _ _ ⟨hI, hst⟩ hp h => ⟨hI.step (storeRules_spec hp).1 h, storing_step hC hI hst hp h⟩) ⟨hI₁, .inl hW⟩
  have hI₃ := hI₂.step hpop₁ (show step cfg s₂ _ = some s₃ by simp [step, hpop])
  obtain ⟨rs, hR, hi₀⟩ := reading_of_popTop hI₂ hst₂ hno
    (by rw [hC.size_eq]; exact pos_of_totalSegmentsRequired_pos (hC.length_eq ▸ hpos)) hpop hc₃
  obtain ⟨hI, hout, rs', hR', hi'⟩ := hR.readRun hC hI₃ hread
  exact ⟨hC, hI, by rw [List.range_eq_range', ← hi₀]; exact hout, rs', hR', by rw [hi', hi₀, Nat.zero_add]⟩

end runs

/-! ### The round trip -/

/-- **The store round trip.**  Take a reachable store and `Push(w, primary, |b|)` on a write
session the protocol allows it on.  For every round trip of `b` (`RoundTrip`), whatever the
other sessions do under the protocol without removing the chain, and in whatever order the disk
workers serve their rings:

* the `TopSegment` calls on `r` return `b`'s chunks in order, none of their checks firing, and
  there are at most as many as the chain has segments;
* once there are as many, their sizes add up to `|b|` and their bytes make up `b`, and
  `RemoveReadBundleFromDisk(r, false)` returns `true` and frees exactly the chain's segments;
* before that, `r`'s read-ahead and the disk workers lead to a state where the next
  `TopSegment` completes.

With no other activity (`quiet`), the memory manager after `RemoveReadBundleFromDisk` is the one
before `Push`. -/
theorem store_round_trip {cfg : StorageConfig} {s₀ : StoreState} {w r : Nat} {primary : Bpv6PrimaryBlock}
    {b : List UInt8} (hs₀ : Reachable cfg s₀) (hp : oneChainPerSession s₀ (.push w primary b.length) = true) :
    (∀ P c out s, RoundTrip cfg P s₀ w primary b r c out s →
      out = (List.range out.length).map (chunkResult cfg b) ∧ out.length ≤ c.2.length ∧
      (out.length = c.2.length → totalSize out = b.length ∧ (out.map (·.bytes)).flatten = b ∧
        (s.topSegmentIn = none → ∃ s', removeReadBundleFromDisk cfg s r false = some (true, s') ∧
          s'.memoryManager.allocated = s.memoryManager.allocated \ c.2.toFinset)) ∧
      (out.length < c.2.length → (s.topSegmentIn = none ∨ s.topSegmentIn = some r) →
        ∃ s', Run cfg (readAheadRules r) s s' ∧ (topSegment cfg s' r).isSome)) ∧
    ∀ c out s, RoundTrip cfg (quiet w r) s₀ w primary b r c out s → out.length = c.2.length →
      s.topSegmentIn = none → ∃ s', removeReadBundleFromDisk cfg s r false = some (true, s') ∧
        s'.memoryManager = s₀.memoryManager := by
  have hmain : ∀ P c out s, RoundTrip cfg P s₀ w primary b r c out s → out.length = c.2.length →
      s.topSegmentIn = none → ∃ s', removeReadBundleFromDisk cfg s r false = some (true, s') ∧
        s'.memoryManager.allocated = s.memoryManager.allocated \ c.2.toFinset := fun P c out s h hn ht => by
    obtain ⟨-, hI, -, rs, hR, hi⟩ := h.reading hs₀ hp
    exact hR.removeReadBundleFromDisk_frees hI (hi.trans hn) ht
  refine ⟨fun P c out s h => ?_, fun c out s h hn ht => ?_⟩
  · obtain ⟨hC, -, hout, rs, hR, hi⟩ := h.reading hs₀ hp
    have hle : out.length ≤ c.2.length := hi ▸ (hR.read_le.trans hR.cache_le)
    refine ⟨hout, hle, fun hn => ⟨?_, ?_, hmain P c out s h hn⟩, fun hlt ht => hR.exists_run_topSegment (hi ▸ hlt) ht⟩
    · rw [hout, totalSize_map_chunkResult, hn, hC.length_eq, flatMap_chunk]
    · rw [hout, flatten_map_chunkResult, hn, hC.length_eq, flatMap_chunk]
  · obtain ⟨s', hrem, halloc⟩ := hmain _ c out s h hn ht
    obtain ⟨s₁, s₂, links, s₃, hpush, hpos, hc, hstore, -, -, hpop, -, hread⟩ := h
    obtain ⟨-, -, hmm₁, hfresh⟩ := writing_of_push hpush hpos hc
    have hmm₂ : s₂.memoryManager = s₁.memoryManager :=
      hstore.invariant (I := fun s => s.memoryManager = s₁.memoryManager)
        (fun _ _ _ e hq hst => (memoryManager_of_quiet (storeRules_spec hq).2.1 hst).trans e) rfl
    have hmm : s.memoryManager = s₁.memoryManager :=
      hread.invariant (I := fun s => s.memoryManager = s₁.memoryManager)
        (fun _ _ _ e hq hst => (memoryManager_of_quiet (storeRules_spec (readRules_spec hq).1).2.1 hst).trans e)
        (((step_frame (show step cfg s₂ (.popTop r links) = some s₃ by simp [step, hpop])).2.2 (fun _ _ _ e => nomatch e)
          (fun _ _ e => nomatch e)).trans hmm₂)
    refine ⟨s', hrem, congrArg MemoryManager.mk ?_⟩
    rw [halloc, hmm, hmm₁, Finset.union_sdiff_cancel_right (Finset.disjoint_left.mpr fun x hx₀ hx =>
      hfresh x (List.mem_toFinset.mp hx) hx₀)]

/-- Six bytes stored on a fresh store: two segments, on the two disks of `smallConfig`. -/
def sixByteStores : List Label := [.pushSegment 0 [1, 2, 3, 4], .pushSegment 0 [5, 6], .diskWorker 0, .diskWorker 1]

/-- The two `TopSegment` calls on read session `0`, its read-ahead and the disk workers serving
the reads. -/
def sixByteReads : List Label :=
  [.topSegmentCacheOne 0, .topSegmentCacheOne 0, .diskWorker 0, .topSegment 0, .diskWorker 1, .topSegment 0]

/-- The round trip of six bytes on a fresh store with one write and one read session and no
other activity: `Push`, the two `PushSegment` calls and the disk workers, `PopTop`, and the two
`TopSegment` calls.  They return the two chunks, of sizes `4` and `2`, which make up the six
bytes, and `RemoveReadBundleFromDisk` then leaves the memory manager of the fresh store. -/
theorem store_round_trip_sixBytes :
    ∃ c out s, RoundTrip smallConfig (quiet 0 0) (freshStore smallConfig 1 1) 0 bulkPrimary [1, 2, 3, 4, 5, 6] 0
        c out s ∧ out.length = c.2.length ∧ s.topSegmentIn = none ∧
      out = (List.range out.length).map (chunkResult smallConfig [1, 2, 3, 4, 5, 6]) ∧
      totalSize out = 6 ∧ (out.map (·.bytes)).flatten = [1, 2, 3, 4, 5, 6] ∧
      ∃ s', removeReadBundleFromDisk smallConfig s 0 false = some (true, s') ∧
        s'.memoryManager = (freshStore smallConfig 1 1).memoryManager := by
  have h₀ : Reachable smallConfig (freshStore smallConfig 1 1) := ⟨_, freshStore_initial smallConfig 1 1, .refl _⟩
  have hp : oneChainPerSession (freshStore smallConfig 1 1) (.push 0 bulkPrimary 6) = true := by decide
  obtain ⟨s₁, s₂, s₃, out, s, h₁, hc₁, h₂, hp₂, h₃, hc₃, h₄, hlen, hidle⟩ : ∃ s₁ s₂ s₃ out s,
      push smallConfig (freshStore smallConfig 1 1) 0 bulkPrimary 6 = some (2, s₁) ∧
      (s₁.writeSessions[0]?).map SessionWriteToDisk.chainInfo = some (6, [0, 1]) ∧
      runTrace smallConfig (storeRules smallConfig (quiet 0 0) 0 (6, [0, 1]) [1, 2, 3, 4, 5, 6]) s₁ sixByteStores =
        some s₂ ∧ oneChainPerSession s₂ (.popTop 0 [1]) = true ∧ popTop s₂ 0 [1] = some (6, s₃) ∧
      (s₃.readSessions[0]?).map SessionReadFromDisk.chainInfo = some (6, [0, 1]) ∧
      readTrace smallConfig (readRules smallConfig (quiet 0 0) 0 0 (6, [0, 1]) [1, 2, 3, 4, 5, 6]) 0 s₃ sixByteReads =
        some (out, s) ∧ out.length = 2 ∧ s.topSegmentIn = none :=
    ⟨_, _, _, _, _, rfl, by decide, rfl, by decide, rfl, by decide, rfl, by decide, by decide⟩
  have hno₁ : NoReadsFor s₁ 0 :=
    NoReadsFor.step (fun d x j h => by rw [(freshStore_initial smallConfig 1 1).ring_nil d] at h; exact nomatch h)
      (by decide) (show step smallConfig _ (.push 0 bulkPrimary 6) = some s₁ by simp [step, h₁])
  have hrt : RoundTrip smallConfig (quiet 0 0) (freshStore smallConfig 1 1) 0 bulkPrimary [1, 2, 3, 4, 5, 6] 0
      (6, [0, 1]) out s :=
    ⟨s₁, s₂, [1], s₃, h₁, by decide, hc₁, run_of_runTrace h₂, hp₂, NoReadsFor.of_runTrace h₂ (by decide) hno₁, h₃, hc₃,
      readRun_of_readTrace h₄⟩
  obtain ⟨hout, -, hfull, -⟩ := (store_round_trip h₀ hp).1 _ _ _ _ hrt
  obtain ⟨htot, hflat, -⟩ := hfull hlen
  exact ⟨_, out, s, hrt, hlen, hidle, hout, htot, hflat, (store_round_trip h₀ hp).2 _ out s hrt hlen hidle⟩

end Hdtn.Storage
