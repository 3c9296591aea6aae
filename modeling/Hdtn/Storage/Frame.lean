import Hdtn.Storage.Durability

/-! # What a step leaves in place

The frame of the store's steps, for following one session's work among everyone else's
(`Hdtn.Storage.RoundTrip`):

* a step that is not on write session `w` leaves `w` as it is; one that is neither on read
  session `r` nor a disk worker leaves `r` as it is, and changes the disks only by appending
  requests to their rings, none of them a read of `r` (`Appended`); only `Push` and
  `RemoveReadBundleFromDisk` touch the memory manager (`step_frame`);
* a step keeps the records of a chain that is held both before and after it
  (`record_eq_of_mem`);
* only `RemoveReadBundleFromDisk` gives up a chain, the chain of its own session
  (`freed_by_remove`), so a written chain that no session removes stays held
  (`mem_storedChains_of_written`). -/

namespace Hdtn.Storage

open scoped List

variable {cfg : StorageConfig} {s s' : StoreState} {l : Label}

/-! ### Owners of a chain -/

theorem mem_storedChains_of_custody {r : Nat} {rs : SessionReadFromDisk} (hr : s.readSessions[r]? = some rs)
    (hc : rs.holdsCustody = true) :
    ⟨rs.returnKey.1, rs.returnKey.2, rs.absExpiration, rs.chainInfo, rs.chainInfo.2.length⟩ ∈ s.storedChains := by
  simp only [StoreState.storedChains, List.mem_append, List.mem_flatMap]
  exact .inr ⟨rs, List.getElem?_mem hr, by simp [SessionReadFromDisk.stored, hc]⟩

theorem mem_storedChains_of_open {w : Nat} {ws : SessionWriteToDisk} (hw : s.writeSessions[w]? = some ws)
    (ho : ws.isOpen = true) :
    ⟨ws.destLinkId, ws.priorityIndex, ws.absExpiration, ws.chainInfo, ws.nextLogicalSegment⟩ ∈ s.storedChains := by
  simp only [StoreState.storedChains, List.mem_append, List.mem_flatMap]
  exact .inl (.inr ⟨ws, List.getElem?_mem hw, by simp [SessionWriteToDisk.stored, ho]⟩)

theorem mem_storedChains_of_items {item : CatalogKey × ChainInfo} (h : item ∈ s.destMap.items) :
    StoredChain.ofItem item ∈ s.storedChains := by
  simp only [StoreState.storedChains, List.mem_append, List.mem_map]
  exact .inl (.inl ⟨item, h, rfl⟩)

section ownership

variable {P : Nat}

theorem Ownership.length_pos (hI : Ownership P s) {e : StoredChain} (he : e ∈ s.storedChains) :
    0 < e.chain.2.length := by
  obtain ⟨hpos, hlen⟩ := hI.chainLength e.chain
    (by rw [held_eq_map]; exact Multiset.mem_map_of_mem _ (Multiset.mem_coe.mpr he))
  exact hlen ▸ totalSegmentsRequired_pos hpos

theorem Ownership.eq_of_mem_chain (hI : Ownership P s) {e e' : StoredChain} (he : e ∈ s.storedChains)
    (he' : e' ∈ s.storedChains) {x : Nat} (hx : x ∈ e.chain.2) (hx' : x ∈ e'.chain.2) : e = e' := by
  by_contra hne
  obtain ⟨m, hm⟩ := Multiset.exists_cons_of_mem (Multiset.mem_coe.mpr he)
  have hm' : e' ∈ m := by
    have := Multiset.mem_coe.mpr he'
    rw [hm, Multiset.mem_cons] at this
    exact this.resolve_left (Ne.symm hne)
  exact hI.not_mem_of_cons hm hm' hx hx'

end ownership

/-! ### Rings with requests appended -/

/-- The disks of `s'` are those of `s` with requests appended to their rings, none of them a read
of read session `r`. -/
def Appended (r : Nat) (s s' : StoreState) : Prop :=
  ∀ d, (s'.disks d).file = (s.disks d).file ∧
    ∃ extra, (s'.disks d).ring = (s.disks d).ring ++ extra ∧ ∀ x j, DiskRequest.read x r j ∉ extra

namespace Appended

variable {r : Nat}

theorem of_disks (h : s'.disks = s.disks) : Appended r s s' := fun d =>
  ⟨by rw [h], [], by rw [h, List.append_nil], fun _ _ => List.not_mem_nil _⟩

theorem updateDisk {d₀ : Nat} {f : Disk → Disk} {extra : List DiskRequest}
    (hfile : (f (s.disks d₀)).file = (s.disks d₀).file)
    (hring : (f (s.disks d₀)).ring = (s.disks d₀).ring ++ extra) (hext : ∀ x j, DiskRequest.read x r j ∉ extra) :
    Appended r s (s.updateDisk d₀ f) := fun d => by
  by_cases hd : d = d₀
  · subst hd
    rw [StoreState.updateDisk_disks, Function.update_same]
    exact ⟨hfile, extra, hring, hext⟩
  · rw [StoreState.updateDisk_disks, Function.update_noteq hd]
    exact ⟨rfl, [], by rw [List.append_nil], fun _ _ => List.not_mem_nil _⟩

theorem queueWrite (y : Nat) (u : Segment → Segment) : Appended r s (s.queueWrite cfg y u) :=
  updateDisk rfl rfl fun _ _ h => by simp at h

theorem queueRead {x r' j : Nat} (hr : r' ≠ r) : Appended r s (s.queueRead cfg x r' j) :=
  updateDisk rfl rfl fun _ _ h => by simp at h; exact hr h.2.1.symm

end Appended

/-! ### The frame of a step -/

/-- **The frame of a step.**  A step that is not on write session `w` leaves `w` as it is.  One
that is neither on read session `r` nor a disk worker leaves `r` as it is and only appends
requests that are not reads of `r` to the rings.  Only `Push` and `RemoveReadBundleFromDisk`
change the memory manager. -/
theorem step_frame (h : step cfg s l = some s') :
    (∀ w, l.writeSession ≠ some w → s'.writeSessions[w]? = s.writeSessions[w]?) ∧
      (∀ r, l.readSession ≠ some r → (∀ d, l ≠ .diskWorker d) →
        s'.readSessions[r]? = s.readSessions[r]? ∧ Appended r s s') ∧
      ((∀ w primary n, l ≠ .push w primary n) → (∀ r force, l ≠ .removeReadBundleFromDisk r force) →
        s'.memoryManager = s.memoryManager) := by
  cases l with
  | push w' primary n =>
    obtain ⟨⟨k, t⟩, ht, rfl⟩ := Option.map_eq_some'.mp h
    refine ⟨fun w hw => ?_, fun r _ _ => ?_, fun hl _ => absurd rfl (hl w' primary n)⟩ <;>
    obtain ⟨ws, -, -, ⟨ids, mm, -, -, rfl⟩ | ⟨-, rfl⟩⟩ := push_eq_some ht
    all_goals first
      | exact ⟨rfl, .of_disks rfl⟩
      | exact List.getElem?_set_ne (fun e => hw (by rw [e]; rfl))
  | pushSegment w' buf =>
    obtain ⟨⟨k, t⟩, ht, rfl⟩ := Option.map_eq_some'.mp h
    refine ⟨fun w hw => ?_, fun r _ _ => ?_, fun _ _ => ?_⟩ <;>
    obtain ⟨ws, -, -, ⟨-, -, rfl⟩ | ⟨x, -, -, -, ⟨-, rfl⟩ | ⟨-, -, rfl⟩⟩⟩ := pushSegment_eq_some ht
    all_goals first
      | rfl
      | exact ⟨rfl, .of_disks rfl⟩
      | exact ⟨rfl, .queueWrite _ _⟩
      | exact List.getElem?_set_ne (fun e => hw (by rw [e]; rfl))
  | popTop r' links =>
    obtain ⟨⟨k, t⟩, ht, rfl⟩ := Option.map_eq_some'.mp h
    refine ⟨fun w _ => ?_, fun r hr _ => ?_, fun _ _ => ?_⟩ <;>
    obtain ⟨rs, -, -, ⟨-, -, rfl⟩ | ⟨key, c, -, -, rfl⟩⟩ := popTop_eq_some ht
    all_goals first
      | rfl
      | exact ⟨List.getElem?_set_ne (fun e => hr (by rw [e]; rfl)), .of_disks rfl⟩
  | returnTop r' =>
    obtain ⟨rs, d, p, -, -, -, rfl⟩ := returnTop_eq_some h
    exact ⟨fun _ _ => rfl, fun r hr _ => ⟨List.getElem?_set_ne (fun e => hr (by rw [e]; rfl)), .of_disks rfl⟩,
      fun _ _ => rfl⟩
  | topSegmentCacheOne r' =>
    obtain ⟨rs, -, -, -, rfl⟩ := topSegmentCacheOne_eq_some h
    have hne : ∀ r, Label.readSession (.topSegmentCacheOne r') ≠ some r → r' ≠ r := fun r hr e => hr (by rw [e]; rfl)
    exact ⟨fun _ _ => rfl, fun r hr _ => ⟨List.getElem?_set_ne (hne r hr), .queueRead (hne r hr)⟩, fun _ _ => rfl⟩
  | topSegment r' =>
    obtain ⟨⟨res, t⟩, ht, rfl⟩ := Option.map_eq_some'.mp h
    obtain ⟨rs, -, -, -, -, -, -, rfl⟩ := topSegment_eq_some ht
    exact ⟨fun _ _ => rfl, fun r hr _ => ⟨List.getElem?_set_ne (fun e => hr (by rw [e]; rfl)), .of_disks rfl⟩,
      fun _ _ => rfl⟩
  | removeReadBundleFromDisk r' force =>
    obtain ⟨⟨ok, t⟩, ht, rfl⟩ := Option.map_eq_some'.mp h
    refine ⟨fun w _ => ?_, fun r hr _ => ?_, fun _ hl => absurd rfl (hl r' force)⟩ <;>
    obtain ⟨rs, -, -, ⟨-, -, -, rfl⟩ | ⟨-, x, rest, -, -, rfl⟩⟩ := removeReadBundleFromDisk_eq_some ht
    all_goals first
      | rfl
      | exact ⟨rfl, .of_disks rfl⟩
      | exact ⟨List.getElem?_set_ne (fun e => hr (by rw [e]; rfl)), .queueWrite _ _⟩
  | diskWorker d =>
    refine ⟨fun _ _ => ?_, fun _ _ hd => absurd rfl (hd d), fun _ _ => ?_⟩ <;>
    rcases diskWorker_eq_some h with ⟨x, data, rest, -, rfl⟩ | ⟨x, r, j, rest, -, ⟨rs, -, rfl⟩ | ⟨-, rfl⟩⟩ <;> rfl

/-! ### Records and chains kept -/

theorem record_eq_of_mem {P : Nat} (hI : Ownership P s) (hE : StepEffect cfg l s s') {e : StoredChain}
    (he : e ∈ s.storedChains) (he' : e ∈ s'.storedChains) {x : Nat} (hx : x ∈ e.chain.2)
    (hrec : s.record cfg x ≠ none) : s'.record cfg x = s.record cfg x := by
  cases hE with
  | same _ _ h => rw [h]
  | alloc _ _ _ _ _ _ _ _ _ h => rw [h]
  | write f m seg hs hs' hlt _ _ hw _ =>
    have hem : e ∈ m := by
      rcases Multiset.mem_cons.mp (hs ▸ Multiset.mem_coe.mpr he) with hef | hem
      · subst hef
        exact (Multiset.mem_cons.mp (hs' ▸ Multiset.mem_coe.mpr he')).resolve_left fun h => by
          simpa using congrArg StoredChain.written h
      · exact hem
    exact hw.eq_of_ne (fun hxy => hI.not_mem_of_cons hs hem (getD_mem_of_lt hlt) (hxy ▸ hx)) hrec
  | free f seg hs _ _ _ hw =>
    have hf : f ∈ s.storedChains := Multiset.mem_coe.mp (hs ▸ Multiset.mem_cons_self f _)
    exact hw.eq_of_ne (fun hxy => hI.not_mem_of_cons hs (Multiset.mem_coe.mpr he')
      (getD_mem_of_lt (hI.length_pos hf)) (hxy ▸ hx)) hrec

theorem freed_by_remove (hI : Ownership cfg.perSegmentSize s) (hp : oneChainPerSession s l = true)
    (h : step cfg s l = some s') {f : StoredChain}
    (hs : (s.storedChains : Multiset StoredChain) = f ::ₘ s'.storedChains) :
    ∃ r force rs, l = .removeReadBundleFromDisk r force ∧ s.readSessions[r]? = some rs ∧
      rs.holdsCustody = true ∧ rs.chainInfo = f.chain := by
  have hf : f ∈ s.storedChains := Multiset.mem_coe.mp (hs ▸ Multiset.mem_cons_self f _)
  have hx := getD_mem_of_lt (hI.length_pos hf)
  have hxa := hI.allocated_of_mem hf hx
  have hxa' : f.chain.2.getD 0 0 ∉ s'.memoryManager.allocated := fun h' => by
    obtain ⟨g, hg, hxg⟩ := (hI.step hp h).mem_of_allocated h'
    exact hI.not_mem_of_cons hs (Multiset.mem_coe.mpr hg) hx hxg
  cases l with
  | push w primary n =>
    obtain ⟨⟨k, t⟩, ht, rfl⟩ := Option.map_eq_some'.mp h
    obtain ⟨ws, -, -, ⟨ids, mm, ha, -, rfl⟩ | ⟨-, rfl⟩⟩ := push_eq_some ht
    · exact absurd (by rw [(MemoryManager.allocateSegments_spec ha).2.2.2]; exact Finset.mem_union_left _ hxa) hxa'
    · exact absurd hxa hxa'
  | removeReadBundleFromDisk r force =>
    obtain ⟨⟨ok, t⟩, ht, rfl⟩ := Option.map_eq_some'.mp h
    obtain ⟨rs, hr, -, ⟨-, -, -, rfl⟩ | ⟨-, y, rest, -, -, rfl⟩⟩ := removeReadBundleFromDisk_eq_some ht
    · exact absurd hxa hxa'
    have hcust : rs.holdsCustody = true := by
      simpa [oneChainPerSession, sessionRules, hr] using hp
    have hg := mem_storedChains_of_custody hr hcust
    have hfree := MemoryManager.freeSegments_of_subset (hI.nodup_of_mem hg) fun y hy => hI.allocated_of_mem hg hy
    have hxc : f.chain.2.getD 0 0 ∈ rs.chainInfo.2 := by
      by_contra hxc
      refine hxa' ?_
      show _ ∈ (s.memoryManager.freeSegments rs.chainInfo.2).2.allocated
      rw [hfree]
      exact Finset.mem_sdiff.mpr ⟨hxa, fun h => hxc (List.mem_toFinset.mp h)⟩
    exact ⟨r, force, rs, rfl, hr, hcust, congrArg StoredChain.chain (hI.eq_of_mem_chain hg hf hxc hx)⟩
  | _ =>
    refine absurd (((step_frame h).2.2 (fun _ _ _ => ?_) (fun _ _ => ?_)) ▸ hxa) hxa' <;> exact fun e => nomatch e

theorem mem_storedChains_of_written (hI : Ownership cfg.perSegmentSize s) (hp : oneChainPerSession s l = true)
    (h : step cfg s l = some s') {e : StoredChain} (he : e ∈ s.storedChains) (hfull : e.written = e.chain.2.length)
    (hkeep : ∀ r force rs, l = .removeReadBundleFromDisk r force → s.readSessions[r]? = some rs →
      rs.holdsCustody = true → rs.chainInfo ≠ e.chain) : e ∈ s'.storedChains := by
  have he' := Multiset.mem_coe.mpr he
  cases stepEffect_of_step hp h with
  | same hst _ _ => rwa [← Multiset.mem_coe, hst]
  | alloc f hst _ _ _ _ _ _ _ _ => rw [← Multiset.mem_coe, hst]; exact Multiset.mem_cons_of_mem he'
  | write f m seg hs hs' hlt _ _ _ _ =>
    rw [hs, Multiset.mem_cons] at he'
    rcases he' with rfl | hem
    · omega
    · rw [← Multiset.mem_coe, hs']; exact Multiset.mem_cons_of_mem hem
  | free f seg hs _ _ _ _ =>
    rw [hs, Multiset.mem_cons] at he'
    rcases he' with rfl | hem
    · obtain ⟨r, force, rs, hl, hr, hc, hch⟩ := freed_by_remove hI hp h hs
      exact absurd hch (hkeep r force rs hl hr hc)
    · exact Multiset.mem_coe.mp hem

end Hdtn.Storage
