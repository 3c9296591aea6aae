import Hdtn.DirectoryScanner.Pending

/-! # No path is handed out twice

`GetNextFilePath` moves a path out of `m_pathsOfFilesList` to the consumer.  Every path the
scanner appends to the list it first records in `m_newFilePathsAddedSet`, whose `emplace` fails
for a path already there, and the set is never cleared: a path handed out, or one still in the
list, is never appended again.  The one path listed without being recorded is `Reload`'s root
file; the scanner then monitors no directory and never calls `async_monitor`, so no directory
event arrives, and with no event nothing is ever queued for the recheck timer.

* `Records` is what every function that lists paths does: it appends paths it has just
  recorded, each once (`records_iterateDirectories`, `records_onDirectoryChangeEvent`,
  `records_onRecheckFileSizeTimerExpired`);
* `HandOut` is the invariant: the paths handed out followed by the list have no duplicate, and
  are all recorded, unless no directory is monitored and the timer queue is empty;
* `ConsumerRun` is a run that collects what `GetNextFilePath` hands out, in which a directory
  event arrives only while a directory is monitored; `consumerRun_nodup` is the result.

Nor is a pending path lost: `GetNextFilePath` takes the front of the paths from the iterator on,
and every append goes behind them, so along every run the paths pending at the start are the
first the consumer gets, in order (`consumerRun_pending_prefix`).
-/

namespace Hdtn.DirectoryScanner

variable {cfg : ScannerConfig} {fs : FileSystem} {s s' : ScannerState} {p : Path}

/-! ### Recording appends -/

/-- `s'` is `s` with the paths `a` appended to the list, each once, recorded in `s'` and not in
`s`; no path recorded in `s` is forgotten. -/
structure Records (s s' : ScannerState) (a : List Path) : Prop where
  list_eq : s'.pathsOfFilesList = s.pathsOfFilesList ++ a
  nodup : a.Nodup
  fresh : ∀ p ∈ a, s.newFilePathsAddedSet p = false
  recorded : ∀ p ∈ a, s'.newFilePathsAddedSet p = true
  mono : ∀ p, s.newFilePathsAddedSet p = true → s'.newFilePathsAddedSet p = true

namespace Records

theorem of_eq (hl : s'.pathsOfFilesList = s.pathsOfFilesList)
    (hm : ∀ p, s.newFilePathsAddedSet p = true → s'.newFilePathsAddedSet p = true) : Records s s' [] :=
  ⟨by rw [hl, List.append_nil], List.nodup_nil, nofun, nofun, hm⟩

theorem refl (s : ScannerState) : Records s s [] := of_eq rfl fun _ => id

theorem of_append (hl : s'.pathsOfFilesList = s.pathsOfFilesList ++ [p])
    (hfresh : s.newFilePathsAddedSet p = false)
    (hadd : s'.newFilePathsAddedSet = Function.update s.newFilePathsAddedSet p true) : Records s s' [p] :=
  ⟨hl, List.nodup_singleton p, by simpa using hfresh, by simp [hadd], fun q hq => by
    simp [hadd, Function.update_apply, hq]⟩

theorem trans {s'' : ScannerState} {a b : List Path} (h : Records s s' a) (h' : Records s' s'' b) :
    Records s s'' (a ++ b) where
  list_eq := by rw [h'.list_eq, h.list_eq, List.append_assoc]
  nodup := List.nodup_append.2 ⟨h.nodup, h'.nodup, fun p hpa hpb => by
    simpa [h'.fresh p hpb] using h.recorded p hpa⟩
  fresh p hp := (List.mem_append.1 hp).elim (h.fresh p) fun hp =>
    Bool.eq_false_iff.2 fun hs => by simpa [h'.fresh p hp] using h.mono p hs
  recorded p hp := (List.mem_append.1 hp).elim (fun hp => h'.mono p (h.recorded p hp)) (h'.recorded p)
  mono p hp := h'.mono p (h.mono p hp)

end Records

theorem markAdded_mono {q : Path} (hq : s.newFilePathsAddedSet q = true) :
    (s.markAdded p).newFilePathsAddedSet q = true := by
  simp [ScannerState.markAdded, Function.update_apply, hq]

theorem records_addMonitored (p : Path) (s : ScannerState) : Records s (addMonitored fs p s) [] :=
  Records.of_eq (by unfold addMonitored; split_ifs <;> rfl) fun _ hq => by
    unfold addMonitored; split_ifs <;> exact hq

theorem records_iterateEntry (addFiles : Bool) (s : ScannerState) (e : Path × Nat) :
    ∃ a, Records s (iterateEntry cfg fs addFiles s e) a := by
  obtain ⟨p, depth⟩ := e
  unfold iterateEntry
  dsimp only
  split_ifs with _ _ _ _ hnew
  all_goals first
    | exact ⟨[], Records.refl _⟩
    | exact ⟨[], records_addMonitored p s⟩
    | exact ⟨[p], Records.of_append rfl (by simp_all) rfl⟩
    | exact ⟨[], Records.of_eq rfl fun _ => markAdded_mono⟩

theorem records_iterateDirectories (rootDirectory : Path) (start : Nat) (addFiles : Bool)
    (s : ScannerState) : ∃ a, Records s (iterateDirectories cfg fs rootDirectory start addFiles s) a := by
  unfold iterateDirectories
  generalize walk fs _ _ _ = entries
  induction entries generalizing s with
  | nil => exact ⟨[], Records.refl s⟩
  | cons e entries ih =>
    obtain ⟨a, ha⟩ : ∃ a, Records s (iterateEntry cfg fs addFiles s e) a := records_iterateEntry addFiles s e
    obtain ⟨b, hb⟩ := ih (iterateEntry cfg fs addFiles s e)
    exact ⟨a ++ b, ha.trans hb⟩

theorem records_tryAddNewFile (p : Path) (s : ScannerState) : Records s (tryAddNewFile fs p s) [] :=
  Records.of_eq (by unfold tryAddNewFile; split_ifs <;> rfl) fun _ hq => by
    unfold tryAddNewFile; split_ifs <;> exact hq

theorem records_onDirectoryChangeEvent (ec : ErrorCode) (ev : DirMonitorEvent) (s : ScannerState) :
    ∃ a, Records s (onDirectoryChangeEvent cfg fs ec ev s) a := by
  rcases onDirectoryChangeEvent_spec ec ev s with h | h | h | ⟨-, h | h⟩ <;> rw [h]
  · exact ⟨[], Records.refl s⟩
  · exact ⟨[], records_tryAddNewFile _ s⟩
  · exact ⟨[], Records.of_eq rfl fun _ => id⟩
  · exact ⟨[], records_addMonitored _ s⟩
  · obtain ⟨a, ha⟩ := @records_iterateDirectories cfg fs ev.path _ true (addMonitored fs ev.path s)
    exact ⟨a, (records_addMonitored _ s).trans ha⟩

theorem onRecheckFileSizeTimerExpired_of_nil (hq : s.currentlyPendingFilesToAddTimerQueue = []) :
    onRecheckFileSizeTimerExpired fs s = none := by
  unfold onRecheckFileSizeTimerExpired
  rw [hq]

theorem records_onRecheckFileSizeTimerExpired (h : onRecheckFileSizeTimerExpired fs s = some s') :
    ∃ a, Records s s' a := by
  obtain ⟨q, -, -, -, -, ⟨hl, ha⟩ | ⟨hq, hl, ha⟩⟩ := onRecheckFileSizeTimerExpired_frame h
  · exact ⟨[], Records.of_eq hl fun p hp => ha ▸ hp⟩
  · exact ⟨[q], Records.of_append hl hq ha⟩

/-! ### The invariant -/

/-- What a run from the constructor keeps, `out` being the paths handed out so far. -/
structure HandOut (out : List Path) (s : ScannerState) : Prop where
  nodup : (out ++ s.pathsOfFilesList).Nodup
  recorded : (∀ p ∈ out ++ s.pathsOfFilesList, s.newFilePathsAddedSet p = true) ∨
    (∀ d, s.currentlyMonitoredDirectoryPaths d = false) ∧ s.currentlyPendingFilesToAddTimerQueue = []

variable {out : List Path}

theorem HandOut.of_records {a : List Path} (hI : HandOut out s)
    (hr : ∀ p ∈ out ++ s.pathsOfFilesList, s.newFilePathsAddedSet p = true) (h : Records s s' a) :
    HandOut out s' := by
  have hmem : ∀ {p}, p ∈ out ++ s'.pathsOfFilesList ↔ p ∈ out ++ s.pathsOfFilesList ∨ p ∈ a := by
    simp [h.list_eq, or_assoc]
  refine ⟨?_, .inl fun p hp => (hmem.1 hp).elim (fun hp => h.mono p (hr p hp)) (h.recorded p)⟩
  rw [h.list_eq, ← List.append_assoc]
  exact List.nodup_append.2 ⟨hI.nodup, h.nodup, fun p hp hpa => by simpa [h.fresh p hpa] using hr p hp⟩

theorem HandOut.of_perm {out' : List Path} (hI : HandOut out s)
    (hp : (out' ++ s'.pathsOfFilesList).Perm (out ++ s.pathsOfFilesList))
    (hadded : s'.newFilePathsAddedSet = s.newFilePathsAddedSet)
    (hmon : s'.currentlyMonitoredDirectoryPaths = s.currentlyMonitoredDirectoryPaths)
    (hq : s'.currentlyPendingFilesToAddTimerQueue = s.currentlyPendingFilesToAddTimerQueue) :
    HandOut out' s' where
  nodup := hp.nodup_iff.2 hI.nodup
  recorded := by
    rw [hadded, hmon, hq]
    exact hI.recorded.imp_left fun h p hm => h p (hp.subset hm)

theorem HandOut.getNextFilePath {o : Option (Path × Path)} (hI : HandOut out s)
    (hg : getNextFilePath cfg s = some (o, s')) : HandOut (out ++ o.toList.map (·.1)) s' := by
  unfold DirectoryScanner.getNextFilePath at hg
  split at hg
  · cases hg
    simpa using hI
  · rename_i i _
    split at hg
    · cases hg
    · rename_i p hp
      cases hg
      obtain ⟨hlt, rfl⟩ := List.getElem?_eq_some_iff.1 hp
      have hperm : s.pathsOfFilesList.Perm (s.pathsOfFilesList[i] :: s.pathsOfFilesList.eraseIdx i) :=
        (List.perm_cons_erase (List.getElem_mem hlt)).trans (.cons _ (List.erase_getElem hlt))
      refine hI.of_perm ?_ rfl rfl rfl
      simpa using (hperm.append_left out).symm

/-- `dir_monitor` reports a change only in a directory added to it: a directory event arrives
only while some directory is monitored. -/
def ScannerLabel.Heard (s : ScannerState) : ScannerLabel → Prop
  | .directoryChange .. => ∃ d, s.currentlyMonitoredDirectoryPaths d = true
  | _ => True

variable (cfg) in
/-- The path a step hands to the consumer: the one `GetNextFilePath` returns. -/
def handedOut (s : ScannerState) : ScannerLabel → List Path
  | .getNextFilePath => ((getNextFilePath cfg s).bind (·.1)).toList.map (·.1)
  | _ => []

/-- **One step keeps the invariant.** -/
theorem HandOut.step {l : ScannerLabel} (hI : HandOut out s) (hl : l.Heard s) (h : step cfg s l = some s') :
    HandOut (out ++ handedOut cfg s l) s' := by
  cases l with
  | getNextFilePath =>
    obtain ⟨⟨o, t⟩, hg, rfl⟩ := Option.map_eq_some'.1 h
    simpa [handedOut, hg] using hI.getNextFilePath hg
  | directoryChange fs ec ev =>
    cases h
    obtain ⟨d, hd⟩ := hl
    have hr := hI.recorded.resolve_right fun ⟨hmon, _⟩ => by simp [hmon d] at hd
    obtain ⟨a, ha⟩ : ∃ a, Records s (onDirectoryChangeEvent cfg fs ec ev s) a := records_onDirectoryChangeEvent ec ev s
    simpa [handedOut] using hI.of_records hr ha
  | recheckTimerExpired fs =>
    have hr := hI.recorded.resolve_right fun ⟨_, hq⟩ => by
      rw [DirectoryScanner.step, onRecheckFileSizeTimerExpired_of_nil hq] at h
      cases h
    obtain ⟨a, ha⟩ := records_onRecheckFileSizeTimerExpired h
    simpa [handedOut] using hI.of_records hr ha

theorem handOut_reload : HandOut [] (reload cfg fs ScannerState.empty) := by
  have hnil : ∀ t : ScannerState, t.pathsOfFilesList = [] → HandOut [] t := fun t ht =>
    ⟨by simp [ht], .inl (by simp [ht])⟩
  have hdir : ∀ t : ScannerState, t.pathsOfFilesList = [] →
      HandOut [] { iterateDirectories cfg fs cfg.rootFileOrFolderPath 0 cfg.includeExistingFiles t with
        pathsOfFilesList := (iterateDirectories cfg fs cfg.rootFileOrFolderPath 0 cfg.includeExistingFiles
          t).pathsOfFilesList.insertionSort pathLE } := fun t ht => by
    obtain ⟨a, ha⟩ : ∃ a, Records t (iterateDirectories cfg fs cfg.rootFileOrFolderPath 0
        cfg.includeExistingFiles t) a := records_iterateDirectories _ _ _ t
    exact ((hnil t ht).of_records (by simp [ht]) ha).of_perm (by simpa using List.perm_insertionSort _ _)
      rfl rfl rfl
  unfold reload
  dsimp only
  split_ifs
  · exact (hdir _ (by rw [(records_addMonitored _ _).list_eq]; rfl)).of_perm (.refl _) rfl rfl rfl
  · exact (hdir _ rfl).of_perm (.refl _) rfl rfl rfl
  · exact ⟨List.nodup_singleton _, .inr ⟨fun _ => rfl, rfl⟩⟩
  · exact hnil _ rfl

/-- A run from `s` to `s'` in which `GetNextFilePath` hands the consumer the paths `out`, in
order, and a directory event arrives only while some directory is monitored. -/
inductive ConsumerRun (cfg : ScannerConfig) : ScannerState → List Path → ScannerState → Prop
  | refl (s : ScannerState) : ConsumerRun cfg s [] s
  | cons {s s' s'' : ScannerState} {out : List Path} (l : ScannerLabel) :
      l.Heard s → step cfg s l = some s' → ConsumerRun cfg s' out s'' →
        ConsumerRun cfg s (handedOut cfg s l ++ out) s''

theorem ConsumerRun.handOut {pre : List Path} (h : ConsumerRun cfg s out s') (hI : HandOut pre s) :
    HandOut (pre ++ out) s' := by
  induction h generalizing pre with
  | refl => simpa using hI
  | cons l hl hs _ ih => simpa using ih (hI.step hl hs)

/-- **No path is handed out twice.**  Along every run from the constructor, under any
interleaving of `GetNextFilePath`, directory events and the recheck timer over any evolution of
the tree, the paths `GetNextFilePath` returns are distinct, and none of them is in the list
again. -/
theorem consumerRun_nodup (h : ConsumerRun cfg (reload cfg fs ScannerState.empty) out s) :
    (out ++ s.pathsOfFilesList).Nodup := by
  simpa using (h.handOut handOut_reload).nodup

/-- A scanner of the directory `/r`, listing existing and new files down to depth `2`. -/
def watchedDirectory : ScannerConfig := ⟨["r"], true, true, 2⟩

/-- `/r` holding the file `/r/a.txt`, of five bytes. -/
def directoryWithA : FileSystem where
  isDirectory p := p = ["r"]
  isRegularFile p := p = ["r", "a.txt"]
  fileSize _ := 5
  entries p := if p = ["r"] then [["r", "a.txt"]] else []
  addDirectoryThrows _ := false

/-- `/r` holding the files `/r/a.txt` and `/r/b.txt`, of five bytes each. -/
def directoryWithAB : FileSystem where
  isDirectory p := p = ["r"]
  isRegularFile p := p = ["r", "a.txt"] || p = ["r", "b.txt"]
  fileSize _ := 5
  entries p := if p = ["r"] then [["r", "a.txt"], ["r", "b.txt"]] else []
  addDirectoryThrows _ := false

/-- `/r/a.txt` is handed out; `/r/b.txt` appears, is queued, listed by the recheck timer and
handed out; `/r/a.txt` is then reported as modified, and is not listed again. -/
theorem consumerRun_nodup_twoFiles :
    ∃ s, ConsumerRun watchedDirectory (reload watchedDirectory directoryWithA ScannerState.empty)
      [["r", "a.txt"], ["r", "b.txt"]] s ∧ ([["r", "a.txt"], ["r", "b.txt"]] ++ s.pathsOfFilesList).Nodup := by
  have h : ConsumerRun watchedDirectory (reload watchedDirectory directoryWithA ScannerState.empty)
      [["r", "a.txt"], ["r", "b.txt"]] _ :=
    .cons .getNextFilePath trivial rfl <|
    .cons (.directoryChange directoryWithAB .success ⟨.added, ["r", "b.txt"]⟩) ⟨["r"], rfl⟩ rfl <|
    .cons (.recheckTimerExpired directoryWithAB) trivial rfl <|
    .cons .getNextFilePath trivial rfl <|
    .cons (.directoryChange directoryWithAB .success ⟨.modified, ["r", "a.txt"]⟩) ⟨["r"], rfl⟩ rfl <|
    .refl _
  exact ⟨_, h, consumerRun_nodup h⟩

/-! ### Nothing pending is lost -/

theorem pending_prefix_step {l : ScannerLabel} (hv : s.IteratorValid) (h : step cfg s l = some s') :
    s.pending <+: handedOut cfg s l ++ s'.pending := by
  cases l with
  | getNextFilePath =>
    obtain ⟨t, ht, hpend, -, -⟩ := @getNextFilePath_spec cfg s hv
    simp only [step, ht, Option.map_some', Option.some.injEq] at h
    subst h
    simp only [handedOut, ht, hpend, Option.some_bind]
    cases s.pending <;> simp
  | directoryChange fs ec ev =>
    cases h
    obtain ⟨a, ha⟩ := @appended_onDirectoryChangeEvent cfg fs ec ev s
    rw [(ha.pending_stranded hv).1]
    exact List.prefix_append _ _
  | recheckTimerExpired fs =>
    obtain ⟨a, -, hpend, -⟩ := onRecheckFileSizeTimerExpired_spec hv h
    rw [hpend]
    exact List.prefix_append _ _

theorem ConsumerRun.pending_prefix (h : ConsumerRun cfg s out s') (hv : s.IteratorValid) :
    s.pending <+: out ++ s'.pending := by
  induction h with
  | refl => exact List.prefix_refl _
  | cons l _ hs _ ih =>
    rw [List.append_assoc]
    exact (pending_prefix_step hv hs).trans ((List.prefix_append_right_inj _).mpr (ih (step_stranded hv hs).1))

/-- **Nothing pending is lost, and it comes out in order.**  From every state the scanner
reaches, along every run, under any interleaving of `GetNextFilePath`, directory events and the
recheck timer over any evolution of the tree, the paths pending at the start are the first the
consumer gets, in the order of the list, and those it has not got yet are still pending. -/
theorem consumerRun_pending_prefix (hs : Reachable cfg s) (h : ConsumerRun cfg s out s') :
    s.pending <+: out ++ s'.pending :=
  h.pending_prefix (reachable_iteratorValid hs)

/-- `/r/a.txt` is pending; `/r/b.txt` appears and is listed by the recheck timer before the
consumer takes `/r/a.txt`; the consumer then gets `/r/a.txt` first. -/
theorem consumerRun_pending_prefix_twoFiles :
    ∃ s, Reachable watchedDirectory (reload watchedDirectory directoryWithA ScannerState.empty) ∧
      ConsumerRun watchedDirectory (reload watchedDirectory directoryWithA ScannerState.empty)
        [["r", "a.txt"], ["r", "b.txt"]] s ∧
      (reload watchedDirectory directoryWithA ScannerState.empty).pending <+:
        [["r", "a.txt"], ["r", "b.txt"]] ++ s.pending := by
  have hs : Reachable watchedDirectory (reload watchedDirectory directoryWithA ScannerState.empty) :=
    ⟨directoryWithA, .refl _⟩
  have h : ConsumerRun watchedDirectory (reload watchedDirectory directoryWithA ScannerState.empty)
      [["r", "a.txt"], ["r", "b.txt"]] _ :=
    .cons (.directoryChange directoryWithAB .success ⟨.added, ["r", "b.txt"]⟩) ⟨["r"], rfl⟩ rfl <|
    .cons (.recheckTimerExpired directoryWithAB) trivial rfl <|
    .cons .getNextFilePath trivial rfl <|
    .cons .getNextFilePath trivial rfl <|
    .refl _
  exact ⟨_, hs, h, consumerRun_pending_prefix hs h⟩

end Hdtn.DirectoryScanner
