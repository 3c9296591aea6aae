import Hdtn.DirectoryScanner.Model
import Mathlib.Data.String.Basic

/-! # What the scanner lists

What `Reload` puts in `m_pathsOfFilesList`, in which order, and how deep below the root the
scanner looks, at construction and after.

* **The order.**  `pathLE`, the order of `m_pathsOfFilesList.sort()`, is the lexicographic order
  of paths whose components compare as strings (`pathLT_iff`), so a total order, and
  `insertionSort` leaves the list sorted by it.
* **`Reload`.**  On a directory it records every file the walk meets that `IterateDirectories`
  takes (a regular file with an extension and a path of at most 255 bytes), and lists those
  files, each once and sorted, exactly when `includeExistingFiles` is set
  (`reload_lists_walked_files`).
* **The depth limit.**  `m_recurseDirectoriesDepth` bounds every run: no directory more than that
  many components below the root is monitored, and no file more than one component further is
  recorded, listed or queued (`WithinDepth`, `monitoredRun_withinDepth`).  This needs what the
  file system and `dir_monitor` give: `directory_iterator` over `d` yields `d / name`, and an
  event names an entry of a directory the monitor watches.
* **Relative paths.**  With a directory as root, every listed path is strictly below it
  (`BelowRoot`), so the relative paths `GetListOfFilesRelativeCopy` and `GetNextFilePath` give
  are the components below the root, and the root followed by them is the absolute path
  (`monitoredRun_relative_resolves`).  For a root that is a file, the one path is the root itself,
  and its relative path is `.`.
-/

namespace Hdtn.DirectoryScanner

/-! ### The order of paths -/

theorem lex_cons_cons_iff {α : Type*} {r : α → α → Prop} {a b : α} {l₁ l₂ : List α} :
    List.Lex r (a :: l₁) (b :: l₂) ↔ r a b ∨ a = b ∧ List.Lex r l₁ l₂ := by
  constructor
  · intro h
    cases h with
    | cons h => exact .inr ⟨rfl, h⟩
    | rel h => exact .inl h
  · rintro (h | ⟨rfl, h⟩)
    · exact .rel h
    · exact .cons h

theorem charsLT_iff (s t : List Char) : charsLT s t = true ↔ List.Lex (· < ·) s t := by
  induction s generalizing t with
  | nil => cases t <;> simp [charsLT, List.Lex.nil, List.Lex.not_nil_right]
  | cons c s ih =>
    cases t with
    | nil => simp [charsLT, List.Lex.not_nil_right]
    | cons d t =>
      simp only [charsLT, lex_cons_cons_iff, ← ih, Bool.or_eq_true, decide_eq_true_iff, Bool.and_eq_true,
        beq_iff_eq]
      exact Iff.rfl

theorem charsLT_toList_iff (a b : String) : charsLT a.toList b.toList = true ↔ a < b := by
  rw [charsLT_iff, String.lt_iff_toList_lt]
  rfl

theorem pathLT_iff (p q : Path) : pathLT p q = true ↔ p < q := by
  induction p generalizing q with
  | nil =>
    cases q with
    | nil => simp [pathLT, List.Lex.not_nil_right]
    | cons => simpa [pathLT] using List.Lex.nil
  | cons a p ih =>
    cases q with
    | nil => simp [pathLT, List.Lex.not_nil_right]
    | cons b q =>
      simp only [pathLT, Bool.or_eq_true, charsLT_toList_iff, Bool.and_eq_true, beq_iff_eq, ih]
      exact lex_cons_cons_iff.symm

theorem pathLE_iff (p q : Path) : pathLE p q ↔ p ≤ q := by
  rw [pathLE, ← not_lt, ← pathLT_iff, Bool.not_eq_true]

theorem pathLE_total (a b : Path) : pathLE a b ∨ pathLE b a := by
  simpa only [pathLE_iff] using le_total a b

theorem pathLE_trans {a b c : Path} : pathLE a b → pathLE b c → pathLE a c := by
  simpa only [pathLE_iff] using le_trans

instance : IsTotal Path pathLE := ⟨pathLE_total⟩

instance : IsTrans Path pathLE := ⟨fun _ _ _ => pathLE_trans⟩

/-! ### What `Reload` lists -/

variable {cfg : ScannerConfig} {fs : FileSystem} {s s' : ScannerState}

/-- What `IterateDirectories` takes for a file: not a directory, a regular file with an
extension, and a path of at most 255 bytes. -/
def ListableFile (fs : FileSystem) (p : Path) : Prop :=
  fs.isDirectory p = false ∧ fs.isRegularFile p = true ∧ 1 < extensionSize p ∧ pathSize p ≤ 255

instance (fs : FileSystem) : DecidablePred (ListableFile fs) :=
  fun _ => inferInstanceAs (Decidable (_ ∧ _ ∧ _ ∧ _))

/-- The files the constructor's walk of the root meets that `IterateDirectories` takes. -/
def WalkedFile (cfg : ScannerConfig) (fs : FileSystem) (p : Path) : Prop :=
  p ∈ (walk fs cfg.recurseDirectoriesDepth 0 (fs.entries cfg.rootFileOrFolderPath)).map Prod.fst ∧
    ListableFile fs p

theorem iterateEntry_spec (addFiles : Bool) (s : ScannerState) (p : Path) (depth : Nat) :
    (∀ q, (iterateEntry cfg fs addFiles s (p, depth)).newFilePathsAddedSet q = true ↔
      s.newFilePathsAddedSet q = true ∨ q = p ∧ ListableFile fs p) ∧
    (iterateEntry cfg fs addFiles s (p, depth)).pathsOfFilesList = s.pathsOfFilesList ++
      if addFiles = true ∧ s.newFilePathsAddedSet p = false ∧ ListableFile fs p then [p] else [] := by
  unfold iterateEntry
  dsimp only
  by_cases hd : fs.isDirectory p = true
  · have hl : ¬ ListableFile fs p := fun h => by simp [h.1] at hd
    have hmon : ∀ t : ScannerState, (addMonitored fs p t).newFilePathsAddedSet = t.newFilePathsAddedSet ∧
        (addMonitored fs p t).pathsOfFilesList = t.pathsOfFilesList := fun t => by
      unfold addMonitored; split_ifs <;> exact ⟨rfl, rfl⟩
    simp only [hd, if_true, hl, and_false, or_false, if_false, List.append_nil]
    split_ifs <;> simp [hmon]
  · rw [Bool.not_eq_true] at hd
    have hlist : ListableFile fs p ↔ (fs.isRegularFile p && decide (1 < extensionSize p)) = true ∧ pathSize p ≤ 255 := by
      simp [ListableFile, hd, and_assoc]
    simp only [hd, Bool.false_eq_true, if_false, hlist]
    split_ifs with hf hs ha <;> simp_all [ScannerState.markAdded, ScannerState.appendPath, Function.update_apply, or_comm]

theorem foldl_iterateEntry (addFiles : Bool) (E : List (Path × Nat)) (s : ScannerState) :
    (∀ q, (E.foldl (iterateEntry cfg fs addFiles) s).newFilePathsAddedSet q = true ↔
      s.newFilePathsAddedSet q = true ∨ q ∈ E.map Prod.fst ∧ ListableFile fs q) ∧
    ∃ a, (E.foldl (iterateEntry cfg fs addFiles) s).pathsOfFilesList = s.pathsOfFilesList ++ a ∧ a.Nodup ∧
      ∀ q, q ∈ a ↔ addFiles = true ∧ s.newFilePathsAddedSet q = false ∧ q ∈ E.map Prod.fst ∧ ListableFile fs q := by
  induction E generalizing s with
  | nil => exact ⟨by simp, [], by simp⟩
  | cons e E ih =>
    obtain ⟨p, depth⟩ := e
    obtain ⟨hrec, hlist⟩ := @iterateEntry_spec cfg fs addFiles s p depth
    obtain ⟨hrec', a, hl, hnd, ha⟩ := ih (iterateEntry cfg fs addFiles s (p, depth))
    refine ⟨fun q => ?_, ?_⟩
    · rw [List.foldl_cons, hrec', hrec, List.map_cons, List.mem_cons]
      rcases eq_or_ne q p with rfl | hq
      · simp only [true_and, true_or]
        exact ⟨fun h => h.elim id fun h => .inr h.2, .inl⟩
      · simp [hq]
    refine ⟨(if addFiles = true ∧ s.newFilePathsAddedSet p = false ∧ ListableFile fs p then [p] else []) ++ a,
      by rw [List.foldl_cons, hl, hlist, List.append_assoc], ?_, fun q => ?_⟩
    · split_ifs with hc
      · refine List.nodup_cons.2 ⟨fun hpa => ?_, hnd⟩
        have hp := ((ha p).1 hpa).2.1
        rw [← Bool.not_eq_true, hrec] at hp
        exact hp (.inr ⟨rfl, hc.2.2⟩)
      · simpa using hnd
    · have hq : (iterateEntry cfg fs addFiles s (p, depth)).newFilePathsAddedSet q = false ↔
          ¬(s.newFilePathsAddedSet q = true ∨ q = p ∧ ListableFile fs p) := by rw [← Bool.not_eq_true, hrec]
      rw [List.mem_append, ha, hq, List.map_cons, List.mem_cons]
      rcases eq_or_ne q p with rfl | hq
      · split_ifs with hc
        · exact iff_of_true (.inl (List.mem_singleton_self _)) ⟨hc.1, hc.2.1, .inl rfl, hc.2.2⟩
        · exact iff_of_false (fun h => h.elim (fun h => nomatch h) fun h => h.2.1 (.inr ⟨rfl, h.2.2.2⟩))
            fun h => hc ⟨h.1, h.2.1, h.2.2.2⟩
      · simp [hq]

/-- **What `Reload` lists.**  On a root directory, the constructor records exactly the files its
walk meets that `IterateDirectories` takes; it lists them, sorted by `pathLE` and each once, when
`includeExistingFiles` is set, and lists nothing otherwise. -/
theorem reload_lists_walked_files (hdir : fs.isDirectory cfg.rootFileOrFolderPath = true) :
    (∀ p, (reload cfg fs ScannerState.empty).newFilePathsAddedSet p = true ↔ WalkedFile cfg fs p) ∧
    (reload cfg fs ScannerState.empty).pathsOfFilesList.Sorted pathLE ∧
    (reload cfg fs ScannerState.empty).pathsOfFilesList.Nodup ∧
    ∀ p, p ∈ (reload cfg fs ScannerState.empty).pathsOfFilesList ↔
      cfg.includeExistingFiles = true ∧ WalkedFile cfg fs p := by
  unfold reload
  simp only [hdir, if_true]
  generalize ht : (if cfg.includeNewFiles = true then addMonitored fs cfg.rootFileOrFolderPath (clear ScannerState.empty)
    else clear ScannerState.empty) = t
  have ht0 : t.newFilePathsAddedSet = (fun _ => false) ∧ t.pathsOfFilesList = [] := by
    subst ht; unfold addMonitored; split_ifs <;> exact ⟨rfl, rfl⟩
  obtain ⟨hrec, a, hl, hnd, ha⟩ := @foldl_iterateEntry cfg fs cfg.includeExistingFiles
    (walk fs cfg.recurseDirectoriesDepth 0 (fs.entries cfg.rootFileOrFolderPath)) t
  unfold iterateDirectories
  rw [Nat.sub_zero, hl, ht0.2, List.nil_append]
  have hperm := List.perm_insertionSort pathLE a
  refine ⟨fun p => by simpa [ht0.1, WalkedFile] using hrec p, List.sorted_insertionSort _ _, hperm.nodup_iff.2 hnd,
    fun p => by rw [hperm.mem_iff, ha]; simp [ht0.1, WalkedFile]⟩

/-! ### The depth limit -/

/-- The tree's directory entries are the directory's children: `directory_iterator` over `d`
yields `d / name`. -/
def FileSystem.ChildEntries (fs : FileSystem) : Prop := ∀ d p, p ∈ fs.entries d → ∃ name, p = d ++ [name]

/-- `p` is the root, or below it by at most `k` components. -/
def ScannerConfig.Within (cfg : ScannerConfig) (k : Nat) (p : Path) : Prop :=
  cfg.rootFileOrFolderPath <+: p ∧ p.length ≤ cfg.rootFileOrFolderPath.length + k

theorem ScannerConfig.Within.mono {k k' : Nat} {p : Path} (h : cfg.Within k p) (hk : k ≤ k') : cfg.Within k' p :=
  ⟨h.1, by have := h.2; omega⟩

/-- The depth invariant: the monitored directories are at most `m_recurseDirectoriesDepth`
components below the root, and the files recorded, listed or queued at most one more. -/
structure WithinDepth (cfg : ScannerConfig) (s : ScannerState) : Prop where
  monitored : ∀ d, s.currentlyMonitoredDirectoryPaths d = true → cfg.Within cfg.recurseDirectoriesDepth d
  recorded : ∀ p, s.newFilePathsAddedSet p = true → cfg.Within (cfg.recurseDirectoriesDepth + 1) p
  listed : ∀ p ∈ s.pathsOfFilesList, cfg.Within (cfg.recurseDirectoriesDepth + 1) p
  queued : ∀ p ∈ s.currentlyPendingFilesToAddTimerQueue, cfg.Within (cfg.recurseDirectoriesDepth + 1) p

theorem walk_below (hfs : fs.ChildEntries) (remaining : Nat) : ∀ (k : Nat) (entries : List Path),
    (∀ p ∈ entries, cfg.rootFileOrFolderPath <+: p ∧ p.length = cfg.rootFileOrFolderPath.length + k + 1) →
    ∀ e ∈ walk fs remaining k entries, cfg.rootFileOrFolderPath <+: e.1 ∧
      e.1.length = cfg.rootFileOrFolderPath.length + e.2 + 1 ∧ e.2 ≤ k + remaining := by
  induction remaining with
  | zero =>
    intro k entries h e he
    simp only [walk, List.mem_map] at he
    obtain ⟨p, hp, rfl⟩ := he
    exact ⟨(h p hp).1, (h p hp).2, Nat.le_add_right k 0⟩
  | succ r ih =>
    intro k entries h e he
    simp only [walk, List.mem_flatMap, List.mem_cons] at he
    obtain ⟨p, hp, rfl | he⟩ := he
    · exact ⟨(h p hp).1, (h p hp).2, by omega⟩
    · split_ifs at he
      · have hc : ∀ c ∈ fs.entries p, cfg.rootFileOrFolderPath <+: c ∧
            c.length = cfg.rootFileOrFolderPath.length + (k + 1) + 1 := fun c hc => by
          obtain ⟨name, rfl⟩ := hfs p c hc
          exact ⟨(h p hp).1.trans (List.prefix_append p [name]), by simp [(h p hp).2]; omega⟩
        obtain ⟨h₁, h₂, h₃⟩ := ih (k + 1) (fs.entries p) hc e he
        exact ⟨h₁, h₂, by omega⟩
      · simp at he

theorem commonPrefixLength_eq_length {base p : Path} (h : base <+: p) : commonPrefixLength p base = base.length := by
  obtain ⟨t, rfl⟩ := h
  induction base with
  | nil => cases t <;> rfl
  | cons a base ih => simp [commonPrefixLength, ih]

theorem length_relative_sub_one {root d : Path} (name : String) (hd : root <+: d) :
    (relative (d ++ [name]) root).length - 1 = d.length - root.length := by
  have hle := hd.length_le
  unfold relative
  rw [commonPrefixLength_eq_length (hd.trans (List.prefix_append d [name]))]
  dsimp only
  rw [Nat.sub_self, List.replicate_zero, List.nil_append, if_neg (by simp; omega)]
  simp
  omega

namespace WithinDepth

theorem setMonitored (hI : WithinDepth cfg s) {p : Path} {b : Bool}
    (hp : b = true → cfg.Within cfg.recurseDirectoriesDepth p) : WithinDepth cfg (s.setMonitored p b) :=
  { hI with
    monitored := fun d hd => by
      by_cases h : d = p
      · subst h; exact hp (by simpa [ScannerState.setMonitored] using hd)
      · exact hI.monitored d (by simpa [ScannerState.setMonitored, h] using hd) }

theorem addMonitored (hI : WithinDepth cfg s) {p : Path} (hp : cfg.Within cfg.recurseDirectoriesDepth p) :
    WithinDepth cfg (addMonitored fs p s) := by
  unfold DirectoryScanner.addMonitored
  split_ifs
  exacts [hI, hI.setMonitored fun _ => hp]

theorem markAdded (hI : WithinDepth cfg s) {p : Path} (hp : cfg.Within (cfg.recurseDirectoriesDepth + 1) p) :
    WithinDepth cfg (s.markAdded p) :=
  { hI with
    recorded := fun q hq => by
      by_cases h : q = p
      · exact h ▸ hp
      · exact hI.recorded q (by simpa [ScannerState.markAdded, h] using hq) }

theorem appendPath (hI : WithinDepth cfg s) {p : Path} (hp : cfg.Within (cfg.recurseDirectoriesDepth + 1) p) :
    WithinDepth cfg (s.appendPath p) :=
  { hI with
    listed := fun q hq => by
      rcases List.mem_append.1 hq with hq | hq
      · exact hI.listed q hq
      · exact (List.mem_singleton.1 hq) ▸ hp }

theorem iterateEntry (hI : WithinDepth cfg s) (addFiles : Bool) (e : Path × Nat)
    (he : cfg.rootFileOrFolderPath <+: e.1 ∧ e.1.length = cfg.rootFileOrFolderPath.length + e.2 + 1)
    (hle : e.2 ≤ cfg.recurseDirectoriesDepth) : WithinDepth cfg (iterateEntry cfg fs addFiles s e) := by
  obtain ⟨p, depth⟩ := e
  have hfile : cfg.Within (cfg.recurseDirectoriesDepth + 1) p := ⟨he.1, by have := he.2; dsimp only at this hle; omega⟩
  unfold DirectoryScanner.iterateEntry
  dsimp only
  split_ifs with _ hlt
  · exact hI
  · exact hI.addMonitored ⟨he.1, by have := he.2; dsimp only at this; omega⟩
  · exact hI
  · exact (hI.markAdded hfile).appendPath hfile
  · exact hI.markAdded hfile
  all_goals exact hI

theorem foldl_iterateEntry (hI : WithinDepth cfg s) (addFiles : Bool) (E : List (Path × Nat))
    (hE : ∀ e ∈ E, (cfg.rootFileOrFolderPath <+: e.1 ∧ e.1.length = cfg.rootFileOrFolderPath.length + e.2 + 1) ∧
      e.2 ≤ cfg.recurseDirectoriesDepth) :
    WithinDepth cfg (E.foldl (DirectoryScanner.iterateEntry cfg fs addFiles) s) := by
  induction E generalizing s with
  | nil => exact hI
  | cons e E ih =>
    have he := hE e (List.mem_cons_self e E)
    exact ih (hI.iterateEntry addFiles e he.1 he.2) fun e' he' => hE e' (List.mem_cons_of_mem e he')

theorem iterateDirectories (hI : WithinDepth cfg s) (hfs : fs.ChildEntries) {x : Path} {k : Nat}
    (addFiles : Bool) (hx : cfg.rootFileOrFolderPath <+: x ∧ x.length = cfg.rootFileOrFolderPath.length + k)
    (hk : k ≤ cfg.recurseDirectoriesDepth) :
    WithinDepth cfg (DirectoryScanner.iterateDirectories cfg fs x k addFiles s) := by
  refine hI.foldl_iterateEntry addFiles _ fun e he => ?_
  obtain ⟨h₁, h₂, h₃⟩ := walk_below hfs (cfg.recurseDirectoriesDepth - k) k (fs.entries x) (fun c hc => by
    obtain ⟨name, rfl⟩ := hfs x c hc
    exact ⟨hx.1.trans (List.prefix_append x [name]), by simp [hx.2]⟩) e he
  exact ⟨⟨h₁, h₂⟩, by omega⟩

theorem of_subset (hI : WithinDepth cfg s)
    (hm : ∀ d, s'.currentlyMonitoredDirectoryPaths d = true → s.currentlyMonitoredDirectoryPaths d = true)
    (hr : ∀ p, s'.newFilePathsAddedSet p = true →
      s.newFilePathsAddedSet p = true ∨ p ∈ s.currentlyPendingFilesToAddTimerQueue)
    (hl : ∀ p ∈ s'.pathsOfFilesList, p ∈ s.pathsOfFilesList ∨ p ∈ s.currentlyPendingFilesToAddTimerQueue)
    (hq : ∀ p ∈ s'.currentlyPendingFilesToAddTimerQueue, p ∈ s.currentlyPendingFilesToAddTimerQueue) :
    WithinDepth cfg s' where
  monitored d hd := hI.monitored d (hm d hd)
  recorded p hp := (hr p hp).elim (hI.recorded p) (hI.queued p)
  listed p hp := (hl p hp).elim (hI.listed p) (hI.queued p)
  queued p hp := hI.queued p (hq p hp)

theorem tryAddNewFile (hI : WithinDepth cfg s) {p : Path} (hp : cfg.Within (cfg.recurseDirectoriesDepth + 1) p) :
    WithinDepth cfg (tryAddNewFile fs p s) := by
  unfold DirectoryScanner.tryAddNewFile
  split_ifs
  · exact hI
  · exact { hI with
      queued := fun q hq => (List.mem_append.1 hq).elim (hI.queued q) fun hq => (List.mem_singleton.1 hq) ▸ hp }

theorem onDirectoryChangeEvent (hI : WithinDepth cfg s) (hfs : fs.ChildEntries) (ec : ErrorCode)
    (ev : DirMonitorEvent) (hev : ∃ d name, s.currentlyMonitoredDirectoryPaths d = true ∧ ev.path = d ++ [name]) :
    WithinDepth cfg (onDirectoryChangeEvent cfg fs ec ev s) := by
  obtain ⟨d, name, hd, hpath⟩ := hev
  obtain ⟨hpre, hlen⟩ := hI.monitored d hd
  have hrel := length_relative_sub_one name hpre
  have hle := hpre.length_le
  have hpre' : cfg.rootFileOrFolderPath <+: d ++ [name] := hpre.trans (List.prefix_append d [name])
  have hfile : cfg.Within (cfg.recurseDirectoriesDepth + 1) (d ++ [name]) := ⟨hpre', by simp; omega⟩
  obtain ⟨type, path⟩ := ev
  dsimp only at hpath
  subst hpath
  rcases onDirectoryChangeEvent_spec ec ⟨type, d ++ [name]⟩ s with h | h | h | ⟨hnew, h | h⟩ <;> rw [h]
  · exact hI
  · exact hI.tryAddNewFile hfile
  · exact hI.setMonitored nofun
  all_goals
    -- a new directory: above the limit, by the event's depth test
    simp only [Bool.and_eq_true, decide_eq_true_eq] at hnew
    have hdir : cfg.Within cfg.recurseDirectoriesDepth (d ++ [name]) := ⟨hpre', by simp; omega⟩
  · exact hI.addMonitored hdir
  · exact (hI.addMonitored hdir).iterateDirectories hfs true ⟨hpre', by simp [hrel]; omega⟩ hnew.2

theorem onRecheckFileSizeTimerExpired (hI : WithinDepth cfg s) (h : onRecheckFileSizeTimerExpired fs s = some s') :
    WithinDepth cfg s' := by
  obtain ⟨q, hq, hm, ha, hl, hqueue⟩ := onRecheckFileSizeTimerExpired_subset h
  exact hI.of_subset (fun d hd => hm ▸ hd) (fun p hp => (ha p hp).elim .inl fun hpq => .inr (hpq ▸ hq))
    (fun p hp => (hl p hp).elim .inl fun hpq => .inr (hpq ▸ hq)) hqueue

theorem getNextFilePath (hI : WithinDepth cfg s) {o : Option (Path × Path)} (h : getNextFilePath cfg s = some (o, s')) :
    WithinDepth cfg s' := by
  unfold DirectoryScanner.getNextFilePath at h
  split at h
  · cases h; exact hI
  · split at h
    · cases h
    · cases h
      exact hI.of_subset (fun _ => id) (fun _ => .inl) (fun _ hp => .inl (List.mem_of_mem_eraseIdx hp)) (fun _ => id)

theorem reload (hfs : fs.ChildEntries) : WithinDepth cfg (reload cfg fs ScannerState.empty) := by
  have hempty : WithinDepth cfg (clear ScannerState.empty) := by
    constructor <;> intro _ h <;> cases h
  have hroot : cfg.Within cfg.recurseDirectoriesDepth cfg.rootFileOrFolderPath :=
    ⟨List.prefix_refl _, Nat.le_add_right _ _⟩
  unfold DirectoryScanner.reload
  dsimp only
  split_ifs
  · have hI := (@WithinDepth.addMonitored cfg fs _ hempty _ hroot).iterateDirectories hfs cfg.includeExistingFiles
      ⟨List.prefix_refl _, rfl⟩ (Nat.zero_le _)
    exact hI.of_subset (fun _ => id) (fun _ => .inl)
      (fun _ hp => .inl ((List.perm_insertionSort pathLE _).mem_iff.1 hp)) fun _ => id
  · have hI := hempty.iterateDirectories hfs cfg.includeExistingFiles ⟨List.prefix_refl _, rfl⟩ (Nat.zero_le _)
    exact hI.of_subset (fun _ => id) (fun _ => .inl)
      (fun _ hp => .inl ((List.perm_insertionSort pathLE _).mem_iff.1 hp)) fun _ => id
  · exact (hempty.appendPath (hroot.mono (Nat.le_succ _))).of_subset (fun _ => id) (fun _ => .inl) (fun _ => .inl)
      fun _ => id
  · exact hempty.of_subset (fun _ => id) (fun _ => .inl) (fun _ => .inl) fun _ => id

end WithinDepth

/-- What the file system and `dir_monitor` give a step: the tree's directory entries are the
directory's children, and a directory event names an entry of a directory the scanner monitors,
the monitor watching only the directories added to it. -/
def ScannerLabel.FromMonitored (s : ScannerState) : ScannerLabel → Prop
  | .directoryChange fs _ ev => fs.ChildEntries ∧
      ∃ d name, s.currentlyMonitoredDirectoryPaths d = true ∧ ev.path = d ++ [name]
  | _ => True

/-- **One step keeps the depth invariant.** -/
theorem WithinDepth.step (hI : WithinDepth cfg s) {l : ScannerLabel} (hl : l.FromMonitored s)
    (h : step cfg s l = some s') : WithinDepth cfg s' := by
  cases l with
  | getNextFilePath =>
    obtain ⟨⟨o, t⟩, hg, rfl⟩ := Option.map_eq_some'.1 h
    exact hI.getNextFilePath hg
  | directoryChange fs ec ev =>
    cases h
    exact hI.onDirectoryChangeEvent hl.1 ec ev hl.2
  | recheckTimerExpired fs => exact hI.onRecheckFileSizeTimerExpired h

/-- A run in which every step is as `ScannerLabel.FromMonitored` says. -/
inductive MonitoredRun (cfg : ScannerConfig) : ScannerState → ScannerState → Prop
  | refl (s : ScannerState) : MonitoredRun cfg s s
  | cons {s s' s'' : ScannerState} (l : ScannerLabel) :
      l.FromMonitored s → step cfg s l = some s' → MonitoredRun cfg s' s'' → MonitoredRun cfg s s''

theorem MonitoredRun.withinDepth (h : MonitoredRun cfg s s') (hI : WithinDepth cfg s) : WithinDepth cfg s' := by
  induction h with
  | refl => exact hI
  | cons _ hl hs _ ih => exact ih (hI.step hl hs)

/-- **The depth limit holds along every run.**  From the constructor, under any interleaving of
`GetNextFilePath`, directory events and the recheck timer over any evolution of the tree, the
scanner never monitors a directory more than `m_recurseDirectoriesDepth` components below the
root, and never records, lists or queues a file more than one component further. -/
theorem monitoredRun_withinDepth (hfs : fs.ChildEntries)
    (h : MonitoredRun cfg (reload cfg fs ScannerState.empty) s) : WithinDepth cfg s :=
  h.withinDepth (WithinDepth.reload hfs)

/-! ### Relative paths -/

/-- `GetListOfFilesRelativeCopy`: each listed path relative to the root. -/
def getListOfFilesRelativeCopy (cfg : ScannerConfig) (s : ScannerState) : List Path :=
  s.pathsOfFilesList.map (relative · cfg.rootFileOrFolderPath)

theorem append_relative {root p : Path} (h : root <+: p) (hlt : root.length < p.length) :
    relative p root ≠ [] ∧ root ++ relative p root = p := by
  obtain ⟨t, rfl⟩ := h
  have ht : t ≠ [] := by rintro rfl; simp at hlt
  simp [relative, commonPrefixLength_eq_length (List.prefix_append root t), ht]

/-- With a directory as root, the listed and queued paths are strictly below the root. -/
structure BelowRoot (cfg : ScannerConfig) (s : ScannerState) : Prop where
  listed : ∀ p ∈ s.pathsOfFilesList, cfg.rootFileOrFolderPath.length < p.length
  queued : ∀ p ∈ s.currentlyPendingFilesToAddTimerQueue, cfg.rootFileOrFolderPath.length < p.length

namespace BelowRoot

theorem foldl_iterateEntry (hB : BelowRoot cfg s) (addFiles : Bool) (E : List (Path × Nat))
    (hE : ∀ e ∈ E, cfg.rootFileOrFolderPath.length < e.1.length) :
    BelowRoot cfg (E.foldl (iterateEntry cfg fs addFiles) s) := by
  induction E generalizing s with
  | nil => exact hB
  | cons e E ih =>
    refine ih ?_ fun e' he' => hE e' (List.mem_cons_of_mem e he')
    have hlen := hE e (List.mem_cons_self e E)
    obtain ⟨p, depth⟩ := e
    unfold iterateEntry addMonitored
    dsimp only
    split_ifs <;> first
      | exact ⟨hB.listed, hB.queued⟩
      | exact ⟨fun q hq => (List.mem_append.1 hq).elim (hB.listed q) fun hq => List.mem_singleton.1 hq ▸ hlen,
          hB.queued⟩

theorem iterateDirectories (hB : BelowRoot cfg s) (hfs : fs.ChildEntries) {x : Path} {k : Nat}
    (addFiles : Bool) (hx : cfg.rootFileOrFolderPath <+: x ∧ x.length = cfg.rootFileOrFolderPath.length + k) :
    BelowRoot cfg (DirectoryScanner.iterateDirectories cfg fs x k addFiles s) := by
  refine hB.foldl_iterateEntry addFiles _ fun e he => ?_
  have := (walk_below hfs (cfg.recurseDirectoriesDepth - k) k (fs.entries x) (fun c hc => by
    obtain ⟨name, rfl⟩ := hfs x c hc
    exact ⟨hx.1.trans (List.prefix_append x [name]), by simp [hx.2]⟩) e he).2.1
  omega

theorem tryAddNewFile (hB : BelowRoot cfg s) {p : Path} (hp : cfg.rootFileOrFolderPath.length < p.length) :
    BelowRoot cfg (tryAddNewFile fs p s) := by
  unfold DirectoryScanner.tryAddNewFile
  split_ifs
  exacts [hB, ⟨hB.listed, fun q hq => (List.mem_append.1 hq).elim (hB.queued q) fun hq => List.mem_singleton.1 hq ▸ hp⟩]

theorem addMonitored (hB : BelowRoot cfg s) (p : Path) : BelowRoot cfg (addMonitored fs p s) := by
  unfold DirectoryScanner.addMonitored
  split_ifs
  exacts [hB, ⟨hB.listed, hB.queued⟩]

theorem onDirectoryChangeEvent (hB : BelowRoot cfg s) (hI : WithinDepth cfg s) (hfs : fs.ChildEntries)
    (ec : ErrorCode) (ev : DirMonitorEvent)
    (hev : ∃ d name, s.currentlyMonitoredDirectoryPaths d = true ∧ ev.path = d ++ [name]) :
    BelowRoot cfg (onDirectoryChangeEvent cfg fs ec ev s) := by
  obtain ⟨d, name, hd, hpath⟩ := hev
  obtain ⟨hpre, -⟩ := hI.monitored d hd
  have hrel := length_relative_sub_one name hpre
  have hle := hpre.length_le
  obtain ⟨type, path⟩ := ev
  dsimp only at hpath
  subst hpath
  rcases onDirectoryChangeEvent_spec ec ⟨type, d ++ [name]⟩ s with h | h | h | ⟨-, h | h⟩ <;> rw [h]
  · exact hB
  · exact hB.tryAddNewFile (by simp; omega)
  · exact ⟨hB.listed, hB.queued⟩
  · exact hB.addMonitored _
  · exact (hB.addMonitored _).iterateDirectories hfs true
      ⟨hpre.trans (List.prefix_append d [name]), by simp [hrel]; omega⟩

theorem onRecheckFileSizeTimerExpired (hB : BelowRoot cfg s) (h : onRecheckFileSizeTimerExpired fs s = some s') :
    BelowRoot cfg s' := by
  obtain ⟨q, hq, -, -, hl, hqueue⟩ := onRecheckFileSizeTimerExpired_subset h
  exact ⟨fun p hp => (hl p hp).elim (hB.listed p) fun hpq => hpq ▸ hB.queued q hq,
    fun p hp => hB.queued p (hqueue p hp)⟩

theorem step (hB : BelowRoot cfg s) (hI : WithinDepth cfg s) {l : ScannerLabel} (hl : l.FromMonitored s)
    (h : step cfg s l = some s') : BelowRoot cfg s' := by
  cases l with
  | getNextFilePath =>
    obtain ⟨⟨o, t⟩, hg, rfl⟩ := Option.map_eq_some'.1 h
    unfold DirectoryScanner.getNextFilePath at hg
    split at hg
    · cases hg; exact hB
    · split at hg
      · cases hg
      · cases hg
        exact ⟨fun p hp => hB.listed p (List.mem_of_mem_eraseIdx hp), hB.queued⟩
  | directoryChange fs ec ev =>
    cases h
    exact hB.onDirectoryChangeEvent hI hl.1 ec ev hl.2
  | recheckTimerExpired fs => exact hB.onRecheckFileSizeTimerExpired h

theorem of_subset (hB : BelowRoot cfg s) (hl : ∀ p ∈ s'.pathsOfFilesList, p ∈ s.pathsOfFilesList)
    (hq : ∀ p ∈ s'.currentlyPendingFilesToAddTimerQueue, p ∈ s.currentlyPendingFilesToAddTimerQueue) :
    BelowRoot cfg s' :=
  ⟨fun p hp => hB.listed p (hl p hp), fun p hp => hB.queued p (hq p hp)⟩

theorem reload (hdir : fs.isDirectory cfg.rootFileOrFolderPath = true) (hfs : fs.ChildEntries) :
    BelowRoot cfg (reload cfg fs ScannerState.empty) := by
  have hstart : ∀ t, BelowRoot cfg t →
      BelowRoot cfg (DirectoryScanner.iterateDirectories cfg fs cfg.rootFileOrFolderPath 0 cfg.includeExistingFiles t) :=
    fun t ht => ht.iterateDirectories hfs _ ⟨List.prefix_refl _, rfl⟩
  have hempty : BelowRoot cfg (clear ScannerState.empty) := ⟨nofun, nofun⟩
  unfold DirectoryScanner.reload
  simp only [hdir, if_true]
  split_ifs
  · exact (hstart _ (hempty.addMonitored _)).of_subset (fun _ => (List.perm_insertionSort pathLE _).mem_iff.1)
      fun _ => id
  · exact (hstart _ hempty).of_subset (fun _ => (List.perm_insertionSort pathLE _).mem_iff.1) fun _ => id

end BelowRoot

theorem MonitoredRun.belowRoot (h : MonitoredRun cfg s s') (hI : WithinDepth cfg s) (hB : BelowRoot cfg s) :
    WithinDepth cfg s' ∧ BelowRoot cfg s' := by
  induction h with
  | refl => exact ⟨hI, hB⟩
  | cons _ hl hs _ ih => exact ih (hI.step hl hs) (hB.step hI hl hs)

/-- **The relative paths resolve back.**  Along every run from the constructor on a directory,
with the assumptions of the depth limit, each path `GetListOfFilesRelativeCopy` gives and each
relative path `GetNextFilePath` returns is non-empty, and the root followed by it is the
absolute path it stands for. -/
theorem monitoredRun_relative_resolves (hdir : fs.isDirectory cfg.rootFileOrFolderPath = true)
    (hfs : fs.ChildEntries) (h : MonitoredRun cfg (reload cfg fs ScannerState.empty) s) :
    (∀ q ∈ getListOfFilesRelativeCopy cfg s, q ≠ []) ∧
      (getListOfFilesRelativeCopy cfg s).map (cfg.rootFileOrFolderPath ++ ·) = s.pathsOfFilesList ∧
      ∀ abs rel s', getNextFilePath cfg s = some (some (abs, rel), s') →
        rel ≠ [] ∧ cfg.rootFileOrFolderPath ++ rel = abs := by
  obtain ⟨hI, hB⟩ := h.belowRoot (WithinDepth.reload hfs) (BelowRoot.reload hdir hfs)
  have hres : ∀ p ∈ s.pathsOfFilesList, relative p cfg.rootFileOrFolderPath ≠ [] ∧
      cfg.rootFileOrFolderPath ++ relative p cfg.rootFileOrFolderPath = p :=
    fun p hp => append_relative (hI.listed p hp).1 (hB.listed p hp)
  refine ⟨fun q hq => ?_, ?_, fun abs rel s' hg => ?_⟩
  · obtain ⟨p, hp, rfl⟩ := List.mem_map.1 hq
    exact (hres p hp).1
  · rw [getListOfFilesRelativeCopy, List.map_map]
    exact (List.map_congr_left fun p hp => (hres p hp).2).trans (List.map_id _)
  · unfold DirectoryScanner.getNextFilePath at hg
    split at hg
    · cases hg
    · rename_i i _
      split at hg
      · cases hg
      · rename_i p hp
        cases hg
        obtain ⟨hlt, rfl⟩ := List.getElem?_eq_some_iff.1 hp
        exact hres _ (List.getElem_mem hlt)

/-- A scanner of `/r` that enters one level of directories. -/
def oneLevel : ScannerConfig := ⟨["r"], true, true, 1⟩

/-- `/r` holding `/r/a.txt` and the directory `/r/d`, which holds `/r/d/b.txt` and the directory
`/r/d/e` with `/r/d/e/c.txt`; `/r/d/f.txt` is a file that appears later. -/
def nestedTree : FileSystem where
  isDirectory p := p = ["r"] || p = ["r", "d"] || p = ["r", "d", "e"]
  isRegularFile p := p = ["r", "a.txt"] || p = ["r", "d", "b.txt"] || p = ["r", "d", "f.txt"] ||
    p = ["r", "d", "e", "c.txt"]
  fileSize _ := 5
  entries p :=
    if p = ["r"] then [["r", "a.txt"], ["r", "d"]]
    else if p = ["r", "d"] then [["r", "d", "b.txt"], ["r", "d", "e"]]
    else if p = ["r", "d", "e"] then [["r", "d", "e", "c.txt"]]
    else []
  addDirectoryThrows _ := false

theorem nestedTree_childEntries : nestedTree.ChildEntries := by
  intro d p h
  simp only [nestedTree] at h
  split_ifs at h <;> subst_vars <;> simp at h
  all_goals first | exact ⟨_, h⟩ | (rcases h with rfl | rfl <;> exact ⟨_, rfl⟩)

theorem reload_lists_walked_files_nested :
    nestedTree.isDirectory oneLevel.rootFileOrFolderPath = true ∧
      ((∀ p, (reload oneLevel nestedTree ScannerState.empty).newFilePathsAddedSet p = true ↔
          WalkedFile oneLevel nestedTree p) ∧
        (reload oneLevel nestedTree ScannerState.empty).pathsOfFilesList.Sorted pathLE ∧
        (reload oneLevel nestedTree ScannerState.empty).pathsOfFilesList.Nodup ∧
        ∀ p, p ∈ (reload oneLevel nestedTree ScannerState.empty).pathsOfFilesList ↔
          oneLevel.includeExistingFiles = true ∧ WalkedFile oneLevel nestedTree p) :=
  ⟨rfl, reload_lists_walked_files rfl⟩

/-- `/r/d/f.txt` appears in the monitored `/r/d`, is queued, listed by the recheck timer and
handed out; `/r/d/e` is never monitored. -/
theorem monitoredRun_withinDepth_nested :
    ∃ s, MonitoredRun oneLevel (reload oneLevel nestedTree ScannerState.empty) s ∧ WithinDepth oneLevel s := by
  have h : MonitoredRun oneLevel (reload oneLevel nestedTree ScannerState.empty) _ :=
    .cons (.directoryChange nestedTree .success ⟨.added, ["r", "d", "f.txt"]⟩)
      ⟨nestedTree_childEntries, ["r", "d"], "f.txt", rfl, rfl⟩ rfl <|
    .cons (.recheckTimerExpired nestedTree) trivial rfl <|
    .cons .getNextFilePath trivial rfl <|
    .refl _
  exact ⟨_, h, monitoredRun_withinDepth nestedTree_childEntries h⟩

/-- After `/r/d/f.txt` is listed, the relative copy of the list is `a.txt`, `d/b.txt` and
`d/f.txt`. -/
theorem monitoredRun_relative_resolves_nested :
    ∃ s, MonitoredRun oneLevel (reload oneLevel nestedTree ScannerState.empty) s ∧
      nestedTree.isDirectory oneLevel.rootFileOrFolderPath = true ∧
      (∀ q ∈ getListOfFilesRelativeCopy oneLevel s, q ≠ []) ∧
      (getListOfFilesRelativeCopy oneLevel s).map (oneLevel.rootFileOrFolderPath ++ ·) = s.pathsOfFilesList ∧
      ∀ abs rel s', getNextFilePath oneLevel s = some (some (abs, rel), s') →
        rel ≠ [] ∧ oneLevel.rootFileOrFolderPath ++ rel = abs := by
  have h : MonitoredRun oneLevel (reload oneLevel nestedTree ScannerState.empty) _ :=
    .cons (.directoryChange nestedTree .success ⟨.added, ["r", "d", "f.txt"]⟩)
      ⟨nestedTree_childEntries, ["r", "d"], "f.txt", rfl, rfl⟩ rfl <|
    .cons (.recheckTimerExpired nestedTree) trivial rfl <|
    .refl _
  exact ⟨_, h, rfl, monitoredRun_relative_resolves rfl nestedTree_childEntries h⟩

end Hdtn.DirectoryScanner
