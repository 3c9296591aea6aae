import Mathlib.Data.List.Sort

/-! # `DirectoryScanner`

The scanner of `src/common/util/src/DirectoryScanner.cpp`, which hands the files under a root
path to a consumer one at a time:

* **The list.**  `m_pathsOfFilesList` is a `std::list` of paths and
  `m_currentFilePathIterator` an iterator into it: an element, by its position, or `end()`
  (`PathIterator`).  `emplace_back` leaves both kinds where they are; `erase` of the element
  under the iterator, after `++`, leaves it on the next element.
* **The file tree.**  What the scanner reads of the file system at one moment is a
  `FileSystem`: `is_directory`, `is_regular_file`, `file_size`, the entries of each directory
  in the order `directory_iterator` yields them, and whether `dir_monitor::add_directory`
  throws.  The tree changes between any two steps, so each event carries its own.  It has no
  symbolic links, which `recursive_directory_iterator` would not enter while `is_directory`
  follows them, and which `relative` would resolve.
* **The functions**, one definition each under the source's name: `getNextFilePath`,
  `iterateDirectories` (the loop over `recursive_directory_iterator`, whose entries are
  `walk`), `onDirectoryChangeEvent`, `tryAddNewFile`, `onRecheckFileSizeTimerExpired`, and
  `reload`, which the constructor runs.
* **Runs.**  After the constructor, the consumer's `GetNextFilePath`, the monitor's events and
  the recheck timer interleave in any order (`step`, `Run`).

The sets and the map of the class are functions from paths: the scanner asks them only
whether a path is in them and what it maps to. -/

namespace Hdtn.DirectoryScanner

/-! ### Paths -/

/-- A path, as its components below the file system's root: `/r/d/a.txt` is
`["r", "d", "a.txt"]`. -/
abbrev Path := List String

/-- `path::size()`: the length in bytes of the native string `/c₁/c₂/…`, its components in
UTF-8. -/
def pathSize (p : Path) : Nat := p.foldr (fun c n => c.utf8ByteSize + 1 + n) 0

/-- `path::extension().string().size()`: the last component from its rightmost period on, or
nothing when it has no period or is `.` or `..`. -/
def extensionSize (p : Path) : Nat :=
  match p.getLast? with
  | none => 0
  | some name =>
    if name = "." ∨ name = ".." then 0
    else match name.toList.reverse.findIdx? (· = '.') with
      | some i => i + 1
      | none => 0

/-- The number of leading components two paths share. -/
def commonPrefixLength : Path → Path → Nat
  | a :: p, b :: q => if a = b then commonPrefixLength p q + 1 else 0
  | _, _ => 0

/-- `boost::filesystem::relative(p, base)`: up from `base` to the longest common prefix, then
down to `p`; `.` when the two are equal.  `relative` is `lexically_relative` of the two paths
after `weakly_canonical`, which on the scanner's paths (absolute, without `.` or `..`, in a tree
without symbolic links) leaves them as they are. -/
def relative (p base : Path) : Path :=
  let c := commonPrefixLength p base
  let rel := List.replicate (base.length - c) ".." ++ p.drop c
  if rel = [] then ["."] else rel

/-- `std::string` comparison: the first differing character decides, and a proper prefix comes
first. -/
def charsLT : List Char → List Char → Bool
  | [], [] => false
  | [], _ :: _ => true
  | _ :: _, [] => false
  | c :: s, d :: t => decide (c.toNat < d.toNat) || (c == d && charsLT s t)

/-- `path::compare`: the components compared in turn as strings, a proper prefix first. -/
def pathLT : Path → Path → Bool
  | [], [] => false
  | [], _ :: _ => true
  | _ :: _, [] => false
  | a :: p, b :: q => charsLT a.toList b.toList || (a == b && pathLT p q)

/-- The order `std::list::sort` uses: `!(b < a)`. -/
def pathLE (a b : Path) : Prop := pathLT b a = false

instance : DecidableRel pathLE := fun a b => inferInstanceAs (Decidable (pathLT b a = false))

/-! ### The file tree and the state -/

/-- What the scanner reads of the file tree at one moment.  The tree has no symbolic links: every
entry is a directory, a file or neither, so `is_directory` and `recursive_directory_iterator`
agree on which entries are directories, and `weakly_canonical` changes no path. -/
structure FileSystem where
  isDirectory : Path → Bool
  isRegularFile : Path → Bool
  fileSize : Path → Nat
  /-- The entries of a directory, in the order `directory_iterator` yields them. -/
  entries : Path → List Path
  /-- `dir_monitor::add_directory` throws for this directory. -/
  addDirectoryThrows : Path → Bool

/-- The constructor's arguments. -/
structure ScannerConfig where
  rootFileOrFolderPath : Path
  includeExistingFiles : Bool
  includeNewFiles : Bool
  recurseDirectoriesDepth : Nat

/-- `m_currentFilePathIterator`: the element at a position of the list, or `end()`. -/
inductive PathIterator where
  | element (index : Nat)
  | atEnd
deriving DecidableEq, Repr

/-- `begin()` of a list. -/
def PathIterator.begin (l : List Path) : PathIterator := if l = [] then .atEnd else .element 0

/-- The members of `DirectoryScanner` its functions read and write. -/
structure ScannerState where
  pathsOfFilesList : List Path
  currentFilePathIterator : PathIterator
  /-- `m_newFilePathsAddedSet`: every file found so far. -/
  newFilePathsAddedSet : Path → Bool
  currentlyMonitoredDirectoryPaths : Path → Bool
  /-- `m_currentlyPendingFilesToAddMap`: a file's size when first seen, and the number of its
  entries in the timer queue. -/
  currentlyPendingFilesToAddMap : Path → Option (Nat × Nat)
  /-- `m_currentlyPendingFilesToAddTimerQueue`, oldest first: the path of each map iterator. -/
  currentlyPendingFilesToAddTimerQueue : List Path

namespace ScannerState

/-- The members as the constructor's initializers leave them. -/
def empty : ScannerState := ⟨[], .atEnd, fun _ => false, fun _ => false, fun _ => none, []⟩

/-- `m_pathsOfFilesList.emplace_back(p)`: the iterator stays on its element or at `end()`. -/
def appendPath (s : ScannerState) (p : Path) : ScannerState :=
  { s with pathsOfFilesList := s.pathsOfFilesList ++ [p] }

/-- `m_newFilePathsAddedSet.emplace(p)`. -/
def markAdded (s : ScannerState) (p : Path) : ScannerState :=
  { s with newFilePathsAddedSet := Function.update s.newFilePathsAddedSet p true }

/-- `m_currentlyMonitoredDirectoryPaths.emplace(p)`, or `erase(p)` when `b` is false. -/
def setMonitored (s : ScannerState) (p : Path) (b : Bool) : ScannerState :=
  { s with currentlyMonitoredDirectoryPaths := Function.update s.currentlyMonitoredDirectoryPaths p b }

@[simp] theorem appendPath_pathsOfFilesList (s : ScannerState) (p : Path) :
    (s.appendPath p).pathsOfFilesList = s.pathsOfFilesList ++ [p] := rfl
@[simp] theorem appendPath_currentFilePathIterator (s : ScannerState) (p : Path) :
    (s.appendPath p).currentFilePathIterator = s.currentFilePathIterator := rfl
@[simp] theorem appendPath_currentlyPendingFilesToAddMap (s : ScannerState) (p : Path) :
    (s.appendPath p).currentlyPendingFilesToAddMap = s.currentlyPendingFilesToAddMap := rfl
@[simp] theorem appendPath_currentlyPendingFilesToAddTimerQueue (s : ScannerState) (p : Path) :
    (s.appendPath p).currentlyPendingFilesToAddTimerQueue = s.currentlyPendingFilesToAddTimerQueue := rfl
@[simp] theorem markAdded_pathsOfFilesList (s : ScannerState) (p : Path) :
    (s.markAdded p).pathsOfFilesList = s.pathsOfFilesList := rfl
@[simp] theorem markAdded_currentFilePathIterator (s : ScannerState) (p : Path) :
    (s.markAdded p).currentFilePathIterator = s.currentFilePathIterator := rfl
@[simp] theorem markAdded_currentlyPendingFilesToAddMap (s : ScannerState) (p : Path) :
    (s.markAdded p).currentlyPendingFilesToAddMap = s.currentlyPendingFilesToAddMap := rfl
@[simp] theorem markAdded_currentlyPendingFilesToAddTimerQueue (s : ScannerState) (p : Path) :
    (s.markAdded p).currentlyPendingFilesToAddTimerQueue = s.currentlyPendingFilesToAddTimerQueue := rfl
@[simp] theorem appendPath_newFilePathsAddedSet (s : ScannerState) (p : Path) :
    (s.appendPath p).newFilePathsAddedSet = s.newFilePathsAddedSet := rfl
@[simp] theorem markAdded_newFilePathsAddedSet (s : ScannerState) (p : Path) :
    (s.markAdded p).newFilePathsAddedSet = Function.update s.newFilePathsAddedSet p true := rfl
@[simp] theorem setMonitored_newFilePathsAddedSet (s : ScannerState) (p : Path) (b : Bool) :
    (s.setMonitored p b).newFilePathsAddedSet = s.newFilePathsAddedSet := rfl
@[simp] theorem setMonitored_pathsOfFilesList (s : ScannerState) (p : Path) (b : Bool) :
    (s.setMonitored p b).pathsOfFilesList = s.pathsOfFilesList := rfl
@[simp] theorem setMonitored_currentFilePathIterator (s : ScannerState) (p : Path) (b : Bool) :
    (s.setMonitored p b).currentFilePathIterator = s.currentFilePathIterator := rfl
@[simp] theorem setMonitored_currentlyPendingFilesToAddMap (s : ScannerState) (p : Path) (b : Bool) :
    (s.setMonitored p b).currentlyPendingFilesToAddMap = s.currentlyPendingFilesToAddMap := rfl
@[simp] theorem setMonitored_currentlyPendingFilesToAddTimerQueue (s : ScannerState) (p : Path)
    (b : Bool) :
    (s.setMonitored p b).currentlyPendingFilesToAddTimerQueue = s.currentlyPendingFilesToAddTimerQueue :=
  rfl

end ScannerState

/-! ### The member functions -/

section functions

variable (cfg : ScannerConfig) (fs : FileSystem)

/-- `GetNextFilePath`: `none` (`false`) when the iterator is at `end()`; otherwise the path
under it with that path relative to the root, the iterator moved on and the element erased.
An iterator past the list would be undefined behaviour: the outer `none`. -/
def getNextFilePath (s : ScannerState) : Option (Option (Path × Path) × ScannerState) :=
  match s.currentFilePathIterator with
  | .atEnd => some (none, s)
  | .element i =>
    match s.pathsOfFilesList[i]? with
    | none => none
    | some p => some (some (p, relative p cfg.rootFileOrFolderPath),
        { s with
          pathsOfFilesList := s.pathsOfFilesList.eraseIdx i
          currentFilePathIterator := if i + 1 < s.pathsOfFilesList.length then .element i else .atEnd })

/-- The entries `recursive_directory_iterator` yields from `entries` at depth `depth`
(`dirIt.depth()` plus the starting index), each followed, for a directory the loop does not
`no_push`, by the entries below it.  `remaining` counts the levels left above
`m_recurseDirectoriesDepth`: at `0` no directory is entered.  Without symbolic links every
directory the loop does not `no_push` is entered. -/
def walk : (remaining depth : Nat) → List Path → List (Path × Nat)
  | 0, depth, entries => entries.map (·, depth)
  | remaining + 1, depth, entries => entries.flatMap fun p =>
      (p, depth) :: if fs.isDirectory p then walk remaining (depth + 1) (fs.entries p) else []

/-- `add_directory(p)` then `m_currentlyMonitoredDirectoryPaths.emplace(p)`, skipped when
`add_directory` throws. -/
def addMonitored (p : Path) (s : ScannerState) : ScannerState :=
  if fs.addDirectoryThrows p then s else s.setMonitored p true

/-- The body of `IterateDirectories`' loop at entry `p` of depth `depth`: a directory below the
depth limit is monitored, a file with an extension and a path of at most 255 bytes is
recorded once, and listed when `addFiles`. -/
def iterateEntry (addFiles : Bool) (s : ScannerState) (entry : Path × Nat) : ScannerState :=
  let (p, depth) := entry
  if fs.isDirectory p then
    if cfg.recurseDirectoriesDepth ≤ depth then s
    else if cfg.includeNewFiles && !s.currentlyMonitoredDirectoryPaths p then addMonitored fs p s
    else s
  else if fs.isRegularFile p && decide (1 < extensionSize p) then
    if decide (pathSize p ≤ 255) && !s.newFilePathsAddedSet p then
      if addFiles then (s.markAdded p).appendPath p else s.markAdded p
    else s
  else s

/-- `IterateDirectories(rootDirectory, startingRecursiveDepthIndex, addFiles)`. -/
def iterateDirectories (rootDirectory : Path) (startingRecursiveDepthIndex : Nat) (addFiles : Bool)
    (s : ScannerState) : ScannerState :=
  (walk fs (cfg.recurseDirectoriesDepth - startingRecursiveDepthIndex) startingRecursiveDepthIndex
    (fs.entries rootDirectory)).foldl (iterateEntry cfg fs addFiles) s

/-- `TryAddNewFile(p)`: a file not yet recorded gets one more entry in the timer queue, its size
being the one of its first entry. -/
def tryAddNewFile (p : Path) (s : ScannerState) : ScannerState :=
  if s.newFilePathsAddedSet p then s
  else
    let entry := match s.currentlyPendingFilesToAddMap p with
      | none => (fs.fileSize p, 1)
      | some (fileSize, queueCount) => (fileSize, queueCount + 1)
    { s with
      currentlyPendingFilesToAddMap := Function.update s.currentlyPendingFilesToAddMap p (some entry)
      currentlyPendingFilesToAddTimerQueue := s.currentlyPendingFilesToAddTimerQueue ++ [p] }

/-- The kinds of `dir_monitor_event`. -/
inductive DirMonitorEventType where
  | added | removed | modified | renamedOldName | renamedNewName
deriving DecidableEq, Repr

/-- A `dir_monitor_event`. -/
structure DirMonitorEvent where
  type : DirMonitorEventType
  path : Path
deriving DecidableEq, Repr

/-- The `error_code` a `dir_monitor` completion carries. -/
inductive ErrorCode where
  | success | operationAborted | other
deriving DecidableEq, Repr

/-- `OnDirectoryChangeEvent(ec, ev)`. -/
def onDirectoryChangeEvent (ec : ErrorCode) (ev : DirMonitorEvent) (s : ScannerState) : ScannerState :=
  match ec with
  | .success =>
    let recursionDepthRelative := (relative ev.path cfg.rootFileOrFolderPath).length - 1
    let newDirectory := fs.isDirectory ev.path && !s.currentlyMonitoredDirectoryPaths ev.path &&
      decide (recursionDepthRelative < cfg.recurseDirectoriesDepth)
    match ev.type with
    | .added | .modified =>
      if fs.isDirectory ev.path then
        if newDirectory then
          iterateDirectories cfg fs ev.path (recursionDepthRelative + 1) true (addMonitored fs ev.path s)
        else s
      else if fs.isRegularFile ev.path then tryAddNewFile fs ev.path s
      else s
    | .removed | .renamedOldName =>
      if s.currentlyMonitoredDirectoryPaths ev.path then s.setMonitored ev.path false else s
    | .renamedNewName => if newDirectory then addMonitored fs ev.path s else s
  | _ => s

/-- `OnRecheckFileSize_TimerExpired` when the timer was not cancelled: the front of the queue is
taken; at its path's last queue entry the file is listed if its size has not changed, and
queued again, with its first size kept, if it has.  The timer only runs while the queue is not
empty; the outer `none` is the `front()` of an empty queue. -/
def onRecheckFileSizeTimerExpired (s : ScannerState) : Option ScannerState :=
  match s.currentlyPendingFilesToAddTimerQueue with
  | [] => none
  | thisPath :: rest =>
    match s.currentlyPendingFilesToAddMap thisPath with
    | none => none
    | some (prevFileSize, queueCount) =>
      let s := { s with currentlyPendingFilesToAddTimerQueue := rest }
      if queueCount - 1 ≠ 0 then
        some { s with
          currentlyPendingFilesToAddMap :=
            Function.update s.currentlyPendingFilesToAddMap thisPath (some (prevFileSize, queueCount - 1)) }
      else if prevFileSize = fs.fileSize thisPath then
        let s := if s.newFilePathsAddedSet thisPath then s
          else { (s.markAdded thisPath).appendPath thisPath with
            currentFilePathIterator :=
              if s.currentFilePathIterator = .atEnd then .element s.pathsOfFilesList.length
              else s.currentFilePathIterator }
        some { s with
          currentlyPendingFilesToAddMap := Function.update s.currentlyPendingFilesToAddMap thisPath none }
      else
        some { s with
          currentlyPendingFilesToAddMap :=
            Function.update s.currentlyPendingFilesToAddMap thisPath (some (prevFileSize, 1))
          currentlyPendingFilesToAddTimerQueue := rest ++ [thisPath] }

/-- `Clear()`: the monitored directories and the list are emptied, the iterator put at
`end()`. -/
def clear (s : ScannerState) : ScannerState :=
  { s with
    currentlyMonitoredDirectoryPaths := fun _ => false
    pathsOfFilesList := []
    currentFilePathIterator := .atEnd }

/-- `Reload()`: the files under a root directory, sorted, or the root file itself, with the
iterator at `begin()`. -/
def reload (s : ScannerState) : ScannerState :=
  let root := cfg.rootFileOrFolderPath
  let s := clear s
  let s :=
    if fs.isDirectory root then
      let s := if cfg.includeNewFiles then addMonitored fs root s else s
      let s := iterateDirectories cfg fs root 0 cfg.includeExistingFiles s
      { s with pathsOfFilesList := s.pathsOfFilesList.insertionSort pathLE }
    else if fs.isRegularFile root && decide (1 < extensionSize root) && decide (pathSize root ≤ 255) &&
        cfg.includeExistingFiles then s.appendPath root
    else s
  { s with currentFilePathIterator := .begin s.pathsOfFilesList }

end functions

/-! ### What the handlers can do -/

section handlers

variable {cfg : ScannerConfig} {fs : FileSystem} {s s' : ScannerState}

theorem onDirectoryChangeEvent_spec (ec : ErrorCode) (ev : DirMonitorEvent) (s : ScannerState) :
    onDirectoryChangeEvent cfg fs ec ev s = s ∨
      onDirectoryChangeEvent cfg fs ec ev s = tryAddNewFile fs ev.path s ∨
      onDirectoryChangeEvent cfg fs ec ev s = s.setMonitored ev.path false ∨
      (fs.isDirectory ev.path && !s.currentlyMonitoredDirectoryPaths ev.path &&
          decide ((relative ev.path cfg.rootFileOrFolderPath).length - 1 < cfg.recurseDirectoriesDepth)) = true ∧
        (onDirectoryChangeEvent cfg fs ec ev s = addMonitored fs ev.path s ∨
          onDirectoryChangeEvent cfg fs ec ev s = iterateDirectories cfg fs ev.path
            ((relative ev.path cfg.rootFileOrFolderPath).length - 1 + 1) true (addMonitored fs ev.path s)) := by
  unfold onDirectoryChangeEvent
  rcases ec with _ | _ | _
  · rcases ev with ⟨_ | _ | _ | _ | _, path⟩ <;> dsimp only <;> split_ifs <;>
      first
        | (left; with_reducible rfl)
        | (right; left; with_reducible rfl)
        | (right; right; left; with_reducible rfl)
        | (right; right; right; refine ⟨‹_›, ?_⟩; first | (left; with_reducible rfl) | (right; with_reducible rfl))
  all_goals exact .inl rfl

theorem onRecheckFileSizeTimerExpired_cases (h : onRecheckFileSizeTimerExpired fs s = some s') :
    ∃ q rest size c, s.currentlyPendingFilesToAddTimerQueue = q :: rest ∧
      s.currentlyPendingFilesToAddMap q = some (size, c) ∧
      s'.currentlyMonitoredDirectoryPaths = s.currentlyMonitoredDirectoryPaths ∧
      (c - 1 ≠ 0 ∧ s'.currentlyPendingFilesToAddTimerQueue = rest ∧
          s'.currentlyPendingFilesToAddMap = Function.update s.currentlyPendingFilesToAddMap q (some (size, c - 1)) ∧
          s'.pathsOfFilesList = s.pathsOfFilesList ∧ s'.newFilePathsAddedSet = s.newFilePathsAddedSet ∨
        c - 1 = 0 ∧ size = fs.fileSize q ∧ s'.currentlyPendingFilesToAddTimerQueue = rest ∧
          s'.currentlyPendingFilesToAddMap = Function.update s.currentlyPendingFilesToAddMap q none ∧
          (s.newFilePathsAddedSet q = true ∧ s'.pathsOfFilesList = s.pathsOfFilesList ∧
              s'.newFilePathsAddedSet = s.newFilePathsAddedSet ∨
            s.newFilePathsAddedSet q = false ∧ s'.pathsOfFilesList = s.pathsOfFilesList ++ [q] ∧
              s'.newFilePathsAddedSet = Function.update s.newFilePathsAddedSet q true) ∨
        c - 1 = 0 ∧ size ≠ fs.fileSize q ∧ s'.currentlyPendingFilesToAddTimerQueue = rest ++ [q] ∧
          s'.currentlyPendingFilesToAddMap = Function.update s.currentlyPendingFilesToAddMap q (some (size, 1)) ∧
          s'.pathsOfFilesList = s.pathsOfFilesList ∧ s'.newFilePathsAddedSet = s.newFilePathsAddedSet) := by
  unfold onRecheckFileSizeTimerExpired at h
  split at h
  · cases h
  rename_i q rest hq
  split at h
  · cases h
  rename_i size c hm
  refine ⟨q, rest, size, c, hq, hm, ?_⟩
  split_ifs at h with h₁ h₂ <;> cases h
  · exact ⟨rfl, .inl ⟨h₁, rfl, rfl, rfl, rfl⟩⟩
  · by_cases hadded : s.newFilePathsAddedSet q = true
    · rw [if_pos hadded]
      exact ⟨rfl, .inr (.inl ⟨not_not.mp h₁, h₂, rfl, rfl, .inl ⟨hadded, rfl, rfl⟩⟩)⟩
    · rw [if_neg hadded]
      exact ⟨rfl, .inr (.inl ⟨not_not.mp h₁, h₂, rfl, rfl, .inr ⟨Bool.eq_false_iff.mpr hadded, rfl, rfl⟩⟩)⟩
  · exact ⟨rfl, .inr (.inr ⟨not_not.mp h₁, h₂, rfl, rfl, rfl, rfl⟩)⟩

theorem onRecheckFileSizeTimerExpired_frame (h : onRecheckFileSizeTimerExpired fs s = some s') :
    ∃ q rest, s.currentlyPendingFilesToAddTimerQueue = q :: rest ∧
      s'.currentlyMonitoredDirectoryPaths = s.currentlyMonitoredDirectoryPaths ∧
      (s'.currentlyPendingFilesToAddTimerQueue = rest ∨ s'.currentlyPendingFilesToAddTimerQueue = rest ++ [q]) ∧
      (s'.pathsOfFilesList = s.pathsOfFilesList ∧ s'.newFilePathsAddedSet = s.newFilePathsAddedSet ∨
        s.newFilePathsAddedSet q = false ∧ s'.pathsOfFilesList = s.pathsOfFilesList ++ [q] ∧
          s'.newFilePathsAddedSet = Function.update s.newFilePathsAddedSet q true) := by
  obtain ⟨q, rest, _, _, hq, -, hm, hcases⟩ := onRecheckFileSizeTimerExpired_cases h
  refine ⟨q, rest, hq, hm, ?_⟩
  rcases hcases with ⟨-, hq', -, hl, ha⟩ | ⟨-, -, hq', -, hla⟩ | ⟨-, -, hq', -, hl, ha⟩
  exacts [⟨.inl hq', .inl ⟨hl, ha⟩⟩, ⟨.inl hq', hla.imp_left And.right⟩, ⟨.inr hq', .inl ⟨hl, ha⟩⟩]

theorem onRecheckFileSizeTimerExpired_subset (h : onRecheckFileSizeTimerExpired fs s = some s') :
    ∃ q ∈ s.currentlyPendingFilesToAddTimerQueue,
      s'.currentlyMonitoredDirectoryPaths = s.currentlyMonitoredDirectoryPaths ∧
      (∀ p, s'.newFilePathsAddedSet p = true → s.newFilePathsAddedSet p = true ∨ p = q) ∧
      (∀ p ∈ s'.pathsOfFilesList, p ∈ s.pathsOfFilesList ∨ p = q) ∧
      ∀ p ∈ s'.currentlyPendingFilesToAddTimerQueue, p ∈ s.currentlyPendingFilesToAddTimerQueue := by
  obtain ⟨q, rest, hq, hm, hq', hl⟩ := onRecheckFileSizeTimerExpired_frame h
  refine ⟨q, hq ▸ List.mem_cons_self q rest, hm, fun p hp => ?_, fun p hp => ?_, fun p hp => hq ▸ ?_⟩
  · rcases hl with ⟨-, ha⟩ | ⟨-, -, ha⟩
    · exact .inl (ha ▸ hp)
    · by_cases hpq : p = q
      · exact .inr hpq
      · exact .inl (by simpa [ha, hpq] using hp)
  · rcases hl with ⟨hl, -⟩ | ⟨-, hl, -⟩ <;> rw [hl] at hp
    · exact .inl hp
    · simpa using hp
  · rcases hq' with hq' | hq' <;> rw [hq'] at hp
    · exact List.mem_cons_of_mem q hp
    · rcases List.mem_append.1 hp with hp | hp
      · exact List.mem_cons_of_mem q hp
      · exact List.mem_singleton.1 hp ▸ List.mem_cons_self q rest

end handlers

/-! ### Runs -/

/-- One step of a scanner's life after its constructor. -/
inductive ScannerLabel where
  /-- The consumer calls `GetNextFilePath`. -/
  | getNextFilePath
  /-- `dir_monitor` completes with an event, the tree being `fs`. -/
  | directoryChange (fs : FileSystem) (ec : ErrorCode) (ev : DirMonitorEvent)
  /-- The recheck timer expires, the tree being `fs`. -/
  | recheckTimerExpired (fs : FileSystem)

section runs

variable (cfg : ScannerConfig)

/-- The effect of one step on the scanner; `none` where the C++ has undefined behaviour. -/
def step (s : ScannerState) : ScannerLabel → Option ScannerState
  | .getNextFilePath => (getNextFilePath cfg s).map (·.2)
  | .directoryChange fs ec ev => some (onDirectoryChangeEvent cfg fs ec ev s)
  | .recheckTimerExpired fs => onRecheckFileSizeTimerExpired fs s

/-- The runs of the scanner. -/
inductive Run : ScannerState → ScannerState → Prop
  | refl (s : ScannerState) : Run s s
  | cons {s s' s'' : ScannerState} (l : ScannerLabel) : step cfg s l = some s' → Run s' s'' → Run s s''

/-- The states a scanner reaches after its constructor ran on the tree `fs`. -/
def Reachable (s : ScannerState) : Prop := ∃ fs, Run cfg (reload cfg fs ScannerState.empty) s

/-- Run a list of steps. -/
def runTrace (s : ScannerState) : List ScannerLabel → Option ScannerState
  | [] => some s
  | l :: ls => (step cfg s l).bind (runTrace · ls)

variable {cfg}

theorem run_of_runTrace : ∀ {s s' : ScannerState} {ls : List ScannerLabel},
    runTrace cfg s ls = some s' → Run cfg s s'
  | s, s', [], h => by cases h; exact .refl s
  | s, s', l :: ls, h => by
    obtain ⟨t, ht, hrun⟩ := Option.bind_eq_some.mp h
    exact .cons l ht (run_of_runTrace hrun)

theorem reachable_of_runTrace (cfg : ScannerConfig) (fs : FileSystem) (ls : List ScannerLabel)
    (p : ScannerState → Bool)
    (h : (runTrace cfg (reload cfg fs ScannerState.empty) ls).map p = some true) :
    ∃ s, Reachable cfg s ∧ p s = true := by
  cases hr : runTrace cfg (reload cfg fs ScannerState.empty) ls with
  | none => simp [hr] at h
  | some s => exact ⟨s, ⟨fs, run_of_runTrace hr⟩, by simpa [hr] using h⟩

end runs

end Hdtn.DirectoryScanner
