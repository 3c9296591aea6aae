import Hdtn.DirectoryScanner.Model

/-! # The paths still to hand out

What the consumer gets from the scanner, as the list it reads through the iterator:

* `pending` is the list from the iterator on: `GetNextFilePath` returns its front and drops it
  (`getNextFilePath_spec`), or returns `false` when it is empty;
* `stranded` is the list before the iterator: no call returns these paths, and no step removes
  them (`Run.stranded_prefix`).

The constructor leaves the iterator at `begin()`, so nothing is stranded
(`reload_stranded`), and no step moves the iterator off the list, so `GetNextFilePath` is
defined in every reachable state (`getNextFilePath_isSome_of_reachable`).  The recheck timer's
append moves an iterator at `end()` onto the new path, and `GetNextFilePath` erases only the
path it returns, so neither strands a path.  The append of `IterateDirectories`, run for a
directory that appears under a watched one, does not touch the iterator: when the consumer has
drained the list, the iterator is at `end()` and the files of the new directory are stranded
(`step_stranded`, `new_directory_files_stranded`). -/

namespace Hdtn.DirectoryScanner

namespace ScannerState

/-- The position of the iterator: its element's, or the length of the list at `end()`. -/
def position (s : ScannerState) : Nat :=
  match s.currentFilePathIterator with
  | .element i => i
  | .atEnd => s.pathsOfFilesList.length

/-- The paths from the iterator on: those `GetNextFilePath` hands out, in order. -/
def pending (s : ScannerState) : List Path := s.pathsOfFilesList.drop s.position

/-- The paths before the iterator. -/
def stranded (s : ScannerState) : List Path := s.pathsOfFilesList.take s.position

/-- The iterator is `end()` or on an element of the list. -/
def IteratorValid (s : ScannerState) : Prop := s.position ≤ s.pathsOfFilesList.length ∧
  ∀ i, s.currentFilePathIterator = .element i → i < s.pathsOfFilesList.length

theorem pending_of_atEnd {s : ScannerState} (h : s.currentFilePathIterator = .atEnd) : s.pending = [] := by
  simp [pending, position, h]

end ScannerState

open ScannerState

variable {cfg : ScannerConfig} {fs : FileSystem} {s s' : ScannerState}

/-! ### `GetNextFilePath` -/

/-- **`GetNextFilePath` hands out the front of `pending`.**  For a valid iterator it is defined,
returns the first pending path (with that path relative to the root) or `false` when there is
none, drops that path from `pending`, and strands nothing. -/
theorem getNextFilePath_spec (hv : s.IteratorValid) :
    ∃ s', getNextFilePath cfg s = some (s.pending.head?.map fun p => (p, relative p cfg.rootFileOrFolderPath), s') ∧
      s'.pending = s.pending.tail ∧ s'.stranded = s.stranded ∧ s'.IteratorValid := by
  unfold getNextFilePath
  cases hi : s.currentFilePathIterator with
  | atEnd => exact ⟨s, by simp [pending_of_atEnd hi], by simp [pending_of_atEnd hi], rfl, hv⟩
  | element i =>
    have hlt := hv.2 i hi
    have hpend : s.pending = s.pathsOfFilesList[i] :: s.pathsOfFilesList.drop (i + 1) := by
      simp only [pending, position, hi]
      exact List.drop_eq_getElem_cons hlt
    have htake : (s.pathsOfFilesList.take i).length = i := List.length_take_of_le hlt.le
    let t : ScannerState := { s with
      pathsOfFilesList := s.pathsOfFilesList.eraseIdx i
      currentFilePathIterator := if i + 1 < s.pathsOfFilesList.length then .element i else .atEnd }
    have hlist : t.pathsOfFilesList = s.pathsOfFilesList.take i ++ s.pathsOfFilesList.drop (i + 1) :=
      List.eraseIdx_eq_take_drop_succ _ _
    have hpos : t.position = i := by
      simp only [position, t]
      split_ifs with hnext
      · rfl
      · rw [List.length_eraseIdx]
        simp only [hlt, if_true]
        omega
    refine ⟨t, by simp [List.getElem?_eq_getElem hlt, hpend, t], ?_, ?_, ?_⟩
    · rw [pending, hpos, hlist, List.drop_left' htake, hpend, List.tail_cons]
    · rw [stranded, hpos, hlist, List.take_left' htake]
      simp only [stranded, position, hi]
    · refine ⟨by rw [hpos, hlist, List.length_append, htake]; omega, fun j hj => ?_⟩
      simp only [t] at hj
      split_ifs at hj with hnext
      · cases hj
        rw [hlist, List.length_append, htake, List.length_drop]
        omega

/-! ### Appends -/

/-- `s'` is `s` with `added` appended to the list and the iterator where it was. -/
structure Appended (s s' : ScannerState) (added : List Path) : Prop where
  list_eq : s'.pathsOfFilesList = s.pathsOfFilesList ++ added
  iterator_eq : s'.currentFilePathIterator = s.currentFilePathIterator

theorem Appended.refl (s : ScannerState) : Appended s s [] := ⟨(List.append_nil _).symm, rfl⟩

theorem Appended.trans {s'' : ScannerState} {a b : List Path} (h : Appended s s' a) (h' : Appended s' s'' b) :
    Appended s s'' (a ++ b) := ⟨by rw [h'.list_eq, h.list_eq, List.append_assoc], h'.iterator_eq.trans h.iterator_eq⟩

theorem Appended.pending_stranded {a : List Path} (h : Appended s s' a) (hv : s.IteratorValid) :
    s'.pending = s.pending ++ (if s.currentFilePathIterator = .atEnd then [] else a) ∧
      s'.stranded = s.stranded ++ (if s.currentFilePathIterator = .atEnd then a else []) ∧
      s'.IteratorValid := by
  simp only [pending, stranded, position, IteratorValid, h.list_eq, h.iterator_eq]
  cases hi : s.currentFilePathIterator with
  | atEnd => simp
  | element i =>
    have hlt := hv.2 i hi
    simp only [reduceCtorEq, if_false, List.append_nil, List.drop_append_of_le_length hlt.le,
      List.take_append_of_le_length hlt.le, List.length_append, PathIterator.element.injEq, forall_eq',
      true_and]
    omega

theorem appended_iterateEntry (addFiles : Bool) (s : ScannerState) (e : Path × Nat) :
    ∃ a, Appended s (iterateEntry cfg fs addFiles s e) a := by
  obtain ⟨p, depth⟩ := e
  unfold iterateEntry addMonitored
  dsimp only
  split_ifs
  all_goals first
    | exact ⟨[], Appended.refl _⟩
    | exact ⟨[], ⟨(List.append_nil _).symm, rfl⟩⟩
    | exact ⟨[p], ⟨rfl, rfl⟩⟩

theorem appended_iterateDirectories (rootDirectory : Path) (start : Nat) (addFiles : Bool)
    (s : ScannerState) : ∃ a, Appended s (iterateDirectories cfg fs rootDirectory start addFiles s) a := by
  unfold iterateDirectories
  generalize walk fs _ _ _ = entries
  induction entries generalizing s with
  | nil => exact ⟨[], Appended.refl s⟩
  | cons e entries ih =>
    obtain ⟨a, ha⟩ : ∃ a, Appended s (iterateEntry cfg fs addFiles s e) a := appended_iterateEntry addFiles s e
    obtain ⟨b, hb⟩ := ih (iterateEntry cfg fs addFiles s e)
    exact ⟨a ++ b, ha.trans hb⟩

theorem appended_tryAddNewFile (p : Path) (s : ScannerState) : Appended s (tryAddNewFile fs p s) [] := by
  unfold tryAddNewFile
  split_ifs
  · exact Appended.refl s
  · exact ⟨(List.append_nil _).symm, rfl⟩

theorem appended_onDirectoryChangeEvent (ec : ErrorCode) (ev : DirMonitorEvent) (s : ScannerState) :
    ∃ a, Appended s (onDirectoryChangeEvent cfg fs ec ev s) a := by
  have hmon : ∀ p, Appended s (addMonitored fs p s) [] := fun p => by
    unfold addMonitored
    split_ifs
    · exact Appended.refl s
    · exact ⟨(List.append_nil _).symm, rfl⟩
  have hset : ∀ p, Appended s (s.setMonitored p false) [] := fun _ => ⟨by simp, by simp⟩
  have hnew : ∀ p d, ∃ a, Appended s (iterateDirectories cfg fs p d true (addMonitored fs p s)) a := fun p d => by
    obtain ⟨a, ha⟩ := appended_iterateDirectories p d true (addMonitored fs p s)
    exact ⟨a, (List.nil_append a) ▸ (hmon p).trans ha⟩
  unfold onDirectoryChangeEvent
  rcases ec with _ | _ | _
  · rcases ev with ⟨_ | _ | _ | _ | _, path⟩ <;> dsimp only <;> split_ifs
    all_goals first
      | with_reducible exact ⟨[], Appended.refl s⟩
      | with_reducible exact ⟨[], hmon _⟩
      | with_reducible exact ⟨[], hset _⟩
      | with_reducible exact ⟨[], appended_tryAddNewFile _ s⟩
      | with_reducible exact hnew _ _
  all_goals exact ⟨[], Appended.refl s⟩

/-! ### The recheck timer -/

theorem appendAtIterator_spec {t : ScannerState} {p : Path} (hv : s.IteratorValid)
    (hl : t.pathsOfFilesList = s.pathsOfFilesList ++ [p])
    (hi : t.currentFilePathIterator = if s.currentFilePathIterator = .atEnd then
      .element s.pathsOfFilesList.length else s.currentFilePathIterator) :
    t.pending = s.pending ++ [p] ∧ t.stranded = s.stranded ∧ t.IteratorValid := by
  cases hs : s.currentFilePathIterator with
  | atEnd =>
    rw [hs, if_pos rfl] at hi
    simp [pending, stranded, position, IteratorValid, hl, hi, hs]
  | element i =>
    rw [hs, if_neg (by simp)] at hi
    have hlt := hv.2 i hs
    simp only [pending, stranded, position, IteratorValid, hl, hi, hs, List.drop_append_of_le_length hlt.le,
      List.take_append_of_le_length hlt.le, List.length_append, List.length_singleton,
      PathIterator.element.injEq, forall_eq', true_and]
    omega

/-- **The recheck timer's step.**  It appends at most one path, which is pending: an iterator
at `end()` moves onto it. -/
theorem onRecheckFileSizeTimerExpired_spec (hv : s.IteratorValid)
    (h : onRecheckFileSizeTimerExpired fs s = some s') :
    ∃ a, s'.pathsOfFilesList = s.pathsOfFilesList ++ a ∧ s'.pending = s.pending ++ a ∧
      s'.stranded = s.stranded ∧ s'.IteratorValid := by
  have hsame : ∀ t : ScannerState, t.pathsOfFilesList = s.pathsOfFilesList →
      t.currentFilePathIterator = s.currentFilePathIterator →
      ∃ a, t.pathsOfFilesList = s.pathsOfFilesList ++ a ∧ t.pending = s.pending ++ a ∧
        t.stranded = s.stranded ∧ t.IteratorValid := fun t hl hi => by
    refine ⟨[], by rw [hl, List.append_nil], ?_, ?_, ?_⟩ <;>
      simp only [pending, stranded, position, IteratorValid, hl, hi, List.append_nil]
    exact hv
  unfold onRecheckFileSizeTimerExpired at h
  split at h
  · cases h
  · rename_i thisPath rest _
    split at h
    · cases h
    · split_ifs at h <;> cases h
      · exact hsame _ rfl rfl
      · by_cases hadded : s.newFilePathsAddedSet thisPath = true
        · simp only [hadded, if_true]
          exact hsame _ rfl rfl
        · simp only [hadded, Bool.false_eq_true, if_false]
          exact ⟨[thisPath], rfl, appendAtIterator_spec hv rfl rfl⟩
      · exact hsame _ rfl rfl

/-! ### Runs -/

/-- **Where a path is stranded.**  A step leaves a valid iterator valid, and leaves the paths
before it as they were, except for a directory event while the iterator is at `end()`: the paths
it appends are stranded. -/
theorem step_stranded {l : ScannerLabel} (hv : s.IteratorValid) (h : step cfg s l = some s') :
    s'.IteratorValid ∧ (s'.stranded = s.stranded ∨
      ∃ fs ec ev a, l = .directoryChange fs ec ev ∧ s.currentFilePathIterator = .atEnd ∧
        s'.pathsOfFilesList = s.pathsOfFilesList ++ a ∧ s'.stranded = s.stranded ++ a) := by
  cases l with
  | getNextFilePath =>
    obtain ⟨t, ht, -, hst, hv'⟩ := @getNextFilePath_spec cfg s hv
    simp only [step, ht, Option.map_some', Option.some.injEq] at h
    subst h
    exact ⟨hv', .inl hst⟩
  | directoryChange fs ec ev =>
    cases h
    obtain ⟨a, ha⟩ : ∃ a, Appended s (onDirectoryChangeEvent cfg fs ec ev s) a :=
      appended_onDirectoryChangeEvent ec ev s
    obtain ⟨-, hst, hv'⟩ := ha.pending_stranded hv
    refine ⟨hv', ?_⟩
    by_cases hi : s.currentFilePathIterator = .atEnd
    · exact .inr ⟨fs, ec, ev, a, rfl, hi, ha.list_eq, by rw [hst, if_pos hi]⟩
    · exact .inl (by rw [hst, if_neg hi, List.append_nil])
  | recheckTimerExpired fs =>
    obtain ⟨a, -, -, hst, hv'⟩ := onRecheckFileSizeTimerExpired_spec hv h
    exact ⟨hv', .inl hst⟩

/-- **Stranded paths stay stranded.**  Along a run from a valid iterator, the paths before the
iterator only grow, so none of them is ever handed out. -/
theorem Run.stranded_prefix (h : Run cfg s s') (hv : s.IteratorValid) :
    s.stranded <+: s'.stranded ∧ s'.IteratorValid := by
  induction h with
  | refl => exact ⟨List.prefix_refl _, hv⟩
  | cons l hstep _ ih =>
    obtain ⟨hv', hst⟩ := step_stranded hv hstep
    obtain ⟨hpre, hv''⟩ := ih hv'
    refine ⟨?_, hv''⟩
    rcases hst with hst | ⟨-, -, -, a, -, -, -, hst⟩
    · exact hst ▸ hpre
    · exact (List.prefix_append _ a).trans (hst ▸ hpre)

theorem reload_stranded (s : ScannerState) :
    (reload cfg fs s).stranded = [] ∧ (reload cfg fs s).IteratorValid := by
  generalize hr : reload cfg fs s = r
  have hi : r.currentFilePathIterator = .begin r.pathsOfFilesList := by
    rw [← hr]
    rfl
  unfold PathIterator.begin at hi
  split_ifs at hi with hl
  · simp [stranded, position, IteratorValid, hi, hl]
  · simp only [stranded, position, IteratorValid, hi, List.take_zero, PathIterator.element.injEq,
      forall_eq', true_and]
    exact ⟨Nat.zero_le _, List.length_pos.mpr hl⟩

theorem reachable_iteratorValid (h : Reachable cfg s) : s.IteratorValid := by
  obtain ⟨fs, hrun⟩ := h
  exact (hrun.stranded_prefix (reload_stranded _).2).2

/-- **`GetNextFilePath` never dereferences a stale iterator.**  In every state a scanner reaches
from its constructor, under any interleaving of directory events (with the `IterateDirectories`
and `TryAddNewFile` they run), recheck-timer expiries and earlier calls, the iterator is `end()`
or on an element of the list, so the call is defined. -/
theorem getNextFilePath_isSome_of_reachable (h : Reachable cfg s) : (getNextFilePath cfg s).isSome := by
  obtain ⟨-, hv⟩ := reachable_iteratorValid h
  cases hi : s.currentFilePathIterator with
  | atEnd => simp [getNextFilePath, hi]
  | element i => simp [getNextFilePath, hi, List.getElem?_eq_getElem (hv i hi)]

/-! ### A new directory after the list is drained -/

/-- A scanner of the directory `/r`, listing existing and new files down to depth `2`. -/
def watchedRoot : ScannerConfig := ⟨["r"], true, true, 2⟩

/-- `/r`, empty. -/
def emptyRoot : FileSystem where
  isDirectory p := p = ["r"]
  isRegularFile _ := false
  fileSize _ := 0
  entries _ := []
  addDirectoryThrows _ := false

/-- `/r` holding the directory `/r/d`, which holds the file `/r/d/a.txt`. -/
def rootWithNewDirectory : FileSystem where
  isDirectory p := p = ["r"] || p = ["r", "d"]
  isRegularFile p := p = ["r", "d", "a.txt"]
  fileSize _ := 0
  entries p := if p = ["r"] then [["r", "d"]] else if p = ["r", "d"] then [["r", "d", "a.txt"]] else []
  addDirectoryThrows _ := false

/-- The constructor finds no file in `/r`, so the iterator is at `end()`.  The directory `/r/d`
appears with its file `a.txt` in it; the event for `/r/d` runs `IterateDirectories`, which lists
`/r/d/a.txt` behind the iterator: `GetNextFilePath` returns `false` with the path in the list. -/
theorem new_directory_files_stranded :
    ∃ s, Reachable watchedRoot s ∧ s.pathsOfFilesList = [["r", "d", "a.txt"]] ∧
      (getNextFilePath watchedRoot s).map (·.1) = some none := by
  obtain ⟨s, hs, hp⟩ := reachable_of_runTrace watchedRoot emptyRoot
    [.directoryChange rootWithNewDirectory .success ⟨.added, ["r", "d"]⟩]
    (fun s => decide (s.pathsOfFilesList = [["r", "d", "a.txt"]] ∧
      (getNextFilePath watchedRoot s).map (·.1) = some none))
    (by decide)
  exact ⟨s, hs, of_decide_eq_true hp⟩

/-- After the event for `/r/d` the call is defined, although it returns `false`. -/
theorem getNextFilePath_isSome_newDirectory :
    ∃ s, Reachable watchedRoot s ∧ s.pathsOfFilesList = [["r", "d", "a.txt"]] ∧
      (getNextFilePath watchedRoot s).isSome := by
  obtain ⟨s, hs, hp⟩ := reachable_of_runTrace watchedRoot emptyRoot
    [.directoryChange rootWithNewDirectory .success ⟨.added, ["r", "d"]⟩]
    (fun s => decide (s.pathsOfFilesList = [["r", "d", "a.txt"]])) (by decide)
  exact ⟨s, hs, of_decide_eq_true hp, getNextFilePath_isSome_of_reachable hs⟩

end Hdtn.DirectoryScanner
