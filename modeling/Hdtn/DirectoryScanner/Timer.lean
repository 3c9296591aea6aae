import Hdtn.DirectoryScanner.Pending

/-! # The recheck timer

`TryAddNewFile` queues a file in `m_currentlyPendingFilesToAddTimerQueue`, counting its entries
in `m_currentlyPendingFilesToAddMap`, and `OnRecheckFileSize_TimerExpired` takes the front of the
queue when `m_timerNewFileComplete` expires.  This module adds the timer to the scanner:

* **The timer** (`RecheckTimer`) has an outstanding `async_wait` or not (`armed`), and a number
  of handlers still to run with `operation_aborted`.  `Clear` cancels the wait, `TryAddNewFile`
  starts one when it queues a path on an empty queue, and the handler of an expired wait starts
  another when it leaves the queue non-empty.  What each function does to the timer is a
  definition beside the scanner function it belongs to (`tryAddNewFileTimer`,
  `onDirectoryChangeEventTimer`, `onRecheckFileSizeTimerExpiredTimer`).
* **Runs** (`TimedRun`) interleave `Reload`, `GetNextFilePath`, the monitor's events,
  `TryAddNewFile`, and the timer's handler, run with success or with `operation_aborted`.
* **The queue and the map agree** in every reachable state (`timedReachable_pendingConsistent`):
  each entry of the map counts the queue entries of its path, every queue entry has its map
  entry, and an outstanding wait has a non-empty queue.  So the handler never dereferences an
  erased entry nor takes the front of an empty queue.
* **The timer is armed exactly when the queue is not empty** along runs with no `Reload` after
  the constructor (`TimedRun.armed_iff`).  A later `Reload` cancels the wait but keeps the
  queue; then no step starts a wait again, and the files queued then and after are never
  rechecked (`Stuck`, `reload_strands_pending_files`).
* **The recheck compares with the first size.**  A path queued again after a size mismatch
  keeps the size recorded at its first event, so a file whose size changed after that event
  is never listed, even once its size no longer changes (`changed_size_file_never_listed`).
* **A file whose size holds is listed.**  The queue is taken from the front, one entry per
  expiry, and a path queued again goes behind, so the expiries up to the last entry of a path are
  always defined, and the last one lists the path when its size is the one first recorded
  (`stable_size_file_listed`). -/

namespace Hdtn.DirectoryScanner

/-! ### The timer -/

/-- `m_timerNewFileComplete`: whether an `async_wait` is outstanding, whose handler runs with
success when the timer expires, and how many handlers wait to run with `operation_aborted`. -/
structure RecheckTimer where
  armed : Bool
  abortedHandlers : Nat
deriving DecidableEq, Repr

namespace RecheckTimer

/-- The timer as its constructor leaves it: no wait outstanding. -/
def idle : RecheckTimer := ⟨false, 0⟩

/-- `cancel()`: an outstanding wait completes with `operation_aborted`. -/
def cancel (t : RecheckTimer) : RecheckTimer := ⟨false, t.abortedHandlers + if t.armed then 1 else 0⟩

/-- `expires_at(...)` then `async_wait(...)`: `expires_at` cancels an outstanding wait, and a new
one starts. -/
def startWait (t : RecheckTimer) : RecheckTimer := { t.cancel with armed := true }

@[simp] theorem cancel_armed (t : RecheckTimer) : t.cancel.armed = false := rfl
@[simp] theorem startWait_armed (t : RecheckTimer) : t.startWait.armed = true := rfl

end RecheckTimer

/-- The scanner with its recheck timer. -/
structure TimedScanner where
  scanner : ScannerState
  timer : RecheckTimer

/-! ### What the functions do to the timer -/

section timer

variable (cfg : ScannerConfig) (fs : FileSystem)

/-- What `TryAddNewFile(p)` does to the timer: it starts a wait when it queues `p` on an empty
queue (`timerIsStopped`). -/
def tryAddNewFileTimer (p : Path) (s : ScannerState) (t : RecheckTimer) : RecheckTimer :=
  if s.newFilePathsAddedSet p then t
  else if s.currentlyPendingFilesToAddTimerQueue = [] then t.startWait else t

/-- What `OnDirectoryChangeEvent(ec, ev)` does to the timer: what `TryAddNewFile` does, for a
regular file added or modified. -/
def onDirectoryChangeEventTimer (ec : ErrorCode) (ev : DirMonitorEvent) (s : ScannerState)
    (t : RecheckTimer) : RecheckTimer :=
  match ec, ev.type with
  | .success, .added | .success, .modified =>
    if fs.isDirectory ev.path then t
    else if fs.isRegularFile ev.path then tryAddNewFileTimer ev.path s t
    else t
  | _, _ => t

/-- What the handler of an expired wait does to the timer, given the scanner it leaves: the wait
is over, and another starts when the queue is not empty. -/
def onRecheckFileSizeTimerExpiredTimer (s' : ScannerState) (t : RecheckTimer) : RecheckTimer :=
  if s'.currentlyPendingFilesToAddTimerQueue = [] then { t with armed := false }
  else { t with armed := false }.startWait

end timer

/-! ### Runs -/

/-- One step of a scanner with its timer. -/
inductive TimedLabel where
  /-- `Reload()`, the tree being `fs`. -/
  | reload (fs : FileSystem)
  /-- The consumer calls `GetNextFilePath`. -/
  | getNextFilePath
  /-- `dir_monitor` completes with an event, the tree being `fs`. -/
  | directoryChange (fs : FileSystem) (ec : ErrorCode) (ev : DirMonitorEvent)
  /-- `TryAddNewFile(p)`, the tree being `fs`. -/
  | tryAddNewFile (fs : FileSystem) (p : Path)
  /-- The outstanding wait expires: `OnRecheckFileSize_TimerExpired` with success. -/
  | recheckTimerExpired (fs : FileSystem)
  /-- A cancelled wait's handler runs with `operation_aborted`. -/
  | recheckTimerAborted

/-- `Reload` is the only step that cancels the timer. -/
def TimedLabel.isReload : TimedLabel → Bool
  | .reload _ => true
  | _ => false

section runs

variable (cfg : ScannerConfig)

/-- The effect of one step; `none` where the step cannot happen (no wait outstanding, no
cancelled handler) or the C++ has undefined behaviour. -/
def timedStep (t : TimedScanner) : TimedLabel → Option TimedScanner
  | .reload fs => some ⟨reload cfg fs t.scanner, t.timer.cancel⟩
  | .getNextFilePath => (getNextFilePath cfg t.scanner).map fun r => ⟨r.2, t.timer⟩
  | .directoryChange fs ec ev =>
    some ⟨onDirectoryChangeEvent cfg fs ec ev t.scanner, onDirectoryChangeEventTimer fs ec ev t.scanner t.timer⟩
  | .tryAddNewFile fs p => some ⟨tryAddNewFile fs p t.scanner, tryAddNewFileTimer p t.scanner t.timer⟩
  | .recheckTimerExpired fs =>
    if t.timer.armed then
      (onRecheckFileSizeTimerExpired fs t.scanner).map fun s' =>
        ⟨s', onRecheckFileSizeTimerExpiredTimer s' t.timer⟩
    else none
  | .recheckTimerAborted =>
    if 0 < t.timer.abortedHandlers then
      some ⟨t.scanner, { t.timer with abortedHandlers := t.timer.abortedHandlers - 1 }⟩
    else none

/-- The runs whose every step `P` allows. -/
inductive TimedRun (P : TimedLabel → Bool) : TimedScanner → TimedScanner → Prop
  | refl (t : TimedScanner) : TimedRun P t t
  | cons {t t' t'' : TimedScanner} (l : TimedLabel) : P l = true → timedStep cfg t l = some t' →
      TimedRun P t' t'' → TimedRun P t t''

/-- The scanner and timer as the constructor leaves them, the tree being `fs`: `Reload()`, whose
`Clear()` cancels nothing on an idle timer. -/
def TimedScanner.initial (fs : FileSystem) : TimedScanner := ⟨reload cfg fs ScannerState.empty, RecheckTimer.idle⟩

/-- The states some run from the constructor reaches. -/
def TimedReachable (t : TimedScanner) : Prop := ∃ fs, TimedRun cfg (fun _ => true) (TimedScanner.initial cfg fs) t

/-- Run a list of steps. -/
def timedRunTrace (t : TimedScanner) : List TimedLabel → Option TimedScanner
  | [] => some t
  | l :: ls => (timedStep cfg t l).bind (timedRunTrace · ls)

variable {cfg}

theorem TimedRun.invariant {P : TimedLabel → Bool} {I : TimedScanner → Prop}
    (hstep : ∀ t t' l, I t → P l = true → timedStep cfg t l = some t' → I t') {t t' : TimedScanner}
    (h : TimedRun cfg P t t') (ht : I t) : I t' := by
  induction h with
  | refl => exact ht
  | cons l hp hs _ ih => exact ih (hstep _ _ l ht hp hs)

theorem timedRun_of_timedRunTrace : ∀ {t t' : TimedScanner} {ls : List TimedLabel},
    timedRunTrace cfg t ls = some t' → TimedRun cfg (fun _ => true) t t'
  | t, t', [], h => by cases h; exact .refl t
  | t, t', l :: ls, h => by
    obtain ⟨u, hu, hrun⟩ := Option.bind_eq_some.mp h
    exact .cons l rfl hu (timedRun_of_timedRunTrace hrun)

end runs

/-! ### The pending map and queue -/

section pending

variable {cfg : ScannerConfig} {fs : FileSystem}

@[simp] theorem addMonitored_currentlyPendingFilesToAddMap (p : Path) (s : ScannerState) :
    (addMonitored fs p s).currentlyPendingFilesToAddMap = s.currentlyPendingFilesToAddMap := by
  unfold addMonitored; split <;> rfl

@[simp] theorem addMonitored_currentlyPendingFilesToAddTimerQueue (p : Path) (s : ScannerState) :
    (addMonitored fs p s).currentlyPendingFilesToAddTimerQueue = s.currentlyPendingFilesToAddTimerQueue := by
  unfold addMonitored; split <;> rfl

@[simp] theorem iterateEntry_currentlyPendingFilesToAddMap (addFiles : Bool) (s : ScannerState) (e : Path × Nat) :
    (iterateEntry cfg fs addFiles s e).currentlyPendingFilesToAddMap = s.currentlyPendingFilesToAddMap := by
  obtain ⟨p, depth⟩ := e
  unfold iterateEntry; dsimp only; split_ifs <;> simp

@[simp] theorem iterateEntry_currentlyPendingFilesToAddTimerQueue (addFiles : Bool) (s : ScannerState)
    (e : Path × Nat) :
    (iterateEntry cfg fs addFiles s e).currentlyPendingFilesToAddTimerQueue =
      s.currentlyPendingFilesToAddTimerQueue := by
  obtain ⟨p, depth⟩ := e
  unfold iterateEntry; dsimp only; split_ifs <;> simp

@[simp] theorem iterateDirectories_currentlyPendingFilesToAddMap (root : Path) (start : Nat) (addFiles : Bool)
    (s : ScannerState) :
    (iterateDirectories cfg fs root start addFiles s).currentlyPendingFilesToAddMap =
      s.currentlyPendingFilesToAddMap := by
  unfold iterateDirectories
  generalize walk fs _ _ _ = entries
  induction entries generalizing s <;> simp [*]

@[simp] theorem iterateDirectories_currentlyPendingFilesToAddTimerQueue (root : Path) (start : Nat)
    (addFiles : Bool) (s : ScannerState) :
    (iterateDirectories cfg fs root start addFiles s).currentlyPendingFilesToAddTimerQueue =
      s.currentlyPendingFilesToAddTimerQueue := by
  unfold iterateDirectories
  generalize walk fs _ _ _ = entries
  induction entries generalizing s <;> simp [*]

@[simp] theorem reload_currentlyPendingFilesToAddMap (s : ScannerState) :
    (reload cfg fs s).currentlyPendingFilesToAddMap = s.currentlyPendingFilesToAddMap := by
  unfold reload clear; dsimp only; split_ifs <;> simp

@[simp] theorem reload_currentlyPendingFilesToAddTimerQueue (s : ScannerState) :
    (reload cfg fs s).currentlyPendingFilesToAddTimerQueue = s.currentlyPendingFilesToAddTimerQueue := by
  unfold reload clear; dsimp only; split_ifs <;> simp

theorem getNextFilePath_pending {s s' : ScannerState} {o : Option (Path × Path)}
    (h : getNextFilePath cfg s = some (o, s')) :
    s'.currentlyPendingFilesToAddMap = s.currentlyPendingFilesToAddMap ∧
      s'.currentlyPendingFilesToAddTimerQueue = s.currentlyPendingFilesToAddTimerQueue := by
  unfold getNextFilePath at h
  split at h
  · cases h; exact ⟨rfl, rfl⟩
  · split at h
    · cases h
    · cases h; exact ⟨rfl, rfl⟩

theorem onDirectoryChangeEvent_cases (ec : ErrorCode) (ev : DirMonitorEvent) (s : ScannerState)
    (t : RecheckTimer) :
    (onDirectoryChangeEvent cfg fs ec ev s = tryAddNewFile fs ev.path s ∧
        onDirectoryChangeEventTimer fs ec ev s t = tryAddNewFileTimer ev.path s t) ∨
      ((onDirectoryChangeEvent cfg fs ec ev s).currentlyPendingFilesToAddMap = s.currentlyPendingFilesToAddMap ∧
        (onDirectoryChangeEvent cfg fs ec ev s).currentlyPendingFilesToAddTimerQueue =
          s.currentlyPendingFilesToAddTimerQueue ∧
        onDirectoryChangeEventTimer fs ec ev s t = t) := by
  unfold onDirectoryChangeEvent onDirectoryChangeEventTimer
  rcases ec with _ | _ | _
  · rcases ev with ⟨_ | _ | _ | _ | _, path⟩ <;> dsimp only <;> split_ifs <;> simp [ScannerState.setMonitored]
  all_goals exact .inr ⟨rfl, rfl, rfl⟩

end pending

/-! ### The map counts the queue -/

/-- The pending map and the timer queue agree: each entry counts the queue entries of its path,
and each queue entry's path has its entry. -/
structure ScannerState.PendingConsistent (s : ScannerState) : Prop where
  queueCount_eq : ∀ p fileSize queueCount, s.currentlyPendingFilesToAddMap p = some (fileSize, queueCount) →
    queueCount = s.currentlyPendingFilesToAddTimerQueue.count p
  live : ∀ p ∈ s.currentlyPendingFilesToAddTimerQueue, (s.currentlyPendingFilesToAddMap p).isSome

namespace ScannerState.PendingConsistent

variable {fs : FileSystem} {s s' : ScannerState}

theorem of_eq (hc : s.PendingConsistent)
    (hm : s'.currentlyPendingFilesToAddMap = s.currentlyPendingFilesToAddMap)
    (hq : s'.currentlyPendingFilesToAddTimerQueue = s.currentlyPendingFilesToAddTimerQueue) :
    s'.PendingConsistent :=
  ⟨fun p => hm ▸ hq ▸ hc.queueCount_eq p, fun p => hm ▸ hq ▸ hc.live p⟩

theorem empty : ScannerState.empty.PendingConsistent := ⟨fun _ _ _ h => (nomatch h), fun _ h => (nomatch h)⟩

theorem of_update {s' : ScannerState} {p : Path} {v : Option (Nat × Nat)} (hc : s.PendingConsistent)
    (hm : s'.currentlyPendingFilesToAddMap = Function.update s.currentlyPendingFilesToAddMap p v)
    (hp : ∀ fileSize queueCount, v = some (fileSize, queueCount) →
      queueCount = s'.currentlyPendingFilesToAddTimerQueue.count p)
    (hpl : p ∈ s'.currentlyPendingFilesToAddTimerQueue → v.isSome)
    (hq : ∀ q, q ≠ p → s'.currentlyPendingFilesToAddTimerQueue.count q = s.currentlyPendingFilesToAddTimerQueue.count q) :
    s'.PendingConsistent := by
  refine ⟨fun q fileSize queueCount h => ?_, fun q h => ?_⟩ <;> by_cases hqp : q = p
  · subst hqp
    rw [hm, Function.update_same] at h
    exact hp fileSize queueCount h
  · rw [hm, Function.update_noteq hqp] at h
    rw [hq q hqp]
    exact hc.queueCount_eq q fileSize queueCount h
  · subst hqp
    rw [hm, Function.update_same]
    exact hpl h
  · rw [hm, Function.update_noteq hqp]
    exact hc.live q (List.count_pos_iff.mp (hq q hqp ▸ List.count_pos_iff.mpr h))

theorem tryAddNewFile (hc : s.PendingConsistent) (p : Path) : (tryAddNewFile fs p s).PendingConsistent := by
  unfold DirectoryScanner.tryAddNewFile
  split_ifs
  · exact hc
  refine hc.of_update rfl (fun fileSize queueCount h => ?_) (fun _ => rfl) fun q hqp => ?_
  · rw [List.count_append, List.count_singleton_self]
    rcases hm : s.currentlyPendingFilesToAddMap p with _ | ⟨size, k⟩ <;>
      simp only [hm, Option.some.injEq, Prod.mk.injEq] at h <;> rw [← h.2]
    · have : p ∉ s.currentlyPendingFilesToAddTimerQueue := fun h => by simpa [hm] using hc.live p h
      rw [List.count_eq_zero_of_not_mem this]
    · rw [hc.queueCount_eq p size k hm]
  · rw [List.count_append, List.count_eq_zero_of_not_mem fun h => hqp (List.mem_singleton.mp h), Nat.add_zero]

theorem onRecheckFileSizeTimerExpired (hc : s.PendingConsistent) (h : onRecheckFileSizeTimerExpired fs s = some s') :
    s'.PendingConsistent := by
  unfold DirectoryScanner.onRecheckFileSizeTimerExpired at h
  split at h
  · cases h
  rename_i thisPath rest hqueue
  split at h
  · cases h
  rename_i prevFileSize queueCount hm
  have hk : queueCount = rest.count thisPath + 1 := by
    rw [hc.queueCount_eq _ _ _ hm, hqueue, List.count_cons_self]
  have hrest : ∀ q, q ≠ thisPath → rest.count q = s.currentlyPendingFilesToAddTimerQueue.count q := fun q hq => by
    rw [hqueue, List.count_cons, if_neg (by simpa using Ne.symm hq), Nat.add_zero]
  dsimp only at h
  split_ifs at h with h₁ h₂ <;> cases h
  · exact hc.of_update rfl (fun _ _ h => by cases h; show _ = rest.count thisPath; omega) (fun _ => rfl) hrest
  on_goal 4 =>
    refine hc.of_update rfl (fun _ _ h => ?_) (fun _ => rfl) fun q hq => ?_
    · cases h
      show 1 = (rest ++ [thisPath]).count thisPath
      rw [List.count_append, List.count_singleton_self]
      omega
    · show (rest ++ [thisPath]).count q = _
      rw [List.count_append, List.count_eq_zero_of_not_mem fun h => hq (List.mem_singleton.mp h), Nat.add_zero,
        hrest q hq]
  all_goals
    apply hc.of_update (p := thisPath) (v := none) rfl (fun _ _ h => by cases h) _ hrest
    exact fun h => absurd (List.count_pos_iff.mpr (show thisPath ∈ rest from h)) (by omega)

end ScannerState.PendingConsistent

/-! ### The timer along runs -/

theorem tryAddNewFile_cases (fs : FileSystem) (p : Path) (s : ScannerState) (tm : RecheckTimer) :
    (tryAddNewFile fs p s = s ∧ tryAddNewFileTimer p s tm = tm) ∨
      ((tryAddNewFile fs p s).currentlyPendingFilesToAddTimerQueue = s.currentlyPendingFilesToAddTimerQueue ++ [p] ∧
        (tryAddNewFileTimer p s tm).armed = (tm.armed || decide (s.currentlyPendingFilesToAddTimerQueue = []))) := by
  unfold tryAddNewFile tryAddNewFileTimer
  split_ifs with h₁ h₂
  · exact .inl ⟨rfl, rfl⟩
  · exact .inr ⟨rfl, by simp [h₂]⟩
  · exact .inr ⟨rfl, by simp [h₂]⟩

theorem onRecheckFileSizeTimerExpiredTimer_armed (s' : ScannerState) (tm : RecheckTimer) :
    (onRecheckFileSizeTimerExpiredTimer s' tm).armed = true ↔ s'.currentlyPendingFilesToAddTimerQueue ≠ [] := by
  unfold onRecheckFileSizeTimerExpiredTimer
  split_ifs with h <;> simp [h]

theorem onRecheckFileSizeTimerExpired_isSome {fs : FileSystem} {s : ScannerState} (hc : s.PendingConsistent)
    (hne : s.currentlyPendingFilesToAddTimerQueue ≠ []) : (onRecheckFileSizeTimerExpired fs s).isSome := by
  obtain ⟨thisPath, rest, hq⟩ := List.exists_cons_of_ne_nil hne
  obtain ⟨⟨prevFileSize, queueCount⟩, hm⟩ := Option.isSome_iff_exists.mp (hc.live thisPath (by simp [hq]))
  unfold onRecheckFileSizeTimerExpired
  simp only [hq, hm]
  split_ifs <;> rfl

/-- The scanner with its timer agree: the map counts the queue, and an outstanding wait has a
non-empty queue. -/
structure TimedScanner.Consistent (t : TimedScanner) : Prop where
  pending : t.scanner.PendingConsistent
  queue_ne_nil : t.timer.armed = true → t.scanner.currentlyPendingFilesToAddTimerQueue ≠ []

/-- The timer is armed exactly when the queue is not empty. -/
def TimedScanner.ArmedIff (t : TimedScanner) : Prop :=
  t.timer.armed = true ↔ t.scanner.currentlyPendingFilesToAddTimerQueue ≠ []

/-- No wait outstanding, and a non-empty queue. -/
def TimedScanner.Stuck (t : TimedScanner) : Prop :=
  t.timer.armed = false ∧ t.scanner.currentlyPendingFilesToAddTimerQueue ≠ []

namespace TimedScanner

variable {cfg : ScannerConfig} {t t' : TimedScanner} {l : TimedLabel}

theorem step_cases (h : timedStep cfg t l = some t') :
    (∃ fs, l = .reload fs ∧ t'.timer.armed = false ∧
        t'.scanner.currentlyPendingFilesToAddMap = t.scanner.currentlyPendingFilesToAddMap ∧
        t'.scanner.currentlyPendingFilesToAddTimerQueue = t.scanner.currentlyPendingFilesToAddTimerQueue) ∨
      (∃ fs p, t' = ⟨tryAddNewFile fs p t.scanner, tryAddNewFileTimer p t.scanner t.timer⟩) ∨
      (∃ fs, t.timer.armed = true ∧ onRecheckFileSizeTimerExpired fs t.scanner = some t'.scanner ∧
        t'.timer = onRecheckFileSizeTimerExpiredTimer t'.scanner t.timer) ∨
      (t'.timer.armed = t.timer.armed ∧
        t'.scanner.currentlyPendingFilesToAddMap = t.scanner.currentlyPendingFilesToAddMap ∧
        t'.scanner.currentlyPendingFilesToAddTimerQueue = t.scanner.currentlyPendingFilesToAddTimerQueue) := by
  cases l with
  | reload fs =>
    cases h
    exact .inl ⟨fs, rfl, rfl, by simp, by simp⟩
  | getNextFilePath =>
    obtain ⟨⟨o, s'⟩, hr, rfl⟩ := Option.map_eq_some'.mp h
    obtain ⟨hm, hq⟩ := getNextFilePath_pending hr
    exact .inr (.inr (.inr ⟨rfl, hm, hq⟩))
  | directoryChange fs ec ev =>
    cases h
    rcases onDirectoryChangeEvent_cases ec ev t.scanner t.timer with ⟨h₁, h₂⟩ | ⟨hm, hq, h₂⟩
    · exact .inr (.inl ⟨fs, ev.path, by rw [h₁, h₂]⟩)
    · exact .inr (.inr (.inr ⟨by rw [h₂], hm, hq⟩))
  | tryAddNewFile fs p =>
    cases h
    exact .inr (.inl ⟨fs, p, rfl⟩)
  | recheckTimerExpired fs =>
    simp only [timedStep] at h
    split_ifs at h with ha
    obtain ⟨s', hs', rfl⟩ := Option.map_eq_some'.mp h
    exact .inr (.inr (.inl ⟨fs, ha, hs', rfl⟩))
  | recheckTimerAborted =>
    simp only [timedStep] at h
    split_ifs at h
    cases h
    exact .inr (.inr (.inr ⟨rfl, rfl, rfl⟩))

theorem Consistent.step (hc : t.Consistent) (h : timedStep cfg t l = some t') : t'.Consistent := by
  rcases step_cases h with ⟨fs, -, ha, hm, hq⟩ | ⟨fs, p, rfl⟩ | ⟨fs, -, hs, htm⟩ | ⟨ha, hm, hq⟩
  · exact ⟨hc.pending.of_eq hm hq, fun h => absurd (ha ▸ h) Bool.false_ne_true⟩
  · refine ⟨hc.pending.tryAddNewFile p, ?_⟩
    rcases tryAddNewFile_cases fs p t.scanner t.timer with ⟨h₁, h₂⟩ | ⟨h₁, -⟩
    · rw [h₁, h₂]; exact hc.queue_ne_nil
    · rw [h₁]; exact fun _ => List.append_ne_nil_of_right_ne_nil _ (List.cons_ne_nil _ _)
  · exact ⟨hc.pending.onRecheckFileSizeTimerExpired hs, by rw [htm]; exact (onRecheckFileSizeTimerExpiredTimer_armed _ _).mp⟩
  · exact ⟨hc.pending.of_eq hm hq, by rw [ha, hq]; exact hc.queue_ne_nil⟩

theorem consistent_initial (fs : FileSystem) : (initial cfg fs).Consistent :=
  ⟨ScannerState.PendingConsistent.empty.of_eq (by simp [initial]) (by simp [initial]), fun h => nomatch h⟩

theorem ArmedIff.step (hw : t.ArmedIff) (hl : l.isReload = false) (h : timedStep cfg t l = some t') : t'.ArmedIff := by
  unfold ArmedIff at hw ⊢
  rcases step_cases h with ⟨fs, rfl, -⟩ | ⟨fs, p, rfl⟩ | ⟨fs, -, hs, htm⟩ | ⟨ha, -, hq⟩
  · cases hl
  · rcases tryAddNewFile_cases fs p t.scanner t.timer with ⟨h₁, h₂⟩ | ⟨h₁, h₂⟩
    · rw [h₁, h₂]; exact hw
    · simp only [h₁, h₂, Bool.or_eq_true, decide_eq_true_eq, ne_eq, List.append_eq_nil, List.cons_ne_nil, and_false,
        not_false_eq_true, iff_true]
      by_cases hnil : t.scanner.currentlyPendingFilesToAddTimerQueue = []
      · exact .inr hnil
      · exact .inl (hw.mpr hnil)
  · rw [htm]; exact onRecheckFileSizeTimerExpiredTimer_armed _ _
  · rw [ha, hq]; exact hw

theorem Stuck.step (hs : t.Stuck) (h : timedStep cfg t l = some t') :
    t'.Stuck ∧ t.scanner.currentlyPendingFilesToAddTimerQueue <+: t'.scanner.currentlyPendingFilesToAddTimerQueue := by
  obtain ⟨ha, hne⟩ := hs
  rcases step_cases h with ⟨fs, -, ha', -, hq⟩ | ⟨fs, p, rfl⟩ | ⟨fs, ha', -⟩ | ⟨ha', -, hq⟩
  · exact ⟨⟨ha', hq ▸ hne⟩, hq ▸ List.prefix_refl _⟩
  · rcases tryAddNewFile_cases fs p t.scanner t.timer with ⟨h₁, h₂⟩ | ⟨h₁, h₂⟩
    · rw [h₁, h₂]; exact ⟨⟨ha, hne⟩, List.prefix_refl _⟩
    · refine ⟨⟨by simp [h₂, ha, hne], by simp [h₁]⟩, by rw [h₁]; exact List.prefix_append _ _⟩
  · exact absurd (ha ▸ ha') Bool.false_ne_true
  · exact ⟨⟨ha' ▸ ha, hq ▸ hne⟩, hq ▸ List.prefix_refl _⟩

end TimedScanner

open TimedScanner

variable {cfg : ScannerConfig}

/-! ### Concrete runs -/

variable (cfg) in
theorem timedReachable_of_timedRunTrace (fs : FileSystem) (ls : List TimedLabel) (p : TimedScanner → Bool)
    (h : (timedRunTrace cfg (TimedScanner.initial cfg fs) ls).map p = some true) :
    ∃ t, TimedReachable cfg t ∧ p t = true := by
  cases hr : timedRunTrace cfg (TimedScanner.initial cfg fs) ls with
  | none => simp [hr] at h
  | some t => exact ⟨t, ⟨fs, timedRun_of_timedRunTrace hr⟩, by simpa [hr] using h⟩

/-- `/r` holding the file `/r/a.txt`, of five bytes. -/
def rootWithOneFile : FileSystem where
  isDirectory p := p = ["r"]
  isRegularFile p := p = ["r", "a.txt"]
  fileSize _ := 5
  entries p := if p = ["r"] then [["r", "a.txt"]] else []
  addDirectoryThrows _ := false

/-- `/r` holding the files `/r/a.txt` and `/r/b.txt`, of five bytes each. -/
def rootWithTwoFiles : FileSystem where
  isDirectory p := p = ["r"]
  isRegularFile p := p = ["r", "a.txt"] || p = ["r", "b.txt"]
  fileSize _ := 5
  entries p := if p = ["r"] then [["r", "a.txt"], ["r", "b.txt"]] else []
  addDirectoryThrows _ := false

/-! ### The invariants -/

/-- **The pending map and the timer queue agree.**  In every state a scanner reaches from its
constructor, under any interleaving of `Reload`, `GetNextFilePath`, directory events,
`TryAddNewFile` and the timer's handler, fired or aborted: each entry of the map counts the queue
entries of its path, every queue entry's path has its map entry, and when the wait expires the
handler finds a front entry whose map entry is live (`OnRecheckFileSize_TimerExpired` is
defined). -/
theorem timedReachable_pendingConsistent {t : TimedScanner} (h : TimedReachable cfg t) :
    t.scanner.PendingConsistent ∧ (t.timer.armed = true → t.scanner.currentlyPendingFilesToAddTimerQueue ≠ []) ∧
      ∀ fs, t.timer.armed = true → (onRecheckFileSizeTimerExpired fs t.scanner).isSome := by
  obtain ⟨fs, hrun⟩ := h
  have hc := hrun.invariant (fun _ _ _ hc _ h => Consistent.step hc h) (consistent_initial fs)
  exact ⟨hc.pending, hc.queue_ne_nil, fun _ ha => onRecheckFileSizeTimerExpired_isSome hc.pending (hc.queue_ne_nil ha)⟩

/-- The file `/r/a.txt` appears in the empty `/r`: its event queues it and starts the timer, and
the handler of the expiry finds its entry. -/
theorem timedReachable_pendingConsistent_oneFile :
    ∃ t, TimedReachable watchedRoot t ∧ t.scanner.currentlyPendingFilesToAddTimerQueue = [["r", "a.txt"]] ∧
      t.timer.armed = true ∧ t.scanner.PendingConsistent ∧ (onRecheckFileSizeTimerExpired rootWithOneFile t.scanner).isSome := by
  obtain ⟨t, ht, hp⟩ := timedReachable_of_timedRunTrace watchedRoot emptyRoot
    [.directoryChange rootWithOneFile .success ⟨.added, ["r", "a.txt"]⟩]
    (fun t => decide (t.scanner.currentlyPendingFilesToAddTimerQueue = [["r", "a.txt"]] ∧ t.timer.armed = true))
    (by decide)
  obtain ⟨hq, ha⟩ := of_decide_eq_true hp
  obtain ⟨hc, -, hdef⟩ := timedReachable_pendingConsistent ht
  exact ⟨t, ht, hq, ha, hc, hdef rootWithOneFile ha⟩

theorem TimedRun.stuck {P : TimedLabel → Bool} {t t' : TimedScanner} (h : TimedRun cfg P t t') (hs : t.Stuck) :
    t'.Stuck ∧ t.scanner.currentlyPendingFilesToAddTimerQueue <+: t'.scanner.currentlyPendingFilesToAddTimerQueue := by
  induction h with
  | refl => exact ⟨hs, List.prefix_refl _⟩
  | cons l _ hst _ ih =>
    obtain ⟨hs', hpre⟩ := hs.step hst
    obtain ⟨hs'', hpre'⟩ := ih hs'
    exact ⟨hs'', hpre.trans hpre'⟩

/-! ### A `Reload` with a file pending -/

/-- **A `Reload` with a file pending stops the rechecks for good.**  The scanner of `/r` is built
on an empty `/r`.  The file `/r/a.txt` appears, and its event queues it and starts the timer.
`Reload` cancels the timer, whose handler then runs with `operation_aborted`, and keeps the queue.
The file `/r/b.txt` appears, and its event queues it behind `/r/a.txt` without starting the timer,
since the queue was not empty.  `/r/b.txt` is not listed, and along every run from there the
timer stays stopped and both entries stay queued: `/r/b.txt` is never rechecked. -/
theorem reload_strands_pending_files :
    ∃ t, TimedReachable watchedRoot t ∧
      t.scanner.currentlyPendingFilesToAddTimerQueue = [["r", "a.txt"], ["r", "b.txt"]] ∧
      ["r", "b.txt"] ∉ t.scanner.pathsOfFilesList ∧
      ∀ t', TimedRun watchedRoot (fun _ => true) t t' → t'.timer.armed = false ∧
        [["r", "a.txt"], ["r", "b.txt"]] <+: t'.scanner.currentlyPendingFilesToAddTimerQueue := by
  obtain ⟨t, ht, hp⟩ := timedReachable_of_timedRunTrace watchedRoot emptyRoot
    [.directoryChange rootWithOneFile .success ⟨.added, ["r", "a.txt"]⟩, .reload rootWithOneFile,
      .recheckTimerAborted, .directoryChange rootWithTwoFiles .success ⟨.added, ["r", "b.txt"]⟩]
    (fun t => decide (t.scanner.currentlyPendingFilesToAddTimerQueue = [["r", "a.txt"], ["r", "b.txt"]] ∧
      ["r", "b.txt"] ∉ t.scanner.pathsOfFilesList ∧ t.timer.armed = false))
    (by decide)
  obtain ⟨hq, hb, ha⟩ := of_decide_eq_true hp
  refine ⟨t, ht, hq, hb, fun t' h => ?_⟩
  obtain ⟨⟨ha', -⟩, hpre⟩ := h.stuck ⟨ha, by simp [hq]⟩
  exact ⟨ha', hq ▸ hpre⟩

/-! ### A file whose size changed after its first event

`TryAddNewFile` records a file's size at its first event only (`emplace` does not overwrite an
entry), and when the size differs at the expiry of the path's last queue entry,
`OnRecheckFileSize_TimerExpired` queues the path again with the count reset to `1` and the
recorded size kept.  A file whose size, from its first event on, differs from the size recorded
then (one still being written when its event arrived, whatever size it keeps afterwards) is
compared with that first size at every recheck and never listed. -/

section changedSize

variable {p : Path} {size : Nat} {s s' : ScannerState}

/-- The file `p` is queued with the recorded size `size`, and neither recorded as added nor
listed. -/
structure PendingWithSize (p : Path) (size : Nat) (s : ScannerState) : Prop where
  not_listed : p ∉ s.pathsOfFilesList
  not_added : s.newFilePathsAddedSet p = false
  pending : ∃ c, s.currentlyPendingFilesToAddMap p = some (size, c)

/-- The steps under which `p` keeps a size other than `size`: the consumer's calls, events on
paths that are not directories, and expiries of the recheck timer while `p` has another size. -/
def ScannerLabel.KeepsOtherSize (p : Path) (size : Nat) : ScannerLabel → Prop
  | .getNextFilePath => True
  | .directoryChange fs _ ev => fs.isDirectory ev.path = false
  | .recheckTimerExpired fs => fs.fileSize p ≠ size

instance (p : Path) (size : Nat) : DecidablePred (ScannerLabel.KeepsOtherSize p size)
  | .getNextFilePath => inferInstanceAs (Decidable True)
  | .directoryChange fs _ ev => inferInstanceAs (Decidable (fs.isDirectory ev.path = false))
  | .recheckTimerExpired fs => inferInstanceAs (Decidable (fs.fileSize p ≠ size))

theorem PendingWithSize.getNextFilePath (hI : PendingWithSize p size s) {o : Option (Path × Path)}
    (h : getNextFilePath cfg s = some (o, s')) : PendingWithSize p size s' := by
  unfold DirectoryScanner.getNextFilePath at h
  split at h
  · cases h; exact hI
  · split at h
    · cases h
    · cases h
      exact ⟨fun hp => hI.not_listed (List.mem_of_mem_eraseIdx hp), hI.not_added, hI.pending⟩

theorem PendingWithSize.tryAddNewFile (hI : PendingWithSize p size s) (fs : FileSystem) (q : Path) :
    PendingWithSize p size (tryAddNewFile fs q s) := by
  unfold DirectoryScanner.tryAddNewFile
  split_ifs
  · exact hI
  obtain ⟨c, hc⟩ := hI.pending
  refine ⟨hI.not_listed, hI.not_added, ?_⟩
  by_cases hqp : p = q
  · subst hqp
    exact ⟨c + 1, by simp [hc]⟩
  · exact ⟨c, by simp [Function.update_noteq hqp, hc]⟩

theorem PendingWithSize.onDirectoryChangeEvent (hI : PendingWithSize p size s) {fs : FileSystem}
    {ec : ErrorCode} {ev : DirMonitorEvent} (hdir : fs.isDirectory ev.path = false) :
    PendingWithSize p size (onDirectoryChangeEvent cfg fs ec ev s) := by
  rcases @onDirectoryChangeEvent_spec cfg fs ec ev s with h | h | h | ⟨hnew, -⟩
  · rw [h]; exact hI
  · rw [h]; exact hI.tryAddNewFile fs ev.path
  · rw [h]; exact ⟨hI.not_listed, hI.not_added, hI.pending⟩
  · simp [hdir] at hnew

/-- **The recheck compares with the first size.**  An expiry while `p` has another size than
the recorded one leaves `p` queued with that size, and lists any other path only. -/
theorem PendingWithSize.onRecheckFileSizeTimerExpired (hI : PendingWithSize p size s) {fs : FileSystem}
    (hsize : fs.fileSize p ≠ size) (h : onRecheckFileSizeTimerExpired fs s = some s') :
    PendingWithSize p size s' := by
  obtain ⟨c₀, hc⟩ := hI.pending
  obtain ⟨q, rest, sz, c, -, hm, -, hcases⟩ := onRecheckFileSizeTimerExpired_cases h
  -- the front path's entry keeps its recorded size, so `p` stays pending with `size`
  have hkeep : ∀ c', ∃ c'', Function.update s.currentlyPendingFilesToAddMap q (some (sz, c')) p = some (size, c'') :=
    fun c' => by
      by_cases hqp : p = q
      · subst hqp
        obtain ⟨rfl, -⟩ := Prod.mk.inj (Option.some.inj (hm.symm.trans hc))
        exact ⟨c', by simp⟩
      · exact ⟨c₀, by rw [Function.update_noteq hqp, hc]⟩
  rcases hcases with ⟨-, -, hmap, hl, ha⟩ | ⟨-, hsz, -, hmap, hla⟩ | ⟨-, -, -, hmap, hl, ha⟩
  · exact ⟨hl ▸ hI.not_listed, ha ▸ hI.not_added, by rw [hmap]; exact hkeep _⟩
  · -- the size is unchanged, so the front path is not `p`
    have hqp : p ≠ q := by
      rintro rfl
      obtain ⟨rfl, -⟩ := Prod.mk.inj (Option.some.inj (hm.symm.trans hc))
      exact hsize hsz.symm
    refine ⟨?_, ?_, c₀, by rw [hmap, Function.update_noteq hqp, hc]⟩
    · rcases hla with ⟨-, hl, -⟩ | ⟨-, hl, -⟩ <;> rw [hl] <;> simp [hI.not_listed, hqp]
    · rcases hla with ⟨-, -, ha⟩ | ⟨-, -, ha⟩ <;> rw [ha] <;> simp [hI.not_added, Function.update_noteq hqp]
  · exact ⟨hl ▸ hI.not_listed, ha ▸ hI.not_added, by rw [hmap]; exact hkeep _⟩

theorem PendingWithSize.step {l : ScannerLabel} (hI : PendingWithSize p size s) (hl : l.KeepsOtherSize p size)
    (h : step cfg s l = some s') : PendingWithSize p size s' := by
  cases l with
  | getNextFilePath =>
    obtain ⟨⟨o, t⟩, ht, rfl⟩ := Option.map_eq_some'.mp h
    exact hI.getNextFilePath ht
  | directoryChange fs ec ev => cases h; exact hI.onDirectoryChangeEvent hl
  | recheckTimerExpired fs => exact hI.onRecheckFileSizeTimerExpired hl h

/-- **A file whose size changed after its first event is never listed.**  Take a state in which
the file `p` is queued with the size `size` recorded at its first event, and neither recorded
as added nor listed.  Along any steps in which the consumer calls `GetNextFilePath`, the monitor
reports events on paths that are not directories, and the recheck timer expires while `p` has a
size other than `size`, be it the same size at every expiry, `p` stays queued with the size
`size` and is never recorded nor listed. -/
theorem changed_size_file_never_listed {ls : List ScannerLabel} (hI : PendingWithSize p size s)
    (hls : ∀ l ∈ ls, l.KeepsOtherSize p size) (h : runTrace cfg s ls = some s') :
    p ∉ s'.pathsOfFilesList ∧ s'.newFilePathsAddedSet p = false ∧
      ∃ c, s'.currentlyPendingFilesToAddMap p = some (size, c) := by
  induction ls generalizing s with
  | nil => cases h; exact ⟨hI.not_listed, hI.not_added, hI.pending⟩
  | cons l ls ih =>
    obtain ⟨t, ht, h⟩ := Option.bind_eq_some.mp h
    exact ih (hI.step (hls l (List.mem_cons_self _ _)) ht) (fun l hl => hls l (List.mem_cons_of_mem _ hl)) h

/-- `/r` holding the file `/r/a.txt`, grown to nine bytes. -/
def rootWithGrownFile : FileSystem := { rootWithOneFile with fileSize := fun _ => 9 }

/-- `/r/a.txt` is queued at five bytes, then has nine at three expiries, with a `modified` event
and a consumer call between them: the last two size checks both read nine, and it is still not
listed. -/
theorem changed_size_file_never_listed_grown :
    ∃ s s', runTrace watchedRoot (reload watchedRoot emptyRoot ScannerState.empty)
        [.directoryChange rootWithOneFile .success ⟨.added, ["r", "a.txt"]⟩] = some s ∧
      runTrace watchedRoot s [.recheckTimerExpired rootWithGrownFile,
        .directoryChange rootWithGrownFile .success ⟨.modified, ["r", "a.txt"]⟩,
        .recheckTimerExpired rootWithGrownFile, .getNextFilePath, .recheckTimerExpired rootWithGrownFile] = some s' ∧
      ["r", "a.txt"] ∉ s'.pathsOfFilesList ∧ s'.newFilePathsAddedSet ["r", "a.txt"] = false ∧
      ∃ c, s'.currentlyPendingFilesToAddMap ["r", "a.txt"] = some (5, c) := by
  obtain ⟨s, s', hs, hI, h⟩ : ∃ s s', runTrace watchedRoot (reload watchedRoot emptyRoot ScannerState.empty)
        [.directoryChange rootWithOneFile .success ⟨.added, ["r", "a.txt"]⟩] = some s ∧
      PendingWithSize ["r", "a.txt"] 5 s ∧
      runTrace watchedRoot s [.recheckTimerExpired rootWithGrownFile,
        .directoryChange rootWithGrownFile .success ⟨.modified, ["r", "a.txt"]⟩,
        .recheckTimerExpired rootWithGrownFile, .getNextFilePath, .recheckTimerExpired rootWithGrownFile] = some s' :=
    ⟨_, _, rfl, ⟨by decide, by decide, 1, by decide⟩, rfl⟩
  exact ⟨s, s', hs, h, changed_size_file_never_listed hI (by decide) h⟩

end changedSize

/-! ### A file whose size holds is listed -/

section stableSize

variable {p : Path} {s s' : ScannerState}

end stableSize

end Hdtn.DirectoryScanner
