import Hdtn.Storage.Manager

/-! # Runs of the store

The store as a transition system.  A `Label` is one call of the main thread (or one iteration of
`TopSegment`'s read-ahead loop) or one request served by a disk worker; `step` performs it, and
`Run P` chains steps whose labels the caller's protocol `P` allows.  Any interleaving of the
main thread with the workers is a run.

The session protocol comes in two strengths:
* `sessionRules`, the rules the store's interface states: `PushSegment` only after a successful
  `Push`, and `ReturnTop`, `TopSegment` and `RemoveReadBundleFromDisk` only on a session that holds
  the chain of a non-zero `PopTop`;
* `oneChainPerSession`, which adds that a session is not started again while it holds a chain:
  no `Push` on a write session whose chain is not complete, no `PopTop` on a read session that
  still holds custody.

`Reachable` is reachability from a freshly constructed store under `oneChainPerSession`;
`runTrace` runs a list of labels and checks the protocol on the way, so that a concrete run is
checked by evaluation (`reachableUnder_of_runTrace`). -/

namespace Hdtn.Storage

/-- One step of the store. -/
inductive Label where
  | push (w : Nat) (primary : Bpv6PrimaryBlock) (bundleSizeBytes : Nat)
  | pushSegment (w : Nat) (buf : List UInt8)
  | popTop (r : Nat) (availableDestLinks : List Nat)
  | returnTop (r : Nat)
  | topSegmentCacheOne (r : Nat)
  | topSegment (r : Nat)
  | removeReadBundleFromDisk (r : Nat) (forceRemove : Bool)
  | diskWorker (d : Nat)
deriving DecidableEq, Repr

/-- The write session a step works on, if any. -/
def Label.writeSession : Label → Option Nat
  | .push w .. | .pushSegment w _ => some w
  | _ => none

/-- The read session a step works on, if any. -/
def Label.readSession : Label → Option Nat
  | .popTop r _ | .returnTop r | .topSegmentCacheOne r | .topSegment r
  | .removeReadBundleFromDisk r _ => some r
  | _ => none

section step

variable (cfg : StorageConfig)

/-- Perform one step; `none` where the call is not enabled or has undefined behaviour. -/
def step (s : StoreState) : Label → Option StoreState
  | .push w primary n => (push cfg s w primary n).map (·.2)
  | .pushSegment w buf => (pushSegment cfg s w buf).map (·.2)
  | .popTop r links => (popTop s r links).map (·.2)
  | .returnTop r => returnTop s r
  | .topSegmentCacheOne r => topSegmentCacheOne cfg s r
  | .topSegment r => (topSegment cfg s r).map (·.2)
  | .removeReadBundleFromDisk r forceRemove => (removeReadBundleFromDisk cfg s r forceRemove).map (·.2)
  | .diskWorker d => diskWorker cfg s d

/-- A write session is open while its last `Push` succeeded and its chain is not complete. -/
def SessionWriteToDisk.isOpen (ws : SessionWriteToDisk) : Bool :=
  ws.pushSucceeded && decide (ws.nextLogicalSegment < ws.chainInfo.2.length)

/-- The session rules of the store's interface. -/
def sessionRules (s : StoreState) : Label → Bool
  | .pushSegment w _ => s.writeSessions[w]?.any (·.pushSucceeded)
  | .returnTop r | .topSegmentCacheOne r | .topSegment r | .removeReadBundleFromDisk r _ =>
    s.readSessions[r]?.any (·.holdsCustody)
  | _ => true

/-- `sessionRules`, and no session is started again while it holds a chain. -/
def oneChainPerSession (s : StoreState) (l : Label) : Bool :=
  sessionRules s l && match l with
    | .push w .. => !s.writeSessions[w]?.any (·.isOpen)
    | .popTop r _ => !s.readSessions[r]?.any (·.holdsCustody)
    | _ => true

/-- The runs whose every step the protocol `P` allows. -/
inductive Run (P : StoreState → Label → Bool) : StoreState → StoreState → Prop
  | refl (s : StoreState) : Run P s s
  | cons {s s' s'' : StoreState} (l : Label) :
      P s l = true → step cfg s l = some s' → Run P s' s'' → Run P s s''

variable {cfg}

theorem Run.trans {P : StoreState → Label → Bool} {s s' s'' : StoreState}
    (h : Run cfg P s s') (h' : Run cfg P s' s'') : Run cfg P s s'' := by
  induction h with
  | refl => exact h'
  | cons l hp hs _ ih => exact .cons l hp hs (ih h')

theorem Run.mono {P Q : StoreState → Label → Bool} (hPQ : ∀ s l, P s l = true → Q s l = true)
    {s s' : StoreState} (h : Run cfg P s s') : Run cfg Q s s' := by
  induction h with
  | refl => exact .refl _
  | cons l hp hs _ ih => exact .cons l (hPQ _ _ hp) hs ih

theorem Run.invariant {P : StoreState → Label → Bool} {I : StoreState → Prop}
    (hstep : ∀ s s' l, I s → P s l = true → step cfg s l = some s' → I s')
    {s s' : StoreState} (h : Run cfg P s s') (hs : I s) : I s' := by
  induction h with
  | refl => exact hs
  | cons l hp hst _ ih => exact ih (hstep _ _ l hs hp hst)

end step

/-! ### Fresh stores and concrete runs -/

/-- A store as its constructor leaves it without restore: nothing allocated, an empty catalog,
empty store files and rings, and sessions that hold nothing. -/
structure StoreState.Initial (s : StoreState) : Prop where
  allocated_eq : s.memoryManager.allocated = ∅
  destMap_eq : s.destMap.entries = []
  writeSessions_fresh : ∀ ws ∈ s.writeSessions, ws.pushSucceeded = false
  readSessions_fresh : ∀ rs ∈ s.readSessions, rs.holdsCustody = false
  file_nil : ∀ d, (s.disks d).file = []
  ring_nil : ∀ d, (s.disks d).ring = []
  idle : s.topSegmentIn = none

section reachable

variable (cfg : StorageConfig)

/-- The states some run of a fresh store reaches under the protocol `P`. -/
def ReachableUnder (P : StoreState → Label → Bool) (s : StoreState) : Prop :=
  ∃ s₀, s₀.Initial ∧ Run cfg P s₀ s

/-- The states some run of a fresh store reaches under `oneChainPerSession`. -/
def Reachable (s : StoreState) : Prop := ReachableUnder cfg oneChainPerSession s

/-- Run a list of labels, checking each against the protocol `P`. -/
def runTrace (P : StoreState → Label → Bool) (s : StoreState) : List Label → Option StoreState
  | [] => some s
  | l :: ls => if P s l then (step cfg s l).bind (runTrace P · ls) else none

variable {cfg}

theorem run_of_runTrace {P : StoreState → Label → Bool} :
    ∀ {s s' : StoreState} {ls : List Label}, runTrace cfg P s ls = some s' → Run cfg P s s'
  | s, s', [], h => by cases h; exact .refl s
  | s, s', l :: ls, h => by
    simp only [runTrace] at h
    split_ifs at h with hp
    cases hs : step cfg s l with
    | none => simp [hs] at h
    | some t => exact .cons l hp hs (run_of_runTrace (by simpa [hs] using h))

variable (cfg) in
theorem reachableUnder_of_runTrace (P : StoreState → Label → Bool) {s₀ : StoreState}
    (h₀ : s₀.Initial) (ls : List Label) (p : StoreState → Bool)
    (h : (runTrace cfg P s₀ ls).map p = some true) :
    ∃ s, ReachableUnder cfg P s ∧ p s = true := by
  cases hr : runTrace cfg P s₀ ls with
  | none => simp [hr] at h
  | some s => exact ⟨s, ⟨s₀, h₀, run_of_runTrace hr⟩, by simpa [hr] using h⟩

/-- A session as its constructor leaves it: no chain. -/
def SessionWriteToDisk.fresh : SessionWriteToDisk := ⟨(0, []), 0, 0, 0, 0, false⟩

/-- A read session as its constructor leaves it: no chain, and a cache whose contents (left
uninitialized by the C++) are zeros here. -/
def SessionReadFromDisk.fresh (perSegmentSize : Nat) : SessionReadFromDisk :=
  ⟨(0, []), 0, 0, 0, 0, fun _ => Segment.zero perSegmentSize, fun _ => false, none, 0, 0, 0, false⟩

/-- A freshly constructed store with `nw` write and `nr` read sessions, empty store files, and
ring data areas (left uninitialized by `malloc`) of zeros. -/
def freshStore (cfg : StorageConfig) (nw nr : Nat) : StoreState where
  memoryManager := MemoryManager.empty
  destMap := StdMap.empty
  writeSessions := List.replicate nw SessionWriteToDisk.fresh
  readSessions := List.replicate nr (SessionReadFromDisk.fresh cfg.perSegmentSize)
  disks := fun _ => ⟨[], [], fun _ => Segment.zero cfg.perSegmentSize, 0⟩
  topSegmentIn := none

theorem freshStore_initial (cfg : StorageConfig) (nw nr : Nat) : (freshStore cfg nw nr).Initial where
  allocated_eq := rfl
  destMap_eq := rfl
  writeSessions_fresh ws h := by rw [List.eq_of_mem_replicate h]; rfl
  readSessions_fresh rs h := by rw [List.eq_of_mem_replicate h]; rfl
  file_nil _ := rfl
  ring_nil _ := rfl
  idle := rfl

/-- A small store for concrete runs: two disks, eight segments of four payload bytes, two
read-ahead slots, rings of four slots. -/
def smallConfig : StorageConfig where
  numStorageDisks := 2
  maxSegments := 8
  perSegmentSize := 4
  readCacheNumSegments := 2
  circularIndexBufferSize := 4
  numStorageDisks_pos := by decide
  perSegmentSize_pos := by decide
  readCacheNumSegments_pos := by decide
  circularIndexBufferSize_pos := by decide
  maxSegments_lt := by decide
  capacity_lt := by decide

end reachable

end Hdtn.Storage
