import Hdtn.Bpsec.Receive

/-! # Removing failed security operations

`DoFailureEvent` handles the processor's errors for one security block in the order the
processor lists them, greatest target index first, and removes failed security operations in
place with `RemoveSopByGreatestToLeastIndex`.  This module says what the loop does:

* **One error** is handled as a table says (`failureAction`): whether the security operation
  goes, whether its target block is marked for deletion, and whether the bundle is kept, from
  the role, the service, the event set's action mask and whether the target is the payload
  (`doFailureEventForError_eq`).
* **The loop** over errors with strictly decreasing indices never reads a target out of range
  nor fails a removal, and leaves the security block with its original (target, result) pairs
  minus those at the positions of the handled errors that remove their operation
  (`doFailureEventErrors_spec`, `doFailureEvent_removes_greatest_to_least`).  A removal of a
  higher position never moves a lower one (`keptFrom_eraseIdx`).
* **A kept bundle** may still hold a security operation whose target block was marked for
  deletion: a verifier whose action is only `REMOVE_SECURITY_OPERATION_TARGET_BLOCK`, and the
  missing-policy path with that action, mark the target and keep the operation
  (`kept_bundle_keeps_removed_target`).
* **The payload block** is never marked: whatever the errors, `DoFailureEvent` leaves every
  view of block number `1` but the security block's as it was, and so does the missing-policy
  path (`failureEvents_keep_payload`).
* **Every BCB at the final destination.**  `DoFailureEvent` changes no BCB but the one it
  handles, so with a processor that keeps the other BCBs, the BCB loop meets each BCB as the
  bundle held it on entry.  When `ProcessReceivedBundle` returns true at the final destination,
  each BCB was handed to the processor as acceptor, or went through the missing-policy path, or
  met an acceptor policy without confidentiality and left no event
  (`processReceivedBundle_bcb_accounted`). -/

namespace Hdtn.Bpsec

/-! ### Positions kept -/

section kept

variable {α : Type} (removed : List Nat)

/-- The members of a list whose positions, counted from `k`, are not in `removed`. -/
def keptFrom : List α → Nat → List α
  | [], _ => []
  | a :: l, k => if k ∈ removed then keptFrom l (k + 1) else a :: keptFrom l (k + 1)

/-- The members of a list at the positions not in `removed`, in order. -/
def keptPositions (l : List α) : List α := keptFrom removed l 0

variable {removed}

@[simp] theorem keptFrom_nil_removed (l : List α) (k : Nat) : keptFrom [] l k = l := by
  induction l generalizing k <;> simp [keptFrom, *]

theorem length_keptFrom {β : Type} {l : List α} {l' : List β} (h : l.length = l'.length) (k : Nat) :
    (keptFrom removed l k).length = (keptFrom removed l' k).length := by
  induction l generalizing l' k with
  | nil => cases l' <;> simp_all [keptFrom]
  | cons a l ih =>
    cases l' with
    | nil => simp at h
    | cons b l' => by_cases hk : k ∈ removed <;> simp [keptFrom, hk, ih (Nat.succ.inj h)]

theorem getElem?_keptFrom {l : List α} {k i : Nat} (h : ∀ j ∈ removed, k + i < j) :
    (keptFrom removed l k)[i]? = l[i]? := by
  induction l generalizing k i with
  | nil => rfl
  | cons a l ih =>
    have hk : k ∉ removed := fun hk => by have := h k hk; omega
    cases i with
    | zero => simp [keptFrom, hk]
    | succ i =>
      simp only [keptFrom, hk, if_false, List.getElem?_cons_succ]
      exact ih fun j hj => by have := h j hj; omega

theorem keptFrom_append_of_lt {l : List α} {j k : Nat} (h : j < k) :
    keptFrom (removed ++ [j]) l k = keptFrom removed l k := by
  induction l generalizing k with
  | nil => rfl
  | cons a l ih =>
    have hk : k ∈ removed ++ [j] ↔ k ∈ removed := by simp [Nat.ne_of_gt h]
    simp only [keptFrom, hk, ih (Nat.lt_succ_of_lt h)]

/-- **Greatest to least.**  Removing the member at a position below every removed one is
removing that position from the original list. -/
theorem keptFrom_eraseIdx {l : List α} {k i : Nat} (h : ∀ j ∈ removed, k + i < j) :
    (keptFrom removed l k).eraseIdx i = keptFrom (removed ++ [k + i]) l k := by
  induction l generalizing k i with
  | nil => rfl
  | cons a l ih =>
    have hk : k ∉ removed := fun hk => by have := h k hk; omega
    cases i with
    | zero => simp [keptFrom, hk, keptFrom_append_of_lt (Nat.lt_succ_self k)]
    | succ i =>
      have hk' : k ∉ removed ++ [k + (i + 1)] := by simp [hk]
      have ih' := ih (k := k + 1) (i := i) (fun j hj => by have := h j hj; omega)
      rw [show k + 1 + i = k + (i + 1) by omega] at ih'
      simp only [keptFrom, hk, hk', if_false, List.eraseIdx_cons_succ, ih']

theorem keptFrom_eq_nil_of_subset {removed' : List Nat} {l : List α} {k : Nat} (h : keptFrom removed l k = [])
    (hsub : ∀ j ∈ removed, j ∈ removed') : keptFrom removed' l k = [] := by
  induction l generalizing k with
  | nil => rfl
  | cons a l ih =>
    by_cases hk : k ∈ removed
    · simp only [keptFrom, hk, if_true] at h
      simp [keptFrom, hsub k hk, ih h]
    · simp [keptFrom, hk] at h

theorem keptPositions_append_eq_nil {removed r₁ r₂ : List Nat} {l : List α} :
    (r₁ ≠ [] ∧ keptPositions (removed ++ r₁) l = []) ∨ (r₂ ≠ [] ∧ keptPositions (removed ++ r₁ ++ r₂) l = []) ↔
      r₁ ++ r₂ ≠ [] ∧ keptPositions (removed ++ (r₁ ++ r₂)) l = [] := by
  rw [← List.append_assoc]
  constructor
  · rintro (⟨h₁, h⟩ | ⟨h₂, h⟩)
    · exact ⟨by simp [h₁], keptFrom_eq_nil_of_subset h fun j hj => List.mem_append_left _ hj⟩
    · exact ⟨by simp [h₂], h⟩
  · rintro ⟨hne, h⟩
    by_cases h₂ : r₂ = []
    · subst h₂
      simp only [List.append_nil] at hne h
      exact .inl ⟨hne, h⟩
    · exact .inr ⟨h₂, h⟩

end kept

/-- A security block without the (target, result) pairs at the positions `removed`. -/
def AbstractSecurityBlock.withoutPositions (asb : AbstractSecurityBlock) (removed : List Nat) :
    AbstractSecurityBlock :=
  { asb with securityTargets := keptPositions removed asb.securityTargets,
             securityResults := keptPositions removed asb.securityResults }

@[simp] theorem AbstractSecurityBlock.withoutPositions_nil (asb : AbstractSecurityBlock) :
    asb.withoutPositions [] = asb := by
  simp [withoutPositions, keptPositions]

/-! ### Marking blocks for deletion -/

@[simp] theorem length_markForDeletion (blocks : List CanonicalBlockView) (blockNumber : Nat) :
    (markForDeletion blocks blockNumber).length = blocks.length := by
  induction blocks with
  | nil => rfl
  | cons view views ih => unfold markForDeletion; split_ifs <;> simp [ih]

theorem getElem?_markForDeletion_of_ne {blocks : List CanonicalBlockView} {blockNumber j : Nat}
    {view : CanonicalBlockView} (hv : blocks[j]? = some view) (hne : view.blockNumber ≠ blockNumber) :
    (markForDeletion blocks blockNumber)[j]? = some view := by
  induction blocks generalizing j with
  | nil => simp at hv
  | cons v views ih =>
    unfold markForDeletion
    cases j with
    | zero =>
      simp only [List.getElem?_cons_zero, Option.some.injEq] at hv
      subst hv
      simp [hne]
    | succ j =>
      rw [List.getElem?_cons_succ] at hv
      split_ifs
      · simpa using hv
      · simpa using ih hv

/-! ### One error -/

/-- What `DoFailureEvent` does for one error: whether it removes the error's security operation
(`RemoveSopByGreatestToLeastIndex`), whether it marks the target block for deletion
(`RemoveSopTargetBlock`), and whether it keeps the bundle. -/
structure FailureAction where
  removesSop : Bool
  removesTarget : Bool
  keepsBundle : Bool
deriving DecidableEq, Repr

/-- The optional actions of a mask: `FAIL_BUNDLE_FORWARDING` drops the bundle, and
`REMOVE_SECURITY_OPERATION_TARGET_BLOCK` marks the target block, or drops the bundle when the
target is the payload. -/
def maskAction (removesSop : Bool) (actionMask : ActionMask) (errorTargetsPayloadBlock : Bool) : FailureAction :=
  ⟨removesSop,
    !actionMask.failBundleForwarding && actionMask.removeSecurityOperationTargetBlock && !errorTargetsPayloadBlock,
    !actionMask.failBundleForwarding && !(actionMask.removeSecurityOperationTargetBlock && errorTargetsPayloadBlock)⟩

/-- The action `DoFailureEvent` takes on an error.  An event the event set does not list drops
the bundle.  An acceptor removes the operation of a listed event; for a BCB it drops the bundle
when the target is the payload, and otherwise removes the operation and the target block before
it looks the event up.  A verifier removes the operation only for `REMOVE_SECURITY_OPERATION`. -/
def failureAction (evtLut : FailureEventSet) (isAcceptor isIntegrity : Bool) (errorCode : BpSecErrorCode)
    (errorTargetsPayloadBlock : Bool) : FailureAction :=
  if isAcceptor then
    if !isIntegrity then
      if errorTargetsPayloadBlock then ⟨false, false, false⟩
      else match evtLut (acceptorFailureEvent errorCode) with
        | none => ⟨true, true, false⟩
        | some actionMask => { maskAction true actionMask false with removesTarget := true }
    else match evtLut (acceptorFailureEvent errorCode) with
      | none => ⟨false, false, false⟩
      | some actionMask => maskAction true actionMask errorTargetsPayloadBlock
  else match evtLut (verifierFailureEvent errorCode) with
    | none => ⟨false, false, false⟩
    | some actionMask => maskAction actionMask.removeSecurityOperation actionMask errorTargetsPayloadBlock

theorem failureAction_removesTarget {evtLut : FailureEventSet} {isAcceptor isIntegrity : Bool}
    {errorCode : BpSecErrorCode} {errorTargetsPayloadBlock : Bool}
    (h : (failureAction evtLut isAcceptor isIntegrity errorCode errorTargetsPayloadBlock).removesTarget = true) :
    errorTargetsPayloadBlock = false := by
  unfold failureAction maskAction at h
  cases isAcceptor <;> cases isIntegrity <;> cases errorTargetsPayloadBlock <;> simp_all <;> split at h <;> simp_all

theorem removeSopAt_eq_some {blocks : List CanonicalBlockView} {idx i : Nat} {view : CanonicalBlockView}
    {asb : AbstractSecurityBlock} (hv : blocks[idx]? = some view) (ha : view.asb = some asb)
    (hlen : asb.securityTargets.length = asb.securityResults.length)
    (hi : i = uint64Max ∨ i < asb.securityTargets.length) :
    ∃ view', removeSopByGreatestToLeastIndex view asb i = some view' ∧ view'.asb.isSome ∧
      removeSopAt blocks idx i = some (blocks.set idx view') := by
  have hrm : ∃ view', removeSopByGreatestToLeastIndex view asb i = some view' ∧ view'.asb.isSome := by
    unfold removeSopByGreatestToLeastIndex
    by_cases hmax : i = uint64Max
    · simp [hmax, ha]
    · have hlt := hi.resolve_left hmax
      simp [hmax, hlen, show ¬ asb.securityResults.length ≤ i by omega]
  obtain ⟨view', hrv, hsome⟩ := hrm
  exact ⟨view', hrv, hsome, by simp [removeSopAt, hv, ha, hrv]⟩

/-- **One error.**  For an error whose index is `UINT64_MAX` or a position of the targets of a
security block with whole pairs, `DoFailureEvent`'s body removes the operation, marks the
target block and keeps the bundle as `failureAction` says, and its removal succeeds. -/
theorem doFailureEventForError_eq (evtLut : FailureEventSet) (isAcceptor isIntegrity : Bool) {idx : Nat}
    {blocks : List CanonicalBlockView} {e : BpSecError} {view : CanonicalBlockView}
    {asb : AbstractSecurityBlock} {canonicalIndex : Nat} (hv : blocks[idx]? = some view)
    (ha : view.asb = some asb) (hlen : asb.securityTargets.length = asb.securityResults.length)
    (hc : (if e.securityTargetIndex = uint64Max then some uint64Max
      else asb.securityTargets[e.securityTargetIndex]?) = some canonicalIndex) :
    let act := failureAction evtLut isAcceptor isIntegrity e.errorCode
      (decide (canonicalIndex = 1 ∨ canonicalIndex = uint64Max))
    ∃ blocks₁, (if act.removesSop then removeSopAt blocks idx e.securityTargetIndex = some blocks₁
        else blocks₁ = blocks) ∧
      doFailureEventForError evtLut idx isAcceptor isIntegrity blocks e =
        some (act.keepsBundle, if act.removesTarget then markForDeletion blocks₁ canonicalIndex else blocks₁) := by
  have hi : e.securityTargetIndex = uint64Max ∨ e.securityTargetIndex < asb.securityTargets.length := by
    split_ifs at hc with hmax
    exacts [.inl hmax, .inr (List.getElem?_eq_some_iff.mp hc).1]
  obtain ⟨view', hrv, hsome, hrm⟩ := removeSopAt_eq_some hv ha hlen hi
  obtain ⟨asb', ha'⟩ := Option.isSome_iff_exists.mp hsome
  have hlt : idx < blocks.length := (List.getElem?_eq_some_iff.mp hv).1
  have hasb' : asbAt (blocks.set idx view') idx = some asb' := by
    simp [asbAt, List.getElem?_set_self hlt, ha']
  have hasb : asbAt blocks idx = some asb := by simp [asbAt, hv, ha]
  intro act
  refine ⟨if act.removesSop then blocks.set idx view' else blocks, by split_ifs <;> simp [hrm], ?_⟩
  -- every target, the payload, or another block: only the last is ever marked
  have hcases : ((e.securityTargetIndex = uint64Max) = True ∧ canonicalIndex = uint64Max ∧
        (canonicalIndex = 1 ∨ canonicalIndex = uint64Max)) ∨
      (e.securityTargetIndex ≠ uint64Max ∧ asb.securityTargets[e.securityTargetIndex]? = some canonicalIndex ∧
        (canonicalIndex = 1 ∨ canonicalIndex = uint64Max)) ∨
      (e.securityTargetIndex ≠ uint64Max ∧ asb.securityTargets[e.securityTargetIndex]? = some canonicalIndex ∧
        ¬(canonicalIndex = 1 ∨ canonicalIndex = uint64Max)) := by
    split_ifs at hc with hmax
    · exact .inl ⟨eq_true hmax, (Option.some.inj hc).symm, .inr (Option.some.inj hc).symm⟩
    · by_cases hp : canonicalIndex = 1 ∨ canonicalIndex = uint64Max
      exacts [.inr (.inl ⟨hmax, hc, hp⟩), .inr (.inr ⟨hmax, hc, hp⟩)]
  have hmark : ¬(canonicalIndex = 1 ∨ canonicalIndex = uint64Max) →
      ∀ bs asb, removeSopTargetBlock bs asb canonicalIndex = markForDeletion bs canonicalIndex :=
    fun hp _ _ => if_neg fun h => hp (.inr h)
  unfold doFailureEventForError
  rw [hasb]
  dsimp only [Option.bind_eq_bind, Option.some_bind]
  cases isAcceptor
  · rcases hl : evtLut (verifierFailureEvent e.errorCode) with _ | ⟨rs, rt, fb⟩
    · rcases hcases with ⟨hmax, hc, -⟩ | ⟨hmax, hc, -⟩ | ⟨hmax, hc, -⟩ <;>
        simp [act, failureAction, hl, hmax, hc]
    · cases rs <;> cases fb <;> cases rt <;>
        rcases hcases with ⟨hmax, hc, hp⟩ | ⟨hmax, hc, hp⟩ | ⟨hmax, hc, hp⟩ <;>
        simp [act, failureAction, maskAction, hl, hrm, hasb, hasb', hmax, hc, hp, hmark]
  · rcases hl : evtLut (acceptorFailureEvent e.errorCode) with _ | ⟨rs, rt, fb⟩ <;> cases isIntegrity
    all_goals try cases fb <;> cases rt
    all_goals rcases hcases with ⟨hmax, hc, hp⟩ | ⟨hmax, hc, hp⟩ | ⟨hmax, hc, hp⟩ <;>
      simp [act, failureAction, maskAction, hl, hrm, hasb, hasb', hmax, hc, hp, hmark]

/-! ### The security block along the loop -/

section loop

variable (evtLut : FailureEventSet) (isAcceptor isIntegrity : Bool) (asb : AbstractSecurityBlock)

/-- The block number an error of `asb` is about: `UINT64_MAX` for every target. -/
def errorCanonicalIndex (e : BpSecError) : Nat :=
  if e.securityTargetIndex = uint64Max then uint64Max else asb.securityTargets.getD e.securityTargetIndex 0

/-- The action `DoFailureEvent` takes on an error of `asb`. -/
def errorAction (e : BpSecError) : FailureAction :=
  let canonicalIndex := errorCanonicalIndex asb e
  failureAction evtLut isAcceptor isIntegrity e.errorCode (decide (canonicalIndex = 1 ∨ canonicalIndex = uint64Max))

/-- The errors `DoFailureEvent` handles: each, up to the first whose action drops the bundle. -/
def handledErrors : List BpSecError → List BpSecError
  | [] => []
  | e :: es => if (errorAction evtLut isAcceptor isIntegrity asb e).keepsBundle then e :: handledErrors es else [e]

/-- The positions whose security operations the handled errors remove. -/
def removedPositions (errors : List BpSecError) : List Nat :=
  ((handledErrors evtLut isAcceptor isIntegrity asb errors).filter fun e =>
    (errorAction evtLut isAcceptor isIntegrity asb e).removesSop && e.securityTargetIndex != uint64Max).map
    (·.securityTargetIndex)

/-- Whether a handled error of index `UINT64_MAX` removed the operations, marking the whole
security block for deletion. -/
def RemovedAll (errors : List BpSecError) : Prop :=
  ∃ e ∈ handledErrors evtLut isAcceptor isIntegrity asb errors, e.securityTargetIndex = uint64Max ∧
    (errorAction evtLut isAcceptor isIntegrity asb e).removesSop = true

variable {evtLut isAcceptor isIntegrity asb}

@[simp] theorem handledErrors_singleton (e : BpSecError) :
    handledErrors evtLut isAcceptor isIntegrity asb [e] = [e] := by
  simp only [handledErrors]
  split_ifs <;> rfl

theorem removedPositions_singleton (e : BpSecError) :
    removedPositions evtLut isAcceptor isIntegrity asb [e] =
      if (errorAction evtLut isAcceptor isIntegrity asb e).removesSop && e.securityTargetIndex != uint64Max then
        [e.securityTargetIndex] else [] := by
  unfold removedPositions
  rw [handledErrors_singleton, List.filter_singleton]
  cases (errorAction evtLut isAcceptor isIntegrity asb e).removesSop && e.securityTargetIndex != uint64Max <;> rfl

theorem removedAll_singleton (e : BpSecError) :
    RemovedAll evtLut isAcceptor isIntegrity asb [e] ↔
      e.securityTargetIndex = uint64Max ∧ (errorAction evtLut isAcceptor isIntegrity asb e).removesSop = true := by
  simp [RemovedAll]

theorem removedPositions_cons (e : BpSecError) (es : List BpSecError) :
    removedPositions evtLut isAcceptor isIntegrity asb (e :: es) =
      removedPositions evtLut isAcceptor isIntegrity asb [e] ++
        if (errorAction evtLut isAcceptor isIntegrity asb e).keepsBundle then
          removedPositions evtLut isAcceptor isIntegrity asb es else [] := by
  unfold removedPositions
  rw [handledErrors_singleton, handledErrors]
  split_ifs
  · rw [← List.map_append, ← List.filter_append]
    rfl
  · rw [List.append_nil]

theorem removedAll_cons (e : BpSecError) (es : List BpSecError) :
    RemovedAll evtLut isAcceptor isIntegrity asb (e :: es) ↔
      RemovedAll evtLut isAcceptor isIntegrity asb [e] ∨
        (errorAction evtLut isAcceptor isIntegrity asb e).keepsBundle = true ∧
          RemovedAll evtLut isAcceptor isIntegrity asb es := by
  unfold RemovedAll
  by_cases hk : (errorAction evtLut isAcceptor isIntegrity asb e).keepsBundle <;> simp [handledErrors, hk]

theorem length_withoutPositions_eq (hlen : asb.securityTargets.length = asb.securityResults.length)
    (removed : List Nat) :
    (asb.withoutPositions removed).securityTargets.length = (asb.withoutPositions removed).securityResults.length :=
  length_keptFrom hlen 0

theorem removeSopByGreatestToLeastIndex_withoutPositions {view view₁ : CanonicalBlockView} {removed : List Nat}
    {i : Nat} (hi : i ≠ uint64Max)
    (h : removeSopByGreatestToLeastIndex view (asb.withoutPositions removed) i = some view₁)
    (hR : ∀ j ∈ removed, i < j) :
    view₁.blockNumber = view.blockNumber ∧ view₁.asb = some (asb.withoutPositions (removed ++ [i])) ∧
      view₁.markedForDeletion =
        (view.markedForDeletion || (keptPositions (removed ++ [i]) asb.securityTargets).isEmpty) := by
  unfold removeSopByGreatestToLeastIndex at h
  simp only [hi, if_false] at h
  split_ifs at h with hne hle
  cases h
  have hR' : ∀ j ∈ removed, 0 + i < j := fun j hj => by simpa using hR j hj
  simp [AbstractSecurityBlock.withoutPositions, keptPositions, keptFrom_eraseIdx hR']

theorem errorCanonicalIndex_mem {e : BpSecError}
    (hi : e.securityTargetIndex ≠ uint64Max → e.securityTargetIndex < asb.securityTargets.length)
    (h : (errorAction evtLut isAcceptor isIntegrity asb e).removesTarget = true) :
    errorCanonicalIndex asb e ∈ asb.securityTargets := by
  have hpay := failureAction_removesTarget h
  simp only [decide_eq_false_iff_not, not_or] at hpay
  unfold errorCanonicalIndex at hpay ⊢
  split_ifs at hpay ⊢ with hmax
  · exact absurd rfl hpay.2
  · simp [List.getElem?_eq_getElem (hi hmax)]

/-- **One error on the security block.**  The body leaves the security block at `idx` without
the error's position when its action removes the operation, and marks it for deletion exactly
when that removal empties it, or the error is `UINT64_MAX` and its action removes the
operations. -/
theorem doFailureEventForError_view {idx : Nat} {removed : List Nat} {blocks : List CanonicalBlockView}
    {view : CanonicalBlockView} {e : BpSecError}
    (hlen : asb.securityTargets.length = asb.securityResults.length)
    (hv : blocks[idx]? = some view) (ha : view.asb = some (asb.withoutPositions removed))
    (hself : view.blockNumber ∉ asb.securityTargets)
    (hi : e.securityTargetIndex = uint64Max ∨
      e.securityTargetIndex < asb.securityTargets.length ∧ ∀ j ∈ removed, e.securityTargetIndex < j) :
    ∃ blocks' view', doFailureEventForError evtLut idx isAcceptor isIntegrity blocks e =
        some ((errorAction evtLut isAcceptor isIntegrity asb e).keepsBundle, blocks') ∧
      blocks'[idx]? = some view' ∧ view'.blockNumber = view.blockNumber ∧
      view'.asb = some (asb.withoutPositions (removed ++ removedPositions evtLut isAcceptor isIntegrity asb [e])) ∧
      (view'.markedForDeletion = true ↔ view.markedForDeletion = true ∨
        removedPositions evtLut isAcceptor isIntegrity asb [e] ≠ [] ∧
          keptPositions (removed ++ removedPositions evtLut isAcceptor isIntegrity asb [e]) asb.securityTargets = [] ∨
        RemovedAll evtLut isAcceptor isIntegrity asb [e]) := by
  have hc : (if e.securityTargetIndex = uint64Max then some uint64Max
      else (asb.withoutPositions removed).securityTargets[e.securityTargetIndex]?) =
        some (errorCanonicalIndex asb e) := by
    unfold errorCanonicalIndex
    split_ifs with hmax
    · rfl
    · have hlt := hi.resolve_left hmax
      rw [AbstractSecurityBlock.withoutPositions, keptPositions,
        getElem?_keptFrom (fun j hj => by simpa using hlt.2 j hj)]
      simp [List.getElem?_eq_getElem hlt.1]
  obtain ⟨blocks₁, hrm, heq⟩ :=
    doFailureEventForError_eq evtLut isAcceptor isIntegrity hv ha (length_withoutPositions_eq hlen removed) hc
  rw [show failureAction evtLut isAcceptor isIntegrity e.errorCode
      (decide (errorCanonicalIndex asb e = 1 ∨ errorCanonicalIndex asb e = uint64Max)) =
    errorAction evtLut isAcceptor isIntegrity asb e from rfl] at hrm heq
  have hmark : ∀ {blocks₂ : List CanonicalBlockView} {view₂ : CanonicalBlockView},
      blocks₂[idx]? = some view₂ →
      view₂.blockNumber = view.blockNumber →
      (if (errorAction evtLut isAcceptor isIntegrity asb e).removesTarget then
        markForDeletion blocks₂ (errorCanonicalIndex asb e) else blocks₂)[idx]? = some view₂ := by
    intro blocks₂ view₂ hv₂ hn₂
    split_ifs with ht
    · exact getElem?_markForDeletion_of_ne hv₂ fun h =>
        hself (hn₂ ▸ h ▸ errorCanonicalIndex_mem (fun hmax => (hi.resolve_left hmax).1) ht)
    · exact hv₂
  cases hrs : (errorAction evtLut isAcceptor isIntegrity asb e).removesSop
  · simp only [hrs, Bool.false_eq_true, if_false] at hrm
    subst hrm
    exact ⟨_, view, heq, hmark hv rfl, rfl, by simp [removedPositions_singleton, hrs, ha],
      by simp [removedPositions_singleton, removedAll_singleton, hrs]⟩
  · simp only [hrs, if_true, removeSopAt, hv, ha] at hrm
    obtain ⟨view₁, hrv, rfl⟩ := Option.map_eq_some'.mp hrm
    have hv₁ : (blocks.set idx view₁)[idx]? = some view₁ :=
      List.getElem?_set_self (List.getElem?_eq_some_iff.mp hv).1
    by_cases hmax : e.securityTargetIndex = uint64Max
    · simp only [removeSopByGreatestToLeastIndex, hmax, if_true, Option.some.injEq] at hrv
      subst hrv
      exact ⟨_, _, heq, hmark hv₁ rfl, rfl, by simp [removedPositions_singleton, hmax, ha],
        by simp [removedPositions_singleton, removedAll_singleton, hmax, hrs]⟩
    · obtain ⟨hn₁, ha₁, hm₁⟩ :=
        removeSopByGreatestToLeastIndex_withoutPositions hmax hrv (hi.resolve_left hmax).2
      exact ⟨_, _, heq, hmark hv₁ hn₁, hn₁, by simp [removedPositions_singleton, hrs, hmax, ha₁],
        by simp [removedPositions_singleton, removedAll_singleton, hrs, hmax, hm₁]⟩

/-- **The loop.**  Over errors with strictly decreasing indices, each `UINT64_MAX` or a position
of the targets below every position removed so far, `DoFailureEvent`'s loop keeps the bundle
exactly when every error's action keeps it, and leaves the security block without the
positions its handled errors remove.  It marks the block for deletion exactly when a removal
empties it or a handled `UINT64_MAX` error removes the operations. -/
theorem doFailureEventErrors_spec {idx : Nat} (hlen : asb.securityTargets.length = asb.securityResults.length) :
    ∀ {errors : List BpSecError} {removed : List Nat} {blocks : List CanonicalBlockView} {view : CanonicalBlockView},
      blocks[idx]? = some view → view.asb = some (asb.withoutPositions removed) →
      view.blockNumber ∉ asb.securityTargets →
      errors.Pairwise (fun e e' => e'.securityTargetIndex < e.securityTargetIndex) →
      (∀ e ∈ errors, e.securityTargetIndex = uint64Max ∨
        e.securityTargetIndex < asb.securityTargets.length ∧ ∀ j ∈ removed, e.securityTargetIndex < j) →
      ∃ blocks' view', doFailureEventErrors evtLut idx isAcceptor isIntegrity errors blocks =
          some (errors.all fun e => (errorAction evtLut isAcceptor isIntegrity asb e).keepsBundle, blocks') ∧
        blocks'[idx]? = some view' ∧ view'.blockNumber = view.blockNumber ∧
        view'.asb = some (asb.withoutPositions (removed ++ removedPositions evtLut isAcceptor isIntegrity asb errors)) ∧
        (view'.markedForDeletion = true ↔ view.markedForDeletion = true ∨
          removedPositions evtLut isAcceptor isIntegrity asb errors ≠ [] ∧
            keptPositions (removed ++ removedPositions evtLut isAcceptor isIntegrity asb errors)
              asb.securityTargets = [] ∨
          RemovedAll evtLut isAcceptor isIntegrity asb errors)
  | [], removed, blocks, view, hv, ha, _, _, _ =>
    ⟨blocks, view, rfl, hv, rfl, by simp [removedPositions, handledErrors, ha],
      by simp [removedPositions, handledErrors, RemovedAll]⟩
  | e :: es, removed, blocks, view, hv, ha, hself, hsorted, hrange => by
    obtain ⟨blocks₁, view₁, h₁, hv₁, hn₁, ha₁, hm₁⟩ :=
      doFailureEventForError_view hlen hv ha hself (hrange e (List.mem_cons_self _ _))
    rw [List.pairwise_cons] at hsorted
    rw [doFailureEventErrors, h₁, removedPositions_cons, removedAll_cons]
    cases hk : (errorAction evtLut isAcceptor isIntegrity asb e).keepsBundle
    · refine ⟨blocks₁, view₁, by simp [hk], hv₁, hn₁, by simpa using ha₁, ?_⟩
      simpa using hm₁
    · have hrange' : ∀ e' ∈ es, e'.securityTargetIndex = uint64Max ∨
          e'.securityTargetIndex < asb.securityTargets.length ∧
          ∀ j ∈ removed ++ removedPositions evtLut isAcceptor isIntegrity asb [e], e'.securityTargetIndex < j := by
        intro e' he'
        refine (hrange e' (List.mem_cons_of_mem _ he')).imp_right fun ⟨hlt, hR⟩ => ⟨hlt, fun j hj => ?_⟩
        rcases List.mem_append.mp hj with hj | hj
        · exact hR j hj
        · rw [removedPositions_singleton] at hj
          split_ifs at hj
          · exact List.mem_singleton.mp hj ▸ hsorted.1 e' he'
          · exact absurd hj (List.not_mem_nil j)
      obtain ⟨blocks', view', h', hv', hn', ha', hm'⟩ :=
        doFailureEventErrors_spec hlen hv₁ ha₁ (hn₁ ▸ hself) hsorted.2 hrange'
      refine ⟨blocks', view', by simp [h', hk], hv', hn'.trans hn₁, by simpa [List.append_assoc] using ha', ?_⟩
      rw [hm', hm₁, if_pos rfl, ← keptPositions_append_eq_nil]
      simp only [eq_self_iff_true, true_and, or_assoc]
      exact or_congr_right (or_congr_right or_left_comm)

end loop

/-! ### `DoFailureEvent` -/

/-- **Greatest-to-least removal.**  Take a security block at `idx` with whole (target, result)
pairs that does not target its own block, a policy with an event set for the service, and
errors with strictly decreasing indices, each `UINT64_MAX` or a position of the targets.  For
both roles and every event set, `DoFailureEvent` reads no target out of range and no removal
fails.  It keeps the bundle exactly when every error's action keeps it, and leaves the original
pairs in their order, minus those at the positions of the handled errors whose action removes
the operation.  It marks the security block for deletion exactly when it was marked, or the
removals emptied it, or a handled `UINT64_MAX` error removed the operations. -/
theorem doFailureEvent_removes_greatest_to_least {blocks : List CanonicalBlockView} {idx : Nat}
    {view : CanonicalBlockView} {asb : AbstractSecurityBlock} {policy : BpSecPolicy}
    {errorList : List BpSecError} {isAcceptor isIntegrity : Bool} {evtLut : FailureEventSet}
    (hv : blocks[idx]? = some view) (ha : view.asb = some asb)
    (hlen : asb.securityTargets.length = asb.securityResults.length)
    (hself : view.blockNumber ∉ asb.securityTargets)
    (hset : (if isIntegrity then policy.integritySecurityFailureEventSetReferencePtr
      else policy.confidentialitySecurityFailureEventSetReferencePtr) = some evtLut)
    (hsorted : errorList.Pairwise fun e e' => e'.securityTargetIndex < e.securityTargetIndex)
    (hrange : ∀ e ∈ errorList,
      e.securityTargetIndex = uint64Max ∨ e.securityTargetIndex < asb.securityTargets.length) :
    let removed := removedPositions evtLut isAcceptor isIntegrity asb errorList
    ∃ blocks' view', doFailureEvent blocks policy errorList idx isAcceptor isIntegrity =
        some (errorList.all fun e => (errorAction evtLut isAcceptor isIntegrity asb e).keepsBundle, blocks') ∧
      blocks'[idx]? = some view' ∧
      view'.asb = some { asb with securityTargets := keptPositions removed asb.securityTargets,
                                  securityResults := keptPositions removed asb.securityResults } ∧
      (view'.markedForDeletion = true ↔ view.markedForDeletion = true ∨
        removed ≠ [] ∧ keptPositions removed asb.securityTargets = [] ∨
        RemovedAll evtLut isAcceptor isIntegrity asb errorList) := by
  have ha₀ : view.asb = some (asb.withoutPositions []) := by rw [ha, AbstractSecurityBlock.withoutPositions_nil]
  obtain ⟨blocks', view', h, hv', -, ha', hm'⟩ := doFailureEventErrors_spec hlen hv ha₀ hself hsorted
    fun e he => (hrange e he).imp_right fun hlt => ⟨hlt, fun _ hj => absurd hj (List.not_mem_nil _)⟩
  refine ⟨blocks', view', ?_, hv', by simpa using ha', by simpa using hm'⟩
  unfold doFailureEvent
  cases isIntegrity <;> simp only [Bool.false_eq_true, if_true, if_false] at hset <;> simp [hset, h]

/-- A BIB of `ipn:3.1` targeting the payload and block 3, whose view is block 2. -/
def twoTargetBib : CanonicalBlockView :=
  ⟨2, integrityBlockType, some ⟨⟨3, 1⟩, [1, 3], [0, 0]⟩, false, false⟩

/-- An integrity acceptor policy whose event set lists a corrupted operation with no optional
action. -/
def corruptedAcceptorPolicy : BpSecPolicy :=
  { BpSecPolicy.default with
    doIntegrity := true
    integritySecurityFailureEventSetReferencePtr :=
      some fun evt => if evt = .securityOperationCorruptedAtAcceptor then some ⟨false, false, false⟩ else none }

theorem doFailureEvent_removes_greatest_to_least_bib :
    let removed := removedPositions (fun evt => if evt = .securityOperationCorruptedAtAcceptor then
      some ⟨false, false, false⟩ else none) true true ⟨⟨3, 1⟩, [1, 3], [0, 0]⟩ [⟨.corrupted, 1⟩, ⟨.corrupted, 0⟩]
    ∃ blocks' view', doFailureEvent [twoTargetBib] corruptedAcceptorPolicy [⟨.corrupted, 1⟩, ⟨.corrupted, 0⟩] 0 true true =
        some ([⟨.corrupted, 1⟩, ⟨.corrupted, 0⟩].all fun e => (errorAction (fun evt =>
          if evt = .securityOperationCorruptedAtAcceptor then some ⟨false, false, false⟩ else none) true true
            ⟨⟨3, 1⟩, [1, 3], [0, 0]⟩ e).keepsBundle, blocks') ∧
      blocks'[0]? = some view' ∧
      view'.asb = some { (⟨⟨3, 1⟩, [1, 3], [0, 0]⟩ : AbstractSecurityBlock) with
        securityTargets := keptPositions removed [1, 3], securityResults := keptPositions removed [0, 0] } ∧
      (view'.markedForDeletion = true ↔ twoTargetBib.markedForDeletion = true ∨
        removed ≠ [] ∧ keptPositions removed [1, 3] = [] ∨
        RemovedAll (fun evt => if evt = .securityOperationCorruptedAtAcceptor then some ⟨false, false, false⟩
          else none) true true ⟨⟨3, 1⟩, [1, 3], [0, 0]⟩ [⟨.corrupted, 1⟩, ⟨.corrupted, 0⟩]) :=
  doFailureEvent_removes_greatest_to_least rfl rfl rfl (by decide) rfl (by decide) (by decide)

/-! ### What the marks leave out

`RemoveSopByGreatestToLeastIndex` runs for a verifier only under `REMOVE_SECURITY_OPERATION`,
and never on the missing-policy path, while `RemoveSopTargetBlock` runs under
`REMOVE_SECURITY_OPERATION_TARGET_BLOCK` alone: the bundle is kept with a security operation
whose target block is marked for deletion.  And a `UINT64_MAX` error whose action removes no
operation leaves the security block unmarked. -/

/-- A BIB of `ipn:3.1`, block 4, targeting block 2, a bundle age block (type 7). -/
def bibAndTarget : List CanonicalBlockView :=
  [⟨4, integrityBlockType, some ⟨⟨3, 1⟩, [2], [0]⟩, false, false⟩, ⟨2, 7, none, false, false⟩]

/-- An integrity policy whose event set lists a corrupted operation at a verifier, with a mask. -/
def corruptedVerifierPolicy (actionMask : ActionMask) : BpSecPolicy :=
  { BpSecPolicy.default with
    doIntegrity := true
    integritySecurityFailureEventSetReferencePtr :=
      some fun evt => if evt = .securityOperationCorruptedAtVerifier then some actionMask else none }

theorem kept_bundle_keeps_removed_target :
    doFailureEvent bibAndTarget (corruptedVerifierPolicy ⟨false, true, false⟩) [⟨.corrupted, 0⟩] 0 false true =
        some (true, [⟨4, integrityBlockType, some ⟨⟨3, 1⟩, [2], [0]⟩, false, false⟩, ⟨2, 7, none, true, false⟩]) ∧
      doFailureEventSopMissingAtAcceptor bibAndTarget ⟨false, true, false⟩ ⟨⟨3, 1⟩, [2], [0]⟩ true =
        (true, [⟨4, integrityBlockType, some ⟨⟨3, 1⟩, [2], [0]⟩, false, false⟩, ⟨2, 7, none, true, false⟩]) :=
  ⟨rfl, rfl⟩

theorem uint64Max_error_leaves_asb_unmarked :
    doFailureEvent bibAndTarget (corruptedVerifierPolicy ⟨false, false, false⟩) [⟨.corrupted, uint64Max⟩] 0 false true =
      some (true, bibAndTarget) :=
  rfl

/-! ### The payload block is never marked

`DoFailureEvent` drops the bundle rather than mark the payload block, whose block number is
always `1`: every `RemoveSopTargetBlock` it runs is behind `errorTargetsPayloadBlock`, and the
missing-policy path behind `DoesAsbTargetPayloadBlock`. -/

/-- The views of block number `1` at the positions other than `idx` are as they were. -/
def PayloadKept (idx : Nat) (blocks blocks' : List CanonicalBlockView) : Prop :=
  ∀ j, j ≠ idx → ∀ view, blocks[j]? = some view → view.blockNumber = 1 → blocks'[j]? = some view

/-- The view at `idx` holds a security block with whole (target, result) pairs. -/
def WholePairsAt (idx : Nat) (blocks : List CanonicalBlockView) : Prop :=
  ∃ view asb, blocks[idx]? = some view ∧ view.asb = some asb ∧
    asb.securityTargets.length = asb.securityResults.length

section payload

variable {idx : Nat} {blocks blocks' : List CanonicalBlockView}

theorem PayloadKept.refl (idx : Nat) (blocks : List CanonicalBlockView) : PayloadKept idx blocks blocks :=
  fun _ _ _ hv _ => hv

theorem PayloadKept.trans {blocks'' : List CanonicalBlockView} (h : PayloadKept idx blocks blocks')
    (h' : PayloadKept idx blocks' blocks'') : PayloadKept idx blocks blocks'' :=
  fun j hj view hv hn => h' j hj view (h j hj view hv hn) hn

theorem payloadKept_markForDeletion {blockNumber : Nat} (hn : blockNumber ≠ 1) :
    PayloadKept idx blocks (markForDeletion blocks blockNumber) :=
  fun _ _ _ hv h1 => getElem?_markForDeletion_of_ne hv (h1 ▸ hn.symm)

theorem getElem?_markForDeletion_asb {blockNumber j : Nat} {view : CanonicalBlockView}
    (hv : blocks[j]? = some view) :
    ∃ view', (markForDeletion blocks blockNumber)[j]? = some view' ∧ view'.asb = view.asb := by
  induction blocks generalizing j with
  | nil => simp at hv
  | cons v views ih =>
    unfold markForDeletion
    cases j with
    | zero =>
      simp only [List.getElem?_cons_zero, Option.some.injEq] at hv
      subst hv
      split_ifs <;> exact ⟨_, List.getElem?_cons_zero, rfl⟩
    | succ j =>
      rw [List.getElem?_cons_succ] at hv
      split_ifs
      · exact ⟨view, by simpa using hv, rfl⟩
      · simpa using ih hv

theorem wholePairsAt_markForDeletion (hw : WholePairsAt idx blocks) (blockNumber : Nat) :
    WholePairsAt idx (markForDeletion blocks blockNumber) := by
  obtain ⟨view, asb, hv, ha, hlen⟩ := hw
  obtain ⟨view', hv', ha'⟩ : ∃ view', (markForDeletion blocks blockNumber)[idx]? = some view' ∧
    view'.asb = view.asb := getElem?_markForDeletion_asb hv
  exact ⟨view', asb, hv', ha' ▸ ha, hlen⟩

theorem removeSopAt_spec {i : Nat} (hw : WholePairsAt idx blocks) (h : removeSopAt blocks idx i = some blocks') :
    PayloadKept idx blocks blocks' ∧ WholePairsAt idx blocks' := by
  obtain ⟨view, asb, hv, ha, hlen⟩ := hw
  simp only [removeSopAt, hv, ha, Option.map_eq_some'] at h
  obtain ⟨view', hrm, rfl⟩ := h
  have hlt : idx < blocks.length := (List.getElem?_eq_some_iff.mp hv).1
  refine ⟨fun j hj _ hv' _ => by rwa [List.getElem?_set_ne hj.symm], ?_⟩
  unfold removeSopByGreatestToLeastIndex at hrm
  split_ifs at hrm <;> cases hrm
  · exact ⟨_, asb, List.getElem?_set_self hlt, ha, hlen⟩
  · exact ⟨_, _, List.getElem?_set_self hlt, rfl, by rw [List.length_eraseIdx, List.length_eraseIdx, hlen]⟩

theorem doFailureEventForError_eq_none {evtLut : FailureEventSet} {isAcceptor isIntegrity : Bool}
    {e : BpSecError} {asb : AbstractSecurityBlock} (ha : asbAt blocks idx = some asb)
    (hc : (if e.securityTargetIndex = uint64Max then some uint64Max
      else asb.securityTargets[e.securityTargetIndex]?) = none) :
    doFailureEventForError evtLut idx isAcceptor isIntegrity blocks e = none := by
  unfold doFailureEventForError
  rw [ha]
  dsimp only [Option.bind_eq_bind, Option.some_bind]
  by_cases hmax : e.securityTargetIndex = uint64Max
  · rw [if_pos hmax] at hc
    cases hc
  · rw [if_neg hmax] at hc ⊢
    rw [hc]
    rfl

theorem doFailureEventForError_payloadKept {evtLut : FailureEventSet} {isAcceptor isIntegrity : Bool}
    {e : BpSecError} {b : Bool} (hw : WholePairsAt idx blocks)
    (h : doFailureEventForError evtLut idx isAcceptor isIntegrity blocks e = some (b, blocks')) :
    PayloadKept idx blocks blocks' ∧ WholePairsAt idx blocks' := by
  obtain ⟨view, asb, hv, ha, hlen⟩ := hw
  rcases hc : (if e.securityTargetIndex = uint64Max then some uint64Max
      else asb.securityTargets[e.securityTargetIndex]?) with _ | canonicalIndex
  · rw [doFailureEventForError_eq_none (by simp [asbAt, hv, ha]) hc] at h
    cases h
  obtain ⟨blocks₁, hrm, heq⟩ := doFailureEventForError_eq evtLut isAcceptor isIntegrity hv ha hlen hc
  rw [heq, Option.some.injEq, Prod.mk.injEq] at h
  obtain ⟨-, rfl⟩ := h
  have h₁ : PayloadKept idx blocks blocks₁ ∧ WholePairsAt idx blocks₁ := by
    split_ifs at hrm
    · exact removeSopAt_spec ⟨view, asb, hv, ha, hlen⟩ hrm
    · rw [hrm]
      exact ⟨PayloadKept.refl _ _, view, asb, hv, ha, hlen⟩
  split_ifs with ht
  · have hpay := failureAction_removesTarget ht
    simp only [decide_eq_false_iff_not, not_or] at hpay
    exact ⟨h₁.1.trans (payloadKept_markForDeletion hpay.1), wholePairsAt_markForDeletion h₁.2 _⟩
  · exact h₁

theorem doFailureEventErrors_payloadKept {evtLut : FailureEventSet} {isAcceptor isIntegrity : Bool} {b : Bool} :
    ∀ {errors : List BpSecError} {blocks : List CanonicalBlockView}, WholePairsAt idx blocks →
      doFailureEventErrors evtLut idx isAcceptor isIntegrity errors blocks = some (b, blocks') →
      PayloadKept idx blocks blocks'
  | [], _, _, h => by
    cases h
    exact PayloadKept.refl _ _
  | e :: es, blocks, hw, h => by
    simp only [doFailureEventErrors, Option.bind_eq_bind, Option.bind_eq_some] at h
    obtain ⟨⟨keep, blocks₁⟩, h₁, h⟩ := h
    obtain ⟨hk₁, hw₁⟩ := doFailureEventForError_payloadKept hw h₁
    split_ifs at h
    · exact hk₁.trans (doFailureEventErrors_payloadKept hw₁ h)
    · cases h
      exact hk₁

theorem getElem?_foldl_markForDeletion {j : Nat} {view : CanonicalBlockView} (h1 : view.blockNumber = 1) :
    ∀ {targets : List Nat} {bs : List CanonicalBlockView}, 1 ∉ targets → bs[j]? = some view →
      (targets.foldl markForDeletion bs)[j]? = some view
  | [], _, _, hv => hv
  | n :: ns, _, hn, hv => by
    rw [List.mem_cons, not_or] at hn
    rw [List.foldl_cons]
    exact getElem?_foldl_markForDeletion h1 hn.2 (getElem?_markForDeletion_of_ne hv (by rw [h1]; exact hn.1))

/-- **The missing-policy path keeps the payload.**  `DoFailureEventSopMissingAtAcceptor`, for any
security block and action mask, marks the targets only of a security block that does not target
the payload, so every view of block number `1` stays as it was. -/
theorem doFailureEventSopMissingAtAcceptor_keeps_payload (actionMask : ActionMask) (asb : AbstractSecurityBlock)
    (isIntegrity : Bool) {j : Nat} {view : CanonicalBlockView} (hv : blocks[j]? = some view)
    (h1 : view.blockNumber = 1) :
    (doFailureEventSopMissingAtAcceptor blocks actionMask asb isIntegrity).2[j]? = some view := by
  unfold doFailureEventSopMissingAtAcceptor
  dsimp only
  split_ifs with _ _ _ hpay
  all_goals try exact hv
  rw [removeSopTargetBlock, if_pos rfl]
  exact getElem?_foldl_markForDeletion h1 (fun hm => by simp [doesAsbTargetPayloadBlock, hm] at hpay) hv

/-- **No failure event marks the payload block.**  Take a security block at `idx` with whole
(target, result) pairs and any errors.  Whatever `DoFailureEvent` returns, for either role and
service and any event set, it leaves every view of block number `1` other than the security
block's as it was; and so does `DoFailureEventSopMissingAtAcceptor`, for any security block. -/
theorem failureEvents_keep_payload {policy : BpSecPolicy} {errorList : List BpSecError}
    {isAcceptor isIntegrity keep : Bool} (hw : WholePairsAt idx blocks)
    (h : doFailureEvent blocks policy errorList idx isAcceptor isIntegrity = some (keep, blocks')) :
    PayloadKept idx blocks blocks' ∧
      ∀ (actionMask : ActionMask) (asb : AbstractSecurityBlock) (j : Nat) (view : CanonicalBlockView),
        blocks[j]? = some view → view.blockNumber = 1 →
          (doFailureEventSopMissingAtAcceptor blocks actionMask asb isIntegrity).2[j]? = some view := by
  refine ⟨?_, fun actionMask asb _ _ hv h1 => doFailureEventSopMissingAtAcceptor_keeps_payload actionMask asb _ hv h1⟩
  unfold doFailureEvent at h
  split at h <;> obtain ⟨_, -, h⟩ := Option.bind_eq_some.mp h <;> exact doFailureEventErrors_payloadKept hw h

end payload

/-- A BIB, block 3, targeting the payload and block 2; the payload; and block 2, a bundle age
block (type 7). -/
def bibPayloadAndAge : List CanonicalBlockView :=
  [⟨3, integrityBlockType, some ⟨⟨3, 1⟩, [1, 2], [0, 0]⟩, false, false⟩,
    ⟨1, payloadBlockType, none, false, false⟩, ⟨2, 7, none, false, false⟩]

/-- A verifier removing both failed operations and their targets: block 2 is marked, and the
payload's error drops the bundle instead. -/
theorem failureEvents_keep_payload_bib :
    WholePairsAt 0 bibPayloadAndAge ∧
      ∃ keep blocks', doFailureEvent bibPayloadAndAge (corruptedVerifierPolicy ⟨true, true, false⟩)
          [⟨.corrupted, 1⟩, ⟨.corrupted, 0⟩] 0 false true = some (keep, blocks') ∧
        PayloadKept 0 bibPayloadAndAge blocks' := by
  have hw : WholePairsAt 0 bibPayloadAndAge := ⟨_, _, rfl, rfl, rfl⟩
  obtain ⟨keep, blocks', h⟩ : ∃ keep blocks', doFailureEvent bibPayloadAndAge
      (corruptedVerifierPolicy ⟨true, true, false⟩) [⟨.corrupted, 1⟩, ⟨.corrupted, 0⟩] 0 false true =
        some (keep, blocks') := ⟨_, _, rfl⟩
  exact ⟨hw, keep, blocks', h, (failureEvents_keep_payload hw h).1⟩

/-! ### Every BCB at the final destination

The BCB loop visits the positions of the BCBs the bundle holds on entry.  `DoFailureEvent`
changes the security block of the BCB it handles only, and marks others without changing them;
so with a processor that leaves the other BCBs as they are, each BCB is still the one of the
bundle on entry when the loop reaches it. -/

/-- The view at `k` is a BCB with security block `asb`. -/
def BcbAt (blocks : List CanonicalBlockView) (k : Nat) (asb : Option AbstractSecurityBlock) : Prop :=
  (blocks.map fun v => (v.blockTypeCode, v.asb))[k]? = some (confidentialityBlockType, asb)

/-- Every BCB but the one at `idx` is kept. -/
def BcbsKept (idx : Nat) (blocks blocks' : List CanonicalBlockView) : Prop :=
  ∀ k, k ≠ idx → ∀ asb, BcbAt blocks k asb → BcbAt blocks' k asb

/-- `TryDecryptBundleByIndividualBcb` on the BCB at `idx` keeps every other BCB, as it decrypts
only that BCB's targets, and leaves that BCB's (target, result) pairs whole. -/
def BpSecBundleProcessor.KeepsBcbs (processor : BpSecBundleProcessor) : Prop :=
  ∀ bv idx crp verifyOnly,
    BcbsKept idx bv.canonicalBlocks (processor.tryDecryptBundleByIndividualBcb bv idx crp verifyOnly).1 ∧
      (WholePairsAt idx bv.canonicalBlocks →
        WholePairsAt idx (processor.tryDecryptBundleByIndividualBcb bv idx crp verifyOnly).1)

section bcbs

variable {idx : Nat} {blocks blocks' : List CanonicalBlockView}

theorem BcbsKept.refl (idx : Nat) (blocks : List CanonicalBlockView) : BcbsKept idx blocks blocks :=
  fun _ _ _ h => h

theorem BcbsKept.trans {blocks'' : List CanonicalBlockView} (h : BcbsKept idx blocks blocks')
    (h' : BcbsKept idx blocks' blocks'') : BcbsKept idx blocks blocks'' :=
  fun k hk asb hb => h' k hk asb (h k hk asb hb)

theorem BcbAt.asbAt_eq {k : Nat} {asb : Option AbstractSecurityBlock} (h : BcbAt blocks k asb) : asbAt blocks k = asb := by
  rw [BcbAt, List.getElem?_map, Option.map_eq_some'] at h
  obtain ⟨v, hv, hva⟩ := h
  simp [asbAt, hv, (Prod.mk.inj hva).2]

theorem BcbAt.unique {k : Nat} {a a' : Option AbstractSecurityBlock} (h : BcbAt blocks k a) (h' : BcbAt blocks k a') :
    a = a' :=
  h.asbAt_eq.symm.trans h'.asbAt_eq

theorem bcbAt_of_mem {k : Nat} (h : k ∈ blockIndicesByType blocks confidentialityBlockType) :
    BcbAt blocks k (asbAt blocks k) := by
  simp only [blockIndicesByType, List.mem_filter, decide_eq_true_eq, Option.map_eq_some'] at h
  obtain ⟨-, v, hv, hty⟩ := h
  simp [BcbAt, asbAt, hv, hty]

theorem map_markForDeletion (blocks : List CanonicalBlockView) (blockNumber : Nat) :
    (markForDeletion blocks blockNumber).map (fun v => (v.blockTypeCode, v.asb)) =
      blocks.map fun v => (v.blockTypeCode, v.asb) := by
  induction blocks with
  | nil => rfl
  | cons v vs ih => unfold markForDeletion; split_ifs <;> simp [ih]

theorem bcbAt_removeSopTargetBlock {k : Nat} {a : Option AbstractSecurityBlock} (asb : AbstractSecurityBlock)
    (canonicalIndex : Nat) (h : BcbAt blocks k a) : BcbAt (removeSopTargetBlock blocks asb canonicalIndex) k a := by
  have hmarks : ∀ (targets : List Nat) (bs : List CanonicalBlockView), BcbAt bs k a →
      BcbAt (targets.foldl markForDeletion bs) k a := by
    intro targets
    induction targets with
    | nil => exact fun _ h => h
    | cons n ns ih => exact fun bs h => ih _ (by rw [BcbAt, map_markForDeletion]; exact h)
  unfold removeSopTargetBlock
  split_ifs
  · exact hmarks _ _ h
  · exact hmarks [canonicalIndex] _ h

theorem bcbsKept_removeSopAt {i : Nat} (h : removeSopAt blocks idx i = some blocks') : BcbsKept idx blocks blocks' := by
  unfold removeSopAt at h
  split at h
  · split at h
    · obtain ⟨view', -, rfl⟩ := Option.map_eq_some'.mp h
      intro k hk asb hb
      rwa [BcbAt, List.map_set, List.getElem?_set_ne (Ne.symm hk)]
    · cases h
  · cases h

theorem doFailureEventForError_bcbsKept {evtLut : FailureEventSet} {isAcceptor isIntegrity : Bool}
    {e : BpSecError} {b : Bool} (hw : WholePairsAt idx blocks)
    (h : doFailureEventForError evtLut idx isAcceptor isIntegrity blocks e = some (b, blocks')) :
    BcbsKept idx blocks blocks' ∧ WholePairsAt idx blocks' := by
  obtain ⟨view, asb, hv, ha, hlen⟩ := hw
  rcases hc : (if e.securityTargetIndex = uint64Max then some uint64Max
      else asb.securityTargets[e.securityTargetIndex]?) with _ | canonicalIndex
  · rw [doFailureEventForError_eq_none (by simp [asbAt, hv, ha]) hc] at h
    cases h
  obtain ⟨blocks₁, hrm, heq⟩ := doFailureEventForError_eq evtLut isAcceptor isIntegrity hv ha hlen hc
  rw [heq, Option.some.injEq, Prod.mk.injEq] at h
  obtain ⟨-, rfl⟩ := h
  have h₁ : BcbsKept idx blocks blocks₁ ∧ WholePairsAt idx blocks₁ := by
    split_ifs at hrm
    · exact ⟨bcbsKept_removeSopAt hrm, (removeSopAt_spec ⟨view, asb, hv, ha, hlen⟩ hrm).2⟩
    · rw [hrm]
      exact ⟨BcbsKept.refl _ _, view, asb, hv, ha, hlen⟩
  split_ifs
  · exact ⟨h₁.1.trans fun _ _ _ hb => by rw [BcbAt, map_markForDeletion]; exact hb,
      wholePairsAt_markForDeletion h₁.2 _⟩
  · exact h₁

theorem bcbsKept_doFailureEventSopMissingAtAcceptor {actionMask : ActionMask} {asb : AbstractSecurityBlock}
    {isIntegrity : Bool} : BcbsKept idx blocks (doFailureEventSopMissingAtAcceptor blocks actionMask asb isIntegrity).2 := by
  intro k _ a hb
  unfold doFailureEventSopMissingAtAcceptor
  dsimp only
  split_ifs <;> first | exact hb | exact bcbAt_removeSopTargetBlock asb uint64Max hb

theorem doFailureEventErrors_bcbsKept {evtLut : FailureEventSet} {isAcceptor isIntegrity b : Bool} :
    ∀ {errors : List BpSecError} {blocks : List CanonicalBlockView}, WholePairsAt idx blocks →
      doFailureEventErrors evtLut idx isAcceptor isIntegrity errors blocks = some (b, blocks') →
      BcbsKept idx blocks blocks'
  | [], _, _, h => by
    cases h
    exact BcbsKept.refl _ _
  | e :: es, blocks, hw, h => by
    simp only [doFailureEventErrors, Option.bind_eq_bind, Option.bind_eq_some] at h
    obtain ⟨⟨keep, blocks₁⟩, h₁, h⟩ := h
    obtain ⟨hk₁, hw₁⟩ := doFailureEventForError_bcbsKept hw h₁
    split_ifs at h
    · exact hk₁.trans (doFailureEventErrors_bcbsKept hw₁ h)
    · cases h
      exact hk₁

theorem doFailureEvent_bcbsKept {policy : BpSecPolicy} {errorList : List BpSecError} {isAcceptor isIntegrity b : Bool}
    (hw : WholePairsAt idx blocks)
    (h : doFailureEvent blocks policy errorList idx isAcceptor isIntegrity = some (b, blocks')) :
    BcbsKept idx blocks blocks' := by
  unfold doFailureEvent at h
  split at h <;> obtain ⟨_, -, h⟩ := Option.bind_eq_some.mp h <;> exact doFailureEventErrors_bcbsKept hw h

end bcbs

section bcbLoop

variable {m : BpSecPolicyManager} {processor : BpSecBundleProcessor} {primary : PrimaryBlock}

theorem ReceiveState.applyPolicy_bcbsKept (hproc : processor.KeepsBcbs) {s s' : ReceiveState} {idx : Nat}
    {policy : BpSecPolicy} {isAcceptor b : Bool} (hw : WholePairsAt idx s.canonicalBlocks)
    (h : s.applyPolicy processor primary false idx policy isAcceptor = some (b, s')) :
    BcbsKept idx s.canonicalBlocks s'.canonicalBlocks := by
  unfold ReceiveState.applyPolicy at h
  split_ifs at h
  · cases h
    exact BcbsKept.refl _ _
  obtain ⟨⟨blocks, errorList, event⟩, hcall, h⟩ := Option.bind_eq_some.mp h
  unfold callProcessor at hcall
  obtain ⟨crp, -, hcall⟩ := Option.bind_eq_some.mp hcall
  have ⟨hk, hw'⟩ := hproc ⟨primary, s.canonicalBlocks⟩ idx crp (!isAcceptor)
  split at hcall
  cases hcall
  rename_i heq
  rw [heq] at hk hw'
  dsimp only at h
  split at h
  · cases h
    exact hk
  · obtain ⟨⟨keep, blocks'⟩, hf, h⟩ := Option.bind_eq_some.mp h
    cases h
    exact hk.trans (doFailureEvent_bcbsKept (hw' hw) hf)

theorem processSecurityBlock_bcbsKept (hproc : processor.KeepsBcbs) {bundleIsAtFinalDest b : Bool}
    {s s' : ReceiveState} {idx : Nat} (hw : WholePairsAt idx s.canonicalBlocks)
    (h : processSecurityBlock m processor primary false bundleIsAtFinalDest s idx = some (b, s')) :
    BcbsKept idx s.canonicalBlocks s'.canonicalBlocks := by
  unfold processSecurityBlock at h
  obtain ⟨view, -, h⟩ := Option.bind_eq_some.mp h
  cases ha : view.asb with
  | none =>
    simp only [ha, Option.some.injEq, Prod.mk.injEq] at h
    rw [← h.2]
    exact BcbsKept.refl _ _
  | some asb =>
    simp only [ha] at h
    rcases hp₁ : s.findPolicy m primary false true asb with ⟨o₁, s₁⟩
    have hb₁ : s₁.canonicalBlocks = s.canonicalBlocks := by rw [← congrArg (·.2.canonicalBlocks) hp₁]; rfl
    rw [hp₁] at h
    cases o₁ with
    | some policy => exact hb₁ ▸ ReceiveState.applyPolicy_bcbsKept hproc (hb₁ ▸ hw) h
    | none =>
    dsimp only at h
    split_ifs at h
    · obtain ⟨-, rfl⟩ := Prod.mk.inj (Option.some.inj h)
      exact hb₁ ▸ bcbsKept_doFailureEventSopMissingAtAcceptor
    · rcases hp₂ : s₁.findPolicy m primary false false asb with ⟨o₂, s₂⟩
      have hb₂ : s₂.canonicalBlocks = s.canonicalBlocks := by
        rw [← hb₁, ← congrArg (·.2.canonicalBlocks) hp₂]; rfl
      rw [hp₂] at h
      cases o₂ with
      | none =>
        obtain ⟨-, rfl⟩ := Prod.mk.inj (Option.some.inj h)
        exact hb₂ ▸ BcbsKept.refl _ _
      | some policy => exact hb₂ ▸ ReceiveState.applyPolicy_bcbsKept hproc (hb₂ ▸ hw) h


/-- The position of the block an event is for, and whether it is a BIB. -/
def ReceiveEvent.block : ReceiveEvent → Nat × Bool
  | .tryDecryptBundleByIndividualBcb i _ _ => (i, false)
  | .tryVerifyBundleIntegrityByIndividualBib i _ _ => (i, true)
  | .sopMissingAtAcceptor i isIntegrity => (i, isIntegrity)

theorem Accounted.block {trie : PolicyTrie} {isIntegrity bundleIsAtFinalDest : Bool} {idx : Nat}
    {asb : AbstractSecurityBlock} {added : List ReceiveEvent}
    (h : Accounted trie primary isIntegrity bundleIsAtFinalDest idx asb added) :
    ∀ e ∈ added, e.block = (idx, isIntegrity) := by
  have happ : ∀ {isAcceptor policy}, PolicyApplied isIntegrity idx isAcceptor policy added →
      ∀ e ∈ added, e.block = (idx, isIntegrity) := by
    rintro isAcceptor policy (⟨-, e, rfl, hcall⟩ | ⟨-, rfl⟩) e' he'
    · rw [List.mem_singleton.mp he']
      cases e <;> simp only [ReceiveEvent.IsProcessorCall] at hcall <;> simp [ReceiveEvent.block, hcall]
    · cases he'
  rcases h with ⟨_, -, hp⟩ | ⟨-, -, rfl⟩ | ⟨-, -, ⟨-, rfl⟩ | ⟨_, -, hp⟩⟩
  · exact happ hp
  · simp [ReceiveEvent.block]
  · exact fun _ h => nomatch h
  · exact happ hp

theorem BcbAt.wholePairsAt {blocks : List CanonicalBlockView} {k : Nat} {asb : AbstractSecurityBlock}
    (h : BcbAt blocks k (some asb)) (hlen : asb.securityTargets.length = asb.securityResults.length) :
    WholePairsAt k blocks := by
  rw [BcbAt, List.getElem?_map, Option.map_eq_some'] at h
  obtain ⟨v, hv, hva⟩ := h
  exact ⟨v, asb, hv, (Prod.mk.inj hva).2, hlen⟩

/-- **The BCB loop.**  With a processor that keeps the other BCBs, a BCB loop over distinct
positions of BCBs with whole pairs that returns true adds, block after block, the events that
account for each BCB with the security block it held on entry. -/
theorem processSecurityBlocks_bcbsAccounted (hproc : processor.KeepsBcbs) {bundleIsAtFinalDest : Bool} :
    ∀ {idxs : List Nat} {s s' : ReceiveState}, idxs.Nodup → s.ctx.Consistent m.policyFilterSecuritySource →
      (∀ k ∈ idxs, ∃ a, BcbAt s.canonicalBlocks k a ∧
        ∀ asb ∈ a, asb.securityTargets.length = asb.securityResults.length) →
      processSecurityBlocks m processor primary false bundleIsAtFinalDest idxs s = some (true, s') →
      ∃ chunks : List (List ReceiveEvent), s'.events = s.events ++ chunks.flatten ∧
        List.Forall₂ (fun idx added => ∃ asb, BcbAt s.canonicalBlocks idx (some asb) ∧
          Accounted m.policyFilterSecuritySource primary false bundleIsAtFinalDest idx asb added) idxs chunks
  | [], _, _, _, _, _, h => by
    cases h
    exact ⟨[], by simp, .nil⟩
  | idx :: idxs, s, s', hnd, hc, hpend, h => by
    obtain ⟨⟨goOn, s₁⟩, h₁, h⟩ := Option.bind_eq_some.mp h
    cases goOn
    · cases h
    obtain ⟨hc₁, asb, added, hasb, he₁, hacc⟩ := processSecurityBlock_accounted hc h₁
    obtain ⟨a, hb, hwa⟩ := hpend idx (List.mem_cons_self _ _)
    obtain rfl : a = some asb := hb.asbAt_eq.symm.trans hasb
    have hkept := processSecurityBlock_bcbsKept hproc (hb.wholePairsAt (hwa asb rfl)) h₁
    rw [List.nodup_cons] at hnd
    have hpend' : ∀ k ∈ idxs, ∃ a, BcbAt s.canonicalBlocks k a ∧ BcbAt s₁.canonicalBlocks k a ∧
        ∀ asb ∈ a, asb.securityTargets.length = asb.securityResults.length := fun k hk =>
      let ⟨a, hb, hwa⟩ := hpend k (List.mem_cons_of_mem _ hk)
      ⟨a, hb, hkept k (fun e => hnd.1 (e ▸ hk)) a hb, hwa⟩
    obtain ⟨chunks, he, hall⟩ := processSecurityBlocks_bcbsAccounted hproc hnd.2 hc₁
      (fun k hk => let ⟨a, _, hb₁, hwa⟩ := hpend' k hk; ⟨a, hb₁, hwa⟩) h
    refine ⟨added :: chunks, by rw [he, he₁, List.flatten_cons, List.append_assoc], .cons ⟨asb, hb, hacc⟩ ?_⟩
    refine ((List.forall₂_and_left _ _).mpr ⟨hpend', hall⟩).imp ?_
    rintro k added' ⟨⟨a, hb₀, hb₁, -⟩, asb', hb', hacc'⟩
    exact ⟨asb', (hb₁.unique hb').symm ▸ hb₀, hacc'⟩

theorem exists_of_mem_flatten_forall₂ {P : Nat → List ReceiveEvent → Prop} {e : ReceiveEvent} :
    ∀ {idxs : List Nat} {chunks : List (List ReceiveEvent)}, List.Forall₂ P idxs chunks → e ∈ chunks.flatten →
      ∃ k added, P k added ∧ e ∈ added
  | _, _, .nil, he => absurd he (List.not_mem_nil _)
  | _, _, .cons hp hall, he => (List.mem_append.mp he).elim (fun he => ⟨_, _, hp, he⟩)
      (exists_of_mem_flatten_forall₂ hall)

end bcbLoop

/-- **Every BCB at the final destination.**  Take a processor that keeps the other BCBs, and a
bundle whose BCBs have whole (target, result) pairs.  When `ProcessReceivedBundle` returns true
at the bundle's final destination, each BCB `asb` present on entry was handed to the processor as
acceptor, or went through the missing-policy path, or met an acceptor policy for its security
source without confidentiality and left no event at all. -/
theorem processReceivedBundle_bcb_accounted {m : BpSecPolicyManager} {processor : BpSecBundleProcessor}
    {bv : BundleViewV7} {ctx : BpSecPolicyProcessingContext} {errorList : List BpSecError} {myNodeId : Nat}
    {s : ReceiveState} (hproc : processor.KeepsBcbs)
    (hwhole : ∀ k ∈ blockIndicesByType bv.canonicalBlocks confidentialityBlockType,
      ∀ asb ∈ asbAt bv.canonicalBlocks k, asb.securityTargets.length = asb.securityResults.length)
    (hc : ctx.Consistent m.policyFilterSecuritySource) (hfinal : bv.primary.destinationEid.nodeId = myNodeId)
    (h : processReceivedBundle m processor bv ctx errorList myNodeId = some (true, s))
    {idx : Nat} (hidx : idx ∈ blockIndicesByType bv.canonicalBlocks confidentialityBlockType) :
    ∃ asb, asbAt bv.canonicalBlocks idx = some asb ∧
      ((∃ crp, .tryDecryptBundleByIndividualBcb idx crp false ∈ s.events) ∨
        .sopMissingAtAcceptor idx false ∈ s.events ∨
        (∃ policy, findPolicy m.policyFilterSecuritySource asb.securitySource bv.primary.sourceNodeId
            bv.primary.destinationEid .acceptor = some policy ∧ policy.doConfidentiality = false) ∧
          ∀ e ∈ s.events, e.block ≠ (idx, false)) := by
  unfold processReceivedBundle at h
  obtain ⟨⟨goOn, s₁⟩, h₁, h⟩ := Option.bind_eq_some.mp h
  cases goOn
  · cases h
  have hnd : (blockIndicesByType bv.canonicalBlocks confidentialityBlockType).Nodup := (List.nodup_range _).filter _
  obtain ⟨chunks, he₁, hall⟩ := processSecurityBlocks_bcbsAccounted hproc hnd hc
    (fun k hk => ⟨_, bcbAt_of_mem hk, hwhole k hk⟩) h₁
  have hc₁ := (processSecurityBlocks_accounted hc h₁).1
  dsimp only at h
  rw [if_pos rfl] at h
  obtain ⟨-, chunks₂, he₂, hall₂⟩ := processSecurityBlocks_accounted hc₁ h
  obtain ⟨i, rfl⟩ := List.get_of_mem hidx
  have hi : i.1 < chunks.length := hall.length_eq ▸ i.2
  have hsub : ∀ e ∈ chunks.get ⟨i, hi⟩, e ∈ s.events := fun e he => by
    rw [he₂, he₁]
    exact List.mem_append_left _ (List.mem_append_right _ (List.mem_flatten.mpr ⟨_, List.get_mem _ _ _, he⟩))
  obtain ⟨asb, hb, hacc⟩ := hall.get i.2 hi
  refine ⟨asb, hb.asbAt_eq, ?_⟩
  rcases hacc with ⟨policy, hl, ⟨-, e, hadd, hcall⟩ | ⟨hs, -⟩⟩ | ⟨-, -, hadd⟩ | ⟨-, hf, -⟩
  · refine .inl ?_
    cases e with
    | tryDecryptBundleByIndividualBcb j crp verifyOnly =>
      obtain ⟨-, rfl, rfl⟩ := hcall
      exact ⟨crp, hsub _ (hadd ▸ List.mem_singleton_self _)⟩
    | tryVerifyBundleIntegrityByIndividualBib => exact absurd hcall.1 Bool.false_ne_true
    | sopMissingAtAcceptor => exact hcall.elim
  · have hconf : policy.doConfidentiality = false := by simpa [BpSecPolicy.hasService] using hs
    refine .inr (.inr ⟨⟨policy, hl, hconf⟩, fun e he heq => ?_⟩)
    rw [he₂, he₁, List.mem_append, List.mem_append] at he
    rcases he with (he | he) | he
    · exact absurd he (List.not_mem_nil _)
    · obtain ⟨k, added, ⟨asb', hb', hacc'⟩, he'⟩ := exists_of_mem_flatten_forall₂ hall he
      obtain ⟨rfl, -⟩ := Prod.mk.inj ((hacc'.block e he').symm.trans heq)
      obtain rfl : asb' = asb := Option.some.inj (hb'.unique hb)
      rcases hacc' with ⟨policy', hl', ⟨hs', -⟩ | ⟨-, rfl⟩⟩ | ⟨hl', -⟩ | ⟨hl', -⟩
      · obtain rfl : policy' = policy := Option.some.inj (hl'.symm.trans hl)
        simp [BpSecPolicy.hasService, hconf] at hs'
      · exact absurd he' (List.not_mem_nil _)
      all_goals simp [hl] at hl'
    · obtain ⟨k, added, ⟨asb', hacc'⟩, he'⟩ := exists_of_mem_flatten_forall₂ hall₂ he
      exact absurd ((hacc'.block e he').symm.trans heq) (by simp)
  · exact .inr (.inl (hsub _ (hadd ▸ List.mem_singleton_self _)))
  · simp [hfinal] at hf

/-- The BCB of `ipn:5.5` at position `3` of `twoBcbBundle` is accounted for. -/
theorem processReceivedBundle_bcb_accounted_twoBcbBundle :
    ∃ m s, loadFromConfig exampleEnv .empty confidentialityAcceptorConfig = some m ∧
      processReceivedBundle m acceptingProcessor twoBcbBundle .initial [] 1 = some (true, s) ∧
      acceptingProcessor.KeepsBcbs ∧
      (∀ k ∈ blockIndicesByType twoBcbBundle.canonicalBlocks confidentialityBlockType,
        ∀ asb ∈ asbAt twoBcbBundle.canonicalBlocks k, asb.securityTargets.length = asb.securityResults.length) ∧
      ∃ asb, asbAt twoBcbBundle.canonicalBlocks 3 = some asb ∧
        ((∃ crp, .tryDecryptBundleByIndividualBcb 3 crp false ∈ s.events) ∨
          .sopMissingAtAcceptor 3 false ∈ s.events ∨
          (∃ policy, findPolicy m.policyFilterSecuritySource asb.securitySource twoBcbBundle.primary.sourceNodeId
              twoBcbBundle.primary.destinationEid .acceptor = some policy ∧ policy.doConfidentiality = false) ∧
            ∀ e ∈ s.events, e.block ≠ (3, false)) := by
  obtain ⟨m, s, hm, h⟩ : ∃ m s, loadFromConfig exampleEnv .empty confidentialityAcceptorConfig = some m ∧
      processReceivedBundle m acceptingProcessor twoBcbBundle .initial [] 1 = some (true, s) := ⟨_, _, rfl, rfl⟩
  have hproc : acceptingProcessor.KeepsBcbs := fun _ _ _ _ => ⟨BcbsKept.refl _ _, id⟩
  have hwhole : ∀ k ∈ blockIndicesByType twoBcbBundle.canonicalBlocks confidentialityBlockType,
      ∀ asb ∈ asbAt twoBcbBundle.canonicalBlocks k, asb.securityTargets.length = asb.securityResults.length := by
    decide
  exact ⟨m, s, hm, h, hproc, hwhole,
    processReceivedBundle_bcb_accounted hproc hwhole (BpSecPolicyProcessingContext.consistent_initial _) rfl h
      (by decide)⟩

end Hdtn.Bpsec
