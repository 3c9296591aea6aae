import Mathlib.Data.List.Forall2
import Hdtn.Bpsec.Lookup

/-! # `ProcessReceivedBundle`

The receive side of `BpSecPolicyManager`: for each BCB, then for each BIB of a bundle, the
policy of the block's security source is looked up for the acceptor role (`FindPolicyWithCacheSupport`),
and then

* with an acceptor policy, the block goes to the processor (`TryDecryptBundleByIndividualBcb`,
  `TryVerifyBundleIntegrityByIndividualBib`) if the policy has the block's service;
* with none, at the final destination, a `MISSING` error is recorded and
  `DoFailureEventSopMissingAtAcceptor` runs;
* with none elsewhere, the verifier policy is looked up and used as the acceptor one would be;

and the processor's errors go through `DoFailureEvent`.

The processor gets the mask of the policy's target block types, built with
`for (uint64_t blockType = beginIndex; blockType <= endIndex; ++blockType)` over each fragment.
The loop (`blockTypeLoop`) exits when `endIndex` is below `UINT64_MAX` (`blockTypeLoop_of_lt`)
and never when it is `UINT64_MAX`, since `++blockType` wraps to `0` (`blockTypeLoop_uint64Max`);
`LoadFromConfig` inserts each member `b` of a rule's set as the fragment `[b, b]`, and the merged
loops of `FragmentSet::InsertFragment` visit the same block types in the same order
(`visitTargets`).  The mask is defined when every target is below 64
(`expectedTargetBlockTypesMask_eq`); a shift by 64 or more is undefined, and so is the iteration
that builds it.

`BundleViewV7` and `BpSecBundleProcessor` are outside the sources: a bundle view is the primary
block's two EIDs and the canonical block views, and the processor is a parameter that returns
the new views and its errors.  The calls the manager makes to the processor and to the
`SOP_MISSING_AT_ACCEPTOR` path are recorded as `ReceiveEvent`s.

`processSecurityBlocks_accounted` says what the loop did with each block when it returns true: a
processor call, the missing-policy path, no event at all because the acceptor policy found lacks
the block's service, or no event away from the final destination, each with the security block
the view held at its turn.

The context's search caches are an optimisation only: from any context whose caches are
consistent, a call returns what it returns from a fresh context, and leaves the caches
consistent for the next bundle (`processReceivedBundle_reused_context`). -/

namespace Hdtn.Bpsec

/-- `UINT64_MAX` (`2 ^ 64 - 1`), which stands for every security target. -/
def uint64Max : Nat := 18446744073709551615

/-! ### The bundle view -/

/-- `Bpv7AbstractSecurityBlock`, as far as the manager reads it; the security results are read
only through their number and position. -/
structure AbstractSecurityBlock where
  securitySource : Eid
  securityTargets : List Nat
  securityResults : List Nat
deriving DecidableEq, Repr

/-- `BundleViewV7::Bpv7CanonicalBlockView`: the block's number and type, its security block if
its header is one (the `dynamic_cast` succeeds), and the two flags the manager sets. -/
structure CanonicalBlockView where
  blockNumber : Nat
  blockTypeCode : Nat
  asb : Option AbstractSecurityBlock
  markedForDeletion : Bool
  manuallyModified : Bool
deriving DecidableEq, Repr

/-- `Bpv7CbhePrimaryBlock`, as far as the manager reads it. -/
structure PrimaryBlock where
  sourceNodeId : Eid
  destinationEid : Eid
deriving DecidableEq, Repr

/-- `BundleViewV7`. -/
structure BundleViewV7 where
  primary : PrimaryBlock
  canonicalBlocks : List CanonicalBlockView
deriving DecidableEq, Repr

/-- `GetCanonicalBlocksByType`: the positions of the views of a block type, in order. -/
def blockIndicesByType (blocks : List CanonicalBlockView) (blockTypeCode : Nat) : List Nat :=
  (List.range blocks.length).filter fun i => (blocks[i]?.map (·.blockTypeCode)) = some blockTypeCode

/-- `GetCanonicalBlockByBlockNumber(n)->markedForDeletion = true`, on the first view of the
number if any. -/
def markForDeletion : List CanonicalBlockView → Nat → List CanonicalBlockView
  | [], _ => []
  | view :: views, blockNumber =>
    if view.blockNumber = blockNumber then { view with markedForDeletion := true } :: views
    else view :: markForDeletion views blockNumber

/-- The security block of the view at a position. -/
def asbAt (blocks : List CanonicalBlockView) (idx : Nat) : Option AbstractSecurityBlock :=
  blocks[idx]?.bind (·.asb)

/-! ### Removing security operations -/

/-- `DoesAsbTargetPayloadBlock`. -/
def doesAsbTargetPayloadBlock (asb : AbstractSecurityBlock) : Bool := asb.securityTargets.contains 1

/-- `RemoveSopByGreatestToLeastIndex` on a view and its security block: `none` where it returns
false.  `UINT64_MAX` marks the whole block for deletion; otherwise the `i`th target and result
go, and the block is marked for deletion once it has no target left. -/
def removeSopByGreatestToLeastIndex (view : CanonicalBlockView) (asb : AbstractSecurityBlock) (i : Nat) :
    Option CanonicalBlockView :=
  if i = uint64Max then some { view with markedForDeletion := true }
  else if asb.securityTargets.length ≠ asb.securityResults.length then none
  else if asb.securityTargets.length ≤ i then none
  else
    let asb := { asb with securityTargets := asb.securityTargets.eraseIdx i,
                          securityResults := asb.securityResults.eraseIdx i }
    some { view with asb := some asb, markedForDeletion := view.markedForDeletion || asb.securityTargets.isEmpty,
                     manuallyModified := true }

/-- `RemoveSopByGreatestToLeastIndex` on the security block at `idx`, which the caller has read:
`none` where it returns false. -/
def removeSopAt (blocks : List CanonicalBlockView) (idx i : Nat) : Option (List CanonicalBlockView) :=
  match blocks[idx]? with
  | some view => match view.asb with
    | some asb => (removeSopByGreatestToLeastIndex view asb i).map (blocks.set idx)
    | none => none
  | none => none

/-- `RemoveSopTargetBlock`: every target of the security block for `UINT64_MAX`, else the block
of the number, is marked for deletion. -/
def removeSopTargetBlock (blocks : List CanonicalBlockView) (asb : AbstractSecurityBlock) (canonicalIndex : Nat) :
    List CanonicalBlockView :=
  if canonicalIndex = uint64Max then asb.securityTargets.foldl markForDeletion blocks
  else markForDeletion blocks canonicalIndex

/-! ### The failure events -/

/-- `DoFailureEventSopMissingAtAcceptor`: whether the bundle is kept, and the views. -/
def doFailureEventSopMissingAtAcceptor (blocks : List CanonicalBlockView) (actionMaskSopMissingAtAcceptor : ActionMask)
    (asb : AbstractSecurityBlock) (isIntegrity : Bool) : Bool × List CanonicalBlockView :=
  let asbTargetsPayloadBlock := doesAsbTargetPayloadBlock asb
  if !isIntegrity && asbTargetsPayloadBlock then (false, blocks)
  else if actionMaskSopMissingAtAcceptor.failBundleForwarding then (false, blocks)
  else if actionMaskSopMissingAtAcceptor.removeSecurityOperationTargetBlock then
    if asbTargetsPayloadBlock then (false, blocks)
    else (true, removeSopTargetBlock blocks asb uint64Max)
  else (true, blocks)

/-- `BPSEC_ERROR_CODES`, as far as the manager tells them apart. -/
inductive BpSecErrorCode where
  | corrupted | misconfigured | missing
deriving DecidableEq, Repr

/-- `BpSecError` without its message; the index `UINT64_MAX` stands for every target. -/
structure BpSecError where
  errorCode : BpSecErrorCode
  securityTargetIndex : Nat
deriving DecidableEq, Repr

/-- The event of an error at an acceptor. -/
def acceptorFailureEvent : BpSecErrorCode → SecurityFailureEvent
  | .corrupted => .securityOperationCorruptedAtAcceptor
  | .misconfigured => .securityOperationMisconfiguredAtAcceptor
  | .missing => .undefined

/-- The event of an error at a verifier. -/
def verifierFailureEvent : BpSecErrorCode → SecurityFailureEvent
  | .corrupted => .securityOperationCorruptedAtVerifier
  | .misconfigured => .securityOperationMisconfiguredAtVerifier
  | .missing => .undefined

/-- The body of `DoFailureEvent`'s loop for one error, on the security block at `idx`:
`some (false, _)` where it returns false, `none` where it reads a security target out of range. -/
def doFailureEventForError (evtLut : FailureEventSet) (idx : Nat) (isAcceptor isIntegrity : Bool)
    (blocks : List CanonicalBlockView) (thisError : BpSecError) : Option (Bool × List CanonicalBlockView) := do
  let asb ← asbAt blocks idx
  let canonicalIndex ← if thisError.securityTargetIndex = uint64Max then some uint64Max
    else asb.securityTargets[thisError.securityTargetIndex]?
  let errorTargetsPayloadBlock := canonicalIndex = 1 ∨ canonicalIndex = uint64Max
  let mut blocks := blocks
  let mut removedSop := false
  let mut removedSopTarget := false
  if isAcceptor then
    if !isIntegrity then
      if errorTargetsPayloadBlock then return (false, blocks)
      match removeSopAt blocks idx thisError.securityTargetIndex with
      | none => return (false, blocks)
      | some blocks' =>
        let asb ← asbAt blocks' idx
        blocks := removeSopTargetBlock blocks' asb canonicalIndex
      removedSop := true
      removedSopTarget := true
    match evtLut (acceptorFailureEvent thisError.errorCode) with
    | none => return (false, blocks)
    | some actionMask =>
      if !removedSop then
        match removeSopAt blocks idx thisError.securityTargetIndex with
        | none => return (false, blocks)
        | some blocks' => blocks := blocks'
      if actionMask.failBundleForwarding then return (false, blocks)
      if actionMask.removeSecurityOperationTargetBlock then
        if errorTargetsPayloadBlock then return (false, blocks)
        if !removedSopTarget then
          let asb ← asbAt blocks idx
          blocks := removeSopTargetBlock blocks asb canonicalIndex
      return (true, blocks)
  else
    match evtLut (verifierFailureEvent thisError.errorCode) with
    | none => return (false, blocks)
    | some actionMask =>
      if actionMask.removeSecurityOperation then
        match removeSopAt blocks idx thisError.securityTargetIndex with
        | none => return (false, blocks)
        | some blocks' => blocks := blocks'
      if actionMask.failBundleForwarding then return (false, blocks)
      if actionMask.removeSecurityOperationTargetBlock then
        if errorTargetsPayloadBlock then return (false, blocks)
        let asb ← asbAt blocks idx
        blocks := removeSopTargetBlock blocks asb canonicalIndex
      return (true, blocks)

/-- `DoFailureEvent`'s loop over the errors. -/
def doFailureEventErrors (evtLut : FailureEventSet) (idx : Nat) (isAcceptor isIntegrity : Bool) :
    List BpSecError → List CanonicalBlockView → Option (Bool × List CanonicalBlockView)
  | [], blocks => some (true, blocks)
  | thisError :: errors, blocks => do
    let (dontDropBundle, blocks) ← doFailureEventForError evtLut idx isAcceptor isIntegrity blocks thisError
    if dontDropBundle then doFailureEventErrors evtLut idx isAcceptor isIntegrity errors blocks
    else some (false, blocks)

/-- `DoFailureEvent`: the event set of the service is dereferenced (`none`, undefined, when the
policy has none), then each error is handled. -/
def doFailureEvent (blocks : List CanonicalBlockView) (policy : BpSecPolicy) (errorList : List BpSecError)
    (idx : Nat) (isAcceptor isIntegrity : Bool) : Option (Bool × List CanonicalBlockView) := do
  let evtLut ← if isIntegrity then policy.integritySecurityFailureEventSetReferencePtr
    else policy.confidentialitySecurityFailureEventSetReferencePtr
  doFailureEventErrors evtLut idx isAcceptor isIntegrity errorList blocks

/-! ### The block type loop -/

/-- `for (uint64_t blockType = beginIndex; blockType <= endIndex; ++blockType)`, run for at most
`fuel` iterations: the block types its body runs on, and whether the loop exited.  `blockType`
is a `uint64_t`, so `++blockType` wraps from `UINT64_MAX` to `0`, modulo `UINT64_MAX + 1`. -/
def blockTypeLoop : (fuel blockType endIndex : Nat) → List Nat × Bool
  | 0, _, _ => ([], false)
  | fuel + 1, blockType, endIndex =>
    if blockType ≤ endIndex then
      let (visited, exited) := blockTypeLoop fuel ((blockType + 1) % (uint64Max + 1)) endIndex
      (blockType :: visited, exited)
    else ([], true)

/-- **A fragment below `UINT64_MAX`.**  With enough iterations, the loop visits `beginIndex`
to `endIndex` in order, and exits. -/
theorem blockTypeLoop_of_lt {endIndex : Nat} (he : endIndex < uint64Max) :
    ∀ {fuel blockType : Nat}, blockType ≤ endIndex + 1 → endIndex + 1 - blockType < fuel →
      blockTypeLoop fuel blockType endIndex = (List.range' blockType (endIndex + 1 - blockType), true)
  | 0, _, _, hf => absurd hf (Nat.not_lt_zero _)
  | fuel + 1, blockType, hb, hf => by
    unfold blockTypeLoop
    split_ifs with hle
    · have hwrap : (blockType + 1) % (uint64Max + 1) = blockType + 1 := Nat.mod_eq_of_lt (by omega)
      rw [hwrap, blockTypeLoop_of_lt he (by omega) (by omega),
        show endIndex + 1 - blockType = (endIndex + 1 - (blockType + 1)) + 1 by omega, List.range'_succ]
    · rw [show endIndex + 1 - blockType = 0 by omega, List.range'_zero]

/-- **A fragment ending at `UINT64_MAX`.**  Every `uint64_t` value is at most `UINT64_MAX`, so
the loop never exits, whatever the number of iterations (nor would it for a larger end, which
no `uint64_t` is). -/
theorem blockTypeLoop_uint64Max :
    ∀ (fuel : Nat) {blockType endIndex : Nat}, uint64Max ≤ endIndex → blockType ≤ endIndex →
      (blockTypeLoop fuel blockType endIndex).2 = false
  | 0, _, _, _, _ => rfl
  | fuel + 1, blockType, endIndex, he, hb => by
    have hnext : (blockType + 1) % (uint64Max + 1) ≤ endIndex :=
      le_trans (Nat.le_of_lt_succ (Nat.mod_lt _ (Nat.succ_pos _))) he
    simp only [blockTypeLoop, hb, if_true, blockTypeLoop_uint64Max fuel he hnext]

theorem blockTypeLoop_singleton {blockType : Nat} (hb : blockType < uint64Max) {fuel : Nat} (hf : 2 ≤ fuel) :
    blockTypeLoop fuel blockType blockType = ([blockType], true) := by
  rw [blockTypeLoop_of_lt hb (by omega) (by omega), show blockType + 1 - blockType = 1 by omega]
  rfl

/-- The loops over the fragments `[b, b]` of a target set: the block types visited, member
after member, `none` where a loop never exits.  Two iterations tell the two cases apart
(`blockTypeLoop_singleton`, `blockTypeLoop_uint64Max`). -/
def visitTargets : List Nat → Option (List Nat)
  | [] => some []
  | blockType :: blockTypeTargets =>
    let (visited, exited) := blockTypeLoop 2 blockType blockType
    if exited then (visitTargets blockTypeTargets).map (visited ++ ·) else none

theorem visitTargets_of_lt : ∀ {blockTypeTargets : List Nat}, (∀ b ∈ blockTypeTargets, b < uint64Max) →
    visitTargets blockTypeTargets = some blockTypeTargets
  | [], _ => rfl
  | b :: bs, h => by
    simp only [visitTargets, blockTypeLoop_singleton (h b (List.mem_cons_self _ _)) (le_refl 2), if_true,
      visitTargets_of_lt fun b' hb' => h b' (List.mem_cons_of_mem _ hb'), Option.map_some', List.singleton_append]

theorem visitTargets_eq_some : ∀ {blockTypeTargets visited : List Nat},
    visitTargets blockTypeTargets = some visited → visited = blockTypeTargets
  | [], _, h => (Option.some.inj h).symm
  | b :: bs, visited, h => by
    rcases hl : blockTypeLoop 2 b b with ⟨v, exited⟩
    simp only [visitTargets, hl] at h
    by_cases hb : b < uint64Max
    · obtain ⟨rfl, rfl⟩ := Prod.mk.inj ((blockTypeLoop_singleton hb (le_refl 2)).symm.trans hl)
      obtain ⟨visited', h', rfl⟩ := Option.map_eq_some'.mp ((if_pos rfl).symm.trans h)
      rw [visitTargets_eq_some h']
      rfl
    · have hexit : exited = false := by
        rw [← blockTypeLoop_uint64Max 2 (not_lt.mp hb) (le_refl b), hl]
      simp [hexit] at h

/-! ### The mask of the expected targets -/

/-- `mask |= ((uint64_t)(1)) << blockType` over the visited block types: `none` at a shift by
64 or more, which C++ leaves undefined. -/
def orShiftedBits (mask : Nat) : List Nat → Option Nat
  | [] => some mask
  | blockType :: blockTypes =>
    if blockType < 64 then orShiftedBits (mask ||| 1 <<< blockType) blockTypes else none

/-- `crp.expectedTargetBlockTypesMask` (and `irp`'s) as `ProcessReceivedBundle` builds it from
a target set: `none` where a loop never exits or a shift is by 64 or more. -/
def expectedTargetBlockTypesMask (blockTypeTargets : List Nat) : Option Nat :=
  (visitTargets blockTypeTargets).bind (orShiftedBits 0)

theorem orShiftedBits_eq_foldl :
    ∀ {mask : Nat} {blockTypes : List Nat}, (∀ b ∈ blockTypes, b < 64) →
      orShiftedBits mask blockTypes = some (blockTypes.foldl (fun mask blockType => mask ||| 1 <<< blockType) mask)
  | _, [], _ => rfl
  | mask, b :: bs, h => by
    rw [orShiftedBits, if_pos (h b (List.mem_cons_self _ _)),
      orShiftedBits_eq_foldl fun b' hb' => h b' (List.mem_cons_of_mem _ hb'), List.foldl_cons]

/-- **The mask of targets below 64.**  When every target is below 64, the loops exit, no shift
is undefined, and the mask has the bit of each target set. -/
theorem expectedTargetBlockTypesMask_eq {blockTypeTargets : List Nat} (h : ∀ b ∈ blockTypeTargets, b < 64) :
    expectedTargetBlockTypesMask blockTypeTargets =
      some (blockTypeTargets.foldl (fun mask blockType => mask ||| 1 <<< blockType) 0) := by
  rw [expectedTargetBlockTypesMask, visitTargets_of_lt fun b hb => by have := h b hb; unfold uint64Max; omega,
    Option.some_bind, orShiftedBits_eq_foldl h]

/-! ### The processor -/

/-- `ConfidentialityReceivedParameters`; an empty key stands for `NULL`. -/
structure ConfidentialityReceivedParameters where
  keyEncryptionKey : List UInt8
  dataEncryptionKey : List UInt8
  expectedIvLength : Nat
  expectedVariant : CoseAlgorithm
  expectedAadScopeMask : Nat
  expectedTargetBlockTypesMask : Nat
deriving DecidableEq, Repr

/-- `IntegrityReceivedParameters`; an empty key stands for `NULL`. -/
structure IntegrityReceivedParameters where
  keyEncryptionKey : List UInt8
  hmacKey : List UInt8
  expectedVariant : CoseAlgorithm
  expectedScopeMask : Nat
  expectedTargetBlockTypesMask : Nat
deriving DecidableEq, Repr

/-- The parameters a BCB is processed with under a policy: `none` where building the mask of
its target block types is undefined or never ends. -/
def BpSecPolicy.confidentialityReceivedParameters (p : BpSecPolicy) : Option ConfidentialityReceivedParameters :=
  (expectedTargetBlockTypesMask p.bcbBlockTypeTargets).map fun mask =>
    ⟨p.confidentialityKeyEncryptionKey, p.dataEncryptionKey, if p.use12ByteIv then 12 else 16,
      p.confidentialityVariant, p.aadScopeMask, mask⟩

/-- The parameters a BIB is processed with under a policy: `none` where building the mask of its
target block types is undefined or never ends. -/
def BpSecPolicy.integrityReceivedParameters (p : BpSecPolicy) : Option IntegrityReceivedParameters :=
  (expectedTargetBlockTypesMask p.bibBlockTypeTargets).map fun mask =>
    ⟨p.hmacKeyEncryptionKey, p.hmacKey, p.integrityVariant, p.integrityScopeMask, mask⟩

/-- `BpSecBundleProcessor`'s two receive operations on the security block at a position: the
new canonical block views and the errors.  The last argument is `verifyOnly` for a BCB and
`markBibForDeletion` for a BIB. -/
structure BpSecBundleProcessor where
  tryDecryptBundleByIndividualBcb :
    BundleViewV7 → Nat → ConfidentialityReceivedParameters → Bool → List CanonicalBlockView × List BpSecError
  tryVerifyBundleIntegrityByIndividualBib :
    BundleViewV7 → Nat → IntegrityReceivedParameters → Bool → List CanonicalBlockView × List BpSecError

/-- What the manager hands to the processor or to the missing-policy path for a block. -/
inductive ReceiveEvent where
  | tryDecryptBundleByIndividualBcb (blockIndex : Nat) (crp : ConfidentialityReceivedParameters) (verifyOnly : Bool)
  | tryVerifyBundleIntegrityByIndividualBib (blockIndex : Nat) (irp : IntegrityReceivedParameters)
      (markBibForDeletion : Bool)
  | sopMissingAtAcceptor (blockIndex : Nat) (isIntegrity : Bool)
deriving DecidableEq, Repr

/-- The processor call for a security block of a service under a policy, once its parameters are
built; `isAcceptor` is `!verifyOnly` for a BCB and `markBibForDeletion` for a BIB. -/
def callProcessor (processor : BpSecBundleProcessor) (isIntegrity : Bool) (bv : BundleViewV7) (idx : Nat)
    (policy : BpSecPolicy) (isAcceptor : Bool) : Option (List CanonicalBlockView × List BpSecError × ReceiveEvent) :=
  if isIntegrity then do
    let irp ← policy.integrityReceivedParameters
    let (blocks, errorList) := processor.tryVerifyBundleIntegrityByIndividualBib bv idx irp isAcceptor
    pure (blocks, errorList, .tryVerifyBundleIntegrityByIndividualBib idx irp isAcceptor)
  else do
    let crp ← policy.confidentialityReceivedParameters
    let (blocks, errorList) := processor.tryDecryptBundleByIndividualBcb bv idx crp (!isAcceptor)
    pure (blocks, errorList, .tryDecryptBundleByIndividualBcb idx crp (!isAcceptor))

/-! ### The two loops -/

/-- `BpSecPolicyProcessingContext`'s search caches. -/
structure BpSecPolicyProcessingContext where
  searchCacheBcbAcceptor : PolicySearchCache
  searchCacheBcbVerifier : PolicySearchCache
  searchCacheBibAcceptor : PolicySearchCache
  searchCacheBibVerifier : PolicySearchCache

/-- A context as constructed. -/
def BpSecPolicyProcessingContext.initial : BpSecPolicyProcessingContext :=
  ⟨.initial, .initial, .initial, .initial⟩

namespace BpSecPolicyProcessingContext

/-- The cache of a service and role. -/
def searchCache (ctx : BpSecPolicyProcessingContext) : Bool → Bool → PolicySearchCache
  | false, true => ctx.searchCacheBcbAcceptor
  | false, false => ctx.searchCacheBcbVerifier
  | true, true => ctx.searchCacheBibAcceptor
  | true, false => ctx.searchCacheBibVerifier

/-- The context with the cache of a service and role replaced. -/
def setSearchCache (ctx : BpSecPolicyProcessingContext) : Bool → Bool → PolicySearchCache → BpSecPolicyProcessingContext
  | false, true, c => { ctx with searchCacheBcbAcceptor := c }
  | false, false, c => { ctx with searchCacheBcbVerifier := c }
  | true, true, c => { ctx with searchCacheBibAcceptor := c }
  | true, false, c => { ctx with searchCacheBibVerifier := c }

/-- Every cache holds `FindPolicy`'s result for its key. -/
def Consistent (trie : PolicyTrie) (ctx : BpSecPolicyProcessingContext) : Prop :=
  ∀ isIntegrity isAcceptor, (ctx.searchCache isIntegrity isAcceptor).Consistent trie

theorem consistent_initial (trie : PolicyTrie) : initial.Consistent trie := by
  intro isIntegrity isAcceptor
  cases isIntegrity <;> cases isAcceptor <;> exact PolicySearchCache.consistent_initial trie

@[simp] theorem searchCache_setSearchCache (ctx : BpSecPolicyProcessingContext) (i a i' a' : Bool)
    (c : PolicySearchCache) :
    (ctx.setSearchCache i a c).searchCache i' a' = if i' = i ∧ a' = a then c else ctx.searchCache i' a' := by
  cases i <;> cases a <;> cases i' <;> cases a' <;> rfl

theorem Consistent.setSearchCache {trie : PolicyTrie} {ctx : BpSecPolicyProcessingContext} (hc : ctx.Consistent trie)
    {isIntegrity isAcceptor : Bool} {c : PolicySearchCache} (h : c.Consistent trie) :
    (ctx.setSearchCache isIntegrity isAcceptor c).Consistent trie := by
  intro i a
  rw [searchCache_setSearchCache]
  split_ifs
  exacts [h, hc i a]

end BpSecPolicyProcessingContext

/-- What `ProcessReceivedBundle` changes: the canonical block views, the context, the error
list, and the events so far. -/
structure ReceiveState where
  canonicalBlocks : List CanonicalBlockView
  ctx : BpSecPolicyProcessingContext
  errorList : List BpSecError
  events : List ReceiveEvent

/-- The role a lookup is for. -/
def roleOf (isAcceptor : Bool) : BpSecRole := if isAcceptor then .acceptor else .verifier

/-- Whether a policy has a service. -/
def BpSecPolicy.hasService (p : BpSecPolicy) (isIntegrity : Bool) : Bool :=
  if isIntegrity then p.doIntegrity else p.doConfidentiality

section loops

variable (m : BpSecPolicyManager) (processor : BpSecBundleProcessor) (primary : PrimaryBlock)
  (isIntegrity : Bool)

/-- `FindPolicyWithCacheSupport` for a security block, with the cache of its service and role. -/
def ReceiveState.findPolicy (s : ReceiveState) (isAcceptor : Bool) (asb : AbstractSecurityBlock) :
    Option BpSecPolicy × ReceiveState :=
  let (found, c) := findPolicyWithCacheSupport m.policyFilterSecuritySource asb.securitySource primary.sourceNodeId
    primary.destinationEid (roleOf isAcceptor) (s.ctx.searchCache isIntegrity isAcceptor)
  (found, { s with ctx := s.ctx.setSearchCache isIntegrity isAcceptor c })

/-- The rest of an iteration once a policy is found: nothing without the block's service,
else the processor call (undefined where its parameters are) and `DoFailureEvent` on its
errors. -/
def ReceiveState.applyPolicy (s : ReceiveState) (idx : Nat) (policy : BpSecPolicy) (isAcceptor : Bool) :
    Option (Bool × ReceiveState) :=
  if !policy.hasService isIntegrity then some (true, s)
  else do
    let (blocks, errorList, event) ← callProcessor processor isIntegrity ⟨primary, s.canonicalBlocks⟩ idx policy isAcceptor
    let s := { s with canonicalBlocks := blocks, errorList, events := s.events ++ [event] }
    if errorList.isEmpty then some (true, s)
    else do
      let (dontDropBundle, blocks) ← doFailureEvent s.canonicalBlocks policy errorList idx isAcceptor isIntegrity
      some (dontDropBundle, { s with canonicalBlocks := blocks })

/-- One iteration of the BCB loop (`isIntegrity = false`) or of the BIB loop, for the view at
`idx`: `some (false, _)` where `ProcessReceivedBundle` returns false, `some (true, _)` where it
goes on, `none` where the behaviour is undefined. -/
def processSecurityBlock (bundleIsAtFinalDest : Bool) (s : ReceiveState) (idx : Nat) : Option (Bool × ReceiveState) := do
  let view ← s.canonicalBlocks[idx]?
  match view.asb with
  | none => some (false, s)
  | some asb =>
    match s.findPolicy m primary isIntegrity true asb with
    | (some policy, s) => s.applyPolicy processor primary isIntegrity idx policy true
    | (none, s) =>
      if bundleIsAtFinalDest then
        let (dontDropBundle, blocks) :=
          doFailureEventSopMissingAtAcceptor s.canonicalBlocks m.actionMaskSopMissingAtAcceptor asb isIntegrity
        some (dontDropBundle, { s with canonicalBlocks := blocks, errorList := ⟨.missing, uint64Max⟩ :: s.errorList,
                                       events := s.events ++ [.sopMissingAtAcceptor idx isIntegrity] })
      else
        match s.findPolicy m primary isIntegrity false asb with
        | (none, s) => some (true, s)
        | (some policy, s) => s.applyPolicy processor primary isIntegrity idx policy false

/-- The loop over the security blocks of one service. -/
def processSecurityBlocks (bundleIsAtFinalDest : Bool) : List Nat → ReceiveState → Option (Bool × ReceiveState)
  | [], s => some (true, s)
  | idx :: idxs, s => do
    let (goOn, s) ← processSecurityBlock m processor primary isIntegrity bundleIsAtFinalDest s idx
    if goOn then processSecurityBlocks bundleIsAtFinalDest idxs s else some (false, s)

end loops

/-- `ProcessReceivedBundle`: the BCB loop, then the BIB loop over the blocks of type integrity
after it. -/
def processReceivedBundle (m : BpSecPolicyManager) (processor : BpSecBundleProcessor) (bv : BundleViewV7)
    (ctx : BpSecPolicyProcessingContext) (errorList : List BpSecError) (myNodeId : Nat) :
    Option (Bool × ReceiveState) := do
  let bundleIsAtFinalDest := bv.primary.destinationEid.nodeId = myNodeId
  let s : ReceiveState := ⟨bv.canonicalBlocks, ctx, errorList, []⟩
  let (goOn, s) ← processSecurityBlocks m processor bv.primary false bundleIsAtFinalDest
    (blockIndicesByType bv.canonicalBlocks confidentialityBlockType) s
  if goOn then
    processSecurityBlocks m processor bv.primary true bundleIsAtFinalDest
      (blockIndicesByType s.canonicalBlocks integrityBlockType) s
  else some (false, s)

/-! ### What the loops do with each block -/

/-- A call of the processor for the block at `idx`, as acceptor or as verifier. -/
def ReceiveEvent.IsProcessorCall (isIntegrity : Bool) (idx : Nat) (isAcceptor : Bool) : ReceiveEvent → Prop
  | .tryDecryptBundleByIndividualBcb i _ verifyOnly => isIntegrity = false ∧ i = idx ∧ verifyOnly = !isAcceptor
  | .tryVerifyBundleIntegrityByIndividualBib i _ markBibForDeletion =>
    isIntegrity = true ∧ i = idx ∧ markBibForDeletion = isAcceptor
  | .sopMissingAtAcceptor _ _ => False

/-- What a policy makes the loop add to the events: a processor call if it has the service,
nothing otherwise. -/
def PolicyApplied (isIntegrity : Bool) (idx : Nat) (isAcceptor : Bool) (policy : BpSecPolicy)
    (added : List ReceiveEvent) : Prop :=
  policy.hasService isIntegrity = true ∧ (∃ e, added = [e] ∧ e.IsProcessorCall isIntegrity idx isAcceptor) ∨
    policy.hasService isIntegrity = false ∧ added = []

/-- How one iteration accounts for the security block at `idx`, whose security block was `asb`,
by the events it added: under the acceptor policy of `asb`'s security source if there is one; else
by the missing-policy path at the final destination; else under the verifier policy, or not at
all. -/
def Accounted (trie : PolicyTrie) (primary : PrimaryBlock) (isIntegrity bundleIsAtFinalDest : Bool) (idx : Nat)
    (asb : AbstractSecurityBlock) (added : List ReceiveEvent) : Prop :=
  let lookup := fun isAcceptor =>
    findPolicy trie asb.securitySource primary.sourceNodeId primary.destinationEid (roleOf isAcceptor)
  (∃ policy, lookup true = some policy ∧ PolicyApplied isIntegrity idx true policy added) ∨
    lookup true = none ∧ bundleIsAtFinalDest = true ∧ added = [.sopMissingAtAcceptor idx isIntegrity] ∨
    lookup true = none ∧ bundleIsAtFinalDest = false ∧
      (lookup false = none ∧ added = [] ∨ ∃ policy, lookup false = some policy ∧ PolicyApplied isIntegrity idx false policy added)

section accounted

variable {m : BpSecPolicyManager} {processor : BpSecBundleProcessor} {primary : PrimaryBlock} {isIntegrity : Bool}

theorem ReceiveState.findPolicy_eq (s : ReceiveState) (hc : s.ctx.Consistent m.policyFilterSecuritySource)
    (primary : PrimaryBlock) (isIntegrity isAcceptor : Bool) (asb : AbstractSecurityBlock) :
    ∃ ctx : BpSecPolicyProcessingContext, ctx.Consistent m.policyFilterSecuritySource ∧
      s.findPolicy m primary isIntegrity isAcceptor asb = (Hdtn.Bpsec.findPolicy m.policyFilterSecuritySource
        asb.securitySource primary.sourceNodeId primary.destinationEid (roleOf isAcceptor), { s with ctx }) :=
  let ⟨h₁, h₂⟩ := findPolicyWithCacheSupport_eq (hc isIntegrity isAcceptor) asb.securitySource primary.sourceNodeId
    primary.destinationEid (roleOf isAcceptor)
  ⟨_, hc.setSearchCache h₂, Prod.ext h₁ rfl⟩

theorem ReceiveState.findPolicy_spec {s : ReceiveState} (hc : s.ctx.Consistent m.policyFilterSecuritySource)
    (primary : PrimaryBlock) (isIntegrity isAcceptor : Bool) (asb : AbstractSecurityBlock) :
    (s.findPolicy m primary isIntegrity isAcceptor asb).1 = Hdtn.Bpsec.findPolicy m.policyFilterSecuritySource
        asb.securitySource primary.sourceNodeId primary.destinationEid (roleOf isAcceptor) ∧
      (s.findPolicy m primary isIntegrity isAcceptor asb).2.ctx.Consistent m.policyFilterSecuritySource ∧
      (s.findPolicy m primary isIntegrity isAcceptor asb).2.events = s.events := by
  obtain ⟨ctx, hctx, h⟩ := ReceiveState.findPolicy_eq s hc primary isIntegrity isAcceptor asb
  rw [h]
  exact ⟨rfl, hctx, rfl⟩

theorem callProcessor_isProcessorCall {bv : BundleViewV7} {idx : Nat} {policy : BpSecPolicy} {isAcceptor : Bool}
    {r : List CanonicalBlockView × List BpSecError × ReceiveEvent}
    (h : callProcessor processor isIntegrity bv idx policy isAcceptor = some r) :
    r.2.2.IsProcessorCall isIntegrity idx isAcceptor := by
  unfold callProcessor at h
  cases isIntegrity <;> obtain ⟨_, -, h⟩ := Option.bind_eq_some.mp h <;> split at h <;> cases h <;>
    simp [ReceiveEvent.IsProcessorCall]

theorem ReceiveState.applyPolicy_spec {s s' : ReceiveState} {idx : Nat} {policy : BpSecPolicy} {isAcceptor : Bool}
    (h : s.applyPolicy processor primary isIntegrity idx policy isAcceptor = some (true, s')) :
    s'.ctx = s.ctx ∧ ∃ added, s'.events = s.events ++ added ∧ PolicyApplied isIntegrity idx isAcceptor policy added := by
  unfold applyPolicy at h
  split_ifs at h with hs
  · cases h
    exact ⟨rfl, [], by simp, .inr ⟨by simpa using hs, rfl⟩⟩
  · obtain ⟨⟨blocks, errorList, event⟩, hcall, h⟩ := Option.bind_eq_some.mp h
    have happlied : PolicyApplied isIntegrity idx isAcceptor policy [event] :=
      .inl ⟨by simpa using hs, _, rfl, callProcessor_isProcessorCall hcall⟩
    dsimp only at h
    split at h
    · cases h
      exact ⟨rfl, _, rfl, happlied⟩
    · obtain ⟨r, -, h⟩ := Option.bind_eq_some.mp h
      obtain ⟨-, rfl⟩ := Prod.mk.inj (Option.some.inj h)
      exact ⟨rfl, _, rfl, happlied⟩

/-- **One iteration.**  An iteration that goes on keeps the caches consistent and adds the
events that account for the block it handled. -/
theorem processSecurityBlock_accounted {bundleIsAtFinalDest : Bool} {s s' : ReceiveState} {idx : Nat}
    (hc : s.ctx.Consistent m.policyFilterSecuritySource)
    (h : processSecurityBlock m processor primary isIntegrity bundleIsAtFinalDest s idx = some (true, s')) :
    s'.ctx.Consistent m.policyFilterSecuritySource ∧ ∃ asb added, asbAt s.canonicalBlocks idx = some asb ∧
      s'.events = s.events ++ added ∧
      Accounted m.policyFilterSecuritySource primary isIntegrity bundleIsAtFinalDest idx asb added := by
  unfold processSecurityBlock at h
  obtain ⟨view, hv, h⟩ := Option.bind_eq_some.mp h
  cases ha : view.asb with
  | none => simp [ha] at h
  | some asb =>
    have hasb : asbAt s.canonicalBlocks idx = some asb := by simp [asbAt, hv, ha]
    simp only [ha] at h
    obtain ⟨hf₁, hc₁, he₁⟩ := ReceiveState.findPolicy_spec hc primary isIntegrity true asb
    rcases hp₁ : s.findPolicy m primary isIntegrity true asb with ⟨_ | policy, s₁⟩ <;>
      rw [hp₁] at h hf₁ hc₁ he₁ <;> dsimp only at h hf₁ hc₁ he₁
    case some =>
      obtain ⟨hctx, added, he, happ⟩ := ReceiveState.applyPolicy_spec h
      exact ⟨hctx ▸ hc₁, asb, added, hasb, by rw [he, he₁], .inl ⟨policy, hf₁.symm, happ⟩⟩
    case none =>
    split_ifs at h with hfinal
    case pos =>
      obtain ⟨-, rfl⟩ := Prod.mk.inj (Option.some.inj h)
      exact ⟨hc₁, asb, _, hasb, by rw [he₁], .inr (.inl ⟨hf₁.symm, hfinal, rfl⟩)⟩
    case neg =>
    obtain ⟨hf₂, hc₂, he₂⟩ := ReceiveState.findPolicy_spec hc₁ primary isIntegrity false asb
    rcases hp₂ : s₁.findPolicy m primary isIntegrity false asb with ⟨_ | policy, s₂⟩ <;>
      rw [hp₂] at h hf₂ hc₂ he₂ <;> dsimp only at h hf₂ hc₂ he₂
    case none =>
      obtain ⟨-, rfl⟩ := Prod.mk.inj (Option.some.inj h)
      exact ⟨hc₂, asb, [], hasb, by rw [he₂, he₁, List.append_nil],
        .inr (.inr ⟨hf₁.symm, by simpa using hfinal, .inl ⟨hf₂.symm, rfl⟩⟩)⟩
    case some =>
      obtain ⟨hctx, added, he, happ⟩ := ReceiveState.applyPolicy_spec h
      exact ⟨hctx ▸ hc₂, asb, added, hasb, by rw [he, he₂, he₁],
        .inr (.inr ⟨hf₁.symm, by simpa using hfinal, .inr ⟨policy, hf₂.symm, happ⟩⟩)⟩

/-- **The loop.**  A loop over the security blocks of one service that returns true keeps the
caches consistent, and the events it adds are, block after block, those that account for each
block with the security block it held at its turn. -/
theorem processSecurityBlocks_accounted {bundleIsAtFinalDest : Bool} :
    ∀ {idxs : List Nat} {s s' : ReceiveState}, s.ctx.Consistent m.policyFilterSecuritySource →
      processSecurityBlocks m processor primary isIntegrity bundleIsAtFinalDest idxs s = some (true, s') →
      s'.ctx.Consistent m.policyFilterSecuritySource ∧ ∃ chunks : List (List ReceiveEvent),
        s'.events = s.events ++ chunks.flatten ∧
        List.Forall₂ (fun idx added =>
          ∃ asb, Accounted m.policyFilterSecuritySource primary isIntegrity bundleIsAtFinalDest idx asb added) idxs chunks
  | [], _, _, hc, h => by
    cases h
    exact ⟨hc, [], by simp, .nil⟩
  | idx :: idxs, s, s', hc, h => by
    obtain ⟨⟨goOn, s₁⟩, h₁, h⟩ := Option.bind_eq_some.mp h
    cases goOn
    · cases h
    obtain ⟨hc₁, asb, added, -, he₁, hacc⟩ := processSecurityBlock_accounted hc h₁
    obtain ⟨hc', chunks, he, hall⟩ := processSecurityBlocks_accounted hc₁ h
    exact ⟨hc', added :: chunks, by rw [he, he₁, List.flatten_cons, List.append_assoc], .cons ⟨asb, hacc⟩ hall⟩

end accounted

/-! ### An acceptor policy without confidentiality

At the final destination, a BCB whose acceptor policy lacks confidentiality reaches
`if (!bpSecPolicyPtr->m_doConfidentiality) continue;`: it is neither decrypted nor reported
missing, and the bundle is kept with its payload encrypted, whatever the processor would do. -/

/-- An acceptor integrity rule for every bundle. -/
def integrityAcceptorConfig : BpSecConfig :=
  ⟨⟨false, false, false⟩, [exampleRule "acceptor" "integrity" "ipn:*.*" "ipn:*.*"]⟩

/-- A bundle from `ipn:2.1` to `ipn:1.1` whose payload block is the target of a BCB of
`ipn:3.1`. -/
def encryptedPayloadBundle : BundleViewV7 :=
  ⟨⟨⟨2, 1⟩, ⟨1, 1⟩⟩,
    [⟨1, payloadBlockType, none, false, false⟩, ⟨2, confidentialityBlockType, some ⟨⟨3, 1⟩, [1], [0]⟩, false, false⟩]⟩

theorem bcb_skipped_by_integrity_acceptor (processor : BpSecBundleProcessor) :
    ∃ m, loadFromConfig exampleEnv .empty integrityAcceptorConfig = some m ∧
      (∃ p, findPolicy m.policyFilterSecuritySource ⟨3, 1⟩ ⟨2, 1⟩ ⟨1, 1⟩ .acceptor = some p ∧
        p.doConfidentiality = false) ∧
      ∃ s, processReceivedBundle m processor encryptedPayloadBundle .initial [] 1 = some (true, s) ∧
        s.events = [] ∧ s.canonicalBlocks = encryptedPayloadBundle.canonicalBlocks :=
  ⟨_, rfl, ⟨_, rfl, rfl⟩, _, rfl, rfl, rfl⟩

/-! ### Errors of an earlier security block

`errorList` collects the `MISSING` error of a BCB that has no acceptor policy at the final
destination, but the next processor call assigns its own errors to `errorList`: a later BCB that
decrypts without error leaves the caller an empty list. -/

/-- An acceptor confidentiality rule of `ipn:5.5` for every bundle. -/
def confidentialityAcceptorConfig : BpSecConfig :=
  ⟨⟨false, false, false⟩, [exampleRule "acceptor" "confidentiality" "ipn:5.5" "ipn:*.*"]⟩

/-- A processor under which every operation succeeds and leaves the views as they are. -/
def acceptingProcessor : BpSecBundleProcessor :=
  ⟨fun bv _ _ _ => (bv.canonicalBlocks, []), fun bv _ _ _ => (bv.canonicalBlocks, [])⟩

/-- A bundle from `ipn:2.1` to `ipn:1.1` with a bundle age block (type 7) encrypted by a BCB of
`ipn:3.1`, and its payload encrypted by a BCB of `ipn:5.5`. -/
def twoBcbBundle : BundleViewV7 :=
  ⟨⟨⟨2, 1⟩, ⟨1, 1⟩⟩,
    [⟨1, payloadBlockType, none, false, false⟩, ⟨3, 7, none, false, false⟩,
      ⟨4, confidentialityBlockType, some ⟨⟨3, 1⟩, [3], [0]⟩, false, false⟩,
      ⟨5, confidentialityBlockType, some ⟨⟨5, 5⟩, [1], [0]⟩, false, false⟩]⟩

theorem missing_error_overwritten :
    ∃ m, loadFromConfig exampleEnv .empty confidentialityAcceptorConfig = some m ∧
      (∃ s₁, processSecurityBlock m acceptingProcessor twoBcbBundle.primary false true
          ⟨twoBcbBundle.canonicalBlocks, .initial, [], []⟩ 2 = some (true, s₁) ∧
        s₁.errorList = [⟨.missing, uint64Max⟩] ∧ s₁.events = [.sopMissingAtAcceptor 2 false]) ∧
      ∃ s, processReceivedBundle m acceptingProcessor twoBcbBundle .initial [] 1 = some (true, s) ∧
        (∃ crp, s.events = [.sopMissingAtAcceptor 2 false, .tryDecryptBundleByIndividualBcb 3 crp false]) ∧
        s.errorList = [] :=
  ⟨_, rfl, ⟨_, rfl, rfl, rfl⟩, _, rfl, ⟨_, rfl⟩, rfl⟩

/-! ### Reusing the context

The caller keeps one `BpSecPolicyProcessingContext` from bundle to bundle, so that its search
caches save trie lookups.  The processor never sees the context, and a cache consistent with the
trie returns what `FindPolicy` returns: a run from such a context is a run from a fresh one but
for the context, which it leaves consistent. -/

/-- Two results of an iteration or a loop that are equal but for their contexts, both with
caches consistent with `trie`. -/
def SameButContext (trie : PolicyTrie) (r₁ r₂ : Bool × ReceiveState) : Prop :=
  r₁.2.ctx.Consistent trie ∧ ∃ ctx, ctx.Consistent trie ∧ r₂ = (r₁.1, { r₁.2 with ctx })

theorem optionRel_bind {α β γ δ : Type} {R : α → β → Prop} {S : γ → δ → Prop} {o₁ : Option α} {o₂ : Option β}
    (h : Option.Rel R o₁ o₂) {f : α → Option γ} {g : β → Option δ} (hfg : ∀ a b, R a b → Option.Rel S (f a) (g b)) :
    Option.Rel S (o₁ >>= f) (o₂ >>= g) := by
  cases h with
  | some hab => exact hfg _ _ hab
  | none => exact .none

theorem SameButContext.observed {trie : PolicyTrie} {o₁ o₂ : Option (Bool × ReceiveState)}
    (h : Option.Rel (SameButContext trie) o₁ o₂) :
    o₁.map (fun r => (r.1, r.2.canonicalBlocks, r.2.errorList, r.2.events)) =
      o₂.map (fun r => (r.1, r.2.canonicalBlocks, r.2.errorList, r.2.events)) ∧ ∀ r ∈ o₁, r.2.ctx.Consistent trie := by
  cases h with
  | some hr =>
    obtain ⟨hc, _, -, rfl⟩ := hr
    exact ⟨rfl, fun _ h => Option.some.inj h ▸ hc⟩
  | none => exact ⟨rfl, fun _ h => nomatch h⟩

section reuse

variable {m : BpSecPolicyManager} {processor : BpSecBundleProcessor} {primary : PrimaryBlock} {isIntegrity : Bool}

theorem ReceiveState.applyPolicy_withCtx (s : ReceiveState) (ctx : BpSecPolicyProcessingContext) (idx : Nat)
    (policy : BpSecPolicy) (isAcceptor : Bool) :
    { s with ctx }.applyPolicy processor primary isIntegrity idx policy isAcceptor =
      (s.applyPolicy processor primary isIntegrity idx policy isAcceptor).map fun r => (r.1, { r.2 with ctx }) := by
  unfold applyPolicy
  dsimp only
  split_ifs
  · rfl
  · cases callProcessor processor isIntegrity ⟨primary, s.canonicalBlocks⟩ idx policy isAcceptor with
    | none => rfl
    | some r =>
      dsimp only [Option.bind_eq_bind, Option.some_bind]
      split_ifs
      · rfl
      · cases doFailureEvent _ policy _ idx isAcceptor isIntegrity <;> rfl

theorem sameButContext_applyPolicy {trie : PolicyTrie} {ctx₁ ctx₂ : BpSecPolicyProcessingContext}
    (h₁ : ctx₁.Consistent trie) (h₂ : ctx₂.Consistent trie) (s : ReceiveState) (idx : Nat) (policy : BpSecPolicy)
    (isAcceptor : Bool) :
    Option.Rel (SameButContext trie) ({ s with ctx := ctx₁ }.applyPolicy processor primary isIntegrity idx policy isAcceptor)
      ({ s with ctx := ctx₂ }.applyPolicy processor primary isIntegrity idx policy isAcceptor) := by
  rw [ReceiveState.applyPolicy_withCtx s ctx₁, ReceiveState.applyPolicy_withCtx s ctx₂]
  cases s.applyPolicy processor primary isIntegrity idx policy isAcceptor
  exacts [.none, .some ⟨h₁, ctx₂, h₂, rfl⟩]

/-- **One iteration** from two states equal but for their consistent contexts. -/
theorem processSecurityBlock_sameButContext {bundleIsAtFinalDest : Bool} {s : ReceiveState}
    {ctx : BpSecPolicyProcessingContext} {idx : Nat} (hs : s.ctx.Consistent m.policyFilterSecuritySource)
    (hc : ctx.Consistent m.policyFilterSecuritySource) :
    Option.Rel (SameButContext m.policyFilterSecuritySource)
      (processSecurityBlock m processor primary isIntegrity bundleIsAtFinalDest s idx)
      (processSecurityBlock m processor primary isIntegrity bundleIsAtFinalDest { s with ctx } idx) := by
  unfold processSecurityBlock
  cases s.canonicalBlocks[idx]? with
  | none => exact .none
  | some view =>
    dsimp only [Option.bind_eq_bind, Option.some_bind]
    cases view.asb with
    | none => exact .some ⟨hs, ctx, hc, rfl⟩
    | some asb =>
      dsimp only
      obtain ⟨ctx₁, hc₁, h₁⟩ := ReceiveState.findPolicy_eq s hs primary isIntegrity true asb
      obtain ⟨ctx₂, hc₂, h₂⟩ := ReceiveState.findPolicy_eq { s with ctx } hc primary isIntegrity true asb
      rw [h₁, h₂]
      cases Hdtn.Bpsec.findPolicy m.policyFilterSecuritySource asb.securitySource primary.sourceNodeId
        primary.destinationEid (roleOf true) with
      | some policy => exact sameButContext_applyPolicy hc₁ hc₂ s idx policy true
      | none =>
        cases bundleIsAtFinalDest with
        | true => exact .some ⟨hc₁, ctx₂, hc₂, rfl⟩
        | false =>
          obtain ⟨ctx₃, hc₃, h₃⟩ := ReceiveState.findPolicy_eq { s with ctx := ctx₁ } hc₁ primary isIntegrity false asb
          obtain ⟨ctx₄, hc₄, h₄⟩ := ReceiveState.findPolicy_eq { s with ctx := ctx₂ } hc₂ primary isIntegrity false asb
          dsimp only [Bool.false_eq_true, ite_false]
          rw [h₃, h₄]
          cases Hdtn.Bpsec.findPolicy m.policyFilterSecuritySource asb.securitySource primary.sourceNodeId
            primary.destinationEid (roleOf false) with
          | none => exact .some ⟨hc₃, ctx₄, hc₄, rfl⟩
          | some policy => exact sameButContext_applyPolicy hc₃ hc₄ s idx policy false

/-- **The loop** from two states equal but for their consistent contexts. -/
theorem processSecurityBlocks_sameButContext {bundleIsAtFinalDest : Bool} :
    ∀ {idxs : List Nat} {s : ReceiveState} {ctx : BpSecPolicyProcessingContext},
      s.ctx.Consistent m.policyFilterSecuritySource → ctx.Consistent m.policyFilterSecuritySource →
      Option.Rel (SameButContext m.policyFilterSecuritySource)
        (processSecurityBlocks m processor primary isIntegrity bundleIsAtFinalDest idxs s)
        (processSecurityBlocks m processor primary isIntegrity bundleIsAtFinalDest idxs { s with ctx })
  | [], _, ctx, hs, hc => .some ⟨hs, ctx, hc, rfl⟩
  | idx :: idxs, s, ctx, hs, hc => by
    unfold processSecurityBlocks
    refine optionRel_bind (processSecurityBlock_sameButContext hs hc) ?_
    rintro ⟨goOn, s'⟩ _ ⟨hs', ctx', hc', rfl⟩
    cases goOn
    · exact .some ⟨hs', ctx', hc', rfl⟩
    · exact processSecurityBlocks_sameButContext hs' hc'

end reuse

/-- **Reusing the context.**  With a context whose search caches hold `FindPolicy`'s results, as
the constructed context's do, `ProcessReceivedBundle` returns what it returns with a fresh
context (its result, the canonical blocks, the errors and the calls of the processor), and it
leaves the caches consistent: the context can be kept from one bundle to the next. -/
theorem processReceivedBundle_reused_context {m : BpSecPolicyManager} {processor : BpSecBundleProcessor}
    {bv : BundleViewV7} {ctx : BpSecPolicyProcessingContext} {errorList : List BpSecError} {myNodeId : Nat}
    (hc : ctx.Consistent m.policyFilterSecuritySource) :
    (processReceivedBundle m processor bv ctx errorList myNodeId).map
        (fun r => (r.1, r.2.canonicalBlocks, r.2.errorList, r.2.events)) =
      (processReceivedBundle m processor bv .initial errorList myNodeId).map
        (fun r => (r.1, r.2.canonicalBlocks, r.2.errorList, r.2.events)) ∧
    ∀ r ∈ processReceivedBundle m processor bv ctx errorList myNodeId, r.2.ctx.Consistent m.policyFilterSecuritySource := by
  refine SameButContext.observed ?_
  unfold processReceivedBundle
  refine optionRel_bind (processSecurityBlocks_sameButContext hc (BpSecPolicyProcessingContext.consistent_initial _)) ?_
  rintro ⟨goOn, s'⟩ _ ⟨hs', ctx', hc', rfl⟩
  cases goOn
  · exact .some ⟨hs', ctx', hc', rfl⟩
  · exact processSecurityBlocks_sameButContext hs' hc'

/-- The context left by `twoBcbBundle`, kept for a second `twoBcbBundle`. -/
theorem processReceivedBundle_reused_context_twoBcbBundle :
    ∃ m s, loadFromConfig exampleEnv .empty confidentialityAcceptorConfig = some m ∧
      processReceivedBundle m acceptingProcessor twoBcbBundle .initial [] 1 = some (true, s) ∧
      s.ctx.Consistent m.policyFilterSecuritySource ∧
      (processReceivedBundle m acceptingProcessor twoBcbBundle s.ctx [] 1).map
          (fun r => (r.1, r.2.canonicalBlocks, r.2.errorList, r.2.events)) =
        (processReceivedBundle m acceptingProcessor twoBcbBundle .initial [] 1).map
          (fun r => (r.1, r.2.canonicalBlocks, r.2.errorList, r.2.events)) ∧
      ∀ r ∈ processReceivedBundle m acceptingProcessor twoBcbBundle s.ctx [] 1,
        r.2.ctx.Consistent m.policyFilterSecuritySource := by
  obtain ⟨m, s, hm, h⟩ : ∃ m s, loadFromConfig exampleEnv .empty confidentialityAcceptorConfig = some m ∧
      processReceivedBundle m acceptingProcessor twoBcbBundle .initial [] 1 = some (true, s) := ⟨_, _, rfl, rfl⟩
  have hc : s.ctx.Consistent m.policyFilterSecuritySource :=
    (processReceivedBundle_reused_context (BpSecPolicyProcessingContext.consistent_initial _)).2 _ h
  exact ⟨m, s, hm, h, hc, processReceivedBundle_reused_context hc⟩

end Hdtn.Bpsec
