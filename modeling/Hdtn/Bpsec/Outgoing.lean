import Hdtn.Bpsec.Receive

/-! # Target block types and `ProcessOutgoingBundle`

`PopulateTargetArraysForSecuritySource` walks a policy's target block types with the loops that
build `ProcessReceivedBundle`'s mask (`visitTargets`).

* **Loaded targets.**  `LoadFromConfig` bounds no target: a loaded policy may target 192, a shift
  by 192 when the mask is built, or `UINT64_MAX`, a loop that never exits
  (`loaded_block_types_unbounded`).
* **`ProcessOutgoingBundle`** adds the BIB and then the BCB of a source policy.  The integrity
  block type among the BCB targets leaves a placeholder `0` that only the BIB's addition fills:
  every target handed to `TryEncryptBundle` is a block of the bundle exactly when the policy
  does integrity or does not target the integrity block type (`encryptTargets_present_iff`),
  and a confidentiality-only source policy hands it block number `0`, the primary block
  (`bcb_placeholder_not_backfilled`).
* **The lookup-table variant** of `PopulateTargetArraysForSecuritySource` takes the block
  numbers from a table indexed by block type, and returns `false` at a block type at or above
  `MAX_NUM_BPV7_BLOCK_TYPE_CODES` before its loop could wrap.  For a table that gives each
  looked-up block type its one block of the bundle, it fills the context as the `BundleViewV7`
  variant does, or fails when a target is out of range
  (`populateTargetArraysForSecuritySourceLut_eq`). -/

namespace Hdtn.Bpsec

/-! ### Target block types a load accepts -/

/-- Acceptor rules for every bundle, one for confidentiality targeting the private-use block
type 192 and one for integrity targeting `UINT64_MAX`, and an integrity source rule of
`ipn:1.1` targeting `UINT64_MAX`. -/
def unboundedTargetsConfig : BpSecConfig :=
  ⟨⟨false, false, false⟩,
    [{ exampleRule "acceptor" "confidentiality" "ipn:*.*" "ipn:*.*" with securityTargetBlockTypes := [192] },
      { exampleRule "acceptor" "integrity" "ipn:*.*" "ipn:*.*" with securityTargetBlockTypes := [uint64Max] },
      { exampleRule "source" "integrity" "ipn:1.1" "ipn:*.*" with securityTargetBlockTypes := [uint64Max] }]⟩

/-! ### `PopulateTargetArraysForSecuritySource` -/

/-- The members of `BpSecPolicyProcessingContext` that `PopulateTargetArraysForSecuritySource`
fills. -/
structure TargetArrays where
  bibTargetBlockNumbers : List Nat
  bcbTargetBlockNumbers : List Nat
  bcbTargetBibBlockNumberPlaceholderIndex : Nat
deriving DecidableEq, Repr

/-- `GetCanonicalBlocksByType`, as the block numbers of the views of a block type, in order. -/
def blockNumbersByType (blocks : List CanonicalBlockView) (blockTypeCode : Nat) : List Nat :=
  (blocks.filter (·.blockTypeCode = blockTypeCode)).map (·.blockNumber)

/-- The body of the confidentiality loop for a block type: the integrity block type adds the
placeholder `0` and records its index, since the BIB's number is assigned later; any other
adds the numbers of its blocks. -/
def addBcbTarget (blocks : List CanonicalBlockView) (ctx : TargetArrays) (blockType : Nat) : TargetArrays :=
  if blockType = integrityBlockType then
    { ctx with bcbTargetBibBlockNumberPlaceholderIndex := ctx.bcbTargetBlockNumbers.length,
               bcbTargetBlockNumbers := ctx.bcbTargetBlockNumbers ++ [0] }
  else { ctx with bcbTargetBlockNumbers := ctx.bcbTargetBlockNumbers ++ blockNumbersByType blocks blockType }

/-- `PopulateTargetArraysForSecuritySource`, the `BundleViewV7` variant: the block numbers of
the BIB targets and of the BCB targets, `none` where a loop never exits. -/
def populateTargetArraysForSecuritySource (bv : BundleViewV7) (policy : BpSecPolicy) : Option TargetArrays := do
  let bibTargetBlockNumbers ← if policy.doIntegrity then
      (visitTargets policy.bibBlockTypeTargets).map (·.flatMap (blockNumbersByType bv.canonicalBlocks))
    else some []
  let ctx : TargetArrays := ⟨bibTargetBlockNumbers, [], uint64Max⟩
  if policy.doConfidentiality then
    (visitTargets policy.bcbBlockTypeTargets).map (·.foldl (addBcbTarget bv.canonicalBlocks) ctx)
  else some ctx

/-! ### `ProcessOutgoingBundle` -/

/-- `BpSecBundleProcessor::TryAddBundleIntegrity` and `TryEncryptBundle`, which are outside
the sources: given the bundle view, the policy whose members they are passed, the security
source and the target block numbers, the new view, or `none` where they return false. -/
structure SecuritySourceProcessor where
  tryAddBundleIntegrity : BundleViewV7 → BpSecPolicy → Eid → List Nat → Option BundleViewV7
  tryEncryptBundle : BundleViewV7 → BpSecPolicy → Eid → List Nat → Option BundleViewV7

/-- What `ProcessOutgoingBundle` did: whether it returned true, the bundle view it leaves, and
the view and target block numbers it called `TryEncryptBundle` with, if it did. -/
structure OutgoingResult where
  ok : Bool
  bv : BundleViewV7
  encryptCall : Option (BundleViewV7 × List Nat)
deriving DecidableEq, Repr

/-- `ctx.m_bcbTargetBlockNumbers[ctx.m_bcbTargetBibBlockNumberPlaceholderIndex]` set to the
number of the front canonical block, when there is a placeholder; `none` for `front()` of an
empty list. -/
def backfillPlaceholder (bv : BundleViewV7) (ctx : TargetArrays) : Option TargetArrays :=
  if ctx.bcbTargetBibBlockNumberPlaceholderIndex = uint64Max then some ctx
  else bv.canonicalBlocks.head?.map fun front =>
    { ctx with bcbTargetBlockNumbers :=
      ctx.bcbTargetBlockNumbers.set ctx.bcbTargetBibBlockNumberPlaceholderIndex front.blockNumber }

section outgoing

variable (proc : SecuritySourceProcessor) (policy : BpSecPolicy) (thisSecuritySourceEid : Eid)

/-- The confidentiality half of `ProcessOutgoingBundle`. -/
def encryptOutgoing (bv : BundleViewV7) (ctx : TargetArrays) : OutgoingResult :=
  if policy.doConfidentiality then
    match proc.tryEncryptBundle bv policy thisSecuritySourceEid ctx.bcbTargetBlockNumbers with
    | none => ⟨false, bv, some (bv, ctx.bcbTargetBlockNumbers)⟩
    | some bv' => ⟨true, bv', some (bv, ctx.bcbTargetBlockNumbers)⟩
  else ⟨true, bv, none⟩

/-- `ProcessOutgoingBundle`: the BIB placed first, the placeholder filled with its number, then
the BCB; `none` where the behaviour is undefined. -/
def processOutgoingBundle (bv : BundleViewV7) (ctx : TargetArrays) : Option OutgoingResult :=
  if policy.doIntegrity then
    match proc.tryAddBundleIntegrity bv policy thisSecuritySourceEid ctx.bibTargetBlockNumbers with
    | none => some ⟨false, bv, none⟩
    | some bv => (backfillPlaceholder bv ctx).map (encryptOutgoing proc policy thisSecuritySourceEid bv)
  else some (encryptOutgoing proc policy thisSecuritySourceEid bv ctx)

theorem encryptOutgoing_encryptCall {bv bvE : BundleViewV7} {ctx : TargetArrays} {targets : List Nat}
    (h : (encryptOutgoing proc policy thisSecuritySourceEid bv ctx).encryptCall = some (bvE, targets)) :
    policy.doConfidentiality = true ∧ bvE = bv ∧ targets = ctx.bcbTargetBlockNumbers := by
  unfold encryptOutgoing at h
  split_ifs at h with hc
  split at h <;> cases h <;> exact ⟨hc, rfl, rfl⟩

theorem processOutgoingBundle_encryptCall {bv bvE : BundleViewV7} {ctx : TargetArrays} {r : OutgoingResult}
    {targets : List Nat} (h : processOutgoingBundle proc policy thisSecuritySourceEid bv ctx = some r)
    (hcall : r.encryptCall = some (bvE, targets)) :
    policy.doConfidentiality = true ∧
      (policy.doIntegrity = false ∧ bvE = bv ∧ targets = ctx.bcbTargetBlockNumbers ∨
        policy.doIntegrity = true ∧ ∃ ctx', proc.tryAddBundleIntegrity bv policy thisSecuritySourceEid
          ctx.bibTargetBlockNumbers = some bvE ∧ backfillPlaceholder bvE ctx = some ctx' ∧
          targets = ctx'.bcbTargetBlockNumbers) := by
  unfold processOutgoingBundle at h
  split_ifs at h with hi
  · split at h
    · cases h; cases hcall
    · rename_i bv' hadd
      obtain ⟨ctx', hback, rfl⟩ := Option.map_eq_some'.mp h
      obtain ⟨hc, rfl, rfl⟩ := encryptOutgoing_encryptCall proc policy thisSecuritySourceEid hcall
      exact ⟨hc, .inr ⟨hi, ctx', hadd, hback, rfl⟩⟩
  · cases h
    obtain ⟨hc, rfl, rfl⟩ := encryptOutgoing_encryptCall proc policy thisSecuritySourceEid hcall
    exact ⟨hc, .inl ⟨by simpa using hi, rfl, rfl⟩⟩

end outgoing

/-- `FindPolicyAndProcessOutgoingBundle`: the source policy of the security source for the
bundle, looked up with the source search cache, and what `ProcessOutgoingBundle` does with it. -/
def findPolicyAndProcessOutgoingBundle (proc : SecuritySourceProcessor) (m : BpSecPolicyManager) (bv : BundleViewV7)
    (searchCacheSource : PolicySearchCache) (thisSecuritySourceEid : Eid) : Option OutgoingResult × PolicySearchCache :=
  let (found, c) := findPolicyWithCacheSupport m.policyFilterSecuritySource thisSecuritySourceEid bv.primary.sourceNodeId
    bv.primary.destinationEid .source searchCacheSource
  match found with
  | none => (some ⟨true, bv, none⟩, c)
  | some policy =>
    ((populateTargetArraysForSecuritySource bv policy).bind (processOutgoingBundle proc policy thisSecuritySourceEid bv), c)

theorem loaded_block_types_unbounded :
    ∃ m, loadFromConfig exampleEnv .empty unboundedTargetsConfig = some m ∧
      (∃ p, findPolicy m.policyFilterSecuritySource ⟨3, 1⟩ ⟨2, 1⟩ ⟨5, 5⟩ .acceptor = some p ∧
        p.bcbBlockTypeTargets = [192] ∧ p.bibBlockTypeTargets = [uint64Max] ∧
        visitTargets p.bcbBlockTypeTargets = some [192] ∧ expectedTargetBlockTypesMask p.bcbBlockTypeTargets = none ∧
        ∀ fuel, (blockTypeLoop fuel uint64Max uint64Max).2 = false) ∧
      ∃ q, findPolicy m.policyFilterSecuritySource ⟨1, 1⟩ ⟨2, 1⟩ ⟨5, 5⟩ .source = some q ∧
        q.bibBlockTypeTargets = [uint64Max] ∧ ∀ bv, populateTargetArraysForSecuritySource bv q = none :=
  ⟨_, rfl, ⟨_, rfl, rfl, rfl, rfl, rfl, fun fuel => blockTypeLoop_uint64Max fuel (le_refl _) (le_refl _)⟩,
    _, rfl, rfl, fun _ => rfl⟩

/-! ### The placeholder of the BIB -/

/-- What the confidentiality loop appends for a block type: the placeholder `0` for the
integrity block type, the numbers of the blocks of the type otherwise. -/
def bcbEntries (blocks : List CanonicalBlockView) (blockType : Nat) : List Nat :=
  if blockType = integrityBlockType then [0] else blockNumbersByType blocks blockType

/-- `TryAddBundleIntegrity` as `ProcessOutgoingBundle` calls it ("bib placed immediately after
primary"): the BIB it adds is the front canonical block, before the blocks it was given, and has
a canonical block's number, not the primary block's `0`. -/
def SecuritySourceProcessor.AddsBibInFront (proc : SecuritySourceProcessor) : Prop :=
  ∀ bv policy eid targets bv', proc.tryAddBundleIntegrity bv policy eid targets = some bv' →
    ∃ bib : CanonicalBlockView, bib.blockNumber ≠ 0 ∧ bv'.canonicalBlocks = bib :: bv.canonicalBlocks

theorem mem_flatMap_blockNumbersByType {blocks : List CanonicalBlockView} {blockTypes : List Nat} {t : Nat}
    (h : t ∈ blockTypes.flatMap (blockNumbersByType blocks)) : ∃ v ∈ blocks, v.blockNumber = t := by
  simp only [List.mem_flatMap, blockNumbersByType, List.mem_map, List.mem_filter] at h
  obtain ⟨_, _, v, ⟨hv, _⟩, rfl⟩ := h
  exact ⟨v, hv, rfl⟩

theorem flatMap_bcbEntries_of_not_mem {blocks : List CanonicalBlockView} {blockTypes : List Nat}
    (h : integrityBlockType ∉ blockTypes) :
    blockTypes.flatMap (bcbEntries blocks) = blockTypes.flatMap (blockNumbersByType blocks) :=
  List.flatMap_congr fun b hb => if_neg fun (e : b = integrityBlockType) => h (e ▸ hb)

theorem length_flatMap_blockNumbersByType_le :
    ∀ {blockTypes : List Nat} (blocks : List CanonicalBlockView), blockTypes.Nodup →
      (blockTypes.flatMap (blockNumbersByType blocks)).length ≤ blocks.length
  | [], _, _ => Nat.zero_le _
  | b :: bs, blocks, h => by
    rw [List.nodup_cons] at h
    -- the other types pick among the blocks not of type `b`
    have hrest : bs.flatMap (blockNumbersByType blocks) =
        bs.flatMap (blockNumbersByType (blocks.filter fun v => !decide (v.blockTypeCode = b))) :=
      List.flatMap_congr fun b' hb' => by
        have hne : b' ≠ b := fun e => h.1 (e ▸ hb')
        simp only [blockNumbersByType, List.filter_filter]
        congr 1
        exact List.filter_congr fun v _ => by by_cases hv : v.blockTypeCode = b' <;> simp [hv, hne]
    calc ((b :: bs).flatMap (blockNumbersByType blocks)).length
        = (blocks.filter fun v => decide (v.blockTypeCode = b)).length +
            (bs.flatMap (blockNumbersByType (blocks.filter fun v => !decide (v.blockTypeCode = b)))).length := by
          rw [List.flatMap_cons, List.length_append, hrest, blockNumbersByType, List.length_map]
      _ ≤ (blocks.filter fun v => decide (v.blockTypeCode = b)).length +
            (blocks.filter fun v => !decide (v.blockTypeCode = b)).length :=
          Nat.add_le_add_left (length_flatMap_blockNumbersByType_le _ h.2) _
      _ = blocks.length := (List.length_eq_length_filter_add _).symm

theorem bcbTargetBlockNumbers_foldl (blocks : List CanonicalBlockView) :
    ∀ (blockTypes : List Nat) (ctx : TargetArrays),
      (blockTypes.foldl (addBcbTarget blocks) ctx).bcbTargetBlockNumbers =
        ctx.bcbTargetBlockNumbers ++ blockTypes.flatMap (bcbEntries blocks)
  | [], _ => (List.append_nil _).symm
  | b :: bs, ctx => by
    rw [List.foldl_cons, bcbTargetBlockNumbers_foldl blocks bs, List.flatMap_cons, ← List.append_assoc]
    unfold addBcbTarget bcbEntries
    split_ifs <;> rfl

theorem placeholderIndex_foldl_of_not_mem (blocks : List CanonicalBlockView) :
    ∀ {blockTypes : List Nat} (ctx : TargetArrays), integrityBlockType ∉ blockTypes →
      (blockTypes.foldl (addBcbTarget blocks) ctx).bcbTargetBibBlockNumberPlaceholderIndex =
        ctx.bcbTargetBibBlockNumberPlaceholderIndex
  | [], _, _ => rfl
  | b :: bs, ctx, h => by
    rw [List.foldl_cons, placeholderIndex_foldl_of_not_mem blocks _ fun h' => h (List.mem_cons_of_mem _ h'),
      addBcbTarget, if_neg fun (e : b = integrityBlockType) => h (e ▸ List.mem_cons_self b bs)]

theorem placeholderIndex_foldl_split (blocks : List CanonicalBlockView) {pre post : List Nat}
    (hpost : integrityBlockType ∉ post) (ctx : TargetArrays) :
    ((pre ++ integrityBlockType :: post).foldl (addBcbTarget blocks) ctx).bcbTargetBibBlockNumberPlaceholderIndex =
      (pre.foldl (addBcbTarget blocks) ctx).bcbTargetBlockNumbers.length := by
  rw [List.foldl_append, List.foldl_cons, placeholderIndex_foldl_of_not_mem blocks _ hpost, addBcbTarget, if_pos rfl]

theorem populateTargetArraysForSecuritySource_eq {bv : BundleViewV7} {policy : BpSecPolicy} {ctx : TargetArrays}
    (h : populateTargetArraysForSecuritySource bv policy = some ctx) (hc : policy.doConfidentiality = true) :
    ∃ bibTargetBlockNumbers, ctx = policy.bcbBlockTypeTargets.foldl (addBcbTarget bv.canonicalBlocks)
      ⟨bibTargetBlockNumbers, [], uint64Max⟩ := by
  simp only [populateTargetArraysForSecuritySource, Option.bind_eq_bind, hc, if_true] at h
  split_ifs at h
  all_goals
    obtain ⟨bibTargetBlockNumbers, -, h⟩ := Option.bind_eq_some.mp h
    obtain ⟨visited, hv, rfl⟩ := Option.map_eq_some'.mp h
    rw [visitTargets_eq_some hv]
    exact ⟨bibTargetBlockNumbers, rfl⟩


/-- **The BCB targets are blocks of the bundle exactly when the BIB is added.**  Take a source
policy whose BCB target block types are a set, a bundle view whose canonical blocks have
canonical block numbers (not the primary block's `0`) and number fewer than `UINT64_MAX`, and a
`TryAddBundleIntegrity` that adds its BIB in front.  When `ProcessOutgoingBundle` calls
`TryEncryptBundle`, every target it hands over is the number of a canonical block of the view
it hands over if and only if the policy does integrity or does not target the integrity block
type; otherwise the placeholder `0` goes through. -/
theorem encryptTargets_present_iff {proc : SecuritySourceProcessor} (hproc : proc.AddsBibInFront)
    {policy : BpSecPolicy} {thisSecuritySourceEid : Eid} {bv bvE : BundleViewV7} {ctx : TargetArrays}
    {r : OutgoingResult} {targets : List Nat} (hset : policy.bcbBlockTypeTargets.Nodup)
    (hnum : ∀ v ∈ bv.canonicalBlocks, v.blockNumber ≠ 0) (hlen : bv.canonicalBlocks.length < uint64Max)
    (hctx : populateTargetArraysForSecuritySource bv policy = some ctx)
    (h : processOutgoingBundle proc policy thisSecuritySourceEid bv ctx = some r)
    (hcall : r.encryptCall = some (bvE, targets)) :
    (∀ t ∈ targets, t ≠ 0 ∧ ∃ v ∈ bvE.canonicalBlocks, v.blockNumber = t) ↔
      policy.doIntegrity = true ∨ integrityBlockType ∉ policy.bcbBlockTypeTargets := by
  obtain ⟨hc, hcases⟩ := processOutgoingBundle_encryptCall proc policy thisSecuritySourceEid h hcall
  obtain ⟨bibTargetBlockNumbers, hctx₀⟩ := populateTargetArraysForSecuritySource_eq hctx hc
  -- a number the loop takes from the bundle is one of its numbered blocks, also with a BIB in front
  have hblock : ∀ {blockTypes : List Nat} {blocks : List CanonicalBlockView} {t : Nat}, bv.canonicalBlocks ⊆ blocks →
      t ∈ blockTypes.flatMap (blockNumbersByType bv.canonicalBlocks) → t ≠ 0 ∧ ∃ v ∈ blocks, v.blockNumber = t :=
    fun hsub ht => by
      obtain ⟨v, hv, rfl⟩ := mem_flatMap_blockNumbersByType ht
      exact ⟨hnum v hv, v, hsub hv, rfl⟩
  by_cases hmem : integrityBlockType ∈ policy.bcbBlockTypeTargets
  · -- the loop leaves the placeholder `0` between the numbers of the types before and after
    obtain ⟨pre, post, hsplit⟩ := List.append_of_mem hmem
    obtain ⟨hnd, hnd', hcross⟩ := List.pairwise_append.mp (hsplit ▸ hset)
    have hpre : integrityBlockType ∉ pre := fun h' => hcross _ h' _ (List.mem_cons_self _ _) rfl
    have hpost : integrityBlockType ∉ post := (List.nodup_cons.mp hnd').1
    have hbcb : ctx.bcbTargetBlockNumbers = pre.flatMap (blockNumbersByType bv.canonicalBlocks) ++
        0 :: post.flatMap (blockNumbersByType bv.canonicalBlocks) := by
      rw [hctx₀, bcbTargetBlockNumbers_foldl, hsplit, List.flatMap_append, List.flatMap_cons,
        flatMap_bcbEntries_of_not_mem hpre, flatMap_bcbEntries_of_not_mem hpost]
      simp [bcbEntries]
    have hph : ctx.bcbTargetBibBlockNumberPlaceholderIndex =
        (pre.flatMap (blockNumbersByType bv.canonicalBlocks)).length := by
      rw [hctx₀, hsplit, placeholderIndex_foldl_split _ hpost, bcbTargetBlockNumbers_foldl,
        flatMap_bcbEntries_of_not_mem hpre, List.nil_append]
    rcases hcases with ⟨hi, -, rfl⟩ | ⟨hi, ctx', hadd, hback, rfl⟩
    · simp only [hi, Bool.false_eq_true, hmem, not_true_eq_false, or_self, iff_false, not_forall]
      exact ⟨0, by simp [hbcb], fun h => h.1 rfl⟩
    · -- the BIB added in front fills the placeholder
      obtain ⟨bib, hbib, hfront⟩ := hproc _ _ _ _ _ hadd
      have hA : (pre.flatMap (blockNumbersByType bv.canonicalBlocks)).length ≠ uint64Max :=
        Nat.ne_of_lt (lt_of_le_of_lt (length_flatMap_blockNumbersByType_le _ hnd) hlen)
      rw [backfillPlaceholder, hph, if_neg hA, hfront, List.head?_cons, Option.map_some', Option.some.injEq] at hback
      subst hback
      rw [hfront]
      refine iff_of_true (fun t ht => ?_) (.inl hi)
      rw [hbcb, List.set_append_right _ _ (le_refl _), Nat.sub_self, List.set_cons_zero] at ht
      rcases List.mem_append.mp ht with ht | ht
      · exact hblock (List.subset_cons_self _ _) ht
      · rcases List.mem_cons.mp ht with rfl | ht
        · exact ⟨hbib, bib, List.mem_cons_self _ _, rfl⟩
        · exact hblock (List.subset_cons_self _ _) ht
  · -- no placeholder: every target is a number of a block of the bundle
    have hbcb : ctx.bcbTargetBlockNumbers =
        policy.bcbBlockTypeTargets.flatMap (blockNumbersByType bv.canonicalBlocks) := by
      rw [hctx₀, bcbTargetBlockNumbers_foldl, flatMap_bcbEntries_of_not_mem hmem, List.nil_append]
    have hph : ctx.bcbTargetBibBlockNumberPlaceholderIndex = uint64Max := by
      rw [hctx₀, placeholderIndex_foldl_of_not_mem _ _ hmem]
    refine iff_of_true (fun t ht => ?_) (.inr hmem)
    rcases hcases with ⟨-, rfl, rfl⟩ | ⟨-, ctx', hadd, hback, rfl⟩
    · exact hblock (List.Subset.refl _) (hbcb ▸ ht)
    · obtain ⟨bib, -, hfront⟩ := hproc _ _ _ _ _ hadd
      rw [backfillPlaceholder, if_pos hph, Option.some.injEq] at hback
      subst hback
      rw [hfront]
      exact hblock (List.subset_cons_self _ _) (hbcb ▸ ht)

/-- A confidentiality source rule of `ipn:1.1` for every bundle, targeting the payload and the
integrity block type. -/
def confidentialitySourceConfig : BpSecConfig :=
  ⟨⟨false, false, false⟩,
    [{ exampleRule "source" "confidentiality" "ipn:1.1" "ipn:*.*" with
      securityTargetBlockTypes := [payloadBlockType, integrityBlockType] }]⟩

/-- A bundle from `ipn:2.1` to `ipn:5.5` with only a payload block. -/
def payloadOnlyBundle : BundleViewV7 :=
  ⟨⟨⟨2, 1⟩, ⟨5, 5⟩⟩, [⟨1, payloadBlockType, none, false, false⟩]⟩

theorem bcb_placeholder_not_backfilled (proc : SecuritySourceProcessor) :
    ∃ m, loadFromConfig exampleEnv .empty confidentialitySourceConfig = some m ∧
      (∃ p, findPolicy m.policyFilterSecuritySource ⟨1, 1⟩ ⟨2, 1⟩ ⟨5, 5⟩ .source = some p ∧
        p.doIntegrity = false ∧ integrityBlockType ∈ p.bcbBlockTypeTargets) ∧
      ∃ r c, findPolicyAndProcessOutgoingBundle proc m payloadOnlyBundle .initial ⟨1, 1⟩ = (some r, c) ∧
        r.encryptCall = some (payloadOnlyBundle, [1, 0]) ∧
        ∀ view ∈ payloadOnlyBundle.canonicalBlocks, view.blockNumber ≠ 0 := by
  refine ⟨_, rfl, ⟨_, rfl, rfl, by decide⟩, _, _, rfl, ?_, by decide⟩
  unfold encryptOutgoing
  split
  · split <;> rfl
  · exact absurd rfl ‹_›

/-- A `TryAddBundleIntegrity` that puts a BIB numbered `2` in front, and a `TryEncryptBundle`
that leaves the view as it is. -/
def bibInFrontProcessor : SecuritySourceProcessor :=
  ⟨fun bv _ _ _ => some ⟨bv.primary, ⟨2, integrityBlockType, none, false, false⟩ :: bv.canonicalBlocks⟩,
    fun bv _ _ _ => some bv⟩

theorem bibInFrontProcessor_addsBibInFront : bibInFrontProcessor.AddsBibInFront := by
  rintro bv _ _ _ _ ⟨⟩
  exact ⟨_, by decide, rfl⟩

/-- The confidentiality-only source policy on `payloadOnlyBundle`: it does no integrity and
targets the integrity block type, and the placeholder `0` goes to `TryEncryptBundle`. -/
theorem encryptTargets_present_iff_payloadOnly :
    ∃ m p ctx r, loadFromConfig exampleEnv .empty confidentialitySourceConfig = some m ∧
      findPolicy m.policyFilterSecuritySource ⟨1, 1⟩ ⟨2, 1⟩ ⟨5, 5⟩ .source = some p ∧
      populateTargetArraysForSecuritySource payloadOnlyBundle p = some ctx ∧
      processOutgoingBundle bibInFrontProcessor p ⟨1, 1⟩ payloadOnlyBundle ctx = some r ∧
      r.encryptCall = some (payloadOnlyBundle, [1, 0]) ∧
      ((∀ t ∈ [1, 0], t ≠ 0 ∧ ∃ v ∈ payloadOnlyBundle.canonicalBlocks, v.blockNumber = t) ↔
        p.doIntegrity = true ∨ integrityBlockType ∉ p.bcbBlockTypeTargets) := by
  obtain ⟨m, p, ctx, r, hm, hp, hset, hctx, h, hcall⟩ : ∃ m p ctx r,
      loadFromConfig exampleEnv .empty confidentialitySourceConfig = some m ∧
      findPolicy m.policyFilterSecuritySource ⟨1, 1⟩ ⟨2, 1⟩ ⟨5, 5⟩ .source = some p ∧ p.bcbBlockTypeTargets.Nodup ∧
      populateTargetArraysForSecuritySource payloadOnlyBundle p = some ctx ∧
      processOutgoingBundle bibInFrontProcessor p ⟨1, 1⟩ payloadOnlyBundle ctx = some r ∧
      r.encryptCall = some (payloadOnlyBundle, [1, 0]) :=
    ⟨_, _, _, _, rfl, rfl, by decide, rfl, rfl, rfl⟩
  exact ⟨m, p, ctx, r, hm, hp, hctx, h, hcall,
    encryptTargets_present_iff bibInFrontProcessor_addsBibInFront hset (by decide) (by decide) hctx h hcall⟩

/-! ### Reusing the source cache -/

/-- **Reusing the source cache.**  With a source search cache that holds `FindPolicy`'s result
for its key, as the constructed one does, `FindPolicyAndProcessOutgoingBundle` returns what it
returns with a fresh cache, and leaves the cache consistent for the next bundle. -/
theorem findPolicyAndProcessOutgoingBundle_reused_cache {proc : SecuritySourceProcessor} {m : BpSecPolicyManager}
    {bv : BundleViewV7} {c : PolicySearchCache} {thisSecuritySourceEid : Eid}
    (hc : c.Consistent m.policyFilterSecuritySource) :
    (findPolicyAndProcessOutgoingBundle proc m bv c thisSecuritySourceEid).1 =
        (findPolicyAndProcessOutgoingBundle proc m bv .initial thisSecuritySourceEid).1 ∧
      (findPolicyAndProcessOutgoingBundle proc m bv c thisSecuritySourceEid).2.Consistent
        m.policyFilterSecuritySource := by
  unfold findPolicyAndProcessOutgoingBundle
  rcases hA : findPolicyWithCacheSupport m.policyFilterSecuritySource thisSecuritySourceEid bv.primary.sourceNodeId
    bv.primary.destinationEid .source c with ⟨found, c'⟩
  rcases hB : findPolicyWithCacheSupport m.policyFilterSecuritySource thisSecuritySourceEid bv.primary.sourceNodeId
    bv.primary.destinationEid .source .initial with ⟨found₀, c₀⟩
  obtain ⟨h₁, h₂⟩ := findPolicyWithCacheSupport_eq hc thisSecuritySourceEid bv.primary.sourceNodeId
    bv.primary.destinationEid .source
  obtain ⟨h₀, -⟩ := findPolicyWithCacheSupport_eq (PolicySearchCache.consistent_initial m.policyFilterSecuritySource)
    thisSecuritySourceEid bv.primary.sourceNodeId bv.primary.destinationEid .source
  rw [hA] at h₁ h₂
  rw [hB] at h₀
  dsimp only at h₁ h₂ h₀ ⊢
  rw [h₁, h₀]
  cases Hdtn.Bpsec.findPolicy m.policyFilterSecuritySource thisSecuritySourceEid bv.primary.sourceNodeId
    bv.primary.destinationEid .source <;> exact ⟨rfl, h₂⟩

/-- `payloadOnlyBundle` sent a second time with the source cache its first sending left. -/
theorem findPolicyAndProcessOutgoingBundle_reused_cache_payloadOnly :
    ∃ m c, loadFromConfig exampleEnv .empty confidentialitySourceConfig = some m ∧
      (findPolicyAndProcessOutgoingBundle bibInFrontProcessor m payloadOnlyBundle .initial ⟨1, 1⟩).2 = c ∧
      c.Consistent m.policyFilterSecuritySource ∧
      (findPolicyAndProcessOutgoingBundle bibInFrontProcessor m payloadOnlyBundle c ⟨1, 1⟩).1 =
        (findPolicyAndProcessOutgoingBundle bibInFrontProcessor m payloadOnlyBundle .initial ⟨1, 1⟩).1 ∧
      (findPolicyAndProcessOutgoingBundle bibInFrontProcessor m payloadOnlyBundle c ⟨1, 1⟩).2.Consistent
        m.policyFilterSecuritySource := by
  obtain ⟨m, hm⟩ : ∃ m, loadFromConfig exampleEnv .empty confidentialitySourceConfig = some m := ⟨_, rfl⟩
  have hc := (@findPolicyAndProcessOutgoingBundle_reused_cache bibInFrontProcessor m payloadOnlyBundle .initial ⟨1, 1⟩
    (PolicySearchCache.consistent_initial m.policyFilterSecuritySource)).2
  exact ⟨m, _, hm, rfl, hc, findPolicyAndProcessOutgoingBundle_reused_cache hc⟩

/-! ### The lookup-table variant -/

/-- One iteration of the lookup-table variant's loops over a fragment `[b, b]`: a block type at
or above `MAX_NUM_BPV7_BLOCK_TYPE_CODES` returns `false`; any other runs the body `push`.  The
bound is a `std::size_t`, at most `UINT64_MAX`, so below it `++blockType` does not wrap and the
loop exits after its one body. -/
def lutLoopBody (maxNumBpv7BlockTypeCodes : Nat) (push : TargetArrays → Nat → TargetArrays)
    (ctx : TargetArrays) (blockType : Nat) : Option TargetArrays :=
  if maxNumBpv7BlockTypeCodes ≤ blockType then none else some (push ctx blockType)

/-- The integrity body: `bpv7BlockTypeToManuallyAssignedBlockNumberLut[blockType]`, a `uint8_t`,
widened into the list. -/
def addBibTargetLut (lut : Nat → UInt8) (ctx : TargetArrays) (blockType : Nat) : TargetArrays :=
  { ctx with bibTargetBlockNumbers := ctx.bibTargetBlockNumbers ++ [(lut blockType).toNat] }

/-- The confidentiality body: the placeholder for the integrity block type, as in
`addBcbTarget`, and the table's block number for any other. -/
def addBcbTargetLut (lut : Nat → UInt8) (ctx : TargetArrays) (blockType : Nat) : TargetArrays :=
  if blockType = integrityBlockType then
    { ctx with bcbTargetBibBlockNumberPlaceholderIndex := ctx.bcbTargetBlockNumbers.length,
               bcbTargetBlockNumbers := ctx.bcbTargetBlockNumbers ++ [0] }
  else { ctx with bcbTargetBlockNumbers := ctx.bcbTargetBlockNumbers ++ [(lut blockType).toNat] }

/-- `PopulateTargetArraysForSecuritySource`, the lookup-table variant: the block numbers come
from `bpv7BlockTypeToManuallyAssignedBlockNumberLut`, indexed by block type; `none` is its
`return false`. -/
def populateTargetArraysForSecuritySourceLut (maxNumBpv7BlockTypeCodes : Nat) (lut : Nat → UInt8)
    (policy : BpSecPolicy) : Option TargetArrays := do
  let ctx : TargetArrays := ⟨[], [], uint64Max⟩
  let ctx ← if policy.doIntegrity then
      policy.bibBlockTypeTargets.foldlM (lutLoopBody maxNumBpv7BlockTypeCodes (addBibTargetLut lut)) ctx
    else some ctx
  if policy.doConfidentiality then
    policy.bcbBlockTypeTargets.foldlM (lutLoopBody maxNumBpv7BlockTypeCodes (addBcbTargetLut lut)) ctx
  else some ctx

/-- The table describes the bundle for the policy: every block type the policy's loops look up
(all but the integrity block type among the BCB targets, which gets the placeholder) has exactly
one block in the bundle, numbered as the table says. -/
def LutDescribes (lut : Nat → UInt8) (bv : BundleViewV7) (policy : BpSecPolicy) : Prop :=
  (policy.doIntegrity = true → ∀ b ∈ policy.bibBlockTypeTargets,
      blockNumbersByType bv.canonicalBlocks b = [(lut b).toNat]) ∧
  (policy.doConfidentiality = true → ∀ b ∈ policy.bcbBlockTypeTargets, b ≠ integrityBlockType →
      blockNumbersByType bv.canonicalBlocks b = [(lut b).toNat])

/-- Every block type the policy's loops visit is below `bound`. -/
def targetsBelow (bound : Nat) (policy : BpSecPolicy) : Bool :=
  (!policy.doIntegrity || policy.bibBlockTypeTargets.all (· < bound)) &&
    (!policy.doConfidentiality || policy.bcbBlockTypeTargets.all (· < bound))

theorem foldlM_lutLoopBody (bound : Nat) (push : TargetArrays → Nat → TargetArrays) :
    ∀ (blockTypes : List Nat) (ctx : TargetArrays),
      blockTypes.foldlM (lutLoopBody bound push) ctx =
        if blockTypes.all (· < bound) then some (blockTypes.foldl push ctx) else none
  | [], _ => rfl
  | b :: bs, ctx => by
    by_cases hb : bound ≤ b
    · simp [lutLoopBody, hb, Nat.not_lt.2 hb]
    · simp [lutLoopBody, hb, foldlM_lutLoopBody bound push bs, Nat.lt_of_not_le hb]

theorem foldl_addBibTargetLut (lut : Nat → UInt8) :
    ∀ (blockTypes : List Nat) (ctx : TargetArrays), blockTypes.foldl (addBibTargetLut lut) ctx =
      { ctx with bibTargetBlockNumbers := ctx.bibTargetBlockNumbers ++ blockTypes.map fun b => (lut b).toNat }
  | [], _ => by simp
  | b :: bs, ctx => by simp [foldl_addBibTargetLut lut bs, addBibTargetLut]

theorem foldl_addBcbTargetLut {lut : Nat → UInt8} {blocks : List CanonicalBlockView} :
    ∀ {blockTypes : List Nat} (ctx : TargetArrays), (∀ b ∈ blockTypes, b ≠ integrityBlockType →
      blockNumbersByType blocks b = [(lut b).toNat]) →
      blockTypes.foldl (addBcbTargetLut lut) ctx = blockTypes.foldl (addBcbTarget blocks) ctx
  | [], _, _ => rfl
  | b :: bs, ctx, h => by
    have hstep : addBcbTargetLut lut ctx b = addBcbTarget blocks ctx b := by
      unfold addBcbTargetLut addBcbTarget
      split_ifs with hi
      · rfl
      · rw [h b (List.mem_cons_self b bs) hi]
    rw [List.foldl_cons, List.foldl_cons, hstep,
      foldl_addBcbTargetLut _ fun b' hb' => h b' (List.mem_cons_of_mem b hb')]

/-- **The lookup table computes what the bundle gives.**  For a bound that fits a `std::size_t`
and a table that gives each block type the policy's loops look up its one block of the bundle,
the lookup-table variant of `PopulateTargetArraysForSecuritySource` fills the context exactly as
the `BundleViewV7` variant does when every visited block type is below
`MAX_NUM_BPV7_BLOCK_TYPE_CODES`, and returns `false` otherwise. -/
theorem populateTargetArraysForSecuritySourceLut_eq {bound : Nat} (hbound : bound ≤ uint64Max)
    {lut : Nat → UInt8} {bv : BundleViewV7} {policy : BpSecPolicy} (hlut : LutDescribes lut bv policy) :
    populateTargetArraysForSecuritySourceLut bound lut policy =
      if targetsBelow bound policy then populateTargetArraysForSecuritySource bv policy else none := by
  obtain ⟨hbib, hbcb⟩ := hlut
  have hvisit : ∀ {bs : List Nat}, bs.all (· < bound) = true → visitTargets bs = some bs := fun h =>
    visitTargets_of_lt fun b hb => lt_of_lt_of_le (by simpa using List.all_eq_true.1 h b hb) hbound
  have hbibNumbers : policy.doIntegrity = true → policy.bibBlockTypeTargets.flatMap
      (blockNumbersByType bv.canonicalBlocks) = policy.bibBlockTypeTargets.map fun b => (lut b).toNat :=
    fun hI => by rw [List.map_eq_flatMap]; exact List.flatMap_congr (hbib hI)
  have hbcbLoop : policy.doConfidentiality = true → ∀ ctx : TargetArrays,
      policy.bcbBlockTypeTargets.foldl (addBcbTargetLut lut) ctx =
        policy.bcbBlockTypeTargets.foldl (addBcbTarget bv.canonicalBlocks) ctx :=
    fun hC ctx => foldl_addBcbTargetLut ctx (hbcb hC)
  unfold populateTargetArraysForSecuritySourceLut populateTargetArraysForSecuritySource targetsBelow
  simp only [foldlM_lutLoopBody, foldl_addBibTargetLut, List.nil_append]
  by_cases hA : policy.bibBlockTypeTargets.all (· < bound) = true <;>
    by_cases hB : policy.bcbBlockTypeTargets.all (· < bound) = true <;>
    cases hI : policy.doIntegrity <;> cases hC : policy.doConfidentiality <;>
    simp [hA, hB, hvisit, hbibNumbers, hbcbLoop, hI, hC]

/-- A bundle with a payload block numbered `1` and a bundle age block (type `7`) numbered `2`. -/
def payloadAndAgeBundle : BundleViewV7 :=
  ⟨⟨⟨2, 1⟩, ⟨5, 5⟩⟩, [⟨1, payloadBlockType, none, false, false⟩, ⟨2, 7, none, false, false⟩]⟩

/-- A source policy with both services: integrity over the payload and the bundle age block,
confidentiality over the payload and the BIB. -/
def payloadAndAgePolicy : BpSecPolicy :=
  { BpSecPolicy.default with
    doIntegrity := true, bibBlockTypeTargets := [payloadBlockType, 7],
    doConfidentiality := true, bcbBlockTypeTargets := [payloadBlockType, integrityBlockType] }

/-- The block numbers a sender assigns: `1` to the payload, `2` to the bundle age block. -/
def payloadAndAgeLut (blockType : Nat) : UInt8 :=
  if blockType = payloadBlockType then 1 else if blockType = 7 then 2 else 0

theorem populateTargetArraysForSecuritySourceLut_payloadAndAge :
    LutDescribes payloadAndAgeLut payloadAndAgeBundle payloadAndAgePolicy ∧
      populateTargetArraysForSecuritySourceLut 13 payloadAndAgeLut payloadAndAgePolicy =
        populateTargetArraysForSecuritySource payloadAndAgeBundle payloadAndAgePolicy := by
  have hl : LutDescribes payloadAndAgeLut payloadAndAgeBundle payloadAndAgePolicy := by
    unfold LutDescribes
    decide
  exact ⟨hl, (populateTargetArraysForSecuritySourceLut_eq (by decide) hl).trans (if_pos (by decide))⟩

end Hdtn.Bpsec
