import Hdtn.Bpsec.Filter

/-! # `LoadFromConfig`

The loading of a BPSec configuration into the policy trie, one definition per step of
`BpSecPolicyManager::LoadFromConfig`:

* `securityRoleOfString` and `isConfidentialityOfString` read a rule's role and service;
* `applySecurityContextParam` applies one security context parameter to the rule's
  `policyToCopy`, and `PolicyRule.policyToCopy` builds it: the targets, the parameters, then
  `ValidateAndFinalize` for a source, then the key checks;
* `mergeRulePolicy` is what the loop does through the pointer `CreateOrGetNewPolicy` returns;
* `loadRule` files a rule under each pair of its bundle sources and destinations.

`Uri::ParseIpnUriString` and the reading of key files are outside the sources: `LoadEnv`.

The trie a load builds is described by the list of the rule instances it filed
(`PolicyInstance`): `Abstracts` says that the nodes of the trie are the prefixes of their
pattern triples and that each role slot holds what their updates made of it, in order.  It holds
of the empty trie and of every `addPolicy` (`Abstracts.addPolicy`), so of every load
(`abstracts_loadFromConfig`).  What each update keeps therefore holds of every stored policy:
a policy a load stores has a service, passes the key check of each service it has, and has its
parameters in range, also when a second rule merges the other service into its slot
(`wellFormed_of_loadFromConfig`).  And since `ValidateAndFinalize` runs on a `policyToCopy`
with no service set, no stored policy has either of the flags it derives
(`derivedFlags_of_loadFromConfig`). -/

namespace Hdtn.Bpsec

/-! ### The configuration -/

/-- `BPSEC_SECURITY_CONTEXT_PARAM_NAME`; `other` stands for the names the loader rejects. -/
inductive SecurityContextParamName where
  | aesVariant | shaVariant | ivSizeBytes | scopeFlags | securityBlockCrc
  | keyEncryptionKeyFile | keyFile | other
deriving DecidableEq, Repr

/-- `security_context_param_t`. -/
structure SecurityContextParam where
  paramName : SecurityContextParamName
  valueUint : Nat
  valuePath : String
deriving DecidableEq, Repr

/-- `policy_rules_t`.  Its `std::set`s of EID URIs are lists without duplicates, visited in
their order (the loop files each pair once, so the order does not change what it builds); the
set of target block types is read only through membership. -/
structure PolicyRule where
  securityRole : String
  securityService : String
  securitySource : String
  bundleSource : List String
  bundleFinalDestination : List String
  securityTargetBlockTypes : List Nat
  securityContextParamsVec : List SecurityContextParam
  securityFailureEventSetReferencePtr : Option FailureEventSet
  bundleSource_nodup : bundleSource.Nodup
  bundleFinalDestination_nodup : bundleFinalDestination.Nodup

/-- `BpSecConfig`. -/
structure BpSecConfig where
  actionMaskSopMissingAtAcceptor : ActionMask
  policyRulesVector : List PolicyRule

/-- What `LoadFromConfig` calls outside this file: `Uri::ParseIpnUriString` (node, service,
whether the service is a wildcard) and the reading of a key file (`LoadTextFileIntoString`,
`boost::trim`, `HexStringToBytes`), each `none` when it fails. -/
structure LoadEnv where
  parseIpnUriString : String → Option (Nat × Nat × Bool)
  readKeyFile : String → Option (List UInt8)

/-- The members of `BpSecPolicyManager` the loader and the receiver use. -/
structure BpSecPolicyManager where
  policyFilterSecuritySource : PolicyTrie
  actionMaskSopMissingAtAcceptor : ActionMask

/-- A manager as constructed: an empty trie and no action. -/
def BpSecPolicyManager.empty : BpSecPolicyManager := ⟨.empty, ⟨false, false, false⟩⟩

/-! ### One rule -/

/-- The role of `m_securityRole`. -/
def securityRoleOfString (s : String) : Option BpSecRole :=
  if s = "source" then some .source
  else if s = "verifier" then some .verifier
  else if s = "acceptor" then some .acceptor
  else none

/-- Whether `m_securityService` is confidentiality (`true`) or integrity (`false`). -/
def isConfidentialityOfString (s : String) : Option Bool :=
  if s = "confidentiality" then some true
  else if s = "integrity" then some false
  else none

section rule

variable (env : LoadEnv)

/-- One security context parameter applied to `policyToCopy`; `none` where `LoadFromConfig`
returns false. -/
def applySecurityContextParam (isConfidentiality : Bool) (policy : BpSecPolicy)
    (param : SecurityContextParam) : Option BpSecPolicy :=
  let isIntegrity := !isConfidentiality
  let v := param.valueUint
  match param.paramName with
  | .aesVariant =>
    if isIntegrity then none
    else if v = 128 then some { policy with confidentialityVariant := .a128gcm }
    else if v = 256 then some { policy with confidentialityVariant := .a256gcm }
    else none
  | .shaVariant =>
    if isConfidentiality then none
    else if v = 256 then some { policy with integrityVariant := .hmac256_256 }
    else if v = 384 then some { policy with integrityVariant := .hmac384_384 }
    else if v = 512 then some { policy with integrityVariant := .hmac512_512 }
    else none
  | .ivSizeBytes =>
    if isIntegrity then none
    else if v ≠ 12 ∧ v ≠ 16 then none
    else some { policy with use12ByteIv := v = 12 }
  | .scopeFlags =>
    if allScopeFlagsSet < v then none
    else if isIntegrity then some { policy with integrityScopeMask := v }
    else some { policy with aadScopeMask := v }
  | .securityBlockCrc =>
    if crc32cType < v then none
    else if isIntegrity then some { policy with bibCrcType := v }
    else some { policy with bcbCrcType := v }
  | .keyEncryptionKeyFile =>
    match env.readKeyFile param.valuePath with
    | none => none
    | some keyBytes =>
      if keyBytes = [] then none
      else if isIntegrity then some { policy with hmacKeyEncryptionKey := keyBytes }
      else some { policy with confidentialityKeyEncryptionKey := keyBytes }
  | .keyFile =>
    match env.readKeyFile param.valuePath with
    | none => none
    | some keyBytes =>
      if keyBytes = [] then none
      else if isIntegrity then some { policy with hmacKey := keyBytes }
      else some { policy with dataEncryptionKey := keyBytes }
  | .other => none

/-- The key check: exactly one of the key and the key encryption key of the rule's service. -/
def keysSpecified (isConfidentiality : Bool) (policy : BpSecPolicy) : Bool :=
  if isConfidentiality then
    !(policy.confidentialityKeyEncryptionKey.isEmpty && policy.dataEncryptionKey.isEmpty) &&
      !(!policy.confidentialityKeyEncryptionKey.isEmpty && !policy.dataEncryptionKey.isEmpty)
  else
    !(policy.hmacKeyEncryptionKey.isEmpty && policy.hmacKey.isEmpty) &&
      !(!policy.hmacKeyEncryptionKey.isEmpty && !policy.hmacKey.isEmpty)

/-- `policyToCopy` as constructed, with the rule's targets for its service. -/
def PolicyRule.initialPolicy (rule : PolicyRule) (isConfidentiality : Bool) : BpSecPolicy :=
  if isConfidentiality then { BpSecPolicy.default with bcbBlockTypeTargets := rule.securityTargetBlockTypes }
  else { BpSecPolicy.default with bibBlockTypeTargets := rule.securityTargetBlockTypes }

/-- `ValidateAndFinalize`, which the loader runs for a source only. -/
def validateForRole (role : BpSecRole) (policy : BpSecPolicy) : Option BpSecPolicy :=
  if role = .source then policy.validateAndFinalize else some policy

/-- A rule's `policyToCopy`: the defaults with the rule's targets and its parameters, validated
for a source, with its keys checked. -/
def PolicyRule.policyToCopy (rule : PolicyRule) (role : BpSecRole) (isConfidentiality : Bool) :
    Option BpSecPolicy := do
  let policy ← rule.securityContextParamsVec.foldlM (applySecurityContextParam env isConfidentiality)
    (rule.initialPolicy isConfidentiality)
  let policy ← validateForRole role policy
  if keysSpecified isConfidentiality policy then some policy else none

end rule

/-- What the loop makes of a role slot through the pointer: a second rule of the same service is
rejected; otherwise the service is switched on and its members copied from `policyToCopy`, and
the two derived flags are copied from it. -/
def mergeRulePolicy (isConfidentiality : Bool) (policyToCopy : BpSecPolicy)
    (ref : Option FailureEventSet) (slot : Option BpSecPolicy) : Option BpSecPolicy :=
  let isNewPolicy := slot.isNone
  let policy := slot.getD .default
  if !isNewPolicy && (isConfidentiality && policy.doConfidentiality || !isConfidentiality && policy.doIntegrity) then none
  else
    let policy := if isConfidentiality then
        { policy with
          doConfidentiality := true
          confidentialityVariant := policyToCopy.confidentialityVariant
          use12ByteIv := policyToCopy.use12ByteIv
          aadScopeMask := policyToCopy.aadScopeMask
          bcbCrcType := policyToCopy.bcbCrcType
          bcbBlockTypeTargets := policyToCopy.bcbBlockTypeTargets
          confidentialityKeyEncryptionKey := policyToCopy.confidentialityKeyEncryptionKey
          dataEncryptionKey := policyToCopy.dataEncryptionKey
          confidentialitySecurityFailureEventSetReferencePtr := ref }
      else
        { policy with
          doIntegrity := true
          integrityVariant := policyToCopy.integrityVariant
          integrityScopeMask := policyToCopy.integrityScopeMask
          bibCrcType := policyToCopy.bibCrcType
          bibBlockTypeTargets := policyToCopy.bibBlockTypeTargets
          hmacKeyEncryptionKey := policyToCopy.hmacKeyEncryptionKey
          hmacKey := policyToCopy.hmacKey
          integritySecurityFailureEventSetReferencePtr := ref }
    some { policy with
      bcbTargetsPayloadBlock := policyToCopy.bcbTargetsPayloadBlock
      bibMustBeEncrypted := policyToCopy.bibMustBeEncrypted }

section load

variable (env : LoadEnv)

/-- The body of `LoadFromConfig`'s loop for one rule. -/
def loadRule (trie : PolicyTrie) (rule : PolicyRule) : Option PolicyTrie := do
  let role ← securityRoleOfString rule.securityRole
  let isConfidentiality ← isConfidentialityOfString rule.securityService
  let policyToCopy ← rule.policyToCopy env role isConfidentiality
  rule.bundleSource.foldlM (fun trie bundleSource =>
    rule.bundleFinalDestination.foldlM (fun trie bundleFinalDest =>
      createOrGetNewPolicy env.parseIpnUriString rule.securitySource bundleSource bundleFinalDest role
        (mergeRulePolicy isConfidentiality policyToCopy rule.securityFailureEventSetReferencePtr) trie)
      trie)
    trie

/-- `LoadFromConfig`: the manager with every rule filed, `none` where it returns false. -/
def loadFromConfig (m : BpSecPolicyManager) (config : BpSecConfig) : Option BpSecPolicyManager := do
  let trie ← config.policyRulesVector.foldlM (loadRule env) m.policyFilterSecuritySource
  some ⟨trie, config.actionMaskSopMissingAtAcceptor⟩

end load

/-! ### The trie of the rule instances -/

/-- A rule filed under one of its bundle sources and destinations: the three patterns, the role,
and what it makes of the role slot. -/
structure PolicyInstance where
  securitySource : EidPattern
  bundleSource : EidPattern
  bundleFinalDest : EidPattern
  role : BpSecRole
  update : Option BpSecPolicy → Option BpSecPolicy

/-- The role slot after `updates`, from an empty slot. -/
def applyUpdates (updates : List (Option BpSecPolicy → Option BpSecPolicy)) : Option BpSecPolicy :=
  updates.foldl (fun slot update => update slot) none

/-- The updates of the instances filed under three patterns for a role, in order. -/
def PolicyInstance.updatesAt (insts : List PolicyInstance) (p₁ p₂ p₃ : EidPattern) (role : BpSecRole) :
    List (Option BpSecPolicy → Option BpSecPolicy) :=
  (insts.filter fun i => i.securitySource = p₁ ∧ i.bundleSource = p₂ ∧ i.bundleFinalDest = p₃ ∧ i.role = role).map
    (·.update)

/-- The trie holds the prefixes of the instances' pattern triples and no other node, and each
role slot what the instances filed there made of it, in order. -/
structure Abstracts (trie : PolicyTrie) (insts : List PolicyInstance) : Prop where
  child : ∀ q₁, (trie.child q₁).isSome ↔ ∃ i ∈ insts, i.securitySource = q₁
  node₂ : ∀ q₁ q₂, (PolicyTrie.node₂ trie q₁ q₂).isSome ↔
    ∃ i ∈ insts, i.securitySource = q₁ ∧ i.bundleSource = q₂
  node₃ : ∀ q₁ q₂ q₃, (PolicyTrie.node₃ trie q₁ q₂ q₃).isSome ↔
    ∃ i ∈ insts, i.securitySource = q₁ ∧ i.bundleSource = q₂ ∧ i.bundleFinalDest = q₃
  slot : ∀ q₁ q₂ q₃ r, PolicyTrie.slot trie q₁ q₂ q₃ r = applyUpdates (PolicyInstance.updatesAt insts q₁ q₂ q₃ r)

theorem Abstracts.empty : Abstracts .empty [] :=
  ⟨by simp, by simp [PolicyTrie.node₂], by simp [PolicyTrie.node₃, PolicyTrie.node₂],
    by simp [PolicyTrie.slot, PolicyTrie.node₃, PolicyTrie.node₂, PolicyInstance.updatesAt, applyUpdates]⟩

theorem applyUpdates_concat (updates : List (Option BpSecPolicy → Option BpSecPolicy))
    (update : Option BpSecPolicy → Option BpSecPolicy) :
    applyUpdates (updates ++ [update]) = update (applyUpdates updates) := by
  simp [applyUpdates, List.foldl_append]

/-- **One filed instance.**  `addPolicy` files an instance in a trie that abstracts `insts` as
one more instance. -/
theorem Abstracts.addPolicy {trie trie' : PolicyTrie} {insts : List PolicyInstance} (hA : Abstracts trie insts)
    (i : PolicyInstance)
    (h : PolicyTrie.addPolicy i.securitySource i.bundleSource i.bundleFinalDest i.role i.update trie = some trie') :
    Abstracts trie' (insts ++ [i]) := by
  obtain ⟨policy, hp, hc, h₂, h₃, hs⟩ := PolicyTrie.addPolicy_spec h
  refine ⟨fun q₁ => ?_, fun q₁ q₂ => ?_, fun q₁ q₂ q₃ => ?_, fun q₁ q₂ q₃ r => ?_⟩
  · rw [hc, hA.child]
    simp [or_and_right, exists_or, or_comm, eq_comm]
  · rw [h₂, hA.node₂]
    simp [or_and_right, exists_or, or_comm, eq_comm]
  · rw [h₃, hA.node₃]
    simp [or_and_right, exists_or, or_comm, eq_comm]
  · rw [hs, PolicyInstance.updatesAt, List.filter_append, List.map_append]
    split_ifs with e
    · obtain ⟨rfl, rfl, rfl, rfl⟩ := e
      rw [List.filter_singleton, decide_eq_true (And.intro rfl (And.intro rfl (And.intro rfl rfl))),
        cond_true, List.map_singleton, applyUpdates_concat, ← hp, hA.slot]
      rfl
    · rw [hA.slot, List.filter_singleton]
      have he : decide (i.securitySource = q₁ ∧ i.bundleSource = q₂ ∧ i.bundleFinalDest = q₃ ∧ i.role = r) = false :=
        decide_eq_false fun h' => e ⟨h'.1.symm, h'.2.1.symm, h'.2.2.1.symm, h'.2.2.2.symm⟩
      rw [he, cond_false, List.map_nil, List.append_nil]
      rfl

/-! ### The instances a load files -/

/-- The instance `createOrGetNewPolicy` files for three EID URIs, `none` when one does not
parse. -/
def ruleInstance (parse : String → Option (Nat × Nat × Bool))
    (securitySourceEidUri bundleSourceEidUri bundleFinalDestEidUri : String) (role : BpSecRole)
    (update : Option BpSecPolicy → Option BpSecPolicy) : Option PolicyInstance := do
  let p₁ ← eidPatternOfUri parse securitySourceEidUri
  let p₂ ← eidPatternOfUri parse bundleSourceEidUri
  let p₃ ← eidPatternOfUri parse bundleFinalDestEidUri
  some ⟨p₁, p₂, p₃, role, update⟩

section instances

variable (env : LoadEnv)

/-- The instances `loadRule` files for a rule: one per bundle source and destination, each
updating its slot by `mergeRulePolicy` with the rule's `policyToCopy`. -/
def PolicyRule.instances (rule : PolicyRule) : List PolicyInstance :=
  match securityRoleOfString rule.securityRole, isConfidentialityOfString rule.securityService with
  | some role, some isConfidentiality =>
    match rule.policyToCopy env role isConfidentiality with
    | some policyToCopy =>
      rule.bundleSource.flatMap fun bundleSource => rule.bundleFinalDestination.flatMap fun bundleFinalDest =>
        (ruleInstance env.parseIpnUriString rule.securitySource bundleSource bundleFinalDest role
          (mergeRulePolicy isConfidentiality policyToCopy rule.securityFailureEventSetReferencePtr)).toList
    | none => []
  | _, _ => []

/-- The instances of the rules of a configuration, in order. -/
def BpSecConfig.instances (config : BpSecConfig) : List PolicyInstance :=
  config.policyRulesVector.flatMap (·.instances env)

end instances

section abstracts

variable {trie trie' : PolicyTrie} {insts : List PolicyInstance}

theorem Abstracts.createOrGetNewPolicy (hA : Abstracts trie insts) {parse : String → Option (Nat × Nat × Bool)}
    {securitySourceEidUri bundleSourceEidUri bundleFinalDestEidUri : String} {role : BpSecRole}
    {update : Option BpSecPolicy → Option BpSecPolicy}
    (h : createOrGetNewPolicy parse securitySourceEidUri bundleSourceEidUri bundleFinalDestEidUri role update trie =
      some trie') :
    Abstracts trie' (insts ++ (ruleInstance parse securitySourceEidUri bundleSourceEidUri bundleFinalDestEidUri
      role update).toList) := by
  simp only [Hdtn.Bpsec.createOrGetNewPolicy, Option.bind_eq_bind, Option.bind_eq_some] at h
  obtain ⟨p₁, h₁, p₂, h₂, p₃, h₃, h⟩ := h
  split_ifs at h
  simp only [ruleInstance, h₁, h₂, h₃, Option.bind_eq_bind, Option.some_bind, Option.toList_some]
  exact hA.addPolicy ⟨p₁, p₂, p₃, role, update⟩ h

theorem Abstracts.foldlM {β : Type} {f : PolicyTrie → β → Option PolicyTrie} {g : β → List PolicyInstance}
    (hf : ∀ {trie trie' insts} x, Abstracts trie insts → f trie x = some trie' → Abstracts trie' (insts ++ g x)) :
    ∀ {xs : List β} {trie trie' insts}, Abstracts trie insts → xs.foldlM f trie = some trie' →
      Abstracts trie' (insts ++ xs.flatMap g)
  | [], _, _, _, hA, h => by
    cases h
    simpa using hA
  | x :: xs, _, _, _, hA, h => by
    simp only [List.foldlM_cons, Option.bind_eq_bind, Option.bind_eq_some] at h
    obtain ⟨t, ht, h⟩ := h
    simpa [List.flatMap_cons, List.append_assoc] using Abstracts.foldlM hf (hf x hA ht) h

variable (env : LoadEnv)

theorem Abstracts.loadRule (hA : Abstracts trie insts) {rule : PolicyRule} (h : loadRule env trie rule = some trie') :
    Abstracts trie' (insts ++ rule.instances env) := by
  simp only [Hdtn.Bpsec.loadRule, Option.bind_eq_bind, Option.bind_eq_some] at h
  obtain ⟨role, hr, isConfidentiality, hc, policyToCopy, hp, h⟩ := h
  simp only [PolicyRule.instances, hr, hc, hp]
  exact Abstracts.foldlM (fun _ hA h => Abstracts.foldlM (fun _ hA h => hA.createOrGetNewPolicy h) hA h) hA h

/-- **What a load builds.**  Loading a configuration into a trie that abstracts `insts` gives
one that abstracts `insts` and the instances of the configuration's rules. -/
theorem abstracts_loadFromConfig {m m' : BpSecPolicyManager} {config : BpSecConfig}
    (hA : Abstracts m.policyFilterSecuritySource insts) (h : loadFromConfig env m config = some m') :
    Abstracts m'.policyFilterSecuritySource (insts ++ config.instances env) := by
  simp only [Hdtn.Bpsec.loadFromConfig, Option.bind_eq_bind, Option.bind_eq_some, Option.some.injEq] at h
  obtain ⟨trie, ht, rfl⟩ := h
  exact Abstracts.foldlM (fun _ hA h => hA.loadRule env h) hA ht

end abstracts

/-! ### The derived flags of a loaded policy -/

/-- The service flags and the two flags `ValidateAndFinalize` derives. -/
def BpSecPolicy.serviceFlags (p : BpSecPolicy) : Bool × Bool × Bool × Bool :=
  (p.doIntegrity, p.doConfidentiality, p.bcbTargetsPayloadBlock, p.bibMustBeEncrypted)

section flags

variable (env : LoadEnv)

theorem applySecurityContextParam_serviceFlags {isConfidentiality : Bool} {p q : BpSecPolicy}
    {param : SecurityContextParam} (h : applySecurityContextParam env isConfidentiality p param = some q) :
    q.serviceFlags = p.serviceFlags := by
  unfold applySecurityContextParam at h
  dsimp only at h
  split at h <;> (repeat' split at h) <;> (cases h; try rfl)

theorem foldlM_applySecurityContextParam_serviceFlags {isConfidentiality : Bool} :
    ∀ {params : List SecurityContextParam} {p q : BpSecPolicy},
      params.foldlM (applySecurityContextParam env isConfidentiality) p = some q → q.serviceFlags = p.serviceFlags
  | [], _, _, h => by cases h; rfl
  | _ :: _, _, _, h => by
    simp only [List.foldlM_cons, Option.bind_eq_bind, Option.bind_eq_some] at h
    obtain ⟨t, ht, h⟩ := h
    rw [foldlM_applySecurityContextParam_serviceFlags h, applySecurityContextParam_serviceFlags env ht]

theorem policyToCopy_derivedFlags {rule : PolicyRule} {role : BpSecRole} {isConfidentiality : Bool}
    {p : BpSecPolicy} (h : rule.policyToCopy env role isConfidentiality = some p) :
    p.bcbTargetsPayloadBlock = false ∧ p.bibMustBeEncrypted = false := by
  unfold PolicyRule.policyToCopy at h
  obtain ⟨p₁, h₁, h⟩ := Option.bind_eq_some.mp h
  obtain ⟨p₂, h₂, h⟩ := Option.bind_eq_some.mp h
  split_ifs at h
  cases h
  have hd : p₁.serviceFlags = (false, false, false, false) := by
    rw [foldlM_applySecurityContextParam_serviceFlags env h₁, PolicyRule.initialPolicy]
    split_ifs <;> rfl
  simp only [BpSecPolicy.serviceFlags, Prod.mk.injEq] at hd
  unfold validateForRole at h₂
  split_ifs at h₂
  · rw [BpSecPolicy.validateAndFinalize_of_no_service hd.1 hd.2.1, Option.some.injEq] at h₂
    subst h₂
    exact ⟨rfl, rfl⟩
  · cases h₂
    exact hd.2.2

theorem mergeRulePolicy_derivedFlags {isConfidentiality : Bool} {policyToCopy : BpSecPolicy}
    {ref : Option FailureEventSet} {slot : Option BpSecPolicy} {p : BpSecPolicy}
    (h : mergeRulePolicy isConfidentiality policyToCopy ref slot = some p) :
    p.bcbTargetsPayloadBlock = policyToCopy.bcbTargetsPayloadBlock ∧
      p.bibMustBeEncrypted = policyToCopy.bibMustBeEncrypted := by
  unfold mergeRulePolicy at h
  dsimp only at h
  split_ifs at h <;> cases h <;> exact ⟨rfl, rfl⟩

theorem ruleInstance_role_update {parse : String → Option (Nat × Nat × Bool)}
    {securitySourceEidUri bundleSourceEidUri bundleFinalDestEidUri : String} {role : BpSecRole}
    {update : Option BpSecPolicy → Option BpSecPolicy} {i : PolicyInstance}
    (h : ruleInstance parse securitySourceEidUri bundleSourceEidUri bundleFinalDestEidUri role update = some i) :
    i.role = role ∧ i.update = update := by
  obtain ⟨_, -, h⟩ := Option.bind_eq_some.mp h
  obtain ⟨_, -, h⟩ := Option.bind_eq_some.mp h
  obtain ⟨_, -, h⟩ := Option.bind_eq_some.mp h
  cases h
  exact ⟨rfl, rfl⟩

theorem PolicyRule.update_of_mem_instances {rule : PolicyRule} {i : PolicyInstance} (hi : i ∈ rule.instances env) :
    ∃ isConfidentiality policyToCopy, rule.policyToCopy env i.role isConfidentiality = some policyToCopy ∧
      i.update = mergeRulePolicy isConfidentiality policyToCopy rule.securityFailureEventSetReferencePtr := by
  unfold PolicyRule.instances at hi
  split at hi
  · split at hi
    · obtain ⟨_, -, hi⟩ := List.mem_flatMap.mp hi
      obtain ⟨_, -, hi⟩ := List.mem_flatMap.mp hi
      obtain ⟨rfl, hu⟩ := ruleInstance_role_update (Option.mem_toList.mp hi)
      exact ⟨_, _, ‹_›, hu⟩
    · cases hi
  · cases hi

theorem foldl_update_of_forall (P : BpSecPolicy → Prop) :
    ∀ {updates : List (Option BpSecPolicy → Option BpSecPolicy)} {init : Option BpSecPolicy},
      (∀ u ∈ updates, ∀ slot p, u slot = some p → P p) → (∀ p, init = some p → P p) →
        ∀ p, updates.foldl (fun slot update => update slot) init = some p → P p
  | [], _, _, hi => hi
  | u :: us, init, hu, _ => @foldl_update_of_forall P us (u init) (fun u' hu' => hu u' (List.mem_cons_of_mem u hu'))
    (hu u (List.mem_cons_self u us) init)

theorem applyUpdates_of_forall (P : BpSecPolicy → Prop) {updates : List (Option BpSecPolicy → Option BpSecPolicy)}
    (hu : ∀ u ∈ updates, ∀ slot p, u slot = some p → P p) {p : BpSecPolicy} (h : applyUpdates updates = some p) :
    P p :=
  foldl_update_of_forall P hu (fun _ h => by cases h) p h

/-- **A load never sets the derived flags.**  Every policy a load from an empty trie stores, in
any role slot, has `m_bcbTargetsPayloadBlock` and `m_bibMustBeEncrypted` false. -/
theorem derivedFlags_of_loadFromConfig {config : BpSecConfig} {m : BpSecPolicyManager}
    (h : loadFromConfig env .empty config = some m) {q₁ q₂ q₃ : EidPattern} {role : BpSecRole} {p : BpSecPolicy}
    (hp : PolicyTrie.slot m.policyFilterSecuritySource q₁ q₂ q₃ role = some p) :
    p.bcbTargetsPayloadBlock = false ∧ p.bibMustBeEncrypted = false := by
  rw [(abstracts_loadFromConfig env Abstracts.empty h).slot] at hp
  refine applyUpdates_of_forall (fun p => p.bcbTargetsPayloadBlock = false ∧ p.bibMustBeEncrypted = false)
    (fun u hu slot p hp => ?_) hp
  obtain ⟨i, hi, rfl⟩ := List.mem_map.mp hu
  obtain ⟨rule, -, hi⟩ := List.mem_flatMap.mp (List.mem_filter.mp hi).1
  obtain ⟨_, _, hc, he⟩ := PolicyRule.update_of_mem_instances env hi
  rw [he] at hp
  rw [(mergeRulePolicy_derivedFlags hp).1, (mergeRulePolicy_derivedFlags hp).2]
  exact policyToCopy_derivedFlags env hc

end flags

/-! ### Two source rules for one triple

`ValidateAndFinalize` runs on each rule's `policyToCopy`, which has no service set, and the
merged policy is never validated: an integrity and a confidentiality source rule with a shared
target load into one slot whose flags say neither that the BCB targets the payload nor that the
BIB must be encrypted, although the BCB does not target the BIB. -/

/-- `Uri::ParseIpnUriString` on the URIs of the configurations below. -/
def exampleParseIpnUriString (eidUri : String) : Option (Nat × Nat × Bool) :=
  if eidUri = "ipn:1.1" then some (1, 1, false)
  else if eidUri = "ipn:5.5" then some (5, 5, false)
  else none

/-- Key files that each hold the one-byte key `01`. -/
def exampleEnv : LoadEnv := ⟨exampleParseIpnUriString, fun _ => some [1]⟩

/-- A rule for one bundle source and every destination, targeting the payload block, with a
key file. -/
def exampleRule (securityRole securityService securitySource bundleSource : String) : PolicyRule where
  securityRole := securityRole
  securityService := securityService
  securitySource := securitySource
  bundleSource := [bundleSource]
  bundleFinalDestination := ["ipn:*.*"]
  securityTargetBlockTypes := [payloadBlockType]
  securityContextParamsVec := [⟨.keyFile, 0, "key.txt"⟩]
  securityFailureEventSetReferencePtr := none
  bundleSource_nodup := List.pairwise_singleton _ _
  bundleFinalDestination_nodup := List.pairwise_singleton _ _

/-- An integrity and a confidentiality source rule of node 1 for every bundle. -/
def overlappingSourceConfig : BpSecConfig :=
  ⟨⟨false, false, false⟩,
    [exampleRule "source" "integrity" "ipn:1.1" "ipn:*.*", exampleRule "source" "confidentiality" "ipn:1.1" "ipn:*.*"]⟩

theorem overlapping_source_rules_loaded :
    ∃ m, loadFromConfig exampleEnv .empty overlappingSourceConfig = some m ∧
      ∃ p, PolicyTrie.slot m.policyFilterSecuritySource (.exact ⟨1, 1⟩) .any .any .source = some p ∧
        p.doIntegrity = true ∧ p.doConfidentiality = true ∧
        fragmentSetsHaveOverlap p.bcbBlockTypeTargets p.bibBlockTypeTargets = true ∧
        integrityBlockType ∉ p.bcbBlockTypeTargets ∧ ¬ p.Finalized :=
  ⟨_, rfl, _, rfl, by decide⟩

/-- The slot of the two rules, whose BCB targets the payload block, has
`m_bcbTargetsPayloadBlock` false. -/
theorem derivedFlags_of_loadFromConfig_overlapping :
    ∃ m p, loadFromConfig exampleEnv .empty overlappingSourceConfig = some m ∧
      PolicyTrie.slot m.policyFilterSecuritySource (.exact ⟨1, 1⟩) .any .any .source = some p ∧
      payloadBlockType ∈ p.bcbBlockTypeTargets ∧ p.bcbTargetsPayloadBlock = false ∧ p.bibMustBeEncrypted = false := by
  obtain ⟨m, p, hm, hp, hpay⟩ : ∃ m p, loadFromConfig exampleEnv .empty overlappingSourceConfig = some m ∧
      PolicyTrie.slot m.policyFilterSecuritySource (.exact ⟨1, 1⟩) .any .any .source = some p ∧
      payloadBlockType ∈ p.bcbBlockTypeTargets := ⟨_, _, rfl, rfl, by decide⟩
  exact ⟨m, p, hm, hp, hpay, derivedFlags_of_loadFromConfig exampleEnv hm hp⟩

/-! ### What a loaded policy holds -/

/-- The ranges the loader checks of the scope and CRC parameters. -/
structure BpSecPolicy.ParamsInRange (p : BpSecPolicy) : Prop where
  integrityScopeMask_le : p.integrityScopeMask ≤ allScopeFlagsSet
  aadScopeMask_le : p.aadScopeMask ≤ allScopeFlagsSet
  bibCrcType_le : p.bibCrcType ≤ crc32cType
  bcbCrcType_le : p.bcbCrcType ≤ crc32cType

/-- A policy as the loader's checks leave it: it has a service, the key check of each service
it has passes, and its parameters are in range. -/
structure BpSecPolicy.WellFormed (p : BpSecPolicy) extends p.ParamsInRange : Prop where
  hasService : p.doIntegrity = true ∨ p.doConfidentiality = true
  integrityKeys : p.doIntegrity = true → keysSpecified false p = true
  confidentialityKeys : p.doConfidentiality = true → keysSpecified true p = true

section wellFormed

variable (env : LoadEnv)

theorem applySecurityContextParam_paramsInRange {isConfidentiality : Bool} {p q : BpSecPolicy}
    {param : SecurityContextParam} (h : applySecurityContextParam env isConfidentiality p param = some q)
    (hp : p.ParamsInRange) : q.ParamsInRange := by
  unfold applySecurityContextParam at h
  dsimp only at h
  split at h <;> (repeat' split at h) <;> cases h <;>
    exact ⟨by first | exact hp.1 | (dsimp only; omega), by first | exact hp.2 | (dsimp only; omega),
      by first | exact hp.3 | (dsimp only; omega), by first | exact hp.4 | (dsimp only; omega)⟩

theorem foldlM_applySecurityContextParam_paramsInRange {isConfidentiality : Bool} :
    ∀ {params : List SecurityContextParam} {p q : BpSecPolicy},
      params.foldlM (applySecurityContextParam env isConfidentiality) p = some q → p.ParamsInRange →
        q.ParamsInRange
  | [], _, _, h, hp => by cases h; exact hp
  | _ :: _, _, _, h, hp => by
    simp only [List.foldlM_cons, Option.bind_eq_bind, Option.bind_eq_some] at h
    obtain ⟨t, ht, h⟩ := h
    exact foldlM_applySecurityContextParam_paramsInRange h (applySecurityContextParam_paramsInRange env ht hp)

theorem paramsInRange_default : BpSecPolicy.default.ParamsInRange :=
  ⟨le_refl _, le_refl _, Nat.zero_le _, Nat.zero_le _⟩

theorem policyToCopy_wellFormed {rule : PolicyRule} {role : BpSecRole} {isConfidentiality : Bool}
    {p : BpSecPolicy} (h : rule.policyToCopy env role isConfidentiality = some p) :
    keysSpecified isConfidentiality p = true ∧ p.ParamsInRange := by
  unfold PolicyRule.policyToCopy at h
  obtain ⟨p₁, h₁, h⟩ := Option.bind_eq_some.mp h
  obtain ⟨p₂, h₂, h⟩ := Option.bind_eq_some.mp h
  split_ifs at h with hk
  cases h
  have hr₁ : p₁.ParamsInRange := foldlM_applySecurityContextParam_paramsInRange env h₁ (by
    unfold PolicyRule.initialPolicy
    split_ifs <;> exact ⟨le_refl _, le_refl _, Nat.zero_le _, Nat.zero_le _⟩)
  refine ⟨hk, ?_⟩
  unfold validateForRole at h₂
  split_ifs at h₂
  · obtain ⟨hq, -⟩ := BpSecPolicy.validateAndFinalize_spec h₂
    rw [hq]
    exact ⟨hr₁.1, hr₁.2, hr₁.3, hr₁.4⟩
  · cases h₂
    exact hr₁

theorem mergeRulePolicy_wellFormed {isConfidentiality : Bool} {policyToCopy : BpSecPolicy}
    {ref : Option FailureEventSet} {slot : Option BpSecPolicy} {p : BpSecPolicy}
    (hk : keysSpecified isConfidentiality policyToCopy = true) (hr : policyToCopy.ParamsInRange)
    (hslot : ∀ q, slot = some q → q.WellFormed) (h : mergeRulePolicy isConfidentiality policyToCopy ref slot = some p) :
    p.WellFormed := by
  have hbase : (slot.getD .default).ParamsInRange ∧
      ((slot.getD .default).doIntegrity = true → keysSpecified false (slot.getD .default) = true) ∧
      ((slot.getD .default).doConfidentiality = true → keysSpecified true (slot.getD .default) = true) := by
    cases slot with
    | none => exact ⟨paramsInRange_default, nofun, nofun⟩
    | some q =>
      have hq := hslot q rfl
      exact ⟨hq.toParamsInRange, hq.integrityKeys, hq.confidentialityKeys⟩
  obtain ⟨hbr, hbi, hbc⟩ := hbase
  unfold mergeRulePolicy at h
  dsimp only at h
  split_ifs at h with _ hc <;> cases h
  · subst hc
    exact ⟨⟨hbr.1, hr.2, hbr.3, hr.4⟩, .inr rfl, hbi, fun _ => hk⟩
  · rw [Bool.not_eq_true] at hc
    subst hc
    exact ⟨⟨hr.1, hbr.2, hr.3, hbr.4⟩, .inl rfl, fun _ => hk, hbc⟩

theorem foldl_update_of_preserves (P : BpSecPolicy → Prop) :
    ∀ {updates : List (Option BpSecPolicy → Option BpSecPolicy)} {init : Option BpSecPolicy},
      (∀ u ∈ updates, ∀ slot p, (∀ q, slot = some q → P q) → u slot = some p → P p) →
        (∀ p, init = some p → P p) → ∀ p, updates.foldl (fun slot update => update slot) init = some p → P p
  | [], _, _, hi => hi
  | u :: us, init, hu, hi => @foldl_update_of_preserves P us (u init)
    (fun u' hu' => hu u' (List.mem_cons_of_mem u hu')) (hu u (List.mem_cons_self u us) init · hi)

/-- **Every loaded policy is well formed.**  Every policy a load from an empty trie stores, in
any role slot, has a service, passes the key check of each service it has (exactly one of the
key and the key encryption key), and has its scope masks at most `ALL_FLAGS_SET` and its CRC
types at most `CRC32C`, even when two rules of different services merge into its slot. -/
theorem wellFormed_of_loadFromConfig {config : BpSecConfig} {m : BpSecPolicyManager}
    (h : loadFromConfig env .empty config = some m) {q₁ q₂ q₃ : EidPattern} {role : BpSecRole} {p : BpSecPolicy}
    (hp : PolicyTrie.slot m.policyFilterSecuritySource q₁ q₂ q₃ role = some p) : p.WellFormed := by
  rw [(abstracts_loadFromConfig env Abstracts.empty h).slot] at hp
  refine foldl_update_of_preserves BpSecPolicy.WellFormed (fun u hu slot p hslot hp => ?_) (fun _ h => by cases h) p hp
  obtain ⟨i, hi, rfl⟩ := List.mem_map.mp hu
  obtain ⟨rule, -, hi⟩ := List.mem_flatMap.mp (List.mem_filter.mp hi).1
  obtain ⟨_, _, hc, he⟩ := PolicyRule.update_of_mem_instances env hi
  rw [he] at hp
  obtain ⟨hk, hr⟩ := policyToCopy_wellFormed env hc
  exact mergeRulePolicy_wellFormed hk hr hslot hp

/-- An integrity and a confidentiality acceptor rule of node 1 for every bundle, merged into one
slot. -/
def acceptorBothServicesConfig : BpSecConfig :=
  ⟨⟨false, false, false⟩,
    [exampleRule "acceptor" "integrity" "ipn:1.1" "ipn:*.*",
      exampleRule "acceptor" "confidentiality" "ipn:1.1" "ipn:*.*"]⟩

theorem wellFormed_of_loadFromConfig_acceptorBothServices :
    ∃ m p, loadFromConfig exampleEnv .empty acceptorBothServicesConfig = some m ∧
      PolicyTrie.slot m.policyFilterSecuritySource (.exact ⟨1, 1⟩) .any .any .acceptor = some p ∧ p.WellFormed :=
  ⟨_, _, rfl, rfl, @wellFormed_of_loadFromConfig exampleEnv acceptorBothServicesConfig _ rfl (.exact ⟨1, 1⟩)
    .any .any .acceptor _ rfl⟩

end wellFormed

end Hdtn.Bpsec
