import Hdtn.Bpsec.Load

/-! # `FindPolicy` over a loaded trie

At each level `Internal_GetPolicyFilterFromThisFilter` takes the first pattern of the cascade
`ipn:N.S`, `ipn:N.*`, `ipn:*.*` that matches the EID and has a child, and `FindPolicy` never
goes back up.  Over a trie that abstracts a list of rule instances this is `greedyLookup`: the
first pattern of the cascade under which some instance is filed, of any role, given the
patterns chosen above; then the role's slot there (`findPolicy_eq_greedyLookup`).

So a policy `FindPolicy` returns comes from an instance of the role that matches the key
(`greedyLookup_matches`), but an instance that matches is missed when a more specific pattern
at some level is filed by an instance that does not match below it, or has another role. -/

namespace Hdtn.Bpsec

/-! ### The cascade -/

/-- The patterns an EID matches, in the order of the cascading lookup. -/
def EidPattern.cascade (eid : Eid) : List EidPattern := [.exact eid, .node eid.nodeId, .any]

theorem EidPattern.mem_cascade {q : EidPattern} {eid : Eid} : q ∈ cascade eid ↔ q.Matches eid := by
  cases q <;> simp [cascade, Matches, eq_comm]

theorem PolicyFilter.internalGetPolicyFilterFromThisFilter_eq {α : Type} (f : PolicyFilter α) (eid : Eid) :
    f.internalGetPolicyFilterFromThisFilter eid =
      ((EidPattern.cascade eid).find? fun q => (f.child q).isSome).bind f.child := by
  unfold internalGetPolicyFilterFromThisFilter
  cases h₁ : f.child (.exact eid) <;> cases h₂ : f.child (.node eid.nodeId) <;> cases h₃ : f.child .any <;>
    simp [EidPattern.cascade, h₁, h₂, h₃]

theorem findPolicy_eq_cascade (trie : PolicyTrie) (securitySourceEid bundleSourceEid bundleFinalDestEid : Eid)
    (role : BpSecRole) :
    findPolicy trie securitySourceEid bundleSourceEid bundleFinalDestEid role = (do
      let q₁ ← (EidPattern.cascade securitySourceEid).find? fun q₁ => (trie.child q₁).isSome
      let q₂ ← (EidPattern.cascade bundleSourceEid).find? fun q₂ => (PolicyTrie.node₂ trie q₁ q₂).isSome
      let q₃ ← (EidPattern.cascade bundleFinalDestEid).find? fun q₃ => (PolicyTrie.node₃ trie q₁ q₂ q₃).isSome
      if role.isValid then PolicyTrie.slot trie q₁ q₂ q₃ role else none) := by
  simp only [findPolicy, PolicyFilter.internalGetPolicyFilterFromThisFilter_eq, Option.bind_eq_bind,
    Option.bind_assoc]
  cases h₁ : (EidPattern.cascade securitySourceEid).find? fun q => (trie.child q).isSome with
  | none => rfl
  | some q₁ =>
    have hs₁ := List.find?_some h₁
    obtain ⟨f₂, hf₂⟩ := Option.isSome_iff_exists.mp hs₁
    simp only [Option.some_bind, hf₂, PolicyTrie.node₂, PolicyTrie.node₃, PolicyTrie.slot]
    cases h₂ : (EidPattern.cascade bundleSourceEid).find? fun q => (f₂.child q).isSome with
    | none => rfl
    | some q₂ =>
      have hs₂ := List.find?_some h₂
      obtain ⟨f₃, hf₃⟩ := Option.isSome_iff_exists.mp hs₂
      simp only [Option.some_bind, hf₃]
      cases (EidPattern.cascade bundleFinalDestEid).find? fun q => (f₃.child q).isSome with
      | none => rfl
      | some q₃ =>
        simp only [Option.some_bind]
        cases f₃.child q₃ <;> cases role.isValid <;> rfl

/-! ### The lookup over the rule instances -/

/-- The lookup `FindPolicy` makes, over the rule instances: at each level the first pattern of
the cascade under which an instance is filed, of any role, given the patterns chosen above; then
what the instances of the role filed under the three patterns made of its slot. -/
def greedyLookup (insts : List PolicyInstance) (securitySourceEid bundleSourceEid bundleFinalDestEid : Eid)
    (role : BpSecRole) : Option BpSecPolicy := do
  let q₁ ← (EidPattern.cascade securitySourceEid).find? fun q₁ => decide (∃ i ∈ insts, i.securitySource = q₁)
  let q₂ ← (EidPattern.cascade bundleSourceEid).find? fun q₂ =>
    decide (∃ i ∈ insts, i.securitySource = q₁ ∧ i.bundleSource = q₂)
  let q₃ ← (EidPattern.cascade bundleFinalDestEid).find? fun q₃ =>
    decide (∃ i ∈ insts, i.securitySource = q₁ ∧ i.bundleSource = q₂ ∧ i.bundleFinalDest = q₃)
  if role.isValid then applyUpdates (PolicyInstance.updatesAt insts q₁ q₂ q₃ role) else none

section abstracts

variable {trie : PolicyTrie} {insts : List PolicyInstance} (hA : Abstracts trie insts)
include hA

theorem Abstracts.child_isSome (q₁ : EidPattern) :
    (trie.child q₁).isSome = decide (∃ i ∈ insts, i.securitySource = q₁) := by
  rw [Bool.eq_iff_iff, hA.child q₁, decide_eq_true_iff]

theorem Abstracts.node₂_isSome (q₁ q₂ : EidPattern) :
    (PolicyTrie.node₂ trie q₁ q₂).isSome = decide (∃ i ∈ insts, i.securitySource = q₁ ∧ i.bundleSource = q₂) := by
  rw [Bool.eq_iff_iff, hA.node₂ q₁ q₂, decide_eq_true_iff]

theorem Abstracts.node₃_isSome (q₁ q₂ q₃ : EidPattern) :
    (PolicyTrie.node₃ trie q₁ q₂ q₃).isSome =
      decide (∃ i ∈ insts, i.securitySource = q₁ ∧ i.bundleSource = q₂ ∧ i.bundleFinalDest = q₃) := by
  rw [Bool.eq_iff_iff, hA.node₃ q₁ q₂ q₃, decide_eq_true_iff]

/-- **`FindPolicy` refines the greedy lookup.**  Over a trie that abstracts a list of rule
instances, `FindPolicy` returns what `greedyLookup` computes from the list. -/
theorem findPolicy_eq_greedyLookup (securitySourceEid bundleSourceEid bundleFinalDestEid : Eid) (role : BpSecRole) :
    findPolicy trie securitySourceEid bundleSourceEid bundleFinalDestEid role =
      greedyLookup insts securitySourceEid bundleSourceEid bundleFinalDestEid role := by
  simp only [findPolicy_eq_cascade, greedyLookup, hA.child_isSome, hA.node₂_isSome, hA.node₃_isSome, hA.slot]

end abstracts

theorem applyUpdates_nil : applyUpdates [] = none := rfl

theorem greedyLookup_matches {insts : List PolicyInstance} {securitySourceEid bundleSourceEid bundleFinalDestEid : Eid}
    {role : BpSecRole} {p : BpSecPolicy}
    (h : greedyLookup insts securitySourceEid bundleSourceEid bundleFinalDestEid role = some p) :
    ∃ i ∈ insts, i.role = role ∧ i.securitySource.Matches securitySourceEid ∧
      i.bundleSource.Matches bundleSourceEid ∧ i.bundleFinalDest.Matches bundleFinalDestEid := by
  unfold greedyLookup at h
  obtain ⟨q₁, h₁, h⟩ := Option.bind_eq_some.mp h
  obtain ⟨q₂, h₂, h⟩ := Option.bind_eq_some.mp h
  obtain ⟨q₃, h₃, h⟩ := Option.bind_eq_some.mp h
  split_ifs at h
  obtain ⟨u, hu⟩ := List.exists_mem_of_ne_nil (PolicyInstance.updatesAt insts q₁ q₂ q₃ role) fun hnil => by
    rw [hnil, applyUpdates_nil] at h
    cases h
  obtain ⟨i, hi, -⟩ := List.mem_map.mp hu
  obtain ⟨hmem, he⟩ := List.mem_filter.mp hi
  obtain ⟨rfl, rfl, rfl, rfl⟩ := of_decide_eq_true he
  exact ⟨i, hmem, rfl, EidPattern.mem_cascade.mp (List.mem_of_find?_eq_some h₁),
    EidPattern.mem_cascade.mp (List.mem_of_find?_eq_some h₂), EidPattern.mem_cascade.mp (List.mem_of_find?_eq_some h₃)⟩

/-! ### After a load -/

/-- **`FindPolicy` after a load.**  On a configuration `LoadFromConfig` accepts, `FindPolicy`
returns, for every key, what the greedy lookup computes from the rule instances of the
configuration. -/
theorem findPolicy_of_loadFromConfig {env : LoadEnv} {config : BpSecConfig} {m : BpSecPolicyManager}
    (h : loadFromConfig env .empty config = some m)
    (securitySourceEid bundleSourceEid bundleFinalDestEid : Eid) (role : BpSecRole) :
    findPolicy m.policyFilterSecuritySource securitySourceEid bundleSourceEid bundleFinalDestEid role =
      greedyLookup (config.instances env) securitySourceEid bundleSourceEid bundleFinalDestEid role :=
  findPolicy_eq_greedyLookup (by simpa using abstracts_loadFromConfig env Abstracts.empty h) _ _ _ _

/-- An acceptor rule for every bundle, and a verifier rule of node 1 for bundles from
`ipn:5.5`. -/
def shadowingConfig : BpSecConfig :=
  ⟨⟨false, false, false⟩,
    [exampleRule "acceptor" "integrity" "ipn:*.*" "ipn:*.*", exampleRule "verifier" "integrity" "ipn:1.1" "ipn:5.5"]⟩

theorem findPolicy_of_loadFromConfig_shadowing :
    ∃ m, loadFromConfig exampleEnv .empty shadowingConfig = some m ∧
      findPolicy m.policyFilterSecuritySource ⟨1, 1⟩ ⟨2, 2⟩ ⟨3, 3⟩ .acceptor =
        greedyLookup (shadowingConfig.instances exampleEnv) ⟨1, 1⟩ ⟨2, 2⟩ ⟨3, 3⟩ .acceptor :=
  have ⟨m, hm⟩ : ∃ m, loadFromConfig exampleEnv .empty shadowingConfig = some m := ⟨_, rfl⟩
  ⟨m, hm, findPolicy_of_loadFromConfig hm _ _ _ _⟩

/-- The acceptor rule matches the key `(ipn:1.1, ipn:2.2, ipn:3.3)`, but the lookup takes the
node `ipn:1.1` the verifier rule created at the first level and finds no child for `ipn:2.2`
under it. -/
theorem matching_acceptor_rule_shadowed :
    ∃ m, loadFromConfig exampleEnv .empty shadowingConfig = some m ∧
      (∃ i ∈ shadowingConfig.instances exampleEnv, i.role = .acceptor ∧ i.securitySource.Matches ⟨1, 1⟩ ∧
        i.bundleSource.Matches ⟨2, 2⟩ ∧ i.bundleFinalDest.Matches ⟨3, 3⟩) ∧
      findPolicy m.policyFilterSecuritySource ⟨1, 1⟩ ⟨2, 2⟩ ⟨3, 3⟩ .acceptor = none :=
  ⟨_, rfl, by decide, rfl⟩

end Hdtn.Bpsec
