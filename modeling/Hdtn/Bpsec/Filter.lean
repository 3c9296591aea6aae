import Hdtn.Bpsec.Policy

/-! # The policy trie

`BpSecPolicyFilter` is a node of a three-level trie: the root is keyed by the security source,
its children by the bundle source, theirs by the bundle final destination, and the nodes of the
third level hold one policy per role.  A node has a child for each fully qualified EID
(`m_eidToNextFilterMap`), for each node number of a wildcard service (`m_nodeIdToNextFilterMap`)
and one for `ipn:*.*` (`m_anyEidToNextFilterPtr`).  The levels are typed apart:
`PolicyFilter α` is a node whose children are `α`, so the root is
`PolicyFilter (PolicyFilter (PolicyFilter PoliciesByRole))`.

* `Internal_AddPolicyFilterToThisFilter` files an EID URI under its `EidPattern`, creating the
  child if missing; `CreateOrGetNewPolicy` follows three of them to a role slot
  (`PolicyFilter.modifyChild`, `createOrGetNewPolicy`).
* `Internal_GetPolicyFilterFromThisFilter` takes, at one level, the child of the EID, else of
  its node number, else the `any` child (`internalGetPolicyFilterFromThisFilter`); `FindPolicy`
  walks the three levels so and reads the role slot.
* `FindPolicyWithCacheSupport` remembers the last key and its result
  (`findPolicyWithCacheSupport_eq`: it returns what `FindPolicy` returns). -/

namespace Hdtn.Bpsec

/-- What a level of the trie files a child under. -/
inductive EidPattern where
  /-- `ipn:N.S`, in `m_eidToNextFilterMap`. -/
  | exact (eid : Eid)
  /-- `ipn:N.*`, in `m_nodeIdToNextFilterMap`. -/
  | node (nodeId : Nat)
  /-- `ipn:*.*`, the `m_anyEidToNextFilterPtr` child. -/
  | any
deriving DecidableEq, Repr

/-- Whether an EID matches a pattern. -/
def EidPattern.Matches : EidPattern → Eid → Prop
  | .exact e, eid => e = eid
  | .node n, eid => n = eid.nodeId
  | .any, _ => True

instance : (p : EidPattern) → (eid : Eid) → Decidable (p.Matches eid)
  | .exact e, eid => inferInstanceAs (Decidable (e = eid))
  | .node n, eid => inferInstanceAs (Decidable (n = eid.nodeId))
  | .any, _ => inferInstanceAs (Decidable True)

/-- A node of the trie whose children are `α`. -/
structure PolicyFilter (α : Type) where
  eidToNextFilterMap : Eid → Option α
  nodeIdToNextFilterMap : Nat → Option α
  anyEidToNextFilterPtr : Option α

/-- The policies of a third-level node, `m_policiesByRoleArray`, by role. -/
abbrev PoliciesByRole := BpSecRole → Option BpSecPolicy

/-- The root of the trie, `m_policyFilterSecuritySource`. -/
abbrev PolicyTrie := PolicyFilter (PolicyFilter (PolicyFilter PoliciesByRole))

namespace PolicyFilter

variable {α : Type}

/-- A node with no child. -/
def empty : PolicyFilter α := ⟨fun _ => none, fun _ => none, none⟩

/-- The child filed under a pattern. -/
def child (f : PolicyFilter α) : EidPattern → Option α
  | .exact eid => f.eidToNextFilterMap eid
  | .node nodeId => f.nodeIdToNextFilterMap nodeId
  | .any => f.anyEidToNextFilterPtr

/-- The node with the child under `pattern` replaced by `c`. -/
def setChild (f : PolicyFilter α) : EidPattern → α → PolicyFilter α
  | .exact eid, c => { f with eidToNextFilterMap := Function.update f.eidToNextFilterMap eid (some c) }
  | .node nodeId, c => { f with nodeIdToNextFilterMap := Function.update f.nodeIdToNextFilterMap nodeId (some c) }
  | .any, c => { f with anyEidToNextFilterPtr := some c }

@[simp] theorem child_empty (p : EidPattern) : (empty : PolicyFilter α).child p = none := by
  cases p <;> rfl

@[simp] theorem child_setChild (f : PolicyFilter α) (p q : EidPattern) (c : α) :
    (f.setChild p c).child q = if q = p then some c else f.child q := by
  cases p <;> cases q <;> simp [setChild, child, Function.update_apply, eq_comm]

/-- The pointer `Internal_AddPolicyFilterToThisFilter` returns, used by `g`: the child under
`pattern`, created as `e` when missing (`operator[]`, `make_unique`), is replaced by what `g`
makes of it; `none` when `g` fails. -/
def modifyChild (e : α) (pattern : EidPattern) (g : α → Option α) (f : PolicyFilter α) :
    Option (PolicyFilter α) :=
  (g ((f.child pattern).getD e)).map (f.setChild pattern)

theorem modifyChild_eq_some {e : α} {p : EidPattern} {g : α → Option α} {f f' : PolicyFilter α}
    (h : f.modifyChild e p g = some f') : ∃ c, g ((f.child p).getD e) = some c ∧ f' = f.setChild p c := by
  obtain ⟨c, hc, rfl⟩ := Option.map_eq_some'.mp h
  exact ⟨c, hc, rfl⟩

theorem child_getD_empty {β : Type} (o : Option (PolicyFilter β)) (q : EidPattern) :
    (o.getD empty).child q = o.bind (·.child q) := by
  cases o <;> simp

/-- `Internal_GetPolicyFilterFromThisFilter`: the child of the EID, else of its node number,
else the `any` child. -/
def internalGetPolicyFilterFromThisFilter (eid : Eid) (f : PolicyFilter α) : Option α :=
  match f.child (.exact eid) with
  | some c => some c
  | none => match f.child (.node eid.nodeId) with
    | some c => some c
    | none => f.child .any

end PolicyFilter

/-- The pattern `Internal_AddPolicyFilterToThisFilter` files an EID URI under: the `any` child
for `ipn:*.*`, else what `Uri::ParseIpnUriString` (`parse`: node, service, whether the service
is a wildcard) reads, `none` (`NULL`) when it fails. -/
def eidPatternOfUri (parse : String → Option (Nat × Nat × Bool)) (eidUri : String) : Option EidPattern :=
  if eidUri = "ipn:*.*" then some .any
  else match parse eidUri with
    | none => none
    | some (nodeId, serviceId, serviceNumberIsWildCard) =>
      some (if serviceNumberIsWildCard then .node nodeId else .exact ⟨nodeId, serviceId⟩)

/-- `roleIndex < RESERVED_MAX_ROLE_TYPES`. -/
def BpSecRole.isValid : BpSecRole → Bool
  | .reservedMaxRoleTypes => false
  | _ => true

namespace PolicyTrie

theorem getD_none_apply {β γ : Type} (o : Option (β → Option γ)) (b : β) :
    (o.getD fun _ => none) b = o.bind (· b) := by
  cases o <;> rfl

/-- The second-level node under two patterns. -/
def node₂ (trie : PolicyTrie) (p₁ p₂ : EidPattern) : Option (PolicyFilter PoliciesByRole) :=
  (trie.child p₁).bind (·.child p₂)

/-- The third-level node under three patterns. -/
def node₃ (trie : PolicyTrie) (p₁ p₂ p₃ : EidPattern) : Option PoliciesByRole :=
  (node₂ trie p₁ p₂).bind (·.child p₃)

/-- The policy of `role` under three patterns. -/
def slot (trie : PolicyTrie) (p₁ p₂ p₃ : EidPattern) (role : BpSecRole) : Option BpSecPolicy :=
  (node₃ trie p₁ p₂ p₃).bind (· role)

/-- The nodes along three patterns, created when missing, and the policy of `role` there made
by `update` from what the slot holds; `none` when `update` fails. -/
def addPolicy (p₁ p₂ p₃ : EidPattern) (role : BpSecRole) (update : Option BpSecPolicy → Option BpSecPolicy)
    (trie : PolicyTrie) : Option PolicyTrie :=
  trie.modifyChild .empty p₁ fun f₂ => f₂.modifyChild .empty p₂ fun f₃ =>
    f₃.modifyChild (fun _ => none) p₃ fun roles => (update (roles role)).map fun policy =>
      Function.update roles role (some policy)

/-- **What adding a policy does.**  The nodes along the three patterns exist afterwards, no other
node appears, and the slot of `role` there holds the policy `update` made of it; every other slot
is as it was. -/
theorem addPolicy_spec {p₁ p₂ p₃ : EidPattern} {role : BpSecRole} {update : Option BpSecPolicy → Option BpSecPolicy}
    {trie trie' : PolicyTrie} (h : addPolicy p₁ p₂ p₃ role update trie = some trie') :
    ∃ policy, update (slot trie p₁ p₂ p₃ role) = some policy ∧
      (∀ q₁, (trie'.child q₁).isSome ↔ q₁ = p₁ ∨ (trie.child q₁).isSome) ∧
      (∀ q₁ q₂, (node₂ trie' q₁ q₂).isSome ↔ q₁ = p₁ ∧ q₂ = p₂ ∨ (node₂ trie q₁ q₂).isSome) ∧
      (∀ q₁ q₂ q₃, (node₃ trie' q₁ q₂ q₃).isSome ↔ q₁ = p₁ ∧ q₂ = p₂ ∧ q₃ = p₃ ∨ (node₃ trie q₁ q₂ q₃).isSome) ∧
      ∀ q₁ q₂ q₃ r, slot trie' q₁ q₂ q₃ r =
        if q₁ = p₁ ∧ q₂ = p₂ ∧ q₃ = p₃ ∧ r = role then some policy else slot trie q₁ q₂ q₃ r := by
  obtain ⟨f₂, h₂, rfl⟩ := PolicyFilter.modifyChild_eq_some h
  obtain ⟨f₃, h₃, rfl⟩ := PolicyFilter.modifyChild_eq_some h₂
  obtain ⟨roles, hr, rfl⟩ := PolicyFilter.modifyChild_eq_some h₃
  obtain ⟨policy, hp, rfl⟩ := Option.map_eq_some'.mp hr
  have hold : ((((((trie.child p₁).getD .empty).child p₂).getD .empty).child p₃).getD fun _ => none) role =
      slot trie p₁ p₂ p₃ role := by
    simp only [PolicyFilter.child_getD_empty, slot, node₃, node₂, getD_none_apply]
  refine ⟨policy, hold ▸ hp, fun q₁ => ?_, fun q₁ q₂ => ?_, fun q₁ q₂ q₃ => ?_, fun q₁ q₂ q₃ r => ?_⟩
  all_goals
    simp only [node₂, node₃, slot, PolicyFilter.child_setChild]
    by_cases e₁ : q₁ = p₁
    case neg => simp [e₁]
    subst e₁
    simp only [if_true, Option.some_bind, Option.isSome_some, true_or, true_and,
      PolicyFilter.child_setChild, PolicyFilter.child_getD_empty]
  all_goals
    by_cases e₂ : q₂ = p₂
    case neg => simp [e₂]
    subst e₂
    simp only [if_true, Option.some_bind, Option.isSome_some, true_or, true_and,
      PolicyFilter.child_setChild, PolicyFilter.child_getD_empty]
  all_goals
    by_cases e₃ : q₃ = p₃
    case neg => simp [e₃]
    subst e₃
    simp only [if_true, Option.some_bind, Option.isSome_some, true_or, true_and]
  by_cases e : r = role
  · subst e
    simp
  · simp [e, Function.update_apply, getD_none_apply]

end PolicyTrie

/-- `CreateOrGetNewPolicy` with what the caller then does through the pointer: along the
patterns of the three EID URIs to the role slot, creating missing nodes, where `update` makes
the policy from the slot's (`none`: a new policy); `none` when a URI does not parse, the role is
not valid or `update` fails. -/
def createOrGetNewPolicy (parse : String → Option (Nat × Nat × Bool))
    (securitySourceEidUri bundleSourceEidUri bundleFinalDestEidUri : String) (role : BpSecRole)
    (update : Option BpSecPolicy → Option BpSecPolicy) (trie : PolicyTrie) : Option PolicyTrie := do
  let p₁ ← eidPatternOfUri parse securitySourceEidUri
  let p₂ ← eidPatternOfUri parse bundleSourceEidUri
  let p₃ ← eidPatternOfUri parse bundleFinalDestEidUri
  if role.isValid then PolicyTrie.addPolicy p₁ p₂ p₃ role update trie else none

/-- `FindPolicy`: the policy of `role` at the third-level node the cascading lookup reaches. -/
def findPolicy (trie : PolicyTrie) (securitySourceEid bundleSourceEid bundleFinalDestEid : Eid)
    (role : BpSecRole) : Option BpSecPolicy := do
  let policyFilterBundleSource ← trie.internalGetPolicyFilterFromThisFilter securitySourceEid
  let policyFilterBundleFinalDest ← policyFilterBundleSource.internalGetPolicyFilterFromThisFilter bundleSourceEid
  let policyFilterRoleArrays ← policyFilterBundleFinalDest.internalGetPolicyFilterFromThisFilter bundleFinalDestEid
  if role.isValid then policyFilterRoleArrays role else none

/-! ### The search cache -/

/-- `PolicySearchCache`: the key last looked up and its result. -/
structure PolicySearchCache where
  securitySourceEid : Eid
  bundleSourceEid : Eid
  bundleFinalDestEid : Eid
  role : BpSecRole
  wasCacheHit : Bool
  foundPolicy : Option BpSecPolicy

/-- The constructor's cache: a key no lookup has, since its role is not valid. -/
def PolicySearchCache.initial : PolicySearchCache :=
  ⟨⟨0, 0⟩, ⟨0, 0⟩, ⟨0, 0⟩, .reservedMaxRoleTypes, false, none⟩

/-- `FindPolicyWithCacheSupport`: the cached result for the last key, otherwise `FindPolicy`'s,
which is cached. -/
def findPolicyWithCacheSupport (trie : PolicyTrie) (securitySourceEid bundleSourceEid bundleFinalDestEid : Eid)
    (role : BpSecRole) (searchCache : PolicySearchCache) : Option BpSecPolicy × PolicySearchCache :=
  if role = searchCache.role ∧ securitySourceEid = searchCache.securitySourceEid ∧
      bundleSourceEid = searchCache.bundleSourceEid ∧ bundleFinalDestEid = searchCache.bundleFinalDestEid then
    match searchCache.foundPolicy with
    | some policy => (some policy, { searchCache with wasCacheHit := true })
    | none => (none, { searchCache with wasCacheHit := false })
  else
    let foundPolicy := findPolicy trie securitySourceEid bundleSourceEid bundleFinalDestEid role
    (foundPolicy, ⟨securitySourceEid, bundleSourceEid, bundleFinalDestEid, role, false, foundPolicy⟩)

/-- The cache holds `FindPolicy`'s result for its key. -/
def PolicySearchCache.Consistent (trie : PolicyTrie) (c : PolicySearchCache) : Prop :=
  c.foundPolicy = findPolicy trie c.securitySourceEid c.bundleSourceEid c.bundleFinalDestEid c.role

theorem PolicySearchCache.consistent_initial (trie : PolicyTrie) : PolicySearchCache.initial.Consistent trie := by
  simp [Consistent, initial, findPolicy, BpSecRole.isValid]

/-- **The cache is transparent.**  From a consistent cache, `FindPolicyWithCacheSupport` returns
what `FindPolicy` returns and leaves the cache consistent. -/
theorem findPolicyWithCacheSupport_eq {trie : PolicyTrie} {c : PolicySearchCache} (hc : c.Consistent trie)
    (securitySourceEid bundleSourceEid bundleFinalDestEid : Eid) (role : BpSecRole) :
    (findPolicyWithCacheSupport trie securitySourceEid bundleSourceEid bundleFinalDestEid role c).1 =
        findPolicy trie securitySourceEid bundleSourceEid bundleFinalDestEid role ∧
      (findPolicyWithCacheSupport trie securitySourceEid bundleSourceEid bundleFinalDestEid role c).2.Consistent trie := by
  unfold findPolicyWithCacheSupport
  split_ifs with hkey
  · obtain ⟨rfl, rfl, rfl, rfl⟩ := hkey
    unfold PolicySearchCache.Consistent at hc ⊢
    cases hf : c.foundPolicy <;> simp only [hf] at hc ⊢ <;> exact ⟨hc, hc⟩
  · exact ⟨rfl, rfl⟩

/-! ### A sequence of lookups -/

/-- A key of the lookup: security source, bundle source, bundle final destination and role. -/
abbrev PolicyKey := Eid × Eid × Eid × BpSecRole

/-- The key the cache remembers. -/
def PolicySearchCache.key (c : PolicySearchCache) : PolicyKey :=
  (c.securitySourceEid, c.bundleSourceEid, c.bundleFinalDestEid, c.role)

/-- `FindPolicy` at a key. -/
def findPolicyAt (trie : PolicyTrie) (k : PolicyKey) : Option BpSecPolicy :=
  findPolicy trie k.1 k.2.1 k.2.2.1 k.2.2.2

/-- `FindPolicyWithCacheSupport` called on each key in turn with one cache: each call's result
and the `wasCacheHit` it leaves. -/
def findPolicyWithCacheSupportCalls (trie : PolicyTrie) :
    List PolicyKey → PolicySearchCache → List (Option BpSecPolicy × Bool)
  | [], _ => []
  | k :: keys, searchCache =>
    let r := findPolicyWithCacheSupport trie k.1 k.2.1 k.2.2.1 k.2.2.2 searchCache
    (r.1, r.2.wasCacheHit) :: findPolicyWithCacheSupportCalls trie keys r.2

theorem findPolicyWithCacheSupport_key {trie : PolicyTrie} {c : PolicySearchCache} (hc : c.Consistent trie)
    (k : PolicyKey) :
    (findPolicyWithCacheSupport trie k.1 k.2.1 k.2.2.1 k.2.2.2 c).2.key = k ∧
      (findPolicyWithCacheSupport trie k.1 k.2.1 k.2.2.1 k.2.2.2 c).2.wasCacheHit =
        (decide (c.key = k) && (findPolicyAt trie k).isSome) := by
  obtain ⟨a, b, d, role⟩ := k
  unfold findPolicyWithCacheSupport
  split_ifs with hkey
  · obtain ⟨rfl, rfl, rfl, rfl⟩ := hkey
    unfold PolicySearchCache.Consistent at hc
    cases hf : c.foundPolicy <;> simp [PolicySearchCache.key, findPolicyAt, ← hc, hf]
  · have hne : c.key ≠ (a, b, d, role) := fun h => by
      simp only [PolicySearchCache.key, Prod.mk.injEq] at h
      exact hkey ⟨h.2.2.2.symm, h.1.symm, h.2.1.symm, h.2.2.1.symm⟩
    exact ⟨rfl, by simp [hne]⟩

theorem findPolicyWithCacheSupportCalls_eq {trie : PolicyTrie} :
    ∀ {c : PolicySearchCache} (keys : List PolicyKey), c.Consistent trie →
      findPolicyWithCacheSupportCalls trie keys c =
        List.zipWith (fun prev k => (findPolicyAt trie k, decide (prev = some k) && (findPolicyAt trie k).isSome))
          (some c.key :: keys.map some) keys
  | _, [], _ => rfl
  | c, k :: keys, hc => by
    obtain ⟨hres, hc'⟩ := findPolicyWithCacheSupport_eq hc k.1 k.2.1 k.2.2.1 k.2.2.2
    obtain ⟨hkey, hhit⟩ := findPolicyWithCacheSupport_key hc k
    rw [findPolicyWithCacheSupportCalls, findPolicyWithCacheSupportCalls_eq keys hc', hkey, hres, hhit]
    simp [findPolicyAt]

/-- **The search cache agrees with `FindPolicy`.**  Over any sequence of keys, with any roles,
from the constructed cache: each `FindPolicyWithCacheSupport` call returns what `FindPolicy`
returns for its key, and sets `wasCacheHit` exactly when there was a call before it, with the
same key, and the result is not null. -/
theorem findPolicyWithCacheSupport_calls (trie : PolicyTrie) (keys : List PolicyKey) :
    findPolicyWithCacheSupportCalls trie keys PolicySearchCache.initial =
      List.zipWith (fun prev k => (findPolicyAt trie k, decide (prev = some k) && (findPolicyAt trie k).isSome))
        (none :: keys.map some) keys := by
  rw [findPolicyWithCacheSupportCalls_eq keys (PolicySearchCache.consistent_initial trie)]
  cases keys with
  | nil => rfl
  | cons k keys =>
    have hsentinel : PolicySearchCache.initial.key = k → findPolicyAt trie k = none := by
      rintro rfl
      simp [PolicySearchCache.initial, PolicySearchCache.key, findPolicyAt, findPolicy, BpSecRole.isValid]
    by_cases hk : PolicySearchCache.initial.key = k
    · simp [hk, hsentinel hk]
    · simp [hk]

end Hdtn.Bpsec
