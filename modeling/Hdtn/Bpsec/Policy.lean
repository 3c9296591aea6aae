import Mathlib.Data.List.Basic

/-! # BPSec policies

The data of `src/common/bpsec/src/BpSecPolicyManager.cpp`:

* `BpSecPolicy`, with every member the manager reads or writes, and its constructor's defaults;
* the block type sets of a policy: `FragmentSet::data_fragment_set_t` is read only through the
  block types its fragments cover, so a set is the list of those block types;
* `ValidateAndFinalize`, which derives `m_bcbTargetsPayloadBlock` and `m_bibMustBeEncrypted`
  and rejects a policy whose BIB shares a target with its BCB unless the BCB also targets the
  BIB.

The enumerations of the headers appear with the members the manager uses. -/

namespace Hdtn.Bpsec

/-- `cbhe_eid_t`. -/
structure Eid where
  nodeId : Nat
  serviceId : Nat
deriving DecidableEq, Repr

/-- `BPSEC_ROLE`. -/
inductive BpSecRole where
  | source | verifier | acceptor | reservedMaxRoleTypes
deriving DecidableEq, Repr

/-- `COSE_ALGORITHMS`, as far as the policies use them. -/
inductive CoseAlgorithm where
  | hmac256_256 | hmac384_384 | hmac512_512 | a128gcm | a256gcm
deriving DecidableEq, Repr

/-- The bits of `BPSEC_SECURITY_FAILURE_PROCESSING_ACTION_MASKS` the manager tests. -/
structure ActionMask where
  removeSecurityOperation : Bool
  removeSecurityOperationTargetBlock : Bool
  failBundleForwarding : Bool
deriving DecidableEq, Repr

/-- `BPSEC_SECURITY_FAILURE_EVENT`, as far as the manager raises them. -/
inductive SecurityFailureEvent where
  | undefined
  | securityOperationCorruptedAtAcceptor | securityOperationMisconfiguredAtAcceptor
  | securityOperationCorruptedAtVerifier | securityOperationMisconfiguredAtVerifier
deriving DecidableEq, Repr

/-- A security failure event set, by its `m_eventTypeToEventSetPtrLut`: the action masks of the
events it lists. -/
abbrev FailureEventSet := SecurityFailureEvent → Option ActionMask

/-- `BPV7_BLOCK_TYPE_CODE::PAYLOAD`. -/
def payloadBlockType : Nat := 1

/-- `BPV7_BLOCK_TYPE_CODE::INTEGRITY`. -/
def integrityBlockType : Nat := 11

/-- `BPV7_BLOCK_TYPE_CODE::CONFIDENTIALITY`. -/
def confidentialityBlockType : Nat := 12

/-- `ALL_FLAGS_SET` of `BPSEC_BIB_HMAC_SHA2_INTEGRITY_SCOPE_MASKS` and of
`BPSEC_BCB_AES_GCM_AAD_SCOPE_MASKS`. -/
def allScopeFlagsSet : Nat := 7

/-- `BPV7_CRC_TYPE::CRC32C`, the largest CRC type. -/
def crc32cType : Nat := 2

/-- `FragmentSet::FragmentSetsHaveOverlap`. -/
def fragmentSetsHaveOverlap (a b : List Nat) : Bool := a.any (· ∈ b)

/-- `BpSecPolicy`. -/
structure BpSecPolicy where
  doIntegrity : Bool
  doConfidentiality : Bool
  /-- Set by `ValidateAndFinalize`. -/
  bcbTargetsPayloadBlock : Bool
  /-- Set by `ValidateAndFinalize`. -/
  bibMustBeEncrypted : Bool
  integrityVariant : CoseAlgorithm
  integrityScopeMask : Nat
  bibCrcType : Nat
  bibBlockTypeTargets : List Nat
  hmacKeyEncryptionKey : List UInt8
  hmacKey : List UInt8
  integritySecurityFailureEventSetReferencePtr : Option FailureEventSet
  confidentialityVariant : CoseAlgorithm
  use12ByteIv : Bool
  aadScopeMask : Nat
  bcbCrcType : Nat
  bcbBlockTypeTargets : List Nat
  confidentialityKeyEncryptionKey : List UInt8
  dataEncryptionKey : List UInt8
  confidentialitySecurityFailureEventSetReferencePtr : Option FailureEventSet

namespace BpSecPolicy

/-- The constructor's defaults: no service, `HMAC_384_384` and `A256GCM`, a 12-byte IV, all
scope flags, no CRC, no targets, no keys and no event sets. -/
def default : BpSecPolicy where
  doIntegrity := false
  doConfidentiality := false
  bcbTargetsPayloadBlock := false
  bibMustBeEncrypted := false
  integrityVariant := .hmac384_384
  integrityScopeMask := allScopeFlagsSet
  bibCrcType := 0
  bibBlockTypeTargets := []
  hmacKeyEncryptionKey := []
  hmacKey := []
  integritySecurityFailureEventSetReferencePtr := none
  confidentialityVariant := .a256gcm
  use12ByteIv := true
  aadScopeMask := allScopeFlagsSet
  bcbCrcType := 0
  bcbBlockTypeTargets := []
  confidentialityKeyEncryptionKey := []
  dataEncryptionKey := []
  confidentialitySecurityFailureEventSetReferencePtr := none

/-- `ValidateAndFinalize`: with confidentiality, whether the BCB targets the payload; with both
services, whether the BIB must be encrypted, the policy being rejected (`none`) when it must and
the BCB does not target the integrity block type. -/
def validateAndFinalize (p : BpSecPolicy) : Option BpSecPolicy :=
  let bcbTargetsPayloadBlock := p.doConfidentiality && payloadBlockType ∈ p.bcbBlockTypeTargets
  let bibMustBeEncrypted := p.doIntegrity && p.doConfidentiality &&
    fragmentSetsHaveOverlap p.bcbBlockTypeTargets p.bibBlockTypeTargets
  if bibMustBeEncrypted && integrityBlockType ∉ p.bcbBlockTypeTargets then none
  else some { p with bcbTargetsPayloadBlock, bibMustBeEncrypted }

/-- **What `ValidateAndFinalize` derives.**  An accepted policy keeps its members and gets the
two derived flags: the BCB targets the payload exactly when it has confidentiality and the
payload is a BCB target; the BIB must be encrypted exactly when it has both services and
overlapping targets, and then the BCB targets the integrity block type. -/
theorem validateAndFinalize_spec {p q : BpSecPolicy} (h : p.validateAndFinalize = some q) :
    q = { p with bcbTargetsPayloadBlock := q.bcbTargetsPayloadBlock, bibMustBeEncrypted := q.bibMustBeEncrypted } ∧
      (q.bcbTargetsPayloadBlock = true ↔ p.doConfidentiality = true ∧ payloadBlockType ∈ p.bcbBlockTypeTargets) ∧
      (q.bibMustBeEncrypted = true ↔ p.doIntegrity = true ∧ p.doConfidentiality = true ∧
        fragmentSetsHaveOverlap p.bcbBlockTypeTargets p.bibBlockTypeTargets = true) ∧
      (q.bibMustBeEncrypted = true → integrityBlockType ∈ p.bcbBlockTypeTargets) := by
  unfold validateAndFinalize at h
  dsimp only at h
  split_ifs at h with hrej
  cases h
  refine ⟨rfl, by simp, by simp [Bool.and_assoc], fun hb => ?_⟩
  by_contra hni
  exact hrej (by simp only [Bool.and_eq_true, decide_eq_true_eq] at hb ⊢; exact ⟨hb, hni⟩)

/-- The three facts `ValidateAndFinalize` establishes of the policy it accepts: the BCB targets
the payload exactly when the policy has confidentiality and the payload is a BCB target; the BIB
must be encrypted exactly when it has both services and overlapping targets; and then the BCB
targets the integrity block type. -/
def Finalized (p : BpSecPolicy) : Prop :=
  (p.bcbTargetsPayloadBlock = true ↔ p.doConfidentiality = true ∧ payloadBlockType ∈ p.bcbBlockTypeTargets) ∧
    (p.bibMustBeEncrypted = true ↔ p.doIntegrity = true ∧ p.doConfidentiality = true ∧
      fragmentSetsHaveOverlap p.bcbBlockTypeTargets p.bibBlockTypeTargets = true) ∧
    (p.bibMustBeEncrypted = true → integrityBlockType ∈ p.bcbBlockTypeTargets)

instance (p : BpSecPolicy) : Decidable p.Finalized := inferInstanceAs (Decidable (_ ∧ _ ∧ _))

theorem finalized_of_validateAndFinalize {p q : BpSecPolicy} (h : p.validateAndFinalize = some q) :
    q.Finalized := by
  obtain ⟨hq, h₁, h₂, h₃⟩ := validateAndFinalize_spec h
  rw [hq] at h₁ h₂ h₃ ⊢
  exact ⟨h₁, h₂, h₃⟩

theorem validateAndFinalize_of_no_service {p : BpSecPolicy} (hi : p.doIntegrity = false)
    (hc : p.doConfidentiality = false) :
    p.validateAndFinalize = some { p with bcbTargetsPayloadBlock := false, bibMustBeEncrypted := false } := by
  simp [validateAndFinalize, hi, hc]

end BpSecPolicy

end Hdtn.Bpsec
