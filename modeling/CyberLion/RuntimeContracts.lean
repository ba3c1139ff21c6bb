import CyberLion.PolicyGateContracts

/-!
# The contracts of runtime admission

`contracts/runtime_enforcement.py`: the trust in a source of decisions, the evidence of a
decision, the identity of a runtime, a requested effect and the admission that binds them.
-/

namespace CyberLion

open PyLib

/-- `RuntimeEnforcementContractError(message)`. -/
def runtimeContractError (message : PyStr) : PyError :=
  ⟨.declared .valueError (py "RuntimeEnforcementContractError"), message⟩

/-- `_SCHEMA`. -/
def runtimeSchema : PyStr :=
  py "1.1.0"

/-- The texts that `_text` accepts. -/
def isLimitedText (limit : Nat) (value : PyStr) : Bool :=
  !isBlank value && value.length ≤ limit && !hasNul value

/-- `_text`. -/
def runtimeText (name value : PyStr) : Except PyError Unit :=
  raiseIf (¬ isLimitedText 2048 value = true) (runtimeContractError (name ++ py " invalid"))

/-- `_digest`. -/
def runtimeDigest (name value : PyStr) : Except PyError Unit := do
  raiseIf (¬ isLimitedText 64 value = true) (runtimeContractError (name ++ py " invalid"))
  raiseIf (¬ isLowerHexOf 64 value = true)
    (runtimeContractError (name ++ py " must be sha256 hex"))

/-- `_utc`: the instant, in microseconds. -/
def runtimeUtc (name value : PyStr) : Except PyError Int := do
  runtimeText name value
  match fromIsoFormat (pyReplace 0x5A (py "+00:00") value) with
  | none => .error (runtimeContractError (name ++ py " invalid"))
  | some (.naive _) => .error (runtimeContractError (name ++ py " must be timezone-aware"))
  | some (.aware time offset) => .ok (time.microseconds - offset)

def checkFields (check : PyStr → PyStr → Except PyError Unit) (fields : List (PyStr × PyStr)) :
    Except PyError Unit :=
  forM fields fun field => check field.1 field.2

def checkRuntimeState (state : PyStr) : Except PyError Unit :=
  raiseIf (state ∉ observabilityStates) (runtimeContractError (py "invalid observability_state"))

/-! ### The source of decisions -/

structure PDPSourceTrustBinding where
  sourceId : PyStr
  sourceInstanceId : PyStr
  sourceImplementationDigest : PyStr
  trustAnchorId : PyStr
  trustAnchorDigest : PyStr
  schemaVersion : PyStr
  deriving DecidableEq

namespace PDPSourceTrustBinding

def validate (trust : PDPSourceTrustBinding) : Except PyError Unit := do
  raiseIf (trust.schemaVersion ≠ runtimeSchema)
    (runtimeContractError (py "unsupported PDP source trust schema"))
  checkFields runtimeText [(py "source_id", trust.sourceId),
    (py "source_instance_id", trust.sourceInstanceId),
    (py "trust_anchor_id", trust.trustAnchorId)]
  runtimeDigest (py "source_implementation_digest") trust.sourceImplementationDigest
  runtimeDigest (py "trust_anchor_digest") trust.trustAnchorDigest

/-- The tuple of `binding`, of a trust that was validated. -/
def bindingFields (trust : PDPSourceTrustBinding) : List PyStr :=
  [trust.sourceId, trust.sourceInstanceId, trust.sourceImplementationDigest,
    trust.trustAnchorId, trust.trustAnchorDigest]

def binding (trust : PDPSourceTrustBinding) : Except PyError (List PyStr) := do
  trust.validate
  return trust.bindingFields

end PDPSourceTrustBinding

structure CanonicalPDPDecisionEvidence where
  requestId : PyStr
  gateEventId : PyStr
  proposalId : PyStr
  gateDecisionDigest : PyStr
  pdpReceiptDigest : PyStr
  requestDigest : PyStr
  replayKey : PyStr
  policyBinding : PyStr
  authorityLineageDigest : PyStr
  observabilityState : PyStr
  sourceId : PyStr
  sourceInstanceId : PyStr
  sourceImplementationDigest : PyStr
  trustAnchorId : PyStr
  trustAnchorDigest : PyStr
  issuedAt : PyStr
  expiresAt : PyStr
  evidenceDigest : PyStr
  schemaVersion : PyStr
  deriving DecidableEq

namespace CanonicalPDPDecisionEvidence

/-- `validate(check_digest=False)`. -/
def validateShape (evidence : CanonicalPDPDecisionEvidence) : Except PyError Unit := do
  raiseIf (evidence.schemaVersion ≠ runtimeSchema)
    (runtimeContractError (py "unsupported PDP evidence schema"))
  checkFields runtimeText [(py "request_id", evidence.requestId),
    (py "gate_event_id", evidence.gateEventId), (py "proposal_id", evidence.proposalId),
    (py "policy_binding", evidence.policyBinding), (py "source_id", evidence.sourceId),
    (py "source_instance_id", evidence.sourceInstanceId),
    (py "trust_anchor_id", evidence.trustAnchorId)]
  checkFields runtimeDigest [(py "gate_decision_digest", evidence.gateDecisionDigest),
    (py "pdp_receipt_digest", evidence.pdpReceiptDigest),
    (py "request_digest", evidence.requestDigest), (py "replay_key", evidence.replayKey),
    (py "authority_lineage_digest", evidence.authorityLineageDigest),
    (py "source_implementation_digest", evidence.sourceImplementationDigest),
    (py "trust_anchor_digest", evidence.trustAnchorDigest)]
  checkRuntimeState evidence.observabilityState
  let issued ← runtimeUtc (py "issued_at") evidence.issuedAt
  let expires ← runtimeUtc (py "expires_at") evidence.expiresAt
  raiseIf (expires ≤ issued)
    (runtimeContractError (py "PDP evidence expiry must follow issue time"))

/-- `canonical_dict(include_digest=False)`, of evidence whose shape was validated. -/
def payload (evidence : CanonicalPDPDecisionEvidence) : Json :=
  .obj [(py "request_id", .str evidence.requestId),
    (py "gate_event_id", .str evidence.gateEventId),
    (py "proposal_id", .str evidence.proposalId),
    (py "gate_decision_digest", .str evidence.gateDecisionDigest),
    (py "pdp_receipt_digest", .str evidence.pdpReceiptDigest),
    (py "request_digest", .str evidence.requestDigest),
    (py "replay_key", .str evidence.replayKey),
    (py "policy_binding", .str evidence.policyBinding),
    (py "authority_lineage_digest", .str evidence.authorityLineageDigest),
    (py "observability_state", .str evidence.observabilityState),
    (py "source_id", .str evidence.sourceId),
    (py "source_instance_id", .str evidence.sourceInstanceId),
    (py "source_implementation_digest", .str evidence.sourceImplementationDigest),
    (py "trust_anchor_id", .str evidence.trustAnchorId),
    (py "trust_anchor_digest", .str evidence.trustAnchorDigest),
    (py "issued_at", .str evidence.issuedAt), (py "expires_at", .str evidence.expiresAt),
    (py "schema_version", .str evidence.schemaVersion)]

def computeDigest (evidence : CanonicalPDPDecisionEvidence) : Except PyError PyStr := do
  evidence.validateShape
  domainDigest (py "LION/F009-PDP-EVIDENCE/2\x00") evidence.payload

def validate (evidence : CanonicalPDPDecisionEvidence) : Except PyError Unit := do
  evidence.validateShape
  runtimeDigest (py "evidence_digest") evidence.evidenceDigest
  let digest ← evidence.computeDigest
  raiseIf (evidence.evidenceDigest ≠ digest)
    (runtimeContractError (py "PDP evidence digest mismatch"))

def sealed (evidence : CanonicalPDPDecisionEvidence) :
    Except PyError CanonicalPDPDecisionEvidence := do
  evidence.validateShape
  let digest ← evidence.computeDigest
  let result := { evidence with evidenceDigest := digest }
  result.validate
  return result

def sourceBinding (evidence : CanonicalPDPDecisionEvidence) : List PyStr :=
  [evidence.sourceId, evidence.sourceInstanceId, evidence.sourceImplementationDigest,
    evidence.trustAnchorId, evidence.trustAnchorDigest]

def decisionBinding (evidence : CanonicalPDPDecisionEvidence) : List PyStr :=
  [evidence.requestId, evidence.gateEventId, evidence.proposalId, evidence.gateDecisionDigest,
    evidence.pdpReceiptDigest, evidence.requestDigest, evidence.replayKey,
    evidence.policyBinding, evidence.authorityLineageDigest, evidence.observabilityState]

end CanonicalPDPDecisionEvidence

/-! ### Runtimes and effects -/

structure RuntimeIdentityBinding where
  workloadIdentity : PyStr
  executionSubject : PyStr
  runtimeInstanceId : PyStr
  sandboxId : PyStr
  workspaceId : PyStr
  runtimeAttestationDigest : PyStr
  provisionedExecutorDigest : PyStr
  schemaVersion : PyStr
  deriving DecidableEq

namespace RuntimeIdentityBinding

def validate (identity : RuntimeIdentityBinding) : Except PyError Unit := do
  raiseIf (identity.schemaVersion ≠ runtimeSchema)
    (runtimeContractError (py "unsupported runtime identity schema"))
  checkFields runtimeText [(py "workload_identity", identity.workloadIdentity),
    (py "execution_subject", identity.executionSubject),
    (py "runtime_instance_id", identity.runtimeInstanceId),
    (py "sandbox_id", identity.sandboxId), (py "workspace_id", identity.workspaceId)]
  runtimeDigest (py "runtime_attestation_digest") identity.runtimeAttestationDigest
  runtimeDigest (py "provisioned_executor_digest") identity.provisionedExecutorDigest

/-- `canonical_dict`, of an identity that was validated. -/
def payload (identity : RuntimeIdentityBinding) : Json :=
  .obj [(py "workload_identity", .str identity.workloadIdentity),
    (py "execution_subject", .str identity.executionSubject),
    (py "runtime_instance_id", .str identity.runtimeInstanceId),
    (py "sandbox_id", .str identity.sandboxId), (py "workspace_id", .str identity.workspaceId),
    (py "runtime_attestation_digest", .str identity.runtimeAttestationDigest),
    (py "provisioned_executor_digest", .str identity.provisionedExecutorDigest),
    (py "schema_version", .str identity.schemaVersion)]

def digest (identity : RuntimeIdentityBinding) : Except PyError PyStr := do
  identity.validate
  domainDigest (py "LION/F009-RUNTIME-IDENTITY/2\x00") identity.payload

end RuntimeIdentityBinding

structure RequestedRuntimeEffect where
  effectId : PyStr
  proposalId : PyStr
  missionId : PyStr
  policyBinding : PyStr
  authorityLineageDigest : PyStr
  requestedAuthority : PyStr
  actionClass : PyStr
  resource : PyStr
  payloadDigest : PyStr
  observabilityState : PyStr
  runtimeIdentityDigest : PyStr
  schemaVersion : PyStr
  deriving DecidableEq

namespace RequestedRuntimeEffect

def validate (effect : RequestedRuntimeEffect) : Except PyError Unit := do
  raiseIf (effect.schemaVersion ≠ runtimeSchema)
    (runtimeContractError (py "unsupported requested effect schema"))
  checkFields runtimeText [(py "effect_id", effect.effectId),
    (py "proposal_id", effect.proposalId), (py "mission_id", effect.missionId),
    (py "policy_binding", effect.policyBinding),
    (py "requested_authority", effect.requestedAuthority),
    (py "action_class", effect.actionClass), (py "resource", effect.resource)]
  checkFields runtimeDigest [(py "authority_lineage_digest", effect.authorityLineageDigest),
    (py "payload_digest", effect.payloadDigest),
    (py "runtime_identity_digest", effect.runtimeIdentityDigest)]
  checkRuntimeState effect.observabilityState

/-- `canonical_dict`, of an effect that was validated. -/
def payload (effect : RequestedRuntimeEffect) : Json :=
  .obj [(py "effect_id", .str effect.effectId), (py "proposal_id", .str effect.proposalId),
    (py "mission_id", .str effect.missionId), (py "policy_binding", .str effect.policyBinding),
    (py "authority_lineage_digest", .str effect.authorityLineageDigest),
    (py "requested_authority", .str effect.requestedAuthority),
    (py "action_class", .str effect.actionClass), (py "resource", .str effect.resource),
    (py "payload_digest", .str effect.payloadDigest),
    (py "observability_state", .str effect.observabilityState),
    (py "runtime_identity_digest", .str effect.runtimeIdentityDigest),
    (py "schema_version", .str effect.schemaVersion)]

def digest (effect : RequestedRuntimeEffect) : Except PyError PyStr := do
  effect.validate
  domainDigest (py "LION/F009-REQUESTED-EFFECT/2\x00") effect.payload

end RequestedRuntimeEffect

/-! ### Admissions -/

structure RuntimeAdmission where
  admissionId : PyStr
  requestId : PyStr
  gateEventId : PyStr
  proposalId : PyStr
  gateDecisionDigest : PyStr
  pdpReceiptDigest : PyStr
  pdpEvidenceDigest : PyStr
  liveAuthorityDigest : PyStr
  authorityLineageDigest : PyStr
  policyBinding : PyStr
  effectiveAuthority : PyStr
  requestedEffectDigest : PyStr
  runtimeIdentityDigest : PyStr
  provisionedExecutorDigest : PyStr
  observabilityState : PyStr
  replayKey : PyStr
  admissionDigest : PyStr
  schemaVersion : PyStr
  deriving DecidableEq

namespace RuntimeAdmission

/-- `validate(check_digest=False)`. -/
def validateShape (admission : RuntimeAdmission) : Except PyError Unit := do
  raiseIf (admission.schemaVersion ≠ runtimeSchema)
    (runtimeContractError (py "unsupported runtime admission schema"))
  checkFields runtimeText [(py "admission_id", admission.admissionId),
    (py "request_id", admission.requestId), (py "gate_event_id", admission.gateEventId),
    (py "proposal_id", admission.proposalId), (py "policy_binding", admission.policyBinding),
    (py "effective_authority", admission.effectiveAuthority)]
  checkFields runtimeDigest [(py "gate_decision_digest", admission.gateDecisionDigest),
    (py "pdp_receipt_digest", admission.pdpReceiptDigest),
    (py "pdp_evidence_digest", admission.pdpEvidenceDigest),
    (py "live_authority_digest", admission.liveAuthorityDigest),
    (py "authority_lineage_digest", admission.authorityLineageDigest),
    (py "requested_effect_digest", admission.requestedEffectDigest),
    (py "runtime_identity_digest", admission.runtimeIdentityDigest),
    (py "provisioned_executor_digest", admission.provisionedExecutorDigest),
    (py "replay_key", admission.replayKey)]
  checkRuntimeState admission.observabilityState

/-- `canonical_dict(include_digest=False)`, of an admission whose shape was validated. -/
def payload (admission : RuntimeAdmission) : Json :=
  .obj [(py "admission_id", .str admission.admissionId),
    (py "request_id", .str admission.requestId),
    (py "gate_event_id", .str admission.gateEventId),
    (py "proposal_id", .str admission.proposalId),
    (py "gate_decision_digest", .str admission.gateDecisionDigest),
    (py "pdp_receipt_digest", .str admission.pdpReceiptDigest),
    (py "pdp_evidence_digest", .str admission.pdpEvidenceDigest),
    (py "live_authority_digest", .str admission.liveAuthorityDigest),
    (py "authority_lineage_digest", .str admission.authorityLineageDigest),
    (py "policy_binding", .str admission.policyBinding),
    (py "effective_authority", .str admission.effectiveAuthority),
    (py "requested_effect_digest", .str admission.requestedEffectDigest),
    (py "runtime_identity_digest", .str admission.runtimeIdentityDigest),
    (py "provisioned_executor_digest", .str admission.provisionedExecutorDigest),
    (py "observability_state", .str admission.observabilityState),
    (py "replay_key", .str admission.replayKey),
    (py "schema_version", .str admission.schemaVersion)]

def computeDigest (admission : RuntimeAdmission) : Except PyError PyStr := do
  admission.validateShape
  domainDigest (py "LION/F009-RUNTIME-ADMISSION/2\x00") admission.payload

def validate (admission : RuntimeAdmission) : Except PyError Unit := do
  admission.validateShape
  runtimeDigest (py "admission_digest") admission.admissionDigest
  let digest ← admission.computeDigest
  raiseIf (admission.admissionDigest ≠ digest)
    (runtimeContractError (py "admission_digest mismatch"))

def sealed (admission : RuntimeAdmission) : Except PyError RuntimeAdmission := do
  admission.validateShape
  let digest ← admission.computeDigest
  let result := { admission with admissionDigest := digest }
  result.validate
  return result

end RuntimeAdmission

end CyberLion
