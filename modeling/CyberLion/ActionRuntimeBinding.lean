import CyberLion.ExecutorProvisioning
import CyberLion.PolicyGate

/-!
# From an allowed action to the inputs of an admission

`ExplicitActionProposalContext` of `contracts/action_proposal_context.py` and
`bind_allowed_action_to_runtime_inputs` of `contracts/action_runtime_binding.py`.
-/

namespace CyberLion

open PyLib

/-! ### The explicit context -/

/-- `ActionProposalContextBindingError(message)`. -/
def contextBindingError (message : PyStr) : PyError :=
  ⟨.declared .valueError (py "ActionProposalContextBindingError"), message⟩

/-- `_text` of the explicit context. -/
def contextText (name value : PyStr) : Except PyError Unit :=
  raiseIf (value = [] ∨ hasNul value = true) (contextBindingError (name ++ py " invalid"))

/-- `_refs`. -/
def contextRefs (name : PyStr) (values : List PyStr) : Except PyError Unit := do
  forM values (contextText name)
  raiseIf (¬ values.Nodup) (contextBindingError (name ++ py " duplicates"))

structure ExplicitActionProposalContext where
  proposalId : PyStr
  missionId : PyStr
  swarmId : PyStr
  proposerAgentId : PyStr
  capability : PyStr
  requestedAuthority : PyStr
  actionClass : PyStr
  target : PyStr
  consequential : Bool
  evidenceRefs : List PyStr
  requiredObservability : List PyStr
  expectedLairPayloadDigest : PyStr
  fieldProvenance : List (PyStr × PyStr)
  verifierAgentId : Option PyStr
  schemaVersion : PyStr
  deriving DecidableEq

namespace ExplicitActionProposalContext

/-- `REQUIRED_CONTEXT_FIELDS`. -/
def requiredFields : List PyStr :=
  [py "proposal_id", py "mission_id", py "swarm_id", py "proposer_agent_id", py "capability",
    py "requested_authority", py "action_class", py "target", py "consequential",
    py "evidence_refs", py "required_observability"]

variable (context : ExplicitActionProposalContext)

def suppliedFields : List PyStr :=
  if context.verifierAgentId.isSome then requiredFields ++ [py "verifier_agent_id"]
  else requiredFields

/-- The checks of `field_provenance`. -/
def validateProvenance : Except PyError Unit := do
  forM context.fieldProvenance fun item => do
    contextText (py "field_provenance field") item.1
    contextText (py "field_provenance ref") item.2
  let names := context.fieldProvenance.map Prod.fst
  raiseIf (¬ names.Nodup) (contextBindingError (py "field_provenance duplicates"))
  raiseIf (¬ ((∀ name ∈ names, name ∈ context.suppliedFields) ∧
      ∀ name ∈ context.suppliedFields, name ∈ names))
    (contextBindingError (py "field_provenance must cover exactly supplied semantic fields"))
  raiseIf (names ≠ pySorted names)
    (contextBindingError (py "field_provenance must be sorted by field name"))

def validate : Except PyError Unit := do
  raiseIf (context.schemaVersion ≠ py "1.0.0")
    (contextBindingError (py "unsupported context schema"))
  checkFields contextText [(py "proposal_id", context.proposalId),
    (py "mission_id", context.missionId), (py "swarm_id", context.swarmId),
    (py "proposer_agent_id", context.proposerAgentId), (py "capability", context.capability),
    (py "requested_authority", context.requestedAuthority),
    (py "action_class", context.actionClass), (py "target", context.target)]
  contextRefs (py "evidence_refs") context.evidenceRefs
  contextRefs (py "required_observability") context.requiredObservability
  match context.verifierAgentId with
  | none => .ok ()
  | some verifierId => contextText (py "verifier_agent_id") verifierId
  raiseIf (¬ isLowerHexOf 64 context.expectedLairPayloadDigest = true)
    (contextBindingError (py "expected_lair_payload_digest invalid"))
  context.validateProvenance

def proposal : ActionProposal where
  proposalId := context.proposalId
  missionId := context.missionId
  swarmId := context.swarmId
  proposerAgentId := context.proposerAgentId
  capability := context.capability
  requestedAuthority := context.requestedAuthority
  actionClass := context.actionClass
  target := context.target
  consequential := context.consequential
  evidenceRefs := context.evidenceRefs
  requiredObservability := context.requiredObservability
  verifierAgentId := context.verifierAgentId
  payloadDigest := some context.expectedLairPayloadDigest

end ExplicitActionProposalContext

/-! ### Binding -/

/-- `ActionRuntimeBindingError(message)`. -/
def runtimeBindingError (message : PyStr) : PyError :=
  ⟨.declared .valueError (py "ActionRuntimeBindingError"), message⟩

/-- `_aware`. -/
def awareUtc (name : PyStr) : Moment → Except PyError DateTime
  | .naive _ => .error (runtimeBindingError (name ++ py " must be an exact timezone-aware datetime"))
  | .aware time offset => time.astimezoneUtc offset

/-- `asdict` of a receipt. -/
def PDPDecisionReceipt.payload (receipt : PDPDecisionReceipt) : Json :=
  .obj [(py "receipt_id", .str receipt.receiptId), (py "request_id", .str receipt.requestId),
    (py "gate_event_id", .str receipt.gateEventId),
    (py "request_digest", .str receipt.requestDigest),
    (py "decision_digest", .str receipt.decisionDigest),
    (py "replay_key", .str receipt.replayKey),
    (py "schema_version", .str receipt.schemaVersion)]

def pdpReceiptDigest (receipt : PDPDecisionReceipt) : Except PyError PyStr := do
  receipt.validate
  domainDigest (py "LION/F009-PDP-RECEIPT/2\x00") receipt.payload

structure RuntimeBindingCurrentness where
  pdpSourceTrust : PDPSourceTrustBinding
  provisionedExecutorDigest : PyStr
  trustedNow : Moment
  issuedAt : Moment
  expiresAt : Moment
  deriving DecidableEq

def RuntimeBindingCurrentness.validate (currentness : RuntimeBindingCurrentness) :
    Except PyError Unit := do
  currentness.pdpSourceTrust.validate
  raiseIf (¬ isLowerHexOf 64 currentness.provisionedExecutorDigest = true)
    (runtimeBindingError (py "provisioned_executor_digest must be exact lowercase sha256"))
  let now ← awareUtc (py "trusted_now") currentness.trustedNow
  let issued ← awareUtc (py "issued_at") currentness.issuedAt
  let expires ← awareUtc (py "expires_at") currentness.expiresAt
  raiseIf (¬ (issued.microseconds ≤ now.microseconds ∧ now.microseconds < expires.microseconds))
    (runtimeBindingError (py "PDP binding evidence is stale or not yet current"))

def validateProposalContext (proposal : ActionProposal)
    (context : ExplicitActionProposalContext) : Except PyError Unit := do
  proposal.validate
  context.validate
  raiseIf (proposal ≠ context.proposal)
    (runtimeBindingError (py "ActionProposal/explicit-context substitution denied"))

/-- The checks of a result of the policy decision point against the proposal. -/
def checkBoundResult (proposal : ActionProposal) (result : PDPResult)
    (provisioning : ProvisionedExecutor) : Except PyError Unit := do
  raiseIf (result.applied.decision ≠ GateVerdict.allow.text ∨
      result.applied.effectiveAuthority = py "none")
    (runtimeBindingError (py "runtime binding requires canonical PDP ALLOW"))
  raiseIf (result.applied.effectiveAuthority ≠ proposal.requestedAuthority)
    (runtimeBindingError (py "PDP effective authority/proposal substitution denied"))
  raiseIf (provisioning.context.missionId ≠ proposal.missionId)
    (runtimeBindingError (py "provisioning mission/proposal substitution denied"))
  raiseIf ([result.applied.proposalId, result.applied.requestId, result.applied.policyBinding,
        result.applied.authorityLineageDigest, result.applied.observabilityState,
        result.applied.effectiveAuthority] ≠
      [proposal.proposalId, result.requested.requestId, result.requested.policyBinding,
        result.requested.authorityLineageDigest, result.requested.observabilityState,
        result.requested.requestedAuthority])
    (runtimeBindingError (py "GateRequested/GateApplied binding mismatch"))
  raiseIf (result.requested.proposalId ≠ proposal.proposalId)
    (runtimeBindingError (py "GateRequested/proposal substitution denied"))
  raiseIf ([result.receipt.requestId, result.receipt.gateEventId, result.receipt.requestDigest,
        result.receipt.decisionDigest] ≠
      [result.applied.requestId, result.applied.gateEventId, result.requested.requestDigest,
        result.applied.decisionDigest])
    (runtimeBindingError (py "PDP receipt does not bind exact request and decision"))

def ProvisionedExecutor.identity (provisioning : ProvisionedExecutor) (digest : PyStr) :
    RuntimeIdentityBinding where
  workloadIdentity := provisioning.context.droneId
  executionSubject := provisioning.context.executorId
  runtimeInstanceId := provisioning.runtimeInstanceId
  sandboxId := provisioning.sandboxId
  workspaceId := provisioning.workspaceId
  runtimeAttestationDigest := provisioning.runtimeAttestationDigest
  provisionedExecutorDigest := digest
  schemaVersion := runtimeSchema

def boundEffect (proposal : ActionProposal) (gate : GateApplied)
    (seedDigest identityDigest : PyStr) : RequestedRuntimeEffect where
  effectId := py "runtime-effect:" ++ seedDigest
  proposalId := proposal.proposalId
  missionId := proposal.missionId
  policyBinding := gate.policyBinding
  authorityLineageDigest := gate.authorityLineageDigest
  requestedAuthority := proposal.requestedAuthority
  actionClass := proposal.actionClass
  resource := proposal.target
  payloadDigest := proposal.payloadDigest.getD []
  observabilityState := gate.observabilityState
  runtimeIdentityDigest := identityDigest
  schemaVersion := runtimeSchema

def boundEvidence (result : PDPResult) (trust : PDPSourceTrustBinding)
    (receiptDigest issuedAt expiresAt : PyStr) : CanonicalPDPDecisionEvidence where
  requestId := result.applied.requestId
  gateEventId := result.applied.gateEventId
  proposalId := result.applied.proposalId
  gateDecisionDigest := result.applied.decisionDigest
  pdpReceiptDigest := receiptDigest
  requestDigest := result.receipt.requestDigest
  replayKey := result.receipt.replayKey
  policyBinding := result.applied.policyBinding
  authorityLineageDigest := result.applied.authorityLineageDigest
  observabilityState := result.applied.observabilityState
  sourceId := trust.sourceId
  sourceInstanceId := trust.sourceInstanceId
  sourceImplementationDigest := trust.sourceImplementationDigest
  trustAnchorId := trust.trustAnchorId
  trustAnchorDigest := trust.trustAnchorDigest
  issuedAt := issuedAt
  expiresAt := expiresAt
  evidenceDigest := []
  schemaVersion := runtimeSchema

/-- What `bind_allowed_action_to_runtime_inputs` returns. -/
structure BoundInputs where
  effect : RequestedRuntimeEffect
  identity : RuntimeIdentityBinding
  evidence : CanonicalPDPDecisionEvidence

/-- `bind_allowed_action_to_runtime_inputs`. -/
def bindAllowedAction (proposal : ActionProposal) (context : ExplicitActionProposalContext)
    (result : PDPResult) (currentness : RuntimeBindingCurrentness)
    (provisioning : ProvisionedExecutor) : Except PyError BoundInputs := do
  validateProposalContext proposal context
  currentness.validate
  provisioning.validate
  let executorDigest ← provisioning.digest
  raiseIf (executorDigest ≠ currentness.provisionedExecutorDigest)
    (runtimeBindingError (py "trusted ProvisionedExecutor/currentness substitution denied"))
  result.requested.validate
  result.applied.validate
  result.receipt.validate
  checkBoundResult proposal result provisioning
  let identity := provisioning.identity executorDigest
  identity.validate
  let identityDigest ← identity.digest
  let seed ← encodeUtf8 (proposal.proposalId ++ py "\x00" ++ result.applied.decisionDigest ++
    py "\x00" ++ identityDigest)
  let effect := boundEffect proposal result.applied (sha256 seed) identityDigest
  effect.validate
  let receiptDigest ← pdpReceiptDigest result.receipt
  let issued ← awareUtc (py "issued_at") currentness.issuedAt
  let expires ← awareUtc (py "expires_at") currentness.expiresAt
  let evidence ← (boundEvidence result currentness.pdpSourceTrust receiptDigest
    issued.isoformatUtc expires.isoformatUtc).sealed
  return ⟨effect, identity, evidence⟩

end CyberLion
