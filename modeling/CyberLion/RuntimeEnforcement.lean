import CyberLion.ActionRuntimeBinding

/-!
# Runtime admission

`RuntimeAdmissionEngine` of `enterprise/runtime_enforcement.py`.  Engines share a replay
guard; each has its authority and its source of decisions, which others may change
between any two of its steps.
-/

namespace CyberLion

open PyLib

/-- `RuntimeEnforcementError(message)`. -/
def runtimeError (message : PyStr) : PyError :=
  ⟨.declared .runtimeError (py "RuntimeEnforcementError"), message⟩

/-- `except Exception` with a message. -/
def orRuntimeError {α : Type} (message : PyStr) (computation : Except PyError α) :
    Except PyError α :=
  rethrow (fun _ => true) (fun _ => runtimeError message) computation

/-! ### What engines share -/

/-- What a source of decisions answers.  `none` is an answer of another type. -/
structure PdpSource where
  resolve : PyStr → PyStr → Except PyError (Option CanonicalPDPDecisionEvidence)
  currentPolicyBinding : PyStr → Except PyError PyStr

structure EngineWorld where
  live : LiveWorld
  source : PdpSource

/-- The worlds of the engines and the keys that the replay guard has seen. -/
structure RuntimeWorld where
  engines : Nat → EngineWorld
  seen : List PyStr

def RuntimeWorld.setLive (index : Nat) (world : RuntimeWorld) (live : LiveWorld) : RuntimeWorld :=
  { world with engines := Function.update world.engines index { world.engines index with live } }

def onEngine {α : Type} (index : Nat) (program : PyProg LiveWorld α) : PyProg RuntimeWorld α :=
  PyProg.zoom (fun world => (world.engines index).live) (RuntimeWorld.setLive index) program

/-- `consume` of the replay guard. -/
def RuntimeWorld.consume (replayKey : PyStr) (world : RuntimeWorld) :
    RuntimeWorld × Except PyError Bool :=
  if replayKey ∈ world.seen then (world, .ok false)
  else ({ world with seen := replayKey :: world.seen }, .ok true)

structure RuntimeAdmissionEngine where
  index : Nat
  authority : LiveAuthorityConfig
  sourceTrust : PDPSourceTrustBinding

/-! ### The canonical decision -/

/-- `_utc`. -/
def evidenceUtc (value : PyStr) : Except PyError DateTime :=
  match fromIsoFormat (pyReplace 0x5A (py "+00:00") value) with
  | none => .error (runtimeError (py "canonical PDP evidence timestamp invalid"))
  | some (.naive _) =>
    .error (runtimeError (py "canonical PDP evidence timestamp must be timezone-aware"))
  | some (.aware time offset) => time.astimezoneUtc offset

def checkEvidenceCurrent (evidence : CanonicalPDPDecisionEvidence) (now : DateTime) (offset : Int) :
    Except PyError Unit := do
  let current ← now.astimezoneUtc offset
  let issued ← evidenceUtc evidence.issuedAt
  if current.microseconds < issued.microseconds then
    .error (runtimeError (py "canonical GateApplied is stale or not yet current"))
  else do
    let expires ← evidenceUtc evidence.expiresAt
    raiseIf (expires.microseconds ≤ current.microseconds)
      (runtimeError (py "canonical GateApplied is stale or not yet current"))

def expectedDecision (gate : GateApplied) (receipt : PDPDecisionReceipt) (receiptDigest : PyStr) :
    List PyStr :=
  [gate.requestId, gate.gateEventId, gate.proposalId, gate.decisionDigest, receiptDigest,
    receipt.requestDigest, receipt.replayKey, gate.policyBinding, gate.authorityLineageDigest,
    gate.observabilityState]

namespace RuntimeAdmissionEngine

variable (engine : RuntimeAdmissionEngine)

def checkEvidence (gate : GateApplied) (receipt : PDPDecisionReceipt) (now : DateTime)
    (offset : Int) (evidence : CanonicalPDPDecisionEvidence) : Except PyError Unit := do
  orRuntimeError (py "canonical PDP evidence invalid") evidence.validate
  let trusted ← engine.sourceTrust.binding
  raiseIf (evidence.sourceBinding ≠ trusted)
    (runtimeError (py "canonical PDP evidence source binding mismatch"))
  checkEvidenceCurrent evidence now offset
  let receiptDigest ← pdpReceiptDigest receipt
  raiseIf (evidence.decisionBinding ≠ expectedDecision gate receipt receiptDigest)
    (runtimeError (py "caller PDP evidence does not match canonical source"))

def evidenceOf : Option CanonicalPDPDecisionEvidence →
    Except PyError CanonicalPDPDecisionEvidence
  | none => .error (runtimeError (py "canonical PDP source returned invalid evidence"))
  | some evidence => .ok evidence

def canonicalPdp (gate : GateApplied) (receipt : PDPDecisionReceipt) (now : DateTime)
    (offset : Int) : PyProg RuntimeWorld CanonicalPDPDecisionEvidence := do
  let answer ← PyProg.read fun world =>
    orRuntimeError (py "canonical PDP evidence unavailable")
      ((world.engines engine.index).source.resolve gate.requestId gate.gateEventId)
  let evidence ← PyProg.lift (evidenceOf answer)
  PyProg.lift (engine.checkEvidence gate receipt now offset evidence)
  let currentPolicy ← PyProg.read fun world =>
    orRuntimeError (py "current policy binding unavailable")
      ((world.engines engine.index).source.currentPolicyBinding gate.policyBinding)
  PyProg.lift (raiseIf (currentPolicy ≠ gate.policyBinding)
    (runtimeError (py "GateApplied policy binding is stale")))
  return evidence

end RuntimeAdmissionEngine

/-! ### Admission -/

def RuntimeIdentityBinding.names (identity : RuntimeIdentityBinding) : List PyStr :=
  [identity.workloadIdentity, identity.executionSubject, identity.runtimeInstanceId,
    identity.sandboxId, identity.workspaceId, identity.runtimeAttestationDigest,
    identity.provisionedExecutorDigest]

/-- The arguments of `admit` but for the clock. -/
structure AdmitInput where
  gate : GateApplied
  pdpReceipt : PDPDecisionReceipt
  admittedAuthority : LiveAdmittedAuthority
  proposal : ActionProposal
  effect : RequestedRuntimeEffect
  runtimeIdentity : RuntimeIdentityBinding
  provisionedExecutor : ProvisionedExecutor
  provisioningRequest : ExecutorProvisioningRequest
  providerTrust : ProviderTrustBinding

namespace AdmitInput

variable (input : AdmitInput)

def validate : Except PyError Unit := do
  input.gate.validate
  input.pdpReceipt.validate
  input.admittedAuthority.validate
  input.proposal.validate
  input.effect.validate
  input.runtimeIdentity.validate

def checkDecision : Except PyError Unit := do
  raiseIf (input.gate.decision ≠ GateVerdict.allow.text ∨
      input.gate.effectiveAuthority = py "none")
    (runtimeError (py "runtime admission requires canonical ALLOW"))
  raiseIf ([input.pdpReceipt.requestId, input.pdpReceipt.gateEventId,
        input.pdpReceipt.decisionDigest] ≠
      [input.gate.requestId, input.gate.gateEventId, input.gate.decisionDigest])
    (runtimeError (py "PDP receipt does not bind exact GateApplied"))

/-- `_runtime_identity`. -/
def executorDigest : Except PyError PyStr := do
  orRuntimeError (py "authoritative provisioned runtime evidence invalid") do
    input.provisionedExecutor.validateFor input.provisioningRequest input.providerTrust
    input.runtimeIdentity.validate
  let digest ← input.provisionedExecutor.digest
  raiseIf (input.runtimeIdentity.names ≠ (input.provisionedExecutor.identity digest).names)
    (runtimeError (py "runtime/workload/execution-subject substitution denied"))
  return digest

/-- The comparisons of the proposal, the effect, the decision and the receipts. -/
def checkNames : Except PyError Unit := do
  raiseIf (input.provisionedExecutor.context.missionId ≠ input.proposal.missionId)
    (runtimeError (py "provisioned executor mission substitution denied"))
  raiseIf (input.gate.proposalId ≠ input.proposal.proposalId ∨
      input.effect.proposalId ≠ input.proposal.proposalId)
    (runtimeError (py "proposal substitution denied"))
  raiseIf (input.effect.missionId ≠ input.proposal.missionId ∨
      input.admittedAuthority.missionId ≠ input.proposal.missionId)
    (runtimeError (py "mission substitution denied"))
  raiseIf (input.effect.policyBinding ≠ input.gate.policyBinding)
    (runtimeError (py "policy binding mismatch"))
  raiseIf (input.effect.authorityLineageDigest ≠ input.gate.authorityLineageDigest ∨
      input.admittedAuthority.lineageDigest ≠ input.gate.authorityLineageDigest)
    (runtimeError (py "authority lineage mismatch"))
  raiseIf (input.effect.observabilityState ≠ input.gate.observabilityState)
    (runtimeError (py "observability state mismatch"))
  let identityDigest ← input.runtimeIdentity.digest
  raiseIf (input.effect.runtimeIdentityDigest ≠ identityDigest)
    (runtimeError (py "runtime identity substitution denied"))

/-- The ceiling of the observability state of a decision, with the exception for `LOST`. -/
def observed : Except PyError Bool :=
  if input.gate.observabilityState = py "LOST" then .ok false
  else match observabilityCeiling input.gate.observabilityState with
    | none => .error ⟨.keyError, input.gate.observabilityState⟩
    | some ceiling => authorityContains ceiling.text input.gate.effectiveAuthority

/-- The comparisons of the authority, the action and the payload. -/
def checkAuthority : Except PyError Unit := do
  raiseIf (input.effect.requestedAuthority ≠ input.proposal.requestedAuthority ∨
      input.gate.effectiveAuthority ≠ input.proposal.requestedAuthority)
    (runtimeError (py "authority class substitution denied"))
  let contained ← authorityContains input.admittedAuthority.authorityCeiling
    input.gate.effectiveAuthority
  raiseIf (contained = false) (runtimeError (py "live authority ceiling exceeded"))
  let observed ← input.observed
  raiseIf (observed = false)
    (runtimeError (py "observability-conditioned authority ceiling exceeded"))
  raiseIf (input.effect.actionClass ≠ input.proposal.actionClass ∨
      input.effect.resource ≠ input.proposal.target)
    (runtimeError (py "resource or action substitution denied"))
  raiseIf (some input.effect.payloadDigest ≠ input.proposal.payloadDigest)
    (runtimeError (py "exact proposal payload binding required"))

end AdmitInput

structure AdmissionDigests where
  evidence : PyStr
  decision : PyStr
  effect : PyStr
  identity : PyStr
  live : PyStr
  executor : PyStr
  deriving DecidableEq

def AdmissionDigests.replayKey (digests : AdmissionDigests) : Except PyError PyStr :=
  replayDigestOf [digests.evidence, digests.decision, digests.effect, digests.identity,
    digests.live, digests.executor]

def runtimeAdmissionOf (gate : GateApplied) (digests : AdmissionDigests)
    (receiptDigest replayKey : PyStr) : RuntimeAdmission where
  admissionId := py "runtime-admission:" ++ replayKey
  requestId := gate.requestId
  gateEventId := gate.gateEventId
  proposalId := gate.proposalId
  gateDecisionDigest := digests.decision
  pdpReceiptDigest := receiptDigest
  pdpEvidenceDigest := digests.evidence
  liveAuthorityDigest := digests.live
  authorityLineageDigest := gate.authorityLineageDigest
  policyBinding := gate.policyBinding
  effectiveAuthority := gate.effectiveAuthority
  requestedEffectDigest := digests.effect
  runtimeIdentityDigest := digests.identity
  provisionedExecutorDigest := digests.executor
  observabilityState := gate.observabilityState
  replayKey := replayKey
  admissionDigest := []
  schemaVersion := runtimeSchema

/-- The call of the replay guard, with the admission that follows it. -/
def consumeRuntime (gate : GateApplied) (digests : AdmissionDigests)
    (receiptDigest replayKey : PyStr) : PyProg RuntimeWorld RuntimeAdmission := do
  let consumed ← PyProg.transact (RuntimeWorld.consume replayKey)
  PyProg.lift (raiseIf (consumed = false) (runtimeError (py "runtime admission replay denied")))
  PyProg.lift (runtimeAdmissionOf gate digests receiptDigest replayKey).sealed

/-- `except Exception` around the revalidation. -/
def revalidationFailed (_ : PyError) : Except PyError LiveAdmittedAuthority :=
  .error (runtimeError (py "live authority revalidation failed"))

namespace RuntimeAdmissionEngine

variable (engine : RuntimeAdmissionEngine)

def digestsOf (input : AdmitInput) (canonical : CanonicalPDPDecisionEvidence)
    (current : LiveAdmittedAuthority) (executorDigest : PyStr) :
    Except PyError (AdmissionDigests × PyStr) := do
  current.validate
  let currentDigest ← current.digest
  let admittedDigest ← input.admittedAuthority.digest
  raiseIf (currentDigest ≠ admittedDigest)
    (runtimeError (py "live authority changed before runtime admission"))
  let effectDigest ← input.effect.digest
  let identityDigest ← input.runtimeIdentity.digest
  let receiptDigest ← pdpReceiptDigest input.pdpReceipt
  return (⟨canonical.evidenceDigest, input.gate.decisionDigest, effectDigest, identityDigest,
    currentDigest, executorDigest⟩, receiptDigest)

/-- `admit` after the check of the clock. -/
def admitAt (input : AdmitInput) (now : DateTime) (offset : Int) :
    PyProg RuntimeWorld RuntimeAdmission := do
  PyProg.lift input.checkDecision
  let canonical ← engine.canonicalPdp input.gate input.pdpReceipt now offset
  let executorDigest ← PyProg.lift input.executorDigest
  PyProg.lift input.checkNames
  PyProg.lift input.checkAuthority
  let current ← PyProg.handle
    (onEngine engine.index (revalidate engine.authority input.admittedAuthority (.aware now offset)))
    revalidationFailed
  let (digests, receiptDigest) ← PyProg.lift (digestsOf input canonical current executorDigest)
  let replayKey ← PyProg.lift digests.replayKey
  consumeRuntime input.gate digests receiptDigest replayKey

/-- `admit`. -/
def admitEffect (input : AdmitInput) (trustedNow : Moment) : PyProg RuntimeWorld RuntimeAdmission := do
  PyProg.lift (orRuntimeError (py "runtime admission input invalid") input.validate)
  match trustedNow with
  | .naive _ => PyProg.lift (.error (runtimeError (py "trusted_now must be timezone-aware")))
  | .aware now offset => engine.admitAt input now offset

/-! ### Bound actions -/

/-- The arguments of `admit_bound_action` but for the clock. -/
structure BoundInput where
  proposal : ActionProposal
  context : ExplicitActionProposalContext
  pdpResult : PDPResult
  currentness : RuntimeBindingCurrentness
  admittedAuthority : LiveAdmittedAuthority
  provisionedExecutor : ProvisionedExecutor
  provisioningRequest : ExecutorProvisioningRequest
  providerTrust : ProviderTrustBinding

/-- The checks of `admit_bound_action` before the source is read. -/
def bound (input : BoundInput) (now : DateTime) (offset : Int) : Except PyError BoundInputs := do
  orRuntimeError (py "runtime binding currentness invalid") input.currentness.validate
  raiseIf (input.currentness.pdpSourceTrust ≠ engine.sourceTrust)
    (runtimeError (py "runtime binder PDP source trust substitution denied"))
  let trusted ← awareUtc (py "trusted_now") input.currentness.trustedNow
  let current ← now.astimezoneUtc offset
  raiseIf (trusted ≠ current)
    (runtimeError (py "runtime binder/admission trusted time mismatch"))
  orRuntimeError (py "action runtime binding denied")
    (bindAllowedAction input.proposal input.context input.pdpResult input.currentness
      input.provisionedExecutor)

/-- What `admit_bound_action` gives to `admit`. -/
def BoundInput.admitInput (input : BoundInput) (inputs : BoundInputs) : AdmitInput where
  gate := input.pdpResult.applied
  pdpReceipt := input.pdpResult.receipt
  admittedAuthority := input.admittedAuthority
  proposal := input.proposal
  effect := inputs.effect
  runtimeIdentity := inputs.identity
  provisionedExecutor := input.provisionedExecutor
  provisioningRequest := input.provisioningRequest
  providerTrust := input.providerTrust

def admitBoundAction (input : BoundInput) (trustedNow : Moment) :
    PyProg RuntimeWorld RuntimeAdmission :=
  match trustedNow with
  | .naive _ => PyProg.lift (.error (runtimeError (py "trusted_now must be timezone-aware")))
  | .aware now offset => do
    let inputs ← PyProg.lift (engine.bound input now offset)
    let canonical ← engine.canonicalPdp input.pdpResult.applied input.pdpResult.receipt now offset
    PyProg.lift (raiseIf (inputs.evidence ≠ canonical)
      (runtimeError (py "runtime binder PDP evidence does not match canonical source")))
    engine.admitEffect (input.admitInput inputs) trustedNow

end RuntimeAdmissionEngine

end CyberLion
