import CyberLion.FleetCoordinationRecords
import CyberLion.RuntimeContracts

/-!
# The contracts of runtime reconciliation

`RuntimeExecutionReceipt` of `contracts/runtime_execution.py`,
`EffectTimeCurrentnessEvidence` of `contracts/runtime_currentness.py`, and the records of
`contracts/runtime_reconciliation.py`.  The three modules have the same checks of a text, of
a digest and of a time, each with its own error.
-/

namespace CyberLion

open PyLib
open FleetCoordination (canonicalJson canonicalJson_eq_ok textList isEncodable_of_mem_str)

namespace RuntimeReconciliation

/-! ### Checks -/

section Checks

variable (error : PyStr → PyError)

def text (name value : PyStr) : Except PyError Unit :=
  raiseIf (¬ isLimitedText 2048 value = true) (error (name ++ py " invalid"))

def digest (name value : PyStr) : Except PyError Unit := do
  raiseIf (¬ isLimitedText 64 value = true) (error (name ++ py " invalid"))
  raiseIf (¬ isLowerHexOf 64 value = true) (error (name ++ py " must be sha256 hex"))

/-- `_utc`: the instant, in microseconds. -/
def utc (name value : PyStr) : Except PyError Int := do
  text error name value
  match fromIsoFormat (pyReplace 0x5A (py "+00:00") value) with
  | none => .error (error (name ++ py " invalid"))
  | some (.naive _) => .error (error (name ++ py " must be timezone-aware"))
  | some (.aware time offset) => .ok (time.microseconds - offset)

def checkDigest (name stated : PyStr) (computed : Except PyError PyStr) : Except PyError Unit := do
  digest error name stated
  let found ← computed
  raiseIf (stated ≠ found) (error (name ++ py " mismatch"))

end Checks

/-- `SCHEMA_VERSION`. -/
def schema : PyStr :=
  py "1.0.0"

def observedState : PyStr := py "OBSERVED"

def unknownState : PyStr := py "UNKNOWN"

def partialUnknownState : PyStr := py "PARTIAL_UNKNOWN"

def effectStates : List PyStr :=
  [observedState, unknownState, partialUnknownState]

def succeeded : PyStr := py "SUCCEEDED"

def outcomes : List PyStr :=
  [succeeded, py "FAILED", py "ABORTED"]

def actions : List PyStr :=
  [py "READ_FILE", py "WRITE_FILE", py "RUN_TEST"]

/-- `RuntimeExecutionContractError(message)`. -/
def executionError (message : PyStr) : PyError :=
  ⟨.declared .valueError (py "RuntimeExecutionContractError"), message⟩

/-- `RuntimeCurrentnessContractError(message)`. -/
def currentnessError (message : PyStr) : PyError :=
  ⟨.declared .valueError (py "RuntimeCurrentnessContractError"), message⟩

/-- `RuntimeReconciliationContractError(message)`. -/
def contractError (message : PyStr) : PyError :=
  ⟨.declared .valueError (py "RuntimeReconciliationContractError"), message⟩

end RuntimeReconciliation

open RuntimeReconciliation

/-! ### Receipts of an execution -/

structure RuntimeExecutionReceipt where
  receiptId : PyStr
  executionId : PyStr
  admissionDigest : PyStr
  requestDigest : PyStr
  sandboxReceiptDigest : PyStr
  operationDigest : PyStr
  missionId : PyStr
  executorId : PyStr
  runtimeInstanceId : PyStr
  sandboxId : PyStr
  workspaceId : PyStr
  dispatchId : PyStr
  fencingToken : PyStr
  generation : Int
  action : PyStr
  resource : PyStr
  payloadDigest : PyStr
  outcome : PyStr
  effectState : PyStr
  effectDigest : PyStr
  observedEvents : List PyStr
  sideEffectRefs : List PyStr
  receiptDigest : PyStr
  schemaVersion : PyStr
  deriving DecidableEq

namespace RuntimeExecutionReceipt

def checkEffect (receipt : RuntimeExecutionReceipt) : Except PyError Unit := do
  raiseIf (receipt.action ∉ actions ∨ receipt.outcome ∉ outcomes ∨
      receipt.effectState ∉ effectStates) (executionError (py "receipt classification invalid"))
  raiseIf (receipt.observedEvents = [] ∨ ¬ receipt.observedEvents.Nodup)
    (executionError (py "observed_events invalid"))
  raiseIf (¬ receipt.sideEffectRefs.Nodup) (executionError (py "side_effect_refs invalid"))
  raiseIf (receipt.outcome = succeeded ∧ receipt.effectState ≠ observedState)
    (executionError (py "success requires observed effect"))
  raiseIf (receipt.effectState ∈ [unknownState, partialUnknownState] ∧ receipt.outcome = succeeded)
    (executionError (py "unknown effect cannot succeed"))
  raiseIf (receipt.effectState = partialUnknownState ∧ receipt.sideEffectRefs = [])
    (executionError (py "partial unknown effect requires side-effect evidence"))
  raiseIf (receipt.action = py "WRITE_FILE" ∧ receipt.outcome = succeeded ∧
      receipt.sideEffectRefs = [])
    (executionError (py "successful write requires side-effect reference"))

/-- `validate(check_digest=False)`. -/
def validateShape (receipt : RuntimeExecutionReceipt) : Except PyError Unit := do
  raiseIf (receipt.schemaVersion ≠ schema)
    (executionError (py "unsupported execution receipt schema"))
  checkFields (text executionError) [(py "receipt_id", receipt.receiptId),
    (py "execution_id", receipt.executionId), (py "mission_id", receipt.missionId),
    (py "executor_id", receipt.executorId),
    (py "runtime_instance_id", receipt.runtimeInstanceId),
    (py "sandbox_id", receipt.sandboxId), (py "workspace_id", receipt.workspaceId),
    (py "resource", receipt.resource)]
  checkFields (digest executionError) [(py "admission_digest", receipt.admissionDigest),
    (py "request_digest", receipt.requestDigest),
    (py "sandbox_receipt_digest", receipt.sandboxReceiptDigest),
    (py "operation_digest", receipt.operationDigest), (py "dispatch_id", receipt.dispatchId),
    (py "fencing_token", receipt.fencingToken), (py "payload_digest", receipt.payloadDigest),
    (py "effect_digest", receipt.effectDigest)]
  raiseIf (receipt.generation < 1) (executionError (py "generation invalid"))
  receipt.checkEffect

/-- The fields of `canonical_dict(include_digest=False)`, of a receipt whose shape was
validated. -/
def fields (receipt : RuntimeExecutionReceipt) : List (PyStr × Json) :=
  [(py "receipt_id", .str receipt.receiptId), (py "execution_id", .str receipt.executionId),
    (py "admission_digest", .str receipt.admissionDigest),
    (py "request_digest", .str receipt.requestDigest),
    (py "sandbox_receipt_digest", .str receipt.sandboxReceiptDigest),
    (py "operation_digest", .str receipt.operationDigest),
    (py "mission_id", .str receipt.missionId), (py "executor_id", .str receipt.executorId),
    (py "runtime_instance_id", .str receipt.runtimeInstanceId),
    (py "sandbox_id", .str receipt.sandboxId), (py "workspace_id", .str receipt.workspaceId),
    (py "dispatch_id", .str receipt.dispatchId),
    (py "fencing_token", .str receipt.fencingToken), (py "generation", .int receipt.generation),
    (py "action", .str receipt.action), (py "resource", .str receipt.resource),
    (py "payload_digest", .str receipt.payloadDigest), (py "outcome", .str receipt.outcome),
    (py "effect_state", .str receipt.effectState),
    (py "effect_digest", .str receipt.effectDigest),
    (py "observed_events", textList receipt.observedEvents),
    (py "side_effect_refs", textList receipt.sideEffectRefs),
    (py "schema_version", .str receipt.schemaVersion)]

def computeDigest (receipt : RuntimeExecutionReceipt) : Except PyError PyStr := do
  receipt.validateShape
  domainDigest (py "LION/F009-RUNTIME-EXECUTION-RECEIPT/1\x00") (.obj receipt.fields)

def validate (receipt : RuntimeExecutionReceipt) : Except PyError Unit := do
  receipt.validateShape
  checkDigest executionError (py "receipt_digest") receipt.receiptDigest receipt.computeDigest

def sealed (receipt : RuntimeExecutionReceipt) : Except PyError RuntimeExecutionReceipt := do
  receipt.validateShape
  let digest ← receipt.computeDigest
  let result := { receipt with receiptDigest := digest }
  result.validate
  return result

end RuntimeExecutionReceipt

/-! ### Currentness at the time of an effect -/

structure EffectTimeCurrentnessEvidence where
  evidenceId : PyStr
  admissionDigest : PyStr
  requestedEffectDigest : PyStr
  runtimeIdentityDigest : PyStr
  liveAuthorityDigest : PyStr
  authorityLineageDigest : PyStr
  policyBinding : PyStr
  observabilityState : PyStr
  sourceId : PyStr
  sourceInstanceId : PyStr
  sourceImplementationDigest : PyStr
  trustAnchorId : PyStr
  trustAnchorDigest : PyStr
  observedAt : PyStr
  evidenceDigest : PyStr
  schemaVersion : PyStr
  deriving DecidableEq

namespace EffectTimeCurrentnessEvidence

/-- `validate(check_digest=False)`. -/
def validateShape (evidence : EffectTimeCurrentnessEvidence) : Except PyError Unit := do
  raiseIf (evidence.schemaVersion ≠ schema)
    (currentnessError (py "unsupported currentness evidence schema"))
  checkFields (text currentnessError) [(py "evidence_id", evidence.evidenceId),
    (py "policy_binding", evidence.policyBinding), (py "source_id", evidence.sourceId),
    (py "source_instance_id", evidence.sourceInstanceId),
    (py "trust_anchor_id", evidence.trustAnchorId)]
  checkFields (digest currentnessError) [(py "admission_digest", evidence.admissionDigest),
    (py "requested_effect_digest", evidence.requestedEffectDigest),
    (py "runtime_identity_digest", evidence.runtimeIdentityDigest),
    (py "live_authority_digest", evidence.liveAuthorityDigest),
    (py "authority_lineage_digest", evidence.authorityLineageDigest),
    (py "source_implementation_digest", evidence.sourceImplementationDigest),
    (py "trust_anchor_digest", evidence.trustAnchorDigest)]
  raiseIf (evidence.observabilityState ∉ observabilityStates)
    (currentnessError (py "invalid observability_state"))
  let _ ← utc currentnessError (py "observed_at") evidence.observedAt

/-- The fields of `canonical_dict(include_digest=False)`, of evidence whose shape was
validated. -/
def fields (evidence : EffectTimeCurrentnessEvidence) : List (PyStr × Json) :=
  [(py "evidence_id", .str evidence.evidenceId),
    (py "admission_digest", .str evidence.admissionDigest),
    (py "requested_effect_digest", .str evidence.requestedEffectDigest),
    (py "runtime_identity_digest", .str evidence.runtimeIdentityDigest),
    (py "live_authority_digest", .str evidence.liveAuthorityDigest),
    (py "authority_lineage_digest", .str evidence.authorityLineageDigest),
    (py "policy_binding", .str evidence.policyBinding),
    (py "observability_state", .str evidence.observabilityState),
    (py "source_id", .str evidence.sourceId),
    (py "source_instance_id", .str evidence.sourceInstanceId),
    (py "source_implementation_digest", .str evidence.sourceImplementationDigest),
    (py "trust_anchor_id", .str evidence.trustAnchorId),
    (py "trust_anchor_digest", .str evidence.trustAnchorDigest),
    (py "observed_at", .str evidence.observedAt),
    (py "schema_version", .str evidence.schemaVersion)]

def computeDigest (evidence : EffectTimeCurrentnessEvidence) : Except PyError PyStr := do
  evidence.validateShape
  domainDigest (py "LION/F009-EFFECT-CURRENTNESS/1\x00") (.obj evidence.fields)

def validate (evidence : EffectTimeCurrentnessEvidence) : Except PyError Unit := do
  evidence.validateShape
  checkDigest currentnessError (py "evidence_digest") evidence.evidenceDigest
    evidence.computeDigest

def sealed (evidence : EffectTimeCurrentnessEvidence) :
    Except PyError EffectTimeCurrentnessEvidence := do
  evidence.validateShape
  let digest ← evidence.computeDigest
  let result := { evidence with evidenceDigest := digest }
  result.validate
  return result

end EffectTimeCurrentnessEvidence

/-! ### Observations of an effect -/

structure RuntimeObserverTrustBinding where
  sourceId : PyStr
  sourceInstanceId : PyStr
  sourceImplementationDigest : PyStr
  trustAnchorId : PyStr
  trustAnchorDigest : PyStr
  schemaVersion : PyStr
  deriving DecidableEq

namespace RuntimeObserverTrustBinding

def validate (trust : RuntimeObserverTrustBinding) : Except PyError Unit := do
  raiseIf (trust.schemaVersion ≠ schema) (contractError (py "unsupported observer trust schema"))
  checkFields (text contractError) [(py "source_id", trust.sourceId),
    (py "source_instance_id", trust.sourceInstanceId),
    (py "trust_anchor_id", trust.trustAnchorId)]
  digest contractError (py "source_implementation_digest") trust.sourceImplementationDigest
  digest contractError (py "trust_anchor_digest") trust.trustAnchorDigest

/-- The tuple of `binding`, of a trust that was validated. -/
def bindingFields (trust : RuntimeObserverTrustBinding) : List PyStr :=
  [trust.sourceId, trust.sourceInstanceId, trust.sourceImplementationDigest,
    trust.trustAnchorId, trust.trustAnchorDigest]

def binding (trust : RuntimeObserverTrustBinding) : Except PyError (List PyStr) := do
  trust.validate
  return trust.bindingFields

end RuntimeObserverTrustBinding

structure RuntimeEffectObservation where
  observationId : PyStr
  executionId : PyStr
  admissionDigest : PyStr
  requestDigest : PyStr
  operationDigest : PyStr
  action : PyStr
  resource : PyStr
  effectState : PyStr
  effectDigest : PyStr
  observedEvents : List PyStr
  sideEffectRefs : List PyStr
  sourceId : PyStr
  sourceInstanceId : PyStr
  sourceImplementationDigest : PyStr
  trustAnchorId : PyStr
  trustAnchorDigest : PyStr
  observedAt : PyStr
  observationDigest : PyStr
  schemaVersion : PyStr
  deriving DecidableEq

namespace RuntimeEffectObservation

/-- `validate(check_digest=False)`. -/
def validateShape (observation : RuntimeEffectObservation) : Except PyError Unit := do
  raiseIf (observation.schemaVersion ≠ schema)
    (contractError (py "unsupported observation schema"))
  checkFields (text contractError) [(py "observation_id", observation.observationId),
    (py "execution_id", observation.executionId), (py "action", observation.action),
    (py "resource", observation.resource), (py "source_id", observation.sourceId),
    (py "source_instance_id", observation.sourceInstanceId),
    (py "trust_anchor_id", observation.trustAnchorId)]
  checkFields (digest contractError) [(py "admission_digest", observation.admissionDigest),
    (py "request_digest", observation.requestDigest),
    (py "operation_digest", observation.operationDigest),
    (py "effect_digest", observation.effectDigest),
    (py "source_implementation_digest", observation.sourceImplementationDigest),
    (py "trust_anchor_digest", observation.trustAnchorDigest)]
  raiseIf (observation.effectState ∉ effectStates) (contractError (py "invalid effect_state"))
  raiseIf (observation.observedEvents = [] ∨ ¬ observation.observedEvents.Nodup)
    (contractError (py "observed_events invalid"))
  raiseIf (¬ observation.sideEffectRefs.Nodup) (contractError (py "side_effect_refs invalid"))
  raiseIf (observation.effectState = partialUnknownState ∧ observation.sideEffectRefs = [])
    (contractError (py "partial unknown requires side-effect evidence"))
  let _ ← utc contractError (py "observed_at") observation.observedAt

/-- The fields of `canonical_dict(include_digest=False)`, of an observation whose shape was
validated. -/
def fields (observation : RuntimeEffectObservation) : List (PyStr × Json) :=
  [(py "observation_id", .str observation.observationId),
    (py "execution_id", .str observation.executionId),
    (py "admission_digest", .str observation.admissionDigest),
    (py "request_digest", .str observation.requestDigest),
    (py "operation_digest", .str observation.operationDigest),
    (py "action", .str observation.action), (py "resource", .str observation.resource),
    (py "effect_state", .str observation.effectState),
    (py "effect_digest", .str observation.effectDigest),
    (py "observed_events", textList observation.observedEvents),
    (py "side_effect_refs", textList observation.sideEffectRefs),
    (py "source_id", .str observation.sourceId),
    (py "source_instance_id", .str observation.sourceInstanceId),
    (py "source_implementation_digest", .str observation.sourceImplementationDigest),
    (py "trust_anchor_id", .str observation.trustAnchorId),
    (py "trust_anchor_digest", .str observation.trustAnchorDigest),
    (py "observed_at", .str observation.observedAt),
    (py "schema_version", .str observation.schemaVersion)]

def computeDigest (observation : RuntimeEffectObservation) : Except PyError PyStr := do
  observation.validateShape
  domainDigest (py "LION/F009-RUNTIME-OBSERVATION/1\x00") (.obj observation.fields)

def validate (observation : RuntimeEffectObservation) : Except PyError Unit := do
  observation.validateShape
  checkDigest contractError (py "observation_digest") observation.observationDigest
    observation.computeDigest

def sealed (observation : RuntimeEffectObservation) : Except PyError RuntimeEffectObservation := do
  observation.validateShape
  let digest ← observation.computeDigest
  let result := { observation with observationDigest := digest }
  result.validate
  return result

def sourceBinding (observation : RuntimeEffectObservation) : List PyStr :=
  [observation.sourceId, observation.sourceInstanceId, observation.sourceImplementationDigest,
    observation.trustAnchorId, observation.trustAnchorDigest]

end RuntimeEffectObservation

/-! ### Receipts of a reconciliation -/

/-- `_DISPOSITIONS`. -/
inductive Disposition
  | matched
  | nonSuccessReconciled
  | mismatch
  | unknown
  deriving DecidableEq

def Disposition.text : Disposition → PyStr
  | matched => py "MATCHED"
  | nonSuccessReconciled => py "NON_SUCCESS_RECONCILED"
  | mismatch => py "MISMATCH"
  | unknown => py "UNKNOWN"

structure RuntimeReconciliationReceipt where
  reconciliationId : PyStr
  runtimeExecutionReceiptDigest : PyStr
  effectObservationDigest : PyStr
  currentnessEvidenceDigest : PyStr
  executionId : PyStr
  admissionDigest : PyStr
  disposition : Disposition
  anomalyCodes : List PyStr
  reconciledEffectDigest : PyStr
  reconciledAt : PyStr
  reconciliationDigest : PyStr
  schemaVersion : PyStr
  deriving DecidableEq

namespace RuntimeReconciliationReceipt

/-- `validate(check_digest=False)`. -/
def validateShape (receipt : RuntimeReconciliationReceipt) : Except PyError Unit := do
  raiseIf (receipt.schemaVersion ≠ schema)
    (contractError (py "unsupported reconciliation schema"))
  checkFields (text contractError) [(py "reconciliation_id", receipt.reconciliationId),
    (py "execution_id", receipt.executionId)]
  checkFields (digest contractError)
    [(py "runtime_execution_receipt_digest", receipt.runtimeExecutionReceiptDigest),
      (py "effect_observation_digest", receipt.effectObservationDigest),
      (py "currentness_evidence_digest", receipt.currentnessEvidenceDigest),
      (py "admission_digest", receipt.admissionDigest),
      (py "reconciled_effect_digest", receipt.reconciledEffectDigest)]
  raiseIf (¬ receipt.anomalyCodes.Nodup) (contractError (py "anomaly_codes invalid"))
  raiseIf (receipt.disposition = .matched ∧ receipt.anomalyCodes ≠ [])
    (contractError (py "MATCHED cannot contain anomalies"))
  raiseIf (receipt.disposition ∈ [Disposition.mismatch, .unknown] ∧ receipt.anomalyCodes = [])
    (contractError (py "non-matched disposition requires anomaly evidence"))
  let _ ← utc contractError (py "reconciled_at") receipt.reconciledAt

/-- The fields of `canonical_dict(include_digest=False)`, of a receipt whose shape was
validated. -/
def fields (receipt : RuntimeReconciliationReceipt) : List (PyStr × Json) :=
  [(py "reconciliation_id", .str receipt.reconciliationId),
    (py "runtime_execution_receipt_digest", .str receipt.runtimeExecutionReceiptDigest),
    (py "effect_observation_digest", .str receipt.effectObservationDigest),
    (py "currentness_evidence_digest", .str receipt.currentnessEvidenceDigest),
    (py "execution_id", .str receipt.executionId),
    (py "admission_digest", .str receipt.admissionDigest),
    (py "disposition", .str receipt.disposition.text),
    (py "anomaly_codes", textList receipt.anomalyCodes),
    (py "reconciled_effect_digest", .str receipt.reconciledEffectDigest),
    (py "reconciled_at", .str receipt.reconciledAt),
    (py "schema_version", .str receipt.schemaVersion)]

def computeDigest (receipt : RuntimeReconciliationReceipt) : Except PyError PyStr := do
  receipt.validateShape
  domainDigest (py "LION/F009-RUNTIME-RECONCILIATION/1\x00") (.obj receipt.fields)

def validate (receipt : RuntimeReconciliationReceipt) : Except PyError Unit := do
  receipt.validateShape
  checkDigest contractError (py "reconciliation_digest") receipt.reconciliationDigest
    receipt.computeDigest

def sealed (receipt : RuntimeReconciliationReceipt) :
    Except PyError RuntimeReconciliationReceipt := do
  receipt.validateShape
  let digest ← receipt.computeDigest
  let result := { receipt with reconciliationDigest := digest }
  result.validate
  return result

end RuntimeReconciliationReceipt

end CyberLion
