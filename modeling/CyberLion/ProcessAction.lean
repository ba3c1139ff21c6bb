import CyberLion.ProcessContext

/-!
# Decision records and transition outcomes

`TransitionDecisionRecord` and `ProcessTransitionOutcome` of
`contracts/process_action.py`: the two digest-bound carriers that a step of a
process consumes.
-/

namespace CyberLion

open PyLib ProcessIR

/-- `class ProcessActionContractError(ValueError)`. -/
def processActionErrorClass : ErrorClass :=
  .declared .valueError (py "ProcessActionContractError")

namespace ProcessAction

def actionError (text : PyStr) : PyError :=
  ⟨processActionErrorClass, text⟩

def checkId (value name : PyStr) : Except PyError Unit :=
  raiseIf (isIdentifier value = false) (actionError (name ++ py " invalid"))

def checkText (value name : PyStr) (optional : Bool := false) : Except PyError Unit := do
  raiseIf (hasNul value = true ∨ value.length > 4096)
    (actionError (name ++ py " invalid"))
  raiseIf (optional = false ∧ value = []) (actionError (name ++ py " required"))

def checkDigest (value name : PyStr) : Except PyError Unit :=
  raiseIf (isSha256 value = false) (actionError (name ++ py " invalid"))

/-- `if value: _digest(value, name)`. -/
def checkOptionalDigest (value name : PyStr) : Except PyError Unit :=
  if value = [] then .ok () else checkDigest value name

end ProcessAction

open ProcessAction

/-! ### Decisions -/

/-- The members of `DECISIONS`. -/
inductive Decision
  | selected | blocked | handoffRequired | complete | unknown
  deriving DecidableEq

def decisions : List (Decision × PyStr) :=
  [(.selected, py "SELECTED"), (.blocked, py "BLOCKED"),
    (.handoffRequired, py "HANDOFF_REQUIRED"), (.complete, py "COMPLETE"),
    (.unknown, py "UNKNOWN")]

structure TransitionDecisionRecord where
  processId : PyStr
  processIrDigest : PyStr
  processContextDigest : PyStr
  transitionId : PyStr
  transitionClass : TransitionClass
  decision : Decision
  decisionBasis : PyStr
  selectedAt : PyStr
  transitionDecisionDigest : PyStr := []
  authorityEffect : PyStr := py "NONE"
  executionEffect : PyStr := py "NONE"

namespace TransitionDecisionRecord

def digestDomain : Utf8Bytes :=
  ⟨py "LION/PROCESS-TRANSITION-DECISION/1\x00", by decide⟩

def canonicalPayload (record : TransitionDecisionRecord) : Json :=
  .obj [(py "process_id", .str record.processId),
    (py "process_ir_digest", .str record.processIrDigest),
    (py "process_context_digest", .str record.processContextDigest),
    (py "transition_id", .str record.transitionId),
    (py "transition_class", .str (toText transitionClasses record.transitionClass)),
    (py "decision", .str (toText decisions record.decision)),
    (py "decision_basis", .str record.decisionBasis),
    (py "selected_at", .str record.selectedAt),
    (py "authority_effect", .str record.authorityEffect),
    (py "execution_effect", .str record.executionEffect)]

def computeDigest (record : TransitionDecisionRecord) : Except PyError PyStr :=
  sealDigest digestDomain record.canonicalPayload

def validate (record : TransitionDecisionRecord) : Except PyError Unit := do
  checkId record.processId (py "process_id")
  checkDigest record.processIrDigest (py "process_ir_digest")
  checkDigest record.processContextDigest (py "process_context_digest")
  checkId record.transitionId (py "transition_id")
  raiseIf (record.decision ≠ .selected)
    (actionError (py "transition decision record must be SELECTED"))
  checkText record.decisionBasis (py "decision_basis")
  checkText record.selectedAt (py "selected_at")
  raiseIf (record.authorityEffect ≠ py "NONE" ∨ record.executionEffect ≠ py "NONE")
    (actionError
      (py "TransitionDecisionRecord must be non-authoritative and non-effectful"))
  checkSeal record.transitionDecisionDigest record.computeDigest isSha256
    (actionError (py "transition_decision_digest invalid"))
    (actionError (py "transition_decision_digest mismatch"))

/-- `sealed()`: the record with its digest, validated. -/
def sealRecord (record : TransitionDecisionRecord) :
    Except PyError TransitionDecisionRecord := do
  let digest ← record.computeDigest
  let sealedRecord := { record with transitionDecisionDigest := digest }
  sealedRecord.validate
  return sealedRecord

end TransitionDecisionRecord

/-! ### Outcomes -/

structure ProcessTransitionOutcome where
  processId : PyStr
  processIrDigest : PyStr
  transitionId : PyStr
  transitionDecisionDigest : PyStr
  attemptNumber : Int
  outcome : OutcomeLabel
  nextState : PyStr
  actionRef : PyStr := []
  proposalDigest : PyStr := []
  admissionRef : PyStr := []
  effectRef : PyStr := []
  observationRef : PyStr := []
  reconciliationRef : PyStr := []
  currentnessBasisRef : PyStr := []
  transitionOutcomeDigest : PyStr := []

namespace ProcessTransitionOutcome

def digestDomain : Utf8Bytes :=
  ⟨py "LION/PROCESS-TRANSITION-OUTCOME/1\x00", by decide⟩

def canonicalPayload (outcome : ProcessTransitionOutcome) : Json :=
  .obj [(py "process_id", .str outcome.processId),
    (py "process_ir_digest", .str outcome.processIrDigest),
    (py "transition_id", .str outcome.transitionId),
    (py "transition_decision_digest", .str outcome.transitionDecisionDigest),
    (py "attempt_number", .int outcome.attemptNumber),
    (py "outcome", .str (toText outcomeLabels outcome.outcome)),
    (py "next_state", .str outcome.nextState),
    (py "action_ref", .str outcome.actionRef),
    (py "proposal_digest", .str outcome.proposalDigest),
    (py "admission_ref", .str outcome.admissionRef),
    (py "effect_ref", .str outcome.effectRef),
    (py "observation_ref", .str outcome.observationRef),
    (py "reconciliation_ref", .str outcome.reconciliationRef),
    (py "currentness_basis_ref", .str outcome.currentnessBasisRef)]

def computeDigest (outcome : ProcessTransitionOutcome) : Except PyError PyStr :=
  sealDigest digestDomain outcome.canonicalPayload

def validate (outcome : ProcessTransitionOutcome) : Except PyError Unit := do
  checkId outcome.processId (py "process_id")
  checkDigest outcome.processIrDigest (py "process_ir_digest")
  checkId outcome.transitionId (py "transition_id")
  checkDigest outcome.transitionDecisionDigest (py "transition_decision_digest")
  raiseIf (outcome.attemptNumber < 1) (actionError (py "attempt_number invalid"))
  checkText outcome.nextState (py "next_state")
  [(outcome.actionRef, py "action_ref"), (outcome.proposalDigest, py "proposal_digest"),
    (outcome.admissionRef, py "admission_ref"), (outcome.effectRef, py "effect_ref"),
    (outcome.observationRef, py "observation_ref"),
    (outcome.reconciliationRef, py "reconciliation_ref"),
    (outcome.currentnessBasisRef, py "currentness_basis_ref")].forM fun field =>
      checkText field.1 field.2 true
  checkOptionalDigest outcome.proposalDigest (py "proposal_digest")
  checkOptionalDigest outcome.currentnessBasisRef (py "currentness_basis_ref")
  checkSeal outcome.transitionOutcomeDigest outcome.computeDigest isSha256
    (actionError (py "transition_outcome_digest invalid"))
    (actionError (py "transition_outcome_digest mismatch"))

end ProcessTransitionOutcome

end CyberLion
