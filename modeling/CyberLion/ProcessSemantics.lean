import CyberLion.ProcessAction

/-!
# Transition selection and outcomes

`enterprise/process_semantics.py`: the selector of the next legal transition
and `apply_transition_outcome`, which closes one selected transition with its
evidence.  The downstream evidence of an effectful transition is a parameter,
given by its type and its own validator.
-/

namespace CyberLion

open PyLib ProcessIR

/-- `class ProcessSemanticError(RuntimeError)`. -/
def processSemanticErrorClass : ErrorClass :=
  .declared .runtimeError (py "ProcessSemanticError")

def semanticError (text : PyStr) : PyError :=
  ⟨processSemanticErrorClass, text⟩

/-- `class ProcessOutcomeEvidenceError(ValueError)`. -/
def processOutcomeEvidenceErrorClass : ErrorClass :=
  .declared .valueError (py "ProcessOutcomeEvidenceError")

structure TransitionDecision where
  decision : Decision
  transitionId : PyStr := []
  reason : PyStr
  deriving DecidableEq

def TransitionDecision.validate (decided : TransitionDecision) :
    Except PyError TransitionDecision := do
  raiseIf (decided.decision = .selected ∧ decided.transitionId = [])
    (semanticError (py "SELECTED requires transition_id"))
  raiseIf (decided.decision ≠ .selected ∧ decided.transitionId ≠ [])
    (semanticError (py "non-selected decision cannot carry transition_id"))
  return decided

/-- `_attempt_map(context).get(transition_id, 0)`. -/
def attemptCount (context : ProcessContextSnapshot) (transitionId : PyStr) : Int :=
  (context.attemptCounts.lookup transitionId).getD 0

/-- `_current_basis_map(context).get(requirement)`. -/
def currentBasis (context : ProcessContextSnapshot) (requirement : PyStr) :
    Option CurrentnessBasis :=
  context.currentnessBases.find? fun basis => basis.requirementId = requirement

/-! ### The selector -/

namespace TransitionSelector

/-- The key `(priority, position)` of the explicit priority order. -/
def priorityLe (policy : Scheduling) (first second : PyStr) : Bool :=
  let priority := fun transitionId => (policy.priorities.lookup transitionId).getD 0
  priority first < priority second ||
    (priority first == priority second &&
      policy.order.idxOf first ≤ policy.order.idxOf second)

def ordered (model : Model) : List Transition :=
  let policy := model.schedulingPolicy
  let ids := match policy.strategy with
    | .explicitPriority => policy.order.mergeSort (priorityLe policy)
    | .declaredOrder => policy.order
  ids.filterMap fun transitionId =>
    model.transitions.find? fun transition => transition.transitionId = transitionId

/-- The loop of `_currentness_satisfied`. -/
def currentnessSatisfiedFrom (allowedSubjects : List PyStr)
    (context : ProcessContextSnapshot) : List PyStr → Except PyError Bool
  | [] => .ok true
  | requirement :: requirements =>
    match currentBasis context requirement with
    | none => .ok false
    | some basis => do
      basis.validate
      if basis.state ≠ .current ∨ basis.subject ≠ requirement ∨
          basis.subject ∉ allowedSubjects ∨ basis.evidenceRef = [] ∨
          basis.observedIdentity = [] ∨ basis.observedAt = [] ∨
          basis.basisDigest = [] then
        return false
      else
        currentnessSatisfiedFrom allowedSubjects context requirements

def currentnessSatisfied (transition : Transition) (context : ProcessContextSnapshot) :
    Except PyError Bool :=
  currentnessSatisfiedFrom transition.resourceClaims.currentnessSubjects context
    transition.currentnessRequirements

def retryReconciled (transition : Transition) (context : ProcessContextSnapshot) : Bool :=
  let count := attemptCount context transition.transitionId
  if count = 0 then true
  else if transition.idempotencyClass ≠ .nonIdempotent then true
  else if transition.replayPolicy ≠ .reconcileFirst then false
  else
    match context.attemptRecords.filter fun record =>
        record.transitionId = transition.transitionId ∧ record.attemptNumber = count with
    | [record] => record.reconciliationRef ≠ []
    | _ => false

/-- What the body of the selection loop finds about one transition. -/
inductive Screening
  | skipped | blockedByDependency | unknown | handoff | blockedByRetry | legal
  deriving DecidableEq

def screen (context : ProcessContextSnapshot) (transition : Transition) :
    Except PyError Screening := do
  if transition.transitionId ∈ context.completedTransitions ∨
      context.processState ∉ transition.sourceStates then
    return .skipped
  if ¬ transition.dependencies ⊆ context.satisfiedDependencies then
    return .blockedByDependency
  if ¬ transition.guards ⊆ context.satisfiedGuards then
    return .unknown
  if ¬ transition.evidenceRequirements ⊆ context.satisfiedEvidenceRequirements then
    return .unknown
  if !(← currentnessSatisfied transition context) then
    return .unknown
  if ¬ transition.authorityRequirements ⊆ context.verifiedAuthorityContextRefs then
    return .handoff
  if attemptCount context transition.transitionId > transition.retryPolicy.maxAttempts then
    return .blockedByRetry
  if retryReconciled transition context = false then
    return .blockedByRetry
  return .legal

/-- `TransitionDecision(decision, transition_id, reason).validate()`. -/
def answer (decision : Decision) (reason : PyStr) (transitionId : PyStr := []) :
    Except PyError TransitionDecision :=
  TransitionDecision.validate ⟨decision, transitionId, reason⟩

def unselected (model : Model) (found : List Screening) :
    Except PyError TransitionDecision :=
  if .handoff ∈ found then
    answer .handoffRequired (py "authority context is not independently verified")
  else if .unknown ∈ found then
    answer .unknown (py "evidence/currentness/guard requirements are unresolved")
  else if .blockedByDependency ∈ found ∨ .blockedByRetry ∈ found then
    answer .blocked
      (py "dependency, retry or reconciliation boundary blocks remaining transition")
  else if model.terminationPolicy.allowNoLegalTransition then
    answer .complete (py "no legal unfinished transition remains")
  else
    answer .blocked (py "no legal transition and implicit completion is forbidden")

/-- The selection loop, with what it found about the transitions before. -/
def selectFrom (model : Model) (context : ProcessContextSnapshot)
    (found : List Screening) : List Transition → Except PyError TransitionDecision
  | [] => unselected model found
  | transition :: transitions => do
    match ← screen context transition with
    | .legal =>
      answer .selected (py "first legal unfinished transition") transition.transitionId
    | finding => selectFrom model context (finding :: found) transitions

def select (ir : CanonicalProcessIR) (context : ProcessContextSnapshot) :
    Except PyError TransitionDecision := do
  let _ ← ir.validate
  let model ← ir.asModel
  let _ ← rethrow (fun error => error.isInstance contractErrorClass)
    (fun error => semanticError error.text) (context.validateFor ir)
  match context.processControl with
  | .complete => answer .complete (py "process control is complete")
  | .handoffRequired => answer .handoffRequired (py "process control requires handoff")
  | .deferred => answer .blocked (py "process control is deferred")
  | .terminated => answer .blocked (py "process control is terminated")
  | .active =>
    if context.processState ∈ model.terminationPolicy.terminalStates then
      answer .complete (py "terminal process state")
    else selectFrom model context [] (ordered model)

/-- `self._transitions[transition_id]`. -/
def transitionNamed (model : Model) (transitionId : PyStr) : Except PyError Transition :=
  match model.transitions.find? fun transition =>
      transition.transitionId = transitionId with
  | some transition => .ok transition
  | none => .error ⟨.keyError, transitionId⟩

def bindSelected (ir : CanonicalProcessIR) (context : ProcessContextSnapshot) :
    Except PyError TransitionDecisionRecord := do
  let decided ← select ir context
  raiseIf (decided.decision ≠ .selected)
    (semanticError (py "cannot bind non-selected transition decision: " ++
      toText decisions decided.decision))
  let model ← ir.asModel
  let transition ← transitionNamed model decided.transitionId
  let contextDigest ← context.contextDigest ir
  TransitionDecisionRecord.sealRecord {
    processId := model.processId
    processIrDigest := ir.processDigest
    processContextDigest := contextDigest
    transitionId := decided.transitionId
    transitionClass := transition.transitionClass
    decision := .selected
    decisionBasis := decided.reason
    selectedAt := context.observedAt }

end TransitionSelector

/-! ### Applying an outcome -/

section Apply

variable {Evidence : Type}

/-- The validator of the downstream evidence, with the process identity, the
IR digest, the transition and the mission that it must bind. -/
abbrev EvidenceValidator (Evidence : Type) :=
  Evidence → ProcessTransitionOutcome → PyStr → PyStr → PyStr → PyStr →
    Except PyError Unit

def requiredCurrentnessBasisDigests (transition : Transition)
    (context : ProcessContextSnapshot) : List PyStr :=
  transition.currentnessRequirements.filterMap fun requirement =>
    match currentBasis context requirement with
    | some basis => if basis.state = .current then some basis.basisDigest else none
    | none => none

/-- The checks that bind the decision record to the current selection. -/
def checkDecision (ir : CanonicalProcessIR) (model : Model)
    (context : ProcessContextSnapshot) (record : TransitionDecisionRecord) :
    Except PyError Unit := do
  raiseIf (record.processId ≠ model.processId)
    (semanticError (py "decision process identity mismatch"))
  raiseIf (record.processIrDigest ≠ ir.processDigest)
    (semanticError (py "decision Process IR binding mismatch"))
  let contextDigest ← context.contextDigest ir
  raiseIf (record.processContextDigest ≠ contextDigest)
    (semanticError (py "decision ProcessContext binding mismatch"))
  let current ← TransitionSelector.select ir context
  raiseIf (current.decision ≠ .selected ∨ current.transitionId ≠ record.transitionId)
    (semanticError (py "outcome lacks a currently legal selected transition"))
  let expected ← TransitionSelector.bindSelected ir context
  raiseIf (record.transitionDecisionDigest ≠ expected.transitionDecisionDigest)
    (semanticError
      (py "transition decision record was not produced by canonical selection"))

/-- `next((item for item in model["transitions"] if ...), None)`. -/
def decidedTransition (model : Model) (record : TransitionDecisionRecord) :
    Except PyError Transition := do
  match model.transitions.find? fun transition =>
      transition.transitionId = record.transitionId with
  | some transition =>
    raiseIf (record.transitionClass ≠ transition.transitionClass)
      (semanticError (py "decision transition class mismatch"))
    return transition
  | none => .error (semanticError (py "decision transition is undefined"))

/-- The checks that bind the outcome to the decision and the transition. -/
def checkOutcome (ir : CanonicalProcessIR) (model : Model)
    (context : ProcessContextSnapshot) (record : TransitionDecisionRecord)
    (transition : Transition) (outcome : ProcessTransitionOutcome) :
    Except PyError Unit := do
  raiseIf (record.transitionDecisionDigest ≠ outcome.transitionDecisionDigest)
    (semanticError (py "outcome transition decision binding mismatch"))
  raiseIf (outcome.processIrDigest ≠ ir.processDigest)
    (semanticError (py "outcome Process IR binding mismatch"))
  raiseIf (outcome.processId ≠ model.processId)
    (semanticError (py "outcome process identity mismatch"))
  raiseIf (outcome.transitionId ≠ transition.transitionId)
    (semanticError (py "outcome transition identity mismatch"))
  raiseIf (context.processState ∉ transition.sourceStates)
    (semanticError (py "outcome source-state substitution denied"))
  raiseIf (outcome.attemptNumber ≠ attemptCount context transition.transitionId + 1)
    (semanticError (py "outcome attempt number is not the next legal attempt"))

/-- `transition["outcome_map"].get(outcome.outcome)`. -/
def expectedNext (transition : Transition) (label : OutcomeLabel) :
    Except PyError PyStr :=
  match transition.outcomeMap.lookup label with
  | some target => .ok target
  | none => .error (semanticError (py "outcome label is not declared by transition"))

def checkEvidence (validateEvidence : EvidenceValidator Evidence)
    (ir : CanonicalProcessIR) (model : Model) (context : ProcessContextSnapshot)
    (transition : Transition) (outcome : ProcessTransitionOutcome)
    (evidence : Option Evidence) : Except PyError Unit := do
  if transition.transitionClass = .actionRequired ∧ outcome.outcome = .pass then
    raiseIf ([] ∈ [outcome.actionRef, outcome.proposalDigest, outcome.admissionRef,
        outcome.effectRef, outcome.observationRef, outcome.reconciliationRef,
        outcome.currentnessBasisRef])
      (semanticError (py
        "ACTION_REQUIRED PASS requires action, proposal, admission, effect, observation, reconciliation and currentness evidence"))
    raiseIf (outcome.currentnessBasisRef ∉
        requiredCurrentnessBasisDigests transition context)
      (semanticError (py
        "ACTION_REQUIRED PASS currentness basis does not bind selected context"))
    match evidence with
    | none => .error (semanticError (py
        "ACTION_REQUIRED PASS requires independently materialized canonical downstream evidence"))
    | some bundle =>
      rethrow (fun error => error.isInstance processOutcomeEvidenceErrorClass)
        (fun error => semanticError
          (py "canonical downstream evidence invalid: " ++ error.text))
        (validateEvidence bundle outcome model.processId ir.processDigest
          transition.transitionId model.missionRef)
  else
    raiseIf (evidence.isSome = true)
      (semanticError
        (py "canonical downstream evidence is only valid for ACTION_REQUIRED PASS"))

def directiveControl : NextDirective → ProcessControl
  | .continue => .active
  | .defer => .deferred
  | .handoff => .handoffRequired
  | .stop => .terminated
  | .complete => .complete

/-- The process control after an outcome: a directive keeps the state, any
other target is the next state. -/
def nextControl (context : ProcessContextSnapshot) (outcome : ProcessTransitionOutcome)
    (target : PyStr) : Except PyError ProcessControl := do
  match ofText nextDirectives target with
  | some directive =>
    raiseIf (outcome.nextState ≠ context.processState)
      (semanticError (py "directive outcome cannot substitute arbitrary process state"))
    return directiveControl directive
  | none =>
    raiseIf (outcome.nextState ≠ target)
      (semanticError (py "outcome next-state substitution denied"))
    return .active

/-- `tuple(dict.fromkeys(refs + ((ref,) if ref else ())))`. -/
def appendRef (refs : List PyStr) (ref : PyStr) : List PyStr :=
  (if ref = [] then refs else refs ++ [ref]).eraseDups

/-- `tuple(sorted(new_counts.items()))`; the keys are distinct. -/
def sortCounts (counts : List (PyStr × Int)) : List (PyStr × Int) :=
  counts.mergeSort fun first second => decide (first.1 ≤ second.1)

def outcomeContext (context : ProcessContextSnapshot) (transition : Transition)
    (outcome : ProcessTransitionOutcome) (control : ProcessControl)
    (record : AttemptRecord) : ProcessContextSnapshot :=
  { context with
    processState := outcome.nextState
    processControl := control
    completedTransitions :=
      if outcome.outcome = .pass ∧ outcome.transitionId ∉ context.completedTransitions then
        context.completedTransitions ++ [outcome.transitionId]
      else context.completedTransitions
    actionResultRefs := appendRef context.actionResultRefs outcome.actionRef
    observationRefs := appendRef context.observationRefs outcome.observationRef
    reconciliationRefs := appendRef context.reconciliationRefs outcome.reconciliationRef
    attemptCounts := sortCounts (dictSet outcome.transitionId
      (attemptCount context transition.transitionId + 1) context.attemptCounts)
    attemptRecords := context.attemptRecords ++ [record] }

def applyTransitionOutcome (validateEvidence : EvidenceValidator Evidence)
    (ir : CanonicalProcessIR) (context : ProcessContextSnapshot)
    (decisionRecord : TransitionDecisionRecord) (outcome : ProcessTransitionOutcome)
    (evidence : Option Evidence) : Except PyError ProcessContextSnapshot := do
  let _ ← ir.validate
  let _ ← context.validateFor ir
  rethrow (fun error => error.isInstance processActionErrorClass)
    (fun error => semanticError error.text) (do
      decisionRecord.validate
      outcome.validate)
  let model ← ir.asModel
  checkDecision ir model context decisionRecord
  let transition ← decidedTransition model decisionRecord
  checkOutcome ir model context decisionRecord transition outcome
  let target ← expectedNext transition outcome.outcome
  checkEvidence validateEvidence ir model context transition outcome evidence
  let control ← nextControl context outcome target
  let attempt ← AttemptRecord.sealRecord {
    transitionId := transition.transitionId
    attemptNumber := attemptCount context transition.transitionId + 1
    outcome := outcome.outcome
    effectRef := outcome.effectRef
    observationRef := outcome.observationRef
    reconciliationRef := outcome.reconciliationRef
    attemptDigest := [] }
  (outcomeContext context transition outcome control attempt).validateFor ir

end Apply

end CyberLion
