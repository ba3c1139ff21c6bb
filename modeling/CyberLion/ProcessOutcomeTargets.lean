import CyberLion.ProcessParallelSafety
import CyberLion.ProcessSeals
import CyberLion.Sha256Evaluation

/-!
# Outcome targets

A target of an outcome map is a state or a directive, and the two share one
space of names.  `apply_transition_outcome` looks at the directives first.
-/

namespace CyberLion

open PyLib ProcessIR ProcessAction TransitionSelector

/-! ### What an outcome does -/

/-- The process is in the target state, or the directive was obeyed. -/
def TargetReached (model : Model) (context : ProcessContextSnapshot) (target : PyStr)
    (next : ProcessContextSnapshot) : Prop :=
  if target ∈ model.states then
    next.processState = target ∧ next.processControl = .active
  else
    next.processState = context.processState ∧
      ∃ directive, ofText nextDirectives target = some directive ∧
        next.processControl = directiveControl directive

def Unambiguous (context : ProcessContextSnapshot) (target : PyStr) : Prop :=
  ofText nextDirectives target = none ∨
    (target = py "CONTINUE" ∧ context.processState = target)

theorem directive_eq_continue {target : PyStr} {directive : NextDirective}
    (named : ofText nextDirectives target = some directive) :
    directiveControl directive = .active ↔ target = py "CONTINUE" := by
  obtain ⟨entry, found, rfl⟩ := Option.map_eq_some_iff.mp named
  have isText := List.find?_some found
  have member := List.mem_of_find?_eq_some found
  rw [decide_eq_true_eq] at isText
  subst isText
  simp only [nextDirectives, List.mem_cons, List.not_mem_nil, or_false] at member
  rcases member with rfl | rfl | rfl | rfl | rfl <;> decide

section Apply

variable {Evidence : Type} {validateEvidence : EvidenceValidator Evidence}
  {process : ValidProcess} {context next : ProcessContextSnapshot}
  {record : TransitionDecisionRecord} {outcome : ProcessTransitionOutcome}
  {evidence : Option Evidence} {transition : Transition} {target : PyStr}

theorem nextControl_of_applyTransitionOutcome
    (member : transition ∈ process.model.transitions)
    (named : outcome.transitionId = transition.transitionId)
    (declared : transition.outcomeMap.lookup outcome.outcome = some target)
    (applied : applyTransitionOutcome validateEvidence process.ir context record outcome
      evidence = .ok next) :
    nextControl context outcome target = .ok next.processControl ∧
      next.processState = outcome.nextState ∧ next.processState ∈ process.model.states := by
  simp only [applyTransitionOutcome, bind_eq_ok, rethrow_eq_ok] at applied
  obtain ⟨_, -, _, -, _, -, read, readEq, _, -, found, decided, _, bound, reached, expected, _, -,
    control, controlled, attempt, -, nextValid⟩ := applied
  obtain rfl := Except.ok.inj (process.valid.asModel_eq.symm.trans readEq)
  obtain ⟨same, facts⟩ := validateFor_eq_ok.mp nextValid
  have isFound : found = transition := by
    have lookedUp := find?_of_decidedTransition decided
    have sameId := transitionId_of_checkOutcome bound
    have foundId : found.transitionId = record.transitionId := by
      simpa using List.find?_some lookedUp
    have direct := find?_of_nodup_map process.transitionIds_nodup member
    rw [← named, sameId, foundId, lookedUp] at direct
    exact Option.some.inj direct
  subst isFound
  rw [expectedNext, declared] at expected
  obtain rfl := Except.ok.inj expected
  rw [same]
  exact ⟨controlled, rfl, facts.state⟩

theorem targetReached_iff_of_nextControl
    (controlled : nextControl context outcome target = .ok next.processControl)
    (nextState : next.processState = outcome.nextState)
    (known : next.processState ∈ process.model.states) :
    TargetReached process.model context target next ↔
      (target ∈ process.model.states → Unambiguous context target) := by
  unfold TargetReached Unambiguous
  unfold nextControl at controlled
  cases directive : ofText nextDirectives target with
  | none =>
    rw [directive] at controlled
    simp only [bind_eq_ok, raiseIf_eq_ok, pure_eq_ok, ne_eq, not_not, exists_const]
      at controlled
    obtain ⟨isTarget, active⟩ := controlled
    rw [isTarget] at nextState
    rw [nextState] at known ⊢
    simp [known, active.symm]
  | some directive' =>
    rw [directive] at controlled
    simp only [bind_eq_ok, raiseIf_eq_ok, pure_eq_ok, ne_eq, not_not, exists_const]
      at controlled
    obtain ⟨stays, obeyed⟩ := controlled
    rw [stays] at nextState
    rw [nextState, ← obeyed]
    by_cases isState : target ∈ process.model.states
    · simp only [isState, if_true, directive_eq_continue directive, reduceCtorEq, false_or,
        forall_const]
      exact and_comm
    · simp [isState]

/-- A successful outcome does what its target says exactly when a target that
is a state of the process is no directive as well. -/
theorem targetReached_iff (member : transition ∈ process.model.transitions)
    (named : outcome.transitionId = transition.transitionId)
    (declared : transition.outcomeMap.lookup outcome.outcome = some target)
    (applied : applyTransitionOutcome validateEvidence process.ir context record outcome
      evidence = .ok next) :
    TargetReached process.model context target next ↔
      (target ∈ process.model.states → Unambiguous context target) := by
  obtain ⟨controlled, nextState, known⟩ :=
    nextControl_of_applyTransitionOutcome member named declared applied
  exact targetReached_iff_of_nextControl controlled nextState known

end Apply

/-! ### A state that is named like a directive -/

def leadingProcess : Json :=
  smallProcess [py "OPEN", py "STOP"] [py "STOP"] [⟨py "scan", [], py "STOP"⟩]

def leadingIr : CanonicalProcessIR :=
  ⟨⟨Json.render false leadingProcess, by decide +kernel⟩,
    Sha256.hexNumeral 0x7261a73befab1d447cc79c4c9bd4492a52713dccb94a55d5542bd187f1f27dd7⟩

def leadingContext : ProcessContextSnapshot :=
  { processIrDigest := leadingIr.processDigest, processState := py "OPEN", observedAt := py "now" }

def leadingOutcome (record : TransitionDecisionRecord) : ProcessTransitionOutcome where
  processId := py "small"
  processIrDigest := leadingIr.processDigest
  transitionId := py "scan"
  transitionDecisionDigest := record.transitionDecisionDigest
  attemptNumber := 1
  outcome := .pass
  nextState := py "OPEN"

def leadingStep : Except PyError ProcessContextSnapshot := do
  let record ← bindSelected leadingIr leadingContext
  applyTransitionOutcome (fun (_ : Unit) _ _ _ _ _ => .ok ()) leadingIr leadingContext record
    (leadingOutcome record) none

/-- The test that the step of the process leads to STOP. -/
def leadsToStop (model : Model) : Bool :=
  py "STOP" ∈ model.states ∧ ∃ transition ∈ model.transitions,
    transition.transitionId = py "scan" ∧
      transition.outcomeMap.lookup .pass = some (py "STOP")

theorem returned_leadingStep :
    returned leadingStep = true ∧ modelSatisfies leadingProcess leadsToStop = true := by
  -- The IR is evaluated once, before the steps that check it again.
  have valid : leadingIr.validate = .ok leadingIr := by
    delta CanonicalProcessIR.validate ProcessIR.digestOf
    rw [Sha256.sha256_eq_evalText]
    decide +kernel
  delta leadingStep bindSelected select applyTransitionOutcome checkDecision
    ProcessContextSnapshot.contextDigest ProcessContextSnapshot.validateFor
    TransitionDecisionRecord.sealRecord TransitionDecisionRecord.computeDigest
    AttemptRecord.sealRecord AttemptRecord.computeDigest ProcessTransitionOutcome.validate sealDigest
  rw [valid, Sha256.sha256_eq_evalText]
  decide +kernel

theorem exists_leadingStep : ∃ record next,
    applyTransitionOutcome (fun (_ : Unit) _ _ _ _ _ => .ok ()) leadingIr leadingContext record
      (leadingOutcome record) none = .ok next := by
  obtain ⟨next, step⟩ := exists_eq_ok_of_returned returned_leadingStep.1
  obtain ⟨record, -, applied⟩ := bind_eq_ok.mp step
  exact ⟨record, next, applied⟩

theorem exists_leading :
    ∃ process : ValidProcess, process.value = leadingProcess ∧
      py "STOP" ∈ process.model.states ∧
      ∃ transition ∈ process.model.transitions, ∃ record outcome next,
        outcome.transitionId = transition.transitionId ∧
        transition.outcomeMap.lookup outcome.outcome = some (py "STOP") ∧
        applyTransitionOutcome (fun (_ : Unit) _ _ _ _ _ => .ok ()) process.ir
          (process.contextIn (py "OPEN")) record outcome none = .ok next := by
  obtain ⟨process, same, holds⟩ := exists_smallProcess returned_leadingStep.2 rfl (by simp)
  obtain ⟨isState, transition, member, isScan, declared⟩ := of_decide_eq_true holds
  obtain ⟨record, next, applied⟩ := exists_leadingStep
  have validated := applied
  simp only [applyTransitionOutcome, bind_eq_ok] at validated
  obtain ⟨_, validated, -⟩ := validated
  obtain ⟨-, _, _, valid⟩ := CanonicalProcessIR.validate_eq_ok.mp validated
  have written : Json.dumps false true leadingProcess = .ok leadingIr.canonicalBytes.text := rfl
  have bytes : process.ir.canonicalBytes = leadingIr.canonicalBytes := by
    have isLeading : process.value = leadingProcess := same
    have canonical := process.valid.canonical
    rw [isLeading, written] at canonical
    cases found : process.ir.canonicalBytes with
    | mk text encodable =>
      rw [found] at canonical
      obtain rfl := Except.ok.inj canonical
      rfl
  have isIr : process.ir = leadingIr := by
    have digest := process.valid.digest
    rw [bytes, ← valid.digest] at digest
    cases found : process.ir with
    | mk canonicalBytes processDigest =>
      rw [found] at bytes digest
      exact congrArg₂ CanonicalProcessIR.mk bytes digest
  refine ⟨process, same, isState, transition, member, record, leadingOutcome record, next,
    isScan.symm, declared, ?_⟩
  rw [ValidProcess.contextIn, isIr]
  exact applied

/-- The passed step terminates the process in OPEN, and the state STOP is not
reached. -/
theorem not_targetReached_stop :
    ∃ process : ValidProcess, process.value = leadingProcess ∧
      py "STOP" ∈ process.model.states ∧
      ∃ transition ∈ process.model.transitions, ∃ record outcome next,
        outcome.transitionId = transition.transitionId ∧
        transition.outcomeMap.lookup outcome.outcome = some (py "STOP") ∧
        applyTransitionOutcome (fun (_ : Unit) _ _ _ _ _ => .ok ()) process.ir
          (process.contextIn (py "OPEN")) record outcome none = .ok next ∧
        ¬ TargetReached process.model (process.contextIn (py "OPEN")) (py "STOP") next := by
  obtain ⟨process, same, isState, transition, member, record, outcome, next, named, declared,
    applied⟩ := exists_leading
  refine ⟨process, same, isState, transition, member, record, outcome, next, named, declared,
    applied, fun reached => ?_⟩
  obtain ⟨controlled, nextState, known⟩ :=
    nextControl_of_applyTransitionOutcome member named declared applied
  rcases (targetReached_iff_of_nextControl controlled nextState known).mp reached isState with
    noDirective | ⟨isContinue, -⟩
  · exact absurd noDirective (by decide)
  · exact absurd isContinue (by decide)

theorem targetReached_iff_stop :
    ∃ process : ValidProcess, process.value = leadingProcess ∧
      ∃ next, TargetReached process.model (process.contextIn (py "OPEN")) (py "STOP") next ↔
        (py "STOP" ∈ process.model.states →
          Unambiguous (process.contextIn (py "OPEN")) (py "STOP")) := by
  obtain ⟨process, same, -, transition, member, record, outcome, next, named, declared,
    applied⟩ := exists_leading
  exact ⟨process, same, next, targetReached_iff member named declared applied⟩

end CyberLion
