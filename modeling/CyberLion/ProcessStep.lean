import CyberLion.ProcessSemantics

/-!
# What one process step can do

Inversion lemmas for the validators, the selector and
`apply_transition_outcome`.  Every result about runs is derived from
`exists_step_of_applyTransitionOutcome`, never from the definitions again.
-/

namespace CyberLion

open PyLib ProcessIR

/-! ### What the validators establish -/

variable {stateSet dependencySet : List PyStr} {model : Model} {ir : CanonicalProcessIR}
  {context : ProcessContextSnapshot} {outcome : ProcessTransitionOutcome}

theorem nodup_cons_of_fresh {α : Type} {key : α → PyStr} {value : α} {rest : List α}
    {seen : List PyStr} (fresh : key value ∉ seen) (restDistinct : (rest.map key).Nodup)
    (restFresh : ∀ other ∈ rest, key other ∉ key value :: seen) :
    ((value :: rest).map key).Nodup ∧ ∀ other ∈ value :: rest, key other ∉ seen := by
  constructor
  · rw [List.map_cons, List.nodup_cons]
    refine ⟨?_, restDistinct⟩
    intro repeated
    obtain ⟨other, member, same⟩ := List.mem_map.mp repeated
    exact restFresh other member (by simp [same])
  · intro other member
    rcases List.mem_cons.mp member with rfl | member
    · exact fresh
    · exact fun known => restFresh other member (List.mem_cons_of_mem _ known)

theorem transitionIds_nodup_of_validateTransitionsFrom {seen : List PyStr} {values : List Json}
    {transitions : List Transition}
    (checked : validateTransitionsFrom stateSet dependencySet seen values = .ok transitions) :
    (transitions.map Transition.transitionId).Nodup ∧
      ∀ transition ∈ transitions, transition.transitionId ∉ seen := by
  induction values generalizing seen transitions with
  | nil =>
    simp only [validateTransitionsFrom, Except.ok.injEq] at checked
    simp [← checked]
  | cons value values ih =>
    simp only [validateTransitionsFrom, bind_eq_ok, raiseIf_eq_ok, pure_eq_ok] at checked
    obtain ⟨transition, -, -, fresh, rest, restChecked, rfl⟩ := checked
    obtain ⟨restDistinct, restFresh⟩ := ih restChecked
    exact nodup_cons_of_fresh fresh restDistinct restFresh

structure ModelParts (model : Model) : Prop where
  states : ∃ value, validateStates value = .ok model.states
  initialState : ∃ value, validateInitialState model.states value = .ok model.initialState
  transitions : ∃ value, validateTransitions model.states
    (model.dependencies.map Dependency.dependencyId) value = .ok model.transitions
  scheduling : ∃ value, validateScheduling
    (model.transitions.map Transition.transitionId) value = .ok model.schedulingPolicy
  termination : ∃ value, validateTermination model.states value =
    .ok model.terminationPolicy

theorem modelParts_of_validateProcessIr {value : Json}
    (checked : validateProcessIr value = .ok model) : ModelParts model := by
  refine (?_ : Returns ModelParts (validateProcessIr value)) model checked
  unfold validateProcessIr validateRoot
  repeat refine Returns.bind fun _ _ => ?_
  refine Returns.pure ?_
  constructor
  all_goals exact ⟨_, by assumption⟩

theorem ModelParts.transitionIds_nodup (parts : ModelParts model) :
    (model.transitions.map Transition.transitionId).Nodup := by
  obtain ⟨value, found⟩ := parts.transitions
  unfold validateTransitions at found
  split at found
  · simp at found
  · exact (transitionIds_nodup_of_validateTransitionsFrom found).1
  · simp at found

theorem exists_validateTransition {seen : List PyStr} {values : List Json}
    {transitions : List Transition}
    (checked : validateTransitionsFrom stateSet dependencySet seen values = .ok transitions) :
    ∀ transition ∈ transitions,
      ∃ value, validateTransition stateSet dependencySet value = .ok transition := by
  induction values generalizing seen transitions with
  | nil =>
    simp only [validateTransitionsFrom, Except.ok.injEq] at checked
    simp [← checked]
  | cons value values ih =>
    simp only [validateTransitionsFrom, bind_eq_ok, raiseIf_eq_ok, pure_eq_ok] at checked
    obtain ⟨transition, accepted, -, -, rest, restChecked, rfl⟩ := checked
    intro other member
    rcases List.mem_cons.mp member with rfl | member
    · exact ⟨value, accepted⟩
    · exact ih restChecked other member

theorem maxAttempts_nonneg_of_validateRetryPolicy {value : Json} {policy : RetryPolicy}
    (checked : validateRetryPolicy value = .ok policy) : 0 ≤ policy.maxAttempts := by
  simp only [validateRetryPolicy, bind_eq_ok, raiseIf_eq_ok, pure_eq_ok, not_or,
    not_lt] at checked
  obtain ⟨_, -, _, -, maxAttempts, -, _, ⟨nonnegative, -⟩, _, -, _, -, rfl⟩ := checked
  exact nonnegative

theorem maxAttempts_nonneg_of_validateTransition {value : Json} {transition : Transition}
    (checked : validateTransition stateSet dependencySet value = .ok transition) :
    0 ≤ transition.retryPolicy.maxAttempts := by
  refine (?_ : Returns (fun accepted : Transition => 0 ≤ accepted.retryPolicy.maxAttempts)
    (validateTransition stateSet dependencySet value)) transition checked
  unfold validateTransition
  repeat refine Returns.bind fun _ _ => ?_
  exact Returns.pure (maxAttempts_nonneg_of_validateRetryPolicy
    (by assumption : validateRetryPolicy _ = .ok _))

theorem ModelParts.maxAttempts_nonneg (parts : ModelParts model) {transition : Transition}
    (member : transition ∈ model.transitions) :
    0 ≤ transition.retryPolicy.maxAttempts := by
  obtain ⟨value, found⟩ := parts.transitions
  unfold validateTransitions at found
  split at found
  · simp at found
  · obtain ⟨source, accepted⟩ := exists_validateTransition found transition member
    exact maxAttempts_nonneg_of_validateTransition accepted
  · simp at found

theorem counts_of_checkCounts {transitionIds seen : List PyStr}
    {counts : List (PyStr × Int)}
    (checked : ProcessContextSnapshot.checkCounts transitionIds seen counts = .ok ()) :
    (counts.map Prod.fst).Nodup ∧ (∀ entry ∈ counts, 0 ≤ entry.2) ∧
      ∀ entry ∈ counts, entry.1 ∉ seen := by
  induction counts generalizing seen with
  | nil => simp
  | cons entry counts ih =>
    simp only [ProcessContextSnapshot.checkCounts, bind_eq_ok, raiseIf_eq_ok,
      not_or, not_not, not_lt] at checked
    obtain ⟨-, ⟨-, fresh⟩, -, nonnegative, rest⟩ := checked
    obtain ⟨restDistinct, restNonnegative, restFresh⟩ := ih rest
    obtain ⟨distinct, allFresh⟩ := nodup_cons_of_fresh fresh restDistinct restFresh
    exact ⟨distinct, by simpa using ⟨nonnegative, by simpa using restNonnegative⟩, allFresh⟩

structure AttemptsValid (context : ProcessContextSnapshot) : Prop where
  distinct : (context.attemptCounts.map Prod.fst).Nodup
  nonnegative : ∀ entry ∈ context.attemptCounts, 0 ≤ entry.2
  agree : ProcessContextSnapshot.countsMatch context.attemptCounts
    context.attemptRecords = true

theorem attemptsValid_of_validateFor {result : ProcessContextSnapshot}
    (validated : context.validateFor ir = .ok result) :
    result = context ∧ AttemptsValid context := by
  simp only [ProcessContextSnapshot.validateFor, bind_eq_ok, raiseIf_eq_ok, pure_eq_ok]
    at validated
  obtain ⟨_, -, _, -, model, -, _, -, _, -, _, -, _, -, _, -, _, counts, _, -, _, agree, _,
    -, same⟩ := validated
  obtain ⟨distinct, nonnegative, -⟩ := counts_of_checkCounts counts
  exact ⟨same.symm, distinct, nonnegative, by simpa using agree⟩

theorem attemptCount_nonneg (valid : AttemptsValid context) (transitionId : PyStr) :
    0 ≤ attemptCount context transitionId := by
  rw [attemptCount]
  cases found : context.attemptCounts.lookup transitionId with
  | none => simp
  | some count => exact valid.nonnegative _ (mem_of_lookup found)

/-! ### What the selector establishes -/

open TransitionSelector

/-- The conditions that a selected transition met, as far as runs need them. -/
structure Selectable (model : Model) (context : ProcessContextSnapshot)
    (transition : Transition) : Prop where
  found : (model.transitions.find? fun other =>
    other.transitionId = transition.transitionId) = some transition
  active : context.processControl = .active
  notTerminal : context.processState ∉ model.terminationPolicy.terminalStates
  legal : screen context transition = .ok .legal

theorem answer_eq_ok {decision : Decision} {reason transitionId : PyStr}
    {decided : TransitionDecision}
    (answered : answer decision reason transitionId = .ok decided) :
    decided = ⟨decision, transitionId, reason⟩ := by
  simp only [answer, TransitionDecision.validate, bind_eq_ok, pure_eq_ok] at answered
  obtain ⟨-, -, -, -, same⟩ := answered
  exact same.symm

theorem unselected_ne_selected {found : List Screening} {decided : TransitionDecision}
    (answered : unselected model found = .ok decided) :
    decided.decision ≠ .selected := by
  unfold unselected at answered
  split at answered
  · simp [answer_eq_ok answered]
  split at answered
  · simp [answer_eq_ok answered]
  split at answered
  · simp [answer_eq_ok answered]
  split at answered
  · simp [answer_eq_ok answered]
  · simp [answer_eq_ok answered]

theorem exists_legal_of_selectFrom {found : List Screening} {transitions : List Transition}
    {decided : TransitionDecision} (loop : selectFrom model context found transitions = .ok decided)
    (selected : decided.decision = .selected) :
    ∃ transition ∈ transitions, screen context transition = .ok .legal ∧
      decided.transitionId = transition.transitionId := by
  induction transitions generalizing found with
  | nil => exact absurd selected (unselected_ne_selected loop)
  | cons transition transitions ih =>
    rw [selectFrom, bind_eq_ok] at loop
    obtain ⟨finding, screened, rest⟩ := loop
    by_cases legal : finding = .legal
    · subst legal
      exact ⟨transition, by simp, screened, by rw [answer_eq_ok rest]⟩
    · have later : selectFrom model context (finding :: found) transitions =
          .ok decided := by
        cases finding <;> first | exact rest | exact absurd rfl legal
      obtain ⟨other, member, otherLegal, same⟩ := ih later
      exact ⟨other, List.mem_cons_of_mem _ member, otherLegal, same⟩

theorem find?_of_mem_ordered {transition : Transition} (member : transition ∈ ordered model) :
    (model.transitions.find? fun other =>
      other.transitionId = transition.transitionId) = some transition := by
  obtain ⟨transitionId, -, found⟩ := List.mem_filterMap.mp member
  have same := List.find?_some found
  rw [decide_eq_true_eq] at same
  rw [same]
  exact found

theorem selectable_of_select {decided : TransitionDecision} (modelEq : ir.asModel = .ok model)
    (chosen : select ir context = .ok decided) (selected : decided.decision = .selected) :
    ∃ transition, Selectable model context transition ∧
      decided.transitionId = transition.transitionId := by
  simp only [select, bind_eq_ok, rethrow_eq_ok] at chosen
  obtain ⟨-, -, read, readEq, -, -, body⟩ := chosen
  obtain rfl : model = read := Except.ok.inj (modelEq.symm.trans readEq)
  cases control : context.processControl with
  | active =>
    rw [control] at body
    dsimp only at body
    split at body
    · simp [answer_eq_ok body] at selected
    · rename_i notTerminal
      obtain ⟨transition, member, legal, same⟩ :=
        exists_legal_of_selectFrom body selected
      exact ⟨transition, ⟨find?_of_mem_ordered member, control, notTerminal, legal⟩, same⟩
  | deferred | handoffRequired | terminated | complete =>
    rw [control] at body
    simp [answer_eq_ok body] at selected

theorem screen_eq_legal {transition : Transition} (legal : screen context transition = .ok .legal) :
    transition.transitionId ∉ context.completedTransitions ∧
      attemptCount context transition.transitionId ≤ transition.retryPolicy.maxAttempts ∧
      retryReconciled transition context = true := by
  unfold screen at legal
  split at legal
  · simp at legal
  rename_i unfinished
  split at legal
  · simp at legal
  split at legal
  · simp at legal
  split at legal
  · simp at legal
  rw [bind_eq_ok] at legal
  obtain ⟨current, -, legal⟩ := legal
  split at legal
  · simp at legal
  split at legal
  · simp at legal
  split at legal
  · simp at legal
  rename_i withinBudget
  split at legal
  · simp at legal
  rename_i reconciled
  exact ⟨fun done => unfinished (.inl done), not_lt.mp withinBudget, by simpa using reconciled⟩

/-! ### What a step establishes -/

structure AppendedRecord (context : ProcessContextSnapshot) (transition : Transition)
    (outcome : ProcessTransitionOutcome) (record : AttemptRecord) : Prop where
  transitionId : record.transitionId = transition.transitionId
  attemptNumber : record.attemptNumber = attemptCount context transition.transitionId + 1
  label : record.outcome = outcome.outcome
  reconciliationRef : record.reconciliationRef = outcome.reconciliationRef

theorem appendedRecord_of_sealRecord {transition : Transition} {unsealed record : AttemptRecord}
    (wasSealed : unsealed.sealRecord = .ok record)
    (fresh : AppendedRecord context transition outcome unsealed) :
    AppendedRecord context transition outcome record := by
  simp only [AttemptRecord.sealRecord, bind_eq_ok, pure_eq_ok] at wasSealed
  obtain ⟨digest, -, -, -, rfl⟩ := wasSealed
  exact ⟨fresh.1, fresh.2, fresh.3, fresh.4⟩

theorem find?_of_decidedTransition {record : TransitionDecisionRecord} {transition : Transition}
    (decided : decidedTransition model record = .ok transition) :
    (model.transitions.find? fun other => other.transitionId = record.transitionId) =
      some transition := by
  unfold decidedTransition at decided
  split at decided
  · rename_i found
    simp only [bind_eq_ok, pure_eq_ok] at decided
    obtain ⟨-, -, rfl⟩ := decided
    exact found
  · simp at decided

theorem selectable_of_checkDecision {record : TransitionDecisionRecord}
    (modelEq : ir.asModel = .ok model) (checked : checkDecision ir model context record = .ok ()) :
    ∃ transition, Selectable model context transition ∧
      record.transitionId = transition.transitionId := by
  simp only [checkDecision, bind_eq_ok, raiseIf_eq_ok, not_or, ne_eq, not_not] at checked
  obtain ⟨_, -, _, -, _, -, _, -, decided, chosen, _, ⟨selected, sameId⟩, -⟩ := checked
  obtain ⟨transition, selectable, chosenId⟩ := selectable_of_select modelEq chosen selected
  exact ⟨transition, selectable, sameId.symm.trans chosenId⟩

theorem transitionId_of_checkOutcome {record : TransitionDecisionRecord} {transition : Transition}
    (checked : checkOutcome ir model context record transition outcome = .ok ()) :
    outcome.transitionId = transition.transitionId := by
  simp only [checkOutcome, bind_eq_ok, raiseIf_eq_ok, ne_eq, not_not] at checked
  obtain ⟨_, -, _, -, _, -, _, sameId, -⟩ := checked
  exact sameId

/-- A successful step closes one selectable transition: it appends the next
attempt record and completes the transition exactly when the outcome passes. -/
theorem exists_step_of_applyTransitionOutcome {Evidence : Type}
    {validateEvidence : EvidenceValidator Evidence} {next : ProcessContextSnapshot}
    {decisionRecord : TransitionDecisionRecord} {evidence : Option Evidence}
    (modelEq : ir.asModel = .ok model)
    (applied : applyTransitionOutcome validateEvidence ir context decisionRecord outcome
      evidence = .ok next) :
    ∃ transition control record, Selectable model context transition ∧
      outcome.transitionId = transition.transitionId ∧
      AppendedRecord context transition outcome record ∧
      next = outcomeContext context transition outcome control record ∧
      context.validateFor ir = .ok context ∧ next.validateFor ir = .ok next := by
  simp only [applyTransitionOutcome, bind_eq_ok, rethrow_eq_ok] at applied
  obtain ⟨_, -, checkedContext, contextValid, _, -, read, readEq, _, decisionChecked,
    transition, decided, _, outcomeChecked, _, -, _, -, control, -, record, wasSealed,
    nextValid⟩ := applied
  obtain rfl : model = read := Except.ok.inj (modelEq.symm.trans readEq)
  obtain ⟨selected, selectable, selectedId⟩ :=
    selectable_of_checkDecision modelEq decisionChecked
  obtain rfl : selected = transition := by
    have found := find?_of_decidedTransition decided
    rw [selectedId] at found
    exact Option.some.inj (selectable.found.symm.trans found)
  obtain ⟨rfl, -⟩ := attemptsValid_of_validateFor contextValid
  obtain ⟨rfl, -⟩ := attemptsValid_of_validateFor nextValid
  exact ⟨selected, control, record, selectable, transitionId_of_checkOutcome outcomeChecked,
    appendedRecord_of_sealRecord wasSealed ⟨rfl, rfl, rfl, rfl⟩, rfl, contextValid, nextValid⟩

end CyberLion
