import CyberLion.OrderedSelection
import CyberLion.ProcessContextFacts

/-!
# What the selector selects

The legality of a transition and the order of the schedule as propositions of
their own, and the selector's loop against them: on a valid context it selects
the first legal transition of the schedule.
-/

namespace CyberLion

open PyLib ProcessIR TransitionSelector OrderedSelection

/-! ### Legality -/

/-- A requirement is met by a current and complete basis about itself. -/
def CurrentnessMet (context : ProcessContextSnapshot) (transition : Transition)
    (requirement : PyStr) : Prop :=
  ∃ basis ∈ context.currentnessBases, basis.requirementId = requirement ∧
    basis.state = .current ∧ basis.subject = requirement ∧
    requirement ∈ transition.resourceClaims.currentnessSubjects ∧
    basis.evidenceRef ≠ [] ∧ basis.observedIdentity ≠ [] ∧ basis.observedAt ≠ [] ∧
    basis.basisDigest ≠ []

def RetryAllowed (context : ProcessContextSnapshot) (transition : Transition) : Prop :=
  let count := attemptCount context transition.transitionId
  count ≤ transition.retryPolicy.maxAttempts ∧
    (count = 0 ∨ transition.idempotencyClass ≠ .nonIdempotent ∨
      (transition.replayPolicy = .reconcileFirst ∧
        ∃ record ∈ context.attemptRecords, record.transitionId = transition.transitionId ∧
          record.attemptNumber = count ∧ record.reconciliationRef ≠ []))

structure Legal (context : ProcessContextSnapshot) (transition : Transition) : Prop where
  unfinished : transition.transitionId ∉ context.completedTransitions
  enabled : context.processState ∈ transition.sourceStates
  dependencies : transition.dependencies ⊆ context.satisfiedDependencies
  guards : transition.guards ⊆ context.satisfiedGuards
  evidence : transition.evidenceRequirements ⊆ context.satisfiedEvidenceRequirements
  current : ∀ requirement ∈ transition.currentnessRequirements,
    CurrentnessMet context transition requirement
  authority : transition.authorityRequirements ⊆ context.verifiedAuthorityContextRefs
  retry : RetryAllowed context transition

instance (context : ProcessContextSnapshot) (transition : Transition) (requirement : PyStr) :
    Decidable (CurrentnessMet context transition requirement) :=
  inferInstanceAs (Decidable (∃ basis ∈ context.currentnessBases, _))

instance (context : ProcessContextSnapshot) (transition : Transition) :
    Decidable (RetryAllowed context transition) :=
  inferInstanceAs (Decidable (_ ∧ _))

theorem legal_iff (context : ProcessContextSnapshot) (transition : Transition) :
    Legal context transition ↔
      transition.transitionId ∉ context.completedTransitions ∧
        context.processState ∈ transition.sourceStates ∧
        transition.dependencies ⊆ context.satisfiedDependencies ∧
        transition.guards ⊆ context.satisfiedGuards ∧
        transition.evidenceRequirements ⊆ context.satisfiedEvidenceRequirements ∧
        (∀ requirement ∈ transition.currentnessRequirements,
          CurrentnessMet context transition requirement) ∧
        transition.authorityRequirements ⊆ context.verifiedAuthorityContextRefs ∧
        RetryAllowed context transition :=
  ⟨fun legal => ⟨legal.1, legal.2, legal.3, legal.4, legal.5, legal.6, legal.7, legal.8⟩,
    fun ⟨first, second, third, fourth, fifth, sixth, seventh, eighth⟩ =>
      ⟨first, second, third, fourth, fifth, sixth, seventh, eighth⟩⟩

instance (context : ProcessContextSnapshot) (transition : Transition) :
    Decidable (Legal context transition) :=
  decidable_of_iff' _ (legal_iff context transition)

/-! ### The checks of the code -/

section Checks

variable {process : ValidProcess} {context : ProcessContextSnapshot}

theorem currentBasis_eq_some_iff (facts : ContextFacts process context) {requirement : PyStr}
    {basis : CurrentnessBasis} :
    currentBasis context requirement = some basis ↔
      basis ∈ context.currentnessBases ∧ basis.requirementId = requirement := by
  constructor
  · intro found
    exact ⟨List.mem_of_find?_eq_some found, by simpa using List.find?_some found⟩
  · rintro ⟨member, rfl⟩
    exact find?_of_nodup_map facts.basesDistinct member

theorem currentnessSatisfiedFrom_eq (facts : ContextFacts process context)
    (transition : Transition) (requirements : List PyStr) :
    currentnessSatisfiedFrom transition.resourceClaims.currentnessSubjects context requirements =
      .ok (decide (∀ requirement ∈ requirements,
        CurrentnessMet context transition requirement)) := by
  induction requirements with
  | nil => simp [currentnessSatisfiedFrom]
  | cons requirement requirements ih =>
    rw [currentnessSatisfiedFrom]
    cases found : currentBasis context requirement with
    | none =>
      have unmet : ¬ CurrentnessMet context transition requirement := by
        rintro ⟨basis, member, same, -⟩
        rw [(currentBasis_eq_some_iff facts).mpr ⟨member, same⟩] at found
        simp at found
      simp [unmet]
    | some basis =>
      obtain ⟨member, same⟩ := (currentBasis_eq_some_iff facts).mp found
      have metIff : CurrentnessMet context transition requirement ↔
          ¬ (basis.state ≠ .current ∨ basis.subject ≠ requirement ∨
            basis.subject ∉ transition.resourceClaims.currentnessSubjects ∨
            basis.evidenceRef = [] ∨ basis.observedIdentity = [] ∨ basis.observedAt = [] ∨
            basis.basisDigest = []) := by
        constructor
        · rintro ⟨other, otherMember, otherSame, conditions⟩
          obtain rfl : basis = other := Option.some.inj
            (found.symm.trans ((currentBasis_eq_some_iff facts).mpr ⟨otherMember, otherSame⟩))
          obtain ⟨isCurrent, isSubject, allowed, rest⟩ := conditions
          simp [isCurrent, isSubject, allowed, rest]
        · intro complete
          simp only [not_or, ne_eq, not_not] at complete
          obtain ⟨isCurrent, isSubject, allowed, rest⟩ := complete
          exact ⟨basis, member, same, isCurrent, isSubject, isSubject ▸ allowed, rest⟩
      dsimp only
      rw [(facts.bases basis member).1, ok_bind]
      by_cases met : CurrentnessMet context transition requirement
      · rw [if_neg (metIff.mp met), ih]
        simp [met]
      · rw [if_pos (not_not.mp fun complete => met (metIff.mpr complete))]
        simp only [List.forall_mem_cons, met, false_and, decide_false]
        rfl

theorem currentnessSatisfied_eq (facts : ContextFacts process context)
    (transition : Transition) :
    currentnessSatisfied transition context =
      .ok (decide (∀ requirement ∈ transition.currentnessRequirements,
        CurrentnessMet context transition requirement)) :=
  currentnessSatisfiedFrom_eq facts transition _

theorem retryReconciled_eq (facts : ContextFacts process context) (transition : Transition) :
    retryReconciled transition context = decide
      (attemptCount context transition.transitionId = 0 ∨
        transition.idempotencyClass ≠ .nonIdempotent ∨
        (transition.replayPolicy = .reconcileFirst ∧
          ∃ record ∈ context.attemptRecords, record.transitionId = transition.transitionId ∧
            record.attemptNumber = attemptCount context transition.transitionId ∧
            record.reconciliationRef ≠ [])) := by
  unfold retryReconciled
  dsimp only
  split
  · rename_i none
    simp [none]
  rename_i attempted
  split
  · rename_i repeatable
    simp [repeatable]
  rename_i notRepeatable
  split
  · rename_i notReconciled
    simp [attempted, not_not.mp notRepeatable, notReconciled]
  rename_i reconciles
  rw [not_not] at notRepeatable reconciles
  simp only [attempted, notRepeatable, reconciles, ne_eq, not_true_eq_false, false_or, true_and]
  cases prior : context.attemptRecords.filter fun record =>
      record.transitionId = transition.transitionId ∧
        record.attemptNumber = attemptCount context transition.transitionId with
  | nil =>
    have none : ∀ record ∈ context.attemptRecords,
        record.transitionId = transition.transitionId →
        record.attemptNumber ≠ attemptCount context transition.transitionId := by
      simpa using List.filter_eq_nil_iff.mp prior
    refine (decide_eq_false ?_).symm
    rintro ⟨record, member, isTransition, isLast, -⟩
    exact none record member isTransition isLast
  | cons record others =>
    have isPrior : ∀ other ∈ record :: others, other ∈ context.attemptRecords ∧
        other.transitionId = transition.transitionId ∧
        other.attemptNumber = attemptCount context transition.transitionId := by
      intro other member
      rw [← prior] at member
      obtain ⟨stored, matching⟩ := List.mem_filter.mp member
      exact ⟨stored, of_decide_eq_true matching⟩
    obtain ⟨stored, isTransition, isLast⟩ := isPrior record List.mem_cons_self
    -- a second record of this attempt would repeat its key
    have alone : others = [] := by
      have keys := (List.filter_sublist (p := fun record : AttemptRecord =>
        decide (record.transitionId = transition.transitionId ∧
          record.attemptNumber = attemptCount context transition.transitionId))
        (l := context.attemptRecords)).map attemptKey |>.nodup facts.recordsDistinct
      rw [prior, List.map_cons, List.nodup_cons] at keys
      refine List.eq_nil_iff_forall_not_mem.mpr fun other member => keys.1 ?_
      obtain ⟨-, otherTransition, otherLast⟩ := isPrior other (List.mem_cons_of_mem _ member)
      refine List.mem_map.mpr ⟨other, member, ?_⟩
      rw [attemptKey, attemptKey, otherTransition, otherLast, isTransition, isLast]
    subst alone
    dsimp only
    refine decide_eq_decide.mpr ⟨fun reconciled => ⟨record, stored, isTransition, isLast,
      reconciled⟩, ?_⟩
    rintro ⟨other, member, otherTransition, otherLast, reconciled⟩
    obtain rfl : record = other := by
      have inPrior : other ∈ [record] :=
        prior ▸ List.mem_filter.mpr ⟨member, by simp [otherTransition, otherLast]⟩
      exact (List.mem_singleton.mp inPrior).symm
    exact reconciled

/-! ### The loop body -/

theorem exists_screen_eq (facts : ContextFacts process context) (transition : Transition) :
    ∃ finding, screen context transition = .ok finding ∧
      (finding = .legal ↔ Legal context transition) := by
  rw [legal_iff]
  unfold screen
  split
  · rename_i skipped
    refine ⟨_, rfl, by simp, ?_⟩
    rintro ⟨unfinished, enabled, -⟩
    exact absurd skipped (not_or.mpr ⟨unfinished, not_not.mpr enabled⟩)
  rename_i kept
  rw [not_or, not_not] at kept
  split
  · rename_i missing
    exact ⟨_, rfl, by simp, fun legal => absurd legal.2.2.1 missing⟩
  rename_i dependencies
  split
  · rename_i missing
    exact ⟨_, rfl, by simp, fun legal => absurd legal.2.2.2.1 missing⟩
  rename_i guards
  split
  · rename_i missing
    exact ⟨_, rfl, by simp, fun legal => absurd legal.2.2.2.2.1 missing⟩
  rename_i evidence
  rw [not_not] at dependencies guards evidence
  rw [currentnessSatisfied_eq facts, ok_bind]
  by_cases current : ∀ requirement ∈ transition.currentnessRequirements,
      CurrentnessMet context transition requirement
  · rw [decide_eq_true current, if_neg (by decide)]
    split
    · rename_i missing
      exact ⟨_, rfl, by simp, fun legal => absurd legal.2.2.2.2.2.2.1 missing⟩
    rename_i authority
    rw [not_not] at authority
    split
    · rename_i exhausted
      exact ⟨_, rfl, by simp, fun legal => absurd legal.2.2.2.2.2.2.2.1 (not_le.mpr exhausted)⟩
    rename_i withinBudget
    rw [retryReconciled_eq facts]
    split
    · rename_i unreconciled
      exact ⟨_, rfl, by simp, fun legal =>
        absurd legal.2.2.2.2.2.2.2.2 (of_decide_eq_false unreconciled)⟩
    rename_i reconciled
    refine ⟨_, rfl, fun _ => ⟨kept.1, kept.2, dependencies, guards, evidence, current, authority,
      not_lt.mp withinBudget, ?_⟩, fun _ => rfl⟩
    exact of_decide_eq_true (eq_true_of_ne_false reconciled)
  · rw [decide_eq_false current, if_pos (by decide)]
    exact ⟨_, rfl, by simp, fun legal => absurd legal.2.2.2.2.2.1 current⟩

end Checks

/-! ### The schedule -/

def priorityOf (policy : Scheduling) (transitionId : PyStr) : Int :=
  (policy.priorities.lookup transitionId).getD 0

/-- One transition comes before another: by its place in the declared order,
or by its priority and then its place. -/
def Precedes (policy : Scheduling) (first second : PyStr) : Prop :=
  match policy.strategy with
  | .declaredOrder => policy.order.idxOf first < policy.order.idxOf second
  | .explicitPriority =>
    priorityOf policy first < priorityOf policy second ∨
      (priorityOf policy first = priorityOf policy second ∧
        policy.order.idxOf first < policy.order.idxOf second)

theorem Precedes.asymm {policy : Scheduling} {first second : PyStr}
    (before : Precedes policy first second) : ¬ Precedes policy second first := by
  unfold Precedes at before ⊢
  split at before <;> omega

theorem pairwise_idxOf_lt {ids : List PyStr} (distinct : ids.Nodup) :
    ids.Pairwise fun first second => ids.idxOf first < ids.idxOf second := by
  rw [List.pairwise_iff_getElem]
  intro first second firstSmall secondSmall smaller
  rwa [distinct.idxOf_getElem _ firstSmall, distinct.idxOf_getElem _ secondSmall]

theorem priorityLe_iff (policy : Scheduling) (first second : PyStr) :
    priorityLe policy first second = true ↔
      priorityOf policy first < priorityOf policy second ∨
        (priorityOf policy first = priorityOf policy second ∧
          policy.order.idxOf first ≤ policy.order.idxOf second) := by
  simp [priorityLe, priorityOf]

theorem pairwise_mergeSort_priorityLe {policy : Scheduling} (distinct : policy.order.Nodup)
    (explicit : policy.strategy = .explicitPriority) :
    (policy.order.mergeSort (priorityLe policy)).Pairwise (Precedes policy) := by
  have sorted := @List.pairwise_mergeSort _ (priorityLe policy)
    (fun first second third firstLe secondLe => by
      rw [priorityLe_iff] at firstLe secondLe ⊢
      omega)
    (fun first second => by
      rw [Bool.or_eq_true, priorityLe_iff, priorityLe_iff]
      omega)
    policy.order
  have sortedDistinct := (List.mergeSort_perm policy.order (priorityLe policy)).nodup_iff.mpr
    distinct
  refine (sorted.and sortedDistinct).imp_of_mem ?_
  rintro first second firstMember secondMember ⟨before, different⟩
  rw [List.mem_mergeSort] at firstMember secondMember
  rw [priorityLe_iff] at before
  have apart : policy.order.idxOf first ≠ policy.order.idxOf second := fun same =>
    different ((List.idxOf_inj firstMember).mp same)
  rw [Precedes, explicit]
  dsimp only
  omega

theorem nodup_of_uniqueStrings {value : Json} {name : PyStr} {allowEmpty : Bool}
    {strings : List PyStr} (checked : uniqueStrings value name allowEmpty = .ok strings) :
    strings.Nodup := by
  simp only [uniqueStrings, bind_eq_ok, raiseIf_eq_ok, pure_eq_ok, not_not] at checked
  obtain ⟨_, -, result, -, -, -, -, distinct, rfl⟩ := checked
  exact distinct

theorem order_nodup_of_validateScheduling {transitionIds : List PyStr} {value : Json}
    {policy : Scheduling} (checked : validateScheduling transitionIds value = .ok policy) :
    policy.order.Nodup := by
  refine (?_ : Returns (fun policy : Scheduling => policy.order.Nodup)
    (validateScheduling transitionIds value)) policy checked
  unfold validateScheduling
  refine Returns.bind fun _ _ => Returns.bind fun _ _ => Returns.bind fun _ _ => ?_
  refine Returns.bind fun _ _ => Returns.bind fun order unique => ?_
  repeat refine Returns.bind fun _ _ => ?_
  exact Returns.pure (nodup_of_uniqueStrings unique)

namespace ValidProcess

variable (process : ValidProcess)

theorem parts : ModelParts process.model :=
  modelParts_of_validateProcessIr process.valid.checked

theorem order_nodup : process.model.schedulingPolicy.order.Nodup := by
  obtain ⟨_, scheduled⟩ := process.parts.scheduling
  exact order_nodup_of_validateScheduling scheduled

theorem pairwise_ordered : (ordered process.model).Pairwise fun first second =>
    Precedes process.model.schedulingPolicy first.transitionId second.transitionId := by
  refine List.Pairwise.filterMap _
    (fun firstId secondId (before : Precedes process.model.schedulingPolicy firstId secondId)
      first firstFound second secondFound => ?_) ?_
  · have firstSame : first.transitionId = firstId := by simpa using List.find?_some firstFound
    have secondSame : second.transitionId = secondId := by
      simpa using List.find?_some secondFound
    rwa [firstSame, secondSame]
  · cases strategy : process.model.schedulingPolicy.strategy with
    | explicitPriority => exact pairwise_mergeSort_priorityLe process.order_nodup strategy
    | declaredOrder =>
      refine (pairwise_idxOf_lt process.order_nodup).imp fun before => ?_
      rw [Precedes, strategy]
      exact before

end ValidProcess

/-! ### The selection -/

theorem identifier_ne_nil {value : Json} {name content : PyStr}
    (checked : identifier value name = .ok content) : content ≠ [] := by
  simp only [identifier, bind_eq_ok, raiseIf_eq_ok, pure_eq_ok] at checked
  obtain ⟨read, -, -, valid, rfl⟩ := checked
  rintro rfl
  exact valid rfl

theorem transitionId_ne_nil_of_validateTransition {stateSet dependencySet : List PyStr}
    {value : Json} {transition : Transition}
    (checked : validateTransition stateSet dependencySet value = .ok transition) :
    transition.transitionId ≠ [] := by
  refine (?_ : Returns (fun accepted : Transition => accepted.transitionId ≠ [])
    (validateTransition stateSet dependencySet value)) transition checked
  unfold validateTransition
  refine Returns.bind fun _ _ => Returns.bind fun _ _ => Returns.bind fun _ named => ?_
  repeat refine Returns.bind fun _ _ => ?_
  exact Returns.pure (identifier_ne_nil named)

theorem ValidProcess.exists_validateTransition (process : ValidProcess) {transition : Transition}
    (member : transition ∈ process.model.transitions) :
    ∃ value, validateTransition process.model.states
      (process.model.dependencies.map Dependency.dependencyId) value = .ok transition := by
  obtain ⟨value, found⟩ := process.parts.transitions
  unfold validateTransitions at found
  split at found
  · simp at found
  · exact CyberLion.exists_validateTransition found transition member
  · simp at found

theorem ValidProcess.transitionId_ne_nil (process : ValidProcess) {transition : Transition}
    (member : transition ∈ process.model.transitions) : transition.transitionId ≠ [] := by
  obtain ⟨value, accepted⟩ := process.exists_validateTransition member
  exact transitionId_ne_nil_of_validateTransition accepted

section Selection

variable {process : ValidProcess} {context : ProcessContextSnapshot}

theorem selectFrom_eq_selected (facts : ContextFacts process context) {model : Model}
    {found : List Screening} {transitions : List Transition} {transition : Transition}
    (named : transition.transitionId ≠ [])
    (first : transitions.find? (fun other => Legal context other) = some transition) :
    selectFrom model context found transitions =
      .ok ⟨.selected, transition.transitionId, py "first legal unfinished transition"⟩ := by
  induction transitions generalizing found with
  | nil => simp at first
  | cons other transitions ih =>
    obtain ⟨finding, screened, legalIff⟩ := exists_screen_eq facts other
    rw [selectFrom, screened, ok_bind]
    by_cases legal : Legal context other
    · obtain rfl : other = transition := by simpa [legal] using first
      rw [legalIff.mpr legal]
      simp [answer, TransitionDecision.validate, raiseIf, named]
    · rw [List.find?_cons_of_neg (by simpa using legal)] at first
      cases finding with
      | legal => exact absurd (legalIff.mp rfl) legal
      | _ => exact ih first

theorem decision_ne_selected_of_selectFrom (facts : ContextFacts process context)
    {model : Model} {found : List Screening} {transitions : List Transition}
    {decided : TransitionDecision}
    (none : transitions.find? (fun other => Legal context other) = none)
    (loop : selectFrom model context found transitions = .ok decided) :
    decided.decision ≠ .selected := by
  intro selected
  obtain ⟨transition, member, screened, -⟩ := exists_legal_of_selectFrom loop selected
  obtain ⟨finding, screenedAgain, legalIff⟩ := exists_screen_eq facts transition
  obtain rfl : .legal = finding := Except.ok.inj (screened.symm.trans screenedAgain)
  exact absurd (legalIff.mp rfl) (by simpa using List.find?_eq_none.mp none transition member)

def firstLegal (process : ValidProcess) (context : ProcessContextSnapshot) : Option Transition :=
  (ordered process.model).find? fun transition => Legal context transition

def IsFirstLegal (process : ValidProcess) (context : ProcessContextSnapshot)
    (transition : Transition) : Prop :=
  transition ∈ process.model.transitions ∧ Legal context transition ∧
    ∀ other ∈ process.model.transitions, Legal context other →
      other = transition ∨ Precedes process.model.schedulingPolicy transition.transitionId
        other.transitionId

theorem firstLegal_eq_some_iff {transition : Transition} :
    firstLegal process context = some transition ↔
      IsFirstLegal process context transition := by
  rw [firstLegal, find?_eq_some_iff_isFirst process.pairwise_ordered
    fun _ _ before => before.asymm]
  constructor
  · rintro ⟨member, legal, least⟩
    refine ⟨(mem_ordered_iff process.parts).mp member, by simpa using legal, ?_⟩
    intro other otherMember otherLegal
    exact least other ((mem_ordered_iff process.parts).mpr otherMember) (by simpa using otherLegal)
  · rintro ⟨member, legal, least⟩
    refine ⟨(mem_ordered_iff process.parts).mpr member, by simpa using legal, ?_⟩
    intro other otherMember otherLegal
    exact least other ((mem_ordered_iff process.parts).mp otherMember) (by simpa using otherLegal)

def Selects (process : ValidProcess) (context : ProcessContextSnapshot)
    (transitionId : PyStr) : Prop :=
  ∃ decided, select process.ir context = .ok decided ∧ decided.decision = .selected ∧
    decided.transitionId = transitionId

/-- `select` answers SELECTED exactly for the first legal transition of a
process that is active and in no terminal state. -/
theorem selects_iff (valid : context.validateFor process.ir = .ok context)
    {transitionId : PyStr} :
    Selects process context transitionId ↔
      context.processControl = .active ∧
        context.processState ∉ process.model.terminationPolicy.terminalStates ∧
        ∃ transition, IsFirstLegal process context transition ∧
          transition.transitionId = transitionId := by
  have facts := facts_of_validateFor valid
  rw [Selects, select_eq valid]
  cases control : context.processControl with
  | active =>
    simp only [true_and]
    by_cases terminal : context.processState ∈ process.model.terminationPolicy.terminalStates
    · simp [terminal, answer, TransitionDecision.validate, raiseIf]
    simp only [terminal, if_false, not_false_eq_true, true_and]
    constructor
    · rintro ⟨decided, loop, selected, rfl⟩
      cases first : firstLegal process context with
      | none => exact absurd selected (decision_ne_selected_of_selectFrom facts first loop)
      | some transition =>
        have isFirst := firstLegal_eq_some_iff.mp first
        rw [selectFrom_eq_selected facts (process.transitionId_ne_nil isFirst.1) first] at loop
        obtain rfl := Except.ok.inj loop
        exact ⟨transition, isFirst, rfl⟩
    · rintro ⟨transition, isFirst, rfl⟩
      exact ⟨_, selectFrom_eq_selected facts (process.transitionId_ne_nil isFirst.1)
        (firstLegal_eq_some_iff.mpr isFirst), rfl, rfl⟩
  | complete | deferred | handoffRequired | terminated =>
    simp [answer, TransitionDecision.validate, raiseIf]

end Selection

end CyberLion
