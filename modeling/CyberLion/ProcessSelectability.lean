import CyberLion.ProcessOutcomeTargets

/-!
# Which transitions can be selected

A transition asks for currentness by requirement names.  The process validator
takes any bounded text as a name; the basis that meets the requirement has the
name as its identifier.
-/

namespace CyberLion

open PyLib ProcessIR TransitionSelector

/-! ### What the validator says about a transition -/

/-- The conditions of `_transition` on the names it compares. -/
structure TransitionNames (model : Model) (transition : Transition) : Prop where
  sources : transition.sourceStates ⊆ model.states
  dependencies : transition.dependencies ⊆ model.dependencies.map Dependency.dependencyId
  requirements : transition.currentnessRequirements.Nodup
  subjects : transition.currentnessRequirements ⊆
    transition.resourceClaims.currentnessSubjects

theorem ValidProcess.transitionNames (process : ValidProcess) {transition : Transition}
    (member : transition ∈ process.model.transitions) :
    TransitionNames process.model transition := by
  obtain ⟨value, accepted⟩ := process.exists_validateTransition member
  refine (?_ : Returns (fun accepted : Transition => TransitionNames process.model accepted)
    (validateTransition process.model.states
      (process.model.dependencies.map Dependency.dependencyId) value)) transition accepted
  unfold validateTransition
  iterate 7 refine Returns.bind fun _ _ => ?_
  refine Returns.bind fun _ declared => ?_
  iterate 4 refine Returns.bind fun _ _ => ?_
  refine Returns.bind fun _ known => ?_
  iterate 4 refine Returns.bind fun _ _ => ?_
  refine Returns.bind fun _ _ => Returns.bind fun _ distinct => ?_
  iterate 16 refine Returns.bind fun _ _ => ?_
  refine Returns.bind fun _ bound => ?_
  repeat refine Returns.bind fun _ _ => ?_
  rw [raiseIf_eq_ok, not_not] at declared known bound
  exact Returns.pure ⟨declared, known, nodup_of_uniqueStrings distinct, bound⟩

/-! ### A basis for a requirement -/

def basisFor (requirement digest : PyStr) : CurrentnessBasis where
  requirementId := requirement
  subject := requirement
  observedIdentity := py "identity"
  evidenceRef := py "evidence"
  observedAt := py "now"
  state := .current
  driftRule := .identityChanged
  basisDigest := digest

def sealedBasis (requirement : PyStr) : CurrentnessBasis :=
  match (basisFor requirement []).computeDigest with
  | .ok digest => basisFor requirement digest
  | .error _ => basisFor requirement []

theorem exists_sealedBasis {requirement : PyStr} (identified : isIdentifier requirement = true) :
    ∃ digest, sealedBasis requirement = basisFor requirement digest ∧ digest ≠ [] ∧
      (basisFor requirement digest).validate = .ok () := by
  have plain := PlainText.of_isIdentifier identified
  obtain ⟨digest, computed, wellFormed⟩ := exists_sealDigest CurrentnessBasis.digestDomain
    (show Json.Writable (.obj (basisFor requirement []).payloadFields) from .obj (by simp [CurrentnessBasis.payloadFields, isEncodable_py]) (by
      have states : isEncodable (toText currentnessStates .current) = true := by decide
      have rules : isEncodable (toText currentnessDriftRules .identityChanged) = true := by decide
      simp [CurrentnessBasis.payloadFields, basisFor, plain.encodable, isEncodable_py, states,
        rules]))
    (by simp [CurrentnessBasis.payloadFields, Json.isPrintable, Json.membersPrintable])
  refine ⟨digest, ?_, ?_, ?_⟩
  · rw [sealedBasis, CurrentnessBasis.computeDigest, computed]
  · rintro rfl
    simp [isSha256] at wellFormed
  · have named : identifier (.str requirement) (py "currentness.requirement_id") =
        .ok requirement := identifier_eq_ok.mpr ⟨rfl, identified⟩
    have filled : requirement ≠ [] := (length_of_isIdentifier identified).2
    have identity : ProcessIR.text (.str (py "identity")) (py "currentness.observed_identity") =
        .ok (py "identity") := rfl
    have evidence : ProcessIR.text (.str (py "evidence")) (py "currentness.evidence_ref") =
        .ok (py "evidence") := rfl
    have time : ProcessIR.text (.str (py "now")) (py "currentness.observed_at") =
        .ok (py "now") := rfl
    rw [CurrentnessBasis.validate]
    simp only [basisFor]
    rw [named, ok_bind, plain.text_eq fun _ => filled, ok_bind, identity, ok_bind, evidence,
      ok_bind, time, ok_bind]
    exact checkSeal_eq_ok computed wellFormed

/-! ### The context that asks for a transition -/

/-- A context in which every requirement of the transition is met and all other
transitions are completed. -/
def askingContext (process : ValidProcess) (transition : Transition) (state : PyStr) :
    ProcessContextSnapshot where
  processIrDigest := process.ir.processDigest
  processState := state
  completedTransitions :=
    (process.model.transitions.map Transition.transitionId).filter
      (· ≠ transition.transitionId)
  satisfiedDependencies := transition.dependencies
  satisfiedGuards := transition.guards
  satisfiedEvidenceRequirements := transition.evidenceRequirements
  currentnessBases := transition.currentnessRequirements.map sealedBasis
  verifiedAuthorityContextRefs := transition.authorityRequirements
  observedAt := py "now"

section Asking

variable {process : ValidProcess} {transition : Transition} {state : PyStr}

theorem requirementId_sealedBasis (requirement : PyStr) :
    (sealedBasis requirement).requirementId = requirement := by
  rw [sealedBasis]
  split <;> rfl

theorem askingContext_valid (member : transition ∈ process.model.transitions)
    (known : state ∈ process.model.states)
    (identified : ∀ requirement ∈ transition.currentnessRequirements,
      isIdentifier requirement = true) :
    (askingContext process transition state).validateFor process.ir =
      .ok (askingContext process transition state) := by
  have names := process.transitionNames member
  have observed : py "now" ≠ [] := by decide
  refine validateFor_eq_ok.mpr ⟨rfl, ?_⟩
  constructor
  case binds => rfl
  case state => exact known
  case completed => exact fun name done => (List.mem_filter.mp done).1
  case dependencies => exact fun name needed => names.dependencies needed
  case bases =>
    intro basis stored
    obtain ⟨requirement, required, rfl⟩ := List.mem_map.mp stored
    obtain ⟨digest, same, -, valid⟩ := exists_sealedBasis (identified requirement required)
    rw [same]
    exact ⟨valid, List.mem_flatMap.mpr ⟨transition, member, names.subjects required⟩⟩
  case basesDistinct =>
    have ids : transition.currentnessRequirements.map
        (CurrentnessBasis.requirementId ∘ sealedBasis) = transition.currentnessRequirements := by
      conv_rhs => rw [← List.map_id transition.currentnessRequirements]
      exact List.map_congr_left fun requirement _ => requirementId_sealedBasis requirement
    simpa only [askingContext, List.map_map, ids] using names.requirements
  case observed => exact observed
  all_goals simp [askingContext, ProcessContextSnapshot.countsMatch]

theorem askingContext_legal (member : transition ∈ process.model.transitions)
    (source : state ∈ transition.sourceStates)
    (identified : ∀ requirement ∈ transition.currentnessRequirements,
      isIdentifier requirement = true) :
    Legal (askingContext process transition state) transition where
  unfinished := by simp [askingContext]
  enabled := source
  dependencies := List.Subset.refl _
  guards := List.Subset.refl _
  evidence := List.Subset.refl _
  current := by
    intro requirement required
    obtain ⟨digest, same, sealed, -⟩ := exists_sealedBasis (identified requirement required)
    refine ⟨sealedBasis requirement, List.mem_map_of_mem required, ?_⟩
    rw [same]
    have filled : py "evidence" ≠ [] ∧ py "identity" ≠ [] ∧ py "now" ≠ [] := by decide
    exact ⟨rfl, rfl, rfl, (process.transitionNames member).subjects required, filled.1,
      filled.2.1, filled.2.2, sealed⟩
  authority := List.Subset.refl _
  retry := ⟨process.parts.maxAttempts_nonneg member, .inl rfl⟩

end Asking

/-! ### Selectable transitions -/

/-- Some valid context, with the earlier transitions of the state completed,
makes the selector choose the transition. -/
def CanBeSelected (process : ValidProcess) (transition : Transition) : Prop :=
  ∃ context : ProcessContextSnapshot, context.validateFor process.ir = .ok context ∧
    (∀ earlier ∈ process.model.transitions, context.processState ∈ earlier.sourceStates →
      Precedes process.model.schedulingPolicy earlier.transitionId transition.transitionId →
        earlier.transitionId ∈ context.completedTransitions) ∧
    Selects process context transition.transitionId

section Selectable

variable {process : ValidProcess} {transition : Transition}

theorem isIdentifier_of_selects {context : ProcessContextSnapshot}
    (member : transition ∈ process.model.transitions)
    (valid : context.validateFor process.ir = .ok context)
    (selected : Selects process context transition.transitionId) :
    ∀ requirement ∈ transition.currentnessRequirements, isIdentifier requirement = true := by
  obtain ⟨-, -, first, ⟨firstMember, legal, -⟩, same⟩ := (selects_iff valid).mp selected
  obtain rfl : first = transition :=
    List.inj_on_of_nodup_map process.transitionIds_nodup firstMember member same
  intro requirement required
  obtain ⟨basis, stored, rfl, -⟩ := legal.current requirement required
  have accepted := ((facts_of_validateFor valid).bases basis stored).1
  simp only [CurrentnessBasis.validate, bind_eq_ok] at accepted
  obtain ⟨_, identified, -⟩ := accepted
  exact (identifier_eq_ok.mp identified).2

/-- A transition out of a state that is not terminal can be selected exactly
when the names of its currentness requirements are identifiers. -/
theorem canBeSelected_iff (process : ValidProcess) (transition : Transition) (state : PyStr)
    (member : transition ∈ process.model.transitions) (source : state ∈ transition.sourceStates)
    (notTerminal : state ∉ process.model.terminationPolicy.terminalStates) :
    CanBeSelected process transition ↔
      ∀ requirement ∈ transition.currentnessRequirements, isIdentifier requirement = true := by
  constructor
  · rintro ⟨context, valid, -, selected⟩
    exact isIdentifier_of_selects member valid selected
  · intro identified
    have known := (process.transitionNames member).sources source
    have valid := askingContext_valid member known identified
    refine ⟨askingContext process transition state, valid, ?_, ?_⟩
    · intro earlier earlierMember _ before
      refine List.mem_filter.mpr ⟨List.mem_map_of_mem earlierMember, decide_eq_true ?_⟩
      intro same
      rw [same] at before
      exact before.asymm before
    · refine (selects_iff valid).mpr ⟨rfl, notTerminal, transition, ⟨member,
        askingContext_legal member source identified, ?_⟩, rfl⟩
      intro other otherMember legal
      refine .inl (List.inj_on_of_nodup_map process.transitionIds_nodup otherMember member ?_)
      by_contra different
      exact legal.unfinished (List.mem_filter.mpr
        ⟨List.mem_map_of_mem otherMember, decide_eq_true different⟩)

end Selectable

/-! ### A requirement that no basis can name -/

def askingProcess : Json :=
  smallProcess [py "DONE", py "OPEN"] [py "DONE"] [⟨py "scan", [py "branch head"], py "DONE"⟩]

def asksForHead (model : Model) : Bool :=
  py "OPEN" ∉ model.terminationPolicy.terminalStates ∧
    model.transitions.any fun transition =>
      py "OPEN" ∈ transition.sourceStates ∧
        transition.currentnessRequirements = [py "branch head"]

theorem exists_asking :
    ∃ process : ValidProcess, process.value = askingProcess ∧
      py "OPEN" ∉ process.model.terminationPolicy.terminalStates ∧
      ∃ transition ∈ process.model.transitions, py "OPEN" ∈ transition.sourceStates ∧
        transition.currentnessRequirements = [py "branch head"] := by
  have accepted : modelSatisfies askingProcess asksForHead = true := by decide +kernel
  obtain ⟨process, same, holds⟩ := exists_smallProcess accepted rfl (by simp)
  obtain ⟨notTerminal, asked⟩ := of_decide_eq_true holds
  obtain ⟨transition, member, conditions⟩ := List.any_eq_true.mp asked
  exact ⟨process, same, notTerminal, transition, member, of_decide_eq_true conditions⟩

/-- A requirement of two words is accepted, and never met. -/
theorem not_canBeSelected_spaced :
    ∃ process : ValidProcess, process.value = askingProcess ∧
      ∃ transition ∈ process.model.transitions, py "OPEN" ∈ transition.sourceStates ∧
        py "OPEN" ∉ process.model.terminationPolicy.terminalStates ∧
        ¬ CanBeSelected process transition := by
  obtain ⟨process, same, notTerminal, transition, member, source, asked⟩ := exists_asking
  refine ⟨process, same, transition, member, source, notTerminal, ?_⟩
  rintro ⟨context, valid, -, selected⟩
  have identified := isIdentifier_of_selects member valid selected (py "branch head")
    (by simp [asked])
  exact absurd identified (by decide)

theorem canBeSelected_iff_spaced :
    ∃ process : ValidProcess, process.value = askingProcess ∧
      ∃ transition ∈ process.model.transitions, CanBeSelected process transition ↔
        ∀ requirement ∈ transition.currentnessRequirements, isIdentifier requirement = true := by
  obtain ⟨process, same, notTerminal, transition, member, source, -⟩ := exists_asking
  exact ⟨process, same, transition, member,
    canBeSelected_iff process transition (py "OPEN") member source notTerminal⟩

end CyberLion
