import CyberLion.ProcessCompletion

/-!
# What makes a context valid

`validate_for` accepts a context exactly when its parts satisfy a list of
conditions, none of which depends on the order of the parts.
-/

namespace CyberLion

open PyLib ProcessIR

def currentnessSubjects (model : Model) : List PyStr :=
  model.transitions.flatMap fun transition => transition.resourceClaims.currentnessSubjects

def attemptKey (record : AttemptRecord) : PyStr × Int :=
  (record.transitionId, record.attemptNumber)

/-- The conditions of `validate_for`. -/
structure ContextFacts (process : ValidProcess) (context : ProcessContextSnapshot) : Prop where
  binds : context.processIrDigest = process.ir.processDigest
  state : context.processState ∈ process.model.states
  completed : ∀ transitionId ∈ context.completedTransitions,
    transitionId ∈ process.model.transitions.map Transition.transitionId
  dependencies : ∀ dependencyId ∈ context.satisfiedDependencies,
    dependencyId ∈ process.model.dependencies.map Dependency.dependencyId
  bases : ∀ basis ∈ context.currentnessBases,
    basis.validate = .ok () ∧ basis.subject ∈ currentnessSubjects process.model
  basesDistinct : (context.currentnessBases.map CurrentnessBasis.requirementId).Nodup
  labels : context.satisfiedCurrentnessRequirements.Nodup
  counts : ∀ entry ∈ context.attemptCounts,
    entry.1 ∈ process.model.transitions.map Transition.transitionId ∧ 0 ≤ entry.2
  countsDistinct : (context.attemptCounts.map Prod.fst).Nodup
  records : ∀ record ∈ context.attemptRecords, record.validate = .ok () ∧
    record.transitionId ∈ process.model.transitions.map Transition.transitionId
  recordsDistinct : (context.attemptRecords.map attemptKey).Nodup
  agree : ProcessContextSnapshot.countsMatch context.attemptCounts
    context.attemptRecords = true
  observed : context.observedAt ≠ []

/-! ### The loops of the validator -/

namespace ProcessContextSnapshot

theorem checkBases_eq_ok {subjects seen : List PyStr} {bases : List CurrentnessBasis} :
    checkBases subjects seen bases = .ok () ↔
      (∀ basis ∈ bases, basis.validate = .ok () ∧ basis.subject ∈ subjects) ∧
        (bases.map CurrentnessBasis.requirementId).Nodup ∧
        ∀ basis ∈ bases, basis.requirementId ∉ seen := by
  induction bases generalizing seen with
  | nil => simp [checkBases]
  | cons basis bases ih =>
    simp only [checkBases, bind_eq_ok, raiseIf_eq_ok, not_not, ih, exists_const,
      List.forall_mem_cons, List.map_cons, List.nodup_cons, List.mem_map, not_exists, not_and]
    simp only [List.mem_cons, not_or]
    constructor
    · rintro ⟨_, accepted, fresh, known, each, distinct, apart⟩
      exact ⟨⟨⟨accepted, known⟩, each⟩, ⟨fun other member => (apart other member).1, distinct⟩,
        fresh, fun other member => (apart other member).2⟩
    · rintro ⟨⟨⟨accepted, known⟩, each⟩, ⟨apart, distinct⟩, fresh, unseen⟩
      exact ⟨(), accepted, fresh, known, each, distinct,
        fun other member => ⟨apart other member, unseen other member⟩⟩

theorem checkCounts_eq_ok {transitionIds seen : List PyStr} {counts : List (PyStr × Int)} :
    checkCounts transitionIds seen counts = .ok () ↔
      (∀ entry ∈ counts, entry.1 ∈ transitionIds ∧ 0 ≤ entry.2) ∧
        (counts.map Prod.fst).Nodup ∧ ∀ entry ∈ counts, entry.1 ∉ seen := by
  induction counts generalizing seen with
  | nil => simp [checkCounts]
  | cons entry counts ih =>
    simp only [checkCounts, bind_eq_ok, raiseIf_eq_ok, not_not, not_or, not_lt, ih,
      exists_const, List.forall_mem_cons, List.map_cons, List.nodup_cons, List.mem_map,
      not_exists, not_and]
    simp only [List.mem_cons, not_or]
    constructor
    · rintro ⟨⟨known, fresh⟩, nonnegative, each, distinct, apart⟩
      exact ⟨⟨⟨known, nonnegative⟩, each⟩,
        ⟨fun other member => (apart other member).1, distinct⟩, fresh,
        fun other member => (apart other member).2⟩
    · rintro ⟨⟨⟨known, nonnegative⟩, each⟩, ⟨apart, distinct⟩, fresh, unseen⟩
      exact ⟨⟨known, fresh⟩, nonnegative, each, distinct,
        fun other member => ⟨apart other member, unseen other member⟩⟩

theorem checkRecords_eq_ok {transitionIds : List PyStr} {seen : List (PyStr × Int)}
    {records : List AttemptRecord} :
    checkRecords transitionIds seen records = .ok () ↔
      (∀ record ∈ records, record.validate = .ok () ∧ record.transitionId ∈ transitionIds) ∧
        (records.map attemptKey).Nodup ∧ ∀ record ∈ records, attemptKey record ∉ seen := by
  induction records generalizing seen with
  | nil => simp [checkRecords]
  | cons record records ih =>
    simp only [checkRecords, bind_eq_ok, raiseIf_eq_ok, not_not, ih, exists_const,
      List.forall_mem_cons, List.map_cons, List.nodup_cons, List.mem_map, not_exists, not_and]
    simp only [List.mem_cons, not_or]
    constructor
    · rintro ⟨_, accepted, known, fresh, each, distinct, apart⟩
      exact ⟨⟨⟨accepted, known⟩, each⟩, ⟨fun other member => (apart other member).1, distinct⟩,
        fresh, fun other member => (apart other member).2⟩
    · rintro ⟨⟨⟨accepted, known⟩, each⟩, ⟨apart, distinct⟩, fresh, unseen⟩
      exact ⟨(), accepted, known, fresh, each, distinct,
        fun other member => ⟨apart other member, unseen other member⟩⟩

end ProcessContextSnapshot

/-! ### The whole validator -/

section Validation

variable {process : ValidProcess} {context result : ProcessContextSnapshot}

theorem ValidProcess.validate_eq (process : ValidProcess) :
    process.ir.validate = .ok process.ir :=
  CanonicalProcessIR.validate_eq_ok.mpr ⟨rfl, process.value, process.model, process.valid⟩

theorem validateFor_eq_ok :
    context.validateFor process.ir = .ok result ↔
      result = context ∧ ContextFacts process context := by
  rw [ProcessContextSnapshot.validateFor, process.validate_eq, ok_bind,
    process.valid.asModel_eq]
  simp only [bind_eq_ok, raiseIf_eq_ok, pure_eq_ok, ok_bind, Unique.exists_iff,
    PUnit.default_eq_unit, ne_eq, not_not, Bool.not_eq_false, ProcessContextSnapshot.checkBases_eq_ok,
    ProcessContextSnapshot.checkCounts_eq_ok, ProcessContextSnapshot.checkRecords_eq_ok]
  constructor
  · rintro ⟨binds, state, completed, dependencies, ⟨bases, basesDistinct, -⟩, labels,
      ⟨counts, countsDistinct, -⟩, ⟨records, recordsDistinct, -⟩, agree, observed, same⟩
    exact ⟨same.symm, binds, state, completed, dependencies, bases, basesDistinct, labels,
      counts, countsDistinct, records, recordsDistinct, agree, observed⟩
  · rintro ⟨rfl, facts⟩
    exact ⟨facts.binds, facts.state, facts.completed, facts.dependencies,
      ⟨facts.bases, facts.basesDistinct, by simp⟩, facts.labels,
      ⟨facts.counts, facts.countsDistinct, by simp⟩,
      ⟨facts.records, facts.recordsDistinct, by simp⟩, facts.agree, facts.observed, rfl⟩

theorem facts_of_validateFor (valid : context.validateFor process.ir = .ok context) :
    ContextFacts process context :=
  (validateFor_eq_ok.mp valid).2

end Validation

end CyberLion
