import CyberLion.CanonicalFields
import CyberLion.JsonWritable
import CyberLion.ProcessParallel

/-!
# The safety of parallel batches

A batch is a part of the schedule, within its bounds, inside one declared
group and free of conflicts; and it depends on the tuples of the context as
sets only.
-/

namespace CyberLion

open PyLib ProcessIR TransitionSelector

/-! ### Contexts that differ in order -/

structure Reordered (first second : ProcessContextSnapshot) : Prop where
  processIrDigest : second.processIrDigest = first.processIrDigest
  processState : second.processState = first.processState
  processControl : second.processControl = first.processControl
  observedAt : second.observedAt = first.observedAt
  completedTransitions : first.completedTransitions.Perm second.completedTransitions
  satisfiedDependencies : first.satisfiedDependencies.Perm second.satisfiedDependencies
  satisfiedGuards : first.satisfiedGuards.Perm second.satisfiedGuards
  satisfiedEvidenceRequirements :
    first.satisfiedEvidenceRequirements.Perm second.satisfiedEvidenceRequirements
  satisfiedCurrentnessRequirements :
    first.satisfiedCurrentnessRequirements.Perm second.satisfiedCurrentnessRequirements
  currentnessBases : first.currentnessBases.Perm second.currentnessBases
  verifiedAuthorityContextRefs :
    first.verifiedAuthorityContextRefs.Perm second.verifiedAuthorityContextRefs
  actionResultRefs : first.actionResultRefs.Perm second.actionResultRefs
  observationRefs : first.observationRefs.Perm second.observationRefs
  reconciliationRefs : first.reconciliationRefs.Perm second.reconciliationRefs
  attemptCounts : first.attemptCounts.Perm second.attemptCounts
  attemptRecords : first.attemptRecords.Perm second.attemptRecords

theorem recordMax_perm {first second : List AttemptRecord} (same : first.Perm second)
    (transitionId : PyStr) :
    ProcessContextSnapshot.recordMax first transitionId =
      ProcessContextSnapshot.recordMax second transitionId := by
  unfold ProcessContextSnapshot.recordMax
  refine same.foldl_eq' (fun left _ right _ greatest => ?_) 0
  split <;> split <;> omega

theorem countsMatch_perm {counts otherCounts : List (PyStr × Int)}
    {records otherRecords : List AttemptRecord} (sameCounts : counts.Perm otherCounts)
    (sameRecords : records.Perm otherRecords)
    (agree : ProcessContextSnapshot.countsMatch counts records = true) :
    ProcessContextSnapshot.countsMatch otherCounts otherRecords = true := by
  simp only [ProcessContextSnapshot.countsMatch, Bool.and_eq_true, List.all_eq_true,
    decide_eq_true_eq] at agree ⊢
  refine ⟨fun entry member => ?_, fun record member => ?_⟩
  · rw [← recordMax_perm sameRecords]
    exact agree.1 entry (sameCounts.mem_iff.mpr member)
  · exact (sameCounts.map Prod.fst).mem_iff.mp
      (agree.2 record (sameRecords.mem_iff.mpr member))

section Reordering

variable {process : ValidProcess} {first second : ProcessContextSnapshot}

theorem Reordered.facts (same : Reordered first second) (facts : ContextFacts process first) :
    ContextFacts process second where
  binds := same.processIrDigest.trans facts.binds
  state := same.processState ▸ facts.state
  completed := fun name member => facts.completed name (same.completedTransitions.mem_iff.mpr member)
  dependencies := fun name member =>
    facts.dependencies name (same.satisfiedDependencies.mem_iff.mpr member)
  bases := fun basis member => facts.bases basis (same.currentnessBases.mem_iff.mpr member)
  basesDistinct := (same.currentnessBases.map _).nodup_iff.mp facts.basesDistinct
  labels := same.satisfiedCurrentnessRequirements.nodup_iff.mp facts.labels
  counts := fun entry member => facts.counts entry (same.attemptCounts.mem_iff.mpr member)
  countsDistinct := (same.attemptCounts.map _).nodup_iff.mp facts.countsDistinct
  records := fun record member => facts.records record (same.attemptRecords.mem_iff.mpr member)
  recordsDistinct := (same.attemptRecords.map _).nodup_iff.mp facts.recordsDistinct
  agree := countsMatch_perm same.attemptCounts same.attemptRecords facts.agree
  observed := same.observedAt ▸ facts.observed

theorem Reordered.attemptCount_eq (same : Reordered first second)
    (facts : ContextFacts process first) (transitionId : PyStr) :
    attemptCount second transitionId = attemptCount first transitionId := by
  rw [attemptCount, attemptCount,
    lookup_eq_of_perm same.attemptCounts facts.countsDistinct transitionId]

theorem Reordered.retryAllowed (same : Reordered first second)
    (facts : ContextFacts process first) {transition : Transition}
    (allowed : RetryAllowed first transition) : RetryAllowed second transition := by
  unfold RetryAllowed at allowed ⊢
  rw [same.attemptCount_eq facts]
  refine ⟨allowed.1, allowed.2.imp_right (Or.imp_right ?_)⟩
  rintro ⟨reconciles, record, member, prior⟩
  exact ⟨reconciles, record, same.attemptRecords.mem_iff.mp member, prior⟩

theorem Reordered.legal (same : Reordered first second) (facts : ContextFacts process first)
    {transition : Transition} (legal : Legal first transition) : Legal second transition where
  unfinished := fun done => legal.unfinished (same.completedTransitions.mem_iff.mpr done)
  enabled := same.processState ▸ legal.enabled
  dependencies := fun _ member => same.satisfiedDependencies.subset (legal.dependencies member)
  guards := fun _ member => same.satisfiedGuards.subset (legal.guards member)
  evidence := fun _ member => same.satisfiedEvidenceRequirements.subset (legal.evidence member)
  current := fun requirement member => by
    obtain ⟨basis, stored, met⟩ := legal.current requirement member
    exact ⟨basis, same.currentnessBases.mem_iff.mp stored, met⟩
  authority := fun _ member => same.verifiedAuthorityContextRefs.subset (legal.authority member)
  retry := same.retryAllowed facts legal.retry

theorem Reordered.symm (same : Reordered first second) : Reordered second first where
  processIrDigest := same.processIrDigest.symm
  processState := same.processState.symm
  processControl := same.processControl.symm
  observedAt := same.observedAt.symm
  completedTransitions := same.completedTransitions.symm
  satisfiedDependencies := same.satisfiedDependencies.symm
  satisfiedGuards := same.satisfiedGuards.symm
  satisfiedEvidenceRequirements := same.satisfiedEvidenceRequirements.symm
  satisfiedCurrentnessRequirements := same.satisfiedCurrentnessRequirements.symm
  currentnessBases := same.currentnessBases.symm
  verifiedAuthorityContextRefs := same.verifiedAuthorityContextRefs.symm
  actionResultRefs := same.actionResultRefs.symm
  observationRefs := same.observationRefs.symm
  reconciliationRefs := same.reconciliationRefs.symm
  attemptCounts := same.attemptCounts.symm
  attemptRecords := same.attemptRecords.symm

theorem Reordered.parallelBatch_eq (same : Reordered first second)
    (facts : ContextFacts process first) :
    parallelBatch process second = parallelBatch process first := by
  have legalIff : ∀ transition, Legal second transition ↔ Legal first transition :=
    fun transition => ⟨same.symm.legal (same.facts facts), same.legal facts⟩
  simp only [parallelBatch, candidates, legalIff, same.processControl]

end Reordering

/-! ### Safe batches -/

structure SafeBatch (process : ValidProcess) (transitions : List Transition) : Prop where
  distinct : (transitions.map Transition.transitionId).Nodup
  bounded : (transitions.length : Int) ≤ process.model.schedulingPolicy.maxWip
  scheduled : transitions.Sublist (ordered process.model)
  grouped : 2 ≤ transitions.length →
    ∃ group ∈ process.model.schedulingPolicy.parallelSafeGroups,
      ∀ transition ∈ transitions, transition.transitionId ∈ group
  independent : ∀ first ∈ transitions, ∀ second ∈ transitions, first ≠ second →
    Independent first second

theorem one_le_maxWip_of_validateScheduling {transitionIds : List PyStr} {value : Json}
    {policy : Scheduling} (checked : validateScheduling transitionIds value = .ok policy) :
    1 ≤ policy.maxWip := by
  refine (?_ : Returns (fun policy : Scheduling => 1 ≤ policy.maxWip)
    (validateScheduling transitionIds value)) policy checked
  unfold validateScheduling
  refine Returns.bind fun _ _ => Returns.bind fun _ _ => Returns.bind fun _ _ => ?_
  refine Returns.bind fun _ _ => Returns.bind fun _ _ => Returns.bind fun _ _ => ?_
  refine Returns.bind fun _ _ => Returns.bind fun _ _ => Returns.bind fun _ _ => ?_
  refine Returns.bind fun maxWip _ => Returns.bind fun _ inRange => ?_
  repeat refine Returns.bind fun _ _ => ?_
  rw [raiseIf_eq_ok, not_not] at inRange
  exact Returns.pure inRange.1

theorem ValidProcess.ordered_nodup (process : ValidProcess) :
    ((ordered process.model).map Transition.transitionId).Nodup := by
  refine List.pairwise_map.mpr (process.pairwise_ordered.imp fun before same => ?_)
  rw [same] at before
  exact before.asymm before

section Safety

variable {process : ValidProcess} {context : ProcessContextSnapshot}

theorem candidates_sublist : (candidates process context).Sublist (ordered process.model) :=
  (List.take_sublist _ _).trans List.filter_sublist

theorem safeBatch_nil : SafeBatch process [] where
  distinct := .nil
  bounded := by
    obtain ⟨_, scheduled⟩ := process.parts.scheduling
    have positive := one_le_maxWip_of_validateScheduling scheduled
    simp only [List.length_nil]
    omega
  scheduled := List.nil_sublist _
  grouped := by simp
  independent := by simp

theorem safeBatch_parallelBatch : SafeBatch process (parallelBatch process context) := by
  rw [parallelBatch]
  split
  · rename_i running
    have kept := batch_sublist process.model.schedulingPolicy.parallelSafeGroups
      (candidates process context)
    have scheduled := kept.trans candidates_sublist
    refine ⟨(scheduled.map _).nodup process.ordered_nodup, ?_, scheduled, exists_group_of_batch, ?_⟩
    · have few : (candidates process context).length ≤
          process.model.schedulingPolicy.maxWip.toNat := List.length_take_le _ _
      have := kept.length_le
      omega
    · intro first firstMember second secondMember different
      exact (pairwise_batch _ _).forall firstMember secondMember different
  · exact safeBatch_nil

/-- `select_parallel` returns a safe batch, and returns it for every order of
the tuples of the context. -/
theorem selectParallel_safe (process : ValidProcess) (context : ProcessContextSnapshot)
    (valid : context.validateFor process.ir = .ok context) :
    ∃ transitions, SafeBatch process transitions ∧
      selectParallel process.ir context = .ok (transitions.map Transition.transitionId) ∧
      ∀ other, Reordered context other →
        selectParallel process.ir other = selectParallel process.ir context := by
  have facts := facts_of_validateFor valid
  refine ⟨parallelBatch process context, safeBatch_parallelBatch, selectParallel_eq valid,
    fun other same => ?_⟩
  have otherValid : other.validateFor process.ir = .ok other :=
    validateFor_eq_ok.mpr ⟨rfl, same.facts facts⟩
  rw [selectParallel_eq otherValid, same.parallelBatch_eq facts, selectParallel_eq valid]

end Safety

/-! ### Small processes -/

/-- An internal step out of the state OPEN, which writes a scope of its own. -/
structure SmallStep where
  name : PyStr
  requirements : List PyStr := []
  target : PyStr := py "COMPLETE"

def SmallStep.toJson (step : SmallStep) : Json :=
  let names := fun values : List PyStr => Json.arr (values.map Json.str)
  .obj [(py "authority_requirements", .arr []),
    (py "currentness_requirements", names step.requirements),
    (py "dependencies", .arr []), (py "evidence_requirements", .arr []),
    (py "expected_postconditions", .arr []), (py "guards", .arr []),
    (py "idempotency_class", .str (py "PURE")), (py "operator", .str (py "OBSERVE")),
    (py "outcome_map", .obj [(py "PASS", .str step.target)]),
    (py "replay_policy", .str (py "DENY")),
    (py "resource_claims", .obj [(py "authority_budgets", .arr []),
      (py "currentness_subjects", names step.requirements), (py "read_scopes", .arr []),
      (py "reconciliation_group", .str []), (py "replay_domain", .str []),
      (py "write_scopes", names [step.name])]),
    (py "retry_policy", .obj [(py "max_attempts", .int 0),
      (py "on_exhausted", .str (py "STOP"))]),
    (py "source_states", names [py "OPEN"]), (py "transition_class", .str (py "INTERNAL")),
    (py "transition_id", .str step.name), (py "trigger", .str (py "start"))]

/-- A process of small steps, up to two of which may run together. -/
def smallProcess (states terminal : List PyStr) (steps : List SmallStep) : Json :=
  let names := fun values : List PyStr => Json.arr (values.map Json.str)
  .obj [(py "dependencies", .arr []), (py "goal_ref", .str (py "goal")),
    (py "initial_state", .str (py "OPEN")),
    (py "lineage", .obj [(py "generation", .int 0), (py "parent_process_digests", .arr []),
      (py "source_refs", .arr [])]),
    (py "mission_ref", .str (py "mission")), (py "process_id", .str (py "small")),
    (py "scheduling_policy", .obj [(py "max_wip", .int 2),
      (py "order", names (steps.map SmallStep.name)),
      (py "parallel_safe_groups", .arr (if 2 ≤ steps.length then
        [names (steps.map SmallStep.name)] else [])),
      (py "priorities", .obj (steps.map fun step => (step.name, .int 0))),
      (py "strategy", .str (py "DECLARED_ORDER"))]),
    (py "schema_version", .str (py "1.0.0")),
    (py "scope", .obj [(py "domains", names [py "local"]), (py "resources", .arr []),
      (py "widening_allowed", .bool false)]),
    (py "states", names states),
    (py "termination_policy", .obj [(py "allow_no_legal_transition", .bool true),
      (py "on_unknown", .str (py "STOP")), (py "terminal_states", names terminal)]),
    (py "transitions", .arr (steps.map SmallStep.toJson))]

theorem strict_of_mem_names (values : List PyStr) :
    (∀ item ∈ values.map Json.str, Json.Strict item) ↔ True := by
  refine iff_true_intro fun item member => ?_
  obtain ⟨value, -, rfl⟩ := List.mem_map.mp member
  exact .str value

theorem SmallStep.strict (step : SmallStep) : Json.Strict step.toJson := by
  simp only [toJson, Json.strict_obj_iff, Json.strict_arr_iff, Json.strict_str, Json.strict_int_iff,
    List.map_cons, List.map_nil, List.forall_mem_cons, List.not_mem_nil, false_implies,
    implies_true, and_true, true_and, strict_of_mem_names]
  decide +kernel

theorem strict_smallProcess (states terminal : List PyStr) {steps : List SmallStep}
    (distinct : (steps.map SmallStep.name).Nodup) :
    Json.Strict (smallProcess states terminal steps) := by
  have groups : ∀ item ∈ (if 2 ≤ steps.length then
      [Json.arr ((steps.map SmallStep.name).map Json.str)] else []), Json.Strict item := by
    split
    · simpa only [List.forall_mem_singleton, Json.strict_arr_iff] using
        (strict_of_mem_names _).mpr trivial
    · simp
  have priorities : ((steps.map fun step => (step.name, Json.int 0)).map Prod.fst).Nodup := by
    simpa [Function.comp_def] using distinct
  have zeros : ∀ field ∈ steps.map fun step => (step.name, Json.int 0),
      Json.Strict field.2 := by
    intro field member
    obtain ⟨step, -, rfl⟩ := List.mem_map.mp member
    exact Json.strict_int_iff.mpr (by decide)
  have transitions : ∀ item ∈ steps.map SmallStep.toJson, Json.Strict item := by
    intro item member
    obtain ⟨step, -, rfl⟩ := List.mem_map.mp member
    exact step.strict
  simp only [smallProcess, Json.strict_obj_iff, Json.strict_arr_iff, Json.strict_str,
    Json.strict_bool, Json.strict_int_iff, List.map_cons, List.map_nil, List.forall_mem_cons,
    List.not_mem_nil, false_implies, implies_true, and_true, true_and, strict_of_mem_names,
    eq_true groups, priorities, eq_true zeros, eq_true transitions]
  decide +kernel

/-- The value is a process with the property, and its canonical text can be encoded. -/
def modelSatisfies (value : Json) (test : Model → Bool) : Bool :=
  isEncodable (Json.render false value) && match validateProcessIr value with
    | .ok model => test model
    | .error _ => false

theorem exists_smallProcess {states terminal : List PyStr} {steps : List SmallStep}
    {test : Model → Bool}
    (accepted : modelSatisfies (smallProcess states terminal steps) test = true)
    (sorted : (smallProcess states terminal steps).sortKeys = smallProcess states terminal steps)
    (distinct : (steps.map SmallStep.name).Nodup) :
    ∃ process : ValidProcess, process.value = smallProcess states terminal steps ∧
      test process.model = true := by
  have strict := strict_smallProcess states terminal distinct
  rw [modelSatisfies, Bool.and_eq_true] at accepted
  obtain ⟨encodable, satisfied⟩ := accepted
  have isReturned : returned (validateProcessIr (smallProcess states terminal steps)) = true := by
    split at satisfied
    · rename_i checked
      rw [checked]
      rfl
    · simp at satisfied
  obtain ⟨process, same, -⟩ :=
    ValidProcess.exists_of_sorted isReturned strict strict.isPrintable sorted encodable
  rw [← same, process.valid.checked] at satisfied
  exact ⟨process, same, satisfied⟩

def ValidProcess.contextIn (process : ValidProcess) (state : PyStr) : ProcessContextSnapshot where
  processIrDigest := process.ir.processDigest
  processState := state
  observedAt := py "now"

theorem ValidProcess.contextIn_valid {process : ValidProcess} {state : PyStr}
    (known : state ∈ process.model.states) :
    (process.contextIn state).validateFor process.ir = .ok (process.contextIn state) := by
  refine validateFor_eq_ok.mpr ⟨rfl, ?_⟩
  have observed : py "now" ≠ [] := by decide
  constructor <;> simp [contextIn, known, observed, ProcessContextSnapshot.countsMatch]

theorem legal_contextIn_iff {process : ValidProcess} {state : PyStr} {transition : Transition} :
    Legal (process.contextIn state) transition ↔
      Legal { processIrDigest := [], processState := state, observedAt := py "now" } transition := by
  rw [legal_iff, legal_iff]
  rfl

def pairProcess : Json :=
  smallProcess [py "DONE", py "OPEN"] [py "DONE"]
    [⟨py "load", [], py "DONE"⟩, ⟨py "scan", [], py "DONE"⟩]

theorem exists_pairProcess :
    ∃ process : ValidProcess, process.value = pairProcess ∧
      py "OPEN" ∈ process.model.states := by
  have accepted : modelSatisfies pairProcess (fun model => py "OPEN" ∈ model.states) = true := by
    decide +kernel
  obtain ⟨process, same, known⟩ := exists_smallProcess accepted rfl (by decide +kernel)
  exact ⟨process, same, of_decide_eq_true known⟩

theorem selectParallel_safe_pair :
    ∃ process : ValidProcess, process.value = pairProcess ∧
      ∃ transitions, SafeBatch process transitions ∧
        selectParallel process.ir (process.contextIn (py "OPEN")) =
          .ok (transitions.map Transition.transitionId) ∧
        ∀ other, Reordered (process.contextIn (py "OPEN")) other →
          selectParallel process.ir other =
            selectParallel process.ir (process.contextIn (py "OPEN")) := by
  obtain ⟨process, same, known⟩ := exists_pairProcess
  exact ⟨process, same,
    selectParallel_safe process _ (ValidProcess.contextIn_valid known)⟩

end CyberLion