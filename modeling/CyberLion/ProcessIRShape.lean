import CyberLion.CanonicalProcessIR
import CyberLion.JsonStrict

/-!
# The JSON shape of an accepted process

No field of a Process IR is a float, so an accepted value whose keys are
distinct is read back from its own text.  Each lemma follows one validator.
-/

namespace CyberLion

open PyLib Json

namespace ProcessIR

/-! ### Elementary validators -/

variable {name : PyStr} {stateSet transitionIds : List PyStr}

theorem floatless_of_text {value : Json} {content : PyStr} {allowEmpty : Bool} {maximum : Nat}
    (checked : text value name allowEmpty maximum = .ok content) :
    Floatless value := by
  cases value with
  | str value => exact .str value
  | _ => simp [text] at checked

theorem floatless_of_identifier {value : Json} {content : PyStr}
    (checked : identifier value name = .ok content) : Floatless value := by
  simp only [identifier, bind_eq_ok] at checked
  obtain ⟨_, isText, -⟩ := checked
  exact floatless_of_text isText

theorem floatless_of_mapM {Result : Type} {transform : Json → Except PyError Result}
    {items : List Json} {results : List Result} (mapped : items.mapM transform = .ok results)
    (each : ∀ item result, transform item = .ok result → Floatless item) :
    ∀ item ∈ items, Floatless item := by
  rw [mapM_eq_ok] at mapped
  induction mapped with
  | nil => simp
  | cons first rest ih =>
    rw [List.forall_mem_cons]
    exact ⟨each _ _ first, ih⟩

theorem floatless_of_uniqueStrings {value : Json} {allowEmpty : Bool} {strings : List PyStr}
    (checked : uniqueStrings value name allowEmpty = .ok strings) :
    Floatless value := by
  simp only [uniqueStrings, bind_eq_ok] at checked
  obtain ⟨items, isArray, _, mapped, -⟩ := checked
  cases value with
  | arr items =>
    obtain rfl : _ = items := (Except.ok.inj isArray).symm
    exact .arr (floatless_of_mapM mapped fun _ _ => floatless_of_text)
  | _ => simp [array] at isArray

theorem floatless_of_member {α : Type} {vocabulary : List (α × PyStr)} {value : Json}
    {error : PyError} {found : α} (checked : member vocabulary value error = .ok found) :
    Floatless value := by
  cases value with
  | str value => exact .str value
  | _ => simp [member] at checked

theorem floatless_of_boolean {value : Json} {error : PyError} {flag : Bool}
    (checked : boolean value error = .ok flag) : Floatless value := by
  cases value with
  | bool value => exact .bool value
  | _ => simp [boolean] at checked

theorem floatless_of_integer {value : Json} {error : PyError} {number : Int}
    (checked : integer value error = .ok number) : Floatless value := by
  cases value with
  | int value => exact .int value
  | _ => simp [integer] at checked

/-! ### Objects -/

theorem item_eq_ok {fields : List (PyStr × Json)} {key : PyStr} {value : Json} :
    item fields key = .ok value ↔ fields.lookup key = some value := by
  unfold item Json.lookup
  cases fields.lookup key <;> simp

theorem floatless_item {fields : List (PyStr × Json)} {key : PyStr} {stored : Json}
    (read : item fields key = .ok stored) (checked : DistinctKeys stored → Floatless stored) :
    ∀ value, item fields key = .ok value → DistinctKeys value → Floatless value := by
  intro value found distinct
  obtain rfl : stored = value := Except.ok.inj (read.symm.trans found)
  exact checked distinct

theorem floatless_of_exactObject {value : Json} {expected : List PyStr}
    {fields : List (PyStr × Json)} (checked : exactObject value expected name = .ok fields)
    (distinct : DistinctKeys value)
    (each : ∀ key ∈ expected, ∀ stored, item fields key = .ok stored →
      DistinctKeys stored → Floatless stored) : Floatless value := by
  cases value with
  | obj entries =>
    simp only [exactObject, bind_eq_ok, raiseIf_eq_ok, pure_eq_ok, not_not] at checked
    obtain ⟨-, ⟨known, -⟩, rfl⟩ := checked
    cases distinct with
    | obj keys all =>
      refine .obj fun field member => ?_
      refine each field.1 (known (List.mem_map_of_mem member)) field.2 ?_ (all field member)
      exact item_eq_ok.mpr (lookup_of_mem keys member)
  | _ => simp [exactObject] at checked

theorem floatless_of_validateScope {value : Json} {scope : Scope}
    (distinct : DistinctKeys value) (checked : validateScope value = .ok scope) :
    Floatless value := by
  refine (?_ : Returns (fun _ => Floatless value) (validateScope value)) scope checked
  unfold validateScope
  refine Returns.bind fun fields exact => ?_
  refine Returns.bind fun _ domainsRead => Returns.bind fun _ domains => ?_
  refine Returns.bind fun _ resourcesRead => Returns.bind fun _ resources => ?_
  refine Returns.bind fun _ wideningRead => Returns.bind fun _ widening => ?_
  refine Returns.bind fun _ _ => ?_
  refine Returns.pure (floatless_of_exactObject exact distinct ?_)
  simp only [List.forall_mem_cons, List.not_mem_nil, false_implies, forall_const, and_true]
  refine ⟨?_, ?_, ?_⟩
  · exact floatless_item domainsRead fun _ => floatless_of_uniqueStrings domains
  · exact floatless_item resourcesRead fun _ => floatless_of_uniqueStrings resources
  · exact floatless_item wideningRead fun _ => floatless_of_boolean widening

theorem floatless_of_validateDependency {value : Json} {dependency : Dependency}
    (distinct : DistinctKeys value) (checked : validateDependency value = .ok dependency) :
    Floatless value := by
  refine (?_ : Returns (fun _ => Floatless value) (validateDependency value)) dependency checked
  unfold validateDependency
  refine Returns.bind fun fields exact => ?_
  refine Returns.bind fun _ identityRead => Returns.bind fun _ identity => ?_
  refine Returns.bind fun _ requiredRead => Returns.bind fun _ required => ?_
  refine Returns.bind fun _ descriptionRead => Returns.bind fun _ description => ?_
  refine Returns.pure (floatless_of_exactObject exact distinct ?_)
  simp only [List.forall_mem_cons, List.not_mem_nil, false_implies, forall_const, and_true]
  refine ⟨?_, ?_, ?_⟩
  · exact floatless_item identityRead fun _ => floatless_of_identifier identity
  · exact floatless_item requiredRead fun _ => floatless_of_boolean required
  · exact floatless_item descriptionRead fun _ => floatless_of_text description

theorem floatless_of_validateDependencies {value : Json} {dependencies : List Dependency}
    (distinct : DistinctKeys value) (checked : validateDependencies value = .ok dependencies) :
    Floatless value := by
  simp only [validateDependencies, bind_eq_ok] at checked
  obtain ⟨items, isArray, loop⟩ := checked
  cases value with
  | arr values =>
    obtain rfl : values = items := Except.ok.inj isArray
    cases distinct with
    | arr all =>
      refine .arr ?_
      clear isArray
      generalize [] = seen at loop
      induction values generalizing seen dependencies with
      | nil => simp
      | cons first values ih =>
        simp only [validateDependenciesFrom, bind_eq_ok] at loop
        obtain ⟨_, firstChecked, -, -, rest, restChecked, -⟩ := loop
        rw [List.forall_mem_cons] at all ⊢
        exact ⟨floatless_of_validateDependency all.1 firstChecked,
          ih all.2 _ restChecked⟩
  | _ => simp [array] at isArray

theorem floatless_of_validateRetryPolicy {value : Json} {policy : RetryPolicy}
    (distinct : DistinctKeys value) (checked : validateRetryPolicy value = .ok policy) :
    Floatless value := by
  refine (?_ : Returns (fun _ => Floatless value) (validateRetryPolicy value)) policy checked
  unfold validateRetryPolicy
  refine Returns.bind fun fields exact => ?_
  refine Returns.bind fun _ maxAttemptsRead => Returns.bind fun _ maxAttempts => ?_
  refine Returns.bind fun _ _ => ?_
  refine Returns.bind fun _ onExhaustedRead => Returns.bind fun _ onExhausted => ?_
  refine Returns.pure (floatless_of_exactObject exact distinct ?_)
  simp only [List.forall_mem_cons, List.not_mem_nil, false_implies, forall_const, and_true]
  refine ⟨?_, ?_⟩
  · exact floatless_item maxAttemptsRead fun _ => floatless_of_integer maxAttempts
  · exact floatless_item onExhaustedRead fun _ => floatless_of_member onExhausted

theorem floatless_of_claimStrings {fields : List (PyStr × Json)} {key : PyStr}
    {strings : List PyStr} (checked : (do uniqueStrings (← item fields key) name) = .ok strings) :
    ∀ stored, item fields key = .ok stored → DistinctKeys stored → Floatless stored := by
  obtain ⟨stored, read, areStrings⟩ := bind_eq_ok.mp checked
  exact floatless_item read fun _ => floatless_of_uniqueStrings areStrings

theorem floatless_of_validateResourceClaims {value : Json} {claims : ResourceClaims}
    (distinct : DistinctKeys value) (checked : validateResourceClaims value = .ok claims) :
    Floatless value := by
  refine (?_ : Returns (fun _ => Floatless value) (validateResourceClaims value)) claims checked
  unfold validateResourceClaims
  refine Returns.bind fun fields exact => ?_
  refine Returns.bind fun _ readScopes => Returns.bind fun _ writeScopes => ?_
  refine Returns.bind fun _ budgets => Returns.bind fun _ subjects => ?_
  refine Returns.bind fun _ replayRead => Returns.bind fun _ replay => ?_
  refine Returns.bind fun _ groupRead => Returns.bind fun _ group => ?_
  refine Returns.pure (floatless_of_exactObject exact distinct ?_)
  simp only [List.forall_mem_cons, List.not_mem_nil, false_implies, forall_const, and_true]
  refine ⟨floatless_of_claimStrings readScopes, floatless_of_claimStrings writeScopes,
    floatless_of_claimStrings budgets, floatless_of_claimStrings subjects, ?_, ?_⟩
  · exact floatless_item replayRead fun _ => floatless_of_text replay
  · exact floatless_item groupRead fun _ => floatless_of_text group

theorem floatless_of_mapM_entries {Result : Type}
    {transform : PyStr × Json → Except PyError Result} {entries : List (PyStr × Json)}
    {results : List Result} (mapped : entries.mapM transform = .ok results)
    (each : ∀ entry result, transform entry = .ok result → Floatless entry.2) :
    Floatless (.obj entries) := by
  refine .obj ?_
  rw [mapM_eq_ok] at mapped
  induction mapped with
  | nil => simp
  | cons first rest ih =>
    rw [List.forall_mem_cons]
    exact ⟨each _ _ first, ih⟩

theorem floatless_of_validateOutcomeMap {value : Json} {outcomeMap : List (OutcomeLabel × PyStr)}
    (checked : validateOutcomeMap stateSet value = .ok outcomeMap) : Floatless value := by
  unfold validateOutcomeMap at checked
  dsimp only at checked
  split at checked
  · simp at checked
  · refine floatless_of_mapM_entries checked fun entry result accepted => ?_
    simp only [validateOutcome, bind_eq_ok] at accepted
    obtain ⟨_, -, _, isText, -⟩ := accepted
    exact floatless_of_text isText
  · simp at checked

theorem floatless_of_validateTransition {dependencySet : List PyStr} {value : Json}
    {transition : Transition} (distinct : DistinctKeys value)
    (checked : validateTransition stateSet dependencySet value = .ok transition) :
    Floatless value := by
  refine (?_ : Returns (fun _ => Floatless value)
    (validateTransition stateSet dependencySet value)) transition checked
  unfold validateTransition
  refine Returns.bind fun fields exact => ?_
  refine Returns.bind fun _ identityRead => Returns.bind fun _ identity => ?_
  refine Returns.bind fun _ kindRead => Returns.bind fun _ kind => ?_
  refine Returns.bind fun _ sourcesRead => Returns.bind fun _ sources => ?_
  refine Returns.bind fun _ _ => ?_
  refine Returns.bind fun _ triggerRead => Returns.bind fun _ trigger => ?_
  refine Returns.bind fun _ dependenciesRead => Returns.bind fun _ dependencies => ?_
  refine Returns.bind fun _ _ => ?_
  refine Returns.bind fun _ guardsRead => Returns.bind fun _ guards => ?_
  refine Returns.bind fun _ evidenceRead => Returns.bind fun _ evidence => ?_
  refine Returns.bind fun _ currentnessRead => Returns.bind fun _ currentness => ?_
  refine Returns.bind fun _ authorityRead => Returns.bind fun _ authority => ?_
  refine Returns.bind fun _ operatorRead => Returns.bind fun _ operator => ?_
  refine Returns.bind fun _ postconditionsRead => Returns.bind fun _ postconditions => ?_
  refine Returns.bind fun _ outcomesRead => Returns.bind fun _ outcomes => ?_
  refine Returns.bind fun _ retryRead => Returns.bind fun _ retry => ?_
  refine Returns.bind fun _ replayRead => Returns.bind fun _ replay => ?_
  refine Returns.bind fun _ idempotencyRead => Returns.bind fun _ idempotency => ?_
  refine Returns.bind fun _ claimsRead => Returns.bind fun _ claims => ?_
  refine Returns.bind fun _ _ => ?_
  refine Returns.bind fun _ _ => ?_
  refine Returns.bind fun _ _ => ?_
  refine Returns.bind fun _ _ => ?_
  refine Returns.bind fun _ _ => ?_
  refine Returns.pure (floatless_of_exactObject exact distinct ?_)
  simp only [transitionFields, List.forall_mem_cons, List.not_mem_nil, false_implies,
    forall_const, and_true]
  refine ⟨?_, ?_, ?_, ?_, ?_, ?_, ?_, ?_, ?_, ?_, ?_, ?_, ?_, ?_, ?_, ?_⟩
  · exact floatless_item identityRead fun _ => floatless_of_identifier identity
  · exact floatless_item kindRead fun _ => floatless_of_member kind
  · exact floatless_item sourcesRead fun _ => floatless_of_uniqueStrings sources
  · exact floatless_item triggerRead fun _ => floatless_of_text trigger
  · exact floatless_item dependenciesRead fun _ => floatless_of_uniqueStrings dependencies
  · exact floatless_item guardsRead fun _ => floatless_of_uniqueStrings guards
  · exact floatless_item evidenceRead fun _ => floatless_of_uniqueStrings evidence
  · exact floatless_item currentnessRead fun _ => floatless_of_uniqueStrings currentness
  · exact floatless_item authorityRead fun _ => floatless_of_uniqueStrings authority
  · exact floatless_item operatorRead fun _ => floatless_of_member operator
  · exact floatless_item postconditionsRead fun _ => floatless_of_uniqueStrings postconditions
  · exact floatless_item outcomesRead fun _ => floatless_of_validateOutcomeMap outcomes
  · exact floatless_item retryRead fun nested => floatless_of_validateRetryPolicy nested retry
  · exact floatless_item replayRead fun _ => floatless_of_member replay
  · exact floatless_item idempotencyRead fun _ => floatless_of_member idempotency
  · exact floatless_item claimsRead fun nested => floatless_of_validateResourceClaims nested claims

theorem floatless_of_validateTransitions {dependencySet : List PyStr} {value : Json}
    {transitions : List Transition} (distinct : DistinctKeys value)
    (checked : validateTransitions stateSet dependencySet value = .ok transitions) :
    Floatless value := by
  unfold validateTransitions at checked
  dsimp only at checked
  split at checked
  · simp at checked
  · rename_i values notEmpty
    clear notEmpty
    cases distinct with
    | arr all =>
      refine .arr ?_
      generalize [] = seen at checked
      induction values generalizing seen transitions with
      | nil => simp
      | cons first values ih =>
        simp only [validateTransitionsFrom, bind_eq_ok] at checked
        obtain ⟨_, firstChecked, -, -, rest, restChecked, -⟩ := checked
        rw [List.forall_mem_cons] at all ⊢
        exact ⟨floatless_of_validateTransition all.1 firstChecked, ih all.2 _ restChecked⟩
  · simp at checked

theorem floatless_of_validatePriorities {value : Json} {priorities : List (PyStr × Int)}
    (checked : validatePriorities transitionIds value = .ok priorities) :
    Floatless value := by
  unfold validatePriorities at checked
  dsimp only at checked
  split at checked
  · rw [bind_eq_ok] at checked
    obtain ⟨-, -, mapped⟩ := checked
    refine floatless_of_mapM_entries mapped fun entry result accepted => ?_
    simp only [validatePriority, bind_eq_ok] at accepted
    obtain ⟨_, -, _, isInteger, -⟩ := accepted
    exact floatless_of_integer isInteger
  · simp at checked

theorem floatless_of_groups {value : Json} {error : PyError} {items : List Json}
    {groups : List (List PyStr)} (isArray : array value error = .ok items)
    (mapped : items.mapM (validateGroup transitionIds) = .ok groups) : Floatless value := by
  cases value with
  | arr values =>
    obtain rfl : values = items := Except.ok.inj isArray
    refine .arr (floatless_of_mapM mapped fun item group accepted => ?_)
    simp only [validateGroup, bind_eq_ok] at accepted
    obtain ⟨_, areStrings, -⟩ := accepted
    exact floatless_of_uniqueStrings areStrings
  | _ => simp [array] at isArray

theorem floatless_of_validateScheduling {value : Json} {scheduling : Scheduling}
    (distinct : DistinctKeys value)
    (checked : validateScheduling transitionIds value = .ok scheduling) :
    Floatless value := by
  refine (?_ : Returns (fun _ => Floatless value)
    (validateScheduling transitionIds value)) scheduling checked
  unfold validateScheduling
  refine Returns.bind fun fields exact => ?_
  refine Returns.bind fun _ strategyRead => Returns.bind fun _ strategy => ?_
  refine Returns.bind fun _ orderRead => Returns.bind fun _ order => ?_
  refine Returns.bind fun _ _ => ?_
  refine Returns.bind fun _ prioritiesRead => Returns.bind fun _ priorities => ?_
  refine Returns.bind fun _ maxWipRead => Returns.bind fun _ maxWip => ?_
  refine Returns.bind fun _ _ => ?_
  refine Returns.bind fun _ groupsRead => Returns.bind fun _ groups =>
    Returns.bind fun _ groupsMapped => ?_
  refine Returns.pure (floatless_of_exactObject exact distinct ?_)
  simp only [List.forall_mem_cons, List.not_mem_nil, false_implies, forall_const, and_true]
  refine ⟨?_, ?_, ?_, ?_, ?_⟩
  · exact floatless_item strategyRead fun _ => floatless_of_member strategy
  · exact floatless_item orderRead fun _ => floatless_of_uniqueStrings order
  · exact floatless_item prioritiesRead fun _ => floatless_of_validatePriorities priorities
  · exact floatless_item maxWipRead fun _ => floatless_of_integer maxWip
  · exact floatless_item groupsRead fun _ => floatless_of_groups groups groupsMapped

theorem floatless_of_validateTermination {value : Json} {termination : Termination}
    (distinct : DistinctKeys value) (checked : validateTermination stateSet value = .ok termination) :
    Floatless value := by
  refine (?_ : Returns (fun _ => Floatless value)
    (validateTermination stateSet value)) termination checked
  unfold validateTermination
  refine Returns.bind fun fields exact => ?_
  refine Returns.bind fun _ terminalRead => Returns.bind fun _ terminal => ?_
  refine Returns.bind fun _ _ => ?_
  refine Returns.bind fun _ allowRead => Returns.bind fun _ allow => ?_
  refine Returns.bind fun _ onUnknownRead => Returns.bind fun _ onUnknown => ?_
  refine Returns.pure (floatless_of_exactObject exact distinct ?_)
  simp only [List.forall_mem_cons, List.not_mem_nil, false_implies, forall_const, and_true]
  refine ⟨?_, ?_, ?_⟩
  · exact floatless_item terminalRead fun _ => floatless_of_uniqueStrings terminal
  · exact floatless_item allowRead fun _ => floatless_of_boolean allow
  · exact floatless_item onUnknownRead fun _ => floatless_of_member onUnknown

theorem floatless_of_validateLineage {value : Json} {lineage : Lineage}
    (distinct : DistinctKeys value) (checked : validateLineage value = .ok lineage) :
    Floatless value := by
  refine (?_ : Returns (fun _ => Floatless value) (validateLineage value)) lineage checked
  unfold validateLineage
  refine Returns.bind fun fields exact => ?_
  refine Returns.bind fun _ parentsRead => Returns.bind fun _ parents => ?_
  refine Returns.bind fun _ _ => ?_
  refine Returns.bind fun _ generationRead => Returns.bind fun _ generation => ?_
  refine Returns.bind fun _ _ => ?_
  refine Returns.bind fun _ sourcesRead => Returns.bind fun _ sources => ?_
  refine Returns.pure (floatless_of_exactObject exact distinct ?_)
  simp only [List.forall_mem_cons, List.not_mem_nil, false_implies, forall_const, and_true]
  refine ⟨?_, ?_, ?_⟩
  · exact floatless_item parentsRead fun _ => floatless_of_uniqueStrings parents
  · exact floatless_item generationRead fun _ => floatless_of_integer generation
  · exact floatless_item sourcesRead fun _ => floatless_of_uniqueStrings sources

theorem floatless_of_validateSchemaVersion {value : Json} {done : Unit}
    (checked : validateSchemaVersion value = .ok done) : Floatless value := by
  cases value with
  | str value => exact .str value
  | _ => simp [validateSchemaVersion] at checked

theorem floatless_of_validateStates {value : Json} {states : List PyStr}
    (checked : validateStates value = .ok states) : Floatless value := by
  simp only [validateStates, bind_eq_ok] at checked
  obtain ⟨_, areStrings, -⟩ := checked
  exact floatless_of_uniqueStrings areStrings

theorem exactObject_of_rootObject {value : Json} {fields : List (PyStr × Json)}
    (checked : rootObject value = .ok fields) :
    exactObject value rootFields (py "ProcessIR") = .ok fields := by
  cases value with
  | obj entries => exact checked
  | _ => simp [rootObject] at checked

theorem floatless_of_validateProcessIr {value : Json} {model : Model}
    (distinct : DistinctKeys value) (checked : validateProcessIr value = .ok model) :
    Floatless value := by
  refine (?_ : Returns (fun _ => Floatless value) (validateProcessIr value)) model checked
  unfold validateProcessIr validateRoot
  refine Returns.bind fun fields exact => ?_
  refine Returns.bind fun _ schemaRead => Returns.bind fun _ schema => ?_
  refine Returns.bind fun _ identityRead => Returns.bind fun _ identity => ?_
  refine Returns.bind fun _ missionRead => Returns.bind fun _ mission => ?_
  refine Returns.bind fun _ goalRead => Returns.bind fun _ goal => ?_
  refine Returns.bind fun _ scopeRead => Returns.bind fun _ scope => ?_
  refine Returns.bind fun _ statesRead => Returns.bind fun _ states => ?_
  refine Returns.bind fun _ initialRead => Returns.bind fun _ initial => ?_
  refine Returns.bind fun _ dependenciesRead => Returns.bind fun _ dependencies => ?_
  refine Returns.bind fun _ transitionsRead => Returns.bind fun _ transitions => ?_
  refine Returns.bind fun _ schedulingRead => Returns.bind fun _ scheduling => ?_
  refine Returns.bind fun _ terminationRead => Returns.bind fun _ termination => ?_
  refine Returns.bind fun _ lineageRead => Returns.bind fun _ lineage => ?_
  refine Returns.pure (floatless_of_exactObject (exactObject_of_rootObject exact) distinct ?_)
  simp only [rootFields, List.forall_mem_cons, List.not_mem_nil, false_implies,
    forall_const, and_true]
  refine ⟨?_, ?_, ?_, ?_, ?_, ?_, ?_, ?_, ?_, ?_, ?_, ?_⟩
  · exact floatless_item schemaRead fun _ => floatless_of_validateSchemaVersion schema
  · exact floatless_item identityRead fun _ => floatless_of_identifier identity
  · exact floatless_item missionRead fun _ => floatless_of_text mission
  · exact floatless_item goalRead fun _ => floatless_of_text goal
  · exact floatless_item scopeRead fun nested => floatless_of_validateScope nested scope
  · exact floatless_item initialRead fun _ => floatless_of_member initial
  · exact floatless_item statesRead fun _ => floatless_of_validateStates states
  · exact floatless_item dependenciesRead fun nested =>
      floatless_of_validateDependencies nested dependencies
  · exact floatless_item transitionsRead fun nested =>
      floatless_of_validateTransitions nested transitions
  · exact floatless_item schedulingRead fun nested =>
      floatless_of_validateScheduling nested scheduling
  · exact floatless_item terminationRead fun nested =>
      floatless_of_validateTermination nested termination
  · exact floatless_item lineageRead fun nested => floatless_of_validateLineage nested lineage

end ProcessIR

end CyberLion
