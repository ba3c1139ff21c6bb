import CyberLion.CanonicalFields

/-!
# Key order and the Process IR contract

The contract reads an object by its keys, so a value is accepted exactly when its
sorted form is.  A validator that reads single fields returns the same for both; the two
maps of a process are listed in the order of their keys, and only their order
differs.
-/

namespace PyLib

/-! ### One computation after another -/

section LeadsTo

variable {ε α β γ δ : Type}

def LeadsTo (related : α → β → Prop) (first : Except ε α) (second : Except ε β) : Prop :=
  ∀ value, first = .ok value → ∃ other, second = .ok other ∧ related value other

variable {related : γ → δ → Prop} {first : Except ε α}

theorem LeadsTo.bind {middle : α → β → Prop} {second : Except ε β} {next : α → Except ε γ}
    {otherNext : β → Except ε δ} (leads : LeadsTo middle first second)
    (rest : ∀ value other, middle value other → LeadsTo related (next value) (otherNext other)) :
    LeadsTo related (first >>= next) (second >>= otherNext) := by
  intro result returned
  obtain ⟨value, isValue, resultReturned⟩ := bind_eq_ok.mp returned
  obtain ⟨other, isOther, holds⟩ := leads value isValue
  obtain ⟨otherResult, otherReturned, resultsRelated⟩ :=
    rest value other holds result resultReturned
  exact ⟨otherResult, bind_eq_ok.mpr ⟨other, isOther, otherReturned⟩, resultsRelated⟩

theorem LeadsTo.bind_same {next : α → Except ε γ} {otherNext : α → Except ε δ}
    (rest : ∀ value, LeadsTo related (next value) (otherNext value)) :
    LeadsTo related (first >>= next) (first >>= otherNext) := by
  intro result returned
  obtain ⟨value, isValue, resultReturned⟩ := bind_eq_ok.mp returned
  obtain ⟨otherResult, otherReturned, holds⟩ := rest value result resultReturned
  exact ⟨otherResult, bind_eq_ok.mpr ⟨value, isValue, otherReturned⟩, holds⟩

theorem LeadsTo.pure {related : α → β → Prop} {value : α} {other : β}
    (holds : related value other) :
    LeadsTo related (Pure.pure value : Except ε α) (Pure.pure other) := by
  intro result returned
  exact ⟨other, rfl, pure_eq_ok.mp returned ▸ holds⟩

/-- Each computation returns when the other does, with related values. -/
structure ReturnsAlike (related : α → β → Prop) (first : Except ε α) (second : Except ε β) :
    Prop where
  forward : LeadsTo related first second
  backward : LeadsTo (fun other value => related value other) second first

theorem ReturnsAlike.bind {middle : α → β → Prop} {second : Except ε β} {next : α → Except ε γ}
    {otherNext : β → Except ε δ} (alike : ReturnsAlike middle first second)
    (rest : ∀ value other, middle value other → ReturnsAlike related (next value) (otherNext other)) :
    ReturnsAlike related (first >>= next) (second >>= otherNext) :=
  ⟨alike.forward.bind fun value other holds => (rest value other holds).forward,
    alike.backward.bind fun other value holds => (rest value other holds).backward⟩

theorem ReturnsAlike.bind_same {next : α → Except ε γ} {otherNext : α → Except ε δ}
    (rest : ∀ value, ReturnsAlike related (next value) (otherNext value)) :
    ReturnsAlike related (first >>= next) (first >>= otherNext) :=
  ⟨.bind_same fun value => (rest value).forward, .bind_same fun value => (rest value).backward⟩

theorem ReturnsAlike.pure {related : α → β → Prop} {value : α} {other : β}
    (holds : related value other) :
    ReturnsAlike related (Pure.pure value : Except ε α) (Pure.pure other) :=
  ⟨.pure holds, .pure holds⟩

theorem ReturnsAlike.returned_eq {related : α → β → Prop} {second : Except ε β}
    (alike : ReturnsAlike related first second) :
    returned first = returned second := by
  cases isFirst : first with
  | ok value =>
    obtain ⟨other, isOther, -⟩ := alike.forward value isFirst
    rw [isOther]
    rfl
  | error error =>
    cases isSecond : second with
    | ok other =>
      obtain ⟨value, isValue, -⟩ := alike.backward other isSecond
      rw [isFirst] at isValue
      simp at isValue
    | error otherError => rfl

theorem leadsTo_mapM_of_perm {transform : α → Except ε β} {values others : List α}
    (same : values.Perm others) :
    LeadsTo (fun _ _ => True) (values.mapM transform) (others.mapM transform) := by
  intro results mapped
  obtain ⟨found, mappedOthers⟩ : ∃ found, others.mapM transform = .ok found :=
    exists_mapM_eq_ok (by
      intro value member
      obtain ⟨result, -, isResult⟩ :=
        exists_right_of_forall₂ (mapM_eq_ok.mp mapped) (same.mem_iff.mpr member)
      exact ⟨result, isResult⟩)
  exact ⟨found, mappedOthers, trivial⟩

theorem map_bind_eq (first : Except ε α) (change : α → β) (next : β → Except ε γ) :
    (first.map change >>= next) = first >>= fun value => next (change value) := by
  cases first <;> rfl

theorem mapM_map_eq (change : α → β) (transform : β → Except ε γ) (values : List α) :
    (values.map change).mapM transform =
      values.mapM fun value => transform (change value) := by
  induction values with
  | nil => rfl
  | cons value values ih => simp only [List.map_cons, List.mapM_cons, ih]

end LeadsTo

namespace Json

/-! ### Looking up a key -/

theorem lookup_orderedInsert (key : PyStr) (field : PyStr × Json)
    (fields : List (PyStr × Json)) :
    (fields.orderedInsert keyLe field).lookup key = (field :: fields).lookup key := by
  induction fields with
  | nil => rfl
  | cons first fields ih =>
    obtain ⟨name, value⟩ := field
    obtain ⟨firstName, firstValue⟩ := first
    rw [List.orderedInsert]
    split
    · rfl
    · rename_i after
      -- the first field stays in front only when its key differs
      have differ : firstName ≠ name := fun same => after (le_of_eq same.symm)
      simp only [List.lookup_cons, ih]
      by_cases isFirst : key = firstName
      · have notName : (key == name) = false := by simpa [isFirst] using differ
        have found : (key == firstName) = true := by simpa using isFirst
        simp only [notName, found]
      · have notFirst : (key == firstName) = false := by simpa using isFirst
        simp only [notFirst]

theorem lookup_sortFields_eq (key : PyStr) (fields : List (PyStr × Json)) :
    (sortFields fields).lookup key = fields.lookup key := by
  induction fields with
  | nil => rfl
  | cons field fields ih =>
    obtain ⟨name, value⟩ := field
    rw [sortFields, List.insertionSort_cons, lookup_orderedInsert, List.lookup_cons,
      List.lookup_cons, ← sortFields, ih]

theorem lookup_sortMembers (key : PyStr) (fields : List (PyStr × Json)) :
    (sortMembers fields).lookup key = (fields.lookup key).map sortKeys := by
  induction fields with
  | nil => rfl
  | cons field fields ih =>
    obtain ⟨name, value⟩ := field
    rw [sortMembers, List.lookup_cons, List.lookup_cons, ih]
    cases key == name <;> rfl

theorem keys_sortFields_sortMembers (fields : List (PyStr × Json)) (key : PyStr) :
    key ∈ (sortFields (sortMembers fields)).map Prod.fst ↔ key ∈ fields.map Prod.fst := by
  rw [((sortFields_perm _).map Prod.fst).mem_iff, keys_sortMembers]

end Json

end PyLib

namespace CyberLion

open PyLib Json

namespace ProcessIR

/-! ### Reading a sorted value -/

def sortedFields (fields : List (PyStr × Json)) : List (PyStr × Json) :=
  sortFields (sortMembers fields)

theorem item_sortedFields (fields : List (PyStr × Json)) (key : PyStr) :
    item (sortedFields fields) key = (item fields key).map sortKeys := by
  simp only [item, Json.lookup, sortedFields, lookup_sortFields_eq, lookup_sortMembers]
  cases fields.lookup key <;> rfl

theorem exactObject_sortKeys (value : Json) (expected : List PyStr) (name : PyStr) :
    exactObject value.sortKeys expected name =
      (exactObject value expected name).map sortedFields := by
  cases value with
  | obj fields =>
    have keys : (((sortedFields fields).map Prod.fst ⊆ expected ∧
        expected ⊆ (sortedFields fields).map Prod.fst)) ↔
        (fields.map Prod.fst ⊆ expected ∧ expected ⊆ fields.map Prod.fst) := by
      simp only [List.subset_def, sortedFields, keys_sortFields_sortMembers]
    rw [sortKeys, ← sortedFields]
    simp only [exactObject, keys, raiseIf]
    split <;> rfl
  | _ => simp [sortKeys, exactObject, Except.map]

@[simp]
theorem text_sortKeys (value : Json) (name : PyStr) (allowEmpty : Bool) (maximum : Nat) :
    text value.sortKeys name allowEmpty maximum = text value name allowEmpty maximum := by
  cases value <;> simp [sortKeys, text]

@[simp]
theorem identifier_sortKeys (value : Json) (name : PyStr) :
    identifier value.sortKeys name = identifier value name := by
  simp only [identifier, text_sortKeys]

theorem array_sortKeys (value : Json) (error : PyError) :
    array value.sortKeys error = (array value error).map fun items => items.map sortKeys := by
  cases value <;> simp [sortKeys, array, Except.map, sortItems_eq_map]

@[simp]
theorem uniqueStrings_sortKeys (value : Json) (name : PyStr) (allowEmpty : Bool) :
    uniqueStrings value.sortKeys name allowEmpty = uniqueStrings value name allowEmpty := by
  simp only [uniqueStrings, array_sortKeys, map_bind_eq, mapM_map_eq, text_sortKeys]

@[simp]
theorem member_sortKeys {α : Type} (vocabulary : List (α × PyStr)) (value : Json)
    (error : PyError) :
    member vocabulary value.sortKeys error = member vocabulary value error := by
  cases value <;> simp [sortKeys, member]

@[simp]
theorem boolean_sortKeys (value : Json) (error : PyError) :
    boolean value.sortKeys error = boolean value error := by
  cases value <;> simp [sortKeys, boolean]

@[simp]
theorem integer_sortKeys (value : Json) (error : PyError) :
    integer value.sortKeys error = integer value error := by
  cases value <;> simp [sortKeys, integer]

/-! ### Validators that read single fields -/

@[simp]
theorem validateStates_sortKeys (value : Json) :
    validateStates value.sortKeys = validateStates value := by
  simp only [validateStates, uniqueStrings_sortKeys]

@[simp]
theorem validateScope_sortKeys (value : Json) :
    validateScope value.sortKeys = validateScope value := by
  simp only [validateScope, exactObject_sortKeys, item_sortedFields, map_bind_eq,
    uniqueStrings_sortKeys, boolean_sortKeys]

@[simp]
theorem validateDependency_sortKeys (value : Json) :
    validateDependency value.sortKeys = validateDependency value := by
  simp only [validateDependency, exactObject_sortKeys, item_sortedFields, map_bind_eq,
    identifier_sortKeys, boolean_sortKeys, text_sortKeys]

theorem validateDependenciesFrom_sortKeys (seen : List PyStr) (values : List Json) :
    validateDependenciesFrom seen (values.map sortKeys) =
      validateDependenciesFrom seen values := by
  induction values generalizing seen with
  | nil => rfl
  | cons value values ih =>
    simp only [List.map_cons, validateDependenciesFrom, validateDependency_sortKeys, ih]

@[simp]
theorem validateDependencies_sortKeys (value : Json) :
    validateDependencies value.sortKeys = validateDependencies value := by
  simp only [validateDependencies, array_sortKeys, map_bind_eq,
    validateDependenciesFrom_sortKeys]

@[simp]
theorem validateRetryPolicy_sortKeys (value : Json) :
    validateRetryPolicy value.sortKeys = validateRetryPolicy value := by
  simp only [validateRetryPolicy, exactObject_sortKeys, item_sortedFields, map_bind_eq,
    integer_sortKeys, member_sortKeys]

@[simp]
theorem validateResourceClaims_sortKeys (value : Json) :
    validateResourceClaims value.sortKeys = validateResourceClaims value := by
  simp only [validateResourceClaims, exactObject_sortKeys, item_sortedFields, map_bind_eq,
    uniqueStrings_sortKeys, text_sortKeys]

@[simp]
theorem validateGroup_sortKeys (transitionIds : List PyStr) (value : Json) :
    validateGroup transitionIds value.sortKeys = validateGroup transitionIds value := by
  simp only [validateGroup, uniqueStrings_sortKeys]

@[simp]
theorem validateTermination_sortKeys (stateSet : List PyStr) (value : Json) :
    validateTermination stateSet value.sortKeys = validateTermination stateSet value := by
  simp only [validateTermination, exactObject_sortKeys, item_sortedFields, map_bind_eq,
    uniqueStrings_sortKeys, boolean_sortKeys, member_sortKeys]

@[simp]
theorem validateLineage_sortKeys (value : Json) :
    validateLineage value.sortKeys = validateLineage value := by
  simp only [validateLineage, exactObject_sortKeys, item_sortedFields, map_bind_eq,
    uniqueStrings_sortKeys, integer_sortKeys]

@[simp]
theorem validateSchemaVersion_sortKeys (value : Json) :
    validateSchemaVersion value.sortKeys = validateSchemaVersion value := by
  cases value <;> simp [sortKeys, validateSchemaVersion]

@[simp]
theorem validateInitialState_sortKeys (states : List PyStr) (value : Json) :
    validateInitialState states value.sortKeys = validateInitialState states value := by
  simp only [validateInitialState, member_sortKeys]

/-! ### The two maps -/

theorem sortedFields_perm (fields : List (PyStr × Json)) :
    (sortedFields fields).Perm (fields.map fun field => (field.1, sortKeys field.2)) := by
  rw [sortedFields, ← sortMembers_eq_map]
  exact sortFields_perm _

theorem returnsAlike_mapM_sortedFields {α : Type} {transform : PyStr × Json → Except PyError α}
    (same : ∀ key value, transform (key, sortKeys value) = transform (key, value))
    (fields : List (PyStr × Json)) :
    ReturnsAlike (fun _ _ => True) ((sortedFields fields).mapM transform)
      (fields.mapM transform) := by
  have forward := @leadsTo_mapM_of_perm _ _ _ transform _ _ (sortedFields_perm fields)
  have backward := @leadsTo_mapM_of_perm _ _ _ transform _ _ (sortedFields_perm fields).symm
  rw [mapM_map_eq] at forward backward
  simp only [same] at forward backward
  exact ⟨forward, backward⟩

theorem returnsAlike_validateOutcomeMap (stateSet : List PyStr) (value : Json) :
    ReturnsAlike (fun _ _ => True) (validateOutcomeMap stateSet value.sortKeys)
      (validateOutcomeMap stateSet value) := by
  cases value with
  | obj fields =>
    rw [sortKeys, ← sortedFields]
    cases fields with
    | nil =>
      constructor <;> intro result checked <;>
        simp [sortedFields, sortMembers, sortFields, validateOutcomeMap] at checked
    | cons field fields =>
      have leads := @returnsAlike_mapM_sortedFields _ (validateOutcome stateSet)
        (by simp [validateOutcome]) (field :: fields)
      have filled : sortedFields (field :: fields) ≠ [] := by
        intro empty
        have length := (sortedFields_perm (field :: fields)).length_eq
        simp [empty] at length
      obtain ⟨first, rest, shape⟩ := List.exists_cons_of_ne_nil filled
      rw [shape] at leads ⊢
      exact leads
  | _ =>
    constructor <;> intro result checked <;>
      simp [sortKeys, validateOutcomeMap] at checked

theorem returnsAlike_validatePriorities (transitionIds : List PyStr) (value : Json) :
    ReturnsAlike (fun _ _ => True) (validatePriorities transitionIds value.sortKeys)
      (validatePriorities transitionIds value) := by
  cases value with
  | obj fields =>
    have keys : (((sortedFields fields).map Prod.fst ⊆ transitionIds ∧
        transitionIds ⊆ (sortedFields fields).map Prod.fst)) ↔
        (fields.map Prod.fst ⊆ transitionIds ∧ transitionIds ⊆ fields.map Prod.fst) := by
      simp only [List.subset_def, sortedFields, keys_sortFields_sortMembers]
    rw [sortKeys, ← sortedFields]
    simp only [validatePriorities, keys]
    exact .bind_same fun _ =>
      returnsAlike_mapM_sortedFields (by simp [validatePriority]) fields
  | _ =>
    constructor <;> intro result checked <;>
      simp [sortKeys, validatePriorities] at checked

/-! ### Transitions and scheduling -/

theorem returnsAlike_validateTransition (stateSet dependencySet : List PyStr) (value : Json) :
    ReturnsAlike (fun first second : Transition => first.transitionId = second.transitionId)
      (validateTransition stateSet dependencySet value.sortKeys)
      (validateTransition stateSet dependencySet value) := by
  simp only [validateTransition, exactObject_sortKeys, item_sortedFields, map_bind_eq,
    uniqueStrings_sortKeys, identifier_sortKeys, member_sortKeys, text_sortKeys,
    validateRetryPolicy_sortKeys, validateResourceClaims_sortKeys]
  refine .bind_same fun fields => ?_
  repeat refine ReturnsAlike.bind_same fun _ => ?_
  refine (returnsAlike_validateOutcomeMap stateSet _).bind fun _ _ _ => ?_
  repeat refine ReturnsAlike.bind_same fun _ => ?_
  exact .pure rfl

theorem returnsAlike_validateTransitionsFrom (stateSet dependencySet seen : List PyStr)
    (values : List Json) :
    ReturnsAlike (fun first second : List Transition =>
        first.map Transition.transitionId = second.map Transition.transitionId)
      (validateTransitionsFrom stateSet dependencySet seen (values.map sortKeys))
      (validateTransitionsFrom stateSet dependencySet seen values) := by
  induction values generalizing seen with
  | nil => exact .pure rfl
  | cons value values ih =>
    simp only [List.map_cons, validateTransitionsFrom]
    refine (returnsAlike_validateTransition stateSet dependencySet value).bind
      fun first second same => ?_
    rw [same]
    refine .bind_same fun _ => (ih _).bind fun rest others sameRest => .pure ?_
    rw [List.map_cons, List.map_cons, same, sameRest]

theorem returnsAlike_validateTransitions (stateSet dependencySet : List PyStr) (value : Json) :
    ReturnsAlike (fun first second : List Transition =>
        first.map Transition.transitionId = second.map Transition.transitionId)
      (validateTransitions stateSet dependencySet value.sortKeys)
      (validateTransitions stateSet dependencySet value) := by
  cases value with
  | arr values =>
    rw [sortKeys, sortItems_eq_map]
    cases values with
    | nil =>
      constructor <;> intro result checked <;>
        simp [validateTransitions] at checked
    | cons first values =>
      exact returnsAlike_validateTransitionsFrom stateSet dependencySet [] (first :: values)
  | _ =>
    constructor <;> intro result checked <;>
      simp [sortKeys, validateTransitions] at checked

theorem returnsAlike_validateScheduling (transitionIds : List PyStr) (value : Json) :
    ReturnsAlike (fun _ _ => True) (validateScheduling transitionIds value.sortKeys)
      (validateScheduling transitionIds value) := by
  simp only [validateScheduling, exactObject_sortKeys, item_sortedFields, map_bind_eq,
    uniqueStrings_sortKeys, member_sortKeys, integer_sortKeys, array_sortKeys, mapM_map_eq,
    validateGroup_sortKeys]
  repeat refine ReturnsAlike.bind_same fun _ => ?_
  refine (returnsAlike_validatePriorities transitionIds _).bind fun _ _ _ => ?_
  repeat refine ReturnsAlike.bind_same fun _ => ?_
  exact .pure trivial

/-! ### The whole contract -/

theorem rootObject_sortKeys (value : Json) :
    rootObject value.sortKeys = (rootObject value).map sortedFields := by
  cases value with
  | obj fields => exact exactObject_sortKeys (.obj fields) rootFields (py "ProcessIR")
  | _ => simp [sortKeys, rootObject, Except.map]

theorem returnsAlike_validateProcessIr (value : Json) :
    ReturnsAlike (fun _ _ => True) (validateProcessIr value.sortKeys) (validateProcessIr value) := by
  simp only [validateProcessIr, rootObject_sortKeys, map_bind_eq]
  refine .bind_same fun fields => ?_
  simp only [validateRoot, item_sortedFields, map_bind_eq, validateSchemaVersion_sortKeys,
    identifier_sortKeys, text_sortKeys, validateScope_sortKeys, validateStates_sortKeys,
    validateInitialState_sortKeys, validateDependencies_sortKeys, validateTermination_sortKeys,
    validateLineage_sortKeys]
  repeat refine ReturnsAlike.bind_same fun _ => ?_
  refine (returnsAlike_validateTransitions _ _ _).bind fun first second same => ?_
  rw [same]
  refine .bind_same fun _ => (returnsAlike_validateScheduling _ _).bind fun _ _ _ => ?_
  repeat refine ReturnsAlike.bind_same fun _ => ?_
  exact .pure trivial

theorem leadsTo_validateProcessIr (value : Json) :
    LeadsTo (fun _ _ => True) (validateProcessIr value.sortKeys) (validateProcessIr value) :=
  (returnsAlike_validateProcessIr value).forward

end ProcessIR

end CyberLion
