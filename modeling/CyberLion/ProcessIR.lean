import CyberLion.JsonScan

/-!
# The Process IR contract

`contracts/process_ir.py`: the vocabulary of a process, its typed content, and
the validators that read it from a decoded JSON value.  Every validator
returns what it accepted, so the typed model below is exactly what
`validate_process_ir` has checked.
-/

namespace CyberLion

open PyLib

namespace ProcessIR

/-- `class ProcessIRContractError(ValueError)`. -/
def contractErrorClass : ErrorClass :=
  .declared .valueError (py "ProcessIRContractError")

def contractError (text : PyStr) : PyError :=
  ⟨contractErrorClass, text⟩

/-! ### Vocabulary -/

inductive TransitionClass
  | internal
  | actionRequired
  deriving DecidableEq

inductive Operator
  | observe | reacquire | assert | require | prohibit
  | derive | prepare | verify | falsify
  | requestAuthorityContext | verifyAuthorityContext
  | emitActionIntent | readback | reconcile
  | degrade | supersede | defer | continue | handoff | stop
  deriving DecidableEq

inductive OutcomeLabel
  | pass | fail | unknown | drift | blocked | authorityBoundary | complete
  deriving DecidableEq

inductive NextDirective
  | continue | defer | handoff | stop | complete
  deriving DecidableEq

inductive ReplayPolicy
  | deny | idempotent | reconcileFirst
  deriving DecidableEq

inductive IdempotencyClass
  | pure | idempotent | nonIdempotent
  deriving DecidableEq

inductive SchedulingStrategy
  | declaredOrder | explicitPriority
  deriving DecidableEq

inductive OnExhausted
  | blocked | handoff | stop | unknown
  deriving DecidableEq

inductive OnUnknown
  | handoff | stop | defer
  deriving DecidableEq

def ofText {α : Type} (vocabulary : List (α × PyStr)) (text : PyStr) : Option α :=
  (vocabulary.find? fun entry => entry.2 = text).map Prod.fst

def toText {α : Type} [DecidableEq α] (vocabulary : List (α × PyStr)) (member : α) :
    PyStr :=
  ((vocabulary.find? fun entry => entry.1 = member).map Prod.snd).getD []

def transitionClasses : List (TransitionClass × PyStr) :=
  [(.internal, py "INTERNAL"), (.actionRequired, py "ACTION_REQUIRED")]

def operators : List (Operator × PyStr) :=
  [(.observe, py "OBSERVE"), (.reacquire, py "REACQUIRE"), (.assert, py "ASSERT"),
    (.require, py "REQUIRE"), (.prohibit, py "PROHIBIT"), (.derive, py "DERIVE"),
    (.prepare, py "PREPARE"), (.verify, py "VERIFY"), (.falsify, py "FALSIFY"),
    (.requestAuthorityContext, py "REQUEST_AUTHORITY_CONTEXT"),
    (.verifyAuthorityContext, py "VERIFY_AUTHORITY_CONTEXT"),
    (.emitActionIntent, py "EMIT_ACTION_INTENT"), (.readback, py "READBACK"),
    (.reconcile, py "RECONCILE"), (.degrade, py "DEGRADE"),
    (.supersede, py "SUPERSEDE"), (.defer, py "DEFER"), (.continue, py "CONTINUE"),
    (.handoff, py "HANDOFF"), (.stop, py "STOP")]

def outcomeLabels : List (OutcomeLabel × PyStr) :=
  [(.pass, py "PASS"), (.fail, py "FAIL"), (.unknown, py "UNKNOWN"),
    (.drift, py "DRIFT"), (.blocked, py "BLOCKED"),
    (.authorityBoundary, py "AUTHORITY_BOUNDARY"), (.complete, py "COMPLETE")]

def nextDirectives : List (NextDirective × PyStr) :=
  [(.continue, py "CONTINUE"), (.defer, py "DEFER"), (.handoff, py "HANDOFF"),
    (.stop, py "STOP"), (.complete, py "COMPLETE")]

def replayPolicies : List (ReplayPolicy × PyStr) :=
  [(.deny, py "DENY"), (.idempotent, py "IDEMPOTENT"),
    (.reconcileFirst, py "RECONCILE_FIRST")]

def idempotencyClasses : List (IdempotencyClass × PyStr) :=
  [(.pure, py "PURE"), (.idempotent, py "IDEMPOTENT"),
    (.nonIdempotent, py "NON_IDEMPOTENT")]

def schedulingStrategies : List (SchedulingStrategy × PyStr) :=
  [(.declaredOrder, py "DECLARED_ORDER"), (.explicitPriority, py "EXPLICIT_PRIORITY")]

def onExhaustedChoices : List (OnExhausted × PyStr) :=
  [(.blocked, py "BLOCKED"), (.handoff, py "HANDOFF"), (.stop, py "STOP"),
    (.unknown, py "UNKNOWN")]

def onUnknownChoices : List (OnUnknown × PyStr) :=
  [(.handoff, py "HANDOFF"), (.stop, py "STOP"), (.defer, py "DEFER")]

/-! ### Content -/

structure Scope where
  domains : List PyStr
  resources : List PyStr

structure Dependency where
  dependencyId : PyStr
  required : Bool
  description : PyStr

structure RetryPolicy where
  maxAttempts : Int
  onExhausted : OnExhausted

structure ResourceClaims where
  readScopes : List PyStr
  writeScopes : List PyStr
  authorityBudgets : List PyStr
  currentnessSubjects : List PyStr
  replayDomain : PyStr
  reconciliationGroup : PyStr

structure Transition where
  transitionId : PyStr
  transitionClass : TransitionClass
  sourceStates : List PyStr
  trigger : PyStr
  dependencies : List PyStr
  guards : List PyStr
  evidenceRequirements : List PyStr
  currentnessRequirements : List PyStr
  authorityRequirements : List PyStr
  operator : Operator
  expectedPostconditions : List PyStr
  outcomeMap : List (OutcomeLabel × PyStr)
  retryPolicy : RetryPolicy
  replayPolicy : ReplayPolicy
  idempotencyClass : IdempotencyClass
  resourceClaims : ResourceClaims

structure Scheduling where
  strategy : SchedulingStrategy
  order : List PyStr
  priorities : List (PyStr × Int)
  maxWip : Int
  parallelSafeGroups : List (List PyStr)

structure Termination where
  terminalStates : List PyStr
  allowNoLegalTransition : Bool
  onUnknown : OnUnknown

structure Lineage where
  parentProcessDigests : List PyStr
  generation : Int
  sourceRefs : List PyStr

/-- The content of a Process IR, as `as_dict()` shows it after validation. -/
structure Model where
  processId : PyStr
  missionRef : PyStr
  goalRef : PyStr
  scope : Scope
  initialState : PyStr
  states : List PyStr
  dependencies : List Dependency
  transitions : List Transition
  schedulingPolicy : Scheduling
  terminationPolicy : Termination
  lineage : Lineage

/-! ### Elementary validators -/

/-- `value[key]`. -/
def item (fields : List (PyStr × Json)) (key : PyStr) : Except PyError Json :=
  match Json.lookup key fields with
  | some value => .ok value
  | none => .error ⟨.keyError, key⟩

def exactObject (value : Json) (expected : List PyStr) (name : PyStr) :
    Except PyError (List (PyStr × Json)) :=
  match value with
  | .obj fields => do
    let keys := fields.map Prod.fst
    raiseIf (¬ (keys ⊆ expected ∧ expected ⊆ keys))
      (contractError (name ++ py " keys are not canonical"))
    return fields
  | _ => .error (contractError (name ++ py " must be an object"))

def text (value : Json) (name : PyStr) (allowEmpty : Bool := false)
    (maximum : Nat := 4096) : Except PyError PyStr :=
  match value with
  | .str content => do
    raiseIf (content.length > maximum ∨ hasNul content = true)
      (contractError (name ++ py " must be a bounded string"))
    raiseIf (allowEmpty = false ∧ content = [])
      (contractError (name ++ py " must not be empty"))
    return content
  | _ => .error (contractError (name ++ py " must be a bounded string"))

/-- The whole text is a letter and at most 255 letters, digits and marks. -/
def isIdentifier : PyStr → Bool
  | [] => false
  | first :: rest =>
    first.isAsciiLetter && rest.length ≤ 255 &&
      rest.all fun c => c.isAsciiLetter || c.isAsciiDigit || c ∈ py "_.:/-"

def identifier (value : Json) (name : PyStr) : Except PyError PyStr := do
  let content ← text value name false 256
  raiseIf (isIdentifier content = false)
    (contractError (name ++ py " has invalid identifier syntax"))
  return content

def array (value : Json) (error : PyError) : Except PyError (List Json) :=
  match value with
  | .arr items => .ok items
  | _ => .error error

def uniqueStrings (value : Json) (name : PyStr) (allowEmpty : Bool := true) :
    Except PyError (List PyStr) := do
  let items ← array value (contractError (name ++ py " must be an array"))
  let result ← items.mapM fun member => text member name
  raiseIf (allowEmpty = false ∧ result = [])
    (contractError (name ++ py " must not be empty"))
  raiseIf (¬ result.Nodup) (contractError (name ++ py " must contain unique values"))
  return result

/-- `value not in <vocabulary>`: an unhashable value raises before the test. -/
def member {α : Type} (vocabulary : List (α × PyStr)) (value : Json) (error : PyError) :
    Except PyError α :=
  match value with
  | .str content =>
    match ofText vocabulary content with
    | some found => .ok found
    | none => .error error
  | .arr _ => .error ⟨.typeError, py "unhashable type: 'list'"⟩
  | .obj _ => .error ⟨.typeError, py "unhashable type: 'dict'"⟩
  | _ => .error error

/-- `type(value) is bool`. -/
def boolean (value : Json) (error : PyError) : Except PyError Bool :=
  match value with
  | .bool flag => .ok flag
  | _ => .error error

/-- `type(value) is int`. -/
def integer (value : Json) (error : PyError) : Except PyError Int :=
  match value with
  | .int number => .ok number
  | _ => .error error

/-! ### Validators of the parts -/

def validateStates (value : Json) : Except PyError (List PyStr) := do
  let states ← uniqueStrings value (py "states") false
  states.forM fun state => do
    let _ ← identifier (.str state) (py "state")
  return states

def validateScope (value : Json) : Except PyError Scope := do
  let fields ← exactObject value
    [py "domains", py "resources", py "widening_allowed"] (py "scope")
  let domains ← uniqueStrings (← item fields (py "domains")) (py "scope.domains") false
  let resources ← uniqueStrings (← item fields (py "resources")) (py "scope.resources")
  let notFalse := contractError (py "scope.widening_allowed must be false")
  let widening ← boolean (← item fields (py "widening_allowed")) notFalse
  raiseIf (widening = true) notFalse
  return ⟨domains, resources⟩

def validateDependency (value : Json) : Except PyError Dependency := do
  let fields ← exactObject value
    [py "dependency_id", py "required", py "description"] (py "dependency")
  let dependencyId ← identifier (← item fields (py "dependency_id"))
    (py "dependency.dependency_id")
  let required ← boolean (← item fields (py "required"))
    (contractError (py "dependency.required must be boolean"))
  let description ← text (← item fields (py "description"))
    (py "dependency.description")
  return ⟨dependencyId, required, description⟩

/-- The loop over the dependencies, with the identifiers already seen. -/
def validateDependenciesFrom (seen : List PyStr) :
    List Json → Except PyError (List Dependency)
  | [] => .ok []
  | value :: values => do
    let dependency ← validateDependency value
    raiseIf (dependency.dependencyId ∈ seen)
      (contractError (py "duplicate dependency_id"))
    let rest ← validateDependenciesFrom (dependency.dependencyId :: seen) values
    return dependency :: rest

def validateDependencies (value : Json) : Except PyError (List Dependency) := do
  let values ← array value (contractError (py "dependencies must be an array"))
  validateDependenciesFrom [] values

def validateRetryPolicy (value : Json) : Except PyError RetryPolicy := do
  let fields ← exactObject value [py "max_attempts", py "on_exhausted"]
    (py "retry_policy")
  let maxAttempts ← integer (← item fields (py "max_attempts"))
    (contractError (py "retry_policy.max_attempts must be integer"))
  raiseIf (maxAttempts < 0 ∨ maxAttempts > 100)
    (contractError (py "retry_policy.max_attempts out of range"))
  let onExhausted ← member onExhaustedChoices (← item fields (py "on_exhausted"))
    (contractError (py "retry_policy.on_exhausted invalid"))
  return ⟨maxAttempts, onExhausted⟩

def validateResourceClaims (value : Json) : Except PyError ResourceClaims := do
  let fields ← exactObject value
    [py "read_scopes", py "write_scopes", py "authority_budgets",
      py "currentness_subjects", py "replay_domain", py "reconciliation_group"]
    (py "resource_claims")
  let strings := fun key : PyStr => do
    uniqueStrings (← item fields key) (py "resource_claims." ++ key)
  let readScopes ← strings (py "read_scopes")
  let writeScopes ← strings (py "write_scopes")
  let authorityBudgets ← strings (py "authority_budgets")
  let currentnessSubjects ← strings (py "currentness_subjects")
  let replayDomain ← text (← item fields (py "replay_domain"))
    (py "resource_claims.replay_domain") true
  let reconciliationGroup ← text (← item fields (py "reconciliation_group"))
    (py "resource_claims.reconciliation_group") true
  return ⟨readScopes, writeScopes, authorityBudgets, currentnessSubjects,
    replayDomain, reconciliationGroup⟩

def validateOutcome (stateSet : List PyStr) (entry : PyStr × Json) :
    Except PyError (OutcomeLabel × PyStr) := do
  let outcome ← member outcomeLabels (.str entry.1)
    (contractError (py "transition.outcome_map has unknown outcome"))
  let target ← text entry.2 (py "transition.outcome_map target")
  raiseIf (target ∉ stateSet ∧ ofText nextDirectives target = none)
    (contractError (py "transition.outcome_map target invalid"))
  return (outcome, target)

def validateOutcomeMap (stateSet : List PyStr) (value : Json) :
    Except PyError (List (OutcomeLabel × PyStr)) :=
  let notObject := contractError (py "transition.outcome_map must be a non-empty object")
  match value with
  | .obj [] => .error notObject
  | .obj entries => entries.mapM (validateOutcome stateSet)
  | _ => .error notObject

def transitionFields : List PyStr :=
  [py "transition_id", py "transition_class", py "source_states", py "trigger",
    py "dependencies", py "guards", py "evidence_requirements",
    py "currentness_requirements", py "authority_requirements", py "operator",
    py "expected_postconditions", py "outcome_map", py "retry_policy",
    py "replay_policy", py "idempotency_class", py "resource_claims"]

def validateTransition (stateSet dependencySet : List PyStr) (value : Json) :
    Except PyError Transition := do
  let fields ← exactObject value transitionFields (py "transition")
  let transitionId ← identifier (← item fields (py "transition_id"))
    (py "transition.transition_id")
  let transitionClass ← member transitionClasses (← item fields (py "transition_class"))
    (contractError (py "transition.transition_class invalid"))
  let sourceStates ← uniqueStrings (← item fields (py "source_states"))
    (py "transition.source_states") false
  raiseIf (¬ sourceStates ⊆ stateSet)
    (contractError (py "transition references undefined source state"))
  let trigger ← text (← item fields (py "trigger")) (py "transition.trigger")
  let dependencies ← uniqueStrings (← item fields (py "dependencies"))
    (py "transition.dependencies")
  raiseIf (¬ dependencies ⊆ dependencySet)
    (contractError (py "transition references undefined dependency"))
  let guards ← uniqueStrings (← item fields (py "guards")) (py "transition.guards")
  let evidence ← uniqueStrings (← item fields (py "evidence_requirements"))
    (py "transition.evidence_requirements")
  let currentness ← uniqueStrings (← item fields (py "currentness_requirements"))
    (py "transition.currentness_requirements")
  let authority ← uniqueStrings (← item fields (py "authority_requirements"))
    (py "transition.authority_requirements")
  let operator ← member operators (← item fields (py "operator"))
    (contractError (py "transition.operator invalid"))
  let expectedPostconditions ← uniqueStrings
    (← item fields (py "expected_postconditions"))
    (py "transition.expected_postconditions")
  let outcomeMap ← validateOutcomeMap stateSet (← item fields (py "outcome_map"))
  let retry ← validateRetryPolicy (← item fields (py "retry_policy"))
  let replayPolicy ← member replayPolicies (← item fields (py "replay_policy"))
    (contractError (py "transition.replay_policy invalid"))
  let idempotencyClass ← member idempotencyClasses
    (← item fields (py "idempotency_class"))
    (contractError (py "transition.idempotency_class invalid"))
  let claims ← validateResourceClaims (← item fields (py "resource_claims"))
  raiseIf (¬ currentness ⊆ claims.currentnessSubjects)
    (contractError
      (py "currentness requirements must bind declared currentness subjects"))
  raiseIf (transitionClass = .actionRequired ∧ operator ≠ .emitActionIntent)
    (contractError (py "ACTION_REQUIRED transition must use EMIT_ACTION_INTENT"))
  raiseIf (transitionClass = .actionRequired ∧
      (evidence = [] ∨ currentness = [] ∨ authority = []))
    (contractError (py
      "ACTION_REQUIRED transition requires evidence, currentness and authority requirements"))
  raiseIf (transitionClass ≠ .actionRequired ∧ operator = .emitActionIntent)
    (contractError (py "INTERNAL transition cannot emit ActionIntent"))
  raiseIf (idempotencyClass = .nonIdempotent ∧ retry.maxAttempts > 0 ∧
      replayPolicy ≠ .reconcileFirst)
    (contractError (py "non-idempotent retry requires RECONCILE_FIRST replay policy"))
  return {
    transitionId, transitionClass, sourceStates, trigger, dependencies, guards
    evidenceRequirements := evidence
    currentnessRequirements := currentness
    authorityRequirements := authority
    operator, expectedPostconditions, outcomeMap
    retryPolicy := retry
    replayPolicy, idempotencyClass
    resourceClaims := claims }

/-- The loop over the transitions, with the identifiers already seen. -/
def validateTransitionsFrom (stateSet dependencySet seen : List PyStr) :
    List Json → Except PyError (List Transition)
  | [] => .ok []
  | value :: values => do
    let transition ← validateTransition stateSet dependencySet value
    raiseIf (transition.transitionId ∈ seen)
      (contractError (py "duplicate transition_id"))
    let rest ← validateTransitionsFrom stateSet dependencySet
      (transition.transitionId :: seen) values
    return transition :: rest

def validateTransitions (stateSet dependencySet : List PyStr) (value : Json) :
    Except PyError (List Transition) :=
  let notArray := contractError (py "transitions must be a non-empty array")
  match value with
  | .arr [] => .error notArray
  | .arr values => validateTransitionsFrom stateSet dependencySet [] values
  | _ => .error notArray

def validatePriority (entry : PyStr × Json) : Except PyError (PyStr × Int) := do
  let key ← identifier (.str entry.1) (py "scheduling_policy.priorities key")
  let priority ← integer entry.2 (contractError (py "scheduling priority invalid"))
  raiseIf (priority < 0) (contractError (py "scheduling priority invalid"))
  return (key, priority)

def validatePriorities (transitionIds : List PyStr) (value : Json) :
    Except PyError (List (PyStr × Int)) := do
  let notCovering := contractError
    (py "scheduling_policy.priorities must cover all transitions")
  match value with
  | .obj entries =>
    let keys := entries.map Prod.fst
    raiseIf (¬ (keys ⊆ transitionIds ∧ transitionIds ⊆ keys)) notCovering
    entries.mapM validatePriority
  | _ => .error notCovering

def validateGroup (transitionIds : List PyStr) (value : Json) :
    Except PyError (List PyStr) := do
  let items ← uniqueStrings value (py "parallel_safe_group") false
  raiseIf (items.length < 2 ∨ ¬ items ⊆ transitionIds)
    (contractError (py "parallel safe group invalid"))
  return items

def validateScheduling (transitionIds : List PyStr) (value : Json) :
    Except PyError Scheduling := do
  let fields ← exactObject value
    [py "strategy", py "order", py "priorities", py "max_wip",
      py "parallel_safe_groups"] (py "scheduling_policy")
  let strategy ← member schedulingStrategies (← item fields (py "strategy"))
    (contractError (py "scheduling_policy.strategy invalid"))
  let order ← uniqueStrings (← item fields (py "order"))
    (py "scheduling_policy.order") false
  raiseIf (¬ (order ⊆ transitionIds ∧ transitionIds ⊆ order) ∨
      order.length ≠ transitionIds.length)
    (contractError
      (py "scheduling_policy.order must contain every transition exactly once"))
  let priorities ← validatePriorities transitionIds (← item fields (py "priorities"))
  let maxWipError := contractError (py "scheduling_policy.max_wip invalid")
  let maxWip ← integer (← item fields (py "max_wip")) maxWipError
  raiseIf (¬ (1 ≤ maxWip ∧ maxWip ≤ 128)) maxWipError
  let groups ← array (← item fields (py "parallel_safe_groups"))
    (contractError (py "parallel_safe_groups must be an array"))
  let parallelSafeGroups ← groups.mapM (validateGroup transitionIds)
  return ⟨strategy, order, priorities, maxWip, parallelSafeGroups⟩

def validateTermination (stateSet : List PyStr) (value : Json) :
    Except PyError Termination := do
  let fields ← exactObject value
    [py "terminal_states", py "allow_no_legal_transition", py "on_unknown"]
    (py "termination_policy")
  let terminalStates ← uniqueStrings (← item fields (py "terminal_states"))
    (py "termination_policy.terminal_states") false
  raiseIf (¬ terminalStates ⊆ stateSet)
    (contractError (py "termination_policy references undefined terminal state"))
  let allowNoLegalTransition ← boolean (← item fields (py "allow_no_legal_transition"))
    (contractError (py "allow_no_legal_transition must be boolean"))
  let onUnknown ← member onUnknownChoices (← item fields (py "on_unknown"))
    (contractError (py "termination_policy.on_unknown invalid"))
  return ⟨terminalStates, allowNoLegalTransition, onUnknown⟩

/-- The pattern `[0-9a-f]{64}` matches the whole text. -/
def isSha256 (text : PyStr) : Bool :=
  text.length == 64 && text.all CodePoint.isLowerHex

def validateLineage (value : Json) : Except PyError Lineage := do
  let fields ← exactObject value
    [py "parent_process_digests", py "generation", py "source_refs"] (py "lineage")
  let parents ← uniqueStrings (← item fields (py "parent_process_digests"))
    (py "lineage.parent_process_digests")
  parents.forM fun parent =>
    raiseIf (isSha256 parent = false) (contractError (py "parent process digest invalid"))
  let generationError := contractError (py "lineage.generation invalid")
  let generation ← integer (← item fields (py "generation")) generationError
  raiseIf (generation < 0) generationError
  let sourceRefs ← uniqueStrings (← item fields (py "source_refs"))
    (py "lineage.source_refs")
  return ⟨parents, generation, sourceRefs⟩

/-! ### The whole contract -/

def rootFields : List PyStr :=
  [py "schema_version", py "process_id", py "mission_ref", py "goal_ref",
    py "scope", py "initial_state", py "states", py "dependencies",
    py "transitions", py "scheduling_policy", py "termination_policy", py "lineage"]

def schemaVersion : PyStr := py "1.0.0"

/-- `value["schema_version"] != SCHEMA_VERSION`. -/
def validateSchemaVersion (value : Json) : Except PyError Unit :=
  match value with
  | .str content => raiseIf (content ≠ schemaVersion)
      (contractError (py "schema_version mismatch"))
  | _ => .error (contractError (py "schema_version mismatch"))

/-- `value["initial_state"] not in state_set`. -/
def validateInitialState (states : List PyStr) (value : Json) : Except PyError PyStr :=
  member (states.map fun state => (state, state)) value
    (contractError (py "initial_state is undefined"))

def rootObject (value : Json) : Except PyError (List (PyStr × Json)) :=
  match value with
  | .obj _ => exactObject value rootFields (py "ProcessIR")
  | _ => .error (contractError (py "Process IR must be an object"))

def validateRoot (fields : List (PyStr × Json)) : Except PyError Model := do
  validateSchemaVersion (← item fields (py "schema_version"))
  let processId ← identifier (← item fields (py "process_id")) (py "process_id")
  let missionRef ← text (← item fields (py "mission_ref")) (py "mission_ref")
  let goalRef ← text (← item fields (py "goal_ref")) (py "goal_ref")
  let scope ← validateScope (← item fields (py "scope"))
  let states ← validateStates (← item fields (py "states"))
  let initialState ← validateInitialState states (← item fields (py "initial_state"))
  let dependencies ← validateDependencies (← item fields (py "dependencies"))
  let dependencySet := dependencies.map Dependency.dependencyId
  let transitions ← validateTransitions states dependencySet
    (← item fields (py "transitions"))
  let transitionIds := transitions.map Transition.transitionId
  let schedulingPolicy ← validateScheduling transitionIds
    (← item fields (py "scheduling_policy"))
  let terminationPolicy ← validateTermination states
    (← item fields (py "termination_policy"))
  let lineage ← validateLineage (← item fields (py "lineage"))
  return ⟨processId, missionRef, goalRef, scope, initialState, states, dependencies,
    transitions, schedulingPolicy, terminationPolicy, lineage⟩

/-- `validate_process_ir`, with the typed view of the accepted value. -/
def validateProcessIr (value : Json) : Except PyError Model := do
  validateRoot (← rootObject value)

end ProcessIR

end CyberLion
