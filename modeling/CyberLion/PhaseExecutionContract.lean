import CyberLion.PyConvert
import CyberLion.ProcessIR

/-!
# The execution contract of a phase

`compile_canonical_run_phase_contract` of
`contracts/phase_execution_contract.py` with the validator of the contract.
The validator returns the contract with its vocabularies read.
-/

namespace CyberLion

open PyLib

namespace PhaseContract

open ProcessIR (ofText)

/-- `class PhaseExecutionContractError(ValueError)`. -/
def contractErrorClass : ErrorClass :=
  .declared .valueError (py "PhaseExecutionContractError")

def contractError (text : PyStr) : PyError :=
  ⟨contractErrorClass, text⟩

inductive ExecutionClass
  | observe | verify | cognitive | verifyThenRepair | mutate | validate | control
  deriving DecidableEq

inductive BindingMode
  | static | dynamic
  deriving DecidableEq

inductive MissingCapabilityPolicy
  | fail | wait | waitAndDiscover | escalate
  deriving DecidableEq

inductive EffectCeiling
  | none | controlState | boundedLocal | boundedRepository | boundedMaterial
  deriving DecidableEq

inductive ContractSource
  | declared | migratedExplicit | legacyInferredSafe
  deriving DecidableEq

def executionClasses : List (ExecutionClass × PyStr) :=
  [(.observe, py "OBSERVE"), (.verify, py "VERIFY"), (.cognitive, py "COGNITIVE"),
    (.verifyThenRepair, py "VERIFY_THEN_REPAIR"), (.mutate, py "MUTATE"),
    (.validate, py "VALIDATE"), (.control, py "CONTROL")]

def bindingModes : List (BindingMode × PyStr) :=
  [(.static, py "STATIC"), (.dynamic, py "DYNAMIC")]

def missingCapabilityPolicies : List (MissingCapabilityPolicy × PyStr) :=
  [(.fail, py "FAIL"), (.wait, py "WAIT"), (.waitAndDiscover, py "WAIT_AND_DISCOVER"),
    (.escalate, py "ESCALATE")]

def effectCeilings : List (EffectCeiling × PyStr) :=
  [(.none, py "NONE"), (.controlState, py "CONTROL_STATE"), (.boundedLocal, py "BOUNDED_LOCAL"),
    (.boundedRepository, py "BOUNDED_REPOSITORY"), (.boundedMaterial, py "BOUNDED_MATERIAL")]

def isBounded (first later : CodePoint → Bool) : PyStr → Bool
  | [] => false
  | c :: rest => first c && rest.length ≤ 255 && rest.all later

/-- `_ID`. -/
def isId (text : PyStr) : Bool :=
  isBounded (fun c => c.isAsciiLetter || c.isAsciiDigit)
    (fun c => c.isAsciiLetter || c.isAsciiDigit || c ∈ py "._:/-") text

/-- `_TOKEN`. -/
def isToken (text : PyStr) : Bool :=
  isBounded CodePoint.isAsciiUpper
    (fun c => c.isAsciiUpper || c.isAsciiDigit || c ∈ py "_.:-") text

/-- `_PREDICATE`: two tokens around the first `=`. -/
def isPredicate (text : PyStr) : Bool :=
  let (name, found, expected) := partition 0x3D text
  found && isToken name && isToken expected

end PhaseContract

open PhaseContract ProcessIR

/-- `PhaseExecutionContract`, once it is validated. -/
structure PhaseExecutionContract where
  missionId : PyStr
  phaseId : PyStr
  ordinal : Nat
  executionClass : ExecutionClass
  capabilityClasses : List PyStr
  effectCeiling : EffectCeiling
  bindingMode : BindingMode
  onMissingCapability : MissingCapabilityPolicy
  autoResume : Bool
  verifyBeforeMutate : Bool
  currentnessRequirements : List PyStr
  evidenceRequirements : List PyStr
  completionPredicates : List PyStr
  contractSource : ContractSource

namespace PhaseContract

/-- `value not in <vocabulary>`. -/
def known {α : Type} (vocabulary : List (α × PyStr)) (value name : PyStr) : Except PyError α :=
  match ofText vocabulary value with
  | some found => .ok found
  | none => .error (contractError (name ++ py " invalid"))

/-- The loop over a collection.  The characters of the item stand for its
`repr`. -/
def checkItems (accepted : PyStr → Bool) (name : PyStr) (items : List PyStr) :
    Except PyError Unit :=
  items.forM fun item =>
    raiseIf (accepted item = false) (contractError (name ++ py " invalid: '" ++ item ++ py "'"))

end PhaseContract

end CyberLion
