import CyberLion.FleetCoordinationRecords
import CyberLion.PhaseExecutionContract
import CyberLion.PolicyGateContracts

/-!
# The execution preflight

`preflight_execution_contracts` of `contracts/phase_execution_contract.py`: the contracts of
the phases of a mission against the registry of capabilities.
-/

namespace CyberLion

open PyLib
open FleetCoordination (textList writable_textList_iff)

namespace PhaseContract

open ProcessIR (ofText)

/-! ### Contracts that may be invalid -/

def contractSources : List (ContractSource × PyStr) :=
  [(.declared, py "DECLARED"), (.migratedExplicit, py "MIGRATED_EXPLICIT"),
    (.legacyInferredSafe, py "LEGACY_INFERRED_SAFE")]

def contractVersion : PyStr :=
  py "1.0.0"

def compilerVersion : PyStr :=
  py "lion.phase-contract-compiler/1.0"

/-- An instance of the class `PhaseExecutionContract`, whether or not it validates. -/
structure Stated where
  missionId : PyStr
  phaseId : PyStr
  ordinal : Int
  executionClass : PyStr
  capabilityClasses : List PyStr
  effectCeiling : PyStr
  bindingMode : PyStr
  onMissingCapability : PyStr
  autoResume : Bool
  verifyBeforeMutate : Bool
  currentnessRequirements : List PyStr
  evidenceRequirements : List PyStr
  completionPredicates : List PyStr
  contractSource : PyStr
  contractVersion : PyStr
  compilerVersion : PyStr

namespace Stated

def validate (contract : Stated) : Except PyError PhaseExecutionContract := do
  raiseIf (isId contract.missionId = false) (contractError (py "mission_id invalid"))
  raiseIf (isId contract.phaseId = false) (contractError (py "phase_id invalid"))
  raiseIf (contract.ordinal < 1) (contractError (py "ordinal invalid"))
  raiseIf (contract.contractVersion ≠ PhaseContract.contractVersion)
    (contractError (py "contract_version mismatch"))
  let executionClass ← known executionClasses contract.executionClass (py "execution_class")
  let effectCeiling ← known effectCeilings contract.effectCeiling (py "effect_ceiling")
  let bindingMode ← known bindingModes contract.bindingMode (py "binding_mode")
  let onMissingCapability ← known missingCapabilityPolicies contract.onMissingCapability
    (py "on_missing_capability")
  let contractSource ← known contractSources contract.contractSource (py "contract_source")
  raiseIf (contract.capabilityClasses = [] ∨ ¬ contract.capabilityClasses.Nodup)
    (contractError (py "capability_classes must be non-empty and unique"))
  checkItems isToken (py "capability_class") contract.capabilityClasses
  checkItems isToken (py "currentness_requirement") contract.currentnessRequirements
  checkItems isToken (py "evidence_requirement") contract.evidenceRequirements
  checkItems isPredicate (py "completion_predicate") contract.completionPredicates
  raiseIf (executionClass = .observe ∧ effectCeiling ≠ .none)
    (contractError (py "OBSERVE effect ceiling must be NONE"))
  raiseIf (executionClass = .verifyThenRepair ∧ contract.verifyBeforeMutate = false)
    (contractError (py "VERIFY_THEN_REPAIR requires verify_before_mutate"))
  raiseIf (executionClass = .mutate ∧ contract.evidenceRequirements = [])
    (contractError (py "MUTATE requires evidence requirements"))
  raiseIf (executionClass ∈ [ExecutionClass.verify, .verifyThenRepair, .validate] ∧
      contract.completionPredicates = [])
    (contractError (py "verification execution class requires completion predicates"))
  raiseIf (contract.autoResume = true ∧
      onMissingCapability ∉ [MissingCapabilityPolicy.wait, .waitAndDiscover])
    (contractError (py "auto_resume requires deterministic waiting policy"))
  return {
    missionId := contract.missionId
    phaseId := contract.phaseId
    ordinal := contract.ordinal.toNat
    executionClass, effectCeiling, bindingMode, onMissingCapability, contractSource
    capabilityClasses := contract.capabilityClasses
    autoResume := contract.autoResume
    verifyBeforeMutate := contract.verifyBeforeMutate
    currentnessRequirements := contract.currentnessRequirements
    evidenceRequirements := contract.evidenceRequirements
    completionPredicates := contract.completionPredicates }

/-- The value of `as_dict` that is digested. -/
def fields (contract : Stated) : List (PyStr × Json) :=
  [(py "schema", .str (py "lion.phase-execution-contract/v1")),
    (py "mission_id", .str contract.missionId), (py "phase_id", .str contract.phaseId),
    (py "ordinal", .int contract.ordinal),
    (py "contract_version", .str contract.contractVersion),
    (py "execution_class", .str contract.executionClass),
    (py "capability_classes", textList contract.capabilityClasses),
    (py "effect_ceiling", .str contract.effectCeiling),
    (py "binding_mode", .str contract.bindingMode),
    (py "on_missing_capability", .str contract.onMissingCapability),
    (py "auto_resume", .bool contract.autoResume),
    (py "verify_before_mutate", .bool contract.verifyBeforeMutate),
    (py "currentness_requirements", textList contract.currentnessRequirements),
    (py "evidence_requirements", textList contract.evidenceRequirements),
    (py "completion_predicates", textList contract.completionPredicates),
    (py "contract_source", .str contract.contractSource),
    (py "compiler_version", .str contract.compilerVersion)]

def contractDigest (contract : Stated) : Except PyError PyStr := do
  let _ ← contract.validate
  domainDigest [] (.obj contract.fields)

end Stated

/-! ### Capabilities -/

abbrev Capability := List (PyStr × Json)

abbrev CapabilityRegistry := List (PyStr × List Capability)

/-- `_EFFECT_ORDER`. -/
def EffectCeiling.order : EffectCeiling → Nat
  | none => 0
  | controlState => 1
  | boundedLocal => 2
  | boundedRepository => 3
  | boundedMaterial => 4

/-- `str(item.get("effect_ceiling") or "NONE")`, when it is a known effect. -/
def maxEffect (item : Capability) : Option EffectCeiling :=
  ofText effectCeilings
    (Json.pyStr (Json.pyOr (Json.get (py "effect_ceiling") item) (.str (py "NONE"))))

/-- `registry.get(cls, ())`. -/
def CapabilityRegistry.capabilities (registry : CapabilityRegistry) (cls : PyStr) :
    List Capability :=
  (registry.lookup cls).getD []

def fits (ceiling : EffectCeiling) (item : Capability) : Bool :=
  match maxEffect item with
  | none => false
  | some effect => effect.order ≤ ceiling.order

def capabilityMatches (registry : CapabilityRegistry) (contract : PhaseExecutionContract) :
    List Capability :=
  contract.capabilityClasses.flatMap fun cls =>
    (registry.capabilities cls).filter (fits contract.effectCeiling)

/-! ### The states of the phases -/

/-- `PHASE_CONTRACT_STATES`, as far as the preflight finds them. -/
inductive PhaseContractState
  | validBound | validUnboundWaiting | legacyInferredSafe | invalid
  deriving DecidableEq

def bindingState (contract : PhaseExecutionContract) (found : List Capability) :
    PhaseContractState :=
  if contract.contractSource = .legacyInferredSafe then .legacyInferredSafe
  else if found ≠ [] then .validBound
  else if contract.bindingMode = .dynamic ∧ contract.onMissingCapability ∈
      [MissingCapabilityPolicy.wait, .waitAndDiscover, .escalate] then .validUnboundWaiting
  else .invalid

/-- An entry of `phases`. -/
inductive PhaseEntry
  | rejected (phaseId reason : PyStr)
  | checked (phaseId contractDigest : PyStr) (contractSource : ContractSource)
      (state : PhaseContractState) (bindingMode : BindingMode)
      (capabilityClasses matchingCapabilities : List PyStr) (effectCeiling : EffectCeiling)

structure Tally where
  bound : Nat := 0
  dynamic : Nat := 0
  unbound : Nat := 0
  invalid : Nat := 0
  authorityOk : Bool := true
  currentnessOk : Bool := true
  evidenceOk : Bool := true
  phases : List PhaseEntry := []

def Tally.count (tally : Tally) (mode : BindingMode) : PhaseContractState → Tally
  | .legacyInferredSafe =>
    { tally with dynamic := tally.dynamic + 1, unbound := tally.unbound + 1 }
  | .validBound =>
    { tally with
      bound := tally.bound + 1
      dynamic := if mode = .dynamic then tally.dynamic + 1 else tally.dynamic }
  | .validUnboundWaiting =>
    { tally with dynamic := tally.dynamic + 1, unbound := tally.unbound + 1 }
  | .invalid => { tally with invalid := tally.invalid + 1 }

def checkedStep (registry : CapabilityRegistry) (tally : Tally) (contract : Stated)
    (valid : PhaseExecutionContract) : Except PyError Tally := do
  let found := capabilityMatches registry valid
  let state := bindingState valid found
  let digest ← contract.contractDigest
  let legacy := decide (valid.contractSource = .legacyInferredSafe)
  return { tally.count valid.bindingMode state with
    authorityOk := tally.authorityOk && !contract.effectCeiling.isEmpty
    currentnessOk := tally.currentnessOk && (!valid.currentnessRequirements.isEmpty || legacy)
    evidenceOk := tally.evidenceOk && (!valid.evidenceRequirements.isEmpty ||
      decide (valid.executionClass = .cognitive) || legacy)
    phases := tally.phases ++ [.checked contract.phaseId digest valid.contractSource state
      valid.bindingMode valid.capabilityClasses
      (found.map fun item => Json.pyStr (Json.get (py "capability_id") item))
      valid.effectCeiling] }

def preflightStep (registry : CapabilityRegistry) (tally : Tally) (contract : Stated) :
    Except PyError Tally :=
  match contract.validate with
  | .ok valid => checkedStep registry tally contract valid
  | .error error =>
    if error.isInstance contractErrorClass then
      .ok { tally with
        invalid := tally.invalid + 1
        phases := tally.phases ++ [.rejected contract.phaseId error.text] }
    else .error error

/-! ### The verdict -/

/-- `MISSION_READINESS_STATES`. -/
inductive MissionReadiness
  | readyBound | validWithDynamicBinding | waitingForCapabilities | invalid
  deriving DecidableEq

/-- The texts of the closures; `partly` is `PARTIAL`. -/
inductive Closure
  | pass | partly | fail | invalid
  deriving DecidableEq

structure ExecutionPreflight where
  phaseCount : Nat
  contractCount : Nat
  boundCount : Nat
  dynamicCount : Nat
  unboundCount : Nat
  invalidCount : Nat
  authorityClosure : Closure
  currentnessClosure : Closure
  evidenceClosure : Closure
  capabilityClosure : Closure
  missionReadiness : MissionReadiness
  phases : List PhaseEntry

def Tally.readiness (tally : Tally) (contracts : List Stated) : MissionReadiness :=
  if tally.invalid ≠ 0 then .invalid
  else if tally.unbound ≠ 0 ∧ tally.bound ≠ 0 then .validWithDynamicBinding
  else if tally.unbound ≠ 0 then .waitingForCapabilities
  else if contracts ≠ [] then .readyBound
  else .invalid

def Tally.closure (tally : Tally) (closed : Bool) : Closure :=
  if closed = true ∧ tally.invalid = 0 then .pass
  else if tally.invalid = 0 then .partly
  else .fail

def Tally.report (tally : Tally) (contracts : List Stated) : ExecutionPreflight where
  phaseCount := contracts.length
  contractCount := contracts.length
  boundCount := tally.bound
  dynamicCount := tally.dynamic
  unboundCount := tally.unbound
  invalidCount := tally.invalid
  authorityClosure := if tally.authorityOk = true ∧ tally.invalid = 0 then .pass else .fail
  currentnessClosure := tally.closure tally.currentnessOk
  evidenceClosure := tally.closure tally.evidenceOk
  capabilityClosure := if tally.invalid ≠ 0 then .invalid
    else if tally.unbound ≠ 0 then .partly else .pass
  missionReadiness := tally.readiness contracts
  phases := tally.phases

def preflightExecutionContracts (contracts : List Stated) (registry : CapabilityRegistry) :
    Except PyError ExecutionPreflight := do
  let tally ← contracts.foldlM (preflightStep registry) {}
  return tally.report contracts

/-! ### What a round counts -/

def stateOf (registry : CapabilityRegistry) (contract : Stated) : PhaseContractState :=
  match contract.validate with
  | .ok valid => bindingState valid (capabilityMatches registry valid)
  | .error _ => .invalid

def isUnbound (registry : CapabilityRegistry) (contract : Stated) : Bool :=
  stateOf registry contract = .legacyInferredSafe ∨
    stateOf registry contract = .validUnboundWaiting

variable {registry larger : CapabilityRegistry} {contract : Stated} {contracts : List Stated}
  {tally next : Tally} {result : ExecutionPreflight} {valid : PhaseExecutionContract}

theorem stateOf_of_validate (validated : contract.validate = .ok valid) :
    stateOf registry contract = bindingState valid (capabilityMatches registry valid) := by
  rw [stateOf, validated]

theorem preflightStep_counts (stepped : preflightStep registry tally contract = .ok next) :
    next.bound = tally.bound + (decide (stateOf registry contract = .validBound)).toNat ∧
      next.unbound = tally.unbound + (isUnbound registry contract).toNat ∧
      next.invalid = tally.invalid + (decide (stateOf registry contract = .invalid)).toNat := by
  simp only [isUnbound]
  unfold preflightStep at stepped
  split at stepped
  · rename_i valid validated
    rw [stateOf_of_validate validated]
    simp only [checkedStep, bind_eq_ok, pure_eq_ok] at stepped
    obtain ⟨_, -, rfl⟩ := stepped
    cases bindingState valid (capabilityMatches registry valid) <;> simp [Tally.count]
  · rename_i error rejected
    have isInvalid : stateOf registry contract = .invalid := by rw [stateOf, rejected]
    split_ifs at stepped
    obtain rfl := Except.ok.inj stepped
    simp [isInvalid]

theorem foldlM_counts {start : Tally}
    (looped : contracts.foldlM (preflightStep registry) start = .ok tally) :
    tally.bound = start.bound +
        contracts.countP (fun contract => stateOf registry contract = .validBound) ∧
      tally.unbound = start.unbound + contracts.countP (isUnbound registry) ∧
      tally.invalid = start.invalid +
        contracts.countP (fun contract => stateOf registry contract = .invalid) := by
  induction contracts generalizing start with
  | nil =>
    obtain rfl := Except.ok.inj looped
    simp
  | cons contract rest ih =>
    rw [List.foldlM_cons, bind_eq_ok] at looped
    obtain ⟨middle, stepped, continued⟩ := looped
    obtain ⟨bound, unbound, invalid⟩ := preflightStep_counts stepped
    obtain ⟨boundRest, unboundRest, invalidRest⟩ := ih continued
    simp only [List.countP_cons, Bool.cond_eq_ite, Bool.toNat] at *
    refine ⟨?_, ?_, ?_⟩ <;> split_ifs at * <;> simp_all <;> omega

theorem countP_states (registry : CapabilityRegistry) (contracts : List Stated) :
    contracts.countP (fun contract => stateOf registry contract = .validBound) +
        contracts.countP (isUnbound registry) +
        contracts.countP (fun contract => stateOf registry contract = .invalid) =
      contracts.length := by
  induction contracts with
  | nil => rfl
  | cons contract rest ih =>
    rw [List.countP_cons, List.countP_cons, List.countP_cons, List.length_cons]
    have one : (if decide (stateOf registry contract = .validBound) = true then 1 else 0) +
        (if isUnbound registry contract = true then 1 else 0) +
        (if decide (stateOf registry contract = .invalid) = true then 1 else 0) = 1 := by
      unfold isUnbound
      cases stateOf registry contract <;> simp
    omega

theorem preflight_eq_ok (returned : preflightExecutionContracts contracts registry = .ok result) :
    ∃ tally, contracts.foldlM (preflightStep registry) {} = .ok tally ∧
      result = tally.report contracts := by
  simp only [preflightExecutionContracts, bind_eq_ok, pure_eq_ok] at returned
  obtain ⟨tally, looped, rfl⟩ := returned
  exact ⟨tally, looped, rfl⟩

theorem preflight_counts (returned : preflightExecutionContracts contracts registry = .ok result) :
    result.boundCount =
        contracts.countP (fun contract => stateOf registry contract = .validBound) ∧
      result.unboundCount = contracts.countP (isUnbound registry) ∧
      result.invalidCount =
        contracts.countP (fun contract => stateOf registry contract = .invalid) := by
  obtain ⟨tally, looped, rfl⟩ := preflight_eq_ok returned
  obtain ⟨bound, unbound, invalid⟩ := foldlM_counts looped
  simp only [Nat.zero_add] at bound unbound invalid
  exact ⟨bound, unbound, invalid⟩

theorem missionReadiness_eq (returned : preflightExecutionContracts contracts registry = .ok result) :
    result.missionReadiness =
      if result.invalidCount ≠ 0 then .invalid
      else if result.unboundCount ≠ 0 ∧ result.boundCount ≠ 0 then .validWithDynamicBinding
      else if result.unboundCount ≠ 0 then .waitingForCapabilities
      else if contracts ≠ [] then .readyBound
      else .invalid := by
  obtain ⟨tally, -, rfl⟩ := preflight_eq_ok returned
  rfl

theorem missionReadiness_eq_invalid_iff
    (returned : preflightExecutionContracts contracts registry = .ok result) :
    result.missionReadiness = .invalid ↔
      contracts = [] ∨ ∃ contract ∈ contracts, stateOf registry contract = .invalid := by
  obtain ⟨bound, unbound, invalid⟩ := preflight_counts returned
  have someInvalid : result.invalidCount ≠ 0 ↔
      ∃ contract ∈ contracts, stateOf registry contract = .invalid := by
    rw [invalid, ← Nat.pos_iff_ne_zero, List.countP_pos_iff]
    simp
  rw [missionReadiness_eq returned, ← someInvalid]
  split_ifs with anyInvalid mixed waiting nonempty
  · simp [anyInvalid]
  · have nonempty : contracts ≠ [] := by
      rintro rfl
      exact mixed.1 unbound
    simp [anyInvalid, nonempty]
  · have nonempty : contracts ≠ [] := by
      rintro rfl
      exact waiting unbound
    simp [anyInvalid, nonempty]
  · simp [anyInvalid, nonempty]
  · simp [not_not.mp nonempty]

theorem missionReadiness_eq_readyBound_iff
    (returned : preflightExecutionContracts contracts registry = .ok result) :
    result.missionReadiness = .readyBound ↔
      contracts ≠ [] ∧ ∀ contract ∈ contracts, stateOf registry contract = .validBound := by
  obtain ⟨bound, unbound, invalid⟩ := preflight_counts returned
  have total := countP_states registry contracts
  rw [← bound, ← unbound, ← invalid] at total
  have allBound : result.boundCount = contracts.length ↔
      ∀ contract ∈ contracts, stateOf registry contract = .validBound := by
    rw [bound, List.countP_eq_length]
    simp
  rw [missionReadiness_eq returned, ← allBound]
  have noneLeft : result.boundCount = contracts.length ↔
      result.invalidCount = 0 ∧ result.unboundCount = 0 := by omega
  rw [noneLeft]
  split_ifs with anyInvalid mixed waiting nonempty
  · simp [anyInvalid]
  · simp [mixed.1]
  · simp [waiting]
  · simp [nonempty, not_not.mp anyInvalid, not_not.mp waiting]
  · simp [nonempty]

/-! ### What the registry offers -/

def Offers (registry : CapabilityRegistry) (cls : PyStr) (ceiling : EffectCeiling) : Prop :=
  ∃ item ∈ registry.capabilities cls, ∃ effect,
    maxEffect item = some effect ∧ effect.order ≤ ceiling.order

def PartlyOffered (registry : CapabilityRegistry) (contract : Stated) : Prop :=
  ∃ valid, contract.validate = .ok valid ∧ valid.contractSource ≠ .legacyInferredSafe ∧
    ∃ cls ∈ valid.capabilityClasses, Offers registry cls valid.effectCeiling

def FullyOffered (registry : CapabilityRegistry) (contract : Stated) : Prop :=
  ∃ valid, contract.validate = .ok valid ∧
    ∀ cls ∈ valid.capabilityClasses, Offers registry cls valid.effectCeiling

/-- The contract does not validate, or nothing is offered for it and it may not wait. -/
def IsInvalid (registry : CapabilityRegistry) (contract : Stated) : Prop :=
  ∀ valid, contract.validate = .ok valid → valid.contractSource ≠ .legacyInferredSafe ∧
    (∀ cls ∈ valid.capabilityClasses, ¬ Offers registry cls valid.effectCeiling) ∧
    ¬ (valid.bindingMode = .dynamic ∧ valid.onMissingCapability ∈
      [MissingCapabilityPolicy.wait, .waitAndDiscover, .escalate])

def Extends (registry larger : CapabilityRegistry) : Prop :=
  ∀ cls, registry.capabilities cls ⊆ larger.capabilities cls

theorem fits_iff {ceiling : EffectCeiling} {item : Capability} :
    fits ceiling item = true ↔
      ∃ effect, maxEffect item = some effect ∧ effect.order ≤ ceiling.order := by
  unfold fits
  split <;> simp_all

theorem capabilityMatches_ne_nil_iff :
    capabilityMatches registry valid ≠ [] ↔
      ∃ cls ∈ valid.capabilityClasses, Offers registry cls valid.effectCeiling := by
  simp only [capabilityMatches, ne_eq, List.flatMap_eq_nil_iff, List.filter_eq_nil_iff, not_forall,
    not_not, fits_iff, Offers, exists_prop]

theorem stateOf_eq_validBound_iff :
    stateOf registry contract = .validBound ↔ PartlyOffered registry contract := by
  cases validated : contract.validate with
  | error error => simp [stateOf, PartlyOffered, validated]
  | ok valid =>
    simp only [stateOf_of_validate validated, PartlyOffered, validated, Except.ok.injEq,
      exists_eq_left', ← capabilityMatches_ne_nil_iff, bindingState]
    split_ifs <;> simp_all

theorem stateOf_eq_invalid_iff :
    stateOf registry contract = .invalid ↔ IsInvalid registry contract := by
  cases validated : contract.validate with
  | error error => simp [stateOf, IsInvalid, validated]
  | ok valid =>
    have nothing : (∀ cls ∈ valid.capabilityClasses, ¬ Offers registry cls valid.effectCeiling) ↔
        capabilityMatches registry valid = [] := by
      rw [← not_iff_not, ← ne_eq, capabilityMatches_ne_nil_iff]
      simp
    simp only [stateOf_of_validate validated, IsInvalid, validated, Except.ok.injEq,
      forall_eq', nothing, bindingState]
    split_ifs <;> simp_all

/-! ### More capabilities -/

theorem Offers.mono (more : Extends registry larger) {cls : PyStr} {ceiling : EffectCeiling}
    (offers : Offers registry cls ceiling) : Offers larger cls ceiling := by
  obtain ⟨item, member, effect⟩ := offers
  exact ⟨item, more cls member, effect⟩

theorem PartlyOffered.mono (more : Extends registry larger)
    (offered : PartlyOffered registry contract) : PartlyOffered larger contract := by
  obtain ⟨valid, validated, notLegacy, cls, declared, offers⟩ := offered
  exact ⟨valid, validated, notLegacy, cls, declared, offers.mono more⟩

theorem IsInvalid.anti (more : Extends registry larger) (isInvalid : IsInvalid larger contract) :
    IsInvalid registry contract := by
  intro valid validated
  obtain ⟨notLegacy, nothing, noWait⟩ := isInvalid valid validated
  exact ⟨notLegacy, fun cls declared offers => nothing cls declared (offers.mono more), noWait⟩

theorem exists_preflightStep (stepped : preflightStep registry tally contract = .ok next)
    (larger : CapabilityRegistry) (other : Tally) :
    ∃ found, preflightStep larger other contract = .ok found := by
  unfold preflightStep at stepped ⊢
  cases validated : contract.validate with
  | error error =>
    simp only [validated] at stepped ⊢
    split_ifs at stepped ⊢
    exact ⟨_, rfl⟩
  | ok valid =>
    simp only [validated, checkedStep, bind_eq_ok, pure_eq_ok] at stepped ⊢
    obtain ⟨digest, digested, -⟩ := stepped
    exact ⟨_, digest, digested, rfl⟩

theorem exists_foldlM {start : Tally}
    (looped : contracts.foldlM (preflightStep registry) start = .ok tally)
    (larger : CapabilityRegistry) (other : Tally) :
    ∃ found, contracts.foldlM (preflightStep larger) other = .ok found := by
  induction contracts generalizing start other with
  | nil => exact ⟨other, rfl⟩
  | cons contract rest ih =>
    rw [List.foldlM_cons, bind_eq_ok] at looped
    obtain ⟨middle, stepped, continued⟩ := looped
    obtain ⟨moved, isMoved⟩ := exists_preflightStep stepped larger other
    obtain ⟨found, isFound⟩ := ih continued moved
    exact ⟨found, by rw [List.foldlM_cons, isMoved, ok_bind, isFound]⟩

theorem exists_preflight (returned : preflightExecutionContracts contracts registry = .ok result)
    (larger : CapabilityRegistry) :
    ∃ other, preflightExecutionContracts contracts larger = .ok other := by
  obtain ⟨tally, looped, -⟩ := preflight_eq_ok returned
  obtain ⟨found, isFound⟩ := exists_foldlM looped larger {}
  exact ⟨found.report contracts, by rw [preflightExecutionContracts, isFound]; rfl⟩

/-! ### Exactness -/

structure Exact (contracts : List Stated) (registry : CapabilityRegistry)
    (result : ExecutionPreflight) : Prop where
  phaseCount : result.phaseCount = contracts.length
  counts : result.boundCount + result.unboundCount + result.invalidCount = result.phaseCount
  ready : result.missionReadiness = .readyBound →
    contracts ≠ [] ∧ ∀ contract ∈ contracts, FullyOffered registry contract
  invalid : result.missionReadiness = .invalid ↔
    contracts = [] ∨ ∃ contract ∈ contracts, IsInvalid registry contract
  more : ∀ larger, Extends registry larger →
    ∃ other, preflightExecutionContracts contracts larger = .ok other ∧
      (result.missionReadiness ≠ .invalid → other.missionReadiness ≠ .invalid) ∧
      result.boundCount ≤ other.boundCount

/-- The preflight is exact unless every phase is offered one of its classes and some phase is
not offered each of them. -/
theorem preflight_exact_iff
    (returned : preflightExecutionContracts contracts registry = .ok result) :
    Exact contracts registry result ↔
      ((∀ contract ∈ contracts, PartlyOffered registry contract) →
        ∀ contract ∈ contracts, FullyOffered registry contract) := by
  have readyIff := missionReadiness_eq_readyBound_iff returned
  simp only [stateOf_eq_validBound_iff] at readyIff
  constructor
  · intro exact partly contract member
    have nonempty : contracts ≠ [] := List.ne_nil_of_mem member
    exact (exact.ready (readyIff.mpr ⟨nonempty, partly⟩)).2 contract member
  · intro complete
    obtain ⟨bound, unbound, invalid⟩ := preflight_counts returned
    have invalidIff := missionReadiness_eq_invalid_iff returned
    have phaseCount : result.phaseCount = contracts.length := by
      obtain ⟨tally, -, rfl⟩ := preflight_eq_ok returned
      rfl
    refine ⟨phaseCount, ?_, ?_, ?_, ?_⟩
    · rw [bound, unbound, invalid, phaseCount, countP_states]
    · intro ready
      obtain ⟨nonempty, partly⟩ := readyIff.mp ready
      exact ⟨nonempty, complete partly⟩
    · rw [invalidIff]
      simp only [stateOf_eq_invalid_iff]
    · intro larger more
      obtain ⟨other, otherReturned⟩ := exists_preflight returned larger
      refine ⟨other, otherReturned, ?_, ?_⟩
      · rw [ne_eq, ne_eq, invalidIff, missionReadiness_eq_invalid_iff otherReturned]
        simp only [stateOf_eq_invalid_iff]
        exact mt (Or.imp id fun ⟨contract, member, isInvalid⟩ =>
          ⟨contract, member, isInvalid.anti more⟩)
      · rw [bound, (preflight_counts otherReturned).1]
        refine List.countP_mono_left fun contract member isBound => ?_
        simp only [decide_eq_true_eq, stateOf_eq_validBound_iff] at isBound ⊢
        exact isBound.mono more

/-! ### A phase of two classes -/

def dualPhase : Stated where
  missionId := py "mission-1"
  phaseId := py "PHASE_0"
  ordinal := 1
  executionClass := py "COGNITIVE"
  capabilityClasses := [py "LOCAL_MODEL_INFERENCE", py "SAAS_DELEGATION"]
  effectCeiling := py "NONE"
  bindingMode := py "STATIC"
  onMissingCapability := py "FAIL"
  autoResume := false
  verifyBeforeMutate := true
  currentnessRequirements := []
  evidenceRequirements := []
  completionPredicates := []
  contractSource := py "DECLARED"
  contractVersion := PhaseContract.contractVersion
  compilerVersion := PhaseContract.compilerVersion

def localOnly : CapabilityRegistry :=
  [(py "LOCAL_MODEL_INFERENCE",
    [[(py "capability_id", .str (py "local-1")), (py "effect_ceiling", .str (py "NONE"))]])]

theorem exists_preflight_singleton {digest : PyStr}
    (digested : contract.contractDigest = .ok digest) (registry : CapabilityRegistry) :
    ∃ result, preflightExecutionContracts [contract] registry = .ok result := by
  have validated : ∃ valid, contract.validate = .ok valid := by
    rw [Stated.contractDigest, bind_eq_ok] at digested
    exact ⟨digested.choose, digested.choose_spec.1⟩
  obtain ⟨valid, validated⟩ := validated
  simp [preflightExecutionContracts, preflightStep, validated, checkedStep, digested]

theorem exists_contractDigest_dualPhase : ∃ digest, dualPhase.contractDigest = .ok digest := by
  have writable : Json.Writable (.obj dualPhase.fields) := by
    refine .obj (by simp [Stated.fields, isEncodable_py]) ?_
    simp only [Stated.fields, List.forall_mem_cons, Json.writable_str_iff, writable_textList_iff,
      Json.writable_int, Json.Writable.bool, List.not_mem_nil, false_implies, implies_true, and_true,
      true_and]
    decide +kernel
  have printable : (Json.obj dualPhase.fields).isPrintable = true := by decide +kernel
  obtain ⟨digest, found, -⟩ := exists_domainDigest
    (rfl : isEncodable [] = true) writable printable
  have validated : ∃ valid, dualPhase.validate = .ok valid := ⟨_, rfl⟩
  obtain ⟨valid, validated⟩ := validated
  exact ⟨digest, by rw [Stated.contractDigest, validated, ok_bind, found]⟩

theorem not_fullyOffered_dualPhase : ¬ FullyOffered localOnly dualPhase := by
  rintro ⟨valid, validated, offered⟩
  obtain rfl := Except.ok.inj ((rfl : dualPhase.validate = .ok _).symm.trans validated)
  obtain ⟨item, member, -⟩ := offered (py "SAAS_DELEGATION") (by decide)
  have nothing : localOnly.capabilities (py "SAAS_DELEGATION") = [] := by decide
  simp [nothing] at member

theorem stateOf_dualPhase : stateOf localOnly dualPhase = .validBound := by
  decide +kernel

/-- A phase is ready with one of its two classes. -/
theorem preflight_dualPhase_not_exact : ∃ result,
    preflightExecutionContracts [dualPhase] localOnly = .ok result ∧
      result.missionReadiness = .readyBound ∧ ¬ FullyOffered localOnly dualPhase := by
  obtain ⟨digest, digested⟩ := exists_contractDigest_dualPhase
  obtain ⟨result, returned⟩ := exists_preflight_singleton digested localOnly
  refine ⟨result, returned, ?_, not_fullyOffered_dualPhase⟩
  rw [missionReadiness_eq_readyBound_iff returned]
  simp [stateOf_dualPhase]

theorem preflight_dualPhase_exact_iff : ∃ result,
    preflightExecutionContracts [dualPhase] localOnly = .ok result ∧
      (Exact [dualPhase] localOnly result ↔
        ((∀ contract ∈ [dualPhase], PartlyOffered localOnly contract) →
          ∀ contract ∈ [dualPhase], FullyOffered localOnly contract)) := by
  obtain ⟨digest, digested⟩ := exists_contractDigest_dualPhase
  obtain ⟨result, returned⟩ := exists_preflight_singleton digested localOnly
  exact ⟨result, returned, preflight_exact_iff returned⟩

end PhaseContract

end CyberLion
