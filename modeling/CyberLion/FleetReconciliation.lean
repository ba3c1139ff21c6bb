import CyberLion.FleetCoordinationRecords
import CyberLion.FleetStatusContracts
import CyberLion.RuntimeContracts

/-!
# The contracts of the fleet reconciliation

`contracts/fleet_reconciliation.py`: the evidence about a branch, the inventory of a
repository, the preconditions of a closure, and the report of a reconciliation.  A value of a
closed vocabulary is a constructor, so `_enum` has nothing left to check.
-/

namespace CyberLion

open PyLib
open FleetCoordination (canonicalJson textList optionalText)
open FleetStatus (isRepository digestOf)

namespace FleetReconciliation

/-! ### Vocabularies -/

/-- `OWNERSHIP_STATES`. -/
inductive OwnershipState
  | active | terminal | unowned | unknown
  deriving DecidableEq

def OwnershipState.text : OwnershipState → PyStr
  | active => py "ACTIVE"
  | terminal => py "TERMINAL"
  | unowned => py "UNOWNED"
  | unknown => py "UNKNOWN"

/-- `ANCESTRY_STATES`. -/
inductive AncestryState
  | identical | headAncestorOfDefault | defaultAncestorOfHead | diverged | noCommonAncestor
  | unknown
  deriving DecidableEq

def AncestryState.text : AncestryState → PyStr
  | identical => py "IDENTICAL"
  | headAncestorOfDefault => py "HEAD_ANCESTOR_OF_DEFAULT"
  | defaultAncestorOfHead => py "DEFAULT_ANCESTOR_OF_HEAD"
  | diverged => py "DIVERGED"
  | noCommonAncestor => py "NO_COMMON_ANCESTOR"
  | unknown => py "UNKNOWN"

/-- `EPISTEMIC_CLASSES`. -/
inductive EpistemicClass
  | observed | anchored | inferred | unknown
  deriving DecidableEq

def EpistemicClass.text : EpistemicClass → PyStr
  | observed => py "OBSERVED"
  | anchored => py "ANCHORED"
  | inferred => py "INFERRED"
  | unknown => py "UNKNOWN"

/-- `BRANCH_CLASSES`. -/
inductive BranchClass
  | activeMission | alreadyIntegrated | superseded | mergeCandidate | portRequired
  | foreignHistory | unclassified
  deriving DecidableEq

def BranchClass.text : BranchClass → PyStr
  | activeMission => py "ACTIVE_MISSION"
  | alreadyIntegrated => py "ALREADY_INTEGRATED"
  | superseded => py "SUPERSEDED"
  | mergeCandidate => py "MERGE_CANDIDATE"
  | portRequired => py "PORT_REQUIRED"
  | foreignHistory => py "FOREIGN_HISTORY"
  | unclassified => py "UNCLASSIFIED"

def convergedBranchClasses : List BranchClass :=
  [.alreadyIntegrated, .superseded]

/-- `RATIONALE_CODES`. -/
inductive RationaleCode
  | activeMissionOwnsBranch | unownedBranch | unknownBranchOwnership
  | headAlreadyInDefaultHistory | explicitSuccessorSupersedesBranch
  | branchAheadOfCurrentDefault | branchDivergedFromCurrentDefault | noCommonAncestor
  | insufficientTrustedEvidence
  deriving DecidableEq

def RationaleCode.text : RationaleCode → PyStr
  | activeMissionOwnsBranch => py "ACTIVE_MISSION_OWNS_BRANCH"
  | unownedBranch => py "UNOWNED_BRANCH"
  | unknownBranchOwnership => py "UNKNOWN_BRANCH_OWNERSHIP"
  | headAlreadyInDefaultHistory => py "HEAD_ALREADY_IN_DEFAULT_HISTORY"
  | explicitSuccessorSupersedesBranch => py "EXPLICIT_SUCCESSOR_SUPERSEDES_BRANCH"
  | branchAheadOfCurrentDefault => py "BRANCH_AHEAD_OF_CURRENT_DEFAULT"
  | branchDivergedFromCurrentDefault => py "BRANCH_DIVERGED_FROM_CURRENT_DEFAULT"
  | noCommonAncestor => py "NO_COMMON_ANCESTOR"
  | insufficientTrustedEvidence => py "INSUFFICIENT_TRUSTED_EVIDENCE"

/-- `RECONCILIATION_DISPOSITIONS`. -/
inductive Disposition
  | converged | reconciliationRequired | stopReplanRequired
  deriving DecidableEq

def Disposition.text : Disposition → PyStr
  | converged => py "CONVERGED"
  | reconciliationRequired => py "RECONCILIATION_REQUIRED"
  | stopReplanRequired => py "STOP_REPLAN_REQUIRED"

def anomalyCodes : List PyStr :=
  [py "ACTIVE_MISSION", py "UNOWNED_BRANCH", py "UNKNOWN_BRANCH_OWNERSHIP", py "BASELINE_DRIFT",
    py "EMPTY_INVENTORY", py "FOREIGN_HISTORY", py "MERGE_CANDIDATE", py "PORT_REQUIRED",
    py "UNCLASSIFIED_BRANCH", py "UNKNOWN_MISSION", py "UNKNOWN_RESULT",
    py "UNRESOLVED_WRITE_LEASE", py "UNRECONCILED_EFFECT", py "RECONCILIATION_DISAGREEMENT",
    py "CLOSURE_EVIDENCE_UNTRUSTED"]

/-! ### Fields -/

/-- `FleetReconciliationContractError(message)`. -/
def contractError (message : PyStr) : PyError :=
  ⟨.declared .valueError (py "FleetReconciliationContractError"), message⟩

/-- `_text`. -/
def checkText (name value : PyStr) : Except PyError Unit :=
  raiseIf (¬ isLimitedText 4096 value = true) (contractError (name ++ py " is invalid"))

/-- A check of a value that may be `None`. -/
def checkOptional (check : PyStr → PyStr → Except PyError Unit) (name : PyStr) :
    Option PyStr → Except PyError Unit
  | none => .ok ()
  | some value => check name value

/-- `_sha40`. -/
def checkSha40 (name value : PyStr) : Except PyError Unit := do
  raiseIf (¬ isLimitedText 40 value = true) (contractError (name ++ py " is invalid"))
  raiseIf (¬ isLowerHexOf 40 value = true)
    (contractError (name ++ py " must be a full lowercase git SHA"))

/-- `_sha256`. -/
def checkSha256 (name value : PyStr) : Except PyError Unit := do
  raiseIf (¬ isLimitedText 64 value = true) (contractError (name ++ py " is invalid"))
  raiseIf (¬ isLowerHexOf 64 value = true) (contractError (name ++ py " must be sha256 hex"))

def utc (name value : PyStr) : Except PyError DateTime := do
  checkText name value
  match fromIsoFormat (pyReplace 0x5A (py "+00:00") value) with
  | none => .error (contractError (name ++ py " is invalid"))
  | some (.naive _) => .error (contractError (name ++ py " must be timezone-aware"))
  | some (.aware time offset) => time.astimezoneUtc offset

/-- `_count`. -/
def checkCount (name : PyStr) (value : Int) : Except PyError Unit :=
  raiseIf (value < 0) (contractError (name ++ py " is invalid"))

/-- `_count`, of a value that may be `None`. -/
def checkOptionalCount (name : PyStr) : Option Int → Except PyError Unit
  | none => .ok ()
  | some value => checkCount name value

def optionalInt : Option Int → Json
  | none => .null
  | some value => .int value

/-- The check of `repository`. -/
def checkRepository (repository : PyStr) : Except PyError Unit :=
  raiseIf (isRepository repository = false)
    (contractError (py "repository must use owner/name form"))

/-! ### Evidence about a branch -/

structure BranchEvidence where
  repository : PyStr
  branch : PyStr
  branchHeadSha : PyStr
  missionId : Option PyStr
  baselineSha : Option PyStr
  ownershipState : OwnershipState
  ancestryState : AncestryState
  aheadBy : Option Int
  behindBy : Option Int
  supersededByBranch : Option PyStr
  supersessionProvenanceRef : Option PyStr
  sourceProvenanceRef : PyStr
  epistemicClass : EpistemicClass
  observedAt : PyStr
  evidenceDigest : PyStr

namespace BranchEvidence

def checkOwnership (evidence : BranchEvidence) : Except PyError Unit := do
  raiseIf (evidence.ownershipState ∈ [OwnershipState.active, .terminal] ∧
      (evidence.missionId = none ∨ evidence.baselineSha = none))
    (contractError (py "mission-owned branch requires mission_id and baseline_sha"))
  raiseIf (evidence.ownershipState = .unowned ∧ evidence.missionId ≠ none)
    (contractError (py "unowned branch cannot claim mission ownership"))
  raiseIf (evidence.supersededByBranch.isNone ≠ evidence.supersessionProvenanceRef.isNone)
    (contractError (py "supersession evidence must be complete"))
  checkOptional checkText (py "superseded_by_branch") evidence.supersededByBranch
  checkOptional checkText (py "supersession_provenance_ref") evidence.supersessionProvenanceRef
  raiseIf (evidence.supersededByBranch = some evidence.branch)
    (contractError (py "branch cannot supersede itself"))

def isPositive : Option Int → Bool
  | none => false
  | some count => 0 < count

def checkCounts (evidence : BranchEvidence) : Except PyError Unit := do
  checkOptionalCount (py "ahead_by") evidence.aheadBy
  checkOptionalCount (py "behind_by") evidence.behindBy
  match evidence.ancestryState with
  | .identical =>
    raiseIf (evidence.aheadBy ≠ some 0 ∨ evidence.behindBy ≠ some 0)
      (contractError (py "IDENTICAL ancestry requires zero ahead/behind"))
  | .headAncestorOfDefault =>
    raiseIf (evidence.aheadBy ≠ some 0 ∨ ¬ isPositive evidence.behindBy = true)
      (contractError (py "HEAD_ANCESTOR_OF_DEFAULT counts are inconsistent"))
  | .defaultAncestorOfHead =>
    raiseIf (¬ isPositive evidence.aheadBy = true ∨ evidence.behindBy ≠ some 0)
      (contractError (py "DEFAULT_ANCESTOR_OF_HEAD counts are inconsistent"))
  | .diverged =>
    raiseIf (¬ isPositive evidence.aheadBy = true ∨ ¬ isPositive evidence.behindBy = true)
      (contractError (py "DIVERGED ancestry requires positive ahead/behind"))
  | .noCommonAncestor | .unknown =>
    raiseIf (evidence.aheadBy ≠ none ∨ evidence.behindBy ≠ none)
      (contractError (py "unknown/foreign ancestry cannot carry ahead/behind counts"))

/-- `canonical_dict(include_digest=False)`. -/
def fields (evidence : BranchEvidence) : List (PyStr × Json) :=
  [(py "repository", .str evidence.repository), (py "branch", .str evidence.branch),
    (py "branch_head_sha", .str evidence.branchHeadSha),
    (py "mission_id", optionalText evidence.missionId),
    (py "baseline_sha", optionalText evidence.baselineSha),
    (py "ownership_state", .str evidence.ownershipState.text),
    (py "ancestry_state", .str evidence.ancestryState.text),
    (py "ahead_by", optionalInt evidence.aheadBy),
    (py "behind_by", optionalInt evidence.behindBy),
    (py "superseded_by_branch", optionalText evidence.supersededByBranch),
    (py "supersession_provenance_ref", optionalText evidence.supersessionProvenanceRef),
    (py "source_provenance_ref", .str evidence.sourceProvenanceRef),
    (py "epistemic_class", .str evidence.epistemicClass.text),
    (py "observed_at", .str evidence.observedAt)]

/-- `canonical_dict()`. -/
def canonicalDict (evidence : BranchEvidence) : Json :=
  .obj (evidence.fields ++ [(py "evidence_digest", .str evidence.evidenceDigest)])

def recomputeDigest (evidence : BranchEvidence) : Except PyError PyStr :=
  digestOf (.obj evidence.fields)

/-- `validate`, without the last check. -/
def validateShape (evidence : BranchEvidence) : Except PyError Unit := do
  checkRepository evidence.repository
  checkText (py "branch") evidence.branch
  raiseIf (py "refs/" <+: evidence.branch)
    (contractError (py "branch must be a repository branch name"))
  checkSha40 (py "branch_head_sha") evidence.branchHeadSha
  checkOptional checkText (py "mission_id") evidence.missionId
  checkOptional checkSha40 (py "baseline_sha") evidence.baselineSha
  checkText (py "source_provenance_ref") evidence.sourceProvenanceRef
  let _ ← utc (py "observed_at") evidence.observedAt
  checkSha256 (py "evidence_digest") evidence.evidenceDigest
  evidence.checkOwnership
  evidence.checkCounts

def validate (evidence : BranchEvidence) : Except PyError Unit := do
  evidence.validateShape
  let digest ← evidence.recomputeDigest
  raiseIf (evidence.evidenceDigest ≠ digest)
    (contractError (py "branch evidence digest mismatch"))

/-- `build`, of the values with an empty digest. -/
def build (values : BranchEvidence) : Except PyError BranchEvidence := do
  let digest ← values.recomputeDigest
  let evidence := { values with evidenceDigest := digest }
  evidence.validate
  return evidence

end BranchEvidence

/-! ### The inventory of a repository -/

structure RepositoryInventory where
  schemaVersion : PyStr
  inventoryId : PyStr
  inventoryRevision : Int
  repository : PyStr
  defaultBranch : PyStr
  defaultHeadSha : PyStr
  sourceId : PyStr
  sourceInstanceId : PyStr
  sourceImplementationDigest : PyStr
  trustAnchorId : PyStr
  observedAt : PyStr
  branches : List BranchEvidence
  inventoryDigest : PyStr

namespace RepositoryInventory

/-- `source_pins().validate()`. -/
def validatePins (inventory : RepositoryInventory) : Except PyError Unit := do
  checkText (py "source_id") inventory.sourceId
  checkText (py "source_instance_id") inventory.sourceInstanceId
  checkSha256 (py "source_implementation_digest") inventory.sourceImplementationDigest
  checkText (py "trust_anchor_id") inventory.trustAnchorId

def checkBranch (inventory : RepositoryInventory) (observed : DateTime)
    (evidence : BranchEvidence) : Except PyError Unit := do
  evidence.validate
  raiseIf (evidence.repository ≠ inventory.repository)
    (contractError (py "branch repository does not bind inventory repository"))
  raiseIf (evidence.branch = inventory.defaultBranch)
    (contractError (py "default branch must not be classified as mission branch"))
  let time ← utc (py "branch observed_at") evidence.observedAt
  raiseIf (observed.microseconds < time.microseconds)
    (contractError (py "branch evidence cannot be newer than inventory"))

def names (inventory : RepositoryInventory) : List PyStr :=
  inventory.branches.map BranchEvidence.branch

/-- `canonical_dict(include_digest=False)`. -/
def fields (inventory : RepositoryInventory) : List (PyStr × Json) :=
  [(py "schema_version", .str inventory.schemaVersion),
    (py "inventory_id", .str inventory.inventoryId),
    (py "inventory_revision", .int inventory.inventoryRevision),
    (py "repository", .str inventory.repository),
    (py "default_branch", .str inventory.defaultBranch),
    (py "default_head_sha", .str inventory.defaultHeadSha),
    (py "source_id", .str inventory.sourceId),
    (py "source_instance_id", .str inventory.sourceInstanceId),
    (py "source_implementation_digest", .str inventory.sourceImplementationDigest),
    (py "trust_anchor_id", .str inventory.trustAnchorId),
    (py "observed_at", .str inventory.observedAt),
    (py "branches", .arr (inventory.branches.map BranchEvidence.canonicalDict))]

def recomputeDigest (inventory : RepositoryInventory) : Except PyError PyStr :=
  digestOf (.obj inventory.fields)

/-- `validate`, without the check of the digest. -/
def validateShape (inventory : RepositoryInventory) : Except PyError Unit := do
  raiseIf (inventory.schemaVersion ≠ py "1.0.0")
    (contractError (py "unsupported inventory schema_version"))
  checkText (py "inventory_id") inventory.inventoryId
  raiseIf (inventory.inventoryRevision < 1)
    (contractError (py "inventory_revision must be positive"))
  checkRepository inventory.repository
  checkText (py "default_branch") inventory.defaultBranch
  checkSha40 (py "default_head_sha") inventory.defaultHeadSha
  inventory.validatePins
  let observed ← utc (py "observed_at") inventory.observedAt
  inventory.branches.forM (inventory.checkBranch observed)
  raiseIf (¬ inventory.names.Nodup) (contractError (py "inventory contains duplicate branches"))
  raiseIf (inventory.names ≠ pySorted inventory.names)
    (contractError (py "branches must be sorted for deterministic inventory"))

def validate (inventory : RepositoryInventory) : Except PyError Unit := do
  inventory.validateShape
  checkSha256 (py "inventory_digest") inventory.inventoryDigest
  let digest ← inventory.recomputeDigest
  raiseIf (inventory.inventoryDigest ≠ digest) (contractError (py "inventory digest mismatch"))

/-- `build`, of the values with an empty digest. -/
def build (values : RepositoryInventory) : Except PyError RepositoryInventory := do
  let raw := { values with
    branches := values.branches.insertionSort fun first second => first.branch ≤ second.branch }
  let digest ← raw.recomputeDigest
  let inventory := { raw with inventoryDigest := digest }
  inventory.validate
  return inventory

end RepositoryInventory

/-! ### The preconditions of a closure -/

structure ClosurePreconditions where
  repository : PyStr
  inventoryDigest : PyStr
  activeUnknownMissionCount : Int
  unknownResultCount : Int
  unresolvedWriteLeaseCount : Int
  unreconciledEffectCount : Int
  reconciliationDisagreementCount : Int
  sourceProvenanceRefs : List PyStr
  epistemicClass : EpistemicClass
  observedAt : PyStr
  preconditionsDigest : PyStr

namespace ClosurePreconditions

def counts (closure : ClosurePreconditions) : List (PyStr × Int) :=
  [(py "active_unknown_mission_count", closure.activeUnknownMissionCount),
    (py "unknown_result_count", closure.unknownResultCount),
    (py "unresolved_write_lease_count", closure.unresolvedWriteLeaseCount),
    (py "unreconciled_effect_count", closure.unreconciledEffectCount),
    (py "reconciliation_disagreement_count", closure.reconciliationDisagreementCount)]

/-- `canonical_dict(include_digest=False)`. -/
def fields (closure : ClosurePreconditions) : List (PyStr × Json) :=
  [(py "repository", .str closure.repository),
    (py "inventory_digest", .str closure.inventoryDigest)] ++
    (closure.counts.map fun count => (count.1, .int count.2)) ++
    [(py "source_provenance_refs", textList closure.sourceProvenanceRefs),
      (py "epistemic_class", .str closure.epistemicClass.text),
      (py "observed_at", .str closure.observedAt)]

/-- `canonical_dict()`. -/
def canonicalDict (closure : ClosurePreconditions) : Json :=
  .obj (closure.fields ++ [(py "preconditions_digest", .str closure.preconditionsDigest)])

def recomputeDigest (closure : ClosurePreconditions) : Except PyError PyStr :=
  digestOf (.obj closure.fields)

/-- `validate`, without the last check. -/
def validateShape (closure : ClosurePreconditions) : Except PyError Unit := do
  checkRepository closure.repository
  checkSha256 (py "inventory_digest") closure.inventoryDigest
  closure.counts.forM fun count => checkCount count.1 count.2
  raiseIf (closure.sourceProvenanceRefs = [])
    (contractError (py "source_provenance_refs must be non-empty"))
  closure.sourceProvenanceRefs.forM (checkText (py "source_provenance_refs"))
  raiseIf (¬ closure.sourceProvenanceRefs.Nodup)
    (contractError (py "source_provenance_refs must contain unique values"))
  let _ ← utc (py "observed_at") closure.observedAt
  checkSha256 (py "preconditions_digest") closure.preconditionsDigest

def validate (closure : ClosurePreconditions) : Except PyError Unit := do
  closure.validateShape
  let digest ← closure.recomputeDigest
  raiseIf (closure.preconditionsDigest ≠ digest)
    (contractError (py "closure preconditions digest mismatch"))

/-- `build`, of the values with an empty digest. -/
def build (values : ClosurePreconditions) : Except PyError ClosurePreconditions := do
  let digest ← values.recomputeDigest
  let closure := { values with preconditionsDigest := digest }
  closure.validate
  return closure

/-- The codes of `blocker_codes`, with the condition of each. -/
def blockers (closure : ClosurePreconditions) : List (Bool × PyStr) :=
  [(decide (closure.epistemicClass ∉ [EpistemicClass.observed, .anchored]),
      py "CLOSURE_EVIDENCE_UNTRUSTED"),
    (decide (closure.activeUnknownMissionCount ≠ 0), py "UNKNOWN_MISSION"),
    (decide (closure.unknownResultCount ≠ 0), py "UNKNOWN_RESULT"),
    (decide (closure.unresolvedWriteLeaseCount ≠ 0), py "UNRESOLVED_WRITE_LEASE"),
    (decide (closure.unreconciledEffectCount ≠ 0), py "UNRECONCILED_EFFECT"),
    (decide (closure.reconciliationDisagreementCount ≠ 0), py "RECONCILIATION_DISAGREEMENT")]

/-- `blocker_codes`, of preconditions that were validated. -/
def foundCodes (closure : ClosurePreconditions) : List PyStr :=
  (closure.blockers.filter Prod.fst).map Prod.snd

def blockerCodes (closure : ClosurePreconditions) : Except PyError (List PyStr) := do
  closure.validate
  return closure.foundCodes

def satisfied (closure : ClosurePreconditions) : Except PyError Bool := do
  let codes ← closure.blockerCodes
  return codes.isEmpty

end ClosurePreconditions

/-! ### The report of a reconciliation -/

structure BranchReconciliation where
  repository : PyStr
  inventoryDigest : PyStr
  branch : PyStr
  branchHeadSha : PyStr
  missionId : Option PyStr
  baselineSha : Option PyStr
  classification : BranchClass
  rationaleCode : RationaleCode
  evidenceDigest : PyStr
  observedAt : PyStr

namespace BranchReconciliation

def validate (item : BranchReconciliation) : Except PyError Unit := do
  checkRepository item.repository
  checkSha256 (py "inventory_digest") item.inventoryDigest
  checkText (py "branch") item.branch
  checkSha40 (py "branch_head_sha") item.branchHeadSha
  checkOptional checkText (py "mission_id") item.missionId
  checkOptional checkSha40 (py "baseline_sha") item.baselineSha
  checkSha256 (py "evidence_digest") item.evidenceDigest
  let _ ← utc (py "observed_at") item.observedAt

/-- `asdict(item)`. -/
def canonicalDict (item : BranchReconciliation) : Json :=
  .obj [(py "repository", .str item.repository),
    (py "inventory_digest", .str item.inventoryDigest), (py "branch", .str item.branch),
    (py "branch_head_sha", .str item.branchHeadSha),
    (py "mission_id", optionalText item.missionId),
    (py "baseline_sha", optionalText item.baselineSha),
    (py "classification", .str item.classification.text),
    (py "rationale_code", .str item.rationaleCode.text),
    (py "evidence_digest", .str item.evidenceDigest), (py "observed_at", .str item.observedAt)]

end BranchReconciliation

structure ReconciliationReport where
  schemaVersion : PyStr
  reportId : PyStr
  repository : PyStr
  inventoryId : PyStr
  inventoryRevision : Int
  inventoryDigest : PyStr
  defaultHeadSha : PyStr
  closurePreconditions : ClosurePreconditions
  closurePreconditionsDigest : PyStr
  observedAt : PyStr
  disposition : Disposition
  anomalyCodes : List PyStr
  branches : List BranchReconciliation
  reportDigest : PyStr

def allConverged (branches : List BranchReconciliation) : Bool :=
  !branches.isEmpty && branches.all fun item => item.classification ∈ convergedBranchClasses

namespace ReconciliationReport

def checkAnomalies (report : ReconciliationReport) : Except PyError Unit := do
  report.anomalyCodes.forM (checkText (py "anomaly_codes"))
  raiseIf (¬ report.anomalyCodes.Nodup)
    (contractError (py "anomaly_codes must contain unique values"))
  raiseIf (report.anomalyCodes ≠ pySorted report.anomalyCodes)
    (contractError (py "anomaly_codes must be sorted"))
  report.anomalyCodes.forM fun code =>
    raiseIf (code ∉ FleetReconciliation.anomalyCodes)
      (contractError (py "anomaly_code is invalid"))
  let required ← report.closurePreconditions.blockerCodes
  raiseIf (¬ required ⊆ report.anomalyCodes)
    (contractError (py "closure blocker anomalies are incomplete"))

def checkBranch (report : ReconciliationReport) (item : BranchReconciliation) :
    Except PyError Unit := do
  item.validate
  raiseIf (item.repository ≠ report.repository ∨ item.inventoryDigest ≠ report.inventoryDigest)
    (contractError (py "branch reconciliation does not bind report"))

def checkDisposition (report : ReconciliationReport) : Except PyError Unit := do
  let closureReady ← report.closurePreconditions.satisfied
  let converged := allConverged report.branches && closureReady
  raiseIf (report.disposition = .converged ∧ converged = false)
    (contractError (py "CONVERGED report requires converged branches and " ++
      py "satisfied closure preconditions"))
  raiseIf (report.disposition = .stopReplanRequired ∧ py "BASELINE_DRIFT" ∉ report.anomalyCodes)
    (contractError (py "STOP_REPLAN_REQUIRED requires BASELINE_DRIFT"))
  raiseIf (report.disposition = .reconciliationRequired ∧ converged = true)
    (contractError (py "fully converged report with satisfied closure preconditions " ++
      py "cannot require reconciliation"))

def names (report : ReconciliationReport) : List PyStr :=
  report.branches.map BranchReconciliation.branch

/-- `canonical_dict(include_digest=False)`. -/
def fields (report : ReconciliationReport) : List (PyStr × Json) :=
  [(py "schema_version", .str report.schemaVersion), (py "report_id", .str report.reportId),
    (py "repository", .str report.repository), (py "inventory_id", .str report.inventoryId),
    (py "inventory_revision", .int report.inventoryRevision),
    (py "inventory_digest", .str report.inventoryDigest),
    (py "default_head_sha", .str report.defaultHeadSha),
    (py "closure_preconditions", report.closurePreconditions.canonicalDict),
    (py "closure_preconditions_digest", .str report.closurePreconditionsDigest),
    (py "observed_at", .str report.observedAt),
    (py "disposition", .str report.disposition.text),
    (py "anomaly_codes", textList report.anomalyCodes),
    (py "branches", .arr (report.branches.map BranchReconciliation.canonicalDict))]

def recomputeDigest (report : ReconciliationReport) : Except PyError PyStr :=
  digestOf (.obj report.fields)

/-- `validate`, without the check of the digest. -/
def validateShape (report : ReconciliationReport) : Except PyError Unit := do
  raiseIf (report.schemaVersion ≠ py "1.0.0")
    (contractError (py "unsupported report schema_version"))
  checkText (py "report_id") report.reportId
  checkRepository report.repository
  checkText (py "inventory_id") report.inventoryId
  raiseIf (report.inventoryRevision < 1)
    (contractError (py "inventory_revision must be positive"))
  checkSha256 (py "inventory_digest") report.inventoryDigest
  checkSha40 (py "default_head_sha") report.defaultHeadSha
  report.closurePreconditions.validate
  raiseIf (report.closurePreconditions.repository ≠ report.repository ∨
      report.closurePreconditions.inventoryDigest ≠ report.inventoryDigest)
    (contractError (py "closure preconditions do not bind report inventory"))
  checkSha256 (py "closure_preconditions_digest") report.closurePreconditionsDigest
  raiseIf (report.closurePreconditionsDigest ≠ report.closurePreconditions.preconditionsDigest)
    (contractError (py "closure preconditions digest binding mismatch"))
  let _ ← utc (py "observed_at") report.observedAt
  report.checkAnomalies
  report.branches.forM report.checkBranch
  raiseIf (¬ report.names.Nodup) (contractError (py "report contains duplicate branches"))
  raiseIf (report.names ≠ pySorted report.names)
    (contractError (py "report branches must be sorted"))
  report.checkDisposition

def validate (report : ReconciliationReport) : Except PyError Unit := do
  report.validateShape
  checkSha256 (py "report_digest") report.reportDigest
  let digest ← report.recomputeDigest
  raiseIf (report.reportDigest ≠ digest) (contractError (py "report digest mismatch"))

/-- `build`, of the values with an empty digest. -/
def build (values : ReconciliationReport) : Except PyError ReconciliationReport := do
  let raw := { values with
    anomalyCodes := pySorted values.anomalyCodes
    branches := values.branches.insertionSort fun first second => first.branch ≤ second.branch }
  let digest ← raw.recomputeDigest
  let report := { raw with reportDigest := digest }
  report.validate
  return report

end ReconciliationReport

end FleetReconciliation

end CyberLion
