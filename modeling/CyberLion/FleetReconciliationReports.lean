import CyberLion.BranchClassifier

/-!
# Converged reports without an integrated branch

Two inventories whose reports are `CONVERGED` although their superseded branches lead nowhere.
-/

namespace CyberLion

open PyLib
open FleetCoordination (canonicalJson)
open Sha256 (hexNumeral)

namespace FleetReconciliation

variable {evidence : BranchEvidence} {inventory : RepositoryInventory}
  {closure : ClosurePreconditions} {id : PyStr}

/-! ### Branches that supersede each other -/

def supersededDraft (branch successor : PyStr) : BranchEvidence where
  repository := py "lion/platform"
  branch := branch
  branchHeadSha := List.replicate 40 0x62
  missionId := some (py "mission-1")
  baselineSha := some (List.replicate 40 0x61)
  ownershipState := .terminal
  ancestryState := .defaultAncestorOfHead
  aheadBy := some 1
  behindBy := some 0
  supersededByBranch := some successor
  supersessionProvenanceRef := some (py "supersession:1")
  sourceProvenanceRef := py "github:compare:1"
  epistemicClass := .observed
  observedAt := py "2026-08-21T12:00:00+00:00"
  evidenceDigest := []

def inventoryDraft (branches : List BranchEvidence) : RepositoryInventory where
  schemaVersion := py "1.0.0"
  inventoryId := py "inventory-1"
  inventoryRevision := 1
  repository := py "lion/platform"
  defaultBranch := py "master"
  defaultHeadSha := List.replicate 40 0x61
  sourceId := py "github-inventory"
  sourceInstanceId := py "installation-1"
  sourceImplementationDigest := List.replicate 64 0x31
  trustAnchorId := py "github-app:1"
  observedAt := py "2026-08-21T12:00:00+00:00"
  branches := branches
  inventoryDigest := []

def closureDraft (inventory : RepositoryInventory) : ClosurePreconditions where
  repository := inventory.repository
  inventoryDigest := inventory.inventoryDigest
  activeUnknownMissionCount := 0
  unknownResultCount := 0
  unresolvedWriteLeaseCount := 0
  unreconciledEffectCount := 0
  reconciliationDisagreementCount := 0
  sourceProvenanceRefs := [py "closure:1"]
  epistemicClass := .observed
  observedAt := inventory.observedAt
  preconditionsDigest := []

def outsideBranch : BranchEvidence :=
  { supersededDraft (py "mission/b") (py "mission/successor") with
    evidenceDigest :=
      hexNumeral 0x40957fb0ef9563d098aefa3162552bf35a8ce72ce4ed8bb99b1e19b58b3edab1 }

def outsideInventory : RepositoryInventory :=
  { inventoryDraft [outsideBranch] with
    inventoryDigest :=
      hexNumeral 0x80d52be9841f1c85fb4ad517e9071987214a1cc89f4e7ee026696e2480c895d8 }

def outsideClosure : ClosurePreconditions :=
  { closureDraft outsideInventory with
    preconditionsDigest :=
      hexNumeral 0xfdbd636f0dde44f054fbe742092dfebd5ebaa0ef6b058edc0170d22ab172d708 }

def outsideId : PyStr :=
  hexNumeral 0x61055a3a4528e428ce3aec336859b5ad129c05a5a23b12ede2969f33eda8408b

def mutualFirst : BranchEvidence :=
  { supersededDraft (py "mission/a") (py "mission/b") with
    evidenceDigest :=
      hexNumeral 0xe1264ac06a17b1a9fee4ab46e6d6ce8fb9a988e4d00206cfab38926c8fb60b0c }

def mutualSecond : BranchEvidence :=
  { supersededDraft (py "mission/b") (py "mission/a") with
    evidenceDigest :=
      hexNumeral 0x1026d8caee51f9778de9cdac3e15357b642f2d620a871f5a74e21b69290d8835 }

def mutualInventory : RepositoryInventory :=
  { inventoryDraft [mutualFirst, mutualSecond] with
    inventoryDigest :=
      hexNumeral 0xc4d2770a3e406f0264052336d7d511447f7424024bfa320fc48513b7b85d2972 }

def mutualClosure : ClosurePreconditions :=
  { closureDraft mutualInventory with
    preconditionsDigest :=
      hexNumeral 0x07551d83160390f11e1475acf13e5a3ed02034f4bf4635a531475b4e46e8f4f1 }

def mutualId : PyStr :=
  hexNumeral 0x8dfb8df107776cff022278025bf1b223cf7fe98764b3ab28fe15473ece846432

-- One theorem, so that each key of the records is evaluated once.
theorem digests_found :
    (outsideBranch.recomputeDigest = .ok outsideBranch.evidenceDigest ∧
      mutualFirst.recomputeDigest = .ok mutualFirst.evidenceDigest ∧
      mutualSecond.recomputeDigest = .ok mutualSecond.evidenceDigest) ∧
    (outsideInventory.recomputeDigest = .ok outsideInventory.inventoryDigest ∧
      mutualInventory.recomputeDigest = .ok mutualInventory.inventoryDigest) ∧
    (outsideClosure.recomputeDigest = .ok outsideClosure.preconditionsDigest ∧
      mutualClosure.recomputeDigest = .ok mutualClosure.preconditionsDigest) ∧
    reportId outsideInventory outsideClosure = .ok outsideId ∧
    reportId mutualInventory mutualClosure = .ok mutualId := by
  delta BranchEvidence.recomputeDigest RepositoryInventory.recomputeDigest
    ClosurePreconditions.recomputeDigest FleetStatus.digestOf reportId
  rw [Sha256.sha256_eq_evalText]
  decide +kernel

/-! ### Records that carry their digest -/

theorem raiseIf_ne_self (value : PyStr) (error : PyError) :
    raiseIf (value ≠ value) error = .ok () :=
  raiseIf_eq_ok.mpr (not_not.mpr rfl)

theorem validate_evidence (shape : evidence.validateShape = .ok ())
    (found : evidence.recomputeDigest = .ok evidence.evidenceDigest) :
    evidence.validate = .ok () := by
  simp only [BranchEvidence.validate, shape, found, ok_bind, raiseIf_ne_self]

theorem validate_inventory (shape : inventory.validateShape = .ok ())
    (hex : checkSha256 (py "inventory_digest") inventory.inventoryDigest = .ok ())
    (found : inventory.recomputeDigest = .ok inventory.inventoryDigest) :
    inventory.validate = .ok () := by
  simp only [RepositoryInventory.validate, shape, hex, found, ok_bind, raiseIf_ne_self]

theorem validate_closure (shape : closure.validateShape = .ok ())
    (found : closure.recomputeDigest = .ok closure.preconditionsDigest) :
    closure.validate = .ok () := by
  simp only [ClosurePreconditions.validate, shape, found, ok_bind, raiseIf_ne_self]

theorem checkSha256_sha256 (name : PyStr) (data : Utf8Bytes) :
    checkSha256 name (sha256 data) = .ok () := by
  have hex := isLowerHexOf_sha256 data
  obtain ⟨length, notBlank, noNul⟩ := solid_of_isLowerHexOf hex
  simp [checkSha256, isLimitedText, hex, notBlank, noNul, length, raiseIf]

/-- The report that `classify` builds, before its digest is computed. -/
def rawReport (inventory : RepositoryInventory) (closure : ClosurePreconditions) (id : PyStr) :
    ReconciliationReport :=
  let values := reportOf inventory closure (inventory.branches.map (reconciliationOf inventory)) id
  { values with
    anomalyCodes := pySorted values.anomalyCodes
    branches := values.branches.insertionSort fun first second => first.branch ≤ second.branch }

structure Reportable (inventory : RepositoryInventory) (closure : ClosurePreconditions)
    (id : PyStr) : Prop where
  validInventory : inventory.validate = .ok ()
  validClosure : closure.validate = .ok ()
  valid : ∀ evidence ∈ inventory.branches, evidence.validate = .ok ()
  repository : closure.repository = inventory.repository
  bound : closure.inventoryDigest = inventory.inventoryDigest
  sameTime : closure.observedAt = inventory.observedAt
  observed : returned (parseUtc inventory.observedAt) = true
  classified : ∀ evidence ∈ inventory.branches,
    (reconciliationOf inventory evidence).validate = .ok ()
  identified : reportId inventory closure = .ok id
  shape : (rawReport inventory closure id).validateShape = .ok ()
  written : returned (canonicalJson (.obj (rawReport inventory closure id).fields)) = true

theorem exists_classify (reportable : Reportable inventory closure id) :
    ∃ report, classify inventory closure = .ok report := by
  obtain ⟨bytes, text⟩ := exists_eq_ok_of_returned reportable.written
  obtain ⟨time, observed⟩ := exists_eq_ok_of_returned reportable.observed
  have mapped : inventory.branches.mapM (classifyOne inventory) =
      .ok (inventory.branches.map (reconciliationOf inventory)) := by
    refine mapM_eq_ok_map fun evidence member => ?_
    simp only [classifyOne, reportable.valid evidence member,
      reportable.classified evidence member, ok_bind]
    rfl
  let report := { rawReport inventory closure id with reportDigest := sha256 bytes }
  have found : (rawReport inventory closure id).recomputeDigest = .ok (sha256 bytes) :=
    bind_eq_ok.mpr ⟨bytes, text, rfl⟩
  have isValid : report.validate = .ok () := by
    have shape : report.validateShape = .ok () := reportable.shape
    have digested : report.recomputeDigest = .ok report.reportDigest := found
    have hex : checkSha256 (py "report_digest") report.reportDigest = .ok () :=
      checkSha256_sha256 _ bytes
    simp only [ReconciliationReport.validate, shape, hex, digested, ok_bind, raiseIf_ne_self]
  have built : (reportOf inventory closure (inventory.branches.map (reconciliationOf inventory))
      id).build = .ok report := by
    simp only [ReconciliationReport.build, bind_eq_ok, pure_eq_ok]
    exact ⟨_, found, (), isValid, rfl⟩
  simp only [classify, bind_eq_ok, raiseIf_eq_ok]
  exact ⟨report, (), reportable.validInventory, (), reportable.validClosure, (),
    not_or.mpr ⟨not_not.mpr reportable.repository, not_not.mpr reportable.bound⟩, time,
    reportable.sameTime ▸ observed, time, observed, (), not_not.mpr rfl, _, mapped, id,
    reportable.identified, built⟩

theorem valid_records :
    (outsideBranch.validate = .ok () ∧ mutualFirst.validate = .ok () ∧
      mutualSecond.validate = .ok ()) ∧
    outsideClosure.validate = .ok () ∧ mutualClosure.validate = .ok () := by
  obtain ⟨⟨outside, first, second⟩, -, ⟨outsideDigest, mutualDigest⟩, -⟩ := digests_found
  exact ⟨⟨validate_evidence (eq_ok_of_returned (by decide +kernel)) outside,
    validate_evidence (eq_ok_of_returned (by decide +kernel)) first,
    validate_evidence (eq_ok_of_returned (by decide +kernel)) second⟩,
    validate_closure (eq_ok_of_returned (by decide +kernel)) outsideDigest,
    validate_closure (eq_ok_of_returned (by decide +kernel)) mutualDigest⟩

theorem shape_inventories :
    outsideInventory.validateShape = .ok () ∧ mutualInventory.validateShape = .ok () := by
  obtain ⟨⟨outside, first, second⟩, -⟩ := valid_records
  have outsideBranches : outsideInventory.branches = [outsideBranch] := rfl
  have mutualBranches : mutualInventory.branches = [mutualFirst, mutualSecond] := rfl
  -- An implicit proof would make the kernel compare the records by their digests.
  simp -implicitDefEqProofs only [RepositoryInventory.validateShape,
    RepositoryInventory.checkBranch, outsideBranches, mutualBranches, List.forM_eq_forM,
    List.forM_cons, outside, first, second, ok_bind]
  exact ⟨eq_ok_of_returned (by decide +kernel), eq_ok_of_returned (by decide +kernel)⟩

theorem shape_reports :
    (rawReport outsideInventory outsideClosure outsideId).validateShape = .ok () ∧
      (rawReport mutualInventory mutualClosure mutualId).validateShape = .ok () := by
  obtain ⟨-, outsideValid, mutualValid⟩ := valid_records
  have outsideIs : (rawReport outsideInventory outsideClosure outsideId).closurePreconditions =
    outsideClosure := rfl
  have mutualIs : (rawReport mutualInventory mutualClosure mutualId).closurePreconditions =
    mutualClosure := rfl
  simp only [ReconciliationReport.validateShape, ReconciliationReport.checkAnomalies,
    ReconciliationReport.checkDisposition, ClosurePreconditions.satisfied,
    ClosurePreconditions.blockerCodes, outsideIs, mutualIs, outsideValid, mutualValid,
    ok_bind]
  exact ⟨eq_ok_of_returned (by decide +kernel), eq_ok_of_returned (by decide +kernel)⟩

theorem reportable_records : Reportable outsideInventory outsideClosure outsideId ∧
    Reportable mutualInventory mutualClosure mutualId := by
  obtain ⟨-, ⟨outsideDigest, mutualDigest⟩, -, outsideIdentified, mutualIdentified⟩ := digests_found
  obtain ⟨⟨outside, mutualBranches⟩, outsideClosed, mutualClosed⟩ := valid_records
  have outsideValid : ∀ evidence ∈ outsideInventory.branches, evidence.validate = .ok () :=
    List.forall_mem_singleton.mpr outside
  have mutualValid : ∀ evidence ∈ mutualInventory.branches, evidence.validate = .ok () := by
    simpa [mutualInventory, inventoryDraft] using mutualBranches
  constructor
  · exact ⟨validate_inventory shape_inventories.1 (eq_ok_of_returned (by decide +kernel))
        outsideDigest, outsideClosed, outsideValid, rfl, rfl, rfl, by decide +kernel,
      List.forall_mem_singleton.mpr (eq_ok_of_returned (by decide +kernel)), outsideIdentified,
      shape_reports.1, by decide +kernel⟩
  · exact ⟨validate_inventory shape_inventories.2 (eq_ok_of_returned (by decide +kernel))
        mutualDigest, mutualClosed, mutualValid, rfl, rfl, rfl, by decide +kernel,
      List.forall_mem_cons.mpr ⟨eq_ok_of_returned (by decide +kernel),
        List.forall_mem_singleton.mpr (eq_ok_of_returned (by decide +kernel))⟩,
      mutualIdentified, shape_reports.2, by decide +kernel⟩

/-! ### Following their successors -/

theorem mem_of_reached {closed : List PyStr}
    (successors : ∀ evidence ∈ inventory.branches, ∀ successor ∈ evidence.supersededByBranch,
      successor ∈ closed) {start branch : PyStr} (member : start ∈ closed)
    (reached : Relation.ReflTransGen (SupersededBy inventory) start branch) : branch ∈ closed := by
  induction reached with
  | refl => exact member
  | tail _ edge _ =>
    obtain ⟨evidence, inBranches, -, -, named⟩ := edge
    exact successors evidence inBranches _ named

theorem not_isIntegrated {closed : List PyStr} (notDefault : inventory.defaultBranch ∉ closed)
    (none : ∀ evidence ∈ inventory.branches, (classification evidence).1 ≠ .alreadyIntegrated)
    {branch : PyStr} (member : branch ∈ closed) : ¬ IsIntegrated inventory branch := by
  rintro (rfl | ⟨evidence, inBranches, -, integrated⟩)
  · exact notDefault member
  · exact none evidence inBranches integrated

theorem exists_converged (reportable : Reportable inventory closure id)
    (nonempty : inventory.branches ≠ []) (satisfied : closure.foundCodes.isEmpty = true)
    (converged : ∀ evidence ∈ inventory.branches,
      (classification evidence).1 ∈ convergedBranchClasses) :
    ∃ report, classify inventory closure = .ok report ∧ report.disposition = .converged := by
  obtain ⟨report, returned⟩ := exists_classify reportable
  exact ⟨report, returned, (disposition_eq_converged_iff returned).mpr
    ⟨nonempty, foundCodes_isEmpty_iff.mp satisfied, converged⟩⟩

/-- Two converged inventories without an integrated branch: one whose only branch has a successor
outside it, and one of two branches that supersede each other. -/
theorem converged_without_integration :
    (∃ inventory closure report, inventory.names = [py "mission/b"] ∧
      classify inventory closure = .ok report ∧ report.disposition = .converged ∧
      ∀ branch, Relation.ReflTransGen (SupersededBy inventory) (py "mission/b") branch →
        ¬ IsIntegrated inventory branch) ∧
    ∃ inventory closure report, inventory.names = [py "mission/a", py "mission/b"] ∧
      classify inventory closure = .ok report ∧ report.disposition = .converged ∧
      ∀ branch, Relation.ReflTransGen (SupersededBy inventory) (py "mission/a") branch →
        ¬ IsIntegrated inventory branch := by
  constructor
  · obtain ⟨report, returned, converged⟩ :=
      exists_converged reportable_records.1 (by decide) (by decide) (by decide)
    refine ⟨outsideInventory, outsideClosure, report, rfl, returned, converged, ?_⟩
    intro branch reached
    have inside : branch ∈ [py "mission/b", py "mission/successor"] :=
      mem_of_reached (by decide) (by decide) reached
    exact not_isIntegrated (by decide) (by decide) inside
  · obtain ⟨report, returned, converged⟩ :=
      exists_converged reportable_records.2 (by decide) (by decide) (by decide)
    refine ⟨mutualInventory, mutualClosure, report, rfl, returned, converged, ?_⟩
    intro branch reached
    have inside : branch ∈ [py "mission/a", py "mission/b"] :=
      mem_of_reached (by decide) (by decide) reached
    exact not_isIntegrated (by decide) (by decide) inside

/-- The theorem about converged reports, on the inventory with a successor outside it. -/
theorem outside_converges : ∃ inventory closure report, inventory.names = [py "mission/b"] ∧
    classify inventory closure = .ok report ∧ report.disposition = .converged ∧
    Converges inventory closure := by
  obtain ⟨report, returned, converged⟩ :=
    exists_converged reportable_records.1 (by decide) (by decide) (by decide)
  exact ⟨outsideInventory, outsideClosure, report, rfl, returned, converged,
    classify_converged returned converged⟩

end FleetReconciliation

end CyberLion
