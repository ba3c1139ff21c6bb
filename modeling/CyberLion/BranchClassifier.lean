import CyberLion.FleetReconciliation
import CyberLion.GraphCycles

/-!
# The classifier of branches

`BranchReconciliationClassifier` of `enterprise/fleet_reconciliation.py`, and what a report that
is `CONVERGED` says about the branches that supersede each other.
-/

namespace CyberLion

open PyLib
open FleetCoordination (canonicalJson canonicalJson_eq_ok textList writable_textList_iff
  optionalText)

namespace FleetReconciliation

/-! ### The classifier -/

/-- `FleetReconciliationError(message)`. -/
def reconciliationError (message : PyStr) : PyError :=
  ⟨.declared .runtimeError (py "FleetReconciliationError"), message⟩

def parseUtc (value : PyStr) : Except PyError DateTime :=
  match fromIsoFormat (pyReplace 0x5A (py "+00:00") value) with
  | none => .error (reconciliationError (py "stored observation time is invalid"))
  | some (.naive _) =>
    .error (reconciliationError (py "stored observation time must be timezone-aware"))
  | some (.aware time offset) => time.astimezoneUtc offset

/-- `evidence.epistemic_class in {"OBSERVED", "ANCHORED"}`. -/
def isTrusted (state : EpistemicClass) : Bool :=
  state ∈ [EpistemicClass.observed, .anchored]

def classification (evidence : BranchEvidence) : BranchClass × RationaleCode :=
  if isTrusted evidence.epistemicClass = false then
    (.unclassified, .insufficientTrustedEvidence)
  else if evidence.ownershipState = .unowned then (.unclassified, .unownedBranch)
  else if evidence.ownershipState = .unknown then (.unclassified, .unknownBranchOwnership)
  else if evidence.ownershipState = .active then (.activeMission, .activeMissionOwnsBranch)
  else if evidence.ancestryState ∈ [AncestryState.identical, .headAncestorOfDefault] then
    (.alreadyIntegrated, .headAlreadyInDefaultHistory)
  else if evidence.supersededByBranch ≠ none ∧ evidence.supersessionProvenanceRef ≠ none ∧
      evidence.ownershipState = .terminal then
    (.superseded, .explicitSuccessorSupersedesBranch)
  else if evidence.ancestryState = .defaultAncestorOfHead then
    (.mergeCandidate, .branchAheadOfCurrentDefault)
  else if evidence.ancestryState = .diverged then
    (.portRequired, .branchDivergedFromCurrentDefault)
  else if evidence.ancestryState = .noCommonAncestor then (.foreignHistory, .noCommonAncestor)
  else (.unclassified, .insufficientTrustedEvidence)

/-- The result of `_classify_one` before it is validated. -/
def reconciliationOf (inventory : RepositoryInventory) (evidence : BranchEvidence) :
    BranchReconciliation where
  repository := inventory.repository
  inventoryDigest := inventory.inventoryDigest
  branch := evidence.branch
  branchHeadSha := evidence.branchHeadSha
  missionId := evidence.missionId
  baselineSha := evidence.baselineSha
  classification := (classification evidence).1
  rationaleCode := (classification evidence).2
  evidenceDigest := evidence.evidenceDigest
  observedAt := evidence.observedAt

def classifyOne (inventory : RepositoryInventory) (evidence : BranchEvidence) :
    Except PyError BranchReconciliation := do
  evidence.validate
  (reconciliationOf inventory evidence).validate
  return reconciliationOf inventory evidence

/-- `mapping`. -/
def anomalyOfClass : BranchClass → Option PyStr
  | .activeMission => some (py "ACTIVE_MISSION")
  | .mergeCandidate => some (py "MERGE_CANDIDATE")
  | .portRequired => some (py "PORT_REQUIRED")
  | .foreignHistory => some (py "FOREIGN_HISTORY")
  | .unclassified => some (py "UNCLASSIFIED_BRANCH")
  | .alreadyIntegrated | .superseded => none

def hasDrifted (inventory : RepositoryInventory) (item : BranchReconciliation) : Prop :=
  item.classification ∈ [BranchClass.activeMission, .mergeCandidate, .portRequired] ∧
    item.baselineSha ≠ none ∧ item.baselineSha ≠ some inventory.defaultHeadSha

instance (inventory : RepositoryInventory) (item : BranchReconciliation) :
    Decidable (hasDrifted inventory item) :=
  inferInstanceAs (Decidable (_ ∧ _ ∧ _))

def anomaliesOf (inventory : RepositoryInventory)
    (branch : BranchEvidence × BranchReconciliation) : List PyStr :=
  (if branch.1.ownershipState = .unowned then [py "UNOWNED_BRANCH"]
    else if branch.1.ownershipState = .unknown then [py "UNKNOWN_BRANCH_OWNERSHIP"] else []) ++
    (anomalyOfClass branch.2.classification).toList ++
    (if hasDrifted inventory branch.2 then [py "BASELINE_DRIFT"] else [])

def anomalies (inventory : RepositoryInventory) (blockers : List PyStr)
    (results : List BranchReconciliation) : List PyStr :=
  (blockers ++ (inventory.branches.zip results).flatMap (anomaliesOf inventory) ++
    (if results = [] then [py "EMPTY_INVENTORY"] else [])).dedup

def disposition (codes : List PyStr) (results : List BranchReconciliation)
    (satisfied : Bool) : Disposition :=
  if py "BASELINE_DRIFT" ∈ codes then .stopReplanRequired
  else if allConverged results = true ∧ satisfied = true then .converged
  else .reconciliationRequired

def reportId (inventory : RepositoryInventory) (closure : ClosurePreconditions) :
    Except PyError PyStr := do
  let bytes ← encodeUtf8 (py "fleet-reconciliation|" ++ inventory.repository ++ py "|" ++
    inventory.inventoryDigest ++ py "|" ++ closure.preconditionsDigest)
  return sha256 bytes

def reportOf (inventory : RepositoryInventory) (closure : ClosurePreconditions)
    (results : List BranchReconciliation) (id : PyStr) : ReconciliationReport where
  schemaVersion := py "1.0.0"
  reportId := id
  repository := inventory.repository
  inventoryId := inventory.inventoryId
  inventoryRevision := inventory.inventoryRevision
  inventoryDigest := inventory.inventoryDigest
  defaultHeadSha := inventory.defaultHeadSha
  closurePreconditions := closure
  closurePreconditionsDigest := closure.preconditionsDigest
  observedAt := inventory.observedAt
  disposition := disposition (anomalies inventory closure.foundCodes results) results
    closure.foundCodes.isEmpty
  anomalyCodes := anomalies inventory closure.foundCodes results
  branches := results
  reportDigest := []

def classify (inventory : RepositoryInventory) (closure : ClosurePreconditions) :
    Except PyError ReconciliationReport := do
  inventory.validate
  closure.validate
  raiseIf (closure.repository ≠ inventory.repository ∨
      closure.inventoryDigest ≠ inventory.inventoryDigest)
    (reconciliationError (py "closure preconditions do not bind exact inventory"))
  let closureTime ← parseUtc closure.observedAt
  let inventoryTime ← parseUtc inventory.observedAt
  raiseIf (closureTime ≠ inventoryTime) (reconciliationError
    (py "closure preconditions must be observed atomically with inventory"))
  let results ← inventory.branches.mapM (classifyOne inventory)
  let id ← reportId inventory closure
  (reportOf inventory closure results id).build

/-! ### What `classify` returns -/

variable {inventory : RepositoryInventory} {closure : ClosurePreconditions}
  {report : ReconciliationReport} {results : List BranchReconciliation} {id : PyStr}

theorem disposition_of_build {values : ReconciliationReport}
    (built : values.build = .ok report) : report.disposition = values.disposition := by
  simp only [ReconciliationReport.build, bind_eq_ok, pure_eq_ok] at built
  obtain ⟨_, -, _, -, rfl⟩ := built
  rfl

theorem results_eq (classified : inventory.branches.mapM (classifyOne inventory) = .ok results) :
    results = inventory.branches.map (reconciliationOf inventory) := by
  refine eq_map_of_mapM_eq_ok classified fun evidence item one => ?_
  simp only [classifyOne, bind_eq_ok, pure_eq_ok] at one
  obtain ⟨_, -, _, -, rfl⟩ := one
  rfl

theorem classify_eq_ok (returned : classify inventory closure = .ok report) :
    inventory.validate = .ok () ∧ closure.validate = .ok () ∧
      report.disposition = disposition
        (anomalies inventory closure.foundCodes (inventory.branches.map (reconciliationOf inventory)))
        (inventory.branches.map (reconciliationOf inventory)) closure.foundCodes.isEmpty := by
  simp only [classify, bind_eq_ok] at returned
  obtain ⟨_, validInventory, _, validClosure, _, -, _, -, _, -, _, -, results, classified, id, -,
    built⟩ := returned
  rw [disposition_of_build built, reportOf, results_eq classified]
  exact ⟨validInventory, validClosure, rfl⟩

/-! ### When a report is converged -/

structure Satisfied (closure : ClosurePreconditions) : Prop where
  trusted : isTrusted closure.epistemicClass = true
  counts : ∀ count ∈ closure.counts, count.2 = 0

theorem foundCodes_isEmpty_iff : closure.foundCodes.isEmpty = true ↔ Satisfied closure := by
  have split : Satisfied closure ↔ isTrusted closure.epistemicClass = true ∧
      ∀ count ∈ closure.counts, count.2 = 0 :=
    ⟨fun satisfied => ⟨satisfied.trusted, satisfied.counts⟩, fun both => ⟨both.1, both.2⟩⟩
  rw [split, List.isEmpty_iff, ClosurePreconditions.foundCodes, List.map_eq_nil_iff,
    List.filter_eq_nil_iff]
  simp only [ClosurePreconditions.blockers, ClosurePreconditions.counts, List.forall_mem_cons,
    List.not_mem_nil, false_implies, implies_true, and_true, decide_eq_true_eq, not_not, ne_eq,
    isTrusted]

theorem allConverged_iff :
    allConverged (inventory.branches.map (reconciliationOf inventory)) = true ↔
      inventory.branches ≠ [] ∧
        ∀ evidence ∈ inventory.branches, (classification evidence).1 ∈ convergedBranchClasses := by
  simp only [allConverged, Bool.and_eq_true, Bool.not_eq_true', List.isEmpty_eq_false_iff, ne_eq,
    List.map_eq_nil_iff, List.all_map, List.all_eq_true, Function.comp_apply, decide_eq_true_eq]
  rfl

theorem isTrusted_of_converged {evidence : BranchEvidence}
    (converged : (classification evidence).1 ∈ convergedBranchClasses) :
    isTrusted evidence.epistemicClass = true := by
  by_contra untrusted
  rw [Bool.not_eq_true] at untrusted
  rw [classification, if_pos untrusted] at converged
  exact absurd converged (by decide)

theorem successor_of_superseded {evidence : BranchEvidence}
    (superseded : (classification evidence).1 = .superseded) :
    ∃ successor, evidence.supersededByBranch = some successor := by
  unfold classification at superseded
  split_ifs at superseded with _ _ _ _ _ named
  exact Option.ne_none_iff_exists'.mp named.1

theorem drift_notMem_anomalies
    (converged : ∀ evidence ∈ inventory.branches,
      (classification evidence).1 ∈ convergedBranchClasses) :
    py "BASELINE_DRIFT" ∉ anomalies inventory closure.foundCodes
      (inventory.branches.map (reconciliationOf inventory)) := by
  have notBlocker : py "BASELINE_DRIFT" ∉ closure.foundCodes := by
    intro member
    obtain ⟨blocker, found, isDrift⟩ := List.mem_map.mp member
    have codes : ∀ blocker ∈ closure.blockers, blocker.2 ≠ py "BASELINE_DRIFT" := by
      simp only [ClosurePreconditions.blockers, List.forall_mem_cons, List.not_mem_nil,
        false_implies, implies_true, and_true]
      decide
    exact codes blocker (List.mem_of_mem_filter found) isDrift
  have notBranch : ∀ branch ∈ inventory.branches.zip
      (inventory.branches.map (reconciliationOf inventory)),
      py "BASELINE_DRIFT" ∉ anomaliesOf inventory branch := by
    intro branch member inside
    obtain ⟨evidence, inBranches, rfl⟩ : ∃ evidence ∈ inventory.branches,
        (evidence, reconciliationOf inventory evidence) = branch := by
      have pairs : inventory.branches.zip (inventory.branches.map (reconciliationOf inventory)) =
          inventory.branches.map fun evidence =>
            (evidence, reconciliationOf inventory evidence) := by
        conv_lhs => arg 1; rw [← List.map_id inventory.branches]
        exact List.zip_map'
      rw [pairs] at member
      exact List.mem_map.mp member
    have stays : ¬ hasDrifted inventory (reconciliationOf inventory evidence) := by
      rintro ⟨live, -⟩
      have settled := converged evidence inBranches
      simp only [reconciliationOf] at live
      revert live settled
      cases (classification evidence).1 <;> decide
    have noCode : ∀ code ∈ anomalyOfClass (reconciliationOf inventory evidence).classification,
        code ≠ py "BASELINE_DRIFT" := by
      cases (reconciliationOf inventory evidence).classification <;> decide
    simp only [anomaliesOf, List.mem_append, if_neg stays, List.not_mem_nil, or_false,
      Option.mem_toList] at inside
    rcases inside with owner | ofClass
    · split_ifs at owner <;> exact absurd owner (by decide)
    · exact noCode _ ofClass rfl
  simp only [anomalies, List.mem_dedup, List.mem_append, List.mem_flatMap, not_or, not_exists,
    not_and]
  refine ⟨⟨notBlocker, notBranch⟩, ?_⟩
  split_ifs
  · decide
  · simp

theorem disposition_eq_converged_iff (returned : classify inventory closure = .ok report) :
    report.disposition = .converged ↔
      inventory.branches ≠ [] ∧ Satisfied closure ∧
        ∀ evidence ∈ inventory.branches,
          (classification evidence).1 ∈ convergedBranchClasses := by
  obtain ⟨-, -, isDisposition⟩ := classify_eq_ok returned
  rw [isDisposition, disposition]
  split_ifs with drifted both
  · constructor
    · exact nofun
    · rintro ⟨-, -, converged⟩
      exact absurd drifted (drift_notMem_anomalies converged)
  · rw [allConverged_iff, foundCodes_isEmpty_iff] at both
    exact ⟨fun _ => ⟨both.1.1, both.2, both.1.2⟩, fun _ => rfl⟩
  · constructor
    · exact nofun
    · rintro ⟨nonempty, satisfied, converged⟩
      exact absurd ⟨allConverged_iff.mpr ⟨nonempty, converged⟩,
        foundCodes_isEmpty_iff.mpr satisfied⟩ both

/-! ### Following the successors -/

/-- `superseded_by_branch` of a superseded branch of the inventory. -/
def SupersededBy (inventory : RepositoryInventory) (branch successor : PyStr) : Prop :=
  ∃ evidence ∈ inventory.branches, evidence.branch = branch ∧
    (classification evidence).1 = .superseded ∧ evidence.supersededByBranch = some successor

def IsIntegrated (inventory : RepositoryInventory) (branch : PyStr) : Prop :=
  branch = inventory.defaultBranch ∨ ∃ evidence ∈ inventory.branches,
    evidence.branch = branch ∧ (classification evidence).1 = .alreadyIntegrated

/-- What a converged report says of its inventory and its preconditions. -/
structure Converges (inventory : RepositoryInventory) (closure : ClosurePreconditions) :
    Prop where
  nonempty : inventory.branches ≠ []
  preconditions : Satisfied closure
  trusted : ∀ evidence ∈ inventory.branches, isTrusted evidence.epistemicClass = true
  classified : ∀ evidence ∈ inventory.branches,
    (classification evidence).1 ∈ convergedBranchClasses
  successors : ∀ evidence ∈ inventory.branches, (classification evidence).1 = .superseded →
    (¬ ∃ branch, Relation.ReflTransGen (SupersededBy inventory) evidence.branch branch ∧
      Relation.TransGen (SupersededBy inventory) branch branch) →
    ∃ branch, Relation.ReflTransGen (SupersededBy inventory) evidence.branch branch ∧
      (IsIntegrated inventory branch ∨ branch ∉ inventory.names)

/-- Where supersession does not go round, it ends at a branch that is integrated, or outside the
inventory. -/
theorem classify_converged (returned : classify inventory closure = .ok report)
    (converged : report.disposition = .converged) : Converges inventory closure := by
  obtain ⟨nonempty, satisfied, classified⟩ := (disposition_eq_converged_iff returned).mp converged
  refine ⟨nonempty, satisfied, fun evidence member =>
    isTrusted_of_converged (classified evidence member), classified, ?_⟩
  intro evidence member superseded noCycle
  let ends := fun branch => IsIntegrated inventory branch ∨ branch ∉ inventory.names
  have finite : {branch | ¬ ends branch}.Finite := by
    refine (List.finite_toSet inventory.names).subset fun branch notEnd => ?_
    rw [Set.mem_ofPred_eq, not_or, not_not] at notEnd
    exact notEnd.2
  have progress : ∀ branch, ¬ ends branch → ∃ next, SupersededBy inventory branch next := by
    intro branch notEnd
    rw [not_or, not_not] at notEnd
    obtain ⟨other, inBranches, rfl⟩ := List.mem_map.mp notEnd.2
    have isSuperseded : (classification other).1 = .superseded := by
      have settled := classified other inBranches
      rw [convergedBranchClasses, List.mem_cons, List.mem_singleton] at settled
      exact settled.resolve_left fun integrated =>
        notEnd.1 (.inr ⟨other, inBranches, rfl, integrated⟩)
    obtain ⟨successor, named⟩ := successor_of_superseded isSuperseded
    exact ⟨successor, other, inBranches, rfl, isSuperseded, named⟩
  obtain ⟨last, reached, isEnd | cycle⟩ :=
    Graph.exists_end_or_cycle finite progress evidence.branch
  · exact ⟨last, reached, isEnd⟩
  · exact absurd ⟨last, reached, cycle⟩ noCycle

end FleetReconciliation

end CyberLion
