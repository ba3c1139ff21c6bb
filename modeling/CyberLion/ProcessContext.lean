import CyberLion.CanonicalProcessIR

/-!
# The process context

`CurrentnessBasis`, `AttemptRecord` and `ProcessContextSnapshot` of
`contracts/process_ir.py`.  A field whose legal values are a closed vocabulary
has that vocabulary as its type, which carries the membership check of the
source.
-/

namespace CyberLion

open PyLib ProcessIR

/-! ### Vocabulary -/

inductive CurrentnessState
  | current | stale | notRevalidated | unknown
  deriving DecidableEq

inductive CurrentnessDriftRule
  | identityChanged | evidenceExpired | subjectChanged | unknownDrift
  deriving DecidableEq

inductive ProcessControl
  | active | deferred | handoffRequired | terminated | complete
  deriving DecidableEq

def currentnessStates : List (CurrentnessState × PyStr) :=
  [(.current, py "CURRENT"), (.stale, py "STALE"),
    (.notRevalidated, py "NOT_REVALIDATED"), (.unknown, py "UNKNOWN")]

def currentnessDriftRules : List (CurrentnessDriftRule × PyStr) :=
  [(.identityChanged, py "IDENTITY_CHANGED"), (.evidenceExpired, py "EVIDENCE_EXPIRED"),
    (.subjectChanged, py "SUBJECT_CHANGED"), (.unknownDrift, py "UNKNOWN_DRIFT")]

def processControlStates : List (ProcessControl × PyStr) :=
  [(.active, py "ACTIVE"), (.deferred, py "DEFERRED"),
    (.handoffRequired, py "HANDOFF_REQUIRED"), (.terminated, py "TERMINATED"),
    (.complete, py "COMPLETE")]

/-- `sha256(domain + json.dumps(payload, sort_keys=True, ...).encode("utf-8"))`. -/
def sealDigest (domain : Utf8Bytes) (payload : Json) : Except PyError PyStr := do
  let raw ← encodeUtf8 (← Json.dumps false true payload)
  return sha256 (domain.append raw)

/-- The check of an optional digest field: empty, or the digest of the rest. -/
def checkSeal (stored : PyStr) (compute : Except PyError PyStr) (isDigest : PyStr → Bool)
    (invalid mismatch : PyError) : Except PyError Unit :=
  if stored = [] then .ok ()
  else do
    raiseIf (isDigest stored = false) invalid
    let expected ← compute
    raiseIf (stored ≠ expected) mismatch

/-! ### Currentness -/

structure CurrentnessBasis where
  requirementId : PyStr
  subject : PyStr
  observedIdentity : PyStr
  evidenceRef : PyStr
  observedAt : PyStr
  state : CurrentnessState
  driftRule : CurrentnessDriftRule
  basisDigest : PyStr

namespace CurrentnessBasis

def digestDomain : Utf8Bytes :=
  ⟨py "LION/PROCESS-CURRENTNESS-BASIS/1\x00", by decide⟩

/-- The fields of `asdict(self)` before the digest. -/
def payloadFields (basis : CurrentnessBasis) : List (PyStr × Json) :=
  [(py "requirement_id", .str basis.requirementId), (py "subject", .str basis.subject),
    (py "observed_identity", .str basis.observedIdentity),
    (py "evidence_ref", .str basis.evidenceRef),
    (py "observed_at", .str basis.observedAt),
    (py "state", .str (toText currentnessStates basis.state)),
    (py "drift_rule", .str (toText currentnessDriftRules basis.driftRule))]

def computeDigest (basis : CurrentnessBasis) : Except PyError PyStr :=
  sealDigest digestDomain (.obj basis.payloadFields)

def asDict (basis : CurrentnessBasis) : Json :=
  .obj (basis.payloadFields ++ [(py "basis_digest", .str basis.basisDigest)])

def validate (basis : CurrentnessBasis) : Except PyError Unit := do
  let _ ← identifier (.str basis.requirementId) (py "currentness.requirement_id")
  let _ ← text (.str basis.subject) (py "currentness.subject")
  let _ ← text (.str basis.observedIdentity) (py "currentness.observed_identity")
  let _ ← text (.str basis.evidenceRef) (py "currentness.evidence_ref")
  let _ ← text (.str basis.observedAt) (py "currentness.observed_at")
  checkSeal basis.basisDigest basis.computeDigest isSha256
    (contractError (py "currentness.basis_digest invalid"))
    (contractError (py "currentness.basis_digest mismatch"))

end CurrentnessBasis

/-! ### Attempts -/

structure AttemptRecord where
  transitionId : PyStr
  attemptNumber : Int
  outcome : OutcomeLabel
  effectRef : PyStr
  observationRef : PyStr
  reconciliationRef : PyStr
  attemptDigest : PyStr

namespace AttemptRecord

def digestDomain : Utf8Bytes :=
  ⟨py "LION/PROCESS-ATTEMPT/1\x00", by decide⟩

/-- The fields of `asdict(self)` before the digest. -/
def payloadFields (record : AttemptRecord) : List (PyStr × Json) :=
  [(py "transition_id", .str record.transitionId),
    (py "attempt_number", .int record.attemptNumber),
    (py "outcome", .str (toText outcomeLabels record.outcome)),
    (py "effect_ref", .str record.effectRef),
    (py "observation_ref", .str record.observationRef),
    (py "reconciliation_ref", .str record.reconciliationRef)]

def computeDigest (record : AttemptRecord) : Except PyError PyStr :=
  sealDigest digestDomain (.obj record.payloadFields)

def asDict (record : AttemptRecord) : Json :=
  .obj (record.payloadFields ++ [(py "attempt_digest", .str record.attemptDigest)])

def validate (record : AttemptRecord) : Except PyError Unit := do
  let _ ← identifier (.str record.transitionId) (py "attempt.transition_id")
  raiseIf (record.attemptNumber < 1) (contractError (py "attempt.attempt_number invalid"))
  let _ ← text (.str record.effectRef) (py "attempt.effect_ref") true
  let _ ← text (.str record.observationRef) (py "attempt.observation_ref") true
  let _ ← text (.str record.reconciliationRef) (py "attempt.reconciliation_ref") true
  checkSeal record.attemptDigest record.computeDigest isSha256
    (contractError (py "attempt.attempt_digest invalid"))
    (contractError (py "attempt.attempt_digest mismatch"))

/-- `sealed()`: the record with its digest, validated. -/
def sealRecord (record : AttemptRecord) : Except PyError AttemptRecord := do
  let digest ← record.computeDigest
  let sealedRecord := { record with attemptDigest := digest }
  sealedRecord.validate
  return sealedRecord

end AttemptRecord

/-! ### The snapshot -/

structure ProcessContextSnapshot where
  processIrDigest : PyStr
  processState : PyStr
  completedTransitions : List PyStr := []
  satisfiedDependencies : List PyStr := []
  satisfiedGuards : List PyStr := []
  satisfiedEvidenceRequirements : List PyStr := []
  satisfiedCurrentnessRequirements : List PyStr := []
  currentnessBases : List CurrentnessBasis := []
  verifiedAuthorityContextRefs : List PyStr := []
  actionResultRefs : List PyStr := []
  observationRefs : List PyStr := []
  reconciliationRefs : List PyStr := []
  attemptCounts : List (PyStr × Int) := []
  attemptRecords : List AttemptRecord := []
  processControl : ProcessControl := .active
  observedAt : PyStr := []

namespace ProcessContextSnapshot

def digestDomain : Utf8Bytes :=
  ⟨py "LION/PROCESS-CONTEXT/1\x00", by decide⟩

/-- The loop over the currentness bases, with the requirements already seen. -/
def checkBases (subjects seen : List PyStr) :
    List CurrentnessBasis → Except PyError Unit
  | [] => .ok ()
  | basis :: bases => do
    basis.validate
    raiseIf (basis.requirementId ∈ seen)
      (contractError (py "duplicate currentness requirement basis"))
    raiseIf (basis.subject ∉ subjects)
      (contractError (py "currentness basis subject is outside Process IR"))
    checkBases subjects (basis.requirementId :: seen) bases

/-- The loop over the attempt counts, with the transitions already seen. -/
def checkCounts (transitionIds seen : List PyStr) :
    List (PyStr × Int) → Except PyError Unit
  | [] => .ok ()
  | (transitionId, count) :: counts => do
    raiseIf (transitionId ∉ transitionIds ∨ transitionId ∈ seen)
      (contractError (py "attempt_counts reference invalid transition"))
    raiseIf (count < 0) (contractError (py "attempt count invalid"))
    checkCounts transitionIds (transitionId :: seen) counts

/-- The loop over the attempt records, with the keys already seen. -/
def checkRecords (transitionIds : List PyStr) (seen : List (PyStr × Int)) :
    List AttemptRecord → Except PyError Unit
  | [] => .ok ()
  | record :: records => do
    record.validate
    raiseIf (record.transitionId ∉ transitionIds)
      (contractError (py "attempt record references invalid transition"))
    let key := (record.transitionId, record.attemptNumber)
    raiseIf (key ∈ seen) (contractError (py "duplicate attempt record"))
    checkRecords transitionIds (key :: seen) records

/-- `record_max.get(transition_id, 0)` after the loop over the records. -/
def recordMax (records : List AttemptRecord) (transitionId : PyStr) : Int :=
  records.foldl (fun greatest record =>
    if record.transitionId = transitionId then max greatest record.attemptNumber
    else greatest) 0

/-- `record_max == {tid: count for tid, count in counts.items() if count > 0}`:
the two mappings have no zero entry, so they agree when they agree on every
transition of either side. -/
def countsMatch (counts : List (PyStr × Int)) (records : List AttemptRecord) : Bool :=
  (counts.all fun entry => recordMax records entry.1 = entry.2) &&
    records.all fun record => record.transitionId ∈ counts.map Prod.fst

def validateFor (context : ProcessContextSnapshot) (ir : CanonicalProcessIR) :
    Except PyError ProcessContextSnapshot := do
  let _ ← ir.validate
  raiseIf (context.processIrDigest ≠ ir.processDigest)
    (contractError (py "process context does not bind Process IR"))
  let model ← ir.asModel
  raiseIf (context.processState ∉ model.states)
    (contractError (py "process context state is undefined"))
  let transitionIds := model.transitions.map Transition.transitionId
  raiseIf (¬ context.completedTransitions ⊆ transitionIds)
    (contractError (py "process context references unknown completed transition"))
  raiseIf (¬ context.satisfiedDependencies ⊆
      model.dependencies.map Dependency.dependencyId)
    (contractError (py "process context references unknown dependency"))
  checkBases (model.transitions.flatMap fun transition =>
    transition.resourceClaims.currentnessSubjects) [] context.currentnessBases
  raiseIf (¬ context.satisfiedCurrentnessRequirements.Nodup)
    (contractError (py "currentness compatibility labels must be unique"))
  checkCounts transitionIds [] context.attemptCounts
  checkRecords transitionIds [] context.attemptRecords
  raiseIf (countsMatch context.attemptCounts context.attemptRecords = false)
    (contractError (py "attempt_counts do not match attempt record lineage"))
  raiseIf (context.observedAt = [])
    (contractError (py "process context requires observed_at"))
  return context

/-- `asdict(self)`. -/
def asDict (context : ProcessContextSnapshot) : Json :=
  let strings := fun values : List PyStr => Json.arr (values.map Json.str)
  .obj [(py "process_ir_digest", .str context.processIrDigest),
    (py "process_state", .str context.processState),
    (py "completed_transitions", strings context.completedTransitions),
    (py "satisfied_dependencies", strings context.satisfiedDependencies),
    (py "satisfied_guards", strings context.satisfiedGuards),
    (py "satisfied_evidence_requirements", strings context.satisfiedEvidenceRequirements),
    (py "satisfied_currentness_requirements",
      strings context.satisfiedCurrentnessRequirements),
    (py "currentness_bases", .arr (context.currentnessBases.map CurrentnessBasis.asDict)),
    (py "verified_authority_context_refs", strings context.verifiedAuthorityContextRefs),
    (py "action_result_refs", strings context.actionResultRefs),
    (py "observation_refs", strings context.observationRefs),
    (py "reconciliation_refs", strings context.reconciliationRefs),
    (py "attempt_counts", .arr (context.attemptCounts.map fun entry =>
      .arr [.str entry.1, .int entry.2])),
    (py "attempt_records", .arr (context.attemptRecords.map AttemptRecord.asDict)),
    (py "process_control", .str (toText processControlStates context.processControl)),
    (py "observed_at", .str context.observedAt)]

def contextDigest (context : ProcessContextSnapshot) (ir : CanonicalProcessIR) :
    Except PyError PyStr := do
  let _ ← context.validateFor ir
  sealDigest digestDomain context.asDict

end ProcessContextSnapshot

end CyberLion
