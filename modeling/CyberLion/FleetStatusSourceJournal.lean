import CyberLion.FleetCoordinationPlan
import CyberLion.FleetStatusSources
import CyberLion.FleetStatusState

/-!
# The source journal of the fleet status

`enterprise/fleet_status_state.py`: the ingestion of a source read, the recording of the
decisions of the reconciler, and the walks that verify what both have written.
-/

namespace CyberLion

namespace FleetStatus

open PyLib
open FleetCoordination (canonicalJson zeroDigest optionalText fieldOf textFieldOf textsFieldOf
  textOf)

/-! ### Reads -/

def parseUtc (value : PyStr) : Except PyError DateTime :=
  match fromIsoFormat (pyReplace 0x5A (py "+00:00") value) with
  | none => .error (stateError (py "source timestamp invalid"))
  | some (.naive _) => .error (stateError (py "source timestamp must be timezone-aware"))
  | some (.aware time offset) => time.astimezoneUtc offset

def sourceBatchDigest (identityDigest : PyStr) (sequence : Nat) (observedAt readDigest : PyStr) :
    Except PyError PyStr :=
  digestOf (.obj [(py "source_identity_digest", .str identityDigest),
    (py "source_sequence", .int sequence), (py "source_observed_at", .str observedAt),
    (py "read_digest", .str readDigest)])

/-- `_source_chain_digest`.  Digests are ASCII, so that their UTF-8 bytes are the ASCII ones. -/
def sourceChainDigest (previous batchDigest : PyStr) : Except PyError PyStr :=
  digestText (previous ++ batchDigest)

/-- `SELECT * FROM fleet_source_checkpoint WHERE source_id=?`. -/
def StatusStore.checkpointOf (store : StatusStore) (sourceId : PyStr) : Option CheckpointRow :=
  store.checkpoints.find? fun row => row.sourceId = sourceId

def CheckpointRow.identityColumns (row : CheckpointRow) : List PyStr :=
  [row.sourceIdentityDigest, row.sourceKind, row.sourceInstanceId,
    row.sourceImplementationDigest, row.trustAnchorId]

def StatusSourceIdentity.columns (identity : StatusSourceIdentity) (digest : PyStr) : List PyStr :=
  [digest, identity.sourceKind, identity.sourceInstanceId, identity.sourceImplementationDigest,
    identity.trustAnchorId]

/-- What a read finds of its source: the place of the next batch, or the checkpoint that the same
read has left. -/
inductive Place
  | next (sequence : Nat) (previousChain : PyStr)
  | repeated (checkpoint : CheckpointRow)

def placeOf (identity : StatusSourceIdentity) (identityDigest readDigest : PyStr)
    (sourceTime : DateTime) : Option CheckpointRow → Except PyError Place
  | none => .ok (.next 1 zeroDigest)
  | some checkpoint => do
    raiseIf (identity.columns identityDigest ≠ checkpoint.identityColumns)
      (stateError (py "source identity/implementation substitution denied"))
    let previousTime ← parseUtc checkpoint.sourceObservedAt
    raiseIf (sourceTime.packed < previousTime.packed)
      (stateError (py "source time regression denied"))
    if sourceTime = previousTime then do
      raiseIf (readDigest ≠ checkpoint.readDigest)
        (stateError (py "same source time with different content denied"))
      return .repeated checkpoint
    else
      return .next (checkpoint.sourceSequence + 1) checkpoint.sourceChainDigest

def insertObservations (batchDigest : PyStr) :
    Nat → List StatusSourceObservation → List ObservationRow → Except PyError (List ObservationRow)
  | _, [], rows => .ok rows
  | index, observation :: observations, rows => do
    let digest ← observation.digest
    let bytes ← canonicalJson (.obj observation.fields)
    let inserted ← insertRow (uniqueError (py "fleet_source_observation"))
      (fun row => row.batchDigest = batchDigest &&
        (row.observationIndex = index || row.observationId = observation.observationId))
      ⟨batchDigest, index, observation.observationId, digest, bytes.text⟩ rows
    insertObservations batchDigest (index + 1) observations inserted

def BatchRow.checkpoint (batch : BatchRow) : CheckpointRow :=
  ⟨batch.sourceId, batch.sourceIdentityDigest, batch.sourceKind, batch.sourceInstanceId,
    batch.sourceImplementationDigest, batch.trustAnchorId, batch.sourceSequence,
    batch.sourceObservedAt, batch.readDigest, batch.batchDigest, batch.sourceChainDigest⟩

/-- What `ingest_source_read` returns of a checkpoint. -/
def CheckpointRow.returned (row : CheckpointRow) (identityDigest : PyStr) : SourceCheckpoint :=
  ⟨row.sourceId, identityDigest, row.sourceSequence, row.sourceObservedAt, row.readDigest,
    row.batchDigest, row.sourceChainDigest⟩

/-- `INSERT INTO fleet_source_batch`. -/
def insertBatch (batch : BatchRow) (rows : List BatchRow) : Except PyError (List BatchRow) :=
  insertRow (uniqueError (py "fleet_source_batch"))
    (fun row => row.batchDigest = batch.batchDigest ||
      row.sourceChainDigest = batch.sourceChainDigest ||
      (row.sourceId = batch.sourceId && row.sourceSequence = batch.sourceSequence)) batch rows

/-- `INSERT INTO fleet_source_checkpoint ... ON CONFLICT(source_id)`: every column is set. -/
def upsertCheckpoint (row : CheckpointRow) (rows : List CheckpointRow) : List CheckpointRow :=
  upsertRow (fun other => other.sourceId = row.sourceId) (fun _ => row) row rows

def batchFields (batch : BatchRow) : List (PyStr × Json) :=
  [(py "source_id", .str batch.sourceId), (py "source_sequence", .int batch.sourceSequence),
    (py "batch_digest", .str batch.batchDigest),
    (py "source_chain_digest", .str batch.sourceChainDigest)]

def commitBatch (batch : BatchRow) (observations : List StatusSourceObservation)
    (store : StatusStore) : Except PyError StatusStore := do
  let batches ← insertBatch batch store.batches
  let observationRows ← insertObservations batch.batchDigest 0 observations store.observations
  appendEvent .sourceBatchIngested none (.obj (batchFields batch)) batch.ingestedAt
    { store with
      batches, observations := observationRows
      checkpoints := upsertCheckpoint batch.checkpoint store.checkpoints }

/-- The transaction of `ingest_source_read`, with the checks before it. -/
def ingestWork (read : StatusSourceRead) (clock : Moment) (store : StatusStore) :
    Except PyError (StatusStore × SourceCheckpoint) := do
  read.validate
  let ingestedAt ← now clock
  let sourceTime ← parseUtc read.sourceObservedAt
  let ingestedTime ← parseUtc ingestedAt
  raiseIf (ingestedTime.packed < sourceTime.packed)
    (stateError (py "source observation time cannot be in the future"))
  let identity := read.sourceIdentity
  let identityDigest ← identity.digest
  let readDigest ← read.digest
  let place ← placeOf identity identityDigest readDigest sourceTime
    (store.checkpointOf identity.sourceId)
  match place with
  | .repeated checkpoint => do
    let found : SourceCheckpoint := { checkpoint.returned identityDigest with
      sourceId := identity.sourceId }
    found.validate
    return (store, found)
  | .next sequence previousChain => do
    let batchDigest ← sourceBatchDigest identityDigest sequence read.sourceObservedAt readDigest
    let chainDigest ← sourceChainDigest previousChain batchDigest
    let batch : BatchRow := ⟨identity.sourceId, identity.sourceKind, identity.sourceInstanceId,
      identity.sourceImplementationDigest, identity.trustAnchorId, identityDigest, sequence,
      read.sourceObservedAt, ingestedAt, readDigest, batchDigest, previousChain, chainDigest⟩
    let after ← commitBatch batch read.observations store
    return (after, batch.checkpoint.returned identityDigest)

/-- `ingest_source_read`.  A new checkpoint is validated after the commit. -/
def ingestSourceRead (read : StatusSourceRead) (clock : Moment) (store : StatusStore) :
    StatusStore × Except PyError SourceCheckpoint :=
  match ingestWork read clock store with
  | .error error => (store, .error error)
  | .ok (after, checkpoint) =>
    (after, do
      checkpoint.validate
      return checkpoint)

/-! ### The walk over the sources -/

def checkKeywords (names : List PyStr) (fields : List (PyStr × Json)) : Except PyError Unit :=
  raiseIf (∃ field ∈ fields, field.1 ∉ names)
    ⟨.typeError, py "got an unexpected keyword argument"⟩

/-- A text or `None`. -/
def optionalFieldOf (fields : List (PyStr × Json)) (name : PyStr) :
    Except PyError (Option PyStr) := do
  let value ← fieldOf fields name
  match value with
  | .null => return none
  | other => do
    let text ← textOf other
    return some text

/-- A key with its value.  The source takes the `str` of both, which are texts in every row that
the store writes. -/
def itemOf : Json → Except PyError (PyStr × PyStr)
  | .arr [key, value] => do
    let keyText ← textOf key
    let valueText ← textOf value
    return (keyText, valueText)
  | _ => .error ⟨.valueError, py "not a key with its value"⟩

/-- `value_items`, of a stored object. -/
def itemsFieldOf (fields : List (PyStr × Json)) (name : PyStr) :
    Except PyError (List (PyStr × PyStr)) := do
  let value ← fieldOf fields name
  match value with
  | .arr items => items.mapM itemOf
  | _ => .error ⟨.typeError, py "not a list"⟩

/-- The fields of `StatusSourceObservation`. -/
def observationNames : List PyStr :=
  ["observation_id", "mission_id", "drone_id", "executor_id", "runtime_id", "repository",
    "baseline_sha", "dimension", "state", "value_items", "provenance_ref", "evidence_digest",
    "epistemic_class"].map py

/-- `StatusSourceObservation(**typed)`. -/
def observationOf (fields : List (PyStr × Json)) (valueItems : List (PyStr × PyStr)) :
    Except PyError StatusSourceObservation := do
  checkKeywords observationNames fields
  let observationId ← textFieldOf fields (py "observation_id")
  let missionId ← optionalFieldOf fields (py "mission_id")
  let droneId ← optionalFieldOf fields (py "drone_id")
  let executorId ← optionalFieldOf fields (py "executor_id")
  let runtimeId ← optionalFieldOf fields (py "runtime_id")
  let repository ← optionalFieldOf fields (py "repository")
  let baselineSha ← optionalFieldOf fields (py "baseline_sha")
  let dimension ← textFieldOf fields (py "dimension")
  let state ← textFieldOf fields (py "state")
  let provenanceRef ← textFieldOf fields (py "provenance_ref")
  let evidenceDigest ← textFieldOf fields (py "evidence_digest")
  let epistemicClass ← textFieldOf fields (py "epistemic_class")
  return ⟨observationId, missionId, droneId, executorId, runtimeId, repository, baselineSha,
    dimension, state, valueItems, provenanceRef, evidenceDigest, epistemicClass⟩

def orStateError {α : Type} (message : PyStr) (computation : Except PyError α) : Except PyError α :=
  rethrow (fun _ => true) (fun _ => stateError message) computation

/-- The fields of a stored observation, with the observation that they hold. -/
def readObservation (observationJson : PyStr) :
    Except PyError (List (PyStr × Json) × StatusSourceObservation) := do
  let payload ← Json.loads Json.plainHooks observationJson
  match payload with
  | .obj fields => do
    let items ← orStateError (py "source observation value_items corruption")
      (itemsFieldOf fields (py "value_items"))
    let observation ← orStateError (py "source observation contract corruption") do
      let observation ← observationOf fields items
      observation.validate
      return observation
    return (fields, observation)
  | _ => .error (stateError (py "source observation payload corruption"))

/-- The observations of a batch, from an index on, give their digests. -/
def verifyObservations : Nat → List ObservationRow → Except PyError (List PyStr)
  | _, [] => .ok []
  | index, row :: rows => do
    raiseIf (row.observationIndex ≠ index)
      (stateError (py "source observation index corruption"))
    let (fields, observation) ← readObservation row.observationJson
    let digest ← digestOf (.obj fields)
    raiseIf (digest ≠ row.observationDigest)
      (stateError (py "source observation digest corruption"))
    raiseIf (observation.observationId ≠ row.observationId)
      (stateError (py "source observation identity corruption"))
    let digests ← verifyObservations (index + 1) rows
    return digest :: digests

/-- `SELECT * FROM fleet_source_observation WHERE batch_digest=? ORDER BY observation_index`. -/
def StatusStore.observationsOf (store : StatusStore) (batchDigest : PyStr) : List ObservationRow :=
  (store.observations.filter fun row => row.batchDigest = batchDigest).insertionSort
    fun first second => first.observationIndex ≤ second.observationIndex

/-- `SELECT * FROM fleet_source_batch WHERE source_id=? ORDER BY source_sequence`. -/
def StatusStore.batchesOf (store : StatusStore) (sourceId : PyStr) : List BatchRow :=
  (store.batches.filter fun row => row.sourceId = sourceId).insertionSort
    fun first second => first.sourceSequence ≤ second.sourceSequence

def BatchRow.identity (batch : BatchRow) : StatusSourceIdentity :=
  ⟨batch.sourceId, batch.sourceKind, batch.sourceInstanceId, batch.sourceImplementationDigest,
    batch.trustAnchorId⟩

def verifyBatch (store : StatusStore) (previous : PyStr) (expectedSequence : Nat)
    (batch : BatchRow) : Except PyError PyStr := do
  raiseIf (batch.sourceSequence ≠ expectedSequence)
    (stateError (py "source sequence gap/corruption"))
  let identityDigest ← batch.identity.digest
  raiseIf (identityDigest ≠ batch.sourceIdentityDigest)
    (stateError (py "source identity digest corruption"))
  let digests ← verifyObservations 0 (store.observationsOf batch.batchDigest)
  let readDigest ← readDigestOf batch.identity batch.sourceObservedAt digests
  raiseIf (readDigest ≠ batch.readDigest) (stateError (py "source read digest corruption"))
  let expectedBatch ← sourceBatchDigest batch.sourceIdentityDigest batch.sourceSequence
    batch.sourceObservedAt batch.readDigest
  raiseIf (expectedBatch ≠ batch.batchDigest) (stateError (py "source batch digest corruption"))
  let expectedChain ← sourceChainDigest previous expectedBatch
  raiseIf (batch.previousSourceChainDigest ≠ previous ∨ batch.sourceChainDigest ≠ expectedChain)
    (stateError (py "source hash chain corruption"))
  return expectedChain

def verifyBatches (store : StatusStore) : PyStr → Nat → List BatchRow → Except PyError PyStr
  | previous, _, [] => .ok previous
  | previous, expectedSequence, batch :: batches => do
    let chain ← verifyBatch store previous expectedSequence batch
    verifyBatches store chain (expectedSequence + 1) batches

def checkpointDiffers (checkpoint : CheckpointRow) (last : BatchRow) (chain : PyStr) : Prop :=
  checkpoint.sourceSequence ≠ last.sourceSequence ∨ checkpoint.batchDigest ≠ last.batchDigest ∨
    checkpoint.sourceChainDigest ≠ chain ∨ checkpoint.readDigest ≠ last.readDigest ∨
    checkpoint.sourceObservedAt ≠ last.sourceObservedAt

instance (checkpoint : CheckpointRow) (last : BatchRow) (chain : PyStr) :
    Decidable (checkpointDiffers checkpoint last chain) :=
  inferInstanceAs (Decidable (_ ∨ _))

def verifySource (store : StatusStore) (sourceId : PyStr) : Except PyError (PyStr × PyStr) := do
  let chain ← verifyBatches store zeroDigest 1 (store.batchesOf sourceId)
  match store.checkpointOf sourceId, (store.batchesOf sourceId).getLast? with
  | some checkpoint, some last => do
    raiseIf (checkpointDiffers checkpoint last chain)
      (stateError (py "source checkpoint corruption"))
    return (sourceId, chain)
  | _, _ => .error (stateError (py "source checkpoint missing"))

/-- `SELECT DISTINCT source_id FROM fleet_source_batch ORDER BY source_id`. -/
def StatusStore.sourceIds (store : StatusStore) : List PyStr :=
  pySorted (store.batches.map BatchRow.sourceId).dedup

def verifySourceChains (store : StatusStore) : Except PyError (List (PyStr × PyStr)) :=
  store.sourceIds.mapM (verifySource store)

/-! ### Decisions -/

def DecisionType.text : DecisionType → PyStr
  | fact => py "FACT"
  | conflict => py "CONFLICT"
  | missing => py "MISSING"

def DecisionType.key : DecisionType → PyStr
  | fact => py "fact"
  | conflict => py "conflict"
  | missing => py "missing"

def decisionFields (kind : DecisionType) (observedAt : PyStr) (body : Json) :
    List (PyStr × Json) :=
  [(py "decision_type", .str kind.text), (py "decision_observed_at", .str observedAt),
    (kind.key, body)]

structure SourceDecision where
  kind : DecisionType
  subject : List PyStr
  missionId : Option PyStr
  droneId : Option PyStr
  dimension : PyStr
  body : List (PyStr × Json)
  valid : Except PyError Unit

def ReconciledStatusFact.decision (fact : ReconciledStatusFact) : SourceDecision :=
  ⟨.fact, [fact.missionId, fact.dimension], some fact.missionId, fact.value (py "drone_id"),
    fact.dimension, fact.fields, fact.validate⟩

def SourceConflict.decision (conflict : SourceConflict) : SourceDecision :=
  ⟨.conflict, [conflict.conflictId], conflict.missionId, conflict.droneId, conflict.dimension,
    conflict.fields, conflict.validate⟩

def MissingStatusSource.decision (missing : MissingStatusSource) : SourceDecision :=
  ⟨.missing, [missing.missionId, missing.dimension], some missing.missionId, missing.droneId,
    missing.dimension, missing.fields, missing.validate⟩

def SourceDecision.row (observedAt : PyStr) (decision : SourceDecision) :
    Except PyError DecisionRow := do
  decision.valid
  let bytes ← canonicalJson (.obj (decisionFields decision.kind observedAt (.obj decision.body)))
  let digest := sha256 bytes
  let decisionId := decision.kind.key ++ py ":" ++
    decision.subject.flatMap (fun part => part ++ py ":") ++ digest
  return ⟨decisionId, decision.missionId, decision.droneId, decision.dimension, decision.kind,
    digest, bytes.text, observedAt⟩

/-- `INSERT OR IGNORE INTO fleet_source_decision`. -/
def insertDecision (rows : List DecisionRow) (row : DecisionRow) : List DecisionRow :=
  insertOrIgnore (fun other => other.decisionId = row.decisionId ||
    other.decisionDigest = row.decisionDigest) row rows

def recordSourceDecisions (facts : List ReconciledStatusFact) (conflicts : List SourceConflict)
    (missing : List MissingStatusSource) (clock : Moment) (store : StatusStore) :
    Except PyError StatusStore := do
  let observedAt ← now clock
  let rows ← (facts.map ReconciledStatusFact.decision ++ conflicts.map SourceConflict.decision ++
    missing.map MissingStatusSource.decision).mapM (SourceDecision.row observedAt)
  let decisions := rows.foldl insertDecision store.decisions
  let inserted := decisions.length - store.decisions.length
  if inserted = 0 then return store
  else
    appendEvent .sourceReconciliationDecision none
      (.obj [(py "inserted", .int inserted)]) observedAt { store with decisions }

/-- `ReconciledStatusFact(**value).validate()`. -/
def verifyFact (fields : List (PyStr × Json)) : Except PyError Unit := do
  let valueItems ← itemsFieldOf fields (py "value_items")
  let sourceIds ← textsFieldOf fields (py "source_ids")
  let evidenceRefs ← textsFieldOf fields (py "evidence_refs")
  checkKeywords (["mission_id", "dimension", "state", "value_items", "source_ids",
    "evidence_refs", "epistemic_class"].map py) fields
  let missionId ← textFieldOf fields (py "mission_id")
  let dimension ← textFieldOf fields (py "dimension")
  let state ← textFieldOf fields (py "state")
  let epistemicClass ← textFieldOf fields (py "epistemic_class")
  ReconciledStatusFact.validate
    ⟨missionId, dimension, state, valueItems, sourceIds, evidenceRefs, epistemicClass⟩

/-- `SourceConflict(**value).validate()`. -/
def verifyConflict (fields : List (PyStr × Json)) : Except PyError Unit := do
  let sourceIds ← textsFieldOf fields (py "source_ids")
  let observationIds ← textsFieldOf fields (py "observation_ids")
  let evidenceRefs ← textsFieldOf fields (py "evidence_refs")
  checkKeywords (["conflict_id", "conflict_type", "mission_id", "drone_id", "dimension",
    "source_ids", "observation_ids", "evidence_refs", "observed_at"].map py) fields
  let conflictId ← textFieldOf fields (py "conflict_id")
  let conflictType ← textFieldOf fields (py "conflict_type")
  let missionId ← optionalFieldOf fields (py "mission_id")
  let droneId ← optionalFieldOf fields (py "drone_id")
  let dimension ← textFieldOf fields (py "dimension")
  let observedAt ← textFieldOf fields (py "observed_at")
  SourceConflict.validate ⟨conflictId, conflictType, missionId, droneId, dimension, sourceIds,
    observationIds, evidenceRefs, observedAt⟩

/-- `MissingStatusSource(**value).validate()`. -/
def verifyMissing (fields : List (PyStr × Json)) : Except PyError Unit := do
  let expectedSourceKinds ← textsFieldOf fields (py "expected_source_kinds")
  checkKeywords (["mission_id", "drone_id", "dimension", "expected_source_kinds",
    "observed_at"].map py) fields
  let missionId ← textFieldOf fields (py "mission_id")
  let droneId ← optionalFieldOf fields (py "drone_id")
  let dimension ← textFieldOf fields (py "dimension")
  let observedAt ← textFieldOf fields (py "observed_at")
  MissingStatusSource.validate ⟨missionId, droneId, dimension, expectedSourceKinds, observedAt⟩

def verifyBody : DecisionType → List (PyStr × Json) → Except PyError Unit
  | .fact => verifyFact
  | .conflict => verifyConflict
  | .missing => verifyMissing

/-- `payload.get("decision_type") != row["decision_type"]`. -/
def checkDecisionType (kind : DecisionType) : Option Json → Except PyError Unit
  | some (.str text) =>
    raiseIf (text ≠ kind.text) (stateError (py "source decision type corruption"))
  | _ => .error (stateError (py "source decision type corruption"))

/-- One row of `verify_source_decisions`. -/
def verifyDecision (row : DecisionRow) : Except PyError Unit := do
  let payload ← rethrow (fun error => error.isInstance .jsonDecodeError)
    (fun _ => stateError (py "source decision JSON corruption"))
    (Json.loads Json.plainHooks row.decisionJson)
  match payload with
  | .obj fields => do
    checkDecisionType row.decisionType (fields.lookup (py "decision_type"))
    let digest ← digestOf (.obj fields)
    raiseIf (digest ≠ row.decisionDigest)
      (stateError (py "source decision digest corruption"))
    orStateError (py "source decision contract corruption") do
      let body ← fieldOf fields row.decisionType.key
      match body with
      | .obj value => verifyBody row.decisionType value
      | _ => .error ⟨.typeError, py "not a mapping"⟩
  | _ => .error (stateError (py "source decision type corruption"))

def verifySourceDecisions (store : StatusStore) : Except PyError Unit :=
  store.decisions.forM verifyDecision

end FleetStatus

end CyberLion
