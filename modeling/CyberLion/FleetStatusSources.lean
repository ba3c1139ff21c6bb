import CyberLion.FleetStatusContracts

/-!
# The source contracts of the fleet status

`contracts/fleet_status_sources.py`: what a status source reports, and what the reconciler says
of it, each with its checks and its canonical form.
-/

namespace CyberLion

namespace FleetStatus

open PyLib
open FleetCoordination (canonicalJson optionalText textList)

/-- `class FleetStatusSourceContractError(ValueError)`. -/
def sourceContractErrorClass : ErrorClass :=
  .declared .valueError (py "FleetStatusSourceContractError")

def sourceContractError (message : PyStr) : PyError :=
  ⟨sourceContractErrorClass, message⟩

/-! ### Vocabularies -/

def sourceKinds : List PyStr :=
  [py "FLEET_CONTROL", py "RUNTIME_ATTESTATION", py "RUNTIME_AUTHORITY", py "AUTHORITY_STATE",
    py "LEASE_STATE", py "SANDBOX", py "VERIFICATION", py "EFFECT", py "RECONCILIATION",
    py "RECEIPT", py "REPOSITORY", py "CI", py "HEARTBEAT"]

def dimensions : List PyStr :=
  [py "IDENTITY", py "MISSION", py "RUNTIME", py "HEARTBEAT", py "AUTHORITY", py "LEASE",
    py "SANDBOX", py "VERIFICATION", py "EFFECT", py "RECONCILIATION", py "RECEIPT",
    py "REPOSITORY", py "CI"]

def sourceEpistemicClasses : List PyStr :=
  [py "OBSERVED", py "ANCHORED"]

/-! ### Fields -/

/-- `_text`. -/
def sourceText (limit : Nat) (name value : PyStr) : Except PyError Unit :=
  raiseIf (isBlank value = true ∨ value.length > limit ∨ hasNul value = true)
    (sourceContractError (name ++ py " is invalid"))

/-- `_text(value, name, optional=True)`. -/
def sourceOptionalText (name : PyStr) : Option PyStr → Except PyError Unit
  | some value => sourceText 4096 name value
  | none => .ok ()

/-- `_sha40(value, name, optional=True)`. -/
def sourceOptionalSha40 (name : PyStr) : Option PyStr → Except PyError Unit
  | some value => do
    sourceText 40 name value
    raiseIf (isHexOf 40 value = false)
      (sourceContractError (name ++ py " must be a full lowercase git SHA"))
  | none => .ok ()

/-- `_sha256`. -/
def sourceSha256 (name value : PyStr) : Except PyError Unit := do
  sourceText 64 name value
  raiseIf (isHexOf 64 value = false) (sourceContractError (name ++ py " must be sha256 hex"))

/-- `_utc`.  A value outside the years that UTC can express is not caught. -/
def sourceUtc (name value : PyStr) : Except PyError DateTime := do
  sourceText 4096 name value
  match fromIsoFormat (pyReplace 0x5A (py "+00:00") value) with
  | none => .error (sourceContractError (name ++ py " is invalid"))
  | some (.naive _) => .error (sourceContractError (name ++ py " must be timezone-aware"))
  | some (.aware time offset) => time.astimezoneUtc offset

/-- The loop of `_items`. -/
def checkItemsAfter (name : PyStr) : Option PyStr → List (PyStr × PyStr) → Except PyError Unit
  | _, [] => .ok ()
  | previous, (key, value) :: items => do
    sourceText 128 (name ++ py " key") key
    sourceText 8192 (name ++ py " value") value
    raiseIf (∃ earlier ∈ previous, key ≤ earlier)
      (sourceContractError (name ++ py " must be strictly key-sorted"))
    checkItemsAfter name (some key) items

/-- `_items`.  Sorted keys are unique. -/
def checkItems (name : PyStr) (items : List (PyStr × PyStr)) : Except PyError Unit :=
  checkItemsAfter name none items

def itemsJson (items : List (PyStr × PyStr)) : Json :=
  .arr (items.map fun item => .arr [.str item.1, .str item.2])

/-! ### Sources -/

structure StatusSourceIdentity where
  sourceId : PyStr
  sourceKind : PyStr
  sourceInstanceId : PyStr
  sourceImplementationDigest : PyStr
  trustAnchorId : PyStr
  deriving DecidableEq

namespace StatusSourceIdentity

variable (identity : StatusSourceIdentity)

def validate : Except PyError Unit := do
  [(py "source_id", identity.sourceId), (py "source_instance_id", identity.sourceInstanceId),
    (py "trust_anchor_id", identity.trustAnchorId)].forM fun field =>
      sourceText 4096 field.1 field.2
  raiseIf (identity.sourceKind ∉ sourceKinds) (sourceContractError (py "source_kind is invalid"))
  sourceSha256 (py "source_implementation_digest") identity.sourceImplementationDigest

def fields : List (PyStr × Json) :=
  [(py "source_id", .str identity.sourceId), (py "source_kind", .str identity.sourceKind),
    (py "source_instance_id", .str identity.sourceInstanceId),
    (py "source_implementation_digest", .str identity.sourceImplementationDigest),
    (py "trust_anchor_id", .str identity.trustAnchorId)]

def digest : Except PyError PyStr := do
  identity.validate
  digestOf (.obj identity.fields)

end StatusSourceIdentity

/-! ### Observations -/

structure StatusSourceObservation where
  observationId : PyStr
  missionId : Option PyStr
  droneId : Option PyStr
  executorId : Option PyStr
  runtimeId : Option PyStr
  repository : Option PyStr
  baselineSha : Option PyStr
  dimension : PyStr
  state : PyStr
  valueItems : List (PyStr × PyStr)
  provenanceRef : PyStr
  evidenceDigest : PyStr
  epistemicClass : PyStr
  deriving DecidableEq

namespace StatusSourceObservation

variable (observation : StatusSourceObservation)

def checkRepository : Option PyStr → Except PyError Unit
  | some repository => do
    sourceText 4096 (py "repository") repository
    raiseIf (isRepository repository = false)
      (sourceContractError (py "repository must use owner/name form"))
  | none => .ok ()

def validate : Except PyError Unit := do
  sourceText 4096 (py "observation_id") observation.observationId
  [(py "mission_id", observation.missionId), (py "drone_id", observation.droneId),
    (py "executor_id", observation.executorId),
    (py "runtime_id", observation.runtimeId)].forM fun field =>
      sourceOptionalText field.1 field.2
  checkRepository observation.repository
  sourceOptionalSha40 (py "baseline_sha") observation.baselineSha
  raiseIf (observation.dimension ∉ dimensions)
    (sourceContractError (py "dimension is invalid"))
  sourceText 128 (py "state") observation.state
  checkItems (py "value_items") observation.valueItems
  sourceText 4096 (py "provenance_ref") observation.provenanceRef
  sourceSha256 (py "evidence_digest") observation.evidenceDigest
  raiseIf (observation.epistemicClass ∉ sourceEpistemicClasses)
    (sourceContractError (py "source epistemic_class must be OBSERVED or ANCHORED"))
  raiseIf (observation.dimension ∉ [py "REPOSITORY", py "CI"] ∧ observation.missionId = none)
    (sourceContractError (py "mission-bound dimension requires mission_id"))

/-- `value_dict`, of an observation that is valid. -/
def value (key : PyStr) : Option PyStr :=
  observation.valueItems.lookup key

/-- `canonical_dict`. -/
def fields : List (PyStr × Json) :=
  [(py "observation_id", .str observation.observationId),
    (py "mission_id", optionalText observation.missionId),
    (py "drone_id", optionalText observation.droneId),
    (py "executor_id", optionalText observation.executorId),
    (py "runtime_id", optionalText observation.runtimeId),
    (py "repository", optionalText observation.repository),
    (py "baseline_sha", optionalText observation.baselineSha),
    (py "dimension", .str observation.dimension), (py "state", .str observation.state),
    (py "value_items", itemsJson observation.valueItems),
    (py "provenance_ref", .str observation.provenanceRef),
    (py "evidence_digest", .str observation.evidenceDigest),
    (py "epistemic_class", .str observation.epistemicClass)]

def digest : Except PyError PyStr := do
  observation.validate
  digestOf (.obj observation.fields)

end StatusSourceObservation

/-! ### Reads -/

structure StatusSourceRead where
  sourceIdentity : StatusSourceIdentity
  sourceObservedAt : PyStr
  observations : List StatusSourceObservation
  deriving DecidableEq

namespace StatusSourceRead

variable (read : StatusSourceRead)

def validate : Except PyError Unit := do
  read.sourceIdentity.validate
  let _ ← sourceUtc (py "source_observed_at") read.sourceObservedAt
  read.observations.forM fun observation => observation.validate
  raiseIf (¬ (read.observations.map StatusSourceObservation.observationId).Nodup)
    (sourceContractError (py "duplicate observation_id in source read"))

end StatusSourceRead

def readDigestOf (identity : StatusSourceIdentity) (observedAt : PyStr)
    (observationDigests : List PyStr) : Except PyError PyStr :=
  digestOf (.obj [(py "source_identity", .obj identity.fields),
    (py "source_observed_at", .str observedAt),
    (py "observation_digests", textList observationDigests)])

def StatusSourceRead.digest (read : StatusSourceRead) : Except PyError PyStr := do
  read.validate
  let observationDigests ← read.observations.mapM fun observation => observation.digest
  readDigestOf read.sourceIdentity read.sourceObservedAt observationDigests

structure SourceCheckpoint where
  sourceId : PyStr
  sourceIdentityDigest : PyStr
  sourceSequence : Nat
  sourceObservedAt : PyStr
  readDigest : PyStr
  batchDigest : PyStr
  sourceChainDigest : PyStr
  deriving DecidableEq

def SourceCheckpoint.validate (checkpoint : SourceCheckpoint) : Except PyError Unit := do
  sourceText 4096 (py "source_id") checkpoint.sourceId
  [(py "source_identity_digest", checkpoint.sourceIdentityDigest),
    (py "read_digest", checkpoint.readDigest), (py "batch_digest", checkpoint.batchDigest),
    (py "source_chain_digest", checkpoint.sourceChainDigest)].forM fun field =>
      sourceSha256 field.1 field.2
  raiseIf (checkpoint.sourceSequence < 1)
    (sourceContractError (py "checkpoint source_sequence invalid"))
  let _ ← sourceUtc (py "source_observed_at") checkpoint.sourceObservedAt
  return ()

/-! ### Decisions -/

def checkUniqueTexts (name message : PyStr) (mayBeEmpty : Bool) (values : List PyStr) :
    Except PyError Unit := do
  raiseIf ((mayBeEmpty = false ∧ values = []) ∨ ¬ values.Nodup)
    (sourceContractError (name ++ message))
  values.forM fun value => sourceText 4096 name value

structure ReconciledStatusFact where
  missionId : PyStr
  dimension : PyStr
  state : PyStr
  valueItems : List (PyStr × PyStr)
  sourceIds : List PyStr
  evidenceRefs : List PyStr
  epistemicClass : PyStr
  deriving DecidableEq

namespace ReconciledStatusFact

variable (fact : ReconciledStatusFact)

def validate : Except PyError Unit := do
  sourceText 4096 (py "mission_id") fact.missionId
  raiseIf (fact.dimension ∉ dimensions) (sourceContractError (py "dimension invalid"))
  sourceText 4096 (py "state") fact.state
  checkItems (py "value_items") fact.valueItems
  [(py "source_ids", fact.sourceIds), (py "evidence_refs", fact.evidenceRefs)].forM fun field =>
    checkUniqueTexts field.1 (py " must be a unique non-empty tuple") false field.2
  raiseIf (fact.epistemicClass ∉ sourceEpistemicClasses)
    (sourceContractError (py "reconciled fact epistemic_class invalid"))

/-- `value_dict`, of a fact that is valid. -/
def value (key : PyStr) : Option PyStr :=
  fact.valueItems.lookup key

def fields : List (PyStr × Json) :=
  [(py "mission_id", .str fact.missionId), (py "dimension", .str fact.dimension),
    (py "state", .str fact.state), (py "value_items", itemsJson fact.valueItems),
    (py "source_ids", textList fact.sourceIds), (py "evidence_refs", textList fact.evidenceRefs),
    (py "epistemic_class", .str fact.epistemicClass)]

end ReconciledStatusFact

structure SourceConflict where
  conflictId : PyStr
  conflictType : PyStr
  missionId : Option PyStr
  droneId : Option PyStr
  dimension : PyStr
  sourceIds : List PyStr
  observationIds : List PyStr
  evidenceRefs : List PyStr
  observedAt : PyStr
  deriving DecidableEq

namespace SourceConflict

variable (conflict : SourceConflict)

def validate : Except PyError Unit := do
  sourceText 4096 (py "conflict_id") conflict.conflictId
  sourceText 4096 (py "conflict_type") conflict.conflictType
  sourceOptionalText (py "mission_id") conflict.missionId
  sourceOptionalText (py "drone_id") conflict.droneId
  raiseIf (conflict.dimension ∉ dimensions)
    (sourceContractError (py "conflict dimension invalid"))
  [(py "source_ids", conflict.sourceIds), (py "observation_ids", conflict.observationIds),
    (py "evidence_refs", conflict.evidenceRefs)].forM fun field =>
      checkUniqueTexts field.1 (py " must be a unique tuple") true field.2
  raiseIf (conflict.sourceIds = [])
    (sourceContractError (py "conflict requires at least one source_id"))
  let _ ← sourceUtc (py "observed_at") conflict.observedAt
  return ()

def fields : List (PyStr × Json) :=
  [(py "conflict_id", .str conflict.conflictId), (py "conflict_type", .str conflict.conflictType),
    (py "mission_id", optionalText conflict.missionId),
    (py "drone_id", optionalText conflict.droneId), (py "dimension", .str conflict.dimension),
    (py "source_ids", textList conflict.sourceIds),
    (py "observation_ids", textList conflict.observationIds),
    (py "evidence_refs", textList conflict.evidenceRefs),
    (py "observed_at", .str conflict.observedAt)]

end SourceConflict

structure MissingStatusSource where
  missionId : PyStr
  droneId : Option PyStr
  dimension : PyStr
  expectedSourceKinds : List PyStr
  observedAt : PyStr
  deriving DecidableEq

namespace MissingStatusSource

variable (missing : MissingStatusSource)

def validate : Except PyError Unit := do
  sourceText 4096 (py "mission_id") missing.missionId
  sourceOptionalText (py "drone_id") missing.droneId
  raiseIf (missing.dimension ∉ dimensions)
    (sourceContractError (py "missing-source dimension invalid"))
  raiseIf (missing.expectedSourceKinds = [])
    (sourceContractError (py "missing source requires expected_source_kinds"))
  raiseIf (¬ missing.expectedSourceKinds.Nodup)
    (sourceContractError (py "expected_source_kinds must be unique"))
  raiseIf (∃ kind ∈ missing.expectedSourceKinds, kind ∉ sourceKinds)
    (sourceContractError (py "expected source kind invalid"))
  let _ ← sourceUtc (py "observed_at") missing.observedAt
  return ()

def fields : List (PyStr × Json) :=
  [(py "mission_id", .str missing.missionId), (py "drone_id", optionalText missing.droneId),
    (py "dimension", .str missing.dimension),
    (py "expected_source_kinds", textList missing.expectedSourceKinds),
    (py "observed_at", .str missing.observedAt)]

end MissingStatusSource

end FleetStatus

end CyberLion
