import CyberLion.FleetCoordinationState

/-!
# The contracts of the fleet status

`contracts/fleet_status.py`: the vocabularies, the identity of a drone, and the evidence of a
verification with the pins that it has to match.
-/

namespace CyberLion

namespace FleetStatus

open PyLib
open FleetCoordination (canonicalJson)

/-- `class FleetStatusContractError(ValueError)`. -/
def contractErrorClass : ErrorClass :=
  .declared .valueError (py "FleetStatusContractError")

def contractError (message : PyStr) : PyError :=
  ⟨contractErrorClass, message⟩

/-! ### Vocabularies -/

def authorityStates : List PyStr :=
  [py "NONE", py "ACTIVE", py "REVOKED", py "EXPIRED", py "UNUSABLE_STALE_OBSERVABILITY",
    py "UNKNOWN"]

def sandboxStates : List PyStr :=
  [py "NONE", py "STARTING", py "RUNNING", py "DEGRADED", py "DEAD", py "CLEANED", py "UNKNOWN"]

def verificationStates : List PyStr :=
  [py "PENDING", py "PASS", py "FAIL", py "UNKNOWN"]

def effectStates : List PyStr :=
  [py "NONE", py "PREPARED", py "ATTEMPTED", py "APPLIED", py "FAILED_NO_EFFECT",
    py "RECONCILE_REQUIRED", py "UNKNOWN"]

def reconciliationStates : List PyStr :=
  [py "NOT_REQUIRED", py "PENDING", py "RESOLVED", py "FAILED", py "UNKNOWN"]

def epistemicClasses : List PyStr :=
  [py "OBSERVED", py "ANCHORED", py "INFERRED", py "SIMULATED", py "UNKNOWN"]

/-! ### Fields -/

/-- `_text`. -/
def checkText (value name : PyStr) (limit : Nat) : Except PyError Unit :=
  raiseIf (isBlank value = true ∨ value.length > limit ∨ hasNul value = true)
    (contractError (name ++ py " is invalid"))

/-- `[0-9a-f]{n}` matches the whole text. -/
def isHexOf (count : Nat) (text : PyStr) : Bool :=
  text.length == count && text.all CodePoint.isLowerHex

/-- `_sha40`. -/
def checkSha40 (value name : PyStr) : Except PyError Unit := do
  checkText value name 40
  raiseIf (isHexOf 40 value = false)
    (contractError (name ++ py " must be a full lowercase git SHA"))

/-- `_sha256`. -/
def checkSha256 (value name : PyStr) : Except PyError Unit := do
  checkText value name 64
  raiseIf (isHexOf 64 value = false) (contractError (name ++ py " must be sha256 hex"))

/-- `_enum`. -/
def checkEnum (value name : PyStr) (allowed : List PyStr) : Except PyError Unit :=
  raiseIf (value ∉ allowed) (contractError (name ++ py " is invalid"))

/-- `_string_tuple`. -/
def checkStrings (values : List PyStr) (name : PyStr) : Except PyError Unit := do
  values.forM fun value => checkText value name 4096
  raiseIf (¬ values.Nodup) (contractError (name ++ py " must be unique"))

/-- `_REPO`: two parts without white space around one slash. -/
def isRepository (text : PyStr) : Bool :=
  let (owner, found, name) := partition 0x2F text
  let isPart := fun part : PyStr => !part.isEmpty && part.all fun c => c ≠ 0x2F && !c.isSpace
  found && isPart owner && isPart name

/-- `sha256(canonical_json(value)).hexdigest()`. -/
def digestOf (value : Json) : Except PyError PyStr := do
  let bytes ← canonicalJson value
  return sha256 bytes

/-! ### Identities -/

structure FleetStatusIdentity where
  droneId : PyStr
  executorId : PyStr
  missionId : PyStr
  parentMissionId : PyStr
  repository : PyStr
  baselineSha : PyStr
  baselineTreeSha : PyStr
  branch : PyStr
  readScope : List PyStr
  writeScope : List PyStr
  sandboxId : PyStr
  deriving DecidableEq

namespace FleetStatusIdentity

variable (identity : FleetStatusIdentity)

def validate : Except PyError Unit := do
  [(identity.droneId, py "drone_id"), (identity.executorId, py "executor_id"),
    (identity.missionId, py "mission_id"), (identity.parentMissionId, py "parent_mission_id"),
    (identity.branch, py "branch"), (identity.sandboxId, py "sandbox_id")].forM fun field =>
      checkText field.1 field.2 4096
  raiseIf (isRepository identity.repository = false)
    (contractError (py "repository must use owner/name form"))
  checkSha40 identity.baselineSha (py "baseline_sha")
  checkSha40 identity.baselineTreeSha (py "baseline_tree_sha")
  checkStrings identity.readScope (py "read_scope")
  checkStrings identity.writeScope (py "write_scope")

/-- `asdict`, with the scopes as lists. -/
def asDict : Json :=
  .obj [(py "drone_id", .str identity.droneId), (py "executor_id", .str identity.executorId),
    (py "mission_id", .str identity.missionId),
    (py "parent_mission_id", .str identity.parentMissionId),
    (py "repository", .str identity.repository), (py "baseline_sha", .str identity.baselineSha),
    (py "baseline_tree_sha", .str identity.baselineTreeSha), (py "branch", .str identity.branch),
    (py "read_scope", .arr (identity.readScope.map .str)),
    (py "write_scope", .arr (identity.writeScope.map .str)),
    (py "sandbox_id", .str identity.sandboxId)]

def digest : Except PyError PyStr := do
  identity.validate
  digestOf identity.asDict

end FleetStatusIdentity

/-! ### Verification evidence -/

structure VerificationTrustPins where
  verifierId : PyStr
  verifierIdentityDigest : PyStr
  verifierImplementationDigest : PyStr
  trustAnchorId : PyStr
  trustAnchorDigest : PyStr
  deriving DecidableEq

structure TrustedVerificationEvidence where
  verificationId : PyStr
  missionId : PyStr
  droneId : PyStr
  executorId : PyStr
  pins : VerificationTrustPins
  verificationState : PyStr
  evidenceDigest : PyStr
  sourceProvenanceRef : PyStr
  epistemicClass : PyStr
  observedAt : PyStr
  deriving DecidableEq

namespace TrustedVerificationEvidence

variable (evidence : TrustedVerificationEvidence)

def validate : Except PyError Unit := do
  [(evidence.verificationId, py "verification_id"), (evidence.missionId, py "mission_id"),
    (evidence.droneId, py "drone_id"), (evidence.executorId, py "executor_id"),
    (evidence.pins.verifierId, py "verifier_id"),
    (evidence.pins.trustAnchorId, py "trust_anchor_id"),
    (evidence.sourceProvenanceRef, py "source_provenance_ref"),
    (evidence.observedAt, py "observed_at")].forM fun field => checkText field.1 field.2 4096
  [(evidence.pins.verifierIdentityDigest, py "verifier_identity_digest"),
    (evidence.pins.verifierImplementationDigest, py "verifier_implementation_digest"),
    (evidence.pins.trustAnchorDigest, py "trust_anchor_digest"),
    (evidence.evidenceDigest, py "evidence_digest")].forM fun field =>
      checkSha256 field.1 field.2
  checkEnum evidence.verificationState (py "verification_state") verificationStates
  checkEnum evidence.epistemicClass (py "epistemic_class") epistemicClasses
  raiseIf (evidence.pins.verifierId ∈ [evidence.droneId, evidence.executorId])
    (contractError (py "verifier must be independent of drone and executor"))
  raiseIf (evidence.verificationState = py "PASS" ∧
      evidence.epistemicClass ∉ [py "OBSERVED", py "ANCHORED"])
    (contractError (py "verification PASS requires OBSERVED or ANCHORED evidence"))

def asDict : Json :=
  .obj [(py "verification_id", .str evidence.verificationId),
    (py "mission_id", .str evidence.missionId), (py "drone_id", .str evidence.droneId),
    (py "executor_id", .str evidence.executorId),
    (py "verifier_id", .str evidence.pins.verifierId),
    (py "verifier_identity_digest", .str evidence.pins.verifierIdentityDigest),
    (py "verifier_implementation_digest", .str evidence.pins.verifierImplementationDigest),
    (py "trust_anchor_id", .str evidence.pins.trustAnchorId),
    (py "trust_anchor_digest", .str evidence.pins.trustAnchorDigest),
    (py "verification_state", .str evidence.verificationState),
    (py "evidence_digest", .str evidence.evidenceDigest),
    (py "source_provenance_ref", .str evidence.sourceProvenanceRef),
    (py "epistemic_class", .str evidence.epistemicClass),
    (py "observed_at", .str evidence.observedAt)]

def bindingDigest : Except PyError PyStr := do
  evidence.validate
  digestOf evidence.asDict

end TrustedVerificationEvidence

end FleetStatus

end CyberLion
