import CyberLion.LiveBindingFinalization

/-!
# Authority over a branch

The part of `enterprise/authority_source.py` and `enterprise/live_authority_admission.py`
for the references of a repository: the lookup key, the record of a lineage and the
receipt of an admission.
-/

namespace CyberLion

open PyLib

/-! ### Lookup keys -/

/-- `RepositoryMaintenanceContractError(message)`. -/
def maintenanceError (message : PyStr) : PyError :=
  ⟨.declared .valueError (py "RepositoryMaintenanceContractError"), message⟩

def maintenanceExactBranches : List PyStr :=
  [py "__invalid_never_create", py "tmp-r3-upload-staging"]

/-- The first parts that `_BRANCH` allows. -/
def maintenancePrefixes : List PyStr :=
  [py "cyber-lion/", py "docs/", py "experiment/", py "integration/", py "mission/",
    py "reconcile/", py "verification/"]

/-- A character of the longer part of `_BRANCH`. -/
def isBranchChar (c : CodePoint) : Bool :=
  c.isAsciiLetter || c.isAsciiDigit || (py "._/-").contains c

/-- `_BRANCH` matches the whole text. -/
def isMaintenanceBranch (branch : PyStr) : Bool :=
  maintenancePrefixes.any fun first =>
    first.isPrefixOf branch && 1 ≤ (branch.drop first.length).length &&
      (branch.drop first.length).length ≤ 220 && (branch.drop first.length).all isBranchChar

def validateBranchName (branch : PyStr) : Except PyError Unit := do
  raiseIf (branch ∉ maintenanceExactBranches ∧ isMaintenanceBranch branch = false)
    (maintenanceError (py "branch outside cleanup allowlist"))
  raiseIf (branch = py "master" ∨ branch = py "main" ∨ py "refs/" <+: branch)
    (maintenanceError (py "protected or non-canonical branch denied"))
  raiseIf (py ".." <:+: branch ∨ py "//" <:+: branch ∨ py "/" <:+ branch ∨ py "-" <+: branch)
    (maintenanceError (py "unsafe branch name denied"))

structure RepositoryRefAuthorityLookupKey where
  repository : PyStr
  branch : PyStr
  expectedHead : PyStr
  protectedMasterSha : PyStr
  missionId : PyStr
  grantId : PyStr
  deriving DecidableEq

def RepositoryRefAuthorityLookupKey.validate (key : RepositoryRefAuthorityLookupKey) :
    Except PyError Unit := do
  boundedText sourceError 512 (py "repository") key.repository
  rethrow (fun _ => true) (fun _ => sourceError (py "branch is invalid"))
    (validateBranchName key.branch)
  gitSha sourceError (py "expected_head") key.expectedHead
  gitSha sourceError (py "protected_master_sha") key.protectedMasterSha
  boundedText sourceError 512 (py "mission_id") key.missionId
  boundedText sourceError 512 (py "grant_id") key.grantId

def canonicalRepositoryRefAuthorityResource (key : RepositoryRefAuthorityLookupKey) :
    Except PyError PyStr := do
  key.validate
  return py "github:repo:" ++ key.repository ++ py ":ref:heads/" ++ key.branch ++ py ":head:" ++
    key.expectedHead ++ py ":protected-master:" ++ key.protectedMasterSha

/-! ### Records -/

structure RepositoryRefAuthorityLineageRecord where
  lookupKey : RepositoryRefAuthorityLookupKey
  lineage : List AuthorityGrant
  lineageDigest : PyStr
  provenanceId : PyStr
  sourceKind : PyStr
  deriving DecidableEq

namespace RepositoryRefAuthorityLineageRecord

def validateLeaf (record : RepositoryRefAuthorityLineageRecord) (leaf : AuthorityGrant) :
    Except PyError Unit := do
  raiseIf (leaf.grantId ≠ record.lookupKey.grantId)
    (sourceError (py "lineage leaf does not match lookup grant_id"))
  let resource ← canonicalRepositoryRefAuthorityResource record.lookupKey
  raiseIf (leaf.resourceScope ≠ [resource])
    (sourceError (py "lineage leaf does not bind exact repository-ref resource"))
  let digest ← canonicalSourceLineageDigest record.lineage
  raiseIf (record.lineageDigest ≠ digest)
    (sourceError (py "lineage_digest does not match immutable lineage"))

def validate (record : RepositoryRefAuthorityLineageRecord) : Except PyError Unit := do
  record.lookupKey.validate
  match record.lineage.getLast? with
  | none => .error (sourceError (py "lineage must be a non-empty immutable tuple"))
  | some leaf => do
    raiseIf (record.sourceKind ≠ py "trusted-control-plane")
      (sourceError (py "authority source must be trusted-control-plane"))
    raiseIf (¬ isProvenanceId record.provenanceId = true)
      (sourceError (py "provenance_id is invalid"))
    raiseIf (¬ isLowerHexOf 64 record.lineageDigest = true)
      (sourceError (py "lineage_digest must be canonical sha256 hex"))
    validateRecordHops record.lookupKey.missionId none record.lineage
    record.validateLeaf leaf

end RepositoryRefAuthorityLineageRecord

abbrev RepositoryRefBackend :=
  RepositoryRefAuthorityLookupKey → Except PyError (List RepositoryRefAuthorityLineageRecord)

def resolveRepositoryRefExact (backend : RepositoryRefBackend)
    (key : RepositoryRefAuthorityLookupKey) :
    Except PyError RepositoryRefAuthorityLineageRecord := do
  key.validate
  let candidates ← backend key
  match candidates with
  | [] => .error (sourceError (py "repository-ref authority lineage not found"))
  | [record] => do
    record.validate
    raiseIf (record.lookupKey ≠ key)
      (sourceError (py "authority source record does not match exact repository-ref lookup key"))
    return record
  | _ => .error (sourceError (py "repository-ref authority lineage lookup is ambiguous"))

/-! ### Receipts -/

structure LiveAdmittedRepositoryRefAuthority where
  repository : PyStr
  branch : PyStr
  expectedHead : PyStr
  protectedMasterSha : PyStr
  missionId : PyStr
  grantId : PyStr
  lineageDigest : PyStr
  provenanceId : PyStr
  epoch : Int
  epochStateVersion : Int
  authorityCeiling : PyStr
  rootGrantId : PyStr
  rootGrantDigest : PyStr
  authenticatedGrantDigests : List PyStr
  leafKeyId : PyStr
  leafAlgorithm : PyStr
  replayDigest : PyStr
  admittedAt : PyStr
  deriving DecidableEq

namespace LiveAdmittedRepositoryRefAuthority

def lookupKey (admitted : LiveAdmittedRepositoryRefAuthority) : RepositoryRefAuthorityLookupKey :=
  ⟨admitted.repository, admitted.branch, admitted.expectedHead, admitted.protectedMasterSha,
    admitted.missionId, admitted.grantId⟩

def validate (admitted : LiveAdmittedRepositoryRefAuthority) : Except PyError Unit := do
  boundedText liveError 512 (py "repository") admitted.repository
  boundedText liveError 512 (py "branch") admitted.branch
  boundedText liveError 512 (py "expected_head") admitted.expectedHead
  boundedText liveError 512 (py "protected_master_sha") admitted.protectedMasterSha
  boundedText liveError 512 (py "mission_id") admitted.missionId
  boundedText liveError 512 (py "grant_id") admitted.grantId
  boundedText liveError 512 (py "provenance_id") admitted.provenanceId
  boundedText liveError 512 (py "authority_ceiling") admitted.authorityCeiling
  boundedText liveError 512 (py "root_grant_id") admitted.rootGrantId
  boundedText liveError 512 (py "leaf_key_id") admitted.leafKeyId
  boundedText liveError 512 (py "leaf_algorithm") admitted.leafAlgorithm
  boundedText liveError 512 (py "admitted_at") admitted.admittedAt
  raiseIf (admitted.epoch < 0) (liveError (py "epoch is invalid"))
  raiseIf (admitted.epochStateVersion < 1) (liveError (py "epoch_state_version is invalid"))
  digestText liveError (py "lineage_digest") admitted.lineageDigest
  digestText liveError (py "root_grant_digest") admitted.rootGrantDigest
  digestText liveError (py "replay_digest") admitted.replayDigest
  raiseIf (admitted.authenticatedGrantDigests = [])
    (liveError (py "authenticated_grant_digests are invalid"))
  forM admitted.authenticatedGrantDigests
    (digestText liveError (py "authenticated_grant_digest"))
  let _ ← admittedUtc admitted.admittedAt
  admitted.lookupKey.validate

def payload (admitted : LiveAdmittedRepositoryRefAuthority) : Json :=
  .obj [(py "admitted_at", .str admitted.admittedAt),
    (py "authenticated_grant_digests",
      .arr (admitted.authenticatedGrantDigests.map Json.str)),
    (py "authority_ceiling", .str admitted.authorityCeiling),
    (py "branch", .str admitted.branch),
    (py "epoch", .int admitted.epoch),
    (py "epoch_state_version", .int admitted.epochStateVersion),
    (py "expected_head", .str admitted.expectedHead),
    (py "grant_id", .str admitted.grantId),
    (py "leaf_algorithm", .str admitted.leafAlgorithm),
    (py "leaf_key_id", .str admitted.leafKeyId),
    (py "lineage_digest", .str admitted.lineageDigest),
    (py "mission_id", .str admitted.missionId),
    (py "protected_master_sha", .str admitted.protectedMasterSha),
    (py "provenance_id", .str admitted.provenanceId),
    (py "replay_digest", .str admitted.replayDigest),
    (py "repository", .str admitted.repository),
    (py "root_grant_digest", .str admitted.rootGrantDigest),
    (py "root_grant_id", .str admitted.rootGrantId)]

def digest (admitted : LiveAdmittedRepositoryRefAuthority) : Except PyError PyStr := do
  admitted.validate
  let text ← Json.dumps true true admitted.payload
  let bytes ← encodeUtf8 text
  return sha256 bytes

/-- The fields that `revalidate_repository_ref` compares. -/
def binding (admitted : LiveAdmittedRepositoryRefAuthority) : ReceiptBinding :=
  ⟨admitted.lineageDigest, admitted.provenanceId, admitted.epoch, admitted.epochStateVersion,
    some admitted.authorityCeiling, admitted.rootGrantId, admitted.rootGrantDigest,
    admitted.authenticatedGrantDigests, some admitted.leafKeyId, some admitted.leafAlgorithm⟩

end LiveAdmittedRepositoryRefAuthority

end CyberLion
