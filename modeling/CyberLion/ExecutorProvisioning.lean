import CyberLion.RepositoryRefAuthority
import CyberLion.RuntimeContracts

/-!
# The contracts of executor provisioning

`contracts/executor_provisioning.py`, as far as an admission reads it: the request, the
trust in the provider and the receipt of a provisioned executor.
-/

namespace CyberLion

open PyLib
open AuthorityGrant (textList)
open FleetCoordination (isRepositoryName)

/-- `ExecutorProvisioningContractError(message)`. -/
def provisioningError (message : PyStr) : PyError :=
  ⟨.declared .valueError (py "ExecutorProvisioningContractError"), message⟩

/-- `SCHEMA_VERSION`. -/
def provisioningSchema : PyStr :=
  py "1.0.0"

namespace Provisioning

def text (limit : Nat) (name value : PyStr) : Except PyError Unit :=
  raiseIf (¬ isLimitedText limit value = true) (provisioningError (name ++ py " is invalid"))

def sha40 (name value : PyStr) : Except PyError Unit := do
  text 40 name value
  raiseIf (¬ isLowerHexOf 40 value = true)
    (provisioningError (name ++ py " must be a full lowercase git SHA"))

/-- `_sha256`. -/
def sha256Text (name value : PyStr) : Except PyError Unit := do
  text 64 name value
  raiseIf (¬ isLowerHexOf 64 value = true)
    (provisioningError (name ++ py " must be sha256 hex"))

def utc (name value : PyStr) : Except PyError Unit := do
  text 4096 name value
  match fromIsoFormat (pyReplace 0x5A (py "+00:00") value) with
  | none => .error (provisioningError (name ++ py " is invalid"))
  | some (.naive _) => .error (provisioningError (name ++ py " must be timezone-aware"))
  | some (.aware _ _) => .ok ()

/-- `_BRANCH` matches the whole text: no part is a dot name or ends with `.lock`. -/
def isBranchName (value : PyStr) : Bool :=
  value ≠ [] && value.all isBranchChar && !py "/" <+: value &&
    (pySplit 0x2F value).all fun part =>
      part ≠ py "." && part ≠ py ".." && !py ".lock" <:+ part

def branch (value : PyStr) : Except PyError Unit := do
  text 255 (py "branch") value
  raiseIf (py "refs/" <+: value ∨ py "/" <:+ value ∨ py "." <:+ value ∨ py "//" <:+: value)
    (provisioningError (py "branch is invalid"))
  raiseIf (value.any (fun c => (py " ~^:?*[\\").contains c) = true)
    (provisioningError (py "branch contains unsafe git ref characters"))
  raiseIf (¬ isBranchName value = true) (provisioningError (py "branch is invalid"))

/-- The check of one path of `_scope`.  The `repr` of the path is not kept. -/
def scopePath (name raw : PyStr) : Except PyError Unit := do
  text 1024 name raw
  raiseIf (raw.contains 0x5C = true)
    (provisioningError (name ++ py " must use POSIX repository paths"))
  raiseIf (PosixPath.isAbsolute raw = true ∨ py ".." ∈ PosixPath.parts raw ∨
      PosixPath.canonical raw = [] ∨ PosixPath.canonical raw = py ".")
    (provisioningError (name ++ py " contains unsafe path"))

def scope (name : PyStr) (values : List PyStr) : Except PyError Unit := do
  raiseIf (values = []) (provisioningError (name ++ py " must be a non-empty tuple"))
  raiseIf (¬ values.Nodup) (provisioningError (name ++ py " entries must be unique"))
  forM values (scopePath name)

/-- `_string_tuple` that may be empty. -/
def stringTuple (name : PyStr) (values : List PyStr) : Except PyError Unit := do
  forM values (text 4096 name)
  raiseIf (¬ values.Nodup) (provisioningError (name ++ py " entries must be unique"))

def repository (value : PyStr) : Except PyError Unit :=
  raiseIf (¬ isRepositoryName value = true)
    (provisioningError (py "repository must use owner/name form"))

end Provisioning

/-! ### Requests -/

structure CredentialHandle where
  handleId : PyStr
  brokerId : PyStr
  purpose : PyStr
  deriving DecidableEq

namespace CredentialHandle

def validate (handle : CredentialHandle) : Except PyError Unit := do
  Provisioning.text 512 (py "credential handle_id") handle.handleId
  Provisioning.text 512 (py "credential broker_id") handle.brokerId
  Provisioning.text 512 (py "credential purpose") handle.purpose

/-- `canonical_dict`, of a handle that was validated. -/
def payload (handle : CredentialHandle) : Json :=
  .obj [(py "handle_id", .str handle.handleId), (py "broker_id", .str handle.brokerId),
    (py "purpose", .str handle.purpose)]

end CredentialHandle

structure ProviderTrustBinding where
  providerId : PyStr
  providerInstanceId : PyStr
  implementationDigest : PyStr
  trustAnchorId : PyStr
  trustAnchorDigest : PyStr
  deriving DecidableEq

namespace ProviderTrustBinding

def validate (trust : ProviderTrustBinding) : Except PyError Unit := do
  checkFields (Provisioning.text 4096) [(py "provider_id", trust.providerId),
    (py "provider_instance_id", trust.providerInstanceId),
    (py "trust_anchor_id", trust.trustAnchorId)]
  Provisioning.sha256Text (py "implementation_digest") trust.implementationDigest
  Provisioning.sha256Text (py "trust_anchor_digest") trust.trustAnchorDigest

/-- The tuple of `binding`, of a trust that was validated. -/
def bindingFields (trust : ProviderTrustBinding) : List PyStr :=
  [trust.providerId, trust.providerInstanceId, trust.implementationDigest, trust.trustAnchorId,
    trust.trustAnchorDigest]

end ProviderTrustBinding

structure ExecutorContext where
  requestId : PyStr
  idempotencyKey : PyStr
  droneId : PyStr
  executorId : PyStr
  missionId : PyStr
  parentMissionId : PyStr
  repository : PyStr
  baselineSha : PyStr
  baselineTreeSha : PyStr
  branch : PyStr
  readScope : List PyStr
  writeScope : List PyStr
  runtimeClass : PyStr
  imageDigest : PyStr
  sandboxProfileDigest : PyStr
  resourceProfileDigest : PyStr
  deriving DecidableEq

namespace ExecutorContext

/-- The checks of the repository, the baseline, the branch and the scopes. -/
def validatePlace (context : ExecutorContext) : Except PyError Unit := do
  Provisioning.repository context.repository
  Provisioning.sha40 (py "baseline_sha") context.baselineSha
  Provisioning.sha40 (py "baseline_tree_sha") context.baselineTreeSha
  Provisioning.branch context.branch
  Provisioning.scope (py "read_scope") context.readScope
  Provisioning.scope (py "write_scope") context.writeScope

def fields (context : ExecutorContext) : List (PyStr × Json) :=
  [(py "request_id", .str context.requestId),
    (py "idempotency_key", .str context.idempotencyKey), (py "drone_id", .str context.droneId),
    (py "executor_id", .str context.executorId), (py "mission_id", .str context.missionId),
    (py "parent_mission_id", .str context.parentMissionId),
    (py "repository", .str context.repository), (py "baseline_sha", .str context.baselineSha),
    (py "baseline_tree_sha", .str context.baselineTreeSha), (py "branch", .str context.branch),
    (py "read_scope", textList context.readScope),
    (py "write_scope", textList context.writeScope),
    (py "runtime_class", .str context.runtimeClass),
    (py "image_digest", .str context.imageDigest),
    (py "sandbox_profile_digest", .str context.sandboxProfileDigest),
    (py "resource_profile_digest", .str context.resourceProfileDigest)]

end ExecutorContext

structure ExecutorProvisioningRequest where
  schemaVersion : PyStr
  context : ExecutorContext
  credentialHandles : List CredentialHandle
  requestedAt : PyStr
  deriving DecidableEq

namespace ExecutorProvisioningRequest

variable (request : ExecutorProvisioningRequest)

/-- `credential_handle_ids`, of a request that was validated. -/
def credentialHandleIds : List PyStr :=
  request.credentialHandles.map CredentialHandle.handleId

def validate : Except PyError Unit := do
  raiseIf (request.schemaVersion ≠ provisioningSchema)
    (provisioningError (py "unsupported provisioning request schema_version"))
  checkFields (Provisioning.text 4096) [(py "request_id", request.context.requestId),
    (py "idempotency_key", request.context.idempotencyKey),
    (py "drone_id", request.context.droneId), (py "executor_id", request.context.executorId),
    (py "mission_id", request.context.missionId),
    (py "parent_mission_id", request.context.parentMissionId),
    (py "runtime_class", request.context.runtimeClass)]
  request.context.validatePlace
  checkFields Provisioning.sha256Text [(py "image_digest", request.context.imageDigest),
    (py "sandbox_profile_digest", request.context.sandboxProfileDigest),
    (py "resource_profile_digest", request.context.resourceProfileDigest)]
  forM request.credentialHandles CredentialHandle.validate
  raiseIf (¬ request.credentialHandleIds.Nodup)
    (provisioningError (py "credential handle ids must be unique"))
  Provisioning.utc (py "requested_at") request.requestedAt

/-- `canonical_dict`, of a request that was validated. -/
def payload : Json :=
  .obj (request.context.fields ++ [(py "schema_version", .str request.schemaVersion),
    (py "credential_handles", .arr (request.credentialHandles.map CredentialHandle.payload)),
    (py "requested_at", .str request.requestedAt)])

def digest : Except PyError PyStr := do
  request.validate
  domainDigest [] request.payload

end ExecutorProvisioningRequest

/-! ### Receipts -/

structure ProvisionedExecutor where
  schemaVersion : PyStr
  receiptId : PyStr
  requestDigest : PyStr
  context : ExecutorContext
  runtimeInstanceId : PyStr
  sandboxId : PyStr
  workspaceId : PyStr
  credentialHandleIds : List PyStr
  provider : ProviderTrustBinding
  runtimeAttestationDigest : PyStr
  providerEvidenceRef : PyStr
  provisionedAt : PyStr
  deriving DecidableEq

namespace ProvisionedExecutor

variable (executor : ProvisionedExecutor)

def validate : Except PyError Unit := do
  raiseIf (executor.schemaVersion ≠ provisioningSchema)
    (provisioningError (py "unsupported provisioned executor schema_version"))
  checkFields (Provisioning.text 4096) [(py "receipt_id", executor.receiptId),
    (py "request_id", executor.context.requestId),
    (py "idempotency_key", executor.context.idempotencyKey),
    (py "drone_id", executor.context.droneId), (py "executor_id", executor.context.executorId),
    (py "runtime_instance_id", executor.runtimeInstanceId),
    (py "sandbox_id", executor.sandboxId), (py "workspace_id", executor.workspaceId),
    (py "mission_id", executor.context.missionId),
    (py "parent_mission_id", executor.context.parentMissionId),
    (py "runtime_class", executor.context.runtimeClass),
    (py "provider_id", executor.provider.providerId),
    (py "provider_instance_id", executor.provider.providerInstanceId),
    (py "provider_trust_anchor_id", executor.provider.trustAnchorId),
    (py "provider_evidence_ref", executor.providerEvidenceRef)]
  executor.context.validatePlace
  Provisioning.stringTuple (py "credential_handle_ids") executor.credentialHandleIds
  checkFields Provisioning.sha256Text [(py "request_digest", executor.requestDigest),
    (py "image_digest", executor.context.imageDigest),
    (py "sandbox_profile_digest", executor.context.sandboxProfileDigest),
    (py "resource_profile_digest", executor.context.resourceProfileDigest),
    (py "provider_implementation_digest", executor.provider.implementationDigest),
    (py "provider_trust_anchor_digest", executor.provider.trustAnchorDigest),
    (py "runtime_attestation_digest", executor.runtimeAttestationDigest)]
  Provisioning.utc (py "provisioned_at") executor.provisionedAt

/-- `canonical_dict`, of a receipt that was validated. -/
def payload : Json :=
  .obj (executor.context.fields ++ [(py "schema_version", .str executor.schemaVersion),
    (py "receipt_id", .str executor.receiptId),
    (py "request_digest", .str executor.requestDigest),
    (py "runtime_instance_id", .str executor.runtimeInstanceId),
    (py "sandbox_id", .str executor.sandboxId),
    (py "workspace_id", .str executor.workspaceId),
    (py "credential_handle_ids", textList executor.credentialHandleIds),
    (py "provider_id", .str executor.provider.providerId),
    (py "provider_instance_id", .str executor.provider.providerInstanceId),
    (py "provider_implementation_digest", .str executor.provider.implementationDigest),
    (py "provider_trust_anchor_id", .str executor.provider.trustAnchorId),
    (py "provider_trust_anchor_digest", .str executor.provider.trustAnchorDigest),
    (py "runtime_attestation_digest", .str executor.runtimeAttestationDigest),
    (py "provider_evidence_ref", .str executor.providerEvidenceRef),
    (py "provisioned_at", .str executor.provisionedAt)])

def digest : Except PyError PyStr := do
  executor.validate
  domainDigest [] executor.payload

def validateFor (request : ExecutorProvisioningRequest) (trust : ProviderTrustBinding) :
    Except PyError Unit := do
  executor.validate
  request.validate
  trust.validate
  let digest ← request.digest
  raiseIf (executor.requestDigest ≠ digest)
    (provisioningError (py "receipt request digest mismatch"))
  raiseIf (executor.context ≠ request.context ∨
      executor.credentialHandleIds ≠ request.credentialHandleIds)
    (provisioningError (py "receipt does not bind exact provisioning request"))
  raiseIf (executor.provider.bindingFields ≠ trust.bindingFields)
    (provisioningError (py "receipt provider trust binding mismatch"))

end ProvisionedExecutor

end CyberLion
