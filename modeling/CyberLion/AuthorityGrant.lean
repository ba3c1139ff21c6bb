import CyberLion.JsonCanonical
import CyberLion.PyIsoFormat
import CyberLion.Sha256

/-!
# Authority grants

`enterprise/authority_grant.py`: the grant with its field checks, its canonical
payload and its digest, and the check of one delegation.  The class of an
authority is a text in the grant; its rank and what it contains are looked up.
-/

namespace CyberLion

open PyLib

/-! ### Errors -/

def enterpriseModelErrorClass : ErrorClass :=
  .declared .valueError (py "EnterpriseModelError")

def authorityGrantErrorClass : ErrorClass :=
  .declared enterpriseModelErrorClass (py "AuthorityGrantError")

/-- `AuthorityGrantError(message)`. -/
def grantError (message : PyStr) : PyError :=
  ⟨authorityGrantErrorClass, message⟩

/-! ### Authority classes -/

/-- The keys of `AUTHORITY_RANK` and of `_AUTHORITY_CONTAINS`. -/
inductive AuthorityClass
  | none
  | read
  | localWrite
  | externalWrite
  | financial
  | deploy
  | privileged
  deriving DecidableEq

namespace AuthorityClass

def text : AuthorityClass → PyStr
  | none => py "none"
  | read => py "read"
  | localWrite => py "local_write"
  | externalWrite => py "external_write"
  | financial => py "financial"
  | deploy => py "deploy"
  | privileged => py "privileged"

def all : List AuthorityClass :=
  [none, read, localWrite, externalWrite, financial, deploy, privileged]

def ofText (value : PyStr) : Option AuthorityClass :=
  all.find? fun cls => cls.text = value

/-- `AUTHORITY_RANK`. -/
def rank : AuthorityClass → Nat
  | none => 0
  | read => 1
  | localWrite => 2
  | externalWrite => 3
  | financial => 4
  | deploy => 4
  | privileged => 5

/-- `_AUTHORITY_CONTAINS`. -/
def contains : AuthorityClass → List AuthorityClass
  | none => [none]
  | read => [none, read]
  | localWrite => [none, read, localWrite]
  | externalWrite => [none, read, localWrite, externalWrite]
  | financial => [none, read, localWrite, externalWrite, financial]
  | deploy => [none, read, localWrite, externalWrite, deploy]
  | privileged =>
    [none, read, localWrite, externalWrite, financial, deploy, privileged]

end AuthorityClass

def authorityRank (value : PyStr) : Except PyError Nat :=
  match AuthorityClass.ofText value with
  | some cls => .ok cls.rank
  | none => .error ⟨enterpriseModelErrorClass, py "unknown authority class: " ++ value⟩

def validateAuthorityAttenuation (parentAuthority childAuthority : PyStr) :
    Except PyError Unit :=
  match AuthorityClass.ofText parentAuthority, AuthorityClass.ofText childAuthority with
  | none, _ => .error (grantError (py "unknown authority class: " ++ parentAuthority))
  | some _, none => .error (grantError (py "unknown authority class: " ++ childAuthority))
  | some parent, some child =>
    raiseIf (child ∉ parent.contains)
      (grantError (py "child authority must be semantically contained in parent authority"))

/-! ### Timestamps -/

/-- `_utc`.  A value outside the years that UTC can express is not caught. -/
def grantUtc (value : PyStr) : Except PyError DateTime :=
  match fromIsoFormat (pyReplace 0x5A (py "+00:00") value) with
  | none => .error (grantError (py "grant timestamp is invalid"))
  | some (.naive _) => .error (grantError (py "grant timestamps must be timezone-aware"))
  | some (.aware time offset) => time.astimezoneUtc offset

/-! ### Grants -/

def validateUnique (fieldName : PyStr) (allowEmpty : Bool) (values : List PyStr) :
    Except PyError Unit := do
  raiseIf (allowEmpty = false ∧ values = []) (grantError (fieldName ++ py " must not be empty"))
  raiseIf (∃ value ∈ values, isBlank value = true)
    (grantError (fieldName ++ py " must contain non-empty strings"))
  raiseIf (¬ values.Nodup) (grantError (fieldName ++ py " must be unique"))

/-- The pattern `^sha256:[0-9a-f]{64}$` matches the whole text. -/
def isPrefixedDigest (value : PyStr) : Bool :=
  py "sha256:" <+: value && isLowerHexOf 64 (value.drop 7)

structure AuthorityGrant where
  schemaVersion : PyStr
  grantId : PyStr
  issuerSubjectId : PyStr
  subjectId : PyStr
  tenantId : PyStr
  organizationId : PyStr
  missionId : PyStr
  capabilityId : PyStr
  capabilityVersion : PyStr
  actions : List PyStr
  resourceScope : List PyStr
  authorityCeiling : PyStr
  constraints : List PyStr
  parentGrantId : Option PyStr
  issuedAt : PyStr
  expiresAt : PyStr
  epoch : Int
  policyDigest : PyStr
  observabilityContractDigest : PyStr
  signature : PyStr
  delegationAllowed : Bool
  delegationDepthBudget : Int
  deriving DecidableEq

namespace AuthorityGrant

/-- The texts that `validate` requires to be non-blank. -/
def required (grant : AuthorityGrant) : List PyStr :=
  [grant.grantId, grant.issuerSubjectId, grant.subjectId, grant.tenantId, grant.organizationId,
    grant.missionId, grant.capabilityId, grant.capabilityVersion, grant.authorityCeiling,
    grant.policyDigest, grant.observabilityContractDigest, grant.signature]

def validateDelegation (grant : AuthorityGrant) : Except PyError Unit :=
  if grant.schemaVersion = py "1.0.0" then
    raiseIf (grant.delegationAllowed = true ∨ grant.delegationDepthBudget ≠ 0)
      (grantError (py "AuthorityGrant 1.0.0 cannot express delegation"))
  else do
    raiseIf (grant.delegationAllowed = true ∧ grant.delegationDepthBudget = 0)
      (grantError (py "delegation_allowed requires a positive delegation_depth_budget"))
    raiseIf (grant.delegationAllowed = false ∧ grant.delegationDepthBudget ≠ 0)
      (grantError (py "delegation_depth_budget must be zero when delegation is not allowed"))

def validateWindow (grant : AuthorityGrant) : Except PyError Unit := do
  let issued ← grantUtc grant.issuedAt
  let expires ← grantUtc grant.expiresAt
  raiseIf (expires.packed ≤ issued.packed) (grantError (py "grant validity window is invalid"))

def validate (grant : AuthorityGrant) : Except PyError Unit := do
  raiseIf (grant.schemaVersion ∉ [py "1.0.0", py "1.1.0"] ∨
      ∃ value ∈ grant.required, isBlank value = true)
    (grantError (py "grant required fields/schema are invalid"))
  raiseIf (∃ parent ∈ grant.parentGrantId, isBlank parent = true)
    (grantError (py "parent_grant_id must be null or a non-empty string"))
  validateUnique (py "actions") false grant.actions
  validateUnique (py "resource_scope") false grant.resourceScope
  validateUnique (py "constraints") true grant.constraints
  let _ ← authorityRank grant.authorityCeiling
  raiseIf (grant.epoch < 0) (grantError (py "grant epoch must be a non-negative integer"))
  raiseIf (grant.delegationDepthBudget < 0)
    (grantError (py "delegation_depth_budget must be a non-negative integer"))
  grant.validateDelegation
  grant.validateWindow
  raiseIf (¬ isPrefixedDigest grant.policyDigest = true)
    (grantError (py "policy_digest must be canonical sha256"))
  raiseIf (¬ isPrefixedDigest grant.observabilityContractDigest = true)
    (grantError (py "observability_contract_digest must be canonical sha256"))

def textList (values : List PyStr) : Json :=
  .arr (values.map Json.str)

/-- The signed fields of a grant, without those its schema version lacks. -/
def payloadFields (grant : AuthorityGrant) : List (PyStr × Json) :=
  [(py "schema_version", .str grant.schemaVersion), (py "grant_id", .str grant.grantId),
    (py "issuer_subject_id", .str grant.issuerSubjectId),
    (py "subject_id", .str grant.subjectId), (py "tenant_id", .str grant.tenantId),
    (py "organization_id", .str grant.organizationId),
    (py "mission_id", .str grant.missionId), (py "capability_id", .str grant.capabilityId),
    (py "capability_version", .str grant.capabilityVersion),
    (py "actions", textList grant.actions), (py "resource_scope", textList grant.resourceScope),
    (py "authority_ceiling", .str grant.authorityCeiling),
    (py "constraints", textList grant.constraints),
    (py "parent_grant_id", grant.parentGrantId.elim .null Json.str),
    (py "issued_at", .str grant.issuedAt), (py "expires_at", .str grant.expiresAt),
    (py "epoch", .int grant.epoch), (py "policy_digest", .str grant.policyDigest),
    (py "observability_contract_digest", .str grant.observabilityContractDigest)] ++
  if grant.schemaVersion = py "1.0.0" then []
  else [(py "delegation_allowed", .bool grant.delegationAllowed),
    (py "delegation_depth_budget", .int grant.delegationDepthBudget)]

def canonicalPayload (grant : AuthorityGrant) : Except PyError Utf8Bytes := do
  grant.validate
  let text ← Json.dumps true true (.obj grant.payloadFields)
  encodeUtf8 text

/-- `b"."`. -/
def dot : Utf8Bytes :=
  ⟨py ".", rfl⟩

def digest (grant : AuthorityGrant) : Except PyError PyStr := do
  let payload ← grant.canonicalPayload
  let signature ← encodeUtf8 grant.signature
  return sha256 ((payload.append dot).append signature)

end AuthorityGrant

/-! ### Delegation -/

/-- One round of the loop over `exact_bindings`. -/
def exactBinding {α : Type} [DecidableEq α] (name : PyStr) (parentValue childValue : α) :
    Except PyError Unit :=
  raiseIf (parentValue ≠ childValue)
    (grantError (py "child " ++ name ++ py " must equal parent " ++ name))

/-- The loop over `exact_bindings`. -/
def validateExactBindings (parent child : AuthorityGrant) : Except PyError Unit := do
  exactBinding (py "schema_version") parent.schemaVersion child.schemaVersion
  exactBinding (py "tenant_id") parent.tenantId child.tenantId
  exactBinding (py "organization_id") parent.organizationId child.organizationId
  exactBinding (py "mission_id") parent.missionId child.missionId
  exactBinding (py "capability_id") parent.capabilityId child.capabilityId
  exactBinding (py "capability_version") parent.capabilityVersion child.capabilityVersion
  exactBinding (py "epoch") parent.epoch child.epoch
  exactBinding (py "policy_digest") parent.policyDigest child.policyDigest
  exactBinding (py "observability_contract_digest") parent.observabilityContractDigest
    child.observabilityContractDigest

def validateWindowAttenuation (parent child : AuthorityGrant) : Except PyError Unit := do
  let childIssued ← grantUtc child.issuedAt
  let parentIssued ← grantUtc parent.issuedAt
  raiseIf (childIssued.packed < parentIssued.packed)
    (grantError (py "child cannot predate parent grant"))
  let childExpires ← grantUtc child.expiresAt
  let parentExpires ← grantUtc parent.expiresAt
  raiseIf (parentExpires.packed < childExpires.packed)
    (grantError (py "child cannot outlive parent grant"))

def validateAttenuation (parent child : AuthorityGrant) : Except PyError Unit := do
  parent.validate
  child.validate
  raiseIf (parent.schemaVersion ≠ py "1.1.0" ∨ child.schemaVersion ≠ py "1.1.0")
    (grantError (py "delegation requires AuthorityGrant 1.1.0 on both parent and child"))
  raiseIf (child.grantId = parent.grantId)
    (grantError (py "child grant_id must differ from parent grant_id"))
  raiseIf (child.parentGrantId ≠ some parent.grantId)
    (grantError (py "child must bind to the exact parent grant"))
  raiseIf (child.issuerSubjectId ≠ parent.subjectId)
    (grantError (py "child issuer must equal parent grant subject"))
  raiseIf (parent.delegationAllowed = false)
    (grantError (py "parent grant does not permit delegation"))
  raiseIf (parent.delegationDepthBudget ≤ child.delegationDepthBudget)
    (grantError (py "child delegation_depth_budget must be strictly smaller than parent budget"))
  validateExactBindings parent child
  validateAuthorityAttenuation parent.authorityCeiling child.authorityCeiling
  raiseIf (¬ child.actions ⊆ parent.actions)
    (grantError (py "child actions must be a subset of parent actions"))
  raiseIf (¬ child.resourceScope ⊆ parent.resourceScope)
    (grantError (py "child resource_scope must be a subset of parent scope"))
  raiseIf (¬ parent.constraints ⊆ child.constraints)
    (grantError (py "child cannot remove parent constraints"))
  validateWindowAttenuation parent child

end CyberLion
