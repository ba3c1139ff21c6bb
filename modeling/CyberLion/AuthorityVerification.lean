import CyberLion.AuthorityGrant

/-!
# Authentication of authority grants

`enterprise/authority_verification.py`: the trusted context, the issuer key
bindings, the bytes that are signed, and the authentication of one grant.  The
verifier belongs to the caller; it answers `True`, answers anything else, or
raises.
-/

namespace CyberLion

open PyLib

def authorityVerificationErrorClass : ErrorClass :=
  .declared authorityGrantErrorClass (py "AuthorityVerificationError")

/-- `AuthorityVerificationError(message)`. -/
def verificationError (message : PyStr) : PyError :=
  ⟨authorityVerificationErrorClass, message⟩

/-- The check that several modules make of a text field, each with its own
error class: not blank, not too long and without NUL. -/
def boundedText (raised : PyStr → PyError) (limit : Nat) (name value : PyStr) :
    Except PyError Unit :=
  raiseIf (isBlank value || limit < value.length || hasNul value)
    (raised (name ++ py " is invalid"))

theorem boundedText_eq_ok {raised : PyStr → PyError} {limit : Nat} {name value : PyStr} :
    boundedText raised limit name value = .ok () ↔
      isBlank value = false ∧ value.length ≤ limit ∧ hasNul value = false := by
  rw [boundedText, raiseIf_eq_ok]
  simp [and_assoc]

theorem boundedText_mono {raised other : PyStr → PyError} {limit higher : Nat}
    {name otherName value : PyStr} (bounded : boundedText raised limit name value = .ok ())
    (le : limit ≤ higher) : boundedText other higher otherName value = .ok () := by
  obtain ⟨notBlank, length, noNul⟩ := boundedText_eq_ok.mp bounded
  exact boundedText_eq_ok.mpr ⟨notBlank, length.trans le, noNul⟩

/-- `except AuthorityGrantError`. -/
def isGrantError (error : PyError) : Bool :=
  error.isInstance authorityGrantErrorClass

/-- The tuple `(trust_domain, tenant_id, organization_id, mission_id)`. -/
structure ContextKey where
  trustDomain : PyStr
  tenantId : PyStr
  organizationId : PyStr
  missionId : PyStr
  deriving DecidableEq, Inhabited

def ContextKey.validate (context : ContextKey) : Except PyError Unit := do
  boundedText verificationError 256 (py "trust_domain") context.trustDomain
  boundedText verificationError 256 (py "tenant_id") context.tenantId
  boundedText verificationError 256 (py "organization_id") context.organizationId
  boundedText verificationError 256 (py "mission_id") context.missionId

structure IssuerKeyBinding where
  issuerSubjectId : PyStr
  trustDomain : PyStr
  keyId : PyStr
  algorithm : PyStr
  deriving DecidableEq

def IssuerKeyBinding.validate (binding : IssuerKeyBinding) : Except PyError Unit := do
  boundedText verificationError 256 (py "issuer_subject_id") binding.issuerSubjectId
  boundedText verificationError 256 (py "trust_domain") binding.trustDomain
  boundedText verificationError 256 (py "key_id") binding.keyId
  boundedText verificationError 128 (py "algorithm") binding.algorithm

/-- What `tuple(issuer_keys)` does. -/
abbrev IssuerKeys := Except PyError (List IssuerKeyBinding)

/-- A verifier of the signed bytes, the signature, the key and the algorithm;
`true` is the answer `True`. -/
abbrev Verifier := Utf8Bytes → PyStr → PyStr → PyStr → Except PyError Bool

structure AuthenticatedAuthorityGrant where
  grantId : PyStr
  issuerSubjectId : PyStr
  subjectId : PyStr
  trustDomain : PyStr
  tenantId : PyStr
  organizationId : PyStr
  missionId : PyStr
  keyId : PyStr
  algorithm : PyStr
  signedPayload : Utf8Bytes
  grantDigest : PyStr
  deriving DecidableEq

/-- `_DOMAIN_PREFIXES`. -/
def domainPrefix (schemaVersion : PyStr) : Except PyError Utf8Bytes :=
  if schemaVersion = py "1.0.0" then .ok ⟨py "CYBER-LION/AUTHORITY-GRANT/1.0.0\x00", rfl⟩
  else if schemaVersion = py "1.1.0" then .ok ⟨py "CYBER-LION/AUTHORITY-GRANT/1.1.0\x00", rfl⟩
  else .error (verificationError (py "unsupported authority-grant signed contract version"))

/-- `b"\x00"`. -/
def nulByte : Utf8Bytes :=
  ⟨py "\x00", rfl⟩

def authorityGrantSignaturePayload (grant : AuthorityGrant) (trustDomain : PyStr) :
    Except PyError Utf8Bytes := do
  boundedText verificationError 256 (py "trust_domain") trustDomain
  let canonical ← rethrow isGrantError
    (fun _ => verificationError (py "grant contract validation failed")) grant.canonicalPayload
  let domain ← domainPrefix grant.schemaVersion
  let trustBytes ← encodeUtf8 trustDomain
  return ((domain.append trustBytes).append nulByte).append canonical

/-- The one binding of the issuer of the grant in the trust domain. -/
def eligibleBinding (grant : AuthorityGrant) (context : ContextKey)
    (bindings : List IssuerKeyBinding) : Except PyError IssuerKeyBinding :=
  match bindings.filter fun binding =>
      binding.issuerSubjectId = grant.issuerSubjectId &&
        binding.trustDomain = context.trustDomain with
  | [binding] => .ok binding
  | _ => .error (verificationError (py "issuer key binding is missing or ambiguous"))

def verifySignature (verifier : Verifier) (payload : Utf8Bytes) (grant : AuthorityGrant)
    (binding : IssuerKeyBinding) : Except PyError Unit := do
  let accepted ← rethrow (fun _ => true)
    (fun _ => verificationError (py "authority-grant verifier failed closed"))
    (verifier payload grant.signature binding.keyId binding.algorithm)
  raiseIf (accepted = false)
    (verificationError (py "authority-grant signature verification failed"))

def authenticateAuthorityGrant (grant : AuthorityGrant) (issuerKeys : IssuerKeys)
    (verifier : Verifier) (context : ContextKey) :
    Except PyError AuthenticatedAuthorityGrant := do
  context.validate
  rethrow isGrantError (fun _ => verificationError (py "grant contract validation failed"))
    grant.validate
  raiseIf (grant.tenantId ≠ context.tenantId ∨ grant.organizationId ≠ context.organizationId ∨
      grant.missionId ≠ context.missionId)
    (verificationError (py "grant does not bind to expected authority context"))
  let bindings ← rethrow (fun _ => true)
    (fun _ => verificationError (py "issuer key bindings unavailable")) issuerKeys
  forM bindings IssuerKeyBinding.validate
  let binding ← eligibleBinding grant context bindings
  let payload ← authorityGrantSignaturePayload grant context.trustDomain
  verifySignature verifier payload grant binding
  let digest ← grant.digest
  return ⟨grant.grantId, grant.issuerSubjectId, grant.subjectId, context.trustDomain,
    grant.tenantId, grant.organizationId, grant.missionId, binding.keyId, binding.algorithm,
    payload, digest⟩

theorem authenticateAuthorityGrant_eq_ok {grant : AuthorityGrant} {issuerKeys : IssuerKeys}
    {verifier : Verifier} {context : ContextKey} {authenticated : AuthenticatedAuthorityGrant}
    (accepted : authenticateAuthorityGrant grant issuerKeys verifier context =
      .ok authenticated) :
    grant.validate = .ok () ∧ grant.tenantId = context.tenantId ∧
      grant.organizationId = context.organizationId ∧ grant.missionId = context.missionId ∧
      grant.digest = .ok authenticated.grantDigest ∧
      ∃ (binding : IssuerKeyBinding) (payload : Utf8Bytes),
        authorityGrantSignaturePayload grant context.trustDomain = .ok payload ∧
        authenticated = ⟨grant.grantId, grant.issuerSubjectId, grant.subjectId,
          context.trustDomain, grant.tenantId, grant.organizationId, grant.missionId,
          binding.keyId, binding.algorithm, payload, authenticated.grantDigest⟩ := by
  simp only [authenticateAuthorityGrant, bind_eq_ok, rethrow_eq_ok, raiseIf_eq_ok, pure_eq_ok,
    ne_eq, not_or, not_not] at accepted
  obtain ⟨_, -, _, valid, _, ⟨tenant, organization, mission⟩, bindings, -, _, -, binding, -,
    payload, payloadEq, _, -, digest, digestEq, rfl⟩ := accepted
  exact ⟨valid, tenant, organization, mission, digestEq, binding, payload, payloadEq, rfl⟩

end CyberLion
