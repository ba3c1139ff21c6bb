import CyberLion.AtomicProgram
import CyberLion.AuthorityVerification

/-!
# Epochs, revocation and lineage admission in one process

`enterprise/authority_revocation.py`: the epoch state of a mission, its owner,
the two registries, and the admission of a lineage.  The registries and the
owners are shared by the threads of the process; every access under a lock is
one atomic step of a program over them.
-/

namespace CyberLion

open PyLib

def authorityRevocationErrorClass : ErrorClass :=
  .declared authorityGrantErrorClass (py "AuthorityRevocationError")

/-- `AuthorityRevocationError(message)`. -/
def revocationError (message : PyStr) : PyError :=
  ⟨authorityRevocationErrorClass, message⟩

def validEpoch (fieldName : PyStr) (epoch : Int) : Except PyError Unit :=
  raiseIf (epoch < 0) (revocationError (fieldName ++ py " must be a non-negative integer"))

/-! ### Epoch states -/

structure AuthorityEpochState where
  context : ContextKey
  epoch : Int
  revokedGrantIds : List PyStr
  deriving DecidableEq, Inhabited

namespace AuthorityEpochState

def validate (state : AuthorityEpochState) : Except PyError Unit := do
  boundedText revocationError 256 (py "trust_domain") state.context.trustDomain
  boundedText revocationError 256 (py "tenant_id") state.context.tenantId
  boundedText revocationError 256 (py "organization_id") state.context.organizationId
  boundedText revocationError 256 (py "mission_id") state.context.missionId
  validEpoch (py "epoch") state.epoch
  forM state.revokedGrantIds (boundedText revocationError 256 (py "revoked_grant_id"))
  raiseIf (¬ state.revokedGrantIds.Nodup)
    (revocationError (py "revoked_grant_ids must be unique"))

end AuthorityEpochState

def validateEpochTransition (previous candidate : AuthorityEpochState) :
    Except PyError AuthorityEpochState := do
  previous.validate
  candidate.validate
  raiseIf (previous.context ≠ candidate.context)
    (revocationError (py "authority epoch context cannot change"))
  raiseIf (candidate.epoch < previous.epoch)
    (revocationError (py "authority epoch cannot roll back"))
  raiseIf (candidate.epoch = previous.epoch ∧
      ¬ previous.revokedGrantIds ⊆ candidate.revokedGrantIds)
    (revocationError (py "revocation cannot be removed within the same epoch"))
  return candidate

/-- `AuthorityEpochStateOwner.advance`: the state that the owner holds
afterwards, and what the call does. -/
def advanceOwner (candidate held : AuthorityEpochState) :
    AuthorityEpochState × Except PyError AuthorityEpochState :=
  match validateEpochTransition held candidate with
  | .ok accepted => (accepted, .ok accepted)
  | .error error => (held, .error error)

/-! ### Registries -/

structure AuthorityLineageRootAnchor where
  rootGrantId : PyStr
  rootGrantDigest : PyStr
  deriving DecidableEq

def AuthorityLineageRootAnchor.validate (anchor : AuthorityLineageRootAnchor) :
    Except PyError Unit := do
  boundedText revocationError 256 (py "root_grant_id") anchor.rootGrantId
  raiseIf (¬ isLowerHexOf 64 anchor.rootGrantDigest = true)
    (revocationError (py "root_grant_digest must be canonical sha256 hex"))

/-- A reference to an `AuthorityEpochStateOwner`. -/
abbrev OwnerRef := Nat

/-- The two canonical registries and the owners that they refer to. -/
structure AuthorityRegistries where
  owners : List (ContextKey × OwnerRef)
  states : OwnerRef → AuthorityEpochState
  allocated : OwnerRef
  anchors : List ((ContextKey × Int) × AuthorityLineageRootAnchor)

namespace AuthorityRegistries

def empty : AuthorityRegistries :=
  ⟨[], fun _ => default, 0, []⟩

def setState (registries : AuthorityRegistries) (owner : OwnerRef)
    (state : AuthorityEpochState) : AuthorityRegistries :=
  { registries with states := Function.update registries.states owner state }

/-- `_AuthorityEpochRegistry.resolve`. -/
def resolveOwner (key : ContextKey) (registries : AuthorityRegistries) :
    Except PyError OwnerRef :=
  match registries.owners.lookup key with
  | some owner => .ok owner
  | none => .error (revocationError (py "canonical authority epoch context is not registered"))

def requireContext (owner : OwnerRef) (key : ContextKey) (registries : AuthorityRegistries) :
    Except PyError Unit :=
  raiseIf ((registries.states owner).context ≠ key)
    (revocationError (py "epoch state owner does not bind to trusted authority context"))

/-- `_AuthorityLineageRootRegistry.resolve`. -/
def resolveAnchor (key : ContextKey) (epoch : Int) (registries : AuthorityRegistries) :
    Except PyError AuthorityLineageRootAnchor := do
  validEpoch (py "epoch") epoch
  (registries.anchors.lookup (key, epoch)).elim
    (.error (revocationError
      (py "canonical lineage root anchor is not registered for this epoch"))) .ok

/-- The transaction of `_AuthorityEpochRegistry.register`. -/
def registerOwner (initial : AuthorityEpochState) (registries : AuthorityRegistries) :
    AuthorityRegistries × Except PyError AuthorityEpochState :=
  if initial.context ∈ registries.owners.map Prod.fst then
    (registries,
      .error (revocationError (py "canonical authority epoch context is already registered")))
  else
    ({ registries.setState registries.allocated initial with
        owners := (initial.context, registries.allocated) :: registries.owners
        allocated := registries.allocated + 1 }, .ok initial)

/-- The transaction of `AuthorityEpochStateOwner.advance`. -/
def advance (owner : OwnerRef) (candidate : AuthorityEpochState)
    (registries : AuthorityRegistries) :
    AuthorityRegistries × Except PyError AuthorityEpochState :=
  let (held, result) := advanceOwner candidate (registries.states owner)
  (registries.setState owner held, result)

/-- The transaction of `_AuthorityLineageRootRegistry.register`. -/
def registerAnchor (key : ContextKey) (epoch : Int) (anchor : AuthorityLineageRootAnchor)
    (owner : OwnerRef) (registries : AuthorityRegistries) :
    AuthorityRegistries × Except PyError AuthorityLineageRootAnchor :=
  if (registries.states owner).context ≠ key then
    (registries,
      .error (revocationError (py "epoch state owner does not bind to trusted authority context")))
  else if (registries.states owner).epoch ≠ epoch then
    (registries,
      .error (revocationError
        (py "root anchor can only be registered for the current canonical epoch")))
  else if (key, epoch) ∈ registries.anchors.map Prod.fst then
    (registries,
      .error (revocationError (py "canonical lineage root anchor is already registered")))
  else ({ registries with anchors := ((key, epoch), anchor) :: registries.anchors }, .ok anchor)

end AuthorityRegistries

def registerCanonicalAuthorityEpochState (initial : AuthorityEpochState) :
    PyProg AuthorityRegistries AuthorityEpochState := do
  PyProg.lift initial.validate
  PyProg.transact (AuthorityRegistries.registerOwner initial)

def advanceCanonicalAuthorityEpochState (candidate : AuthorityEpochState) :
    PyProg AuthorityRegistries AuthorityEpochState := do
  PyProg.lift candidate.validate
  let owner ← PyProg.read (AuthorityRegistries.resolveOwner candidate.context)
  PyProg.transact (AuthorityRegistries.advance owner candidate)

def registerCanonicalAuthorityLineageRootAnchor (context : ContextKey) (epoch : Int)
    (anchor : AuthorityLineageRootAnchor) :
    PyProg AuthorityRegistries AuthorityLineageRootAnchor := do
  PyProg.lift context.validate
  PyProg.lift (validEpoch (py "epoch") epoch)
  PyProg.lift anchor.validate
  let owner ← PyProg.read (AuthorityRegistries.resolveOwner context)
  PyProg.transact (AuthorityRegistries.registerAnchor context epoch anchor owner)

/-! ### Admission of a lineage -/

structure EpochAdmittedAuthorityGrant where
  grantId : PyStr
  subjectId : PyStr
  context : ContextKey
  epoch : Int
  grantDigest : PyStr
  deriving DecidableEq

structure EpochAdmittedAuthorityLineage where
  rootGrantId : PyStr
  leafGrantId : PyStr
  leafSubjectId : PyStr
  grantIds : List PyStr
  grantDigests : List PyStr
  lineageDigest : PyStr
  context : ContextKey
  epoch : Int
  deriving DecidableEq

def admitAuthenticatedGrant (context : ContextKey) (state : AuthorityEpochState)
    (grant : AuthorityGrant) (authenticated : AuthenticatedAuthorityGrant) :
    Except PyError EpochAdmittedAuthorityGrant := do
  let payload ← authorityGrantSignaturePayload grant context.trustDomain
  let digest ← grant.digest
  raiseIf (authenticated.grantId ≠ grant.grantId ∨
      authenticated.issuerSubjectId ≠ grant.issuerSubjectId ∨
      authenticated.subjectId ≠ grant.subjectId ∨
      authenticated.trustDomain ≠ context.trustDomain ∨
      authenticated.tenantId ≠ grant.tenantId ∨
      authenticated.organizationId ≠ grant.organizationId ∨
      authenticated.missionId ≠ grant.missionId ∨
      authenticated.signedPayload ≠ payload ∨ authenticated.grantDigest ≠ digest)
    (revocationError (py "authenticated grant binding does not match raw grant"))
  raiseIf (grant.epoch ≠ state.epoch)
    (revocationError (py "grant epoch is not the admitted mission epoch"))
  raiseIf (grant.grantId ∈ state.revokedGrantIds)
    (revocationError (py "grant is revoked in the admitted mission epoch"))
  return ⟨grant.grantId, grant.subjectId,
    ⟨context.trustDomain, grant.tenantId, grant.organizationId, grant.missionId⟩, grant.epoch,
    authenticated.grantDigest⟩

/-- What `_admit_authenticated_lineage` does under the lock of the owner. -/
def admitAuthenticatedLineage (owner : OwnerRef) (context : ContextKey)
    (lineage : List AuthorityGrant) (authenticated : List AuthenticatedAuthorityGrant)
    (registries : AuthorityRegistries) : Except PyError (List EpochAdmittedAuthorityGrant) := do
  raiseIf (lineage = [] ∨ lineage.length ≠ authenticated.length)
    (revocationError (py "lineage authentication evidence is incomplete"))
  registries.requireContext owner context
  (lineage.zip authenticated).mapM fun hop =>
    admitAuthenticatedGrant context (registries.states owner) hop.1 hop.2

/-- The bytes of `_LINEAGE_DOMAIN_PREFIX` and the joined digests. -/
def lineagePayload (grantDigests : List PyStr) : PyStr :=
  py "CYBER-LION/AUTHORITY-LINEAGE/1.0.0\x00" ++ pyJoin (py "\x00") grantDigests

def lineageDigest (grantDigests : List PyStr) : Except PyError PyStr := do
  raiseIf (grantDigests = [])
    (revocationError (py "grant_digests must be a non-empty immutable tuple"))
  raiseIf (∃ digest ∈ grantDigests, ¬ isLowerHexOf 64 digest = true)
    (revocationError (py "grant_digests contain invalid values"))
  let payload ← encodeUtf8 (lineagePayload grantDigests)
  return sha256 payload

/-- The checks of the root and of the identifiers before the registries are
asked. -/
def validateLineageShape (context : ContextKey) (root : AuthorityGrant)
    (lineage : List AuthorityGrant) : Except PyError Unit := do
  context.validate
  validEpoch (py "root epoch") root.epoch
  raiseIf (root.parentGrantId ≠ none)
    (revocationError (py "trusted lineage root must not have a parent"))
  raiseIf (¬ (lineage.map AuthorityGrant.grantId).Nodup)
    (revocationError (py "lineage grant IDs must be unique and acyclic"))

def matchRootAnchor (root : AuthorityGrant) (anchor : AuthorityLineageRootAnchor) :
    Except PyError Unit := do
  raiseIf (root.grantId ≠ anchor.rootGrantId)
    (revocationError (py "lineage root does not match canonical root grant ID"))
  let digest ← root.digest
  raiseIf (digest ≠ anchor.rootGrantDigest)
    (revocationError (py "lineage root does not match canonical root digest"))

/-- The checks between the registries' answers and the admission. -/
def authenticateLineage (anchor : AuthorityLineageRootAnchor) (root : AuthorityGrant)
    (lineage : List AuthorityGrant) (issuerKeys : IssuerKeys) (verifier : Verifier)
    (context : ContextKey) : Except PyError (List AuthenticatedAuthorityGrant) := do
  matchRootAnchor root anchor
  forM (lineage.zip lineage.tail) fun hop => validateAttenuation hop.1 hop.2
  let bindings ← rethrow (fun _ => true)
    (fun _ => revocationError (py "issuer key bindings unavailable")) issuerKeys
  lineage.mapM fun grant => authenticateAuthorityGrant grant (.ok bindings) verifier context

def admittedLineage (context : ContextKey) (root leaf : AuthorityGrant)
    (lineage : List AuthorityGrant) (admitted : List EpochAdmittedAuthorityGrant) :
    Except PyError EpochAdmittedAuthorityLineage := do
  let digests := admitted.map EpochAdmittedAuthorityGrant.grantDigest
  let digest ← lineageDigest digests
  return ⟨root.grantId, leaf.grantId, leaf.subjectId, lineage.map AuthorityGrant.grantId, digests,
    digest, context, (admitted.map EpochAdmittedAuthorityGrant.epoch).headD root.epoch⟩

def authenticateAndAdmitAuthorityLineage (lineage : List AuthorityGrant)
    (issuerKeys : IssuerKeys) (verifier : Verifier) (context : ContextKey) :
    PyProg AuthorityRegistries EpochAdmittedAuthorityLineage :=
  match lineage with
  | [] => PyProg.lift
      (.error (revocationError (py "lineage must be a non-empty immutable tuple")))
  | root :: rest => do
    PyProg.lift (validateLineageShape context root (root :: rest))
    let owner ← PyProg.read (AuthorityRegistries.resolveOwner context)
    PyProg.read (AuthorityRegistries.requireContext owner context)
    let anchor ← PyProg.read (AuthorityRegistries.resolveAnchor context root.epoch)
    let authenticated ← PyProg.lift
      (authenticateLineage anchor root (root :: rest) issuerKeys verifier context)
    let admitted ← PyProg.read
      (admitAuthenticatedLineage owner context (root :: rest) authenticated)
    PyProg.lift (admittedLineage context root ((root :: rest).getLast (by simp)) (root :: rest)
      admitted)

end CyberLion
