import CyberLion.AuthorityLineage
import CyberLion.AuthoritySource

/-!
# Admission of a merge

`enterprise/merge_admission.py`: the intent, the trusted state, the decision,
the owner of the consumed authorities, and the two admissions, one that
consumes and one that only gives evidence.  The registries and the owner are
shared by the threads of the process.
-/

namespace CyberLion

open PyLib

def mergeAdmissionErrorClass : ErrorClass :=
  .declared .valueError (py "MergeAdmissionError")

/-- `MergeAdmissionError(message)`. -/
def mergeError (message : PyStr) : PyError :=
  ⟨mergeAdmissionErrorClass, message⟩

def mergeAction : PyStr :=
  py "merge_pull_request"

def allowedMergeMethods : List PyStr :=
  [py "merge", py "squash", py "rebase"]

/-! ### Intents -/

structure MergeIntent where
  repository : PyStr
  prNumber : Int
  baseSha : PyStr
  headSha : PyStr
  mergeMethod : PyStr
  action : PyStr
  deriving DecidableEq

namespace MergeIntent

def validate (intent : MergeIntent) : Except PyError Unit := do
  boundedText mergeError 512 (py "repository") intent.repository
  raiseIf (intent.prNumber ≤ 0) (mergeError (py "pr_number must be a positive integer"))
  gitSha mergeError (py "base_sha") intent.baseSha
  gitSha mergeError (py "head_sha") intent.headSha
  raiseIf (intent.mergeMethod ∉ allowedMergeMethods)
    (mergeError (py "merge_method is unsupported"))
  raiseIf (intent.action ≠ mergeAction)
    (mergeError (py "merge action must be merge_pull_request"))

/-- `binding`: the tuple of all fields of a valid intent. -/
def binding (intent : MergeIntent) : Except PyError MergeIntent := do
  intent.validate
  return intent

end MergeIntent

/-- `TrustedPullRequestState`: its fields and its checks are those of an
intent. -/
structure TrustedPullRequestState extends MergeIntent

def canonicalMergeResource (intent : MergeIntent) : Except PyError PyStr := do
  intent.validate
  pullRequestResource intent.repository intent.prNumber intent.baseSha intent.headSha

def canonicalMergeMethodConstraint (intent : MergeIntent) : Except PyError PyStr := do
  intent.validate
  return py "merge_method:" ++ intent.mergeMethod

/-! ### Decisions -/

/-- The values of the field `decision`. -/
inductive MergeVerdict
  | allow
  | deny
  deriving DecidableEq

structure MergeAdmissionDecision where
  admissionId : PyStr
  decision : MergeVerdict
  rationale : PyStr
  repository : PyStr
  prNumber : Int
  baseSha : PyStr
  headSha : PyStr
  mergeMethod : PyStr
  grantId : Option PyStr
  grantDigest : Option PyStr
  lineageDigest : Option PyStr
  epoch : Option Int
  deriving DecidableEq

def isGiven (value : Option PyStr) : Prop :=
  ∃ text ∈ value, text ≠ []

instance (value : Option PyStr) : Decidable (isGiven value) :=
  decidable_of_iff (value ≠ none ∧ value ≠ some []) (by cases value <;> simp [isGiven])

namespace MergeAdmissionDecision

/-- What `ALLOW` requires. -/
def validateAllow (decision : MergeAdmissionDecision) : Except PyError Unit := do
  raiseIf (¬ (isGiven decision.grantId ∧ isGiven decision.grantDigest ∧
      isGiven decision.lineageDigest))
    (mergeError (py "ALLOW requires authority identity and digests"))
  raiseIf (¬ 0 ≤ decision.epoch.getD (-1))
    (mergeError (py "ALLOW requires a valid authority epoch"))

def validate (decision : MergeAdmissionDecision) : Except PyError Unit := do
  boundedText mergeError 512 (py "admission_id") decision.admissionId
  boundedText mergeError 1024 (py "rationale") decision.rationale
  MergeIntent.validate ⟨decision.repository, decision.prNumber, decision.baseSha,
    decision.headSha, decision.mergeMethod, mergeAction⟩
  if decision.decision = .allow then decision.validateAllow else .ok ()

end MergeAdmissionDecision

structure NonConsumingMergeAdmissionEvidence where
  admissionId : PyStr
  repository : PyStr
  prNumber : Int
  baseSha : PyStr
  headSha : PyStr
  mergeMethod : PyStr
  missionId : PyStr
  grantId : PyStr
  grantDigest : PyStr
  lineageDigest : PyStr
  sourceLineageDigest : PyStr
  epoch : Int
  authorityProvenanceId : PyStr
  authoritySourceKind : PyStr
  deriving DecidableEq

def NonConsumingMergeAdmissionEvidence.validate (evidence : NonConsumingMergeAdmissionEvidence) :
    Except PyError Unit := do
  boundedText mergeError 512 (py "admission_id") evidence.admissionId
  MergeIntent.validate ⟨evidence.repository, evidence.prNumber, evidence.baseSha,
    evidence.headSha, evidence.mergeMethod, mergeAction⟩
  boundedText mergeError 512 (py "mission_id") evidence.missionId
  boundedText mergeError 512 (py "grant_id") evidence.grantId
  boundedText mergeError 512 (py "grant_digest") evidence.grantDigest
  boundedText mergeError 512 (py "lineage_digest") evidence.lineageDigest
  boundedText mergeError 512 (py "source_lineage_digest") evidence.sourceLineageDigest
  boundedText mergeError 512 (py "authority_provenance_id") evidence.authorityProvenanceId
  boundedText mergeError 512 (py "authority_source_kind") evidence.authoritySourceKind
  raiseIf (evidence.authoritySourceKind ≠ py "trusted-control-plane")
    (mergeError (py "non-consuming evidence requires trusted-control-plane source"))
  raiseIf (evidence.epoch < 0) (mergeError (py "non-consuming evidence epoch is invalid"))

structure NonConsumingMergeAdmissionResult where
  admissionId : PyStr
  decision : MergeVerdict
  rationale : PyStr
  repository : PyStr
  prNumber : Int
  baseSha : PyStr
  headSha : PyStr
  mergeMethod : PyStr
  evidence : Option NonConsumingMergeAdmissionEvidence
  deriving DecidableEq

namespace NonConsumingMergeAdmissionResult

/-- What `ALLOW` requires of its evidence. -/
def validateAllow (result : NonConsumingMergeAdmissionResult) : Except PyError Unit :=
  match result.evidence with
  | none => .error (mergeError (py "ALLOW requires exact non-consuming evidence"))
  | some evidence => do
    evidence.validate
    raiseIf (evidence.admissionId ≠ result.admissionId ∨
        evidence.repository ≠ result.repository ∨ evidence.prNumber ≠ result.prNumber ∨
        evidence.baseSha ≠ result.baseSha ∨ evidence.headSha ≠ result.headSha ∨
        evidence.mergeMethod ≠ result.mergeMethod)
      (mergeError (py "non-consuming evidence does not bind result"))

/-- What `DENY` requires. -/
def validateDeny (result : NonConsumingMergeAdmissionResult) : Except PyError Unit :=
  raiseIf (result.evidence ≠ none)
    (mergeError (py "DENY must not carry positive admission evidence"))

def validate (result : NonConsumingMergeAdmissionResult) : Except PyError Unit := do
  boundedText mergeError 512 (py "admission_id") result.admissionId
  boundedText mergeError 1024 (py "rationale") result.rationale
  MergeIntent.validate ⟨result.repository, result.prNumber, result.baseSha, result.headSha,
    result.mergeMethod, mergeAction⟩
  if result.decision = .allow then result.validateAllow else result.validateDeny

end NonConsumingMergeAdmissionResult

/-! ### Consumption -/

/-- The key of a consumed authority: leaf, its digest and the epoch. -/
structure ConsumptionKey where
  grantId : PyStr
  grantDigest : PyStr
  epoch : Int
  deriving DecidableEq

/-- The registries, and what `MergeAuthorityConsumptionOwner` holds: the keys
with the lineage digests that they were consumed with. -/
structure MergeWorld where
  registries : AuthorityRegistries
  consumed : List (ConsumptionKey × PyStr)

def MergeWorld.setRegistries (world : MergeWorld) (registries : AuthorityRegistries) :
    MergeWorld :=
  { world with registries }

def MergeWorld.isConsumed (world : MergeWorld) (key : ConsumptionKey) : Prop :=
  key ∈ world.consumed.map Prod.fst

instance (world : MergeWorld) (key : ConsumptionKey) : Decidable (world.isConsumed key) :=
  inferInstanceAs (Decidable (key ∈ world.consumed.map Prod.fst))

def onRegistries {α : Type} (program : PyProg AuthorityRegistries α) : PyProg MergeWorld α :=
  PyProg.zoom MergeWorld.registries MergeWorld.setRegistries program

/-- What `consume` does under the lock of the owner. -/
def consumeKey (key : ConsumptionKey) (lineageDigest : PyStr) (world : MergeWorld) :
    MergeWorld × Except PyError Unit :=
  if world.isConsumed key then
    (world, .error (mergeError (py "merge authority has already been consumed")))
  else ({ world with consumed := (key, lineageDigest) :: world.consumed }, .ok ())

/-- `MergeAuthorityConsumptionOwner.consume`. -/
def consumeAuthority (key : ConsumptionKey) (lineageDigest : PyStr) : PyProg MergeWorld Unit := do
  PyProg.lift (boundedText mergeError 512 (py "grant_id") key.grantId)
  PyProg.lift (boundedText mergeError 512 (py "grant_digest") key.grantDigest)
  PyProg.lift (boundedText mergeError 512 (py "lineage_digest") lineageDigest)
  PyProg.lift (raiseIf (key.epoch < 0) (mergeError (py "consumption epoch is invalid")))
  PyProg.transact (consumeKey key lineageDigest)

/-! ### Admission -/

def deny (intent : MergeIntent) (admissionId rationale : PyStr) :
    Except PyError MergeAdmissionDecision := do
  let decision : MergeAdmissionDecision := ⟨admissionId, .deny, rationale, intent.repository,
    intent.prNumber, intent.baseSha, intent.headSha, intent.mergeMethod, none, none, none, none⟩
  decision.validate
  return decision

def denyNonConsuming (intent : MergeIntent) (admissionId rationale : PyStr) :
    Except PyError NonConsumingMergeAdmissionResult := do
  let result : NonConsumingMergeAdmissionResult := ⟨admissionId, .deny, rationale,
    intent.repository, intent.prNumber, intent.baseSha, intent.headSha, intent.mergeMethod, none⟩
  result.validate
  return result

def bindLeaf (leaf : AuthorityGrant) (admitted : EpochAdmittedAuthorityLineage)
    (intent : MergeIntent) : Except PyError Unit := do
  leaf.validate
  raiseIf (admitted.leafGrantId ≠ leaf.grantId)
    (mergeError (py "admitted lineage leaf does not match authority leaf"))
  raiseIf (admitted.grantDigests = [])
    (mergeError (py "admitted lineage digest does not match authority leaf"))
  let digest ← leaf.digest
  raiseIf (admitted.grantDigests.getLast? ≠ some digest)
    (mergeError (py "admitted lineage digest does not match authority leaf"))
  raiseIf (admitted.context.missionId ≠ leaf.missionId ∨ admitted.epoch ≠ leaf.epoch)
    (mergeError (py "admitted lineage context does not match authority leaf"))
  raiseIf (intent.action ∉ leaf.actions)
    (mergeError (py "authority leaf does not authorize merge action"))
  let resource ← canonicalMergeResource intent
  raiseIf (resource ∉ leaf.resourceScope)
    (mergeError (py "authority leaf does not bind exact merge resource"))
  let constraint ← canonicalMergeMethodConstraint intent
  raiseIf (constraint ∉ leaf.constraints)
    (mergeError (py "authority leaf does not bind exact merge method"))

def bindTrustedState (intent : MergeIntent) (trusted : TrustedPullRequestState) :
    Except PyError Unit := do
  trusted.toMergeIntent.validate
  let requested ← intent.binding
  let actual ← trusted.toMergeIntent.binding
  raiseIf (requested ≠ actual)
    (mergeError (py "merge intent does not match trusted GitHub state"))

def authenticateAndBind (intent : MergeIntent) (trusted : TrustedPullRequestState)
    (lineage : List AuthorityGrant) (issuerKeys : IssuerKeys) (verifier : Verifier)
    (context : ContextKey) :
    PyProg AuthorityRegistries (EpochAdmittedAuthorityLineage × AuthorityGrant) := do
  PyProg.lift (bindTrustedState intent trusted)
  match lineage.getLast? with
  | none => PyProg.lift (.error (mergeError (py "authority lineage is unavailable")))
  | some leaf => do
    let admitted ← authenticateAndAdmitAuthorityLineage lineage issuerKeys verifier context
    PyProg.lift (bindLeaf leaf admitted intent)
    return (admitted, leaf)

def bindLookupKey (intent : MergeIntent) (key : AuthorityLookupKey) (context : ContextKey) :
    Except PyError Unit := do
  key.validate
  context.validate
  raiseIf (key.repository ≠ intent.repository ∨ key.prNumber ≠ intent.prNumber ∨
      key.baseSha ≠ intent.baseSha ∨ key.headSha ≠ intent.headSha ∨
      key.missionId ≠ context.missionId)
    (mergeError (py "authority lookup key does not bind exact trusted merge state"))

def nonConsumingEvidence (intent : MergeIntent) (admissionId : PyStr) (context : ContextKey)
    (record : AuthorityLineageRecord) (admitted : EpochAdmittedAuthorityLineage)
    (leaf : AuthorityGrant) : Except PyError NonConsumingMergeAdmissionEvidence := do
  let digest ← leaf.digest
  let evidence : NonConsumingMergeAdmissionEvidence := ⟨admissionId, intent.repository,
    intent.prNumber, intent.baseSha, intent.headSha, intent.mergeMethod, context.missionId,
    leaf.grantId, digest, admitted.lineageDigest, record.lineageDigest, admitted.epoch,
    record.provenanceId, record.sourceKind⟩
  evidence.validate
  return evidence

def allowResult (intent : MergeIntent) (admissionId : PyStr)
    (evidence : NonConsumingMergeAdmissionEvidence) : NonConsumingMergeAdmissionResult :=
  ⟨admissionId, .allow,
    py "exact trusted authority, current epoch, and live GitHub state admitted without consumption",
    intent.repository, intent.prNumber, intent.baseSha, intent.headSha, intent.mergeMethod,
    some evidence⟩

def allowNonConsuming (intent : MergeIntent) (admissionId : PyStr)
    (evidence : NonConsumingMergeAdmissionEvidence) :
    Except PyError NonConsumingMergeAdmissionResult := do
  let result := allowResult intent admissionId evidence
  result.validate
  return result

/-- The body of `admit_merge_non_consuming`. -/
def admitNonConsuming (intent : MergeIntent) (trusted : TrustedPullRequestState)
    (backend : AuthorityBackend) (key : AuthorityLookupKey) (issuerKeys : IssuerKeys)
    (verifier : Verifier) (context : ContextKey) (admissionId : PyStr) :
    PyProg AuthorityRegistries NonConsumingMergeAdmissionResult := do
  PyProg.lift (bindLookupKey intent key context)
  let record ← PyProg.lift (resolveExact backend key)
  let (admitted, leaf) ←
    authenticateAndBind intent trusted record.lineage issuerKeys verifier context
  PyProg.lift (raiseIf (leaf.grantId ≠ key.grantId)
    (mergeError (py "authority leaf does not match exact lookup grant_id")))
  let evidence ← PyProg.lift
    (nonConsumingEvidence intent admissionId context record admitted leaf)
  PyProg.lift (allowNonConsuming intent admissionId evidence)

/-- `str(exc) or fallback`. -/
def rationaleOf (error : PyError) (fallback : PyStr) : PyStr :=
  if error.text = [] then fallback else error.text

def admitMergeNonConsuming (intent : MergeIntent) (trusted : TrustedPullRequestState)
    (backend : AuthorityBackend) (key : AuthorityLookupKey) (issuerKeys : IssuerKeys)
    (verifier : Verifier) (context : ContextKey) (admissionId : PyStr) :
    PyProg AuthorityRegistries NonConsumingMergeAdmissionResult := do
  PyProg.lift intent.validate
  PyProg.lift (boundedText mergeError 512 (py "admission_id") admissionId)
  PyProg.handle
    (admitNonConsuming intent trusted backend key issuerKeys verifier context admissionId)
    fun error => denyNonConsuming intent admissionId
      (rationaleOf error (py "non-consuming merge admission failed closed"))

def allowDecision (intent : MergeIntent) (admissionId : PyStr) (key : ConsumptionKey)
    (lineageDigest : PyStr) : MergeAdmissionDecision :=
  ⟨admissionId, .allow,
    py "exact merge authority, lineage, current epoch, and GitHub state admitted",
    intent.repository, intent.prNumber, intent.baseSha, intent.headSha, intent.mergeMethod,
    some key.grantId, some key.grantDigest, some lineageDigest, some key.epoch⟩

def allowMerge (intent : MergeIntent) (admissionId : PyStr) (key : ConsumptionKey)
    (lineageDigest : PyStr) : Except PyError MergeAdmissionDecision := do
  let decision := allowDecision intent admissionId key lineageDigest
  decision.validate
  return decision

/-- The body of `admit_merge`. -/
def admitConsuming (intent : MergeIntent) (trusted : TrustedPullRequestState)
    (lineage : List AuthorityGrant) (issuerKeys : IssuerKeys) (verifier : Verifier)
    (context : ContextKey) (admissionId : PyStr) : PyProg MergeWorld MergeAdmissionDecision := do
  let (admitted, leaf) ← onRegistries
    (authenticateAndBind intent trusted lineage issuerKeys verifier context)
  let digest ← PyProg.lift leaf.digest
  let key : ConsumptionKey := ⟨leaf.grantId, digest, admitted.epoch⟩
  consumeAuthority key admitted.lineageDigest
  PyProg.lift (allowMerge intent admissionId key admitted.lineageDigest)

/-- The classes that `admit_merge` catches. -/
def isDenied (error : PyError) : Bool :=
  error.isInstance authorityRevocationErrorClass || error.isInstance authoritySourceErrorClass ||
    error.isInstance mergeAdmissionErrorClass || error.isInstance .valueError ||
    error.isInstance .typeError

/-- The `except` clause of `admit_merge`. -/
def denyCaught (intent : MergeIntent) (admissionId : PyStr) (error : PyError) :
    Except PyError MergeAdmissionDecision :=
  if isDenied error then
    deny intent admissionId (rationaleOf error (py "merge admission failed closed"))
  else .error error

def admitMerge (intent : MergeIntent) (trusted : TrustedPullRequestState)
    (lineage : List AuthorityGrant) (issuerKeys : IssuerKeys) (verifier : Verifier)
    (context : ContextKey) (admissionId : PyStr) : PyProg MergeWorld MergeAdmissionDecision := do
  PyProg.lift intent.validate
  PyProg.lift (boundedText mergeError 512 (py "admission_id") admissionId)
  PyProg.handle
    (admitConsuming intent trusted lineage issuerKeys verifier context admissionId)
    (denyCaught intent admissionId)

end CyberLion
