import CyberLion.MergeAdmissionAgreement

/-!
# When a merge admission raises

The text of an inner error becomes the rationale of a denial, which is checked
in turn, and `admit_merge` catches some classes of errors only.  Every error of
the call tree passes, except what the field checks of a grant raise about a
timestamp beyond the range of UTC or about a long or odd authority class.
-/

namespace CyberLion

open PyLib

/-! ### Rationales -/

def isRationale (text : PyStr) : Bool :=
  !isBlank text && text.length ≤ 1024 && !hasNul text

def isReportable (error : PyError) : Bool :=
  error.text = [] || isRationale error.text

/-- `admit_merge` turns the error into a denial. -/
def isDeniable (error : PyError) : Bool :=
  isDenied error && isReportable error

theorem boundedText_rationale (name text : PyStr) :
    boundedText mergeError 1024 name text = .ok () ↔ isRationale text = true := by
  rw [boundedText_eq_ok, isRationale]
  simp [and_assoc]

theorem isRationale_rationaleOf {error : PyError} {fallback : PyStr}
    (fallbackOk : isRationale fallback = true) :
    isRationale (rationaleOf error fallback) = true ↔ isReportable error = true := by
  rw [rationaleOf, isReportable]
  by_cases empty : error.text = []
  · simp [empty, fallbackOk]
  · simp [empty]

variable {intent : MergeIntent} {trusted : TrustedPullRequestState}
  {lineage : List AuthorityGrant} {issuerKeys : IssuerKeys} {verifier : Verifier}
  {context : ContextKey} {admissionId : PyStr}

theorem exists_deny_iff (valid : intent.validate = .ok ())
    (admissionOk : boundedText mergeError 512 (py "admission_id") admissionId = .ok ())
    (rationale : PyStr) :
    (∃ decision, deny intent admissionId rationale = .ok decision) ↔
      isRationale rationale = true := by
  rw [← boundedText_rationale (py "rationale")]
  simp only [deny, MergeAdmissionDecision.validate, bind_eq_ok, pure_eq_ok]
  constructor
  · rintro ⟨_, _, ⟨_, -, _, rationaleOk, -⟩, -⟩
    exact rationaleOk
  · intro rationaleOk
    exact ⟨_, (), ⟨(), admissionOk, (), rationaleOk, (),
      MergeIntent.validate_mergeAction valid, rfl⟩, rfl⟩

theorem exists_denyNonConsuming_iff (valid : intent.validate = .ok ())
    (admissionOk : boundedText mergeError 512 (py "admission_id") admissionId = .ok ())
    (rationale : PyStr) :
    (∃ result, denyNonConsuming intent admissionId rationale = .ok result) ↔
      isRationale rationale = true := by
  rw [← boundedText_rationale (py "rationale")]
  simp only [denyNonConsuming, NonConsumingMergeAdmissionResult.validate, bind_eq_ok, pure_eq_ok]
  constructor
  · rintro ⟨_, _, ⟨_, -, _, rationaleOk, -⟩, -⟩
    exact rationaleOk
  · intro rationaleOk
    exact ⟨_, (), ⟨(), admissionOk, (), rationaleOk, (),
      MergeIntent.validate_mergeAction valid, rfl⟩, rfl⟩

/-! ### The errors of the call tree -/

abbrev Tame {α : Type} (computation : Except PyError α) : Prop :=
  OnlyRaises (fun error => isDeniable error = true) computation

theorem tame_raiseIf {condition : Prop} [Decidable condition] {error : PyError}
    (deniable : isDeniable error = true) : Tame (raiseIf condition error) :=
  .raiseIf deniable

variable {α : Type} {first : Except PyError α}

theorem tame_of_eq_ok {computation : Except PyError α} {value : α}
    (returned : computation = .ok value) : Tame computation :=
  .of_eq_ok returned

theorem tame_boundedText {raised : PyStr → PyError} {limit : Nat} {name value : PyStr}
    (deniable : isDeniable (raised (name ++ py " is invalid")) = true) :
    Tame (boundedText raised limit name value) :=
  .raiseIf deniable

theorem tame_bind_iff {β : Type} {next : α → Except PyError β} :
    Tame (first >>= next) ↔ Tame first ∧ ∀ value, first = .ok value → Tame (next value) :=
  OnlyRaises.bind_iff

theorem tame_bind_iff_left {β : Type} {next : α → Except PyError β}
    (rest : ∀ value, first = .ok value → Tame (next value)) :
    Tame (first >>= next) ↔ Tame first :=
  OnlyRaises.bind_iff_left rest

theorem tame_bind_iff_of {β : Type} {next : α → Except PyError β} (tame : Tame first) :
    Tame (first >>= next) ↔ ∀ value, first = .ok value → Tame (next value) :=
  OnlyRaises.bind_iff_of tame

theorem tame_rethrow {computation : Except PyError α} {replacement : PyError}
    (deniable : isDeniable replacement = true) :
    Tame (rethrow (fun _ => true) (fun _ => replacement) computation) :=
  .rethrow fun _ => deniable

theorem tame_encodeUtf8 (text : PyStr) : Tame (encodeUtf8 text) := by
  unfold encodeUtf8
  split
  · exact .ok _
  · exact .error rfl

theorem tame_dumps (ensureAscii sortKeysFlag : Bool) (value : Json) :
    Tame (Json.dumps ensureAscii sortKeysFlag value) := by
  unfold Json.dumps
  split
  · exact .ok _
  · exact .error rfl

theorem tame_formatInt (number : Int) : Tame (formatInt number) := by
  unfold formatInt
  split
  · exact .ok _
  · exact .error rfl

theorem tame_gitSha {raised : PyStr → PyError} {name value : PyStr}
    (bounded : isDeniable (raised (name ++ py " is invalid")) = true)
    (shape : isDeniable (raised (name ++ py " must be a full lowercase git SHA")) = true) :
    Tame (gitSha raised name value) :=
  (tame_boundedText bounded).bind fun _ => .raiseIf shape

theorem tame_intent (intent : MergeIntent) : Tame intent.validate :=
  (tame_boundedText rfl).bind fun _ => (tame_raiseIf rfl).bind fun _ =>
    (tame_gitSha rfl rfl).bind fun _ => (tame_gitSha rfl rfl).bind fun _ =>
      (tame_raiseIf rfl).bind fun _ => .raiseIf rfl

theorem tame_bindTrustedState (intent : MergeIntent) (trusted : TrustedPullRequestState) :
    Tame (bindTrustedState intent trusted) := by
  have binding : ∀ intent : MergeIntent, Tame intent.binding := fun intent =>
    (tame_intent intent).bind fun _ => .ok _
  exact (tame_intent _).bind fun _ => (binding _).bind fun _ => (binding _).bind fun _ =>
    .raiseIf rfl

theorem tame_context (context : ContextKey) : Tame context.validate :=
  (tame_boundedText rfl).bind fun _ => (tame_boundedText rfl).bind fun _ =>
    (tame_boundedText rfl).bind fun _ => tame_boundedText rfl

theorem tame_validateLineageShape (context : ContextKey) (root : AuthorityGrant)
    (lineage : List AuthorityGrant) : Tame (validateLineageShape context root lineage) :=
  (tame_context context).bind fun _ => (tame_raiseIf rfl).bind fun _ =>
    (tame_raiseIf rfl).bind fun _ => .raiseIf rfl

theorem tame_resolveOwner (context : ContextKey) (registries : AuthorityRegistries) :
    Tame (registries.resolveOwner context) := by
  unfold AuthorityRegistries.resolveOwner
  split
  · exact .ok _
  · exact .error rfl

theorem tame_resolveAnchor (context : ContextKey) (epoch : Int)
    (registries : AuthorityRegistries) : Tame (registries.resolveAnchor context epoch) := by
  apply OnlyRaises.bind (tame_raiseIf rfl)
  intro _
  cases registries.anchors.lookup (context, epoch) with
  | none => exact .error rfl
  | some anchor => exact .ok _

/-! ### Valid grants -/

theorem tame_canonicalPayload {grant : AuthorityGrant} (valid : grant.validate = .ok ()) :
    Tame grant.canonicalPayload :=
  (tame_of_eq_ok valid).bind fun _ => (tame_dumps _ _ _).bind fun _ => tame_encodeUtf8 _

theorem tame_digest {grant : AuthorityGrant} (valid : grant.validate = .ok ()) :
    Tame grant.digest :=
  (tame_canonicalPayload valid).bind fun _ => (tame_encodeUtf8 _).bind fun _ => .ok _

theorem tame_exactBinding [DecidableEq α] {name : PyStr} {parentValue childValue : α}
    (deniable : isDeniable (grantError (py "child " ++ name ++ py " must equal parent " ++ name)) =
      true) : Tame (exactBinding name parentValue childValue) :=
  tame_raiseIf deniable

theorem tame_validateExactBindings (parent child : AuthorityGrant) :
    Tame (validateExactBindings parent child) :=
  (tame_exactBinding rfl).bind fun _ => (tame_exactBinding rfl).bind fun _ =>
    (tame_exactBinding rfl).bind fun _ => (tame_exactBinding rfl).bind fun _ =>
      (tame_exactBinding rfl).bind fun _ => (tame_exactBinding rfl).bind fun _ =>
        (tame_exactBinding rfl).bind fun _ => (tame_exactBinding rfl).bind fun _ =>
          tame_exactBinding rfl

theorem known_of_validate {grant : AuthorityGrant} (valid : grant.validate = .ok ()) :
    (∃ cls, AuthorityClass.ofText grant.authorityCeiling = some cls) ∧
      ∃ issued expires, grantUtc grant.issuedAt = .ok issued ∧
        grantUtc grant.expiresAt = .ok expires := by
  simp only [AuthorityGrant.validate, AuthorityGrant.validateWindow, bind_eq_ok] at valid
  obtain ⟨_, -, _, -, _, -, _, -, _, -, rank, isRank, _, -, _, -, _, -, _,
    ⟨issued, isIssued, expires, isExpires, -⟩, -⟩ := valid
  refine ⟨?_, issued, expires, isIssued, isExpires⟩
  unfold authorityRank at isRank
  split at isRank
  · rename_i cls isClass
    exact ⟨cls, isClass⟩
  · cases isRank

theorem tame_validateAttenuation {parent child : AuthorityGrant}
    (parentValid : parent.validate = .ok ()) (childValid : child.validate = .ok ()) :
    Tame (validateAttenuation parent child) := by
  obtain ⟨⟨parentClass, isParentClass⟩, parentIssued, parentExpires, isParentIssued,
    isParentExpires⟩ := known_of_validate parentValid
  obtain ⟨⟨childClass, isChildClass⟩, childIssued, childExpires, isChildIssued, isChildExpires⟩ :=
    known_of_validate childValid
  have classes : Tame (validateAuthorityAttenuation parent.authorityCeiling
      child.authorityCeiling) := by
    rw [validateAuthorityAttenuation, isParentClass, isChildClass]
    exact tame_raiseIf rfl
  have windows : Tame (validateWindowAttenuation parent child) :=
    (tame_of_eq_ok isChildIssued).bind fun _ =>
      (tame_of_eq_ok isParentIssued).bind fun _ => (tame_raiseIf rfl).bind fun _ =>
        (tame_of_eq_ok isChildExpires).bind fun _ =>
          (tame_of_eq_ok isParentExpires).bind fun _ => tame_raiseIf rfl
  exact (tame_of_eq_ok parentValid).bind fun _ => (tame_of_eq_ok childValid).bind
    fun _ => (tame_raiseIf rfl).bind fun _ => (tame_raiseIf rfl).bind fun _ =>
      (tame_raiseIf rfl).bind fun _ => (tame_raiseIf rfl).bind fun _ =>
        (tame_raiseIf rfl).bind fun _ => (tame_raiseIf rfl).bind fun _ =>
          (tame_validateExactBindings _ _).bind fun _ => classes.bind fun _ =>
            (tame_raiseIf rfl).bind fun _ => (tame_raiseIf rfl).bind fun _ =>
              (tame_raiseIf rfl).bind fun _ => windows

theorem tame_signaturePayload {grant : AuthorityGrant} (valid : grant.validate = .ok ())
    (trustDomain : PyStr) : Tame (authorityGrantSignaturePayload grant trustDomain) := by
  apply (tame_boundedText rfl).bind
  intro _
  apply OnlyRaises.bind
  · intro error raised
    cases payload : grant.canonicalPayload with
    | ok bytes =>
      rw [payload] at raised
      exact nomatch raised
    | error inner =>
      rw [payload] at raised
      obtain rfl := Except.error.inj raised
      split
      · rfl
      · exact tame_canonicalPayload valid inner payload
  · intro canonical
    apply OnlyRaises.bind
    · unfold domainPrefix
      split
      · exact .ok _
      · split
        · exact .ok _
        · exact .error rfl
    · intro domain
      exact (tame_encodeUtf8 _).bind fun _ => .ok _

theorem tame_authenticateAuthorityGrant {grant : AuthorityGrant}
    (valid : grant.validate = .ok ()) :
    Tame (authenticateAuthorityGrant grant issuerKeys verifier context) := by
  have validated : rethrow isGrantError
      (fun _ => verificationError (py "grant contract validation failed")) grant.validate =
        .ok () := by
    rw [valid]
    rfl
  apply (tame_context context).bind
  intro _
  apply (tame_of_eq_ok validated).bind
  intro _
  apply (tame_raiseIf rfl).bind
  intro _
  apply (tame_rethrow rfl).bind
  intro bindings
  apply OnlyRaises.bind
  · apply OnlyRaises.forM
    intro binding _
    exact (tame_boundedText rfl).bind fun _ => (tame_boundedText rfl).bind fun _ =>
      (tame_boundedText rfl).bind fun _ => tame_boundedText rfl
  · intro _
    apply OnlyRaises.bind
    · unfold eligibleBinding
      split
      · exact .ok _
      · exact .error rfl
    · intro binding
      apply (tame_signaturePayload valid _).bind
      intro payload
      apply OnlyRaises.bind
      · exact (tame_rethrow rfl).bind fun _ => tame_raiseIf rfl
      · intro _
        exact (tame_digest valid).bind fun _ => .ok _

theorem tame_admitAuthenticatedGrant {grant : AuthorityGrant} (valid : grant.validate = .ok ())
    (state : AuthorityEpochState) (authenticated : AuthenticatedAuthorityGrant) :
    Tame (admitAuthenticatedGrant context state grant authenticated) :=
  (tame_signaturePayload valid _).bind fun _ => (tame_digest valid).bind fun _ =>
    (tame_raiseIf rfl).bind fun _ => (tame_raiseIf rfl).bind fun _ =>
      (tame_raiseIf rfl).bind fun _ => .ok _

theorem tame_admittedLineage (root leaf : AuthorityGrant) (lineage : List AuthorityGrant)
    (admitted : List EpochAdmittedAuthorityGrant) :
    Tame (admittedLineage context root leaf lineage admitted) := by
  apply OnlyRaises.bind
  · exact (tame_raiseIf rfl).bind fun _ => (tame_raiseIf rfl).bind fun _ =>
      (tame_encodeUtf8 _).bind fun _ => .ok _
  · exact fun _ => .ok _

theorem tame_bindLeaf {leaf : AuthorityGrant} (valid : leaf.validate = .ok ())
    (admitted : EpochAdmittedAuthorityLineage) (intent : MergeIntent) :
    Tame (bindLeaf leaf admitted intent) := by
  have resource : Tame (canonicalMergeResource intent) :=
    (tame_intent intent).bind fun _ => (tame_formatInt _).bind fun _ => .ok _
  have method : Tame (canonicalMergeMethodConstraint intent) :=
    (tame_intent intent).bind fun _ => .ok _
  exact (tame_of_eq_ok valid).bind fun _ => (tame_raiseIf rfl).bind fun _ =>
    (tame_raiseIf rfl).bind fun _ => (tame_digest valid).bind fun _ =>
      (tame_raiseIf rfl).bind fun _ => (tame_raiseIf rfl).bind fun _ =>
        (tame_raiseIf rfl).bind fun _ => resource.bind fun _ => (tame_raiseIf rfl).bind fun _ =>
          method.bind fun _ => tame_raiseIf rfl

/-! ### Errors that escape -/

namespace AuthorityGrant

def validateHead (grant : AuthorityGrant) : Except PyError Unit := do
  raiseIf (grant.schemaVersion ∉ [py "1.0.0", py "1.1.0"] ∨
      ∃ value ∈ grant.required, isBlank value = true)
    (grantError (py "grant required fields/schema are invalid"))
  raiseIf (∃ parent ∈ grant.parentGrantId, isBlank parent = true)
    (grantError (py "parent_grant_id must be null or a non-empty string"))
  validateUnique (py "actions") false grant.actions
  validateUnique (py "resource_scope") false grant.resourceScope
  validateUnique (py "constraints") true grant.constraints

/-- The checks of a grant between its authority class and its times. -/
def validateBudget (grant : AuthorityGrant) : Except PyError Unit := do
  raiseIf (grant.epoch < 0) (grantError (py "grant epoch must be a non-negative integer"))
  raiseIf (grant.delegationDepthBudget < 0)
    (grantError (py "delegation_depth_budget must be a non-negative integer"))
  grant.validateDelegation

def validateDigests (grant : AuthorityGrant) : Except PyError Unit := do
  raiseIf (¬ isPrefixedDigest grant.policyDigest = true)
    (grantError (py "policy_digest must be canonical sha256"))
  raiseIf (¬ isPrefixedDigest grant.observabilityContractDigest = true)
    (grantError (py "observability_contract_digest must be canonical sha256"))

theorem validate_eq (grant : AuthorityGrant) :
    grant.validate = (do
      grant.validateHead
      let _ ← authorityRank grant.authorityCeiling
      grant.validateBudget
      grant.validateWindow
      grant.validateDigests) := by
  simp only [validate, validateHead, validateBudget, validateDigests, bind_assoc]

end AuthorityGrant

def IsBeyondUtc (text : PyStr) : Prop :=
  ∃ time offset, fromIsoFormat (pyReplace 0x5A (py "+00:00") text) = some (.aware time offset) ∧
    time.astimezoneUtc offset = .error DateTime.outOfRangeError

/-- The authority class is not known and the error that names it does not pass,
or a timestamp is beyond UTC and that error does not pass. -/
structure GrantEscapes (passes : PyError → Bool) (grant : AuthorityGrant) : Prop where
  head : grant.validateHead = .ok ()
  escapes : (AuthorityClass.ofText grant.authorityCeiling = none ∧ passes
      ⟨enterpriseModelErrorClass, py "unknown authority class: " ++ grant.authorityCeiling⟩ =
        false) ∨
    (AuthorityClass.ofText grant.authorityCeiling ≠ none ∧ grant.validateBudget = .ok () ∧
      passes DateTime.outOfRangeError = false ∧
      (IsBeyondUtc grant.issuedAt ∨
        (∃ issued, grantUtc grant.issuedAt = .ok issued) ∧ IsBeyondUtc grant.expiresAt))

def HopsEscape : AuthorityGrant → List AuthorityGrant → Prop
  | _, [] => False
  | parent, child :: rest => GrantEscapes isDeniable child ∨
      (validateAttenuation parent child = .ok () ∧ HopsEscape child rest)

/-- Every check before the field checks of some grant passes, and these raise an
error that does not become a denial. -/
structure LineageEscapes (registries : AuthorityRegistries) (intent : MergeIntent)
    (trusted : TrustedPullRequestState) (root : AuthorityGrant) (rest : List AuthorityGrant)
    (context : ContextKey) (owner : OwnerRef) (anchor : AuthorityLineageRootAnchor) : Prop where
  bound : bindTrustedState intent trusted = .ok ()
  shape : validateLineageShape context root (root :: rest) = .ok ()
  isOwner : registries.resolveOwner context = .ok owner
  isRequired : registries.requireContext owner context = .ok ()
  isAnchor : registries.resolveAnchor context root.epoch = .ok anchor
  rootId : root.grantId = anchor.rootGrantId
  escapes : GrantEscapes isDeniable root ∨
    (root.digest = .ok anchor.rootGrantDigest ∧ HopsEscape root rest)

/-- The lineage makes `admit_merge` raise. -/
def AdmissionEscapes (registries : AuthorityRegistries) (intent : MergeIntent)
    (trusted : TrustedPullRequestState) (lineage : List AuthorityGrant) (context : ContextKey) :
    Prop :=
  ∃ root rest owner anchor, lineage = root :: rest ∧
    LineageEscapes registries intent trusted root rest context owner anchor

/-- A grant of a record has an authority class whose error cannot be reported,
and all grants before it pass. -/
def RecordHopsEscape (missionId : PyStr) : Option AuthorityGrant → List AuthorityGrant → Prop
  | _, [] => False
  | previous, grant :: rest => GrantEscapes isReportable grant ∨
      (grant.validate = .ok () ∧ grant.missionId = missionId ∧
        validateParent previous grant = .ok () ∧ RecordHopsEscape missionId (some grant) rest)

/-- Every check of the record before its grants passes, and a grant escapes. -/
structure RecordEscapes (record : AuthorityLineageRecord) : Prop where
  key : record.lookupKey.validate = .ok ()
  source : record.sourceKind = py "trusted-control-plane"
  provenance : isProvenanceId record.provenanceId = true
  digest : isLowerHexOf 64 record.lineageDigest = true
  escapes : RecordHopsEscape record.lookupKey.missionId none record.lineage

/-- The answer of the source makes `admit_merge_non_consuming` raise. -/
structure SourceEscapes (intent : MergeIntent) (backend : AuthorityBackend)
    (key : AuthorityLookupKey) (context : ContextKey) : Prop where
  bound : bindLookupKey intent key context = .ok ()
  escapes : (∃ error, backend key = .error error ∧ isReportable error = false) ∨
    ∃ record, backend key = .ok [record] ∧ RecordEscapes record

/-! ### Grants that escape -/

section Grants

variable {passes : PyError → Bool}

theorem tame_validateUnique {fieldName : PyStr} {allowEmpty : Bool} {values : List PyStr}
    (empty : isDeniable (grantError (fieldName ++ py " must not be empty")) = true)
    (blank : isDeniable (grantError (fieldName ++ py " must contain non-empty strings")) = true)
    (unique : isDeniable (grantError (fieldName ++ py " must be unique")) = true) :
    Tame (validateUnique fieldName allowEmpty values) :=
  (tame_raiseIf empty).bind fun _ => (tame_raiseIf blank).bind fun _ => tame_raiseIf unique

theorem tame_validateHead (grant : AuthorityGrant) : Tame grant.validateHead :=
  (tame_raiseIf rfl).bind fun _ => (tame_raiseIf rfl).bind fun _ =>
    (tame_validateUnique rfl rfl rfl).bind fun _ =>
      (tame_validateUnique rfl rfl rfl).bind fun _ => tame_validateUnique rfl rfl rfl

theorem tame_validateBudget (grant : AuthorityGrant) : Tame grant.validateBudget := by
  apply (tame_raiseIf rfl).bind
  intro _
  apply (tame_raiseIf rfl).bind
  intro _
  unfold AuthorityGrant.validateDelegation
  split
  · exact tame_raiseIf rfl
  · exact (tame_raiseIf rfl).bind fun _ => tame_raiseIf rfl

theorem tame_validateDigests (grant : AuthorityGrant) : Tame grant.validateDigests :=
  (tame_raiseIf rfl).bind fun _ => tame_raiseIf rfl

theorem ofMicroseconds_eq_error {total : Int} {error : PyError}
    (raised : DateTime.ofMicroseconds total = .error error) : error = DateTime.outOfRangeError := by
  unfold DateTime.ofMicroseconds at raised
  split at raised
  · exact (Except.error.inj raised).symm
  · simp only at raised
    split at raised
    · exact (Except.error.inj raised).symm
    · split at raised
      · exact nomatch raised
      · exact (Except.error.inj raised).symm

theorem astimezoneUtc_eq_error {time : DateTime} {offset : Int} {error : PyError}
    (raised : time.astimezoneUtc offset = .error error) : error = DateTime.outOfRangeError := by
  unfold DateTime.astimezoneUtc at raised
  split at raised
  · exact nomatch raised
  · exact ofMicroseconds_eq_error raised

variable (implied : ∀ error, isDeniable error = true → passes error = true)
include implied

theorem onlyRaises_of_tame {α : Type} {computation : Except PyError α}
    (tame : Tame computation) : OnlyRaises (fun error => passes error = true) computation :=
  tame.imp implied

theorem onlyRaises_grantUtc (text : PyStr) :
    OnlyRaises (fun error => passes error = true) (grantUtc text) ↔
      ¬ (passes DateTime.outOfRangeError = false ∧ IsBeyondUtc text) := by
  unfold grantUtc IsBeyondUtc
  split
  · rename_i malformed
    simp only [malformed, reduceCtorEq, false_and, exists_false, and_false, not_false_eq_true,
      iff_true]
    exact onlyRaises_of_tame implied (.error rfl)
  · rename_i isNaive
    simp only [isNaive, Option.some.injEq, reduceCtorEq, false_and, exists_false, and_false,
      not_false_eq_true, iff_true]
    exact onlyRaises_of_tame implied (.error rfl)
  · rename_i time offset isAware
    simp only [isAware, Option.some.injEq, Moment.aware.injEq, not_and, not_exists]
    constructor
    · intro raises blocked other shift same beyond
      obtain ⟨rfl, rfl⟩ := same
      exact absurd (raises _ beyond) (by simp [blocked])
    · intro passing error raised
      obtain rfl := astimezoneUtc_eq_error raised
      by_contra blocked
      exact passing (by simpa using blocked) time offset ⟨rfl, rfl⟩ raised

theorem onlyRaises_validateWindow (grant : AuthorityGrant) :
    OnlyRaises (fun error => passes error = true) grant.validateWindow ↔
      ¬ (passes DateTime.outOfRangeError = false ∧ (IsBeyondUtc grant.issuedAt ∨
        (∃ issued, grantUtc grant.issuedAt = .ok issued) ∧ IsBeyondUtc grant.expiresAt)) := by
  have second : ∀ issued : DateTime, OnlyRaises (fun error => passes error = true)
      (grantUtc grant.expiresAt >>= fun expires => raiseIf (expires.packed ≤ issued.packed)
        (grantError (py "grant validity window is invalid"))) ↔
      ¬ (passes DateTime.outOfRangeError = false ∧ IsBeyondUtc grant.expiresAt) := by
    intro issued
    rw [← onlyRaises_grantUtc implied]
    apply OnlyRaises.bind_iff_left
    exact fun _ _ => onlyRaises_of_tame implied (tame_raiseIf rfl)
  rw [AuthorityGrant.validateWindow, OnlyRaises.bind_iff, onlyRaises_grantUtc implied]
  simp only [second]
  constructor
  · rintro ⟨firstPasses, secondPasses⟩ ⟨blocked, beyond | ⟨⟨issued, isIssued⟩, beyond⟩⟩
    · exact firstPasses ⟨blocked, beyond⟩
    · exact secondPasses issued isIssued ⟨blocked, beyond⟩
  · intro passing
    constructor
    · rintro ⟨blocked, beyond⟩
      exact passing ⟨blocked, .inl beyond⟩
    · rintro issued isIssued ⟨blocked, beyond⟩
      exact passing ⟨blocked, .inr ⟨⟨issued, isIssued⟩, beyond⟩⟩

theorem onlyRaises_validate (grant : AuthorityGrant) :
    OnlyRaises (fun error => passes error = true) grant.validate ↔
      ¬ GrantEscapes passes grant := by
  have afterRank : OnlyRaises (fun error => passes error = true) (do
      grant.validateBudget
      grant.validateWindow
      grant.validateDigests) ↔ (grant.validateBudget = .ok () →
        OnlyRaises (fun error => passes error = true) grant.validateWindow) := by
    rw [OnlyRaises.bind_iff_of (onlyRaises_of_tame implied (tame_validateBudget grant))]
    have window : OnlyRaises (fun error => passes error = true)
        (grant.validateWindow >>= fun _ => grant.validateDigests) ↔
        OnlyRaises (fun error => passes error = true) grant.validateWindow :=
      OnlyRaises.bind_iff_left fun _ _ => onlyRaises_of_tame implied (tame_validateDigests grant)
    rw [window]
    exact ⟨fun all => all (), fun all _ => all⟩
  have ranked : OnlyRaises (fun error => passes error = true) (do
      let _ ← authorityRank grant.authorityCeiling
      grant.validateBudget
      grant.validateWindow
      grant.validateDigests) ↔
      ¬ ((AuthorityClass.ofText grant.authorityCeiling = none ∧ passes
          ⟨enterpriseModelErrorClass, py "unknown authority class: " ++ grant.authorityCeiling⟩ =
            false) ∨
        (AuthorityClass.ofText grant.authorityCeiling ≠ none ∧ grant.validateBudget = .ok () ∧
          passes DateTime.outOfRangeError = false ∧
          (IsBeyondUtc grant.issuedAt ∨
            (∃ issued, grantUtc grant.issuedAt = .ok issued) ∧
              IsBeyondUtc grant.expiresAt))) := by
    unfold authorityRank
    cases AuthorityClass.ofText grant.authorityCeiling with
    | none =>
      simp only [error_bind, true_and, ne_eq, not_true_eq_false, false_and, or_false,
        Bool.not_eq_false]
      constructor
      · exact fun raises => raises _ rfl
      · exact fun passing => .error passing
    | some cls =>
      simp only [ok_bind, afterRank, onlyRaises_validateWindow implied, reduceCtorEq,
        false_and, ne_eq, not_false_eq_true, true_and, false_or, not_and]
  rw [AuthorityGrant.validate_eq,
    OnlyRaises.bind_iff_of (onlyRaises_of_tame implied (tame_validateHead grant))]
  constructor
  · intro passing escapes
    exact ranked.mp (passing () escapes.head) escapes.escapes
  · intro passing _ head
    exact ranked.mpr fun escapes => passing ⟨head, escapes⟩

end Grants

theorem tame_validate_iff (grant : AuthorityGrant) :
    Tame grant.validate ↔ ¬ GrantEscapes isDeniable grant :=
  onlyRaises_validate (fun _ => id) grant

/-! ### Lineages that escape -/

def validateHops (root : AuthorityGrant) (rest : List AuthorityGrant) : Except PyError Unit :=
  forM ((root :: rest).zip rest) fun hop => validateAttenuation hop.1 hop.2

theorem validateHops_cons (root child : AuthorityGrant) (rest : List AuthorityGrant) :
    validateHops root (child :: rest) =
      (validateAttenuation root child >>= fun _ => validateHops child rest) := by
  rw [validateHops, List.zip_cons_cons, List.forM_cons]
  rfl

theorem valid_of_validateAttenuation {parent child : AuthorityGrant}
    (attenuated : validateAttenuation parent child = .ok ()) : child.validate = .ok () := by
  simp only [validateAttenuation, bind_eq_ok] at attenuated
  obtain ⟨_, -, _, childValid, -⟩ := attenuated
  exact childValid

theorem tame_validateAttenuation_iff {parent child : AuthorityGrant}
    (valid : parent.validate = .ok ()) :
    Tame (validateAttenuation parent child) ↔ ¬ GrantEscapes isDeniable child := by
  rw [← tame_validate_iff]
  constructor
  · intro tame error raised
    apply tame
    rw [validateAttenuation, valid, raised, ok_bind, error_bind]
  · intro tame
    cases childValid : child.validate with
    | ok _ => exact tame_validateAttenuation valid childValid
    | error error =>
      intro other raised
      rw [validateAttenuation, valid, childValid, ok_bind, error_bind] at raised
      obtain rfl := Except.error.inj raised
      exact tame error childValid

variable {rest : List AuthorityGrant} {anchor : AuthorityLineageRootAnchor}
  {registries : AuthorityRegistries}

theorem tame_validateHops_iff {root : AuthorityGrant} (valid : root.validate = .ok ()) :
    Tame (validateHops root rest) ↔ ¬ HopsEscape root rest := by
  induction rest generalizing root with
  | nil =>
    constructor
    · exact fun _ escapes => escapes
    · exact fun _ => .ok _
  | cons child rest ih =>
    rw [validateHops_cons, tame_bind_iff, tame_validateAttenuation_iff valid, HopsEscape,
      not_or, not_and]
    apply and_congr_right
    intro _
    constructor
    · intro later attenuated
      exact (ih (valid_of_validateAttenuation attenuated)).mp (later () attenuated)
    · intro later _ attenuated
      exact (ih (valid_of_validateAttenuation attenuated)).mpr (later attenuated)

theorem valid_of_validateHops {root : AuthorityGrant} (valid : root.validate = .ok ())
    (passes : validateHops root rest = .ok ()) :
    ∀ grant ∈ root :: rest, grant.validate = .ok () := by
  induction rest generalizing root with
  | nil => simpa using valid
  | cons child rest ih =>
    rw [validateHops_cons, bind_eq_ok] at passes
    obtain ⟨_, attenuated, later⟩ := passes
    rw [List.forall_mem_cons]
    exact ⟨valid, ih (valid_of_validateAttenuation attenuated) later⟩

theorem tame_matchRootAnchor_iff {root : AuthorityGrant}
    (sameId : root.grantId = anchor.rootGrantId) :
    Tame (matchRootAnchor root anchor) ↔ ¬ GrantEscapes isDeniable root := by
  have idOk : raiseIf (root.grantId ≠ anchor.rootGrantId) (revocationError
      (py "lineage root does not match canonical root grant ID")) = .ok () :=
    raiseIf_eq_ok.mpr (not_not.mpr sameId)
  rw [← tame_validate_iff, matchRootAnchor, idOk, ok_bind,
    tame_bind_iff_left fun _ _ => tame_raiseIf rfl, AuthorityGrant.digest,
    AuthorityGrant.canonicalPayload, bind_assoc]
  apply OnlyRaises.bind_iff_left
  intro _ _
  exact ((tame_dumps _ _ _).bind fun _ => tame_encodeUtf8 _).bind fun _ =>
    (tame_encodeUtf8 _).bind fun _ => .ok _

theorem tame_authenticateLineage_iff {root : AuthorityGrant} :
    Tame (authenticateLineage anchor root (root :: rest) issuerKeys verifier context) ↔
      ¬ (root.grantId = anchor.rootGrantId ∧ (GrantEscapes isDeniable root ∨
        (root.digest = .ok anchor.rootGrantDigest ∧ HopsEscape root rest))) := by
  by_cases sameId : root.grantId = anchor.rootGrantId
  · have afterAnchor : matchRootAnchor root anchor = .ok () → (Tame (validateHops root rest >>=
        fun _ => rethrow (fun _ => true)
          (fun _ => revocationError (py "issuer key bindings unavailable")) issuerKeys >>=
        fun bindings => (root :: rest).mapM fun grant =>
          authenticateAuthorityGrant grant (.ok bindings) verifier context) ↔
        ¬ HopsEscape root rest) := by
      intro matched
      have valid := AuthorityGrant.validate_of_digest (matchRootAnchor_eq_ok.mp matched).2
      rw [← tame_validateHops_iff valid]
      apply OnlyRaises.bind_iff_left
      intro _ hops
      apply (tame_rethrow rfl).bind
      intro bindings
      apply OnlyRaises.mapM
      intro grant member
      exact tame_authenticateAuthorityGrant (valid_of_validateHops valid hops grant member)
    have parts : Tame (authenticateLineage anchor root (root :: rest) issuerKeys verifier
        context) ↔ ¬ GrantEscapes isDeniable root ∧
          (matchRootAnchor root anchor = .ok () → ¬ HopsEscape root rest) := by
      rw [authenticateLineage, tame_bind_iff, tame_matchRootAnchor_iff sameId]
      apply and_congr_right
      intro _
      constructor
      · exact fun later matched => (afterAnchor matched).mp (later () matched)
      · exact fun later _ matched => (afterAnchor matched).mpr (later matched)
    rw [parts, matchRootAnchor_eq_ok]
    simp only [sameId, true_and, not_or, not_and]
  · have raised : raiseIf (root.grantId ≠ anchor.rootGrantId) (revocationError
        (py "lineage root does not match canonical root grant ID")) = .error (revocationError
          (py "lineage root does not match canonical root grant ID")) :=
      raiseIf_eq_error.mpr ⟨sameId, rfl⟩
    rw [authenticateLineage, matchRootAnchor, raised, error_bind, error_bind]
    constructor
    · exact fun _ escapes => sameId escapes.1
    · exact fun _ => .error rfl

theorem valid_of_authenticateLineage {root : AuthorityGrant}
    {authenticated : List AuthenticatedAuthorityGrant}
    (accepted : authenticateLineage anchor root (root :: rest) issuerKeys verifier context =
      .ok authenticated) :
    ∀ grant ∈ root :: rest, grant.validate = .ok () := by
  have valid := (isChain_of_authenticateLineage accepted).1
  simp only [authenticateLineage, bind_eq_ok] at accepted
  obtain ⟨_, -, _, hops, -⟩ := accepted
  exact valid_of_validateHops valid hops

theorem valid_of_admitLineageIn {admitted : EpochAdmittedAuthorityLineage}
    (accepted : admitLineageIn registries lineage issuerKeys verifier context = .ok admitted) :
    ∀ grant ∈ lineage, grant.validate = .ok () := by
  cases lineage with
  | nil => exact nomatch accepted
  | cons root rest =>
    simp only [admitLineageIn, bind_eq_ok] at accepted
    obtain ⟨_, -, _, -, _, -, _, -, _, authenticated, -⟩ := accepted
    exact valid_of_authenticateLineage authenticated

theorem tame_admitLineageIn_iff (bound : bindTrustedState intent trusted = .ok ()) :
    Tame (admitLineageIn registries lineage issuerKeys verifier context) ↔
      ¬ AdmissionEscapes registries intent trusted lineage context := by
  cases lineage with
  | nil =>
    constructor
    · rintro _ ⟨_, _, _, _, absurdity, -⟩
      exact nomatch absurdity
    · exact fun _ => .error rfl
  | cons root rest =>
    have afterLineage : ∀ owner anchor authenticated, authenticateLineage anchor root
        (root :: rest) issuerKeys verifier context = .ok authenticated →
        Tame (admitAuthenticatedLineage owner context (root :: rest) authenticated
          registries >>= fun admitted => admittedLineage context root
            ((root :: rest).getLast (by simp)) (root :: rest) admitted) := by
      intro owner anchor authenticated accepted
      have valid := valid_of_authenticateLineage accepted
      apply OnlyRaises.bind
      · apply (tame_raiseIf rfl).bind
        intro _
        apply (tame_raiseIf rfl).bind
        intro _
        apply OnlyRaises.mapM
        intro hop member
        exact tame_admitAuthenticatedGrant (valid _ (List.of_mem_zip member).1) _ _
      · exact fun admitted => tame_admittedLineage _ _ _ _
    constructor
    · rintro tame ⟨_, _, owner, anchor, same, escapes⟩
      obtain ⟨rfl, rfl⟩ := List.cons.inj same
      rw [admitLineageIn, escapes.shape, ok_bind, escapes.isOwner, ok_bind, escapes.isRequired,
        ok_bind, escapes.isAnchor, ok_bind] at tame
      exact tame_authenticateLineage_iff.mp (OnlyRaises.bind_iff.mp tame).1
        ⟨escapes.rootId, escapes.escapes⟩
    · intro passes
      apply (tame_validateLineageShape _ _ _).bind_of
      intro _ shape
      apply (tame_resolveOwner _ _).bind_of
      intro owner isOwner
      apply (tame_raiseIf rfl).bind_of
      intro _ isRequired
      apply (tame_resolveAnchor _ _ _).bind_of
      intro anchor isAnchor
      apply OnlyRaises.bind_of
      · apply tame_authenticateLineage_iff.mpr
        rintro ⟨rootId, escapes⟩
        exact passes ⟨root, rest, owner, anchor, rfl, bound, shape, isOwner, isRequired,
          isAnchor, rootId, escapes⟩
      · exact fun authenticated accepted => afterLineage owner anchor authenticated accepted

theorem tame_bindLineageIn_iff :
    Tame (bindLineageIn registries intent trusted lineage issuerKeys verifier context) ↔
      ¬ AdmissionEscapes registries intent trusted lineage context := by
  cases isLast : lineage.getLast? with
  | none =>
    obtain rfl := List.getLast?_eq_none_iff.mp isLast
    constructor
    · rintro _ ⟨_, _, _, _, absurdity, -⟩
      exact nomatch absurdity
    · exact fun _ => (tame_bindTrustedState _ _).bind fun _ => .error rfl
  | some leaf =>
    have afterState : Tame (admitLineageIn registries lineage issuerKeys verifier context >>=
        fun admitted => bindLeaf leaf admitted intent >>= fun _ => pure (admitted, leaf)) ↔
        Tame (admitLineageIn registries lineage issuerKeys verifier context) := by
      apply OnlyRaises.bind_iff_left
      intro admitted accepted
      have leafValid := valid_of_admitLineageIn accepted leaf (List.mem_of_getLast? isLast)
      exact (tame_bindLeaf leafValid _ _).bind fun _ => .ok _
    rw [bindLineageIn, isLast, tame_bind_iff_of (tame_bindTrustedState _ _)]
    simp only [afterState]
    constructor
    · rintro tame ⟨root, rest, owner, anchor, rfl, escapes⟩
      exact (tame_admitLineageIn_iff escapes.bound).mp (tame () escapes.bound)
        ⟨root, rest, owner, anchor, rfl, escapes⟩
    · exact fun passes _ bound => (tame_admitLineageIn_iff bound).mpr passes

/-! ### Calls that raise -/

theorem exists_denyCaught_iff (valid : intent.validate = .ok ())
    (admissionOk : boundedText mergeError 512 (py "admission_id") admissionId = .ok ())
    (error : PyError) :
    (∃ decision, denyCaught intent admissionId error = .ok decision) ↔
      isDeniable error = true := by
  unfold denyCaught
  rw [isDeniable, Bool.and_eq_true,
    ← isRationale_rationaleOf (rfl : isRationale (py "merge admission failed closed") = true),
    ← exists_deny_iff valid admissionOk]
  by_cases denied : isDenied error = true
  · simp [denied]
  · simp [denied]

theorem exists_nonConsumingHandler_iff (valid : intent.validate = .ok ())
    (admissionOk : boundedText mergeError 512 (py "admission_id") admissionId = .ok ())
    (error : PyError) :
    (∃ result, denyNonConsuming intent admissionId
      (rationaleOf error (py "non-consuming merge admission failed closed")) = .ok result) ↔
      isReportable error = true := by
  rw [exists_denyNonConsuming_iff valid admissionOk]
  exact isRationale_rationaleOf rfl

theorem tame_runAlone_consumeAuthority (key : ConsumptionKey) (lineageDigest : PyStr)
    (world : MergeWorld) :
    Tame (PyProg.runAlone (consumeAuthority key lineageDigest) world).2 := by
  simp only [consumeAuthority, Tame, PyProg.onlyRaises_runAlone_bind, PyProg.runAlone_lift,
    PyProg.runAlone_transact]
  refine ⟨tame_boundedText rfl, fun _ _ _ => ⟨tame_boundedText rfl, fun _ _ _ =>
    ⟨tame_boundedText rfl, fun _ _ _ => ⟨tame_raiseIf rfl, fun found _ _ => ?_⟩⟩⟩⟩
  unfold consumeKey
  split
  · exact .error rfl
  · exact .ok _

theorem leaf_valid_of_bindLineageIn {admitted : EpochAdmittedAuthorityLineage}
    {leaf : AuthorityGrant}
    (bound : bindLineageIn registries intent trusted lineage issuerKeys verifier context =
      .ok (admitted, leaf)) : leaf.validate = .ok () := by
  simp only [bindLineageIn, bind_eq_ok] at bound
  obtain ⟨_, -, bound⟩ := bound
  split at bound
  · exact nomatch bound
  · simp only [bindLeaf, bind_eq_ok, pure_eq_ok] at bound
    obtain ⟨_, -, _, ⟨_, leafValid, -⟩, same⟩ := bound
    rw [← (Prod.mk.inj same).2]
    exact leafValid

theorem tame_runAlone_admitConsuming_iff (valid : intent.validate = .ok ())
    (admissionOk : boundedText mergeError 512 (py "admission_id") admissionId = .ok ())
    {world : MergeWorld} :
    Tame (PyProg.runAlone (admitConsuming intent trusted lineage issuerKeys verifier context
        admissionId) world).2 ↔
      ¬ AdmissionEscapes world.registries intent trusted lineage context := by
  have bound := runAlone_onRegistries (views_authenticateAndBind intent trusted lineage
    issuerKeys verifier context) world
  rw [admitConsuming, Tame, PyProg.onlyRaises_runAlone_bind, bound]
  rw [← tame_bindLineageIn_iff, and_iff_left_iff_imp]
  rintro _ middle ⟨admitted, leaf⟩ isBound
  have leafValid := leaf_valid_of_bindLineageIn (Prod.mk.inj isBound).2
  rw [PyProg.onlyRaises_runAlone_bind, PyProg.runAlone_lift]
  refine ⟨tame_digest leafValid, ?_⟩
  intro _ digest digested
  rw [PyProg.onlyRaises_runAlone_bind]
  refine ⟨tame_runAlone_consumeAuthority _ _ _, ?_⟩
  intro after _ consumed
  obtain ⟨consumable, -, -⟩ := runAlone_consumeAuthority.mp consumed
  rw [PyProg.runAlone_lift, allowMerge_of_consumed valid admissionOk
    (ne_nil_of_bounded consumable.grantId) (ne_nil_of_bounded consumable.grantDigest)
    (ne_nil_of_bounded consumable.lineageDigest) consumable.epoch]
  exact .ok _

/-! ### Records that escape -/

theorem reportable_of_deniable (error : PyError) (deniable : isDeniable error = true) :
    isReportable error = true := by
  rw [isDeniable, Bool.and_eq_true] at deniable
  exact deniable.2

abbrev Reports {α : Type} (computation : Except PyError α) : Prop :=
  OnlyRaises (fun error => isReportable error = true) computation

theorem plain_of_tame {α : Type} {computation : Except PyError α} (tame : Tame computation) :
    Reports computation :=
  tame.imp reportable_of_deniable

theorem plain_bind_iff_left {α β : Type} {first : Except PyError α} {next : α → Except PyError β}
    (rest : ∀ value, first = .ok value → Reports (next value)) :
    Reports (first >>= next) ↔ Reports first :=
  OnlyRaises.bind_iff_left rest

theorem plain_bind_iff_of {α β : Type} {first : Except PyError α} {next : α → Except PyError β}
    (tame : Tame first) :
    Reports (first >>= next) ↔ ∀ value, first = .ok value → Reports (next value) :=
  OnlyRaises.bind_iff_of (plain_of_tame tame)

theorem tame_lookupKey (key : AuthorityLookupKey) : Tame key.validate :=
  (tame_boundedText rfl).bind fun _ => (tame_raiseIf rfl).bind fun _ =>
    (tame_gitSha rfl rfl).bind fun _ => (tame_gitSha rfl rfl).bind fun _ =>
      (tame_boundedText rfl).bind fun _ => tame_boundedText rfl

theorem plain_validateRecordHops_iff {missionId : PyStr} {previous : Option AuthorityGrant}
    {lineage : List AuthorityGrant} :
    Reports (validateRecordHops missionId previous lineage) ↔
      ¬ RecordHopsEscape missionId previous lineage := by
  induction lineage generalizing previous with
  | nil =>
    constructor
    · exact fun _ escapes => escapes
    · exact fun _ => .ok _
  | cons grant rest ih =>
    have parent : Tame (validateParent previous grant) := by
      cases previous with
      | none => exact tame_raiseIf rfl
      | some parent => exact tame_raiseIf rfl
    have afterGrant : Reports (do
        raiseIf (grant.missionId ≠ missionId)
          (sourceError (py "lineage mission_id does not match lookup key"))
        validateParent previous grant
        validateRecordHops missionId (some grant) rest) ↔
        (grant.missionId = missionId → validateParent previous grant = .ok () →
          ¬ RecordHopsEscape missionId (some grant) rest) := by
      rw [plain_bind_iff_of (tame_raiseIf rfl)]
      simp only [plain_bind_iff_of parent, raiseIf_eq_ok, ne_eq, not_not, ih]
      exact ⟨fun all mission hop => all () mission () hop, fun all _ mission _ hop =>
        all mission hop⟩
    have parts : Reports (validateRecordHops missionId previous (grant :: rest)) ↔
        ¬ GrantEscapes isReportable grant ∧ (grant.validate = .ok () →
          grant.missionId = missionId → validateParent previous grant = .ok () →
          ¬ RecordHopsEscape missionId (some grant) rest) := by
      rw [validateRecordHops, Reports, OnlyRaises.bind_iff,
        onlyRaises_validate reportable_of_deniable]
      apply and_congr_right
      intro _
      rw [← afterGrant]
      exact ⟨fun all => all (), fun all _ => all⟩
    rw [parts, RecordHopsEscape]
    push Not
    rfl

theorem tame_canonicalSourceLineageDigest {lineage : List AuthorityGrant}
    (valid : ∀ grant ∈ lineage, grant.validate = .ok ()) :
    Tame (canonicalSourceLineageDigest lineage) := by
  apply (tame_raiseIf rfl).bind
  intro _
  apply OnlyRaises.bind
  · apply OnlyRaises.mapM
    intro grant member
    have grantValid := valid grant member
    exact (tame_of_eq_ok grantValid).bind fun _ => tame_digest grantValid
  · exact fun _ => (tame_encodeUtf8 _).bind fun _ => .ok _

theorem tame_validateLeaf {record : AuthorityLineageRecord} (leaf : AuthorityGrant)
    (valid : ∀ grant ∈ record.lineage, grant.validate = .ok ()) :
    Tame (record.validateLeaf leaf) := by
  have resource : Tame (canonicalPrAuthorityResource record.lookupKey) :=
    (tame_lookupKey _).bind fun _ => (tame_formatInt _).bind fun _ => .ok _
  exact (tame_raiseIf rfl).bind fun _ => resource.bind fun _ => (tame_raiseIf rfl).bind fun _ =>
    (tame_canonicalSourceLineageDigest valid).bind fun _ => tame_raiseIf rfl

theorem plain_validateRecord_iff {record : AuthorityLineageRecord} :
    Reports record.validate ↔ ¬ RecordEscapes record := by
  cases isLast : record.lineage.getLast? with
  | none =>
    have empty := List.getLast?_eq_none_iff.mp isLast
    rw [AuthorityLineageRecord.validate, isLast]
    constructor
    · intro _ escapes
      have later := escapes.escapes
      rw [empty] at later
      exact later
    · exact fun _ => plain_of_tame ((tame_lookupKey _).bind fun _ => .error rfl)
  | some leaf =>
    have afterHops : Reports (validateRecordHops record.lookupKey.missionId none record.lineage >>=
        fun _ => record.validateLeaf leaf) ↔
        ¬ RecordHopsEscape record.lookupKey.missionId none record.lineage := by
      rw [← plain_validateRecordHops_iff]
      apply plain_bind_iff_left
      intro _ hops
      exact plain_of_tame (tame_validateLeaf leaf fun grant member =>
        (validate_of_validateRecordHops hops grant member).1)
    rw [AuthorityLineageRecord.validate, isLast, plain_bind_iff_of (tame_lookupKey _)]
    simp only [plain_bind_iff_of (tame_raiseIf (rfl : isDeniable (sourceError
        (py "authority source must be trusted-control-plane")) = true)),
      plain_bind_iff_of (tame_raiseIf (rfl : isDeniable (sourceError
        (py "provenance_id is invalid")) = true)),
      plain_bind_iff_of (tame_raiseIf (rfl : isDeniable (sourceError
        (py "lineage_digest must be canonical sha256 hex")) = true)),
      afterHops, raiseIf_eq_ok, ne_eq, not_not]
    constructor
    · intro passes escapes
      exact passes () escapes.key () escapes.source () escapes.provenance () escapes.digest
        escapes.escapes
    · intro passes _ key _ source _ provenance _ digest escapes
      exact passes ⟨key, source, provenance, digest, escapes⟩

theorem plain_resolveExact_iff {backend : AuthorityBackend} {key : AuthorityLookupKey}
    (keyOk : key.validate = .ok ()) :
    Reports (resolveExact backend key) ↔
      ¬ ((∃ error, backend key = .error error ∧ isReportable error = false) ∨
        ∃ record, backend key = .ok [record] ∧ RecordEscapes record) := by
  rw [resolveExact, keyOk, ok_bind]
  cases answered : backend key with
  | error error =>
    simp only [error_bind, Except.error.injEq, reduceCtorEq, false_and, exists_false, or_false,
      exists_eq_left', Bool.not_eq_false]
    exact ⟨fun raises => raises error rfl, fun reportable => .error reportable⟩
  | ok candidates =>
    rw [ok_bind]
    rcases candidates with _ | ⟨record, _ | ⟨other, rest⟩⟩
    · simpa using plain_of_tame (.error rfl)
    · have found : Reports (do
          record.validate
          raiseIf (record.lookupKey ≠ key)
            (sourceError (py "authority source record does not match exact lookup key"))
          return record) ↔ ¬ RecordEscapes record := by
        rw [← plain_validateRecord_iff]
        apply plain_bind_iff_left
        exact fun _ _ => plain_of_tame ((tame_raiseIf rfl).bind fun _ => .ok _)
      simpa using found
    · simpa using plain_of_tame (.error rfl)

theorem not_grantEscapes_of_validate {grant : AuthorityGrant} (valid : grant.validate = .ok ()) :
    ¬ GrantEscapes isDeniable grant :=
  (tame_validate_iff grant).mp (tame_of_eq_ok valid)

theorem not_hopsEscape_of_validate {root : AuthorityGrant}
    (valid : ∀ grant ∈ rest, grant.validate = .ok ()) : ¬ HopsEscape root rest := by
  induction rest generalizing root with
  | nil => exact id
  | cons child rest ih =>
    rw [List.forall_mem_cons] at valid
    rintro (escapes | ⟨-, later⟩)
    · exact not_grantEscapes_of_validate valid.1 escapes
    · exact ih valid.2 later

theorem not_admissionEscapes_of_validate (valid : ∀ grant ∈ lineage, grant.validate = .ok ()) :
    ¬ AdmissionEscapes registries intent trusted lineage context := by
  rintro ⟨root, rest, owner, anchor, rfl, escapes⟩
  rw [List.forall_mem_cons] at valid
  rcases escapes.escapes with first | ⟨-, later⟩
  · exact not_grantEscapes_of_validate valid.1 first
  · exact not_hopsEscape_of_validate valid.2 later

theorem not_admissionEscapes_of_resolveExact {backend : AuthorityBackend} {key : AuthorityLookupKey}
    {record : AuthorityLineageRecord} (resolved : resolveExact backend key = .ok record) :
    ¬ AdmissionEscapes registries intent trusted record.lineage context := by
  have recordOk : record.validate = .ok () := by
    simp only [resolveExact, bind_eq_ok] at resolved
    obtain ⟨_, -, candidates, -, resolved⟩ := resolved
    split at resolved
    · cases resolved
    · simp only [bind_eq_ok, pure_eq_ok] at resolved
      obtain ⟨_, recordOk, _, -, rfl⟩ := resolved
      exact recordOk
    · cases resolved
  obtain ⟨_, _, -, -, valid, -⟩ := AuthorityLineageRecord.exists_of_validate recordOk
  exact not_admissionEscapes_of_validate fun grant member => (valid grant member).1

theorem tame_evidence (evidence : NonConsumingMergeAdmissionEvidence) : Tame evidence.validate :=
  (tame_boundedText rfl).bind fun _ => (tame_intent _).bind fun _ =>
    (tame_boundedText rfl).bind fun _ => (tame_boundedText rfl).bind fun _ =>
      (tame_boundedText rfl).bind fun _ => (tame_boundedText rfl).bind fun _ =>
        (tame_boundedText rfl).bind fun _ => (tame_boundedText rfl).bind fun _ =>
          (tame_boundedText rfl).bind fun _ => (tame_raiseIf rfl).bind fun _ => tame_raiseIf rfl

theorem tame_allowNonConsuming (evidence : NonConsumingMergeAdmissionEvidence) :
    Tame (allowNonConsuming intent admissionId evidence) := by
  have validated : Tame (allowResult intent admissionId evidence).validate := by
    apply (tame_boundedText rfl).bind
    intro _
    apply (tame_boundedText rfl).bind
    intro _
    apply (tame_intent _).bind
    intro _
    exact (tame_evidence _).bind fun _ => tame_raiseIf rfl
  exact validated.bind fun _ => .ok _

theorem plain_admitNonConsumingIn_iff {backend : AuthorityBackend} {key : AuthorityLookupKey} :
    Reports (admitNonConsumingIn registries intent trusted backend key issuerKeys verifier context
        admissionId) ↔ ¬ SourceEscapes intent backend key context := by
  have keyBound : Tame (bindLookupKey intent key context) :=
    (tame_lookupKey _).bind fun _ => (tame_context _).bind fun _ => tame_raiseIf rfl
  rw [admitNonConsumingIn, plain_bind_iff_of keyBound]
  -- what follows the lookup is tame once a record is resolved
  refine Iff.trans (forall₂_congr fun _ _ => plain_bind_iff_left ?_) ?_
  · intro record resolved
    apply plain_of_tame
    apply (tame_bindLineageIn_iff.mpr (not_admissionEscapes_of_resolveExact resolved)).bind_of
    rintro ⟨admitted, leaf⟩ bound
    have leafValid := leaf_valid_of_bindLineageIn bound
    apply (tame_raiseIf rfl).bind
    intro _
    apply OnlyRaises.bind
    · exact (tame_digest leafValid).bind fun _ => (tame_evidence _).bind fun _ => .ok _
    · exact fun evidence => tame_allowNonConsuming evidence
  constructor
  · intro passes escapes
    have keyOk := escapes.bound
    simp only [bindLookupKey, bind_eq_ok] at keyOk
    obtain ⟨_, keyOk, -⟩ := keyOk
    exact (plain_resolveExact_iff keyOk).mp (passes () escapes.bound) escapes.escapes
  · intro passes _ bound
    have keyOk := bound
    simp only [bindLookupKey, bind_eq_ok] at keyOk
    obtain ⟨_, keyOk, -⟩ := keyOk
    apply (plain_resolveExact_iff keyOk).mpr
    exact fun escapes => passes ⟨bound, escapes⟩

theorem exists_admitMerge_iff {world : MergeWorld} (valid : intent.validate = .ok ())
    (admissionOk : boundedText mergeError 512 (py "admission_id") admissionId = .ok ()) :
    (∃ decision, (PyProg.runAlone (admitMerge intent trusted lineage issuerKeys verifier context
        admissionId) world).2 = .ok decision) ↔
      ¬ AdmissionEscapes world.registries intent trusted lineage context := by
  have body : PyProg.runAlone (admitMerge intent trusted lineage issuerKeys verifier context
      admissionId) world = PyProg.runAlone (PyProg.handle
        (admitConsuming intent trusted lineage issuerKeys verifier context admissionId)
        (denyCaught intent admissionId)) world := by
    rw [admitMerge, PyProg.runAlone_bind, PyProg.runAlone_lift, valid]
    dsimp only
    rw [PyProg.runAlone_bind, PyProg.runAlone_lift, admissionOk]
  rw [body, PyProg.exists_runAlone_handle_iff (exists_denyCaught_iff valid admissionOk)]
  exact tame_runAlone_admitConsuming_iff valid admissionOk

theorem exists_admitMergeNonConsuming_iff {backend : AuthorityBackend} {key : AuthorityLookupKey}
    (valid : intent.validate = .ok ())
    (admissionOk : boundedText mergeError 512 (py "admission_id") admissionId = .ok ()) :
    (∃ result, (PyProg.runAlone (admitMergeNonConsuming intent trusted backend key issuerKeys
        verifier context admissionId) registries).2 = .ok result) ↔
      ¬ SourceEscapes intent backend key context := by
  have body : PyProg.runAlone (admitMergeNonConsuming intent trusted backend key
      issuerKeys verifier context admissionId) registries = PyProg.runAlone (PyProg.handle
        (admitNonConsuming intent trusted backend key issuerKeys verifier context admissionId)
        fun error => denyNonConsuming intent admissionId
          (rationaleOf error (py "non-consuming merge admission failed closed")))
        registries := by
    rw [admitMergeNonConsuming, PyProg.runAlone_bind, PyProg.runAlone_lift, valid]
    dsimp only
    rw [PyProg.runAlone_bind, PyProg.runAlone_lift, admissionOk]
  rw [body, PyProg.exists_runAlone_handle_iff (exists_nonConsumingHandler_iff valid admissionOk),
    views_admitNonConsuming intent trusted backend key issuerKeys verifier context admissionId
      registries]
  exact plain_admitNonConsumingIn_iff

/-- Each of the two admissions returns a decision exactly when nothing escapes. -/
theorem admitMerge_returns_iff {world : MergeWorld} {backend : AuthorityBackend}
    {key : AuthorityLookupKey} (valid : intent.validate = .ok ())
    (admissionOk : boundedText mergeError 512 (py "admission_id") admissionId = .ok ()) :
    ((∃ decision, (PyProg.runAlone (admitMerge intent trusted lineage issuerKeys verifier context
        admissionId) world).2 = .ok decision) ↔
      ¬ AdmissionEscapes world.registries intent trusted lineage context) ∧
    ((∃ result, (PyProg.runAlone (admitMergeNonConsuming intent trusted backend key issuerKeys
        verifier context admissionId) world.registries).2 = .ok result) ↔
      ¬ SourceEscapes intent backend key context) :=
  ⟨exists_admitMerge_iff valid admissionOk, exists_admitMergeNonConsuming_iff valid admissionOk⟩

theorem admitMerge_returns_survey :
    (∃ decision, (PyProg.runAlone (admitMerge surveyIntent ⟨surveyIntent⟩
      [surveyRoot, surveyLeaf] (.ok surveyKeys) acceptingVerifier surveyContext (py "merge-1"))
      ⟨surveyRegistries (py "root") (py "other"), []⟩).2 = .ok decision) ∧
    ∃ result, (PyProg.runAlone (admitMergeNonConsuming surveyIntent ⟨surveyIntent⟩
      (fun _ => .ok []) (surveyKey (py "leaf")) (.ok surveyKeys) acceptingVerifier surveyContext
      (py "merge-1")) (surveyRegistries (py "root") (py "other"))).2 = .ok result := by
  have valid : ∀ grant ∈ [surveyRoot, surveyLeaf], grant.validate = .ok () := by
    simp only [List.forall_mem_cons]
    exact ⟨rfl, rfl, by simp⟩
  obtain ⟨consuming, nonConsuming⟩ := @admitMerge_returns_iff surveyIntent ⟨surveyIntent⟩
    [surveyRoot, surveyLeaf] (.ok surveyKeys) acceptingVerifier surveyContext (py "merge-1")
    ⟨surveyRegistries (py "root") (py "other"), []⟩ (fun _ => .ok []) (surveyKey (py "leaf")) rfl
    rfl
  refine ⟨consuming.mpr (not_admissionEscapes_of_validate valid), nonConsuming.mpr ?_⟩
  rintro ⟨-, ⟨_, absurdity, -⟩ | ⟨_, absurdity, -⟩⟩
  · exact nomatch absurdity
  · exact nomatch absurdity

def ancientRoot : AuthorityGrant :=
  { surveyRoot with issuedAt := py "0001-01-01T00:00:00+01:00" }

def wordyRoot : AuthorityGrant :=
  { surveyRoot with authorityCeiling := List.replicate 1025 0x78 }

theorem grantEscapes_ancientRoot : GrantEscapes isDeniable ancientRoot := by
  have known : AuthorityClass.ofText ancientRoot.authorityCeiling ≠ none := by decide
  have early : DateTime.ofMicroseconds (86400000000 - 3600000000) =
      .error DateTime.outOfRangeError := rfl
  have beyond : IsBeyondUtc ancientRoot.issuedAt :=
    ⟨⟨1, 1, 1, 0, 0, 0, 0, rfl⟩, 3600000000, by decide +kernel, early⟩
  have head : ancientRoot.validateHead = .ok () := eq_ok_of_returned (by decide +kernel)
  exact ⟨head, .inr ⟨known, rfl, rfl, .inl beyond⟩⟩

theorem grantEscapes_wordyRoot : GrantEscapes isReportable wordyRoot :=
  ⟨eq_ok_of_returned (by decide +kernel), .inl ⟨by decide +kernel, by decide +kernel⟩⟩

/-- An hour before the first year and a long class name make the admissions
raise. -/
theorem admitMerge_raises :
    (¬ ∃ decision, (PyProg.runAlone (admitMerge surveyIntent ⟨surveyIntent⟩ [ancientRoot]
      (.ok surveyKeys) acceptingVerifier surveyContext (py "merge-1"))
      ⟨surveyRegistries (py "root") (py "digest"), []⟩).2 = .ok decision) ∧
    ¬ ∃ result, (PyProg.runAlone (admitMergeNonConsuming surveyIntent ⟨surveyIntent⟩
      (fun _ => .ok [surveyRecord [wordyRoot] (py "root") (List.replicate 64 0x61)])
      (surveyKey (py "root")) (.ok surveyKeys) acceptingVerifier surveyContext (py "ci-1"))
      (surveyRegistries (py "root") (py "digest"))).2 = .ok result := by
  constructor
  · rw [exists_admitMerge_iff rfl rfl, not_not]
    exact ⟨ancientRoot, [], 0, ⟨py "root", py "digest"⟩, rfl, rfl, rfl, rfl, rfl, rfl, rfl,
      .inl grantEscapes_ancientRoot⟩
  · rw [exists_admitMergeNonConsuming_iff rfl rfl, not_not]
    exact ⟨rfl, .inr ⟨_, rfl, rfl, rfl, rfl, rfl, .inl grantEscapes_wordyRoot⟩⟩

end CyberLion
