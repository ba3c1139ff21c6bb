import CyberLion.AuthorityVerification

/-!
# The authority source

`enterprise/authority_source.py` for pull requests: the lookup key, the record
of a lineage and the exact lookup.  The backend is outside the repository; it
answers with any records, or raises.
-/

namespace CyberLion

open PyLib

def authoritySourceErrorClass : ErrorClass :=
  .declared .valueError (py "AuthoritySourceError")

/-- `AuthoritySourceError(message)`. -/
def sourceError (message : PyStr) : PyError :=
  ⟨authoritySourceErrorClass, message⟩

/-- `f"{number}"`. -/
def formatInt (number : Int) : Except PyError PyStr :=
  if Json.isPrintableInt number then .ok (intText number) else .error Json.intLimitError

/-- `_sha` of the modules that check git object names. -/
def gitSha (raised : PyStr → PyError) (name value : PyStr) : Except PyError Unit := do
  boundedText raised 40 name value
  raiseIf (¬ isLowerHexOf 40 value = true)
    (raised (name ++ py " must be a full lowercase git SHA"))

/-! ### Lookup keys -/

structure AuthorityLookupKey where
  repository : PyStr
  prNumber : Int
  baseSha : PyStr
  headSha : PyStr
  missionId : PyStr
  grantId : PyStr
  deriving DecidableEq

namespace AuthorityLookupKey

def validate (key : AuthorityLookupKey) : Except PyError Unit := do
  boundedText sourceError 512 (py "repository") key.repository
  raiseIf (key.prNumber ≤ 0) (sourceError (py "pr_number must be a positive integer"))
  gitSha sourceError (py "base_sha") key.baseSha
  gitSha sourceError (py "head_sha") key.headSha
  boundedText sourceError 512 (py "mission_id") key.missionId
  boundedText sourceError 512 (py "grant_id") key.grantId

end AuthorityLookupKey

def pullRequestResource (repository : PyStr) (prNumber : Int) (baseSha headSha : PyStr) :
    Except PyError PyStr := do
  let number ← formatInt prNumber
  return py "github:repo:" ++ repository ++ py ":pr:" ++ number ++ py ":base:" ++ baseSha ++
    py ":head:" ++ headSha

def canonicalPrAuthorityResource (key : AuthorityLookupKey) : Except PyError PyStr := do
  key.validate
  pullRequestResource key.repository key.prNumber key.baseSha key.headSha

/-! ### Records -/

def canonicalSourceLineageDigest (lineage : List AuthorityGrant) : Except PyError PyStr := do
  raiseIf (lineage = [])
    (sourceError (py "authority lineage must be a non-empty immutable tuple"))
  let digests ← lineage.mapM fun grant => do
    grant.validate
    grant.digest
  let payload ← encodeUtf8 (py "CYBER-LION/AUTHORITY-SOURCE-LINEAGE/1.0.0\x00" ++
    digests.flatMap fun digest => digest ++ py "\x00")
  return sha256 payload

def isProvenanceChar (c : CodePoint) : Bool :=
  c.isAsciiLetter || c.isAsciiDigit || (py "._:/-").contains c

/-- `_PROVENANCE_RE` matches the whole text: a letter or digit, and at most 511
characters of its longer class. -/
def isProvenanceId : PyStr → Bool
  | [] => false
  | first :: rest => (first.isAsciiLetter || first.isAsciiDigit) && rest.length ≤ 511 &&
      rest.all isProvenanceChar

structure AuthorityLineageRecord where
  lookupKey : AuthorityLookupKey
  lineage : List AuthorityGrant
  lineageDigest : PyStr
  provenanceId : PyStr
  sourceKind : PyStr
  deriving DecidableEq

/-- The check of the parent of a grant against the grant before it. -/
def validateParent (previous : Option AuthorityGrant) (grant : AuthorityGrant) :
    Except PyError Unit :=
  match previous with
  | none => raiseIf (grant.parentGrantId ≠ none)
      (sourceError (py "lineage root must not declare a parent grant"))
  | some parent => raiseIf (grant.parentGrantId ≠ some parent.grantId)
      (sourceError (py "lineage parent chain is not contiguous"))

/-- The loop over the lineage of a record, with the grant before. -/
def validateRecordHops (missionId : PyStr) :
    Option AuthorityGrant → List AuthorityGrant → Except PyError Unit
  | _, [] => .ok ()
  | previous, grant :: rest => do
    grant.validate
    raiseIf (grant.missionId ≠ missionId)
      (sourceError (py "lineage mission_id does not match lookup key"))
    validateParent previous grant
    validateRecordHops missionId (some grant) rest

namespace AuthorityLineageRecord

def validateLeaf (record : AuthorityLineageRecord) (leaf : AuthorityGrant) :
    Except PyError Unit := do
  raiseIf (leaf.grantId ≠ record.lookupKey.grantId)
    (sourceError (py "lineage leaf does not match lookup grant_id"))
  let resource ← canonicalPrAuthorityResource record.lookupKey
  raiseIf (resource ∉ leaf.resourceScope)
    (sourceError (py "lineage leaf does not bind exact PR resource"))
  let digest ← canonicalSourceLineageDigest record.lineage
  raiseIf (record.lineageDigest ≠ digest)
    (sourceError (py "lineage_digest does not match immutable lineage"))

def validate (record : AuthorityLineageRecord) : Except PyError Unit := do
  record.lookupKey.validate
  match record.lineage.getLast? with
  | none => .error (sourceError (py "lineage must be a non-empty immutable tuple"))
  | some leaf => do
    raiseIf (record.sourceKind ≠ py "trusted-control-plane")
      (sourceError (py "authority source must be trusted-control-plane"))
    raiseIf (¬ isProvenanceId record.provenanceId = true)
      (sourceError (py "provenance_id is invalid"))
    raiseIf (¬ isLowerHexOf 64 record.lineageDigest = true)
      (sourceError (py "lineage_digest must be canonical sha256 hex"))
    validateRecordHops record.lookupKey.missionId none record.lineage
    record.validateLeaf leaf

end AuthorityLineageRecord

abbrev AuthorityBackend := AuthorityLookupKey → Except PyError (List AuthorityLineageRecord)

def resolveExact (backend : AuthorityBackend) (key : AuthorityLookupKey) :
    Except PyError AuthorityLineageRecord := do
  key.validate
  let candidates ← backend key
  match candidates with
  | [] => .error (sourceError (py "authority lineage not found"))
  | [record] => do
    record.validate
    raiseIf (record.lookupKey ≠ key)
      (sourceError (py "authority source record does not match exact lookup key"))
    return record
  | _ => .error (sourceError (py "authority lineage lookup is ambiguous"))

/-! ### What a valid record says -/

theorem validate_of_validateRecordHops {missionId : PyStr} {lineage : List AuthorityGrant}
    {previous : Option AuthorityGrant}
    (valid : validateRecordHops missionId previous lineage = .ok ()) :
    ∀ grant ∈ lineage, grant.validate = .ok () ∧ grant.missionId = missionId := by
  induction lineage generalizing previous with
  | nil => simp
  | cons grant rest ih =>
    simp only [validateRecordHops, bind_eq_ok, raiseIf_eq_ok, ne_eq, not_not] at valid
    obtain ⟨_, grantValid, _, sameMission, _, -, restValid⟩ := valid
    rw [List.forall_mem_cons]
    exact ⟨⟨grantValid, sameMission⟩, ih restValid⟩

/-- The lineage of a valid record is not empty, its grants are valid, its root
has no parent and its leaf is the grant of the key. -/
theorem AuthorityLineageRecord.exists_of_validate {record : AuthorityLineageRecord}
    (valid : record.validate = .ok ()) :
    ∃ root rest, record.lineage = root :: rest ∧ root.parentGrantId = none ∧
      (∀ grant ∈ record.lineage,
        grant.validate = .ok () ∧ grant.missionId = record.lookupKey.missionId) ∧
      ∃ leaf, record.lineage.getLast? = some leaf ∧ record.validateLeaf leaf = .ok () := by
  simp only [validate, bind_eq_ok] at valid
  obtain ⟨_, -, rest⟩ := valid
  split at rest
  · exact absurd rest (by simp)
  · rename_i leaf isLeaf
    simp only [bind_eq_ok] at rest
    obtain ⟨_, -, _, -, _, -, _, hops, leafValid⟩ := rest
    have all := validate_of_validateRecordHops hops
    cases shape : record.lineage with
    | nil => simp [shape] at isLeaf
    | cons root others =>
      rw [shape] at hops all isLeaf
      simp only [validateRecordHops, validateParent, bind_eq_ok, raiseIf_eq_ok, ne_eq,
        not_not] at hops
      obtain ⟨_, -, _, -, _, noParent, -⟩ := hops
      exact ⟨root, others, rfl, noParent, all, leaf, isLeaf, leafValid⟩

end CyberLion
