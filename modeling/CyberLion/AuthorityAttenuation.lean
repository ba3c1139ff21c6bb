import CyberLion.AuthorityGrant
import CyberLion.JsonAscii

/-!
# Delegation only attenuates

What one accepted delegation says about parent and child, and that the
relation between their authorities is a preorder.  So the last grant of a
lineage is contained in the first, and a lineage is no longer than the budget
of its root allows.
-/

namespace CyberLion

open PyLib

namespace AuthorityClass

theorem mem_contains_self (cls : AuthorityClass) : cls ∈ cls.contains := by
  cases cls <;> decide

theorem contains_trans {upper middle lower : AuthorityClass} (first : middle ∈ upper.contains)
    (second : lower ∈ middle.contains) : lower ∈ upper.contains := by
  cases upper <;> cases middle <;> first
    | exact absurd first (by decide)
    | (cases lower <;> first | decide | exact absurd second (by decide))

end AuthorityClass

/-! ### Valid grants -/

/-- What later checks use of a grant that passed `validate`. -/
structure AuthorityGrant.Valid (grant : AuthorityGrant) : Prop where
  schema : grant.schemaVersion ∈ [py "1.0.0", py "1.1.0"]
  required : ∀ value ∈ grant.required, isBlank value = false
  ceiling : ∃ cls, AuthorityClass.ofText grant.authorityCeiling = some cls
  epoch : 0 ≤ grant.epoch
  budget : 0 ≤ grant.delegationDepthBudget
  window : ∃ issued expires, grantUtc grant.issuedAt = .ok issued ∧
    grantUtc grant.expiresAt = .ok expires ∧ issued.packed < expires.packed

theorem exists_ofText_of_authorityRank {value : PyStr} {rank : Nat}
    (ranked : authorityRank value = .ok rank) : ∃ cls, AuthorityClass.ofText value = some cls := by
  unfold authorityRank at ranked
  split at ranked
  · rename_i cls found
    exact ⟨cls, found⟩
  · exact absurd ranked (by simp)

theorem AuthorityGrant.valid_of_validate {grant : AuthorityGrant}
    (valid : grant.validate = .ok ()) : grant.Valid := by
  simp only [validate, validateWindow, bind_eq_ok, raiseIf_eq_ok, not_or, not_exists, not_and,
    not_not, Bool.not_eq_true, not_lt] at valid
  obtain ⟨_, ⟨schema, required⟩, _, -, _, -, _, -, _, -, _, ranked, _, epoch, _, budget, _, -, _,
    ⟨issued, issuedEq, expires, expiresEq, ordered⟩, -⟩ := valid
  exact ⟨schema, required, exists_ofText_of_authorityRank ranked, epoch, budget,
    issued, expires, issuedEq, expiresEq, not_le.mp ordered⟩

theorem floatless_payload (grant : AuthorityGrant) :
    Json.Floatless (.obj grant.payloadFields) := by
  have texts : ∀ values, Json.Floatless (AuthorityGrant.textList values) := by
    intro values
    apply Json.Floatless.arr
    intro item member
    obtain ⟨value, -, rfl⟩ := List.mem_map.mp member
    exact .str value
  have parent : Json.Floatless (grant.parentGrantId.elim .null Json.str) := by
    cases grant.parentGrantId with
    | none => exact .null
    | some parentId => exact .str parentId
  apply Json.Floatless.obj
  rw [AuthorityGrant.payloadFields, List.forall_mem_append]
  refine ⟨by simp [texts, parent], ?_⟩
  split <;> simp

theorem AuthorityGrant.exists_digest {grant : AuthorityGrant} (valid : grant.validate = .ok ())
    (printable : (Json.obj grant.payloadFields).isPrintable = true)
    (encodable : isEncodable grant.signature = true) : ∃ digest, grant.digest = .ok digest := by
  obtain ⟨text, bytes, written, encoded⟩ :=
    Json.exists_encodeUtf8_dumps (floatless_payload grant) printable true
  have signature : encodeUtf8 grant.signature = .ok ⟨grant.signature, encodable⟩ :=
    encodeUtf8_eq_ok.mpr rfl
  refine ⟨sha256 ((bytes.append dot).append ⟨grant.signature, encodable⟩), ?_⟩
  rw [digest, canonicalPayload, valid, ok_bind, written, ok_bind, encoded, ok_bind, signature,
    ok_bind]
  rfl

theorem AuthorityGrant.validate_of_digest {grant : AuthorityGrant} {digest : PyStr}
    (digested : grant.digest = .ok digest) : grant.validate = .ok () := by
  simp only [AuthorityGrant.digest, canonicalPayload, bind_eq_ok] at digested
  obtain ⟨_, ⟨_, valid, -⟩, -⟩ := digested
  exact valid

theorem AuthorityGrant.isLowerHexOf_digest {grant : AuthorityGrant} {digest : PyStr}
    (digested : grant.digest = .ok digest) : isLowerHexOf 64 digest = true := by
  simp only [AuthorityGrant.digest, bind_eq_ok, pure_eq_ok] at digested
  obtain ⟨_, -, _, -, rfl⟩ := digested
  exact isLowerHexOf_sha256 _

/-! ### Containment -/

/-- The authority of one grant lies inside the authority of another. -/
structure Contained (child parent : AuthorityGrant) : Prop where
  actions : child.actions ⊆ parent.actions
  resourceScope : child.resourceScope ⊆ parent.resourceScope
  constraints : parent.constraints ⊆ child.constraints
  ceiling : ∃ parentClass childClass,
    AuthorityClass.ofText parent.authorityCeiling = some parentClass ∧
    AuthorityClass.ofText child.authorityCeiling = some childClass ∧
    childClass ∈ parentClass.contains
  issued : ∃ parentIssued childIssued, grantUtc parent.issuedAt = .ok parentIssued ∧
    grantUtc child.issuedAt = .ok childIssued ∧ parentIssued.packed ≤ childIssued.packed
  expires : ∃ parentExpires childExpires, grantUtc parent.expiresAt = .ok parentExpires ∧
    grantUtc child.expiresAt = .ok childExpires ∧ childExpires.packed ≤ parentExpires.packed
  tenantId : child.tenantId = parent.tenantId
  organizationId : child.organizationId = parent.organizationId
  missionId : child.missionId = parent.missionId
  capabilityId : child.capabilityId = parent.capabilityId
  capabilityVersion : child.capabilityVersion = parent.capabilityVersion
  epoch : child.epoch = parent.epoch
  policyDigest : child.policyDigest = parent.policyDigest
  observabilityContractDigest :
    child.observabilityContractDigest = parent.observabilityContractDigest

theorem Contained.refl {grant : AuthorityGrant} (valid : grant.Valid) : Contained grant grant := by
  obtain ⟨cls, known⟩ := valid.ceiling
  obtain ⟨issued, expires, issuedEq, expiresEq, -⟩ := valid.window
  exact ⟨List.Subset.refl _, List.Subset.refl _, List.Subset.refl _,
    ⟨cls, cls, known, known, cls.mem_contains_self⟩, ⟨issued, issued, issuedEq, issuedEq, le_rfl⟩,
    ⟨expires, expires, expiresEq, expiresEq, le_rfl⟩, rfl, rfl, rfl, rfl, rfl, rfl, rfl, rfl⟩

theorem Contained.trans {lower middle upper : AuthorityGrant} (second : Contained lower middle)
    (first : Contained middle upper) : Contained lower upper where
  actions := List.Subset.trans second.actions first.actions
  resourceScope := List.Subset.trans second.resourceScope first.resourceScope
  constraints := List.Subset.trans first.constraints second.constraints
  ceiling := by
    obtain ⟨upperClass, middleClass, upperEq, middleEq, inside⟩ := first.ceiling
    obtain ⟨sameClass, lowerClass, sameEq, lowerEq, deeper⟩ := second.ceiling
    obtain rfl : middleClass = sameClass := Option.some.inj (middleEq.symm.trans sameEq)
    exact ⟨upperClass, lowerClass, upperEq, lowerEq, AuthorityClass.contains_trans inside deeper⟩
  issued := by
    obtain ⟨upperTime, middleTime, upperEq, middleEq, later⟩ := first.issued
    obtain ⟨sameTime, lowerTime, sameEq, lowerEq, latest⟩ := second.issued
    obtain rfl : middleTime = sameTime := Except.ok.inj (middleEq.symm.trans sameEq)
    exact ⟨upperTime, lowerTime, upperEq, lowerEq, later.trans latest⟩
  expires := by
    obtain ⟨upperTime, middleTime, upperEq, middleEq, sooner⟩ := first.expires
    obtain ⟨sameTime, lowerTime, sameEq, lowerEq, soonest⟩ := second.expires
    obtain rfl : middleTime = sameTime := Except.ok.inj (middleEq.symm.trans sameEq)
    exact ⟨upperTime, lowerTime, upperEq, lowerEq, soonest.trans sooner⟩
  tenantId := second.tenantId.trans first.tenantId
  organizationId := second.organizationId.trans first.organizationId
  missionId := second.missionId.trans first.missionId
  capabilityId := second.capabilityId.trans first.capabilityId
  capabilityVersion := second.capabilityVersion.trans first.capabilityVersion
  epoch := second.epoch.trans first.epoch
  policyDigest := second.policyDigest.trans first.policyDigest
  observabilityContractDigest :=
    second.observabilityContractDigest.trans first.observabilityContractDigest

/-! ### One delegation -/

/-- What `validate_attenuation` establishes. -/
structure Delegates (parent child : AuthorityGrant) : Prop where
  parentValid : parent.validate = .ok ()
  childValid : child.validate = .ok ()
  contained : Contained child parent
  differs : child.grantId ≠ parent.grantId
  parentGrantId : child.parentGrantId = some parent.grantId
  issuer : child.issuerSubjectId = parent.subjectId
  allowed : parent.delegationAllowed = true
  budget : child.delegationDepthBudget < parent.delegationDepthBudget

theorem exists_classes_of_validateAuthorityAttenuation {parent child : PyStr}
    (attenuated : validateAuthorityAttenuation parent child = .ok ()) :
    ∃ parentClass childClass, AuthorityClass.ofText parent = some parentClass ∧
      AuthorityClass.ofText child = some childClass ∧ childClass ∈ parentClass.contains := by
  unfold validateAuthorityAttenuation at attenuated
  split at attenuated
  · exact absurd attenuated (by simp)
  · exact absurd attenuated (by simp)
  · rename_i parentClass childClass parentEq childEq
    rw [raiseIf_eq_ok, not_not] at attenuated
    exact ⟨parentClass, childClass, parentEq, childEq, attenuated⟩

theorem delegates_of_validateAttenuation {parent child : AuthorityGrant}
    (attenuated : validateAttenuation parent child = .ok ()) : Delegates parent child := by
  simp only [validateAttenuation, validateExactBindings, exactBinding, validateWindowAttenuation,
    bind_eq_ok, raiseIf_eq_ok, ne_eq, not_not, not_or, not_lt, not_le,
    Bool.not_eq_false] at attenuated
  obtain ⟨_, parentValid, _, childValid, _, -, _, differs, _, parentGrantId, _, issuer, _, allowed,
    _, budget, _, ⟨_, -, _, tenant, _, organization, _, mission, _, capability, _, version, _,
    epoch, _, policy, observability⟩, _, ceiling, _, actions, _, scope, _, constraints,
    childIssued, childIssuedEq, parentIssued, parentIssuedEq, _, notBefore, childExpires,
    childExpiresEq, parentExpires, parentExpiresEq, notAfter⟩ := attenuated
  exact ⟨parentValid, childValid, ⟨actions, scope, constraints,
    exists_classes_of_validateAuthorityAttenuation ceiling,
    ⟨parentIssued, childIssued, parentIssuedEq, childIssuedEq, notBefore⟩,
    ⟨parentExpires, childExpires, parentExpiresEq, childExpiresEq, notAfter⟩,
    tenant.symm, organization.symm, mission.symm, capability.symm, version.symm, epoch.symm,
    policy.symm, observability.symm⟩, differs, parentGrantId, issuer, allowed, budget⟩

/-! ### Lineages -/

theorem contained_of_isChain {root : AuthorityGrant} {rest : List AuthorityGrant}
    (rootValid : root.validate = .ok ()) (chain : (root :: rest).IsChain Delegates) :
    Contained ((root :: rest).getLast (by simp)) root := by
  generalize isLast : (root :: rest).getLast (by simp) = leaf
  have reached := List.relationReflTransGen_of_exists_isChain_cons rest chain isLast
  clear isLast
  induction reached with
  | refl => exact Contained.refl (AuthorityGrant.valid_of_validate rootValid)
  | tail _ delegates ih => exact delegates.contained.trans ih

theorem length_le_of_isChain {root : AuthorityGrant} {rest : List AuthorityGrant}
    (rootValid : root.validate = .ok ()) (chain : (root :: rest).IsChain Delegates) :
    (rest.length : Int) ≤ root.delegationDepthBudget := by
  induction rest generalizing root with
  | nil => exact (AuthorityGrant.valid_of_validate rootValid).budget
  | cons child rest ih =>
    obtain ⟨delegates, laterChain⟩ := List.isChain_cons_cons.mp chain
    have shorter := ih delegates.childValid laterChain
    have spent := delegates.budget
    rw [List.length_cons]
    omega

end CyberLion
