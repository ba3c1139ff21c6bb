import CyberLion.JoinedText
import CyberLion.MergeAdmission
import CyberLion.RepositoryRefAuthority

/-!
# Resource tokens

A grant names a pull request or a branch by a token, which joins the repository with the
other fields by colons.  The repository is any text; what stands behind it has a fixed
length or no colon, so that the token tells all of its fields.
-/

namespace CyberLion

open PyLib

/-! ### Parts of a token -/

theorem gitSha_length {raised : PyStr → PyError} {name value : PyStr}
    (accepted : gitSha raised name value = .ok ()) : value.length = 40 := by
  simp only [gitSha, bind_eq_ok, raiseIf_eq_ok, not_not, isLowerHexOf, Bool.and_eq_true,
    beq_iff_eq] at accepted
  obtain ⟨_, -, length, -⟩ := accepted
  exact length

theorem formatInt_inj {first second : Int} {text : PyStr} (isFirst : formatInt first = .ok text)
    (isSecond : formatInt second = .ok text) : first = second := by
  have formatted : ∀ {number : Int}, formatInt number = .ok text → intText number = text := by
    intro number isText
    unfold formatInt at isText
    split at isText
    · exact Except.ok.inj isText
    · exact absurd isText (by simp)
  exact intText_injective ((formatted isFirst).trans (formatted isSecond).symm)

theorem notMem_of_formatInt {separator : CodePoint} {number : Int} {text : PyStr}
    (notDigit : separator.isAsciiDigit = false) (notMinus : separator ≠ 0x2D)
    (isText : formatInt number = .ok text) : separator ∉ text := by
  unfold formatInt at isText
  split at isText
  · rw [← Except.ok.inj isText]
    exact notMem_intText notDigit notMinus number
  · exact absurd isText (by simp)

/-- A branch that may be named holds characters of `_BRANCH` only. -/
theorem notMem_of_validateBranchName {separator : CodePoint} {branch : PyStr}
    (notAllowed : isBranchChar separator = false)
    (accepted : validateBranchName branch = .ok ()) : separator ∉ branch := by
  have literals : ∀ name ∈ maintenanceExactBranches ++ maintenancePrefixes,
      name.all isBranchChar = true := by
    decide +kernel
  have absent : ∀ {text : PyStr}, text.all isBranchChar = true → separator ∉ text := by
    intro text all member
    rw [List.all_eq_true.mp all separator member] at notAllowed
    exact absurd notAllowed (by decide)
  simp only [validateBranchName, bind_eq_ok, raiseIf_eq_ok, not_and] at accepted
  obtain ⟨_, listed, -⟩ := accepted
  by_cases exact : branch ∈ maintenanceExactBranches
  · exact absent (literals branch (List.mem_append_left _ exact))
  · have matched := Bool.eq_true_of_not_eq_false (listed exact)
    simp only [isMaintenanceBranch, List.any_eq_true, Bool.and_eq_true, decide_eq_true_eq] at matched
    obtain ⟨first, isFirst, ⟨⟨isPrefix, -⟩, -⟩, rest⟩ := matched
    obtain ⟨tail, rfl⟩ := List.isPrefixOf_iff_prefix.mp isPrefix
    rw [List.drop_left] at rest
    rw [List.mem_append, not_or]
    exact ⟨absent (literals first (List.mem_append_right _ isFirst)), absent rest⟩

/-! ### Tokens -/

variable {token : PyStr} {intent : MergeIntent} {leaf : AuthorityGrant}

theorem pullRequestResource_inj {first second baseSha headSha otherBase otherHead : PyStr}
    {number other : Int} (base : baseSha.length = otherBase.length)
    (head : headSha.length = otherHead.length)
    (isFirst : pullRequestResource first number baseSha headSha = .ok token)
    (isSecond : pullRequestResource second other otherBase otherHead = .ok token) :
    (first, number, baseSha, headSha) = (second, other, otherBase, otherHead) := by
  simp only [pullRequestResource, bind_eq_ok, pure_eq_ok] at isFirst isSecond
  obtain ⟨digits, isDigits, rfl⟩ := isFirst
  obtain ⟨others, areOthers, same⟩ := isSecond
  obtain ⟨behindHead, heads⟩ := List.append_inj' same head.symm
  have beforeHead := List.append_cancel_right behindHead
  obtain ⟨behindBase, bases⟩ := List.append_inj' beforeHead base.symm
  -- the number begins behind the last colon
  have beforeBase := List.append_cancel_right behindBase
  have separated : ∀ front back : PyStr, front ++ py ":pr:" ++ back =
      (front ++ py ":pr") ++ 0x3A :: back := by
    intro front back
    rw [show py ":pr:" = py ":pr" ++ [0x3A] from rfl, ← List.append_assoc, List.append_assoc _ [_],
      List.singleton_append]
  rw [separated, separated] at beforeBase
  obtain ⟨front, sameDigits⟩ := separator_append_inj
    (notMem_of_formatInt rfl (by decide) areOthers)
    (notMem_of_formatInt rfl (by decide) isDigits) beforeBase
  rw [sameDigits] at areOthers
  rw [List.append_cancel_left (List.append_cancel_right front), formatInt_inj isDigits areOthers,
    bases, heads]

theorem repositoryRefResource_inj {first second : RepositoryRefAuthorityLookupKey}
    (isFirst : canonicalRepositoryRefAuthorityResource first = .ok token)
    (isSecond : canonicalRepositoryRefAuthorityResource second = .ok token) :
    (first.repository, first.branch, first.expectedHead, first.protectedMasterSha) =
      (second.repository, second.branch, second.expectedHead, second.protectedMasterSha) := by
  simp only [canonicalRepositoryRefAuthorityResource, RepositoryRefAuthorityLookupKey.validate,
    bind_eq_ok, rethrow_eq_ok, pure_eq_ok] at isFirst isSecond
  obtain ⟨_, ⟨_, -, _, branch, _, head, _, master, -⟩, rfl⟩ := isFirst
  obtain ⟨_, ⟨_, -, _, otherBranch, _, otherHead, _, otherMaster, -⟩, same⟩ := isSecond
  obtain ⟨behindMaster, masters⟩ := List.append_inj' same
    ((gitSha_length otherMaster).trans (gitSha_length master).symm)
  have beforeMaster := List.append_cancel_right behindMaster
  obtain ⟨behindHead, heads⟩ := List.append_inj' beforeMaster
    ((gitSha_length otherHead).trans (gitSha_length head).symm)
  have beforeHead := List.append_cancel_right behindHead
  -- neither `heads/` nor the branch holds a colon
  have noColon : ∀ {name : PyStr}, validateBranchName name = .ok () →
      (0x3A : CodePoint) ∉ py "heads/" ++ name := by
    intro name accepted
    rw [List.mem_append, not_or]
    exact ⟨by decide, notMem_of_validateBranchName (by decide) accepted⟩
  have separated : ∀ front back : PyStr, front ++ py ":ref:heads/" ++ back =
      (front ++ py ":ref") ++ 0x3A :: (py "heads/" ++ back) := by
    intro front back
    rw [show py ":ref:heads/" = py ":ref" ++ 0x3A :: py "heads/" from rfl, ← List.append_assoc,
      List.append_assoc _ (_ :: _), List.cons_append]
  rw [separated, separated] at beforeHead
  obtain ⟨front, branches⟩ := separator_append_inj (noColon otherBranch) (noColon branch) beforeHead
  rw [List.append_cancel_left (List.append_cancel_right front), List.append_cancel_left branches,
    heads, masters]

/-! ### Keys, intents and grants -/

def AuthorityLookupKey.named (key : AuthorityLookupKey) : PyStr × Int × PyStr × PyStr :=
  (key.repository, key.prNumber, key.baseSha, key.headSha)

def MergeIntent.named (intent : MergeIntent) : PyStr × Int × PyStr × PyStr :=
  (intent.repository, intent.prNumber, intent.baseSha, intent.headSha)

def RepositoryRefAuthorityLookupKey.named (key : RepositoryRefAuthorityLookupKey) :
    PyStr × PyStr × PyStr × PyStr :=
  (key.repository, key.branch, key.expectedHead, key.protectedMasterSha)

def Determines {κ τ : Type} (resource : κ → Except PyError PyStr) (named : κ → τ) : Prop :=
  ∀ ⦃first second token⦄, resource first = .ok token → resource second = .ok token →
    named first = named second

theorem canonicalPrAuthorityResource_eq_ok {key : AuthorityLookupKey}
    (returned : canonicalPrAuthorityResource key = .ok token) :
    key.baseSha.length = 40 ∧ key.headSha.length = 40 ∧
      pullRequestResource key.repository key.prNumber key.baseSha key.headSha = .ok token := by
  simp only [canonicalPrAuthorityResource, AuthorityLookupKey.validate, bind_eq_ok] at returned
  obtain ⟨_, ⟨_, -, _, -, _, base, _, head, -⟩, isToken⟩ := returned
  exact ⟨gitSha_length base, gitSha_length head, isToken⟩

theorem canonicalMergeResource_eq_ok (returned : canonicalMergeResource intent = .ok token) :
    intent.baseSha.length = 40 ∧ intent.headSha.length = 40 ∧
      pullRequestResource intent.repository intent.prNumber intent.baseSha intent.headSha =
        .ok token := by
  simp only [canonicalMergeResource, MergeIntent.validate, bind_eq_ok] at returned
  obtain ⟨_, ⟨_, -, _, -, _, base, _, head, -⟩, isToken⟩ := returned
  exact ⟨gitSha_length base, gitSha_length head, isToken⟩

theorem determines_pr : Determines canonicalPrAuthorityResource AuthorityLookupKey.named := by
  intro first second token isFirst isSecond
  obtain ⟨base, head, isFirst⟩ := canonicalPrAuthorityResource_eq_ok isFirst
  obtain ⟨otherBase, otherHead, isSecond⟩ := canonicalPrAuthorityResource_eq_ok isSecond
  exact pullRequestResource_inj (base.trans otherBase.symm) (head.trans otherHead.symm) isFirst
    isSecond

theorem mergeResource_eq_iff {key : AuthorityLookupKey} {other : PyStr}
    (isMerge : canonicalMergeResource intent = .ok token)
    (isPr : canonicalPrAuthorityResource key = .ok other) :
    token = other ↔ intent.named = key.named := by
  obtain ⟨base, head, isMerge⟩ := canonicalMergeResource_eq_ok isMerge
  obtain ⟨otherBase, otherHead, isPr⟩ := canonicalPrAuthorityResource_eq_ok isPr
  constructor
  · rintro rfl
    exact pullRequestResource_inj (base.trans otherBase.symm) (head.trans otherHead.symm) isMerge
      isPr
  · intro same
    simp only [MergeIntent.named, AuthorityLookupKey.named, Prod.mk.injEq] at same
    obtain ⟨repository, number, sameBase, sameHead⟩ := same
    rw [repository, number, sameBase, sameHead, isPr] at isMerge
    exact (Except.ok.inj isMerge).symm

/-- Before its last commit a token says `:head:`, or `:protected-master:`. -/
theorem pullRequestResource_ne {repository baseSha headSha : PyStr} {number : Int}
    {refKey : RepositoryRefAuthorityLookupKey} (head : headSha.length = 40)
    (isPr : pullRequestResource repository number baseSha headSha = .ok token) :
    canonicalRepositoryRefAuthorityResource refKey ≠ .ok token := by
  intro isRef
  simp only [pullRequestResource, bind_eq_ok, pure_eq_ok] at isPr
  obtain ⟨digits, -, rfl⟩ := isPr
  simp only [canonicalRepositoryRefAuthorityResource, RepositoryRefAuthorityLookupKey.validate,
    bind_eq_ok, pure_eq_ok] at isRef
  obtain ⟨_, ⟨_, -, _, -, _, -, _, master, -⟩, same⟩ := isRef
  obtain ⟨behind, -⟩ := List.append_inj' same ((gitSha_length master).trans head.symm)
  rw [show py ":protected-master:" = py ":protected-m" ++ py "aster:" from rfl,
    ← List.append_assoc] at behind
  obtain ⟨-, ends⟩ := List.append_inj' behind rfl
  exact absurd ends (by decide)

theorem prResource_ne_refResource {key : AuthorityLookupKey}
    {refKey : RepositoryRefAuthorityLookupKey} (isPr : canonicalPrAuthorityResource key = .ok token) :
    canonicalRepositoryRefAuthorityResource refKey ≠ .ok token := by
  obtain ⟨-, head, isToken⟩ := canonicalPrAuthorityResource_eq_ok isPr
  exact pullRequestResource_ne head isToken

theorem mem_resourceScope_of_bindLeaf {admitted : EpochAdmittedAuthorityLineage}
    (bound : bindLeaf leaf admitted intent = .ok ()) :
    ∃ token ∈ leaf.resourceScope, canonicalMergeResource intent = .ok token := by
  simp only [bindLeaf, bind_eq_ok, raiseIf_eq_ok, not_not] at bound
  obtain ⟨_, -, _, -, _, -, _, -, _, -, _, -, _, -, token, isToken, _, inScope, -⟩ := bound
  exact ⟨token, inScope, isToken⟩

theorem mem_resourceScope_of_validateLeaf {record : AuthorityLineageRecord}
    (bound : record.validateLeaf leaf = .ok ()) :
    ∃ token ∈ leaf.resourceScope, canonicalPrAuthorityResource record.lookupKey = .ok token := by
  simp only [AuthorityLineageRecord.validateLeaf, bind_eq_ok, raiseIf_eq_ok, not_not] at bound
  obtain ⟨_, -, token, isToken, _, inScope, -⟩ := bound
  exact ⟨token, inScope, isToken⟩

theorem resourceScope_of_validateLeaf {record : RepositoryRefAuthorityLineageRecord}
    (bound : record.validateLeaf leaf = .ok ()) :
    ∃ token, leaf.resourceScope = [token] ∧
      canonicalRepositoryRefAuthorityResource record.lookupKey = .ok token := by
  simp only [RepositoryRefAuthorityLineageRecord.validateLeaf, bind_eq_ok, raiseIf_eq_ok, ne_eq,
    not_not] at bound
  obtain ⟨_, -, token, isToken, _, isScope, -⟩ := bound
  exact ⟨token, isScope, isToken⟩

/-- A leaf of one token is bound to no other pull request, merge or branch: `pr` are the pull
requests and `ref` the branches that the token may name. -/
structure ScopedTo (leaf : AuthorityGrant) (pr : PyStr × Int × PyStr × PyStr → Prop)
    (ref : PyStr × PyStr × PyStr × PyStr → Prop) : Prop where
  lookup : ∀ record : AuthorityLineageRecord, record.validateLeaf leaf = .ok () →
    pr record.lookupKey.named
  merge : ∀ admitted intent, bindLeaf leaf admitted intent = .ok () → pr intent.named
  branch : ∀ record : RepositoryRefAuthorityLineageRecord, record.validateLeaf leaf = .ok () →
    ref record.lookupKey.named

theorem scopedTo_pr {key : AuthorityLookupKey} (isPr : canonicalPrAuthorityResource key = .ok token)
    (scope : leaf.resourceScope = [token]) :
    ScopedTo leaf (· = key.named) (fun _ => False) where
  lookup record bound := by
    obtain ⟨other, inScope, isOther⟩ := mem_resourceScope_of_validateLeaf bound
    rw [scope, List.mem_singleton] at inScope
    exact determines_pr (inScope ▸ isOther) isPr
  merge admitted intent bound := by
    obtain ⟨other, inScope, isOther⟩ := mem_resourceScope_of_bindLeaf bound
    rw [scope, List.mem_singleton] at inScope
    exact (mergeResource_eq_iff isOther isPr).mp inScope
  branch record bound := by
    obtain ⟨other, isScope, isOther⟩ := resourceScope_of_validateLeaf bound
    rw [scope, List.singleton_inj] at isScope
    exact prResource_ne_refResource isPr (isScope ▸ isOther)

theorem scopedTo_ref {key : RepositoryRefAuthorityLookupKey}
    (isRef : canonicalRepositoryRefAuthorityResource key = .ok token)
    (scope : leaf.resourceScope = [token]) :
    ScopedTo leaf (fun _ => False) (· = key.named) where
  lookup record bound := by
    obtain ⟨other, inScope, isOther⟩ := mem_resourceScope_of_validateLeaf bound
    rw [scope, List.mem_singleton] at inScope
    exact prResource_ne_refResource isOther (inScope ▸ isRef)
  merge admitted intent bound := by
    obtain ⟨other, inScope, isOther⟩ := mem_resourceScope_of_bindLeaf bound
    rw [scope, List.mem_singleton] at inScope
    obtain ⟨-, head, isToken⟩ := canonicalMergeResource_eq_ok isOther
    exact pullRequestResource_ne head isToken (inScope ▸ isRef)
  branch record bound := by
    obtain ⟨other, isScope, isOther⟩ := resourceScope_of_validateLeaf bound
    rw [scope, List.singleton_inj] at isScope
    exact repositoryRefResource_inj (isScope ▸ isOther) isRef

/-- A token of a pull request or a branch tells the repository, the number or the branch and
the two commits; no token is of both kinds; a merge and a lookup have the same token exactly
when they name the same; a leaf whose scope is one token is bound to nothing else. -/
theorem authorityTokens_unambiguous :
    Determines canonicalPrAuthorityResource AuthorityLookupKey.named ∧
    Determines canonicalRepositoryRefAuthorityResource RepositoryRefAuthorityLookupKey.named ∧
    (∀ key refKey token, canonicalPrAuthorityResource key = .ok token →
      canonicalRepositoryRefAuthorityResource refKey ≠ .ok token) ∧
    (∀ intent key token other, canonicalMergeResource intent = .ok token →
      canonicalPrAuthorityResource key = .ok other →
      (token = other ↔ intent.named = key.named)) ∧
    (∀ key token leaf, canonicalPrAuthorityResource key = .ok token →
      leaf.resourceScope = [token] → ScopedTo leaf (· = key.named) fun _ => False) ∧
    ∀ key token leaf, canonicalRepositoryRefAuthorityResource key = .ok token →
      leaf.resourceScope = [token] → ScopedTo leaf (fun _ => False) (· = key.named) := by
  refine ⟨determines_pr, ?_, ?_, ?_, ?_, ?_⟩
  · intro first second token isFirst isSecond
    exact repositoryRefResource_inj isFirst isSecond
  · intro key refKey token isPr
    exact prResource_ne_refResource isPr
  · intro intent key token other isMerge isPr
    exact mergeResource_eq_iff isMerge isPr
  · intro key token leaf isPr scope
    exact scopedTo_pr isPr scope
  · intro key token leaf isRef scope
    exact scopedTo_ref isRef scope

end CyberLion
