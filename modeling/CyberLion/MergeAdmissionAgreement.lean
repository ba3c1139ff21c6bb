import CyberLion.LiveAuthorityAdmission
import CyberLion.MergeAdmissionRuns

/-!
# The two merge admissions agree

A call that nothing disturbs: the admission that consumes and the one that only
gives evidence make the same checks of the intent, the lineage and the leaf.
What one of them checks in addition follows from what the other one, or the
record, has checked.
-/

namespace CyberLion

open PyLib

variable {intent : MergeIntent} {trusted : TrustedPullRequestState}
  {lineage : List AuthorityGrant} {issuerKeys : IssuerKeys} {verifier : Verifier}
  {context : ContextKey} {admissionId : PyStr}

/-! ### Calls that nothing disturbs -/

/-- `_authenticate_and_bind` when no other thread changes the registries
meanwhile. -/
def bindLineageIn (registries : AuthorityRegistries) (intent : MergeIntent)
    (trusted : TrustedPullRequestState) (lineage : List AuthorityGrant)
    (issuerKeys : IssuerKeys) (verifier : Verifier) (context : ContextKey) :
    Except PyError (EpochAdmittedAuthorityLineage × AuthorityGrant) := do
  bindTrustedState intent trusted
  match lineage.getLast? with
  | none => .error (mergeError (py "authority lineage is unavailable"))
  | some leaf => do
    let admitted ← admitLineageIn registries lineage issuerKeys verifier context
    bindLeaf leaf admitted intent
    return (admitted, leaf)

theorem views_authenticateAndBind (intent : MergeIntent) (trusted : TrustedPullRequestState)
    (lineage : List AuthorityGrant) (issuerKeys : IssuerKeys) (verifier : Verifier)
    (context : ContextKey) :
    PyProg.Views (authenticateAndBind intent trusted lineage issuerKeys verifier context)
      fun registries =>
        bindLineageIn registries intent trusted lineage issuerKeys verifier context := by
  apply (PyProg.views_lift _).bind
  intro _
  cases lineage.getLast? with
  | none => exact PyProg.views_lift _
  | some leaf =>
    apply (views_authenticateAndAdmit _ _ _ _).bind
    intro admitted
    apply (PyProg.views_lift _).bind
    intro _
    exact fun _ => rfl

/-- The body of `admit_merge_non_consuming` when nothing disturbs it. -/
def admitNonConsumingIn (registries : AuthorityRegistries) (intent : MergeIntent)
    (trusted : TrustedPullRequestState) (backend : AuthorityBackend) (key : AuthorityLookupKey)
    (issuerKeys : IssuerKeys) (verifier : Verifier) (context : ContextKey) (admissionId : PyStr) :
    Except PyError NonConsumingMergeAdmissionResult := do
  bindLookupKey intent key context
  let record ← resolveExact backend key
  let (admitted, leaf) ←
    bindLineageIn registries intent trusted record.lineage issuerKeys verifier context
  raiseIf (leaf.grantId ≠ key.grantId)
    (mergeError (py "authority leaf does not match exact lookup grant_id"))
  let evidence ← nonConsumingEvidence intent admissionId context record admitted leaf
  allowNonConsuming intent admissionId evidence

theorem views_admitNonConsuming (intent : MergeIntent) (trusted : TrustedPullRequestState)
    (backend : AuthorityBackend) (key : AuthorityLookupKey) (issuerKeys : IssuerKeys)
    (verifier : Verifier) (context : ContextKey) (admissionId : PyStr) :
    PyProg.Views
      (admitNonConsuming intent trusted backend key issuerKeys verifier context admissionId)
      fun registries => admitNonConsumingIn registries intent trusted backend key issuerKeys
        verifier context admissionId := by
  apply (PyProg.views_lift _).bind
  intro _
  apply (PyProg.views_lift _).bind
  intro record
  apply (views_authenticateAndBind _ _ _ _ _ _).bind
  rintro ⟨admitted, leaf⟩
  apply (PyProg.views_lift _).bind
  intro _
  apply (PyProg.views_lift _).bind
  intro evidence
  exact PyProg.views_lift _

theorem runAlone_onRegistries {α : Type} {program : PyProg AuthorityRegistries α}
    {view : AuthorityRegistries → Except PyError α} (views : PyProg.Views program view)
    (world : MergeWorld) :
    PyProg.runAlone (onRegistries program) world = (world, view world.registries) := by
  have replaced : ∀ (world : MergeWorld) registries,
      (world.setRegistries registries).registries = registries := fun _ _ => rfl
  have kept : ∀ world : MergeWorld, world.setRegistries world.registries = world := fun _ => rfl
  have last : ∀ (world : MergeWorld) first second,
      (world.setRegistries first).setRegistries second = world.setRegistries second :=
    fun _ _ _ => rfl
  have zoomed : PyProg.runAlone (onRegistries program) world =
      (world.setRegistries (PyProg.runAlone program world.registries).1,
        (PyProg.runAlone program world.registries).2) :=
    Prog.run_zoom replaced kept last (ExceptT.run program) world
  rw [zoomed, views world.registries]
  rfl

/-! ### When a call allows -/

/-- What `consume` checks of an authority. -/
structure Consumable (key : ConsumptionKey) (lineageDigest : PyStr) : Prop where
  grantId : boundedText mergeError 512 (py "grant_id") key.grantId = .ok ()
  grantDigest : boundedText mergeError 512 (py "grant_digest") key.grantDigest = .ok ()
  lineageDigest : boundedText mergeError 512 (py "lineage_digest") lineageDigest = .ok ()
  epoch : 0 ≤ key.epoch

theorem runAlone_consumeAuthority {key : ConsumptionKey} {lineageDigest : PyStr}
    {world after : MergeWorld} :
    PyProg.runAlone (consumeAuthority key lineageDigest) world = (after, .ok ()) ↔
      Consumable key lineageDigest ∧ ¬ world.isConsumed key ∧
        after = { world with consumed := (key, lineageDigest) :: world.consumed } := by
  simp only [consumeAuthority, PyProg.runAlone_bind_ok, PyProg.runAlone_lift,
    PyProg.runAlone_transact, consumeKey, Prod.mk.injEq, raiseIf_eq_ok, not_lt]
  constructor
  · rintro ⟨_, _, ⟨rfl, grantId⟩, _, _, ⟨rfl, grantDigest⟩, _, _, ⟨rfl, lineage⟩, _, _,
      ⟨rfl, epoch⟩, consumed⟩
    split at consumed
    · exact absurd (Prod.mk.inj consumed).2 (by simp)
    · rename_i fresh
      exact ⟨⟨grantId, grantDigest, lineage, epoch⟩, fresh, (Prod.mk.inj consumed).1.symm⟩
  · rintro ⟨⟨grantId, grantDigest, lineage, epoch⟩, fresh, rfl⟩
    refine ⟨world, (), ⟨rfl, grantId⟩, world, (), ⟨rfl, grantDigest⟩, world, (), ⟨rfl, lineage⟩,
      world, (), ⟨rfl, epoch⟩, ?_⟩
    rw [if_neg fresh]

theorem runAlone_admitMerge_allow_iff {world : MergeWorld} {decision : MergeAdmissionDecision} :
    ((PyProg.runAlone (admitMerge intent trusted lineage issuerKeys verifier context admissionId)
        world).2 = .ok decision ∧ decision.decision = .allow) ↔
      intent.validate = .ok () ∧
      boundedText mergeError 512 (py "admission_id") admissionId = .ok () ∧
      ∃ admitted leaf digest,
        bindLineageIn world.registries intent trusted lineage issuerKeys verifier context =
          .ok (admitted, leaf) ∧
        leaf.digest = .ok digest ∧
        Consumable ⟨leaf.grantId, digest, admitted.epoch⟩ admitted.lineageDigest ∧
        ¬ world.isConsumed ⟨leaf.grantId, digest, admitted.epoch⟩ ∧
        decision = allowDecision intent admissionId ⟨leaf.grantId, digest, admitted.epoch⟩
          admitted.lineageDigest := by
  have bound := runAlone_onRegistries (views_authenticateAndBind intent trusted lineage
    issuerKeys verifier context) world
  rw [PyProg.snd_runAlone]
  simp only [admitMerge, PyProg.runAlone_bind_ok, PyProg.runAlone_lift, PyProg.runAlone_handle_ok,
    Prod.mk.injEq]
  constructor
  · rintro ⟨⟨after, _, _, ⟨rfl, valid⟩, _, _, ⟨rfl, admissionOk⟩, called⟩, allows⟩
    rcases called with accepted | ⟨error, -, denied⟩
    · simp only [admitConsuming, PyProg.runAlone_bind_ok, PyProg.runAlone_lift, bound,
        Prod.mk.injEq] at accepted
      obtain ⟨_, ⟨admitted, leaf⟩, ⟨rfl, isBound⟩, _, digest, ⟨rfl, digested⟩, _, _, consumed,
        -, isAllowed⟩ := accepted
      obtain ⟨consumable, fresh, -⟩ := runAlone_consumeAuthority.mp consumed
      exact ⟨valid, admissionOk, admitted, leaf, digest, isBound, digested, consumable, fresh,
        allowMerge_eq_ok isAllowed⟩
    · rw [decision_of_denyCaught denied] at allows
      cases allows
  · rintro ⟨valid, admissionOk, admitted, leaf, digest, isBound, digested, consumable, fresh, rfl⟩
    have allowed := allowMerge_of_consumed valid admissionOk
      (ne_nil_of_bounded consumable.grantId) (ne_nil_of_bounded consumable.grantDigest)
      (ne_nil_of_bounded consumable.lineageDigest) consumable.epoch
    refine ⟨⟨{ world with consumed := (⟨leaf.grantId, digest, admitted.epoch⟩,
      admitted.lineageDigest) :: world.consumed }, world, (), ⟨rfl, valid⟩, world, (),
      ⟨rfl, admissionOk⟩, .inl ?_⟩, rfl⟩
    simp only [admitConsuming, PyProg.runAlone_bind_ok, PyProg.runAlone_lift, bound,
      Prod.mk.injEq]
    exact ⟨world, (admitted, leaf), ⟨rfl, isBound⟩, world, digest, ⟨rfl, digested⟩, _, (),
      runAlone_consumeAuthority.mpr ⟨consumable, fresh, rfl⟩, rfl, allowed⟩

def evidenceOf (intent : MergeIntent) (admissionId : PyStr) (context : ContextKey)
    (record : AuthorityLineageRecord) (admitted : EpochAdmittedAuthorityLineage)
    (leaf : AuthorityGrant) (digest : PyStr) : NonConsumingMergeAdmissionEvidence :=
  ⟨admissionId, intent.repository, intent.prNumber, intent.baseSha, intent.headSha,
    intent.mergeMethod, context.missionId, leaf.grantId, digest, admitted.lineageDigest,
    record.lineageDigest, admitted.epoch, record.provenanceId, record.sourceKind⟩

theorem decision_of_denyNonConsuming {rationale : PyStr}
    {result : NonConsumingMergeAdmissionResult}
    (denied : denyNonConsuming intent admissionId rationale = .ok result) :
    result.decision = .deny := by
  simp only [denyNonConsuming, bind_eq_ok, pure_eq_ok] at denied
  obtain ⟨_, -, rfl⟩ := denied
  rfl

variable {admitted : EpochAdmittedAuthorityLineage} {leaf : AuthorityGrant}

theorem nonConsumingEvidence_eq_ok {record : AuthorityLineageRecord}
    {evidence : NonConsumingMergeAdmissionEvidence} :
    nonConsumingEvidence intent admissionId context record admitted leaf = .ok evidence ↔
      evidence.validate = .ok () ∧ ∃ digest, leaf.digest = .ok digest ∧
        evidence = evidenceOf intent admissionId context record admitted leaf digest := by
  simp only [nonConsumingEvidence, bind_eq_ok, pure_eq_ok]
  constructor
  · rintro ⟨digest, digested, _, valid, rfl⟩
    exact ⟨valid, digest, digested, rfl⟩
  · rintro ⟨valid, digest, digested, rfl⟩
    exact ⟨digest, digested, (), valid, rfl⟩

theorem allowNonConsuming_eq_ok {evidence : NonConsumingMergeAdmissionEvidence}
    {result : NonConsumingMergeAdmissionResult}
    (allowed : allowNonConsuming intent admissionId evidence = .ok result) :
    result = allowResult intent admissionId evidence := by
  simp only [allowNonConsuming, bind_eq_ok, pure_eq_ok] at allowed
  obtain ⟨_, -, same⟩ := allowed
  exact same.symm

theorem allowNonConsuming_of_valid {record : AuthorityLineageRecord} {digest : PyStr}
    (valid : (evidenceOf intent admissionId context record admitted leaf digest).validate = .ok ()) :
    allowNonConsuming intent admissionId
        (evidenceOf intent admissionId context record admitted leaf digest) =
      .ok (allowResult intent admissionId
        (evidenceOf intent admissionId context record admitted leaf digest)) := by
  have intentOk := valid
  simp only [NonConsumingMergeAdmissionEvidence.validate, bind_eq_ok] at intentOk
  obtain ⟨_, admissionOk, _, intentOk, -⟩ := intentOk
  have rationaleOk : boundedText mergeError 1024 (py "rationale")
      (allowResult intent admissionId
        (evidenceOf intent admissionId context record admitted leaf digest)).rationale =
        .ok () := by
    exact (by decide : boundedText mergeError 1024 (py "rationale") (py
      "exact trusted authority, current epoch, and live GitHub state admitted without consumption")
      = .ok ())
  have allowOk : (allowResult intent admissionId
      (evidenceOf intent admissionId context record admitted leaf digest)).validateAllow =
        .ok () := by
    rw [NonConsumingMergeAdmissionResult.validateAllow]
    apply bind_eq_ok.mpr
    refine ⟨(), valid, raiseIf_eq_ok.mpr ?_⟩
    simp [evidenceOf, allowResult]
  have validated : (allowResult intent admissionId
      (evidenceOf intent admissionId context record admitted leaf digest)).validate = .ok () := by
    simp only [NonConsumingMergeAdmissionResult.validate, bind_eq_ok]
    refine ⟨(), admissionOk, (), rationaleOk, (), intentOk, ?_⟩
    have isAllow : (allowResult intent admissionId
      (evidenceOf intent admissionId context record admitted leaf digest)).decision = .allow := rfl
    rw [if_pos isAllow]
    exact allowOk
  rw [allowNonConsuming, validated]
  rfl

theorem runAlone_admitMergeNonConsuming_allow_iff {registries : AuthorityRegistries}
    {backend : AuthorityBackend} {key : AuthorityLookupKey}
    {result : NonConsumingMergeAdmissionResult} :
    ((PyProg.runAlone (admitMergeNonConsuming intent trusted backend key issuerKeys verifier
        context admissionId) registries).2 = .ok result ∧ result.decision = .allow) ↔
      intent.validate = .ok () ∧ bindLookupKey intent key context = .ok () ∧
      ∃ record admitted leaf digest, resolveExact backend key = .ok record ∧
        bindLineageIn registries intent trusted record.lineage issuerKeys verifier context =
          .ok (admitted, leaf) ∧
        leaf.grantId = key.grantId ∧ leaf.digest = .ok digest ∧
        (evidenceOf intent admissionId context record admitted leaf digest).validate = .ok () ∧
        result = allowResult intent admissionId
          (evidenceOf intent admissionId context record admitted leaf digest) := by
  have viewed := views_admitNonConsuming intent trusted backend key issuerKeys verifier context
    admissionId registries
  simp only [PyProg.snd_runAlone, admitMergeNonConsuming, PyProg.runAlone_bind_ok,
    PyProg.runAlone_lift, PyProg.runAlone_handle_ok, Prod.mk.injEq]
  constructor
  · rintro ⟨⟨after, _, _, ⟨rfl, valid⟩, _, _, ⟨rfl, admissionOk⟩, called⟩, allows⟩
    rcases called with accepted | ⟨error, -, denied⟩
    · rw [viewed] at accepted
      obtain ⟨-, accepted⟩ := Prod.mk.inj accepted
      simp only [admitNonConsumingIn, bind_eq_ok, raiseIf_eq_ok, ne_eq, not_not] at accepted
      obtain ⟨_, keyBound, record, resolved, ⟨admitted, leaf⟩, isBound, _, sameId, evidence,
        isEvidence, allowed⟩ := accepted
      obtain ⟨evidenceOk, digest, digested, rfl⟩ := nonConsumingEvidence_eq_ok.mp isEvidence
      exact ⟨valid, keyBound, record, admitted, leaf, digest, resolved, isBound, sameId, digested,
        evidenceOk, allowNonConsuming_eq_ok allowed⟩
    · rw [decision_of_denyNonConsuming denied] at allows
      cases allows
  · rintro ⟨valid, keyBound, record, admitted, leaf, digest, resolved, isBound, sameId, digested,
      evidenceOk, rfl⟩
    have admissionOk := evidenceOk
    simp only [NonConsumingMergeAdmissionEvidence.validate, bind_eq_ok] at admissionOk
    obtain ⟨_, admissionOk, -⟩ := admissionOk
    refine ⟨⟨registries, registries, (), ⟨rfl, valid⟩, registries, (), ⟨rfl, admissionOk⟩,
      .inl ?_⟩, rfl⟩
    rw [viewed, Prod.mk.injEq]
    refine ⟨rfl, ?_⟩
    simp only [admitNonConsumingIn, bind_eq_ok, raiseIf_eq_ok, ne_eq, not_not]
    exact ⟨(), keyBound, record, resolved, (admitted, leaf), isBound, (), sameId, _,
      nonConsumingEvidence_eq_ok.mpr ⟨evidenceOk, digest, digested, rfl⟩,
      allowNonConsuming_of_valid evidenceOk⟩

/-! ### Agreement -/

theorem bindLineageIn_eq_ok {registries : AuthorityRegistries}
    (bound : bindLineageIn registries intent trusted lineage issuerKeys verifier context =
      .ok (admitted, leaf)) :
    lineage.getLast? = some leaf ∧ context.validate = .ok () ∧ admitted.epoch = leaf.epoch := by
  simp only [bindLineageIn, bind_eq_ok] at bound
  obtain ⟨_, -, bound⟩ := bound
  split at bound
  · cases bound
  · rename_i last isLast
    simp only [bind_eq_ok, pure_eq_ok] at bound
    obtain ⟨_, isAdmitted, _, leafBound, same⟩ := bound
    obtain ⟨rfl, rfl⟩ := Prod.mk.inj same
    obtain ⟨-, -, -, epoch⟩ := bindLeaf_eq_ok leafBound
    refine ⟨isLast, ?_, epoch⟩
    cases lineage with
    | nil => cases isLast
    | cons root rest =>
      simp only [admitLineageIn, validateLineageShape, bind_eq_ok] at isAdmitted
      obtain ⟨_, ⟨_, contextOk, -⟩, -⟩ := isAdmitted
      exact contextOk

theorem boundedText_of_isLowerHexOf {raised : PyStr → PyError} {limit : Nat} {name value : PyStr}
    (hex : isLowerHexOf 64 value = true) (le : 64 ≤ limit) :
    boundedText raised limit name value = .ok () := by
  obtain ⟨length, notBlank, noNul⟩ := solid_of_isLowerHexOf hex
  exact boundedText_eq_ok.mpr ⟨notBlank, length ▸ le, noNul⟩

theorem boundedText_of_isProvenanceId {name value : PyStr}
    (provenance : isProvenanceId value = true) :
    boundedText mergeError 512 name value = .ok () := by
  cases value with
  | nil => exact nomatch provenance
  | cons first rest =>
    simp only [isProvenanceId, Bool.and_eq_true, Bool.or_eq_true, decide_eq_true_eq,
      List.all_eq_true] at provenance
    obtain ⟨⟨isFirst, length⟩, chars⟩ := provenance
    have firstOk : first.isSpace = false ∧ first.val ≠ 0 := by
      simp only [CodePoint.isAsciiLetter, CodePoint.isAsciiUpper, CodePoint.isAsciiLower,
        CodePoint.isAsciiDigit, Bool.or_eq_true, Bool.and_eq_true, decide_eq_true_eq] at isFirst
      constructor
      · simp only [CodePoint.isSpace, Bool.or_eq_false_iff, Bool.and_eq_false_iff,
          decide_eq_false_iff_not, beq_eq_false_iff_ne, ne_eq]
        omega
      · omega
    have restOk : ∀ c ∈ rest, c.val ≠ 0 := by
      intro c member isNul
      have provenanceChar := chars c member
      simp only [isProvenanceChar, Bool.or_eq_true] at provenanceChar
      have noNul : hasNul (py "._:/-") = false := rfl
      rw [hasNul, List.any_eq_false] at noNul
      rcases provenanceChar with solid | mark
      · simp only [CodePoint.isAsciiLetter, CodePoint.isAsciiUpper, CodePoint.isAsciiLower,
          CodePoint.isAsciiDigit, Bool.or_eq_true, Bool.and_eq_true, decide_eq_true_eq] at solid
        omega
      · exact noNul c (List.contains_iff_mem.mp mark) (by simpa using isNul)
    apply boundedText_eq_ok.mpr
    refine ⟨by simp [isBlank, firstOk.1], by rw [List.length_cons]; omega, ?_⟩
    rw [hasNul, List.any_eq_false]
    intro c member
    rcases List.mem_cons.mp member with rfl | inRest
    · simpa using firstOk.2
    · simpa using restOk c inRest

theorem evidenceOf_validate {record : AuthorityLineageRecord} {digest : PyStr}
    (valid : intent.validate = .ok ())
    (admissionOk : boundedText mergeError 512 (py "admission_id") admissionId = .ok ())
    (contextOk : context.validate = .ok ()) (recordOk : record.validate = .ok ())
    (consumable : Consumable ⟨leaf.grantId, digest, admitted.epoch⟩ admitted.lineageDigest) :
    (evidenceOf intent admissionId context record admitted leaf digest).validate = .ok () := by
  have sourceOk : record.sourceKind = py "trusted-control-plane" ∧
      isProvenanceId record.provenanceId = true ∧
      isLowerHexOf 64 record.lineageDigest = true := by
    simp only [AuthorityLineageRecord.validate, bind_eq_ok] at recordOk
    obtain ⟨_, -, recordOk⟩ := recordOk
    split at recordOk
    · cases recordOk
    · simp only [bind_eq_ok, raiseIf_eq_ok, ne_eq, not_not] at recordOk
      obtain ⟨_, source, _, provenance, _, hex, -⟩ := recordOk
      exact ⟨source, provenance, hex⟩
  obtain ⟨source, provenance, hex⟩ := sourceOk
  have missionOk : boundedText mergeError 512 (py "mission_id") context.missionId = .ok () := by
    simp only [ContextKey.validate, bind_eq_ok] at contextOk
    obtain ⟨_, -, _, -, _, -, mission⟩ := contextOk
    exact boundedText_mono mission (by norm_num)
  have kindOk : boundedText mergeError 512 (py "authority_source_kind") record.sourceKind =
      .ok () := by
    rw [source]
    decide
  simp only [NonConsumingMergeAdmissionEvidence.validate, bind_eq_ok]
  refine ⟨(), admissionOk, (), MergeIntent.validate_mergeAction valid, (), missionOk, (),
    consumable.grantId, (), consumable.grantDigest, (), consumable.lineageDigest, (),
    boundedText_of_isLowerHexOf hex (by norm_num), (), boundedText_of_isProvenanceId provenance,
    (), kindOk, (), raiseIf_eq_ok.mpr (not_not.mpr source),
    raiseIf_eq_ok.mpr (not_lt.mpr consumable.epoch)⟩

theorem consumable_of_evidence {record : AuthorityLineageRecord} {digest : PyStr}
    (valid : (evidenceOf intent admissionId context record admitted leaf digest).validate = .ok ()) :
    Consumable ⟨leaf.grantId, digest, admitted.epoch⟩ admitted.lineageDigest := by
  simp only [NonConsumingMergeAdmissionEvidence.validate, bind_eq_ok, raiseIf_eq_ok, not_lt]
    at valid
  obtain ⟨_, -, _, -, _, -, _, grantId, _, grantDigest, _, lineageDigest, _, -, _, -, _, -, _, -,
    epoch⟩ := valid
  exact ⟨grantId, grantDigest, lineageDigest, epoch⟩

/-- The effect path allows what the evidence path allowed, with the same
identity, and the other way around, when the record is valid and the authority
is not consumed yet. -/
theorem admitMerge_iff_nonConsuming {world : MergeWorld} {backend : AuthorityBackend}
    {key : AuthorityLookupKey} {record : AuthorityLineageRecord} {leaf : AuthorityGrant}
    {evidenceId : PyStr}
    (isKey : key = ⟨intent.repository, intent.prNumber, intent.baseSha, intent.headSha,
      context.missionId, leaf.grantId⟩)
    (ofKey : record.lookupKey = key) (answers : backend key = .ok [record])
    (isLeaf : record.lineage.getLast? = some leaf)
    (fresh : ∀ digest, leaf.digest = .ok digest →
      ¬ world.isConsumed ⟨leaf.grantId, digest, leaf.epoch⟩)
    (evidenceIdOk : boundedText mergeError 512 (py "admission_id") evidenceId = .ok ())
    (admissionIdOk : boundedText mergeError 512 (py "admission_id") admissionId = .ok ()) :
    (∀ result, (PyProg.runAlone (admitMergeNonConsuming intent trusted backend key issuerKeys
        verifier context evidenceId) world.registries).2 = .ok result →
      result.decision = .allow →
      ∃ evidence decision, result.evidence = some evidence ∧
        (PyProg.runAlone (admitMerge intent trusted record.lineage issuerKeys verifier context
          admissionId) world).2 = .ok decision ∧
        decision.decision = .allow ∧ decision.grantId = some evidence.grantId ∧
        decision.grantDigest = some evidence.grantDigest ∧
        decision.lineageDigest = some evidence.lineageDigest ∧
        decision.epoch = some evidence.epoch) ∧
    ∀ decision, (PyProg.runAlone (admitMerge intent trusted record.lineage issuerKeys verifier
        context admissionId) world).2 = .ok decision →
      decision.decision = .allow → record.validate = .ok () →
      ∃ result, (PyProg.runAlone (admitMergeNonConsuming intent trusted backend key issuerKeys
        verifier context evidenceId) world.registries).2 = .ok result ∧
        result.decision = .allow := by
  constructor
  · intro result returned allows
    obtain ⟨valid, -, found, admitted, last, digest, resolved, bound, -, digested, evidenceOk,
      rfl⟩ := runAlone_admitMergeNonConsuming_allow_iff.mp ⟨returned, allows⟩
    simp only [resolveExact, answers, bind_eq_ok] at resolved
    obtain ⟨_, -, _, same, resolved⟩ := resolved
    obtain rfl := Except.ok.inj same
    simp only [bind_eq_ok, pure_eq_ok] at resolved
    obtain ⟨_, -, _, -, rfl⟩ := resolved
    obtain ⟨isLast, -, epoch⟩ := bindLineageIn_eq_ok bound
    obtain rfl := Option.some.inj (isLast.symm.trans isLeaf)
    have unconsumed := fresh digest digested
    rw [← epoch] at unconsumed
    obtain ⟨accepted, allowed⟩ := runAlone_admitMerge_allow_iff.mpr ⟨valid, admissionIdOk,
      admitted, last, digest, bound, digested, consumable_of_evidence evidenceOk, unconsumed, rfl⟩
    exact ⟨_, _, rfl, accepted, allowed, rfl, rfl, rfl, rfl⟩
  · intro decision returned allows recordOk
    obtain ⟨valid, -, admitted, last, digest, bound, digested, consumable, -, -⟩ :=
      runAlone_admitMerge_allow_iff.mp ⟨returned, allows⟩
    obtain ⟨isLast, contextOk, -⟩ := bindLineageIn_eq_ok bound
    obtain rfl := Option.some.inj (isLast.symm.trans isLeaf)
    have keyOk : key.validate = .ok () := by
      simp only [AuthorityLineageRecord.validate, bind_eq_ok] at recordOk
      obtain ⟨_, keyOk, -⟩ := recordOk
      rw [← ofKey]
      exact keyOk
    have keyBound : bindLookupKey intent key context = .ok () := by
      simp only [bindLookupKey, bind_eq_ok]
      refine ⟨(), keyOk, (), contextOk, raiseIf_eq_ok.mpr ?_⟩
      simp [isKey]
    have resolved : resolveExact backend key = .ok record := by
      simp only [resolveExact, answers, bind_eq_ok]
      refine ⟨(), keyOk, [record], rfl, ?_⟩
      exact bind_eq_ok.mpr ⟨(), recordOk,
        bind_eq_ok.mpr ⟨(), raiseIf_eq_ok.mpr (not_not.mpr ofKey), rfl⟩⟩
    have sameId : last.grantId = key.grantId := by rw [isKey]
    exact ⟨_, runAlone_admitMergeNonConsuming_allow_iff.mpr ⟨valid, keyBound, record, admitted,
      last, digest, resolved, bound, sameId, digested,
      evidenceOf_validate valid evidenceIdOk contextOk recordOk consumable, rfl⟩⟩

def surveyIntent : MergeIntent :=
  ⟨py "core/api", 7, List.replicate 40 0x61, List.replicate 40 0x62, py "squash", mergeAction⟩

theorem admitMerge_iff_nonConsuming_survey : ∃ world backend record,
    record.validate = .ok () ∧ record.lineage = [surveyRoot, surveyLeaf] ∧
    backend (surveyKey (py "leaf")) = .ok [record] ∧
    ∀ decision, (PyProg.runAlone (admitMerge surveyIntent ⟨surveyIntent⟩ record.lineage
        (.ok surveyKeys) acceptingVerifier surveyContext (py "merge-1")) world).2 = .ok decision →
      decision.decision = .allow →
      ∃ result, (PyProg.runAlone (admitMergeNonConsuming surveyIntent ⟨surveyIntent⟩ backend
        (surveyKey (py "leaf")) (.ok surveyKeys) acceptingVerifier surveyContext (py "ci-1"))
        world.registries).2 = .ok result ∧ result.decision = .allow := by
  obtain ⟨rootDigest, -⟩ :=
    AuthorityGrant.exists_digest (rfl : surveyRoot.validate = .ok ()) rfl rfl
  obtain ⟨digest, valid⟩ := exists_valid_of_sealedRecord sealedRecord_survey
  refine ⟨⟨surveyRegistries (py "root") rootDigest, []⟩,
    fun _ => .ok [surveyRecord [surveyRoot, surveyLeaf] (py "leaf") digest],
    surveyRecord [surveyRoot, surveyLeaf] (py "leaf") digest, valid, rfl, rfl, ?_⟩
  intro decision returned allows
  have isKey : surveyKey (py "leaf") = ⟨surveyIntent.repository, surveyIntent.prNumber,
      surveyIntent.baseSha, surveyIntent.headSha, surveyContext.missionId, surveyLeaf.grantId⟩ :=
    rfl
  have isLeaf : [surveyRoot, surveyLeaf].getLast? = some surveyLeaf := rfl
  have evidenceIdOk : boundedText mergeError 512 (py "admission_id") (py "ci-1") = .ok () := rfl
  have admissionIdOk : boundedText mergeError 512 (py "admission_id") (py "merge-1") = .ok () :=
    rfl
  exact (admitMerge_iff_nonConsuming isKey rfl rfl isLeaf (fun _ _ => List.not_mem_nil)
    evidenceIdOk admissionIdOk).2 decision returned allows valid

end CyberLion
