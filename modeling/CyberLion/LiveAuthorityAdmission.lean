import CyberLion.AuthorityLineage
import CyberLion.AuthoritySource
import CyberLion.PersistentAuthorityState

/-!
# Authentication of a record against the persistent state

`LiveAuthorityAdmission._authenticate_record` of
`enterprise/live_authority_admission.py`, and how it compares with the
admission of the same lineage in one process.  Both make the same checks of
the root, the hops, the epoch and the signatures; only the second one demands
that the grant identifiers are distinct.
-/

namespace CyberLion

open PyLib

def liveAuthorityAdmissionErrorClass : ErrorClass :=
  .declared .runtimeError (py "LiveAuthorityAdmissionError")

/-- `LiveAuthorityAdmissionError(message)`. -/
def liveError (message : PyStr) : PyError :=
  ⟨liveAuthorityAdmissionErrorClass, message⟩

/-- `LiveAuthorityAdmission._utc`. -/
def liveUtc (value : PyStr) : Except PyError DateTime :=
  match fromIsoFormat (pyReplace 0x5A (py "+00:00") value) with
  | none => .error (liveError (py "grant timestamp is invalid"))
  | some (.naive _) => .error (liveError (py "grant timestamp must be timezone-aware"))
  | some (.aware time offset) => time.astimezoneUtc offset

/-- What `LiveAuthorityAdmission` is constructed with, besides its stores. -/
structure LiveAuthorityConfig where
  context : ContextKey
  issuerKeys : List IssuerKeyBinding
  verifier : Verifier

def attenuateFrom (previous : Option AuthorityGrant) (grant : AuthorityGrant) :
    Except PyError Unit :=
  match previous with
  | none => .ok ()
  | some parent => rethrow isGrantError
      (fun _ => liveError (py "authority attenuation failed")) (validateAttenuation parent grant)

def checkCurrent (current : DateTime) (grant : AuthorityGrant) : Except PyError Unit := do
  let issued ← liveUtc grant.issuedAt
  let expires ← liveUtc grant.expiresAt
  raiseIf (current.packed < issued.packed) (liveError (py "grant is not yet current"))
  raiseIf (expires.packed ≤ current.packed) (liveError (py "grant is expired"))

/-- One round of the loop of `_authenticate_record`. -/
def authenticateHop (config : LiveAuthorityConfig) (state : PersistentEpochSnapshot)
    (current : DateTime) (previous : Option AuthorityGrant) (grant : AuthorityGrant) :
    Except PyError AuthenticatedAuthorityGrant := do
  rethrow isGrantError (fun _ => liveError (py "grant contract is invalid")) grant.validate
  raiseIf (grant.epoch ≠ state.epoch) (liveError (py "grant epoch is stale or future"))
  raiseIf (grant.grantId ∈ state.revokedGrantIds) (liveError (py "grant is revoked"))
  checkCurrent current grant
  attenuateFrom previous grant
  rethrow (fun _ => true)
    (fun _ => liveError (py "authority signature authentication failed"))
    (authenticateAuthorityGrant grant (.ok config.issuerKeys) config.verifier config.context)

/-- The loop of `_authenticate_record`, with the grant before. -/
def authenticateHops (config : LiveAuthorityConfig) (state : PersistentEpochSnapshot)
    (current : DateTime) : Option AuthorityGrant → List AuthorityGrant →
    Except PyError (List AuthenticatedAuthorityGrant)
  | _, [] => .ok []
  | previous, grant :: rest => do
    let authenticated ← authenticateHop config state current previous grant
    let others ← authenticateHops config state current (some grant) rest
    return authenticated :: others

def matchPersistentRoot (root : AuthorityGrant) (anchor : PersistentRootAnchor) :
    Except PyError Unit := do
  raiseIf (anchor.rootGrantId ≠ root.grantId)
    (liveError (py "canonical root anchor mismatch"))
  let digest ← root.digest
  raiseIf (anchor.rootGrantDigest ≠ digest) (liveError (py "canonical root anchor mismatch"))

/-- `_authenticate_record`, where `now` is `offset` microseconds ahead of
UTC. -/
def authenticateRecord (config : LiveAuthorityConfig) (record : AuthorityLineageRecord)
    (state : PersistentEpochSnapshot) (anchor : PersistentRootAnchor) (now : DateTime)
    (offset : Int) : Except PyError (List AuthenticatedAuthorityGrant) :=
  match record.lineage with
  | [] => .error (liveError (py "authority lineage is empty"))
  | root :: rest => do
    matchPersistentRoot root anchor
    let current ← now.astimezoneUtc offset
    authenticateHops config state current none (root :: rest)

/-! ### What the loop decides -/

def InWindow (current : DateTime) (grant : AuthorityGrant) : Prop :=
  ∃ issued expires, grantUtc grant.issuedAt = .ok issued ∧ grantUtc grant.expiresAt = .ok expires ∧
    issued.packed ≤ current.packed ∧ current.packed < expires.packed

theorem liveUtc_eq_ok {value : PyStr} {time : DateTime} :
    liveUtc value = .ok time ↔ grantUtc value = .ok time := by
  rw [liveUtc, grantUtc]
  cases fromIsoFormat (pyReplace 0x5A (py "+00:00") value) with
  | none => simp
  | some moment => cases moment <;> simp

variable {current : DateTime} {previous : Option AuthorityGrant}

theorem checkCurrent_eq_ok {grant : AuthorityGrant} :
    checkCurrent current grant = .ok () ↔ InWindow current grant := by
  simp only [checkCurrent, InWindow, bind_eq_ok, raiseIf_eq_ok, not_lt, not_le, liveUtc_eq_ok]
  constructor
  · rintro ⟨issued, isIssued, expires, isExpires, _, after, before⟩
    exact ⟨issued, expires, isIssued, isExpires, after, before⟩
  · rintro ⟨issued, expires, isIssued, isExpires, after, before⟩
    exact ⟨issued, isIssued, expires, isExpires, (), after, before⟩

def AttenuatedFrom (previous : Option AuthorityGrant) (grant : AuthorityGrant) : Prop :=
  ∀ parent ∈ previous, validateAttenuation parent grant = .ok ()

theorem attenuateFrom_eq_ok {grant : AuthorityGrant} :
    attenuateFrom previous grant = .ok () ↔ AttenuatedFrom previous grant := by
  cases previous with
  | none => simp [attenuateFrom, AttenuatedFrom]
  | some parent => simp [attenuateFrom, AttenuatedFrom]

variable {config : LiveAuthorityConfig} {state : PersistentEpochSnapshot}
  {anchor : PersistentRootAnchor} {record : AuthorityLineageRecord}

theorem authenticateHop_eq_ok {grant : AuthorityGrant} {authenticated : AuthenticatedAuthorityGrant} :
    authenticateHop config state current previous grant = .ok authenticated ↔
      grant.epoch = state.epoch ∧ grant.grantId ∉ state.revokedGrantIds ∧
      InWindow current grant ∧ AttenuatedFrom previous grant ∧
      authenticateAuthorityGrant grant (.ok config.issuerKeys) config.verifier config.context =
        .ok authenticated := by
  simp only [authenticateHop, bind_eq_ok, rethrow_eq_ok, raiseIf_eq_ok, ne_eq, not_not]
  constructor
  · rintro ⟨_, -, _, epoch, _, notRevoked, _, current, _, attenuated, accepted⟩
    exact ⟨epoch, notRevoked, checkCurrent_eq_ok.mp current, attenuateFrom_eq_ok.mp attenuated,
      accepted⟩
  · rintro ⟨epoch, notRevoked, current, attenuated, accepted⟩
    exact ⟨(), (authenticateAuthorityGrant_eq_ok accepted).1, (), epoch, (), notRevoked, (),
      checkCurrent_eq_ok.mpr current, (), attenuateFrom_eq_ok.mpr attenuated, accepted⟩

def AttenuatedChain (previous : Option AuthorityGrant) (lineage : List AuthorityGrant) : Prop :=
  (∀ grant ∈ lineage.head?, AttenuatedFrom previous grant) ∧
    lineage.IsChain fun parent child => validateAttenuation parent child = .ok ()

def HopAccepted (config : LiveAuthorityConfig) (state : PersistentEpochSnapshot)
    (current : DateTime) (grant : AuthorityGrant) (authenticated : AuthenticatedAuthorityGrant) :
    Prop :=
  grant.epoch = state.epoch ∧ grant.grantId ∉ state.revokedGrantIds ∧ InWindow current grant ∧
    authenticateAuthorityGrant grant (.ok config.issuerKeys) config.verifier config.context =
      .ok authenticated

theorem attenuatedChain_cons {grant : AuthorityGrant} {rest : List AuthorityGrant} :
    AttenuatedChain previous (grant :: rest) ↔
      AttenuatedFrom previous grant ∧ AttenuatedChain (some grant) rest := by
  cases rest with
  | nil => simp [AttenuatedChain]
  | cons next rest => simp [AttenuatedChain, AttenuatedFrom]

theorem authenticateHops_eq_ok {lineage : List AuthorityGrant}
    {results : List AuthenticatedAuthorityGrant} :
    authenticateHops config state current previous lineage = .ok results ↔
      AttenuatedChain previous lineage ∧
        List.Forall₂ (HopAccepted config state current) lineage results := by
  induction lineage generalizing previous results with
  | nil =>
    rw [authenticateHops, List.forall₂_nil_left_iff, Except.ok.injEq]
    constructor
    · rintro rfl
      exact ⟨⟨by simp, .nil⟩, rfl⟩
    · rintro ⟨-, rfl⟩
      rfl
  | cons grant rest ih =>
    rw [authenticateHops, attenuatedChain_cons, List.forall₂_cons_left_iff]
    simp only [bind_eq_ok, pure_eq_ok, authenticateHop_eq_ok, ih]
    constructor
    · rintro ⟨result, ⟨epoch, notRevoked, window, attenuated, accepted⟩, others,
        ⟨chain, all⟩, rfl⟩
      exact ⟨⟨attenuated, chain⟩, result, others, ⟨epoch, notRevoked, window, accepted⟩, all,
        rfl⟩
    · rintro ⟨⟨attenuated, chain⟩, result, others, ⟨epoch, notRevoked, window, accepted⟩, all,
        rfl⟩
      exact ⟨result, ⟨epoch, notRevoked, window, attenuated, accepted⟩, others, ⟨chain, all⟩,
        rfl⟩

/-! ### Two paths of admission -/

/-- The registries of the process and the store hold the same epoch, the same
revoked set and the same root anchor. -/
structure SameAuthority (registries : AuthorityRegistries) (store : AuthorityStore)
    (context : ContextKey) (owner : OwnerRef) (state : PersistentEpochSnapshot)
    (anchor : PersistentRootAnchor) : Prop where
  owned : registries.owners.lookup context = some owner
  sameContext : (registries.states owner).context = context
  snapshot : store.currentEpoch context = .ok state
  resolved : store.resolveRoot context state.epoch = .ok anchor
  epoch : (registries.states owner).epoch = state.epoch
  revoked : ∀ grantId, grantId ∈ state.revokedGrantIds ↔
    grantId ∈ (registries.states owner).revokedGrantIds
  anchored : registries.anchors.lookup (context, state.epoch) =
    some ⟨anchor.rootGrantId, anchor.rootGrantDigest⟩

def LiveAccepts (config : LiveAuthorityConfig) (record : AuthorityLineageRecord)
    (state : PersistentEpochSnapshot) (anchor : PersistentRootAnchor) (now : DateTime)
    (offset : Int) (digests : List PyStr) : Prop :=
  ∃ results, authenticateRecord config record state anchor now offset = .ok results ∧
    results.map AuthenticatedAuthorityGrant.grantDigest = digests

/-- The lineage is admitted in the process, with these grant digests. -/
def RegistryAccepts (config : LiveAuthorityConfig) (registries : AuthorityRegistries)
    (lineage : List AuthorityGrant) (digests : List PyStr) : Prop :=
  ∃ admitted, (PyProg.runAlone (authenticateAndAdmitAuthorityLineage lineage
      (.ok config.issuerKeys) config.verifier config.context) registries).2 = .ok admitted ∧
    admitted.grantDigests = digests

structure CommonChecks (config : LiveAuthorityConfig) (state : PersistentEpochSnapshot)
    (anchor : PersistentRootAnchor) (lineage : List AuthorityGrant) : Prop where
  root : ∀ root ∈ lineage.head?, root.grantId = anchor.rootGrantId ∧
    root.digest = .ok anchor.rootGrantDigest
  chain : lineage.IsChain fun parent child => validateAttenuation parent child = .ok ()
  admitted : ∀ grant ∈ lineage, grant.epoch = state.epoch ∧ grant.grantId ∉ state.revokedGrantIds
  authenticated : ∀ grant ∈ lineage, ∃ result, authenticateAuthorityGrant grant
    (.ok config.issuerKeys) config.verifier config.context = .ok result

def AuthenticatedDigests (config : LiveAuthorityConfig) (lineage : List AuthorityGrant)
    (digests : List PyStr) : Prop :=
  ∃ results, List.Forall₂ (fun grant result => authenticateAuthorityGrant grant
      (.ok config.issuerKeys) config.verifier config.context = .ok result) lineage results ∧
    results.map AuthenticatedAuthorityGrant.grantDigest = digests

theorem CommonChecks.exists_digests {lineage : List AuthorityGrant}
    (common : CommonChecks config state anchor lineage) :
    ∃ digests, AuthenticatedDigests config lineage digests := by
  obtain ⟨results, mapped⟩ := exists_mapM_eq_ok common.authenticated
  exact ⟨_, results, mapM_eq_ok.mp mapped, rfl⟩

theorem matchPersistentRoot_eq_ok {root : AuthorityGrant} :
    matchPersistentRoot root anchor = .ok () ↔
      root.grantId = anchor.rootGrantId ∧ root.digest = .ok anchor.rootGrantDigest := by
  simp only [matchPersistentRoot, bind_eq_ok, raiseIf_eq_ok, ne_eq, not_not]
  constructor
  · rintro ⟨_, sameId, digest, digested, sameDigest⟩
    exact ⟨sameId.symm, sameDigest ▸ digested⟩
  · rintro ⟨sameId, digested⟩
    exact ⟨(), sameId.symm, _, digested, rfl⟩

theorem liveAccepts_iff {now : DateTime} {offset : Int} {digests : List PyStr}
    (valid : record.validate = .ok ()) (isCurrent : now.astimezoneUtc offset = .ok current)
    (windows : ∀ grant ∈ record.lineage, InWindow current grant) :
    LiveAccepts config record state anchor now offset digests ↔
      CommonChecks config state anchor record.lineage ∧
        AuthenticatedDigests config record.lineage digests := by
  obtain ⟨root, rest, shape, -⟩ := AuthorityLineageRecord.exists_of_validate valid
  rw [LiveAccepts, authenticateRecord, shape]
  rw [shape] at windows
  simp only [bind_eq_ok, isCurrent, authenticateHops_eq_ok]
  constructor
  · rintro ⟨results, ⟨_, isRoot, _, same, chain, all⟩, rfl⟩
    refine ⟨⟨?_, chain.2, ?_, ?_⟩, results, all.imp fun _ _ hop => hop.2.2.2, rfl⟩
    · rintro _ ⟨⟩
      exact matchPersistentRoot_eq_ok.mp isRoot
    · intro grant member
      obtain ⟨_, -, epoch, notRevoked, -⟩ := exists_right_of_forall₂ all member
      exact ⟨epoch, notRevoked⟩
    · intro grant member
      obtain ⟨result, -, -, -, -, accepted⟩ := exists_right_of_forall₂ all member
      exact ⟨result, accepted⟩
  · rintro ⟨common, results, all, rfl⟩
    refine ⟨results, ⟨(), matchPersistentRoot_eq_ok.mpr (common.root root rfl), current, rfl, ?_, ?_⟩,
      rfl⟩
    · exact ⟨fun _ _ => by simp [AttenuatedFrom], common.chain⟩
    · rw [List.forall₂_iff_zip] at all ⊢
      refine ⟨all.1, fun member => ?_⟩
      have grantMember := (List.of_mem_zip member).1
      obtain ⟨epoch, notRevoked⟩ := common.admitted _ grantMember
      exact ⟨epoch, notRevoked, windows _ grantMember, all.2 member⟩

theorem matchRootAnchor_eq_ok {root : AuthorityGrant} {trusted : AuthorityLineageRootAnchor} :
    matchRootAnchor root trusted = .ok () ↔
      root.grantId = trusted.rootGrantId ∧ root.digest = .ok trusted.rootGrantDigest := by
  simp only [matchRootAnchor, bind_eq_ok, raiseIf_eq_ok, ne_eq, not_not]
  constructor
  · rintro ⟨_, sameId, digest, digested, rfl⟩
    exact ⟨sameId, digested⟩
  · rintro ⟨sameId, digested⟩
    exact ⟨(), sameId, _, digested, rfl⟩

theorem authenticateLineage_eq_ok {trusted : AuthorityLineageRootAnchor} {root : AuthorityGrant}
    {lineage : List AuthorityGrant} {results : List AuthenticatedAuthorityGrant} :
    authenticateLineage trusted root lineage (.ok config.issuerKeys) config.verifier
        config.context = .ok results ↔
      matchRootAnchor root trusted = .ok () ∧
      (lineage.IsChain fun parent child => validateAttenuation parent child = .ok ()) ∧
      List.Forall₂ (fun grant result => authenticateAuthorityGrant grant
        (.ok config.issuerKeys) config.verifier config.context = .ok result) lineage results := by
  simp only [authenticateLineage, bind_eq_ok, rethrow_eq_ok]
  constructor
  · rintro ⟨_, matched, _, chain, bindings, same, mapped⟩
    obtain rfl := Except.ok.inj same
    exact ⟨matched, forM_zip_tail_eq_ok.mp chain, mapM_eq_ok.mp mapped⟩
  · rintro ⟨matched, chain, all⟩
    exact ⟨(), matched, (), forM_zip_tail_eq_ok.mpr chain, _, rfl, mapM_eq_ok.mpr all⟩

/-- In the process, the lineage of a valid record is admitted when the common
checks pass and the identifiers are distinct. -/
theorem registryAccepts_iff {registries : AuthorityRegistries} {store : AuthorityStore}
    {owner : OwnerRef} {digests : List PyStr} (valid : record.validate = .ok ())
    (same : SameAuthority registries store config.context owner state anchor) :
    RegistryAccepts config registries record.lineage digests ↔
      (record.lineage.map AuthorityGrant.grantId).Nodup ∧
        CommonChecks config state anchor record.lineage ∧
        AuthenticatedDigests config record.lineage digests := by
  obtain ⟨root, rest, shape, noParent, allValid, -⟩ :=
    AuthorityLineageRecord.exists_of_validate valid
  rw [shape] at allValid ⊢
  simp only [RegistryAccepts, views_authenticateAndAdmit _ _ _ _ registries]
  rw [exists_admitLineageIn_iff same.owned same.sameContext]
  constructor
  · rintro ⟨results, ⟨shapeOk, ⟨trusted, isTrusted, accepted⟩, admitted⟩, rfl⟩
    simp only [validateLineageShape, bind_eq_ok, raiseIf_eq_ok, not_not] at shapeOk
    obtain ⟨_, -, _, -, _, -, distinct⟩ := shapeOk
    obtain ⟨matched, chain, all⟩ := authenticateLineage_eq_ok.mp accepted
    obtain ⟨rootEpoch, -⟩ := admitted root (by simp)
    -- the root is of the current epoch, so its anchor is the one of that epoch
    rw [rootEpoch, same.epoch, AuthorityRegistries.resolveAnchor, same.anchored, bind_eq_ok]
      at isTrusted
    obtain ⟨_, -, isTrusted⟩ := isTrusted
    obtain rfl := Except.ok.inj isTrusted
    refine ⟨distinct, ⟨?_, chain, ?_, ?_⟩, results, all, rfl⟩
    · rintro _ ⟨⟩
      exact matchRootAnchor_eq_ok.mp matched
    · intro grant member
      obtain ⟨epoch, notRevoked⟩ := admitted grant member
      rw [same.revoked]
      exact ⟨epoch.trans same.epoch, notRevoked⟩
    · intro grant member
      obtain ⟨result, -, grantAccepted⟩ := exists_right_of_forall₂ all member
      exact ⟨result, grantAccepted⟩
  · rintro ⟨distinct, common, results, all, rfl⟩
    obtain ⟨rootEpoch, -⟩ := common.admitted root (by simp)
    have epochOk : 0 ≤ root.epoch :=
      (AuthorityGrant.valid_of_validate (allValid root (by simp)).1).epoch
    have contextOk : config.context.validate = .ok () := by
      obtain ⟨result, accepted⟩ := common.authenticated root (by simp)
      simp only [authenticateAuthorityGrant, bind_eq_ok] at accepted
      obtain ⟨_, contextOk, -⟩ := accepted
      exact contextOk
    refine ⟨results, ⟨?_, ⟨⟨anchor.rootGrantId, anchor.rootGrantDigest⟩, ?_, ?_⟩, ?_⟩, rfl⟩
    · simp only [validateLineageShape, validEpoch, bind_eq_ok, raiseIf_eq_ok, not_not, not_lt,
        ne_eq]
      exact ⟨(), contextOk, (), epochOk, (), noParent, distinct⟩
    · rw [AuthorityRegistries.resolveAnchor, rootEpoch, same.anchored, validEpoch, raiseIf,
        if_neg (by omega), ok_bind]
      rfl
    · exact authenticateLineage_eq_ok.mpr
        ⟨matchRootAnchor_eq_ok.mpr (common.root root rfl), common.chain, all⟩
    · intro grant member
      obtain ⟨epoch, notRevoked⟩ := common.admitted grant member
      rw [same.revoked] at notRevoked
      exact ⟨epoch.trans same.epoch.symm, notRevoked⟩

/-- The two paths accept the same lineages with the same digests exactly when
the identifiers of the lineage are distinct, or some check that both make
refuses it. -/
theorem liveAccepts_iff_registryAccepts_iff {registries : AuthorityRegistries}
    {store : AuthorityStore} {owner : OwnerRef} {now current : DateTime} {offset : Int}
    (same : SameAuthority registries store config.context owner state anchor)
    (valid : record.validate = .ok ()) (isCurrent : now.astimezoneUtc offset = .ok current)
    (windows : ∀ grant ∈ record.lineage, InWindow current grant) :
    (∀ digests, LiveAccepts config record state anchor now offset digests ↔
      RegistryAccepts config registries record.lineage digests) ↔
      (record.lineage.map AuthorityGrant.grantId).Nodup ∨
        ¬ CommonChecks config state anchor record.lineage := by
  simp only [liveAccepts_iff valid isCurrent windows, registryAccepts_iff valid same]
  constructor
  · intro agree
    by_cases common : CommonChecks config state anchor record.lineage
    · obtain ⟨digests, accepted⟩ := common.exists_digests
      exact .inl ((agree digests).mp ⟨common, accepted⟩).1
    · exact .inr common
  · rintro (distinct | refused) digests
    · simp only [distinct, true_and]
    · simp only [refused, false_and, and_false]

/-! ### Lineages of a survey mission -/

def surveyConfig : LiveAuthorityConfig :=
  ⟨surveyContext, surveyKeys, acceptingVerifier⟩

def surveyKey (grantId : PyStr) : AuthorityLookupKey :=
  ⟨py "core/api", 7, List.replicate 40 0x61, List.replicate 40 0x62, py "survey", grantId⟩

def surveyRecord (lineage : List AuthorityGrant) (grantId digest : PyStr) :
    AuthorityLineageRecord :=
  ⟨surveyKey grantId, lineage, digest, py "ledger", py "trusted-control-plane"⟩

/-- The store that holds what `surveyRegistries` hold. -/
def surveyStore (rootGrantDigest : PyStr) : AuthorityStore :=
  ⟨[⟨surveyContext, 3, py "[\"old\"]", 1⟩], [⟨surveyContext, 3, py "root", rootGrantDigest⟩], []⟩

def surveySnapshot : PersistentEpochSnapshot :=
  ⟨surveyContext, 3, [py "old"], 1⟩

def surveyAnchor (rootGrantDigest : PyStr) : PersistentRootAnchor :=
  ⟨surveyContext, 3, py "root", rootGrantDigest⟩

theorem sameAuthority_survey (digest : PyStr) :
    SameAuthority (surveyRegistries (py "root") digest) (surveyStore digest) surveyContext 0
      surveySnapshot (surveyAnchor digest) where
  owned := rfl
  sameContext := rfl
  snapshot := by
    have read : AuthorityStore.currentEpoch surveyContext
        ⟨[⟨surveyContext, 3, py "[\"old\"]", 1⟩], [], []⟩ = .ok surveySnapshot := by
      decide +kernel
    rw [← read]
    exact AuthorityStore.currentEpoch_congr rfl
  resolved := rfl
  epoch := rfl
  revoked := fun _ => Iff.rfl
  anchored := rfl

def surveyNow : DateTime :=
  ⟨2026, 1, 15, 12, 0, 0, 0, rfl⟩

theorem inWindow_surveyGrant (grantId issuer subject : PyStr) (parent : Option PyStr)
    (budget : Int) : InWindow surveyNow (surveyGrant grantId issuer subject parent budget) := by
  have issued : grantUtc (py "2026-01-01T00:00:00Z") = .ok ⟨2026, 1, 1, 0, 0, 0, 0, rfl⟩ := by
    decide +kernel
  have expires : grantUtc (py "2026-02-01T00:00:00Z") = .ok ⟨2026, 2, 1, 0, 0, 0, 0, rfl⟩ := by
    decide +kernel
  exact ⟨_, _, issued, expires, by decide, by decide⟩

/-- The record of a lineage under the digest of the lineage, validated. -/
def sealedRecord (lineage : List AuthorityGrant) (grantId : PyStr) :
    Except PyError AuthorityLineageRecord := do
  let digest ← canonicalSourceLineageDigest lineage
  (surveyRecord lineage grantId digest).validate
  return surveyRecord lineage grantId digest

theorem exists_valid_of_sealedRecord {lineage : List AuthorityGrant} {grantId : PyStr}
    (returns : returned (sealedRecord lineage grantId) = true) :
    ∃ digest, (surveyRecord lineage grantId digest).validate = .ok () := by
  obtain ⟨record, sealedIt⟩ := exists_eq_ok_of_returned returns
  simp only [sealedRecord, bind_eq_ok] at sealedIt
  obtain ⟨digest, -, _, valid, -⟩ := sealedIt
  exact ⟨digest, valid⟩

theorem sealedRecord_survey :
    returned (sealedRecord [surveyRoot, surveyLeaf] (py "leaf")) = true := by
  delta sealedRecord AuthorityLineageRecord.validate AuthorityLineageRecord.validateLeaf
    canonicalSourceLineageDigest AuthorityGrant.digest
  rw [Sha256.sha256_eq_evalText]
  decide +kernel

theorem commonChecks_survey {root : AuthorityGrant} {rest : List AuthorityGrant} {digest : PyStr}
    (isRoot : root.grantId = py "root") (digested : root.digest = .ok digest)
    (chain : (root :: rest).IsChain fun parent child => validateAttenuation parent child = .ok ())
    (all : ∀ grant ∈ root :: rest, grant.epoch = 3 ∧ grant.grantId ≠ py "old" ∧
      ∃ result, authenticateAuthorityGrant grant (.ok surveyKeys) acceptingVerifier
        surveyContext = .ok result) :
    CommonChecks surveyConfig surveySnapshot (surveyAnchor digest) (root :: rest) where
  root := by
    rintro _ ⟨⟩
    exact ⟨isRoot, digested⟩
  chain := chain
  admitted := by
    intro grant member
    obtain ⟨epoch, notOld, -⟩ := all grant member
    exact ⟨epoch, by simpa [surveySnapshot] using notOld⟩
  authenticated := fun grant member => (all grant member).2.2

theorem liveAccepts_iff_registryAccepts_survey : ∃ registries store record anchor,
    SameAuthority registries store surveyContext 0 surveySnapshot anchor ∧
    record.validate = .ok () ∧ record.lineage = [surveyRoot, surveyLeaf] ∧
    ∀ digests, LiveAccepts surveyConfig record surveySnapshot anchor surveyNow 0 digests ↔
      RegistryAccepts surveyConfig registries record.lineage digests := by
  obtain ⟨rootDigest, -⟩ := AuthorityGrant.exists_digest (rfl : surveyRoot.validate = .ok ()) rfl rfl
  obtain ⟨digest, valid⟩ := exists_valid_of_sealedRecord sealedRecord_survey
  have same := sameAuthority_survey rootDigest
  refine ⟨_, _, _, _, same, valid, rfl, ?_⟩
  apply (liveAccepts_iff_registryAccepts_iff same valid rfl _).mpr
  · have distinct : ([surveyRoot, surveyLeaf].map AuthorityGrant.grantId).Nodup := by decide
    exact .inl distinct
  · simp only [surveyRecord, List.forall_mem_cons]
    exact ⟨inWindow_surveyGrant .., inWindow_surveyGrant .., by simp⟩

def loopedRoot : AuthorityGrant :=
  surveyGrant (py "root") (py "owner") (py "lead") none 2

def loopedMiddle : AuthorityGrant :=
  surveyGrant (py "middle") (py "lead") (py "owner") (some (py "root")) 1

def loopedLeaf : AuthorityGrant :=
  surveyGrant (py "root") (py "owner") (py "drone") (some (py "middle")) 0

theorem looped_returns :
    returned (sealedRecord [loopedRoot, loopedMiddle, loopedLeaf] (py "root")) = true ∧
    ∀ grant ∈ [loopedRoot, loopedMiddle, loopedLeaf], returned (authenticateAuthorityGrant grant
      (.ok surveyKeys) acceptingVerifier surveyContext) = true := by
  delta sealedRecord AuthorityLineageRecord.validate AuthorityLineageRecord.validateLeaf
    canonicalSourceLineageDigest authenticateAuthorityGrant AuthorityGrant.digest
  rw [Sha256.sha256_eq_evalText]
  decide +kernel

/-- A valid record whose leaf repeats the identifier of its root authenticates
against the store and is not admitted in the process. -/
theorem liveAccepts_looped : ∃ registries store record anchor,
    SameAuthority registries store surveyContext 0 surveySnapshot anchor ∧
    record.validate = .ok () ∧ record.lineage = [loopedRoot, loopedMiddle, loopedLeaf] ∧
    (∀ grant ∈ record.lineage, InWindow surveyNow grant) ∧
    ¬ ∀ digests, LiveAccepts surveyConfig record surveySnapshot anchor surveyNow 0 digests ↔
      RegistryAccepts surveyConfig registries record.lineage digests := by
  obtain ⟨rootDigest, rootDigested⟩ :=
    AuthorityGrant.exists_digest (rfl : loopedRoot.validate = .ok ()) rfl rfl
  obtain ⟨digest, valid⟩ := exists_valid_of_sealedRecord looped_returns.1
  have same := sameAuthority_survey rootDigest
  have windows : ∀ grant ∈ [loopedRoot, loopedMiddle, loopedLeaf], InWindow surveyNow grant := by
    simp only [List.forall_mem_cons]
    exact ⟨inWindow_surveyGrant .., inWindow_surveyGrant .., inWindow_surveyGrant .., by simp⟩
  have common : CommonChecks surveyConfig surveySnapshot (surveyAnchor rootDigest)
      [loopedRoot, loopedMiddle, loopedLeaf] := by
    apply commonChecks_survey rfl rootDigested
    · rw [List.isChain_cons_cons, List.isChain_pair]
      exact ⟨eq_ok_of_returned (by decide +kernel), eq_ok_of_returned (by decide +kernel)⟩
    · have admitted : ∀ grant ∈ [loopedRoot, loopedMiddle, loopedLeaf],
          grant.epoch = 3 ∧ grant.grantId ≠ py "old" := by decide
      intro grant member
      exact ⟨(admitted grant member).1, (admitted grant member).2,
        exists_eq_ok_of_returned (looped_returns.2 grant member)⟩
  refine ⟨_, _, _, _, same, valid, rfl, windows, ?_⟩
  intro agree
  obtain ⟨grantDigests, accepted⟩ := common.exists_digests
  have live : LiveAccepts surveyConfig _ surveySnapshot _ surveyNow 0 grantDigests :=
    (liveAccepts_iff valid rfl windows).mpr ⟨common, accepted⟩
  have repeated : ¬ ([loopedRoot, loopedMiddle, loopedLeaf].map AuthorityGrant.grantId).Nodup := by
    decide
  exact repeated ((registryAccepts_iff valid same).mp ((agree grantDigests).mp live)).1

end CyberLion
