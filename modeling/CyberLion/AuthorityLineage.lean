import CyberLion.AuthorityAttenuation
import CyberLion.AuthorityRevocation
import CyberLion.Sha256Evaluation

/-!
# Accepted lineages

What the admission of a lineage establishes among the calls of other threads:
the leaf is contained in the root, and all grants are admitted against one
epoch state that was current at one instant of the call.
-/

namespace CyberLion

open PyLib

variable {between : AuthorityRegistries → AuthorityRegistries → Prop}
  {issuerKeys : IssuerKeys} {verifier : Verifier} {context : ContextKey}

/-! ### The steps of an accepted call -/

/-- The four instants at which an accepted call meets the registries, and what
it finds there. -/
structure AcceptedLineage (root : AuthorityGrant) (rest : List AuthorityGrant)
    (issuerKeys : IssuerKeys) (verifier : Verifier) (context : ContextKey)
    (resolved required anchored current : AuthorityRegistries) (owner : OwnerRef)
    (admitted : EpochAdmittedAuthorityLineage) : Prop where
  shape : validateLineageShape context root (root :: rest) = .ok ()
  isOwner : resolved.resolveOwner context = .ok owner
  isRequired : required.requireContext owner context = .ok ()
  evidence : ∃ anchor authenticated grants,
    anchored.resolveAnchor context root.epoch = .ok anchor ∧
    authenticateLineage anchor root (root :: rest) issuerKeys verifier context =
      .ok authenticated ∧
    admitAuthenticatedLineage owner context (root :: rest) authenticated current = .ok grants ∧
    admittedLineage context root ((root :: rest).getLast (by simp)) (root :: rest) grants =
      .ok admitted

theorem exists_instants_of_accepted {lineage : List AuthorityGrant}
    {start final : AuthorityRegistries} {instants : List AuthorityRegistries}
    {admitted : EpochAdmittedAuthorityLineage}
    (accepted : PyProg.Exec between
      (authenticateAndAdmitAuthorityLineage lineage issuerKeys verifier context) start instants
      final (.ok admitted)) :
    ∃ root rest resolved required anchored owner, lineage = root :: rest ∧
      instants = [resolved, required, anchored, final] ∧
      AcceptedLineage root rest issuerKeys verifier context resolved required anchored final owner
        admitted := by
  cases lineage with
  | nil => simp [authenticateAndAdmitAuthorityLineage] at accepted
  | cons root rest =>
    simp only [authenticateAndAdmitAuthorityLineage, PyProg.exec_bind_ok, PyProg.exec_lift,
      PyProg.exec_read] at accepted
    obtain ⟨_, _, _, _, rfl, ⟨rfl, rfl, shape⟩, _, resolved, owner, _, rfl, ⟨rfl, -, isOwner⟩,
      _, required, _, _, rfl, ⟨rfl, -, isRequired⟩, _, anchored, anchor, _, rfl,
      ⟨rfl, -, isAnchor⟩, _, _, authenticated, _, rfl, ⟨rfl, rfl, isAuthenticated⟩, _, current,
      grants, _, rfl, ⟨rfl, -, isAdmitted⟩, rfl, rfl, isResult⟩ := accepted
    exact ⟨root, rest, resolved, required, _, owner, rfl, rfl, shape.symm, isOwner, isRequired,
      anchor, authenticated, grants, isAnchor, isAuthenticated.symm, isAdmitted, isResult.symm⟩

/-! ### A call that nothing disturbs -/

/-- `authenticate_and_admit_authority_lineage` when no other thread changes the
registries meanwhile. -/
def admitLineageIn (registries : AuthorityRegistries) (lineage : List AuthorityGrant)
    (issuerKeys : IssuerKeys) (verifier : Verifier) (context : ContextKey) :
    Except PyError EpochAdmittedAuthorityLineage :=
  match lineage with
  | [] => .error (revocationError (py "lineage must be a non-empty immutable tuple"))
  | root :: rest => do
    validateLineageShape context root (root :: rest)
    let owner ← registries.resolveOwner context
    registries.requireContext owner context
    let anchor ← registries.resolveAnchor context root.epoch
    let authenticated ←
      authenticateLineage anchor root (root :: rest) issuerKeys verifier context
    let admitted ← admitAuthenticatedLineage owner context (root :: rest) authenticated registries
    admittedLineage context root ((root :: rest).getLast (List.cons_ne_nil root rest))
      (root :: rest) admitted

theorem views_authenticateAndAdmit (lineage : List AuthorityGrant) (issuerKeys : IssuerKeys)
    (verifier : Verifier) (context : ContextKey) :
    PyProg.Views (authenticateAndAdmitAuthorityLineage lineage issuerKeys verifier context)
      fun registries => admitLineageIn registries lineage issuerKeys verifier context := by
  cases lineage with
  | nil => exact PyProg.views_lift _
  | cons root rest =>
    apply (PyProg.views_lift _).bind
    intro _
    apply (PyProg.views_read _).bind
    intro owner
    apply (PyProg.views_read _).bind
    intro _
    apply (PyProg.views_read _).bind
    intro anchor
    apply (PyProg.views_lift _).bind
    intro authenticated
    apply (PyProg.views_read _).bind
    intro admitted
    exact PyProg.views_lift _

/-! ### One epoch state -/

def AdmittedIn (state : AuthorityEpochState) (lineage : List AuthorityGrant) : Prop :=
  ∀ grant ∈ lineage, grant.epoch = state.epoch ∧ grant.grantId ∉ state.revokedGrantIds

variable {owner : OwnerRef} {authenticated : List AuthenticatedAuthorityGrant}
  {registries : AuthorityRegistries}

theorem admittedIn_of_admitAuthenticatedLineage {lineage : List AuthorityGrant}
    {grants : List EpochAdmittedAuthorityGrant}
    (admitted : admitAuthenticatedLineage owner context lineage authenticated registries =
      .ok grants) :
    (registries.states owner).context = context ∧
      AdmittedIn (registries.states owner) lineage := by
  simp only [admitAuthenticatedLineage, AuthorityRegistries.requireContext, bind_eq_ok,
    raiseIf_eq_ok, not_or, ne_eq, not_not] at admitted
  obtain ⟨_, ⟨-, lengths⟩, _, sameContext, hops⟩ := admitted
  refine ⟨sameContext, ?_⟩
  intro grant member
  have firsts : (lineage.zip authenticated).map Prod.fst = lineage :=
    List.map_fst_zip lengths.le
  rw [← firsts] at member
  obtain ⟨hop, hopMember, rfl⟩ := List.mem_map.mp member
  obtain ⟨result, -, hopAdmitted⟩ := exists_right_of_forall₂ (mapM_eq_ok.mp hops) hopMember
  simp only [admitAuthenticatedGrant, bind_eq_ok, raiseIf_eq_ok, ne_eq, not_not] at hopAdmitted
  obtain ⟨_, -, _, -, _, -, _, sameEpoch, _, notRevoked, -⟩ := hopAdmitted
  exact ⟨sameEpoch, notRevoked⟩

theorem isChain_of_authenticateLineage {anchor : AuthorityLineageRootAnchor} {root : AuthorityGrant}
    {lineage : List AuthorityGrant}
    (accepted : authenticateLineage anchor root lineage issuerKeys verifier context =
      .ok authenticated) :
    root.validate = .ok () ∧ lineage.IsChain Delegates := by
  simp only [authenticateLineage, matchRootAnchor, AuthorityGrant.digest,
    AuthorityGrant.canonicalPayload, bind_eq_ok] at accepted
  obtain ⟨_, ⟨_, -, _, ⟨_, ⟨_, valid, -⟩, -⟩, -⟩, _, chain, -⟩ := accepted
  refine ⟨valid, ?_⟩
  apply (forM_zip_tail_eq_ok.mp chain).imp
  intro parent child attenuated
  exact delegates_of_validateAttenuation attenuated

/-! ### When an undisturbed call succeeds -/

theorem isEncodable_of_isLowerHex {text : PyStr}
    (hex : ∀ c ∈ text, CodePoint.isLowerHex c = true) : Json.IsAscii text := by
  intro c member
  have digit := hex c member
  simp only [CodePoint.isLowerHex, CodePoint.isAsciiDigit, Bool.or_eq_true, Bool.and_eq_true,
    decide_eq_true_eq] at digit
  omega

theorem isAscii_pyJoin {separator : PyStr} {parts : List PyStr}
    (separatorAscii : Json.IsAscii separator) (all : ∀ part ∈ parts, Json.IsAscii part) :
    Json.IsAscii (pyJoin separator parts) := by
  induction parts with
  | nil => exact fun _ member => by simp [pyJoin] at member
  | cons part parts ih =>
    cases parts with
    | nil => exact all part (by simp)
    | cons next parts =>
      rw [pyJoin, Json.isAscii_append, Json.isAscii_append]
      exact ⟨⟨all part (by simp), separatorAscii⟩,
        ih fun other member => all other (by simp [member])⟩

theorem exists_lineageDigest {digests : List PyStr} (nonempty : digests ≠ [])
    (hex : ∀ digest ∈ digests, isLowerHexOf 64 digest = true) :
    ∃ digest, lineageDigest digests = .ok digest := by
  have ascii : Json.IsAscii (lineagePayload digests) := by
    rw [lineagePayload, Json.isAscii_append]
    refine ⟨by decide, isAscii_pyJoin (by decide) ?_⟩
    intro digest member
    have shape := hex digest member
    rw [isLowerHexOf, Bool.and_eq_true, List.all_eq_true] at shape
    exact isEncodable_of_isLowerHex shape.2
  have encoded : encodeUtf8 (lineagePayload digests) =
      .ok ⟨lineagePayload digests, Json.isEncodable_of_isAscii ascii⟩ :=
    encodeUtf8_eq_ok.mpr rfl
  refine ⟨sha256 ⟨lineagePayload digests, Json.isEncodable_of_isAscii ascii⟩, ?_⟩
  have allHex : ¬ ∃ digest ∈ digests, ¬ isLowerHexOf 64 digest = true := by
    push Not
    exact hex
  rw [lineageDigest, raiseIf, if_neg nonempty, ok_bind, raiseIf, if_neg allHex, ok_bind, encoded,
    ok_bind]
  rfl

def admittedGrant (context : ContextKey)
    (hop : AuthorityGrant × AuthenticatedAuthorityGrant) : EpochAdmittedAuthorityGrant :=
  ⟨hop.1.grantId, hop.1.subjectId,
    ⟨context.trustDomain, hop.1.tenantId, hop.1.organizationId, hop.1.missionId⟩, hop.1.epoch,
    hop.2.grantDigest⟩

theorem admitAuthenticatedGrant_eq_ok {state : AuthorityEpochState} {grant : AuthorityGrant}
    {authenticated : AuthenticatedAuthorityGrant}
    (accepted : authenticateAuthorityGrant grant issuerKeys verifier context = .ok authenticated)
    (sameEpoch : grant.epoch = state.epoch) (notRevoked : grant.grantId ∉ state.revokedGrantIds) :
    admitAuthenticatedGrant context state grant authenticated =
      .ok (admittedGrant context (grant, authenticated)) := by
  obtain ⟨-, -, -, -, digested, binding, payload, payloadEq, isAuthenticated⟩ :=
    authenticateAuthorityGrant_eq_ok accepted
  rw [admitAuthenticatedGrant, payloadEq, ok_bind, digested, ok_bind]
  rw [isAuthenticated]
  simp [raiseIf, sameEpoch, notRevoked, admittedGrant]

/-- What decides about a lineage when the owner of its context is known. -/
structure AdmissibleLineage (registries : AuthorityRegistries) (state : AuthorityEpochState)
    (root : AuthorityGrant) (lineage : List AuthorityGrant) (issuerKeys : IssuerKeys)
    (verifier : Verifier) (context : ContextKey)
    (authenticated : List AuthenticatedAuthorityGrant) : Prop where
  shape : validateLineageShape context root lineage = .ok ()
  evidence : ∃ anchor, registries.resolveAnchor context root.epoch = .ok anchor ∧
    authenticateLineage anchor root lineage issuerKeys verifier context = .ok authenticated
  admitted : AdmittedIn state lineage

theorem authenticated_of_authenticateLineage {anchor : AuthorityLineageRootAnchor}
    {root : AuthorityGrant} {lineage : List AuthorityGrant}
    (accepted : authenticateLineage anchor root lineage issuerKeys verifier context =
      .ok authenticated) :
    ∃ bindings, issuerKeys = .ok bindings ∧ List.Forall₂ (fun grant result =>
      authenticateAuthorityGrant grant (.ok bindings) verifier context = .ok result) lineage
      authenticated := by
  simp only [authenticateLineage, bind_eq_ok, rethrow_eq_ok] at accepted
  obtain ⟨_, -, _, -, bindings, isBindings, mapped⟩ := accepted
  exact ⟨bindings, isBindings, mapM_eq_ok.mp mapped⟩

theorem admitAuthenticatedLineage_eq_ok {lineage : List AuthorityGrant} (nonempty : lineage ≠ [])
    (accepted : List.Forall₂ (fun grant result =>
      authenticateAuthorityGrant grant issuerKeys verifier context = .ok result) lineage
      authenticated)
    (sameContext : (registries.states owner).context = context)
    (admitted : AdmittedIn (registries.states owner) lineage) :
    admitAuthenticatedLineage owner context lineage authenticated registries =
      .ok ((lineage.zip authenticated).map (admittedGrant context)) := by
  have hops : (lineage.zip authenticated).mapM (fun hop =>
      admitAuthenticatedGrant context (registries.states owner) hop.1 hop.2) =
      .ok ((lineage.zip authenticated).map (admittedGrant context)) := by
    apply mapM_eq_ok_map
    rintro ⟨grant, result⟩ member
    obtain ⟨sameEpoch, notRevoked⟩ := admitted grant (List.of_mem_zip member).1
    exact admitAuthenticatedGrant_eq_ok (List.forall₂_zip accepted member) sameEpoch notRevoked
  rw [admitAuthenticatedLineage, hops]
  simp [raiseIf, nonempty, accepted.length_eq, AuthorityRegistries.requireContext, sameContext]

theorem digests_admittedGrants {lineage : List AuthorityGrant}
    (lengths : lineage.length = authenticated.length) :
    ((lineage.zip authenticated).map (admittedGrant context)).map
        EpochAdmittedAuthorityGrant.grantDigest =
      authenticated.map AuthenticatedAuthorityGrant.grantDigest := by
  rw [List.map_map]
  conv_rhs => rw [← List.map_snd_zip lengths.ge, List.map_map]
  rfl

theorem isLowerHexOf_of_authenticated {lineage : List AuthorityGrant}
    (accepted : List.Forall₂ (fun grant result =>
      authenticateAuthorityGrant grant issuerKeys verifier context = .ok result) lineage
      authenticated) :
    ∀ digest ∈ authenticated.map AuthenticatedAuthorityGrant.grantDigest,
      isLowerHexOf 64 digest = true := by
  intro digest member
  obtain ⟨result, resultMember, rfl⟩ := List.mem_map.mp member
  obtain ⟨grant, -, grantAccepted⟩ := exists_left_of_forall₂ accepted resultMember
  obtain ⟨-, -, -, -, digested, -⟩ := authenticateAuthorityGrant_eq_ok grantAccepted
  exact AuthorityGrant.isLowerHexOf_digest digested

/-- An undisturbed call on a registered context succeeds exactly on admissible
lineages, and reports the digests of the authenticated grants. -/
theorem exists_admitLineageIn_iff {root : AuthorityGrant} {rest : List AuthorityGrant}
    {digests : List PyStr} (isOwner : registries.owners.lookup context = some owner)
    (sameContext : (registries.states owner).context = context) :
    (∃ admitted, admitLineageIn registries (root :: rest) issuerKeys verifier context =
        .ok admitted ∧ admitted.grantDigests = digests) ↔
      ∃ authenticated, AdmissibleLineage registries (registries.states owner) root (root :: rest)
        issuerKeys verifier context authenticated ∧
        authenticated.map AuthenticatedAuthorityGrant.grantDigest = digests := by
  have resolved : registries.resolveOwner context = .ok owner := by
    rw [AuthorityRegistries.resolveOwner, isOwner]
  have required : registries.requireContext owner context = .ok () := by
    simp [AuthorityRegistries.requireContext, sameContext]
  constructor
  · rintro ⟨admitted, accepted, rfl⟩
    simp only [admitLineageIn, bind_eq_ok] at accepted
    obtain ⟨_, shape, other, isOther, _, -, anchor, isAnchor, authenticated, isAuthenticated,
      grants, isAdmitted, isResult⟩ := accepted
    obtain rfl : owner = other := Except.ok.inj (resolved.symm.trans isOther)
    obtain ⟨-, admittedIn⟩ := admittedIn_of_admitAuthenticatedLineage isAdmitted
    obtain ⟨bindings, -, allAccepted⟩ := authenticated_of_authenticateLineage isAuthenticated
    rw [admitAuthenticatedLineage_eq_ok (by simp) allAccepted sameContext admittedIn] at isAdmitted
    obtain rfl := Except.ok.inj isAdmitted
    refine ⟨authenticated, ⟨shape, ⟨anchor, isAnchor, isAuthenticated⟩, admittedIn⟩, ?_⟩
    rw [admittedLineage, digests_admittedGrants allAccepted.length_eq, bind_eq_ok] at isResult
    obtain ⟨digest, -, isAdmitted⟩ := isResult
    rw [← pure_eq_ok.mp isAdmitted]
  · rintro ⟨authenticated, ⟨shape, ⟨anchor, isAnchor, isAuthenticated⟩, admittedIn⟩, rfl⟩
    obtain ⟨bindings, -, allAccepted⟩ := authenticated_of_authenticateLineage isAuthenticated
    have someDigests : authenticated.map AuthenticatedAuthorityGrant.grantDigest ≠ [] := by
      intro none
      have lengths := allAccepted.length_eq
      rw [List.map_eq_nil_iff.mp none] at lengths
      simp at lengths
    obtain ⟨digest, digested⟩ :=
      exists_lineageDigest someDigests (isLowerHexOf_of_authenticated allAccepted)
    rw [admitLineageIn, shape, ok_bind, resolved, ok_bind, required, ok_bind, isAnchor, ok_bind,
      isAuthenticated, ok_bind,
      admitAuthenticatedLineage_eq_ok (by simp) allAccepted sameContext admittedIn, ok_bind,
      admittedLineage, digests_admittedGrants allAccepted.length_eq, digested, ok_bind]
    exact ⟨_, rfl, rfl⟩

theorem owner_of_resolveOwner (found : registries.resolveOwner context = .ok owner) :
    registries.owners.lookup context = some owner := by
  unfold AuthorityRegistries.resolveOwner at found
  split at found
  · rename_i other isOther
    rw [isOther, Except.ok.inj found]
  · exact absurd found (by simp)

/-! ### Attenuation along a lineage -/

/-- Whatever other threads do between its steps, an accepted call has a lineage
whose leaf is contained in its root, in which every child is issued by the
subject of its parent with a smaller budget, so that there are at most as many
delegations as the budget of the root; and at one instant of the call the
owner of the context held a state in whose epoch all grants are and in which
none of them is revoked. -/
theorem authenticateAndAdmit_attenuates {lineage : List AuthorityGrant}
    {start final : AuthorityRegistries} {instants : List AuthorityRegistries}
    {admitted : EpochAdmittedAuthorityLineage}
    (accepted : PyProg.Exec between
      (authenticateAndAdmitAuthorityLineage lineage issuerKeys verifier context) start instants
      final (.ok admitted)) :
    ∃ root leaf, lineage.head? = some root ∧ lineage.getLast? = some leaf ∧
      Contained leaf root ∧
      (lineage.IsChain fun parent child => child.issuerSubjectId = parent.subjectId ∧
        child.delegationDepthBudget < parent.delegationDepthBudget) ∧
      (lineage.length : Int) - 1 ≤ root.delegationDepthBudget ∧
      ∃ resolved ∈ instants, ∃ owner, resolved.owners.lookup context = some owner ∧
        ∃ current ∈ instants, (current.states owner).context = context ∧
          AdmittedIn (current.states owner) lineage := by
  obtain ⟨root, rest, resolved, required, anchored, owner, rfl, rfl, steps⟩ :=
    exists_instants_of_accepted accepted
  obtain ⟨anchor, authenticated, grants, -, isAuthenticated, isAdmitted, -⟩ := steps.evidence
  obtain ⟨rootValid, chain⟩ := isChain_of_authenticateLineage isAuthenticated
  have owned := owner_of_resolveOwner steps.isOwner
  refine ⟨root, (root :: rest).getLast (by simp), rfl, List.getLast?_eq_some_getLast (by simp),
    contained_of_isChain rootValid chain, ?_, ?_, resolved, by simp, owner, owned, final, by simp,
    admittedIn_of_admitAuthenticatedLineage isAdmitted⟩
  · exact chain.imp fun _ _ delegates => ⟨delegates.issuer, delegates.budget⟩
  · have bounded := length_le_of_isChain rootValid chain
    rw [List.length_cons]
    omega

/-! ### A lineage that is accepted -/

/-- A grant of a survey mission; the lineages of the examples consist of such
grants. -/
def surveyGrant (grantId issuer subject : PyStr) (parent : Option PyStr) (budget : Int) :
    AuthorityGrant where
  schemaVersion := py "1.1.0"
  grantId := grantId
  issuerSubjectId := issuer
  subjectId := subject
  tenantId := py "tenant"
  organizationId := py "org"
  missionId := py "survey"
  capabilityId := py "merge"
  capabilityVersion := py "1"
  actions := [py "merge_pull_request"]
  resourceScope := [py "github:repo:core/api:pr:7:base:" ++ List.replicate 40 0x61 ++
    py ":head:" ++ List.replicate 40 0x62]
  authorityCeiling := py "external_write"
  constraints := [py "merge_method:squash"]
  parentGrantId := parent
  issuedAt := py "2026-01-01T00:00:00Z"
  expiresAt := py "2026-02-01T00:00:00Z"
  epoch := 3
  policyDigest := py "sha256:" ++ List.replicate 64 0x61
  observabilityContractDigest := py "sha256:" ++ List.replicate 64 0x62
  signature := py "sig"
  delegationAllowed := decide (0 < budget)
  delegationDepthBudget := budget

def surveyContext : ContextKey :=
  ⟨py "domain", py "tenant", py "org", py "survey"⟩

def surveyRegistries (rootGrantId rootGrantDigest : PyStr) : AuthorityRegistries :=
  ⟨[(surveyContext, 0)], fun _ => ⟨surveyContext, 3, [py "old"]⟩, 1,
    [((surveyContext, 3), ⟨rootGrantId, rootGrantDigest⟩)]⟩

def surveyKeys : List IssuerKeyBinding :=
  [⟨py "owner", py "domain", py "key-1", py "ed25519"⟩,
    ⟨py "lead", py "domain", py "key-2", py "ed25519"⟩]

def acceptingVerifier : Verifier :=
  fun _ _ _ _ => .ok true

def surveyRoot : AuthorityGrant :=
  surveyGrant (py "root") (py "owner") (py "lead") none 1

def surveyLeaf : AuthorityGrant :=
  surveyGrant (py "leaf") (py "lead") (py "drone") (some (py "root")) 0

theorem exists_authenticateLineage_survey : ∃ digest authenticated,
    surveyRoot.digest = .ok digest ∧
    authenticateLineage ⟨py "root", digest⟩ surveyRoot [surveyRoot, surveyLeaf] (.ok surveyKeys)
      acceptingVerifier surveyContext = .ok authenticated := by
  have returns : returned (do
      let digest ← surveyRoot.digest
      authenticateLineage ⟨py "root", digest⟩ surveyRoot [surveyRoot, surveyLeaf] (.ok surveyKeys)
        acceptingVerifier surveyContext) = true := by
    delta authenticateLineage matchRootAnchor authenticateAuthorityGrant AuthorityGrant.digest
    rw [Sha256.sha256_eq_evalText]
    decide +kernel
  obtain ⟨authenticated, accepted⟩ := exists_eq_ok_of_returned returns
  obtain ⟨digest, digested, accepted⟩ := bind_eq_ok.mp accepted
  exact ⟨digest, authenticated, digested, accepted⟩

theorem authenticateAndAdmit_attenuates_survey : ∃ registries instants admitted,
    PyProg.Exec Eq (authenticateAndAdmitAuthorityLineage [surveyRoot, surveyLeaf]
      (.ok surveyKeys) acceptingVerifier surveyContext) registries instants registries
      (.ok admitted) ∧ Contained surveyLeaf surveyRoot := by
  obtain ⟨digest, authenticated, digested, accepted⟩ := exists_authenticateLineage_survey
  have admissible : AdmissibleLineage (surveyRegistries (py "root") digest)
      ⟨surveyContext, 3, [py "old"]⟩ surveyRoot [surveyRoot, surveyLeaf] (.ok surveyKeys)
      acceptingVerifier surveyContext authenticated := by
    refine ⟨rfl, ⟨⟨py "root", digest⟩, rfl, accepted⟩, ?_⟩
    simp only [AdmittedIn, List.forall_mem_cons]
    exact ⟨⟨rfl, by decide⟩, ⟨rfl, by decide⟩, by simp⟩
  have owned : (surveyRegistries (py "root") digest).owners.lookup surveyContext = some 0 := rfl
  obtain ⟨admitted, isAdmitted, -⟩ := (exists_admitLineageIn_iff owned rfl).mpr
    ⟨authenticated, admissible, rfl⟩
  obtain ⟨instants, execution⟩ := PyProg.exec_runAlone
    (authenticateAndAdmitAuthorityLineage [surveyRoot, surveyLeaf] (.ok surveyKeys)
      acceptingVerifier surveyContext) (surveyRegistries (py "root") digest)
  rw [views_authenticateAndAdmit] at execution
  dsimp only at execution
  rw [isAdmitted] at execution
  obtain ⟨root, leaf, isRoot, isLeaf, contained, -⟩ := authenticateAndAdmit_attenuates execution
  obtain rfl : surveyRoot = root := Option.some.inj isRoot
  obtain rfl : surveyLeaf = leaf := Option.some.inj isLeaf
  exact ⟨_, instants, admitted, execution, contained⟩

end CyberLion
