import CyberLion.MergeAdmission
import CyberLion.ProgramPool

/-!
# Merge admission among other calls

Calls of `admit_merge` that share one owner of consumed authorities, while
other threads register and advance epochs and register root anchors: an
authority is consumed by at most one call that allows, an allowing call was
bound exactly, and a call that denies or raises consumes nothing.
-/

namespace CyberLion

open PyLib

/-! ### What an allowing call established -/

/-- What an allowing call says about its intent, its lineage and the registries
that it met. -/
structure AllowedMerge (intent : MergeIntent) (trusted : TrustedPullRequestState)
    (lineage : List AuthorityGrant) (context : ContextKey) (admissionId : PyStr)
    (decision : MergeAdmissionDecision) (leaf : AuthorityGrant)
    (resolved current : AuthorityRegistries) (owner : OwnerRef) : Prop where
  bound : intent = trusted.toMergeIntent
  valid : intent.validate = .ok ()
  isLeaf : lineage.getLast? = some leaf
  isOwner : resolved.owners.lookup context = some owner
  sameContext : (current.states owner).context = context
  admitted : AdmittedIn (current.states owner) lineage
  action : intent.action ∈ leaf.actions
  resource : ∃ resource, canonicalMergeResource intent = .ok resource ∧
    resource ∈ leaf.resourceScope
  method : ∃ constraint, canonicalMergeMethodConstraint intent = .ok constraint ∧
    constraint ∈ leaf.constraints
  grantId : decision.grantId = some leaf.grantId
  grantDigest : ∃ digest, leaf.digest = .ok digest ∧ decision.grantDigest = some digest
  epoch : decision.epoch = some leaf.epoch
  fields : decision.admissionId = admissionId ∧ decision.repository = intent.repository ∧
    decision.prNumber = intent.prNumber ∧ decision.baseSha = intent.baseSha ∧
    decision.headSha = intent.headSha ∧ decision.mergeMethod = intent.mergeMethod

variable {intent : MergeIntent} {trusted : TrustedPullRequestState} {admissionId : PyStr}

theorem bindTrustedState_eq_ok :
    bindTrustedState intent trusted = .ok () ↔
      intent.validate = .ok () ∧ intent = trusted.toMergeIntent := by
  simp only [bindTrustedState, MergeIntent.binding, bind_eq_ok, pure_eq_ok, raiseIf_eq_ok, ne_eq,
    not_not]
  constructor
  · rintro ⟨_, -, _, ⟨_, valid, rfl⟩, _, ⟨_, -, rfl⟩, same⟩
    exact ⟨valid, same⟩
  · rintro ⟨valid, same⟩
    exact ⟨(), same ▸ valid, intent, ⟨(), valid, rfl⟩, _, ⟨(), same ▸ valid, rfl⟩, same⟩

theorem exec_authenticateAndBind {between : AuthorityRegistries → AuthorityRegistries → Prop}
    {lineage : List AuthorityGrant} {issuerKeys : IssuerKeys} {verifier : Verifier}
    {context : ContextKey} {start final : AuthorityRegistries} {instants : List AuthorityRegistries}
    {admitted : EpochAdmittedAuthorityLineage} {leaf : AuthorityGrant}
    (accepted : PyProg.Exec between
      (authenticateAndBind intent trusted lineage issuerKeys verifier context) start instants final
      (.ok (admitted, leaf))) :
    bindTrustedState intent trusted = .ok () ∧ lineage.getLast? = some leaf ∧
      PyProg.Exec between
        (authenticateAndAdmitAuthorityLineage lineage issuerKeys verifier context) start instants
        final (.ok admitted) ∧
      bindLeaf leaf admitted intent = .ok () := by
  simp only [authenticateAndBind, PyProg.exec_bind_ok, PyProg.exec_lift] at accepted
  obtain ⟨_, _, _, _, rfl, ⟨rfl, rfl, bound⟩, accepted⟩ := accepted
  refine ⟨bound.symm, ?_⟩
  cases isLeaf : lineage.getLast? with
  | none =>
    simp only [isLeaf, PyProg.exec_lift] at accepted
    exact absurd accepted.2.2 (by simp)
  | some other =>
    simp only [isLeaf, PyProg.exec_bind_ok, PyProg.exec_lift, PyProg.exec_pure] at accepted
    obtain ⟨first, _, _, _, rfl, execution, _, _, _, _, rfl, ⟨rfl, rfl, leafBound⟩, rfl, rfl,
      same⟩ := accepted
    obtain ⟨rfl, rfl⟩ := Prod.mk.inj (Except.ok.inj same)
    rw [List.nil_append, List.nil_append, List.append_nil]
    exact ⟨rfl, execution, leafBound.symm⟩

theorem bindLeaf_eq_ok {leaf : AuthorityGrant} {admitted : EpochAdmittedAuthorityLineage}
    (bound : bindLeaf leaf admitted intent = .ok ()) :
    intent.action ∈ leaf.actions ∧
      (∃ resource, canonicalMergeResource intent = .ok resource ∧
        resource ∈ leaf.resourceScope) ∧
      (∃ constraint, canonicalMergeMethodConstraint intent = .ok constraint ∧
        constraint ∈ leaf.constraints) ∧
      admitted.epoch = leaf.epoch := by
  simp only [bindLeaf, bind_eq_ok, raiseIf_eq_ok, not_or, ne_eq, not_not] at bound
  obtain ⟨_, -, _, -, _, -, _, -, _, -, _, ⟨-, epoch⟩, _, action, resource, isResource, _,
    inScope, constraint, isConstraint, inConstraints⟩ := bound
  exact ⟨action, ⟨resource, isResource, inScope⟩, ⟨constraint, isConstraint, inConstraints⟩,
    epoch⟩

theorem decision_of_deny {rationale : PyStr} {decision : MergeAdmissionDecision}
    (denied : deny intent admissionId rationale = .ok decision) :
    decision.decision = .deny := by
  simp only [deny, bind_eq_ok, pure_eq_ok] at denied
  obtain ⟨_, -, rfl⟩ := denied
  rfl

theorem decision_of_denyCaught {error : PyError} {decision : MergeAdmissionDecision}
    (denied : denyCaught intent admissionId error = .ok decision) : decision.decision = .deny := by
  unfold denyCaught at denied
  split at denied
  · exact decision_of_deny denied
  · exact nomatch denied

theorem allowMerge_eq_ok {lineageDigest : PyStr} {key : ConsumptionKey}
    {decision : MergeAdmissionDecision}
    (allowed : allowMerge intent admissionId key lineageDigest = .ok decision) :
    decision = allowDecision intent admissionId key lineageDigest := by
  simp only [allowMerge, bind_eq_ok, pure_eq_ok] at allowed
  obtain ⟨_, -, same⟩ := allowed
  exact same.symm

theorem exec_admitMerge {between : MergeWorld → MergeWorld → Prop} {lineage : List AuthorityGrant}
    {issuerKeys : IssuerKeys} {verifier : Verifier} {context : ContextKey}
    {start final : MergeWorld} {instants : List MergeWorld} {decision : MergeAdmissionDecision}
    (accepted : PyProg.Exec between
      (admitMerge intent trusted lineage issuerKeys verifier context admissionId) start instants
      final (.ok decision))
    (allowed : decision.decision = .allow) :
    ∃ leaf owner, ∃ resolved ∈ instants, ∃ current ∈ instants,
      AllowedMerge intent trusted lineage context admissionId decision leaf resolved.registries
        current.registries owner := by
  simp only [admitMerge, PyProg.exec_bind_ok, PyProg.exec_lift, PyProg.exec_handle] at accepted
  obtain ⟨_, _, _, _, rfl, ⟨rfl, rfl, -⟩, _, _, _, _, rfl, ⟨rfl, rfl, -⟩, handled⟩ := accepted
  rcases handled with ⟨_, accepted, same⟩ | ⟨error, -, denied⟩
  · obtain rfl := Except.ok.inj same
    simp only [admitConsuming, PyProg.exec_bind_ok, PyProg.exec_lift] at accepted
    obtain ⟨first, _, ⟨admitted, leaf⟩, _, rfl, execution, _, middle, digest, _, rfl,
      ⟨rfl, rfl, digested⟩, consumption, _, _, _, rfl, -, rfl, rfl, isAllowed⟩ := accepted
    obtain ⟨bound, isLeaf, lineageRun, leafBound⟩ :=
      exec_authenticateAndBind (Prog.Exec.of_zoom (fun _ _ => rfl) execution)
    obtain ⟨root, rest, resolved, required, anchored, owner, rfl, isInstants, steps⟩ :=
      exists_instants_of_accepted lineageRun
    obtain ⟨anchor, authenticated, grants, -, -, isAdmitted, -⟩ := steps.evidence
    obtain ⟨sameContext, admittedIn⟩ := admittedIn_of_admitAuthenticatedLineage isAdmitted
    obtain ⟨valid, sameBinding⟩ := bindTrustedState_eq_ok.mp bound
    obtain ⟨action, resource, method, epoch⟩ := bindLeaf_eq_ok leafBound
    obtain rfl := allowMerge_eq_ok isAllowed.symm
    have resolvedMember : resolved ∈ first.map MergeWorld.registries := by
      rw [isInstants]
      simp
    have currentMember : middle.registries ∈ first.map MergeWorld.registries := by
      rw [isInstants]
      simp
    obtain ⟨resolvedWorld, inFirst, rfl⟩ := List.mem_map.mp resolvedMember
    obtain ⟨currentWorld, inFirst', sameRegistries⟩ := List.mem_map.mp currentMember
    refine ⟨leaf, owner, resolvedWorld, by simp [inFirst], currentWorld, by simp [inFirst'],
      sameBinding, valid, isLeaf, owner_of_resolveOwner steps.isOwner, ?_, ?_, action, resource, method, rfl,
      ⟨digest, digested.symm, rfl⟩, congrArg some epoch, rfl, rfl, rfl, rfl, rfl, rfl⟩
    · rw [sameRegistries]
      exact sameContext
    · rw [sameRegistries]
      exact admittedIn
  · rw [decision_of_denyCaught denied.symm] at allowed
    cases allowed

/-! ### Consumption is the last step -/

def Allows : Except PyError MergeAdmissionDecision → Prop
  | .ok decision => decision.decision = .allow
  | .error _ => False

theorem ne_nil_of_bounded {limit : Nat} {name value : PyStr}
    (bounded : boundedText mergeError limit name value = .ok ()) : value ≠ [] := by
  rintro rfl
  simp [boundedText, isBlank] at bounded

theorem MergeIntent.validate_mergeAction (valid : intent.validate = .ok ()) :
    MergeIntent.validate ⟨intent.repository, intent.prNumber, intent.baseSha, intent.headSha,
      intent.mergeMethod, mergeAction⟩ = .ok () := by
  have action := valid
  simp only [MergeIntent.validate, bind_eq_ok, raiseIf_eq_ok, ne_eq, not_not] at action
  obtain ⟨_, -, _, -, _, -, _, -, _, -, action⟩ := action
  rw [← action]
  exact valid

theorem allowMerge_of_consumed {lineageDigest : PyStr} {key : ConsumptionKey}
    (valid : intent.validate = .ok ())
    (admissionOk : boundedText mergeError 512 (py "admission_id") admissionId = .ok ())
    (grantIdOk : key.grantId ≠ []) (digestOk : key.grantDigest ≠ [])
    (lineageOk : lineageDigest ≠ []) (epochOk : 0 ≤ key.epoch) :
    allowMerge intent admissionId key lineageDigest =
      .ok (allowDecision intent admissionId key lineageDigest) := by
  have intentOk := MergeIntent.validate_mergeAction valid
  have allowOk : (allowDecision intent admissionId key lineageDigest).validateAllow = .ok () := by
    rw [MergeAdmissionDecision.validateAllow, bind_eq_ok]
    refine ⟨(), raiseIf_eq_ok.mpr (not_not.mpr ?_), raiseIf_eq_ok.mpr (not_not.mpr epochOk)⟩
    exact ⟨⟨_, rfl, grantIdOk⟩, ⟨_, rfl, digestOk⟩, ⟨_, rfl, lineageOk⟩⟩
  have rationaleOk : boundedText mergeError 1024 (py "rationale")
      (allowDecision intent admissionId key lineageDigest).rationale = .ok () := by
    exact (by decide : boundedText mergeError 1024 (py "rationale")
      (py "exact merge authority, lineage, current epoch, and GitHub state admitted") = .ok ())
  have validated : (allowDecision intent admissionId key lineageDigest).validate = .ok () := by
    simp only [MergeAdmissionDecision.validate, bind_eq_ok]
    refine ⟨(), admissionOk, (), rationaleOk, (), intentOk, ?_⟩
    have isAllow : (allowDecision intent admissionId key lineageDigest).decision = .allow := rfl
    rw [if_pos isAllow]
    exact allowOk
  rw [allowMerge, validated]
  rfl

theorem within_onRegistries {α : Type} (program : PyProg AuthorityRegistries α) :
    PyProg.Within (fun before after => MergeWorld.consumed after = MergeWorld.consumed before)
      (onRegistries program) := by
  have kept : ∀ (world : MergeWorld) registries,
      (world.setRegistries registries).consumed = world.consumed := fun _ _ => rfl
  exact Prog.within_zoom kept _

def allowedKey : Except PyError MergeAdmissionDecision → Option ConsumptionKey
  | .ok decision =>
    if decision.decision = .allow then
      some ⟨decision.grantId.getD [], decision.grantDigest.getD [], decision.epoch.getD (-1)⟩
    else none
  | .error _ => none

theorem consume_then_allow (valid : intent.validate = .ok ())
    (admissionOk : boundedText mergeError 512 (py "admission_id") admissionId = .ok ())
    (key : ConsumptionKey) (lineageDigest : PyStr) :
    PyProg.Claims allowedKey MergeWorld.isConsumed (consumeAuthority key lineageDigest >>=
      fun _ => PyProg.lift (allowMerge intent admissionId key lineageDigest)) ∧
    PyProg.Commits Allows MergeWorld.consumed (consumeAuthority key lineageDigest >>=
      fun _ => PyProg.lift (allowMerge intent admissionId key lineageDigest)) := by
  unfold consumeAuthority
  cases grantIdOk : boundedText mergeError 512 (py "grant_id") key.grantId with
  | error error => exact ⟨rfl, trivial⟩
  | ok _ =>
  cases digestOk : boundedText mergeError 512 (py "grant_digest") key.grantDigest with
  | error error => exact ⟨rfl, trivial⟩
  | ok _ =>
  cases lineageOk : boundedText mergeError 512 (py "lineage_digest") lineageDigest with
  | error error => exact ⟨rfl, trivial⟩
  | ok _ =>
  by_cases epochOk : key.epoch < 0
  · rw [raiseIf, if_pos epochOk]
    exact ⟨rfl, trivial⟩
  · have decided := allowMerge_of_consumed valid admissionOk (ne_nil_of_bounded grantIdOk)
      (ne_nil_of_bounded digestOk) (ne_nil_of_bounded lineageOk) (not_lt.mp epochOk)
    rw [raiseIf, if_neg epochOk, decided]
    constructor
    · intro found
      by_cases consumed : found.isConsumed key
      · right
        simp only [consumeKey, if_pos consumed]
        exact rfl
      · left
        refine ⟨.ok (allowDecision intent admissionId key lineageDigest), key, ?_, rfl, consumed, ?_⟩
        · simp only [consumeKey, if_neg consumed]
          rfl
        · simp only [consumeKey, if_neg consumed]
          simp [MergeWorld.isConsumed]
    · intro found
      by_cases consumed : found.isConsumed key
      · left
        simp only [consumeKey, if_pos consumed]
        exact ⟨trivial, trivial⟩
      · right
        refine ⟨.ok (allowDecision intent admissionId key lineageDigest), ?_, rfl⟩
        simp only [consumeKey, if_neg consumed]
        rfl

theorem claims_admitMerge (intent : MergeIntent) (trusted : TrustedPullRequestState)
    (lineage : List AuthorityGrant) (issuerKeys : IssuerKeys) (verifier : Verifier)
    (context : ContextKey) (admissionId : PyStr) :
    PyProg.Claims allowedKey MergeWorld.isConsumed
      (admitMerge intent trusted lineage issuerKeys verifier context admissionId) ∧
    PyProg.Commits Allows MergeWorld.consumed
      (admitMerge intent trusted lineage issuerKeys verifier context admissionId) := by
  unfold admitMerge
  cases valid : intent.validate with
  | error error => exact ⟨rfl, trivial⟩
  | ok _ =>
  cases admissionOk : boundedText mergeError 512 (py "admission_id") admissionId with
  | error error => exact ⟨rfl, trivial⟩
  | ok _ =>
  have denied : ∀ error, allowedKey (denyCaught intent admissionId error) =
      allowedKey (.error error) := by
    intro error
    cases result : denyCaught intent admissionId error with
    | error other => rfl
    | ok decision =>
      rw [allowedKey, decision_of_denyCaught result]
      rfl
  constructor
  · apply PyProg.Claims.handle denied
    apply PyProg.Claims.bind _ fun _ => rfl
    rintro ⟨admitted, leaf⟩
    apply PyProg.Claims.bind _ fun _ => rfl
    intro digest
    exact (consume_then_allow valid admissionOk ⟨leaf.grantId, digest, admitted.epoch⟩
      admitted.lineageDigest).1
  · apply PyProg.Commits.handle _ fun _ raised => raised
    apply PyProg.Commits.bind (within_onRegistries _)
    rintro ⟨admitted, leaf⟩
    apply PyProg.Commits.bind (PyProg.within_lift _)
    intro digest
    exact (consume_then_allow valid admissionOk ⟨leaf.grantId, digest, admitted.epoch⟩
      admitted.lineageDigest).2

/-! ### Calls of several threads -/

inductive MergeCall
  | admitMerge (intent : MergeIntent) (trusted : TrustedPullRequestState)
      (lineage : List AuthorityGrant) (issuerKeys : IssuerKeys) (verifier : Verifier)
      (context : ContextKey) (admissionId : PyStr)
  | registerEpochState (initial : AuthorityEpochState)
  | advanceEpochState (candidate : AuthorityEpochState)
  | registerRootAnchor (context : ContextKey) (epoch : Int) (anchor : AuthorityLineageRootAnchor)

/-- What a call returns: a decision, or that the registries were changed. -/
inductive MergeReply
  | decided (decision : MergeAdmissionDecision)
  | registered

def MergeCall.program : MergeCall → PyProg MergeWorld MergeReply
  | .admitMerge intent trusted lineage issuerKeys verifier context admissionId => do
    let decision ← CyberLion.admitMerge intent trusted lineage issuerKeys verifier context
      admissionId
    return .decided decision
  | .registerEpochState initial => do
    let _ ← onRegistries (registerCanonicalAuthorityEpochState initial)
    return .registered
  | .advanceEpochState candidate => do
    let _ ← onRegistries (advanceCanonicalAuthorityEpochState candidate)
    return .registered
  | .registerRootAnchor context epoch anchor => do
    let _ ← onRegistries (registerCanonicalAuthorityLineageRootAnchor context epoch anchor)
    return .registered

def mergePool (world : MergeWorld) (calls : List MergeCall) :
    Pool MergeWorld (Except PyError MergeReply) :=
  ⟨world, calls.map fun call => ExceptT.run call.program⟩

def repliedDecision : Except PyError MergeReply → Except PyError MergeAdmissionDecision
  | .ok (.decided decision) => .ok decision
  | .ok .registered => .error (mergeError [])
  | .error error => .error error

theorem repliedDecision_map (result : Except PyError MergeAdmissionDecision) :
    repliedDecision (result.map MergeReply.decided) = result := by
  cases result <;> rfl

theorem MergeCall.claims_program (call : MergeCall) :
    PyProg.Claims (fun reply => allowedKey (repliedDecision reply)) MergeWorld.isConsumed
      call.program := by
  cases call with
  | admitMerge intent trusted lineage issuerKeys verifier context admissionId =>
    apply PyProg.Claims.map
    simp only [repliedDecision_map]
    exact (claims_admitMerge ..).1
  | _ => exact PyProg.Claims.bind _ (fun _ => rfl) fun _ => rfl

theorem MergeCall.commits_program (call : MergeCall) :
    PyProg.Commits (fun reply => Allows (repliedDecision reply)) MergeWorld.consumed
      call.program := by
  cases call with
  | admitMerge intent trusted lineage issuerKeys verifier context admissionId =>
    apply PyProg.Commits.map
    simp only [repliedDecision_map]
    exact (claims_admitMerge ..).2
  | _ => exact PyProg.Commits.bind (within_onRegistries _) fun _ => trivial

theorem MergeCall.within_program (call : MergeCall) :
    PyProg.Within (fun before after => ∀ key, MergeWorld.isConsumed before key →
      MergeWorld.isConsumed after key) call.program := by
  have kept : ∀ {α : Type} (program : PyProg AuthorityRegistries α), PyProg.Within
      (fun before after => ∀ key, MergeWorld.isConsumed before key →
        MergeWorld.isConsumed after key) (onRegistries program) := by
    intro α program
    apply Prog.Within.imp (within_onRegistries program)
    intro before after same key consumed
    rw [MergeWorld.isConsumed, same]
    exact consumed
  cases call with
  | admitMerge intent trusted lineage issuerKeys verifier context admissionId =>
    apply PyProg.Within.bind
    · apply PyProg.within_lift_bind
      intro _
      apply PyProg.within_lift_bind
      intro _
      apply PyProg.Within.handle
      apply (kept _).bind
      rintro ⟨admitted, leaf⟩
      apply PyProg.within_lift_bind
      intro digest
      apply PyProg.Within.bind
      · apply PyProg.within_lift_bind
        intro _
        apply PyProg.within_lift_bind
        intro _
        apply PyProg.within_lift_bind
        intro _
        apply PyProg.within_lift_bind
        intro _
        apply PyProg.within_transact
        intro found key consumed
        unfold consumeKey
        split
        · exact consumed
        · exact List.mem_cons_of_mem _ consumed
      · intro _
        exact PyProg.within_lift _
    · intro _
      exact PyProg.within_pure _
  | _ => exact (kept _).bind fun _ => PyProg.within_pure _

/-- Whatever the schedule: at most one call allows for a leaf, its digest and an
epoch; a call that allows was bound exactly, to a lineage admitted in the
current epoch; and the steps of a call that denies or raises leave the consumed
authorities as they are. -/
theorem admitMerge_oneShot (world : MergeWorld) (calls : List MergeCall) (schedule : List Nat) :
    (∀ first second firstDecision secondDecision,
      ((mergePool world calls).run schedule).Returned first (.ok (.decided firstDecision)) →
      ((mergePool world calls).run schedule).Returned second (.ok (.decided secondDecision)) →
      firstDecision.decision = .allow → secondDecision.decision = .allow →
      firstDecision.grantId = secondDecision.grantId →
      firstDecision.grantDigest = secondDecision.grantDigest →
      firstDecision.epoch = secondDecision.epoch → first = second) ∧
    (∀ index intent trusted lineage issuerKeys verifier context admissionId decision,
      calls[index]? = some (.admitMerge intent trusted lineage issuerKeys verifier context
        admissionId) →
      ((mergePool world calls).run schedule).Returned index (.ok (.decided decision)) →
      decision.decision = .allow →
      ∃ leaf owner, ∃ resolved ∈ (mergePool world calls).history schedule,
        ∃ current ∈ (mergePool world calls).history schedule,
        AllowedMerge intent trusted lineage context admissionId decision leaf
          resolved.registries current.registries owner) ∧
    ∀ before index after result, schedule = before ++ index :: after →
      ((mergePool world calls).run schedule).Returned index result →
      ¬ Allows (repliedDecision result) →
      (((mergePool world calls).run before).step index).shared.consumed =
        ((mergePool world calls).run before).shared.consumed := by
  have programs : ∀ thread ∈ (mergePool world calls).threads, ∃ call : MergeCall,
      thread = ExceptT.run call.program := by
    intro thread member
    obtain ⟨call, -, rfl⟩ := List.mem_map.mp member
    exact ⟨call, rfl⟩
  refine ⟨?_, ?_, ?_⟩
  · intro first second firstDecision secondDecision firstReturned secondReturned firstAllows
      secondAllows sameId sameDigest sameEpoch
    have claims : ∀ thread ∈ (mergePool world calls).threads,
        thread.Claims (fun reply => allowedKey (repliedDecision reply)) MergeWorld.isConsumed := by
      intro thread member
      obtain ⟨call, rfl⟩ := programs thread member
      exact call.claims_program
    have keeps : ∀ thread ∈ (mergePool world calls).threads, thread.Within fun before after =>
        ∀ key, MergeWorld.isConsumed before key → MergeWorld.isConsumed after key := by
      intro thread member
      obtain ⟨call, rfl⟩ := programs thread member
      exact call.within_program
    have settled := Pool.settled_run keeps (Pool.settled_start claims) schedule
    apply settled.unique first second _ _ _ firstReturned secondReturned (if_pos firstAllows)
    simp only [repliedDecision, allowedKey, if_pos secondAllows, sameId, sameDigest, sameEpoch]
  · intro index intent trusted lineage issuerKeys verifier context admissionId decision called
      returned allowed
    have starts : (mergePool world calls).threads[index]? = some (ExceptT.run
        (MergeCall.admitMerge intent trusted lineage issuerKeys verifier context
          admissionId).program) := by
      rw [mergePool, List.getElem?_map, called]
      rfl
    have within : ∀ thread ∈ (mergePool world calls).threads,
        thread.Within fun _ _ => True := by
      intro thread member
      obtain ⟨call, rfl⟩ := programs thread member
      exact Prog.Within.imp call.within_program fun _ _ _ => trivial
    obtain ⟨instants, final, execution, sublist, -⟩ := Pool.exec_of_returned
      (fun _ => trivial) (fun _ _ _ _ _ => trivial) within starts returned
    obtain ⟨inner, _, _, _, rfl, accepted, wrapped⟩ := PyProg.exec_bind_ok.mp execution
    obtain ⟨rfl, rfl, same⟩ := PyProg.exec_pure.mp wrapped
    obtain rfl : decision = _ := MergeReply.decided.inj (Except.ok.inj same)
    rw [List.append_nil] at sublist
    obtain ⟨leaf, owner, resolved, inResolved, current, inCurrent, facts⟩ :=
      exec_admitMerge accepted allowed
    exact ⟨leaf, owner, resolved, sublist.subset inResolved, current, sublist.subset inCurrent,
      facts⟩
  · rintro before index after result rfl returned notAllowed
    have commits : (mergePool world calls).CommitsAt
        (fun reply => Allows (repliedDecision reply)) MergeWorld.consumed index := by
      intro thread found
      obtain ⟨call, rfl⟩ := programs thread (List.mem_of_getElem? found)
      exact call.commits_program
    have split : (mergePool world calls).run (before ++ index :: after) =
        (((mergePool world calls).run before).step index).run after := by
      rw [Pool.run, List.foldl_append]
      rfl
    rw [split] at returned
    exact Pool.part_step_eq (Pool.commitsAt_run commits before) returned notAllowed

end CyberLion
