import CyberLion.PolicyGateReplay
import CyberLion.ProgramRely
import CyberLion.RuntimeEnforcement

/-!
# Runs of runtime admission

Engines that share a replay guard admit among each other, while authority is admitted anew
and others change stores and sources.  The guard admits each combination of the six digests
of a replay key once.
-/

namespace CyberLion

open PyLib

/-! ### What an admission compared -/

theorem RuntimeAdmission.sealed_eq_ok {admission result : RuntimeAdmission}
    (isSealed : admission.sealed = .ok result) :
    result = { admission with admissionDigest := result.admissionDigest } := by
  simp only [sealed, bind_eq_ok, pure_eq_ok] at isSealed
  obtain ⟨_, -, digest, -, _, -, rfl⟩ := isSealed
  rfl

def RuntimeAdmission.digests (admission : RuntimeAdmission) : AdmissionDigests where
  evidence := admission.pdpEvidenceDigest
  decision := admission.gateDecisionDigest
  effect := admission.requestedEffectDigest
  identity := admission.runtimeIdentityDigest
  live := admission.liveAuthorityDigest
  executor := admission.provisionedExecutorDigest

structure Admits (input : AdmitInput) (admission : RuntimeAdmission) : Prop where
  decision : input.checkDecision = .ok ()
  names : input.checkNames = .ok ()
  authority : input.checkAuthority = .ok ()
  effect : input.effect.digest = .ok admission.requestedEffectDigest
  identity : input.runtimeIdentity.digest = .ok admission.runtimeIdentityDigest
  executor : input.executorDigest = .ok admission.provisionedExecutorDigest
  live : input.admittedAuthority.digest = .ok admission.liveAuthorityDigest
  gate : admission.gateDecisionDigest = input.gate.decisionDigest

namespace RuntimeAdmissionEngine

variable {engine : RuntimeAdmissionEngine} {between : RuntimeWorld → RuntimeWorld → Prop}
  {start final : RuntimeWorld} {instants : List RuntimeWorld} {admission : RuntimeAdmission}

theorem exec_admitEffect {input : AdmitInput} {trustedNow : Moment}
    (execution : PyProg.Exec between (engine.admitEffect input trustedNow) start instants final
      (.ok admission)) : Admits input admission := by
  unfold admitEffect at execution
  rw [PyProg.exec_lift_bind] at execution
  obtain ⟨_, -, execution⟩ := execution
  cases trustedNow with
  | naive time =>
    rw [PyProg.exec_lift] at execution
    exact nomatch execution.2.2
  | aware now offset =>
    unfold admitAt at execution
    rw [PyProg.exec_lift_bind] at execution
    obtain ⟨_, decision, execution⟩ := execution
    obtain ⟨_, _, canonical, _, -, execution, -⟩ := PyProg.exists_exec_of_bind execution
    simp only [PyProg.exec_lift_bind] at execution
    obtain ⟨executorDigest, executor, _, names, _, authority, execution⟩ := execution
    obtain ⟨_, _, current, _, -, execution, -⟩ := PyProg.exists_exec_of_bind execution
    simp only [PyProg.exec_lift_bind, consumeRuntime, PyProg.exec_transact_bind,
      PyProg.exec_lift] at execution
    obtain ⟨⟨digests, receiptDigest⟩, isDigests, key, -, _, _, consumed, -, -, -, _, -, -, -,
      isSealed⟩ := execution
    have same := RuntimeAdmission.sealed_eq_ok isSealed.symm
    simp only [digestsOf, bind_eq_ok, raiseIf_eq_ok, pure_eq_ok, Prod.mk.injEq] at isDigests
    obtain ⟨_, -, currentDigest, -, admittedDigest, live, _, sameLive, effectDigest, effect,
      identityDigest, identity, _, -, rfl, rfl⟩ := isDigests
    rw [same]
    exact ⟨decision, names, authority, effect, identity, executor,
      live.trans (congrArg _ (not_not.mp sameLive).symm), rfl⟩

end RuntimeAdmissionEngine

/-! ### Calls -/

inductive RuntimeCall
  | admitEffect (engine : RuntimeAdmissionEngine) (input : AdmitInput) (trustedNow : Moment)
  | admitBoundAction (engine : RuntimeAdmissionEngine)
      (input : RuntimeAdmissionEngine.BoundInput) (trustedNow : Moment)
  | admitAuthority (index : Nat) (config : LiveAuthorityConfig) (replayDomain : PyStr)
      (key : AuthorityLookupKey) (replayNonce : PyStr) (now : Moment)
  | change (update : (Nat → EngineWorld) → Nat → EngineWorld)

inductive RuntimeReply
  | admitted (admission : RuntimeAdmission)
  | authority (admitted : LiveAdmittedAuthority)
  | changed

def RuntimeCall.program : RuntimeCall → PyProg RuntimeWorld RuntimeReply
  | .admitEffect engine input trustedNow => do
    let admission ← engine.admitEffect input trustedNow
    return .admitted admission
  | .admitBoundAction engine input trustedNow => do
    let admission ← engine.admitBoundAction input trustedNow
    return .admitted admission
  | .admitAuthority index config replayDomain key replayNonce now => do
    let admitted ← onEngine index (admitLive config replayDomain key replayNonce now)
    return .authority admitted
  | .change update => PyProg.transact fun world =>
    ({ world with engines := update world.engines }, .ok .changed)

def runtimePool (world : RuntimeWorld) (calls : List RuntimeCall) :
    Pool RuntimeWorld (Except PyError RuntimeReply) :=
  ⟨world, calls.map fun call => ExceptT.run call.program⟩

/-! ### One admission for each combination of digests -/

def admittedDigests : Except PyError RuntimeAdmission → Option AdmissionDigests
  | .ok admission => some admission.digests
  | .error _ => none

def repliedDigests : Except PyError RuntimeReply → Option AdmissionDigests
  | .ok (.admitted admission) => some admission.digests
  | _ => none

def KeySeen (world : RuntimeWorld) (digests : AdmissionDigests) : Prop :=
  ∃ key, digests.replayKey = .ok key ∧ key ∈ world.seen

theorem claims_consumeRuntime {gate : GateApplied} {digests : AdmissionDigests}
    {receiptDigest replayKey : PyStr} (isKey : digests.replayKey = .ok replayKey) :
    PyProg.Claims admittedDigests KeySeen
      (consumeRuntime gate digests receiptDigest replayKey) := by
  intro found
  by_cases seen : replayKey ∈ found.seen
  · right
    simp only [RuntimeWorld.consume, if_pos seen]
    exact rfl
  · simp only [RuntimeWorld.consume, if_neg seen]
    cases isSealed : (runtimeAdmissionOf gate digests receiptDigest replayKey).sealed with
    | error error =>
      right
      exact rfl
    | ok admission =>
      left
      have same := RuntimeAdmission.sealed_eq_ok isSealed
      refine ⟨.ok admission, digests, rfl, ?_, ?_, replayKey, isKey, List.mem_cons_self⟩
      · rw [same]
        rfl
      · rintro ⟨other, isOther, member⟩
        obtain rfl := Except.ok.inj (isKey.symm.trans isOther)
        exact seen member

namespace RuntimeAdmissionEngine

variable (engine : RuntimeAdmissionEngine)

theorem claims_admitEffect (input : AdmitInput) (trustedNow : Moment) :
    PyProg.Claims admittedDigests KeySeen (engine.admitEffect input trustedNow) := by
  have raised : ∀ error, admittedDigests (.error error) = none := fun _ => rfl
  apply PyProg.Claims.bind _ raised
  intro _
  cases trustedNow with
  | naive time => exact rfl
  | aware now offset =>
    apply PyProg.Claims.bind _ raised
    intro _
    apply PyProg.Claims.bind _ raised
    intro canonical
    apply PyProg.Claims.bind _ raised
    intro executorDigest
    apply PyProg.Claims.bind _ raised
    intro _
    apply PyProg.Claims.bind _ raised
    intro _
    apply PyProg.Claims.bind _ raised
    intro current
    apply PyProg.Claims.bind _ raised
    rintro ⟨digests, receiptDigest⟩
    dsimp only
    cases isKey : digests.replayKey with
    | error error => exact rfl
    | ok replayKey => exact claims_consumeRuntime isKey

theorem claims_admitBoundAction (input : BoundInput) (trustedNow : Moment) :
    PyProg.Claims admittedDigests KeySeen (engine.admitBoundAction input trustedNow) := by
  have raised : ∀ error, admittedDigests (.error error) = none := fun _ => rfl
  cases trustedNow with
  | naive time => exact rfl
  | aware now offset =>
    apply PyProg.Claims.bind _ raised
    intro inputs
    apply PyProg.Claims.bind _ raised
    intro canonical
    apply PyProg.Claims.bind _ raised
    intro _
    exact engine.claims_admitEffect _ _

end RuntimeAdmissionEngine

theorem repliedDigests_map : (fun result => repliedDigests (Except.map RuntimeReply.admitted result)) =
    admittedDigests := by
  funext result
  cases result <;> rfl

theorem RuntimeCall.claims_program (call : RuntimeCall) :
    PyProg.Claims repliedDigests KeySeen call.program := by
  have raised : ∀ error, repliedDigests (.error error) = none := fun _ => rfl
  cases call with
  | admitEffect engine input trustedNow =>
    apply PyProg.Claims.map
    rw [repliedDigests_map]
    exact engine.claims_admitEffect input trustedNow
  | admitBoundAction engine input trustedNow =>
    apply PyProg.Claims.map
    rw [repliedDigests_map]
    exact engine.claims_admitBoundAction input trustedNow
  | admitAuthority index config replayDomain key replayNonce now =>
    exact PyProg.Claims.bind _ raised fun _ => rfl
  | change update => exact fun _ => .inr rfl

/-! ### What calls do to the replay guard -/

def SeenGrows (before after : RuntimeWorld) : Prop :=
  ∀ key ∈ before.seen, key ∈ after.seen

theorem SeenGrows.refl (world : RuntimeWorld) : SeenGrows world world :=
  fun _ member => member

theorem SeenGrows.of_eq {before after : RuntimeWorld} (same : after.seen = before.seen) :
    SeenGrows before after := by
  intro key member
  rw [same]
  exact member

theorem within_onEngine {α : Type} (index : Nat) (program : PyProg LiveWorld α) :
    PyProg.Within SeenGrows (onEngine index program) := by
  have kept : PyProg.Within (fun before after => after.seen = before.seen)
      (onEngine index program) :=
    @Prog.within_zoom _ _ _ _ (fun world : RuntimeWorld => (world.engines index).live)
      (RuntimeWorld.setLive index) RuntimeWorld.seen (fun _ _ => rfl) (ExceptT.run program)
  exact Prog.Within.imp kept fun _ _ => SeenGrows.of_eq

theorem within_consume (replayKey : PyStr) :
    PyProg.Within SeenGrows (PyProg.transact (RuntimeWorld.consume replayKey)) := by
  apply PyProg.within_transact
  intro found key member
  unfold RuntimeWorld.consume
  split
  · exact member
  · exact List.mem_cons_of_mem _ member

namespace RuntimeAdmissionEngine

variable (engine : RuntimeAdmissionEngine)

theorem within_canonicalPdp (gate : GateApplied) (receipt : PDPDecisionReceipt) (now : DateTime)
    (offset : Int) : PyProg.Within SeenGrows (engine.canonicalPdp gate receipt now offset) := by
  apply PyProg.Within.bind (PyProg.within_read SeenGrows.refl _)
  intro answer
  apply PyProg.within_lift_bind
  intro evidence
  apply PyProg.within_lift_bind
  intro _
  apply PyProg.Within.bind (PyProg.within_read SeenGrows.refl _)
  intro currentPolicy
  apply PyProg.within_lift_bind
  exact fun _ => PyProg.within_pure _

theorem within_admitEffect (input : AdmitInput) (trustedNow : Moment) :
    PyProg.Within SeenGrows (engine.admitEffect input trustedNow) := by
  apply PyProg.within_lift_bind
  intro _
  cases trustedNow with
  | naive time => exact PyProg.within_lift _
  | aware now offset =>
    apply PyProg.within_lift_bind
    intro _
    apply PyProg.Within.bind (engine.within_canonicalPdp ..)
    intro canonical
    apply PyProg.within_lift_bind
    intro executorDigest
    apply PyProg.within_lift_bind
    intro _
    apply PyProg.within_lift_bind
    intro _
    apply PyProg.Within.bind ((within_onEngine ..).handle _)
    intro current
    apply PyProg.within_lift_bind
    rintro ⟨digests, receiptDigest⟩
    apply PyProg.within_lift_bind
    intro replayKey
    apply PyProg.Within.bind (within_consume replayKey)
    intro consumed
    apply PyProg.within_lift_bind
    exact fun _ => PyProg.within_lift _

theorem within_admitBoundAction (input : BoundInput) (trustedNow : Moment) :
    PyProg.Within SeenGrows (engine.admitBoundAction input trustedNow) := by
  cases trustedNow with
  | naive time => exact PyProg.within_lift _
  | aware now offset =>
    apply PyProg.within_lift_bind
    intro inputs
    apply PyProg.Within.bind (engine.within_canonicalPdp ..)
    intro canonical
    apply PyProg.within_lift_bind
    intro _
    exact engine.within_admitEffect _ _

end RuntimeAdmissionEngine

theorem RuntimeCall.within_program (call : RuntimeCall) :
    PyProg.Within SeenGrows call.program := by
  cases call with
  | admitEffect engine input trustedNow =>
    exact (engine.within_admitEffect input trustedNow).bind fun _ => PyProg.within_pure _
  | admitBoundAction engine input trustedNow =>
    exact (engine.within_admitBoundAction input trustedNow).bind fun _ => PyProg.within_pure _
  | admitAuthority index config replayDomain key replayNonce now =>
    exact (within_onEngine index _).bind fun _ => PyProg.within_pure _
  | change update => exact PyProg.within_transact fun world => SeenGrows.refl _

/-- Two calls that returned an admission for the same six digests are one call. -/
def AdmittedOnce (pool : Pool RuntimeWorld (Except PyError RuntimeReply)) : Prop :=
  ∀ first second firstAdmission secondAdmission,
    pool.Returned first (.ok (.admitted firstAdmission)) →
    pool.Returned second (.ok (.admitted secondAdmission)) →
    firstAdmission.digests = secondAdmission.digests → first = second

/-- Whatever the schedule, at most one call returns an admission for each combination of the
digests of evidence, decision, effect, runtime identity, live authority and executor. -/
theorem admittedOnce_runtimePool (world : RuntimeWorld) (calls : List RuntimeCall)
    (schedule : List Nat) : AdmittedOnce ((runtimePool world calls).run schedule) := by
  intro first second firstAdmission secondAdmission firstReturned secondReturned same
  have claims : ∀ thread ∈ (runtimePool world calls).threads,
      thread.Claims repliedDigests KeySeen := by
    intro thread member
    obtain ⟨call, -, rfl⟩ := List.mem_map.mp member
    exact call.claims_program
  have keeps : ∀ thread ∈ (runtimePool world calls).threads, thread.Within fun before after =>
      ∀ digests, KeySeen before digests → KeySeen after digests := by
    intro thread member
    obtain ⟨call, -, rfl⟩ := List.mem_map.mp member
    apply Prog.Within.imp call.within_program
    rintro before after grows digests ⟨key, isKey, seen⟩
    exact ⟨key, isKey, grows key seen⟩
  have settled := Pool.settled_run keeps (Pool.settled_start claims) schedule
  exact settled.unique first second _ _ _ firstReturned secondReturned rfl
    (congrArg some same.symm)

theorem revalidate_looks (config : LiveAuthorityConfig) (admitted : LiveAdmittedAuthority)
    (now : Moment) :
    PyProg.Within (fun before after => after = before) (revalidate config admitted now) := by
  apply PyProg.within_lift_bind
  intro _
  cases now with
  | naive time => exact PyProg.within_lift _
  | aware time offset =>
    apply PyProg.Within.bind _ fun _ => PyProg.within_pure _
    apply PyProg.within_lift_bind
    intro _
    apply PyProg.Within.bind (liveSnapshot_looks ..)
    intro before
    apply PyProg.within_lift_bind
    intro authenticated
    apply PyProg.Within.bind (liveSnapshot_looks ..)
    intro after
    apply PyProg.within_lift_bind
    intro same
    apply PyProg.within_lift_bind
    exact fun _ => PyProg.within_lift _

/-! ### Two admissions for one decision -/

def surveyTrust : PDPSourceTrustBinding :=
  ⟨py "source", py "instance", List.replicate 64 0x61, py "anchor", List.replicate 64 0x62,
    runtimeSchema⟩

def surveyProvider : ProviderTrustBinding :=
  ⟨py "provider", py "instance", List.replicate 64 0x61, py "anchor", List.replicate 64 0x62⟩

def surveyPlace : ExecutorContext where
  requestId := py "request"
  idempotencyKey := py "key"
  droneId := py "drone"
  executorId := py "executor"
  missionId := py "survey"
  parentMissionId := py "parent"
  repository := py "core/api"
  baselineSha := List.replicate 40 0x61
  baselineTreeSha := List.replicate 40 0x62
  branch := py "main"
  readScope := [py "src"]
  writeScope := [py "src"]
  runtimeClass := py "sandbox"
  imageDigest := List.replicate 64 0x61
  sandboxProfileDigest := List.replicate 64 0x62
  resourceProfileDigest := List.replicate 64 0x63

def surveyProvisioning : ExecutorProvisioningRequest :=
  ⟨py "1.0.0", surveyPlace, [], py "2026-01-15T12:00:00Z"⟩

def surveyExecutor : ProvisionedExecutor where
  schemaVersion := py "1.0.0"
  receiptId := py "receipt"
  requestDigest := Sha256.hexNumeral 0x32612ad4d546caa6974901051d191751f99fb4a7bea64774178de081a12b9a50
  context := surveyPlace
  runtimeInstanceId := py "runtime"
  sandboxId := py "sandbox"
  workspaceId := py "workspace"
  credentialHandleIds := []
  provider := surveyProvider
  runtimeAttestationDigest := List.replicate 64 0x64
  providerEvidenceRef := py "evidence"
  provisionedAt := py "2026-01-15T12:00:00Z"

def surveyExecutorDigest : PyStr :=
  Sha256.hexNumeral 0xa2bfaa84aa1dbc7486ad63c1a6eed1f93b7b893ba94edc97163e036644750769

def surveyIdentity : RuntimeIdentityBinding :=
  surveyExecutor.identity surveyExecutorDigest

def surveyIdentityDigest : PyStr :=
  Sha256.hexNumeral 0x42edb4e604fa6416c9474db3529a5efc39897b8720a7b38ec1bc479faf0aac74

/-- The effect of the proposal of the survey, under an identifier. -/
def surveyEffect (effectId : PyStr) : RequestedRuntimeEffect where
  effectId := effectId
  proposalId := py "proposal"
  missionId := py "survey"
  policyBinding := surveyGate.policyBinding
  authorityLineageDigest := surveyGate.authorityLineageDigest
  requestedAuthority := py "read"
  actionClass := py "LIST"
  resource := py "core/api"
  payloadDigest := List.replicate 64 0x61
  observabilityState := py "HEALTHY"
  runtimeIdentityDigest := surveyIdentityDigest
  schemaVersion := runtimeSchema

def surveyReceiptDigest : PyStr :=
  Sha256.hexNumeral 0x376d709b67c1016ad2990a47facf88a48b9c9611ab6956dfa8d8ace3486a8eef

def surveyEvidence : CanonicalPDPDecisionEvidence where
  requestId := py "request"
  gateEventId := py "gate"
  proposalId := py "proposal"
  gateDecisionDigest := surveyGate.decisionDigest
  pdpReceiptDigest := surveyReceiptDigest
  requestDigest := surveyReceipt.requestDigest
  replayKey := surveyReceipt.replayKey
  policyBinding := surveyGate.policyBinding
  authorityLineageDigest := surveyGate.authorityLineageDigest
  observabilityState := py "HEALTHY"
  sourceId := py "source"
  sourceInstanceId := py "instance"
  sourceImplementationDigest := List.replicate 64 0x61
  trustAnchorId := py "anchor"
  trustAnchorDigest := List.replicate 64 0x62
  issuedAt := py "2026-01-15T12:00:00Z"
  expiresAt := py "2026-01-15T13:00:00Z"
  evidenceDigest := Sha256.hexNumeral 0x3748f5e2a41b26be39a4b534d75fd87474891d49a78b1e397e787926368f49f0
  schemaVersion := runtimeSchema

/-- A receipt of the live admission that the root of the survey grants. -/
def surveyAdmitted : LiveAdmittedAuthority where
  repository := py "core/api"
  prNumber := 7
  baseSha := List.replicate 40 0x61
  headSha := List.replicate 40 0x62
  missionId := py "survey"
  grantId := py "root"
  lineageDigest := surveyGate.authorityLineageDigest
  provenanceId := py "ledger"
  epoch := 3
  epochStateVersion := 1
  authorityCeiling := py "external_write"
  rootGrantId := py "root"
  rootGrantDigest := Sha256.hexNumeral 0xa15706b0c55eaa7a74a760a22c50ccaa2a1b407a139d7559a390903f97303aed
  authenticatedGrantDigests :=
    [Sha256.hexNumeral
      0xa15706b0c55eaa7a74a760a22c50ccaa2a1b407a139d7559a390903f97303aed]
  leafKeyId := py "key-1"
  leafAlgorithm := py "ed25519"
  replayDigest := List.replicate 64 0x61
  admittedAt := py "2026-01-15T12:00:00+00:00"

def surveyAdmitInput (effectId : PyStr) : AdmitInput where
  gate := surveyGate
  pdpReceipt := surveyReceipt
  admittedAuthority := surveyAdmitted
  proposal := surveyProposal
  effect := surveyEffect effectId
  runtimeIdentity := surveyIdentity
  provisionedExecutor := surveyExecutor
  provisioningRequest := surveyProvisioning
  providerTrust := surveyProvider

def surveyRuntime : RuntimeWorld :=
  ⟨fun _ => ⟨surveyWorld.live, ⟨fun _ _ => .ok (some surveyEvidence), .ok⟩⟩, []⟩

def surveyEngine : RuntimeAdmissionEngine :=
  ⟨0, surveyConfig, surveyTrust⟩

/-- The request, the gate event and the decision of two admissions are the same. -/
def SameDecision : Except PyError RuntimeAdmission → Except PyError RuntimeAdmission → Bool
  | .ok first, .ok second =>
    [first.requestId, first.gateEventId, first.gateDecisionDigest] =
      [second.requestId, second.gateEventId, second.gateDecisionDigest]
  | _, _ => false

def surveyEffectCall (effectId : PyStr) : PyProg RuntimeWorld RuntimeAdmission :=
  surveyEngine.admitEffect (surveyAdmitInput effectId) (.aware surveyNow 0)

/-- The decision of the survey is admitted for an effect, and again under another identifier of
the effect. -/
theorem survey_admits :
    SameDecision (PyProg.runAlone (surveyEffectCall (py "effect-1")) surveyRuntime).2
      (PyProg.runAlone (surveyEffectCall (py "effect-2"))
        (PyProg.runAlone (surveyEffectCall (py "effect-1")) surveyRuntime).1).2 = true := by
  -- The arguments of both calls are evaluated once.
  have checks : ∀ effectId ∈ [py "effect-1", py "effect-2"],
      (surveyAdmitInput effectId).validate = .ok () ∧
      (surveyAdmitInput effectId).executorDigest = .ok surveyExecutorDigest ∧
      (surveyAdmitInput effectId).checkNames = .ok () := by
    delta AdmitInput.checkNames AdmitInput.executorDigest AdmitInput.validate GateApplied.validate
      GateApplied.checkDigest GateApplied.computeDigest ProvisionedExecutor.validateFor
      ProvisionedExecutor.digest ExecutorProvisioningRequest.digest RuntimeIdentityBinding.digest
      domainDigest
    rw [Sha256.sha256_eq_evalText]
    decide +kernel
  obtain ⟨firstValid, firstDigest, firstNames⟩ := checks (py "effect-1") (by simp)
  obtain ⟨secondValid, secondDigest, secondNames⟩ := checks (py "effect-2") (by simp)
  delta surveyEffectCall RuntimeAdmissionEngine.admitEffect RuntimeAdmissionEngine.admitAt
  rw [firstValid, firstDigest, firstNames, secondValid, secondDigest, secondNames]
  delta RuntimeAdmissionEngine.canonicalPdp RuntimeAdmissionEngine.checkEvidence
    RuntimeAdmissionEngine.digestsOf CanonicalPDPDecisionEvidence.validate
    CanonicalPDPDecisionEvidence.computeDigest RuntimeIdentityBinding.digest
    RequestedRuntimeEffect.digest LiveAdmittedAuthority.digest pdpReceiptDigest revalidate
    revalidateAt authenticateRecord liveSnapshot sameSnapshot sameDigests matchPersistentRoot
    AuthorityLineageRecord.validate AuthorityLineageRecord.validateLeaf
    canonicalSourceLineageDigest resolveExact AuthorityGrant.digest AdmissionDigests.replayKey
    consumeRuntime RuntimeAdmission.sealed RuntimeAdmission.validate
    RuntimeAdmission.computeDigest replayDigestOf domainDigest
  rw [Sha256.sha256_eq_evalText]
  decide +kernel

theorem exists_of_sameDecision {first second : Except PyError RuntimeAdmission}
    (same : SameDecision first second = true) : ∃ firstAdmission secondAdmission,
      first = .ok firstAdmission ∧ second = .ok secondAdmission ∧
      [firstAdmission.requestId, firstAdmission.gateEventId, firstAdmission.gateDecisionDigest] =
        [secondAdmission.requestId, secondAdmission.gateEventId,
          secondAdmission.gateDecisionDigest] := by
  cases first with
  | error error => cases same
  | ok firstAdmission =>
    cases second with
    | error error => cases same
    | ok secondAdmission =>
      exact ⟨firstAdmission, secondAdmission, rfl, rfl, of_decide_eq_true same⟩

theorem exists_run_admitEffect {pool : Pool RuntimeWorld (Except PyError RuntimeReply)}
    {index : Nat} {engine : RuntimeAdmissionEngine} {input : AdmitInput} {now : Moment}
    {world : RuntimeWorld} {admission : RuntimeAdmission} (shared : pool.shared = world)
    (found : pool.threads[index]? =
      some (ExceptT.run (RuntimeCall.program (.admitEffect engine input now))))
    (admitted : (PyProg.runAlone (engine.admitEffect input now) world).2 = .ok admission) :
    ∃ schedule, (pool.run schedule).shared =
        (PyProg.runAlone (engine.admitEffect input now) world).1 ∧
      (pool.run schedule).threads =
        pool.threads.set index (.ret (.ok (.admitted admission))) := by
  obtain ⟨schedule, ran⟩ := Pool.exists_run_alone found
  have replied : PyProg.runAlone (RuntimeCall.program (.admitEffect engine input now)) world =
      ((PyProg.runAlone (engine.admitEffect input now) world).1, .ok (.admitted admission)) := by
    have whole := Prod.mk.eta (p := PyProg.runAlone (engine.admitEffect input now) world)
    rw [admitted] at whole
    rw [RuntimeCall.program, PyProg.runAlone_bind, ← whole]
    rfl
  refine ⟨schedule, ?_⟩
  unfold PyProg.runAlone at replied
  rw [ran, shared, replied]
  exact ⟨rfl, rfl⟩

/-- At most one call returns an admission for a decision, with the same action, resource and
payload. -/
def OneAdmissionPerDecision (calls : List RuntimeCall)
    (pool : Pool RuntimeWorld (Except PyError RuntimeReply)) : Prop :=
  ∀ first second firstEngine secondEngine firstInput secondInput firstNow secondNow
    firstAdmission secondAdmission,
    calls[first]? = some (.admitEffect firstEngine firstInput firstNow) →
    calls[second]? = some (.admitEffect secondEngine secondInput secondNow) →
    pool.Returned first (.ok (.admitted firstAdmission)) →
    pool.Returned second (.ok (.admitted secondAdmission)) →
    [firstAdmission.requestId, firstAdmission.gateEventId, firstAdmission.gateDecisionDigest] =
      [secondAdmission.requestId, secondAdmission.gateEventId,
        secondAdmission.gateDecisionDigest] →
    [firstInput.effect.actionClass, firstInput.effect.resource, firstInput.effect.payloadDigest] =
      [secondInput.effect.actionClass, secondInput.effect.resource,
        secondInput.effect.payloadDigest] →
    first = second

theorem not_oneAdmissionPerDecision : ¬ ∀ (world : RuntimeWorld) (calls : List RuntimeCall)
    (schedule : List Nat),
    OneAdmissionPerDecision calls ((runtimePool world calls).run schedule) := by
  intro onlyOne
  obtain ⟨firstAdmission, secondAdmission, first, second, decision⟩ :=
    exists_of_sameDecision survey_admits
  unfold surveyEffectCall at first second
  let calls : List RuntimeCall :=
    [.admitEffect surveyEngine (surveyAdmitInput (py "effect-1")) (.aware surveyNow 0),
      .admitEffect surveyEngine (surveyAdmitInput (py "effect-2")) (.aware surveyNow 0)]
  obtain ⟨firstSchedule, shared, firstThreads⟩ := @exists_run_admitEffect
    (runtimePool surveyRuntime calls) 0 _ _ _ surveyRuntime _ rfl rfl first
  obtain ⟨secondSchedule, -, secondThreads⟩ := @exists_run_admitEffect
    ((runtimePool surveyRuntime calls).run firstSchedule) 1 _ _ _ _ _ shared
    (by rw [firstThreads]; rfl) second
  have threads : ((runtimePool surveyRuntime calls).run (firstSchedule ++ secondSchedule)).threads =
      ((runtimePool surveyRuntime calls).threads.set 0 (.ret (.ok (.admitted firstAdmission)))).set
        1 (.ret (.ok (.admitted secondAdmission))) := by
    rw [Pool.run_append, secondThreads, firstThreads]
  have firstReturned : ((runtimePool surveyRuntime calls).run
      (firstSchedule ++ secondSchedule)).Returned 0 (.ok (.admitted firstAdmission)) := by
    rw [Pool.Returned, threads]
    rfl
  have secondReturned : ((runtimePool surveyRuntime calls).run
      (firstSchedule ++ secondSchedule)).Returned 1 (.ok (.admitted secondAdmission)) := by
    rw [Pool.Returned, threads]
    rfl
  have same : 0 = 1 := onlyOne surveyRuntime calls (firstSchedule ++ secondSchedule) 0 1 _ _ _ _ _ _
    _ _ rfl rfl firstReturned secondReturned decision
    (by simp only [surveyAdmitInput, surveyEffect])
  exact absurd same (by decide)

end CyberLion
