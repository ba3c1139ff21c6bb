import CyberLion.PolicyGateCeilings
import CyberLion.RuntimeAdmissionRuns

/-!
# Effects that are admitted for an allowed proposal

The policy decision point compares a proposal with the leaf of a lineage, and a runtime
admission compares the effect with the proposal.  What reaches the effect is the authority
class, the mission and the lineage.  The actions and the resources of the leaf are compared
with neither.
-/

namespace CyberLion

open PyLib

variable {config : LiveAuthorityConfig} {replayDomain : PyStr} {strRepr : PyStr → PyStr}

/-! ### From the decision to the effect -/

structure CarriesOut (proposal : ActionProposal) (gate : GateApplied)
    (effect : RequestedRuntimeEffect) : Prop where
  proposalId : effect.proposalId = proposal.proposalId
  missionId : effect.missionId = proposal.missionId
  requestedAuthority : effect.requestedAuthority = proposal.requestedAuthority
  actionClass : effect.actionClass = proposal.actionClass
  resource : effect.resource = proposal.target
  payload : some effect.payloadDigest = proposal.payloadDigest
  policy : effect.policyBinding = gate.policyBinding
  lineage : effect.authorityLineageDigest = gate.authorityLineageDigest

theorem Admits.carriesOut {input : AdmitInput} {admission : RuntimeAdmission}
    (admits : Admits input admission) : CarriesOut input.proposal input.gate input.effect := by
  have names := admits.names
  have authority := admits.authority
  simp only [AdmitInput.checkNames, bind_eq_ok, raiseIf_eq_ok, not_or, ne_eq, not_not] at names
  simp only [AdmitInput.checkAuthority, bind_eq_ok, raiseIf_eq_ok, not_or, ne_eq, not_not]
    at authority
  obtain ⟨_, -, _, ⟨-, proposalId⟩, _, ⟨missionId, -⟩, _, policy, _, ⟨lineage, -⟩, -⟩ := names
  obtain ⟨_, ⟨requested, -⟩, _, -, _, -, _, -, _, -, _, ⟨action, resource⟩, payload⟩ := authority
  exact ⟨proposalId, missionId, requested, action, resource, payload, policy, lineage⟩

/-- The leaf of a lineage that the source answered is for the mission, the capability and the
policy of the proposal. -/
def LeafFor (instants : List PdpWorld) (input : PdpInput) (digest : PyStr) : Prop :=
  ∃ read ∈ instants, ∃ lineage leaf, read.Answers lineage digest input.authorityKey ∧
    lineage.getLast? = some leaf ∧ leaf.missionId = input.proposal.missionId ∧
    leaf.capabilityId = input.proposal.capability ∧
    leaf.policyDigest = input.policy.contentDigest

theorem Decided.leafFor {input : PdpInput} {digests : PdpInput.Digests} {result : PDPResult}
    {instants : List PdpWorld} {authority : PdpAuthority} {base : GateDecision}
    (decided : Decided strRepr input digests result instants authority base) :
    LeafFor instants input authority.admittedLineageDigest := by
  have authorized := decided.authorized
  simp only [PdpInput.checkAuthority, PdpAuthority.checkLeaf, bind_eq_ok, raiseIf_eq_ok,
    lastOf_eq_ok, not_or, ne_eq, not_not] at authorized
  obtain ⟨_, -, _, -, leaf, isLeaf, _, ⟨_, sameDigest, -⟩, _, ⟨mission, capability⟩, _, policy,
    -⟩ := authorized
  obtain ⟨read, member, answers⟩ := decided.found.record
  rw [sameDigest] at answers
  exact ⟨read, member, authority.lineage, leaf, answers, isLeaf, mission, capability, policy⟩

/-- What an admission on the basis of an allowed decision is about: the effect carries out the
proposal that was decided, and a lineage with the digest of the decision was answered whose
leaf is for the mission, the capability and the policy of the proposal, and one whose leaf
contains the authority that the effect asks for. -/
def AdmittedFor (maker : PdpCall) (result : PDPResult) (input : AdmitInput) : Prop :=
  CarriesOut maker.input.proposal result.applied input.effect ∧
    LeafFor maker.instants maker.input input.effect.authorityLineageDigest ∧
    WithinGrant maker.instants maker.input.authorityKey input.effect.authorityLineageDigest
      input.effect.requestedAuthority

/-- Each result that allows was decided by a call, and whatever is admitted for that result and
the proposal of that call stays within what the call compared. -/
theorem admitted_for_decision {start final : PdpWorld} {calls : List PdpCall}
    (fresh : start.replay = []) (run : PdpRun config replayDomain strRepr start calls final) :
    ∀ call ∈ calls, ∀ result, call.outcome = .ok result →
      result.applied.decision = GateVerdict.allow.text →
      ∃ maker ∈ calls, maker.input.requestId = call.input.requestId ∧
        maker.outcome = .ok result ∧
        ∀ (engine : RuntimeAdmissionEngine) (between : RuntimeWorld → RuntimeWorld → Prop)
          (input : AdmitInput) (trustedNow : Moment) (before after : RuntimeWorld)
          (instants : List RuntimeWorld) (admission : RuntimeAdmission),
          PyProg.Exec between (engine.admitEffect input trustedNow) before instants after
            (.ok admission) →
          input.gate = result.applied → input.pdpReceipt = result.receipt →
          input.proposal = maker.input.proposal → AdmittedFor maker result input := by
  intro call member result outcome isAllow
  obtain ⟨index, isCall⟩ := List.mem_iff_getElem?.mp member
  obtain ⟨earlier, maker, digests, making, -, isMaker, sameId, -, -, made, authority, base,
    decided⟩ := (agrees_of_pdpRun fresh run).traced index call result isCall outcome
  obtain ⟨-, -, grant, -⟩ := decided.allow isAllow
  obtain ⟨request, -, isResult⟩ := decided.sealed
  obtain ⟨-, sameLineage, -⟩ := PdpInput.allow_of_resultOf isResult isAllow
  refine ⟨maker, List.mem_of_getElem? isMaker, sameId, made, ?_⟩
  intro engine between input trustedNow before after instants admission execution sameGate _
    sameProposal
  have carries := (RuntimeAdmissionEngine.exec_admitEffect execution).carriesOut
  rw [sameGate, sameProposal] at carries
  have leaf := decided.leafFor
  rw [← sameLineage] at leaf
  rw [AdmittedFor, carries.lineage, carries.requestedAuthority]
  exact ⟨carries, leaf, grant⟩

/-! ### An effect outside of the actions of the grant -/

def PdpWorld.backend (world : PdpWorld) : AuthorityBackend :=
  world.admission.live.backend

theorem keeps_revalidate (admitted : LiveAdmittedAuthority) (now : Moment) :
    PyProg.Within (fun before after => after.backend = before.backend)
      (revalidate config admitted now) :=
  Prog.Within.imp (revalidate_looks config admitted now) fun _ _ same =>
    congrArg LiveWorld.backend same

theorem keeps_refSnapshot (context : ContextKey) (key : RepositoryRefAuthorityLookupKey) :
    PyProg.Within (fun before after : AdmissionWorld => after.live.backend = before.live.backend)
      (refSnapshot context key) := by
  refine PyProg.Within.bind (PyProg.within_read ?_ _) fun record => ?_
  · exact fun _ => rfl
  refine PyProg.Within.bind (PyProg.within_read ?_ _) fun state => ?_
  · exact fun _ => rfl
  refine PyProg.Within.bind (PyProg.within_read ?_ _) fun root => ?_
  · exact fun _ => rfl
  apply PyProg.within_lift_bind
  exact fun _ => PyProg.within_pure _

theorem keeps_onLive {α : Type} {program : PyProg LiveWorld α}
    (within : PyProg.Within (fun before after => after.backend = before.backend) program) :
    PyProg.Within (fun before after : AdmissionWorld => after.live.backend = before.live.backend)
      (onLive program) :=
  Prog.Within.zoom (fun _ _ => rfl) within

theorem keeps_onAdmission {α : Type} {program : PyProg AdmissionWorld α}
    (within : PyProg.Within
      (fun before after => after.live.backend = before.live.backend) program) :
    PyProg.Within (fun before after => PdpWorld.backend after = PdpWorld.backend before)
      (onAdmission program) :=
  Prog.Within.zoom (fun _ _ => rfl) within

theorem keeps_revalidateAuthority (authority : PdpAuthority) (now : Moment) :
    PyProg.Within (fun before after : AdmissionWorld => after.live.backend = before.live.backend)
      (revalidateAuthority config authority now) := by
  cases authority with
  | pullRequest admitted record =>
    exact PyProg.Within.bind (keeps_onLive (keeps_revalidate admitted now)) fun _ =>
      PyProg.within_pure _
  | repositoryRef admitted record =>
    refine PyProg.Within.bind ?_ fun _ => PyProg.within_pure _
    apply PyProg.within_lift_bind
    intro _
    cases now with
    | naive time => exact PyProg.within_lift _
    | aware time offset =>
      refine PyProg.Within.bind ?_ fun _ => PyProg.within_pure _
      apply PyProg.within_lift_bind
      intro _
      apply PyProg.within_lift_bind
      intro _
      apply PyProg.Within.bind (keeps_refSnapshot ..)
      intro before
      apply PyProg.within_lift_bind
      intro authenticated
      apply PyProg.Within.bind (keeps_refSnapshot ..)
      intro after
      apply PyProg.within_lift_bind
      intro same
      apply PyProg.within_lift_bind
      exact fun _ => PyProg.within_lift _

theorem keeps_evaluatePdp {input : PdpInput} {key : AuthorityLookupKey}
    (isKey : input.authorityKey = .pullRequest key) :
    PyProg.Within (fun before after => PdpWorld.backend after = PdpWorld.backend before)
      (evaluatePdp config replayDomain strRepr input) := by
  have admits : PyProg.Within
      (fun before after : AdmissionWorld => after.live.backend = before.live.backend)
      (admitAuthority config replayDomain input) := by
    rw [admitAuthority, isKey]
    apply PyProg.Within.bind (keeps_onLive (keeps_admitLive ..))
    intro admitted
    refine PyProg.Within.bind (PyProg.within_read ?_ _) fun record => PyProg.within_pure _
    exact fun _ => rfl
  unfold evaluatePdp
  apply PyProg.within_lift_bind
  intro digests
  refine PyProg.Within.bind (PyProg.within_read ?_ _) fun old => ?_
  · exact fun _ => rfl
  cases old with
  | some entry =>
    apply PyProg.within_lift_bind
    exact fun _ => PyProg.within_pure _
  | none =>
    apply PyProg.Within.bind ((keeps_onAdmission admits).handle _)
    intro authority
    apply PyProg.within_lift_bind
    intro _
    apply PyProg.within_lift_bind
    intro request
    apply PyProg.within_lift_bind
    intro base
    apply PyProg.Within.bind ((keeps_onAdmission (keeps_revalidateAuthority ..)).handle _)
    intro _
    apply PyProg.within_lift_bind
    intro result
    apply PyProg.within_transact
    exact fun _ => rfl

theorem backend_of_resolveExact {backend : AuthorityBackend} {key : AuthorityLookupKey}
    {record : AuthorityLineageRecord} (resolved : resolveExact backend key = .ok record) :
    backend key = .ok [record] := by
  simp only [resolveExact, bind_eq_ok] at resolved
  obtain ⟨_, -, candidates, answered, resolved⟩ := resolved
  match candidates, resolved with
  | [only], resolved =>
    simp only [bind_eq_ok, pure_eq_ok] at resolved
    obtain ⟨_, -, _, -, rfl⟩ := resolved
    exact answered

/-- The action class and the resource of an effect are among those of the leaf of a lineage that
the source answered. -/
def EffectInLeaf (instants : List PdpWorld) (key : PdpKey) (effect : RequestedRuntimeEffect) :
    Prop :=
  ∃ read ∈ instants, ∃ lineage leaf, read.Answers lineage effect.authorityLineageDigest key ∧
    lineage.getLast? = some leaf ∧ effect.actionClass ∈ leaf.actions ∧
    effect.resource ∈ leaf.resourceScope

theorem exists_survey_admission : ∃ (instants : List PdpWorld) (final : PdpWorld)
    (found : List RuntimeWorld) (after : RuntimeWorld) (admission : RuntimeAdmission),
    PdpRun surveyConfig (py "live") id ⟨surveyWorld, []⟩
      [⟨surveyInput (py "read"), .ok surveyResult, instants⟩] final ∧
    (∀ read ∈ instants, read.backend = surveyWorld.live.backend) ∧
    PyProg.Exec Eq (surveyEngine.admitEffect (surveyAdmitInput (py "effect-1"))
      (.aware surveyNow 0)) surveyRuntime found after (.ok admission) := by
  have keeps : PyProg.Within (fun before after => PdpWorld.backend after = PdpWorld.backend before)
      (evaluatePdp surveyConfig (py "live") id (surveyInput (py "read"))) :=
    @keeps_evaluatePdp _ _ _ _ (surveyKey (py "root")) rfl
  have alone : ∀ state, OwnReplay state state := fun _ => rfl
  obtain ⟨instants, execution, kept⟩ := Prog.Within.exists_exec_run keeps alone ⟨surveyWorld, []⟩
  have returns : (Prog.run (ExceptT.run (evaluatePdp surveyConfig (py "live") id
      (surveyInput (py "read")))) ⟨surveyWorld, []⟩).2 = .ok surveyResult := survey_returns.1
  rw [returns] at execution
  obtain ⟨admission, -, admitted, -⟩ := exists_of_sameDecision survey_admits
  obtain ⟨found, admits⟩ := PyProg.exec_runAlone (surveyEngine.admitEffect
    (surveyAdmitInput (py "effect-1")) (.aware surveyNow 0)) surveyRuntime
  rw [surveyEffectCall] at admitted
  rw [admitted] at admits
  have run : PdpRun surveyConfig (py "live") id ⟨surveyWorld, []⟩
      ([] ++ [⟨surveyInput (py "read"), .ok surveyResult, instants⟩]) _ := .call .nil execution
  exact ⟨instants, _, found, _, admission, run, kept, admits⟩

/-- The survey is allowed and admitted with an action and on a resource that its grant does not
name. -/
theorem exists_effect_outside_leaf : ∃ (start final : PdpWorld) (call : PdpCall)
    (result : PDPResult) (before after : RuntimeWorld) (input : AdmitInput)
    (instants : List RuntimeWorld) (admission : RuntimeAdmission), start.replay = [] ∧
      PdpRun surveyConfig (py "live") id start [call] final ∧ call.outcome = .ok result ∧
      result.applied.decision = GateVerdict.allow.text ∧
      PyProg.Exec Eq (surveyEngine.admitEffect input (.aware surveyNow 0)) before instants after
        (.ok admission) ∧
      input.gate = result.applied ∧ input.pdpReceipt = result.receipt ∧
      input.proposal = call.input.proposal ∧
      ¬ EffectInLeaf call.instants call.input.authorityKey input.effect := by
  obtain ⟨instants, final, found, after, admission, run, kept, admitted⟩ := exists_survey_admission
  refine ⟨⟨surveyWorld, []⟩, final, ⟨surveyInput (py "read"), .ok surveyResult, instants⟩,
    surveyResult, surveyRuntime, after, surveyAdmitInput (py "effect-1"), found, admission, rfl, run,
    rfl, rfl, admitted, rfl, rfl, rfl, ?_⟩
  rintro ⟨read, member, lineage, leaf, ⟨record, isRecord, rfl, -⟩, isLeaf, action, -⟩
  have answered := backend_of_resolveExact isRecord
  have sameBackend : read.admission.live.backend = surveyWorld.live.backend := kept read member
  rw [sameBackend] at answered
  obtain rfl := List.singleton_inj.mp (Except.ok.inj answered)
  obtain rfl := Option.some.inj isLeaf
  exact absurd action (by decide)

/-- The survey, whose effect is admitted for its decision. -/
theorem admitted_for_decision_survey : ∃ (final : PdpWorld) (maker : PdpCall),
    PdpRun surveyConfig (py "live") id ⟨surveyWorld, []⟩ [maker] final ∧
      maker.outcome = .ok surveyResult ∧
      AdmittedFor maker surveyResult (surveyAdmitInput (py "effect-1")) := by
  obtain ⟨instants, final, found, after, admission, run, -, admitted⟩ := exists_survey_admission
  obtain ⟨maker, member, -, made, within⟩ := admitted_for_decision rfl run _
    (List.mem_singleton_self _) surveyResult rfl rfl
  obtain rfl := List.mem_singleton.mp member
  exact ⟨final, _, run, made, within surveyEngine Eq _ _ _ _ _ _ admitted rfl rfl rfl⟩

end CyberLion
