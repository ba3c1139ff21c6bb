import CyberLion.PolicyGateReplay

/-!
# Ceilings of an allowed proposal

The control plane compares ranks, the policy decision point compares sets of classes.  The
two agree except on the two classes of one rank, which the control plane takes for one
another, and a replay compares nothing.
-/

namespace CyberLion

open PyLib
open Json (decodeText IsSolid)

/-! ### The ceilings of the control plane -/

namespace AdmissionInput

variable (input : AdmissionInput)

/-- The ceilings of the proposer, of the mission and of the swarm contain the requested
authority. -/
structure Within (proposer : AgentSpec) : Prop where
  found : input.agents input.proposal.proposerAgentId = some proposer
  agent : ContainedIn proposer.authorityCeiling input.proposal.requestedAuthority
  mission : ContainedIn input.mission.authorityCeiling input.proposal.requestedAuthority
  swarm : ContainedIn input.swarm.authorityCeiling input.proposal.requestedAuthority

/-- One of the ceilings and the requested authority are the two classes of one rank. -/
def Crosses : Prop :=
  (∃ proposer, input.agents input.proposal.proposerAgentId = some proposer ∧
      CrossesText input.proposal.requestedAuthority proposer.authorityCeiling) ∨
    CrossesText input.proposal.requestedAuthority input.mission.authorityCeiling ∨
    CrossesText input.proposal.requestedAuthority input.swarm.authorityCeiling

variable {input}

theorem within_iff_of_ranked {proposer : AgentSpec} (ranked : Ranked input proposer) :
    input.Within proposer ↔ ¬ input.Crosses := by
  obtain ⟨found, ⟨agentUpper, agentLower, agentRank, agentRequested, agentLe⟩,
    ⟨missionUpper, missionLower, missionRank, missionRequested, missionLe⟩,
    swarmUpper, swarmLower, swarmRank, swarmRequested, swarmLe⟩ := ranked
  have agent := containedIn_iff_of_rank agentRank agentRequested agentLe
  have mission := containedIn_iff_of_rank missionRank missionRequested missionLe
  have swarm := containedIn_iff_of_rank swarmRank swarmRequested swarmLe
  constructor
  · rintro within (⟨other, isOther, crosses⟩ | crosses | crosses)
    · obtain rfl := Option.some.inj (found.symm.trans isOther)
      exact agent.mp within.agent crosses
    · exact mission.mp within.mission crosses
    · exact swarm.mp within.swarm crosses
  · intro apart
    exact ⟨found, agent.mpr fun crosses => apart (.inl ⟨proposer, found, crosses⟩),
      mission.mpr fun crosses => apart (.inr (.inl crosses)),
      swarm.mpr fun crosses => apart (.inr (.inr crosses))⟩

theorem exists_rank_of_containedIn {parent child : PyStr} (inside : ContainedIn parent child) :
    ∃ upper lower, authorityRank parent = .ok upper ∧ authorityRank child = .ok lower ∧
      lower ≤ upper := by
  obtain ⟨upper, lower, isUpper, isLower, member⟩ := inside
  exact ⟨upper.rank, lower.rank, authorityRank_eq_ok.mpr ⟨upper, isUpper, rfl⟩,
    authorityRank_eq_ok.mpr ⟨lower, isLower, rfl⟩, AuthorityClass.rank_le_iff.mpr (.inl member)⟩

theorem Within.ranked {proposer : AgentSpec} (within : input.Within proposer) :
    Ranked input proposer :=
  ⟨within.found, exists_rank_of_containedIn within.agent,
    exists_rank_of_containedIn within.mission, exists_rank_of_containedIn within.swarm⟩

theorem exists_within_iff :
    (∃ proposer, input.Within proposer) ↔ (∃ proposer, Ranked input proposer) ∧ ¬ input.Crosses := by
  constructor
  · rintro ⟨proposer, within⟩
    exact ⟨⟨proposer, within.ranked⟩, (within_iff_of_ranked within.ranked).mp within⟩
  · rintro ⟨⟨proposer, ranked⟩, apart⟩
    exact ⟨proposer, (within_iff_of_ranked ranked).mpr apart⟩

end AdmissionInput

/-! ### The ceilings of the policy decision point -/

theorem isSolid_text (cls : AuthorityClass) : IsSolid cls.text := by
  unfold IsSolid
  cases cls <;> decide

theorem text_of_ofText {value : PyStr} {cls : AuthorityClass}
    (isClass : AuthorityClass.ofText value = some cls) : cls.text = value := by
  simpa using List.find?_some isClass

theorem ofText_text (cls : AuthorityClass) : AuthorityClass.ofText cls.text = some cls := by
  cases cls <;> decide

theorem containedIn_of_contains {upper : AuthorityClass} {parent child : PyStr}
    (isUpper : AuthorityClass.ofText parent = some upper)
    (inside : (upper.contains.map AuthorityClass.text).contains child = true) :
    ContainedIn parent child := by
  obtain ⟨lower, member, rfl⟩ := List.mem_map.mp (List.contains_iff_mem.mp inside)
  exact ⟨upper, lower, isUpper, ofText_text lower, member⟩

theorem containedIn_of_authorityContains {parent child : PyStr}
    (contains : authorityContains parent child = .ok true) : ContainedIn parent child := by
  unfold authorityContains at contains
  split at contains
  · exact nomatch contains
  · rename_i upper isUpper
    exact containedIn_of_contains isUpper (Except.ok.inj contains)

namespace PdpInput

def WithinObservability (input : PdpInput) : Prop :=
  ∃ ceiling, observabilityCeiling input.observabilityState = some ceiling ∧
    ContainedIn ceiling.text input.proposal.requestedAuthority

theorem withinObservability_of_isObservable {input : PdpInput}
    (observable : input.isObservable = true) : input.WithinObservability := by
  unfold isObservable at observable
  cases isCeiling : observabilityCeiling input.observabilityState with
  | none =>
    rw [isCeiling] at observable
    exact nomatch observable
  | some ceiling =>
    rw [isCeiling] at observable
    exact ⟨ceiling, isCeiling, containedIn_of_contains (ofText_text ceiling) observable⟩

theorem denialOf_eq_none {input : PdpInput} {base : GateDecision}
    (passed : input.denialOf base = none) :
    base.decision = .allow ∧ input.isObservable = true := by
  unfold denialOf at passed
  split at passed
  · exact nomatch passed
  · rename_i isAllow
    split at passed
    · exact nomatch passed
    · split at passed
      · exact nomatch passed
      · rename_i observable
        exact ⟨not_not.mp isAllow, Bool.not_eq_false _ |>.mp observable⟩

theorem resultOf_eq_ok {input : PdpInput} {authority : PdpAuthority} {digests : Digests}
    {request : GateRequested} {base : GateDecision} {result : PDPResult}
    (isResult : input.resultOf authority digests request base = .ok result) :
    result.applied.decision =
        (input.appliedOf authority digests (input.denialOf base)).decision ∧
      result.applied.effectiveAuthority =
        (input.appliedOf authority digests (input.denialOf base)).effectiveAuthority ∧
      result.applied.authorityLineageDigest = authority.admittedLineageDigest := by
  simp only [resultOf, GateApplied.sealed, bind_eq_ok, pure_eq_ok] at isResult
  obtain ⟨applied, ⟨_, -, _, -, rfl⟩, _, -, _, -, _, -, rfl⟩ := isResult
  exact ⟨rfl, rfl, rfl⟩

theorem allow_of_resultOf {input : PdpInput} {authority : PdpAuthority} {digests : Digests}
    {request : GateRequested} {base : GateDecision} {result : PDPResult}
    (isResult : input.resultOf authority digests request base = .ok result)
    (isAllow : result.applied.decision = GateVerdict.allow.text) :
    result.applied.effectiveAuthority = input.proposal.requestedAuthority ∧
      result.applied.authorityLineageDigest = authority.admittedLineageDigest ∧
      base.decision = .allow ∧ input.isObservable = true := by
  obtain ⟨sameDecision, sameEffective, sameLineage⟩ := resultOf_eq_ok isResult
  rw [sameDecision] at isAllow
  cases denied : input.denialOf base with
  | some rationale =>
    rw [denied] at isAllow
    exact absurd isAllow (by simp only [appliedOf]; decide)
  | none =>
    rw [denied] at sameEffective
    exact ⟨sameEffective, sameLineage, denialOf_eq_none denied⟩

end PdpInput

def WithinGrant (instants : List PdpWorld) (key : PdpKey) (digest requested : PyStr) : Prop :=
  ∃ read ∈ instants, ∃ lineage leaf, read.Answers lineage digest key ∧
    lineage.getLast? = some leaf ∧ ContainedIn leaf.authorityCeiling requested

variable {config : LiveAuthorityConfig} {replayDomain : PyStr} {strRepr : PyStr → PyStr}

theorem Decided.allow {input : PdpInput} {digests : PdpInput.Digests} {result : PDPResult}
    {instants : List PdpWorld} {authority : PdpAuthority} {base : GateDecision}
    (decided : Decided strRepr input digests result instants authority base)
    (isAllow : result.applied.decision = GateVerdict.allow.text) :
    result.applied.effectiveAuthority = input.proposal.requestedAuthority ∧
      input.WithinObservability ∧
      WithinGrant instants input.authorityKey result.applied.authorityLineageDigest
        input.proposal.requestedAuthority ∧
      ∃ proposer, Ranked input.admissionInput proposer := by
  obtain ⟨request, -, isResult⟩ := decided.sealed
  obtain ⟨effective, sameLineage, baseAllow, observable⟩ := PdpInput.allow_of_resultOf isResult isAllow
  obtain ⟨-, ranked⟩ := evaluate_allow decided.evaluated baseAllow
  refine ⟨effective, PdpInput.withinObservability_of_isObservable observable, ?_, ranked⟩
  obtain ⟨read, member, lineage, leaf, answers, isLeaf, sameCeiling⟩ := decided.found.receipt
  have authorized := decided.authorized
  simp only [PdpInput.checkAuthority, bind_eq_ok, raiseIf_eq_ok] at authorized
  obtain ⟨_, -, _, -, _, -, _, -, _, -, _, -, contained, contains, inside⟩ := authorized
  rw [Bool.not_eq_false] at inside
  subst inside
  rw [sameCeiling] at contains
  rw [← sameLineage] at answers
  exact ⟨read, member, lineage, leaf, answers, isLeaf,
    containedIn_of_authorityContains contains⟩

/-! ### Replays -/

namespace PdpInput

theorem isSolid_requestedAuthority {input : PdpInput} {digests : Digests}
    (checked : input.check = .ok digests) : IsSolid input.proposal.requestedAuthority := by
  obtain ⟨valid, -⟩ := check_eq_ok checked
  simp only [ActionProposal.validate, bind_eq_ok] at valid
  obtain ⟨_, -, _, -, rank, isRank, -⟩ := valid
  obtain ⟨cls, isClass, -⟩ := authorityRank_eq_ok.mp isRank
  rw [← text_of_ofText isClass]
  exact isSolid_text cls

theorem isSolid_observabilityState {input : PdpInput} {digests : Digests}
    (checked : input.check = .ok digests) : IsSolid input.observabilityState := by
  simp only [check, bind_eq_ok, raiseIf_eq_ok] at checked
  obtain ⟨_, -, _, -, _, -, _, -, _, -, _, -, _, -, _, -, _, known, -⟩ := checked
  rw [observabilityCeiling] at known
  by_cases healthy : input.observabilityState = py "HEALTHY"
  · rw [healthy, IsSolid]
    decide
  · by_cases degraded : input.observabilityState = py "DEGRADED"
    · rw [degraded, IsSolid]
      decide
    · by_cases lost : input.observabilityState = py "LOST"
      · rw [lost, IsSolid]
        decide
      · simp [List.lookup_cons, beq_eq_false_iff_ne.mpr healthy, beq_eq_false_iff_ne.mpr degraded,
          beq_eq_false_iff_ne.mpr lost] at known

theorem requested_eq_of_covered {first second : PdpInput} {firstDigests secondDigests : Digests}
    (firstChecked : first.check = .ok firstDigests)
    (secondChecked : second.check = .ok secondDigests)
    (same : first.coveredInputs = second.coveredInputs) :
    first.proposal.requestedAuthority = second.proposal.requestedAuthority ∧
      first.observabilityState = second.observabilityState := by
  obtain ⟨-, firstStatus, firstGraph, -⟩ := check_eq_ok firstChecked
  obtain ⟨-, secondStatus, secondGraph, -⟩ := check_eq_ok secondChecked
  rw [coveredInputs, coveredInputs, firstStatus, secondStatus, ok_bind, ok_bind, firstGraph,
    secondGraph, ok_bind, ok_bind] at same
  have covered := Except.ok.inj same
  have requested := congrArg (fun covered => covered.proposal.requestedAuthority) covered
  have state := congrArg Covered.observabilityState covered
  have firstRequested := isSolid_requestedAuthority firstChecked
  have secondRequested := isSolid_requestedAuthority secondChecked
  have firstState := isSolid_observabilityState firstChecked
  have secondState := isSolid_observabilityState secondChecked
  constructor
  · rw [← firstRequested, ← secondRequested]
    exact requested
  · rw [← firstState, ← secondState]
    exact state

end PdpInput

def IsReplay (calls : List PdpCall) (index : Nat) (call : PdpCall) : Prop :=
  ∃ earlier, earlier < index ∧ ∃ first, calls[earlier]? = some first ∧
    first.input.requestId = call.input.requestId ∧ returned first.outcome = true

/-- What an allowed call is about: the call that decided is this one or an earlier one with
the same requested authority and the same state of observability. -/
theorem exists_decided_of_allow {calls : List PdpCall} {index : Nat} {call : PdpCall}
    {result : PDPResult} (traced : TracedTo strRepr calls index call result)
    (apart : ∀ first ∈ calls, first.input.requestId = call.input.requestId →
      first.input.NoCollision call.input) :
    ∃ (earlier : Nat) (maker : PdpCall) (making : PdpInput.Digests) (authority : PdpAuthority)
      (base : GateDecision), earlier ≤ index ∧ calls[earlier]? = some maker ∧
      maker.input.requestId = call.input.requestId ∧ maker.outcome = .ok result ∧
      Decided strRepr maker.input making result maker.instants authority base ∧
      maker.input.proposal.requestedAuthority = call.input.proposal.requestedAuthority ∧
      maker.input.observabilityState = call.input.observabilityState := by
  obtain ⟨earlier, maker, digests, making, le, isMaker, sameId, checked, samePre, outcome,
    authority, base, decided⟩ := traced
  have covered := (PdpInput.preRequest_eq_iff
    (apart maker (List.mem_of_getElem? isMaker) sameId) decided.checked checked).mp samePre
  obtain ⟨requested, state⟩ := PdpInput.requested_eq_of_covered decided.checked checked covered
  exact ⟨earlier, maker, making, authority, base, le, isMaker, sameId, outcome, decided, requested,
    state⟩

/-- The control plane and the policy decision point allow with the requested authority, the
decision point within the admitted grant and the state of observability.  The requested
authority is within the other ceilings exactly when none of them is the other class of its
rank and, for a replay, their ranks allow it. -/
theorem allow_within_ceilings :
    (∀ (input : AdmissionInput) (decision : GateDecision),
      input.evaluate strRepr = .ok decision → decision.decision = .allow →
        decision.effectiveAuthority = input.proposal.requestedAuthority ∧
          ((∃ proposer, input.Within proposer) ↔ ¬ input.Crosses)) ∧
    ∀ (start final : PdpWorld) (calls : List PdpCall), start.replay = [] →
      PdpRun config replayDomain strRepr start calls final →
      ∀ (index : Nat) (call : PdpCall) (result : PDPResult), calls[index]? = some call →
        call.outcome = .ok result → result.applied.decision = GateVerdict.allow.text →
        (∀ first ∈ calls, first.input.requestId = call.input.requestId →
          first.input.NoCollision call.input) →
        result.applied.effectiveAuthority = call.input.proposal.requestedAuthority ∧
          call.input.WithinObservability ∧
          (∃ maker ∈ calls, maker.input.requestId = call.input.requestId ∧
            maker.outcome = .ok result ∧
            WithinGrant maker.instants maker.input.authorityKey
              result.applied.authorityLineageDigest call.input.proposal.requestedAuthority) ∧
          ((∃ proposer, call.input.admissionInput.Within proposer) ↔
            ¬ call.input.admissionInput.Crosses ∧
              (IsReplay calls index call →
                ∃ proposer, Ranked call.input.admissionInput proposer)) := by
  constructor
  · intro input decision evaluated isAllow
    obtain ⟨effective, ranked⟩ := evaluate_allow evaluated isAllow
    refine ⟨effective, ?_⟩
    rw [AdmissionInput.exists_within_iff]
    exact and_iff_right ranked
  · intro start final calls fresh run index call result isCall outcome isAllow apart
    have traced := (agrees_of_pdpRun fresh run).traced index call result isCall outcome
    obtain ⟨earlier, maker, making, authority, base, le, isMaker, sameId, made, decided, requested,
      state⟩ := exists_decided_of_allow traced apart
    obtain ⟨effective, observability, grant, ranked⟩ := decided.allow isAllow
    rw [PdpInput.WithinObservability, state, requested] at observability
    rw [requested] at effective grant
    refine ⟨effective, observability,
      ⟨maker, List.mem_of_getElem? isMaker, sameId, made, grant⟩, ?_⟩
    rw [AdmissionInput.exists_within_iff, and_comm]
    -- a call that decided itself compared the ranks
    have own : ¬ IsReplay calls index call →
        ∃ proposer, Ranked call.input.admissionInput proposer := by
      intro first
      have same : earlier = index := by
        by_contra different
        apply first
        refine ⟨earlier, lt_of_le_of_ne le different, maker, isMaker, sameId, ?_⟩
        rw [made]
        rfl
      subst same
      obtain rfl := Option.some.inj (isMaker.symm.trans isCall)
      exact ranked
    tauto

def deployInput : AdmissionInput where
  proposal := { surveyProposal with requestedAuthority := py "deploy" }
  mission := surveyMission (py "deploy")
  swarm := { surveySwarm with authorityCeiling := py "deploy" }
  agents := fun agentId =>
    if agentId = py "drone" then
      some { surveyAgent with
        authorityCeiling := py "financial"
        observabilityEvents := [py "effect"] }
    else none
  policyIds := [py "policy"]
  observedEventTypes := []
  gateEventId := py "gate"

theorem evaluate_deployInput :
    deployInput.evaluate id = .ok (deployInput.decisionOf none) := by
  decide +kernel

/-- The control plane allows a deployment to an agent whose ceiling does not contain it. -/
theorem exists_allow_outside_ceiling : ∃ (input : AdmissionInput) (decision : GateDecision),
    input.evaluate id = .ok decision ∧ decision.decision = .allow ∧
      ¬ ∃ proposer, input.Within proposer := by
  refine ⟨deployInput, _, evaluate_deployInput, rfl, ?_⟩
  rw [AdmissionInput.exists_within_iff]
  rintro ⟨-, apart⟩
  apply apart
  left
  exact ⟨_, rfl, .deploy, .financial, by decide, by decide, by decide⟩

theorem noCollision_of_eq {first second : PdpInput}
    (same : first.preRequestBytes = second.preRequestBytes) : first.NoCollision second := by
  intro firstBytes secondBytes isFirst isSecond _
  rw [same, isSecond] at isFirst
  exact (Except.ok.inj isFirst).symm

/-- The proposal to deploy, and the first call of the survey. -/
theorem allow_within_ceilings_survey :
    ((∃ proposer, deployInput.Within proposer) ↔ ¬ deployInput.Crosses) ∧
    ∃ final first second result,
      PdpRun surveyConfig (py "live") id ⟨surveyWorld, []⟩ [first, second] final ∧
        first.outcome = .ok result ∧
        result.applied.effectiveAuthority = first.input.proposal.requestedAuthority ∧
        ((∃ proposer, first.input.admissionInput.Within proposer) ↔
          ¬ first.input.admissionInput.Crosses ∧ (IsReplay [first, second] 0 first →
            ∃ proposer, Ranked first.input.admissionInput proposer)) := by
  obtain ⟨controlPlane, decisionPoint⟩ := @allow_within_ceilings surveyConfig (py "live") id
  obtain ⟨final, firstInstants, secondInstants, secondOutcome, run⟩ := pdpRun_survey
  have apart : ∀ first ∈ [PdpCall.mk (surveyInput (py "read")) (.ok surveyResult) firstInstants,
        ⟨surveyInput (py "none"), secondOutcome, secondInstants⟩],
      first.input.requestId = py "request" →
        first.input.NoCollision (surveyInput (py "read")) := by
    simp only [List.forall_mem_cons]
    exact ⟨fun _ => noCollision_of_eq rfl, fun _ => noCollision_of_eq rfl, by simp⟩
  obtain ⟨effective, -, -, within⟩ :=
    decisionPoint _ final _ rfl run 0 _ surveyResult rfl rfl rfl apart
  exact ⟨(controlPlane _ _ evaluate_deployInput rfl).2, final, _, _, surveyResult, run, rfl,
    effective, within⟩

end CyberLion
