import CyberLion.AgentRegistryHistory
import CyberLion.SwarmPlanner

/-!
# What the swarm planner returns

A swarm that is planned covers the mission with distinct candidates within the budgets.  When no
cost is a NaN, the order of two agents is decided by their ids at the latest, so the order in
which the projection lists them does not matter.
-/

namespace CyberLion

namespace SwarmPlanner

open PyLib
open AgentRegistry (Projection RegisteredSpec digestOf digest_sha256)
open FleetCoordination (canonicalJson zeroDigest)

variable {runtime : PlannerRuntime} {mission : MissionSpec}

/-! ### The selection -/

structure CoveredBy (valid : List AgentSpec) (uncovered : List PyStr)
    (selected result : List AgentSpec) : Prop where
  extends_selected : ∃ added, result = selected ++ added ∧ ∀ agent ∈ added, agent ∈ valid
  nodup : selected.Nodup → result.Nodup
  covers : ∀ capability ∈ uncovered, ∃ agent ∈ result, capability ∈ agent.capabilities

theorem coveredBy_coverAll {valid : List AgentSpec} {uncovered : List PyStr}
    {selected result : List AgentSpec}
    (covered : coverAll runtime mission valid uncovered selected = .ok result) :
    CoveredBy valid uncovered selected result := by
  fun_induction coverAll runtime mission valid uncovered selected with
  | case1 selected =>
    obtain rfl := Except.ok.inj covered
    exact ⟨⟨[], by simp, by simp⟩, id, by simp⟩
  | case2 => cases covered
  | case3 => cases covered
  | case4 uncovered selected _ agent isBest _ ih =>
    obtain ⟨isValid, fresh, -⟩ := mem_candidates_of_best isBest
    obtain ⟨⟨added, rfl, allValid⟩, nodup, covers⟩ := ih covered
    refine ⟨⟨agent :: added, by simp, ?_⟩, ?_, ?_⟩
    · exact List.forall_mem_cons.mpr ⟨isValid, allValid⟩
    · intro distinct
      apply nodup
      exact distinct.append (List.nodup_singleton _) (List.disjoint_singleton.mpr fresh)
    · intro capability member
      by_cases has : capability ∈ agent.capabilities
      · exact ⟨agent, by simp, has⟩
      · exact covers capability (List.mem_filter.mpr ⟨member, by simpa using has⟩)

theorem withVerifier_cases {valid selected result : List AgentSpec}
    (extended : withVerifier runtime mission valid selected = .ok result) :
    (result = selected ∧ (needsVerifier mission = true →
      selected.filter AgentSpec.isVerifier ≠ [])) ∨
    ∃ agent, result = selected ++ [agent] ∧ agent ∈ valid ∧ agent.isVerifier = true ∧
      agent ∉ selected ∧ selected.filter AgentSpec.isVerifier = [] := by
  rw [withVerifier] at extended
  split at extended
  · rename_i needed
    split at extended
    · cases extended
    · rename_i agent isFirst
      obtain rfl := Except.ok.inj extended
      have member := (runtime.perm_sorted _ _).mem_iff.mp (List.mem_of_head? isFirst)
      simp only [verifiers, List.mem_filter, Bool.decide_and, Bool.and_eq_true,
        decide_eq_true_eq] at member
      exact .inr ⟨agent, rfl, member.1, member.2.1, member.2.2.1, needed.2⟩
  · rename_i notNeeded
    obtain rfl := Except.ok.inj extended
    exact .inl ⟨rfl, fun need none => notNeeded ⟨need, none⟩⟩

structure IsPlan (runtime : PlannerRuntime) (mission : MissionSpec) (valid members : List AgentSpec)
    (swarm : SwarmSpec) : Prop where
  candidates : ∀ agent ∈ members, agent ∈ valid
  distinct : (members.map AgentSpec.agentId).Nodup
  listed : swarm.memberAgentIds = members.map AgentSpec.agentId
  covers : ∀ capability ∈ mission.requiredCapabilities,
    ∃ agent ∈ members, capability ∈ agent.capabilities
  few : (members.length : Int) ≤ mission.maxAgents
  affordable : mission.maxTotalCostUnits.lt (runtime.sum (members.map AgentSpec.maxCostUnits)) =
    false
  observed : (coverage members).lt mission.observabilityQuorum = false
  verified : needsVerifier mission = true →
    ∃ agent ∈ members, agent.isVerifier = true ∧ agent.agentId ∈ swarm.verifierAgentIds
  ceiling : swarm.authorityCeiling = mission.authorityCeiling

theorem select_cases {valid selected : List AgentSpec}
    (isSelected : select runtime mission valid = .ok selected) :
    ∃ covering, coverAll runtime mission valid mission.requiredCapabilities [] = .ok covering ∧
      withVerifier runtime mission valid covering = .ok selected := by
  simp only [select, bind_eq_ok] at isSelected
  obtain ⟨_, -, _, -, covering, covered, extended⟩ := isSelected
  exact ⟨covering, covered, extended⟩

theorem plan_cases {projection : Projection} {swarm : SwarmSpec}
    (planned : plan runtime mission projection = .ok swarm) :
    ∃ valid members, mission.validate = .ok () ∧ agents projection mission = .ok valid ∧
      select runtime mission valid = .ok members ∧
      admitMembers runtime mission members = .ok swarm := by
  simp only [plan, bind_eq_ok] at planned
  obtain ⟨_, isMission, valid, isValid, members, isSelected, admitted⟩ := planned
  exact ⟨valid, members, isMission, isValid, isSelected, admitted⟩

theorem admit_cases {members : List AgentSpec} {swarm : SwarmSpec}
    (admitted : admitMembers runtime mission members = .ok swarm) :
    (members.length : Int) ≤ mission.maxAgents ∧
      mission.maxTotalCostUnits.lt (runtime.sum (members.map AgentSpec.maxCostUnits)) = false ∧
      (coverage members).lt mission.observabilityQuorum = false ∧
      swarm = swarmOf mission members (runtime.sum (members.map AgentSpec.maxCostUnits)) ∧
      (members.map AgentSpec.agentId).Nodup := by
  simp only [admitMembers, bind_eq_ok, raiseIf_eq_ok, pure_eq_ok, Int.not_lt,
    Bool.not_eq_true] at admitted
  obtain ⟨_, few, _, affordable, _, observed, _, valid, rfl⟩ := admitted
  simp only [SwarmSpec.validate, bind_eq_ok, raiseIf_eq_ok, not_not] at valid
  obtain ⟨_, -, _, distinct, -⟩ := valid
  exact ⟨few, affordable, observed, rfl, distinct⟩

theorem exists_isPlan {projection : Projection} {swarm : SwarmSpec}
    (planned : plan runtime mission projection = .ok swarm) :
    ∃ valid members, agents projection mission = .ok valid ∧
      IsPlan runtime mission valid members swarm := by
  obtain ⟨valid, members, -, isValid, isSelected, admitted⟩ := plan_cases planned
  obtain ⟨covering, covered, extended⟩ := select_cases isSelected
  obtain ⟨⟨added, same, allValid⟩, -, covers⟩ := coveredBy_coverAll covered
  obtain rfl : covering = added := same
  obtain ⟨few, affordable, observed, rfl, distinct⟩ := admit_cases admitted
  have kept : ∀ agent ∈ covering, agent ∈ members := by
    rcases withVerifier_cases extended with ⟨rfl, -⟩ | ⟨agent, rfl, -⟩
    · exact fun _ member => member
    · exact fun _ member => List.mem_append_left _ member
  refine ⟨valid, members, isValid, ?_, distinct, rfl, ?_, few, affordable, observed, ?_, rfl⟩
  · rcases withVerifier_cases extended with ⟨rfl, -⟩ | ⟨agent, rfl, isAgent, -⟩
    · exact allValid
    · intro other member
      rcases List.mem_append.mp member with old | new
      · exact allValid other old
      · exact List.mem_singleton.mp new ▸ isAgent
  · intro capability required
    obtain ⟨agent, member, has⟩ := covers capability required
    exact ⟨agent, kept agent member, has⟩
  · intro need
    have verifier : ∃ agent ∈ members, agent.isVerifier = true := by
      rcases withVerifier_cases extended with ⟨rfl, nonempty⟩ | ⟨agent, rfl, -, isVerifier, -⟩
      · obtain ⟨agent, member⟩ := List.exists_mem_of_ne_nil _ (nonempty need)
        exact ⟨agent, List.mem_filter.mp member⟩
      · exact ⟨agent, by simp, isVerifier⟩
    obtain ⟨agent, member, isVerifier⟩ := verifier
    refine ⟨agent, member, isVerifier, mem_pySorted.mpr ?_⟩
    exact List.mem_map_of_mem (List.mem_filter.mpr ⟨member, isVerifier⟩)

/-! ### The order of the candidates -/

theorem agentId_eq_of_before {first second : PlanKey} (firstNumber : first.cost ≠ .nan)
    (secondNumber : second.cost ≠ .nan) (notLess : first.before second = false)
    (notGreater : second.before first = false) : first.agentId = second.agentId := by
  rw [← Bool.not_eq_true, ← PlanKey.order_lt_iff secondNumber, not_lt] at notLess
  rw [← Bool.not_eq_true, ← PlanKey.order_lt_iff firstNumber, not_lt] at notGreater
  have same : first.order = second.order := le_antisymm notGreater notLess
  simp only [PlanKey.order, toLex_inj, Prod.mk.injEq] at same
  exact same.2.2.2.2

theorem sorted_eq_of_perm {key : AgentSpec → PlanKey} {first second : List AgentSpec}
    (arrangement : first.Perm second)
    (identified : ∀ agent ∈ first, (key agent).agentId = agent.agentId)
    (numbers : ∀ agent ∈ first, (key agent).cost ≠ .nan)
    (distinct : (first.map AgentSpec.agentId).Nodup) :
    runtime.sorted key first = runtime.sorted key second := by
  have members : ∀ agent ∈ runtime.sorted key first, agent ∈ first :=
    fun agent member => (runtime.perm_sorted key first).mem_iff.mp member
  have arranged : (runtime.sorted key first).Perm (runtime.sorted key second) :=
    (runtime.perm_sorted key first).trans
      (arrangement.trans (runtime.perm_sorted key second).symm)
  refine arranged.eq_of_pairwise ?_ (runtime.pairwise_sorted key first numbers)
    (runtime.pairwise_sorted key second fun agent member =>
      numbers agent (arrangement.mem_iff.mpr member))
  intro agent other isAgent isOther notGreater notLess
  have inFirst := members agent isAgent
  have otherInFirst := members other (arranged.mem_iff.mpr isOther)
  have sameId := agentId_eq_of_before (numbers agent inFirst) (numbers other otherInFirst)
    notLess notGreater
  rw [identified agent inFirst, identified other otherInFirst] at sameId
  exact List.inj_on_of_nodup_map distinct inFirst otherInFirst sameId

/-! ### Permuted candidates -/

section Permuted

variable {valid other : List AgentSpec}

theorem best_eq_of_perm (arrangement : valid.Perm other)
    (distinct : (valid.map AgentSpec.agentId).Nodup)
    (numbers : ∀ agent ∈ valid, agent.maxCostUnits ≠ .nan) (uncovered : List PyStr)
    (selected : List AgentSpec) :
    best runtime mission valid uncovered selected =
      best runtime mission other uncovered selected := by
  have sublist : (candidates valid uncovered selected).Sublist valid := List.filter_sublist
  have arranged : (candidates valid uncovered selected).Perm
      (candidates other uncovered selected) := arrangement.filter _
  have same : runtime.sorted (coverKey mission uncovered) (candidates valid uncovered selected) =
      runtime.sorted (coverKey mission uncovered) (candidates other uncovered selected) :=
    sorted_eq_of_perm arranged (fun _ _ => rfl)
      (fun agent member => numbers agent (sublist.subset member))
      (distinct.sublist (sublist.map _))
  rw [best, best, same]

theorem coverAll_eq (valid : List AgentSpec) (uncovered : List PyStr)
    (selected : List AgentSpec) :
    coverAll runtime mission valid uncovered selected =
      if uncovered = [] then .ok selected
      else match best runtime mission valid uncovered selected with
        | none => .error (modelError (py "cannot cover capabilities: " ++
            listRepr runtime.strRepr (pySorted uncovered)))
        | some agent =>
          if mission.maxAgents < ((selected ++ [agent]).length : Int) then
            .error (modelError (py "mission capability coverage exceeds max_agents"))
          else coverAll runtime mission valid (remaining uncovered agent)
            (selected ++ [agent]) := by
  rw [coverAll]
  split
  · rfl
  · split <;> rename_i isBest <;> rw [isBest]

theorem coverAll_eq_of_perm (arrangement : valid.Perm other)
    (distinct : (valid.map AgentSpec.agentId).Nodup)
    (numbers : ∀ agent ∈ valid, agent.maxCostUnits ≠ .nan) (uncovered : List PyStr)
    (selected : List AgentSpec) :
    coverAll runtime mission valid uncovered selected =
      coverAll runtime mission other uncovered selected := by
  have sameBest : ∀ uncovered selected, best runtime mission valid uncovered selected =
      best runtime mission other uncovered selected := best_eq_of_perm arrangement distinct numbers
  fun_induction coverAll runtime mission valid uncovered selected with
  | case1 selected => rw [coverAll_eq, if_pos rfl]
  | case2 uncovered selected unfinished isBest =>
    rw [coverAll_eq, if_neg unfinished, ← sameBest, isBest]
  | case3 uncovered selected unfinished agent isBest many =>
    rw [coverAll_eq, if_neg unfinished, ← sameBest, isBest]
    exact (if_pos many).symm
  | case4 uncovered selected unfinished agent isBest few ih =>
    rw [ih, coverAll_eq other uncovered, if_neg unfinished, ← sameBest, isBest]
    exact (if_neg few).symm

theorem withVerifier_eq_of_perm (arrangement : valid.Perm other)
    (distinct : (valid.map AgentSpec.agentId).Nodup)
    (numbers : ∀ agent ∈ valid, agent.maxCostUnits ≠ .nan) (selected : List AgentSpec) :
    withVerifier runtime mission valid selected = withVerifier runtime mission other selected := by
  have sublist : (verifiers valid selected).Sublist valid := List.filter_sublist
  have arranged : (verifiers valid selected).Perm (verifiers other selected) :=
    arrangement.filter _
  have same : runtime.sorted (verifierKey mission) (verifiers valid selected) =
      runtime.sorted (verifierKey mission) (verifiers other selected) :=
    sorted_eq_of_perm arranged (fun _ _ => rfl)
      (fun agent member => numbers agent (sublist.subset member))
      (distinct.sublist (sublist.map _))
  rw [withVerifier, withVerifier, same]

theorem missing_eq_of_perm (arrangement : valid.Perm other) :
    missing mission valid = missing mission other := by
  rw [missing, missing]
  congr 1
  refine List.filter_congr fun capability _ => ?_
  simp only [arrangement.mem_iff]

theorem select_eq_of_perm (arrangement : valid.Perm other)
    (distinct : (valid.map AgentSpec.agentId).Nodup)
    (numbers : ∀ agent ∈ valid, agent.maxCostUnits ≠ .nan) :
    select runtime mission valid = select runtime mission other := by
  have empty : valid = [] ↔ other = [] := by
    rw [← List.length_eq_zero_iff, ← List.length_eq_zero_iff, arrangement.length_eq]
  have covering : coverAll runtime mission valid mission.requiredCapabilities [] =
      coverAll runtime mission other mission.requiredCapabilities [] :=
    coverAll_eq_of_perm arrangement distinct numbers _ _
  have extension : ∀ selected, withVerifier runtime mission valid selected =
      withVerifier runtime mission other selected :=
    withVerifier_eq_of_perm arrangement distinct numbers
  rw [select, select, missing_eq_of_perm arrangement, covering]
  simp only [empty, extension]

end Permuted

theorem agents_of_perm {projection permuted : Projection} {valid : List AgentSpec}
    (arrangement : permuted.candidateSpecs.Perm projection.candidateSpecs)
    (missionId : permuted.missionId = projection.missionId)
    (required : permuted.requiredCapabilities = projection.requiredCapabilities)
    (verified : permuted.verifyDigest = .ok ()) (isValid : agents projection mission = .ok valid) :
    ∃ other, agents permuted mission = .ok other ∧ other.Perm valid := by
  simp only [agents, bind_eq_ok, raiseIf_eq_ok] at isValid
  obtain ⟨_, -, _, bound, read⟩ := isValid
  obtain ⟨other, reads, arranged⟩ := List.perm_comp_forall₂ arrangement (mapM_eq_ok.mp read)
  refine ⟨other, ?_, arranged⟩
  rw [agents, verified, ok_bind, missionId, required, raiseIf, if_neg bound, ok_bind]
  exact mapM_eq_ok.mpr reads

theorem plan_perm {projection permuted : Projection}
    (arrangement : permuted.candidateSpecs.Perm projection.candidateSpecs)
    (missionId : permuted.missionId = projection.missionId)
    (required : permuted.requiredCapabilities = projection.requiredCapabilities)
    (verified : projection.verifyDigest = .ok ()) (permutedVerified : permuted.verifyDigest = .ok ())
    (distinct : ∀ valid, agents projection mission = .ok valid →
      (valid.map AgentSpec.agentId).Nodup)
    (numbers : ∀ valid, agents projection mission = .ok valid →
      ∀ agent ∈ valid, agent.maxCostUnits ≠ .nan) :
    (plan runtime mission permuted).toOption = (plan runtime mission projection).toOption := by
  rw [plan, plan]
  cases mission.validate with
  | error error => rfl
  | ok _ =>
    rw [ok_bind, ok_bind]
    cases isValid : agents projection mission with
    | ok valid =>
      obtain ⟨other, isOther, arranged⟩ :=
        agents_of_perm arrangement missionId required permutedVerified isValid
      rw [isOther, ok_bind, ok_bind, select_eq_of_perm arranged.symm (distinct valid isValid)
        (numbers valid isValid)]
    | error error =>
      cases isOther : agents permuted mission with
      | error other => rfl
      | ok other =>
        obtain ⟨valid, found, -⟩ := agents_of_perm arrangement.symm missionId.symm
          required.symm verified isOther
        rw [isValid] at found
        cases found

/-- For a valid projection with distinct ids a swarm that is planned is sound, and if no cost is a
NaN, the order of the candidates changes neither the swarm nor whether there is one. -/
theorem plan_sound (runtime : PlannerRuntime) {mission : MissionSpec} {projection : Projection}
    (verified : projection.verifyDigest = .ok ())
    (distinct : ∀ valid, agents projection mission = .ok valid →
      (valid.map AgentSpec.agentId).Nodup) :
    (∀ swarm, plan runtime mission projection = .ok swarm →
      ∃ valid members, agents projection mission = .ok valid ∧
        IsPlan runtime mission valid members swarm) ∧
    ((∀ valid, agents projection mission = .ok valid →
        ∀ agent ∈ valid, agent.maxCostUnits ≠ .nan) →
      ∀ (candidateSpecs : List Json) (resolutionDigest : PyStr),
        candidateSpecs.Perm projection.candidateSpecs →
        ({ projection with candidateSpecs, resolutionDigest } : Projection).verifyDigest =
          .ok () →
        (plan runtime mission { projection with candidateSpecs, resolutionDigest }).toOption =
          (plan runtime mission projection).toOption) := by
  refine ⟨fun swarm planned => exists_isPlan planned, ?_⟩
  intro numbers candidateSpecs resolutionDigest arrangement permutedVerified
  exact plan_perm arrangement rfl rfl verified permutedVerified distinct numbers

/-! ### Rounding and NaN -/

def sealed (projection : Projection) : Projection :=
  { projection with
    resolutionDigest := (digestOf projection.canonicalPayload).toOption.getD [] }

theorem verifyDigest_sealed {projection : Projection} (valid : projection.validate = .ok ())
    (written : returned (canonicalJson projection.canonicalPayload) = true) :
    (sealed projection).verifyDigest = .ok () := by
  cases isBytes : canonicalJson projection.canonicalPayload with
  | error error => simp [isBytes, returned] at written
  | ok bytes =>
    have digested : digestOf projection.canonicalPayload = .ok (sha256 bytes) := by
      rw [digestOf, isBytes]
      rfl
    simp only [Projection.validate, bind_eq_ok] at valid
    obtain ⟨_, registryId, _, eventHead, _, missionId, _, required, _, -, revision⟩ := valid
    have samePayload : (sealed projection).canonicalPayload = projection.canonicalPayload := rfl
    have sealedValid : (sealed projection).validate = .ok () := by
      simp only [Projection.validate, bind_eq_ok, sealed, digested]
      exact ⟨_, registryId, _, eventHead, _, missionId, _, required, _,
        digest_sha256 _ bytes, revision⟩
    rw [Projection.verifyDigest, sealedValid, ok_bind, samePayload, digested, ok_bind,
      raiseIf_eq_ok, not_not, sealed, digested]
    rfl

def soloAgent (agentId capability : PyStr) (isVerifier : Bool) (cost : PyFloat) : AgentSpec where
  agentId := agentId
  version := py "1"
  role := py "r"
  mission := py "m"
  capabilities := [capability]
  authorityCeiling := py "read"
  executionDomain := py "d"
  observabilityEvents := []
  memoryRead := false
  memoryWrite := false
  memoryPolicyIds := []
  maxRuntimeSeconds := 1
  maxCostUnits := cost
  riskClass := py "GREEN"
  providerClass := py "p"
  isVerifier := isVerifier
  processProfile := none

def projectionFor (mission : MissionSpec) (specs : List RegisteredSpec) : Projection :=
  sealed ⟨py "r", 0, zeroDigest, mission.missionId, mission.requiredCapabilities,
    specs.map RegisteredSpec.dict, zeroDigest⟩

def missionFor (capabilities : List PyStr) (needsVerifier : Bool) : MissionSpec :=
  ⟨py "m", py "p", capabilities, py "read", py "GREEN", 5, .finite 1, needsVerifier, .finite 1⟩

theorem agents_projectionFor (mission : MissionSpec) (specs : List RegisteredSpec)
    (valid : List AgentSpec)
    (isValid : (Projection.mk (py "r") 0 zeroDigest mission.missionId mission.requiredCapabilities
      (specs.map RegisteredSpec.dict) zeroDigest).validate = .ok ())
    (written : returned (canonicalJson (projectionFor mission specs).canonicalPayload) = true)
    (read : (specs.map RegisteredSpec.dict).mapM readCandidate = .ok valid) :
    (projectionFor mission specs).verifyDigest = .ok () ∧
      agents (projectionFor mission specs) mission = .ok valid := by
  have verified : (projectionFor mission specs).verifyDigest = .ok () :=
    verifyDigest_sealed isValid written
  refine ⟨verified, ?_⟩
  rw [agents, verified, ok_bind, raiseIf, if_neg (by simp [projectionFor, sealed]), ok_bind]
  exact read

def smallCosts : List RegisteredSpec :=
  [⟨soloAgent (py "a") (py "x") false (.finite (mkRat 1 (2 ^ 60))),
      .float (py "8.673617379884035e-19")⟩,
    ⟨soloAgent (py "b") (py "y") false (.finite 1), .float (py "1.0")⟩]

def smallMission : MissionSpec :=
  missionFor [py "x", py "y"] false

theorem agents_smallCosts :
    (projectionFor smallMission smallCosts).verifyDigest = .ok () ∧
      agents (projectionFor smallMission smallCosts) smallMission =
        .ok (smallCosts.map RegisteredSpec.agent) :=
  agents_projectionFor _ _ _ (by decide +kernel) (by decide +kernel) (by decide +kernel)

theorem select_smallCosts :
    select .leftToRight smallMission (smallCosts.map RegisteredSpec.agent) =
      .ok (smallCosts.map RegisteredSpec.agent) := by
  have first : best .leftToRight smallMission (smallCosts.map RegisteredSpec.agent)
      [py "x", py "y"] [] = some (soloAgent (py "a") (py "x") false (.finite (mkRat 1 (2 ^ 60)))) := by
    decide +kernel
  have second : best .leftToRight smallMission (smallCosts.map RegisteredSpec.agent) [py "y"]
      [soloAgent (py "a") (py "x") false (.finite (mkRat 1 (2 ^ 60)))] =
        some (soloAgent (py "b") (py "y") false (.finite 1)) := by
    decide +kernel
  have covering : coverAll .leftToRight smallMission (smallCosts.map RegisteredSpec.agent)
      smallMission.requiredCapabilities [] = .ok (smallCosts.map RegisteredSpec.agent) := by
    change coverAll _ _ _ [py "x", py "y"] [] = _
    rw [coverAll_eq, if_neg (by decide), first]
    change coverAll _ _ _ [py "y"] _ = _
    rw [coverAll_eq, if_neg (by decide), List.nil_append, second]
    change coverAll _ _ _ [] _ = _
    rw [coverAll_eq, if_pos rfl]
    rfl
  rw [select, raiseIf, if_neg (by decide), ok_bind, raiseIf, if_neg (by decide +kernel), ok_bind,
    covering]
  decide +kernel

theorem nodup_smallCosts (valid : List AgentSpec)
    (isValid : agents (projectionFor smallMission smallCosts) smallMission = .ok valid) :
    (valid.map AgentSpec.agentId).Nodup := by
  rw [agents_smallCosts.2] at isValid
  obtain rfl := Except.ok.inj isValid
  decide

theorem plan_sound_smallCosts :
    (∀ swarm, plan .leftToRight smallMission (projectionFor smallMission smallCosts) = .ok swarm →
      ∃ valid members,
        agents (projectionFor smallMission smallCosts) smallMission = .ok valid ∧
        IsPlan .leftToRight smallMission valid members swarm) ∧
    ((∀ valid, agents (projectionFor smallMission smallCosts) smallMission = .ok valid →
        ∀ agent ∈ valid, agent.maxCostUnits ≠ .nan) →
      ∀ (candidateSpecs : List Json) (resolutionDigest : PyStr),
        candidateSpecs.Perm (projectionFor smallMission smallCosts).candidateSpecs →
        ({ projectionFor smallMission smallCosts with
          candidateSpecs, resolutionDigest } : Projection).verifyDigest = .ok () →
        (plan .leftToRight smallMission { projectionFor smallMission smallCosts with
          candidateSpecs, resolutionDigest }).toOption =
          (plan .leftToRight smallMission (projectionFor smallMission smallCosts)).toOption) :=
  plan_sound .leftToRight agents_smallCosts.1 nodup_smallCosts

def nanAgent : RegisteredSpec :=
  ⟨soloAgent (py "a") (py "x") false .nan, .float (py "NaN")⟩

def freeAgent : RegisteredSpec :=
  ⟨soloAgent (py "b") (py "x") false (.finite 0), .int 0⟩

def nanMission : MissionSpec :=
  missionFor [py "x"] false

theorem select_of_best {mission : MissionSpec} {valid : List AgentSpec} {capability : PyStr}
    (agent : AgentSpec) (members : List AgentSpec)
    (required : mission.requiredCapabilities = [capability]) (room : 1 ≤ mission.maxAgents)
    (present : valid ≠ []) (nothing : missing mission valid = [])
    (isBest : best .leftToRight mission valid [capability] [] = some agent)
    (has : remaining [capability] agent = [])
    (extended : withVerifier .leftToRight mission valid [agent] = .ok members) :
    select .leftToRight mission valid = .ok members := by
  have covering : coverAll .leftToRight mission valid mission.requiredCapabilities [] =
      .ok [agent] := by
    rw [required, coverAll_eq, if_neg (List.cons_ne_nil _ _), isBest]
    change (if mission.maxAgents < 1 then _ else _) = _
    rw [if_neg (Int.not_lt.mpr room), has, coverAll_eq, if_pos rfl]
    rfl
  rw [select, raiseIf, if_neg present, ok_bind, raiseIf, if_neg (not_not.mpr nothing), ok_bind,
    covering, ok_bind, extended]

theorem plan_of_select {mission : MissionSpec} {projection : Projection}
    {valid members : List AgentSpec} (swarm : SwarmSpec) (isMission : mission.validate = .ok ())
    (isValid : agents projection mission = .ok valid)
    (isSelected : select .leftToRight mission valid = .ok members)
    (admitted : admitMembers .leftToRight mission members = .ok swarm) :
    plan .leftToRight mission projection = .ok swarm := by
  rw [plan, isMission, ok_bind, isValid, ok_bind, isSelected, ok_bind, admitted]

/-- The exact sum of the costs can exceed the budget, and a NaN makes the order matter. -/
theorem plan_not_exact :
    (¬ ∀ (mission : MissionSpec) (projection : Projection) (valid members : List AgentSpec)
      (swarm : SwarmSpec) (costs : List Rat), projection.verifyDigest = .ok () →
      agents projection mission = .ok valid → (valid.map AgentSpec.agentId).Nodup →
      select .leftToRight mission valid = .ok members →
      plan .leftToRight mission projection = .ok swarm →
      members.map AgentSpec.maxCostUnits = costs.map PyFloat.finite →
      (PyFloat.finite costs.sum).le mission.maxTotalCostUnits = true) ∧
    ¬ ∀ (mission : MissionSpec) (projection permuted : Projection) (valid : List AgentSpec),
      projection.verifyDigest = .ok () → permuted.verifyDigest = .ok () →
      agents projection mission = .ok valid → (valid.map AgentSpec.agentId).Nodup →
      permuted.candidateSpecs.Perm projection.candidateSpecs →
      (plan .leftToRight mission permuted).toOption =
        (plan .leftToRight mission projection).toOption := by
  constructor
  · intro fits
    have planned : plan .leftToRight smallMission (projectionFor smallMission smallCosts) =
        .ok (swarmOf smallMission (smallCosts.map RegisteredSpec.agent) (.finite 1)) := by
      exact plan_of_select _ (by decide +kernel) agents_smallCosts.2 select_smallCosts
        (by decide +kernel)
    have within := fits smallMission _ _ _ _ [mkRat 1 (2 ^ 60), 1] agents_smallCosts.1
      agents_smallCosts.2 (by decide) select_smallCosts planned (by decide +kernel)
    exact absurd within (by decide +kernel)
  · intro same
    have first := agents_projectionFor nanMission [nanAgent, freeAgent]
      [nanAgent.agent, freeAgent.agent] (by decide +kernel) (by decide +kernel)
      (by decide +kernel)
    have second := agents_projectionFor nanMission [freeAgent, nanAgent]
      [freeAgent.agent, nanAgent.agent] (by decide +kernel) (by decide +kernel)
      (by decide +kernel)
    have firstPlan : plan .leftToRight nanMission (projectionFor nanMission [nanAgent, freeAgent]) =
        .ok (swarmOf nanMission [nanAgent.agent] .nan) :=
      plan_of_select _ (by decide +kernel) first.2
        (select_of_best nanAgent.agent [nanAgent.agent] rfl (by decide) (by decide) (by decide +kernel) (by decide +kernel)
          (by decide) (by decide +kernel)) (by decide +kernel)
    have secondPlan : plan .leftToRight nanMission
        (projectionFor nanMission [freeAgent, nanAgent]) =
          .ok (swarmOf nanMission [freeAgent.agent] (.finite 0)) :=
      plan_of_select _ (by decide +kernel) second.2
        (select_of_best freeAgent.agent [freeAgent.agent] rfl (by decide) (by decide) (by decide +kernel) (by decide +kernel)
          (by decide) (by decide +kernel)) (by decide +kernel)
    have plans := same nanMission _ _ _ first.1 second.1 first.2 (by decide) (List.Perm.swap _ _ _)
    rw [firstPlan, secondPlan] at plans
    exact absurd (congrArg (Option.map SwarmSpec.memberAgentIds) plans) (by decide)

end SwarmPlanner

end CyberLion
