import CyberLion.RegistryReadback
import CyberLion.SwarmPlans

/-!
# Resolving candidates before planning

`resolve_for_mission` leaves out what cannot be selected.  Planning with what it returns and
planning with all active specifications give the same swarm, and fail for the same states and
missions.
-/

namespace CyberLion

open PyLib

namespace SwarmPlanner

open AgentRegistry (Projection RegisteredSpec suits verifierRequired)

variable {runtime : PlannerRuntime} {mission : MissionSpec}

/-! ### Agents that can be selected -/

theorem suits_of_capability {agent : AgentSpec} {capability : PyStr}
    (required : capability ∈ mission.requiredCapabilities)
    (has : capability ∈ agent.capabilities) : suits mission agent = true := by
  rw [suits, Bool.or_eq_true, List.any_eq_true]
  exact .inl ⟨capability, has, decide_eq_true required⟩

theorem suits_of_isVerifier {agent : AgentSpec} (need : needsVerifier mission = true)
    (isVerifier : agent.isVerifier = true) : suits mission agent = true := by
  rw [suits, isVerifier, Bool.and_true, show verifierRequired mission = true from need,
    Bool.or_true]

theorem filter_filter_eq {predicate keep : AgentSpec → Bool} (valid : List AgentSpec)
    (kept : ∀ agent ∈ valid, predicate agent = true → keep agent = true) :
    (valid.filter keep).filter predicate = valid.filter predicate := by
  rw [List.filter_filter]
  apply List.filter_congr
  intro agent member
  cases holds : predicate agent with
  | false => rfl
  | true => rw [kept agent member holds]; rfl

theorem candidates_filter (valid : List AgentSpec) {uncovered selected}
    (required : ∀ capability ∈ uncovered, capability ∈ mission.requiredCapabilities) :
    candidates (valid.filter (suits mission)) uncovered selected =
      candidates valid uncovered selected := by
  apply filter_filter_eq
  intro agent _ isCandidate
  obtain ⟨capability, gained⟩ :=
    List.exists_mem_of_ne_nil _ (of_decide_eq_true isCandidate).2
  obtain ⟨member, has⟩ := List.mem_filter.mp gained
  exact suits_of_capability (required capability member) (of_decide_eq_true has)

theorem best_filter (valid : List AgentSpec) {uncovered selected}
    (required : ∀ capability ∈ uncovered, capability ∈ mission.requiredCapabilities) :
    best runtime mission (valid.filter (suits mission)) uncovered selected =
      best runtime mission valid uncovered selected := by
  rw [best, best, candidates_filter valid required]

theorem coverAll_filter (valid : List AgentSpec) {uncovered selected}
    (required : ∀ capability ∈ uncovered, capability ∈ mission.requiredCapabilities) :
    coverAll runtime mission (valid.filter (suits mission)) uncovered selected =
      coverAll runtime mission valid uncovered selected := by
  fun_induction coverAll runtime mission valid uncovered selected with
  | case1 selected => rw [coverAll_eq, if_pos rfl]
  | case2 uncovered selected unfinished isBest =>
    rw [coverAll_eq, if_neg unfinished, best_filter valid required, isBest]
  | case3 uncovered selected unfinished agent isBest many =>
    rw [coverAll_eq, if_neg unfinished, best_filter valid required, isBest]
    dsimp only
    rw [if_pos many]
  | case4 uncovered selected unfinished agent isBest room ih =>
    rw [coverAll_eq, if_neg unfinished, best_filter valid required, isBest]
    dsimp only
    rw [if_neg room]
    exact ih fun capability member => required capability (List.mem_of_mem_filter member)

theorem withVerifier_filter (valid covering : List AgentSpec) :
    withVerifier runtime mission (valid.filter (suits mission)) covering =
      withVerifier runtime mission valid covering := by
  unfold withVerifier
  split
  · rename_i needed
    have same : verifiers (valid.filter (suits mission)) covering = verifiers valid covering := by
      apply filter_filter_eq
      intro agent _ isCandidate
      exact suits_of_isVerifier needed.1 (of_decide_eq_true isCandidate).1
    rw [same]
  · rfl

theorem missing_filter (valid : List AgentSpec) :
    missing mission (valid.filter (suits mission)) = missing mission valid := by
  unfold missing
  congr 1
  apply List.filter_congr
  intro capability required
  rw [decide_eq_decide]
  constructor
  · intro none agent member has
    exact none agent (List.mem_filter.mpr ⟨member, suits_of_capability required has⟩) has
  · intro none agent member
    exact none agent (List.mem_of_mem_filter member)

theorem missing_nil (mission : MissionSpec) :
    missing mission [] = pySorted mission.requiredCapabilities := by
  simp [missing]

theorem toOption_bind_congr {α β : Type} {first second : Except PyError α}
    {next : α → Except PyError β} (same : first.toOption = second.toOption) :
    (first >>= next).toOption = (second >>= next).toOption := by
  cases first with
  | error raised =>
    cases second with
    | error other => rfl
    | ok value => cases same
  | ok value =>
    cases second with
    | error raised => cases same
    | ok other =>
      obtain rfl := Option.some.inj same
      rfl

theorem select_filter (valid : List AgentSpec) (required : mission.requiredCapabilities ≠ []) :
    (select runtime mission (valid.filter (suits mission))).toOption =
      (select runtime mission valid).toOption := by
  by_cases none : valid.filter (suits mission) = []
  · -- some capability is missing when no agent suits
    have missed : missing mission valid ≠ [] := by
      rw [← missing_filter, none, missing_nil]
      intro sorted
      obtain ⟨capability, member⟩ := List.exists_mem_of_ne_nil _ required
      have listed : capability ∈ pySorted mission.requiredCapabilities := mem_pySorted.mpr member
      rw [sorted] at listed
      exact absurd listed List.not_mem_nil
    have fails : ∀ first : Except PyError Unit, (first >>= fun _ =>
        raiseIf (missing mission valid ≠ []) (modelError (py "uncovered mission capabilities: " ++
          listRepr runtime.strRepr (missing mission valid))) >>= fun _ =>
        coverAll runtime mission valid mission.requiredCapabilities [] >>= fun covering =>
        withVerifier runtime mission valid covering).toOption = .none := by
      intro first
      rw [raiseIf, if_pos missed]
      cases first <;> rfl
    rw [none]
    exact (fails _).symm
  · have some : valid ≠ [] := by
      rintro rfl
      exact none rfl
    have passes : ∀ agents : List AgentSpec, agents ≠ [] → raiseIf (agents = [])
        (modelError (py "no canonical AgentSpecs available")) = .ok () :=
      fun agents present => raiseIf_eq_ok.mpr present
    rw [select, select, passes _ none, passes _ some, missing_filter,
      coverAll_filter valid fun capability member => member]
    simp only [withVerifier_filter]

/-! ### Candidates -/

theorem readCandidate_dict {spec : RegisteredSpec} (typed : spec.Typed)
    (valid : spec.agent.validate = .ok ()) : readCandidate spec.dict = .ok spec.agent := by
  have reads := AgentRegistry.reads_fields spec
  rw [spec.dict_eq, readCandidate, reads.tuples, ok_bind, reads.validSpec typed valid]
  rfl

theorem mapM_readCandidate {specs : List RegisteredSpec}
    (read : ∀ spec ∈ specs, readCandidate spec.dict = .ok spec.agent) :
    (specs.map RegisteredSpec.dict).mapM readCandidate = .ok (specs.map RegisteredSpec.agent) := by
  rw [mapM_eq_ok, List.forall₂_map_left_iff, List.forall₂_map_right_iff, List.forall₂_same]
  exact read

end SwarmPlanner

namespace AgentRegistry

open SwarmPlanner
open FleetCoordination (canonicalJson textList zeroDigest)

variable {db : Database} {mission : MissionSpec} {specs : List RegisteredSpec}

/-! ### Projections of registered specifications -/

structure Resolvable (db : Database) (mission : MissionSpec) : Prop where
  isMission : mission.validate = .ok ()
  written : isWritten (db.projectionOf mission [] []).canonicalPayload = true
  valid : (db.projectionOf mission [] zeroDigest).validate = .ok ()

theorem isWritten_projectionOf (written : ∀ spec ∈ specs, isWritten spec.dict = true) :
    isWritten (db.projectionOf mission specs []).canonicalPayload =
      isWritten (db.projectionOf mission [] []).canonicalPayload := by
  have listed : isWritten (.arr (specs.map RegisteredSpec.dict)) = true := by
    rw [isWritten_arr_iff, List.forall_mem_map]
    exact written
  have empty : isWritten (.arr []) = true := by decide
  rw [Bool.eq_iff_iff, Projection.canonicalPayload, Projection.canonicalPayload,
    isWritten_obj_iff, isWritten_obj_iff]
  simp only [Database.projectionOf, List.forall_mem_cons, listed, List.map_nil, empty]

theorem validate_projectionOf (bytes : Utf8Bytes) :
    (db.projectionOf mission specs (sha256 bytes)).validate =
      (db.projectionOf mission [] zeroDigest).validate := by
  have zero : digest (py "resolution_digest") zeroDigest = .ok () := by decide +kernel
  simp only [Projection.validate, Database.projectionOf, digest_sha256, zero]
  rfl

theorem resolveWith_eq_ok {keep : AgentSpec → Bool} {projection : Projection}
    (read : db.activeSpecs.mapM (fun row => specFrom row.specJson) = .ok specs)
    (resolved : db.resolveWith keep mission = .ok projection) :
    ∃ resolutionDigest, projection =
        db.projectionOf mission (specs.filter fun spec => keep spec.agent) resolutionDigest ∧
      projection.verifyDigest = .ok () := by
  simp only [Database.resolveWith, bind_eq_ok, pure_eq_ok, read, Except.ok.injEq] at resolved
  obtain ⟨_, -, _, rfl, resolutionDigest, -, _, verified, rfl⟩ := resolved
  exact ⟨resolutionDigest, rfl, verified⟩

theorem exists_resolveWith_iff (keep : AgentSpec → Bool)
    (read : db.activeSpecs.mapM (fun row => specFrom row.specJson) = .ok specs)
    (written : ∀ spec ∈ specs, isWritten spec.dict = true) :
    (∃ projection, db.resolveWith keep mission = .ok projection) ↔ Resolvable db mission := by
  have payload : isWritten (db.projectionOf mission
      (specs.filter fun spec => keep spec.agent) []).canonicalPayload =
        isWritten (db.projectionOf mission [] []).canonicalPayload :=
    isWritten_projectionOf fun spec member => written spec (List.mem_of_mem_filter member)
  constructor
  · rintro ⟨projection, resolved⟩
    simp only [Database.resolveWith, bind_eq_ok, pure_eq_ok, read, digestOf_eq_ok,
      Except.ok.injEq] at resolved
    obtain ⟨_, valid, _, rfl, _, ⟨bytes, isBytes, rfl⟩, _, verified, rfl⟩ := resolved
    simp only [Projection.verifyDigest, bind_eq_ok] at verified
    obtain ⟨_, checked, -⟩ := verified
    refine ⟨valid, payload ▸ isWritten_iff.mpr ⟨bytes, isBytes⟩, ?_⟩
    rw [← validate_projectionOf bytes]
    exact checked
  · intro resolvable
    obtain ⟨bytes, isBytes⟩ := isWritten_iff.mp (payload.trans resolvable.written)
    have digested := digestOf_eq_ok.mpr ⟨bytes, isBytes, rfl⟩
    have verified : (db.projectionOf mission (specs.filter fun spec => keep spec.agent)
        (sha256 bytes)).verifyDigest = .ok () := by
      rw [Projection.verifyDigest, validate_projectionOf, resolvable.valid, ok_bind]
      change (digestOf (db.projectionOf mission
        (specs.filter fun spec => keep spec.agent) []).canonicalPayload >>= _) = _
      rw [digested, ok_bind, raiseIf, if_neg fun differ => differ rfl]
    refine ⟨db.projectionOf mission (specs.filter fun spec => keep spec.agent) (sha256 bytes), ?_⟩
    rw [Database.resolveWith, resolvable.isMission, ok_bind, read, ok_bind]
    dsimp only
    rw [digested, ok_bind, verified]
    rfl

theorem plan_projectionOf (runtime : PlannerRuntime) {resolutionDigest : PyStr}
    (read : ∀ spec ∈ specs, readCandidate spec.dict = .ok spec.agent)
    (verified : (db.projectionOf mission specs resolutionDigest).verifyDigest = .ok ()) :
    plan runtime mission (db.projectionOf mission specs resolutionDigest) = (do
      mission.validate
      let selected ← select runtime mission (specs.map RegisteredSpec.agent)
      admitMembers runtime mission selected) := by
  have isValid : agents (db.projectionOf mission specs resolutionDigest) mission =
      .ok (specs.map RegisteredSpec.agent) := by
    rw [agents, verified, ok_bind, raiseIf, if_neg (by simp [Database.projectionOf]), ok_bind]
    exact mapM_readCandidate read
  rw [plan, isValid]
  rfl

/-- Resolving before planning loses nothing: in every run of calls, for every mission, the
projection that is resolved and the one with all active specifications give the same swarm. -/
theorem plan_resolveForMission (runtime : PlannerRuntime) (registryId : PyStr)
    {calls : List Timed} (typed : ∀ timed ∈ calls, ∀ spec ∈ timed.call.specs, spec.Typed)
    (mission : MissionSpec) :
    ((∃ projection, (runCalls registryId calls).resolveForMission mission = .ok projection) ↔
      ∃ projection, (runCalls registryId calls).resolveWith (fun _ => true) mission =
        .ok projection) ∧
    ((runCalls registryId calls).resolveForMission mission >>= plan runtime mission).toOption =
      ((runCalls registryId calls).resolveWith (fun _ => true) mission >>=
        plan runtime mission).toOption := by
  obtain ⟨specs, read, registered⟩ := (stored_runCalls registryId typed).exists_specs
  generalize runCalls registryId calls = db at read
  have written : ∀ spec ∈ specs, isWritten spec.dict = true := by
    intro spec member
    obtain ⟨-, bytes, isBytes⟩ := registered spec member
    simp only [RegisteredSpec.bytes, bind_eq_ok] at isBytes
    exact isWritten_iff.mpr ⟨bytes, isBytes.choose_spec.2⟩
  have candidate : ∀ spec ∈ specs, readCandidate spec.dict = .ok spec.agent := by
    intro spec member
    obtain ⟨isTyped, bytes, isBytes⟩ := registered spec member
    simp only [RegisteredSpec.bytes, bind_eq_ok] at isBytes
    exact readCandidate_dict isTyped isBytes.choose_spec.1
  have fromAll : (∃ projection, db.resolveWith (fun _ => true) mission = .ok projection) ↔
      Resolvable db mission :=
    exists_resolveWith_iff (fun _ => true) read written
  have same := (exists_resolveWith_iff (suits mission) read written).trans fromAll.symm
  refine ⟨same, ?_⟩
  rw [Database.resolveForMission]
  cases resolved : db.resolveWith (suits mission) mission with
  | error raised =>
    cases all : db.resolveWith (fun _ => true) mission with
    | error other => rfl
    | ok projection =>
      obtain ⟨_, isResolved⟩ := same.mpr ⟨projection, all⟩
      rw [resolved] at isResolved
      cases isResolved
  | ok projection =>
    obtain ⟨full, isFull⟩ := same.mp ⟨projection, resolved⟩
    obtain ⟨_, rfl, verified⟩ := resolveWith_eq_ok read resolved
    obtain ⟨_, rfl, fullVerified⟩ := resolveWith_eq_ok read isFull
    have valid := ((exists_resolveWith_iff (suits mission) read written).mp ⟨_, resolved⟩).isMission
    have required : mission.requiredCapabilities ≠ [] := by
      simp only [MissionSpec.validate, bind_eq_ok, raiseIf_eq_ok, not_or] at valid
      exact valid.choose_spec.2.choose_spec.1.1
    have kept : (specs.filter fun spec => suits mission spec.agent).map RegisteredSpec.agent =
        (specs.map RegisteredSpec.agent).filter (suits mission) := by
      rw [List.filter_map]
      rfl
    rw [isFull, ok_bind, ok_bind,
      plan_projectionOf runtime (fun spec member => candidate spec (List.mem_of_mem_filter member))
        verified,
      plan_projectionOf runtime (fun spec member => candidate spec (List.mem_of_mem_filter member))
        fullVerified, valid, ok_bind, ok_bind, kept, List.filter_true]
    exact toOption_bind_congr (select_filter _ required)

theorem plan_resolveForMission_survey :
    ((∃ projection, (runCalls (py "r") [registration (py "a")]).resolveForMission
        (missionFor [py "c"] false) = .ok projection) ↔
      ∃ projection, (runCalls (py "r") [registration (py "a")]).resolveWith (fun _ => true)
        (missionFor [py "c"] false) = .ok projection) ∧
    ((runCalls (py "r") [registration (py "a")]).resolveForMission (missionFor [py "c"] false) >>=
        plan .leftToRight (missionFor [py "c"] false)).toOption =
      ((runCalls (py "r") [registration (py "a")]).resolveWith (fun _ => true)
        (missionFor [py "c"] false) >>= plan .leftToRight (missionFor [py "c"] false)).toOption := by
  apply plan_resolveForMission
  simp only [List.forall_mem_singleton, registration, Call.specs]
  rfl

end AgentRegistry

end CyberLion
