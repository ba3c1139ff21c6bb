import CyberLion.JsonAlike
import CyberLion.PolicyGateSurvey

/-!
# Replays of the policy decision point

What the digest of a request covers, and what it leaves out: the mission, the swarm and the
agents.  A second call with the request identifier of a first one returns the first result
exactly when its first checks pass and the covered inputs are those of the first call.
-/

namespace CyberLion

open PyLib
open Json (decodeText decoded IsSolid Keyed SameShape)
open AuthorityGrant (textList)
open FleetCoordination (optionalText)

/-! ### Inputs with joined pairs -/

def joined (text : PyStr) : PyStr :=
  decodeText true text

def ActionProposal.joined (proposal : ActionProposal) : ActionProposal where
  proposalId := CyberLion.joined proposal.proposalId
  missionId := CyberLion.joined proposal.missionId
  swarmId := CyberLion.joined proposal.swarmId
  proposerAgentId := CyberLion.joined proposal.proposerAgentId
  capability := CyberLion.joined proposal.capability
  requestedAuthority := CyberLion.joined proposal.requestedAuthority
  actionClass := CyberLion.joined proposal.actionClass
  target := CyberLion.joined proposal.target
  consequential := proposal.consequential
  evidenceRefs := proposal.evidenceRefs.map CyberLion.joined
  requiredObservability := proposal.requiredObservability.map CyberLion.joined
  verifierAgentId := proposal.verifierAgentId.map CyberLion.joined
  payloadDigest := proposal.payloadDigest.map CyberLion.joined

def PolicyRevision.joined (policy : PolicyRevision) : PolicyRevision where
  policyId := CyberLion.joined policy.policyId
  revision := CyberLion.joined policy.revision
  contentDigest := CyberLion.joined policy.contentDigest
  lane := CyberLion.joined policy.lane
  active := policy.active
  schemaVersion := CyberLion.joined policy.schemaVersion

def PdpKey.joined : PdpKey → PdpKey
  | pullRequest key => pullRequest ⟨CyberLion.joined key.repository, key.prNumber,
      CyberLion.joined key.baseSha, CyberLion.joined key.headSha,
      CyberLion.joined key.missionId, CyberLion.joined key.grantId⟩
  | repositoryRef key => repositoryRef ⟨CyberLion.joined key.repository,
      CyberLion.joined key.branch, CyberLion.joined key.expectedHead,
      CyberLion.joined key.protectedMasterSha, CyberLion.joined key.missionId,
      CyberLion.joined key.grantId⟩

/-- The inputs that the digest of a request covers, with joined pairs. -/
structure Covered where
  requestId : PyStr
  gateEventId : PyStr
  proposal : ActionProposal
  policy : PolicyRevision
  authorityKey : PdpKey
  graphDigest : PyStr
  statusDigest : PyStr
  observabilityState : PyStr
  observedEventTypes : List PyStr
  evidenceRefs : List PyStr
  deriving DecidableEq

def PdpInput.covered (input : PdpInput) (graphDigest statusDigest : PyStr) : Covered where
  requestId := joined input.requestId
  gateEventId := joined input.gateEventId
  proposal := input.proposal.joined
  policy := input.policy.joined
  authorityKey := input.authorityKey.joined
  graphDigest := joined graphDigest
  statusDigest := joined statusDigest
  observabilityState := joined input.observabilityState
  observedEventTypes := input.observedEventTypes.map joined
  evidenceRefs := input.evidenceRefs.map joined

/-! ### The canonical text of a request -/

theorem decoded_textList (texts : List PyStr) :
    decoded true (textList texts) = textList (texts.map joined) := by
  rw [textList, decoded, Json.decodedItems_map_str, textList, List.map_map]
  rfl

theorem decoded_optionalText (text : Option PyStr) :
    decoded true (optionalText text) = optionalText (text.map joined) := by
  cases text <;> rfl

theorem decoded_obj {fields : List (PyStr × Json)} (solid : ∀ field ∈ fields, IsSolid field.1) :
    decoded true (.obj fields) = .obj (fields.map fun field => (field.1, decoded true field.2)) := by
  rw [decoded, Json.decodedFields_eq_map solid]

theorem decoded_proposal (proposal : ActionProposal) :
    decoded true proposal.toJson = proposal.joined.toJson := by
  have solid : ∀ key ∈ [py "proposal_id", py "mission_id", py "swarm_id",
      py "proposer_agent_id", py "capability", py "requested_authority", py "action_class",
      py "target", py "consequential", py "evidence_refs", py "required_observability",
      py "verifier_agent_id", py "payload_digest"], IsSolid key := by
    unfold IsSolid
    decide
  rw [ActionProposal.toJson, decoded_obj, ActionProposal.toJson]
  · simp only [List.map_cons, List.map_nil, decoded_textList, decoded_optionalText, decoded]
    rfl
  · simpa using solid

theorem decoded_key (key : PdpKey) :
    decoded true key.bindingJson = key.joined.bindingJson := by
  cases key <;> rfl

def Covered.request (covered : Covered) : Json :=
  .obj [(py "request_id", .str covered.requestId),
    (py "gate_event_id", .str covered.gateEventId), (py "proposal", covered.proposal.toJson),
    (py "policy", .obj covered.policy.fields),
    (py "authority_key", covered.authorityKey.bindingJson),
    (py "graph_digest", .str covered.graphDigest),
    (py "status_digest", .str covered.statusDigest),
    (py "observability_state", .str covered.observabilityState),
    (py "observed_event_types", textList covered.observedEventTypes),
    (py "evidence_refs", textList covered.evidenceRefs)]

theorem requestKeys_solid : ∀ key ∈ [py "request_id", py "gate_event_id", py "proposal",
    py "policy", py "authority_key", py "graph_digest", py "status_digest",
    py "observability_state", py "observed_event_types", py "evidence_refs"], IsSolid key := by
  unfold IsSolid
  decide

theorem decoded_preRequest (input : PdpInput) (graphDigest statusDigest : PyStr) :
    decoded true (input.preRequest graphDigest statusDigest) =
      (input.covered graphDigest statusDigest).request := by
  rw [PdpInput.preRequest, decoded_obj, Covered.request]
  · simp only [List.map_cons, List.map_nil, decoded_textList, decoded_proposal, decoded_key,
      decoded]
    rfl
  · simpa using requestKeys_solid

theorem keyed_textList (texts : List PyStr) : Keyed (textList texts) := by
  apply Keyed.arr
  intro item member
  obtain ⟨text, -, rfl⟩ := List.mem_map.mp member
  exact .str text

theorem keyed_optionalText (text : Option PyStr) : Keyed (optionalText text) := by
  cases text with
  | none => exact .null
  | some text => exact .str text

theorem keyed_key (key : PdpKey) : Keyed key.bindingJson := by
  cases key with
  | pullRequest key =>
    apply Keyed.arr
    simp only [List.forall_mem_cons]
    exact ⟨.str _, .int _, .str _, .str _, .str _, .str _, by simp⟩
  | repositoryRef key =>
    apply Keyed.arr
    simp only [List.forall_mem_cons]
    exact ⟨.str _, .str _, .str _, .str _, .str _, .str _, by simp⟩

theorem keyed_proposal (proposal : ActionProposal) : Keyed proposal.toJson := by
  apply Keyed.obj
  · simp only [List.map_cons, List.map_nil]
    decide
  · simp only [List.forall_mem_cons]
    unfold IsSolid
    exact ⟨by decide, by decide, by decide, by decide, by decide, by decide, by decide, by decide,
      by decide, by decide, by decide, by decide, by decide, by simp⟩
  · simp only [List.forall_mem_cons]
    exact ⟨.str _, .str _, .str _, .str _, .str _, .str _, .str _, .str _, .bool _,
      keyed_textList _, keyed_textList _, keyed_optionalText _, keyed_optionalText _, by simp⟩

theorem keyed_policy (policy : PolicyRevision) : Keyed (.obj policy.fields) := by
  apply Keyed.obj
  · simp only [PolicyRevision.fields, List.map_cons, List.map_nil]
    decide
  · simp only [PolicyRevision.fields, List.forall_mem_cons]
    unfold IsSolid
    exact ⟨by decide, by decide, by decide, by decide, by decide, by decide, by simp⟩
  · simp only [PolicyRevision.fields, List.forall_mem_cons]
    exact ⟨.str _, .str _, .str _, .str _, .bool _, .str _, by simp⟩

theorem keyed_preRequest (input : PdpInput) (graphDigest statusDigest : PyStr) :
    Keyed (input.preRequest graphDigest statusDigest) := by
  apply Keyed.obj
  · simp only [List.map_cons, List.map_nil]
    decide
  · simp only [List.forall_mem_cons]
    have solid := requestKeys_solid
    simp only [List.forall_mem_cons] at solid
    simpa using solid
  · simp only [List.forall_mem_cons]
    exact ⟨.str _, .str _, keyed_proposal _, keyed_policy _, keyed_key _, .str _, .str _, .str _,
      keyed_textList _, keyed_textList _, by simp⟩

theorem sortKeys_textList (texts : List PyStr) : (textList texts).sortKeys = textList texts := by
  rw [textList, Json.sortKeys, Json.sortItems_eq_map, List.map_map]
  rfl

theorem sortKeys_optionalText (text : Option PyStr) :
    (optionalText text).sortKeys = optionalText text := by
  cases text <;> rfl

theorem sortKeys_key (key : PdpKey) : key.bindingJson.sortKeys = key.bindingJson := by
  cases key <;> rfl

theorem sameShape_proposal (first second : ActionProposal) :
    SameShape first.toJson second.toJson := by
  apply SameShape.obj
  · rfl
  · simp only [List.map_cons, List.map_nil]
    decide
  · simp only [List.map_cons, List.map_nil, List.forall₂_cons]
    exact ⟨.flat rfl rfl, .flat rfl rfl, .flat rfl rfl, .flat rfl rfl, .flat rfl rfl, .flat rfl rfl,
      .flat rfl rfl, .flat rfl rfl, .flat rfl rfl,
      .flat (sortKeys_textList _) (sortKeys_textList _),
      .flat (sortKeys_textList _) (sortKeys_textList _),
      .flat (sortKeys_optionalText _) (sortKeys_optionalText _),
      .flat (sortKeys_optionalText _) (sortKeys_optionalText _), .nil⟩

theorem sameShape_policy (first second : PolicyRevision) :
    SameShape (.obj first.fields) (.obj second.fields) := by
  apply SameShape.obj
  · rfl
  · simp only [PolicyRevision.fields, List.map_cons, List.map_nil]
    decide
  · simp only [PolicyRevision.fields, List.map_cons, List.map_nil, List.forall₂_cons]
    exact ⟨.flat rfl rfl, .flat rfl rfl, .flat rfl rfl, .flat rfl rfl, .flat rfl rfl, .flat rfl rfl,
      .nil⟩

theorem sameShape_request (first second : Covered) : SameShape first.request second.request := by
  apply SameShape.obj
  · rfl
  · simp only [List.map_cons, List.map_nil]
    decide
  · simp only [List.map_cons, List.map_nil, List.forall₂_cons]
    exact ⟨.flat rfl rfl, .flat rfl rfl, sameShape_proposal _ _, sameShape_policy _ _,
      .flat (sortKeys_key _) (sortKeys_key _), .flat rfl rfl, .flat rfl rfl, .flat rfl rfl,
      .flat (sortKeys_textList _) (sortKeys_textList _),
      .flat (sortKeys_textList _) (sortKeys_textList _), .nil⟩

/-! ### What a request says -/

theorem textList_inj {first second : List PyStr} (same : textList first = textList second) :
    first = second := by
  rw [textList, textList, Json.arr.injEq] at same
  exact List.map_injective_iff.mpr (fun _ _ equal => Json.str.inj equal) same

theorem optionalText_inj {first second : Option PyStr}
    (same : optionalText first = optionalText second) : first = second := by
  cases first <;> cases second <;> simp_all [optionalText]

theorem bindingJson_inj {first second : PdpKey} (same : first.bindingJson = second.bindingJson) :
    first = second := by
  cases first with
  | pullRequest first =>
    cases second with
    | pullRequest second =>
      simp only [PdpKey.bindingJson, Json.arr.injEq, List.cons.injEq, Json.str.injEq,
        Json.int.injEq] at same
      obtain ⟨repository, prNumber, baseSha, headSha, missionId, grantId, -⟩ := same
      cases first
      cases second
      simp_all
    | repositoryRef second => simp [PdpKey.bindingJson] at same
  | repositoryRef first =>
    cases second with
    | pullRequest second => simp [PdpKey.bindingJson] at same
    | repositoryRef second =>
      simp only [PdpKey.bindingJson, Json.arr.injEq, List.cons.injEq, Json.str.injEq] at same
      obtain ⟨repository, branch, expectedHead, master, missionId, grantId, -⟩ := same
      cases first
      cases second
      simp_all

theorem proposal_inj {first second : ActionProposal} (same : first.toJson = second.toJson) :
    first = second := by
  simp only [ActionProposal.toJson, Json.obj.injEq, List.cons.injEq, Prod.mk.injEq, true_and,
    Json.str.injEq, Json.bool.injEq, and_true] at same
  obtain ⟨proposalId, missionId, swarmId, proposer, capability, requested, actionClass, target,
    consequential, evidence, observability, verifier, payload⟩ := same
  cases first
  cases second
  simp only [ActionProposal.mk.injEq]
  exact ⟨proposalId, missionId, swarmId, proposer, capability, requested, actionClass, target,
    consequential, textList_inj evidence, textList_inj observability, optionalText_inj verifier,
    optionalText_inj payload⟩

theorem policy_inj {first second : PolicyRevision} (same : first.fields = second.fields) :
    first = second := by
  simp only [PolicyRevision.fields, List.cons.injEq, Prod.mk.injEq, true_and, Json.str.injEq,
    Json.bool.injEq, and_true] at same
  cases first
  cases second
  simpa using same

theorem Covered.request_inj {first second : Covered} (same : first.request = second.request) :
    first = second := by
  simp only [request, Json.obj.injEq, List.cons.injEq, Prod.mk.injEq, true_and, Json.str.injEq,
    and_true] at same
  obtain ⟨requestId, gateEventId, proposal, policy, key, graph, status, observability, events,
    evidence⟩ := same
  cases first
  cases second
  simp only [Covered.mk.injEq]
  exact ⟨requestId, gateEventId, proposal_inj proposal, policy_inj policy, bindingJson_inj key,
    graph, status, observability, textList_inj events, textList_inj evidence⟩

theorem preRequestText_eq_iff {first second : PdpInput}
    {firstGraph firstStatus secondGraph secondStatus firstText secondText : PyStr}
    (firstWritten : Json.dumps true true (first.preRequest firstGraph firstStatus) = .ok firstText)
    (secondWritten : Json.dumps true true (second.preRequest secondGraph secondStatus) =
      .ok secondText) :
    firstText = secondText ↔
      first.covered firstGraph firstStatus = second.covered secondGraph secondStatus := by
  rw [Keyed.text_eq_iff (keyed_preRequest ..) (keyed_preRequest ..) firstWritten secondWritten,
    decoded_preRequest, decoded_preRequest]
  constructor
  · intro same
    exact Covered.request_inj ((sameShape_request _ _).eq_of_sortKeys_eq same)
  · intro same
    rw [same]

/-! ### Replays -/

namespace PdpInput

/-- The bytes that `_pre_request_digest` hashes. -/
def preRequestBytes (input : PdpInput) : Except PyError Utf8Bytes := do
  let statusDigest ← pdpStatusDigest input.status
  let graphDigest ← pdpGraphDigest input.graphProjection
  let text ← Json.dumps true true (input.preRequest graphDigest statusDigest)
  encodeUtf8 text

def coveredInputs (input : PdpInput) : Except PyError Covered := do
  let statusDigest ← pdpStatusDigest input.status
  let graphDigest ← pdpGraphDigest input.graphProjection
  return input.covered graphDigest statusDigest

/-- The inputs that can influence a decision are equal.  Of the graph and of the status a
decision reads their digests, of the agents the proposer and the verifier. -/
structure SameInputs (first second : PdpInput) : Prop where
  gateEventId : first.gateEventId = second.gateEventId
  proposal : first.proposal = second.proposal
  mission : first.mission = second.mission
  swarm : first.swarm = second.swarm
  proposer : first.agents first.proposal.proposerAgentId =
    second.agents first.proposal.proposerAgentId
  verifier : ∀ agentId ∈ first.proposal.verifierAgentId,
    first.agents agentId = second.agents agentId
  policy : first.policy = second.policy
  authorityKey : first.authorityKey = second.authorityKey
  graph : pdpGraphDigest first.graphProjection = pdpGraphDigest second.graphProjection
  status : pdpStatusDigest first.status = pdpStatusDigest second.status
  observabilityState : first.observabilityState = second.observabilityState
  observedEventTypes : first.observedEventTypes = second.observedEventTypes
  evidenceRefs : first.evidenceRefs = second.evidenceRefs

def NoCollision (first second : PdpInput) : Prop :=
  ∀ firstBytes secondBytes, first.preRequestBytes = .ok firstBytes →
    second.preRequestBytes = .ok secondBytes → sha256 firstBytes = sha256 secondBytes →
    firstBytes = secondBytes

def Passes (input : PdpInput) : Prop :=
  returned input.check = true

theorem check_eq_ok {input : PdpInput} {digests : Digests} (checked : input.check = .ok digests) :
    input.proposal.validate = .ok () ∧ pdpStatusDigest input.status = .ok digests.status ∧
      pdpGraphDigest input.graphProjection = .ok digests.graph ∧
      input.preRequestDigest digests.graph digests.status = .ok digests.preRequest := by
  simp only [check, bind_eq_ok, pure_eq_ok] at checked
  obtain ⟨_, proposal, _, -, _, -, _, -, _, -, _, -, _, -, _, -, _, -, _, -, statusDigest, isStatus,
    graphDigest, isGraph, preRequest, isPre, rfl⟩ := checked
  exact ⟨proposal, isStatus, isGraph, isPre⟩

theorem preRequest_eq_iff {first second : PdpInput} {firstDigests secondDigests : Digests}
    (apart : NoCollision first second) (firstChecked : first.check = .ok firstDigests)
    (secondChecked : second.check = .ok secondDigests) :
    firstDigests.preRequest = secondDigests.preRequest ↔
      first.coveredInputs = second.coveredInputs := by
  obtain ⟨-, firstStatus, firstGraph, firstPre⟩ := check_eq_ok firstChecked
  obtain ⟨-, secondStatus, secondGraph, secondPre⟩ := check_eq_ok secondChecked
  simp only [preRequestDigest, bind_eq_ok, pure_eq_ok] at firstPre secondPre
  obtain ⟨firstText, firstWritten, firstBytes, firstEncoded, firstHashed⟩ := firstPre
  obtain ⟨secondText, secondWritten, secondBytes, secondEncoded, secondHashed⟩ := secondPre
  have texts := preRequestText_eq_iff firstWritten secondWritten
  have isFirst : first.preRequestBytes = .ok firstBytes := by
    rw [preRequestBytes, firstStatus, ok_bind, firstGraph, ok_bind, firstWritten, ok_bind,
      firstEncoded]
  have isSecond : second.preRequestBytes = .ok secondBytes := by
    rw [preRequestBytes, secondStatus, ok_bind, secondGraph, ok_bind, secondWritten, ok_bind,
      secondEncoded]
  rw [coveredInputs, coveredInputs, firstStatus, secondStatus, ok_bind, ok_bind, firstGraph,
    secondGraph, ok_bind, ok_bind, ← firstHashed, ← secondHashed]
  constructor
  · intro sameHash
    have sameBytes := apart firstBytes secondBytes isFirst isSecond sameHash
    have sameText : firstText = secondText := by
      rw [← (encodeUtf8_eq_ok.mp firstEncoded), ← (encodeUtf8_eq_ok.mp secondEncoded), sameBytes]
    exact congrArg Except.ok (texts.mp sameText)
  · intro same
    have sameText := texts.mpr (Except.ok.inj same)
    subst sameText
    rw [Except.ok.inj (firstEncoded.symm.trans secondEncoded)]

end PdpInput

variable {config : LiveAuthorityConfig} {replayDomain : PyStr} {strRepr : PyStr → PyStr}

/-- What a call returns when its request identifier is in the dictionary. -/
def replayOutcome (input : PdpInput) (preRequest : PyStr) (result : PDPResult) :
    Except PyError PDPResult := do
  let digests ← input.check
  raiseIf (preRequest ≠ digests.preRequest)
    (policyGateError (py "replayed request_id payload substitution denied"))
  return result

theorem outcome_of_entry {input : PdpInput} {start final : PdpWorld} {instants : List PdpWorld}
    {outcome : Except PyError PDPResult} {preRequest : PyStr} {result : PDPResult}
    (isEntry : List.lookup input.requestId start.replay = some (preRequest, result))
    (execution : PyProg.Exec OwnReplay (evaluatePdp config replayDomain strRepr input) start
      instants final outcome) : outcome = replayOutcome input preRequest result := by
  unfold evaluatePdp at execution
  rw [replayOutcome]
  cases checked : input.check with
  | error error =>
    rw [checked, PyProg.lift_error_bind, PyProg.exec_lift] at execution
    exact execution.2.2
  | ok digests =>
    rw [checked, PyProg.lift_ok_bind, PyProg.exec_view_bind] at execution
    obtain ⟨found, later, -, own, execution⟩ := execution
    have sameReplay : found.replay = start.replay := own
    rw [sameReplay, isEntry] at execution
    rw [ok_bind]
    by_cases same : preRequest = digests.preRequest
    · have passes : raiseIf (preRequest ≠ digests.preRequest)
          (policyGateError (py "replayed request_id payload substitution denied")) = .ok () :=
        raiseIf_eq_ok.mpr (not_not.mpr same)
      dsimp only at execution
      rw [passes, PyProg.lift_ok_bind, PyProg.exec_pure] at execution
      rw [passes]
      exact execution.2.2
    · have raises : raiseIf (preRequest ≠ digests.preRequest)
          (policyGateError (py "replayed request_id payload substitution denied")) =
          .error (policyGateError (py "replayed request_id payload substitution denied")) :=
        raiseIf_eq_error.mpr ⟨same, rfl⟩
      dsimp only at execution
      rw [raises, PyProg.lift_error_bind, PyProg.exec_lift] at execution
      rw [raises]
      exact execution.2.2

theorem pdpRun_take {start final : PdpWorld} {calls : List PdpCall} {index : Nat} {call : PdpCall}
    (run : PdpRun config replayDomain strRepr start calls final)
    (isCall : calls[index]? = some call) :
    ∃ before after, PdpRun config replayDomain strRepr start (calls.take index) before ∧
      PyProg.Exec OwnReplay (evaluatePdp config replayDomain strRepr call.input) before
        call.instants after call.outcome := by
  induction run with
  | nil => exact nomatch isCall
  | @call calls middle final last earlier execution ih =>
    rcases getElem?_concat_cases isCall with isOld | ⟨rfl, rfl⟩
    · obtain ⟨before, after, taken, called⟩ := ih isOld
      refine ⟨before, after, ?_, called⟩
      rw [List.take_append_of_le_length (List.getElem?_eq_some_iff.mp isOld).1.le]
      exact taken
    · refine ⟨middle, final, ?_, execution⟩
      rw [List.take_left]
      exact earlier

theorem outcome_of_replay {start final : PdpWorld} {calls : List PdpCall} (fresh : start.replay = [])
    (run : PdpRun config replayDomain strRepr start calls final) {firstIndex secondIndex : Nat}
    (before : firstIndex < secondIndex) {first second : PdpCall}
    (isFirst : calls[firstIndex]? = some first) (isSecond : calls[secondIndex]? = some second)
    (sameId : second.input.requestId = first.input.requestId) {result : PDPResult}
    (firstReturned : first.outcome = .ok result)
    (apart : first.input.NoCollision second.input) (other : PDPResult) :
    second.outcome = .ok other ↔ other = result ∧ second.input.Passes ∧
      first.input.coveredInputs = second.input.coveredInputs := by
  obtain ⟨middle, after, earlier, execution⟩ := pdpRun_take run isSecond
  have member : first ∈ calls.take secondIndex := by
    apply List.mem_of_getElem? (i := firstIndex)
    rw [List.getElem?_take_of_lt before, isFirst]
  obtain ⟨digests, checked, isEntry⟩ :=
    (agrees_of_pdpRun fresh earlier).keeps first member result firstReturned
  rw [← sameId] at isEntry
  rw [outcome_of_entry isEntry execution, replayOutcome, PdpInput.Passes]
  cases secondChecked : second.input.check with
  | error error => simp [returned]
  | ok secondDigests =>
    rw [← PdpInput.preRequest_eq_iff apart checked secondChecked]
    simp only [ok_bind, bind_eq_ok, raiseIf_eq_ok, ne_eq, not_not, pure_eq_ok, returned,
      true_and]
    constructor
    · rintro ⟨_, same, rfl⟩
      exact ⟨rfl, same⟩
    · rintro ⟨rfl, same⟩
      exact ⟨(), same, rfl⟩

/-- A later call with the request identifier of a call that returned: it raises or returns
the first result, and it returns that result for other inputs exactly when its first checks
pass, the covered inputs agree and the others do not. -/
theorem pdp_replay {start final : PdpWorld} {calls : List PdpCall} (fresh : start.replay = [])
    (run : PdpRun config replayDomain strRepr start calls final) {firstIndex secondIndex : Nat}
    (before : firstIndex < secondIndex) {first second : PdpCall}
    (isFirst : calls[firstIndex]? = some first) (isSecond : calls[secondIndex]? = some second)
    (sameId : second.input.requestId = first.input.requestId) {result : PDPResult}
    (firstReturned : first.outcome = .ok result)
    (apart : first.input.NoCollision second.input) :
    (∀ other, second.outcome = .ok other → other = result) ∧
      ((second.outcome = .ok result → first.input.SameInputs second.input) ↔
        ¬ (second.input.Passes ∧ first.input.coveredInputs = second.input.coveredInputs ∧
          ¬ first.input.SameInputs second.input)) := by
  have returns := outcome_of_replay fresh run before isFirst isSecond sameId firstReturned apart
  refine ⟨fun other returned => ((returns other).mp returned).1, ?_⟩
  rw [returns result]
  tauto

/-! ### A replay for another mission -/

theorem pdpRun_pair (start : PdpWorld) (firstInput secondInput : PdpInput) :
    ∃ final firstInstants secondInstants secondOutcome, PdpRun config replayDomain strRepr start
      [⟨firstInput,
          (PyProg.runAlone (evaluatePdp config replayDomain strRepr firstInput) start).2,
          firstInstants⟩, ⟨secondInput, secondOutcome, secondInstants⟩] final := by
  have alone : ∀ state, OwnReplay state state := fun _ => rfl
  obtain ⟨firstInstants, first⟩ := Prog.exec_run alone (ExceptT.run
    (evaluatePdp config replayDomain strRepr firstInput)) start
  obtain ⟨secondInstants, second⟩ := Prog.exec_run alone (ExceptT.run
    (evaluatePdp config replayDomain strRepr secondInput))
    (PyProg.runAlone (evaluatePdp config replayDomain strRepr firstInput) start).1
  have one : PdpRun config replayDomain strRepr start ([] ++ [⟨firstInput, _, firstInstants⟩]) _ :=
    .call .nil first
  have two : PdpRun config replayDomain strRepr start
      ([] ++ [⟨firstInput, _, firstInstants⟩] ++ [⟨secondInput, _, secondInstants⟩]) _ :=
    .call one second
  exact ⟨_, firstInstants, secondInstants, _, two⟩

theorem noCollision_survey :
    (surveyInput (py "read")).NoCollision (surveyInput (py "none")) := by
  have sameBytes : (surveyInput (py "read")).preRequestBytes =
      (surveyInput (py "none")).preRequestBytes := rfl
  intro firstBytes secondBytes isFirst isSecond _
  rw [sameBytes, isSecond] at isFirst
  exact (Except.ok.inj isFirst).symm

theorem pdpRun_survey : ∃ final firstInstants secondInstants secondOutcome,
    PdpRun surveyConfig (py "live") id ⟨surveyWorld, []⟩
      [⟨surveyInput (py "read"), .ok surveyResult, firstInstants⟩,
        ⟨surveyInput (py "none"), secondOutcome, secondInstants⟩] final := by
  obtain ⟨final, firstInstants, secondInstants, secondOutcome, run⟩ :=
    pdpRun_pair ⟨surveyWorld, []⟩ (surveyInput (py "read")) (surveyInput (py "none"))
  rw [survey_returns.1] at run
  exact ⟨final, firstInstants, secondInstants, secondOutcome, run⟩

theorem surveyMission_ne : surveyMission (py "read") ≠ surveyMission (py "none") := by
  decide

/-- A second call for another mission is answered with the decision for the first one. -/
theorem exists_replayed_mission : ∃ start final first second result,
    PdpRun surveyConfig (py "live") id start [first, second] final ∧ start.replay = [] ∧
      second.input.requestId = first.input.requestId ∧ first.outcome = .ok result ∧
      second.outcome = .ok result ∧ result.applied.decision = GateVerdict.allow.text ∧
      first.input.mission ≠ second.input.mission ∧
      ¬ first.input.SameInputs second.input := by
  obtain ⟨final, firstInstants, secondInstants, secondOutcome, run⟩ := pdpRun_survey
  have passes : (surveyInput (py "none")).Passes := survey_returns.2
  have before : 0 < 1 := by decide
  have secondReturned := (outcome_of_replay rfl run before rfl rfl rfl rfl noCollision_survey
    surveyResult).mpr ⟨rfl, passes, rfl⟩
  exact ⟨_, final, _, _, surveyResult, run, rfl, rfl, rfl, secondReturned, rfl, surveyMission_ne,
    fun same => surveyMission_ne same.mission⟩

/-- The first call of the survey, replayed for a mission with a lower ceiling. -/
theorem pdp_replay_survey : ∃ final first second result,
    PdpRun surveyConfig (py "live") id ⟨surveyWorld, []⟩ [first, second] final ∧
      first.outcome = .ok result ∧ (∀ other, second.outcome = .ok other → other = result) ∧
      ((second.outcome = .ok result → first.input.SameInputs second.input) ↔
        ¬ (second.input.Passes ∧ first.input.coveredInputs = second.input.coveredInputs ∧
          ¬ first.input.SameInputs second.input)) := by
  obtain ⟨final, firstInstants, secondInstants, secondOutcome, run⟩ := pdpRun_survey
  have before : 0 < 1 := by decide
  obtain ⟨same, exact⟩ := pdp_replay rfl run before rfl rfl rfl rfl noCollision_survey
  exact ⟨final, _, _, surveyResult, run, rfl, same, exact⟩

end CyberLion
