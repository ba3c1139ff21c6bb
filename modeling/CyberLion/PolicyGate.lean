import CyberLion.LiveAdmission
import CyberLion.PolicyGateContracts

/-!
# The policy decision point

`CanonicalPolicyDecisionPoint` of `enterprise/policy_gate.py`.  An evaluation reads the
authority source and the persistent state step by step; the replay dictionary belongs to
the instance.
-/

namespace CyberLion

open PyLib
open AuthorityGrant (textList)
open FleetCoordination (optionalText)

/-- `PolicyGateError(message)`. -/
def policyGateError (message : PyStr) : PyError :=
  ⟨.declared .runtimeError (py "PolicyGateError"), message⟩

def authorityContains (parent child : PyStr) : Except PyError Bool :=
  match AuthorityClass.ofText parent with
  | none => .error (policyGateError (py "unknown authority class: " ++ parent))
  | some upper => .ok ((upper.contains.map AuthorityClass.text).contains child)

/-- `_OBS_CEILING`. -/
def observabilityCeiling (observabilityState : PyStr) : Option AuthorityClass :=
  List.lookup observabilityState
    [(py "HEALTHY", .privileged), (py "DEGRADED", .read), (py "LOST", .none)]

/-! ### Inputs -/

inductive PdpKey
  | pullRequest (key : AuthorityLookupKey)
  | repositoryRef (key : RepositoryRefAuthorityLookupKey)
  deriving DecidableEq

namespace PdpKey

def validate : PdpKey → Except PyError Unit
  | pullRequest key => key.validate
  | repositoryRef key => key.validate

/-- `binding`, of a key that was validated. -/
def bindingJson : PdpKey → Json
  | pullRequest key => .arr [.str key.repository, .int key.prNumber, .str key.baseSha,
      .str key.headSha, .str key.missionId, .str key.grantId]
  | repositoryRef key => .arr [.str key.repository, .str key.branch, .str key.expectedHead,
      .str key.protectedMasterSha, .str key.missionId, .str key.grantId]

end PdpKey

/-- `asdict` of a proposal. -/
def ActionProposal.toJson (proposal : ActionProposal) : Json :=
  .obj [(py "proposal_id", .str proposal.proposalId), (py "mission_id", .str proposal.missionId),
    (py "swarm_id", .str proposal.swarmId),
    (py "proposer_agent_id", .str proposal.proposerAgentId),
    (py "capability", .str proposal.capability),
    (py "requested_authority", .str proposal.requestedAuthority),
    (py "action_class", .str proposal.actionClass), (py "target", .str proposal.target),
    (py "consequential", .bool proposal.consequential),
    (py "evidence_refs", textList proposal.evidenceRefs),
    (py "required_observability", textList proposal.requiredObservability),
    (py "verifier_agent_id", optionalText proposal.verifierAgentId),
    (py "payload_digest", optionalText proposal.payloadDigest)]

/-- The arguments of `evaluate`. -/
structure PdpInput where
  requestId : PyStr
  gateEventId : PyStr
  proposal : ActionProposal
  mission : MissionSpec
  swarm : SwarmSpec
  agents : PyStr → Option AgentSpec
  policy : PolicyRevision
  authorityKey : PdpKey
  graphProjection : EnterpriseGraphProjection
  status : SwarmStatus.Status
  observabilityState : PyStr
  observedEventTypes : List PyStr
  evidenceRefs : List PyStr
  trustedNow : Moment

/-- `_status_digest`. -/
def pdpStatusDigest (status : SwarmStatus.Status) : Except PyError PyStr := do
  rethrow (fun _ => true) (fun _ => policyGateError (py "LION status projection invalid"))
    (validateStatusProjection status)
  raiseIf (¬ isText (status.field (py "epistemic_state")) (py "CURRENT") = true)
    (policyGateError (py "LION status is not CURRENT"))
  match status.field (py "status_digest") with
  | .str digest => .ok digest
  | _ => .error ⟨.typeError, py "status_digest is not a text"⟩

/-- `_graph_digest`. -/
def pdpGraphDigest (graph : EnterpriseGraphProjection) : Except PyError PyStr := do
  rethrow (fun _ => true)
    (fun _ => policyGateError (py "EnterpriseGraph projection digest invalid")) graph.verifyDigest
  return graph.projectionDigest

namespace PdpInput

variable (input : PdpInput)

/-- What `_pre_request_digest` hashes. -/
def preRequest (graphDigest statusDigest : PyStr) : Json :=
  .obj [(py "request_id", .str input.requestId), (py "gate_event_id", .str input.gateEventId),
    (py "proposal", input.proposal.toJson), (py "policy", .obj input.policy.fields),
    (py "authority_key", input.authorityKey.bindingJson), (py "graph_digest", .str graphDigest),
    (py "status_digest", .str statusDigest),
    (py "observability_state", .str input.observabilityState),
    (py "observed_event_types", textList input.observedEventTypes),
    (py "evidence_refs", textList input.evidenceRefs)]

def preRequestDigest (graphDigest statusDigest : PyStr) : Except PyError PyStr := do
  let text ← Json.dumps true true (input.preRequest graphDigest statusDigest)
  let bytes ← encodeUtf8 text
  return sha256 bytes

/-- What the first checks of `evaluate` compute. -/
structure Digests where
  status : PyStr
  graph : PyStr
  preRequest : PyStr

/-- The checks of `evaluate` before the replay dictionary is read. -/
def check : Except PyError Digests := do
  input.proposal.validate
  input.mission.validate
  input.swarm.validate
  input.policy.validate
  input.authorityKey.validate
  (match input.trustedNow with
    | .naive _ => .error (policyGateError (py "trusted_now must be timezone-aware"))
    | .aware _ _ => .ok ())
  raiseIf (input.policy.active = false) (policyGateError (py "policy revision inactive"))
  raiseIf (input.policy.lane ≠ input.mission.riskClass)
    (policyGateError (py "policy lane does not bind mission risk class"))
  raiseIf (observabilityCeiling input.observabilityState).isNone
    (policyGateError (py "invalid observability_state"))
  raiseIf (input.evidenceRefs = [] ∨ ¬ input.evidenceRefs.Nodup)
    (policyGateError (py "unique evidence_refs required"))
  let statusDigest ← pdpStatusDigest input.status
  let graphDigest ← pdpGraphDigest input.graphProjection
  let preRequest ← input.preRequestDigest graphDigest statusDigest
  return ⟨statusDigest, graphDigest, preRequest⟩

def replayNonce : PyStr :=
  py "pdp:" ++ input.requestId

def admissionInput : AdmissionInput where
  proposal := input.proposal
  mission := input.mission
  swarm := input.swarm
  agents := input.agents
  policyIds := [input.policy.bindingText]
  observedEventTypes := input.observedEventTypes
  gateEventId := input.gateEventId

end PdpInput

/-! ### Results -/

structure PDPResult where
  requested : GateRequested
  applied : GateApplied
  receipt : PDPDecisionReceipt
  deriving DecidableEq

structure PdpWorld where
  admission : AdmissionWorld
  replay : List (PyStr × PyStr × PDPResult)

/-- `self._replay[request_id] = (pre, result)`. -/
def PdpWorld.remember (world : PdpWorld) (requestId preRequest : PyStr) (result : PDPResult) :
    PdpWorld :=
  { world with replay := dictSet requestId (preRequest, result) world.replay }

def onAdmission {α : Type} (program : PyProg AdmissionWorld α) : PyProg PdpWorld α :=
  PyProg.zoom PdpWorld.admission (fun world admission => { world with admission }) program

/-- A receipt of an admission with the record that is resolved after it. -/
inductive PdpAuthority
  | pullRequest (admitted : LiveAdmittedAuthority) (record : AuthorityLineageRecord)
  | repositoryRef (admitted : LiveAdmittedRepositoryRefAuthority)
      (record : RepositoryRefAuthorityLineageRecord)

namespace PdpAuthority

/-- `admitted.lineage_digest`. -/
def admittedLineageDigest : PdpAuthority → PyStr
  | pullRequest admitted _ => admitted.lineageDigest
  | repositoryRef admitted _ => admitted.lineageDigest

def authorityCeiling : PdpAuthority → PyStr
  | pullRequest admitted _ => admitted.authorityCeiling
  | repositoryRef admitted _ => admitted.authorityCeiling

/-- `admitted.authenticated_grant_digests`. -/
def grantDigests : PdpAuthority → List PyStr
  | pullRequest admitted _ => admitted.authenticatedGrantDigests
  | repositoryRef admitted _ => admitted.authenticatedGrantDigests

def lineage : PdpAuthority → List AuthorityGrant
  | pullRequest _ record => record.lineage
  | repositoryRef _ record => record.lineage

def lineageDigest : PdpAuthority → PyStr
  | pullRequest _ record => record.lineageDigest
  | repositoryRef _ record => record.lineageDigest

/-- `admitted.validate()`. -/
def validateAdmitted : PdpAuthority → Except PyError Unit
  | pullRequest admitted _ => admitted.validate
  | repositoryRef admitted _ => admitted.validate

/-- `lineage.validate()`. -/
def validateRecord : PdpAuthority → Except PyError Unit
  | pullRequest _ record => record.validate
  | repositoryRef _ record => record.validate

/-- `admitted.digest()`. -/
def digest : PdpAuthority → Except PyError PyStr
  | pullRequest admitted _ => admitted.digest
  | repositoryRef admitted _ => admitted.digest

def leafGrantDigest (authority : PdpAuthority) : Except PyError PyStr := do
  authority.validateAdmitted
  lastOf authority.grantDigests

def checkLeaf (authority : PdpAuthority) (leaf : AuthorityGrant) : Except PyError Unit := do
  raiseIf (authority.lineageDigest ≠ authority.admittedLineageDigest)
    (policyGateError (py "live admission/lineage binding mismatch"))
  let digest ← leaf.digest
  let admitted ← authority.leafGrantDigest
  raiseIf (digest ≠ admitted) (policyGateError (py "live admission/lineage binding mismatch"))

end PdpAuthority

def admitAuthority (config : LiveAuthorityConfig) (replayDomain : PyStr) (input : PdpInput) :
    PyProg AdmissionWorld PdpAuthority :=
  match input.authorityKey with
  | .pullRequest key => do
    let admitted ← onLive (admitLive config replayDomain key input.replayNonce input.trustedNow)
    let record ← PyProg.read fun world => resolveExact world.live.backend key
    return .pullRequest admitted record
  | .repositoryRef key => do
    let admitted ← admitRepositoryRef config replayDomain key input.replayNonce input.trustedNow
    let record ← PyProg.read fun world => resolveRepositoryRefExact world.refBackend key
    return .repositoryRef admitted record

/-- `except Exception` around the admission. -/
def admissionUnavailable (_ : PyError) : Except PyError PdpAuthority :=
  .error (policyGateError (py "live canonical authority admission unavailable"))

def revalidateAuthority (config : LiveAuthorityConfig) (authority : PdpAuthority) (now : Moment) :
    PyProg AdmissionWorld Unit :=
  match authority with
  | .pullRequest admitted _ => do
    let _ ← onLive (revalidate config admitted now)
  | .repositoryRef admitted _ => do
    let _ ← revalidateRepositoryRef config admitted now

/-- `except LiveAuthorityAdmissionError` around the revalidation. -/
def authorityChanged (error : PyError) : Except PyError Unit :=
  .error (if error.isInstance liveAuthorityAdmissionErrorClass then
    policyGateError (py "live authority changed before GateApplied") else error)

namespace PdpInput

variable (input : PdpInput)

def checkAuthority (authority : PdpAuthority) : Except PyError Unit := do
  authority.validateAdmitted
  authority.validateRecord
  let leaf ← lastOf authority.lineage
  authority.checkLeaf leaf
  raiseIf (leaf.missionId ≠ input.proposal.missionId ∨
      leaf.capabilityId ≠ input.proposal.capability)
    (policyGateError (py "authority mission/capability mismatch"))
  raiseIf (leaf.policyDigest ≠ input.policy.contentDigest)
    (policyGateError (py "policy revision digest does not match admitted authority grant"))
  let contained ← authorityContains authority.authorityCeiling input.proposal.requestedAuthority
  raiseIf (contained = false)
    (policyGateError (py "requested authority not semantically contained by live admission"))

/-- `GateRequested(…)`. -/
def requestOf (authority : PdpAuthority) (digests : Digests) : GateRequested where
  requestId := input.requestId
  proposalId := input.proposal.proposalId
  policyBinding := input.policy.bindingText
  authorityLineageDigest := authority.admittedLineageDigest
  enterpriseGraphDigest := digests.graph
  statusDigest := digests.status
  observabilityState := input.observabilityState
  lane := input.policy.lane
  requestedAuthority := input.proposal.requestedAuthority
  evidenceRefs := input.evidenceRefs
  requestDigest := []
  schemaVersion := gateSchema

def isObservable : Bool :=
  (observabilityCeiling input.observabilityState).any fun ceiling =>
    (ceiling.contains.map AuthorityClass.text).contains input.proposal.requestedAuthority

def lacksVerifier : Bool :=
  input.proposal.consequential &&
    (input.policy.lane = py "AMBER" || input.policy.lane = py "RED") &&
    (!isGivenText input.proposal.verifierAgentId ||
      input.proposal.verifierAgentId = some input.proposal.proposerAgentId)

/-- The reason for which the decision is a denial: the last one that applies. -/
def denialOf (base : GateDecision) : Option PyStr :=
  if base.decision ≠ .allow then
    some (py "base deterministic admission denied: " ++ base.rationale)
  else if input.lacksVerifier = true then
    some (py "AMBER/RED consequential request requires independent verifier")
  else if input.isObservable = false then
    some (py "observability-conditioned authority ceiling exceeded")
  else none

/-- `GateApplied(…)`. -/
def appliedOf (authority : PdpAuthority) (digests : Digests) (denied : Option PyStr) :
    GateApplied where
  gateEventId := input.gateEventId
  requestId := input.requestId
  proposalId := input.proposal.proposalId
  decision := match denied with
    | none => GateVerdict.allow.text
    | some _ => GateVerdict.deny.text
  effectiveAuthority := match denied with
    | none => input.proposal.requestedAuthority
    | some _ => py "none"
  policyBinding := input.policy.bindingText
  authorityLineageDigest := authority.admittedLineageDigest
  enterpriseGraphDigest := digests.graph
  statusDigest := digests.status
  observabilityState := input.observabilityState
  lane := input.policy.lane
  rationale := denied.getD (py "all canonical PDP invariants satisfied")
  decisionDigest := []
  schemaVersion := gateSchema

def receiptOf (request : GateRequested) (applied : GateApplied) (replayKey : PyStr) :
    PDPDecisionReceipt where
  receiptId := py "pdp-receipt:" ++ input.requestId
  requestId := input.requestId
  gateEventId := input.gateEventId
  requestDigest := request.requestDigest
  decisionDigest := applied.decisionDigest
  replayKey := replayKey
  schemaVersion := gateSchema

def resultOf (authority : PdpAuthority) (digests : Digests) (request : GateRequested)
    (base : GateDecision) : Except PyError PDPResult := do
  let applied ← (input.appliedOf authority digests (input.denialOf base)).sealed
  let admitted ← authority.digest
  let material ← encodeUtf8 (request.requestDigest ++ applied.decisionDigest ++ admitted)
  let receipt := input.receiptOf request applied (sha256 material)
  receipt.validate
  return ⟨request, applied, receipt⟩

end PdpInput

/-- `evaluate` for a request that is not in the replay dictionary. -/
def evaluateNew (config : LiveAuthorityConfig) (replayDomain : PyStr) (strRepr : PyStr → PyStr)
    (input : PdpInput) (digests : PdpInput.Digests) : PyProg PdpWorld PDPResult := do
  let authority ← PyProg.handle (onAdmission (admitAuthority config replayDomain input))
    admissionUnavailable
  PyProg.lift (input.checkAuthority authority)
  let request ← PyProg.lift (input.requestOf authority digests).sealed
  let base ← PyProg.lift (input.admissionInput.evaluate strRepr)
  PyProg.handle (onAdmission (revalidateAuthority config authority input.trustedNow))
    authorityChanged
  let result ← PyProg.lift (input.resultOf authority digests request base)
  PyProg.transact fun world =>
    (world.remember input.requestId digests.preRequest result, .ok result)

/-- `evaluate`, with the `repr` of a text. -/
def evaluatePdp (config : LiveAuthorityConfig) (replayDomain : PyStr) (strRepr : PyStr → PyStr)
    (input : PdpInput) : PyProg PdpWorld PDPResult := do
  let digests ← PyProg.lift input.check
  let old ← PyProg.read fun world => .ok (List.lookup input.requestId world.replay)
  match old with
  | some (preRequest, result) => do
    PyProg.lift (raiseIf (preRequest ≠ digests.preRequest)
      (policyGateError (py "replayed request_id payload substitution denied")))
    return result
  | none => evaluateNew config replayDomain strRepr input digests

end CyberLion
