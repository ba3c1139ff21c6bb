import CyberLion.ControlPlane
import CyberLion.JsonWritable
import CyberLion.Sha256Evaluation
import CyberLion.SwarmStatus

/-!
# The contracts of the policy gate

`contracts/policy_gate.py`, the projections of `contracts/enterprise_graph.py` and the
status that `enterprise/swarm_status_projection.py` accepts.
-/

namespace CyberLion

open PyLib
open AuthorityGrant (textList)
open FleetCoordination (optionalText)

def domainDigest (domain : PyStr) (value : Json) : Except PyError PyStr := do
  let text ← Json.dumps false true value
  let bytes ← encodeUtf8 (domain ++ text)
  return sha256 bytes

theorem exists_domainDigest {domain : PyStr} {fields : List (PyStr × Json)}
    (encodableDomain : isEncodable domain = true) (writable : Json.Writable (.obj fields))
    (printable : (Json.obj fields).isPrintable = true) :
    ∃ digest, domainDigest domain (.obj fields) = .ok digest ∧ isLowerHexOf 64 digest = true := by
  obtain ⟨text, bytes, dumped, encoded⟩ := writable.exists_encodeUtf8 printable true
  have encodable : isEncodable (domain ++ text) = true := by
    rw [Json.isEncodable_append, ← encodeUtf8_eq_ok.mp encoded]
    exact ⟨encodableDomain, bytes.encodable⟩
  obtain ⟨whole, isWhole⟩ := exists_encodeUtf8 encodable
  refine ⟨sha256 whole, ?_, isLowerHexOf_sha256 whole⟩
  rw [domainDigest, dumped, ok_bind, isWhole]
  rfl

/-! ### Requests and decisions -/

/-- `PolicyGateContractError(message)`. -/
def gateContractError (message : PyStr) : PyError :=
  ⟨.declared .valueError (py "PolicyGateContractError"), message⟩

def lanes : List PyStr :=
  [py "GREEN", py "AMBER", py "RED"]

def observabilityStates : List PyStr :=
  [py "HEALTHY", py "DEGRADED", py "LOST"]

/-- `_text`. -/
def gateText (name value : PyStr) : Except PyError Unit :=
  raiseIf (isBlank value = true) (gateContractError (name ++ py " required"))

/-- `schema_version` of the contracts of the gate. -/
def gateSchema : PyStr :=
  py "1.0.0"

structure PolicyRevision where
  policyId : PyStr
  revision : PyStr
  contentDigest : PyStr
  lane : PyStr
  active : Bool
  schemaVersion : PyStr
  deriving DecidableEq

namespace PolicyRevision

def validate (policy : PolicyRevision) : Except PyError Unit := do
  raiseIf (policy.schemaVersion ≠ gateSchema) (gateContractError (py "unsupported policy schema"))
  gateText (py "policy_id") policy.policyId
  gateText (py "revision") policy.revision
  raiseIf (¬ isPrefixedDigest policy.contentDigest = true)
    (gateContractError (py "content_digest must be sha256:<hex>"))
  raiseIf (policy.lane ∉ lanes) (gateContractError (py "invalid lane"))

/-- `binding`, of a revision that was validated. -/
def bindingText (policy : PolicyRevision) : PyStr :=
  policy.policyId ++ py "@" ++ policy.revision ++ py ":" ++ policy.contentDigest

def binding (policy : PolicyRevision) : Except PyError PyStr := do
  policy.validate
  return policy.bindingText

/-- `asdict`. -/
def fields (policy : PolicyRevision) : List (PyStr × Json) :=
  [(py "policy_id", .str policy.policyId), (py "revision", .str policy.revision),
    (py "content_digest", .str policy.contentDigest), (py "lane", .str policy.lane),
    (py "active", .bool policy.active), (py "schema_version", .str policy.schemaVersion)]

end PolicyRevision

structure GateRequested where
  requestId : PyStr
  proposalId : PyStr
  policyBinding : PyStr
  authorityLineageDigest : PyStr
  enterpriseGraphDigest : PyStr
  statusDigest : PyStr
  observabilityState : PyStr
  lane : PyStr
  requestedAuthority : PyStr
  evidenceRefs : List PyStr
  requestDigest : PyStr
  schemaVersion : PyStr
  deriving DecidableEq

namespace GateRequested

def canonicalPayload (request : GateRequested) : Json :=
  .obj [(py "request_id", .str request.requestId), (py "proposal_id", .str request.proposalId),
    (py "policy_binding", .str request.policyBinding),
    (py "authority_lineage_digest", .str request.authorityLineageDigest),
    (py "enterprise_graph_digest", .str request.enterpriseGraphDigest),
    (py "status_digest", .str request.statusDigest),
    (py "observability_state", .str request.observabilityState), (py "lane", .str request.lane),
    (py "requested_authority", .str request.requestedAuthority),
    (py "evidence_refs", textList request.evidenceRefs),
    (py "schema_version", .str request.schemaVersion)]

def computeDigest (request : GateRequested) : Except PyError PyStr :=
  domainDigest [] request.canonicalPayload

def checkHex (name value : PyStr) : Except PyError Unit :=
  raiseIf (¬ isLowerHexOf 64 value = true)
    (gateContractError (name ++ py " must be canonical sha256 hex"))

def checkDigest (request : GateRequested) : Except PyError Unit :=
  if request.requestDigest = [] then .ok ()
  else do
    let digest ← request.computeDigest
    raiseIf (request.requestDigest ≠ digest) (gateContractError (py "request_digest mismatch"))

def validate (request : GateRequested) : Except PyError Unit := do
  raiseIf (request.schemaVersion ≠ gateSchema)
    (gateContractError (py "unsupported GateRequested schema"))
  gateText (py "request_id") request.requestId
  gateText (py "proposal_id") request.proposalId
  gateText (py "policy_binding") request.policyBinding
  gateText (py "requested_authority") request.requestedAuthority
  checkHex (py "authority_lineage_digest") request.authorityLineageDigest
  checkHex (py "enterprise_graph_digest") request.enterpriseGraphDigest
  checkHex (py "status_digest") request.statusDigest
  raiseIf (request.observabilityState ∉ observabilityStates)
    (gateContractError (py "invalid observability_state"))
  raiseIf (request.lane ∉ lanes) (gateContractError (py "invalid lane"))
  raiseIf (request.evidenceRefs = [] ∨ ¬ request.evidenceRefs.Nodup)
    (gateContractError (py "unique evidence_refs required"))
  request.checkDigest

def sealed (request : GateRequested) : Except PyError GateRequested := do
  request.validate
  let digest ← request.computeDigest
  return { request with requestDigest := digest }

end GateRequested

structure GateApplied where
  gateEventId : PyStr
  requestId : PyStr
  proposalId : PyStr
  decision : PyStr
  effectiveAuthority : PyStr
  policyBinding : PyStr
  authorityLineageDigest : PyStr
  enterpriseGraphDigest : PyStr
  statusDigest : PyStr
  observabilityState : PyStr
  lane : PyStr
  rationale : PyStr
  decisionDigest : PyStr
  schemaVersion : PyStr
  deriving DecidableEq

namespace GateApplied

def canonicalPayload (applied : GateApplied) : Json :=
  .obj [(py "gate_event_id", .str applied.gateEventId), (py "request_id", .str applied.requestId),
    (py "proposal_id", .str applied.proposalId), (py "decision", .str applied.decision),
    (py "effective_authority", .str applied.effectiveAuthority),
    (py "policy_binding", .str applied.policyBinding),
    (py "authority_lineage_digest", .str applied.authorityLineageDigest),
    (py "enterprise_graph_digest", .str applied.enterpriseGraphDigest),
    (py "status_digest", .str applied.statusDigest),
    (py "observability_state", .str applied.observabilityState), (py "lane", .str applied.lane),
    (py "rationale", .str applied.rationale), (py "schema_version", .str applied.schemaVersion)]

def computeDigest (applied : GateApplied) : Except PyError PyStr :=
  domainDigest [] applied.canonicalPayload

def checkHex (name value : PyStr) : Except PyError Unit :=
  raiseIf (¬ isLowerHexOf 64 value = true) (gateContractError (name ++ py " invalid"))

def checkDigest (applied : GateApplied) : Except PyError Unit :=
  if applied.decisionDigest = [] then .ok ()
  else do
    let digest ← applied.computeDigest
    raiseIf (applied.decisionDigest ≠ digest) (gateContractError (py "decision_digest mismatch"))

def validate (applied : GateApplied) : Except PyError Unit := do
  raiseIf (applied.schemaVersion ≠ gateSchema)
    (gateContractError (py "unsupported GateApplied schema"))
  gateText (py "gate_event_id") applied.gateEventId
  gateText (py "request_id") applied.requestId
  gateText (py "proposal_id") applied.proposalId
  gateText (py "policy_binding") applied.policyBinding
  gateText (py "rationale") applied.rationale
  raiseIf (applied.decision ≠ GateVerdict.allow.text ∧ applied.decision ≠ GateVerdict.deny.text)
    (gateContractError (py "invalid decision"))
  raiseIf (applied.decision = GateVerdict.deny.text ∧ applied.effectiveAuthority ≠ py "none")
    (gateContractError (py "DENY requires none authority"))
  raiseIf (applied.observabilityState ∉ observabilityStates ∨ applied.lane ∉ lanes)
    (gateContractError (py "invalid lane/observability"))
  checkHex (py "authority_lineage_digest") applied.authorityLineageDigest
  checkHex (py "enterprise_graph_digest") applied.enterpriseGraphDigest
  checkHex (py "status_digest") applied.statusDigest
  applied.checkDigest

def sealed (applied : GateApplied) : Except PyError GateApplied := do
  applied.validate
  let digest ← applied.computeDigest
  return { applied with decisionDigest := digest }

end GateApplied

structure PDPDecisionReceipt where
  receiptId : PyStr
  requestId : PyStr
  gateEventId : PyStr
  requestDigest : PyStr
  decisionDigest : PyStr
  replayKey : PyStr
  schemaVersion : PyStr
  deriving DecidableEq

def PDPDecisionReceipt.validate (receipt : PDPDecisionReceipt) : Except PyError Unit := do
  raiseIf (receipt.schemaVersion ≠ gateSchema)
    (gateContractError (py "unsupported receipt schema"))
  gateText (py "receipt_id") receipt.receiptId
  gateText (py "request_id") receipt.requestId
  gateText (py "gate_event_id") receipt.gateEventId
  GateApplied.checkHex (py "request_digest") receipt.requestDigest
  GateApplied.checkHex (py "decision_digest") receipt.decisionDigest
  GateApplied.checkHex (py "replay_key") receipt.replayKey

/-! ### The enterprise graph -/

/-- `EnterpriseGraphError(message)`. -/
def graphError (message : PyStr) : PyError :=
  ⟨.declared .valueError (py "EnterpriseGraphError"), message⟩

def nodeTypes : List PyStr :=
  [py "ENTITY", py "MISSION", py "CAPABILITY", py "AGENT", py "SWARM", py "POLICY",
    py "AUTHORITY_RECORD", py "PROVENANCE", py "EVIDENCE", py "EXECUTION", py "ARTIFACT",
    py "OBSERVATION"]

def dataEdgeTypes : List PyStr :=
  [py "HAS_CAPABILITY", py "MEMBER_OF", py "DERIVED_FROM", py "SUPPORTS", py "CONTRADICTS",
    py "OBSERVED_FROM", py "EXECUTED_BY", py "PRODUCED", py "SUPERSEDES", py "CORRELATED_WITH",
    py "CAUSED_BY"]

def authorityEdgeTypes : List PyStr :=
  [py "AUTHORITY_PARENT_OF", py "AUTHORITY_BINDS_RESOURCE", py "AUTHORITY_REFERENCED_BY"]

/-- `_text`. -/
def graphText (name value : PyStr) : Except PyError Unit :=
  raiseIf (isBlank value || hasNul value) (graphError (name ++ py " invalid"))

/-- `_digest`. -/
def graphDigest (name value : PyStr) : Except PyError Unit := do
  graphText name value
  raiseIf (¬ isLowerHexOf 64 value = true) (graphError (name ++ py " must be sha256 hex"))

/-- `_refs`. -/
def graphRefs (name : PyStr) (values : List PyStr) : Except PyError Unit := do
  forM values (graphText name)
  raiseIf (¬ values.Nodup) (graphError (name ++ py " must be unique"))

/-- `GraphNode`.  Its payload is kept as the members of a JSON object. -/
structure GraphNode where
  nodeId : PyStr
  nodeType : PyStr
  version : PyStr
  payload : List (PyStr × Json)
  provenanceRefs : List PyStr

namespace GraphNode

def validate (node : GraphNode) : Except PyError Unit := do
  graphText (py "node_id") node.nodeId
  graphText (py "version") node.version
  raiseIf (node.nodeType ∉ nodeTypes) (graphError (py "unknown node_type"))
  graphRefs (py "provenance_refs") node.provenanceRefs

/-- `asdict`. -/
def toJson (node : GraphNode) : Json :=
  .obj [(py "node_id", .str node.nodeId), (py "node_type", .str node.nodeType),
    (py "version", .str node.version), (py "payload", .obj node.payload),
    (py "provenance_refs", textList node.provenanceRefs)]

end GraphNode

structure GraphEdge where
  edgeId : PyStr
  plane : PyStr
  edgeType : PyStr
  sourceId : PyStr
  targetId : PyStr
  provenanceRefs : List PyStr
  causalityEvidenceRef : Option PyStr

namespace GraphEdge

def checkCausality (edge : GraphEdge) : Except PyError Unit :=
  if edge.edgeType = py "CAUSED_BY" then do
    raiseIf (¬ isGivenText edge.causalityEvidenceRef = true)
      (graphError (py "CAUSED_BY requires causality evidence"))
    raiseIf (∀ ref ∈ edge.causalityEvidenceRef, ref ∉ edge.provenanceRefs)
      (graphError (py "CAUSED_BY evidence must be provenance-bound"))
  else raiseIf (edge.causalityEvidenceRef ≠ none)
    (graphError (py "causality evidence only valid for CAUSED_BY"))

def validate (edge : GraphEdge) : Except PyError Unit := do
  graphText (py "edge_id") edge.edgeId
  graphText (py "source_id") edge.sourceId
  graphText (py "target_id") edge.targetId
  raiseIf (edge.plane ≠ py "DATA_PROVENANCE" ∧ edge.plane ≠ py "AUTHORITY_REFERENCE")
    (graphError (py "unknown plane"))
  raiseIf (edge.edgeType ∉
      if edge.plane = py "DATA_PROVENANCE" then dataEdgeTypes else authorityEdgeTypes)
    (graphError (py "edge_type not allowed in plane"))
  graphRefs (py "provenance_refs") edge.provenanceRefs
  edge.checkCausality

/-- `asdict`. -/
def toJson (edge : GraphEdge) : Json :=
  .obj [(py "edge_id", .str edge.edgeId), (py "plane", .str edge.plane),
    (py "edge_type", .str edge.edgeType), (py "source_id", .str edge.sourceId),
    (py "target_id", .str edge.targetId), (py "provenance_refs", textList edge.provenanceRefs),
    (py "causality_evidence_ref", optionalText edge.causalityEvidenceRef)]

end GraphEdge

structure EnterpriseGraphProjection where
  graphId : PyStr
  revision : Int
  eventHead : PyStr
  nodes : List GraphNode
  edges : List GraphEdge
  projectionDigest : PyStr

namespace EnterpriseGraphProjection

def validate (graph : EnterpriseGraphProjection) : Except PyError Unit := do
  graphText (py "graph_id") graph.graphId
  graphDigest (py "event_head") graph.eventHead
  graphDigest (py "projection_digest") graph.projectionDigest
  raiseIf (graph.revision < 0) (graphError (py "revision invalid"))
  forM graph.nodes GraphNode.validate
  forM graph.edges GraphEdge.validate

def logicalPayload (graph : EnterpriseGraphProjection) : Json :=
  .obj [(py "graph_id", .str graph.graphId), (py "nodes", .arr (graph.nodes.map GraphNode.toJson)),
    (py "edges", .arr (graph.edges.map GraphEdge.toJson))]

def verifyDigest (graph : EnterpriseGraphProjection) : Except PyError Unit := do
  graph.validate
  let expected ← domainDigest [] graph.logicalPayload
  raiseIf (expected ≠ graph.projectionDigest) (graphError (py "projection digest mismatch"))

end EnterpriseGraphProjection

/-! ### The projected status -/

/-- `ValueError(message)`. -/
def statusError (message : PyStr) : PyError :=
  ⟨.valueError, message⟩

/-- The keys that `validate_status_projection` requires. -/
def requiredStatusKeys : List PyStr :=
  [py "schema_version", py "system_id", py "revision", py "status_digest",
    py "previous_status_digest", py "revision_digest", py "previous_revision_digest",
    py "current_actions", py "history", py "generated_at", py "observed_master", py "governor",
    py "architecture", py "critical_path", py "formations", py "missions", py "drones",
    py "role_assignments", py "dependencies", py "blockers", py "channels",
    py "pending_messages", py "epistemic_state", py "source_refs"]

def statusListKeys : List PyStr :=
  [py "formations", py "missions", py "drones", py "role_assignments", py "dependencies",
    py "blockers", py "channels", py "pending_messages", py "current_actions", py "history",
    py "source_refs"]

def isText (value : Json) (text : PyStr) : Bool :=
  match value with
  | .str other => other = text
  | _ => false

def inTexts (value : Json) (texts : List PyStr) : Except PyError Bool :=
  match value with
  | .str text => .ok (texts.contains text)
  | other => if SwarmStatus.isHashable other then .ok false
      else .error ⟨.typeError, py "unhashable type"⟩

/-- `isinstance(status[key], list)`. -/
def isList : Json → Bool
  | .arr _ => true
  | _ => false

def validateStatusProjection (status : SwarmStatus.Status) : Except PyError Unit := do
  forM requiredStatusKeys fun key =>
    raiseIf (status.lookup key).isNone (statusError (py "status missing " ++ key))
  raiseIf (¬ (isText (status.field (py "schema_version")) (py "1.0.0") &&
      isText (status.field (py "system_id")) (py "LION")) = true)
    (statusError (py "status identity invalid"))
  let known ← inTexts (status.field (py "epistemic_state"))
    [py "CURRENT", py "STALE", py "UNKNOWN", py "CONFLICTED"]
  raiseIf (known = false) (statusError (py "invalid epistemic state"))
  let expected ← SwarmStatus.computeStatusDigest status
  raiseIf (¬ isText (status.field (py "status_digest")) expected = true)
    (statusError (py "status digest mismatch"))
  let expectedRevision ← SwarmStatus.computeRevisionDigest (status.field (py "revision"))
    (status.field (py "status_digest")) (status.field (py "previous_revision_digest"))
  raiseIf (¬ isText (status.field (py "revision_digest")) expectedRevision = true)
    (statusError (py "revision digest mismatch"))
  forM statusListKeys fun key =>
    raiseIf (¬ isList (status.field key) = true) (statusError (key ++ py " must be list"))

end CyberLion
