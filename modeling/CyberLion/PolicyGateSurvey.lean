import CyberLion.PolicyGateRuns

/-!
# A decision, evaluated

What a call for the survey returns when nobody disturbs it.
-/

namespace CyberLion

open PyLib

/-! ### The call -/

def surveyWorld : AdmissionWorld :=
  ⟨⟨surveyStore (py "a15706b0c55eaa7a74a760a22c50ccaa2a1b407a139d7559a390903f97303aed"),
    fun _ => .ok [surveyRecord [surveyRoot] (py "root")
      (py "afc48454d38d942278deb38d503b4bb7a02b2f3da66d919c23a77d413a1b879f")]⟩, fun _ => .ok []⟩

def surveyAgent : AgentSpec where
  agentId := py "drone"
  version := py "1"
  role := py "worker"
  mission := py "survey"
  capabilities := [py "merge"]
  authorityCeiling := py "read"
  executionDomain := py "sandbox"
  observabilityEvents := []
  memoryRead := false
  memoryWrite := false
  memoryPolicyIds := []
  maxRuntimeSeconds := 60
  maxCostUnits := .finite 1
  riskClass := py "GREEN"
  providerClass := py "local"
  isVerifier := false
  processProfile := none

def surveyMission (ceiling : PyStr) : MissionSpec where
  missionId := py "survey"
  purpose := py "survey"
  requiredCapabilities := [py "merge"]
  authorityCeiling := ceiling
  riskClass := py "GREEN"
  maxAgents := 1
  observabilityQuorum := .finite 0
  requireIndependentVerifier := false
  maxTotalCostUnits := .finite 1

def surveySwarm : SwarmSpec where
  swarmId := py "swarm"
  missionId := py "survey"
  memberAgentIds := [py "drone"]
  coveredCapabilities := [py "merge"]
  topology := py "single"
  authorityCeiling := py "read"
  riskClass := py "GREEN"
  observabilityQuorum := .finite 0
  verifierAgentIds := []
  estimatedCostUnits := .finite 1

def surveyProposal : ActionProposal where
  proposalId := py "proposal"
  missionId := py "survey"
  swarmId := py "swarm"
  proposerAgentId := py "drone"
  capability := py "merge"
  requestedAuthority := py "read"
  actionClass := py "LIST"
  target := py "core/api"
  consequential := false
  evidenceRefs := []
  requiredObservability := []
  verifierAgentId := none
  payloadDigest := some (List.replicate 64 0x61)

def surveyStatus : SwarmStatus.Status :=
  [(py "schema_version", .str (py "1.0.0")), (py "system_id", .str (py "LION")),
    (py "revision", .int 1), (py "previous_status_digest", .str []),
    (py "previous_revision_digest", .str []), (py "generated_at", .str []),
    (py "observed_master", .obj []), (py "governor", .obj []), (py "architecture", .obj []),
    (py "critical_path", .arr []), (py "epistemic_state", .str (py "CURRENT"))] ++
    statusListKeys.map (fun key => (key, .arr [])) ++
    [(py "status_digest", .str
      (py "4f49f73a74bd9cb7422e0d66c66ea5a0221cdc2630050198eb0c16617fd4e8a0")),
    (py "revision_digest", .str
      (py "aedc584e10ed8a3cd95f3554d4b2e6b270543559db1625e6b59392440b07bc4c"))]

def surveyGraph : EnterpriseGraphProjection :=
  ⟨py "graph", 0, List.replicate 64 0x61, [], [],
    py "c9da84c7aae7485e3379c1a012b3868125d7218283805a13f7703005ea66dbfe"⟩

def surveyInput (ceiling : PyStr) : PdpInput where
  requestId := py "request"
  gateEventId := py "gate"
  proposal := surveyProposal
  mission := surveyMission ceiling
  swarm := surveySwarm
  agents := fun agentId => if agentId = py "drone" then some surveyAgent else none
  policy := ⟨py "policy", py "1", py "sha256:" ++ List.replicate 64 0x61, py "GREEN", true,
    py "1.0.0"⟩
  authorityKey := .pullRequest (surveyKey (py "root"))
  graphProjection := surveyGraph
  status := surveyStatus
  observabilityState := py "HEALTHY"
  observedEventTypes := []
  evidenceRefs := [py "evidence"]
  trustedNow := .aware surveyNow 0

def surveyRequested : GateRequested where
  requestId := py "request"
  proposalId := py "proposal"
  policyBinding := py "policy@1:sha256:" ++ List.replicate 64 0x61
  authorityLineageDigest := py "afc48454d38d942278deb38d503b4bb7a02b2f3da66d919c23a77d413a1b879f"
  enterpriseGraphDigest := py "c9da84c7aae7485e3379c1a012b3868125d7218283805a13f7703005ea66dbfe"
  statusDigest := py "4f49f73a74bd9cb7422e0d66c66ea5a0221cdc2630050198eb0c16617fd4e8a0"
  observabilityState := py "HEALTHY"
  lane := py "GREEN"
  requestedAuthority := py "read"
  evidenceRefs := [py "evidence"]
  requestDigest := py "65d2b9f3e15ed32831f3ad157ce766208bf652ef32683c675eb1f7312e2d2ca4"
  schemaVersion := py "1.0.0"

def surveyGate : GateApplied where
  gateEventId := py "gate"
  requestId := py "request"
  proposalId := py "proposal"
  decision := py "ALLOW"
  effectiveAuthority := py "read"
  policyBinding := surveyRequested.policyBinding
  authorityLineageDigest := surveyRequested.authorityLineageDigest
  enterpriseGraphDigest := surveyRequested.enterpriseGraphDigest
  statusDigest := surveyRequested.statusDigest
  observabilityState := py "HEALTHY"
  lane := py "GREEN"
  rationale := py "all canonical PDP invariants satisfied"
  decisionDigest := py "3025d2456d467f4a82603b146a65d7469133727718738d36f8de3823a7ceead0"
  schemaVersion := py "1.0.0"

def surveyReceipt : PDPDecisionReceipt where
  receiptId := py "pdp-receipt:request"
  requestId := py "request"
  gateEventId := py "gate"
  requestDigest := surveyRequested.requestDigest
  decisionDigest := surveyGate.decisionDigest
  replayKey := py "b311c9fb231fe40b4ba8bc4c88abfe57dab15386625382ab636e5acb4b89303d"
  schemaVersion := py "1.0.0"

def surveyResult : PDPResult :=
  ⟨surveyRequested, surveyGate, surveyReceipt⟩

/-- The survey is allowed, and the first checks pass for the mission with the lower ceiling. -/
theorem survey_returns : (PyProg.runAlone (evaluatePdp surveyConfig (py "live") id
    (surveyInput (py "read"))) ⟨surveyWorld, []⟩).2 = .ok surveyResult ∧
      returned (surveyInput (py "none")).check = true := by
  have checked : (do
        let digests ← (surveyInput (py "read")).check
        return [digests.status, digests.graph, digests.preRequest]) =
      .ok [surveyRequested.statusDigest, surveyGraph.projectionDigest, Sha256.hexNumeral
        0x754a8d218682fb382677563579f31c3a87c38f7b306bf437c38b68569a556e96] ∧
      returned (surveyInput (py "none")).check = true := by
    delta PdpInput.check PdpInput.preRequestDigest pdpStatusDigest validateStatusProjection
      SwarmStatus.computeStatusDigest SwarmStatus.computeRevisionDigest SwarmStatus.digest
      pdpGraphDigest EnterpriseGraphProjection.verifyDigest domainDigest
    rw [Sha256.sha256_eq_evalText]
    decide +kernel
  refine ⟨?_, checked.2⟩
  obtain ⟨⟨status, graph, preRequest⟩, passed, same⟩ := bind_eq_ok.mp checked.1
  simp only [pure_eq_ok, List.cons.injEq, and_true] at same
  obtain ⟨rfl, rfl, rfl⟩ := same
  delta evaluatePdp
  rw [passed]
  delta evaluateNew PdpInput.checkAuthority PdpInput.resultOf admitAuthority revalidateAuthority
    admitLive admitAt admissionReplayDigest revalidate revalidateAt authenticateRecord
    liveSnapshot sameSnapshot sameDigests matchPersistentRoot AuthorityLineageRecord.validate
    AuthorityLineageRecord.validateLeaf canonicalSourceLineageDigest resolveExact
    AuthorityGrant.digest PdpAuthority.checkLeaf PdpAuthority.validateRecord PdpAuthority.digest
    GateRequested.sealed GateRequested.validate GateRequested.computeDigest
    GateRequested.checkDigest GateApplied.sealed GateApplied.validate GateApplied.computeDigest
    GateApplied.checkDigest LiveAdmittedAuthority.digest domainDigest
  rw [Sha256.sha256_eq_evalText]
  decide +kernel

end CyberLion
