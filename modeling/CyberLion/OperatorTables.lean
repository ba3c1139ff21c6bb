import CyberLion.OperatorIntervention
import CyberLion.SqlTable

/-!
# The tables of the operator control plane

The rows of the migrated database that `mission_control/operator_control.py` and
the assignments of `mission_control/global_scheduler.py` read and write.  A JSON
column that is only written or compared is its text; `input_json`, which is
decoded, is the value that `json.loads` gives, if it is JSON at all.
-/

namespace CyberLion

namespace OperatorControl

open PyLib

structure MissionRow where
  missionId : PyStr
  state : PyStr
  deriving DecidableEq

structure LogicalDroneRow where
  missionId : PyStr
  logicalId : PyStr
  role : PyStr
  deriving DecidableEq

structure MaterialWorkerRow where
  missionId : PyStr
  podName : PyStr
  logicalId : Option PyStr
  ready : Bool
  deriving DecidableEq

structure ParticipantRow where
  participantId : PyStr
  principalId : PyStr
  state : PyStr
  deriving DecidableEq

structure GrantRow where
  grantId : PyStr
  principalId : PyStr
  missionScope : PyStr
  actionsJson : PyStr
  issuedAt : PyStr
  expiresAt : Option PyStr
  revokedAt : Option PyStr
  deriving DecidableEq

/-- A row of `mission_operator_control`. -/
structure ControlRow where
  missionId : PyStr
  incarnationId : PyStr
  controlEpoch : Int
  controlOwner : PyStr
  pauseLatch : Bool
  stopLatch : Bool
  contextRevision : Int
  planRevision : Int
  lastCommandId : Option PyStr
  updatedAt : Option PyStr
  deriving DecidableEq

structure CommandRow where
  commandId : PyStr
  commandDigest : PyStr
  missionId : PyStr
  action : Action
  target : PyStr
  payloadJson : PyStr
  principalId : PyStr
  participantId : PyStr
  grantId : PyStr
  effectivePriority : Int
  admittedControlEpoch : Int
  deliveryState : PyStr
  admissionState : PyStr
  executionState : PyStr
  observationState : PyStr
  createdAt : PyStr
  admittedAt : PyStr
  completedAt : Option PyStr
  resultJson : Option PyStr
  deriving DecidableEq

structure CommandReceiptRow where
  commandId : PyStr
  receiptDigest : PyStr
  receiptJson : PyStr
  createdAt : PyStr
  deriving DecidableEq

structure EventRow where
  eventId : Nat
  missionId : PyStr
  commandId : Option PyStr
  eventType : PyStr
  payloadJson : PyStr
  payloadDigest : PyStr
  observedAt : PyStr
  deriving DecidableEq

inductive MessageState
  | pending
  | partially
  | applied
  | failed
  | cancelled
  | delivered
  | persistedNoCurrentRecipient
  deriving DecidableEq

def MessageState.text : MessageState → PyStr
  | pending => py "PENDING"
  | partially => py "PARTIAL"
  | applied => py "APPLIED"
  | failed => py "FAILED"
  | cancelled => py "CANCELLED"
  | delivered => py "DELIVERED"
  | persistedNoCurrentRecipient => py "PERSISTED_NO_CURRENT_RECIPIENT"

structure MessageRow where
  messageId : PyStr
  missionId : PyStr
  commandId : PyStr
  fromParticipant : PyStr
  target : PyStr
  kind : PyStr
  content : PyStr
  contentDigest : PyStr
  contextRevision : Int
  planRevision : Int
  state : MessageState
  createdAt : PyStr
  appliedAt : Option PyStr
  appliedAssignmentId : Option PyStr
  correlationId : Option PyStr
  causationId : Option PyStr
  fanoutId : Option PyStr
  recipientSetDigest : Option PyStr
  deriving DecidableEq

inductive DeliveryState
  | persisted
  | applied
  | failed
  | cancelled
  deriving DecidableEq

/-- `APPLIED`, `FAILED` or `CANCELLED`. -/
def DeliveryState.isTerminal : DeliveryState → Bool
  | persisted => false
  | applied | failed | cancelled => true

structure DeliveryRow where
  messageId : PyStr
  recipient : PyStr
  deliveryState : DeliveryState
  deliveredAt : Option PyStr
  appliedAt : Option PyStr
  appliedAssignmentId : Option PyStr
  deriving DecidableEq

/-- `_PROTOCOL_COGNITION_ROUTES`. -/
inductive CognitionRoute
  | localRoute
  | saas
  | dual
  | deterministicOnly
  deriving DecidableEq

def CognitionRoute.text : CognitionRoute → PyStr
  | localRoute => py "LOCAL"
  | saas => py "SAAS"
  | dual => py "DUAL"
  | deterministicOnly => py "DETERMINISTIC_ONLY"

def CognitionRoute.ofText (text : PyStr) : Option CognitionRoute :=
  [localRoute, saas, dual, deterministicOnly].find? fun route => route.text = text

structure RouteRow where
  messageId : PyStr
  recipient : PyStr
  cognitionRoute : CognitionRoute
  deriving DecidableEq

/-- The states of a trajectory.  The stages between intent and response that
the gateway writes are kept by their names. -/
inductive TrajectoryState
  | intentDurable
  | localResponseReady
  | dualLocalResponseReady
  | responseReconciled
  | failed
  | cancelled
  | stage (name : PyStr)
  deriving DecidableEq

structure TrajectoryRow where
  trajectoryId : PyStr
  messageId : PyStr
  missionId : PyStr
  participantId : PyStr
  cognitionRoute : CognitionRoute
  localAssignmentId : Option PyStr
  localModelCallId : Option PyStr
  saasRequestId : Option PyStr
  dualRequestId : Option PyStr
  state : TrajectoryState
  resultDigest : Option PyStr
  responseMessageId : Option PyStr
  createdAt : PyStr
  updatedAt : PyStr
  deriving DecidableEq

/-- A row of `mission_context_revisions` or `mission_plan_revisions`. -/
structure RevisionRow where
  missionId : PyStr
  revision : Int
  commandId : PyStr
  contentJson : PyStr
  contentDigest : PyStr
  createdAt : PyStr
  deriving DecidableEq

structure PlanAmendmentRow where
  proposalId : PyStr
  missionId : PyStr
  commandId : PyStr
  contentJson : PyStr
  contentDigest : PyStr
  requestedScopeJson : PyStr
  state : PyStr
  createdAt : PyStr
  deriving DecidableEq

structure CapabilityRevocationRow where
  missionId : PyStr
  capability : PyStr
  commandId : PyStr
  controlEpoch : Int
  revokedAt : PyStr
  releasedAt : Option PyStr
  deriving DecidableEq

structure ApprovalRow where
  missionId : PyStr
  proposalId : PyStr
  proposalDigest : PyStr
  commandId : PyStr
  approvedAt : PyStr
  deriving DecidableEq

/-- A row of `mission_execution_drivers`. -/
structure DriverRow where
  missionId : PyStr
  generation : Int
  state : PyStr
  leaseToken : PyStr
  leaseOwner : Option PyStr
  leaseExpiresAt : Option PyStr
  currentPhase : Option PyStr
  currentAttemptId : Option PyStr
  waitingReason : Option PyStr
  blockingGate : Option PyStr
  nextAction : Option PyStr
  checkpointDigest : Option PyStr
  updatedAt : PyStr
  deriving DecidableEq

structure CheckpointRow where
  checkpointId : PyStr
  missionId : PyStr
  driverGeneration : Int
  phaseId : Option PyStr
  attemptId : Option PyStr
  state : PyStr
  cursorJson : PyStr
  cursorDigest : PyStr
  createdAt : PyStr
  deriving DecidableEq

/-- The states of an assignment.  `record_internal_receipt` writes the status it
is given, whatever text that is. -/
inductive AssignmentState
  | ready
  | held
  | claimed
  | cancelRequested
  | cancelled
  | staleResult
  | status (text : PyStr)
  deriving DecidableEq

def AssignmentState.ofText (text : PyStr) : AssignmentState :=
  if text = py "READY" then .ready
  else if text = py "HELD" then .held
  else if text = py "CLAIMED" then .claimed
  else if text = py "CANCEL_REQUESTED" then .cancelRequested
  else if text = py "CANCELLED" then .cancelled
  else if text = py "STALE_RESULT" then .staleResult
  else .status text

structure AssignmentRow where
  assignmentId : PyStr
  missionId : PyStr
  phaseId : PyStr
  logicalDroneId : PyStr
  materialDroneId : PyStr
  inputDigest : PyStr
  input : Option Json
  state : AssignmentState
  leaseGeneration : Int
  controlEpoch : Int
  contextRevision : Int
  planRevision : Int
  dispatchAuthority : PyStr
  createdAt : PyStr
  claimedAt : Option PyStr
  leaseExpiresAt : Option PyStr
  finishedAt : Option PyStr

structure ReleaseEvidenceRow where
  assignmentId : PyStr
  missionId : PyStr
  evidenceDigest : PyStr
  evidenceJson : PyStr
  releasedAt : PyStr
  deriving DecidableEq

structure ExecutionReceiptRow where
  receiptId : PyStr
  assignmentId : PyStr
  missionId : PyStr
  phaseId : PyStr
  resultDigest : PyStr
  effectReceiptDigest : Option PyStr
  authorityEffect : PyStr
  status : PyStr
  observedAt : PyStr
  deriving DecidableEq

structure StaleResultRow where
  staleResultId : PyStr
  assignmentId : PyStr
  missionId : PyStr
  phaseId : PyStr
  resultDigest : PyStr
  resultJson : PyStr
  materialDroneId : PyStr
  leaseGeneration : Int
  assignmentControlEpoch : Int
  observedControlEpoch : Int
  reason : PyStr
  observedAt : PyStr
  deriving DecidableEq

structure OperatorDb where
  missions : List MissionRow
  logicalDrones : List LogicalDroneRow
  materialWorkers : List MaterialWorkerRow
  participants : List ParticipantRow
  grants : List GrantRow
  controls : List ControlRow
  commands : List CommandRow
  receipts : List CommandReceiptRow
  events : List EventRow
  messages : List MessageRow
  deliveries : List DeliveryRow
  routes : List RouteRow
  trajectories : List TrajectoryRow
  contextRevisions : List RevisionRow
  planRevisions : List RevisionRow
  planAmendments : List PlanAmendmentRow
  capabilityRevocations : List CapabilityRevocationRow
  approvals : List ApprovalRow
  drivers : List DriverRow
  checkpoints : List CheckpointRow
  assignments : List AssignmentRow
  releaseEvidence : List ReleaseEvidenceRow
  executionReceipts : List ExecutionReceiptRow
  staleResults : List StaleResultRow

def OperatorDb.empty : OperatorDb :=
  ⟨[], [], [], [], [], [], [], [], [], [], [], [], [], [], [], [], [], [], [], [], [], [], [], []⟩

/-- The readings of `now_fn` and the random identities that one call gets, in
the order in which the code asks for them. -/
structure CallInputs where
  now : Nat → PyStr
  random : Nat → PyStr

/-- The inputs that are left after the first `count` of each kind. -/
def CallInputs.skip (inputs : CallInputs) (count : Nat) : CallInputs :=
  ⟨fun index => inputs.now (count + index), fun index => inputs.random (count + index)⟩

def uniqueError (columns : PyStr) : PyError :=
  ⟨.integrityError, py "UNIQUE constraint failed: " ++ columns⟩

end OperatorControl

end CyberLion
