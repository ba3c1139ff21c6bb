import CyberLion.PyConvert
import CyberLion.PyUtcText
import CyberLion.Sha256
import CyberLion.SqlConnection
import CyberLion.SqlTable

/-!
# The SaaS broker

`lion_saas_broker.py`: questions that a mediator hands to a supervisor outside.  The tables
of the broker and what its statements do to them.
-/

namespace CyberLion

namespace SaasBroker

open PyLib

/-! ### Rows -/

inductive RequestStatus
  | pending
  | created
  | queued
  | waitingSupervisor
  | waitingOperatorOverdue
  | claimed
  | responded
  | cancelled
  | superseded
  deriving DecidableEq

namespace RequestStatus

/-- The states of `_active_request_rows`. -/
def isActive : RequestStatus → Bool
  | .pending | .created | .queued | .waitingSupervisor | .waitingOperatorOverdue | .claimed => true
  | .responded | .cancelled | .superseded => false

def isQueued : RequestStatus → Bool
  | .created | .queued | .waitingSupervisor => true
  | _ => false

def isPromotable : RequestStatus → Bool
  | .created | .queued | .waitingSupervisor | .waitingOperatorOverdue => true
  | _ => false

def isClaimable : RequestStatus → Bool
  | .waitingSupervisor | .waitingOperatorOverdue | .queued => true
  | _ => false

end RequestStatus

inductive ScopeType
  | controlPlane
  | thread
  | mission
  deriving DecidableEq

def ScopeType.text : ScopeType → PyStr
  | .controlPlane => py "CONTROL_PLANE"
  | .thread => py "THREAD"
  | .mission => py "MISSION"

/-- A row of `saas_handoff_requests`.  The id is kept as the bytes that are stored, because
the digest of a promotion encodes it. -/
structure HandoffRequest where
  requestId : Utf8Bytes
  missionId : Option PyStr
  lpclDigest : Option PyStr
  requestCode : PyStr
  responseToken : PyStr
  question : PyStr
  questionDigest : PyStr
  status : RequestStatus
  createdAt : PyStr
  expiresAt : PyStr
  respondedAt : Option PyStr
  responseText : Option PyStr
  responseDigest : Option PyStr
  bindingId : Option PyStr
  responseMetaJson : Option PyStr
  receiptDigest : Option PyStr
  progressState : Option PyStr
  deadlineElapsedAt : Option PyStr
  retryOfRequestId : Option PyStr
  scopeType : ScopeType
  scopeId : Option PyStr
  threadId : Option PyStr
  transport : Option PyStr
  claimGeneration : Int
  claimExpiresAt : Option PyStr
  deriving DecidableEq

inductive BindingStatus
  | bound
  | superseded
  | expired
  deriving DecidableEq

inductive BindingScope
  | mission
  | globalSupervisorChannel
  deriving DecidableEq

def BindingScope.text : BindingScope → PyStr
  | .mission => py "MISSION"
  | .globalSupervisorChannel => py "GLOBAL_SUPERVISOR_CHANNEL"

/-- A row of `saas_session_bindings`. -/
structure SessionBinding where
  bindingId : PyStr
  missionId : Option PyStr
  lpclDigest : Option PyStr
  supervisorRole : PyStr
  modelIdentity : PyStr
  transport : PyStr
  attestationClass : PyStr
  status : BindingStatus
  createdAt : PyStr
  boundAt : PyStr
  expiresAt : PyStr
  lastRequestId : Option PyStr
  attestationJson : PyStr
  attestationDigest : PyStr
  bindingScope : BindingScope
  deriving DecidableEq

/-- A row of `saas_broker_receipts`. -/
structure BrokerReceipt where
  requestId : PyStr
  receiptDigest : PyStr
  receiptJson : PyStr
  createdAt : PyStr
  deriving DecidableEq

/-- A row of `saas_mediator_heartbeats`. -/
structure MediatorHeartbeat where
  mediatorId : PyStr
  transport : PyStr
  state : PyStr
  projectTitle : Option PyStr
  chatTitle : Option PyStr
  browser : Option PyStr
  observedAt : PyStr
  detailsJson : PyStr
  deriving DecidableEq

/-- A row of `saas_transport_transitions`. -/
structure TransportTransition where
  transitionId : PyStr
  requestId : PyStr
  fromTransport : PyStr
  toTransport : PyStr
  reason : PyStr
  transitionedAt : PyStr
  transitionDigest : PyStr
  deriving DecidableEq

/-- What the broker reads of a row of `missions`. -/
structure MissionRow where
  missionId : PyStr
  state : PyStr
  specDigest : PyStr
  deriving DecidableEq

/-- What the broker reads of a row of `mission_process_specs`. -/
structure ProcessSpecRow where
  missionId : PyStr
  authorityState : PyStr
  deriving DecidableEq

/-- What the broker reads of a row of `mission_dual_evaluations`. -/
structure DualEvaluationRow where
  requestId : PyStr
  saasRequestId : PyStr
  updatedAt : PyStr
  deriving DecidableEq

/-- The tables.  Those of the missions and of the dual evaluations may be missing. -/
structure Broker where
  requests : List HandoffRequest
  bindings : List SessionBinding
  receipts : List BrokerReceipt
  transitions : List TransportTransition
  heartbeats : List MediatorHeartbeat
  missions : Option (List MissionRow)
  processSpecs : List ProcessSpecRow
  dualEvaluations : Option (List DualEvaluationRow)

/-! ### Constants -/

def TRANSPORT : PyStr := py "CHATGPT_SENTINELX_SESSION_MEDIATED"

def ATTESTATION_CLASS : PyStr := py "OPERATOR_SESSION_PLUS_CONNECTOR_ROUNDTRIP"

def FIREFOX_TRANSPORT : PyStr := py "CHATGPT_FIREFOX_PROJECT_MEDIATED"

def FIREFOX_ATTESTATION_CLASS : PyStr := py "FIREFOX_UI_PROJECT_BOUND_OBSERVATION"

def SECURE_MCP_TRANSPORT : PyStr := py "CHATGPT_OPENAI_SECURE_MCP_TUNNEL"

def SECURE_MCP_ATTESTATION_CLASS : PyStr := py "OPENAI_SECURE_MCP_TUNNEL_TOOL_ROUNDTRIP"

def SENTINELX_MCP_TRANSPORT : PyStr := py "CHATGPT_SENTINELX_MCP"

def SENTINELX_MCP_ATTESTATION_CLASS : PyStr := ATTESTATION_CLASS

def MEDIATOR_HEARTBEAT_TTL_SECONDS : Int := 45

def mediatorTransports : List PyStr :=
  [FIREFOX_TRANSPORT, SECURE_MCP_TRANSPORT, SENTINELX_MCP_TRANSPORT]

def SUPPORTED_TRANSPORT_ATTESTATIONS : List (PyStr × PyStr) :=
  [(TRANSPORT, ATTESTATION_CLASS), (FIREFOX_TRANSPORT, FIREFOX_ATTESTATION_CLASS),
    (SECURE_MCP_TRANSPORT, SECURE_MCP_ATTESTATION_CLASS),
    (SENTINELX_MCP_TRANSPORT, SENTINELX_MCP_ATTESTATION_CLASS)]

def MEDIATOR_STATES : List PyStr :=
  [py "STARTING", py "LOGIN_REQUIRED", py "PROJECT_BINDING_REQUIRED", py "CHAT_BINDING_REQUIRED",
    py "READY", py "DEGRADED", py "STOPPED"]

def terminalMissionStates : List PyStr :=
  [py "COMPLETE", py "COMPLETED", py "SUPERSEDED", py "CANCELLED", py "FAILED", py "FAIL",
    py "STOPPED"]

/-- `ValueError(message)`. -/
def brokerError (message : PyStr) : PyError :=
  ⟨.valueError, message⟩

/-! ### Helpers -/

def canon (value : Json) : Except PyError PyStr :=
  Json.dumps false true value

def digest (value : Json) : Except PyError PyStr := do
  let text ← canon value
  let bytes ← encodeUtf8 text
  return sha256 bytes

def parseTs (value : PyStr) : Except PyError Moment :=
  match fromIsoFormat (pyReplace 0x5A (py "+00:00") value) with
  | some moment => .ok moment
  | none => .error (brokerError (py "Invalid isoformat string"))

def utcOf : Moment → Except PyError DateTime
  | .naive time => .ok time
  | .aware time offset => time.astimezoneUtc offset

/-- `moment + timedelta(seconds=...)`. -/
def addSeconds (moment : Moment) (seconds : Int) : Except PyError Moment :=
  match moment with
  | .naive time => .naive <$> DateTime.ofMicroseconds (time.microseconds + seconds * 1000000)
  | .aware time offset =>
    (Moment.aware · offset) <$> DateTime.ofMicroseconds (time.microseconds + seconds * 1000000)

def future (stamp : PyStr) (seconds : Int) : Except PyError PyStr := do
  let moment ← parseTs stamp
  let later ← addSeconds moment seconds
  let utcTime ← utcOf later
  return utcTime.zulu

/-- `first - second` in microseconds, for two moments. -/
def momentDifference : Moment → Moment → Except PyError Int
  | .naive first, .naive second => .ok (first.microseconds - second.microseconds)
  | .aware first offset, .aware second other =>
    .ok ((first.microseconds - offset) - (second.microseconds - other))
  | _, _ => .error ⟨.typeError, py "can't subtract offset-naive and offset-aware datetimes"⟩

/-- `secrets.compare_digest` on texts. -/
def compareDigest (first second : PyStr) : Except PyError Bool := do
  raiseIf (¬ (first ++ second).all fun c => c.val < 0x80)
    ⟨.typeError, py "comparing strings with non-ASCII characters is not supported"⟩
  return first = second

/-- `UPPER(...)` of SQLite, which knows the letters of ASCII. -/
def sqlUpper (text : PyStr) : PyStr :=
  text.map fun c => if c.isAsciiLower then Fin.ofNat 0x110000 (c.val - 0x20) else c

/-- `transport or TRANSPORT`. -/
def HandoffRequest.transportOr (row : HandoffRequest) : PyStr :=
  match row.transport with
  | none | some [] => TRANSPORT
  | some transport => transport

/-- The order of `ORDER BY created_at,request_id`. -/
def HandoffRequest.before (first second : HandoffRequest) : Bool :=
  first.createdAt < second.createdAt ||
    first.createdAt = second.createdAt && first.requestId.text ≤ second.requestId.text

namespace Broker

variable (db : Broker)

/-! ### Reading -/

/-- `SELECT * FROM saas_handoff_requests WHERE request_id=?`. -/
def request (requestId : PyStr) : Option HandoffRequest :=
  db.requests.find? fun row => row.requestId.text = requestId

def activeRequestRows (scopeType : ScopeType) (scopeId : Option PyStr)
    (questionDigest : PyStr) : List HandoffRequest :=
  (db.requests.filter fun row => row.scopeType = scopeType && row.scopeId.isSome &&
    row.scopeId = scopeId && row.questionDigest = questionDigest &&
      row.status.isActive).insertionSort fun first second => first.before second = true

/-- `SELECT ... FROM missions WHERE mission_id=?`. -/
def mission (missionId : Option PyStr) : Except PyError (Option MissionRow) :=
  match db.missions with
  | none => .error (operationalError (py "no such table: missions"))
  | some missions => .ok (missions.find? fun row => some row.missionId = missionId)

/-- `SELECT ... FROM mission_process_specs WHERE mission_id=?`. -/
def processSpec (missionId : Option PyStr) : Option ProcessSpecRow :=
  db.processSpecs.find? fun row => some row.missionId = missionId

/-! ### Deadlines -/

def missionEnded (missions : List MissionRow) (row : HandoffRequest) : Bool :=
  missions.any fun mission =>
    some mission.missionId = row.missionId && sqlUpper mission.state ∈ terminalMissionStates

/-- `status='SUPERSEDED',progress_state=?,claim_expires_at=NULL`. -/
def supersede (progressState : PyStr) (row : HandoffRequest) : HandoffRequest :=
  { row with
    status := .superseded
    progressState := some progressState
    claimExpiresAt := none }

def overdueProgress (now : PyStr) (row : HandoffRequest) : HandoffRequest :=
  { row with
    progressState := some (py "WAITING_OPERATOR_OVERDUE")
    deadlineElapsedAt := some (row.deadlineElapsedAt.getD now) }

def releaseClaim (row : HandoffRequest) : HandoffRequest :=
  { row with
    status := .waitingSupervisor
    progressState := some (py "WAITING_SUPERVISOR")
    claimExpiresAt := none }

/-- `status='CLAIMED' AND claim_expires_at<=?`, which compares texts. -/
def claimExpired (now : PyStr) (row : HandoffRequest) : Bool :=
  row.status = .claimed && row.claimExpiresAt.any fun expires => expires ≤ now

def supersedeEnded (row : HandoffRequest) : HandoffRequest :=
  if row.scopeType = .mission && row.status.isActive &&
      (db.missions.any fun missions => missionEnded missions row) then
    supersede (py "SUPERSEDED_TERMINAL_MISSION") row
  else row

def notePending (now : PyStr) (row : HandoffRequest) : HandoffRequest :=
  if row.status = .pending && row.expiresAt ≤ now then overdueProgress now row else row

def releaseExpired (now : PyStr) (row : HandoffRequest) : HandoffRequest :=
  if claimExpired now row then releaseClaim row else row

def markOverdue (now : PyStr) (row : HandoffRequest) : HandoffRequest :=
  if row.status.isQueued && row.expiresAt ≤ now then
    { overdueProgress now row with status := .waitingOperatorOverdue }
  else row

/-- The updates of `_expire` of one row, in their order. -/
def expireRequest (now : PyStr) (row : HandoffRequest) : HandoffRequest :=
  markOverdue now (releaseExpired now (notePending now (db.supersedeEnded row)))

def expireBinding (now : PyStr) (row : SessionBinding) : SessionBinding :=
  if row.status = .bound && row.expiresAt ≤ now then { row with status := .expired } else row

/-- `_expire`.  Each of its updates looks at one row at a time, and at the missions. -/
def expire (now : PyStr) : Broker :=
  { db with
    requests := db.requests.map (db.expireRequest now)
    bindings := db.bindings.map (expireBinding now) }

end Broker

end SaasBroker

end CyberLion
