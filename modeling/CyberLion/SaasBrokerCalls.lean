import CyberLion.SaasBroker

/-!
# The calls of the SaaS broker

Every call is a sequence of statements on its connection.  The value that `now_fn` returns
and the random texts of a call are its arguments: the calls ask for each of them once.
-/

namespace CyberLion

namespace SaasBroker

open PyLib

/-! ### Statements -/

def update (change : Broker → Broker) : PyProg Broker Unit :=
  .transact fun db => (change db, .ok ())

def attempt (change : Broker → Except PyError Broker) : PyProg Broker Unit :=
  .transact fun db =>
    match change db with
    | .ok after => (after, .ok ())
    | .error error => (db, .error error)

def look {α : Type} (view : Broker → α) : PyProg Broker α :=
  .read fun db => .ok (view db)

namespace Broker

/-- `UPDATE saas_handoff_requests SET ... WHERE request_id=?`, for each of some rows. -/
def supersedeRows (progressState : PyStr) (rows : List HandoffRequest) (db : Broker) : Broker :=
  { db with
    requests := updateWhere (fun row => row.requestId ∈ rows.map HandoffRequest.requestId)
      (supersede progressState) db.requests }

def insertRequest (row : HandoffRequest) (db : Broker) : Except PyError Broker := do
  let _ ← insertRow
    (integrityError (py "UNIQUE constraint failed: saas_handoff_requests.request_id"))
    (fun other => other.requestId = row.requestId) row db.requests
  let requests ← insertRow
    (integrityError (py "UNIQUE constraint failed: saas_handoff_requests.request_code"))
    (fun other => other.requestCode = row.requestCode) row db.requests
  return { db with requests }

def insertBinding (row : SessionBinding) (db : Broker) : Except PyError Broker := do
  let bindings ← insertRow
    (integrityError (py "UNIQUE constraint failed: saas_session_bindings.binding_id"))
    (fun other => other.bindingId = row.bindingId) row db.bindings
  return { db with bindings }

def insertReceipt (row : BrokerReceipt) (db : Broker) : Except PyError Broker := do
  let _ ← insertRow
    (integrityError (py "UNIQUE constraint failed: saas_broker_receipts.request_id"))
    (fun other => other.requestId = row.requestId) row db.receipts
  let receipts ← insertRow
    (integrityError (py "UNIQUE constraint failed: saas_broker_receipts.receipt_digest"))
    (fun other => other.receiptDigest = row.receiptDigest) row db.receipts
  return { db with receipts }

end Broker

/-! ### Mediators -/

/-- What `_current_mediator` says of the last heartbeat. -/
structure CurrentMediator where
  row : MediatorHeartbeat
  ageMicroseconds : Int
  fresh : Bool
  state : PyStr
  deriving DecidableEq

/-- `SELECT * FROM saas_mediator_heartbeats ORDER BY observed_at DESC LIMIT 1`. -/
def Broker.lastHeartbeat (db : Broker) : Option MediatorHeartbeat :=
  (db.heartbeats.insertionSort fun first second => second.observedAt ≤ first.observedAt).head?

def currentMediator (db : Broker) (stamp : PyStr) : Except PyError (Option CurrentMediator) :=
  match db.lastHeartbeat with
  | none => .ok none
  | some row => do
    let current ← parseTs stamp
    let observed ← parseTs row.observedAt
    let age ← momentDifference current observed
    let fresh := decide (0 ≤ age ∧ age ≤ MEDIATOR_HEARTBEAT_TTL_SECONDS * 1000000)
    return some ⟨row, age, fresh, if fresh then row.state else py "STALE"⟩

def CurrentMediator.isReady (mediator : CurrentMediator) : Bool :=
  mediator.fresh && mediator.state = py "READY" && mediator.row.transport ∈ mediatorTransports

def preferredTransport (db : Broker) (stamp : PyStr) : Except PyError PyStr := do
  match ← currentMediator db stamp with
  | some mediator => return if mediator.isReady then mediator.row.transport else TRANSPORT
  | none => return TRANSPORT

def attestationForTransport (transport : PyStr) : Except PyError PyStr :=
  match SUPPORTED_TRANSPORT_ATTESTATIONS.lookup transport with
  | some attestation => .ok attestation
  | none => .error (brokerError (py "unsupported transport"))

/-- `_mission_binding`, of the rows that its two statements found. -/
def missionBinding (mission : Option MissionRow) (process : Option ProcessSpecRow) :
    Except PyError MissionRow :=
  match mission, process with
  | some mission, some process => do
    raiseIf (process.authorityState ≠ py "EXPLICIT_USER_ACTIVATION")
      (brokerError (py "exact LPCL not activated"))
    raiseIf (mission.state ∉ [py "AUTHORIZED", py "RUNNING", py "WAITING", py "BLOCKED"])
      (brokerError (py "mission state not eligible"))
    return mission
  | _, _ => .error (brokerError (py "mission process unavailable"))

/-! ### Heartbeats -/

structure HeartbeatInput where
  fields : List (PyStr × Json)
  mediatorId : PyStr
  transport : PyStr
  state : PyStr
  projectTitle : Option PyStr
  chatTitle : Option PyStr
  browser : Option PyStr

def heartbeatKeys : List PyStr :=
  [py "mediator_id", py "transport", py "state", py "project_title", py "chat_title",
    py "browser", py "authority_effect"]

/-- `value not in {...}` for a set of texts. -/
def memberOf (texts : List PyStr) (message : PyStr) : Json → Except PyError PyStr
  | .str text => do
    raiseIf (text ∉ texts) (brokerError message)
    return text
  | .arr _ => .error ⟨.typeError, py "unhashable type: 'list'"⟩
  | .obj _ => .error ⟨.typeError, py "unhashable type: 'dict'"⟩
  | _ => .error (brokerError message)

def heartbeatText (fields : List (PyStr × Json)) (key : PyStr) : Except PyError (Option PyStr) :=
  match Json.get key fields with
  | .null => .ok none
  | .str text => do
    raiseIf (text.length > 240) (brokerError (py "mediator " ++ key))
    return some text
  | _ => .error (brokerError (py "mediator " ++ key))

/-- The checks of `record_mediator_heartbeat`. -/
def checkHeartbeat : Json → Except PyError HeartbeatInput
  | .obj fields => do
    raiseIf (¬ ((∀ item ∈ fields, item.1 ∈ heartbeatKeys) ∧
      ∀ key ∈ heartbeatKeys, key ∈ fields.map Prod.fst))
      (brokerError (py "mediator heartbeat schema"))
    match Json.get (py "authority_effect") fields with
    | .str effect => raiseIf (effect ≠ py "NONE") (brokerError (py "mediator authority"))
    | _ => .error (brokerError (py "mediator authority"))
    let mediatorId ← match Json.get (py "mediator_id") fields with
      | .str text => do
        raiseIf (text = [] ∨ text.length > 96) (brokerError (py "mediator_id"))
        pure text
      | _ => .error (brokerError (py "mediator_id"))
    let transport ← memberOf mediatorTransports (py "mediator transport")
      (Json.get (py "transport") fields)
    let state ← memberOf MEDIATOR_STATES (py "mediator state") (Json.get (py "state") fields)
    let projectTitle ← heartbeatText fields (py "project_title")
    let chatTitle ← heartbeatText fields (py "chat_title")
    let browser ← heartbeatText fields (py "browser")
    return ⟨fields, mediatorId, transport, state, projectTitle, chatTitle, browser⟩
  | _ => .error (brokerError (py "mediator heartbeat schema"))

/-- `INSERT INTO saas_mediator_heartbeats ... ON CONFLICT(mediator_id) DO UPDATE ...`. -/
def Broker.upsertHeartbeat (row : MediatorHeartbeat) (db : Broker) : Broker :=
  { db with
    heartbeats :=
      if db.heartbeats.any (fun other => other.mediatorId = row.mediatorId) then
        updateWhere (fun other => other.mediatorId = row.mediatorId) (fun _ => row) db.heartbeats
      else db.heartbeats ++ [row] }

def Broker.promotableRows (db : Broker) : List HandoffRequest :=
  (db.requests.filter fun row => row.status.isPromotable &&
    row.transport.getD TRANSPORT = TRANSPORT).insertionSort
      fun first second => first.before second = true

/-- `INSERT OR IGNORE INTO saas_transport_transitions ...`. -/
def Broker.insertTransition (row : TransportTransition) (db : Broker) : Broker :=
  { db with
    transitions := insertOrIgnore (fun other => other.transitionId = row.transitionId ||
      other.transitionDigest = row.transitionDigest) row db.transitions }

def adoptRow (target progressState : PyStr) (row : HandoffRequest) : HandoffRequest :=
  { row with
    transport := some target
    progressState := some progressState }

/-- The statements of `_promote_waiting_to_transport` for one row. -/
def promoteRow (stamp target reason progressState : PyStr) (row : HandoffRequest) :
    PyProg Broker PyStr := do
  let transitionDigest ← .lift (digest (.obj [
    (py "request_id", .str row.requestId.text),
    (py "from_transport", .str row.transportOr),
    (py "to_transport", .str target),
    (py "reason", .str reason),
    (py "transitioned_at", .str stamp),
    (py "authority_effect", .str (py "NONE"))]))
  update (Broker.insertTransition ⟨py "saas-transition-" ++ transitionDigest.take 32,
    row.requestId.text, row.transportOr, target, reason, stamp, transitionDigest⟩)
  update fun db =>
    { db with
      requests := updateWhere
        (fun other => other.requestId = row.requestId && other.status.isPromotable)
        (adoptRow target progressState) db.requests }
  return row.requestId.text

def promoteRows (stamp target reason progressState : PyStr) :
    List HandoffRequest → PyProg Broker (List PyStr)
  | [] => return []
  | row :: rows => do
    let requestId ← promoteRow stamp target reason progressState row
    let requestIds ← promoteRows stamp target reason progressState rows
    return requestId :: requestIds

/-- `_promote_waiting_to_transport`, for a target that is a transport of a mediator. -/
def promoteWaitingToTransport (stamp target reason progressState : PyStr) :
    PyProg Broker (List PyStr) := do
  let rows ← look Broker.promotableRows
  promoteRows stamp target reason progressState rows

def promoteWaitingToFirefox (stamp : PyStr) : PyProg Broker (List PyStr) :=
  promoteWaitingToTransport stamp FIREFOX_TRANSPORT (py "READY_FIREFOX_MEDIATOR_ADOPTION")
    (py "WAITING_BROWSER_MEDIATOR")

def promoteWaitingToSecureMcp (stamp : PyStr) : PyProg Broker (List PyStr) :=
  promoteWaitingToTransport stamp SECURE_MCP_TRANSPORT (py "READY_SECURE_MCP_MEDIATOR_ADOPTION")
    (py "WAITING_SECURE_MCP")

def promoteWaitingToSentinelxMcp (stamp : PyStr) : PyProg Broker (List PyStr) :=
  promoteWaitingToTransport stamp SENTINELX_MCP_TRANSPORT
    (py "READY_SENTINELX_MCP_MEDIATOR_ADOPTION") (py "WAITING_SENTINELX_MCP")

/-- What `record_mediator_heartbeat` returns beside the payload. -/
structure HeartbeatReply where
  payload : List (PyStr × Json)
  observedAt : PyStr
  promotedRequestIds : List PyStr

/-- The statements of `record_mediator_heartbeat`. -/
def heartbeatStatements (input : HeartbeatInput) (stamp details : PyStr) :
    PyProg Broker (List PyStr) := do
  update (Broker.upsertHeartbeat ⟨input.mediatorId, input.transport, input.state,
    input.projectTitle, input.chatTitle, input.browser, stamp, details⟩)
  if input.state = py "READY" then
    if input.transport = FIREFOX_TRANSPORT then promoteWaitingToFirefox stamp
    else if input.transport = SECURE_MCP_TRANSPORT then promoteWaitingToSecureMcp stamp
    else promoteWaitingToSentinelxMcp stamp
  else return []

def HeartbeatInput.texts (input : HeartbeatInput) : List PyStr :=
  input.mediatorId :: (input.projectTitle.toList ++ input.chatTitle.toList ++ input.browser.toList)

def recordMediatorHeartbeat (conn : Nat) (payload : Json) (stamp : PyStr) :
    SqlProg Broker HeartbeatReply := do
  let input ← .lift (checkHeartbeat payload)
  let details ← .lift (canon (.obj [(py "authority_effect", .str (py "NONE")),
    (py "transport", .str input.transport), (py "state", .str input.state)]))
  SqlProg.atomically do
    let promoted ← SqlProg.write conn input.texts (heartbeatStatements input stamp details)
    SqlProg.commit conn
    return ⟨input.fields, stamp, promoted⟩

/-! ### Requests -/

/-- The arguments of `create_request`; a scope type that is left out is the legacy call. -/
structure CreateArguments where
  missionId : Option PyStr
  question : PyStr
  ttlSeconds : Int
  scopeType : Option PyStr
  threadId : Option PyStr
  scopeId : Option PyStr
  authorityEffect : PyStr
  transport : Option PyStr
  deriving DecidableEq

structure RequestSecrets where
  requestId : Utf8Bytes
  requestCode : PyStr
  token : PyStr
  deriving DecidableEq

/-- `_public_created_request`: the columns of a row that the caller gets. -/
structure PublicRequest where
  requestId : PyStr
  requestCode : PyStr
  missionId : Option PyStr
  lpclDigest : Option PyStr
  scopeType : ScopeType
  scopeId : Option PyStr
  threadId : Option PyStr
  createdAt : PyStr
  expiresAt : PyStr
  questionDigest : PyStr
  status : RequestStatus
  progressState : Option PyStr
  retryOfRequestId : Option PyStr
  transport : PyStr
  deduplicated : Bool
  deriving DecidableEq

def publicCreatedRequest (row : HandoffRequest) (deduplicated : Bool) : PublicRequest :=
  ⟨row.requestId.text, row.requestCode, row.missionId, row.lpclDigest, row.scopeType, row.scopeId,
    row.threadId, row.createdAt, row.expiresAt, row.questionDigest, row.status, row.progressState,
    row.retryOfRequestId, row.transportOr, deduplicated⟩

def isThreadId (text : PyStr) : Bool :=
  text.length = 32 && text.all CodePoint.isLowerHex

/-- The checks at the start of `create_request`. -/
def CreateArguments.check (arguments : CreateArguments) : Except PyError Unit := do
  raiseIf (¬ (1 ≤ arguments.ttlSeconds ∧ arguments.ttlSeconds ≤ 86400))
    (brokerError (py "request deadline"))
  raiseIf (arguments.threadId.any fun threadId => !isThreadId threadId)
    (brokerError (py "thread_id"))
  raiseIf (isBlank arguments.question ∨ arguments.question.length > 8000)
    (brokerError (py "saas question"))
  raiseIf (arguments.authorityEffect ≠ py "NONE")
    (brokerError (py "broker is cognition only; authority_effect must be NONE"))

def scopeTypeOf (text : PyStr) : Except PyError ScopeType :=
  if text = py "CONTROL_PLANE" then .ok .controlPlane
  else if text = py "THREAD" then .ok .thread
  else if text = py "MISSION" then .ok .mission
  else .error (brokerError (py "scope_type"))

def CreateArguments.checkScope (arguments : CreateArguments) (scopeType : ScopeType) :
    Except PyError Unit := do
  raiseIf (scopeType = .thread ∧ arguments.threadId = none) (brokerError (py "thread_id"))
  raiseIf (scopeType = .controlPlane ∧ (arguments.missionId ≠ none ∨ arguments.threadId ≠ none))
    (brokerError (py "control-plane context"))
  raiseIf (scopeType = .mission ∧ (arguments.missionId = none ∨ arguments.missionId = some []))
    (brokerError (py "mission_id required for mission scope"))

def checkScopeMission (scopeType : ScopeType) : Option MissionRow → Except PyError Unit
  | none => .error (brokerError (py "mission context not found"))
  | some mission =>
    raiseIf (scopeType = .mission ∧ pyUpper mission.state ∈ terminalMissionStates)
      (brokerError (py "mission context terminal"))

def CreateArguments.expectedScope (arguments : CreateArguments) : ScopeType → Option PyStr
  | .thread => arguments.threadId
  | .mission => arguments.missionId
  | .controlPlane => some (py "GLOBAL_SUPERVISOR_CHANNEL")

/-- What `create_request` knows when it writes. -/
structure RequestContext where
  legacy : Bool
  missionId : Option PyStr
  lpclDigest : Option PyStr
  scopeType : ScopeType
  scopeId : Option PyStr
  threadId : Option PyStr
  question : PyStr
  questionDigest : PyStr
  transport : PyStr
  ttlSeconds : Int
  deriving DecidableEq

def RequestContext.row (context : RequestContext) (secrets : RequestSecrets)
    (stamp expires : PyStr) (retryOf : Option PyStr) : HandoffRequest where
  requestId := secrets.requestId
  missionId := context.missionId
  lpclDigest := context.lpclDigest
  requestCode := secrets.requestCode
  responseToken := secrets.token
  question := context.question
  questionDigest := context.questionDigest
  status := if context.legacy then .pending else .waitingSupervisor
  createdAt := stamp
  expiresAt := expires
  respondedAt := none
  responseText := none
  responseDigest := none
  bindingId := none
  responseMetaJson := none
  receiptDigest := none
  progressState :=
    some (if context.legacy then py "WAITING_OPERATOR" else py "WAITING_SUPERVISOR")
  deadlineElapsedAt := none
  retryOfRequestId := retryOf
  scopeType := context.scopeType
  scopeId := context.scopeId
  threadId := context.threadId
  transport := some context.transport
  claimGeneration := 0
  claimExpiresAt := none

/-- How the statements of `create_request` end: with a claim on another transport, with a
request that is kept, or with a new one. -/
inductive Handoff
  | foreign (row : HandoffRequest)
  | kept (requestId : Utf8Bytes)
  | created (requestId : Utf8Bytes)
  deriving DecidableEq

def insertStatement (context : RequestContext) (secrets : RequestSecrets)
    (stamp expires : PyStr) (retryOf : Option PyStr) : PyProg Broker Handoff := do
  attempt (Broker.insertRequest (context.row secrets stamp expires retryOf))
  return .created secrets.requestId

def insertStatements (context : RequestContext) (secrets : RequestSecrets) (stamp : PyStr)
    (retryOf : Option PyStr) : PyProg Broker Handoff := do
  let expires ← .lift (future stamp context.ttlSeconds)
  insertStatement context secrets stamp expires retryOf

/-- The statements of `create_request` for the requests on the same transport. -/
def sameTransportStatements (context : RequestContext) (secrets : RequestSecrets) (stamp : PyStr)
    (same : List HandoffRequest) (retryOf : Option PyStr) : PyProg Broker Handoff :=
  match same.getLast? with
  | none => insertStatements context secrets stamp retryOf
  | some last =>
    let live := same.filter fun row => row.status ≠ .waitingOperatorOverdue
    match (live.find? fun row => row.status = .claimed).or live.head? with
    | some canonical => do
      update (Broker.supersedeRows (py "SUPERSEDED_DUPLICATE") (same.filter fun row =>
        ! (row.requestId = canonical.requestId || row.status = .claimed)))
      return .kept canonical.requestId
    | none => do
      update (Broker.supersedeRows (py "SUPERSEDED_BY_RETRY") same)
      insertStatements context secrets stamp (some last.requestId.text)

/-- The statements of `create_request` for the active requests of its scope and question. -/
def siblingStatements (context : RequestContext) (secrets : RequestSecrets) (stamp : PyStr)
    (sameAll : List HandoffRequest) : PyProg Broker Handoff :=
  let foreign := sameAll.filter fun row => row.transportOr ≠ context.transport
  let same := sameAll.filter fun row => row.transportOr = context.transport
  match foreign.find? fun row => row.status = .claimed with
  | some row => return .foreign row
  | none =>
    match foreign.getLast? with
    | some last => do
      update (Broker.supersedeRows (py "SUPERSEDED_TRANSPORT_MIGRATION") foreign)
      sameTransportStatements context secrets stamp same (some last.requestId.text)
    | none => sameTransportStatements context secrets stamp same none

/-- The statements of `create_request` from `_expire` on. -/
def reconcileStatements (context : RequestContext) (secrets : RequestSecrets) (stamp : PyStr) :
    PyProg Broker Handoff := do
  update (Broker.expire · stamp)
  let sameAll ← look fun db =>
    db.activeRequestRows context.scopeType context.scopeId context.questionDigest
  siblingStatements context secrets stamp sameAll

/-- `SELECT * FROM saas_handoff_requests WHERE request_id=?`. -/
def selectRequest (conn : Nat) (requestId : PyStr) : SqlProg Broker (Option HandoffRequest) :=
  SqlProg.select conn [requestId] fun db => .ok (db.request requestId)

/-- `_public_created_request` of a row that a SELECT found. -/
def publicFound (found : Option HandoffRequest) (deduplicated : Bool) :
    Except PyError PublicRequest :=
  match found with
  | some row => .ok (publicCreatedRequest row deduplicated)
  | none => .error ⟨.typeError, py "'NoneType' object is not subscriptable"⟩

/-- What the call reads before it asks for the time: the scope, its id and the digest of a
legacy mission. -/
def createScope (conn : Nat) (arguments : CreateArguments) :
    SqlProg Broker (ScopeType × Option PyStr × Option PyStr) :=
  match arguments.scopeType with
  | none => do
    let mission ← SqlProg.select conn arguments.missionId.toList
      fun db => db.mission arguments.missionId
    let process ← SqlProg.select conn arguments.missionId.toList
      fun db => .ok (db.processSpec arguments.missionId)
    let mission ← .lift (missionBinding mission process)
    return (.mission, arguments.missionId, some mission.specDigest)
  | some text => do
    let scopeType ← .lift (scopeTypeOf text)
    .lift (arguments.checkScope scopeType)
    if arguments.missionId ≠ none then
      let mission ← SqlProg.select conn arguments.missionId.toList
        fun db => db.mission arguments.missionId
      .lift (checkScopeMission scopeType mission)
    let expected := arguments.expectedScope scopeType
    .lift (raiseIf (arguments.scopeId ≠ none ∧ arguments.scopeId ≠ expected)
      (brokerError (py "scope_id mismatch")))
    return (scopeType, expected, none)

def createTransport (conn : Nat) (arguments : CreateArguments) (stamp : PyStr) :
    SqlProg Broker PyStr :=
  match arguments.transport with
  | some transport => do
    .lift (raiseIf (transport ∉ mediatorTransports) (brokerError (py "explicit transport")))
    return if arguments.scopeType = none then TRANSPORT else transport
  | none =>
    if arguments.scopeType = none then pure TRANSPORT
    else SqlProg.select conn [] fun db => preferredTransport db stamp

/-- What `create_request` does before it writes. -/
def createContext (conn : Nat) (arguments : CreateArguments) (stamp : PyStr) :
    SqlProg Broker RequestContext := do
  .lift arguments.check
  let (scopeType, scopeId, lpclDigest) ← createScope conn arguments
  let question := strip arguments.question
  let questionBytes ← .lift (encodeUtf8 question)
  let transport ← createTransport conn arguments stamp
  return ⟨arguments.scopeType = none, arguments.missionId, lpclDigest, scopeType, scopeId,
    arguments.threadId, question, sha256 questionBytes, transport, arguments.ttlSeconds⟩

/-- The end of the transaction of `create_request`; a claim on another transport leaves it
open. -/
def commitHandoff (conn : Nat) : Handoff → SqlProg Broker Handoff
  | .foreign row => return .foreign row
  | .kept requestId => do
    SqlProg.commit conn
    return .kept requestId
  | .created requestId => do
    SqlProg.commit conn
    return .created requestId

/-- The transaction of `create_request`. -/
def createHandoff (conn : Nat) (context : RequestContext) (secrets : RequestSecrets)
    (stamp : PyStr) : SqlProg Broker Handoff :=
  if context.legacy then do
    let expires ← .lift (future stamp context.ttlSeconds)
    let handoff ← SqlProg.write conn [] (insertStatement context secrets stamp expires none)
    commitHandoff conn handoff
  else do
    let handoff ← SqlProg.write conn [] (reconcileStatements context secrets stamp)
    commitHandoff conn handoff

/-- What `create_request` returns. -/
def createReply (conn : Nat) : Handoff → SqlProg Broker PublicRequest
  | .foreign row => return publicCreatedRequest row true
  | .kept requestId => do
    let found ← selectRequest conn requestId.text
    .lift (publicFound found true)
  | .created requestId => do
    let found ← selectRequest conn requestId.text
    .lift (publicFound found false)

def createRequest (conn : Nat) (arguments : CreateArguments) (secrets : RequestSecrets)
    (stamp : PyStr) : SqlProg Broker PublicRequest := do
  let context ← createContext conn arguments stamp
  let handoff ← SqlProg.atomically (createHandoff conn context secrets stamp)
  createReply conn handoff

/-! ### The state of a request -/

def Broker.dualRequestId (db : Broker) (requestId : PyStr) : Option PyStr :=
  (((db.dualEvaluations.getD []).filter fun row => row.saasRequestId = requestId).insertionSort
    fun first second => second.updatedAt ≤ first.updatedAt).head?.map
      DualEvaluationRow.requestId

/-- What `request_status` and `pending_request` return of a row; the token is left out. -/
structure RequestView where
  row : HandoffRequest
  dualRequestId : Option PyStr
  deriving DecidableEq

def requestStatus (conn : Nat) (requestId stamp : PyStr) : SqlProg Broker RequestView := do
  SqlProg.atomically do
    SqlProg.write conn [] (update (Broker.expire · stamp))
    SqlProg.commit conn
  let found ← selectRequest conn requestId
  match found with
  | none => .lift (.error (brokerError (py "saas request not found")))
  | some row =>
    let dualRequestId ← SqlProg.select conn [requestId] fun db =>
      .ok (db.dualRequestId requestId)
    return ⟨row, dualRequestId⟩

/-- `SELECT * ... WHERE status='PENDING' ... ORDER BY created_at ASC LIMIT 1`. -/
def Broker.firstPending (db : Broker) (requestCode missionId : Option PyStr) :
    Option HandoffRequest :=
  ((db.requests.filter fun row => row.status = .pending &&
    requestCode.all (row.requestCode = ·) &&
    missionId.all (row.missionId = some ·)).insertionSort
      fun first second => first.createdAt ≤ second.createdAt).head?

def whenGiven : Option PyStr → Option PyStr
  | none | some [] => none
  | some text => some text

def pendingRequest (conn : Nat) (requestCode missionId : Option PyStr) (stamp : PyStr) :
    SqlProg Broker (Option RequestView) := do
  SqlProg.atomically do
    SqlProg.write conn [] (update (Broker.expire · stamp))
    SqlProg.commit conn
  let code := (whenGiven requestCode).map pyUpper
  let mission := whenGiven missionId
  let found ← SqlProg.select conn (code.toList ++ mission.toList) fun db =>
    .ok (db.firstPending code mission)
  match found with
  | none => return none
  | some row =>
    let dualRequestId ← SqlProg.select conn [row.requestId.text] fun db =>
      .ok (db.dualRequestId row.requestId.text)
    return some ⟨row, dualRequestId⟩

/-- What `cancel_request` returns; no status means `NOT_FOUND`. -/
structure CancelReply where
  requestId : PyStr
  status : Option RequestStatus
  cancelled : Bool
  deriving DecidableEq

/-- The rows that `cancel_request` selects. -/
def cancellable (requestId : PyStr) (row : HandoffRequest) : Bool :=
  row.requestId.text = requestId && row.status.isActive

def cancelRow (row : HandoffRequest) : HandoffRequest :=
  { row with
    status := .cancelled
    progressState := some (py "CANCELLED_BY_OPERATOR") }

/-- The UPDATE of `cancel_request`. -/
def Broker.cancelRows (requestId : PyStr) (db : Broker) : Broker :=
  { db with requests := updateWhere (cancellable requestId) cancelRow db.requests }

/-- The UPDATE with its `rowcount`. -/
def cancelStatement (requestId : PyStr) : PyProg Broker Nat :=
  .transact fun db => (db.cancelRows requestId, .ok (db.requests.countP (cancellable requestId)))

def cancelRequest (conn : Nat) (requestId stamp : PyStr) : SqlProg Broker CancelReply := do
  let found ← SqlProg.orRollback conn (selectRequest conn requestId)
  match found with
  | none =>
    SqlProg.commit conn
    return ⟨requestId, none, false⟩
  | some _ =>
    let changed ← SqlProg.atomically (SqlProg.orRollback conn do
      let changed ← SqlProg.write conn [requestId] (cancelStatement requestId)
      SqlProg.commit conn
      return changed)
    let result ← requestStatus conn requestId stamp
    return ⟨requestId, some result.row.status, changed ≠ 0⟩

/-! ### Claims -/

/-- What `claim` returns. -/
structure ClaimReply where
  requestId : PyStr
  question : PyStr
  questionDigest : PyStr
  responseToken : PyStr
  claimGeneration : Int
  claimExpiresAt : PyStr
  deriving DecidableEq

/-- The change of a row that `claim` makes. -/
def claimRow (token : PyStr) (generation : Int) (expires : PyStr) (row : HandoffRequest) :
    HandoffRequest :=
  { row with
    status := .claimed
    progressState := some (py "CLAIMED")
    responseToken := token
    claimGeneration := generation
    claimExpiresAt := some expires }

/-- The statements of `claim` between its BEGIN and its commit. -/
def claimStatements (requestId stamp : PyStr) (leaseSeconds : Int) (token : PyStr) :
    PyProg Broker ClaimReply := do
  update (Broker.expire · stamp)
  .lift (bindTexts [requestId])
  let found ← look fun db => db.request requestId
  match found with
  | none => .lift (.error (brokerError (py "request not claimable")))
  | some row =>
    .lift (raiseIf (row.status.isClaimable = false)
      (brokerError (py "request not claimable")))
    let generation := row.claimGeneration + 1
    let expires ← .lift (future stamp leaseSeconds)
    update fun db =>
      { db with
        requests := updateWhere (fun other => other.requestId.text = requestId)
          (claimRow token generation expires) db.requests }
    return ⟨requestId, row.question, row.questionDigest, token, generation, expires⟩

def claim (conn : Nat) (requestId stamp : PyStr) (leaseSeconds : Int) (token : PyStr) :
    SqlProg Broker ClaimReply := do
  .lift (raiseIf (¬ (1 ≤ leaseSeconds ∧ leaseSeconds ≤ 300)) (brokerError (py "claim lease")))
  SqlProg.atomically do
    SqlProg.beginImmediate conn
    SqlProg.orRollback conn do
      let reply ← SqlProg.write conn [] (claimStatements requestId stamp leaseSeconds token)
      SqlProg.commit conn
      return reply

/-! ### Answers -/

/-- The arguments of `respond`. -/
structure RespondArguments where
  requestId : PyStr
  responseToken : PyStr
  answer : PyStr
  modelIdentity : PyStr
  transport : PyStr
  attestationClass : PyStr
  leaseSeconds : Int
  claimGeneration : Option Int
  deriving DecidableEq

/-- The checks of `_respond_locked` before its BEGIN. -/
def RespondArguments.check (arguments : RespondArguments) : Except PyError Unit := do
  raiseIf (¬ (1 ≤ arguments.leaseSeconds ∧ arguments.leaseSeconds ≤ 86400))
    (brokerError (py "session lease"))
  raiseIf (isBlank arguments.answer ∨ arguments.answer.length > 24000)
    (brokerError (py "saas answer"))
  raiseIf (isBlank arguments.modelIdentity ∨ arguments.modelIdentity.length > 120)
    (brokerError (py "model identity"))

def checkAnswerable (arguments : RespondArguments) (row : HandoffRequest) :
    Except PyError Unit := do
  raiseIf (row.status ≠ .pending ∧ row.status ≠ .claimed)
    (brokerError (py "saas request not pending"))
  raiseIf (row.status = .claimed ∧ arguments.claimGeneration ≠ some row.claimGeneration)
    (brokerError (py "stale claim generation"))
  let same ← compareDigest arguments.responseToken row.responseToken
  raiseIf (same = false) (brokerError (py "saas response token"))

def checkLegacyMission (db : Broker) (row : HandoffRequest) : Except PyError Unit :=
  match row.lpclDigest with
  | none | some [] => .ok ()
  | some lpclDigest => do
    let mission ← db.mission row.missionId
    let mission ← missionBinding mission (db.processSpec row.missionId)
    raiseIf (mission.specDigest ≠ lpclDigest) (brokerError (py "saas lpcl digest drift"))

def textOrNull : Option PyStr → Json
  | none => .null
  | some text => .str text

/-- What an answer is made of: the request, the texts that are stored and the binding. -/
structure AnswerContext where
  row : HandoffRequest
  answer : PyStr
  answerDigest : PyStr
  modelIdentity : PyStr
  transport : PyStr
  attestationClass : PyStr
  bindingId : PyStr
  stamp : PyStr
  expires : PyStr

namespace AnswerContext

variable (context : AnswerContext)

def supervisorRole : PyStr :=
  if context.transport = FIREFOX_TRANSPORT then py "CHATGPT_FIREFOX_PROJECT_MEDIATOR"
  else py "CHATGPT_SAAS_SUPERVISOR"

def attestation : Json :=
  .obj [
    (py "binding_id", .str context.bindingId),
    (py "mission_id", textOrNull context.row.missionId),
    (py "lpcl_digest", textOrNull context.row.lpclDigest),
    (py "supervisor_role", .str context.supervisorRole),
    (py "model_identity", .str context.modelIdentity),
    (py "transport", .str context.transport),
    (py "attestation_class", .str context.attestationClass),
    (py "authority_effect", .str (py "NONE")),
    (py "request_id", .str context.row.requestId.text),
    (py "question_digest", .str context.row.questionDigest),
    (py "response_digest", .str context.answerDigest),
    (py "bound_at", .str context.stamp),
    (py "expires_at", .str context.expires),
    (py "cryptographic_provider_attestation", .bool false),
    (py "binding_scope", .str (py "GLOBAL_SUPERVISOR_CHANNEL"))]

/-- `meta`. -/
def responseMeta : Json :=
  .obj [
    (py "model_identity", .str context.modelIdentity),
    (py "transport", .str context.transport),
    (py "attestation_class", .str context.attestationClass),
    (py "authority_effect", .str (py "NONE")),
    (py "binding_scope", .str (py "GLOBAL_SUPERVISOR_CHANNEL"))]

def receipt (attestationDigest : PyStr) : Json :=
  .obj [
    (py "request_id", .str context.row.requestId.text),
    (py "request_code", .str context.row.requestCode),
    (py "scope_type", .str context.row.scopeType.text),
    (py "scope_id", textOrNull context.row.scopeId),
    (py "thread_id", textOrNull context.row.threadId),
    (py "model_identity", .str context.modelIdentity),
    (py "transport", .str context.transport),
    (py "mission_id", textOrNull context.row.missionId),
    (py "lpcl_digest", textOrNull context.row.lpclDigest),
    (py "question_digest", .str context.row.questionDigest),
    (py "response_digest", .str context.answerDigest),
    (py "binding_id", .str context.bindingId),
    (py "attestation_digest", .str attestationDigest),
    (py "responded_at", .str context.stamp),
    (py "authority_effect", .str (py "NONE"))]

def binding (attestationJson attestationDigest : PyStr) : SessionBinding where
  bindingId := context.bindingId
  missionId := context.row.missionId
  lpclDigest := context.row.lpclDigest
  supervisorRole := context.supervisorRole
  modelIdentity := context.modelIdentity
  transport := context.transport
  attestationClass := context.attestationClass
  status := .bound
  createdAt := context.stamp
  boundAt := context.stamp
  expiresAt := context.expires
  lastRequestId := some context.row.requestId.text
  attestationJson := attestationJson
  attestationDigest := attestationDigest
  bindingScope := .globalSupervisorChannel

def answerRow (metaJson receiptDigest : PyStr) (row : HandoffRequest) : HandoffRequest :=
  { row with
    status := .responded
    progressState := some (py "RECEIPT_BOUND")
    respondedAt := some context.stamp
    responseText := some context.answer
    responseDigest := some context.answerDigest
    bindingId := some context.bindingId
    responseMetaJson := some metaJson
    receiptDigest := some receiptDigest }

end AnswerContext

/-- What `respond` returns. -/
structure RespondReply where
  answer : PyStr
  attestation : Json
  receipt : Json
  receiptDigest : PyStr

/-- The statements of `_respond_locked` that store an answer. -/
def answerStatements (context : AnswerContext) : PyProg Broker RespondReply := do
  let attestationDigest ← .lift (digest context.attestation)
  update fun db =>
    { db with
      bindings := updateWhere
        (fun binding => binding.status = .bound &&
          (binding.bindingScope = .globalSupervisorChannel ||
            binding.missionId.isSome && binding.missionId = context.row.missionId))
        (fun binding => { binding with status := .superseded }) db.bindings }
  let attestationJson ← .lift (canon context.attestation)
  attempt (Broker.insertBinding (context.binding attestationJson attestationDigest))
  let receiptDigest ← .lift (digest (context.receipt attestationDigest))
  let receiptJson ← .lift (canon (context.receipt attestationDigest))
  attempt (Broker.insertReceipt
    ⟨context.row.requestId.text, receiptDigest, receiptJson, context.stamp⟩)
  let metaJson ← .lift (canon context.responseMeta)
  update fun db =>
    { db with
      requests := updateWhere (fun row => row.requestId = context.row.requestId)
        (context.answerRow metaJson receiptDigest) db.requests }
  return ⟨context.answer, context.attestation, context.receipt attestationDigest, receiptDigest⟩

/-- The statements of `_respond_locked` between its BEGIN and its commit. -/
def respondStatements (arguments : RespondArguments) (stamp bindingHex : PyStr) :
    PyProg Broker RespondReply := do
  update (Broker.expire · stamp)
  .lift (bindTexts [arguments.requestId])
  let found ← look fun db => db.request arguments.requestId
  match found with
  | none => .lift (.error (brokerError (py "saas request not found")))
  | some row =>
    .lift (checkAnswerable arguments row)
    .read fun db => checkLegacyMission db row
    let expected ← .lift (attestationForTransport row.transportOr)
    .lift (raiseIf (arguments.transport ≠ row.transportOr ∨ arguments.attestationClass ≠ expected)
      (brokerError (py "request transport/attestation")))
    let answer := strip arguments.answer
    let answerBytes ← .lift (encodeUtf8 answer)
    let expires ← .lift (future stamp arguments.leaseSeconds)
    answerStatements ⟨row, answer, sha256 answerBytes, strip arguments.modelIdentity,
      arguments.transport, arguments.attestationClass, py "saas-binding-" ++ bindingHex, stamp,
      expires⟩

def respond (conn : Nat) (arguments : RespondArguments) (stamp bindingHex : PyStr) :
    SqlProg Broker RespondReply :=
  SqlProg.atomically (SqlProg.orRollback conn do
    .lift arguments.check
    SqlProg.beginImmediate conn
    let reply ← SqlProg.write conn [] (respondStatements arguments stamp bindingHex)
    SqlProg.commit conn
    return reply)

/-! ### The bridge -/

/-- What `bridge_status` reads. -/
structure BridgeStatus where
  missionId : Option PyStr
  binding : Option SessionBinding
  lastBinding : Option SessionBinding
  pending : Option HandoffRequest
  pendingCount : Nat
  pendingDualRequestId : Option PyStr
  lastResponse : Option HandoffRequest
  mediator : Option CurrentMediator
  deriving DecidableEq

namespace Broker

variable (db : Broker) (missionId : Option PyStr)

def latestBinding (selected : SessionBinding → Bool) : Option SessionBinding :=
  ((db.bindings.filter selected).insertionSort
    fun first second => second.boundAt ≤ first.boundAt).head?

/-- `? IS NULL OR mission_id=?`. -/
def ofMission (row : HandoffRequest) : Bool :=
  missionId.isNone || row.missionId = missionId

def pendingRows : List HandoffRequest :=
  db.requests.filter fun row => ofMission missionId row &&
    row.status ∈ [RequestStatus.pending, .waitingSupervisor, .waitingOperatorOverdue, .claimed]

/-- What `bridge_status` reads, but for the mediator. -/
def bridgeStatus (mediator : Option CurrentMediator) : BridgeStatus :=
  let global := fun row : SessionBinding => row.bindingScope = .globalSupervisorChannel
  let named := fun row : SessionBinding => missionId.isSome && row.missionId = missionId
  let binding := (db.latestBinding fun row => global row && row.status = .bound).or
    (db.latestBinding fun row => named row && row.status = .bound)
  let pending := ((db.pendingRows missionId).insertionSort
    fun first second => first.createdAt ≤ second.createdAt).head?
  { missionId := missionId
    binding := binding
    lastBinding := if binding.isSome then none
      else db.latestBinding fun row => global row || named row
    pending := pending
    pendingCount := (db.pendingRows missionId).length
    pendingDualRequestId := pending.bind fun row => db.dualRequestId row.requestId.text
    lastResponse := ((db.requests.filter fun row =>
      ofMission missionId row && row.status = .responded).insertionSort
        fun first second => second.respondedAt.getD [] ≤ first.respondedAt.getD []).head?
    mediator := mediator }

end Broker

/-- `bridge_status`.  `project` is `supervisor_projection`, and the rest of what is returned
follows from what is read. -/
def bridgeStatus {α : Type} (project : BridgeStatus → Except PyError α) (conn : Nat)
    (missionId : Option PyStr) (stamp : PyStr) : SqlProg Broker (BridgeStatus × α) := do
  SqlProg.atomically do
    SqlProg.write conn [] (update (Broker.expire · stamp))
    SqlProg.commit conn
  let status ← SqlProg.select conn missionId.toList fun db => do
    let mediator ← currentMediator db stamp
    return db.bridgeStatus missionId mediator
  let projection ← .lift (project status)
  return (status, projection)

end SaasBroker

end CyberLion
