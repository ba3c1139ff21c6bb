import CyberLion.PersistentAuthorityState
import CyberLion.ProcessIR
import CyberLion.SqlTable

/-!
# Model calls

`mission_control/model_calls.py`: the durable intent of a model call, and the transitions of
its state.  Each call of the module is a sequence of statements on its own connection.
-/

namespace CyberLion

namespace ModelCalls

open PyLib ProcessIR

/-- `STATES`. -/
inductive CallState
  | intentDurable
  | sendAttempt
  | sendUnknown
  | sendConfirmed
  | responseReconciled
  | failed
  | cancelled
  deriving DecidableEq

def callStates : List (CallState × PyStr) :=
  [(.intentDurable, py "INTENT_DURABLE"), (.sendAttempt, py "SEND_ATTEMPT"),
    (.sendUnknown, py "SEND_UNKNOWN"), (.sendConfirmed, py "SEND_CONFIRMED"),
    (.responseReconciled, py "RESPONSE_RECONCILED"), (.failed, py "FAILED"),
    (.cancelled, py "CANCELLED")]

def transitions : CallState → List CallState
  | .intentDurable => [.sendAttempt, .cancelled]
  | .sendAttempt => [.sendUnknown, .sendConfirmed, .failed]
  | .sendUnknown => [.sendConfirmed, .failed, .cancelled]
  | .sendConfirmed => [.responseReconciled, .failed]
  | .responseReconciled | .failed | .cancelled => []

def CallState.isFinal : CallState → Bool
  | .responseReconciled | .failed | .cancelled => true
  | .intentDurable | .sendAttempt | .sendUnknown | .sendConfirmed => false

def transports : List PyStr :=
  [py "LOCAL", py "CHATGPT_OPENAI_SECURE_MCP_TUNNEL", py "CHATGPT_FIREFOX_PROJECT_MEDIATED"]

/-- The normalized intent.  Its authority effect is the constant `NONE`. -/
structure Intent where
  modelCallId : PyStr
  missionId : PyStr
  phaseId : PyStr
  taskId : PyStr
  assignmentId : PyStr
  logicalDroneId : PyStr
  materialWorkerId : PyStr
  requestedCapability : PyStr
  provider : PyStr
  modelRequested : Option PyStr
  modelDeclared : Option PyStr
  modelAttested : Option PyStr
  transport : PyStr
  selectionReason : PyStr
  candidateSetDigest : PyStr
  contextRevision : Int
  inputDigest : Option PyStr
  downstreamConsumer : Option PyStr
  deriving DecidableEq

/-- A row of `mission_model_calls`. -/
structure ModelCall extends Intent where
  state : CallState
  resultDigest : Option PyStr
  createdAt : PyStr
  startedAt : Option PyStr
  finishedAt : Option PyStr
  updatedAt : PyStr
  intentDigest : PyStr
  deriving DecidableEq

/-- `ValueError(message)`. -/
def callError (message : PyStr) : PyError :=
  ⟨.valueError, message⟩

/-! ### Arguments -/

/-- `_text`, of a value that may be left out. -/
def optionalText (value : Json) (name : PyStr) (limit : Nat) : Except PyError (Option PyStr) :=
  match value with
  | .null => .ok none
  | .str text => do
    raiseIf (text = [] ∨ text.length > limit) (callError name)
    return some text
  | _ => .error (callError name)

/-- `_text`. -/
def requiredText (value : Json) (name : PyStr) (limit : Nat) : Except PyError PyStr := do
  match ← optionalText value name limit with
  | some text => return text
  | none => .error (callError name)

/-- `ID_RE`. -/
def isCallId : PyStr → Bool
  | [] => false
  | first :: rest => (first.isAsciiLetter || first.isAsciiDigit) && rest.length ≤ 191 &&
      rest.all fun c => c.isAsciiLetter || c.isAsciiDigit || c ∈ py "._:-"

/-- `_id`. -/
def callId (value : Json) (name : PyStr) : Except PyError PyStr := do
  let text ← requiredText value name 192
  raiseIf (isCallId text = false) (callError name)
  return text

/-- `_hex64`, of a value that may be left out. -/
def optionalHex64 (value : Json) (name : PyStr) : Except PyError (Option PyStr) :=
  match value with
  | .null => .ok none
  | .str text => do
    raiseIf (isSha256 text = false) (callError name)
    return some text
  | _ => .error (callError name)

def hex64 (value : Json) (name : PyStr) : Except PyError PyStr := do
  match ← optionalHex64 value name with
  | some text => return text
  | none => .error (callError name)

/-- `type(payload) is not dict or set(payload) != required`. -/
def exactPayload (payload : Json) (required : List PyStr) (name : PyStr) :
    Except PyError (List (PyStr × Json)) :=
  match payload with
  | .obj fields => do
    let keys := fields.map Prod.fst
    raiseIf (¬ (keys ⊆ required ∧ required ⊆ keys)) (callError name)
    return fields
  | _ => .error (callError name)

/-- `payload["authority_effect"] != "NONE"`. -/
def checkAuthority (fields : List (PyStr × Json)) : Except PyError Unit := do
  match ← item fields (py "authority_effect") with
  | .str text => raiseIf (text ≠ py "NONE") (callError (py "model call authority"))
  | _ => .error (callError (py "model call authority"))

def contextRevisionOf (value : Json) : Except PyError Int := do
  let revision ← integer value (callError (py "context revision"))
  raiseIf (revision < 0) (callError (py "context revision"))
  return revision

def intentFields : List PyStr :=
  [py "model_call_id", py "mission_id", py "phase_id", py "task_id", py "assignment_id",
    py "logical_drone_id", py "material_worker_id", py "requested_capability", py "provider",
    py "model_requested", py "model_declared", py "model_attested", py "transport",
    py "selection_reason", py "candidate_set_digest", py "context_revision", py "input_digest",
    py "downstream_consumer", py "authority_effect"]

/-- `normalized`. -/
def normalize (payload : Json) : Except PyError Intent := do
  let fields ← exactPayload payload intentFields (py "model call intent schema")
  checkAuthority fields
  let transport ← member (transports.map fun text => (text, text))
    (← item fields (py "transport")) (callError (py "model call transport"))
  let contextRevision ← contextRevisionOf (← item fields (py "context_revision"))
  let id := fun name => do callId (← item fields name) name
  let optional := fun name => do optionalText (← item fields name) name 256
  let modelCallId ← id (py "model_call_id")
  let missionId ← id (py "mission_id")
  let phaseId ← id (py "phase_id")
  let taskId ← id (py "task_id")
  let assignmentId ← id (py "assignment_id")
  let logicalDroneId ← id (py "logical_drone_id")
  let materialWorkerId ← id (py "material_worker_id")
  let requestedCapability ← requiredText (← item fields (py "requested_capability"))
    (py "requested_capability") 256
  let provider ← requiredText (← item fields (py "provider")) (py "provider") 256
  let modelRequested ← optional (py "model_requested")
  let modelDeclared ← optional (py "model_declared")
  let modelAttested ← optional (py "model_attested")
  let selectionReason ← requiredText (← item fields (py "selection_reason"))
    (py "selection_reason") 1024
  let candidateSetDigest ← hex64 (← item fields (py "candidate_set_digest"))
    (py "candidate_set_digest")
  let inputDigest ← optionalHex64 (← item fields (py "input_digest")) (py "input_digest")
  let downstreamConsumer ← optional (py "downstream_consumer")
  return {
    modelCallId, missionId, phaseId, taskId, assignmentId, logicalDroneId, materialWorkerId
    requestedCapability, provider, modelRequested, modelDeclared, modelAttested, transport
    selectionReason, candidateSetDigest, contextRevision, inputDigest, downstreamConsumer }

/-- A column that may be `None`. -/
def textOrNull : Option PyStr → Json
  | some text => .str text
  | none => .null

/-- The dictionary `normalized`. -/
def Intent.asDict (intent : Intent) : Json :=
  .obj [(py "model_call_id", .str intent.modelCallId),
    (py "mission_id", .str intent.missionId), (py "phase_id", .str intent.phaseId),
    (py "task_id", .str intent.taskId), (py "assignment_id", .str intent.assignmentId),
    (py "logical_drone_id", .str intent.logicalDroneId),
    (py "material_worker_id", .str intent.materialWorkerId),
    (py "requested_capability", .str intent.requestedCapability),
    (py "provider", .str intent.provider),
    (py "model_requested", textOrNull intent.modelRequested),
    (py "model_declared", textOrNull intent.modelDeclared),
    (py "model_attested", textOrNull intent.modelAttested),
    (py "transport", .str intent.transport),
    (py "selection_reason", .str intent.selectionReason),
    (py "candidate_set_digest", .str intent.candidateSetDigest),
    (py "context_revision", .int intent.contextRevision),
    (py "input_digest", textOrNull intent.inputDigest),
    (py "downstream_consumer", textOrNull intent.downstreamConsumer),
    (py "authority_effect", .str (py "NONE"))]

/-- `digest(normalized)`. -/
def Intent.digest (intent : Intent) : Except PyError PyStr := do
  let text ← Json.dumps false true intent.asDict
  let bytes ← encodeUtf8 text
  return sha256 bytes

/-- The payload of a transition.  Its texts are read after the row. -/
structure TransitionRequest where
  modelCallId : PyStr
  target : CallState
  resultDigest : Json
  modelDeclared : Json
  modelAttested : Json
  downstreamConsumer : Json

def transitionPayloadFields : List PyStr :=
  [py "state", py "result_digest", py "model_declared", py "model_attested",
    py "downstream_consumer", py "authority_effect"]

/-- The checks of `transition` before its first statement. -/
def transitionRequest (modelCallId payload : Json) : Except PyError TransitionRequest := do
  let modelCallId ← callId modelCallId (py "model_call_id")
  let fields ← exactPayload payload transitionPayloadFields (py "model call transition schema")
  checkAuthority fields
  let target ← member callStates (← item fields (py "state"))
    (callError (py "model call state"))
  let resultDigest ← item fields (py "result_digest")
  let modelDeclared ← item fields (py "model_declared")
  let modelAttested ← item fields (py "model_attested")
  let downstreamConsumer ← item fields (py "downstream_consumer")
  return ⟨modelCallId, target, resultDigest, modelDeclared, modelAttested, downstreamConsumer⟩

/-! ### Statements -/

/-- `SELECT * ... WHERE model_call_id=?`. -/
def callOf (modelCallId : PyStr) (calls : List ModelCall) : Option ModelCall :=
  calls.find? fun row => row.modelCallId = modelCallId

def Intent.row (intent : Intent) (digest stamp : PyStr) : ModelCall :=
  { intent with
    state := .intentDurable
    resultDigest := none
    createdAt := stamp
    startedAt := none
    finishedAt := none
    updatedAt := stamp
    intentDigest := digest }

/-- `INSERT INTO mission_model_calls`.  The texts of the intent were encoded for its digest. -/
def insertCall (row : ModelCall) (calls : List ModelCall) : Except PyError (List ModelCall) := do
  bindInt row.contextRevision
  bindText row.createdAt
  insertRow ⟨.integrityError, py "UNIQUE constraint failed: mission_model_calls.model_call_id"⟩
    (fun other => other.modelCallId = row.modelCallId) row calls

structure CallUpdate where
  modelCallId : PyStr
  target : CallState
  resultDigest : Option PyStr
  modelDeclared : Option PyStr
  modelAttested : Option PyStr
  downstreamConsumer : Option PyStr
  startedAt : Option PyStr
  finishedAt : Option PyStr
  updatedAt : PyStr

/-- `SET state=?, result_digest=COALESCE(?, result_digest), ...`. -/
def CallUpdate.apply (update : CallUpdate) (row : ModelCall) : ModelCall :=
  { row with
    state := update.target
    resultDigest := update.resultDigest <|> row.resultDigest
    modelDeclared := update.modelDeclared <|> row.modelDeclared
    modelAttested := update.modelAttested <|> row.modelAttested
    downstreamConsumer := update.downstreamConsumer <|> row.downstreamConsumer
    startedAt := update.startedAt
    finishedAt := update.finishedAt
    updatedAt := update.updatedAt }

def updateCall (update : CallUpdate) (calls : List ModelCall) : List ModelCall :=
  updateWhere (fun row => row.modelCallId = update.modelCallId) update.apply calls

/-- What `transition` makes of the row that it read, up to the parameters of its update. -/
def updateOf (request : TransitionRequest) (row : ModelCall) (stamp : PyStr) :
    Except PyError CallUpdate := do
  raiseIf (request.target ∉ transitions row.state) (callError (py "model call transition"))
  let resultDigest ← optionalHex64 request.resultDigest (py "result_digest")
  let modelDeclared ← optionalText request.modelDeclared (py "model_declared") 256
  let modelAttested ← optionalText request.modelAttested (py "model_attested") 256
  let downstreamConsumer ← optionalText request.downstreamConsumer (py "downstream_consumer") 256
  -- the driver encodes the parameters before the statement runs
  forM (modelDeclared.toList ++ modelAttested.toList ++ downstreamConsumer.toList ++ [stamp])
    bindText
  return {
    modelCallId := request.modelCallId
    target := request.target
    startedAt := if request.target = .sendAttempt ∧ row.startedAt = none then some stamp
      else row.startedAt
    finishedAt := if request.target.isFinal then some stamp else row.finishedAt
    updatedAt := stamp
    resultDigest, modelDeclared, modelAttested, downstreamConsumer }

/-! ### Connections -/

/-- What a call has left to do: each constructor but the last is one statement. -/
inductive Worker
  /-- `SELECT intent_digest` of `create_intent`. -/
  | lookUp (intent : Intent) (digest stamp : PyStr)
  /-- `INSERT` and its commit. -/
  | insert (intent : Intent) (digest stamp : PyStr)
  /-- `SELECT *` of `transition`. -/
  | inspect (request : TransitionRequest) (stamp : PyStr)
  /-- `UPDATE` and its commit. -/
  | update (change : CallUpdate)
  /-- The last `SELECT *`. -/
  | readBack (modelCallId : PyStr)
  | done (result : Except PyError ModelCall)

/-- `dict(row)`. -/
def dictOfRow : Option ModelCall → Except PyError ModelCall
  | some row => .ok row
  | none => .error ⟨.typeError, py "'NoneType' object is not iterable"⟩

def move (calls : List ModelCall) : Worker → List ModelCall × Worker
  | .lookUp intent digest stamp =>
    match callOf intent.modelCallId calls with
    | some row =>
      if row.intentDigest = digest then (calls, .readBack intent.modelCallId)
      else (calls, .done (.error (callError (py "model call idempotency conflict"))))
    | none => (calls, .insert intent digest stamp)
  | .insert intent digest stamp =>
    match insertCall (intent.row digest stamp) calls with
    | .ok after => (after, .readBack intent.modelCallId)
    | .error error => (calls, .done (.error error))
  | .inspect request stamp =>
    match callOf request.modelCallId calls with
    | none => (calls, .done (.error (callError (py "model call not found"))))
    | some row =>
      if request.target = row.state then (calls, .done (.ok row))
      else match updateOf request row stamp with
        | .ok change => (calls, .update change)
        | .error error => (calls, .done (.error error))
  | .update change => (updateCall change calls, .readBack change.modelCallId)
  | .readBack modelCallId => (calls, .done (dictOfRow (callOf modelCallId calls)))
  | .done result => (calls, .done result)

inductive Call
  | createIntent (payload : Json) (stamp : PyStr)
  | transition (modelCallId payload : Json) (stamp : PyStr)

/-- `create_intent`, up to its first statement. -/
def createIntent (payload : Json) (stamp : PyStr) : Except PyError Worker := do
  let intent ← normalize payload
  let digest ← intent.digest
  return .lookUp intent digest stamp

def Call.start : Call → Worker
  | .createIntent payload stamp =>
    match ModelCalls.createIntent payload stamp with
    | .ok worker => worker
    | .error error => .done (.error error)
  | .transition modelCallId payload stamp =>
    match transitionRequest modelCallId payload with
    | .ok request => .inspect request stamp
    | .error error => .done (.error error)

end ModelCalls

end CyberLion
