import CyberLion.OperatorMessages

/-!
# Applying the result of an assignment

`note_assignment_application` of `mission_control/operator_control.py`.  The
worker's result names the messages that it answers.  A fan-out assignment
answers through the trajectories, with a local response or with the local leg of
a dual one; any other assignment applies the deliveries directly.
-/

namespace CyberLion

namespace OperatorControl

open PyLib

/-- What the loop over the named messages knows of the assignment and its
result. -/
structure Application where
  assignmentId : PyStr
  missionId : PyStr
  participant : PyStr
  modelCallId : Json
  responseDigest : Json
  response : Json

structure Progress where
  db : OperatorDb
  applied : Nat
  partially : Nat
  responses : List PyStr

def Progress.count (progress : Progress) (state : MessageState) : Progress :=
  { progress with
    applied := progress.applied + if state = .applied then 1 else 0
    partially := progress.partially + if state = .partially then 1 else 0 }

namespace Application

variable (application : Application)

def workerChanges (state : TrajectoryState) (modelCallId responseDigest : Option PyStr) :
    TrajectoryChanges :=
  { state := some state
    localAssignmentId := some (some application.assignmentId)
    localModelCallId := some modelCallId
    resultDigest := some responseDigest }

def noteAnswer (db : OperatorDb) (messageId : PyStr) (state : TrajectoryState) (now : PyStr) :
    Except PyError OperatorDb := do
  let _ ← encodeUtf8 messageId
  let _ ← encodeUtf8 application.participant
  let modelCallId ← columnText application.modelCallId
  let responseDigest ← columnText application.responseDigest
  protocolTrajectoryUpdate db messageId application.participant now
    (application.workerChanges state modelCallId responseDigest)

/-- A message under the route `DUAL`: the local leg is recorded. -/
def dualStep (inputs : CallInputs) (progress : Progress) (messageId : PyStr) :
    Except PyError Progress := do
  let db ← application.noteAnswer progress.db messageId .dualLocalResponseReady (inputs.now 0)
  return { progress with db := db }

def fanoutStep (inputs : CallInputs) (progress : Progress) (messageId : PyStr) :
    Except PyError Progress :=
  match responseText application.response with
  | none => .ok progress
  | some _ => do
    let db ← application.noteAnswer progress.db messageId .localResponseReady (inputs.now 0)
    let (db, recorded) ← recordProtocolModelResponse db messageId application.participant
      application.response application.responseDigest application.modelCallId (inputs.skip 1)
    return { progress with
      db := db
      responses := progress.responses ++ [recorded.responseMessageId] }.count
        recorded.counts.state

def delivered (stamp : PyStr) (row : DeliveryRow) : DeliveryRow :=
  { row with
    deliveryState := .applied
    deliveredAt := row.deliveredAt <|> some stamp
    appliedAt := some stamp
    appliedAssignmentId := some application.assignmentId }

def stateAfter (states : List DeliveryState) : MessageState :=
  if states.count .applied = states.length then .applied else .partially

def settled (stamp : PyStr) (state : MessageState) (row : MessageRow) : MessageRow :=
  { row with
    state := state
    appliedAt := if state = .applied then some stamp else row.appliedAt
    appliedAssignmentId :=
      if state = .applied then some application.assignmentId else row.appliedAssignmentId }

/-- The state of a message that has deliveries, after an application. -/
def settle (stamp : PyStr) (progress : Progress) (messageId : PyStr) : Progress :=
  let states := deliveryStates progress.db messageId
  if states = [] then progress
  else
    let state := stateAfter states
    { progress with
      db := { progress.db with
        messages := updateWhere (fun row => row.messageId = messageId)
          (application.settled stamp state) progress.db.messages } }.count state

def reply (stamp text : PyStr) (progress : Progress) (messageId : PyStr) :
    Except PyError Progress := do
  let replyId ← shortId (py "opreply-")
    (.obj [(py "assignment_id", .str application.assignmentId),
      (py "message_id", .str messageId), (py "participant", .str application.participant),
      (py "response", .str text)])
  let original := findMessage progress.db messageId
  let contentDigest ← digest (.str (strip text))
  let row : MessageRow := ⟨replyId, application.missionId,
    py "assignment:" ++ application.assignmentId, application.participant, primaryParticipant,
    py "RESPONSE", strip text, contentDigest,
    (original.map MessageRow.contextRevision).getD 0,
    (original.map MessageRow.planRevision).getD 0, .delivered, stamp, some stamp,
    some application.assignmentId, original.bind MessageRow.correlationId, some messageId, none,
    none⟩
  return { progress with
    db := { progress.db with
      messages := insertOrIgnore (fun other => other.messageId = replyId) row
        progress.db.messages }
    responses := progress.responses ++ [replyId] }

def replyIf (stamp : PyStr) (isMatched : Bool) (progress : Progress) (messageId : PyStr) :
    Except PyError Progress :=
  match responseText application.response with
  | none => .ok progress
  | some text =>
    if isMatched then application.reply stamp text progress messageId else .ok progress

def isOpen (db : OperatorDb) (messageId : PyStr) : Bool :=
  db.deliveries.any fun row => row.messageId = messageId &&
    row.recipient = application.participant && row.deliveryState ≠ .applied

def legacyStep (stamp : PyStr) (progress : Progress) (messageId : PyStr) :
    Except PyError Progress := do
  let _ ← encodeUtf8 messageId
  let _ ← encodeUtf8 application.participant
  let db := updateDeliveries progress.db messageId application.participant
    (fun state => state ≠ .applied) (application.delivered stamp)
  application.replyIf stamp (application.isOpen progress.db messageId)
    (application.settle stamp { progress with db := db } messageId) messageId

end Application

def applyMessages (step : CallInputs → Progress → PyStr → Except PyError Progress) :
    List PyStr → CallInputs → Progress → Except PyError Progress
  | [], _, progress => .ok progress
  | messageId :: later, inputs, progress => do
    let progress ← step inputs progress messageId
    applyMessages step later (inputs.skip 4) progress

/-- What `note_assignment_application` returns. -/
structure ApplicationOutcome where
  participant : PyStr
  applied : Nat
  partially : Nat
  responses : List PyStr
  dualLocalLegRecorded : Bool

def findAssignment (db : OperatorDb) (assignmentId : PyStr) : Option AssignmentRow :=
  db.assignments.find? fun row => row.assignmentId = assignmentId

/-- `json.loads(row['input_json'] or '{}')`, whose `get` needs a dictionary. -/
def AssignmentRow.inputFields (row : AssignmentRow) : Except PyError (List (PyStr × Json)) :=
  match row.input with
  | none => .ok []
  | some (.obj fields) => .ok fields
  | some _ => .error ⟨.declared .exception (py "AttributeError"), py "object has no attribute 'get'"⟩

def namedMessages (result : List (PyStr × Json)) : List PyStr :=
  match Json.get (py "operator_message_ids") result with
  | .arr items => if items.all fun item => item.asText.isSome then items.filterMap Json.asText
      else []
  | _ => []

def isFanout (input : List (PyStr × Json)) : Bool :=
  (Json.get (py "purpose") input).asText = some (py "PROTOCOL_FANOUT_R1")

/-- The cognition route of the assignment is `DUAL`. -/
def isDual (input : List (PyStr × Json)) : Bool :=
  pyUpper (Json.pyOr (Json.get (py "cognition_route") input) (.str (py "LOCAL"))).pyStr =
    py "DUAL"

def isParticipant (text : PyStr) : Bool :=
  (py "drone:").isPrefixOf text || (py "worker:").isPrefixOf text

def AssignmentRow.participant (row : AssignmentRow) : PyStr :=
  if row.materialDroneId ≠ [] then py "worker:" ++ row.materialDroneId
  else py "drone:" ++ row.logicalDroneId

def respondingParticipant (row : AssignmentRow) (input result : List (PyStr × Json)) :
    Except PyError PyStr :=
  match Json.pyOr (Json.get (py "responding_participant_id") result)
      (Json.get (py "responding_participant_id") input) with
  | .null =>
    if isFanout input then
      .error (valueError (py "protocol fanout responding participant missing"))
    else .ok row.participant
  | .str text =>
    if isParticipant text then .ok text
    else .error (valueError (py "responding participant identity"))
  | _ => .error (valueError (py "responding participant identity"))

def checkFanoutParticipant (input : List (PyStr × Json)) (participant : PyStr) :
    Except PyError Unit :=
  raiseIf (isFanout input = true ∧
      (Json.get (py "responding_participant_id") input).asText ≠ some participant)
    (valueError (py "protocol fanout participant identity mismatch"))

/-- The loop of a fan-out with the route `DUAL`. -/
def noteDual (db : OperatorDb) (application : Application) (ids : List PyStr)
    (inputs : CallInputs) : Except PyError (OperatorDb × ApplicationOutcome) := do
  let progress ← applyMessages application.dualStep ids (inputs.skip 1) ⟨db, 0, 0, []⟩
  return (progress.db, ⟨application.participant, 0, 0, [], true⟩)

def noteResponses (db : OperatorDb) (application : Application) (fanout : Bool)
    (ids : List PyStr) (inputs : CallInputs) :
    Except PyError (OperatorDb × ApplicationOutcome) := do
  let step := if fanout then application.fanoutStep
    else fun _ => application.legacyStep (inputs.now 0)
  let progress ← applyMessages step ids (inputs.skip 2) ⟨db, 0, 0, []⟩
  let outcome : ApplicationOutcome :=
    ⟨application.participant, progress.applied, progress.partially, progress.responses, false⟩
  if progress.applied = 0 ∧ progress.partially = 0 then .ok (progress.db, outcome)
  else do
    let (db, _) ← event progress.db application.missionId (py "OPERATOR_MESSAGE_APPLIED")
      (.obj [(py "assignment_id", .str application.assignmentId),
        (py "responding_participant_id", .str application.participant),
        (py "message_ids", .arr (ids.map .str)),
        (py "applied_messages", .int progress.applied),
        (py "partial_messages", .int progress.partially),
        (py "response_message_ids", .arr (progress.responses.map .str))]) (inputs.now 1) none
    return (db, outcome)

def applicationOf (row : AssignmentRow) (participant : PyStr) (result : List (PyStr × Json)) :
    Application :=
  ⟨row.assignmentId, row.missionId, participant, Json.get (py "model_call_id") result,
    Json.get (py "response_digest") result, Json.get (py "response_text") result⟩

/-- `note_assignment_application` for the row of the assignment. -/
def noteApplication (db : OperatorDb) (row : AssignmentRow) (result : List (PyStr × Json))
    (inputs : CallInputs) : Except PyError (OperatorDb × ApplicationOutcome) := do
  let input ← row.inputFields
  let participant ← respondingParticipant row input result
  checkFanoutParticipant input participant
  let application := applicationOf row participant result
  let ids := (namedMessages result).take 64
  if isFanout input ∧ isDual input then noteDual db application ids inputs
  else noteResponses db application (isFanout input) ids inputs

def noteAssignmentApplication (db : OperatorDb) (assignmentId : PyStr)
    (result : List (PyStr × Json)) (inputs : CallInputs) :
    Except PyError (OperatorDb × ApplicationOutcome) :=
  match findAssignment db assignmentId with
  | none => .error (valueError (py "assignment missing"))
  | some row => noteApplication db row result inputs

end OperatorControl

end CyberLion
