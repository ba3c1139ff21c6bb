import CyberLion.OperatorControl

/-!
# Operator messages

The messages of `mission_control/operator_control.py`: the recipients of a
target, the message that a command stores with one delivery for each recipient,
the cognitive trajectory of a delivery, and the ways in which a delivery becomes
final: a model response, a failure, a cancellation, or the application of an
assignment's result.

A call that raises leaves its connection without a commit, so a function returns
the new database or raises.
-/

namespace CyberLion

namespace OperatorControl

open PyLib

/-! ### Columns -/

def bindingError : PyError :=
  ⟨.declared .exception (py "InterfaceError"), py "Error binding parameter"⟩

def columnOverflow : PyError :=
  ⟨.overflowError, py "Python int too large to convert to SQLite INTEGER"⟩

def columnText : Json → Except PyError (Option PyStr)
  | .null => .ok none
  | .bool value => .ok (some (if value then py "1" else py "0"))
  | .int value =>
    if -9223372036854775808 ≤ value ∧ value ≤ 9223372036854775807 then
      .ok (some (intText value))
    else .error columnOverflow
  | .float literal => .ok (some literal)
  | .str text => do
    let _ ← encodeUtf8 text
    return some text
  | _ => .error bindingError

/-! ### Recipients -/

structure InventoryItem where
  recipient : PyStr
  role : PyStr

def MaterialWorkerRow.identity (row : MaterialWorkerRow) : PyStr :=
  let logical := row.logicalId.getD []
  if (py "MD").isPrefixOf (pyUpper logical) then logical
  else if (py "MD").isPrefixOf (pyUpper row.podName) then row.podName
  else []

def LogicalDroneRow.entry (row : LogicalDroneRow) : Option (PyStr × InventoryItem) :=
  if row.logicalId = [] then none
  else
    let recipient := py "drone:" ++ row.logicalId
    some (recipient, ⟨recipient, row.role⟩)

def MaterialWorkerRow.entry (row : MaterialWorkerRow) : Option (PyStr × InventoryItem) :=
  if row.identity = [] ∨ row.ready = false then none
  else
    let recipient := py "worker:" ++ row.identity
    some (recipient, ⟨recipient, py "MATERIAL_EXECUTOR"⟩)

def missionDroneInventory (db : OperatorDb) (missionId : PyStr) :
    List (PyStr × InventoryItem) :=
  dictOfPairs
    (((db.logicalDrones.filter fun row => row.missionId = missionId).filterMap
        LogicalDroneRow.entry) ++
      (db.materialWorkers.filter fun row => row.missionId = missionId).filterMap
        MaterialWorkerRow.entry)

def roleInGroup (group role : PyStr) : Bool :=
  group = py "runtime" ||
    (group = py "security" && pyContains (py "SECUR") (pyUpper role)) ||
    (group = py "architecture" &&
      [py "ARCH", py "PLANNER", py "CONTROL"].any fun part => pyContains part (pyUpper role))

/-- The recipients that a target with a prefix and an identity has. -/
def resolveParts (db : OperatorDb) (missionId target head ident : PyStr) :
    Except PyError (List PyStr) :=
  let inventory := missionDroneInventory db missionId
  let names := inventory.map Prod.fst
  if head = py "mission" then
    if ident ≠ missionId then .error (valueError (py "target mission mismatch"))
    else .ok (pySorted names)
  else if head = py "swarm" then
    if ident ≠ missionId then .error (valueError (py "unresolved swarm target"))
    else .ok (pySorted names)
  else if head = py "drone" then
    if names.contains (py "drone:" ++ ident) then .ok [py "drone:" ++ ident]
    else .error (valueError (py "unresolved drone target"))
  else if head = py "worker" then
    if names.contains (py "worker:" ++ ident) then .ok [py "worker:" ++ ident]
    else .error (valueError (py "unresolved worker target"))
  else if head = py "operator" then
    if db.participants.any fun row =>
        row.participantId = py "operator:" ++ ident && row.state = py "ACTIVE" then .ok [target]
    else .error (valueError (py "unresolved operator target"))
  else if head = py "group" then
    if [py "architecture", py "security", py "runtime"].contains ident then
      .ok (pySorted (((inventory.map Prod.snd).filter fun item =>
        roleInGroup ident item.role).map InventoryItem.recipient).dedup)
    else .error (valueError (py "unresolved group target"))
  else .error (valueError (py "unresolved target"))

def resolveTarget (db : OperatorDb) (missionId target : PyStr) :
    Except PyError (List PyStr) := do
  raiseIf (missionExists db missionId = false) (valueError (py "mission not found"))
  let parts := partition (codePoint ':') target
  raiseIf (parts.2.1 = false) (valueError (py "unresolved target"))
  resolveParts db missionId target parts.1 parts.2.2

/-! ### Routes -/

/-- The default route of `cognition_routes`. -/
def configuredDefault : Json → Except PyError (Option CognitionRoute)
  | .null => .ok none
  | value =>
    match CognitionRoute.ofText (pyUpper value.pyStr) with
    | some route => .ok (some route)
    | none => .error (valueError (py "default cognition route"))

def recipientRoute (configured : Option CognitionRoute) (mapping : List (PyStr × Json))
    (recipient : PyStr) : Except PyError CognitionRoute := do
  let fallback := if (py "worker:").isPrefixOf recipient then CognitionRoute.localRoute else .saas
  let chosen := Json.pyOr (Json.get recipient mapping) (.str (configured.getD fallback).text)
  match CognitionRoute.ofText (pyUpper chosen.pyStr) with
  | none => .error (valueError (py "participant cognition route"))
  | some route => do
    raiseIf ((py "worker:").isPrefixOf recipient = true ∧ route ≠ .localRoute)
      (valueError (py "material worker cognition route must be LOCAL"))
    raiseIf ((py "drone:").isPrefixOf recipient = true ∧ route = .deterministicOnly)
      (valueError (py "logical drone cognition route"))
    return route

/-- `value or {}`, which must be a dictionary. -/
def objectOrEmpty (message : PyStr) (value : Json) : Except PyError (List (PyStr × Json)) :=
  if value.isTrue then OperatorCommand.objectFields message value else .ok []

/-- The dictionary `cognition_routes`. -/
def routeSpec : Json → Except PyError (List (PyStr × Json))
  | .null => .ok []
  | value => OperatorCommand.objectFields (py "cognition_routes") value

def protocolRecipientRoutes (payload : List (PyStr × Json)) (recipients : List PyStr) :
    Except PyError (List (PyStr × CognitionRoute)) := do
  let spec ← routeSpec (Json.get (py "cognition_routes") payload)
  raiseIf (spec.any fun field => !List.contains [py "default", py "participants"] field.1)
    (valueError (py "cognition_routes"))
  let configured ← configuredDefault (Json.get (py "default") spec)
  let mapping ← objectOrEmpty (py "participant cognition routes")
    (Json.get (py "participants") spec)
  raiseIf (mapping.any fun field => !recipients.contains field.1)
    (valueError (py "cognition route recipient outside frozen target"))
  recipients.mapM fun recipient => do
    let route ← recipientRoute configured mapping recipient
    return (recipient, route)

/-! ### Storing a message -/

def shortId (head : PyStr) (value : Json) : Except PyError PyStr := do
  let text ← digest value
  return head ++ text.take 32

def messageIdOf (commandId target : PyStr) : Except PyError PyStr :=
  shortId (py "opmsg-")
    (.obj [(py "command_id", .str commandId), (py "target", .str target)])

def messageContent : Json → Except PyError PyStr
  | .str content =>
    if isBlank content ∨ 16000 < content.length then
      .error (valueError (py "message content"))
    else .ok (strip content)
  | _ => .error (valueError (py "message content"))

def messageRoutes (isMessage : Bool) (payload : List (PyStr × Json)) (recipients : List PyStr) :
    Except PyError (List (PyStr × CognitionRoute)) :=
  if isMessage then protocolRecipientRoutes payload recipients
  else .ok (recipients.map fun recipient => (recipient, .deterministicOnly))

def newDelivery (messageId recipient : PyStr) : DeliveryRow :=
  ⟨messageId, recipient, .persisted, none, none, none⟩

def addRecipient (messageId : PyStr) (db : OperatorDb) (recipient : PyStr × CognitionRoute) :
    OperatorDb :=
  { db with
    deliveries := insertOrIgnore
      (fun row => row.messageId = messageId && row.recipient = recipient.1)
      (newDelivery messageId recipient.1) db.deliveries
    routes := insertOrIgnore
      (fun row => row.messageId = messageId && row.recipient = recipient.1)
      ⟨messageId, recipient.1, recipient.2⟩ db.routes }

/-- `_store_message`: the database and the result of the command. -/
def storeMessage (db : OperatorDb) (command : OperatorCommand) (state : ControlRow)
    (inputs : CallInputs) (participantId : PyStr) : Except PyError (OperatorDb × Json) := do
  let content ← messageContent (Json.get (py "content") command.payload)
  let messageId ← messageIdOf command.commandId command.target
  let recipients ← resolveTarget db command.missionId command.target
  let routes ← messageRoutes (command.action = .message) command.payload recipients
  let recipientSet := Json.arr ((pySorted recipients).map .str)
  let recipientSetDigest ← digest recipientSet
  let fanoutId ← shortId (py "fanout-")
    (.obj [(py "message_id", .str messageId), (py "recipients", recipientSet)])
  let messageState :=
    if recipients = [] then MessageState.persistedNoCurrentRecipient else .pending
  let contentDigest ← digest (.str content)
  let row : MessageRow := ⟨messageId, command.missionId, command.commandId, participantId,
    command.target, command.action.text, content, contentDigest, state.contextRevision,
    state.planRevision, messageState, inputs.now 0, none, none, command.correlationId,
    command.causationId, some fanoutId, some recipientSetDigest⟩
  let stored := { db with
    messages := insertOrIgnore (fun other => other.messageId = messageId) row db.messages }
  return (routes.foldl (addRecipient messageId) stored,
    .obj [(py "message_id", .str messageId), (py "target", .str command.target),
      (py "state", .str messageState.text), (py "recipients", .arr (recipients.map .str)),
      (py "recipient_count", .int recipients.length),
      (py "recipient_routes", .obj (routes.map fun entry => (entry.1, .str entry.2.text))),
      (py "fanout_id", .str fanoutId), (py "recipient_set_digest", .str recipientSetDigest),
      (py "correlation_id", OperatorCommand.optional .str command.correlationId),
      (py "causation_id", OperatorCommand.optional .str command.causationId)])

/-! ### Trajectories -/

def findMessage (db : OperatorDb) (messageId : PyStr) : Option MessageRow :=
  db.messages.find? fun row => row.messageId = messageId

def findDelivery (db : OperatorDb) (messageId recipient : PyStr) : Option DeliveryRow :=
  db.deliveries.find? fun row => row.messageId = messageId && row.recipient = recipient

def findTrajectory (db : OperatorDb) (messageId participantId : PyStr) : Option TrajectoryRow :=
  db.trajectories.find? fun row =>
    row.messageId = messageId && row.participantId = participantId

/-- The changes of `protocol_trajectory_update`: a column that is not named stays. -/
structure TrajectoryChanges where
  localAssignmentId : Option (Option PyStr) := none
  localModelCallId : Option (Option PyStr) := none
  saasRequestId : Option (Option PyStr) := none
  dualRequestId : Option (Option PyStr) := none
  state : Option TrajectoryState := none
  resultDigest : Option (Option PyStr) := none
  responseMessageId : Option (Option PyStr) := none

/-- `values.update(changes)`. -/
def TrajectoryRow.amended (row : TrajectoryRow) (changes : TrajectoryChanges) (now : PyStr) :
    TrajectoryRow :=
  { row with
    localAssignmentId := changes.localAssignmentId.getD row.localAssignmentId
    localModelCallId := changes.localModelCallId.getD row.localModelCallId
    saasRequestId := changes.saasRequestId.getD row.saasRequestId
    dualRequestId := changes.dualRequestId.getD row.dualRequestId
    state := changes.state.getD row.state
    resultDigest := changes.resultDigest.getD row.resultDigest
    responseMessageId := changes.responseMessageId.getD row.responseMessageId
    updatedAt := now }

def protocolTrajectoryUpdate (db : OperatorDb) (messageId participantId now : PyStr)
    (changes : TrajectoryChanges) : Except PyError OperatorDb :=
  match findTrajectory db messageId participantId with
  | none => .error (valueError (py "protocol trajectory missing"))
  | some row => .ok { db with
      trajectories := updateWhere (fun other => other.trajectoryId = row.trajectoryId)
        (fun other => other.amended changes now) db.trajectories }

/-! ### The state of a message -/

def deliveryStates (db : OperatorDb) (messageId : PyStr) : List DeliveryState :=
  (db.deliveries.filter fun row => row.messageId = messageId).map DeliveryRow.deliveryState

/-- What `_reconcile_protocol_message_state` returns. -/
structure MessageCounts where
  state : MessageState
  total : Nat
  applied : Nat
  failed : Nat
  cancelled : Nat
  pending : Nat

/-- The counts of delivery states and the state of the message that they give. -/
def countDeliveries (states : List DeliveryState) : MessageCounts :=
  let total := states.length
  let applied := states.count .applied
  let failed := states.count .failed
  let cancelled := states.count .cancelled
  let terminal := applied + failed + cancelled
  let state : MessageState :=
    if total ≠ 0 ∧ applied = total then .applied
    else if total ≠ 0 ∧ failed = total then .failed
    else if total ≠ 0 ∧ cancelled = total then .cancelled
    else if terminal ≠ 0 then .partially
    else .pending
  ⟨state, total, applied, failed, cancelled, total - terminal⟩

def MessageRow.reconciled (row : MessageRow) (state : MessageState) (stamp : PyStr) :
    MessageRow :=
  { row with
    state := state
    appliedAt := if state = .applied then row.appliedAt <|> some stamp else row.appliedAt }

def reconcileProtocolMessageState (db : OperatorDb) (messageId stamp : PyStr) :
    OperatorDb × MessageCounts :=
  let counts := countDeliveries (deliveryStates db messageId)
  ({ db with
      messages := updateWhere (fun row => row.messageId = messageId)
        (fun row => row.reconciled counts.state stamp) db.messages }, counts)

/-! ### Responses, failures and cancellations -/

def updateDeliveries (db : OperatorDb) (messageId recipient : PyStr)
    (selected : DeliveryState → Bool) (change : DeliveryRow → DeliveryRow) : OperatorDb :=
  { db with
    deliveries := updateWhere
      (fun row => row.messageId = messageId && row.recipient = recipient &&
        selected row.deliveryState) change db.deliveries }

def isSet (value : Option PyStr) : Bool :=
  value.any fun text => text ≠ []

/-- What `record_protocol_model_response` returns. -/
structure RecordedResponse where
  idempotent : Bool
  responseMessageId : PyStr
  counts : MessageCounts

/-- `isinstance(value, str) and value.strip()`. -/
def responseText : Json → Option PyStr
  | .str text => if isBlank text then none else some text
  | _ => none

def repeatResponse (db : OperatorDb) (messageId text responseId stamp : PyStr) :
    Except PyError (OperatorDb × RecordedResponse) :=
  match findMessage db responseId with
  | none => .error (valueError (py "protocol response conflict"))
  | some prior => do
    let contentDigest ← digest (.str text)
    raiseIf (prior.contentDigest ≠ contentDigest)
      (valueError (py "protocol response conflict"))
    let (db, counts) := reconcileProtocolMessageState db messageId stamp
    return (db, ⟨true, responseId, counts⟩)

def DeliveryRow.responded (row : DeliveryRow) (stamp : PyStr) (assignmentId : Option PyStr) :
    DeliveryRow :=
  { row with
    deliveryState := .applied
    deliveredAt := row.deliveredAt <|> some stamp
    appliedAt := some stamp
    appliedAssignmentId := row.appliedAssignmentId <|> assignmentId }

def firstResponse (db : OperatorDb) (source : MessageRow) (trajectory : TrajectoryRow)
    (messageId participantId text : PyStr) (resultDigest modelCallId : Json)
    (inputs : CallInputs) : Except PyError (OperatorDb × RecordedResponse) := do
  let stamp := inputs.now 0
  let replyId ← shortId (py "opreply-")
    (.obj [(py "message_id", .str messageId), (py "participant_id", .str participantId),
      (py "response", .str text)])
  let db := updateDeliveries db messageId participantId (fun _ => true) fun row =>
    row.responded stamp trajectory.localAssignmentId
  let contentDigest ← digest (.str text)
  let commandId := py "protocol:" ++ (Json.pyOr modelCallId (.str trajectory.trajectoryId)).pyStr
  let _ ← encodeUtf8 commandId
  let reply : MessageRow := ⟨replyId, source.missionId, commandId, participantId,
    primaryParticipant, py "RESPONSE", text, contentDigest, source.contextRevision,
    source.planRevision, .delivered, stamp, some stamp, trajectory.localAssignmentId,
    source.correlationId, some messageId, source.fanoutId, source.recipientSetDigest⟩
  let messages ← insertRow (uniqueError (py "operator_messages.message_id"))
    (fun other => other.messageId = replyId) reply db.messages
  let storedDigest ← columnText (Json.pyOr resultDigest (.str contentDigest))
  let storedCall ← columnText
    (Json.pyOr modelCallId (OperatorCommand.optional .str trajectory.localModelCallId))
  let db ← protocolTrajectoryUpdate { db with messages := messages } messageId participantId
    (inputs.now 1)
    { state := some .responseReconciled
      resultDigest := some storedDigest
      responseMessageId := some (some replyId)
      localModelCallId := some storedCall }
  let (db, counts) := reconcileProtocolMessageState db messageId stamp
  let (db, _) ← event db source.missionId (py "PROTOCOL_PARTICIPANT_RESPONSE")
    (.obj [(py "message_id", .str messageId), (py "participant_id", .str participantId),
      (py "cognition_route", .str trajectory.cognitionRoute.text),
      (py "response_message_id", .str replyId), (py "authority_effect", .str (py "NONE"))])
    (inputs.now 2) none
  return (db, ⟨false, replyId, counts⟩)

def recordProtocolModelResponse (db : OperatorDb) (messageId participantId : PyStr)
    (response resultDigest modelCallId : Json) (inputs : CallInputs) :
    Except PyError (OperatorDb × RecordedResponse) :=
  match responseText response with
  | none => .error (valueError (py "protocol response"))
  | some text => do
    let _ ← encodeUtf8 messageId
    let _ ← encodeUtf8 participantId
    match findMessage db messageId, findTrajectory db messageId participantId,
        findDelivery db messageId participantId with
    | some source, some trajectory, some _ =>
      if isSet trajectory.responseMessageId then
        repeatResponse db messageId (strip text) (trajectory.responseMessageId.getD [])
          (inputs.now 0)
      else
        firstResponse db source trajectory messageId participantId (strip text) resultDigest
          modelCallId inputs
    | _, _, _ => .error (valueError (py "protocol response lineage missing"))

/-- What `fail_protocol_trajectory` and `cancel_protocol_trajectory` return: the
state of the trajectory and, when it was changed, that of the message and the
reason. -/
structure TrajectoryEnd where
  state : TrajectoryState
  changed : Option (MessageState × PyStr)

/-- The end of a trajectory without a response: the delivery gets the final
state unless it has another one, the trajectory gets it in any case. -/
def endTrajectory (db : OperatorDb) (messageId participantId reason : PyStr)
    (delivery : DeliveryState) (kept : List DeliveryState) (state : TrajectoryState)
    (inputs : CallInputs) : Except PyError (OperatorDb × MessageState) := do
  let db := updateDeliveries db messageId participantId (fun old => !kept.contains old) fun row =>
    { row with
      deliveryState := delivery
      deliveredAt := row.deliveredAt <|> some (inputs.now 0) }
  let reasonDigest ← digest (.str reason)
  let db ← protocolTrajectoryUpdate db messageId participantId (inputs.now 1)
    { state := some state, resultDigest := some (some reasonDigest) }
  let (db, counts) := reconcileProtocolMessageState db messageId (inputs.now 0)
  return (db, counts.state)

def failProtocolTrajectory (db : OperatorDb) (messageId participantId reason : PyStr)
    (inputs : CallInputs) : Except PyError (OperatorDb × TrajectoryEnd) := do
  let _ ← encodeUtf8 messageId
  let _ ← encodeUtf8 participantId
  match findTrajectory db messageId participantId with
  | none => .error (valueError (py "protocol trajectory missing"))
  | some trajectory =>
    if trajectory.state = .responseReconciled then .ok (db, ⟨.responseReconciled, none⟩)
    else do
      let (db, messageState) ← endTrajectory db messageId participantId reason .failed
        [.applied, .cancelled] .failed inputs
      return (db, ⟨.failed, some (messageState, reason.take 500)⟩)

def cancelProtocolTrajectory (db : OperatorDb) (messageId participantId reason : PyStr)
    (inputs : CallInputs) : Except PyError (OperatorDb × TrajectoryEnd) := do
  let _ ← encodeUtf8 messageId
  let _ ← encodeUtf8 participantId
  match findTrajectory db messageId participantId with
  | none => .error (valueError (py "protocol trajectory missing"))
  | some trajectory =>
    if trajectory.state = .responseReconciled then .ok (db, ⟨.responseReconciled, none⟩)
    else do
      let (db, messageState) ← endTrajectory db messageId participantId reason .cancelled
        [.applied, .failed] .cancelled inputs
      let (db, _) ← event db trajectory.missionId (py "PROTOCOL_PARTICIPANT_CANCELLED")
        (.obj [(py "message_id", .str messageId), (py "participant_id", .str participantId),
          (py "reason", .str (reason.take 500)), (py "authority_effect", .str (py "NONE"))])
        (inputs.now 2) none
      return (db, ⟨.cancelled, some (messageState, reason.take 500)⟩)

end OperatorControl

end CyberLion
