import CyberLion.OperatorApplication

/-!
# What an answer does to the tables

Each operation on a delivery works on the rows of one message and one
participant: it changes the delivery, the trajectory and the message, and may
insert a reply under a new identity.  The rows of every other message stay.
Later results use this effect and never unfold the operations.
-/

namespace CyberLion

namespace OperatorControl

open PyLib

structure Keyed (db : OperatorDb) : Prop where
  messages : (db.messages.map MessageRow.messageId).Nodup
  deliveries : (db.deliveries.map fun row => (row.messageId, row.recipient)).Nodup
  trajectoryIds : (db.trajectories.map TrajectoryRow.trajectoryId).Nodup
  trajectories : (db.trajectories.map fun row => (row.messageId, row.participantId)).Nodup

def DeliveryRow.isAt (row : DeliveryRow) (messageId participantId : PyStr) : Bool :=
  row.messageId = messageId && row.recipient = participantId

def TrajectoryRow.isAt (row : TrajectoryRow) (messageId participantId : PyStr) : Bool :=
  row.messageId = messageId && row.participantId = participantId

theorem deliveryRow_isAt {row : DeliveryRow} {messageId participantId : PyStr} :
    row.isAt messageId participantId = true ↔
      row.messageId = messageId ∧ row.recipient = participantId := by
  simp [DeliveryRow.isAt]

theorem trajectoryRow_isAt {row : TrajectoryRow} {messageId participantId : PyStr} :
    row.isAt messageId participantId = true ↔
      row.messageId = messageId ∧ row.participantId = participantId := by
  simp [TrajectoryRow.isAt]

/-- What an operation does to the delivery, the trajectory and the message. -/
structure Answer where
  delivery : DeliveryRow → DeliveryRow
  trajectory : TrajectoryRow → TrajectoryRow
  message : MessageRow → MessageRow
  deliveryKey : ∀ row, (delivery row).messageId = row.messageId ∧
    (delivery row).recipient = row.recipient
  trajectoryKey : ∀ row, (trajectory row).trajectoryId = row.trajectoryId ∧
    (trajectory row).messageId = row.messageId ∧ (trajectory row).participantId = row.participantId
  messageKey : ∀ row, (message row).messageId = row.messageId

def Answer.none : Answer :=
  ⟨id, id, id, fun _ => ⟨rfl, rfl⟩, fun _ => ⟨rfl, rfl, rfl⟩, fun _ => rfl⟩

structure Answered (answer : Answer) (messageId participantId : PyStr) (db changed : OperatorDb) :
    Prop where
  deliveries : changed.deliveries =
    updateWhere (fun row => row.isAt messageId participantId) answer.delivery db.deliveries
  trajectories : changed.trajectories =
    updateWhere (fun row => row.isAt messageId participantId) answer.trajectory db.trajectories
  messages : ∃ replies : List MessageRow, changed.messages =
      updateWhere (fun row => row.messageId = messageId) answer.message db.messages ++ replies ∧
    (replies.map MessageRow.messageId).Nodup ∧
    ∀ reply ∈ replies, ∀ other ∈ db.messages, other.messageId ≠ reply.messageId

theorem answered_none (messageId participantId : PyStr) (db : OperatorDb) :
    Answered .none messageId participantId db db where
  deliveries := (updateWhere_eq_self fun _ _ _ => rfl).symm
  trajectories := (updateWhere_eq_self fun _ _ _ => rfl).symm
  messages := by
    refine ⟨[], ?_, List.nodup_nil, fun _ member => absurd member List.not_mem_nil⟩
    rw [List.append_nil]
    exact (updateWhere_eq_self fun _ _ _ => rfl).symm

namespace Answered

variable {answer : Answer} {messageId participantId : PyStr} {db changed : OperatorDb}
  (answered : Answered answer messageId participantId db changed)
include answered

theorem keyed (isKeyed : Keyed db) : Keyed changed := by
  obtain ⟨replies, messagesEq, unique, fresh⟩ := answered.messages
  constructor
  · have kept := @map_updateWhere _ _ (fun row : MessageRow => decide (row.messageId = messageId)) _
      MessageRow.messageId (fun row _ => answer.messageKey row) db.messages
    rw [messagesEq, List.map_append, kept]
    refine List.Nodup.append isKeyed.messages unique fun id isOld isNew => ?_
    obtain ⟨old, oldMember, rfl⟩ := List.mem_map.mp isOld
    obtain ⟨reply, replyMember, same⟩ := List.mem_map.mp isNew
    exact fresh reply replyMember old oldMember same.symm
  · rw [answered.deliveries, map_updateWhere _ fun row _ => by
      rw [(answer.deliveryKey row).1, (answer.deliveryKey row).2]]
    exact isKeyed.deliveries
  · rw [answered.trajectories, map_updateWhere _ fun row _ => (answer.trajectoryKey row).1]
    exact isKeyed.trajectoryIds
  · rw [answered.trajectories, map_updateWhere _ fun row _ => by
      rw [(answer.trajectoryKey row).2.1, (answer.trajectoryKey row).2.2]]
    exact isKeyed.trajectories

end Answered

/-! ### The rows of one message -/

@[ext]
structure MessageRows where
  messages : List MessageRow
  deliveries : List DeliveryRow
  trajectories : List TrajectoryRow

def rowsOf (db : OperatorDb) (messageId : PyStr) : MessageRows :=
  ⟨db.messages.filter fun row => row.messageId = messageId,
    db.deliveries.filter fun row => row.messageId = messageId,
    db.trajectories.filter fun row => row.messageId = messageId⟩

def HasMessage (db : OperatorDb) (messageId : PyStr) : Prop :=
  ∃ row ∈ db.messages, row.messageId = messageId

def Answer.onRows (answer : Answer) (participantId : PyStr) (rows : MessageRows) : MessageRows :=
  ⟨rows.messages.map answer.message,
    updateWhere (fun row => row.recipient = participantId) answer.delivery rows.deliveries,
    updateWhere (fun row => row.participantId = participantId) answer.trajectory
      rows.trajectories⟩

namespace Answered

variable {answer : Answer} {messageId participantId : PyStr} {db changed : OperatorDb}
  (answered : Answered answer messageId participantId db changed)
include answered

theorem hasMessage {other : PyStr} (isMessage : HasMessage db other) :
    HasMessage changed other := by
  obtain ⟨replies, messagesEq, -, -⟩ := answered.messages
  obtain ⟨row, member, isKey⟩ := isMessage
  refine ⟨if row.messageId = messageId then answer.message row else row, ?_, ?_⟩
  · rw [messagesEq]
    exact List.mem_append_left _ (mem_updateWhere.mpr ⟨row, member, by simp⟩)
  · split
    · exact (answer.messageKey row).trans isKey
    · exact isKey

theorem filter_messages {other : PyStr} (isMessage : HasMessage db other) :
    changed.messages.filter (fun row => row.messageId = other) =
      (updateWhere (fun row => row.messageId = messageId) answer.message db.messages).filter
        fun row => row.messageId = other := by
  obtain ⟨replies, messagesEq, -, fresh⟩ := answered.messages
  obtain ⟨row, member, isKey⟩ := isMessage
  have none : replies.filter (fun row => row.messageId = other) = [] := by
    refine List.filter_eq_nil_iff.mpr fun reply isReply same => ?_
    exact fresh reply isReply row member (isKey.trans (of_decide_eq_true same).symm)
  rw [messagesEq, List.filter_append, none, List.append_nil]

theorem rowsOf_other {other : PyStr} (isMessage : HasMessage db other)
    (different : messageId ≠ other) : rowsOf changed other = rowsOf db other := by
  have apart : ∀ id : PyStr, id = messageId → decide (id = other) = false := by
    rintro id rfl
    exact decide_eq_false different
  rw [rowsOf, rowsOf, answered.filter_messages isMessage, answered.deliveries,
    answered.trajectories]
  congr 1
  · refine filter_updateWhere fun row _ selected => ?_
    rw [answer.messageKey row]
    exact ⟨apart _ (of_decide_eq_true selected), apart _ (of_decide_eq_true selected)⟩
  · refine filter_updateWhere fun row _ selected => ?_
    rw [(answer.deliveryKey row).1]
    have isKey := (deliveryRow_isAt.mp selected).1
    exact ⟨apart _ isKey, apart _ isKey⟩
  · refine filter_updateWhere fun row _ selected => ?_
    rw [(answer.trajectoryKey row).2.1]
    have isKey := (trajectoryRow_isAt.mp selected).1
    exact ⟨apart _ isKey, apart _ isKey⟩

theorem rowsOf_self (isMessage : HasMessage db messageId) :
    rowsOf changed messageId = answer.onRows participantId (rowsOf db messageId) := by
  rw [rowsOf, answered.filter_messages isMessage, answered.deliveries, answered.trajectories]
  rw [filter_updateWhere_comm fun row => by rw [answer.messageKey row],
    filter_updateWhere_comm fun row => by rw [(answer.deliveryKey row).1],
    filter_updateWhere_comm fun row => by rw [(answer.trajectoryKey row).2.1]]
  rw [Answer.onRows, rowsOf]
  congr 1
  · apply List.map_congr_left
    intro row member
    exact if_pos (List.mem_filter.mp member).2
  · refine updateWhere_congr fun row member => ?_
    have isKey := of_decide_eq_true (List.mem_filter.mp member).2
    simp [DeliveryRow.isAt, isKey]
  · refine updateWhere_congr fun row member => ?_
    have isKey := of_decide_eq_true (List.mem_filter.mp member).2
    simp [TrajectoryRow.isAt, isKey]

end Answered

/-! ### The updates -/

def Answer.amend (changes : TrajectoryChanges) (now : PyStr) : Answer :=
  { Answer.none with
    trajectory := fun row => row.amended changes now
    trajectoryKey := fun _ => ⟨rfl, rfl, rfl⟩ }

def Answer.reconcile (state : MessageState) (stamp : PyStr) : Answer :=
  { Answer.none with
    message := fun row => row.reconciled state stamp
    messageKey := fun _ => rfl }

def Answer.after (answer : Answer) (changes : TrajectoryChanges) (now : PyStr) : Answer :=
  { answer with
    trajectory := fun row => answer.trajectory (row.amended changes now)
    trajectoryKey := fun row => answer.trajectoryKey (row.amended changes now) }

def reconciledState (db : OperatorDb) (messageId : PyStr) : MessageState :=
  (countDeliveries (deliveryStates db messageId)).state

/-- The database after an update of the trajectory of a message and a participant. -/
def amendTrajectory (db : OperatorDb) (messageId participantId now : PyStr)
    (changes : TrajectoryChanges) : OperatorDb :=
  { db with
    trajectories := updateWhere (fun row => row.isAt messageId participantId)
      (fun row => row.amended changes now) db.trajectories }

variable {messageId participantId now : PyStr} {db changed : OperatorDb}

theorem mem_of_findTrajectory {row : TrajectoryRow}
    (found : findTrajectory db messageId participantId = some row) :
    row ∈ db.trajectories ∧ row.isAt messageId participantId = true :=
  ⟨List.mem_of_find?_eq_some found, List.find?_some (p := fun row : TrajectoryRow =>
    row.isAt messageId participantId) found⟩

theorem Keyed.eq_of_isAt (keyed : Keyed db) {first second : TrajectoryRow}
    (isFirst : first ∈ db.trajectories) (isSecond : second ∈ db.trajectories)
    (firstAt : first.isAt messageId participantId = true)
    (secondAt : second.isAt messageId participantId = true) : first = second := by
  rw [trajectoryRow_isAt] at firstAt secondAt
  refine List.inj_on_of_nodup_map keyed.trajectories isFirst isSecond ?_
  rw [firstAt.1, firstAt.2, secondAt.1, secondAt.2]

theorem protocolTrajectoryUpdate_eq_ok {changes : TrajectoryChanges}
    (ids : (db.trajectories.map TrajectoryRow.trajectoryId).Nodup)
    (pairs : (db.trajectories.map fun row => (row.messageId, row.participantId)).Nodup)
    (returned : protocolTrajectoryUpdate db messageId participantId now changes = .ok changed) :
    (∃ row, findTrajectory db messageId participantId = some row) ∧
      changed = amendTrajectory db messageId participantId now changes := by
  unfold protocolTrajectoryUpdate at returned
  split at returned
  · simp at returned
  · rename_i row found
    obtain ⟨member, rowAt⟩ := mem_of_findTrajectory found
    have sameRows : updateWhere (fun other => other.trajectoryId = row.trajectoryId)
        (fun other => other.amended changes now) db.trajectories =
        updateWhere (fun other => other.isAt messageId participantId)
          (fun other => other.amended changes now) db.trajectories := by
      refine updateWhere_congr fun other isOther => ?_
      rw [Bool.eq_iff_iff, decide_eq_true_eq]
      constructor
      · intro sameId
        rw [List.inj_on_of_nodup_map ids isOther member sameId]
        exact rowAt
      · intro otherAt
        rw [trajectoryRow_isAt] at rowAt otherAt
        have samePair : (other.messageId, other.participantId) =
            (row.messageId, row.participantId) := by
          rw [otherAt.1, otherAt.2, rowAt.1, rowAt.2]
        rw [List.inj_on_of_nodup_map pairs isOther member samePair]
    rw [sameRows] at returned
    exact ⟨⟨row, found⟩, (Except.ok.inj returned).symm⟩

theorem answered_amend (changes : TrajectoryChanges) (now : PyStr) :
    Answered (.amend changes now) messageId participantId db
      (amendTrajectory db messageId participantId now changes) where
  deliveries := (answered_none messageId participantId db).deliveries
  trajectories := rfl
  messages := (answered_none messageId participantId db).messages

theorem answered_reconcile (stamp : PyStr) :
    Answered (.reconcile (reconciledState (reconcileProtocolMessageState db messageId stamp).1
        messageId) stamp) messageId participantId db
      (reconcileProtocolMessageState db messageId stamp).1 where
  deliveries := (answered_none messageId participantId db).deliveries
  trajectories := (answered_none messageId participantId db).trajectories
  messages := by
    refine ⟨[], ?_, List.nodup_nil, fun _ member => absurd member List.not_mem_nil⟩
    rw [List.append_nil]
    rfl

theorem Answered.after {answer : Answer} {changes : TrajectoryChanges}
    (answered : Answered answer messageId participantId
      (amendTrajectory db messageId participantId now changes) changed) :
    Answered (answer.after changes now) messageId participantId db changed where
  deliveries := answered.deliveries
  trajectories := by
    have combined := @updateWhere_updateWhere TrajectoryRow
      (fun row => row.isAt messageId participantId) (fun row => row.amended changes now)
      (fun _ => rfl) answer.trajectory db.trajectories
    exact answered.trajectories.trans combined
  messages := answered.messages

/-! ### The operations -/

section Operations

variable {application : Application} {inputs : CallInputs}

structure Application.Columns (application : Application) (modelCallId : Option PyStr)
    (responseDigest : Option PyStr) : Prop where
  call : columnText application.modelCallId = .ok modelCallId
  digest : columnText application.responseDigest = .ok responseDigest

theorem noteAnswer_eq_ok (keyed : Keyed db) {state : TrajectoryState}
    (returned : application.noteAnswer db messageId state now = .ok changed) :
    ∃ modelCallId responseDigest, application.Columns modelCallId responseDigest ∧
      (∃ row, findTrajectory db messageId application.participant = some row) ∧
      changed = amendTrajectory db messageId application.participant now
        (application.workerChanges state modelCallId responseDigest) := by
  simp only [Application.noteAnswer, bind_eq_ok] at returned
  obtain ⟨_, -, _, -, modelCallId, isCall, responseDigest, isDigest, updated⟩ := returned
  obtain ⟨found, same⟩ :=
    protocolTrajectoryUpdate_eq_ok keyed.trajectoryIds keyed.trajectories updated
  exact ⟨modelCallId, responseDigest, ⟨isCall, isDigest⟩, found, same⟩

def Answer.respond (stamp now : PyStr) (assignmentId : Option PyStr) (changes : TrajectoryChanges)
    (state : MessageState) : Answer where
  delivery := fun row => row.responded stamp assignmentId
  trajectory := fun row => row.amended changes now
  message := fun row => row.reconciled state stamp
  deliveryKey := fun _ => ⟨rfl, rfl⟩
  trajectoryKey := fun _ => ⟨rfl, rfl, rfl⟩
  messageKey := fun _ => rfl

structure IsResponse (changes : TrajectoryChanges) : Prop where
  state : changes.state = some .responseReconciled
  response : ∃ replyId, changes.responseMessageId = some (some replyId) ∧ replyId ≠ []

theorem ne_nil_of_shortId {head replyId : PyStr} {value : Json} (named : head ≠ [])
    (returned : shortId head value = .ok replyId) : replyId ≠ [] := by
  simp only [shortId, bind_eq_ok, pure_eq_ok] at returned
  obtain ⟨text, -, rfl⟩ := returned
  simp [named]

theorem answered_firstResponse (keyed : Keyed db) {source : MessageRow}
    {trajectory : TrajectoryRow} {text : PyStr} {resultDigest modelCallId : Json}
    {recorded : RecordedResponse} (isMessage : HasMessage db messageId)
    (returned : firstResponse db source trajectory messageId participantId text resultDigest
      modelCallId inputs = .ok (changed, recorded)) :
    ∃ changes, IsResponse changes ∧
      Answered (.respond (inputs.now 0) (inputs.now 1) trajectory.localAssignmentId changes
        (reconciledState changed messageId)) messageId participantId db changed := by
  simp only [firstResponse, event, bind_eq_ok, insertRow_eq_ok, pure_eq_ok,
    decide_eq_false_iff_not] at returned
  obtain ⟨replyId, isReply, _, -, _, -, messages, ⟨free, rfl⟩, storedDigest, -, storedCall, -,
    middle, updated, ⟨_, _⟩, ⟨_, -, _, -, evented⟩, same⟩ := returned
  obtain ⟨-, rfl⟩ := protocolTrajectoryUpdate_eq_ok (by exact keyed.trajectoryIds)
    (by exact keyed.trajectories) updated
  obtain ⟨rfl, -⟩ := Prod.mk.inj evented
  obtain ⟨rfl, -⟩ := Prod.mk.inj same
  refine ⟨{
    state := some .responseReconciled
    resultDigest := some storedDigest
    responseMessageId := some (some replyId)
    localModelCallId := some storedCall },
    ⟨rfl, replyId, rfl, ne_nil_of_shortId (by decide) isReply⟩, ?_⟩
  obtain ⟨row, member, isKey⟩ := isMessage
  -- the message itself is in the table, so its reply is another one
  have isOther : replyId ≠ messageId := by
    rintro rfl
    exact free row member isKey
  constructor
  · exact updateWhere_congr fun row _ => by rw [DeliveryRow.isAt, Bool.and_true]
  · rfl
  · refine ⟨_, updateWhere_append (fun reply isReply => ?_), List.nodup_singleton _,
      fun reply isReply => ?_⟩
    · obtain rfl := List.mem_singleton.mp isReply
      exact decide_eq_false isOther
    · obtain rfl := List.mem_singleton.mp isReply
      exact free

/-- What a recorded response does to the tables: a repeated one only gives the message its
state again. -/
inductive ResponseEffect (messageId participantId stamp now : PyStr) (trajectory : TrajectoryRow)
    (db changed : OperatorDb) : Prop
  | repeated (responded : isSet trajectory.responseMessageId = true)
      (answered : Answered (.reconcile (reconciledState changed messageId) stamp) messageId
        participantId db changed)
  | first (open' : isSet trajectory.responseMessageId = false) (changes : TrajectoryChanges)
      (isResponse : IsResponse changes)
      (answered : Answered (.respond stamp now trajectory.localAssignmentId changes
        (reconciledState changed messageId)) messageId participantId db changed)

theorem responseEffect_of_record (keyed : Keyed db) {response resultDigest modelCallId : Json}
    {recorded : RecordedResponse}
    (returned : recordProtocolModelResponse db messageId participantId response resultDigest
      modelCallId inputs = .ok (changed, recorded)) :
    HasMessage db messageId ∧ ∃ trajectory,
      findTrajectory db messageId participantId = some trajectory ∧
      ResponseEffect messageId participantId (inputs.now 0) (inputs.now 1) trajectory db
        changed := by
  unfold recordProtocolModelResponse at returned
  split at returned
  · simp at returned
  · simp only [bind_eq_ok] at returned
    obtain ⟨_, -, _, -, returned⟩ := returned
    split at returned
    · rename_i source trajectory delivery isSource isTrajectory isDelivery
      have isMessage : HasMessage db messageId :=
        ⟨source, List.mem_of_find?_eq_some isSource, by simpa using List.find?_some isSource⟩
      refine ⟨isMessage, trajectory, isTrajectory, ?_⟩
      split at returned
      · rename_i responded
        unfold repeatResponse at returned
        split at returned
        · simp at returned
        · simp only [bind_eq_ok, pure_eq_ok] at returned
          obtain ⟨_, -, _, -, same⟩ := returned
          obtain ⟨rfl, -⟩ := Prod.mk.inj same
          exact .repeated responded (answered_reconcile (inputs.now 0))
      · rename_i notResponded
        obtain ⟨changes, isResponse, answered⟩ := answered_firstResponse keyed isMessage returned
        exact .first (by simpa using notResponded) changes isResponse answered
    · simp at returned

def Answer.finish (delivery : DeliveryState) (kept : List DeliveryState) (stamp now : PyStr)
    (changes : TrajectoryChanges) (state : MessageState) : Answer where
  delivery := fun row =>
    if !kept.contains row.deliveryState then
      { row with
        deliveryState := delivery
        deliveredAt := row.deliveredAt <|> some stamp }
    else row
  trajectory := fun row => row.amended changes now
  message := fun row => row.reconciled state stamp
  deliveryKey := fun row => by split <;> exact ⟨rfl, rfl⟩
  trajectoryKey := fun _ => ⟨rfl, rfl, rfl⟩
  messageKey := fun _ => rfl

theorem answered_endTrajectory (keyed : Keyed db) {reason : PyStr} {delivery : DeliveryState}
    {kept : List DeliveryState} {state : TrajectoryState} {messageState : MessageState}
    (returned : endTrajectory db messageId participantId reason delivery kept state inputs =
      .ok (changed, messageState)) :
    ∃ changes : TrajectoryChanges, changes.state = some state ∧
      changes.responseMessageId = none ∧
      Answered (.finish delivery kept (inputs.now 0) (inputs.now 1) changes
        (reconciledState changed messageId)) messageId participantId db changed := by
  simp only [endTrajectory, bind_eq_ok, pure_eq_ok] at returned
  obtain ⟨reasonDigest, -, middle, updated, same⟩ := returned
  obtain ⟨-, rfl⟩ := protocolTrajectoryUpdate_eq_ok (by exact keyed.trajectoryIds)
    (by exact keyed.trajectories) updated
  obtain ⟨rfl, -⟩ := Prod.mk.inj same
  refine ⟨{ state := some state, resultDigest := some (some reasonDigest) }, rfl, rfl, ?_⟩
  constructor
  · exact updateWhere_and _ _ _ _
  · rfl
  · refine ⟨[], (List.append_nil _).symm, List.nodup_nil, fun _ member => ?_⟩
    exact absurd member List.not_mem_nil

/-- What a failure or a cancellation does to the tables: a reconciled trajectory stays. -/
inductive EndEffect (messageId participantId stamp now : PyStr) (delivery : DeliveryState)
    (kept : List DeliveryState) (state : TrajectoryState) (trajectory : TrajectoryRow)
    (db changed : OperatorDb) : Prop
  | reconciled (isReconciled : trajectory.state = .responseReconciled) (same : changed = db)
  | finished (isOpen : trajectory.state ≠ .responseReconciled) (changes : TrajectoryChanges)
      (isState : changes.state = some state) (noResponse : changes.responseMessageId = none)
      (answered : Answered (.finish delivery kept stamp now changes
        (reconciledState changed messageId)) messageId participantId db changed)

theorem endEffect_of_fail (keyed : Keyed db) {reason : PyStr} {ended : TrajectoryEnd}
    (returned : failProtocolTrajectory db messageId participantId reason inputs =
      .ok (changed, ended)) :
    ∃ trajectory, findTrajectory db messageId participantId = some trajectory ∧
      EndEffect messageId participantId (inputs.now 0) (inputs.now 1) .failed
        [.applied, .cancelled] .failed trajectory db changed := by
  simp only [failProtocolTrajectory, bind_eq_ok] at returned
  obtain ⟨_, -, _, -, returned⟩ := returned
  split at returned
  · simp at returned
  · rename_i trajectory found
    refine ⟨trajectory, found, ?_⟩
    split at returned
    · rename_i isReconciled
      obtain ⟨rfl, -⟩ := Prod.mk.inj (Except.ok.inj returned)
      exact .reconciled isReconciled rfl
    · rename_i isOpen
      simp only [bind_eq_ok, pure_eq_ok] at returned
      obtain ⟨⟨_, _⟩, finished, same⟩ := returned
      obtain ⟨rfl, -⟩ := Prod.mk.inj same
      obtain ⟨changes, isState, noResponse, answered⟩ := answered_endTrajectory keyed finished
      exact .finished isOpen changes isState noResponse answered

theorem endEffect_of_cancel (keyed : Keyed db) {reason : PyStr} {ended : TrajectoryEnd}
    (returned : cancelProtocolTrajectory db messageId participantId reason inputs =
      .ok (changed, ended)) :
    ∃ trajectory, findTrajectory db messageId participantId = some trajectory ∧
      EndEffect messageId participantId (inputs.now 0) (inputs.now 1) .cancelled
        [.applied, .failed] .cancelled trajectory db changed := by
  simp only [cancelProtocolTrajectory, bind_eq_ok] at returned
  obtain ⟨_, -, _, -, returned⟩ := returned
  split at returned
  · simp at returned
  · rename_i trajectory found
    refine ⟨trajectory, found, ?_⟩
    split at returned
    · rename_i isReconciled
      obtain ⟨rfl, -⟩ := Prod.mk.inj (Except.ok.inj returned)
      exact .reconciled isReconciled rfl
    · rename_i isOpen
      simp only [event, bind_eq_ok, pure_eq_ok] at returned
      obtain ⟨⟨middle, _⟩, finished, ⟨_, _⟩, ⟨_, -, _, -, evented⟩, same⟩ := returned
      obtain ⟨rfl, -⟩ := Prod.mk.inj evented
      obtain ⟨rfl, -⟩ := Prod.mk.inj same
      obtain ⟨changes, isState, noResponse, answered⟩ := answered_endTrajectory keyed finished
      exact .finished isOpen changes isState noResponse
        ⟨answered.deliveries, answered.trajectories, answered.messages⟩

/-! ### The steps of an application -/

theorem answered_dualStep {progress next : Progress} (keyed : Keyed progress.db)
    (returned : application.dualStep inputs progress messageId = .ok next) :
    ∃ modelCallId responseDigest, application.Columns modelCallId responseDigest ∧
      (∃ row, findTrajectory progress.db messageId application.participant = some row) ∧
      Answered (.amend (application.workerChanges .dualLocalResponseReady modelCallId
        responseDigest) (inputs.now 0)) messageId application.participant progress.db next.db := by
  simp only [Application.dualStep, bind_eq_ok, pure_eq_ok] at returned
  obtain ⟨_, noted, rfl⟩ := returned
  obtain ⟨modelCallId, responseDigest, columns, found, rfl⟩ := noteAnswer_eq_ok keyed noted
  exact ⟨modelCallId, responseDigest, columns, found, answered_amend _ _⟩

/-- What a step of a local fan-out assignment with a response does to the tables. -/
inductive FanoutEffect (application : Application) (messageId : PyStr) (inputs : CallInputs)
    (modelCallId responseDigest : Option PyStr) (trajectory : TrajectoryRow)
    (db changed : OperatorDb) : Prop
  | repeated (responded : isSet trajectory.responseMessageId = true)
      (answered : Answered
        ((Answer.reconcile (reconciledState changed messageId) (inputs.now 1)).after
          (application.workerChanges .localResponseReady modelCallId responseDigest)
          (inputs.now 0)) messageId application.participant db changed)
  | first (open' : isSet trajectory.responseMessageId = false) (changes : TrajectoryChanges)
      (isResponse : IsResponse changes)
      (answered : Answered
        ((Answer.respond (inputs.now 1) (inputs.now 2) (some application.assignmentId) changes
          (reconciledState changed messageId)).after
          (application.workerChanges .localResponseReady modelCallId responseDigest)
          (inputs.now 0)) messageId application.participant db changed)

theorem findTrajectory_amendTrajectory {changes : TrajectoryChanges} {row : TrajectoryRow}
    (found : findTrajectory db messageId participantId = some row) :
    findTrajectory (amendTrajectory db messageId participantId now changes) messageId
      participantId = some (row.amended changes now) := by
  have lookup := @find?_updateWhere _ (fun row : TrajectoryRow => row.isAt messageId participantId)
    (fun row => row.isAt messageId participantId) (fun row => row.amended changes now)
    (fun _ => rfl) db.trajectories
  have foundAt : db.trajectories.find? (fun row => row.isAt messageId participantId) = some row :=
    found
  rw [foundAt, Option.map_some, if_pos (mem_of_findTrajectory found).2] at lookup
  exact lookup

theorem fanoutEffect_of_fanoutStep {progress next : Progress} (keyed : Keyed progress.db)
    (returned : application.fanoutStep inputs progress messageId = .ok next) :
    (responseText application.response = none ∧ next = progress) ∨
    ((responseText application.response).isSome = true ∧ HasMessage progress.db messageId ∧
      ∃ modelCallId responseDigest trajectory, application.Columns modelCallId responseDigest ∧
        findTrajectory progress.db messageId application.participant = some trajectory ∧
        FanoutEffect application messageId inputs modelCallId responseDigest trajectory
          progress.db next.db) := by
  unfold Application.fanoutStep at returned
  split at returned
  · rename_i noText
    exact .inl ⟨noText, (Except.ok.inj returned).symm⟩
  · rename_i text hasText
    simp only [bind_eq_ok, pure_eq_ok] at returned
    obtain ⟨_, noted, ⟨middle, recorded⟩, isRecorded, rfl⟩ := returned
    obtain ⟨modelCallId, responseDigest, columns, ⟨trajectory, found⟩, rfl⟩ :=
      noteAnswer_eq_ok keyed noted
    have amended : Keyed (amendTrajectory progress.db messageId application.participant
        (inputs.now 0) (application.workerChanges .localResponseReady modelCallId
          responseDigest)) := (answered_amend _ _).keyed keyed
    obtain ⟨isMessage, later, isLater, effect⟩ := responseEffect_of_record amended isRecorded
    rw [findTrajectory_amendTrajectory found] at isLater
    obtain rfl := Option.some.inj isLater
    refine .inr ⟨by rw [hasText]; rfl, isMessage, modelCallId, responseDigest, trajectory, columns,
      found, ?_⟩
    cases effect with
    | repeated responded answered => exact .repeated responded answered.after
    | first isOpen changes isResponse answered =>
      exact .first isOpen changes isResponse answered.after

/-- The application of a delivery by an assignment that is no fan-out. -/
def Answer.apply (application : Application) (stamp : PyStr) (states : List DeliveryState) :
    Answer where
  delivery := fun row =>
    if row.deliveryState ≠ .applied then application.delivered stamp row else row
  trajectory := id
  message := fun row =>
    if states = [] then row
    else application.settled stamp (Application.stateAfter states) row
  deliveryKey := fun row => by split <;> exact ⟨rfl, rfl⟩
  trajectoryKey := fun _ => ⟨rfl, rfl, rfl⟩
  messageKey := fun row => by split <;> rfl

theorem stateAfter_eq_applied {states : List DeliveryState} :
    Application.stateAfter states = .applied ↔ ∀ state ∈ states, state = .applied := by
  unfold Application.stateAfter
  split
  · rename_i all
    simpa [eq_comm] using List.count_eq_length.mp all
  · rename_i notAll
    simp only [reduceCtorEq, false_iff]
    intro all
    exact notAll (List.count_eq_length.mpr fun state member => (all state member).symm)

def applyDeliveries (application : Application) (stamp messageId : PyStr) (db : OperatorDb) :
    OperatorDb :=
  updateDeliveries db messageId application.participant (fun state => state ≠ .applied)
    (application.delivered stamp)

theorem deliveries_applyDeliveries (application : Application) (stamp : PyStr)
    (states : List DeliveryState) :
    (applyDeliveries application stamp messageId db).deliveries =
      updateWhere (fun row => row.isAt messageId application.participant)
        (Answer.apply application stamp states).delivery db.deliveries := by
  have updated := updateWhere_and
    (fun row : DeliveryRow => row.isAt messageId application.participant)
    (fun row => decide (row.deliveryState ≠ .applied)) (application.delivered stamp) db.deliveries
  simp only [decide_eq_true_eq] at updated
  exact updated

theorem answered_settle (application : Application) (stamp : PyStr) (progress : Progress) :
    Answered (.apply application stamp
        (deliveryStates (applyDeliveries application stamp messageId progress.db) messageId))
      messageId application.participant progress.db
      (application.settle stamp { progress with
        db := applyDeliveries application stamp messageId progress.db } messageId).db := by
  unfold Application.settle
  dsimp only
  split
  · rename_i noDelivery
    refine ⟨deliveries_applyDeliveries application stamp _,
      (answered_none messageId application.participant progress.db).trajectories, [], ?_,
      List.nodup_nil, fun _ member => absurd member List.not_mem_nil⟩
    rw [List.append_nil]
    refine (updateWhere_eq_self fun row _ _ => ?_).symm
    exact if_pos noDelivery
  · rename_i someDelivery
    refine ⟨deliveries_applyDeliveries application stamp _,
      (answered_none messageId application.participant progress.db).trajectories, [], ?_,
      List.nodup_nil, fun _ member => absurd member List.not_mem_nil⟩
    rw [List.append_nil]
    simp only [Answer.apply, someDelivery, if_false]
    rfl

theorem Answered.insert {answer : Answer} {middle : OperatorDb} {row : MessageRow} {id : PyStr}
    (answered : Answered answer messageId participantId db middle) (isKey : row.messageId = id)
    (inserted : changed = { middle with
      messages := insertOrIgnore (fun other => other.messageId = id) row middle.messages }) :
    Answered answer messageId participantId db changed := by
  subst inserted isKey
  refine ⟨answered.deliveries, answered.trajectories, ?_⟩
  obtain ⟨replies, messagesEq, unique, fresh⟩ := answered.messages
  rcases insertOrIgnore_cases (fun other => other.messageId = row.messageId) row
    middle.messages with ⟨same, -⟩ | ⟨appended, free⟩
  · exact ⟨replies, same.trans messagesEq, unique, fresh⟩
  · have isNew : ∀ other ∈ middle.messages, other.messageId ≠ row.messageId :=
      fun other member => of_decide_eq_false (free other member)
    refine ⟨replies ++ [row], ?_, ?_, ?_⟩
    · rw [← List.append_assoc, ← messagesEq]
      exact appended
    · rw [List.map_append]
      refine List.Nodup.append unique (List.nodup_singleton _) fun id isReply isRow => ?_
      obtain ⟨reply, member, rfl⟩ := List.mem_map.mp isReply
      refine isNew reply ?_ (List.mem_singleton.mp isRow)
      rw [messagesEq]
      exact List.mem_append_right _ member
    · intro reply isReply other member
      rcases List.mem_append.mp isReply with old | isRow
      · exact fresh reply old other member
      · obtain rfl := List.mem_singleton.mp isRow
        obtain ⟨later, isLater, sameId⟩ := answered.hasMessage ⟨other, member, rfl⟩
        rw [← sameId]
        exact isNew later isLater

theorem answered_legacyStep {stamp : PyStr} {progress next : Progress}
    (returned : application.legacyStep stamp progress messageId = .ok next) :
    Answered (.apply application stamp (deliveryStates next.db messageId)) messageId
      application.participant progress.db next.db := by
  simp only [Application.legacyStep, bind_eq_ok] at returned
  obtain ⟨_, -, _, -, replied⟩ := returned
  have settled := @answered_settle messageId application stamp progress
  have states : deliveryStates (application.settle stamp { progress with
      db := applyDeliveries application stamp messageId progress.db } messageId).db messageId =
      deliveryStates (applyDeliveries application stamp messageId progress.db) messageId := by
    unfold Application.settle
    dsimp only
    split <;> rfl
  rw [← states] at settled
  unfold Application.replyIf at replied
  split at replied
  · obtain rfl := Except.ok.inj replied
    exact settled
  · split at replied
    · simp only [Application.reply, bind_eq_ok, pure_eq_ok] at replied
      obtain ⟨replyId, -, contentDigest, -, rfl⟩ := replied
      refine settled.insert ?_ rfl
      rfl
    · obtain rfl := Except.ok.inj replied
      exact settled

end Operations

/-! ### The whole application -/

/-- The rule of the loop: a step takes the invariant of the identities that are left to
that of the later ones. -/
theorem invariant_applyMessages
    {step : CallInputs → Progress → PyStr → Except PyError Progress}
    (Invariant : List PyStr → OperatorDb → Prop)
    (each : ∀ messageId later inputs progress next,
      Invariant (messageId :: later) progress.db →
      step inputs progress messageId = .ok next → Invariant later next.db)
    {ids : List PyStr} {inputs : CallInputs} {progress final : Progress}
    (initially : Invariant ids progress.db)
    (returned : applyMessages step ids inputs progress = .ok final) : Invariant [] final.db := by
  induction ids generalizing inputs progress with
  | nil =>
    obtain rfl := Except.ok.inj returned
    exact initially
  | cons messageId later ih =>
    simp only [applyMessages, bind_eq_ok] at returned
    obtain ⟨next, stepped, returned⟩ := returned
    exact ih (each messageId later inputs progress next initially stepped) returned

def answeredIds (result : List (PyStr × Json)) : List PyStr :=
  (namedMessages result).take 64

/-- What `note_assignment_application` does to the database: one of its three loops, and
an event. -/
inductive NoteEffect (application : Application) (input : List (PyStr × Json)) (ids : List PyStr)
    (inputs : CallInputs) (db changed : OperatorDb) : Prop
  | dual (fanout : isFanout input = true) (dual : isDual input = true) (progress : Progress)
      (looped : applyMessages application.dualStep ids (inputs.skip 1) ⟨db, 0, 0, []⟩ =
        .ok progress) (same : changed = progress.db)
  | fanout (fanout : isFanout input = true) (notDual : isDual input = false)
      (progress : Progress) (events : List EventRow)
      (looped : applyMessages application.fanoutStep ids (inputs.skip 2) ⟨db, 0, 0, []⟩ =
        .ok progress) (same : changed = { progress.db with events := events })
  | direct (notFanout : isFanout input = false) (progress : Progress) (events : List EventRow)
      (looped : applyMessages (fun _ => application.legacyStep (inputs.now 0)) ids
        (inputs.skip 2) ⟨db, 0, 0, []⟩ = .ok progress)
      (same : changed = { progress.db with events := events })

theorem exists_of_noteResponses {application : Application} {fanout : Bool} {ids : List PyStr}
    {inputs : CallInputs} {db changed : OperatorDb} {outcome : ApplicationOutcome}
    (returned : noteResponses db application fanout ids inputs = .ok (changed, outcome)) :
    ∃ progress events, applyMessages (if fanout then application.fanoutStep
        else fun _ => application.legacyStep (inputs.now 0)) ids (inputs.skip 2)
        ⟨db, 0, 0, []⟩ = .ok progress ∧ changed = { progress.db with events := events } := by
  simp only [noteResponses, bind_eq_ok] at returned
  obtain ⟨progress, looped, returned⟩ := returned
  refine ⟨progress, ?_⟩
  split at returned
  · obtain ⟨rfl, -⟩ := Prod.mk.inj (Except.ok.inj returned)
    exact ⟨_, looped, rfl⟩
  · simp only [event, bind_eq_ok, pure_eq_ok] at returned
    obtain ⟨⟨_, _⟩, ⟨_, -, _, -, evented⟩, same⟩ := returned
    obtain ⟨rfl, -⟩ := Prod.mk.inj evented
    obtain ⟨rfl, -⟩ := Prod.mk.inj same
    exact ⟨_, looped, rfl⟩

theorem noteEffect_of_noteApplication {row : AssignmentRow} {result : List (PyStr × Json)}
    {inputs : CallInputs} {db changed : OperatorDb} {outcome : ApplicationOutcome}
    (returned : noteApplication db row result inputs = .ok (changed, outcome)) :
    ∃ input participant, row.inputFields = .ok input ∧
      respondingParticipant row input result = .ok participant ∧
      NoteEffect (applicationOf row participant result) input (answeredIds result) inputs db
        changed := by
  simp only [noteApplication, bind_eq_ok] at returned
  obtain ⟨input, isInput, participant, isParticipant, _, -, returned⟩ := returned
  refine ⟨input, participant, isInput, isParticipant, ?_⟩
  split at returned
  · rename_i both
    simp only [noteDual, bind_eq_ok, pure_eq_ok] at returned
    obtain ⟨progress, looped, same⟩ := returned
    exact .dual both.1 both.2 progress looped (Prod.mk.inj same).1.symm
  · rename_i notBoth
    obtain ⟨progress, events, looped, same⟩ := exists_of_noteResponses returned
    cases isFan : isFanout input with
    | true =>
      rw [isFan] at looped
      exact .fanout isFan (by simpa [isFan] using notBoth) progress events looped same
    | false =>
      rw [isFan] at looped
      exact .direct isFan progress events looped same

/-! ### Calls -/

inductive AnswerCall
  | note (assignmentId : PyStr) (result : List (PyStr × Json)) (inputs : CallInputs)
  | record (messageId participantId : PyStr) (response resultDigest modelCallId : Json)
      (inputs : CallInputs)
  | fail (messageId participantId reason : PyStr) (inputs : CallInputs)
  | cancel (messageId participantId reason : PyStr) (inputs : CallInputs)

def committed {α : Type} (db : OperatorDb) : Except PyError (OperatorDb × α) → OperatorDb
  | .ok (changed, _) => changed
  | .error _ => db

def AnswerCall.execute (db : OperatorDb) : AnswerCall → OperatorDb
  | note assignmentId result inputs =>
    committed db (noteAssignmentApplication db assignmentId result inputs)
  | record messageId participantId response resultDigest modelCallId inputs =>
    committed db (recordProtocolModelResponse db messageId participantId response resultDigest
      modelCallId inputs)
  | fail messageId participantId reason inputs =>
    committed db (failProtocolTrajectory db messageId participantId reason inputs)
  | cancel messageId participantId reason inputs =>
    committed db (cancelProtocolTrajectory db messageId participantId reason inputs)

theorem committed_rule {α : Type} {db : OperatorDb} {holds : OperatorDb → Prop}
    {result : Except PyError (OperatorDb × α)} (raised : holds db)
    (returned : ∀ changed value, result = .ok (changed, value) → holds changed) :
    holds (committed db result) := by
  cases result with
  | ok pair => exact returned pair.1 pair.2 rfl
  | error error => exact raised

end OperatorControl

end CyberLion
