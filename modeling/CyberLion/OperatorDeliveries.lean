import CyberLion.OperatorIsolation

/-!
# Final deliveries and their trajectories

A delivery that is applied, failed or cancelled is final, and a trajectory ends with
its delivery.  The operations guard the two rows by different conditions: a response
looks at neither state, a failure and a cancellation guard the delivery only, and the
application of an assignment looks at no trajectory.  Over every run of calls that
meet no final row of the other kind, final deliveries keep their states and
trajectories agree with them.
-/

namespace CyberLion

namespace OperatorControl

open PyLib

structure StatesAgree (trajectory : TrajectoryState) (delivery : DeliveryState) : Prop where
  applied : trajectory = .responseReconciled ↔ delivery = .applied
  failed : trajectory = .failed ↔ delivery = .failed
  cancelled : trajectory = .cancelled ↔ delivery = .cancelled

/-- The tables of deliveries and trajectories: every trajectory has a delivery that
agrees with it. -/
structure DeliveryTables (db : OperatorDb) : Prop where
  keyed : Keyed db
  agrees : ∀ messageId participantId trajectory,
    findTrajectory db messageId participantId = some trajectory →
      ∃ delivery, findDelivery db messageId participantId = some delivery ∧
        StatesAgree trajectory.state delivery.deliveryState

def FinalKept (db changed : OperatorDb) : Prop :=
  ∀ messageId participantId delivery, findDelivery db messageId participantId = some delivery →
    delivery.deliveryState.isTerminal = true →
      ∃ later, findDelivery changed messageId participantId = some later ∧
        later.deliveryState = delivery.deliveryState

theorem FinalKept.refl (db : OperatorDb) : FinalKept db db :=
  fun _ _ delivery found _ => ⟨delivery, found, rfl⟩

theorem FinalKept.trans {db middle changed : OperatorDb} (first : FinalKept db middle)
    (second : FinalKept middle changed) : FinalKept db changed := by
  intro messageId participantId delivery found final
  obtain ⟨later, isLater, same⟩ := first messageId participantId delivery found final
  obtain ⟨last, isLast, again⟩ := second messageId participantId later isLater (same ▸ final)
  exact ⟨last, isLast, again.trans same⟩

/-! ### One operation -/

section Answered

variable {answer : Answer} {messageId participantId : PyStr} {db changed : OperatorDb}
  (answered : Answered answer messageId participantId db changed)
include answered

theorem Answered.findDelivery_eq (other recipient : PyStr) :
    findDelivery changed other recipient = (findDelivery db other recipient).map fun row =>
      if row.isAt messageId participantId then answer.delivery row else row := by
  rw [findDelivery, answered.deliveries]
  refine find?_updateWhere (fun row => ?_) db.deliveries
  obtain ⟨sameMessage, sameRecipient⟩ := answer.deliveryKey row
  rw [sameMessage, sameRecipient]

theorem Answered.findTrajectory_eq (other recipient : PyStr) :
    findTrajectory changed other recipient = (findTrajectory db other recipient).map fun row =>
      if row.isAt messageId participantId then answer.trajectory row else row := by
  rw [findTrajectory, answered.trajectories]
  refine find?_updateWhere (fun row => ?_) db.trajectories
  obtain ⟨-, sameMessage, sameParticipant⟩ := answer.trajectoryKey row
  rw [sameMessage, sameParticipant]

end Answered

theorem isAt_of_findDelivery {db : OperatorDb} {messageId participantId : PyStr}
    {row : DeliveryRow} (found : findDelivery db messageId participantId = some row) :
    row.messageId = messageId ∧ row.recipient = participantId :=
  deliveryRow_isAt.mp (List.find?_some (p := fun row : DeliveryRow =>
    row.isAt messageId participantId) found)

theorem Answered.findDelivery_other {answer : Answer} {messageId participantId other
    recipient : PyStr} {db changed : OperatorDb}
    (answered : Answered answer messageId participantId db changed)
    (different : ¬ (other = messageId ∧ recipient = participantId)) :
    findDelivery changed other recipient = findDelivery db other recipient := by
  rw [answered.findDelivery_eq]
  cases found : findDelivery db other recipient with
  | none => rfl
  | some row =>
    obtain ⟨rfl, rfl⟩ := isAt_of_findDelivery found
    rw [Option.map_some, if_neg (fun isAt => different (deliveryRow_isAt.mp isAt))]

theorem Answered.findTrajectory_other {answer : Answer} {messageId participantId other
    recipient : PyStr} {db changed : OperatorDb}
    (answered : Answered answer messageId participantId db changed)
    (different : ¬ (other = messageId ∧ recipient = participantId)) :
    findTrajectory changed other recipient = findTrajectory db other recipient := by
  rw [answered.findTrajectory_eq]
  cases found : findTrajectory db other recipient with
  | none => rfl
  | some row =>
    obtain ⟨rfl, rfl⟩ := trajectoryRow_isAt.mp (mem_of_findTrajectory found).2
    rw [Option.map_some, if_neg (fun isAt => different (trajectoryRow_isAt.mp isAt))]

theorem Answered.findDelivery_self {answer : Answer} {messageId participantId : PyStr}
    {db changed : OperatorDb} (answered : Answered answer messageId participantId db changed) :
    findDelivery changed messageId participantId =
      (findDelivery db messageId participantId).map answer.delivery := by
  rw [answered.findDelivery_eq]
  cases found : findDelivery db messageId participantId with
  | none => rfl
  | some row =>
    rw [Option.map_some, Option.map_some,
      if_pos (deliveryRow_isAt.mpr (isAt_of_findDelivery found))]

theorem Answered.findTrajectory_self {answer : Answer} {messageId participantId : PyStr}
    {db changed : OperatorDb} (answered : Answered answer messageId participantId db changed) :
    findTrajectory changed messageId participantId =
      (findTrajectory db messageId participantId).map answer.trajectory := by
  rw [answered.findTrajectory_eq]
  cases found : findTrajectory db messageId participantId with
  | none => rfl
  | some row =>
    rw [Option.map_some, Option.map_some, if_pos (mem_of_findTrajectory found).2]

/-- The tables after a step, and the final deliveries of the start. -/
structure Advanced (start db : OperatorDb) : Prop where
  tables : DeliveryTables db
  kept : FinalKept start db

/-- An operation that keeps the agreement of its own two rows, and the state of its own
delivery when it is final. -/
theorem Advanced.of_answered {start db changed : OperatorDb} {answer : Answer}
    {messageId participantId : PyStr} (advanced : Advanced start db)
    (answered : Answered answer messageId participantId db changed)
    (agrees : ∀ trajectory delivery, findTrajectory db messageId participantId = some trajectory →
      findDelivery db messageId participantId = some delivery →
      StatesAgree trajectory.state delivery.deliveryState →
      StatesAgree (answer.trajectory trajectory).state (answer.delivery delivery).deliveryState)
    (kept : ∀ delivery, findDelivery db messageId participantId = some delivery →
      delivery.deliveryState.isTerminal = true →
      (answer.delivery delivery).deliveryState = delivery.deliveryState) :
    Advanced start changed := by
  refine ⟨⟨answered.keyed advanced.tables.keyed, ?_⟩, advanced.kept.trans ?_⟩
  · intro other recipient row found
    by_cases own : other = messageId ∧ recipient = participantId
    · obtain ⟨rfl, rfl⟩ := own
      rw [answered.findTrajectory_self, Option.map_eq_some_iff] at found
      obtain ⟨trajectory, isTrajectory, rfl⟩ := found
      obtain ⟨delivery, isDelivery, before⟩ := advanced.tables.agrees _ _ _ isTrajectory
      refine ⟨answer.delivery delivery, ?_, agrees _ _ isTrajectory isDelivery before⟩
      rw [answered.findDelivery_self, isDelivery, Option.map_some]
    · rw [answered.findTrajectory_other own] at found
      rw [answered.findDelivery_other own]
      exact advanced.tables.agrees other recipient row found
  · intro other recipient row found final
    by_cases own : other = messageId ∧ recipient = participantId
    · obtain ⟨rfl, rfl⟩ := own
      rw [answered.findDelivery_self, found]
      exact ⟨_, rfl, kept row found final⟩
    · rw [answered.findDelivery_other own]
      exact ⟨row, found, rfl⟩

def AtRows (db : OperatorDb) (messageId participantId : PyStr)
    (condition : TrajectoryRow → DeliveryRow → Prop) : Prop :=
  ∀ trajectory delivery, findTrajectory db messageId participantId = some trajectory →
    findDelivery db messageId participantId = some delivery → condition trajectory delivery

theorem AtRows.other {answer : Answer} {messageId participantId other : PyStr}
    {db changed : OperatorDb} {condition : TrajectoryRow → DeliveryRow → Prop}
    (atRows : AtRows db other participantId condition)
    (answered : Answered answer messageId participantId db changed)
    (different : other ≠ messageId) : AtRows changed other participantId condition := by
  have apart : ¬ (other = messageId ∧ participantId = participantId) :=
    fun same => different same.1
  intro trajectory delivery isTrajectory isDelivery
  rw [answered.findTrajectory_other apart] at isTrajectory
  rw [answered.findDelivery_other apart] at isDelivery
  exact atRows trajectory delivery isTrajectory isDelivery

/-! ### Responses and ends -/

theorem statesAgree_applied : StatesAgree .responseReconciled .applied :=
  ⟨by simp, by simp, by simp⟩

theorem statesAgree_failed : StatesAgree .failed .failed :=
  ⟨by simp, by simp, by simp⟩

theorem statesAgree_cancelled : StatesAgree .cancelled .cancelled :=
  ⟨by simp, by simp, by simp⟩

theorem statesAgree_ready {trajectory : TrajectoryState} {delivery : DeliveryState}
    (ready : trajectory = .localResponseReady ∨ trajectory = .dualLocalResponseReady)
    (isOpen : delivery.isTerminal = false) : StatesAgree trajectory delivery := by
  cases delivery with
  | persisted => rcases ready with rfl | rfl <;> exact ⟨by simp, by simp, by simp⟩
  | _ => exact absurd isOpen (by simp [DeliveryState.isTerminal])

/-- What a response needs of its rows: it is a repeated one, or the delivery is neither
failed nor cancelled. -/
def TakesResponse (trajectory : TrajectoryRow) (delivery : DeliveryRow) : Prop :=
  isSet trajectory.responseMessageId = true ∨
    delivery.deliveryState ≠ .failed ∧ delivery.deliveryState ≠ .cancelled

theorem state_responded {changes : TrajectoryChanges} (isResponse : IsResponse changes)
    (now : PyStr) (row : TrajectoryRow) :
    (row.amended changes now).state = .responseReconciled := by
  rw [TrajectoryRow.amended, isResponse.state, Option.getD_some]

section Operations

variable {start db changed : OperatorDb} {messageId participantId : PyStr} {inputs : CallInputs}
  (advanced : Advanced start db)
include advanced

theorem Advanced.respond {stamp : PyStr} {assignmentId : Option PyStr} {answer : Answer}
    (answered : Answered answer messageId participantId db changed)
    (states : ∀ row, (answer.trajectory row).state = .responseReconciled)
    (deliveries : ∀ row, answer.delivery row = row.responded stamp assignmentId)
    (takes : ∀ delivery, findDelivery db messageId participantId = some delivery →
      delivery.deliveryState ≠ .failed ∧ delivery.deliveryState ≠ .cancelled) :
    Advanced start changed := by
  refine advanced.of_answered answered ?_ ?_
  · intro trajectory delivery _ _ _
    rw [states, deliveries]
    exact statesAgree_applied
  · intro delivery found final
    rw [deliveries]
    obtain ⟨notFailed, notCancelled⟩ := takes delivery found
    cases isState : delivery.deliveryState with
    | persisted => simp [isState, DeliveryState.isTerminal] at final
    | applied => rfl
    | failed => exact absurd isState notFailed
    | cancelled => exact absurd isState notCancelled

theorem Advanced.record {response resultDigest modelCallId : Json} {recorded : RecordedResponse}
    (takes : AtRows db messageId participantId TakesResponse)
    (returned : recordProtocolModelResponse db messageId participantId response resultDigest
      modelCallId inputs = .ok (changed, recorded)) : Advanced start changed := by
  obtain ⟨-, trajectory, isTrajectory, effect⟩ :=
    responseEffect_of_record advanced.tables.keyed returned
  cases effect with
  | repeated _ answered =>
    exact advanced.of_answered answered (fun _ _ _ _ agree => agree) (fun _ _ _ => rfl)
  | first isOpen changes isResponse answered =>
    refine advanced.respond answered (state_responded isResponse _) (fun _ => rfl)
      fun delivery isDelivery => ?_
    refine (takes trajectory delivery isTrajectory isDelivery).resolve_left ?_
    rw [isOpen]
    exact Bool.false_ne_true

theorem Advanced.finish {stamp now : PyStr} {ended : DeliveryState} {kept : List DeliveryState}
    {state : TrajectoryState} {trajectory : TrajectoryRow}
    (found : findTrajectory db messageId participantId = some trajectory)
    (agree : StatesAgree state ended)
    (ends : trajectory.state ≠ .responseReconciled → ∀ delivery : DeliveryState,
      StatesAgree trajectory.state delivery →
      kept.contains delivery = false ∧ (delivery.isTerminal = true → delivery = ended))
    (effect : EndEffect messageId participantId stamp now ended kept state trajectory db
      changed) : Advanced start changed := by
  cases effect with
  | reconciled _ same =>
    subst same
    exact advanced
  | finished isOpen changes isState _ answered =>
    obtain ⟨own, isOwn, ownAgree⟩ := advanced.tables.agrees _ _ _ found
    obtain ⟨notKept, sameEnd⟩ := ends isOpen own.deliveryState ownAgree
    have isEnded : ∀ delivery, findDelivery db messageId participantId = some delivery →
        ((Answer.finish ended kept stamp now changes
          (reconciledState changed messageId)).delivery delivery).deliveryState = ended := by
      intro delivery isDelivery
      obtain rfl := Option.some.inj (isOwn.symm.trans isDelivery)
      simp only [Answer.finish, notKept, Bool.not_false, if_true]
    refine advanced.of_answered answered ?_ ?_
    · intro row delivery isRow isDelivery _
      rw [isEnded delivery isDelivery]
      change StatesAgree (row.amended changes now).state ended
      rw [TrajectoryRow.amended, isState, Option.getD_some]
      exact agree
    · intro delivery isDelivery final
      rw [isEnded delivery isDelivery]
      obtain rfl := Option.some.inj (isOwn.symm.trans isDelivery)
      exact (sameEnd final).symm

theorem Advanced.fail {reason : PyStr} {ended : TrajectoryEnd}
    (notCancelled : AtRows db messageId participantId fun trajectory _ =>
      trajectory.state ≠ .cancelled)
    (returned : failProtocolTrajectory db messageId participantId reason inputs =
      .ok (changed, ended)) : Advanced start changed := by
  obtain ⟨trajectory, found, effect⟩ := endEffect_of_fail advanced.tables.keyed returned
  obtain ⟨own, isOwn, -⟩ := advanced.tables.agrees _ _ _ found
  refine advanced.finish found statesAgree_failed (fun isOpen delivery agree => ?_) effect
  cases delivery with
  | persisted => exact ⟨rfl, by simp [DeliveryState.isTerminal]⟩
  | applied => exact absurd (agree.applied.mpr rfl) isOpen
  | failed => exact ⟨rfl, fun _ => rfl⟩
  | cancelled =>
    exact absurd (agree.cancelled.mpr rfl) (notCancelled trajectory own found isOwn)

theorem Advanced.cancel {reason : PyStr} {ended : TrajectoryEnd}
    (notFailed : AtRows db messageId participantId fun trajectory _ =>
      trajectory.state ≠ .failed)
    (returned : cancelProtocolTrajectory db messageId participantId reason inputs =
      .ok (changed, ended)) : Advanced start changed := by
  obtain ⟨trajectory, found, effect⟩ := endEffect_of_cancel advanced.tables.keyed returned
  obtain ⟨own, isOwn, -⟩ := advanced.tables.agrees _ _ _ found
  refine advanced.finish found statesAgree_cancelled (fun isOpen delivery agree => ?_) effect
  cases delivery with
  | persisted => exact ⟨rfl, by simp [DeliveryState.isTerminal]⟩
  | applied => exact absurd (agree.applied.mpr rfl) isOpen
  | failed => exact absurd (agree.failed.mpr rfl) (notFailed trajectory own found isOwn)
  | cancelled => exact ⟨rfl, fun _ => rfl⟩

end Operations

/-! ### The steps of an application -/

/-- What a local answer needs of its rows: its response is the first and the delivery is
neither failed nor cancelled, or the delivery is not final. -/
def TakesAnswer (trajectory : TrajectoryRow) (delivery : DeliveryRow) : Prop :=
  if isSet trajectory.responseMessageId then delivery.deliveryState.isTerminal = false
  else delivery.deliveryState ≠ .failed ∧ delivery.deliveryState ≠ .cancelled

/-- What an application needs of the delivery: it is applied, or it is not final and has
no trajectory. -/
def TakesApplication (db : OperatorDb) (messageId participantId : PyStr) : Prop :=
  ∀ delivery, findDelivery db messageId participantId = some delivery →
    delivery.deliveryState = .applied ∨
      delivery.deliveryState.isTerminal = false ∧
        findTrajectory db messageId participantId = none

section Steps

variable {start : OperatorDb} {application : Application} {inputs : CallInputs}
  {progress next : Progress} {messageId : PyStr} (advanced : Advanced start progress.db)
include advanced

theorem Advanced.dualStep
    (isOpen : AtRows progress.db messageId application.participant fun _ delivery =>
      delivery.deliveryState.isTerminal = false)
    (returned : application.dualStep inputs progress messageId = .ok next) :
    Advanced start next.db := by
  obtain ⟨_, _, -, -, answered⟩ := answered_dualStep advanced.tables.keyed returned
  refine advanced.of_answered answered ?_ (fun _ _ _ => rfl)
  intro trajectory delivery isTrajectory isDelivery _
  exact statesAgree_ready (.inr rfl) (isOpen trajectory delivery isTrajectory isDelivery)

theorem Advanced.fanoutStep
    (takes : (responseText application.response).isSome = true →
      AtRows progress.db messageId application.participant TakesAnswer)
    (returned : application.fanoutStep inputs progress messageId = .ok next) :
    Advanced start next.db := by
  rcases fanoutEffect_of_fanoutStep advanced.tables.keyed returned with
    ⟨-, rfl⟩ | ⟨hasText, -, _, _, trajectory, -, found, effect⟩
  · exact advanced
  have each := fun delivery => takes hasText trajectory delivery found
  cases effect with
  | repeated responded answered =>
    refine advanced.of_answered answered ?_ (fun _ _ _ => rfl)
    intro row delivery _ isDelivery _
    have isOpen := each delivery isDelivery
    rw [TakesAnswer, if_pos responded] at isOpen
    exact statesAgree_ready (.inl rfl) isOpen
  | first notResponded changes isResponse answered =>
    refine advanced.respond answered (fun _ => state_responded isResponse _ _) (fun _ => rfl) ?_
    intro delivery isDelivery
    have takesFirst := each delivery isDelivery
    rw [TakesAnswer, if_neg (by simp [notResponded])] at takesFirst
    exact takesFirst

theorem Advanced.legacyStep {stamp : PyStr}
    (takes : TakesApplication progress.db messageId application.participant)
    (returned : application.legacyStep stamp progress messageId = .ok next) :
    Advanced start next.db := by
  refine advanced.of_answered (answered_legacyStep returned) ?_ ?_
  · intro trajectory delivery isTrajectory isDelivery agree
    rcases takes delivery isDelivery with applied | ⟨-, noTrajectory⟩
    · have same : (if delivery.deliveryState ≠ .applied then application.delivered stamp delivery
          else delivery) = delivery := if_neg (not_not.mpr applied)
      change StatesAgree trajectory.state (if delivery.deliveryState ≠ .applied then
        application.delivered stamp delivery else delivery).deliveryState
      rw [same]
      exact agree
    · rw [isTrajectory] at noTrajectory
      exact absurd noTrajectory (by simp)
  · intro delivery isDelivery final
    rcases takes delivery isDelivery with applied | ⟨isOpen, -⟩
    · exact congrArg DeliveryRow.deliveryState (if_neg (not_not.mpr applied))
    · rw [isOpen] at final
      exact absurd final Bool.false_ne_true

end Steps

theorem isOpen_dualStep {application : Application} {inputs : CallInputs}
    {progress next : Progress} {messageId other : PyStr} (keyed : Keyed progress.db)
    (isOpen : AtRows progress.db other application.participant fun _ delivery =>
      delivery.deliveryState.isTerminal = false)
    (returned : application.dualStep inputs progress messageId = .ok next) :
    AtRows next.db other application.participant fun _ delivery =>
      delivery.deliveryState.isTerminal = false := by
  obtain ⟨_, _, -, -, answered⟩ := answered_dualStep keyed returned
  by_cases own : other = messageId
  · subst own
    intro trajectory delivery isTrajectory isDelivery
    rw [answered.findTrajectory_self, Option.map_eq_some_iff] at isTrajectory
    rw [answered.findDelivery_self, Option.map_eq_some_iff] at isDelivery
    obtain ⟨before, isBefore, -⟩ := isTrajectory
    obtain ⟨same, isSame, rfl⟩ := isDelivery
    exact isOpen before same isBefore isSame
  · exact isOpen.other answered own

theorem takesApplication_legacyStep {application : Application} {stamp : PyStr}
    {progress next : Progress} {messageId other : PyStr}
    (takes : TakesApplication progress.db other application.participant)
    (returned : application.legacyStep stamp progress messageId = .ok next) :
    TakesApplication next.db other application.participant := by
  have answered := answered_legacyStep returned
  intro delivery isDelivery
  by_cases own : other = messageId
  · subst own
    left
    rw [answered.findDelivery_self, Option.map_eq_some_iff] at isDelivery
    obtain ⟨before, -, rfl⟩ := isDelivery
    change (if before.deliveryState ≠ .applied then application.delivered stamp before
      else before).deliveryState = .applied
    split
    · rfl
    · rename_i isApplied
      exact not_not.mp isApplied
  · have apart : ¬ (other = messageId ∧ application.participant = application.participant) :=
      fun same => own same.1
    rw [answered.findDelivery_other apart] at isDelivery
    rw [answered.findTrajectory_other apart]
    exact takes delivery isDelivery

theorem takesAnswer_fanoutStep {application : Application} {inputs : CallInputs}
    {progress next : Progress} {messageId other : PyStr} (keyed : Keyed progress.db)
    (takes : AtRows progress.db other application.participant TakesAnswer)
    (different : other ≠ messageId)
    (returned : application.fanoutStep inputs progress messageId = .ok next) :
    AtRows next.db other application.participant TakesAnswer := by
  rcases fanoutEffect_of_fanoutStep keyed returned with
    ⟨-, rfl⟩ | ⟨-, -, _, _, trajectory, -, -, effect⟩
  · exact takes
  · cases effect with
    | repeated _ answered => exact takes.other answered different
    | first _ _ _ answered => exact takes.other answered different

/-! ### The calls -/

def Application.Takes (application : Application) (input : List (PyStr × Json))
    (ids : List PyStr) (db : OperatorDb) : Prop :=
  if isFanout input = true then
    if isDual input = true then
      ∀ messageId ∈ ids, AtRows db messageId application.participant fun _ delivery =>
        delivery.deliveryState.isTerminal = false
    else (responseText application.response).isSome = true → ids.Nodup ∧
      ∀ messageId ∈ ids, AtRows db messageId application.participant TakesAnswer
  else ∀ messageId ∈ ids, TakesApplication db messageId application.participant

theorem Advanced.note {start db changed : OperatorDb} {application : Application}
    {input : List (PyStr × Json)} {ids : List PyStr} {inputs : CallInputs}
    (advanced : Advanced start db) (takes : application.Takes input ids db)
    (effect : NoteEffect application input ids inputs db changed) : Advanced start changed := by
  cases effect with
  | dual isFan isDouble progress looped same =>
    subst same
    rw [Application.Takes, if_pos isFan, if_pos isDouble] at takes
    have invariant := invariant_applyMessages (fun ids db => Advanced start db ∧
        ∀ messageId ∈ ids, AtRows db messageId application.participant fun _ delivery =>
          delivery.deliveryState.isTerminal = false)
      (fun messageId later _ _ _ ⟨advanced, isOpen⟩ stepped =>
        ⟨advanced.dualStep (isOpen messageId (.head _)) stepped, fun other member =>
          isOpen_dualStep advanced.tables.keyed (isOpen other (.tail _ member)) stepped⟩)
      ⟨advanced, takes⟩ looped
    exact invariant.1
  | fanout isFan notDouble progress events looped same =>
    subst same
    rw [Application.Takes, if_pos isFan, if_neg (by simp [notDouble])] at takes
    -- the messages that are left are other ones, so their rows are as they were
    have invariant := invariant_applyMessages (fun ids db => Advanced start db ∧
        ((responseText application.response).isSome = true → ids.Nodup ∧
          ∀ messageId ∈ ids, AtRows db messageId application.participant TakesAnswer))
      (fun messageId later _ _ _ ⟨advanced, takes⟩ stepped => by
        refine ⟨advanced.fanoutStep (fun hasText => (takes hasText).2 messageId (.head _))
          stepped, fun hasText => ?_⟩
        obtain ⟨unique, each⟩ := takes hasText
        obtain ⟨notLater, uniqueLater⟩ := List.nodup_cons.mp unique
        refine ⟨uniqueLater, fun other member => ?_⟩
        refine takesAnswer_fanoutStep advanced.tables.keyed (each other (.tail _ member)) ?_
          stepped
        rintro rfl
        exact notLater member)
      ⟨advanced, takes⟩ looped
    exact ⟨⟨⟨invariant.1.tables.keyed.messages, invariant.1.tables.keyed.deliveries,
      invariant.1.tables.keyed.trajectoryIds, invariant.1.tables.keyed.trajectories⟩,
      invariant.1.tables.agrees⟩, invariant.1.kept⟩
  | direct notFanout progress events looped same =>
    subst same
    rw [Application.Takes, if_neg (by simp [notFanout])] at takes
    have invariant := invariant_applyMessages (fun ids db => Advanced start db ∧
        ∀ messageId ∈ ids, TakesApplication db messageId application.participant)
      (fun messageId later _ _ _ ⟨advanced, takes⟩ stepped =>
        ⟨advanced.legacyStep (takes messageId (.head _)) stepped, fun other member =>
          takesApplication_legacyStep (takes other (.tail _ member)) stepped⟩)
      ⟨advanced, takes⟩ looped
    exact ⟨⟨⟨invariant.1.tables.keyed.messages, invariant.1.tables.keyed.deliveries,
      invariant.1.tables.keyed.trajectoryIds, invariant.1.tables.keyed.trajectories⟩,
      invariant.1.tables.agrees⟩, invariant.1.kept⟩

/-- The condition on a call: it meets no row that is final in another way. -/
def AnswerCall.Takes (db : OperatorDb) : AnswerCall → Prop
  | note assignmentId result _ => ∀ row input participant,
      findAssignment db assignmentId = some row → row.inputFields = .ok input →
      respondingParticipant row input result = .ok participant →
      (applicationOf row participant result).Takes input (answeredIds result) db
  | record messageId participantId _ _ _ _ => AtRows db messageId participantId TakesResponse
  | fail messageId participantId _ _ =>
    AtRows db messageId participantId fun trajectory _ => trajectory.state ≠ .cancelled
  | cancel messageId participantId _ _ =>
    AtRows db messageId participantId fun trajectory _ => trajectory.state ≠ .failed

theorem Advanced.execute {start db : OperatorDb} (advanced : Advanced start db)
    {call : AnswerCall} (takes : call.Takes db) : Advanced start (call.execute db) := by
  cases call with
  | note assignmentId result inputs =>
    refine committed_rule advanced fun changed outcome returned => ?_
    rw [noteAssignmentApplication] at returned
    split at returned
    · simp at returned
    · rename_i row isRow
      obtain ⟨input, participant, isInput, isParticipant, effect⟩ :=
        noteEffect_of_noteApplication returned
      exact advanced.note (takes row input participant isRow isInput isParticipant) effect
  | record messageId participantId response resultDigest modelCallId inputs =>
    exact committed_rule advanced fun _ _ returned => advanced.record takes returned
  | fail messageId participantId reason inputs =>
    exact committed_rule advanced fun _ _ returned => advanced.fail takes returned
  | cancel messageId participantId reason inputs =>
    exact committed_rule advanced fun _ _ returned => advanced.cancel takes returned

/-- Over every run of calls that meet the condition, every trajectory agrees with its
delivery, and a final delivery keeps its state from then on. -/
theorem deliveries_final_once {db : OperatorDb} (tables : DeliveryTables db)
    {calls : List AnswerCall} (takes : EachMeets AnswerCall.execute AnswerCall.Takes db calls) :
    ∀ first second third, calls = first ++ second ++ third →
      DeliveryTables (first.foldl AnswerCall.execute db) ∧
        FinalKept (first.foldl AnswerCall.execute db)
          ((first ++ second).foldl AnswerCall.execute db) := by
  rintro first second third rfl
  have step : ∀ start db call, Advanced start db → AnswerCall.Takes db call →
      Advanced start (AnswerCall.execute db call) := fun _ _ _ advanced takes =>
    advanced.execute takes
  obtain ⟨firstTakes, secondTakes⟩ := takes.of_append.1.of_append
  have reached := invariant_of_eachMeets (step db) ⟨tables, .refl db⟩ firstTakes
  refine ⟨reached.tables, ?_⟩
  rw [List.foldl_append]
  exact (invariant_of_eachMeets (step _) ⟨reached.tables, .refl _⟩ secondTakes).kept

def trajectoryDb : OperatorDb :=
  { sharedWorkerDb with
    trajectories := [⟨py "T", py "X", py "M2", py "worker:MD001", .localRoute, none, none, none,
      none, .intentDurable, none, none, [], []⟩] }

theorem deliveryTables_trajectoryDb : DeliveryTables trajectoryDb where
  keyed := ⟨by decide, by decide, by decide, by decide⟩
  agrees := by
    intro messageId participantId trajectory found
    obtain ⟨member, isAt⟩ := mem_of_findTrajectory found
    obtain rfl := List.mem_singleton.mp member
    obtain ⟨rfl, rfl⟩ := trajectoryRow_isAt.mp isAt
    exact ⟨_, rfl, by decide, by decide, by decide⟩

def cancelCall : AnswerCall :=
  .cancel (py "X") (py "worker:MD001") (py "paused") ⟨fun _ => [], fun _ => []⟩

/-- The cancellation of an open delivery. -/
theorem deliveries_final_once_cancel :
    DeliveryTables ([cancelCall].foldl AnswerCall.execute trajectoryDb) ∧
      FinalKept ([cancelCall].foldl AnswerCall.execute trajectoryDb)
        (([cancelCall] ++ []).foldl AnswerCall.execute trajectoryDb) := by
  refine deliveries_final_once deliveryTables_trajectoryDb (fun first call second same => ?_)
    [cancelCall] [] [] rfl
  have same : [cancelCall] = first ++ call :: second := same
  cases first with
  | nil =>
    obtain ⟨rfl, -⟩ := List.cons.inj same
    intro trajectory delivery isTrajectory _
    obtain rfl := List.mem_singleton.mp (mem_of_findTrajectory isTrajectory).1
    simp
  | cons head tail => exact absurd (List.cons.inj same).2 (by simp)

def lateResponse : AnswerCall :=
  .record (py "X") (py "worker:MD001") (.str (py "done")) .null .null ⟨fun _ => [], fun _ => []⟩

/-- A late response makes a cancelled delivery `APPLIED`. -/
theorem exists_final_changed :
    ¬ ∀ (db : OperatorDb) (calls : List AnswerCall), DeliveryTables db →
      ∀ first second third, calls = first ++ second ++ third →
        DeliveryTables (first.foldl AnswerCall.execute db) ∧
          FinalKept (first.foldl AnswerCall.execute db)
            ((first ++ second).foldl AnswerCall.execute db) := by
  intro always
  have kept := (always trajectoryDb [cancelCall, lateResponse] deliveryTables_trajectoryDb
    [cancelCall] [lateResponse] [] rfl).2
  have isCancelled : (findDelivery ([cancelCall].foldl AnswerCall.execute trajectoryDb) (py "X")
      (py "worker:MD001")).map DeliveryRow.deliveryState = some .cancelled := by
    decide +kernel
  have isApplied : (findDelivery ([cancelCall, lateResponse].foldl AnswerCall.execute
      trajectoryDb) (py "X") (py "worker:MD001")).map DeliveryRow.deliveryState =
      some .applied := by
    decide +kernel
  obtain ⟨delivery, found, state⟩ := Option.map_eq_some_iff.mp isCancelled
  obtain ⟨later, isLater, same⟩ := kept _ _ delivery found (by rw [state]; rfl)
  rw [List.singleton_append] at isLater
  rw [isLater, Option.map_some, same, state] at isApplied
  exact absurd isApplied (by simp)

end OperatorControl

end CyberLion
