import CyberLion.OperatorIsolation

/-!
# The state of a message

The state of a message is a function of the states of its deliveries.  Two paths
maintain it: `_reconcile_protocol_message_state` computes the function, and the
application of an assignment that is no fan-out writes `APPLIED` or `PARTIAL`.
-/

namespace CyberLion

namespace OperatorControl

open PyLib

/-! ### The function -/

structure DeterminedBy (states : List DeliveryState) (state : MessageState) : Prop where
  applied : state = .applied ↔ ∀ delivery ∈ states, delivery = .applied
  failed : state = .failed ↔ ∀ delivery ∈ states, delivery = .failed
  cancelled : state = .cancelled ↔ ∀ delivery ∈ states, delivery = .cancelled
  pending : state = .pending ↔ ∀ delivery ∈ states,
    delivery ≠ .applied ∧ delivery ≠ .failed ∧ delivery ≠ .cancelled
  otherwise : state ≠ .applied → state ≠ .failed → state ≠ .cancelled → state ≠ .pending →
    state = .partially

theorem count_eq_length_iff {states : List DeliveryState} {state : DeliveryState} :
    states.count state = states.length ↔ ∀ delivery ∈ states, delivery = state := by
  rw [List.count_eq_length]
  exact forall₂_congr fun delivery _ => eq_comm

theorem length_pos_of_ne_nil {states : List DeliveryState} (some : states ≠ []) :
    states.length ≠ 0 :=
  fun none => some (List.eq_nil_of_length_eq_zero none)

theorem terminal_eq_zero_iff {states : List DeliveryState} :
    states.count .applied + states.count .failed + states.count .cancelled = 0 ↔
      ∀ delivery ∈ states,
        delivery ≠ .applied ∧ delivery ≠ .failed ∧ delivery ≠ .cancelled := by
  simp only [Nat.add_eq_zero_iff, List.count_eq_zero]
  constructor
  · rintro ⟨⟨applied, failed⟩, cancelled⟩ delivery member
    refine ⟨?_, ?_, ?_⟩
    · rintro rfl
      exact applied member
    · rintro rfl
      exact failed member
    · rintro rfl
      exact cancelled member
  · intro none
    exact ⟨⟨fun member => (none _ member).1 rfl, fun member => (none _ member).2.1 rfl⟩,
      fun member => (none _ member).2.2 rfl⟩

theorem state_countDeliveries {states : List DeliveryState} (some : states ≠ []) :
    (countDeliveries states).state =
      if ∀ delivery ∈ states, delivery = .applied then .applied
      else if ∀ delivery ∈ states, delivery = .failed then .failed
      else if ∀ delivery ∈ states, delivery = .cancelled then .cancelled
      else if ∀ delivery ∈ states,
        delivery ≠ .applied ∧ delivery ≠ .failed ∧ delivery ≠ .cancelled then .pending
      else .partially := by
  have notEmpty := length_pos_of_ne_nil some
  simp only [countDeliveries, notEmpty, ne_eq, not_false_eq_true, true_and, count_eq_length_iff,
    terminal_eq_zero_iff, ite_not]

theorem determinedBy_countDeliveries {states : List DeliveryState} (some : states ≠ []) :
    DeterminedBy states (countDeliveries states).state := by
  obtain ⟨first, isFirst⟩ := List.exists_mem_of_ne_nil states some
  have apart : ∀ {is other : DeliveryState → Prop}, (∀ delivery, is delivery → ¬ other delivery) →
      (∀ delivery ∈ states, is delivery) → ¬ ∀ delivery ∈ states, other delivery :=
    fun disjoint all others => disjoint first (all first isFirst) (others first isFirst)
  rw [state_countDeliveries some]
  by_cases applied : ∀ delivery ∈ states, delivery = .applied
  · rw [if_pos applied]
    exact ⟨iff_of_true rfl applied, iff_of_false nofun (apart (by simp) applied),
      iff_of_false nofun (apart (by simp) applied), iff_of_false nofun (apart (by simp) applied),
      fun absurdity => absurd rfl absurdity⟩
  rw [if_neg applied]
  by_cases failed : ∀ delivery ∈ states, delivery = .failed
  · rw [if_pos failed]
    exact ⟨iff_of_false nofun applied, iff_of_true rfl failed,
      iff_of_false nofun (apart (by simp) failed), iff_of_false nofun (apart (by simp) failed),
      fun _ absurdity => absurd rfl absurdity⟩
  rw [if_neg failed]
  by_cases cancelled : ∀ delivery ∈ states, delivery = .cancelled
  · rw [if_pos cancelled]
    exact ⟨iff_of_false nofun applied, iff_of_false nofun failed, iff_of_true rfl cancelled,
      iff_of_false nofun (apart (by simp) cancelled), fun _ _ absurdity => absurd rfl absurdity⟩
  rw [if_neg cancelled]
  split
  · rename_i pending
    exact ⟨iff_of_false nofun applied, iff_of_false nofun failed, iff_of_false nofun cancelled,
      iff_of_true rfl pending, fun _ _ _ absurdity => absurd rfl absurdity⟩
  · rename_i notPending
    exact ⟨iff_of_false nofun applied, iff_of_false nofun failed, iff_of_false nofun cancelled,
      iff_of_false nofun notPending, fun _ _ _ _ => rfl⟩

theorem stateAfter_eq_or (states : List DeliveryState) :
    Application.stateAfter states = .applied ∨ Application.stateAfter states = .partially := by
  unfold Application.stateAfter
  split
  · exact .inl rfl
  · exact .inr rfl

/-- What an application writes is the state that the deliveries determine exactly when
that is one of the two. -/
theorem stateAfter_eq_iff {states : List DeliveryState} (some : states ≠ []) :
    Application.stateAfter states = (countDeliveries states).state ↔
      (countDeliveries states).state = .applied ∨ (countDeliveries states).state = .partially := by
  have determined := determinedBy_countDeliveries some
  constructor
  · intro same
    rw [← same]
    exact stateAfter_eq_or states
  · rintro (applied | isPartial)
    · rw [applied]
      exact stateAfter_eq_applied.mpr (determined.applied.mp applied)
    · rw [isPartial]
      refine (stateAfter_eq_or states).resolve_left fun applied => ?_
      rw [determined.applied.mpr (stateAfter_eq_applied.mp applied)] at isPartial
      exact absurd isPartial (by simp)

theorem state_of_applied_mem {states : List DeliveryState} (applied : .applied ∈ states) :
    (countDeliveries states).state = .applied ∨ (countDeliveries states).state = .partially := by
  have determined := determinedBy_countDeliveries (List.ne_nil_of_mem applied)
  by_cases isApplied : (countDeliveries states).state = .applied
  · exact .inl isApplied
  · refine .inr (determined.otherwise isApplied ?_ ?_ ?_)
    · exact fun failed => absurd (determined.failed.mp failed _ applied) (by simp)
    · exact fun cancelled => absurd (determined.cancelled.mp cancelled _ applied) (by simp)
    · exact fun pending => (determined.pending.mp pending _ applied).1 rfl

/-! ### The invariant -/

/-- The tables of messages and deliveries: every delivery has its message, and the state
of a message is the one that its deliveries determine. -/
structure MessageTables (db : OperatorDb) : Prop where
  keyed : Keyed db
  owned : ∀ delivery ∈ db.deliveries, HasMessage db delivery.messageId
  agrees : ∀ message ∈ db.messages, deliveryStates db message.messageId ≠ [] →
    message.state = reconciledState db message.messageId

theorem deliveryStates_eq_nil {db : OperatorDb} {messageId : PyStr} :
    deliveryStates db messageId = [] ↔
      ∀ delivery ∈ db.deliveries, delivery.messageId ≠ messageId := by
  simp [deliveryStates, List.filter_eq_nil_iff]

section Answered

variable {answer : Answer} {messageId participantId : PyStr} {db changed : OperatorDb}
  (answered : Answered answer messageId participantId db changed)
include answered

theorem Answered.deliveryStates_other {other : PyStr} (different : messageId ≠ other) :
    deliveryStates changed other = deliveryStates db other := by
  rw [deliveryStates, deliveryStates, answered.deliveries, filter_updateWhere]
  intro row _ selected
  obtain ⟨rfl, -⟩ := deliveryRow_isAt.mp selected
  rw [(answer.deliveryKey row).1]
  exact ⟨decide_eq_false different, decide_eq_false different⟩

theorem Answered.exists_delivery {other recipient : PyStr}
    (old : ∃ delivery ∈ db.deliveries, delivery.isAt other recipient = true) :
    ∃ delivery ∈ changed.deliveries, delivery.isAt other recipient = true := by
  obtain ⟨delivery, member, isAt⟩ := old
  rw [answered.deliveries]
  refine ⟨_, mem_updateWhere.mpr ⟨delivery, member, rfl⟩, ?_⟩
  split
  · obtain ⟨sameMessage, sameRecipient⟩ := answer.deliveryKey delivery
    rw [deliveryRow_isAt] at isAt ⊢
    rw [sameMessage, sameRecipient]
    exact isAt
  · exact isAt

theorem Answered.deliveries_eq
    (none : ¬ ∃ delivery ∈ db.deliveries, delivery.isAt messageId participantId = true) :
    changed.deliveries = db.deliveries := by
  rw [answered.deliveries]
  exact updateWhere_eq_self fun delivery member isAt => absurd ⟨delivery, member, isAt⟩ none

theorem MessageTables.keep (tables : MessageTables db)
    (own : ∀ message ∈ db.messages, message.messageId = messageId →
      deliveryStates changed messageId ≠ [] →
      (answer.message message).state = reconciledState changed messageId) :
    MessageTables changed := by
  have keys : ∀ delivery ∈ changed.deliveries, ∃ old ∈ db.deliveries,
      delivery.messageId = old.messageId := by
    intro delivery member
    rw [answered.deliveries, mem_updateWhere] at member
    obtain ⟨old, isOld, rfl⟩ := member
    refine ⟨old, isOld, ?_⟩
    split
    · exact (answer.deliveryKey old).1
    · rfl
  refine ⟨answered.keyed tables.keyed, ?_, ?_⟩
  · intro delivery member
    obtain ⟨old, isOld, same⟩ := keys delivery member
    rw [same]
    exact answered.hasMessage (tables.owned old isOld)
  · obtain ⟨replies, messagesEq, -, fresh⟩ := answered.messages
    intro message member
    rw [messagesEq, List.mem_append, mem_updateWhere] at member
    rcases member with ⟨old, isOld, rfl⟩ | isReply
    · by_cases isOwn : old.messageId = messageId
      · rw [if_pos (decide_eq_true isOwn), answer.messageKey old, isOwn]
        exact own old isOld isOwn
      · rw [if_neg (by simpa using isOwn), reconciledState,
          answered.deliveryStates_other (Ne.symm isOwn)]
        exact tables.agrees old isOld
    · -- no delivery has the identity of the reply
      intro someDelivery
      refine absurd (deliveryStates_eq_nil.mpr fun delivery isDelivery same => ?_) someDelivery
      obtain ⟨old, isOld, sameKey⟩ := keys delivery isDelivery
      obtain ⟨owner, isOwner, ownerKey⟩ := tables.owned old isOld
      exact fresh message isReply owner isOwner (ownerKey.trans (sameKey.symm.trans same))

end Answered

/-! ### The operations -/

section Operations

variable {db changed : OperatorDb} {messageId participantId : PyStr} {inputs : CallInputs}
  (tables : MessageTables db)
include tables

theorem MessageTables.record {response resultDigest modelCallId : Json}
    {recorded : RecordedResponse}
    (returned : recordProtocolModelResponse db messageId participantId response resultDigest
      modelCallId inputs = .ok (changed, recorded)) : MessageTables changed := by
  obtain ⟨-, trajectory, -, effect⟩ := responseEffect_of_record tables.keyed returned
  cases effect with
  | repeated _ answered => exact tables.keep answered fun _ _ _ _ => rfl
  | first _ changes _ answered => exact tables.keep answered fun _ _ _ _ => rfl

theorem MessageTables.finish {stamp now : PyStr} {delivery : DeliveryState}
    {kept : List DeliveryState} {state : TrajectoryState} {trajectory : TrajectoryRow}
    (effect : EndEffect messageId participantId stamp now delivery kept state trajectory db
      changed) : MessageTables changed := by
  cases effect with
  | reconciled _ same =>
    subst same
    exact tables
  | finished _ changes _ _ answered => exact tables.keep answered fun _ _ _ _ => rfl

theorem MessageTables.fail {reason : PyStr} {ended : TrajectoryEnd}
    (returned : failProtocolTrajectory db messageId participantId reason inputs =
      .ok (changed, ended)) : MessageTables changed := by
  obtain ⟨trajectory, -, effect⟩ := endEffect_of_fail tables.keyed returned
  exact tables.finish effect

theorem MessageTables.cancel {reason : PyStr} {ended : TrajectoryEnd}
    (returned : cancelProtocolTrajectory db messageId participantId reason inputs =
      .ok (changed, ended)) : MessageTables changed := by
  obtain ⟨trajectory, -, effect⟩ := endEffect_of_cancel tables.keyed returned
  exact tables.finish effect

end Operations

/-- What an application gives the message is the state that its deliveries determine: it
has none, or one to the participant, or one of the two states already. -/
def Application.Settles (application : Application) (db : OperatorDb) (messageId : PyStr) : Prop :=
  deliveryStates db messageId = [] ∨
    (∃ delivery ∈ db.deliveries, delivery.isAt messageId application.participant = true) ∨
    reconciledState db messageId = .applied ∨ reconciledState db messageId = .partially

/-! ### The steps of an application -/

section Steps

variable {application : Application} {inputs : CallInputs} {progress next : Progress}
  {messageId : PyStr} (tables : MessageTables progress.db)
include tables

theorem MessageTables.dualStep
    (returned : application.dualStep inputs progress messageId = .ok next) :
    MessageTables next.db := by
  obtain ⟨_, _, -, -, answered⟩ := answered_dualStep tables.keyed returned
  have same : deliveryStates next.db messageId = deliveryStates progress.db messageId := by
    have deliveries : next.db.deliveries = progress.db.deliveries :=
      answered.deliveries.trans (updateWhere_eq_self fun _ _ _ => rfl)
    rw [deliveryStates, deliveries, deliveryStates]
  refine tables.keep answered fun message member isOwn someDelivery => ?_
  rw [reconciledState, same] at *
  subst isOwn
  exact tables.agrees message member someDelivery

theorem MessageTables.fanoutStep
    (returned : application.fanoutStep inputs progress messageId = .ok next) :
    MessageTables next.db := by
  rcases fanoutEffect_of_fanoutStep tables.keyed returned with ⟨-, rfl⟩ |
    ⟨-, -, _, _, _, -, -, effect⟩
  · exact tables
  · cases effect with
    | repeated _ answered => exact tables.keep answered fun _ _ _ _ => rfl
    | first _ _ _ answered => exact tables.keep answered fun _ _ _ _ => rfl

theorem MessageTables.legacyStep {stamp : PyStr}
    (settles : application.Settles progress.db messageId)
    (returned : application.legacyStep stamp progress messageId = .ok next) :
    MessageTables next.db := by
  have answered := answered_legacyStep returned
  refine tables.keep answered fun message _ _ someDelivery => ?_
  change (if deliveryStates next.db messageId = [] then message
    else application.settled stamp
      (Application.stateAfter (deliveryStates next.db messageId)) message).state = _
  rw [if_neg someDelivery]
  change Application.stateAfter (deliveryStates next.db messageId) = _
  rw [reconciledState, stateAfter_eq_iff someDelivery]
  by_cases own : ∃ delivery ∈ progress.db.deliveries,
      delivery.isAt messageId application.participant = true
  · obtain ⟨delivery, member, isAt⟩ := own
    apply state_of_applied_mem
    have isKey := (deliveryRow_isAt.mp isAt).1
    rw [deliveryStates, answered.deliveries, List.mem_map]
    refine ⟨_, List.mem_filter.mpr ⟨mem_updateWhere_of_selected member isAt, ?_⟩, ?_⟩
    · rw [(Answer.deliveryKey _ delivery).1]
      exact decide_eq_true isKey
    · change (if delivery.deliveryState ≠ .applied then application.delivered stamp delivery
        else delivery).deliveryState = .applied
      split
      · rfl
      · rename_i isApplied
        exact not_not.mp isApplied
  · have same : deliveryStates next.db messageId = deliveryStates progress.db messageId := by
      rw [deliveryStates, answered.deliveries_eq own, deliveryStates]
    rw [same] at someDelivery ⊢
    exact (settles.resolve_left someDelivery).resolve_left own

end Steps

theorem settles_legacyStep {application : Application} {progress next : Progress}
    {messageId other stamp : PyStr} (settles : application.Settles progress.db other)
    (returned : application.legacyStep stamp progress messageId = .ok next) :
    application.Settles next.db other := by
  have answered := answered_legacyStep returned
  by_cases own : ∃ delivery ∈ progress.db.deliveries,
      delivery.isAt other application.participant = true
  · exact .inr (.inl (answered.exists_delivery own))
  · have same : deliveryStates next.db other = deliveryStates progress.db other := by
      by_cases different : messageId = other
      · subst different
        rw [deliveryStates, answered.deliveries_eq own, deliveryStates]
      · exact answered.deliveryStates_other different
    rcases settles with none | exists' | state
    · exact .inl (same.trans none)
    · exact absurd exists' own
    · rw [Application.Settles, reconciledState, same]
      exact .inr (.inr state)

/-! ### Commands -/

def storeDeliveries (messageId : PyStr) (recipients : List (PyStr × CognitionRoute))
    (deliveries : List DeliveryRow) : List DeliveryRow :=
  recipients.foldl (fun rows recipient =>
    insertOrIgnore (fun row => row.isAt messageId recipient.1) (newDelivery messageId recipient.1)
      rows) deliveries

theorem tables_foldl_addRecipient (messageId : PyStr) (recipients : List (PyStr × CognitionRoute))
    (db : OperatorDb) :
    (recipients.foldl (addRecipient messageId) db).messages = db.messages ∧
      (recipients.foldl (addRecipient messageId) db).trajectories = db.trajectories ∧
      (recipients.foldl (addRecipient messageId) db).deliveries =
        storeDeliveries messageId recipients db.deliveries := by
  induction recipients generalizing db with
  | nil => exact ⟨rfl, rfl, rfl⟩
  | cons recipient recipients ih => exact ih (addRecipient messageId db recipient)

inductive StoreEffect (command : OperatorCommand) (db changed : OperatorDb) : Prop
  | none (messages : changed.messages = db.messages)
      (trajectories : changed.trajectories = db.trajectories)
      (deliveries : changed.deliveries = db.deliveries)
  | stored (isMessage : command.action = .message ∨ command.action = .annotate)
      (messageId : PyStr) (named : messageIdOf command.commandId command.target = .ok messageId)
      (row : MessageRow) (recipients : List (PyStr × CognitionRoute))
      (hasId : row.messageId = messageId) (start : recipients ≠ [] → row.state = .pending)
      (messages : changed.messages =
        insertOrIgnore (fun other => other.messageId = messageId) row db.messages)
      (trajectories : changed.trajectories = db.trajectories)
      (deliveries : changed.deliveries = storeDeliveries messageId recipients db.deliveries)

theorem storeEffect_of_sendMessage {command : OperatorCommand} {db changed : OperatorDb}
    {state : ControlRow} {inputs : CallInputs} {participantId : PyStr} {outcome : ActionOutcome}
    (isMessage : command.action = .message ∨ command.action = .annotate)
    (returned : sendMessage db command state inputs participantId = .ok (changed, outcome)) :
    StoreEffect command db changed := by
  simp only [sendMessage, storeMessage, bind_eq_ok, pure_eq_ok] at returned
  obtain ⟨_, ⟨_, -, messageId, named, recipients, -, routes, routed, _, -, _, -, _, -, rfl⟩,
    same⟩ := returned
  obtain ⟨rfl, -⟩ := Prod.mk.inj same
  obtain ⟨messages, trajectories, deliveries⟩ := tables_foldl_addRecipient messageId routes _
  refine .stored isMessage messageId named _ routes ?_ ?_ messages trajectories deliveries
  · rfl
  · intro some
    have named : recipients ≠ [] := by
      rw [← map_fst_of_messageRoutes routed]
      simpa using some
    exact if_neg named

theorem storeEffect_of_applyAction {command : OperatorCommand} {db changed : OperatorDb}
    {state : ControlRow} {inputs : CallInputs} {principalId participantId : PyStr}
    {outcome : ActionOutcome} (found : findControl db command.missionId = some state)
    (returned : applyAction db command state principalId participantId inputs =
      .ok (changed, outcome)) : StoreEffect command db changed := by
  by_cases isMessage : command.action = .message ∨ command.action = .annotate
  · have sent : sendMessage db command state inputs participantId = .ok (changed, outcome) := by
      rw [← returned, applyAction]
      rcases isMessage with isMessage | isMessage <;> rw [isMessage]
    exact storeEffect_of_sendMessage isMessage sent
  · have effect := effect_of_applyAction found returned
    generalize command.action = action at effect isMessage
    cases effect with
    | message _ isOne => exact absurd isOne isMessage
    | _ => exact .none rfl rfl rfl

def messageTables (db : OperatorDb) :
    List MessageRow × List DeliveryRow × List TrajectoryRow :=
  (db.messages, db.deliveries, db.trajectories)

theorem StoreEffect.congr {command : OperatorCommand} {db other changed later : OperatorDb}
    (effect : StoreEffect command db changed) (before : messageTables other = messageTables db)
    (after : messageTables later = messageTables changed) :
    StoreEffect command other later := by
  simp only [messageTables, Prod.mk.injEq] at before after
  obtain ⟨messages, deliveries, trajectories⟩ := before
  obtain ⟨laterMessages, laterDeliveries, laterTrajectories⟩ := after
  cases effect with
  | none sameMessages sameTrajectories sameDeliveries =>
    refine .none ?_ ?_ ?_
    · rw [laterMessages, sameMessages, messages]
    · rw [laterTrajectories, sameTrajectories, trajectories]
    · rw [laterDeliveries, sameDeliveries, deliveries]
  | stored isMessage messageId named row recipients hasId start storedMessages sameTrajectories
      storedDeliveries =>
      refine .stored isMessage messageId named row recipients hasId start ?_ ?_ ?_
      · rw [laterMessages, storedMessages, messages]
      · rw [laterTrajectories, sameTrajectories, trajectories]
      · rw [laterDeliveries, storedDeliveries, deliveries]

theorem Ensured.messageTables_eq {db changed : OperatorDb} {missionId : PyStr}
    {state : ControlRow} (ensured : Ensured db missionId changed state) :
    messageTables changed = messageTables db := by
  cases ensured <;> rfl

theorem storeEffect_of_commit {admission : Admission} {db changed : OperatorDb}
    {inputs : CallInputs} {receipt : List (PyStr × Json)}
    (returned : admission.commit db inputs = .ok (changed, receipt)) :
    (∀ row ∈ db.commands, row.commandId ≠ admission.command.commandId) ∧
      StoreEffect admission.command db changed := by
  simp only [Admission.commit, Admission.start, bind_eq_ok, insertRow_eq_ok,
    pure_eq_ok, decide_eq_false_iff_not] at returned
  obtain ⟨⟨_, _⟩, ⟨⟨started, state⟩, ensuring, _, -, commandDigest, -, payloadJson, -, _,
    ⟨free, rfl⟩, same⟩, ⟨applied, outcome⟩, applying, completing⟩ := returned
  obtain ⟨rfl, rfl⟩ := Prod.mk.inj same
  have ensured := ensured_of_ensureControlState ensuring
  rw [commands_of_ensured ensured] at free
  refine ⟨free, ?_⟩
  have effect := storeEffect_of_applyAction (by exact ensured.findControl_eq) applying
  simp only [Admission.complete, event, bind_eq_ok, insertRow_eq_ok, pure_eq_ok] at completing
  obtain ⟨⟨final, _⟩, ensuringAgain, resultJson, -, ⟨_, _⟩, ⟨_, -, _, -, events⟩, _, -, _, -, _,
    -, _, ⟨-, rfl⟩, same⟩ := completing
  obtain ⟨rfl, -⟩ := Prod.mk.inj events
  obtain ⟨rfl, -⟩ := Prod.mk.inj same
  exact effect.congr ensured.messageTables_eq.symm
    (ensured_of_ensureControlState ensuringAgain).messageTables_eq

theorem exists_storeDeliveries (messageId : PyStr) (recipients : List (PyStr × CognitionRoute))
    (deliveries : List DeliveryRow) :
    ∃ added, storeDeliveries messageId recipients deliveries = deliveries ++ added ∧
      (recipients = [] → added = []) ∧
      ∀ row ∈ added, row.messageId = messageId ∧ row.deliveryState = .persisted := by
  induction recipients generalizing deliveries with
  | nil => exact ⟨[], (List.append_nil _).symm, fun _ => rfl, by simp⟩
  | cons recipient recipients ih =>
    obtain ⟨added, same, -, persisted⟩ := ih (insertOrIgnore
      (fun row => row.isAt messageId recipient.1) (newDelivery messageId recipient.1) deliveries)
    rw [storeDeliveries, List.foldl_cons]
    rw [storeDeliveries] at same
    rcases insertOrIgnore_cases (fun row => row.isAt messageId recipient.1)
      (newDelivery messageId recipient.1) deliveries with ⟨kept, -⟩ | ⟨appended, -⟩
    · rw [kept] at same ⊢
      exact ⟨added, same, by simp, persisted⟩
    · rw [appended] at same ⊢
      refine ⟨newDelivery messageId recipient.1 :: added, ?_, by simp, ?_⟩
      · rw [same, List.append_assoc, List.singleton_append]
      · intro row member
        rcases List.mem_cons.mp member with rfl | later
        · exact ⟨rfl, rfl⟩
        · exact persisted row later

theorem nodup_storeDeliveries {messageId : PyStr} {recipients : List (PyStr × CognitionRoute)}
    {deliveries : List DeliveryRow}
    (unique : (deliveries.map fun row => (row.messageId, row.recipient)).Nodup) :
    ((storeDeliveries messageId recipients deliveries).map fun row =>
      (row.messageId, row.recipient)).Nodup := by
  induction recipients generalizing deliveries with
  | nil => exact unique
  | cons recipient recipients ih =>
    refine ih (nodup_insertOrIgnore _ unique fun other _ sameKey => ?_)
    obtain ⟨sameMessage, sameRecipient⟩ := Prod.mk.inj sameKey
    exact deliveryRow_isAt.mpr ⟨sameMessage, sameRecipient⟩

theorem state_append_persisted {states added : List DeliveryState} (some : states ≠ [])
    (persisted : ∀ delivery ∈ added, delivery = .persisted)
    (isOpen : (countDeliveries states).state = .pending ∨
      (countDeliveries states).state = .partially) :
    (countDeliveries (states ++ added)).state = (countDeliveries states).state := by
  have before := determinedBy_countDeliveries some
  have after := determinedBy_countDeliveries
    (show states ++ added ≠ [] from fun none => some (List.append_eq_nil_iff.mp none).1)
  rcases isOpen with pending | isPartial
  · rw [pending, after.pending]
    intro delivery member
    rcases List.mem_append.mp member with old | new
    · exact before.pending.mp pending delivery old
    · simp [persisted delivery new]
  · have notBefore : ∀ {is : DeliveryState → Prop}, (¬ ∀ delivery ∈ states, is delivery) →
        ¬ ∀ delivery ∈ states ++ added, is delivery :=
      fun notAll all => notAll fun delivery member => all delivery (List.mem_append_left _ member)
    rw [isPartial] at before ⊢
    apply after.otherwise
    · exact fun applied => notBefore (before.applied.not.mp (by simp)) (after.applied.mp applied)
    · exact fun failed => notBefore (before.failed.not.mp (by simp)) (after.failed.mp failed)
    · exact fun cancelled =>
        notBefore (before.cancelled.not.mp (by simp)) (after.cancelled.mp cancelled)
    · exact fun pending => notBefore (before.pending.not.mp (by simp)) (after.pending.mp pending)

/-- The identity of the message that a command stores is not that of a message that is
final, or that has no delivery and another state than `PENDING`. -/
def Storable (db : OperatorDb) (command : OperatorCommand) : Prop :=
  (command.action = .message ∨ command.action = .annotate) →
    ∀ message ∈ db.messages, messageIdOf command.commandId command.target = .ok message.messageId →
      message.state = .pending ∨
        message.state = .partially ∧ deliveryStates db message.messageId ≠ []

theorem state_persisted {states : List DeliveryState} (some : states ≠ [])
    (persisted : ∀ delivery ∈ states, delivery = .persisted) :
    (countDeliveries states).state = .pending := by
  rw [(determinedBy_countDeliveries some).pending]
  intro delivery member
  simp [persisted delivery member]

section Stored

variable {db changed : OperatorDb} {messageId : PyStr} {added : List DeliveryRow}
  (appended : changed.deliveries = db.deliveries ++ added)
  (persisted : ∀ row ∈ added, row.messageId = messageId ∧ row.deliveryState = .persisted)
include appended persisted

theorem deliveryStates_stored :
    deliveryStates changed messageId =
      deliveryStates db messageId ++ added.map DeliveryRow.deliveryState := by
  have all : added.filter (fun row => row.messageId = messageId) = added :=
    List.filter_eq_self.mpr fun row member => decide_eq_true (persisted row member).1
  rw [deliveryStates, appended, List.filter_append, List.map_append, all, deliveryStates]

theorem deliveryStates_stored_other {other : PyStr} (different : other ≠ messageId) :
    deliveryStates changed other = deliveryStates db other := by
  have none : added.filter (fun row => row.messageId = other) = [] :=
    List.filter_eq_nil_iff.mpr fun row member same => different
      ((of_decide_eq_true same).symm.trans (persisted row member).1)
  rw [deliveryStates, appended, List.filter_append, none, List.append_nil, deliveryStates]

theorem agrees_stored (tables : MessageTables db) {message : MessageRow}
    (member : message ∈ db.messages)
    (isOpen : message.messageId = messageId → message.state = .pending ∨
      message.state = .partially ∧ deliveryStates db messageId ≠ [])
    (someDelivery : deliveryStates changed message.messageId ≠ []) :
    message.state = reconciledState changed message.messageId := by
  have addedStates : ∀ delivery ∈ added.map DeliveryRow.deliveryState, delivery = .persisted := by
    rw [List.forall_mem_map]
    exact fun row isAdded => (persisted row isAdded).2
  by_cases isOwn : message.messageId = messageId
  · subst isOwn
    have own := deliveryStates_stored appended persisted
    rw [reconciledState, own]
    rw [own] at someDelivery
    by_cases none : deliveryStates db message.messageId = []
    · have pending : message.state = .pending :=
        (isOpen rfl).resolve_right fun impossible => impossible.2 none
      rw [none, List.nil_append] at someDelivery ⊢
      rw [pending, state_persisted someDelivery addedStates]
    · have before := tables.agrees message member none
      rw [reconciledState] at before
      rw [state_append_persisted none addedStates, before]
      rw [← before]
      exact (isOpen rfl).imp id And.left
  · rw [deliveryStates_stored_other appended persisted isOwn] at someDelivery
    rw [reconciledState, deliveryStates_stored_other appended persisted isOwn]
    exact tables.agrees message member someDelivery

end Stored

theorem MessageTables.congr {db other : OperatorDb} (tables : MessageTables db)
    (same : messageTables other = messageTables db) : MessageTables other := by
  simp only [messageTables, Prod.mk.injEq] at same
  obtain ⟨messages, deliveries, trajectories⟩ := same
  have states : ∀ messageId, deliveryStates other messageId = deliveryStates db messageId := by
    intro messageId
    rw [deliveryStates, deliveries, deliveryStates]
  refine ⟨⟨?_, ?_, ?_, ?_⟩, ?_, ?_⟩
  · rw [messages]
    exact tables.keyed.messages
  · rw [deliveries]
    exact tables.keyed.deliveries
  · rw [trajectories]
    exact tables.keyed.trajectoryIds
  · rw [trajectories]
    exact tables.keyed.trajectories
  · rw [deliveries]
    intro delivery member
    rw [HasMessage, messages]
    exact tables.owned delivery member
  · rw [messages]
    intro message member
    rw [reconciledState, states]
    exact tables.agrees message member

theorem MessageTables.store {command : OperatorCommand} {db changed : OperatorDb}
    (tables : MessageTables db) (storable : Storable db command)
    (effect : StoreEffect command db changed) : MessageTables changed := by
  cases effect with
  | none messages trajectories deliveries =>
    refine tables.congr ?_
    rw [messageTables, messages, trajectories, deliveries, messageTables]
  | stored isMessage messageId named row recipients hasId start messages trajectories
      deliveries =>
      obtain ⟨added, storedEq, noneAdded, persisted⟩ :=
        exists_storeDeliveries messageId recipients db.deliveries
      have appended : changed.deliveries = db.deliveries ++ added := deliveries.trans storedEq
      have inserted := insertOrIgnore_cases (fun other => other.messageId = messageId) row
        db.messages
      rw [← messages] at inserted
      have hasMessage : ∀ other, HasMessage db other → HasMessage changed other := by
        rintro other ⟨message, member, isKey⟩
        refine ⟨message, ?_, isKey⟩
        rw [messages]
        exact mem_insertOrIgnore_of_mem member
      have agreesOld : ∀ message ∈ db.messages, deliveryStates changed message.messageId ≠ [] →
          message.state = reconciledState changed message.messageId := by
        intro message member
        refine agrees_stored appended persisted tables member fun isOwn => ?_
        subst isOwn
        exact storable isMessage message member named
      refine ⟨⟨?_, ?_, ?_, ?_⟩, ?_, ?_⟩
      · rw [messages]
        refine nodup_insertOrIgnore _ tables.keyed.messages fun other _ same => ?_
        exact decide_eq_true (same.trans hasId)
      · rw [deliveries]
        exact nodup_storeDeliveries tables.keyed.deliveries
      · rw [trajectories]
        exact tables.keyed.trajectoryIds
      · rw [trajectories]
        exact tables.keyed.trajectories
      · intro delivery member
        rw [appended, List.mem_append] at member
        rcases member with old | new
        · exact hasMessage _ (tables.owned delivery old)
        · rw [(persisted delivery new).1]
          rcases inserted with ⟨same, old, isOld, isKey⟩ | ⟨isNew, -⟩
          · exact ⟨old, by rwa [same], of_decide_eq_true isKey⟩
          · exact ⟨row, by rw [isNew]; simp, hasId⟩
      · intro message member
        rcases inserted with ⟨same, -⟩ | ⟨isNew, free⟩
        · exact agreesOld message (by rwa [same] at member)
        · rw [isNew, List.mem_append, List.mem_singleton] at member
          rcases member with old | rfl
          · exact agreesOld message old
          · -- the deliveries of a new message are those that the command adds
            have none : deliveryStates db message.messageId = [] := by
              refine deliveryStates_eq_nil.mpr fun delivery isDelivery same => ?_
              obtain ⟨owner, isOwner, ownerKey⟩ := tables.owned delivery isDelivery
              have notOwn := of_decide_eq_false (free owner isOwner)
              exact notOwn (ownerKey.trans (same.trans hasId))
            intro someDelivery
            subst hasId
            rw [deliveryStates_stored appended persisted, none, List.nil_append] at someDelivery
            rw [reconciledState, deliveryStates_stored appended persisted, none, List.nil_append,
              state_persisted someDelivery (List.forall_mem_map.mpr fun row isAdded =>
                (persisted row isAdded).2)]
            exact start fun noRecipient => someDelivery (by rw [noneAdded noRecipient]; rfl)

/-! ### The calls -/

/-- What a call of `note_assignment_application` needs: the state that it writes at each
message it names is the one that the deliveries determine. -/
def SettlesAll (db : OperatorDb) (assignmentId : PyStr) (result : List (PyStr × Json)) : Prop :=
  ∀ row input participant, findAssignment db assignmentId = some row →
    row.inputFields = .ok input → isFanout input = false →
    respondingParticipant row input result = .ok participant →
    ∀ messageId ∈ answeredIds result,
      (applicationOf row participant result).Settles db messageId

theorem MessageTables.note {db changed : OperatorDb} (tables : MessageTables db)
    {assignmentId : PyStr} {result : List (PyStr × Json)} {inputs : CallInputs}
    {outcome : ApplicationOutcome} (settles : SettlesAll db assignmentId result)
    (returned : noteAssignmentApplication db assignmentId result inputs =
      .ok (changed, outcome)) : MessageTables changed := by
  rw [noteAssignmentApplication] at returned
  split at returned
  · simp at returned
  · rename_i row isRow
    obtain ⟨input, participant, isInput, isParticipant, effect⟩ :=
      noteEffect_of_noteApplication returned
    cases effect with
    | dual _ _ progress looped same =>
      subst same
      exact invariant_applyMessages (fun _ db => MessageTables db)
        (fun _ _ _ _ _ tables stepped => tables.dualStep stepped) tables looped
    | fanout _ _ progress _ looped same =>
      subst same
      have later := invariant_applyMessages (fun _ db => MessageTables db)
        (fun _ _ _ _ _ tables stepped => tables.fanoutStep stepped) tables looped
      exact later.congr rfl
    | direct notFanout progress _ looped same =>
      subst same
      have each := settles row input participant isRow isInput notFanout isParticipant
      have invariant := invariant_applyMessages (fun ids db => MessageTables db ∧
          ∀ messageId ∈ ids, (applicationOf row participant result).Settles db messageId)
        (fun messageId later _ _ _ both stepped =>
          ⟨both.1.legacyStep (both.2 messageId (.head _)) stepped,
            fun other member => settles_legacyStep (both.2 other (.tail _ member)) stepped⟩)
        ⟨tables, each⟩ looped
      exact invariant.1.congr rfl

/-- What a call of `apply_command` does: nothing, or the transaction of a new command. -/
def CallEffect (value : Json) (db changed : OperatorDb) : Prop :=
  changed = db ∨ ∃ command, OperatorCommand.fromDict value = .ok command ∧
    (∀ row ∈ db.commands, row.commandId ≠ command.commandId) ∧ StoreEffect command db changed

theorem callEffect_of_runAlone (call : CommandCall) (db : OperatorDb) :
    CallEffect call.value db
      (PyProg.runAlone (applyCommand call.value call.principalId call.inputs) db).1 := by
  refine applyCommand_rule (.inl rfl) fun admission _ _ _ isCommand _ committed => ?_
  obtain ⟨free, effect⟩ := storeEffect_of_commit committed
  exact .inr ⟨admission.command, isCommand, free, effect⟩

/-- A call that works on messages: a command, or an operation on deliveries. -/
inductive MessageCall
  | command (call : CommandCall)
  | answer (call : AnswerCall)

def MessageCall.execute (db : OperatorDb) : MessageCall → OperatorDb
  | command call =>
    (PyProg.runAlone (applyCommand call.value call.principalId call.inputs) db).1
  | answer call => call.execute db

/-- The condition on a call: the message that a new command stores does not take the
identity of a final one, and an application that is no fan-out names only messages that
it settles. -/
def MessageCall.Meets (db : OperatorDb) : MessageCall → Prop
  | command call => ∀ command, OperatorCommand.fromDict call.value = .ok command →
      (∀ row ∈ db.commands, row.commandId ≠ command.commandId) → Storable db command
  | answer (.note assignmentId result _) => SettlesAll db assignmentId result
  | answer _ => True

theorem MessageTables.execute {db : OperatorDb} (tables : MessageTables db) {call : MessageCall}
    (meets : call.Meets db) : MessageTables (call.execute db) := by
  cases call with
  | command call =>
    rcases callEffect_of_runAlone call db with same | ⟨command, isCommand, free, effect⟩
    · rw [MessageCall.execute, same]
      exact tables
    · exact tables.store (meets command isCommand free) effect
  | answer call =>
    cases call with
    | note assignmentId result inputs =>
      exact committed_rule tables fun _ _ returned => tables.note meets returned
    | record messageId participantId response resultDigest modelCallId inputs =>
      exact committed_rule tables fun _ _ returned => tables.record returned
    | fail messageId participantId reason inputs =>
      exact committed_rule tables fun _ _ returned => tables.fail returned
    | cancel messageId participantId reason inputs =>
      exact committed_rule tables fun _ _ returned => tables.cancel returned

/-- Over every run of calls that meet the condition, the state of each message with
deliveries is the one that they determine. -/
theorem message_state_determined {db : OperatorDb} (tables : MessageTables db)
    {calls : List MessageCall}
    (meets : EachMeets MessageCall.execute MessageCall.Meets db calls) :
    ∀ first second, calls = first ++ second →
      ∀ message ∈ (first.foldl MessageCall.execute db).messages,
        deliveryStates (first.foldl MessageCall.execute db) message.messageId ≠ [] →
          DeterminedBy (deliveryStates (first.foldl MessageCall.execute db) message.messageId)
            message.state := by
  rintro first second rfl message member someDelivery
  have step : ∀ db call, MessageTables db → MessageCall.Meets db call →
      MessageTables (MessageCall.execute db call) := fun _ _ tables meets => tables.execute meets
  have later := invariant_of_eachMeets step tables meets.of_append.1
  rw [later.agrees message member someDelivery]
  exact determinedBy_countDeliveries someDelivery

theorem messageTables_sharedWorkerDb : MessageTables sharedWorkerDb where
  keyed := keyed_sharedWorkerDb
  owned := by
    intro delivery member
    obtain rfl := List.mem_singleton.mp member
    exact ⟨_, List.mem_singleton_self _, rfl⟩
  agrees := by
    intro message member _
    obtain rfl := List.mem_singleton.mp member
    decide

def noteCall : MessageCall :=
  .answer (.note (py "A1") namingResult ⟨fun _ => [], fun _ => []⟩)

/-- The application of the only delivery of the message. -/
theorem message_state_determined_shared :
    ∃ message ∈ ([noteCall].foldl MessageCall.execute sharedWorkerDb).messages,
      DeterminedBy (deliveryStates ([noteCall].foldl MessageCall.execute sharedWorkerDb)
        message.messageId) message.state := by
  have delivered : ∃ message ∈ ([noteCall].foldl MessageCall.execute sharedWorkerDb).messages,
      deliveryStates ([noteCall].foldl MessageCall.execute sharedWorkerDb) message.messageId ≠
        [] := by
    decide +kernel
  obtain ⟨message, member, someDelivery⟩ := delivered
  refine ⟨message, member, ?_⟩
  refine message_state_determined messageTables_sharedWorkerDb (fun first call second same => ?_)
    [noteCall] [] rfl message member someDelivery
  have same : [noteCall] = first ++ call :: second := same
  cases first with
  | nil =>
    obtain ⟨rfl, -⟩ := List.cons.inj same
    rintro row input participant isRow isInput - isParticipant messageId named
    obtain rfl := Option.some.inj isRow
    obtain rfl := Except.ok.inj isInput
    have isWorker : .ok (py "worker:MD001") = Except.ok participant := isParticipant
    obtain rfl := Except.ok.inj isWorker
    obtain rfl := List.mem_singleton.mp named
    exact .inr (.inl ⟨_, List.mem_singleton_self _, rfl⟩)
  | cons head tail => exact absurd (List.cons.inj same).2 (by simp)

def otherWorkerDb : OperatorDb :=
  { sharedWorkerDb with deliveries := [newDelivery (py "X") (py "worker:MD002")] }

/-- An application without a delivery makes a pending message `PARTIAL`. -/
theorem exists_not_determined :
    ¬ ∀ (db : OperatorDb) (calls : List MessageCall), MessageTables db →
      ∀ message ∈ (calls.foldl MessageCall.execute db).messages,
        deliveryStates (calls.foldl MessageCall.execute db) message.messageId ≠ [] →
          DeterminedBy (deliveryStates (calls.foldl MessageCall.execute db) message.messageId)
            message.state := by
  intro always
  have tables : MessageTables otherWorkerDb := by
    refine ⟨⟨by decide, by decide, by decide, by decide⟩, ?_, ?_⟩
    · intro delivery member
      obtain rfl := List.mem_singleton.mp member
      exact ⟨_, List.mem_singleton_self _, rfl⟩
    · intro message member _
      obtain rfl := List.mem_singleton.mp member
      decide
  have determined := always otherWorkerDb
    [.answer (.note (py "A1") namingResult ⟨fun _ => [], fun _ => []⟩)] tables
  have changed : ((MessageCall.execute otherWorkerDb
      (.answer (.note (py "A1") namingResult ⟨fun _ => [], fun _ => []⟩))).messages.map
        fun message => (message.state, deliveryStates (MessageCall.execute otherWorkerDb
          (.answer (.note (py "A1") namingResult ⟨fun _ => [], fun _ => []⟩)))
            message.messageId)) = [(.partially, [.persisted])] := by
    decide +kernel
  obtain ⟨message, member, isState⟩ := List.mem_map.mp (changed ▸ List.mem_singleton_self _)
  obtain ⟨state, states⟩ := Prod.mk.inj isState
  have isDetermined := determined message member (by
    rw [List.foldl_cons, List.foldl_nil, states]
    simp)
  rw [List.foldl_cons, List.foldl_nil, states, state] at isDetermined
  exact absurd (isDetermined.pending.mpr (by simp)) (by simp)

end OperatorControl

end CyberLion
