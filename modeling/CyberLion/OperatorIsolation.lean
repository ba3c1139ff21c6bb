import CyberLion.OperatorAnswers
import CyberLion.OperatorExactlyOnce

/-!
# Results and the messages of other missions

`note_assignment_application` looks for the messages that a result names by
their identity and the participant's name alone.  What a call does to the rows of
one message is what its last naming makes of them, so the messages of another
mission stay as they are exactly when the answer would change nothing there.
-/

namespace CyberLion

namespace OperatorControl

open PyLib

/-! ### The rows of a message over a loop -/

def lastInputs (messageId : PyStr) : List PyStr → CallInputs → Option CallInputs
  | [], _ => none
  | id :: later, inputs =>
    match lastInputs messageId later (inputs.skip 4) with
    | some last => some last
    | none => if id = messageId then some inputs else none

theorem lastInputs_eq_none {messageId : PyStr} {ids : List PyStr} {inputs : CallInputs} :
    lastInputs messageId ids inputs = none ↔ messageId ∉ ids := by
  induction ids generalizing inputs with
  | nil => simp [lastInputs]
  | cons id later ih =>
    rw [lastInputs, List.mem_cons, not_or, ← @ih (inputs.skip 4)]
    cases lastInputs messageId later (inputs.skip 4) with
    | some last => simp
    | none => simp [eq_comm]

def Answers (step : CallInputs → Progress → PyStr → Except PyError Progress)
    (participantId : PyStr) : Prop :=
  ∀ inputs progress messageId next, Keyed progress.db →
    step inputs progress messageId = .ok next →
    ∃ answer, Answered answer messageId participantId progress.db next.db

theorem rowsOf_applyMessages
    {step : CallInputs → Progress → PyStr → Except PyError Progress} {participantId : PyStr}
    (answers : Answers step participantId) {messageId : PyStr} (holds : MessageRows → Prop)
    (Becomes : CallInputs → MessageRows → MessageRows → Prop)
    (own : ∀ inputs progress next, Keyed progress.db → HasMessage progress.db messageId →
      holds (rowsOf progress.db messageId) → step inputs progress messageId = .ok next →
      holds (rowsOf next.db messageId) ∧
        Becomes inputs (rowsOf progress.db messageId) (rowsOf next.db messageId))
    (compose : ∀ first second start middle final, Becomes first start middle →
      Becomes second middle final → Becomes second start final)
    {ids : List PyStr} {inputs : CallInputs} {progress final : Progress}
    (keyed : Keyed progress.db) (isMessage : HasMessage progress.db messageId)
    (initially : holds (rowsOf progress.db messageId))
    (returned : applyMessages step ids inputs progress = .ok final) :
    match lastInputs messageId ids inputs with
    | none => rowsOf final.db messageId = rowsOf progress.db messageId
    | some last => Becomes last (rowsOf progress.db messageId) (rowsOf final.db messageId) := by
  induction ids generalizing inputs progress with
  | nil =>
    rw [applyMessages] at returned
    rw [Except.ok.inj returned]
    rfl
  | cons id later ih =>
    simp only [applyMessages, bind_eq_ok] at returned
    obtain ⟨next, stepped, returned⟩ := returned
    obtain ⟨answer, answered⟩ := answers inputs progress id next keyed stepped
    have nextKeyed := answered.keyed keyed
    have nextMessage := answered.hasMessage isMessage
    rw [lastInputs]
    by_cases isOwn : id = messageId
    · subst isOwn
      obtain ⟨nextHolds, becomes⟩ := own inputs progress next keyed isMessage initially stepped
      have remaining := ih nextKeyed nextMessage nextHolds returned
      cases isLast : lastInputs id later (inputs.skip 4) with
      | some last =>
        rw [isLast] at remaining
        exact compose _ _ _ _ _ becomes remaining
      | none =>
        rw [isLast] at remaining
        simp only [if_true]
        rw [remaining]
        exact becomes
    · have same := answered.rowsOf_other isMessage isOwn
      have remaining := ih nextKeyed nextMessage (by rw [same]; exact initially) returned
      rw [same] at remaining
      cases isLast : lastInputs messageId later (inputs.skip 4) with
      | some last =>
        rw [isLast] at remaining
        exact remaining
      | none =>
        rw [isLast] at remaining
        simp only [isOwn, if_false]
        exact remaining

/-! ### Assignments that are no fan-out -/

section Legacy

variable (application : Application) (stamp : PyStr)

def Application.appliedDeliveries (deliveries : List DeliveryRow) : List DeliveryRow :=
  updateWhere (fun row => row.recipient = application.participant)
    (fun row => if row.deliveryState ≠ .applied then application.delivered stamp row else row)
    deliveries

def Application.appliedRows (rows : MessageRows) : MessageRows :=
  (Answer.apply application stamp
    ((application.appliedDeliveries stamp rows.deliveries).map DeliveryRow.deliveryState)).onRows
    application.participant rows

theorem answers_legacyStep : Answers (fun _ => application.legacyStep stamp)
    application.participant :=
  fun _ _ _ _ _ returned => ⟨_, answered_legacyStep returned⟩

variable {application stamp}

theorem rowsOf_legacyStep {progress next : Progress} {messageId : PyStr}
    (isMessage : HasMessage progress.db messageId)
    (returned : application.legacyStep stamp progress messageId = .ok next) :
    rowsOf next.db messageId = application.appliedRows stamp (rowsOf progress.db messageId) := by
  have same := (answered_legacyStep returned).rowsOf_self isMessage
  have deliveries : deliveryStates next.db messageId =
      (application.appliedDeliveries stamp (rowsOf progress.db messageId).deliveries).map
        DeliveryRow.deliveryState :=
    congrArg (fun rows => rows.deliveries.map DeliveryRow.deliveryState) same
  rw [same, deliveries, Application.appliedRows]

theorem appliedRows_appliedRows (rows : MessageRows) :
    application.appliedRows stamp (application.appliedRows stamp rows) =
      application.appliedRows stamp rows := by
  have again : application.appliedDeliveries stamp
      (application.appliedDeliveries stamp rows.deliveries) =
      application.appliedDeliveries stamp rows.deliveries := by
    rw [Application.appliedDeliveries, Application.appliedDeliveries, updateWhere_updateWhere]
    · congr 1
      funext row
      by_cases isApplied : row.deliveryState = .applied
      · simp [isApplied]
      · simp [isApplied, Application.delivered]
    · intro row
      split <;> rfl
  have settledAgain : ∀ states : List DeliveryState, ∀ row : MessageRow,
      (Answer.apply application stamp states).message
        ((Answer.apply application stamp states).message row) =
      (Answer.apply application stamp states).message row := by
    intro states row
    by_cases none : states = []
    · simp [Answer.apply, none]
    · by_cases applied : Application.stateAfter states = .applied
      · simp [Answer.apply, none, Application.settled, applied]
      · simp [Answer.apply, none, Application.settled, applied]
  have deliveriesEq : (application.appliedRows stamp rows).deliveries =
      application.appliedDeliveries stamp rows.deliveries := rfl
  have states : (application.appliedDeliveries stamp
      (application.appliedRows stamp rows).deliveries).map DeliveryRow.deliveryState =
      (application.appliedDeliveries stamp rows.deliveries).map DeliveryRow.deliveryState := by
    rw [deliveriesEq, again]
  conv_lhs => rw [Application.appliedRows, states]
  rw [Answer.onRows]
  conv_rhs => rw [Application.appliedRows, Answer.onRows]
  congr 1
  · change (rows.messages.map _).map _ = rows.messages.map _
    rw [List.map_map]
    exact List.map_congr_left fun row _ => settledAgain _ row
  · exact updateWhere_eq_self fun _ _ _ => rfl

theorem rowsOf_applyMessages_legacy {messageId : PyStr} {ids : List PyStr} {inputs : CallInputs}
    {progress final : Progress} (keyed : Keyed progress.db)
    (isMessage : HasMessage progress.db messageId) (named : messageId ∈ ids)
    (returned : applyMessages (fun _ => application.legacyStep stamp) ids inputs progress =
      .ok final) :
    rowsOf final.db messageId = application.appliedRows stamp (rowsOf progress.db messageId) := by
  have folded := rowsOf_applyMessages (answers_legacyStep application stamp) (fun _ => True)
    (fun _ start final => final = application.appliedRows stamp start)
    (fun _ _ _ _ isMessage _ stepped => ⟨trivial, rowsOf_legacyStep isMessage stepped⟩)
    (fun _ _ start middle final first second => by
      rw [second, first, appliedRows_appliedRows])
    keyed isMessage trivial returned
  cases isLast : lastInputs messageId ids inputs with
  | none => exact absurd named (lastInputs_eq_none.mp isLast)
  | some last =>
    rw [isLast] at folded
    exact folded

/-- An application changes nothing at the message: each delivery of the participant is
applied already, and the message has the state that the application gives it. -/
structure Application.SparesApplied (application : Application) (stamp : PyStr)
    (rows : MessageRows) : Prop where
  deliveries : ∀ row ∈ rows.deliveries, row.recipient = application.participant →
    row.deliveryState = .applied
  messages : rows.deliveries = [] ∨
    ((∃ row ∈ rows.deliveries, row.deliveryState ≠ .applied) ∧
      ∀ row ∈ rows.messages, row.state = .partially) ∨
    (∀ row ∈ rows.deliveries, row.deliveryState = .applied) ∧
      ∀ row ∈ rows.messages, row.state = .applied ∧ row.appliedAt = some stamp ∧
        row.appliedAssignmentId = some application.assignmentId

theorem settled_eq_self {row : MessageRow} {state : MessageState} :
    application.settled stamp state row = row ↔ row.state = state ∧
      (state = .applied → row.appliedAt = some stamp ∧
        row.appliedAssignmentId = some application.assignmentId) := by
  constructor
  · intro same
    have sameState := congrArg MessageRow.state same
    have sameAt := congrArg MessageRow.appliedAt same
    have sameAssignment := congrArg MessageRow.appliedAssignmentId same
    refine ⟨sameState.symm, ?_⟩
    rintro rfl
    exact ⟨sameAt.symm, sameAssignment.symm⟩
  · rintro ⟨rfl, applied⟩
    by_cases isApplied : row.state = .applied
    · obtain ⟨sameAt, sameAssignment⟩ := applied isApplied
      unfold Application.settled
      rw [if_pos isApplied, if_pos isApplied, ← sameAt, ← sameAssignment]
    · unfold Application.settled
      rw [if_neg isApplied, if_neg isApplied]

theorem appliedDeliveries_eq_self {deliveries : List DeliveryRow} :
    application.appliedDeliveries stamp deliveries = deliveries ↔
      ∀ row ∈ deliveries, row.recipient = application.participant →
        row.deliveryState = .applied := by
  rw [Application.appliedDeliveries, updateWhere_eq_self_iff]
  refine forall₂_congr fun row _ => ?_
  rw [decide_eq_true_eq]
  refine imp_congr_right fun _ => ?_
  constructor
  · intro same
    by_contra isOpen
    rw [if_pos isOpen] at same
    exact isOpen (congrArg DeliveryRow.deliveryState same).symm
  · intro isApplied
    rw [if_neg (not_not.mpr isApplied)]

theorem appliedRows_eq_self {rows : MessageRows} :
    application.appliedRows stamp rows = rows ↔
      application.appliedDeliveries stamp rows.deliveries = rows.deliveries ∧
        (rows.deliveries = [] ∨ ∀ row ∈ rows.messages, application.settled stamp
          (Application.stateAfter (rows.deliveries.map DeliveryRow.deliveryState)) row = row) := by
  have messages : application.appliedDeliveries stamp rows.deliveries = rows.deliveries →
      ((application.appliedRows stamp rows).messages = rows.messages ↔
        (rows.deliveries = [] ∨ ∀ row ∈ rows.messages, application.settled stamp
          (Application.stateAfter (rows.deliveries.map DeliveryRow.deliveryState)) row = row)) := by
    intro same
    rw [Application.appliedRows, same]
    change rows.messages.map _ = rows.messages ↔ _
    conv_lhs => rhs; rw [← List.map_id rows.messages]
    rw [List.map_inj_left]
    by_cases none : rows.deliveries = []
    · simp [Answer.apply, none]
    · simp [Answer.apply, none]
  constructor
  · intro same
    have deliveries := congrArg MessageRows.deliveries same
    exact ⟨deliveries, (messages deliveries).mp (congrArg MessageRows.messages same)⟩
  · rintro ⟨deliveries, settled⟩
    have sameMessages := (messages deliveries).mpr settled
    have sameTrajectories : (application.appliedRows stamp rows).trajectories =
        rows.trajectories := updateWhere_eq_self fun _ _ _ => rfl
    exact MessageRows.ext sameMessages deliveries sameTrajectories

theorem sparesApplied_iff {rows : MessageRows} :
    application.SparesApplied stamp rows ↔ application.appliedRows stamp rows = rows := by
  rw [appliedRows_eq_self, appliedDeliveries_eq_self]
  have state : ∀ result, Application.stateAfter (rows.deliveries.map DeliveryRow.deliveryState) =
      result → ((∀ row ∈ rows.messages, application.settled stamp
        (Application.stateAfter (rows.deliveries.map DeliveryRow.deliveryState)) row = row) ↔
        ∀ row ∈ rows.messages, row.state = result ∧ (result = .applied →
          row.appliedAt = some stamp ∧
            row.appliedAssignmentId = some application.assignmentId)) := by
    rintro _ rfl
    exact forall₂_congr fun row _ => settled_eq_self
  have allApplied : Application.stateAfter (rows.deliveries.map DeliveryRow.deliveryState) =
      .applied ↔ ∀ row ∈ rows.deliveries, row.deliveryState = .applied := by
    rw [stateAfter_eq_applied, List.forall_mem_map]
  by_cases all : ∀ row ∈ rows.deliveries, row.deliveryState = .applied
  · rw [state .applied (allApplied.mpr all)]
    constructor
    · rintro ⟨deliveries, none | ⟨⟨row, member, isOpen⟩, -⟩ | ⟨-, messages⟩⟩
      · exact ⟨deliveries, .inl none⟩
      · exact absurd (all row member) isOpen
      · exact ⟨deliveries, .inr fun row member =>
          ⟨(messages row member).1, fun _ => (messages row member).2⟩⟩
    · rintro ⟨deliveries, none | messages⟩
      · exact ⟨deliveries, .inl none⟩
      · exact ⟨deliveries, .inr (.inr ⟨all, fun row member =>
          ⟨(messages row member).1, (messages row member).2 rfl⟩⟩)⟩
  · have isPartial : Application.stateAfter (rows.deliveries.map DeliveryRow.deliveryState) =
        .partially := by
      unfold Application.stateAfter
      refine if_neg fun counted => all ?_
      rw [← allApplied]
      exact if_pos counted
    push Not at all
    rw [state .partially isPartial]
    constructor
    · rintro ⟨deliveries, none | ⟨-, messages⟩ | ⟨applied, -⟩⟩
      · exact ⟨deliveries, .inl none⟩
      · exact ⟨deliveries, .inr fun row member =>
          ⟨messages row member, fun impossible => nomatch impossible⟩⟩
      · obtain ⟨row, member, isOpen⟩ := all
        exact absurd (applied row member) isOpen
    · rintro ⟨deliveries, none | messages⟩
      · exact ⟨deliveries, .inl none⟩
      · exact ⟨deliveries, .inr (.inl ⟨all, fun row member => (messages row member).1⟩)⟩

end Legacy

/-! ### Trajectories -/

section Trajectories

variable {application : Application}

/-- The trajectory already holds the answer of a worker at an instant. -/
structure Application.HoldsAnswer (application : Application) (state : TrajectoryState)
    (now : PyStr) (row : TrajectoryRow) : Prop where
  state : row.state = state
  assignment : row.localAssignmentId = some application.assignmentId
  call : columnText application.modelCallId = .ok row.localModelCallId
  digest : columnText application.responseDigest = .ok row.resultDigest
  instant : row.updatedAt = now

theorem amended_eq_self {state : TrajectoryState} {now : PyStr} {row : TrajectoryRow}
    {modelCallId responseDigest : Option PyStr}
    (columns : application.Columns modelCallId responseDigest) :
    row.amended (application.workerChanges state modelCallId responseDigest) now = row ↔
      application.HoldsAnswer state now row := by
  constructor
  · intro same
    have call := congrArg TrajectoryRow.localModelCallId same
    have digest := congrArg TrajectoryRow.resultDigest same
    refine ⟨(congrArg TrajectoryRow.state same).symm,
      (congrArg TrajectoryRow.localAssignmentId same).symm, ?_, ?_,
      (congrArg TrajectoryRow.updatedAt same).symm⟩
    · rw [columns.call, ← call]
      rfl
    · rw [columns.digest, ← digest]
      rfl
  · rintro ⟨sameState, sameAssignment, call, digest, instant⟩
    have sameCall := Except.ok.inj (columns.call.symm.trans call)
    have sameDigest := Except.ok.inj (columns.digest.symm.trans digest)
    simp only [TrajectoryRow.amended, Application.workerChanges, Option.getD_some,
      Option.getD_none]
    rw [sameCall, sameDigest, ← sameState, ← sameAssignment, ← instant]

def Application.answeredTrajectories (application : Application) (state : TrajectoryState)
    (now : PyStr) (trajectories answered : List TrajectoryRow) : Prop :=
  ∃ modelCallId responseDigest, application.Columns modelCallId responseDigest ∧
    answered = updateWhere (fun row => row.participantId = application.participant)
      (fun row => row.amended (application.workerChanges state modelCallId responseDigest) now)
      trajectories

theorem answeredTrajectories_trans {state : TrajectoryState} {first second : PyStr}
    {start middle final : List TrajectoryRow}
    (isFirst : application.answeredTrajectories state first start middle)
    (isSecond : application.answeredTrajectories state second middle final) :
    application.answeredTrajectories state second start final := by
  obtain ⟨modelCallId, responseDigest, columns, rfl⟩ := isFirst
  obtain ⟨otherCall, otherDigest, otherColumns, rfl⟩ := isSecond
  obtain rfl := Except.ok.inj (columns.call.symm.trans otherColumns.call)
  obtain rfl := Except.ok.inj (columns.digest.symm.trans otherColumns.digest)
  refine ⟨modelCallId, responseDigest, columns, ?_⟩
  rw [updateWhere_updateWhere]
  · rfl
  · exact fun _ => rfl

theorem answeredTrajectories_self {state : TrajectoryState} {now : PyStr}
    {trajectories answered : List TrajectoryRow}
    (isAnswered : application.answeredTrajectories state now trajectories answered) :
    answered = trajectories ↔ ∀ row ∈ trajectories, row.participantId = application.participant →
      application.HoldsAnswer state now row := by
  obtain ⟨modelCallId, responseDigest, columns, rfl⟩ := isAnswered
  rw [updateWhere_eq_self_iff]
  refine forall₂_congr fun row _ => ?_
  rw [decide_eq_true_eq, amended_eq_self columns]

theorem answers_dualStep (application : Application) :
    Answers application.dualStep application.participant := by
  intro inputs progress messageId next keyed returned
  obtain ⟨modelCallId, responseDigest, -, -, answered⟩ := answered_dualStep keyed returned
  exact ⟨_, answered⟩

variable {messageId : PyStr} {inputs : CallInputs} {progress : Progress}

theorem rowsOf_applyMessages_dual {ids : List PyStr} {last : CallInputs} {final : Progress}
    (keyed : Keyed progress.db) (isMessage : HasMessage progress.db messageId)
    (isLast : lastInputs messageId ids inputs = some last)
    (returned : applyMessages application.dualStep ids inputs progress = .ok final) :
    (rowsOf final.db messageId).messages = (rowsOf progress.db messageId).messages ∧
    (rowsOf final.db messageId).deliveries = (rowsOf progress.db messageId).deliveries ∧
    application.answeredTrajectories .dualLocalResponseReady (last.now 0)
      (rowsOf progress.db messageId).trajectories (rowsOf final.db messageId).trajectories := by
  have folded := rowsOf_applyMessages (answers_dualStep application) (fun _ => True)
    (fun inputs start final => final.messages = start.messages ∧
      final.deliveries = start.deliveries ∧
      application.answeredTrajectories .dualLocalResponseReady (inputs.now 0) start.trajectories
        final.trajectories)
    (by
      intro inputs progress next keyed isMessage _ stepped
      obtain ⟨modelCallId, responseDigest, columns, -, answered⟩ := answered_dualStep keyed stepped
      have same := answered.rowsOf_self isMessage
      exact ⟨trivial, (congrArg MessageRows.messages same).trans (List.map_id _),
        (congrArg MessageRows.deliveries same).trans (updateWhere_eq_self fun _ _ _ => rfl),
        modelCallId, responseDigest, columns, congrArg MessageRows.trajectories same⟩)
    (fun _ _ _ _ _ first second => ⟨second.1.trans first.1, second.2.1.trans first.2.1,
      answeredTrajectories_trans first.2.2 second.2.2⟩)
    keyed isMessage trivial returned
  rw [isLast] at folded
  exact folded

/-! ### Local fan-out -/

theorem answers_fanoutStep (application : Application) :
    Answers application.fanoutStep application.participant := by
  intro inputs progress messageId next keyed returned
  rcases fanoutEffect_of_fanoutStep keyed returned with ⟨-, rfl⟩ | ⟨-, -, _, _, _, -, -, effect⟩
  · exact ⟨.none, answered_none messageId application.participant _⟩
  · cases effect with
    | repeated _ answered => exact ⟨_, answered⟩
    | first _ _ _ answered => exact ⟨_, answered⟩

theorem eq_of_fanoutStep {next : Progress} (noText : responseText application.response = none)
    (keyed : Keyed progress.db)
    (returned : application.fanoutStep inputs progress messageId = .ok next) :
    next = progress := by
  rcases fanoutEffect_of_fanoutStep keyed returned with ⟨-, same⟩ | ⟨hasText, -⟩
  · exact same
  · rw [noText] at hasText
    exact absurd hasText (by simp)

def MessageRows.Responded (rows : MessageRows) (participantId : PyStr) : Prop :=
  ∃ row ∈ rows.trajectories, row.participantId = participantId ∧
    isSet row.responseMessageId = true

def MessageRows.state (rows : MessageRows) : MessageState :=
  (countDeliveries (rows.deliveries.map DeliveryRow.deliveryState)).state

theorem mem_rowsOf_of_findTrajectory {db : OperatorDb} {participantId : PyStr} {row : TrajectoryRow}
    (found : findTrajectory db messageId participantId = some row) :
    row ∈ (rowsOf db messageId).trajectories ∧ row.participantId = participantId := by
  obtain ⟨member, isAt⟩ := mem_of_findTrajectory found
  rw [trajectoryRow_isAt] at isAt
  exact ⟨List.mem_filter.mpr ⟨member, decide_eq_true isAt.1⟩, isAt.2⟩

theorem Keyed.eq_of_mem_rowsOf {db : OperatorDb} (keyed : Keyed db) {first second : TrajectoryRow}
    (isFirst : first ∈ (rowsOf db messageId).trajectories)
    (isSecond : second ∈ (rowsOf db messageId).trajectories)
    (same : first.participantId = second.participantId) : first = second := by
  obtain ⟨firstMember, firstKey⟩ := List.mem_filter.mp isFirst
  obtain ⟨secondMember, secondKey⟩ := List.mem_filter.mp isSecond
  have firstAt : first.isAt messageId second.participantId = true :=
    trajectoryRow_isAt.mpr ⟨of_decide_eq_true firstKey, same⟩
  have secondAt : second.isAt messageId second.participantId = true :=
    trajectoryRow_isAt.mpr ⟨of_decide_eq_true secondKey, rfl⟩
  exact keyed.eq_of_isAt firstMember secondMember firstAt secondAt

theorem responded_of_fanoutStep {next : Progress}
    (hasText : (responseText application.response).isSome = true) (keyed : Keyed progress.db)
    (returned : application.fanoutStep inputs progress messageId = .ok next) :
    (rowsOf next.db messageId).Responded application.participant := by
  rcases fanoutEffect_of_fanoutStep keyed returned with ⟨noText, -⟩ |
    ⟨-, isMessage, modelCallId, responseDigest, trajectory, -, found, effect⟩
  · rw [noText] at hasText
    exact absurd hasText (by simp)
  obtain ⟨member, isOwn⟩ := mem_rowsOf_of_findTrajectory found
  cases effect with
  | repeated responded answered =>
    rw [answered.rowsOf_self isMessage]
    exact ⟨_, mem_updateWhere_of_selected member (decide_eq_true isOwn), isOwn, responded⟩
  | first _ changes isResponse answered =>
    obtain ⟨replyId, isReply, notEmpty⟩ := isResponse.response
    rw [answered.rowsOf_self isMessage]
    refine ⟨_, mem_updateWhere_of_selected member (decide_eq_true isOwn), isOwn, ?_⟩
    change isSet (changes.responseMessageId.getD _) = true
    rw [isReply]
    simpa [isSet] using notEmpty

theorem responded_of_applyMessages {ids : List PyStr} {final : Progress}
    (hasText : (responseText application.response).isSome = true) (keyed : Keyed progress.db)
    (isMessage : HasMessage progress.db messageId) (named : messageId ∈ ids)
    (returned : applyMessages application.fanoutStep ids inputs progress = .ok final) :
    (rowsOf final.db messageId).Responded application.participant := by
  have folded := rowsOf_applyMessages (answers_fanoutStep application) (fun _ => True)
    (fun _ _ final => final.Responded application.participant)
    (fun _ _ _ keyed _ _ stepped => ⟨trivial, responded_of_fanoutStep hasText keyed stepped⟩)
    (fun _ _ _ _ _ _ second => second) keyed isMessage trivial returned
  cases isLast : lastInputs messageId ids inputs with
  | none => exact absurd named (lastInputs_eq_none.mp isLast)
  | some last =>
    rw [isLast] at folded
    exact folded

structure Application.Repeated (application : Application) (now : PyStr)
    (start final : MessageRows) : Prop where
  messages : ∃ stamp, final.messages = start.messages.map fun row =>
    row.reconciled start.state stamp
  deliveries : final.deliveries = start.deliveries
  trajectories : application.answeredTrajectories .localResponseReady now start.trajectories
    final.trajectories

theorem Application.Repeated.trans {first second : PyStr} {start middle final : MessageRows}
    (isFirst : application.Repeated first start middle)
    (isSecond : application.Repeated second middle final) :
    application.Repeated second start final := by
  obtain ⟨⟨stamp, firstMessages⟩, firstDeliveries, firstTrajectories⟩ := isFirst
  obtain ⟨⟨later, secondMessages⟩, secondDeliveries, secondTrajectories⟩ := isSecond
  refine ⟨⟨stamp, ?_⟩, secondDeliveries.trans firstDeliveries,
    answeredTrajectories_trans firstTrajectories secondTrajectories⟩
  have sameState : middle.state = start.state := by
    rw [MessageRows.state, firstDeliveries, MessageRows.state]
  rw [secondMessages, firstMessages, List.map_map, sameState]
  apply List.map_congr_left
  intro row _
  by_cases isApplied : start.state = .applied
  · cases at' : row.appliedAt <;> simp [MessageRow.reconciled, isApplied, at']
  · simp [MessageRow.reconciled, isApplied]

theorem repeated_of_fanoutStep {next : Progress}
    (hasText : (responseText application.response).isSome = true) (keyed : Keyed progress.db)
    (responded : (rowsOf progress.db messageId).Responded application.participant)
    (returned : application.fanoutStep inputs progress messageId = .ok next) :
    application.Repeated (inputs.now 0) (rowsOf progress.db messageId)
      (rowsOf next.db messageId) := by
  rcases fanoutEffect_of_fanoutStep keyed returned with ⟨noText, -⟩ |
    ⟨-, isMessage, modelCallId, responseDigest, trajectory, columns, found, effect⟩
  · rw [noText] at hasText
    exact absurd hasText (by simp)
  obtain ⟨member, isOwn⟩ := mem_rowsOf_of_findTrajectory found
  obtain ⟨row, isRow, rowOwn, hasResponse⟩ := responded
  obtain rfl := keyed.eq_of_mem_rowsOf isRow member (rowOwn.trans isOwn.symm)
  cases effect with
  | repeated _ answered =>
    have same := answered.rowsOf_self isMessage
    have deliveries : (rowsOf next.db messageId).deliveries =
        (rowsOf progress.db messageId).deliveries :=
      (congrArg MessageRows.deliveries same).trans (updateWhere_eq_self fun _ _ _ => rfl)
    refine ⟨⟨inputs.now 1, ?_⟩, deliveries, modelCallId, responseDigest, columns,
      congrArg MessageRows.trajectories same⟩
    have state : reconciledState next.db messageId = (rowsOf progress.db messageId).state := by
      rw [MessageRows.state, ← deliveries]
      rfl
    rw [← state]
    exact congrArg MessageRows.messages same
  | first isOpen _ _ _ =>
    rw [hasResponse] at isOpen
    exact absurd isOpen (by simp)

end Trajectories

/-! ### Isolation -/

def IsForeign (db : OperatorDb) (missionId messageId : PyStr) : Prop :=
  ∃ row ∈ db.messages, row.messageId = messageId ∧ row.missionId ≠ missionId

def Isolated (missionId : PyStr) (db changed : OperatorDb) : Prop :=
  ∀ messageId, IsForeign db missionId messageId →
    rowsOf changed messageId = rowsOf db messageId

/-- A local answer changes nothing at the message: its trajectory already holds the
answer and a response, and the message has the state that its deliveries give it. -/
structure Application.SparesAnswered (application : Application) (now : PyStr)
    (rows : MessageRows) : Prop where
  trajectory : ∃ row ∈ rows.trajectories, row.participantId = application.participant ∧
    isSet row.responseMessageId = true ∧ application.HoldsAnswer .localResponseReady now row
  messages : ∀ row ∈ rows.messages, row.state = rows.state ∧
    (rows.state = .applied → row.appliedAt ≠ none)

def Application.Spares (application : Application) (input : List (PyStr × Json))
    (ids : List PyStr) (inputs : CallInputs) (db : OperatorDb) (messageId : PyStr) : Prop :=
  if isFanout input = false then
    application.SparesApplied (inputs.now 0) (rowsOf db messageId)
  else if isDual input = true then
    ∀ last ∈ lastInputs messageId ids (inputs.skip 1),
      ∀ row ∈ (rowsOf db messageId).trajectories, row.participantId = application.participant →
        application.HoldsAnswer .dualLocalResponseReady (last.now 0) row
  else
    responseText application.response = none ∨
      ∀ last ∈ lastInputs messageId ids (inputs.skip 2),
        application.SparesAnswered (last.now 0) (rowsOf db messageId)

variable {application : Application}

theorem map_reconciled_eq_self {rows : List MessageRow} {state : MessageState} {stamp : PyStr} :
    (rows.map fun row => row.reconciled state stamp) = rows ↔
      ∀ row ∈ rows, row.state = state ∧ (state = .applied → row.appliedAt ≠ none) := by
  conv_lhs => rhs; rw [← List.map_id rows]
  rw [List.map_inj_left]
  refine forall₂_congr fun row _ => ?_
  constructor
  · intro same
    have sameState := congrArg MessageRow.state same
    have sameAt := congrArg MessageRow.appliedAt same
    refine ⟨sameState.symm, ?_⟩
    rintro rfl isNone
    simp [MessageRow.reconciled, isNone] at sameAt
  · rintro ⟨rfl, applied⟩
    cases at' : row.appliedAt with
    | none =>
      have notApplied : row.state ≠ .applied := fun isApplied => applied isApplied at'
      simp [MessageRow.reconciled, notApplied]
    | some instant =>
      have kept : (row.appliedAt <|> some stamp) = row.appliedAt := by
        rw [at']
        rfl
      unfold MessageRow.reconciled
      rw [kept, ite_self]
      rfl

theorem Application.Repeated.eq_iff {now : PyStr} {start final : MessageRows}
    (repeated : application.Repeated now start final) :
    final = start ↔
      (∀ row ∈ start.trajectories, row.participantId = application.participant →
        application.HoldsAnswer .localResponseReady now row) ∧
      ∀ row ∈ start.messages, row.state = start.state ∧
        (start.state = .applied → row.appliedAt ≠ none) := by
  obtain ⟨⟨stamp, messages⟩, deliveries, trajectories⟩ := repeated
  rw [← answeredTrajectories_self trajectories, ← @map_reconciled_eq_self _ _ stamp, ← messages]
  constructor
  · rintro rfl
    exact ⟨rfl, rfl⟩
  · rintro ⟨sameTrajectories, sameMessages⟩
    exact MessageRows.ext sameMessages deliveries sameTrajectories

variable {messageId : PyStr}

theorem rowsOf_applyMessages_fanout {ids : List PyStr} {inputs last : CallInputs}
    {progress final : Progress} (keyed : Keyed progress.db)
    (isMessage : HasMessage progress.db messageId)
    (hasText : (responseText application.response).isSome = true)
    (isLast : lastInputs messageId ids inputs = some last)
    (returned : applyMessages application.fanoutStep ids inputs progress = .ok final) :
    rowsOf final.db messageId = rowsOf progress.db messageId ↔
      application.SparesAnswered (last.now 0) (rowsOf progress.db messageId) := by
  have named : messageId ∈ ids := by
    by_contra notNamed
    rw [lastInputs_eq_none.mpr notNamed] at isLast
    exact absurd isLast (by simp)
  by_cases responded : (rowsOf progress.db messageId).Responded application.participant
  · have folded := rowsOf_applyMessages (answers_fanoutStep application)
      (fun rows => rows.Responded application.participant)
      (fun inputs start final => application.Repeated (inputs.now 0) start final)
      (fun _ _ _ keyed _ responded stepped => ⟨responded_of_fanoutStep hasText keyed stepped,
        repeated_of_fanoutStep hasText keyed responded stepped⟩)
      (fun _ _ _ _ _ first second => first.trans second) keyed isMessage responded returned
    rw [isLast] at folded
    rw [folded.eq_iff]
    obtain ⟨row, member, isOwn, isResponse⟩ := responded
    constructor
    · rintro ⟨holds, messages⟩
      exact ⟨⟨row, member, isOwn, isResponse, holds row member isOwn⟩, messages⟩
    · rintro ⟨⟨other, isOther, otherOwn, -, holds⟩, messages⟩
      refine ⟨fun third isThird thirdOwn => ?_, messages⟩
      obtain rfl := keyed.eq_of_mem_rowsOf isThird isOther (thirdOwn.trans otherOwn.symm)
      exact holds
  · have later := responded_of_applyMessages hasText keyed isMessage named returned
    constructor
    · intro same
      rw [same] at later
      exact absurd later responded
    · rintro ⟨⟨row, member, isOwn, isResponse, -⟩, -⟩
      exact absurd ⟨row, member, isOwn, isResponse⟩ responded

theorem rowsOf_applyMessages_of_notMem
    {step : CallInputs → Progress → PyStr → Except PyError Progress} {participantId : PyStr}
    (answers : Answers step participantId) {ids : List PyStr} {inputs : CallInputs}
    {progress final : Progress} (keyed : Keyed progress.db)
    (isMessage : HasMessage progress.db messageId) (notNamed : messageId ∉ ids)
    (returned : applyMessages step ids inputs progress = .ok final) :
    rowsOf final.db messageId = rowsOf progress.db messageId := by
  have folded := rowsOf_applyMessages answers (fun _ => True) (fun _ _ _ => True)
    (fun _ _ _ _ _ _ _ => ⟨trivial, trivial⟩) (fun _ _ _ _ _ _ _ => trivial) keyed isMessage
    trivial returned
  rw [lastInputs_eq_none.mpr notNamed] at folded
  exact folded

theorem rowsOf_note {input : List (PyStr × Json)} {ids : List PyStr} {inputs : CallInputs}
    {db changed : OperatorDb} (keyed : Keyed db) (isMessage : HasMessage db messageId)
    (effect : NoteEffect application input ids inputs db changed) :
    rowsOf changed messageId = rowsOf db messageId ↔
      (messageId ∈ ids → application.Spares input ids inputs db messageId) := by
  have isNamed : ∀ start, messageId ∈ ids → ∃ last, lastInputs messageId ids start = some last := by
    intro start named
    rw [← Option.ne_none_iff_exists']
    exact fun isNone => lastInputs_eq_none.mp isNone named
  cases effect with
  | direct notFanout progress events looped same =>
    subst same
    change rowsOf progress.db messageId = _ ↔ _
    rw [Application.Spares, if_pos notFanout, sparesApplied_iff]
    by_cases named : messageId ∈ ids
    · rw [rowsOf_applyMessages_legacy (by exact keyed) (by exact isMessage) named looped]
      exact ⟨fun same _ => same, fun spared => spared named⟩
    · have answers := answers_legacyStep application (inputs.now 0)
      rw [rowsOf_applyMessages_of_notMem answers (by exact keyed) (by exact isMessage) named
        looped]
      exact ⟨fun _ isNamed => absurd isNamed named, fun _ => rfl⟩
  | dual isFan isDouble progress looped same =>
    subst same
    rw [Application.Spares, if_neg (by simp [isFan]), if_pos isDouble]
    by_cases named : messageId ∈ ids
    · obtain ⟨last, isLast⟩ := isNamed (inputs.skip 1) named
      obtain ⟨messages, deliveries, trajectories⟩ :=
        rowsOf_applyMessages_dual (by exact keyed) (by exact isMessage) isLast looped
      have holds := answeredTrajectories_self trajectories
      rw [isLast]
      constructor
      · rintro same - other ⟨⟩
        exact holds.mp (congrArg MessageRows.trajectories same)
      · intro spared
        exact MessageRows.ext messages deliveries (holds.mpr (spared named last rfl))
    · rw [rowsOf_applyMessages_of_notMem (answers_dualStep application) (by exact keyed)
        (by exact isMessage) named looped]
      exact ⟨fun _ isNamed => absurd isNamed named, fun _ => rfl⟩
  | fanout isFan notDouble progress events looped same =>
    subst same
    change rowsOf progress.db messageId = _ ↔ _
    rw [Application.Spares, if_neg (by simp [isFan]), if_neg (by simp [notDouble])]
    by_cases named : messageId ∈ ids
    · obtain ⟨last, isLast⟩ := isNamed (inputs.skip 2) named
      cases hasText : responseText application.response with
      | none =>
        have folded := rowsOf_applyMessages (answers_fanoutStep application) (fun _ => True)
          (fun _ start final => final = start)
          (fun _ _ _ keyed _ _ stepped => ⟨trivial, by
            rw [eq_of_fanoutStep hasText keyed stepped]⟩)
          (fun _ _ _ _ _ first second => second.trans first) (by exact keyed)
          (by exact isMessage) trivial looped
        rw [isLast] at folded
        exact ⟨fun _ _ => .inl rfl, fun _ => folded⟩
      | some text =>
        rw [isLast, rowsOf_applyMessages_fanout (by exact keyed) (by exact isMessage)
          (by rw [hasText]; rfl) isLast looped]
        constructor
        · rintro spared -
          refine .inr ?_
          rintro other ⟨⟩
          exact spared
        · intro spared
          rcases spared named with impossible | spared
          · exact absurd impossible (by simp)
          · exact spared last rfl
    · rw [rowsOf_applyMessages_of_notMem (answers_fanoutStep application) (by exact keyed)
        (by exact isMessage) named looped]
      exact ⟨fun _ isNamed => absurd isNamed named, fun _ => rfl⟩

/-- A call leaves the rows of other missions' messages alone exactly when it would
change nothing at those that its result names. -/
theorem isolated_iff_spares {db changed : OperatorDb} (keyed : Keyed db) {assignmentId : PyStr}
    {row : AssignmentRow} (isRow : findAssignment db assignmentId = some row)
    {input result : List (PyStr × Json)} (isInput : row.inputFields = .ok input)
    {participant : PyStr}
    (isParticipant : respondingParticipant row input result = .ok participant)
    {inputs : CallInputs} {outcome : ApplicationOutcome}
    (returned : noteAssignmentApplication db assignmentId result inputs =
      .ok (changed, outcome)) :
    Isolated row.missionId db changed ↔
      ∀ messageId ∈ answeredIds result, IsForeign db row.missionId messageId →
        (applicationOf row participant result).Spares input (answeredIds result) inputs db
          messageId := by
  rw [noteAssignmentApplication, isRow] at returned
  obtain ⟨readInput, readParticipant, isRead, isReadParticipant, effect⟩ :=
    noteEffect_of_noteApplication returned
  obtain rfl := Except.ok.inj (isInput.symm.trans isRead)
  obtain rfl := Except.ok.inj (isParticipant.symm.trans isReadParticipant)
  have each : ∀ messageId, IsForeign db row.missionId messageId →
      (rowsOf changed messageId = rowsOf db messageId ↔ (messageId ∈ answeredIds result →
        (applicationOf row participant result).Spares input (answeredIds result) inputs db
          messageId)) := by
    rintro messageId ⟨message, member, isKey, -⟩
    exact rowsOf_note keyed ⟨message, member, isKey⟩ effect
  constructor
  · intro isolated messageId named foreign
    exact (each messageId foreign).mp (isolated messageId foreign) named
  · intro spares messageId foreign
    exact (each messageId foreign).mpr fun named => spares messageId named foreign

/-- An assignment of the mission M1, and a message of the mission M2 to a worker of the
same name. -/
def sharedWorkerDb : OperatorDb :=
  { missionDb with
    messages := [⟨py "X", py "M2", py "C2", primaryParticipant, py "worker:MD001", py "MESSAGE",
      py "x", [], 0, 0, .pending, [], none, none, none, none, none, none⟩]
    deliveries := [newDelivery (py "X") (py "worker:MD001")]
    assignments := [⟨py "A1", py "M1", py "P1", py "LD1", py "MD001", [], none, .claimed, 1, 1, 0,
      0, autonomousOwner, [], none, none, none⟩] }

theorem keyed_sharedWorkerDb : Keyed sharedWorkerDb :=
  ⟨by decide, by decide, by decide, by decide⟩

def namingResult : List (PyStr × Json) :=
  [(py "operator_message_ids", .arr [.str (py "X")])]

/-- The result of the assignment in M1 is applied to the message of M2. -/
theorem isolated_iff_spares_shared :
    ∃ row changed outcome, noteAssignmentApplication sharedWorkerDb (py "A1") namingResult
        ⟨fun _ => [], fun _ => []⟩ = .ok (changed, outcome) ∧
      (Isolated (py "M1") sharedWorkerDb changed ↔
        ∀ messageId ∈ answeredIds namingResult, IsForeign sharedWorkerDb (py "M1") messageId →
          (applicationOf row (py "worker:MD001") namingResult).Spares [] (answeredIds namingResult)
            ⟨fun _ => [], fun _ => []⟩ sharedWorkerDb messageId) := by
  cases returned : noteAssignmentApplication sharedWorkerDb (py "A1") namingResult
      ⟨fun _ => [], fun _ => []⟩ with
  | error error =>
    have returns : (noteAssignmentApplication sharedWorkerDb (py "A1") namingResult
        ⟨fun _ => [], fun _ => []⟩).toOption.isSome = true := by decide +kernel
    rw [returned] at returns
    exact absurd returns (by simp [Except.toOption])
  | ok result =>
    obtain ⟨changed, outcome⟩ := result
    exact ⟨_, changed, outcome, rfl, isolated_iff_spares keyed_sharedWorkerDb rfl rfl rfl returned⟩

/-- A call may change the delivery of a message of another mission. -/
theorem exists_not_isolated :
    ¬ ∀ (db changed : OperatorDb) (assignmentId : PyStr) (row : AssignmentRow)
      (result : List (PyStr × Json)) (inputs : CallInputs) (outcome : ApplicationOutcome),
      Keyed db → findAssignment db assignmentId = some row →
      noteAssignmentApplication db assignmentId result inputs = .ok (changed, outcome) →
      Isolated row.missionId db changed := by
  intro always
  have applied : ((noteAssignmentApplication sharedWorkerDb (py "A1") namingResult
      ⟨fun _ => [], fun _ => []⟩).toOption.map fun returned =>
        (rowsOf returned.1 (py "X")).deliveries.map DeliveryRow.deliveryState) =
      some [.applied] := by
    decide +kernel
  cases returned : noteAssignmentApplication sharedWorkerDb (py "A1") namingResult
      ⟨fun _ => [], fun _ => []⟩ with
  | error error =>
    rw [returned] at applied
    exact absurd applied (by simp [Except.toOption])
  | ok result =>
    obtain ⟨changed, outcome⟩ := result
    have isolated := always _ changed _ _ _ _ outcome keyed_sharedWorkerDb rfl returned
    have same := isolated (py "X") ⟨_, List.mem_singleton_self _, rfl, by decide⟩
    rw [returned] at applied
    have states := Option.some.inj applied
    dsimp only at states
    rw [same] at states
    exact absurd states (by decide)

end OperatorControl

end CyberLion
