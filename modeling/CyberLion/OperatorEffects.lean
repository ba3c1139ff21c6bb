import CyberLion.OperatorCommands

/-!
# What a command does to the tables

The inversion of `apply_command`'s transaction: the control row it starts from,
the tables that the branch of its action changes, and the rows of the command,
its event and its receipt.  Later results use these lemmas and never unfold the
branches.
-/

namespace CyberLion

namespace OperatorControl

open PyLib

/-! ### The control row -/

theorem missionId_of_findControl {db : OperatorDb} {missionId : PyStr} {row : ControlRow}
    (found : findControl db missionId = some row) : row.missionId = missionId := by
  have isKey := List.find?_some found
  simpa using isKey

/-- The control row that the transaction of a command starts from. -/
inductive Ensured (db : OperatorDb) (missionId : PyStr) : OperatorDb → ControlRow → Prop
  | found (row : ControlRow) (found : findControl db missionId = some row) :
      Ensured db missionId db row
  | inserted (inputs : CallInputs) (missing : findControl db missionId = none) :
      Ensured db missionId
        { db with controls := db.controls ++ [initialControl missionId inputs] }
        (initialControl missionId inputs)

theorem ensured_of_ensureControlState {db changed : OperatorDb} {missionId : PyStr}
    {inputs : CallInputs} {state : ControlRow}
    (returned : ensureControlState db missionId inputs = .ok (changed, state)) :
    Ensured db missionId changed state := by
  simp only [ensureControlState, bind_eq_ok, raiseIf_eq_ok] at returned
  obtain ⟨-, -, returned⟩ := returned
  cases found : findControl db missionId with
  | none =>
    rw [found] at returned
    obtain ⟨rfl, rfl⟩ := Prod.mk.inj (Except.ok.inj returned)
    exact .inserted inputs found
  | some row =>
    rw [found] at returned
    obtain ⟨rfl, rfl⟩ := Prod.mk.inj (Except.ok.inj returned)
    exact .found row found

theorem Ensured.findControl_eq {db changed : OperatorDb} {missionId : PyStr} {state : ControlRow}
    (ensured : Ensured db missionId changed state) :
    findControl changed missionId = some state := by
  cases ensured with
  | found _ found => exact found
  | inserted inputs missing =>
    simp only [findControl, List.find?_append]
    rw [findControl] at missing
    rw [missing]
    simp [initialControl]

theorem ensureControlState_eq_ok_of_found {db changed : OperatorDb} {missionId : PyStr}
    {inputs : CallInputs} {row state : ControlRow} (found : findControl db missionId = some row)
    (returned : ensureControlState db missionId inputs = .ok (changed, state)) :
    changed = db ∧ state = row := by
  cases ensured_of_ensureControlState returned with
  | found other isOther => exact ⟨rfl, Option.some.inj (isOther.symm.trans found)⟩
  | inserted _ missing =>
    rw [found] at missing
    exact absurd missing (by simp)

theorem bumpControl_eq_ok {db changed : OperatorDb} {missionId commandId : PyStr}
    {inputs : CallInputs} {change : ControlChange} {row state : ControlRow}
    (found : findControl db missionId = some row)
    (returned : bumpControl db missionId inputs change commandId = .ok (changed, state)) :
    changed = updateControl db missionId (fun row => row.bump change commandId (inputs.now 1)) ∧
      state = row.bump change commandId (inputs.now 1) := by
  simp only [bumpControl, bind_eq_ok, pure_eq_ok] at returned
  obtain ⟨⟨middle, current⟩, ensured, same⟩ := returned
  obtain ⟨rfl, rfl⟩ := ensureControlState_eq_ok_of_found found ensured
  obtain ⟨rfl, rfl⟩ := Prod.mk.inj same
  exact ⟨rfl, rfl⟩

/-! ### The driver -/

theorem exists_of_driverFence {db changed : OperatorDb} {missionId reason : PyStr}
    {inputs : CallInputs} {state : Option PyStr} {fence : Option DriverFence}
    (returned : driverFence db missionId inputs state reason = .ok (changed, fence)) :
    ∃ drivers checkpoints,
      changed = { db with drivers := drivers, checkpoints := checkpoints } := by
  rw [driverFence] at returned
  split at returned
  · obtain ⟨rfl, -⟩ := Prod.mk.inj (Except.ok.inj returned)
    exact ⟨_, _, rfl⟩
  · simp only [fenceDriver, bind_eq_ok, pure_eq_ok] at returned
    obtain ⟨_, ⟨_, -, _, -, checkpoints, -, rfl⟩, same⟩ := returned
    obtain ⟨rfl, -⟩ := Prod.mk.inj same
    exact ⟨_, _, rfl⟩

theorem moveAssignments_eq_ok {db moved : OperatorDb} {selected : AssignmentRow → Bool}
    {change : AssignmentRow → AssignmentRow}
    (returned : moveAssignments db selected change = .ok moved) :
    moved = updateAssignments db selected change ∧
      (moved.assignments.map AssignmentRow.slot).Nodup := by
  simp only [moveAssignments, bind_eq_ok, raiseIf_eq_ok, pure_eq_ok, not_not] at returned
  obtain ⟨-, unique, rfl⟩ := returned
  exact ⟨rfl, unique⟩

theorem map_assignmentId {db : OperatorDb} {selected : AssignmentRow → Bool}
    {change : AssignmentRow → AssignmentRow}
    (kept : ∀ row, (change row).assignmentId = row.assignmentId) :
    (updateAssignments db selected change).assignments.map AssignmentRow.assignmentId =
      db.assignments.map AssignmentRow.assignmentId :=
  map_updateWhere AssignmentRow.assignmentId (fun row _ => kept row) db.assignments

/-! ### The branches -/

/-- The rows that `RELEASE_CONTROL` cancels, and those that it hands over. -/
def AssignmentRow.isForeign (row : AssignmentRow) (missionId principalId : PyStr) : Bool :=
  row.isIn missionId .ready && row.dispatchAuthority ≠ principalId

def AssignmentRow.isOwn (row : AssignmentRow) (missionId principalId : PyStr) : Bool :=
  row.isIn missionId .ready && row.dispatchAuthority = principalId

/-- The row that `RELEASE_CONTROL` hands over. -/
def AssignmentRow.handedOver (row : AssignmentRow) (generation controlEpoch : Int) :
    AssignmentRow :=
  { row with
    leaseGeneration := generation
    controlEpoch := controlEpoch
    dispatchAuthority := autonomousOwner }

/-- What the branch of an action does to the database of a mission whose control row
is `state`. -/
inductive ActionEffect (missionId principalId : PyStr) (state : ControlRow) (db : OperatorDb) :
    Action → OperatorDb → Prop
  | status : ActionEffect missionId principalId state db .requestStatus db
  | message (action : Action) (isMessage : action = .message ∨ action = .annotate)
      (messageId : PyStr) (row : MessageRow) (recipients : List (PyStr × CognitionRoute))
      (hasId : row.messageId = messageId) (isOwn : row.missionId = missionId)
      (start : recipients ≠ [] → row.state = .pending) :
      ActionEffect missionId principalId state db action
        (recipients.foldl (addRecipient messageId) { db with
          messages := insertOrIgnore (fun other => other.messageId = messageId) row
            db.messages })
  | context (row : RevisionRow) (isOwn : row.missionId = missionId)
      (next : row.revision = state.contextRevision + 1) (commandId now : PyStr) :
      ActionEffect missionId principalId state db .amendContext
        (updateControl { db with contextRevisions := db.contextRevisions ++ [row] } missionId
          fun control => { control with
            contextRevision := row.revision
            lastCommandId := some commandId
            updatedAt := some now })
  | plan (row : RevisionRow) (isOwn : row.missionId = missionId)
      (next : row.revision = state.planRevision + 1) (commandId now : PyStr) :
      ActionEffect missionId principalId state db .amendPlan
        (updateControl { db with planRevisions := db.planRevisions ++ [row] } missionId
          fun control => { control with
            planRevision := row.revision
            lastCommandId := some commandId
            updatedAt := some now })
  | proposal (planAmendments : List PlanAmendmentRow) :
      ActionEffect missionId principalId state db .amendPlan
        { db with planAmendments := planAmendments }
  | approval (approvals : List ApprovalRow) :
      ActionEffect missionId principalId state db .approveProposal
        { db with approvals := approvals }
  | revoke (change : ControlChange) (commandId now : PyStr) (row : CapabilityRevocationRow)
      (isOwn : row.missionId = missionId) (open' : row.releasedAt = none) :
      ActionEffect missionId principalId state db .revokeCapability
        { updateControl db missionId (fun control => control.bump change commandId now) with
          capabilityRevocations := db.capabilityRevocations ++ [row] }
  | fence (action : Action) (change : ControlChange)
      (isFence : action = .pauseScope ∧ change = ⟨none, some true, none⟩ ∨
        action = .stopScope ∧ change = ⟨none, some true, some true⟩ ∨
        action = .takeControl ∧ change = ⟨some principalId, none, none⟩)
      (commandId now fencedAt : PyStr) (drivers : List DriverRow)
      (checkpoints : List CheckpointRow) :
      ActionEffect missionId principalId state db action
        (fenceAssignments
          { updateControl db missionId (fun control => control.bump change commandId now) with
            drivers := drivers, checkpoints := checkpoints } missionId fencedAt).1
  | release (commandId now fencedAt : PyStr) (drivers : List DriverRow)
      (checkpoints : List CheckpointRow) (generation : Int) :
      ActionEffect missionId principalId state db .releaseControl
        (requestCancellation
          (updateAssignments
            (updateAssignments
              { updateControl db missionId
                  (fun control => control.bump ⟨some autonomousOwner, none, none⟩ commandId now)
                with drivers := drivers, checkpoints := checkpoints }
              (fun row => row.isForeign missionId principalId) (cancelRow fencedAt))
            (fun row => row.isOwn missionId principalId)
            (fun row => row.handedOver generation (state.controlEpoch + 1))) missionId)
  | resume (change : ControlChange) (keepsOwner : change.owner = none) (commandId now : PyStr) :
      ActionEffect missionId principalId state db .resumeScope
        (updateControl db missionId fun control => control.bump change commandId now)
  | cancel (old : AssignmentRow) (found : old ∈ db.assignments) (isOwn : old.missionId = missionId)
      (ready : old.state = .ready) (now : PyStr) :
      ActionEffect missionId principalId state db .cancelAssignment
        (updateAssignments db (fun row => row.assignmentId = old.assignmentId) (cancelRow now))
  | requestCancel (old : AssignmentRow) (found : old ∈ db.assignments)
      (isOwn : old.missionId = missionId) (claimed : old.state = .claimed) :
      ActionEffect missionId principalId state db .cancelAssignment
        (updateAssignments db (fun row => row.assignmentId = old.assignmentId)
          fun row => { row with state := .cancelRequested })
  | awaits (old : AssignmentRow) (found : old ∈ db.assignments)
      (isOwn : old.missionId = missionId)
      (busy : old.state = .claimed ∨ old.state = .cancelRequested) (drivers : List DriverRow)
      (checkpoints : List CheckpointRow) :
      ActionEffect missionId principalId state db .reassign
        (updateAssignments { db with drivers := drivers, checkpoints := checkpoints }
          (fun row => row.assignmentId = old.assignmentId)
          fun row => { row with state := .cancelRequested })
  | replace (old : AssignmentRow) (found : old ∈ db.assignments)
      (isOwn : old.missionId = missionId)
      (idle : old.state = .ready ∨ old.state = .cancelled ∨ old.state = .staleResult)
      (drivers : List DriverRow) (checkpoints : List CheckpointRow) (generation : Int)
      (newId material cancelledAt now : PyStr) (fresh : ∀ row ∈ db.assignments,
        row.assignmentId ≠ newId) :
      ActionEffect missionId principalId state db .reassign
        { db with
          drivers := drivers
          checkpoints := checkpoints
          assignments :=
            updateWhere (fun row => row.isIn missionId .ready &&
                row.assignmentId ≠ old.assignmentId)
              (fun row => { row with leaseGeneration := generation })
              (updateWhere (fun row => row.assignmentId = old.assignmentId)
                (fun row => { row with
                  state := .cancelled
                  finishedAt := row.finishedAt <|> some cancelledAt }) db.assignments) ++
              [old.reassigned newId material generation state principalId now] }

variable {db changed : OperatorDb} {command : OperatorCommand} {state : ControlRow}
  {principalId participantId : PyStr} {inputs : CallInputs} {outcome : ActionOutcome}

theorem map_fst_of_messageRoutes {isMessage : Bool} {payload : List (PyStr × Json)}
    {recipients : List PyStr} {routes : List (PyStr × CognitionRoute)}
    (routed : messageRoutes isMessage payload recipients = .ok routes) :
    routes.map Prod.fst = recipients := by
  cases isMessage with
  | false =>
    obtain rfl := Except.ok.inj routed
    rw [List.map_map]
    exact List.map_id recipients
  | true =>
    simp only [messageRoutes, if_true, protocolRecipientRoutes, bind_eq_ok] at routed
    obtain ⟨_, -, _, -, _, -, _, -, _, -, mapped⟩ := routed
    have each := mapM_eq_ok.mp mapped
    clear mapped
    induction each with
    | nil => rfl
    | cons chosen later ih =>
      simp only [bind_eq_ok, pure_eq_ok] at chosen
      obtain ⟨_, -, rfl⟩ := chosen
      rw [List.map_cons, ih]

theorem effect_of_sendMessage (isMessage : command.action = .message ∨ command.action = .annotate)
    (returned : sendMessage db command state inputs participantId = .ok (changed, outcome)) :
    ActionEffect command.missionId principalId state db command.action changed := by
  simp only [sendMessage, storeMessage, bind_eq_ok, pure_eq_ok] at returned
  obtain ⟨_, ⟨_, -, messageId, -, recipients, -, routes, routed, _, -, _, -, _, -, rfl⟩, same⟩ :=
    returned
  obtain ⟨rfl, -⟩ := Prod.mk.inj same
  refine .message command.action isMessage messageId _ routes rfl rfl fun some => ?_
  have named : recipients ≠ [] := by
    rw [← map_fst_of_messageRoutes routed]
    simpa using some
  exact if_neg named

theorem effect_of_amendContext
    (returned : amendContext db command state inputs = .ok (changed, outcome)) :
    ActionEffect command.missionId principalId state db .amendContext changed := by
  simp only [amendContext, insertRevision, bind_eq_ok, insertRow_eq_ok, pure_eq_ok] at returned
  obtain ⟨_, -, _, -, _, -, _, ⟨-, rfl⟩, same⟩ := returned
  obtain ⟨rfl, -⟩ := Prod.mk.inj same
  refine .context _ ?_ ?_ _ _ <;> rfl

theorem effect_of_amendPlan
    (returned : amendPlan db command state inputs = .ok (changed, outcome)) :
    ActionEffect command.missionId principalId state db .amendPlan changed := by
  simp only [amendPlan, bind_eq_ok] at returned
  obtain ⟨_, -, _, -, _, -, returned⟩ := returned
  split at returned
  · simp only [proposePlan, bind_eq_ok, pure_eq_ok] at returned
    obtain ⟨_, -, rows, -, same⟩ := returned
    obtain ⟨rfl, -⟩ := Prod.mk.inj same
    exact .proposal rows
  · simp only [insertRevision, bind_eq_ok, insertRow_eq_ok, pure_eq_ok] at returned
    obtain ⟨_, ⟨-, rfl⟩, same⟩ := returned
    obtain ⟨rfl, -⟩ := Prod.mk.inj same
    refine .plan _ ?_ ?_ _ _ <;> rfl

theorem effect_of_approveProposal
    (returned : approveProposal db command inputs = .ok (changed, outcome)) :
    ActionEffect command.missionId principalId state db .approveProposal changed := by
  simp only [approveProposal, bind_eq_ok, pure_eq_ok] at returned
  obtain ⟨_, -, _, -, _, -, rows, -, same⟩ := returned
  obtain ⟨rfl, -⟩ := Prod.mk.inj same
  exact .approval rows

section Bumped

variable (found : findControl db command.missionId = some state)
include found

theorem effect_of_revokeCapability
    (returned : revokeCapability db command inputs = .ok (changed, outcome)) :
    ActionEffect command.missionId principalId state db .revokeCapability changed := by
  simp only [revokeCapability, bind_eq_ok, insertRow_eq_ok, pure_eq_ok] at returned
  obtain ⟨_, -, ⟨_, _⟩, bumped, _, ⟨-, rfl⟩, same⟩ := returned
  obtain ⟨rfl, rfl⟩ := bumpControl_eq_ok found bumped
  obtain ⟨rfl, -⟩ := Prod.mk.inj same
  exact .revoke _ _ _ _ rfl rfl

theorem effect_of_fenceScope {action : Action} {change : ControlChange}
    {driverState : Option PyStr} {reason : PyStr}
    (isFence : action = .pauseScope ∧ change = ⟨none, some true, none⟩ ∨
      action = .stopScope ∧ change = ⟨none, some true, some true⟩ ∨
      action = .takeControl ∧ change = ⟨some principalId, none, none⟩)
    (returned : fenceScope db command inputs change driverState reason = .ok (changed, outcome)) :
    ActionEffect command.missionId principalId state db action changed := by
  simp only [fenceScope, bind_eq_ok, pure_eq_ok] at returned
  obtain ⟨⟨_, _⟩, bumped, ⟨_, _⟩, fenced, same⟩ := returned
  obtain ⟨rfl, rfl⟩ := bumpControl_eq_ok found bumped
  obtain ⟨drivers, checkpoints, rfl⟩ := exists_of_driverFence fenced
  obtain ⟨rfl, -⟩ := Prod.mk.inj same
  exact .fence action change isFence _ _ _ drivers checkpoints

theorem effect_of_releaseControl
    (returned : releaseControl db command principalId inputs = .ok (changed, outcome)) :
    ActionEffect command.missionId principalId state db .releaseControl changed := by
  simp only [releaseControl, bind_eq_ok, pure_eq_ok, releaseAssignmentHandoff] at returned
  obtain ⟨⟨_, _⟩, bumped, ⟨_, _⟩, fenced, ⟨_, _⟩, ⟨rebound, moved, handed⟩, same⟩ := returned
  obtain ⟨rfl, rfl⟩ := bumpControl_eq_ok found bumped
  obtain ⟨drivers, checkpoints, rfl⟩ := exists_of_driverFence fenced
  obtain ⟨rfl, -⟩ := moveAssignments_eq_ok moved
  obtain ⟨rfl, -⟩ := Prod.mk.inj handed
  obtain ⟨rfl, -⟩ := Prod.mk.inj same
  exact .release _ _ _ drivers checkpoints _

theorem effect_of_resumeScope
    (returned : resumeScope db command inputs = .ok (changed, outcome)) :
    ActionEffect command.missionId principalId state db .resumeScope changed := by
  simp only [resumeScope, bind_eq_ok, pure_eq_ok] at returned
  obtain ⟨change, resumed, ⟨_, _⟩, bumped, same⟩ := returned
  obtain ⟨rfl, rfl⟩ := bumpControl_eq_ok found bumped
  obtain ⟨rfl, -⟩ := Prod.mk.inj same
  refine .resume change ?_ _ _
  unfold resumeChange at resumed
  split_ifs at resumed <;> simp only [Except.ok.injEq] at resumed <;> rw [← resumed]

end Bumped

theorem mem_of_missionAssignment {assignmentId missionId : PyStr} {row : AssignmentRow}
    (found : missionAssignment db assignmentId missionId = some row) :
    row ∈ db.assignments ∧ row.assignmentId = assignmentId ∧ row.missionId = missionId := by
  have isKey := List.find?_some found
  simp only [Bool.and_eq_true, decide_eq_true_eq] at isKey
  exact ⟨List.mem_of_find?_eq_some found, isKey⟩

theorem effect_of_cancelAssignment
    (returned : cancelAssignment db command inputs = .ok (changed, outcome)) :
    ActionEffect command.missionId principalId state db .cancelAssignment changed := by
  simp only [cancelAssignment, bind_eq_ok] at returned
  obtain ⟨_, -, returned⟩ := returned
  split at returned
  · simp at returned
  · rename_i row found
    obtain ⟨member, -, isOwn⟩ := mem_of_missionAssignment found
    unfold cancelFound at returned
    dsimp only at returned
    split at returned
    · rename_i ready
      obtain ⟨rfl, -⟩ := Prod.mk.inj (Except.ok.inj returned)
      exact .cancel row member isOwn ready _
    · rename_i claimed
      obtain ⟨rfl, -⟩ := Prod.mk.inj (Except.ok.inj returned)
      exact .requestCancel row member isOwn claimed
    · simp at returned

/-- What `REASSIGN` of one assignment does to the database. -/
inductive ReassignEffect (principalId : PyStr) (state : ControlRow) (old : AssignmentRow)
    (db : OperatorDb) : OperatorDb → Prop
  | awaits (busy : old.state = .claimed ∨ old.state = .cancelRequested)
      (drivers : List DriverRow) (checkpoints : List CheckpointRow) :
      ReassignEffect principalId state old db
        (updateAssignments { db with drivers := drivers, checkpoints := checkpoints }
          (fun row => row.assignmentId = old.assignmentId)
          fun row => { row with state := .cancelRequested })
  | replace (idle : old.state = .ready ∨ old.state = .cancelled ∨ old.state = .staleResult)
      (drivers : List DriverRow) (checkpoints : List CheckpointRow) (generation : Int)
      (newId material cancelledAt now : PyStr) (fresh : ∀ row ∈ db.assignments,
        row.assignmentId ≠ newId) :
      ReassignEffect principalId state old db
        { db with
          drivers := drivers
          checkpoints := checkpoints
          assignments :=
            updateWhere (fun row => row.isIn old.missionId .ready &&
                row.assignmentId ≠ old.assignmentId)
              (fun row => { row with leaseGeneration := generation })
              (updateWhere (fun row => row.assignmentId = old.assignmentId)
                (fun row => { row with
                  state := .cancelled
                  finishedAt := row.finishedAt <|> some cancelledAt }) db.assignments) ++
              [old.reassigned newId material generation state principalId now] }

theorem reassignEffect_of_reassignFound (found : findControl db command.missionId = some state)
    {old : AssignmentRow} {material : PyStr}
    (returned : reassignFound db command old material principalId inputs =
      .ok (changed, outcome)) : ReassignEffect principalId state old db changed := by
  simp only [reassignFound, bind_eq_ok, raiseIf_eq_ok, Bool.not_eq_false] at returned
  obtain ⟨-, reassignable, ⟨_, _⟩, fenced, ⟨_, _⟩, ensured, returned⟩ := returned
  obtain ⟨drivers, checkpoints, rfl⟩ := exists_of_driverFence fenced
  obtain ⟨rfl, rfl⟩ := ensureControlState_eq_ok_of_found (by exact found) ensured
  dsimp only at returned
  split at returned
  · rename_i busy
    obtain ⟨rfl, -⟩ := Prod.mk.inj (Except.ok.inj returned)
    exact .awaits busy drivers checkpoints
  · rename_i idle
    have idleStates : old.state = .ready ∨ old.state = .cancelled ∨ old.state = .staleResult := by
      revert reassignable idle
      cases old.state <;> simp [AssignmentState.isReassignable]
    simp only [replaceAssignment, insertAssignment, bind_eq_ok, insertRow_eq_ok, pure_eq_ok]
      at returned
    obtain ⟨moved, isMoved, _, ⟨_, ⟨free, rfl⟩, rfl⟩, same⟩ := returned
    obtain ⟨movedEq, -⟩ := moveAssignments_eq_ok isMoved
    have ids : moved.assignments.map AssignmentRow.assignmentId =
        db.assignments.map AssignmentRow.assignmentId := by
      rw [movedEq, map_assignmentId, map_assignmentId] <;> exact fun _ => rfl
    obtain ⟨rfl, -⟩ := Prod.mk.inj same
    subst movedEq
    refine .replace idleStates drivers checkpoints _ _ _ _ _ fun row isRow => ?_
    have inMoved := List.mem_map_of_mem (f := AssignmentRow.assignmentId) isRow
    rw [← ids] at inMoved
    obtain ⟨other, isOther, sameId⟩ := List.mem_map.mp inMoved
    have apart := free other isOther
    simp only [Bool.or_eq_false_iff, decide_eq_false_iff_not] at apart
    rw [← sameId]
    exact apart.1

theorem effect_of_reassignFound (found : findControl db command.missionId = some state)
    {old : AssignmentRow} (member : old ∈ db.assignments)
    (isOwn : old.missionId = command.missionId) {material : PyStr}
    (returned : reassignFound db command old material principalId inputs =
      .ok (changed, outcome)) :
    ActionEffect command.missionId principalId state db .reassign changed := by
  have effect := reassignEffect_of_reassignFound found returned
  rw [← isOwn]
  cases effect with
  | awaits busy drivers checkpoints => exact .awaits old member rfl busy drivers checkpoints
  | replace idle drivers checkpoints generation newId material cancelledAt now fresh =>
    exact .replace old member rfl idle drivers checkpoints generation newId material cancelledAt
      now fresh

theorem effect_of_reassign (found : findControl db command.missionId = some state)
    (returned : reassign db command principalId inputs = .ok (changed, outcome)) :
    ActionEffect command.missionId principalId state db .reassign changed := by
  simp only [reassign, bind_eq_ok] at returned
  obtain ⟨_, -, _, -, returned⟩ := returned
  split at returned
  · simp at returned
  · rename_i old isOld
    obtain ⟨member, -, isOwn⟩ := mem_of_missionAssignment isOld
    exact effect_of_reassignFound found member isOwn returned

theorem effect_of_applyAction (found : findControl db command.missionId = some state)
    (returned : applyAction db command state principalId participantId inputs =
      .ok (changed, outcome)) :
    ActionEffect command.missionId principalId state db command.action changed := by
  unfold applyAction at returned
  split at returned
  next isAction =>
    obtain ⟨rfl, -⟩ := Prod.mk.inj (Except.ok.inj returned)
    rw [isAction]
    exact .status
  next isAction => exact effect_of_sendMessage (.inl isAction) returned
  next isAction => exact effect_of_sendMessage (.inr isAction) returned
  next isAction =>
    rw [isAction]
    exact effect_of_amendContext returned
  next isAction =>
    rw [isAction]
    exact effect_of_amendPlan returned
  next isAction =>
    rw [isAction]
    exact effect_of_approveProposal returned
  next isAction =>
    rw [isAction]
    exact effect_of_revokeCapability found returned
  next isAction =>
    rw [isAction]
    exact effect_of_fenceScope found (.inl ⟨rfl, rfl⟩) returned
  next isAction =>
    rw [isAction]
    exact effect_of_fenceScope found (.inr (.inl ⟨rfl, rfl⟩)) returned
  next isAction =>
    rw [isAction]
    exact effect_of_fenceScope found (.inr (.inr ⟨rfl, rfl⟩)) returned
  next isAction =>
    rw [isAction]
    exact effect_of_releaseControl found returned
  next isAction =>
    rw [isAction]
    exact effect_of_resumeScope found returned
  next isAction =>
    rw [isAction]
    exact effect_of_cancelAssignment returned
  next isAction =>
    rw [isAction]
    exact effect_of_reassign found returned

/-! ### The control row after an action -/

theorem findControl_updateControl {missionId : PyStr} {change : ControlRow → ControlRow}
    (kept : ∀ row, (change row).missionId = row.missionId) (other : PyStr) :
    findControl (updateControl db missionId change) other =
      (findControl db other).map fun row =>
        if row.missionId = missionId then change row else row := by
  simp only [findControl, updateControl]
  rw [find?_updateWhere fun row => by rw [kept]]
  simp only [decide_eq_true_eq]

theorem exists_foldl_addRecipient (messageId : PyStr)
    (recipients : List (PyStr × CognitionRoute)) (db : OperatorDb) :
    ∃ deliveries routes, recipients.foldl (addRecipient messageId) db =
      { db with deliveries := deliveries, routes := routes } := by
  induction recipients generalizing db with
  | nil => exact ⟨db.deliveries, db.routes, rfl⟩
  | cons recipient recipients ih =>
    obtain ⟨deliveries, routes, same⟩ := ih (addRecipient messageId db recipient)
    exact ⟨deliveries, routes, same⟩

theorem controls_of_effect {missionId : PyStr} {action : Action}
    (effect : ActionEffect missionId principalId state db action changed) :
    changed.controls = db.controls ∨ ∃ change : ControlRow → ControlRow,
      changed.controls = updateWhere (fun row => row.missionId = missionId) change db.controls ∧
        ∀ row, (change row).missionId = row.missionId := by
  cases effect with
  | message _ _ messageId row recipients =>
    obtain ⟨deliveries, routes, same⟩ := exists_foldl_addRecipient messageId recipients { db with
      messages := insertOrIgnore (fun other => other.messageId = messageId) row db.messages }
    rw [same]
    exact .inl rfl
  | status | proposal | approval | cancel | requestCancel | awaits | replace => exact .inl rfl
  | context | plan | revoke | fence | release | resume =>
    exact .inr ⟨_, rfl, fun _ => rfl⟩

theorem exists_findControl_of_effect {missionId : PyStr} {action : Action}
    (effect : ActionEffect missionId principalId state db action changed)
    (found : findControl db missionId = some state) :
    ∃ final, findControl changed missionId = some final := by
  rcases controls_of_effect effect with same | ⟨change, updated, key⟩
  · exact ⟨state, by rw [findControl, same]; exact found⟩
  · have lookup := @findControl_updateControl db missionId change key missionId
    rw [found] at lookup
    rw [findControl, updated]
    exact ⟨_, lookup⟩

/-! ### The transaction -/

/-- What a committed command does: its row is new, its action takes effect, and its
event and its receipt are added. -/
inductive CommitEffect (admission : Admission) (db : OperatorDb) : OperatorDb → Prop
  | intro (started applied : OperatorDb) (state : ControlRow)
      (commandDigest payloadJson stamp resultJson : PyStr) (completion : Completion)
      (event : EventRow) (receipt : CommandReceiptRow)
      (ensured : Ensured db admission.command.missionId started state)
      (expected : ∀ revision ∈ admission.command.expectedRevision, revision = state.controlEpoch)
      (digested : admission.command.payloadDigest = .ok commandDigest)
      (fresh : ∀ other ∈ db.commands, other.commandId ≠ admission.command.commandId)
      (effect : ActionEffect admission.command.missionId admission.principalId state
        { started with
          commands := db.commands ++
            [admission.row commandDigest payloadJson state.controlEpoch stamp] }
        admission.command.action applied)
      (eventOf : event.commandId = some admission.command.commandId)
      (eventType : event.eventType = py "OPERATOR_COMMAND_APPLIED")
      (receiptOf : receipt.commandId = admission.command.commandId)
      (unreceived : ∀ other ∈ applied.receipts, other.commandId ≠ admission.command.commandId) :
      CommitEffect admission db { applied with
        commands := updateWhere (fun row => row.commandId = admission.command.commandId)
          (fun row => row.completed completion resultJson) applied.commands
        events := applied.events ++ [event]
        receipts := applied.receipts ++ [receipt] }

theorem commands_of_ensured {missionId : PyStr} (ensured : Ensured db missionId changed state) :
    changed.commands = db.commands := by
  cases ensured <;> rfl

theorem effect_of_commit {admission : Admission} {receipt : List (PyStr × Json)}
    (returned : admission.commit db inputs = .ok (changed, receipt)) :
    CommitEffect admission db changed := by
  simp only [Admission.commit, Admission.start, bind_eq_ok, raiseIf_eq_ok, insertRow_eq_ok,
    pure_eq_ok, not_exists, not_and, not_not, decide_eq_false_iff_not] at returned
  obtain ⟨⟨_, _⟩, ⟨⟨started, state⟩, ensuring, -, expected, commandDigest, digested, payloadJson,
    -, _, ⟨fresh, rfl⟩, same⟩, ⟨applied, outcome⟩, applying, completing⟩ := returned
  obtain ⟨rfl, rfl⟩ := Prod.mk.inj same
  have ensured := ensured_of_ensureControlState ensuring
  have found : findControl { started with
      commands := started.commands ++
        [admission.row commandDigest payloadJson state.controlEpoch (inputs.now 1)] }
      admission.command.missionId = some state := ensured.findControl_eq
  have effect := effect_of_applyAction found applying
  obtain ⟨final, isFinal⟩ := exists_findControl_of_effect effect found
  simp only [Admission.complete, event, bind_eq_ok, insertRow_eq_ok, pure_eq_ok,
    Bool.or_eq_false_iff, decide_eq_false_iff_not] at completing
  obtain ⟨⟨_, _⟩, ensuringAgain, resultJson, -, ⟨_, eventId⟩, ⟨_, -, _, -, events⟩, _, -, _, -, _,
    -, _, ⟨unreceived, rfl⟩, same⟩ := completing
  obtain ⟨rfl, rfl⟩ := ensureControlState_eq_ok_of_found isFinal ensuringAgain
  obtain ⟨rfl, rfl⟩ := Prod.mk.inj events
  obtain ⟨rfl, -⟩ := Prod.mk.inj same
  rw [commands_of_ensured ensured] at fresh effect
  exact .intro started _ state commandDigest payloadJson _ resultJson _ _ _ ensured expected
    digested fresh effect rfl rfl rfl fun other member => (unreceived other member).1

end OperatorControl

end CyberLion
