import CyberLion.SchedulerRevocations

/-!
# The fence of an operator

A pause, a stop or a taking of control leaves no assignment of the mission ready and
moves the control epoch on.  The rows that were there keep the old epoch: only a ready
row gets the current one, and the state of a fenced row is never `READY` again unless
`record_internal_receipt`, which takes any status, writes it.
-/

namespace CyberLion

namespace GlobalScheduler

open PyLib OperatorControl

def IsFence (action : Action) : Prop :=
  action = .pauseScope ∨ action = .stopScope ∨ action = .takeControl

def MovesEpoch (action : Action) : Prop :=
  IsFence action ∨ action = .releaseControl ∨ action = .resumeScope ∨ action = .revokeCapability

/-- The call is a command that commits: its row is new after the call. -/
def SchedulerCall.Commits (db : OperatorDb) (command : OperatorCommand) (call : SchedulerCall) :
    Prop :=
  (∃ principalId, call.IsCommand command principalId) ∧
    (∀ row ∈ db.commands, row.commandId ≠ command.commandId) ∧
    ∃ row ∈ (call.execute db).commands, row.commandId = command.commandId

/-- The call claims the assignment, releases it, or records a worker's receipt of it. -/
def SchedulerCall.Succeeds (db : OperatorDb) (assignmentId : PyStr) : SchedulerCall → Prop
  | .claim named expected leaseSeconds inputs => named = assignmentId ∧
      ∃ result, claimAssignment db named expected leaseSeconds inputs = .ok result
  | .release named evidence inputs => named = assignmentId ∧
      ∃ result, releaseHeldAssignment db named evidence inputs = .ok result
  | .receipt named result offer effectReceiptDigest inputs => named = assignmentId ∧
      ∃ recorded, (recordReceipt db named result offer effectReceiptDigest inputs).2 = .ok recorded
  | _ => False

/-- The call is no internal receipt with the status `READY`. -/
def SchedulerCall.KeepsFence (_ : OperatorDb) : SchedulerCall → Prop
  | .internal _ content _ => content.status ≠ py "READY"
  | _ => True

/-- Claims find the latches off and the mission in the hands of the dispatch authority. -/
def ClaimsAllowed (db : OperatorDb) : Prop :=
  ∀ assignmentId expected leaseSeconds inputs changed claimed,
    claimAssignment db assignmentId expected leaseSeconds inputs = .ok (changed, claimed) →
    ∀ row, findAssignment db assignmentId = some row →
      match findControl db row.missionId with
      | none => row.dispatchAuthority = autonomousOwner
      | some control => control.pauseLatch = false ∧ control.stopLatch = false ∧
          control.controlOwner = row.dispatchAuthority

/-- Identities are unique, and no assignment is ahead of its mission. -/
structure EpochTables (db : OperatorDb) : Prop where
  unique : (db.assignments.map AssignmentRow.assignmentId).Nodup
  epochs : ∀ row ∈ db.assignments, row.controlEpoch ≤ epochOf db row.missionId

structure Fenced (db : OperatorDb) (row : AssignmentRow) : Prop where
  notReady : row.state ≠ .ready
  control : ∃ control, findControl db row.missionId = some control
  behind : row.controlEpoch < epochOf db row.missionId

variable {db changed : OperatorDb} {call : SchedulerCall}

theorem EpochTables.of_new (assignments : db.assignments = []) : EpochTables db := by
  constructor <;> simp [assignments]

theorem claimsAllowed (db : OperatorDb) : ClaimsAllowed db := by
  intro assignmentId expected leaseSeconds inputs changed claimed returned row found
  obtain ⟨same, isFound, isClaimed⟩ := claimed_of_claim returned
  obtain rfl := Option.some.inj (isFound.symm.trans found)
  have allowed := isClaimed.allowed
  unfold assignmentAllowed at allowed
  cases control : findControl db same.missionId with
  | none =>
    rw [control] at allowed
    exact of_decide_eq_true allowed
  | some state =>
    rw [control] at allowed
    dsimp only at allowed ⊢
    split at allowed
    · exact absurd allowed (by simp)
    · rename_i open'
      rw [not_or, not_or, Bool.not_eq_true, Bool.not_eq_true] at open'
      refine ⟨open'.2.1, open'.2.2, ?_⟩
      split at allowed
      · rename_i isPrimary
        rw [isPrimary]
        exact of_decide_eq_true allowed
      · rw [Bool.and_eq_true, decide_eq_true_eq, decide_eq_true_eq] at allowed
        rw [allowed.1, allowed.2]

/-! ### The commands -/

section Effects

variable {missionId principalId : PyStr} {state : ControlRow} {action : Action}
  (found : findControl db missionId = some state)
  (effect : ActionEffect missionId principalId state db action changed)
include found effect

theorem epochOf_of_effect (moves : MovesEpoch action) :
    epochOf changed missionId = state.controlEpoch + 1 := by
  cases effect with
  | message _ isMessage =>
    rcases isMessage with rfl | rfl <;> simp [MovesEpoch, IsFence] at moves
  | revoke change commandId now => exact epochOf_bump found change commandId now
  | fence _ change _ commandId now => exact epochOf_bump found change commandId now
  | release commandId now => exact epochOf_bump found _ commandId now
  | resume change _ commandId now => exact epochOf_bump found change commandId now
  | _ => simp [MovesEpoch, IsFence] at moves

omit found in
theorem not_ready_of_effect (fence : IsFence action) :
    ∀ row ∈ changed.assignments, row.missionId = missionId → row.state ≠ .ready := by
  cases effect with
  | message _ isMessage => rcases isMessage with rfl | rfl <;> simp [IsFence] at fence
  | fence _ change _ commandId now fencedAt drivers checkpoints =>
    intro row member isOwn ready
    rw [assignments_fence, List.mem_map] at member
    obtain ⟨old, -, rfl⟩ := member
    unfold fencedRow at isOwn ready
    split at ready
    · exact absurd ready (by simp)
    · rename_i notReady
      rw [if_neg notReady] at isOwn
      split at ready
      · exact absurd ready (by simp)
      · rename_i notClaimed
        rw [if_neg notClaimed] at isOwn
        exact notReady ⟨isOwn, ready⟩
  | _ => simp [IsFence] at fence

end Effects

structure Moved (command : OperatorCommand) (db changed : OperatorDb) : Prop where
  grown : epochOf db command.missionId < epochOf changed command.missionId
  control : ∃ control, findControl changed command.missionId = some control
  fenced : IsFence command.action → ∀ row ∈ changed.assignments,
    row.missionId = command.missionId → row.state ≠ .ready

theorem Transaction.moved {admission : Admission} (transaction : Transaction admission db changed)
    (moves : MovesEpoch admission.command.action) : Moved admission.command db changed := by
  obtain ⟨started, applied, state, inputs, outcome, controls, epochs, start, found, applying,
    sameControls, end'⟩ := transaction.parts
  have effect := effect_of_applyAction found applying
  refine ⟨?_, ?_, fun fence => ?_⟩
  · rw [epochOf_congr sameControls, epochOf_of_effect found effect moves, ← epochs,
      epochOf_eq found]
    exact Int.lt_succ state.controlEpoch
  · rw [findControl_congr sameControls]
    exact exists_findControl_of_effect effect found
  · rw [end'.assignments]
    exact not_ready_of_effect effect fence

theorem SchedulerCall.Commits.moved {command : OperatorCommand} (commits : call.Commits db command)
    (moves : MovesEpoch command.action) : Moved command db (call.execute db) := by
  obtain ⟨⟨principalId, isCommand⟩, isNew, row, isRow, isOf⟩ := commits
  cases call with
  | command call =>
    have holds : (∃ row ∈ ((SchedulerCall.command call).execute db).commands,
        row.commandId = command.commandId) →
        Moved command db ((SchedulerCall.command call).execute db) := by
      refine @applyCommand_rule (fun changed => (∃ row ∈ changed.commands,
        row.commandId = command.commandId) → Moved command db changed) _ _ _ _ ?_ ?_
      · rintro ⟨other, isOther, same⟩
        exact absurd same (isNew other isOther)
      · intro admission _ _ _ isAdmitted _ returned _
        obtain rfl := Except.ok.inj (isAdmitted.symm.trans isCommand.1)
        exact (transaction_of_commit returned).moved moves
    exact holds ⟨row, isRow, isOf⟩
  | _ => exact absurd isCommand id

/-! ### Fenced rows -/

theorem Fenced.of_rowStep {old row : AssignmentRow} (fenced : Fenced db old)
    (keeps : call.KeepsFence db) (controls : ControlStep db changed)
    (step : RowStep call db changed old row) : Fenced changed row := by
  obtain ⟨control, found⟩ := fenced.control
  have later := controls.kept _ _ found
  have behind := fenced.behind.trans_le (controls.grows old.missionId)
  cases step with
  | kept => exact ⟨fenced.notReady, later, behind⟩
  | claimed ready => exact absurd ready fenced.notReady
  | released held allowed =>
    obtain ⟨laterControl, isLater⟩ := later
    exact absurd (epoch_of_allowed isLater allowed) behind.ne
  | stale => exact ⟨by simp, later, behind⟩
  | finished status records =>
    have notReady : status ≠ py "READY" := by
      cases call with
      | receipt named result offer effectReceiptDigest inputs =>
        rintro rfl
        obtain ⟨-, _, _, checked⟩ := records
        exact absurd (ofText_of_check checked) (by decide)
      | internal named content inputs =>
        obtain ⟨-, rfl⟩ := records
        exact keeps
      | _ => exact absurd records id
    refine ⟨fun ready => ?_, later, behind⟩
    simp only [AssignmentState.ofText, if_neg notReady] at ready
    repeat' split at ready
    all_goals exact absurd ready (by simp)
  | cancelled => exact ⟨by simp, later, behind⟩
  | cancelRequested => exact ⟨by simp, later, behind⟩
  | moved ready => exact absurd ready fenced.notReady
  | rebound ready => exact absurd ready fenced.notReady

structure FencedTables (ids : PyStr → Prop) (db : OperatorDb) : Prop where
  unique : (db.assignments.map AssignmentRow.assignmentId).Nodup
  fenced : ∀ row ∈ db.assignments, ids row.assignmentId → Fenced db row
  known : ∀ assignmentId, ids assignmentId →
    ∃ row ∈ db.assignments, row.assignmentId = assignmentId

variable {ids : PyStr → Prop}

theorem FencedTables.of_step (tables : FencedTables ids db) (keeps : call.KeepsFence db)
    (step : TableStep call db changed) : FencedTables ids changed := by
  refine ⟨step.nodup_assignmentId tables.unique, fun row member isOne => ?_,
    fun assignmentId isOne => ?_⟩
  · rcases step.source_of_mem member with ⟨old, isOld, rowStep⟩ | added
    · rw [rowStep.assignmentId] at isOne
      exact (tables.fenced old isOld isOne).of_rowStep keeps step.controls rowStep
    · obtain ⟨other, isOther, same⟩ := tables.known row.assignmentId isOne
      exact absurd same (added.fresh other isOther)
  · obtain ⟨old, isOld, rfl⟩ := tables.known assignmentId isOne
    obtain ⟨row, isRow, rowStep⟩ := step.exists_rowStep isOld
    exact ⟨row, isRow, rowStep.assignmentId⟩

theorem FencedTables.not_succeeds (tables : FencedTables ids db) {assignmentId : PyStr}
    (isOne : ids assignmentId) : ¬ call.Succeeds db assignmentId := by
  have refused : ∀ row, findAssignment db assignmentId = some row →
      ∀ later, ControlStep db later →
      assignmentAllowed later row.missionId row.dispatchAuthority row.controlEpoch ≠ true := by
    intro row found later controls allowed
    obtain ⟨member, rfl⟩ := mem_of_findAssignment found
    have fenced := tables.fenced row member isOne
    obtain ⟨control, isControl⟩ := fenced.control
    obtain ⟨laterControl, isLater⟩ := controls.kept _ _ isControl
    exact absurd (epoch_of_allowed isLater allowed)
      (fenced.behind.trans_le (controls.grows row.missionId)).ne
  cases call with
  | claim named expected leaseSeconds inputs =>
    rintro ⟨rfl, ⟨_, _⟩, returned⟩
    obtain ⟨row, found, claimed⟩ := claimed_of_claim returned
    exact refused row found db (.of_eq rfl) claimed.allowed
  | release named evidence inputs =>
    rintro ⟨rfl, ⟨_, _⟩, returned⟩
    obtain ⟨row, found, released⟩ := released_of_release returned
    exact refused row found _ released.controls released.allowed
  | receipt named result offer effectReceiptDigest inputs =>
    rintro ⟨rfl, _, returned⟩
    obtain ⟨row, found, -, allowed⟩ := accepted_of_recordReceipt returned
    exact refused row found db (.of_eq rfl) allowed
  | _ => exact id

theorem EpochTables.fencedTables (tables : EpochTables db) {command : OperatorCommand}
    (fence : IsFence command.action) (commits : call.Commits db command) :
    FencedTables (fun assignmentId => ∃ old ∈ db.assignments, old.missionId = command.missionId ∧
      old.assignmentId = assignmentId) (call.execute db) := by
  have step := tableStep_execute tables.unique call
  have moved := commits.moved (.inl fence)
  refine ⟨step.nodup_assignmentId tables.unique, ?_, ?_⟩
  · rintro row member ⟨old, isOld, isOwn, same⟩
    rcases step.source_of_mem member with ⟨source, isSource, rowStep⟩ | added
    · obtain rfl := eq_of_assignmentId tables.unique isSource isOld
        (rowStep.assignmentId.symm.trans same.symm)
      have isMission := rowStep.missionId.trans isOwn
      have notReady := moved.fenced fence row member isMission
      have behind := (tables.epochs _ isOld).trans_lt (by rw [isOwn]; exact moved.grown)
      refine ⟨notReady, by rw [isMission]; exact moved.control, ?_⟩
      rw [isMission]
      cases rowStep with
      | moved ready => exact absurd ready notReady
      | rebound ready => exact absurd ready notReady
      | _ => exact behind
    · exact absurd same (added.fresh old isOld)
  · rintro _ ⟨old, isOld, -, rfl⟩
    obtain ⟨row, isRow, rowStep⟩ := step.exists_rowStep isOld
    exact ⟨row, isRow, rowStep.assignmentId⟩

/-! ### Runs -/

structure FenceAt (db : OperatorDb) (call : SchedulerCall) (later : List SchedulerCall) : Prop where
  allowed : ClaimsAllowed db
  grows : ∀ missionId, epochOf db missionId ≤ epochOf (call.execute db) missionId
  moves : ∀ command, call.Commits db command → MovesEpoch command.action →
    epochOf db command.missionId < epochOf (call.execute db) command.missionId
  fences : ∀ command, call.Commits db command → IsFence command.action →
    ∀ row ∈ db.assignments, row.missionId = command.missionId →
    ∀ middle next last, later = middle ++ next :: last →
      ¬ next.Succeeds (middle.foldl SchedulerCall.execute (call.execute db)) row.assignmentId

theorem EpochTables.execute (tables : EpochTables db) (call : SchedulerCall) :
    EpochTables (call.execute db) :=
  have step := tableStep_execute tables.unique call
  ⟨step.nodup_assignmentId tables.unique, step.controlEpoch_le tables.epochs⟩

theorem EpochTables.fenceAt (tables : EpochTables db) {later : List SchedulerCall}
    (keeps : EachMeets SchedulerCall.execute SchedulerCall.KeepsFence (call.execute db) later) :
    FenceAt db call later where
  allowed := claimsAllowed db
  grows := (tableStep_execute tables.unique call).controls.grows
  moves := fun _ commits moves => (commits.moved moves).grown
  fences := by
    rintro command commits fence row member isOwn middle next last rfl
    have step : ∀ ids db call, FencedTables ids db → SchedulerCall.KeepsFence db call →
        FencedTables ids (SchedulerCall.execute db call) := fun _ _ call fenced keeps =>
      fenced.of_step keeps (tableStep_execute fenced.unique call)
    have fenced := invariant_of_eachMeets (step _) (tables.fencedTables fence commits)
      keeps.of_append.1
    exact fenced.not_succeeds ⟨row, member, isOwn, rfl⟩

/-- Over every run without an internal receipt whose status is `READY`: claims are
allowed, epochs grow, and after a fence no call succeeds on an assignment that was
there. -/
theorem operator_fence {db : OperatorDb} (tables : EpochTables db) {calls : List SchedulerCall}
    (keeps : EachMeets SchedulerCall.execute SchedulerCall.KeepsFence db calls) :
    ∀ first call second, calls = first ++ call :: second →
      FenceAt (first.foldl SchedulerCall.execute db) call second := by
  rintro first call second rfl
  have step : ∀ db call, EpochTables db → SchedulerCall.KeepsFence db call →
      EpochTables (SchedulerCall.execute db call) := fun _ call tables _ => tables.execute call
  obtain ⟨firstKeeps, laterKeeps⟩ := keeps.of_append
  have reached := invariant_of_eachMeets step tables firstKeeps
  exact reached.fenceAt
    (@EachMeets.of_append _ _ _ _ (first.foldl SchedulerCall.execute db) [call] second
      laterKeeps).2

def pausingDb : OperatorDb :=
  { driverDb with
    grants := [⟨py "G1", primaryOperator, py "*", py "[\"PAUSE_SCOPE\",\"RESUME_SCOPE\"]", [],
      none, none⟩] }

def pauseValue : Json :=
  .obj [(py "command_id", .str (py "C1")), (py "mission_id", .str (py "M1")),
    (py "action", .str (py "PAUSE_SCOPE"))]

def pauseMission : SchedulerCall :=
  .command ⟨pauseValue, primaryOperator, callInputs (py "C1")⟩

def resumeMission : SchedulerCall :=
  .command ⟨.obj [(py "command_id", .str (py "C2")), (py "mission_id", .str (py "M1")),
    (py "action", .str (py "RESUME_SCOPE")), (py "expected_revision", .int 2)], primaryOperator,
    callInputs (py "C2")⟩

/-- A worker's result arrives after a pause. -/
theorem operator_fence_pause :
    FenceAt ([createCall, claimCall].foldl SchedulerCall.execute pausingDb) pauseMission
      [passCall] := by
  refine operator_fence (.of_new rfl) (fun first call second same => ?_) [createCall, claimCall]
    pauseMission [passCall] rfl
  have same : [createCall, claimCall, pauseMission, passCall] = first ++ call :: second := same
  have isCall : call ∈ [createCall, claimCall, pauseMission, passCall] := by
    rw [same]
    simp
  simp only [List.mem_cons, List.not_mem_nil, or_false] at isCall
  rcases isCall with rfl | rfl | rfl | rfl <;> exact trivial

def readyCall : SchedulerCall :=
  .internal (py "assignment-A") ⟨.str (py "done"), py "READY", none, py "NONE"⟩
    (callInputs (py "E"))

def claimedDb : OperatorDb :=
  [createCall, claimCall].foldl SchedulerCall.execute pausingDb

-- One theorem, so that the calls are evaluated once.
theorem claimed_again :
    (pauseMission.execute claimedDb).commands.map CommandRow.commandId = [py "C1"] ∧
    (claimAssignment ([readyCall, resumeMission, rebindCall].foldl SchedulerCall.execute
      (pauseMission.execute claimedDb)) (py "assignment-A") none 60
      (callInputs (py "B"))).toBool = true := by
  delta claimedDb SchedulerCall.execute Admission.transaction createAssignment recordInternalReceipt
    createIn Admission.commit acceptCommand Admission.start Admission.complete continueCommand
    repeatCommand applyCommand applyAction OperatorCommand.payloadDigest admitCommand
    commandReceiptDigest event shortId OperatorControl.digest GlobalScheduler.digest pauseScope
    fenceScope driverFence fenceDriver recordReceipt recordContent insertRequest reassign
    reassignFound releaseControl
  rw [Sha256.sha256_eq_evalText]
  decide +kernel

theorem commits_pauseMission : ∃ command, pauseMission.Commits claimedDb command ∧
    command.missionId = py "M1" ∧ command.action = .pauseScope := by
  have parsed : (OperatorCommand.fromDict pauseValue).toOption.map (fun command =>
      (command.commandId, command.missionId, command.action)) =
      some (py "C1", py "M1", .pauseScope) := by
    decide +kernel
  have noCommands : claimedDb.commands = [] := by
    decide +kernel
  have commands := claimed_again.1
  cases result : OperatorCommand.fromDict pauseValue with
  | error error =>
    rw [result] at parsed
    exact absurd parsed (by simp [Except.toOption])
  | ok command =>
    rw [result] at parsed
    obtain ⟨isId, fields⟩ := Prod.mk.inj (Option.some.inj parsed)
    obtain ⟨isOwn, isPause⟩ := Prod.mk.inj fields
    have committed := List.mem_singleton_self (py "C1")
    rw [← commands, List.mem_map, ← isId] at committed
    exact ⟨command, ⟨⟨primaryOperator, result, rfl⟩, by simp [noCommands], committed⟩, isOwn,
      isPause⟩

/-- A row that was claimed before a pause is claimed again. -/
theorem exists_fenced_claimed :
    ¬ ∀ (db : OperatorDb) (calls : List SchedulerCall), db.assignments = [] →
      ∀ first call second, calls = first ++ call :: second →
        FenceAt (first.foldl SchedulerCall.execute db) call second := by
  intro always
  have fences : FenceAt claimedDb pauseMission [readyCall, resumeMission, rebindCall, claimCall] :=
    always pausingDb _ rfl [createCall, claimCall] _ _ rfl
  have rows : claimedDb.assignments.map (fun row => (row.assignmentId, row.missionId)) =
      [(py "assignment-A", py "M1")] := by
    decide +kernel
  have isRow := List.mem_singleton_self (py "assignment-A", py "M1")
  rw [← rows, List.mem_map] at isRow
  obtain ⟨row, member, same⟩ := isRow
  obtain ⟨isAssignment, isMission⟩ := Prod.mk.inj same
  obtain ⟨command, commits, isOwn, isPause⟩ := commits_pauseMission
  have returned := claimed_again.2
  refine fences.fences command commits (.inl isPause) row member (isMission.trans isOwn.symm)
    [readyCall, resumeMission, rebindCall] claimCall [] rfl ?_
  generalize [readyCall, resumeMission, rebindCall].foldl SchedulerCall.execute
    (pauseMission.execute claimedDb) = last at returned
  refine ⟨isAssignment.symm, ?_⟩
  cases claimed : claimAssignment last (py "assignment-A") none 60 (callInputs (py "B")) with
  | error error =>
    rw [claimed] at returned
    exact absurd returned (by simp [Except.toBool])
  | ok result => exact ⟨result, rfl⟩

end GlobalScheduler

end CyberLion
