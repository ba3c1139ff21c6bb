import CyberLion.OperatorExactlyOnce
import CyberLion.OperatorAnswers
import CyberLion.SchedulerAssignments

/-!
# What a call does to the assignments

The calls of the scheduler and of the operator change the assignments row by row, and
may add one.  The inversion of every call to one relation on the tables of controls,
capability revocations, assignments and receipts: later results are about that
relation and never unfold a call.
-/

namespace CyberLion

namespace GlobalScheduler

open PyLib OperatorControl

/-! ### Calls -/

inductive SchedulerCall
  | command (call : CommandCall)
  | rebind (missionId authorityOwner : PyStr) (generation : Option Int) (inputs : CallInputs)
  | create (request : AssignmentRequest) (inputs : CallInputs)
  | createHeld (request : AssignmentRequest) (inputs : CallInputs)
  | release (assignmentId : PyStr) (evidence : Json) (inputs : CallInputs)
  | claim (assignmentId : PyStr) (expected : Option PyStr) (leaseSeconds : Int)
      (inputs : CallInputs)
  | receipt (assignmentId : PyStr) (result : Json) (offer : WorkerReceipt)
      (effectReceiptDigest : Option PyStr) (inputs : CallInputs)
  | internal (assignmentId : PyStr) (content : ReceiptContent) (inputs : CallInputs)

/-- The database after a call: what a call that raises has not committed is lost. -/
def SchedulerCall.execute (db : OperatorDb) : SchedulerCall → OperatorDb
  | command call => (PyProg.runAlone (applyCommand call.value call.principalId call.inputs) db).1
  | rebind missionId authorityOwner generation inputs =>
    committed db (rebindReadyAssignments db missionId inputs authorityOwner generation)
  | create request inputs => (createAssignment db request inputs).1
  | createHeld request inputs => (createHeldAssignment db request inputs).1
  | release assignmentId evidence inputs =>
    committed db (releaseHeldAssignment db assignmentId evidence inputs)
  | claim assignmentId expected leaseSeconds inputs =>
    committed db (claimAssignment db assignmentId expected leaseSeconds inputs)
  | receipt assignmentId result offer effectReceiptDigest inputs =>
    (recordReceipt db assignmentId result offer effectReceiptDigest inputs).1
  | internal assignmentId content inputs =>
    (recordInternalReceipt db assignmentId content inputs).1

namespace SchedulerCall

def IsCommand (call : SchedulerCall) (command : OperatorCommand) (principalId : PyStr) : Prop :=
  match call with
  | .command call =>
    OperatorCommand.fromDict call.value = .ok command ∧ call.principalId = principalId
  | _ => False

def Rebinds (call : SchedulerCall) (row : AssignmentRow) : Prop :=
  match call with
  | .rebind missionId _ _ _ => row.missionId = missionId
  | .command _ => ∃ command, call.IsCommand command row.dispatchAuthority ∧
      command.action = .releaseControl ∧ command.missionId = row.missionId
  | _ => False

def Reassigns (call : SchedulerCall) (row : AssignmentRow) : Prop :=
  ∃ command principalId, call.IsCommand command principalId ∧ command.action = .reassign ∧
    command.missionId = row.missionId ∧
    Json.get (py "assignment_id") command.payload = .str row.assignmentId

def Offers (call : SchedulerCall) (row : AssignmentRow) : Prop :=
  match call with
  | .receipt assignmentId _ offer _ _ => assignmentId = row.assignmentId ∧
      ∃ leaseGeneration status, offer.check =
        .ok (row.materialDroneId, leaseGeneration, status)
  | _ => False

def Records (call : SchedulerCall) (assignmentId status : PyStr) : Prop :=
  match call with
  | .receipt named _ offer _ _ => named = assignmentId ∧
      ∃ materialDroneId leaseGeneration, offer.check =
        .ok (materialDroneId, leaseGeneration, status)
  | .internal named content _ => named = assignmentId ∧ content.status = status
  | _ => False

end SchedulerCall

/-! ### The relation -/

def epochOf (db : OperatorDb) (missionId : PyStr) : Int :=
  ((findControl db missionId).map ControlRow.controlEpoch).getD 1

structure ControlStep (db changed : OperatorDb) : Prop where
  kept : ∀ missionId row, findControl db missionId = some row →
    ∃ later, findControl changed missionId = some later
  grows : ∀ missionId, epochOf db missionId ≤ epochOf changed missionId

/-- A row that `REASSIGN` replaces at once. -/
def IsIdle (row : AssignmentRow) : Prop :=
  row.state = .ready ∨ row.state = .cancelled ∨ row.state = .staleResult

inductive RowStep (call : SchedulerCall) (db changed : OperatorDb) (old : AssignmentRow) :
    AssignmentRow → Prop
  | kept : RowStep call db changed old old
  | claimed (ready : old.state = .ready) (claimedAt leaseExpiresAt : Option PyStr) :
      RowStep call db changed old { old with
        state := .claimed
        claimedAt := claimedAt
        leaseExpiresAt := leaseExpiresAt }
  | released (held : old.state = .held)
      (allowed : assignmentAllowed changed old.missionId old.dispatchAuthority
        old.controlEpoch = true) :
      RowStep call db changed old { old with state := .ready }
  | stale (offered : call.Offers old)
      (refused : assignmentAllowed db old.missionId old.dispatchAuthority
        old.controlEpoch = false ∨ old.state = .cancelRequested) (finishedAt : Option PyStr) :
      RowStep call db changed old { old with
        state := .staleResult
        finishedAt := finishedAt }
  | finished (status : PyStr) (records : call.Records old.assignmentId status)
      (first : ∀ receipt ∈ db.executionReceipts, receipt.assignmentId ≠ old.assignmentId)
      (finishedAt : Option PyStr) :
      RowStep call db changed old { old with
        state := .ofText status
        finishedAt := finishedAt }
  | cancelled (idle : IsIdle old) (finishedAt : Option PyStr) :
      RowStep call db changed old { old with
        state := .cancelled
        finishedAt := finishedAt }
  | cancelRequested (busy : old.state = .claimed ∨ old.state = .cancelRequested) :
      RowStep call db changed old { old with state := .cancelRequested }
  | moved (ready : old.state = .ready) (generation : Int) :
      RowStep call db changed old { old with leaseGeneration := generation }
  | rebound (ready : old.state = .ready) (rebinds : call.Rebinds old) (generation : Int)
      (authority : PyStr) :
      RowStep call db changed old { old with
        leaseGeneration := generation
        controlEpoch := epochOf changed old.missionId
        dispatchAuthority := authority }

/-- A row that a call adds: its capability is not revoked, or it is a copy of a row that
is reassigned. -/
structure AddedRow (call : SchedulerCall) (db changed : OperatorDb) (row : AssignmentRow) :
    Prop where
  fresh : ∀ other ∈ db.assignments, other.assignmentId ≠ row.assignmentId
  epoch : row.controlEpoch ≤ epochOf changed row.missionId
  source : (∀ input, row.input = some input →
      hasRevokedCapability db row.missionId input = false) ∨
    ∃ old ∈ db.assignments, call.Reassigns old ∧ IsIdle old ∧ row.missionId = old.missionId ∧
      row.input = old.input

/-- A receipt that a call adds: it is the first of its assignment, which gets its status. -/
structure AddedReceipt (call : SchedulerCall) (db changed : OperatorDb)
    (receipt : ExecutionReceiptRow) : Prop where
  first : ∀ other ∈ db.executionReceipts, other.assignmentId ≠ receipt.assignmentId
  records : call.Records receipt.assignmentId receipt.status
  known : ∃ row ∈ db.assignments, row.assignmentId = receipt.assignmentId
  finished : ∀ row ∈ changed.assignments, row.assignmentId = receipt.assignmentId →
    row.state = .ofText receipt.status

structure TableStep (call : SchedulerCall) (db changed : OperatorDb) : Prop where
  controls : ControlStep db changed
  rows : ∃ (change : AssignmentRow → AssignmentRow) (added : Option AssignmentRow),
    changed.assignments = db.assignments.map change ++ added.toList ∧
    (∀ row ∈ db.assignments, RowStep call db changed row (change row)) ∧
    ∀ row ∈ added, AddedRow call db changed row
  revocations : changed.capabilityRevocations = db.capabilityRevocations ∨
    ∃ row, changed.capabilityRevocations = db.capabilityRevocations ++ [row] ∧
      changed.assignments = db.assignments ∧
      (∃ control, findControl changed row.missionId = some control) ∧
      epochOf db row.missionId < epochOf changed row.missionId
  receipts : changed.executionReceipts = db.executionReceipts ∨
    ∃ receipt, changed.executionReceipts = db.executionReceipts ++ [receipt] ∧
      AddedReceipt call db changed receipt

/-! ### Controls -/

theorem epochOf_eq {db : OperatorDb} {missionId : PyStr} {row : ControlRow}
    (found : findControl db missionId = some row) : epochOf db missionId = row.controlEpoch := by
  rw [epochOf, found]
  rfl

theorem findControl_congr {db changed : OperatorDb} (same : changed.controls = db.controls)
    (missionId : PyStr) : findControl changed missionId = findControl db missionId := by
  rw [findControl, same, findControl]

theorem epochOf_congr {db changed : OperatorDb} (same : changed.controls = db.controls)
    (missionId : PyStr) : epochOf changed missionId = epochOf db missionId := by
  rw [epochOf, findControl_congr same, epochOf]

theorem assignmentAllowed_congr {db changed : OperatorDb}
    (same : changed.controls = db.controls) (missionId authority : PyStr) (epoch : Int) :
    assignmentAllowed changed missionId authority epoch =
      assignmentAllowed db missionId authority epoch := by
  rw [assignmentAllowed, findControl_congr same, assignmentAllowed]

theorem epoch_of_allowed {db : OperatorDb} {missionId authority : PyStr} {epoch : Int} {control : ControlRow}
    (found : findControl db missionId = some control)
    (allowed : assignmentAllowed db missionId authority epoch = true) :
    epoch = epochOf db missionId := by
  rw [epochOf_eq found]
  rw [assignmentAllowed, found] at allowed
  dsimp only at allowed
  split at allowed
  · exact absurd allowed (by simp)
  · rename_i current
    by_contra other
    exact current (.inl other)

theorem ControlStep.of_eq {db changed : OperatorDb} (same : changed.controls = db.controls) :
    ControlStep db changed where
  kept := fun missionId row found => ⟨row, by rw [findControl_congr same]; exact found⟩
  grows := fun missionId => (epochOf_congr same missionId).ge

theorem ControlStep.trans {db middle changed : OperatorDb} (first : ControlStep db middle)
    (second : ControlStep middle changed) : ControlStep db changed where
  kept := by
    intro missionId row found
    obtain ⟨later, isLater⟩ := first.kept missionId row found
    exact second.kept missionId later isLater
  grows := fun missionId => (first.grows missionId).trans (second.grows missionId)

theorem controlStep_insert (db : OperatorDb) (missionId : PyStr) (inputs : CallInputs) :
    ControlStep db { db with controls := db.controls ++ [initialControl missionId inputs] } ∧
      ∀ other, epochOf { db with controls := db.controls ++ [initialControl missionId inputs] }
        other = epochOf db other := by
  have lookup : ∀ other, findControl
      { db with controls := db.controls ++ [initialControl missionId inputs] } other =
      (findControl db other).or (if missionId = other then
        some (initialControl missionId inputs) else none) := by
    intro other
    simp only [findControl, List.find?_append]
    by_cases own : missionId = other <;> simp [initialControl, own]
  have epochs : ∀ other, epochOf { db with
      controls := db.controls ++ [initialControl missionId inputs] } other = epochOf db other := by
    intro other
    rw [epochOf, lookup, epochOf]
    cases found : findControl db other with
    | some row => rfl
    | none =>
      by_cases own : missionId = other
      · rw [if_pos own]
        rfl
      · rw [if_neg own]
        rfl
  refine ⟨⟨fun other row found => ⟨row, ?_⟩, fun other => (epochs other).ge⟩, epochs⟩
  rw [lookup, found]
  rfl

theorem controlStep_of_ensured {db changed : OperatorDb} {missionId : PyStr} {state : ControlRow}
    (ensured : Ensured db missionId changed state) :
    ControlStep db changed ∧ ∀ other, epochOf changed other = epochOf db other := by
  cases ensured with
  | found => exact ⟨.of_eq rfl, fun _ => rfl⟩
  | inserted inputs _ => exact controlStep_insert db missionId inputs

structure SameTables (db changed : OperatorDb) : Prop where
  assignments : changed.assignments = db.assignments
  revocations : changed.capabilityRevocations = db.capabilityRevocations
  receipts : changed.executionReceipts = db.executionReceipts

theorem sameTables_of_ensured {db changed : OperatorDb} {missionId : PyStr} {state : ControlRow}
    (ensured : Ensured db missionId changed state) : SameTables db changed := by
  cases ensured <;> exact ⟨rfl, rfl, rfl⟩

theorem controlState_spec {db : OperatorDb} (missionId : PyStr) (inputs : CallInputs) :
    ControlStep db (controlState db missionId inputs).1 ∧
      SameTables db (controlState db missionId inputs).1 ∧
      (controlState db missionId inputs).2.controlEpoch ≤
        epochOf (controlState db missionId inputs).1 missionId := by
  unfold controlState
  split
  · rename_i row found
    exact ⟨.of_eq rfl, ⟨rfl, rfl, rfl⟩, (epochOf_eq found).ge⟩
  · rename_i missing
    split
    · have ensured : Ensured db missionId _ _ := .inserted inputs missing
      refine ⟨(controlStep_insert db missionId inputs).1, ⟨rfl, rfl, rfl⟩, ?_⟩
      exact (epochOf_eq ensured.findControl_eq).ge
    · refine ⟨.of_eq rfl, ⟨rfl, rfl, rfl⟩, ?_⟩
      rw [epochOf, missing]
      exact Int.zero_le_ofNat 1

/-! ### Rows -/

variable {call : SchedulerCall} {db changed : OperatorDb}

theorem TableStep.of_same (controls : ControlStep db changed) (same : SameTables db changed) :
    TableStep call db changed where
  controls := controls
  rows := by
    refine ⟨id, none, ?_, fun row _ => .kept, fun row member => absurd member (by simp)⟩
    rw [same.assignments, List.map_id, Option.toList_none, List.append_nil]
  revocations := .inl same.revocations
  receipts := .inl same.receipts

theorem TableStep.refl (call : SchedulerCall) (db : OperatorDb) : TableStep call db db :=
  .of_same (.of_eq rfl) ⟨rfl, rfl, rfl⟩

theorem TableStep.of_update {selected : AssignmentRow → Bool}
    {change : AssignmentRow → AssignmentRow} (controls : ControlStep db changed)
    (assignments : changed.assignments = updateWhere selected change db.assignments)
    (each : ∀ row ∈ db.assignments, selected row = true → RowStep call db changed row (change row))
    (revocations : changed.capabilityRevocations = db.capabilityRevocations)
    (receipts : changed.executionReceipts = db.executionReceipts ∨
      ∃ receipt, changed.executionReceipts = db.executionReceipts ++ [receipt] ∧
        AddedReceipt call db changed receipt) : TableStep call db changed where
  controls := controls
  rows := by
    refine ⟨fun row => if selected row then change row else row, none, ?_, fun row member => ?_,
      fun row member => absurd member (by simp)⟩
    · rw [assignments, Option.toList_none, List.append_nil]
      rfl
    · dsimp only
      split
      · rename_i isSelected
        exact each row member isSelected
      · exact .kept
  revocations := .inl revocations
  receipts := receipts

theorem eq_of_assignmentId (unique : (db.assignments.map AssignmentRow.assignmentId).Nodup)
    {first second : AssignmentRow} (isFirst : first ∈ db.assignments)
    (isSecond : second ∈ db.assignments) (same : first.assignmentId = second.assignmentId) :
    first = second :=
  List.inj_on_of_nodup_map unique isFirst isSecond same

theorem mem_of_findAssignment {assignmentId : PyStr} {row : AssignmentRow}
    (found : findAssignment db assignmentId = some row) :
    row ∈ db.assignments ∧ row.assignmentId = assignmentId :=
  ⟨List.mem_of_find?_eq_some found, by simpa using List.find?_some found⟩

theorem isNamed_eq_true {assignmentId : PyStr} {state : AssignmentState} {row : AssignmentRow} :
    isNamed assignmentId state row = true ↔
      row.assignmentId = assignmentId ∧ row.state = state := by
  simp [isNamed]

theorem hasRevokedCapability_congr
    (same : changed.capabilityRevocations = db.capabilityRevocations) (missionId : PyStr)
    (input : Json) :
    hasRevokedCapability changed missionId input = hasRevokedCapability db missionId input := by
  simp only [hasRevokedCapability, isCapabilityRevoked, same]

/-! ### The calls of the scheduler -/

theorem tableStep_createIn (state : AssignmentState) (request : AssignmentRequest)
    (inputs : CallInputs) : TableStep call db (createIn state db request inputs).1 := by
  unfold createIn
  split
  · exact .refl call db
  · obtain ⟨controls, same, epoch⟩ := @controlState_spec db request.missionId inputs
    generalize controlState db request.missionId inputs = pair at controls same epoch
    obtain ⟨middle, control⟩ := pair
    dsimp only at controls same epoch ⊢
    split
    · rename_i inserted assignmentId isInserted
      simp only [insertRequest, insertAssignment, bind_eq_ok, raiseIf_eq_ok, insertRow_eq_ok,
        pure_eq_ok] at isInserted
      obtain ⟨-, -, -, notRevoked, inputDigest, -, _, -, _, ⟨_, ⟨free, rfl⟩, rfl⟩, result⟩ :=
        isInserted
      obtain ⟨rfl, -⟩ := Prod.mk.inj result
      let added := request.row (py "assignment-" ++ (inputs.skip 1).random 0) inputDigest state
        control ((inputs.skip 1).now 0)
      refine ⟨controls.trans (.of_eq rfl), ⟨id, some added, ?_, fun row _ => .kept, ?_⟩,
        .inl same.revocations, .inl same.receipts⟩
      · rw [List.map_id, Option.toList_some, ← same.assignments]
      · rintro row ⟨⟩
        refine ⟨fun other member sameId => ?_, epoch, .inl ?_⟩
        · rw [← same.assignments] at member
          have apart := free other member
          rw [Bool.or_eq_false_iff, decide_eq_false_iff_not] at apart
          exact apart.1 sameId
        · rintro input ⟨⟩
          rw [hasRevokedCapability_congr same.revocations, Bool.not_eq_true] at notRevoked
          exact notRevoked
    · exact .of_same controls same

structure Released (db changed : OperatorDb) (row : AssignmentRow) : Prop where
  held : row.state = .held
  controls : ControlStep db changed
  allowed : assignmentAllowed changed row.missionId row.dispatchAuthority row.controlEpoch = true
  notRevoked : ∀ input, row.input = some input →
    hasRevokedCapability db row.missionId input = false
  assignments : changed.assignments = updateWhere (isNamed row.assignmentId .held)
    (fun row => { row with state := .ready }) db.assignments
  revocations : changed.capabilityRevocations = db.capabilityRevocations
  receipts : changed.executionReceipts = db.executionReceipts

variable {inputs : CallInputs} {content : ReceiptContent} {resultDigest : PyStr}

theorem released_of_release {assignmentId : PyStr} {evidence : Json} {evidenceDigest : PyStr}
    (returned : releaseHeldAssignment db assignmentId evidence inputs =
      .ok (changed, evidenceDigest)) :
    ∃ row, findAssignment db assignmentId = some row ∧ Released db changed row := by
  simp only [releaseHeldAssignment, bind_eq_ok] at returned
  obtain ⟨checked, -, returned⟩ := returned
  split at returned
  · simp at returned
  · rename_i row found
    refine ⟨row, found, ?_⟩
    obtain ⟨-, rfl⟩ := mem_of_findAssignment found
    obtain ⟨controls, same, -⟩ := @controlState_spec db row.missionId inputs
    simp only [releaseFound, bind_eq_ok, raiseIf_eq_ok, pure_eq_ok, not_not] at returned
    obtain ⟨-, held, -, -, fields, isInput, -, -, returned⟩ := returned
    generalize controlState db row.missionId inputs = pair at controls same returned
    obtain ⟨middle, control⟩ := pair
    dsimp only at controls same returned
    obtain ⟨-, allowed, -, -, -, notRevoked, -, -, _, -, _, -, -, -, changedEq⟩ := returned
    obtain ⟨rfl, -⟩ := Prod.mk.inj changedEq
    refine ⟨held, controls.trans (.of_eq rfl), ?_, ?_, ?_, same.revocations, same.receipts⟩
    · rw [Bool.not_eq_false] at allowed
      exact (assignmentAllowed_congr rfl _ _ _).trans allowed
    · intro input isRow
      rw [releaseInput, isRow] at isInput
      split at isInput
      · simp at isInput
      · rename_i readFields isFields
        obtain rfl := Except.ok.inj isInput
        obtain rfl := Option.some.inj isFields
        rw [hasRevokedCapability_congr same.revocations, Bool.not_eq_true] at notRevoked
        exact notRevoked
      · simp at isInput
    · rw [updateAssignments, same.assignments]

theorem tableStep_release (unique : (db.assignments.map AssignmentRow.assignmentId).Nodup)
    {row : AssignmentRow} (member : row ∈ db.assignments) (released : Released db changed row) :
    TableStep call db changed := by
  refine .of_update released.controls released.assignments (fun other isOther isSelected => ?_)
    released.revocations (.inl released.receipts)
  obtain ⟨same, held⟩ := isNamed_eq_true.mp isSelected
  obtain rfl := eq_of_assignmentId unique isOther member same
  exact .released held released.allowed

structure Claimed (db changed : OperatorDb) (row : AssignmentRow) : Prop where
  ready : row.state = .ready
  notTerminal : missionTerminalState db row.missionId = none
  allowed : assignmentAllowed db row.missionId row.dispatchAuthority row.controlEpoch = true
  changed : ∃ claimedAt leaseExpiresAt, changed =
    updateAssignments db (isNamed row.assignmentId .ready) fun row =>
      { row with
        state := .claimed
        claimedAt := some claimedAt
        leaseExpiresAt := some leaseExpiresAt }

theorem claimed_of_claim {assignmentId : PyStr} {expected : Option PyStr} {leaseSeconds : Int}
    {claimed : AssignmentRow}
    (returned : claimAssignment db assignmentId expected leaseSeconds inputs =
      .ok (changed, claimed)) :
    ∃ row, findAssignment db assignmentId = some row ∧ Claimed db changed row := by
  rw [claimAssignment] at returned
  split at returned
  · simp at returned
  · rename_i row found
    refine ⟨row, found, ?_⟩
    obtain ⟨-, rfl⟩ := mem_of_findAssignment found
    simp only [claimFound, bind_eq_ok, raiseIf_eq_ok] at returned
    obtain ⟨-, -, returned⟩ := returned
    split at returned
    · simp at returned
    · rename_i eligible
      simp only [bind_eq_ok, raiseIf_eq_ok, pure_eq_ok] at returned
      obtain ⟨expires, -, -, -, same⟩ := returned
      obtain ⟨rfl, -⟩ := Prod.mk.inj same
      simp only [assignmentClaimEligibility, bind_eq_ok, raiseIf_eq_ok, not_not] at eligible
      obtain ⟨-, ready, eligible⟩ := eligible
      split at eligible
      · simp at eligible
      · rename_i notTerminal
        simp only [bind_eq_ok, raiseIf_eq_ok] at eligible
        obtain ⟨-, allowed, -⟩ := eligible
        exact ⟨ready, notTerminal, by simpa using allowed, _, _, rfl⟩

theorem tableStep_claim {row : AssignmentRow} (claimed : Claimed db changed row) :
    TableStep call db changed := by
  obtain ⟨claimedAt, leaseExpiresAt, rfl⟩ := claimed.changed
  refine .of_update (.of_eq rfl) rfl (fun other isOther isSelected => ?_) rfl (.inl rfl)
  exact .claimed (isNamed_eq_true.mp isSelected).2 _ _

/-! ### Receipts -/

theorem isRowOf_eq_true {assignmentId : PyStr} {row : AssignmentRow} :
    isRowOf assignmentId row = true ↔ row.assignmentId = assignmentId := by
  simp [isRowOf]

structure Accepted (isWorker : Bool) (status : PyStr) (db changed : OperatorDb)
    (row : AssignmentRow) : Prop where
  first : ∀ receipt ∈ db.executionReceipts, receipt.assignmentId ≠ row.assignmentId
  claimed : isWorker = true → row.state = .claimed
  changed : ∃ receipt finishedAt, receipt.assignmentId = row.assignmentId ∧
    receipt.status = status ∧ changed = { updateAssignments db (isRowOf row.assignmentId)
      (fun row => { row with
        state := .ofText status
        finishedAt := some finishedAt }) with
      executionReceipts := db.executionReceipts ++ [receipt] }

theorem accepted_of_acceptReceipt {row : AssignmentRow} {isWorker : Bool}
    {recorded : RecordedReceipt}
    (returned : acceptReceipt db row content resultDigest isWorker inputs = .ok (changed, recorded)) :
    Accepted isWorker content.status db changed row := by
  simp only [acceptReceipt, bind_eq_ok, raiseIf_eq_ok, insertRow_eq_ok, pure_eq_ok,
    not_not] at returned
  obtain ⟨-, -, -, none, -, notIdle, _, ⟨-, rfl⟩, same⟩ := returned
  obtain ⟨rfl, -⟩ := Prod.mk.inj same
  refine ⟨fun receipt member sameId => ?_, fun isTrue => ?_, _, _, ?_, ?_, rfl⟩
  · rw [List.filter_eq_nil_iff] at none
    exact none receipt member (decide_eq_true sameId)
  · by_contra notClaimed
    exact notIdle ⟨isTrue, notClaimed⟩
  · rfl
  · rfl

theorem tableStep_accepted (unique : (db.assignments.map AssignmentRow.assignmentId).Nodup)
    {row : AssignmentRow} (member : row ∈ db.assignments) {isWorker : Bool} {status : PyStr}
    (records : call.Records row.assignmentId status)
    (accepted : Accepted isWorker status db changed row) : TableStep call db changed := by
  obtain ⟨receipt, finishedAt, isOf, isStatus, rfl⟩ := accepted.changed
  refine .of_update (.of_eq rfl) rfl (fun other isOther isSelected => ?_) rfl
    (.inr ⟨receipt, rfl, ?_, ?_, ⟨row, member, isOf.symm⟩, fun other isOther same => ?_⟩)
  · rw [isRowOf_eq_true] at isSelected
    obtain rfl := eq_of_assignmentId unique isOther member isSelected
    exact .finished status records accepted.first _
  · rw [isOf]
    exact accepted.first
  · rw [isOf, isStatus]
    exact records
  · rw [isStatus]
    obtain ⟨old, -, rfl⟩ := mem_updateWhere.mp isOther
    split
    · rfl
    · rename_i notSelected
      rw [if_neg notSelected, isOf] at same
      exact absurd (isRowOf_eq_true.mpr same) notSelected

theorem tableStep_stale (unique : (db.assignments.map AssignmentRow.assignmentId).Nodup)
    {row : AssignmentRow} (member : row ∈ db.assignments) (offered : call.Offers row)
    (refused : assignmentAllowed db row.missionId row.dispatchAuthority row.controlEpoch = false ∨
      row.state = .cancelRequested)
    {result : Json} {materialDroneId reason : PyStr} {leaseGeneration : Int} {staleId : PyStr}
    (stored : storeStaleResult db row result resultDigest materialDroneId leaseGeneration reason
      inputs = .ok (changed, staleId)) : TableStep call db changed := by
  simp only [storeStaleResult, bind_eq_ok, pure_eq_ok] at stored
  obtain ⟨_, -, same⟩ := stored
  obtain ⟨rfl, -⟩ := Prod.mk.inj same
  refine .of_update (.of_eq rfl) rfl (fun other isOther isSelected => ?_) rfl (.inl rfl)
  rw [isRowOf_eq_true] at isSelected
  obtain rfl := eq_of_assignmentId unique isOther member isSelected
  exact .stale offered refused _

theorem checkWorkerBinding_eq_ok {row : AssignmentRow} {materialDroneId : PyStr}
    {leaseGeneration : Int} {stale : Option StaleResult}
    (returned : checkWorkerBinding db row materialDroneId leaseGeneration = .ok stale) :
    row.materialDroneId = materialDroneId ∧
      (stale ≠ none → assignmentAllowed db row.missionId row.dispatchAuthority
        row.controlEpoch = false ∨ row.state = .cancelRequested) ∧
      (stale = none → assignmentAllowed db row.missionId row.dispatchAuthority
        row.controlEpoch = true) := by
  simp only [checkWorkerBinding, bind_eq_ok, raiseIf_eq_ok, not_not] at returned
  obtain ⟨-, isMaterial, returned⟩ := returned
  refine ⟨isMaterial, ?_⟩
  split at returned
  · rename_i notAllowed
    obtain rfl := Except.ok.inj returned
    exact ⟨fun _ => .inl notAllowed, fun isNone => absurd isNone (by simp)⟩
  · rename_i allowed
    rw [Bool.not_eq_false] at allowed
    split at returned
    · simp only [bind_eq_ok, raiseIf_eq_ok, not_not] at returned
      obtain ⟨-, requested, same⟩ := returned
      obtain rfl := Except.ok.inj same
      exact ⟨fun _ => .inr requested, fun isNone => absurd isNone (by simp)⟩
    · obtain rfl := Except.ok.inj returned
      exact ⟨fun isSome => absurd rfl isSome, fun _ => allowed⟩

theorem tableStep_recordFound (unique : (db.assignments.map AssignmentRow.assignmentId).Nodup)
    {row : AssignmentRow} (member : row ∈ db.assignments) {workerBinding : Option (PyStr × Int)}
    (records : call.Records row.assignmentId content.status)
    (offered : ∀ leaseGeneration, workerBinding = some (row.materialDroneId, leaseGeneration) →
      call.Offers row) :
    TableStep call db (recordFound db row content resultDigest workerBinding inputs).1 := by
  have accepting : ∀ isWorker, TableStep call db
      (rollingBack db (acceptReceipt db row content resultDigest isWorker inputs)).1 := by
    intro isWorker
    cases returned : acceptReceipt db row content resultDigest isWorker inputs with
    | error error => exact .refl call db
    | ok result => exact tableStep_accepted unique member records (accepted_of_acceptReceipt returned)
  unfold recordFound
  split
  · exact accepting false
  · rename_i materialDroneId leaseGeneration
    split
    · exact .refl call db
    · exact accepting true
    · rename_i stale checked
      obtain ⟨rfl, refused, -⟩ := checkWorkerBinding_eq_ok checked
      split
      · exact .refl call db
      · rename_i stored
        exact tableStep_stale unique member (offered leaseGeneration rfl) (refused (by simp)) stored

theorem tableStep_recordContent (unique : (db.assignments.map AssignmentRow.assignmentId).Nodup)
    {assignmentId : PyStr} {workerBinding : Option (PyStr × Int)}
    (records : call.Records assignmentId content.status)
    (offered : ∀ row : AssignmentRow, ∀ leaseGeneration, row.assignmentId = assignmentId →
      workerBinding = some (row.materialDroneId, leaseGeneration) → call.Offers row) :
    TableStep call db (recordContent db assignmentId content workerBinding inputs).1 := by
  unfold recordContent
  split
  · exact .refl call db
  · split
    · exact .refl call db
    · rename_i row found
      obtain ⟨member, rfl⟩ := mem_of_findAssignment found
      exact tableStep_recordFound unique member records fun leaseGeneration isBinding =>
        offered row leaseGeneration rfl isBinding

theorem accepted_of_recordReceipt {assignmentId : PyStr} {result : Json} {offer : WorkerReceipt}
    {effectReceiptDigest : Option PyStr} {recorded : RecordedReceipt}
    (returned : (recordReceipt db assignmentId result offer effectReceiptDigest inputs).2 =
      .ok recorded) :
    ∃ row, findAssignment db assignmentId = some row ∧ row.state = .claimed ∧
      assignmentAllowed db row.missionId row.dispatchAuthority row.controlEpoch = true := by
  unfold recordReceipt at returned
  split at returned
  · simp at returned
  · unfold recordContent at returned
    split at returned
    · simp at returned
    · split at returned
      · simp at returned
      · rename_i row found
        refine ⟨row, found, ?_⟩
        unfold recordFound at returned
        dsimp only at returned
        split at returned
        · simp at returned
        · rename_i checked
          obtain ⟨-, -, allowed⟩ := checkWorkerBinding_eq_ok checked
          refine ⟨?_, allowed rfl⟩
          unfold rollingBack at returned
          split at returned
          · rename_i accepted
            exact (accepted_of_acceptReceipt accepted).claimed rfl
          · simp at returned
        · split at returned <;> simp at returned

/-! ### Rebinding -/

theorem tableStep_rebind {missionId authorityOwner : PyStr} {generation : Option Int} {count : Nat}
    (rebinds : ∀ row : AssignmentRow, row.missionId = missionId → call.Rebinds row)
    (returned : rebindReadyAssignments db missionId inputs authorityOwner generation =
      .ok (changed, count)) : TableStep call db changed := by
  simp only [rebindReadyAssignments, bind_eq_ok] at returned
  obtain ⟨⟨middle, state⟩, ensuring, returned⟩ := returned
  have ensured := ensured_of_ensureControlState ensuring
  have same := sameTables_of_ensured ensured
  have controls := (controlStep_of_ensured ensured).1
  split at returned
  · obtain ⟨rfl, -⟩ := Prod.mk.inj (Except.ok.inj returned)
    exact .of_same controls same
  · rename_i bound _
    simp only [bind_eq_ok, pure_eq_ok] at returned
    obtain ⟨moved, isMoved, result⟩ := returned
    obtain ⟨movedEq, -⟩ := moveAssignments_eq_ok isMoved
    obtain ⟨rfl, -⟩ := Prod.mk.inj result
    have assignments : moved.assignments = updateWhere (fun row => row.isIn missionId .ready)
        (fun row => { row with
          leaseGeneration := bound
          controlEpoch := state.controlEpoch
          dispatchAuthority := authorityOwner }) db.assignments := by
      rw [movedEq, updateAssignments, same.assignments]
    have sameControls : moved.controls = middle.controls := by
      rw [movedEq]
      rfl
    refine .of_update (controls.trans (.of_eq sameControls)) assignments
      (fun row member isSelected => ?_) ?_ (.inl ?_)
    · rw [AssignmentRow.isIn, Bool.and_eq_true, decide_eq_true_eq, decide_eq_true_eq] at isSelected
      have epoch : state.controlEpoch = epochOf moved row.missionId := by
        rw [isSelected.1, epochOf_congr sameControls, epochOf_eq ensured.findControl_eq]
      rw [epoch]
      exact .rebound isSelected.2 (rebinds row isSelected.1) bound authorityOwner
    · rw [movedEq]
      exact same.revocations
    · rw [movedEq]
      exact same.receipts

/-! ### Commands -/

theorem controlStep_updateControl {missionId : PyStr} {change : ControlRow → ControlRow}
    (key : ∀ row, (change row).missionId = row.missionId)
    (grows : ∀ row, row.controlEpoch ≤ (change row).controlEpoch) :
    ControlStep db (updateControl db missionId change) where
  kept := by
    intro other row found
    rw [findControl_updateControl key, found]
    exact ⟨_, rfl⟩
  grows := by
    intro other
    rw [epochOf, epochOf, findControl_updateControl key]
    cases findControl db other with
    | none => exact le_refl _
    | some row =>
      rw [Option.map_some, Option.map_some, Option.map_some, Option.getD_some, Option.getD_some]
      split
      · exact grows row
      · exact le_refl _

theorem epochOf_updateControl {missionId : PyStr} {change : ControlRow → ControlRow}
    {state : ControlRow} (key : ∀ row, (change row).missionId = row.missionId)
    (found : findControl db missionId = some state) :
    epochOf (updateControl db missionId change) missionId = (change state).controlEpoch := by
  rw [epochOf, findControl_updateControl key, found, Option.map_some,
    if_pos (missionId_of_findControl found)]
  rfl

theorem controlStep_bump (missionId : PyStr) (change : ControlChange) (commandId now : PyStr) :
    ControlStep db
      (updateControl db missionId fun control => control.bump change commandId now) :=
  controlStep_updateControl (fun _ => rfl) fun _ => Int.le.intro 1 rfl

theorem epochOf_bump {missionId : PyStr} {state : ControlRow}
    (found : findControl db missionId = some state) (change : ControlChange)
    (commandId now : PyStr) :
    epochOf (updateControl db missionId fun control => control.bump change commandId now)
      missionId = state.controlEpoch + 1 :=
  epochOf_updateControl (fun _ => rfl) found

theorem TableStep.of_map {change : AssignmentRow → AssignmentRow}
    (controls : ControlStep db changed)
    (assignments : changed.assignments = db.assignments.map change)
    (each : ∀ row ∈ db.assignments, RowStep call db changed row (change row))
    (revocations : changed.capabilityRevocations = db.capabilityRevocations)
    (receipts : changed.executionReceipts = db.executionReceipts) : TableStep call db changed where
  controls := controls
  rows := ⟨change, none, by rw [assignments, Option.toList_none, List.append_nil], each,
    fun row member => absurd member (by simp)⟩
  revocations := .inl revocations
  receipts := .inl receipts

theorem isIn_eq_true {row : AssignmentRow} {missionId : PyStr} {state : AssignmentState} :
    row.isIn missionId state = true ↔ row.missionId = missionId ∧ row.state = state := by
  simp [AssignmentRow.isIn]

def fencedRow (missionId now : PyStr) (row : AssignmentRow) : AssignmentRow :=
  if row.missionId = missionId ∧ row.state = .ready then
    { row with
      state := .cancelled
      finishedAt := some now }
  else if row.missionId = missionId ∧ row.state = .claimed then
    { row with state := .cancelRequested }
  else row

theorem assignments_fence (base : OperatorDb) (missionId now : PyStr) :
    (fenceAssignments base missionId now).1.assignments =
      base.assignments.map (fencedRow missionId now) := by
  simp only [fenceAssignments, requestCancellation, updateAssignments, updateWhere, List.map_map]
  apply List.map_congr_left
  intro row _
  rw [Function.comp_apply, fencedRow]
  by_cases ready : row.missionId = missionId ∧ row.state = .ready
  · rw [if_pos ready, if_pos (isIn_eq_true.mpr ready)]
    exact if_neg (by simp [AssignmentRow.isIn])
  · rw [if_neg ready, if_neg (isIn_eq_true.not.mpr ready)]
    simp only [isIn_eq_true]

theorem rowStep_fenced (missionId now : PyStr) (row : AssignmentRow) :
    RowStep call db changed row (fencedRow missionId now row) := by
  unfold fencedRow
  split
  · rename_i ready
    exact .cancelled (.inl ready.2) _
  · split
    · rename_i claimed
      exact .cancelRequested (.inl claimed.2)
    · exact .kept

/-- The row after `RELEASE_CONTROL`. -/
def releasedRow (missionId principalId now : PyStr) (generation epoch : Int)
    (row : AssignmentRow) : AssignmentRow :=
  if row.missionId = missionId ∧ row.state = .ready then
    if row.dispatchAuthority = principalId then row.handedOver generation epoch
    else cancelRow now row
  else if row.missionId = missionId ∧ row.state = .claimed then
    { row with state := .cancelRequested }
  else row

theorem assignments_release (base : OperatorDb) (missionId principalId now : PyStr)
    (generation epoch : Int) :
    (requestCancellation (updateAssignments (updateAssignments base
      (fun row => row.isForeign missionId principalId) (cancelRow now))
      (fun row => row.isOwn missionId principalId)
      (fun row => row.handedOver generation epoch)) missionId).assignments =
      base.assignments.map (releasedRow missionId principalId now generation epoch) := by
  simp only [requestCancellation, updateAssignments, updateWhere, List.map_map]
  apply List.map_congr_left
  intro row _
  simp only [Function.comp_apply, releasedRow, AssignmentRow.isForeign, AssignmentRow.isOwn]
  by_cases ready : row.missionId = missionId ∧ row.state = .ready
  · have isReady := isIn_eq_true.mpr ready
    by_cases own : row.dispatchAuthority = principalId
    · simp only [isReady, own, ready, not_true, decide_false, Bool.and_false, Bool.false_eq_true,
        if_false, decide_true, Bool.and_true, if_true, and_self, ne_eq]
      exact if_neg (by simp [AssignmentRow.isIn, AssignmentRow.handedOver, ready])
    · simp [AssignmentRow.isIn, cancelRow, ready, own]
  · have notReady : row.isIn missionId .ready = false := by
      rw [← Bool.not_eq_true, isIn_eq_true]
      exact ready
    simp only [notReady, ready, Bool.false_and, Bool.false_eq_true, if_false, isIn_eq_true]

theorem rowStep_released {missionId principalId now : PyStr} {generation : Int}
    (rebinds : ∀ row : AssignmentRow, row.missionId = missionId →
      row.dispatchAuthority = principalId → call.Rebinds row) (row : AssignmentRow) :
    RowStep call db changed row
      (releasedRow missionId principalId now generation (epochOf changed missionId) row) := by
  unfold releasedRow
  split
  · rename_i ready
    split
    · rename_i own
      rw [← ready.1]
      exact .rebound ready.2 (rebinds row ready.1 own) generation autonomousOwner
    · exact .cancelled (.inl ready.2) _
  · split
    · rename_i claimed
      exact .cancelRequested (.inl claimed.2)
    · exact .kept

theorem TableStep.of_updateControl {missionId : PyStr} {change : ControlRow → ControlRow}
    (controls : changed.controls =
      updateWhere (fun row => row.missionId = missionId) change db.controls)
    (key : ∀ row, (change row).missionId = row.missionId)
    (grows : ∀ row, row.controlEpoch ≤ (change row).controlEpoch)
    (same : SameTables db changed) : TableStep call db changed :=
  .of_same ((controlStep_updateControl key grows).trans (.of_eq controls)) same

section Effects

variable {missionId principalId : PyStr} {state : ControlRow} {action : Action}
  (found : findControl db missionId = some state)
include found

theorem tableStep_of_effect
    (rebinds : ∀ row : AssignmentRow, action = .releaseControl → row.missionId = missionId →
      row.dispatchAuthority = principalId → call.Rebinds row)
    (notReassign : action ≠ .reassign)
    (unique : (db.assignments.map AssignmentRow.assignmentId).Nodup)
    (effect : ActionEffect missionId principalId state db action changed) :
    TableStep call db changed := by
  cases effect with
  | message _ _ messageId row recipients =>
    obtain ⟨deliveries, routes, same⟩ := exists_foldl_addRecipient messageId recipients { db with
      messages := insertOrIgnore (fun other => other.messageId = messageId) row db.messages }
    rw [same]
    exact .of_same (.of_eq rfl) ⟨rfl, rfl, rfl⟩
  | status | proposal | approval => exact .of_same (.of_eq rfl) ⟨rfl, rfl, rfl⟩
  | context | plan =>
    exact .of_updateControl rfl (fun _ => rfl) (fun _ => le_refl _) ⟨rfl, rfl, rfl⟩
  | resume =>
    exact .of_updateControl rfl (fun _ => rfl) (fun row => Int.le.intro 1 rfl) ⟨rfl, rfl, rfl⟩
  | revoke change commandId now row isOwn =>
    subst isOwn
    have controls := @controlStep_bump db row.missionId change commandId now
    refine ⟨controls.trans (.of_eq rfl), ⟨id, none, ?_, fun _ _ => .kept, ?_⟩,
      .inr ⟨row, rfl, rfl, controls.kept _ _ found, ?_⟩, .inl rfl⟩
    · rw [List.map_id, Option.toList_none, List.append_nil]
      rfl
    · exact fun _ member => absurd member (by simp)
    · rw [epochOf_eq found]
      exact (Int.lt_succ state.controlEpoch).trans_eq
        (epochOf_bump found change commandId now).symm
  | fence _ change isFence commandId now fencedAt drivers checkpoints =>
    have controls := @controlStep_bump db missionId change commandId now
    exact .of_map (controls.trans (.of_eq rfl)) (assignments_fence _ missionId fencedAt)
      (fun row _ => rowStep_fenced missionId fencedAt row) rfl rfl
  | release commandId now fencedAt drivers checkpoints generation =>
    have controls :=
      @controlStep_bump db missionId ⟨some autonomousOwner, none, none⟩ commandId now
    have rows := assignments_release { updateControl db missionId
      (fun control => control.bump ⟨some autonomousOwner, none, none⟩ commandId now) with
        drivers := drivers, checkpoints := checkpoints } missionId principalId fencedAt generation
      (state.controlEpoch + 1)
    have sameEpoch : state.controlEpoch + 1 = epochOf (updateControl db missionId
        (fun control => control.bump ⟨some autonomousOwner, none, none⟩ commandId now))
        missionId := (epochOf_bump found _ commandId now).symm
    rw [sameEpoch] at rows ⊢
    exact .of_map (controls.trans (.of_eq rfl)) rows
      (fun row _ => rowStep_released (fun row => rebinds row rfl) row) rfl rfl
  | cancel old member isOwn ready now =>
    refine .of_update (.of_eq rfl) rfl (fun row isRow isSelected => ?_) rfl (.inl rfl)
    obtain rfl := eq_of_assignmentId unique isRow member (of_decide_eq_true isSelected)
    exact .cancelled (.inl ready) _
  | requestCancel old member isOwn claimed =>
    refine .of_update (.of_eq rfl) rfl (fun row isRow isSelected => ?_) rfl (.inl rfl)
    obtain rfl := eq_of_assignmentId unique isRow member (of_decide_eq_true isSelected)
    exact .cancelRequested (.inl claimed)
  | awaits | replace => exact absurd rfl notReassign

theorem tableStep_of_reassignEffect {old : AssignmentRow} (member : old ∈ db.assignments)
    (isOwn : old.missionId = missionId) (reassigns : call.Reassigns old)
    (unique : (db.assignments.map AssignmentRow.assignmentId).Nodup)
    (effect : ReassignEffect principalId state old db changed) : TableStep call db changed := by
  cases effect with
  | awaits busy drivers checkpoints =>
    refine .of_update (.of_eq rfl) rfl (fun row isRow isSelected => ?_) rfl (.inl rfl)
    obtain rfl := eq_of_assignmentId unique isRow member (of_decide_eq_true isSelected)
    exact .cancelRequested busy
  | replace idle drivers checkpoints generation newId material cancelledAt now fresh =>
    let added := old.reassigned newId material generation state principalId now
    refine ⟨.of_eq rfl, ⟨fun row =>
      if row.assignmentId = old.assignmentId then
        { row with
          state := .cancelled
          finishedAt := row.finishedAt <|> some cancelledAt }
      else if row.missionId = old.missionId ∧ row.state = .ready then
        { row with leaseGeneration := generation }
      else row, some added, ?_, fun row isRow => ?_, ?_⟩, .inl rfl, .inl rfl⟩
    · rw [Option.toList_some]
      refine congrArg (· ++ [added]) ?_
      simp only [updateWhere, List.map_map]
      apply List.map_congr_left
      intro row _
      rw [Function.comp_apply]
      by_cases isOld : row.assignmentId = old.assignmentId
      · simp [isOld, AssignmentRow.isIn]
      · simp [isOld, AssignmentRow.isIn]
    · dsimp only
      split
      · rename_i isOld
        obtain rfl := eq_of_assignmentId unique isRow member isOld
        exact .cancelled idle _
      · split
        · rename_i ready
          exact .moved ready.2 generation
        · exact .kept
    · rintro row ⟨⟩
      refine ⟨fresh, ?_, .inr ⟨old, member, reassigns, idle, rfl, rfl⟩⟩
      have current := epochOf_eq found
      rw [← isOwn] at current
      exact current.ge

end Effects

namespace SchedulerCall

variable {command : OperatorCommand} {principalId : PyStr}
  (isCommand : call.IsCommand command principalId)
include isCommand

theorem IsCommand.rebinds {row : AssignmentRow} (isRelease : command.action = .releaseControl)
    (isOwn : row.missionId = command.missionId) (authority : row.dispatchAuthority = principalId) :
    call.Rebinds row := by
  subst authority
  cases call with
  | command => exact ⟨command, isCommand, isRelease, isOwn.symm⟩
  | _ => exact absurd isCommand id

theorem IsCommand.not_offers (row : AssignmentRow) : ¬ call.Offers row := by
  cases call with
  | command => exact id
  | _ => exact absurd isCommand id

theorem IsCommand.not_records (assignmentId status : PyStr) : ¬ call.Records assignmentId status := by
  cases call with
  | command => exact id
  | _ => exact absurd isCommand id

end SchedulerCall

theorem TableStep.of_transaction {command : OperatorCommand} {principalId : PyStr}
    (isCommand : call.IsCommand command principalId) {started applied : OperatorDb}
    (controls : ControlStep db started) (epochs : ∀ other, epochOf started other = epochOf db other)
    (start : SameTables db started) (step : TableStep call started applied)
    (sameControls : changed.controls = applied.controls) (end' : SameTables applied changed) :
    TableStep call db changed where
  controls := (controls.trans step.controls).trans (.of_eq sameControls)
  rows := by
    obtain ⟨change, added, assignments, each, new⟩ := step.rows
    rw [start.assignments] at assignments each
    refine ⟨change, added, end'.assignments.trans assignments, fun row member => ?_,
      fun row member => ?_⟩
    · have rowStep := each row member
      generalize change row = later at rowStep
      cases rowStep with
      | kept => exact .kept
      | claimed ready => exact .claimed ready _ _
      | released held allowed =>
        refine .released held ?_
        rw [assignmentAllowed_congr sameControls]
        exact allowed
      | stale offered => exact absurd offered (isCommand.not_offers row)
      | finished status records => exact absurd records (isCommand.not_records _ status)
      | cancelled idle => exact .cancelled idle _
      | cancelRequested busy => exact .cancelRequested busy
      | moved ready => exact .moved ready _
      | rebound ready rebinds =>
        rw [← epochOf_congr sameControls]
        exact .rebound ready rebinds _ _
    · obtain ⟨fresh, epoch, source⟩ := new row member
      rw [start.assignments] at fresh source
      rw [← epochOf_congr sameControls] at epoch
      refine ⟨fresh, epoch, source.imp (fun checked input isInput => ?_) id⟩
      rw [← hasRevokedCapability_congr start.revocations]
      exact checked input isInput
  revocations := by
    rw [end'.revocations, end'.assignments]
    rcases step.revocations with same | ⟨row, added, assignments, control, grown⟩
    · exact .inl (same.trans start.revocations)
    · refine .inr ⟨row, by rw [added, start.revocations], by rw [assignments, start.assignments],
        ?_, ?_⟩
      · rw [findControl_congr sameControls]
        exact control
      · rw [← epochs, epochOf_congr sameControls]
        exact grown
  receipts := by
    rw [end'.receipts]
    rcases step.receipts with same | ⟨receipt, -, added⟩
    · exact .inl (same.trans start.receipts)
    · exact absurd added.records (isCommand.not_records _ _)

/-- A transaction between its parts: the control row, the branch and the rest. -/
structure Transaction (admission : Admission) (db changed : OperatorDb) : Prop where
  parts : ∃ (started applied : OperatorDb) (state : ControlRow) (inputs : CallInputs)
    (outcome : ActionOutcome), ControlStep db started ∧
    (∀ other, epochOf started other = epochOf db other) ∧ SameTables db started ∧
    findControl started admission.command.missionId = some state ∧
    applyAction started admission.command state admission.principalId admission.participantId
      inputs = .ok (applied, outcome) ∧
    changed.controls = applied.controls ∧ SameTables applied changed

theorem transaction_of_commit {admission : Admission} {inputs : CallInputs}
    {receipt : List (PyStr × Json)}
    (returned : admission.commit db inputs = .ok (changed, receipt)) :
    Transaction admission db changed := by
  simp only [Admission.commit, Admission.start, bind_eq_ok, insertRow_eq_ok,
    pure_eq_ok] at returned
  obtain ⟨⟨_, _⟩, ⟨⟨started, state⟩, ensuring, _, -, commandDigest, -, payloadJson, -, _,
    ⟨-, rfl⟩, same⟩, ⟨applied, outcome⟩, applying, completing⟩ := returned
  obtain ⟨rfl, rfl⟩ := Prod.mk.inj same
  have ensured := ensured_of_ensureControlState ensuring
  have tables := sameTables_of_ensured ensured
  obtain ⟨controls, epochs⟩ := controlStep_of_ensured ensured
  have found := ensured.findControl_eq
  have effect := effect_of_applyAction (by exact found) applying
  obtain ⟨final, isFinal⟩ := exists_findControl_of_effect effect found
  simp only [Admission.complete, event, bind_eq_ok, insertRow_eq_ok, pure_eq_ok] at completing
  obtain ⟨⟨_, _⟩, ensuringAgain, resultJson, -, ⟨_, _⟩, ⟨_, -, _, -, events⟩, _, -, _, -, _, -, _,
    ⟨-, rfl⟩, result⟩ := completing
  obtain ⟨rfl, rfl⟩ := ensureControlState_eq_ok_of_found isFinal ensuringAgain
  obtain ⟨rfl, -⟩ := Prod.mk.inj events
  obtain ⟨rfl, -⟩ := Prod.mk.inj result
  exact ⟨{ started with commands := started.commands ++
      [admission.row commandDigest payloadJson state.controlEpoch (inputs.now 1)] },
    _, state, inputs.skip 6, outcome, controls.trans (.of_eq rfl), epochs,
    ⟨tables.assignments, tables.revocations, tables.receipts⟩, found, applying, rfl,
    ⟨rfl, rfl, rfl⟩⟩

theorem tableStep_of_commit {admission : Admission}
    (isCommand : call.IsCommand admission.command admission.principalId)
    (unique : (db.assignments.map AssignmentRow.assignmentId).Nodup)
    (transaction : Transaction admission db changed) : TableStep call db changed := by
  obtain ⟨started, applied, state, inputs, outcome, controls, epochs, start, found, applying,
    sameControls, end'⟩ := transaction.parts
  rw [← start.assignments] at unique
  refine .of_transaction isCommand controls epochs start ?_ sameControls end'
  by_cases isReassign : admission.command.action = .reassign
  · have reassigned : reassign started admission.command admission.principalId inputs =
        .ok (applied, outcome) := by
      rw [← applying, applyAction, isReassign]
    simp only [reassign, bind_eq_ok] at reassigned
    obtain ⟨assignmentId, named, _, -, reassigned⟩ := reassigned
    split at reassigned
    · simp at reassigned
    · rename_i old isOld
      obtain ⟨member, isId, isOwn⟩ := mem_of_missionAssignment isOld
      refine tableStep_of_reassignEffect found member isOwn ⟨admission.command,
        admission.principalId, isCommand, isReassign, isOwn.symm, ?_⟩ unique
        (reassignEffect_of_reassignFound found reassigned)
      rw [isId]
      generalize Json.get (py "assignment_id") admission.command.payload = value at named
      unfold nonemptyText at named
      split at named
      · split at named
        · simp at named
        · rw [Except.ok.inj named]
      · simp at named
  · have effect := effect_of_applyAction found applying
    exact tableStep_of_effect found (fun row isRelease isOwn authority =>
      isCommand.rebinds isRelease isOwn authority) isReassign unique effect

theorem tableStep_execute (unique : (db.assignments.map AssignmentRow.assignmentId).Nodup)
    (call : SchedulerCall) : TableStep call db (call.execute db) := by
  cases call with
  | command call =>
    refine applyCommand_rule (.refl _ db) fun admission _ _ _ isCommand isPrincipal returned => ?_
    exact tableStep_of_commit ⟨isCommand, isPrincipal.symm⟩ unique (transaction_of_commit returned)
  | rebind missionId authorityOwner generation inputs =>
    exact committed_rule (.refl _ db) fun _ _ returned =>
      tableStep_rebind (fun row isOwn => isOwn) returned
  | create request inputs => exact tableStep_createIn .ready request inputs
  | createHeld request inputs => exact tableStep_createIn .held request inputs
  | release assignmentId evidence inputs =>
    refine committed_rule (.refl _ db) fun _ _ returned => ?_
    obtain ⟨row, found, released⟩ := released_of_release returned
    exact tableStep_release unique (mem_of_findAssignment found).1 released
  | claim assignmentId expected leaseSeconds inputs =>
    refine committed_rule (.refl _ db) fun _ _ returned => ?_
    obtain ⟨row, -, claimed⟩ := claimed_of_claim returned
    exact tableStep_claim claimed
  | receipt assignmentId result offer effectReceiptDigest inputs =>
    change TableStep _ db (recordReceipt db assignmentId result offer effectReceiptDigest inputs).1
    unfold recordReceipt
    split
    · exact .refl _ db
    · rename_i materialDroneId leaseGeneration status checked
      refine tableStep_recordContent unique ⟨rfl, _, _, checked⟩ fun row generation isOwn isBinding => ?_
      obtain ⟨rfl, rfl⟩ := Prod.mk.inj (Option.some.inj isBinding)
      exact ⟨isOwn.symm, _, _, checked⟩
  | internal assignmentId content inputs =>
    exact tableStep_recordContent unique ⟨rfl, rfl⟩ fun _ _ _ isBinding => absurd isBinding (by simp)

/-! ### The rows after a call -/

theorem RowStep.assignmentId {old row : AssignmentRow} (step : RowStep call db changed old row) :
    row.assignmentId = old.assignmentId := by
  cases step <;> rfl

theorem RowStep.missionId {old row : AssignmentRow} (step : RowStep call db changed old row) :
    row.missionId = old.missionId := by
  cases step <;> rfl

theorem RowStep.input {old row : AssignmentRow} (step : RowStep call db changed old row) :
    row.input = old.input := by
  cases step <;> rfl

namespace TableStep

variable (step : TableStep call db changed)
include step

theorem exists_rowStep {old : AssignmentRow} (member : old ∈ db.assignments) :
    ∃ row ∈ changed.assignments, RowStep call db changed old row := by
  obtain ⟨change, added, assignments, each, -⟩ := step.rows
  refine ⟨change old, ?_, each old member⟩
  rw [assignments]
  exact List.mem_append_left _ (List.mem_map_of_mem member)

theorem source_of_mem {row : AssignmentRow} (member : row ∈ changed.assignments) :
    (∃ old ∈ db.assignments, RowStep call db changed old row) ∨
      AddedRow call db changed row := by
  obtain ⟨change, added, assignments, each, new⟩ := step.rows
  rw [assignments, List.mem_append, List.mem_map] at member
  rcases member with ⟨old, isOld, rfl⟩ | isNew
  · exact .inl ⟨old, isOld, each old isOld⟩
  · exact .inr (new row (Option.mem_toList.mp isNew))

theorem nodup_assignmentId (unique : (db.assignments.map AssignmentRow.assignmentId).Nodup) :
    (changed.assignments.map AssignmentRow.assignmentId).Nodup := by
  obtain ⟨change, added, assignments, each, new⟩ := step.rows
  have same : (db.assignments.map change).map AssignmentRow.assignmentId =
      db.assignments.map AssignmentRow.assignmentId := by
    rw [List.map_map]
    apply List.map_congr_left
    intro row member
    exact (each row member).assignmentId
  rw [assignments, List.map_append, same, List.nodup_append']
  cases added with
  | none => exact ⟨unique, List.nodup_nil, List.disjoint_nil_right _⟩
  | some row =>
    refine ⟨unique, List.nodup_singleton _, ?_⟩
    rw [Option.toList_some, List.map_singleton, List.disjoint_singleton, List.mem_map]
    rintro ⟨other, isOther, sameId⟩
    exact (new row rfl).fresh other isOther sameId

theorem controlEpoch_le
    (epochs : ∀ row ∈ db.assignments, row.controlEpoch ≤ epochOf db row.missionId) :
    ∀ row ∈ changed.assignments, row.controlEpoch ≤ epochOf changed row.missionId := by
  intro row member
  rcases step.source_of_mem member with ⟨old, isOld, rowStep⟩ | added
  · have before := (epochs old isOld).trans (step.controls.grows old.missionId)
    cases rowStep with
    | rebound => exact le_refl _
    | _ => exact before
  · exact added.epoch

end TableStep

end GlobalScheduler

end CyberLion
