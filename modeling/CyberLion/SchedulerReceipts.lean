import CyberLion.SchedulerEffects
import CyberLion.Sha256Evaluation

/-!
# Receipts of assignments

An assignment gets at most one receipt, and its state is the status of that receipt.
The state stays while no call stores a late result of the assignment as historical,
and no internal receipt has the name of a state as its status: `_store_stale_result`
and `record_internal_receipt` check neither.
-/

namespace CyberLion

namespace GlobalScheduler

open PyLib OperatorControl

/-- Each receipt is the only one of its assignment, whose state is its status. -/
structure ReceiptTables (db : OperatorDb) : Prop where
  unique : (db.assignments.map AssignmentRow.assignmentId).Nodup
  single : (db.executionReceipts.map ExecutionReceiptRow.assignmentId).Nodup
  known : ∀ receipt ∈ db.executionReceipts, ∃ row ∈ db.assignments,
    row.assignmentId = receipt.assignmentId
  finished : ∀ receipt ∈ db.executionReceipts, ∀ row ∈ db.assignments,
    row.assignmentId = receipt.assignmentId → row.state = .status receipt.status

/-- The call stores no result of an assignment with a receipt as historical, and its
status is no name of a state. -/
def SchedulerCall.KeepsReceipts (db : OperatorDb) (call : SchedulerCall) : Prop :=
  (∀ row ∈ db.assignments, call.Offers row →
      (∃ receipt ∈ db.executionReceipts, receipt.assignmentId = row.assignmentId) →
      assignmentAllowed db row.missionId row.dispatchAuthority row.controlEpoch = true) ∧
    match call with
    | .internal _ content _ => AssignmentState.ofText content.status = .status content.status
    | _ => True

def ReceiptsKept (db later : OperatorDb) : Prop :=
  ∀ receipt ∈ db.executionReceipts, receipt ∈ later.executionReceipts ∧
    ∀ row ∈ db.assignments, row.assignmentId = receipt.assignmentId → row ∈ later.assignments

def Unclaimable (db : OperatorDb) : Prop :=
  ∀ receipt ∈ db.executionReceipts, ∀ expected leaseSeconds inputs changed claimed,
    claimAssignment db receipt.assignmentId expected leaseSeconds inputs ≠ .ok (changed, claimed)

theorem ReceiptTables.of_new {db : OperatorDb} (assignments : db.assignments = [])
    (receipts : db.executionReceipts = []) : ReceiptTables db := by
  constructor <;> simp [assignments, receipts]

theorem ReceiptsKept.refl (db : OperatorDb) : ReceiptsKept db db :=
  fun _ isReceipt => ⟨isReceipt, fun _ isRow _ => isRow⟩

theorem ReceiptsKept.trans {db middle later : OperatorDb} (first : ReceiptsKept db middle)
    (second : ReceiptsKept middle later) : ReceiptsKept db later := by
  intro receipt isReceipt
  obtain ⟨isMiddle, rows⟩ := first receipt isReceipt
  obtain ⟨isLater, laterRows⟩ := second receipt isMiddle
  exact ⟨isLater, fun row isRow same => laterRows row (rows row isRow same) same⟩

theorem ReceiptTables.unclaimable {db : OperatorDb} (tables : ReceiptTables db) :
    Unclaimable db := by
  intro receipt isReceipt expected leaseSeconds inputs changed claimed returned
  obtain ⟨row, found, isClaimed⟩ := claimed_of_claim returned
  obtain ⟨member, isOf⟩ := mem_of_findAssignment found
  have isFinished := tables.finished receipt isReceipt row member isOf
  exact absurd (isClaimed.ready.symm.trans isFinished) (by simp)

variable {db changed : OperatorDb} {call : SchedulerCall}

/-! ### One call -/

theorem ofText_of_check {offer : WorkerReceipt} {materialDroneId status : PyStr}
    {leaseGeneration : Int} (checked : offer.check = .ok (materialDroneId, leaseGeneration, status)) :
    AssignmentState.ofText status = .status status := by
  have isStatus : workerStatus offer.status = .ok status := by
    simp only [WorkerReceipt.check, bind_eq_ok] at checked
    obtain ⟨_, -, checked⟩ := checked
    split at checked
    · split at checked
      · simp at checked
      · simp only [bind_eq_ok, pure_eq_ok] at checked
        obtain ⟨_, -, text, isStatus, _, -, same⟩ := checked
        rw [isStatus, (Prod.mk.inj (Prod.mk.inj same).2).2]
    · simp at checked
  unfold workerStatus at isStatus
  split at isStatus
  · split at isStatus
    · rename_i isWorker
      obtain rfl := Except.ok.inj isStatus
      rcases isWorker with rfl | rfl <;> decide
    · simp at isStatus
  all_goals simp at isStatus

theorem SchedulerCall.KeepsReceipts.ofText (keeps : call.KeepsReceipts db)
    {assignmentId status : PyStr} (records : call.Records assignmentId status) :
    AssignmentState.ofText status = .status status := by
  cases call with
  | receipt named result offer effectReceiptDigest inputs =>
    obtain ⟨-, _, _, checked⟩ := records
    exact ofText_of_check checked
  | internal named content inputs =>
    obtain ⟨-, rfl⟩ := records
    exact keeps.2
  | _ => exact absurd records id

theorem RowStep.eq_of_receipt {old row : AssignmentRow} (step : RowStep call db changed old row)
    (keeps : call.KeepsReceipts db) (member : old ∈ db.assignments)
    {receipt : ExecutionReceiptRow} (isReceipt : receipt ∈ db.executionReceipts)
    (isOf : receipt.assignmentId = old.assignmentId)
    (isFinished : old.state = .status receipt.status) : row = old := by
  have apart : ∀ state : AssignmentState, old.state = state → state = .status receipt.status :=
    fun state same => same.symm.trans isFinished
  cases step with
  | kept => rfl
  | claimed ready => exact absurd (apart _ ready) (by simp)
  | released held => exact absurd (apart _ held) (by simp)
  | stale offered refused =>
    rcases refused with refused | requested
    · have allowed := keeps.1 old member offered ⟨receipt, isReceipt, isOf⟩
      exact absurd (allowed.symm.trans refused) (by simp)
    · exact absurd (apart _ requested) (by simp)
  | finished status records first => exact absurd isOf (first receipt isReceipt)
  | cancelled idle => rcases idle with idle | idle | idle <;> exact absurd (apart _ idle) (by simp)
  | cancelRequested busy => rcases busy with busy | busy <;> exact absurd (apart _ busy) (by simp)
  | moved ready => exact absurd (apart _ ready) (by simp)
  | rebound ready => exact absurd (apart _ ready) (by simp)

namespace TableStep

variable (step : TableStep call db changed) (tables : ReceiptTables db)
  (keeps : call.KeepsReceipts db)
include step tables keeps

theorem receiptsKept : ReceiptsKept db changed := by
  intro receipt isReceipt
  constructor
  · rcases step.receipts with same | ⟨added, same, -⟩
    · rw [same]
      exact isReceipt
    · rw [same]
      exact List.mem_append_left _ isReceipt
  · intro row isRow isOf
    obtain ⟨later, isLater, rowStep⟩ := step.exists_rowStep isRow
    obtain rfl := rowStep.eq_of_receipt keeps isRow isReceipt isOf.symm
      (tables.finished receipt isReceipt row isRow isOf)
    exact isLater

theorem state_of_receipt {receipt : ExecutionReceiptRow}
    (isReceipt : receipt ∈ db.executionReceipts) {row : AssignmentRow}
    (isRow : row ∈ changed.assignments) (isOf : row.assignmentId = receipt.assignmentId) :
    row.state = .status receipt.status := by
  obtain ⟨known, isKnown, sameId⟩ := tables.known receipt isReceipt
  have kept := (step.receiptsKept tables keeps receipt isReceipt).2 known isKnown sameId
  have same := eq_of_assignmentId (step.nodup_assignmentId tables.unique) isRow kept
    (isOf.trans sameId.symm)
  rw [same]
  exact tables.finished receipt isReceipt known isKnown sameId

theorem receiptTables : ReceiptTables changed := by
  have unique := step.nodup_assignmentId tables.unique
  have knownLater : ∀ receipt : ExecutionReceiptRow, (∃ row ∈ db.assignments,
      row.assignmentId = receipt.assignmentId) →
      ∃ row ∈ changed.assignments, row.assignmentId = receipt.assignmentId := by
    rintro receipt ⟨row, isRow, isOf⟩
    obtain ⟨later, isLater, rowStep⟩ := step.exists_rowStep isRow
    exact ⟨later, isLater, rowStep.assignmentId.trans isOf⟩
  rcases step.receipts with same | ⟨added, same, isAdded⟩
  · refine ⟨unique, by rw [same]; exact tables.single, ?_, ?_⟩
    · intro receipt isReceipt
      rw [same] at isReceipt
      exact knownLater receipt (tables.known receipt isReceipt)
    · intro receipt isReceipt row isRow isOf
      rw [same] at isReceipt
      exact step.state_of_receipt tables keeps isReceipt isRow isOf
  · refine ⟨unique, ?_, ?_, ?_⟩
    · rw [same, List.map_append, List.map_singleton, List.nodup_append']
      refine ⟨tables.single, List.nodup_singleton _, ?_⟩
      rw [List.disjoint_singleton, List.mem_map]
      rintro ⟨other, isOther, sameId⟩
      exact isAdded.first other isOther sameId
    · intro receipt isReceipt
      rw [same, List.mem_append, List.mem_singleton] at isReceipt
      rcases isReceipt with isOld | rfl
      · exact knownLater receipt (tables.known receipt isOld)
      · exact knownLater receipt isAdded.known
    · intro receipt isReceipt row isRow isOf
      rw [same, List.mem_append, List.mem_singleton] at isReceipt
      rcases isReceipt with isOld | rfl
      · exact step.state_of_receipt tables keeps isOld isRow isOf
      · rw [isAdded.finished row isRow isOf, keeps.ofText isAdded.records]

end TableStep

/-! ### Runs -/

/-- What a run that meets the condition has kept of the database at its start. -/
structure ReceiptRun (start db : OperatorDb) : Prop where
  tables : ReceiptTables db
  kept : ReceiptsKept start db

theorem ReceiptRun.execute {start : OperatorDb} (run : ReceiptRun start db)
    (keeps : call.KeepsReceipts db) : ReceiptRun start (call.execute db) := by
  have step := tableStep_execute run.tables.unique call
  exact ⟨step.receiptTables run.tables keeps,
    run.kept.trans (step.receiptsKept run.tables keeps)⟩

/-- Over every run of calls that meet the condition, every assignment has at most one
receipt and then its status as state, is not claimed and stays as it is from then on. -/
theorem receipts_final {db : OperatorDb} (tables : ReceiptTables db)
    {calls : List SchedulerCall} (keeps : EachMeets SchedulerCall.execute
      SchedulerCall.KeepsReceipts db calls) :
    ∀ first second third, calls = first ++ second ++ third →
      ReceiptTables (first.foldl SchedulerCall.execute db) ∧
        Unclaimable (first.foldl SchedulerCall.execute db) ∧
        ReceiptsKept (first.foldl SchedulerCall.execute db)
          ((first ++ second).foldl SchedulerCall.execute db) := by
  rintro first second third rfl
  have step : ∀ start db call, ReceiptRun start db → SchedulerCall.KeepsReceipts db call →
      ReceiptRun start (SchedulerCall.execute db call) := fun _ _ _ run keeps => run.execute keeps
  obtain ⟨firstKeeps, secondKeeps⟩ := keeps.of_append.1.of_append
  have reached := invariant_of_eachMeets (step db) ⟨tables, .refl db⟩ firstKeeps
  refine ⟨reached.tables, reached.tables.unclaimable, ?_⟩
  rw [List.foldl_append]
  exact (invariant_of_eachMeets (step _) ⟨reached.tables, .refl _⟩ secondKeeps).kept

def driverDb : OperatorDb :=
  { missionDb with
    drivers := [⟨py "M1", 1, py "ACTIVE", py "T", none, none, none, none, none, none, none, none,
      []⟩] }

def callInputs (random : PyStr) : CallInputs :=
  ⟨fun _ => py "2026-01-01T00:00:00Z", fun _ => random⟩

def createCall : SchedulerCall :=
  .create ⟨py "M1", py "P1", py "LD1", py "MD001",
    .obj [(py "capability", .str (py "READ"))], 1, autonomousOwner⟩ (callInputs (py "A"))

def claimCall : SchedulerCall :=
  .claim (py "assignment-A") none 60 (callInputs (py "B"))

def passCall : SchedulerCall :=
  .receipt (py "assignment-A") (.str (py "done"))
    ⟨.str (py "MD001"), .int 1, .str (py "PASS"), .str (py "NONE")⟩ none (callInputs (py "C"))

def commandOf (commandId action : PyStr) (payload : List (PyStr × Json)) : SchedulerCall :=
  .command ⟨.obj [(py "command_id", .str commandId), (py "mission_id", .str (py "M1")),
    (py "action", .str action), (py "payload", .obj payload)], primaryOperator,
    callInputs commandId⟩

/-- The assignment is created and claimed. -/
theorem receipts_final_claim :
    ReceiptTables ([createCall].foldl SchedulerCall.execute driverDb) ∧
      Unclaimable ([createCall].foldl SchedulerCall.execute driverDb) ∧
      ReceiptsKept ([createCall].foldl SchedulerCall.execute driverDb)
        ([createCall, claimCall].foldl SchedulerCall.execute driverDb) := by
  refine receipts_final (.of_new rfl rfl) (fun first call second same => ?_) [createCall]
    [claimCall] [] rfl
  have same : [createCall, claimCall] = first ++ call :: second := same
  have idle : ∀ db, SchedulerCall.KeepsReceipts db createCall ∧
      SchedulerCall.KeepsReceipts db claimCall := fun _ =>
    ⟨⟨fun _ _ offers => absurd offers id, trivial⟩, fun _ _ offers => absurd offers id, trivial⟩
  have isCall : call ∈ [createCall, claimCall] := by
    rw [same]
    simp
  rcases List.mem_pair.mp isCall with rfl | rfl
  · exact (idle _).1
  · exact (idle _).2

/-- A worker's result that arrives again after a pause. -/
theorem exists_receipt_replaced :
    ¬ ∀ (db : OperatorDb) (calls : List SchedulerCall), db.assignments = [] →
      db.executionReceipts = [] → ∀ first second third, calls = first ++ second ++ third →
        ReceiptTables (first.foldl SchedulerCall.execute db) ∧
          Unclaimable (first.foldl SchedulerCall.execute db) ∧
          ReceiptsKept (first.foldl SchedulerCall.execute db)
            ((first ++ second).foldl SchedulerCall.execute db) := by
  intro always
  have tables := (always driverDb _ rfl rfl
    [createCall, claimCall, passCall, commandOf (py "C1") (py "PAUSE_SCOPE") [], passCall] [] []
    rfl).1
  obtain ⟨statuses, states⟩ : ([createCall, claimCall, passCall,
      commandOf (py "C1") (py "PAUSE_SCOPE") [], passCall].foldl SchedulerCall.execute
        driverDb).executionReceipts.map (fun receipt => (receipt.assignmentId, receipt.status)) =
        [(py "assignment-A", py "PASS")] ∧
      ([createCall, claimCall, passCall, commandOf (py "C1") (py "PAUSE_SCOPE") [],
        passCall].foldl SchedulerCall.execute driverDb).assignments.map (fun row =>
          (row.assignmentId, row.state)) = [(py "assignment-A", .staleResult)] := by
    delta SchedulerCall.execute Admission.transaction createAssignment recordInternalReceipt
      createIn Admission.commit acceptCommand Admission.start Admission.complete continueCommand
      repeatCommand applyCommand applyAction OperatorCommand.payloadDigest admitCommand
      commandReceiptDigest event shortId OperatorControl.digest GlobalScheduler.digest pauseScope
      fenceScope driverFence fenceDriver recordReceipt recordContent insertRequest reassign
      reassignFound releaseControl
    rw [Sha256.sha256_eq_evalText]
    decide +kernel
  have isReceipt := List.mem_singleton_self (py "assignment-A", py "PASS")
  have isRow := List.mem_singleton_self (py "assignment-A", AssignmentState.staleResult)
  rw [← statuses, List.mem_map] at isReceipt
  rw [← states, List.mem_map] at isRow
  obtain ⟨receipt, receiptMember, isPass⟩ := isReceipt
  obtain ⟨row, rowMember, isStale⟩ := isRow
  have same : row.assignmentId = receipt.assignmentId :=
    (Prod.mk.inj isStale).1.trans (Prod.mk.inj isPass).1.symm
  have isFinished := tables.finished receipt receiptMember row rowMember same
  rw [(Prod.mk.inj isStale).2] at isFinished
  exact absurd isFinished (by simp)

end GlobalScheduler

end CyberLion
