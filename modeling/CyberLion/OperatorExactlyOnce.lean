import CyberLion.OperatorEffects
import CyberLion.ProgramRely

/-!
# Commands take effect exactly once

Calls of `apply_command` from several connections, in any interleaving.  A step of
a call changes the database only when it commits, and then the command has one
row, one receipt and one event.  What stays in the database from then on decides
every later call with the same identity.
-/

namespace CyberLion

namespace OperatorControl

open PyLib
open PyProg (ensures_lift ensures_read fst_runAlone_read settles_lift settles_read under_bind
  under_lift under_read within_lift within_pure within_read)

/-! ### Calls -/

/-- A call of `apply_command`. -/
structure CommandCall where
  value : Json
  principalId : PyStr
  inputs : CallInputs

def CommandCall.program (call : CommandCall) :
    Prog OperatorDb (Except PyError CommandResult) :=
  ExceptT.run (applyCommand call.value call.principalId call.inputs)

def commandPool (db : OperatorDb) (calls : List CommandCall) :
    Pool OperatorDb (Except PyError CommandResult) :=
  ⟨db, calls.map CommandCall.program⟩

def CommandStep (before after : OperatorDb) : Prop :=
  after = before ∨ ∃ admission, CommitEffect admission before after

theorem commandStep_refl (db : OperatorDb) : CommandStep db db :=
  .inl rfl

theorem commandStep_transaction (admission : Admission) (inputs : CallInputs) (db : OperatorDb) :
    CommandStep db (admission.transaction inputs db).1 := by
  unfold Admission.transaction
  split
  · rename_i committed
    exact .inr ⟨admission, effect_of_commit committed⟩
  · exact .inl rfl

theorem within_commandResult {allowed : OperatorDb → OperatorDb → Prop}
    (refl : ∀ db, allowed db db) (commandId : PyStr) :
    PyProg.Within allowed (commandResult commandId) :=
  .bind (within_read refl _) fun _ =>
    .bind (within_read refl _) fun _ => within_pure _

theorem within_repeatCommand {allowed : OperatorDb → OperatorDb → Prop}
    (refl : ∀ db, allowed db db) (command : OperatorCommand) (existing : CommandRow) :
    PyProg.Within allowed (repeatCommand command existing) :=
  .bind (within_lift _) fun _ =>
    .bind (within_lift _) fun _ =>
      .bind (within_commandResult refl _) fun _ => within_pure _

theorem within_acceptCommand (admission : Admission) (inputs : CallInputs) :
    PyProg.Within CommandStep (acceptCommand admission inputs) :=
  .bind (within_read commandStep_refl _) fun _ =>
    .bind (within_read commandStep_refl _) fun _ =>
      .bind (PyProg.within_transact (commandStep_transaction admission inputs)) fun _ =>
        .bind (within_commandResult commandStep_refl _) fun _ => within_pure _

theorem within_applyCommand (value : Json) (principalId : PyStr) (inputs : CallInputs) :
    PyProg.Within CommandStep (applyCommand value principalId inputs) := by
  refine .bind (within_lift _) fun command => .bind (within_lift _) fun _ =>
    .bind (within_read commandStep_refl _) fun _ =>
      .bind (within_read commandStep_refl _) fun grant =>
        .bind (within_read commandStep_refl _) fun participant =>
          .bind (within_read commandStep_refl _) fun existing => ?_
  cases existing with
  | none => exact within_acceptCommand _ _
  | some row => exact within_repeatCommand commandStep_refl _ row

theorem within_commandPool (db : OperatorDb) (calls : List CommandCall) :
    ∀ thread ∈ (commandPool db calls).threads, thread.Within CommandStep := by
  intro thread member
  obtain ⟨call, -, rfl⟩ := List.mem_map.mp member
  exact within_applyCommand call.value call.principalId call.inputs

theorem program_of_getElem? {db : OperatorDb} {calls : List CommandCall} {index : Nat}
    {call : CommandCall} (isCall : calls[index]? = some call)
    {thread : Prog OperatorDb (Except PyError CommandResult)}
    (found : (commandPool db calls).threads[index]? = some thread) : thread = call.program := by
  rw [commandPool, List.getElem?_map, isCall] at found
  exact (Option.some.inj found).symm

/-! ### The row of a command -/

def Known (command : OperatorCommand) (db : OperatorDb) : Prop :=
  ∃ row, findCommand db command.commandId = some row ∧
    command.payloadDigest = .ok row.commandDigest

def HasDigest (commandId commandDigest : PyStr) (db : OperatorDb) : Prop :=
  ∃ row, findCommand db commandId = some row ∧ row.commandDigest = commandDigest

theorem ledger_of_effect {missionId principalId : PyStr} {state : ControlRow}
    {db changed : OperatorDb} {action : Action}
    (effect : ActionEffect missionId principalId state db action changed) :
    changed.commands = db.commands ∧ changed.receipts = db.receipts ∧
      changed.events = db.events := by
  cases effect with
  | message _ _ messageId row recipients =>
    obtain ⟨deliveries, routes, same⟩ := exists_foldl_addRecipient messageId recipients { db with
      messages := insertOrIgnore (fun other => other.messageId = messageId) row db.messages }
    rw [same]
    exact ⟨rfl, rfl, rfl⟩
  | _ => exact ⟨rfl, rfl, rfl⟩

structure LedgerEntry (admission : Admission) (db changed : OperatorDb) (row : CommandRow)
    (receipt : CommandReceiptRow) (event : EventRow) : Prop where
  commands : changed.commands = db.commands ++ [row]
  receipts : changed.receipts = db.receipts ++ [receipt]
  events : changed.events = db.events ++ [event]
  rowOf : row.commandId = admission.command.commandId
  digested : admission.command.payloadDigest = .ok row.commandDigest
  grantOf : row.grantId = admission.grantId
  missionOf : row.missionId = admission.command.missionId
  actionOf : row.action = admission.command.action
  receiptOf : receipt.commandId = admission.command.commandId
  eventOf : event.commandId = some admission.command.commandId
  eventType : event.eventType = py "OPERATOR_COMMAND_APPLIED"
  fresh : ∀ other ∈ db.commands, other.commandId ≠ admission.command.commandId
  unreceived : ∀ other ∈ db.receipts, other.commandId ≠ admission.command.commandId

theorem exists_ledgerEntry {admission : Admission} {db changed : OperatorDb}
    (committed : CommitEffect admission db changed) :
    ∃ row receipt event, LedgerEntry admission db changed row receipt event := by
  obtain ⟨started, applied, state, commandDigest, payloadJson, stamp, resultJson, completion, event,
    receipt, ensured, -, digested, fresh, effect, eventOf, eventType, receiptOf, unreceived⟩ :=
    committed
  obtain ⟨sameCommands, sameReceipts, sameEvents⟩ := ledger_of_effect effect
  have unchanged : started.receipts = db.receipts ∧ started.events = db.events := by
    cases ensured <;> exact ⟨rfl, rfl⟩
  have receiptsEq : applied.receipts = db.receipts := sameReceipts.trans unchanged.1
  have eventsEq : applied.events = db.events := sameEvents.trans unchanged.2
  let row := admission.row commandDigest payloadJson state.controlEpoch stamp
  have completed : updateWhere (fun row => row.commandId = admission.command.commandId)
      (fun row => row.completed completion resultJson) applied.commands =
        db.commands ++ [row.completed completion resultJson] := by
    have kept : updateWhere (fun row => row.commandId = admission.command.commandId)
        (fun row => row.completed completion resultJson) db.commands = db.commands :=
      updateWhere_eq_self fun other member selected =>
        absurd (of_decide_eq_true selected) (fresh other member)
    rw [sameCommands]
    simp only [updateWhere, List.map_append] at kept ⊢
    rw [kept]
    simp [Admission.row, row]
  refine ⟨row.completed completion resultJson, receipt, event, ?_⟩
  constructor
  · exact completed
  · exact congrArg (· ++ [receipt]) receiptsEq
  · exact congrArg (· ++ [event]) eventsEq
  · rfl
  · exact digested
  · rfl
  · rfl
  · rfl
  · exact receiptOf
  · exact eventOf
  · exact eventType
  · exact fresh
  · rw [← receiptsEq]
    exact unreceived

theorem stable_hasDigest (commandId commandDigest : PyStr) :
    Prog.Stable CommandStep (HasDigest commandId commandDigest) := by
  rintro before after (rfl | ⟨admission, committed⟩) ⟨row, found, digestEq⟩
  · exact ⟨row, found, digestEq⟩
  · obtain ⟨added, receipt, event, entry⟩ := exists_ledgerEntry committed
    refine ⟨row, ?_, digestEq⟩
    rw [findCommand] at found ⊢
    rw [entry.commands, List.find?_append, found]
    rfl

theorem stable_known (command : OperatorCommand) : Prog.Stable CommandStep (Known command) := by
  rintro before after step ⟨row, found, digested⟩
  obtain ⟨later, isLater, same⟩ :=
    stable_hasDigest command.commandId row.commandDigest before after step ⟨row, found, rfl⟩
  exact ⟨later, isLater, by rw [same]; exact digested⟩

theorem known_of_commitEffect {admission : Admission} {db changed : OperatorDb}
    (committed : CommitEffect admission db changed) : Known admission.command changed := by
  obtain ⟨row, receipt, event, entry⟩ := exists_ledgerEntry committed
  refine ⟨row, ?_, entry.digested⟩
  rw [findCommand, entry.commands, List.find?_append, List.find?_eq_none.mpr fun other member => by
    simpa using entry.fresh other member]
  simp [entry.rowOf]

/-! ### What a call relies on -/

def Succeeded (result : Except PyError CommandResult) : Prop :=
  ∃ value, result = .ok value

theorem not_succeeded_error (error : PyError) : ¬ Succeeded (.error error) :=
  fun ⟨_, impossible⟩ => nomatch impossible

theorem ensures_program {call : CommandCall} {command : OperatorCommand}
    (isCommand : OperatorCommand.fromDict call.value = .ok command) :
    call.program.Ensures (Known command) Succeeded := by
  rw [CommandCall.program, applyCommand]
  refine ensures_lift not_succeeded_error fun other isOther => ?_
  obtain rfl : other = command := Except.ok.inj (isOther.symm.trans isCommand)
  refine ensures_lift not_succeeded_error fun _ _ => ensures_read fun _ => .inr ?_
  refine ensures_lift not_succeeded_error fun _ _ => ensures_read fun _ => .inr ?_
  refine ensures_lift not_succeeded_error fun grant _ => ensures_read fun _ => .inr ?_
  refine ensures_lift not_succeeded_error fun participant _ => ensures_read fun found => ?_
  cases isExisting : findCommand found other.commandId with
  | none =>
    refine .inr (ensures_read fun _ => .inr ?_)
    refine ensures_lift not_succeeded_error fun _ _ => ensures_read fun _ => .inr ?_
    refine ensures_lift not_succeeded_error fun _ _ => PyProg.ensures_transact fun before => ?_
    unfold Admission.transaction
    split
    · rename_i committed
      exact .inl (known_of_commitEffect (effect_of_commit committed))
    · exact .inr (not_succeeded_error _)
  | some row =>
    by_cases sameDigest : other.payloadDigest = .ok row.commandDigest
    · exact .inl ⟨row, isExisting, sameDigest⟩
    · refine .inr (ensures_lift not_succeeded_error fun existing isSome => ?_)
      obtain rfl := Except.ok.inj isSome
      refine ensures_lift not_succeeded_error fun commandDigest isDigest => ?_
      refine ensures_lift not_succeeded_error fun _ passes => absurd ?_ sameDigest
      rw [raiseIf_eq_ok, not_not] at passes
      rw [isDigest, passes]

theorem under_commandResult (commandId commandDigest : PyStr) :
    Prog.Under (HasDigest commandId commandDigest) id
      (fun result => ∃ view : CommandView, result = .ok view ∧ True)
      (ExceptT.run (commandResult commandId)) := by
  refine under_read fun found ⟨row, isRow, _⟩ => ?_
  rw [requireCommand, isRow]
  exact under_read fun later _ => ⟨_, rfl, trivial⟩

/-- A call with the identity of a command in the database changes nothing, and it
returns only for the same digest. -/
theorem under_program {call : CommandCall} {command : OperatorCommand}
    (isCommand : OperatorCommand.fromDict call.value = .ok command) (commandDigest : PyStr) :
    call.program.Under (HasDigest command.commandId commandDigest) id fun result =>
      ∀ value, result = .ok value → value.idempotent = true ∧
        command.payloadDigest = .ok commandDigest := by
  rw [CommandCall.program, applyCommand]
  refine under_lift (by simp) fun other isOther => ?_
  obtain rfl : other = command := Except.ok.inj (isOther.symm.trans isCommand)
  refine under_lift (by simp) fun _ _ => under_read fun _ _ => ?_
  refine under_lift (by simp) fun _ _ => under_read fun _ _ => ?_
  refine under_lift (by simp) fun grant _ => under_read fun _ _ => ?_
  refine under_lift (by simp) fun participant _ => under_read ?_
  rintro found ⟨row, isRow, rfl⟩
  rw [isRow]
  refine under_lift (by simp) fun existing isSome => ?_
  obtain rfl := Except.ok.inj isSome
  refine under_lift (by simp) fun digest isDigest => ?_
  refine under_lift (by simp) fun _ passes => ?_
  rw [raiseIf_eq_ok, not_not] at passes
  refine under_bind (under_commandResult _ _) fun view _ => ?_
  rintro value ⟨⟩
  exact ⟨rfl, by rw [isDigest, passes]⟩

theorem settles_program (call : CommandCall) :
    call.program.Settles CommandStep id Succeeded := by
  refine settles_lift fun command _ => settles_lift fun _ _ => ?_
  refine settles_read fun _ => settles_read fun grant => ?_
  refine settles_read fun participant => settles_read fun existing => ?_
  cases existing with
  | some row =>
    refine settles_lift fun _ _ => settles_lift fun _ _ => ?_
    exact PyProg.settles_bind (@within_commandResult (fun before after => id after = id before)
      (fun _ => rfl) _) fun view => trivial
  | none =>
    refine settles_read fun _ => settles_read fun _ => ?_
    refine PyProg.settles_transact ?_ ?_
    · intro found error raised
      unfold Admission.transaction at raised ⊢
      split
      · rename_i committed
        rw [committed] at raised
        exact absurd raised (by simp)
      · rfl
    · intro found receipt returned
      unfold Admission.transaction at returned ⊢
      split
      · rename_i committed
        obtain ⟨row, isRow, -⟩ := known_of_commitEffect (effect_of_commit committed)
        refine ⟨HasDigest command.commandId row.commandDigest, stable_hasDigest _ _,
          ⟨row, isRow, rfl⟩, ?_⟩
        exact under_bind (under_commandResult _ _) fun view _ => ⟨_, rfl⟩
      · rename_i raised
        rw [raised] at returned
        exact absurd returned (by simp)

/-! ### Revisions -/

def columnOf (column : ControlRow → Int) (db : OperatorDb) (missionId : PyStr) : Int :=
  ((findControl db missionId).map column).getD 0

def revisionsOf (rows : List RevisionRow) (missionId : PyStr) : List Int :=
  (rows.filter fun row => row.missionId = missionId).map RevisionRow.revision

structure ExactRevisions (rows : List RevisionRow) (missionId : PyStr) (last : Int) : Prop where
  nonneg : 0 ≤ last
  mem_iff : ∀ revision, revision ∈ revisionsOf rows missionId ↔ 1 ≤ revision ∧ revision ≤ last
  nodup : (revisionsOf rows missionId).Nodup

theorem ExactRevisions.append {rows : List RevisionRow} {missionId : PyStr} {last : Int}
    (exact : ExactRevisions rows missionId last) {row : RevisionRow}
    (isOwn : row.missionId = missionId) (next : row.revision = last + 1) :
    ExactRevisions (rows ++ [row]) missionId row.revision := by
  have appended : revisionsOf (rows ++ [row]) missionId =
      revisionsOf rows missionId ++ [last + 1] := by
    simp [revisionsOf, isOwn, next]
  have nonneg := exact.nonneg
  constructor
  · omega
  · intro revision
    rw [appended, List.mem_append, exact.mem_iff, List.mem_singleton]
    omega
  · rw [appended, List.nodup_append]
    refine ⟨exact.nodup, by simp, fun revision member other isLast => ?_⟩
    have bound := (exact.mem_iff revision).mp member
    rw [List.mem_singleton] at isLast
    omega

theorem ExactRevisions.append_other {rows : List RevisionRow} {missionId : PyStr} {last : Int}
    (exact : ExactRevisions rows missionId last) {row : RevisionRow}
    (other : row.missionId ≠ missionId) : ExactRevisions (rows ++ [row]) missionId last := by
  have same : revisionsOf (rows ++ [row]) missionId = revisionsOf rows missionId := by
    simp [revisionsOf, other]
  exact ⟨exact.nonneg, by rw [same]; exact exact.mem_iff, by rw [same]; exact exact.nodup⟩

/-- What a command does to one of the revision tables and its counter. -/
inductive Revised (column : ControlRow → Int) (table : OperatorDb → List RevisionRow)
    (db changed : OperatorDb) : Prop
  | kept (rows : table changed = table db)
      (counter : ∀ missionId, columnOf column changed missionId = columnOf column db missionId)
  | added (row : RevisionRow) (rows : table changed = table db ++ [row])
      (next : row.revision = columnOf column db row.missionId + 1)
      (counted : columnOf column changed row.missionId = row.revision)
      (counter : ∀ missionId, missionId ≠ row.missionId →
        columnOf column changed missionId = columnOf column db missionId)

theorem Revised.exact {column : ControlRow → Int} {table : OperatorDb → List RevisionRow}
    {db changed : OperatorDb} (revised : Revised column table db changed)
    (exact : ∀ missionId, ExactRevisions (table db) missionId (columnOf column db missionId))
    (missionId : PyStr) :
    ExactRevisions (table changed) missionId (columnOf column changed missionId) := by
  cases revised with
  | kept rows counter =>
    rw [rows, counter]
    exact exact missionId
  | added row rows next counted counter =>
    rw [rows]
    by_cases isOwn : missionId = row.missionId
    · subst isOwn
      rw [counted]
      exact (exact row.missionId).append rfl next
    · rw [counter missionId isOwn]
      exact (exact missionId).append_other (Ne.symm isOwn)

section Counters

variable {column : ControlRow → Int} {db changed : OperatorDb} {missionId principalId : PyStr}
  {state : ControlRow} {action : Action}

theorem columnOf_updateControl {change : ControlRow → ControlRow}
    (key : ∀ row, (change row).missionId = row.missionId)
    (kept : ∀ row, column (change row) = column row) (other : PyStr) :
    columnOf column (updateControl db missionId change) other = columnOf column db other := by
  rw [columnOf, findControl_updateControl key, Option.map_map, columnOf]
  congr 2
  funext row
  rw [Function.comp_apply]
  split
  · exact kept row
  · rfl

theorem columnOf_updateControl_of_ne {change : ControlRow → ControlRow}
    (key : ∀ row, (change row).missionId = row.missionId) {other : PyStr}
    (different : other ≠ missionId) :
    columnOf column (updateControl db missionId change) other = columnOf column db other := by
  rw [columnOf, findControl_updateControl key, columnOf]
  cases found : findControl db other with
  | none => rfl
  | some row =>
    rw [Option.map_some, if_neg]
    rw [missionId_of_findControl found]
    exact different

theorem columnOf_updateControl_self {change : ControlRow → ControlRow}
    (key : ∀ row, (change row).missionId = row.missionId)
    (found : findControl db missionId = some state) :
    columnOf column (updateControl db missionId change) missionId = column (change state) := by
  rw [columnOf, findControl_updateControl key, found, Option.map_some,
    if_pos (missionId_of_findControl found)]
  rfl

theorem columnOf_of_ensured (zero : ∀ inputs, column (initialControl missionId inputs) = 0)
    (ensured : Ensured db missionId changed state) (other : PyStr) :
    columnOf column changed other = columnOf column db other := by
  cases ensured with
  | found => rfl
  | inserted inputs missing =>
    simp only [columnOf, findControl, List.find?_append]
    by_cases isOwn : other = missionId
    · subst isOwn
      rw [findControl] at missing
      rw [missing]
      simp [initialControl] at zero ⊢
      exact zero inputs
    · have different : missionId ≠ other := Ne.symm isOwn
      simp [initialControl, different]

end Counters

theorem context_of_effect {db changed : OperatorDb} {missionId principalId : PyStr}
    {state : ControlRow} {action : Action} (found : findControl db missionId = some state)
    (effect : ActionEffect missionId principalId state db action changed) :
    Revised ControlRow.contextRevision OperatorDb.contextRevisions db changed := by
  have atState : columnOf ControlRow.contextRevision db missionId = state.contextRevision := by
    rw [columnOf, found]
    rfl
  cases effect with
  | message _ _ messageId row recipients =>
    obtain ⟨deliveries, routes, same⟩ := exists_foldl_addRecipient messageId recipients { db with
      messages := insertOrIgnore (fun other => other.messageId = messageId) row db.messages }
    rw [same]
    exact .kept rfl fun _ => rfl
  | status | proposal | approval | cancel | requestCancel | awaits | replace =>
    exact .kept rfl fun _ => rfl
  | context row isOwn next commandId now =>
    subst isOwn
    refine .added row rfl (by rw [next, atState]) ?_ fun other different => ?_
    · exact columnOf_updateControl_self (fun _ => rfl) found
    · refine columnOf_updateControl_of_ne ?_ different
      exact fun _ => rfl
  | plan | revoke | fence | release | resume =>
    exact .kept rfl (columnOf_updateControl (fun _ => rfl) fun _ => rfl)

theorem plan_of_effect {db changed : OperatorDb} {missionId principalId : PyStr}
    {state : ControlRow} {action : Action} (found : findControl db missionId = some state)
    (effect : ActionEffect missionId principalId state db action changed) :
    Revised ControlRow.planRevision OperatorDb.planRevisions db changed := by
  have atState : columnOf ControlRow.planRevision db missionId = state.planRevision := by
    rw [columnOf, found]
    rfl
  cases effect with
  | message _ _ messageId row recipients =>
    obtain ⟨deliveries, routes, same⟩ := exists_foldl_addRecipient messageId recipients { db with
      messages := insertOrIgnore (fun other => other.messageId = messageId) row db.messages }
    rw [same]
    exact .kept rfl fun _ => rfl
  | status | proposal | approval | cancel | requestCancel | awaits | replace =>
    exact .kept rfl fun _ => rfl
  | plan row isOwn next commandId now =>
    subst isOwn
    refine .added row rfl (by rw [next, atState]) ?_ fun other different => ?_
    · exact columnOf_updateControl_self (fun _ => rfl) found
    · refine columnOf_updateControl_of_ne ?_ different
      exact fun _ => rfl
  | context | revoke | fence | release | resume =>
    exact .kept rfl (columnOf_updateControl (fun _ => rfl) fun _ => rfl)

theorem Revised.of_start {column : ControlRow → Int} {table : OperatorDb → List RevisionRow}
    {db started changed : OperatorDb} (rows : table started = table db)
    (counter : ∀ missionId, columnOf column started missionId = columnOf column db missionId)
    (revised : Revised column table started changed) : Revised column table db changed := by
  cases revised with
  | kept sameRows sameCounter =>
    exact .kept (sameRows.trans rows) fun other => (sameCounter other).trans (counter other)
  | added row appended next counted others =>
    rw [rows] at appended
    rw [counter] at next
    exact .added row appended next counted fun other different =>
      (others other different).trans (counter other)

theorem revised_of_commitEffect {admission : Admission} {db changed : OperatorDb}
    (committed : CommitEffect admission db changed) :
    Revised ControlRow.contextRevision OperatorDb.contextRevisions db changed ∧
      Revised ControlRow.planRevision OperatorDb.planRevisions db changed := by
  obtain ⟨started, applied, state, commandDigest, payloadJson, stamp, resultJson, completion, event,
    receipt, ensured, -, -, -, effect, -⟩ := committed
  have tables : started.contextRevisions = db.contextRevisions ∧
      started.planRevisions = db.planRevisions := by
    cases ensured <;> exact ⟨rfl, rfl⟩
  have counters : ∀ column : ControlRow → Int,
      (∀ inputs, column (initialControl admission.command.missionId inputs) = 0) →
      ∀ other, columnOf column started other = columnOf column db other :=
    fun column zero => columnOf_of_ensured zero ensured
  constructor
  · refine .of_start tables.1 (counters _ fun _ => rfl) ?_
    cases context_of_effect (by exact ensured.findControl_eq) effect with
    | kept rows counter => exact .kept rows counter
    | added row rows next counted others => exact .added row rows next counted others
  · refine .of_start tables.2 (counters _ fun _ => rfl) ?_
    cases plan_of_effect (by exact ensured.findControl_eq) effect with
    | kept rows counter => exact .kept rows counter
    | added row rows next counted others => exact .added row rows next counted others

/-! ### The invariant -/

def EventRow.isApplied (row : EventRow) (commandId : PyStr) : Bool :=
  row.eventType = py "OPERATOR_COMMAND_APPLIED" && row.commandId = some commandId

structure Recorded (db : OperatorDb) (commandId : PyStr) : Prop where
  row : (db.commands.countP fun row => row.commandId = commandId) = 1
  receipt : (db.receipts.countP fun row => row.commandId = commandId) = 1
  event : (db.events.countP fun row => row.isApplied commandId) = 1

/-- What the calls keep: every command is recorded once, receipts and events belong to
commands, and the revision tables are those of the counters. -/
structure Orderly (db : OperatorDb) : Prop where
  recorded : ∀ row ∈ db.commands, Recorded db row.commandId
  received : ∀ receipt ∈ db.receipts, ∃ row ∈ db.commands, row.commandId = receipt.commandId
  evented : ∀ event ∈ db.events, ∀ commandId, event.isApplied commandId = true →
    ∃ row ∈ db.commands, row.commandId = commandId
  context : ∀ missionId, ExactRevisions db.contextRevisions missionId
    (columnOf ControlRow.contextRevision db missionId)
  plan : ∀ missionId, ExactRevisions db.planRevisions missionId
    (columnOf ControlRow.planRevision db missionId)

theorem Orderly.commit {admission : Admission} {db changed : OperatorDb} (orderly : Orderly db)
    (committed : CommitEffect admission db changed) : Orderly changed := by
  obtain ⟨row, receipt, event, entry⟩ := exists_ledgerEntry committed
  obtain ⟨contextRevised, planRevised⟩ := revised_of_commitEffect committed
  have isApplied : ∀ commandId, event.isApplied commandId = true ↔
      admission.command.commandId = commandId := by
    intro commandId
    simp [EventRow.isApplied, entry.eventType, entry.eventOf]
  have unevented : ∀ other ∈ db.events, other.isApplied admission.command.commandId = false := by
    intro other member
    by_contra applied
    obtain ⟨known, isKnown, same⟩ := orderly.evented other member _ (by simpa using applied)
    exact entry.fresh known isKnown same
  constructor
  · intro other member
    rw [entry.commands, List.mem_append, List.mem_singleton] at member
    rcases member with old | rfl
    · have recorded := orderly.recorded other old
      have different := entry.fresh other old
      constructor
      · rw [entry.commands, List.countP_append, recorded.row]
        simp [entry.rowOf, Ne.symm different]
      · rw [entry.receipts, List.countP_append, recorded.receipt]
        simp [entry.receiptOf, Ne.symm different]
      · rw [entry.events, List.countP_append, recorded.event]
        simp [isApplied, Ne.symm different]
    · rw [entry.rowOf]
      constructor
      · rw [entry.commands, List.countP_append, List.countP_eq_zero.mpr (by simpa using entry.fresh)]
        simp [entry.rowOf]
      · rw [entry.receipts, List.countP_append,
          List.countP_eq_zero.mpr (by simpa using entry.unreceived)]
        simp [entry.receiptOf]
      · rw [entry.events, List.countP_append, List.countP_eq_zero.mpr (by simpa using unevented)]
        simp [isApplied]
  · intro other member
    rw [entry.receipts, List.mem_append, List.mem_singleton] at member
    rw [entry.commands]
    rcases member with old | rfl
    · obtain ⟨known, isKnown, same⟩ := orderly.received other old
      exact ⟨known, List.mem_append_left _ isKnown, same⟩
    · exact ⟨row, by simp, entry.rowOf.trans entry.receiptOf.symm⟩
  · intro other member commandId applied
    rw [entry.events, List.mem_append, List.mem_singleton] at member
    rw [entry.commands]
    rcases member with old | rfl
    · obtain ⟨known, isKnown, same⟩ := orderly.evented other old commandId applied
      exact ⟨known, List.mem_append_left _ isKnown, same⟩
    · exact ⟨row, by simp, entry.rowOf.trans ((isApplied commandId).mp applied)⟩
  · exact contextRevised.exact orderly.context
  · exact planRevised.exact orderly.plan

theorem stable_orderly : Prog.Stable CommandStep Orderly := by
  rintro before after (rfl | ⟨admission, committed⟩) orderly
  · exact orderly
  · exact orderly.commit committed

/-! ### Calls in any interleaving -/

/-- Two commands with one canonical text, or an explicit collision of the digest. -/
def SamePayload (first second : OperatorCommand) : Prop :=
  ∃ firstText secondText, canonical first.asDict = .ok firstText ∧
    canonical second.asDict = .ok secondText ∧
    (firstText = secondText ∨ ∃ firstBytes secondBytes, encodeUtf8 firstText = .ok firstBytes ∧
      encodeUtf8 secondText = .ok secondBytes ∧ firstBytes ≠ secondBytes ∧
      sha256 firstBytes = sha256 secondBytes)

theorem samePayload_of_payloadDigest {first second : OperatorCommand} {commandDigest : PyStr}
    (firstDigested : first.payloadDigest = .ok commandDigest)
    (secondDigested : second.payloadDigest = .ok commandDigest) : SamePayload first second := by
  simp only [OperatorCommand.payloadDigest, digest, bind_eq_ok, pure_eq_ok]
    at firstDigested secondDigested
  obtain ⟨firstText, isFirst, firstBytes, firstEncoded, rfl⟩ := firstDigested
  obtain ⟨secondText, isSecond, secondBytes, secondEncoded, same⟩ := secondDigested
  refine ⟨firstText, secondText, isFirst, isSecond, ?_⟩
  by_cases sameBytes : firstBytes = secondBytes
  · left
    rw [← encodeUtf8_eq_ok.mp firstEncoded, ← encodeUtf8_eq_ok.mp secondEncoded, sameBytes]
  · exact .inr ⟨firstBytes, secondBytes, firstEncoded, secondEncoded, sameBytes, same.symm⟩

section Interleaving

variable (db : OperatorDb) (calls : List CommandCall) (schedule : List Nat)

def databaseAfter (db : OperatorDb) (calls : List CommandCall) (schedule : List Nat) :
    OperatorDb :=
  ((commandPool db calls).run schedule).shared

def CallReturned (db : OperatorDb) (calls : List CommandCall) (schedule : List Nat) (index : Nat)
    (result : Except PyError CommandResult) : Prop :=
  ((commandPool db calls).run schedule).Returned index result

variable {db calls schedule}

variable {index : Nat} {call : CommandCall}

theorem known_of_callReturned (isCall : calls[index]? = some call) {result : CommandResult}
    (returned : CallReturned db calls schedule index (.ok result)) :
    ∃ command, OperatorCommand.fromDict call.value = .ok command ∧
      Known command (databaseAfter db calls schedule) := by
  cases isCommand : OperatorCommand.fromDict call.value with
  | ok command =>
    refine ⟨command, rfl, ?_⟩
    have ensures : ∀ thread, (commandPool db calls).threads[index]? = some thread →
        thread.Ensures (Known command) Succeeded := by
      intro thread found
      rw [program_of_getElem? isCall found]
      exact ensures_program isCommand
    exact Pool.fact_of_returned commandStep_refl (within_commandPool db calls)
      (stable_known command) ensures returned ⟨result, rfl⟩
  | error error =>
    -- a value that is no command raises before the first step
    have never := @Pool.fact_of_returned _ _ CommandStep (commandPool db calls) (fun _ => False)
      commandStep_refl (within_commandPool db calls) (fun _ _ _ impossible => impossible)
      Succeeded index
    refine (never (fun thread found => ?_) returned ⟨result, rfl⟩).elim
    rw [program_of_getElem? isCall found, CommandCall.program, applyCommand, isCommand]
    exact not_succeeded_error error

theorem unchanged_of_callRaised (isCall : calls[index]? = some call) {error : PyError}
    (raised : CallReturned db calls schedule index (.error error)) {before after : List Nat}
    (split : schedule = before ++ index :: after) :
    databaseAfter db calls (before ++ [index]) = databaseAfter db calls before := by
  subst split
  have settles : ∀ thread, (commandPool db calls).threads[index]? = some thread →
      thread.Settles CommandStep id Succeeded := by
    intro thread found
    rw [program_of_getElem? isCall found]
    exact settles_program call
  exact Pool.part_step_eq_of_settles commandStep_refl (within_commandPool db calls) settles raised
    (not_succeeded_error error)

theorem program_of_notStarted (isCall : calls[index]? = some call) {before : List Nat}
    (notStarted : index ∉ before) {thread : Prog OperatorDb (Except PyError CommandResult)}
    (found : ((commandPool db calls).run before).threads[index]? = some thread) :
    thread = call.program := by
  rw [Pool.getElem?_run_of_notMem notStarted] at found
  exact program_of_getElem? isCall found

/-- A call that starts when its identity has a row changes nothing, and returns only
for the digest of that row. -/
theorem repeated_of_hasDigest (isCall : calls[index]? = some call) {command : OperatorCommand}
    (isCommand : OperatorCommand.fromDict call.value = .ok command) {before after : List Nat}
    (notStarted : index ∉ before) {commandDigest : PyStr}
    (known : HasDigest command.commandId commandDigest (databaseAfter db calls before)) :
    (∀ first second, after = first ++ index :: second →
      databaseAfter db calls (before ++ first ++ [index]) =
        databaseAfter db calls (before ++ first)) ∧
    ∀ result, CallReturned db calls (before ++ after) index (.ok result) →
      result.idempotent = true ∧ command.payloadDigest = .ok commandDigest := by
  have within := Pool.within_run (within_commandPool db calls) before
  have under : ∀ thread, ((commandPool db calls).run before).threads[index]? = some thread →
      thread.Under (HasDigest command.commandId commandDigest) id fun result =>
        ∀ value, result = .ok value → value.idempotent = true ∧
          command.payloadDigest = .ok commandDigest := by
    intro thread found
    rw [program_of_notStarted isCall notStarted found]
    exact under_program isCommand commandDigest
  constructor
  · intro first second _
    have later := Pool.part_step_eq_of_under commandStep_refl within
      (stable_hasDigest command.commandId commandDigest) known under first
    rw [databaseAfter, databaseAfter, Pool.run_append, Pool.run_append]
    exact later
  · intro result returned
    rw [CallReturned, Pool.run_append] at returned
    exact Pool.under_run commandStep_refl within
      (stable_hasDigest command.commandId commandDigest) known under after returned result rfl

end Interleaving

/-- Calls of `apply_command` from several connections, in any interleaving: every
command in the database is recorded exactly once and the revision tables are those
of the counters; a call that returns has its command there; a call that raises
leaves the database as each of its steps found it; a call that starts when its
identity is taken changes nothing, and returns only as the repetition of the
recorded payload. -/
theorem commands_exactly_once {db : OperatorDb} (orderly : Orderly db)
    (calls : List CommandCall) (schedule : List Nat) :
    Orderly (databaseAfter db calls schedule) ∧
    ∀ index call, calls[index]? = some call →
      (∀ result, CallReturned db calls schedule index (.ok result) →
        ∃ command, OperatorCommand.fromDict call.value = .ok command ∧
          Recorded (databaseAfter db calls schedule) command.commandId) ∧
      (∀ error before after, CallReturned db calls schedule index (.error error) →
        schedule = before ++ index :: after →
          databaseAfter db calls (before ++ [index]) = databaseAfter db calls before) ∧
      (∀ command row before after, OperatorCommand.fromDict call.value = .ok command →
        schedule = before ++ after → index ∉ before →
        findCommand (databaseAfter db calls before) command.commandId = some row →
        (∀ first second, after = first ++ index :: second →
          databaseAfter db calls (before ++ first ++ [index]) =
            databaseAfter db calls (before ++ first)) ∧
        ∀ result, CallReturned db calls schedule index (.ok result) →
          result.idempotent = true ∧ command.payloadDigest = .ok row.commandDigest) ∧
      ∀ other otherCall command otherCommand result otherResult,
        calls[other]? = some otherCall →
        OperatorCommand.fromDict call.value = .ok command →
        OperatorCommand.fromDict otherCall.value = .ok otherCommand →
        command.commandId = otherCommand.commandId →
        CallReturned db calls schedule index (.ok result) →
        CallReturned db calls schedule other (.ok otherResult) →
          SamePayload command otherCommand := by
  have later : Orderly (databaseAfter db calls schedule) :=
    Pool.fact_run commandStep_refl (within_commandPool db calls) stable_orderly orderly schedule
  refine ⟨later, fun index call isCall => ⟨?_, ?_, ?_, ?_⟩⟩
  · intro result returned
    obtain ⟨command, isCommand, row, found, -⟩ := known_of_callReturned isCall returned
    refine ⟨command, isCommand, ?_⟩
    have recorded := later.recorded row (List.mem_of_find?_eq_some found)
    have isKey := List.find?_some found
    rwa [of_decide_eq_true isKey] at recorded
  · intro error before after raised split
    exact unchanged_of_callRaised isCall raised split
  · rintro command row before after isCommand rfl notStarted found
    exact repeated_of_hasDigest isCall isCommand notStarted ⟨row, found, rfl⟩
  · intro other otherCall command otherCommand result otherResult isOther isCommand isOtherCommand
      sameId returned otherReturned
    obtain ⟨known, isKnown, row, found, digested⟩ := known_of_callReturned isCall returned
    obtain ⟨otherKnown, isOtherKnown, otherRow, otherFound, otherDigested⟩ :=
      known_of_callReturned isOther otherReturned
    obtain rfl := Except.ok.inj (isCommand.symm.trans isKnown)
    obtain rfl := Except.ok.inj (isOtherCommand.symm.trans isOtherKnown)
    rw [← sameId, found] at otherFound
    obtain rfl := Option.some.inj otherFound
    exact samePayload_of_payloadDigest digested otherDigested

theorem orderly_of_new {db : OperatorDb} (controls : db.controls = [])
    (commands : db.commands = []) (receipts : db.receipts = []) (events : db.events = [])
    (contextRevisions : db.contextRevisions = []) (planRevisions : db.planRevisions = []) :
    Orderly db := by
  have zero : ∀ column missionId, columnOf column db missionId = 0 := by
    intro column missionId
    rw [columnOf, findControl, controls]
    rfl
  have none : ∀ missionId, ExactRevisions [] missionId 0 := by
    intro missionId
    refine ⟨le_refl 0, fun revision => ?_, List.nodup_nil⟩
    simp only [revisionsOf, List.filter_nil, List.map_nil, List.not_mem_nil, false_iff]
    omega
  constructor
  · simp [commands]
  · simp [receipts]
  · simp [events]
  · intro missionId
    rw [contextRevisions, zero]
    exact none missionId
  · intro missionId
    rw [planRevisions, zero]
    exact none missionId

theorem applyCommand_rule {holds : OperatorDb → Prop} {value : Json} {principalId : PyStr}
    {inputs : CallInputs} {db : OperatorDb} (nothing : holds db)
    (committed : ∀ (admission : Admission) (inputs : CallInputs) changed receipt,
      OperatorCommand.fromDict value = .ok admission.command →
      admission.principalId = principalId →
      admission.commit db inputs = .ok (changed, receipt) → holds changed) :
    holds (PyProg.runAlone (applyCommand value principalId inputs) db).1 := by
  have looks : ∀ commandId, PyProg.Within (fun before after : OperatorDb => after = before)
      (commandResult commandId) := within_commandResult fun _ => rfl
  refine PyProg.fst_runAlone_lift nothing fun command isCommand => ?_
  refine PyProg.fst_runAlone_lift nothing fun _ _ => ?_
  refine fst_runAlone_read nothing fun _ _ => ?_
  refine fst_runAlone_read nothing fun grant _ => ?_
  refine fst_runAlone_read nothing fun participant _ => ?_
  refine fst_runAlone_read nothing fun existing _ => ?_
  cases existing with
  | some row =>
    have same : (PyProg.runAlone (repeatCommand command row) db).1 = db :=
      PyProg.fst_runAlone_of_within
        (@within_repeatCommand (fun before after => after = before) (fun _ => rfl) command row)
    rw [continueCommand, same]
    exact nothing
  | none =>
    refine fst_runAlone_read nothing fun _ _ => ?_
    refine fst_runAlone_read nothing fun _ _ => ?_
    have transacted : ∀ admission : Admission, admission.command = command →
        admission.principalId = principalId → ∀ inputs,
        holds (admission.transaction inputs db).1 := by
      rintro admission rfl isPrincipal inputs
      unfold Admission.transaction
      split
      · rename_i isCommitted
        exact committed admission inputs _ _ isCommand isPrincipal isCommitted
      · exact nothing
    refine PyProg.fst_runAlone_transact (transacted _ rfl rfl _) fun receipt _ => ?_
    rw [PyProg.fst_runAlone_of_within (.bind (looks _) fun _ => within_pure _)]
    exact transacted _ rfl rfl _

/-- A database with one running mission, its operator and a grant. -/
def missionDb : OperatorDb :=
  { OperatorDb.empty with
    missions := [⟨py "M1", py "RUNNING"⟩]
    participants := [⟨primaryParticipant, primaryOperator, py "ACTIVE"⟩]
    grants := [⟨py "G1", primaryOperator, py "*", py "[\"PAUSE_SCOPE\",\"MESSAGE\"]", [], none,
      none⟩] }

def pauseCall : CommandCall where
  value := .obj [(py "command_id", .str (py "C1")), (py "mission_id", .str (py "M1")),
    (py "action", .str (py "PAUSE_SCOPE"))]
  principalId := primaryOperator
  inputs := ⟨fun _ => [], fun _ => []⟩

/-- Two connections that send the same command. -/
theorem commands_exactly_once_twice :
    Orderly (databaseAfter missionDb [pauseCall, pauseCall] [0, 1, 0, 1, 0, 1, 0, 1, 0, 1]) :=
  (commands_exactly_once (orderly_of_new rfl rfl rfl rfl rfl rfl) _ _).1

end OperatorControl

end CyberLion
