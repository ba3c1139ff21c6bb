import CyberLion.OperatorExactlyOnce
import CyberLion.ProgramGaps

/-!
# The authorization of a committed command

A call of `apply_command` on one connection, between the statements of another
that revokes grants and updates missions.  The call reads its grant and the
state of its mission before it takes the write lock and does not read them
again, so a statement in between is not seen.
-/

namespace CyberLion

namespace OperatorControl

open PyLib

/-! ### The other connection -/

/-- A statement of the other connection: `revoke_active_grants`, or an update of the
state of a mission. -/
inductive OtherStatement
  | revokeGrants (principalId : PyStr) (missionScope : Option PyStr) (now : PyStr)
  | missionState (missionId state : PyStr)

namespace OtherStatement

def execute (db : OperatorDb) : OtherStatement → OperatorDb
  | revokeGrants principalId missionScope now =>
    revokeActiveGrants db principalId missionScope now
  | missionState missionId state =>
    { db with
      missions := updateWhere (fun row => row.missionId = missionId)
        (fun row => { row with state := state }) db.missions }

def revokes (grant : GrantRow) : OtherStatement → Bool
  | revokeGrants principalId missionScope _ =>
    grant.principalId = principalId &&
      (missionScope = none || missionScope = some grant.missionScope)
  | missionState _ _ => false

def stateOf (missionId : PyStr) : OtherStatement → Option PyStr
  | revokeGrants _ _ _ => none
  | missionState updated state => if updated = missionId then some state else none

def onGrant (grant : GrantRow) : OtherStatement → GrantRow
  | revokeGrants principalId missionScope now =>
    if grant.principalId = principalId && grant.revokedAt = none &&
        (missionScope = none || missionScope = some grant.missionScope) then
      { grant with revokedAt := some now }
    else grant
  | missionState _ _ => grant

theorem grants_execute (db : OperatorDb) (statement : OtherStatement) :
    (statement.execute db).grants = db.grants.map fun grant => statement.onGrant grant := by
  cases statement with
  | revokeGrants principalId missionScope now => rfl
  | missionState missionId state => exact (List.map_id db.grants).symm

theorem onGrant_spec (grant : GrantRow) (statement : OtherStatement) :
    (statement.onGrant grant).grantId = grant.grantId ∧
    (∀ missionId action,
      (statement.onGrant grant).covers missionId action = grant.covers missionId action) ∧
    (∀ other : OtherStatement, other.revokes (statement.onGrant grant) = other.revokes grant) ∧
    ((statement.onGrant grant).revokedAt = none ↔
      grant.revokedAt = none ∧ statement.revokes grant = false) := by
  cases statement with
  | missionState missionId state =>
    exact ⟨rfl, fun _ _ => rfl, fun _ => rfl, by simp [onGrant, revokes]⟩
  | revokeGrants principalId missionScope now =>
    unfold onGrant
    dsimp only
    split
    · rename_i selected
      simp only [Bool.and_eq_true] at selected
      refine ⟨rfl, fun _ _ => rfl, ?_, ?_⟩
      · intro other
        cases other <;> rfl
      · simp [revokes, selected.1.1, selected.2]
    · rename_i notSelected
      refine ⟨rfl, fun _ _ => rfl, fun _ => rfl, ?_⟩
      constructor
      · intro active
        refine ⟨active, ?_⟩
        simpa [revokes, active] using notSelected
      · exact And.left

theorem find?_missions_execute (db : OperatorDb) (statement : OtherStatement)
    (missionId : PyStr) :
    (statement.execute db).missions.find? (fun row => row.missionId = missionId) =
      (db.missions.find? fun row => row.missionId = missionId).map fun row =>
        { row with state := (statement.stateOf missionId).getD row.state } := by
  cases statement with
  | revokeGrants principalId missionScope now => exact (congrFun Option.map_id_fun' _).symm
  | missionState updated state =>
    have lookup := @find?_updateWhere _ (fun row : MissionRow => row.missionId = updated)
      (fun row => row.missionId = missionId) (fun row => { row with state := state })
      (fun _ => rfl) db.missions
    refine lookup.trans (Option.map_congr fun row found => ?_)
    have isKey : row.missionId = missionId := by simpa using List.find?_some found
    by_cases sameMission : updated = missionId
    · simp [stateOf, sameMission, isKey]
    · have apart : row.missionId ≠ updated := fun same => sameMission (same.symm.trans isKey)
      simp [stateOf, sameMission, apart]

end OtherStatement

def executeAll (statements : List OtherStatement) (db : OperatorDb) : OperatorDb :=
  statements.foldl OtherStatement.execute db

def lastStateOf (missionId : PyStr) (statements : List OtherStatement) : Option PyStr :=
  (statements.filterMap (OtherStatement.stateOf missionId)).getLast?

section Statements

variable (statements : List OtherStatement)

theorem executeAll_append (later : List OtherStatement) (db : OperatorDb) :
    executeAll (statements ++ later) db = executeAll later (executeAll statements db) :=
  List.foldl_append ..

def onGrants (grant : GrantRow) : GrantRow :=
  statements.foldl OtherStatement.onGrant grant

theorem grants_executeAll (db : OperatorDb) :
    (executeAll statements db).grants = db.grants.map (onGrants statements) := by
  induction statements generalizing db with
  | nil => exact (List.map_id db.grants).symm
  | cons statement statements ih =>
    rw [executeAll, List.foldl_cons]
    change (executeAll statements (statement.execute db)).grants = _
    rw [ih, OtherStatement.grants_execute, List.map_map]
    rfl

theorem onGrants_spec (grant : GrantRow) :
    (onGrants statements grant).grantId = grant.grantId ∧
    (∀ missionId action,
      (onGrants statements grant).covers missionId action = grant.covers missionId action) ∧
    ((onGrants statements grant).revokedAt = none ↔
      grant.revokedAt = none ∧ ∀ statement ∈ statements, statement.revokes grant = false) := by
  induction statements generalizing grant with
  | nil => simp [onGrants]
  | cons statement statements ih =>
    obtain ⟨sameId, sameCover, sameRevokes, revoked⟩ :=
      OtherStatement.onGrant_spec grant statement
    obtain ⟨laterId, laterCover, laterRevoked⟩ := ih (statement.onGrant grant)
    refine ⟨laterId.trans sameId, fun missionId action =>
      (laterCover missionId action).trans (sameCover missionId action), ?_⟩
    change (onGrants statements (statement.onGrant grant)).revokedAt = none ↔ _
    rw [laterRevoked, revoked, and_assoc]
    simp only [sameRevokes, List.forall_mem_cons]

theorem find?_missions_executeAll (db : OperatorDb) (missionId : PyStr) :
    (executeAll statements db).missions.find? (fun row => row.missionId = missionId) =
      (db.missions.find? fun row => row.missionId = missionId).map fun row =>
        { row with state := (lastStateOf missionId statements).getD row.state } := by
  induction statements generalizing db with
  | nil => simp [executeAll, lastStateOf]
  | cons statement statements ih =>
    rw [executeAll, List.foldl_cons]
    change (executeAll statements (statement.execute db)).missions.find? _ = _
    rw [ih, OtherStatement.find?_missions_execute, Option.map_map]
    congr 1
    funext row
    rw [Function.comp_apply, lastStateOf, lastStateOf, List.filterMap_cons]
    cases statement.stateOf missionId with
    | none => rfl
    | some state => simp only [List.getLast?_cons, Option.getD_some]

end Statements

/-! ### A call among the statements -/

/-- The statements of the other connection before each step of a call. -/
abbrev Gaps := Nat → List OtherStatement

def CommandCall.steps (call : CommandCall) (gaps : Gaps) (db : OperatorDb) :
    List (OperatorDb × OperatorDb) :=
  PyProg.stepsAmid (fun index => executeAll (gaps index)) 0
    (applyCommand call.value call.principalId call.inputs) db

def Action.isPassive (action : Action) : Bool :=
  action = .requestStatus || action = .annotate

/-- The grant of the recorded command is unrevoked and covers it, and its mission is
not in a terminal state unless the action is passive. -/
def Authorized (db : OperatorDb) (row : CommandRow) : Prop :=
  (∃ grant ∈ db.grants, grant.grantId = row.grantId ∧ grant.revokedAt = none ∧
    grant.covers row.missionId row.action = true) ∧
  (missionTerminalState db row.missionId = none ∨ row.action.isPassive = true)

instance (db : OperatorDb) (row : CommandRow) : Decidable (Authorized db row) := by
  unfold Authorized
  infer_instance

def grantInstant (gaps : Gaps) (db : OperatorDb) : OperatorDb :=
  executeAll (gaps 0 ++ gaps 1) db

/-- The statements between the grant check and `BEGIN IMMEDIATE`. -/
def afterGrantCheck (gaps : Gaps) : List OtherStatement :=
  gaps 2 ++ gaps 3 ++ gaps 4 ++ gaps 5 ++ gaps 6

/-- No statement between the grant check and `BEGIN IMMEDIATE` revokes the grant that
the check chooses, and none between the check of the mission's state and `BEGIN
IMMEDIATE` leaves the mission in a terminal state, unless the action is passive. -/
structure Undisturbed (gaps : Gaps) (db : OperatorDb) (principalId now : PyStr)
    (command : OperatorCommand) : Prop where
  grant : ∀ grant, grantFor (grantInstant gaps db) principalId command.missionId command.action
      now = .ok grant →
    ∀ statement ∈ afterGrantCheck gaps, statement.revokes grant = false
  mission : command.action.isPassive = true ∨
    ∀ state ∈ lastStateOf command.missionId (gaps 6),
      (MissionRow.mk command.missionId state).terminalState = none

/-! ### The checks of a call -/

variable {db : OperatorDb} {command : OperatorCommand}

theorem grants_of_effect {missionId principalId : PyStr} {state : ControlRow} {changed : OperatorDb}
    {action : Action} (effect : ActionEffect missionId principalId state db action changed) :
    changed.grants = db.grants ∧ changed.missions = db.missions := by
  cases effect with
  | message _ _ messageId row recipients =>
    obtain ⟨deliveries, routes, same⟩ := exists_foldl_addRecipient messageId recipients { db with
      messages := insertOrIgnore (fun other => other.messageId = messageId) row db.messages }
    rw [same]
    exact ⟨rfl, rfl⟩
  | _ => exact ⟨rfl, rfl⟩

theorem grants_of_commitEffect {admission : Admission} {changed : OperatorDb}
    (committed : CommitEffect admission db changed) :
    changed.grants = db.grants ∧ changed.missions = db.missions := by
  obtain ⟨started, applied, state, _, _, _, _, _, _, _, ensured, -, -, -, effect, -, -, -, -⟩ :=
    committed
  have kept := grants_of_effect effect
  cases ensured <;> exact kept

/-- What the checks of a call have passed when one of its steps changes the database. -/
structure Passed (call : CommandCall) (gaps : Gaps) (db : OperatorDb) (command : OperatorCommand)
    (found left : OperatorDb) (grant : GrantRow) : Prop where
  granted : grantFor (grantInstant gaps db) call.principalId command.missionId command.action
    (call.inputs.now 0) = .ok grant
  hasMission : missionExists (executeAll (gaps 2 ++ gaps 3 ++ gaps 4) (grantInstant gaps db))
    command.missionId = true
  terminal : checkTerminal (executeAll (gaps 2 ++ gaps 3 ++ gaps 4 ++ gaps 5)
    (grantInstant gaps db)) command = .ok ()
  isFound : found = executeAll (afterGrantCheck gaps) (grantInstant gaps db)
  committed : ∃ admission : Admission, admission.command = command ∧
    admission.grantId = grant.grantId ∧ CommitEffect admission found left

theorem exists_passed {call : CommandCall} {gaps : Gaps}
    (isCommand : OperatorCommand.fromDict call.value = .ok command) {found left : OperatorDb}
    (step : (found, left) ∈ call.steps gaps db) (changes : left ≠ found) :
    ∃ grant, Passed call gaps db command found left grant := by
  have looks : ∀ commandId, PyProg.Within (fun before after : OperatorDb => after = before)
      (commandResult commandId) := within_commandResult fun _ => rfl
  rw [CommandCall.steps, applyCommand] at step
  obtain ⟨other, isOther, step⟩ := PyProg.mem_stepsAmid_lift step
  obtain rfl : other = command := Except.ok.inj (isOther.symm.trans isCommand)
  obtain ⟨-, -, step⟩ := PyProg.mem_stepsAmid_lift step
  rw [admitCommand] at step
  obtain ⟨-, -, step⟩ := PyProg.mem_stepsAmid_read changes step
  obtain ⟨grant, granted, step⟩ := PyProg.mem_stepsAmid_read changes step
  obtain ⟨participant, -, step⟩ := PyProg.mem_stepsAmid_read changes step
  obtain ⟨existing, -, step⟩ := PyProg.mem_stepsAmid_read changes step
  cases existing with
  | some row =>
    refine absurd (PyProg.eq_of_mem_stepsAmid ?_ step) changes
    exact @within_repeatCommand (fun before after => after = before) (fun _ => rfl) other row
  | none =>
    rw [continueCommand, acceptCommand] at step
    obtain ⟨_, hasMission, step⟩ := PyProg.mem_stepsAmid_read changes step
    obtain ⟨_, terminal, step⟩ := PyProg.mem_stepsAmid_read changes step
    rw [raiseIf_eq_ok, Bool.not_eq_false] at hasMission
    simp only [← executeAll_append, Nat.reduceAdd] at granted hasMission terminal step
    rcases PyProg.mem_stepsAmid_transact step with ⟨isFound, isLeft⟩ | ⟨receipt, -, later⟩
    · refine ⟨grant, granted, ?_, ?_, ?_, ?_⟩
      · rw [grantInstant, ← executeAll_append]
        simpa only [List.append_assoc] using hasMission
      · rw [grantInstant, ← executeAll_append]
        simpa only [List.append_assoc] using terminal
      · rw [grantInstant, ← executeAll_append, isFound, ← executeAll_append]
        simp only [afterGrantCheck, List.append_assoc]
      · unfold Admission.transaction at isLeft
        split at isLeft
        · rename_i committed
          rw [isLeft]
          exact ⟨_, rfl, rfl, effect_of_commit committed⟩
        · exact absurd isLeft changes
    · refine absurd (PyProg.eq_of_mem_stepsAmid ?_ later) changes
      exact .bind (looks _) fun _ => PyProg.within_pure _

theorem grantFor_eq_ok {principalId missionId now : PyStr} {action : Action} {grant : GrantRow}
    (granted : grantFor db principalId missionId action now = .ok grant) :
    grant ∈ db.grants ∧ grant.revokedAt = none ∧ grant.covers missionId action = true := by
  unfold grantFor at granted
  dsimp only at granted
  split at granted
  · rename_i row chosen
    obtain rfl := Except.ok.inj granted
    have covers := List.find?_some chosen
    have member := List.mem_of_find?_eq_some chosen
    rw [List.mem_insertionSort, List.mem_filter] at member
    obtain ⟨member, active⟩ := member
    simp only [GrantRow.isActive, Bool.and_eq_true, decide_eq_true_eq] at active
    exact ⟨member, active.1.2, covers⟩
  · simp at granted

theorem grantIds_executeAll (statements : List OtherStatement) (db : OperatorDb) :
    (executeAll statements db).grants.map GrantRow.grantId = db.grants.map GrantRow.grantId := by
  rw [grants_executeAll, List.map_map]
  exact List.map_congr_left fun grant _ => (onGrants_spec statements grant).1

theorem exists_grant_iff (unique : (db.grants.map GrantRow.grantId).Nodup) {grant : GrantRow}
    (member : grant ∈ db.grants) (active : grant.revokedAt = none) {missionId : PyStr}
    {action : Action} (covers : grant.covers missionId action = true)
    (statements : List OtherStatement) :
    (∃ later ∈ (executeAll statements db).grants, later.grantId = grant.grantId ∧
        later.revokedAt = none ∧ later.covers missionId action = true) ↔
      ∀ statement ∈ statements, statement.revokes grant = false := by
  obtain ⟨sameId, sameCover, revoked⟩ := onGrants_spec statements grant
  rw [grants_executeAll]
  constructor
  · rintro ⟨later, isLater, laterId, unrevoked, -⟩
    obtain ⟨old, isOld, rfl⟩ := List.mem_map.mp isLater
    have isGrant : old.grantId = grant.grantId :=
      (onGrants_spec statements old).1.symm.trans laterId
    obtain rfl := List.inj_on_of_nodup_map unique isOld member isGrant
    exact (revoked.mp unrevoked).2
  · intro unrevoked
    exact ⟨_, List.mem_map_of_mem member, sameId, revoked.mpr ⟨active, unrevoked⟩,
      (sameCover missionId action).trans covers⟩

theorem missionTerminalState_executeAll {missionId : PyStr}
    (hasMission : missionExists db missionId = true)
    (open' : missionTerminalState db missionId = none) (statements : List OtherStatement) :
    missionTerminalState (executeAll statements db) missionId = none ↔
      ∀ state ∈ lastStateOf missionId statements,
        (MissionRow.mk missionId state).terminalState = none := by
  rw [missionExists, List.any_eq_true] at hasMission
  obtain ⟨row, isRow, isKey⟩ := hasMission
  rw [missionTerminalState] at open' ⊢
  rw [find?_missions_executeAll]
  cases found : db.missions.find? fun row => row.missionId = missionId with
  | none => exact absurd isKey (List.find?_eq_none.mp found row isRow)
  | some first =>
    rw [found] at open'
    cases lastStateOf missionId statements with
    | none => simpa using open'
    | some state => simp [MissionRow.terminalState]

theorem missionExists_executeAll (statements : List OtherStatement) (db : OperatorDb)
    (missionId : PyStr) :
    missionExists (executeAll statements db) missionId = missionExists db missionId := by
  have found := find?_missions_executeAll statements db missionId
  rw [missionExists, missionExists, ← List.isSome_find?, ← List.isSome_find?, found,
    Option.isSome_map]

/-- An action that is not passive passes the check of the mission's state only while the
mission is open. -/
theorem checkTerminal_eq_ok (passed : checkTerminal db command = .ok ()) :
    missionTerminalState db command.missionId = none ∨ command.action.isPassive = true := by
  unfold checkTerminal at passed
  split at passed
  · rename_i isOpen
    exact .inl isOpen
  · rw [raiseIf_eq_ok] at passed
    rw [Action.isPassive, Bool.or_eq_true, decide_eq_true_eq, decide_eq_true_eq]
    exact .inr (by tauto)

/-- The mission of a committed command: what the other connection did to it after the
check of its state. -/
theorem Passed.mission_iff {call : CommandCall} {gaps : Gaps} {found left : OperatorDb}
    {grant : GrantRow} (passed : Passed call gaps db command found left grant) :
    (missionTerminalState found command.missionId = none ∨ command.action.isPassive = true) ↔
      command.action.isPassive = true ∨ ∀ state ∈ lastStateOf command.missionId (gaps 6),
        (MissionRow.mk command.missionId state).terminalState = none := by
  have split : found = executeAll (gaps 6)
      (executeAll (gaps 2 ++ gaps 3 ++ gaps 4 ++ gaps 5) (grantInstant gaps db)) := by
    rw [passed.isFound, afterGrantCheck, executeAll_append]
  have hasMission : missionExists (executeAll (gaps 2 ++ gaps 3 ++ gaps 4 ++ gaps 5)
      (grantInstant gaps db)) command.missionId = true := by
    rw [executeAll_append, missionExists_executeAll]
    exact passed.hasMission
  rw [or_comm]
  rcases checkTerminal_eq_ok passed.terminal with open' | passive
  · rw [split, missionTerminalState_executeAll hasMission open']
  · simp [passive]

/-- A command commits on an unrevoked grant of an open mission exactly when no statement
of the other connection ends either between its check and `BEGIN IMMEDIATE`. -/
theorem authorized_iff_undisturbed {db : OperatorDb}
    (unique : (db.grants.map GrantRow.grantId).Nodup) (call : CommandCall) (gaps : Gaps)
    {command : OperatorCommand} (isCommand : OperatorCommand.fromDict call.value = .ok command)
    {found left : OperatorDb} (step : (found, left) ∈ call.steps gaps db) {row : CommandRow}
    (isNew : findCommand found command.commandId = none)
    (isRow : findCommand left command.commandId = some row) :
    Authorized left row ↔
      Undisturbed gaps db call.principalId (call.inputs.now 0) command := by
  have changes : left ≠ found := by
    rintro rfl
    exact absurd (isNew.symm.trans isRow) (by simp)
  obtain ⟨grant, passed⟩ := exists_passed isCommand step changes
  obtain ⟨admission, rfl, isGrant, committed⟩ := passed.committed
  obtain ⟨sameGrants, sameMissions⟩ := grants_of_commitEffect committed
  obtain ⟨added, receipt, event, entry⟩ := exists_ledgerEntry committed
  obtain rfl : row = added := by
    rw [findCommand] at isNew isRow
    rw [entry.commands, List.find?_append, isNew, Option.none_or] at isRow
    exact (List.mem_singleton.mp (List.mem_of_find?_eq_some isRow))
  obtain ⟨member, active, covers⟩ := grantFor_eq_ok passed.granted
  have uniqueThen : ((grantInstant gaps db).grants.map GrantRow.grantId).Nodup := by
    rw [grantInstant, grantIds_executeAll]
    exact unique
  have grantPart := exists_grant_iff uniqueThen member active covers (afterGrantCheck gaps)
  rw [← passed.isFound, ← sameGrants, ← isGrant, ← entry.grantOf, ← entry.missionOf,
    ← entry.actionOf] at grantPart
  have missionPart := passed.mission_iff
  rw [missionTerminalState, ← sameMissions, ← missionTerminalState, ← entry.missionOf,
    ← entry.actionOf] at missionPart
  rw [Authorized, grantPart, missionPart, entry.missionOf, entry.actionOf]
  constructor
  · rintro ⟨unrevoked, open'⟩
    refine ⟨fun other isOther => ?_, open'⟩
    obtain rfl := Except.ok.inj (passed.granted.symm.trans isOther)
    exact unrevoked
  · rintro ⟨unrevoked, open'⟩
    exact ⟨unrevoked grant passed.granted, open'⟩

/-- A call that is alone with the database. -/
theorem authorized_iff_undisturbed_alone :
    ∃ command found left row, (found, left) ∈ pauseCall.steps (fun _ => []) missionDb ∧
      (Authorized left row ↔ Undisturbed (fun _ => []) missionDb primaryOperator [] command) := by
  have read : (OperatorCommand.fromDict pauseCall.value).toOption.map OperatorCommand.commandId =
      some (py "C1") := by
    decide +kernel
  have commits : ∃ step ∈ pauseCall.steps (fun _ => []) missionDb,
      findCommand step.1 (py "C1") = none ∧ (findCommand step.2 (py "C1")).isSome = true := by
    decide +kernel
  obtain ⟨⟨found, left⟩, step, isNew, isSome⟩ := commits
  obtain ⟨row, isRow⟩ := Option.isSome_iff_exists.mp isSome
  cases isCommand : OperatorCommand.fromDict pauseCall.value with
  | error error =>
    rw [isCommand] at read
    exact absurd read (by simp [Except.toOption])
  | ok command =>
    rw [isCommand] at read
    have isKey : command.commandId = py "C1" := Option.some.inj read
    rw [← isKey] at isNew isRow
    have unique : (missionDb.grants.map GrantRow.grantId).Nodup := List.nodup_singleton _
    exact ⟨command, found, left, row, step,
      authorized_iff_undisturbed unique pauseCall (fun _ => []) isCommand step isNew isRow⟩

def lateRevocation : Gaps := fun index =>
  if index = 6 then [.revokeGrants primaryOperator none (py "2026-01-01")] else []

/-- A command that commits is not always authorized. -/
theorem exists_unauthorized_commit :
    ¬ ∀ (db : OperatorDb) (call : CommandCall) (gaps : Gaps) (found left : OperatorDb)
      (row : CommandRow), (db.grants.map GrantRow.grantId).Nodup →
      (found, left) ∈ call.steps gaps db → findCommand found row.commandId = none →
      findCommand left row.commandId = some row → Authorized left row := by
  have commits : ∃ step ∈ pauseCall.steps lateRevocation missionDb,
      findCommand step.1 (py "C1") = none ∧
        ∃ row ∈ findCommand step.2 (py "C1"), row.commandId = py "C1" ∧ ¬ Authorized step.2 row := by
    decide +kernel
  intro always
  obtain ⟨⟨found, left⟩, step, isNew, row, isRow, isKey, unauthorized⟩ := commits
  rw [← isKey] at isNew isRow
  exact unauthorized (always missionDb pauseCall lateRevocation found left row
    (List.nodup_singleton _) step isNew isRow)

end OperatorControl

end CyberLion
