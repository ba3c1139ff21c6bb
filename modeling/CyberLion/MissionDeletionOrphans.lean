import CyberLion.MissionDeletionFrame
import CyberLion.OperatorExactlyOnce

/-!
# Deleting a mission of the operator control plane

`delete_mission_records` is complete exactly on the databases in which no row
without a mission names a row of the mission.  The operator control plane
writes such rows: every admitted command leaves its receipt, which only the
command's id connects with the mission.
-/

namespace CyberLion

namespace MissionLifecycle

open PyLib OperatorControl

/-! ### The claim about one call -/

/-- What the call is to do: a call that returns has removed everything of the
mission and nothing else, and a call that raises changes nothing. -/
def Honoured (before : Connection) (mission : PyStr)
    (answer : Connection × Except PyError Deletion) : Prop :=
  match answer with
  | (after, .ok _) => Complete before.committed after.committed mission ∧
      Framed before.committed after.committed mission
  | (after, .error _) => after = before

section Call

variable {store : MissionStore} {mission expectedDigest protectedId : PyStr} {now : Nat → PyStr}

theorem honoured_of_deletable
    (deletable : Deletable store mission expectedDigest protectedId now) :
    Honoured ⟨store, none⟩ mission
        (deleteMissionRecords ⟨store, none⟩ mission expectedDigest protectedId now) ↔
      NoOrphans store mission := by
  obtain ⟨outcome, done⟩ := exists_deletion_ok deletable
  have answer : deleteMissionRecords ⟨store, none⟩ mission expectedDigest protectedId now =
      (⟨afterDeletion store mission protectedId now, none⟩, .ok outcome) := by
    simp only [deleteMissionRecords, done]
  rw [answer]
  exact (and_iff_left (framed_afterDeletion store mission protectedId now)).trans
    complete_afterDeletion

theorem honoured_of_not_deletable
    (notDeletable : ¬ Deletable store mission expectedDigest protectedId now) :
    Honoured ⟨store, none⟩ mission
      (deleteMissionRecords ⟨store, none⟩ mission expectedDigest protectedId now) := by
  cases done : deletion store mission expectedDigest protectedId now with
  | ok result => exact absurd (deletion_ok done).1 notDeletable
  | error error =>
    have answer : deleteMissionRecords ⟨store, none⟩ mission expectedDigest protectedId now =
        (⟨store, none⟩, .error error) := by
      simp only [deleteMissionRecords, done]
    rw [answer]
    exact rfl

end Call

/-- A call of `delete_mission_records` is honoured exactly when it is refused,
or no row that stays names a row of the mission. -/
theorem deletion_honoured_iff (connection : Connection)
    (mission expectedDigest protectedId : PyStr) (now : Nat → PyStr) :
    Honoured connection mission
        (deleteMissionRecords connection mission expectedDigest protectedId now) ↔
      (connection.working = none →
        Deletable connection.committed mission expectedDigest protectedId now →
        NoOrphans connection.committed mission) := by
  obtain ⟨store, working⟩ := connection
  cases working with
  | some open' => exact iff_of_true rfl fun impossible => nomatch impossible
  | none =>
    by_cases deletable : Deletable store mission expectedDigest protectedId now
    · exact (honoured_of_deletable deletable).trans
        ⟨fun noOrphans _ _ => noOrphans, fun noOrphans => noOrphans rfl deletable⟩
    · exact iff_of_true (honoured_of_not_deletable deletable)
        fun _ isDeletable => absurd isDeletable deletable

/-! ### The databases of the operator control plane -/

/-- The columns of a mission that the operator control plane does not read. -/
structure MissionProfile where
  adapter : PyStr
  specDigest : PyStr
  authorityState : PyStr

def tableOf {Row : Type} (name : String) (columns : List (String × (Row → SqlValue)))
    (rows : List Row) : SqlTable where
  name := py name
  columns := columns.map fun column => py column.1
  rows := rows.map fun row => columns.map fun column => (py column.1, column.2 row)
  shaped row member := by
    obtain ⟨source, _, rfl⟩ := List.mem_map.mp member
    rw [List.map_map]
    rfl

def optionalColumn : Option PyStr → SqlValue
  | some text => .text text
  | none => .null

/-- The text of the column `state`. -/
def assignmentStateText : AssignmentState → PyStr
  | .ready => py "READY"
  | .held => py "HELD"
  | .claimed => py "CLAIMED"
  | .cancelRequested => py "CANCEL_REQUESTED"
  | .cancelled => py "CANCELLED"
  | .staleResult => py "STALE_RESULT"
  | .status text => text

/-- The identity columns of the tables of the operator control plane and of the
scheduler, beside the tables of the missions themselves. -/
def operatorTables (profile : MissionProfile) (db : OperatorDb) : SqlStore :=
  [tableOf "missions" [("mission_id", fun row => .text row.missionId),
      ("adapter", fun _ => .text profile.adapter), ("state", fun row => .text row.state),
      ("spec_digest", fun _ => .text profile.specDigest)] db.missions,
    tableOf "mission_process_specs" [("mission_id", fun row => .text row.missionId),
      ("authority_state", fun _ => .text profile.authorityState)] db.missions,
    @tableOf Unit "mission_meta" [("key", fun _ => .null), ("value", fun _ => .null),
      ("updated_at", fun _ => .null)] [],
    tableOf "logical_drones" [("mission_id", fun row => .text row.missionId),
      ("logical_id", fun row => .text row.logicalId)] db.logicalDrones,
    tableOf "material_workers" [("mission_id", fun row => .text row.missionId),
      ("pod_name", fun row => .text row.podName)] db.materialWorkers,
    tableOf "operator_participants" [("participant_id", fun row => .text row.participantId)]
      db.participants,
    tableOf "operator_grants" [("grant_id", fun row => .text row.grantId)] db.grants,
    tableOf "mission_operator_control" [("mission_id", fun row => .text row.missionId)]
      db.controls,
    tableOf "operator_commands" [("command_id", fun row => .text row.commandId),
      ("mission_id", fun row => .text row.missionId)] db.commands,
    tableOf "operator_command_receipts" [("command_id", fun row => .text row.commandId),
      ("receipt_digest", fun row => .text row.receiptDigest)] db.receipts,
    tableOf "operator_events" [("event_id", fun row => .integer row.eventId),
      ("mission_id", fun row => .text row.missionId),
      ("command_id", fun row => optionalColumn row.commandId)] db.events,
    tableOf "operator_messages" [("message_id", fun row => .text row.messageId),
      ("mission_id", fun row => .text row.missionId),
      ("command_id", fun row => .text row.commandId)] db.messages,
    tableOf "operator_message_deliveries" [("message_id", fun row => .text row.messageId),
      ("recipient", fun row => .text row.recipient)] db.deliveries,
    tableOf "operator_protocol_recipient_routes" [("message_id", fun row => .text row.messageId),
      ("recipient", fun row => .text row.recipient)] db.routes,
    tableOf "protocol_cognitive_trajectories"
      [("trajectory_id", fun row => .text row.trajectoryId),
        ("message_id", fun row => .text row.messageId),
        ("mission_id", fun row => .text row.missionId)] db.trajectories,
    tableOf "mission_context_revisions" [("mission_id", fun row => .text row.missionId),
      ("revision", fun row => .integer row.revision),
      ("command_id", fun row => .text row.commandId)] db.contextRevisions,
    tableOf "mission_plan_revisions" [("mission_id", fun row => .text row.missionId),
      ("revision", fun row => .integer row.revision),
      ("command_id", fun row => .text row.commandId)] db.planRevisions,
    tableOf "operator_pending_plan_amendments" [("proposal_id", fun row => .text row.proposalId),
      ("mission_id", fun row => .text row.missionId),
      ("command_id", fun row => .text row.commandId)] db.planAmendments,
    tableOf "operator_capability_revocations" [("mission_id", fun row => .text row.missionId),
      ("capability", fun row => .text row.capability),
      ("command_id", fun row => .text row.commandId)] db.capabilityRevocations,
    tableOf "operator_approvals" [("mission_id", fun row => .text row.missionId),
      ("proposal_id", fun row => .text row.proposalId),
      ("command_id", fun row => .text row.commandId)] db.approvals,
    tableOf "mission_execution_drivers" [("mission_id", fun row => .text row.missionId),
      ("state", fun row => .text row.state)] db.drivers,
    tableOf "mission_execution_checkpoints" [("checkpoint_id", fun row => .text row.checkpointId),
      ("mission_id", fun row => .text row.missionId)] db.checkpoints,
    tableOf "mission_execution_assignments" [("assignment_id", fun row => .text row.assignmentId),
      ("mission_id", fun row => .text row.missionId),
      ("state", fun row => .text (assignmentStateText row.state))] db.assignments,
    tableOf "mission_assignment_release_evidence"
      [("assignment_id", fun row => .text row.assignmentId),
        ("mission_id", fun row => .text row.missionId)] db.releaseEvidence,
    tableOf "mission_execution_receipts" [("receipt_id", fun row => .text row.receiptId),
      ("mission_id", fun row => .text row.missionId)] db.executionReceipts,
    tableOf "mission_stale_assignment_results"
      [("stale_result_id", fun row => .text row.staleResultId),
        ("mission_id", fun row => .text row.missionId)] db.staleResults]

def operatorShapes : List (PyStr × List PyStr) :=
  (operatorTables ⟨[], [], []⟩ OperatorDb.empty).map fun table => (table.name, table.columns)

theorem shape_mem_operatorShapes {profile : MissionProfile} {db : OperatorDb} {table : SqlTable}
    (member : table ∈ operatorTables profile db) :
    (table.name, table.columns) ∈ operatorShapes := by
  have same : (operatorTables profile db).map (fun table => (table.name, table.columns)) =
    operatorShapes := rfl
  rw [← same]
  exact List.mem_map_of_mem member

structure ShapesMigrated : Prop where
  unique : (operatorShapes.map Prod.fst).Nodup
  present : ∀ name ∈ [missionsTable, py "mission_process_specs", metaTable],
    name ∈ operatorShapes.map Prod.fst
  columned : ∀ shape ∈ operatorShapes, ∀ column ∈ (readColumns.lookup shape.1).getD [],
    column ∈ shape.2
  system : ∀ shape ∈ operatorShapes, ∀ columns ∈ systemColumns.lookup shape.1, shape.2 = columns
  noBindings : ∀ shape ∈ operatorShapes, shape.1 ≠ bindingsTable

theorem shapesMigrated : ShapesMigrated where
  unique := by decide +kernel
  present := by decide +kernel
  columned := by decide +kernel
  system := by decide +kernel
  noBindings := by decide +kernel

def operatorStore (profile : MissionProfile) (db : OperatorDb) : MissionStore where
  tables := operatorTables profile db
  migrated :=
    { unique := shapesMigrated.unique
      present := shapesMigrated.present
      columned := fun _ member => shapesMigrated.columned _ (shape_mem_operatorShapes member)
      system := fun _ member => shapesMigrated.system _ (shape_mem_operatorShapes member)
      bindingScoped := fun _ member isBindings =>
        absurd isBindings (shapesMigrated.noBindings _ (shape_mem_operatorShapes member)) }

theorem not_noOrphans_of_receipt (profile : MissionProfile) {db : OperatorDb} {row : CommandRow}
    (isCommand : row ∈ db.commands) {receipt : CommandReceiptRow}
    (isReceipt : receipt ∈ db.receipts) (sameId : receipt.commandId = row.commandId) :
    ¬ NoOrphans (operatorStore profile db) row.missionId := by
  intro noOrphans
  have notMeta : py "operator_command_receipts" ≠ metaTable := by decide
  refine noOrphans _ (List.mem_of_getElem? (i := 9) rfl) notMeta _
    (List.mem_map_of_mem isReceipt) rfl rfl _ (List.mem_of_getElem? (i := 8) rfl) _
    (List.mem_map_of_mem isCommand) ?_ ⟨py "command_id", by decide, ?_⟩
  · have held : SqlRow.holds [(py "command_id", .text row.commandId),
        (py "mission_id", .text row.missionId)] missionId row.missionId = true :=
      SqlRow.holds_eq_true.mpr rfl
    have notBinding : isGlobalBinding (py "operator_commands") [(py "command_id",
        .text row.commandId), (py "mission_id", .text row.missionId)] = false := rfl
    exact (congrArg₂ (fun first second => first && !second || _) held notBinding).trans rfl
  · have sameColumn : SqlRow.get [(py "command_id", .text receipt.commandId),
        (py "receipt_digest", .text receipt.receiptDigest)] (py "command_id") =
          .text row.commandId := congrArg SqlValue.text sameId
    exact (Bool.and_eq_true _ _).mpr ⟨rfl, decide_eq_true (sameColumn.trans rfl)⟩

theorem not_honoured_of_command (profile : MissionProfile) {db : OperatorDb}
    (orderly : Orderly db) {row : CommandRow} (isCommand : row ∈ db.commands)
    {expectedDigest protectedId : PyStr} {now : Nat → PyStr}
    (deletable : Deletable (operatorStore profile db) row.missionId expectedDigest protectedId
      now) :
    ¬ Honoured ⟨operatorStore profile db, none⟩ row.missionId
      (deleteMissionRecords ⟨operatorStore profile db, none⟩ row.missionId expectedDigest
        protectedId now) := by
  rw [honoured_of_deletable deletable]
  have counted := (orderly.recorded row isCommand).receipt
  obtain ⟨receipt, isReceipt, sameId⟩ : ∃ receipt ∈ db.receipts,
      decide (receipt.commandId = row.commandId) = true :=
    List.countP_pos_iff.mp (by rw [counted]; exact Nat.one_pos)
  exact not_noOrphans_of_receipt profile isCommand isReceipt (of_decide_eq_true sameId)

def registeredDb : OperatorDb :=
  { missionDb with missions := [⟨py "M1", py "REGISTERED"⟩]
                   grants := [⟨py "G1", primaryOperator, py "*", py "[\"REQUEST_STATUS\"]", [],
                     none, none⟩] }

def statusCall : CommandCall where
  value := .obj [(py "command_id", .str (py "C1")), (py "mission_id", .str (py "M1")),
    (py "action", .str (py "REQUEST_STATUS"))]
  principalId := primaryOperator
  inputs := ⟨fun _ => [], fun _ => []⟩

def askedDb : OperatorDb :=
  databaseAfter registeredDb [statusCall] (List.replicate 12 0)

theorem orderly_askedDb : Orderly askedDb :=
  Pool.fact_run commandStep_refl (within_commandPool _ _) stable_orderly
    (orderly_of_new rfl rfl rfl rfl rfl rfl) _

theorem exists_command_asked : ∃ row ∈ askedDb.commands, row.missionId = py "M1" := by
  have missions : askedDb.commands.map CommandRow.missionId = [py "M1"] := by decide +kernel
  exact List.mem_map.mp (by rw [missions]; exact List.mem_singleton_self _)

def askedProfile : MissionProfile :=
  ⟨py "KIND", py "D1", py "EXPLICIT_USER_ACTIVATION"⟩

theorem deletable_asked : Deletable (operatorStore askedProfile askedDb) (py "M1") (py "D1")
    (py "M0") fun _ => [] := by
  have previewed : (missionDeletePreview (operatorStore askedProfile askedDb) (py "M1")
      (py "M0")).toOption.map (fun preview => (preview.allowed,
        preview.details.map PreviewDetails.specDigest)) =
      some (true, some (.text (py "D1"))) := by
    decide +kernel
  cases result : missionDeletePreview (operatorStore askedProfile askedDb) (py "M1")
      (py "M0") with
  | error error =>
    rw [result] at previewed
    exact nomatch previewed
  | ok preview =>
    rw [result] at previewed
    obtain ⟨allowed, current⟩ := Prod.mk.inj (Option.some.inj previewed)
    exact ⟨⟨preview, result, allowed, current⟩, rfl, rfl, by decide⟩

/-- After one `REQUEST_STATUS` command the deletion of its mission returns, and
leaves the receipt of the command behind. -/
theorem not_honoured_after_status : ¬ Honoured ⟨operatorStore askedProfile askedDb, none⟩
    (py "M1") (deleteMissionRecords ⟨operatorStore askedProfile askedDb, none⟩ (py "M1")
      (py "D1") (py "M0") fun _ => []) := by
  obtain ⟨row, isCommand, isMission⟩ := exists_command_asked
  have deletable := deletable_asked
  rw [← isMission] at deletable ⊢
  exact not_honoured_of_command askedProfile orderly_askedDb isCommand deletable

end MissionLifecycle

end CyberLion
