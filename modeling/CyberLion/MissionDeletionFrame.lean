import CyberLion.MissionDeletion

/-!
# What a deletion removes

The `DELETE` statements together remove exactly the rows of the mission: the
rows that carry its id in a column `mission_id`, global session bindings apart,
and the receipts of its dual evaluations.  So a deletion is complete exactly
when no other row names a removed row by a message, command or request id.
-/

namespace CyberLion

namespace MissionLifecycle

open PyLib

def isGlobalBinding (table : PyStr) (row : SqlRow) : Bool :=
  table = bindingsTable && row.get bindingScope = .text globalChannel

def isMissionRow (store : MissionStore) (mission table : PyStr) (row : SqlRow) : Bool :=
  row.holds missionId mission && !isGlobalBinding table row ||
    table = dualReceipts && isDualReceipt store mission row

/-! ### The statements one after the other -/

def Removes (store : MissionStore) (removal : Removal) (selected : PyStr → SqlRow → Bool) : Prop :=
  removal.store.tables =
    List.map (fun table => table.deleteWhere (selected table.name)) store.tables

section Removes

variable {store : MissionStore} {removal : Removal} {selected other : PyStr → SqlRow → Bool}
variable {mission : PyStr}

theorem removes_start (store : MissionStore) (removed : List (PyStr × Nat)) :
    Removes store ⟨store, removed⟩ fun _ _ => false := by
  rw [Removes]
  conv_lhs => rw [← List.map_id store.tables]
  exact List.map_congr_left fun table _ => (SqlTable.deleteWhere_none fun _ _ => rfl).symm

theorem Removes.congr (removes : Removes store removal selected)
    (same : ∀ table ∈ store.tables, ∀ row ∈ table.rows,
      selected table.name row = other table.name row) : Removes store removal other := by
  rw [Removes, removes]
  exact List.map_congr_left fun table member => SqlTable.deleteWhere_congr (same table member)

theorem Removes.delete (removes : Removes store removal selected) (name : PyStr)
    (rows : SqlRow → Bool) : Removes store (removal.delete name rows) fun table row =>
      selected table row || decide (table = name) && rows row := by
  change SqlStore.deleteFrom removal.store.tables name rows = _
  rw [removes, SqlStore.deleteFrom, List.map_map]
  apply List.map_congr_left
  intro table _
  rw [Function.comp_apply, SqlTable.deleteWhere_name]
  split
  · rename_i same
    rw [SqlTable.deleteWhere_deleteWhere]
    simp [same]
  · rename_i differ
    simp [differ]

theorem Removes.names_eq (removes : Removes store removal selected) :
    removal.store.tables.names = store.tables.names := by
  rw [removes, SqlStore.names, List.map_map]
  rfl

theorem Removes.columnsOf_eq (removes : Removes store removal selected) (name : PyStr) :
    removal.store.tables.columnsOf name = store.tables.columnsOf name := by
  rw [removes, SqlStore.columnsOf, SqlStore.find, List.find?_map, Option.map_map]
  rfl

theorem holds_of_columnsOf {name : PyStr} (absent : missionId ∉ store.tables.columnsOf name)
    {table : SqlTable} (member : table ∈ store.tables) (isName : table.name = name)
    {row : SqlRow} (isRow : row ∈ table.rows) : row.holds missionId mission = false := by
  rw [← isName, SqlStore.columnsOf_of_mem store.migrated.unique member] at absent
  exact SqlTable.holds_of_not_mem isRow absent mission

theorem Removes.tableStep (removes : Removes store removal selected) (name : PyStr) :
    Removes store (removal.tableStep mission name) fun table row =>
      selected table row || decide (table = name) && row.holds missionId mission := by
  unfold Removal.tableStep
  split
  · exact removes.delete name _
  · rename_i absent
    rw [removes.columnsOf_eq] at absent
    refine removes.congr fun table member row isRow => ?_
    by_cases isName : table.name = name
    · simp [holds_of_columnsOf absent member isName isRow]
    · simp [isName]

theorem Removes.tableSteps (mission : PyStr) (names : List PyStr) (removes : Removes store removal selected) :
    Removes store (names.foldl (Removal.tableStep mission) removal) fun table row =>
      selected table row || decide (table ∈ names) && row.holds missionId mission := by
  induction names generalizing removal selected with
  | nil => exact removes.congr fun _ _ _ _ => by simp
  | cons name names ih =>
    rw [List.foldl_cons]
    refine (ih (removes.tableStep name)).congr fun table _ row _ => ?_
    simp only [List.mem_cons, Bool.decide_or, Bool.or_assoc, Bool.and_or_distrib_right]

theorem removes_dualStep (store : MissionStore) (mission : PyStr) :
    Removes store (Removal.dualStep mission ⟨store, []⟩) fun table row =>
      decide (table = dualReceipts) && isDualReceipt store mission row := by
  simp only [Removal.dualStep]
  split
  · exact ((removes_start store []).delete _ _).congr fun _ _ _ _ => by simp
  · rename_i absent
    refine (removes_start store []).congr fun table member row _ => ?_
    by_cases isName : table.name = dualReceipts
    · -- The receipts are there, so the evaluations are not.
      have present : dualReceipts ∈ store.tables.names := isName ▸ List.mem_map_of_mem member
      have missing : store.tables.find dualEvaluations = none := by
        rw [SqlStore.find, List.find?_eq_none]
        intro other isTable
        rw [decide_eq_true_eq]
        rintro isEvaluations
        exact absent ⟨present, isEvaluations ▸ List.mem_map_of_mem isTable⟩
      simp [isDualReceipt, evaluationRequests, SqlStore.rowsOf, missing]
    · simp [isName]

theorem Removes.bindingsStep (mission : PyStr) (removes : Removes store removal selected) :
    Removes store (removal.bindingsStep mission) fun table row =>
      selected table row || decide (table = bindingsTable) && isMissionBinding mission row := by
  unfold Removal.bindingsStep
  split
  · exact removes.delete _ _
  · rename_i absent
    refine removes.congr fun table member row _ => ?_
    have notBindings : table.name ≠ bindingsTable := by
      rintro isBindings
      rw [removes.names_eq, ← isBindings] at absent
      exact absent (List.mem_map_of_mem member)
    simp [notBindings]

end Removes

section Store

variable {store : MissionStore} {mission : PyStr}

variable {table : SqlTable}

theorem holds_of_systemTable (member : table ∈ store.tables)
    (isSystem : table.name = metaTable ∨ table.name = py "sqlite_sequence") {row : SqlRow}
    (isRow : row ∈ table.rows) : row.holds missionId mission = false := by
  apply SqlTable.holds_of_not_mem isRow
  rcases isSystem with isMeta | isSequence
  · rw [store.migrated.system table member _ (by rw [isMeta]; rfl)]
    decide
  · rw [store.migrated.system table member _ (by rw [isSequence]; rfl)]
    decide

theorem isMissionRow_metaTable (member : table ∈ store.tables) (isMeta : table.name = metaTable)
    {row : SqlRow} (isRow : row ∈ table.rows) :
    isMissionRow store mission table.name row = false := by
  have notReceipts : metaTable ≠ dualReceipts := by decide
  simp [isMissionRow, holds_of_systemTable member (.inl isMeta) isRow, isMeta, notReceipts]

theorem isMissionBinding_eq (member : table ∈ store.tables)
    (isBindings : table.name = bindingsTable) {row : SqlRow} (isRow : row ∈ table.rows) :
    isMissionBinding mission row =
      (row.holds missionId mission && !isGlobalBinding bindingsTable row) := by
  have notNull := store.migrated.bindingScoped table member isBindings row isRow
  simp [isMissionBinding, isGlobalBinding, notNull]

theorem selected_eq_isMissionRow (member : table ∈ store.tables) {row : SqlRow}
    (isRow : row ∈ table.rows) :
    (decide (table.name = dualReceipts) && isDualReceipt store mission row ||
        decide (table.name ∉ excludedTables) && row.holds missionId mission ||
        decide (table.name = bindingsTable) && isMissionBinding mission row ||
        decide (table.name = missionsTable) && row.holds missionId mission) =
      isMissionRow store mission table.name row := by
  by_cases isMissions : table.name = missionsTable
  · rw [isMissions]
    simp [isMissionRow, isGlobalBinding, excludedTables,
      show missionsTable ≠ dualReceipts by decide, show missionsTable ≠ bindingsTable by decide]
  by_cases isBindings : table.name = bindingsTable
  · rw [isMissionBinding_eq member isBindings isRow, isBindings]
    simp [isMissionRow, excludedTables, show bindingsTable ≠ dualReceipts by decide,
      show bindingsTable ≠ missionsTable by decide]
  by_cases isSystem : table.name = metaTable ∨ table.name = py "sqlite_sequence"
  · simp [isMissionRow, isBindings, holds_of_systemTable member isSystem isRow]
  · rw [not_or] at isSystem
    simp [isMissionRow, isGlobalBinding, excludedTables, isMissions, isBindings, isSystem,
      Bool.or_comm]

theorem removeRecords_tables (store : MissionStore) (mission : PyStr) :
    (removeRecords store mission).store.tables =
      List.map (fun table => table.deleteWhere (isMissionRow store mission table.name))
        store.tables := by
  have loop := (removes_dualStep store mission).tableSteps mission
    (pySorted (store.tables.names.filter fun name => name ∉ excludedTables))
  have all := (loop.bindingsStep mission).delete missionsTable fun row => row.holds missionId mission
  refine all.congr fun table member row isRow => ?_
  rw [← selected_eq_isMissionRow member isRow]
  have isTable : table.name ∈ store.tables.names := List.mem_map_of_mem member
  simp [pySorted, List.mem_insertionSort, isTable]

/-! ### The whole call -/

def Deletable (store : MissionStore) (mission expectedDigest protectedId : PyStr)
    (now : Nat → PyStr) : Prop :=
  (∃ preview, missionDeletePreview store mission protectedId = .ok preview ∧
    preview.allowed = true ∧
    preview.details.map PreviewDetails.specDigest = some (.text expectedDigest)) ∧
  isEncodable (now 0) = true ∧ isEncodable (now 1) = true ∧ isEncodable protectedId = true

def afterDeletion (store : MissionStore) (mission protectedId : PyStr) (now : Nat → PyStr) :
    MissionStore :=
  ((removeRecords store mission).store.setMeta (deletedKey mission) (py "1") (now 0)).moveFocus
    mission protectedId (now 1)

theorem deletion_ok {expectedDigest protectedId : PyStr} {now : Nat → PyStr}
    {after : MissionStore} {outcome : Deletion}
    (done : deletion store mission expectedDigest protectedId now = .ok (after, outcome)) :
    Deletable store mission expectedDigest protectedId now ∧
      after = afterDeletion store mission protectedId now := by
  simp only [deletion, bind_eq_ok, raiseIf_eq_ok] at done
  obtain ⟨preview, previewed, _, allowed, _, current, first, firstEq, second, secondEq, protect,
    protectEq, result⟩ := done
  cases result
  refine ⟨⟨⟨preview, previewed, by simpa using allowed, not_not.mp current⟩, ?_, ?_, ?_⟩, rfl⟩
  · exact encodeUtf8_eq_ok.mp firstEq ▸ first.encodable
  · exact encodeUtf8_eq_ok.mp secondEq ▸ second.encodable
  · exact encodeUtf8_eq_ok.mp protectEq ▸ protect.encodable

theorem exists_deletion_ok {expectedDigest protectedId : PyStr} {now : Nat → PyStr}
    (deletable : Deletable store mission expectedDigest protectedId now) :
    ∃ outcome, deletion store mission expectedDigest protectedId now =
      .ok (afterDeletion store mission protectedId now, outcome) := by
  obtain ⟨⟨preview, previewed, allowed, current⟩, first, second, protect⟩ := deletable
  obtain ⟨_, firstEq⟩ := exists_encodeUtf8 first
  obtain ⟨_, secondEq⟩ := exists_encodeUtf8 second
  obtain ⟨_, protectEq⟩ := exists_encodeUtf8 protect
  refine ⟨⟨mission, (removeRecords store mission).removed⟩, ?_⟩
  simp only [deletion, bind_eq_ok, raiseIf_eq_ok]
  exact ⟨preview, previewed, (), by simp [allowed], (), by simp [current], _, firstEq, _, secondEq,
    _, protectEq, rfl⟩

theorem mem_map_of_name_ne {change : SqlTable → SqlTable} {tables : SqlStore}
    (name : ∀ table, (change table).name = table.name)
    (same : ∀ table, table.name ≠ metaTable → change table = table)
    (notMeta : table.name ≠ metaTable) : table ∈ List.map change tables ↔ table ∈ tables := by
  rw [List.mem_map]
  constructor
  · rintro ⟨old, member, rfl⟩
    rw [name] at notMeta
    rwa [same old notMeta]
  · intro member
    exact ⟨table, member, same table notMeta⟩

theorem mem_afterDeletion {protectedId : PyStr} {now : Nat → PyStr}
    (notMeta : table.name ≠ metaTable) :
    table ∈ (afterDeletion store mission protectedId now).tables ↔
      ∃ old ∈ store.tables, old.deleteWhere (isMissionRow store mission old.name) = table := by
  rw [← List.mem_map, ← removeRecords_tables]
  refine (mem_map_of_name_ne (fun table => ?_) (fun table differ => ?_) notMeta).trans
    (mem_map_of_name_ne (fun table => ?_) (fun table differ => ?_) notMeta)
  · split <;> rfl
  · exact if_neg differ
  · split <;> rfl
  · exact dif_neg fun isMeta => differ isMeta.1

theorem deleteWhere_mem_afterDeletion {protectedId : PyStr} {now : Nat → PyStr}
    (member : table ∈ store.tables) (notMeta : table.name ≠ metaTable) :
    table.deleteWhere (isMissionRow store mission table.name) ∈
      (afterDeletion store mission protectedId now).tables := by
  rw [mem_afterDeletion (by rwa [SqlTable.deleteWhere_name])]
  exact ⟨table, member, rfl⟩

theorem names_afterDeletion (store : MissionStore) (mission protectedId : PyStr)
    (now : Nat → PyStr) :
    (afterDeletion store mission protectedId now).tables.names = store.tables.names := by
  refine (SqlStore.names_setWhere _).trans ((SqlStore.names_insertOrReplace _ _).trans ?_)
  rw [removeRecords_tables, SqlStore.names, List.map_map]
  rfl

/-- A row of `mission_meta` that is neither the marker of the mission nor the
focus. -/
def isOtherMeta (mission : PyStr) (row : SqlRow) : Bool :=
  row.get (py "key") ≠ .text (deletedKey mission) &&
    row.get (py "key") ≠ .text (py "focus_mission_id")

theorem filter_moveFocus (mission fromId toId updatedAt : PyStr) (table : SqlTable) :
    (table.setWhere
      (fun row => row.holds (py "key") (py "focus_mission_id") && row.holds (py "value") fromId)
      [(py "value", .text toId), (py "updated_at", .text updatedAt)]).rows.filter
        (isOtherMeta mission) = table.rows.filter (isOtherMeta mission) := by
  apply filter_updateWhere
  intro row _ isFocus
  have key : row.get (py "key") = .text (py "focus_mission_id") := by
    rw [Bool.and_eq_true, SqlRow.holds_eq_true] at isFocus
    exact isFocus.1
  constructor
  · simp [isOtherMeta, key]
  · rw [isOtherMeta, SqlRow.get_setAll rfl]
    simp [key]

theorem filter_setMeta (mission value updatedAt : PyStr) (table : SqlTable)
    (fits : [py "key", py "value", py "updated_at"] = table.columns) :
    (table.insertOrReplace (py "key") [(py "key", .text (deletedKey mission)),
      (py "value", .text value), (py "updated_at", .text updatedAt)] fits).rows.filter
        (isOtherMeta mission) = table.rows.filter (isOtherMeta mission) := by
  have key : SqlRow.get [(py "key", .text (deletedKey mission)), (py "value", .text value),
      (py "updated_at", .text updatedAt)] (py "key") = .text (deletedKey mission) := rfl
  rw [SqlTable.insertOrReplace, List.filter_append, List.filter_filter]
  have isMarker : isOtherMeta mission [(py "key", .text (deletedKey mission)),
      (py "value", .text value), (py "updated_at", .text updatedAt)] = false := by
    simp [isOtherMeta, key]
  rw [List.filter_cons_of_neg (by simp [isMarker]), List.filter_nil, List.append_nil]
  apply List.filter_congr
  intro row _
  rw [key, isOtherMeta]
  by_cases isKey : row.get (py "key") = .text (deletedKey mission) <;> simp [isKey]

/-- Both tables have the same name, columns and other rows of `mission_meta`. -/
def SameMeta (mission : PyStr) (table old : SqlTable) : Prop :=
  table.name = old.name ∧ table.columns = old.columns ∧
    table.rows.filter (isOtherMeta mission) = old.rows.filter (isOtherMeta mission)

theorem sameMeta_moveFocus {fromId toId updatedAt : PyStr}
    (member : table ∈ (store.moveFocus fromId toId updatedAt).tables) :
    ∃ old ∈ store.tables, SameMeta mission table old := by
  obtain ⟨old, isOld, rfl⟩ := List.mem_map.mp member
  refine ⟨old, isOld, ?_⟩
  split
  · exact ⟨rfl, rfl, filter_moveFocus mission fromId toId updatedAt old⟩
  · exact ⟨rfl, rfl, rfl⟩

theorem sameMeta_setMeta {value updatedAt : PyStr}
    (member : table ∈ (store.setMeta (deletedKey mission) value updatedAt).tables) :
    ∃ old ∈ store.tables, SameMeta mission table old := by
  obtain ⟨old, isOld, rfl⟩ := List.mem_map.mp member
  refine ⟨old, isOld, ?_⟩
  split
  · rename_i fits
    exact ⟨rfl, rfl, filter_setMeta mission value updatedAt old fits.2⟩
  · exact ⟨rfl, rfl, rfl⟩

theorem eq_of_name {first second : SqlTable} (isFirst : first ∈ store.tables)
    (isSecond : second ∈ store.tables) (same : first.name = second.name) : first = second :=
  List.inj_on_of_nodup_map store.migrated.unique isFirst isSecond same

theorem meta_afterDeletion {protectedId : PyStr} {now : Nat → PyStr} {new : SqlTable}
    (member : table ∈ store.tables) (isMeta : table.name = metaTable)
    (isNew : new ∈ (afterDeletion store mission protectedId now).tables)
    (sameName : new.name = table.name) : SameMeta mission new table := by
  obtain ⟨marked, isMarked, moved⟩ : ∃ marked ∈ _, SameMeta mission new marked :=
    sameMeta_moveFocus isNew
  obtain ⟨removed, isRemoved, set⟩ := sameMeta_setMeta isMarked
  rw [removeRecords_tables] at isRemoved
  obtain ⟨old, isOld, rfl⟩ := List.mem_map.mp isRemoved
  have isTable : old = table :=
    eq_of_name isOld member (set.1.symm.trans (moved.1.symm.trans sameName))
  subst isTable
  rw [SqlTable.deleteWhere_none fun row isRow => isMissionRow_metaTable member isMeta isRow] at set
  exact ⟨sameName, moved.2.1.trans set.2.1, moved.2.2.trans set.2.2⟩

/-! ### Completeness -/

def linkColumns : List PyStr :=
  [py "message_id", py "command_id", requestId]

def Names (row other : SqlRow) : Prop :=
  ∃ column ∈ linkColumns, row.shares other column = true

/-- Nothing of the mission is left: no row carries its id, and no row names a
row that was removed.  The markers and the global bindings are apart. -/
def Complete (before after : MissionStore) (mission : PyStr) : Prop :=
  ∀ table ∈ after.tables, table.name ≠ metaTable → ∀ row ∈ table.rows,
    isGlobalBinding table.name row = false →
    row.holds missionId mission = false ∧
    ∀ old ∈ before.tables, old.name ≠ metaTable → ∀ removed ∈ old.rows,
      (∃ new ∈ after.tables, new.name = old.name ∧ removed ∉ new.rows) → ¬ Names row removed

def IsForeign (before : MissionStore) (mission : PyStr) (row : SqlRow) : Prop :=
  row.holds missionId mission = false ∧
    ∀ table ∈ before.tables, ∀ own ∈ table.rows, own.holds missionId mission = true →
      ¬ Names row own

/-- Every table is there with its columns; a row that is gone was not foreign,
no row is new, and of `mission_meta` only the marker and the focus change. -/
structure Framed (before after : MissionStore) (mission : PyStr) : Prop where
  names : after.tables.names = before.tables.names
  columns : ∀ table ∈ before.tables, ∀ new ∈ after.tables, new.name = table.name →
    new.columns = table.columns
  rows : ∀ table ∈ before.tables, ∀ new ∈ after.tables, new.name = table.name →
    table.name ≠ metaTable → ∃ gone : SqlRow → Bool,
      new.rows = table.rows.filter (fun row => !gone row) ∧
        ∀ row ∈ table.rows, IsForeign before mission row → gone row = false
  metaRows : ∀ table ∈ before.tables, ∀ new ∈ after.tables, new.name = table.name →
    table.name = metaTable →
    new.rows.filter (isOtherMeta mission) = table.rows.filter (isOtherMeta mission)

def NoOrphans (store : MissionStore) (mission : PyStr) : Prop :=
  ∀ table ∈ store.tables, table.name ≠ metaTable → ∀ row ∈ table.rows,
    isGlobalBinding table.name row = false → isMissionRow store mission table.name row = false →
    ∀ other ∈ store.tables, ∀ own ∈ other.rows, isMissionRow store mission other.name own = true →
      ¬ Names row own

variable {protectedId : PyStr} {now : Nat → PyStr}

theorem rows_afterDeletion {new : SqlTable} (member : table ∈ store.tables)
    (isNew : new ∈ (afterDeletion store mission protectedId now).tables)
    (sameName : new.name = table.name) (notMeta : table.name ≠ metaTable) :
    new = table.deleteWhere (isMissionRow store mission table.name) := by
  obtain ⟨old, isOld, rfl⟩ := (mem_afterDeletion (sameName ▸ notMeta)).mp isNew
  rw [SqlTable.deleteWhere_name] at sameName
  rw [eq_of_name isOld member sameName]

theorem not_isMissionRow_of_isForeign {table : PyStr} {row : SqlRow}
    (isForeign : IsForeign store mission row) : isMissionRow store mission table row = false := by
  rw [isMissionRow, isForeign.1, Bool.false_and, Bool.false_or, Bool.and_eq_false_iff]
  right
  by_contra isReceipt
  rw [Bool.not_eq_false, isDualReceipt, Bool.and_eq_true, decide_eq_true_eq, decide_eq_true_eq,
    evaluationRequests, List.mem_map] at isReceipt
  obtain ⟨notNull, evaluation, isEvaluation, sameRequest⟩ := isReceipt
  rw [List.mem_filter] at isEvaluation
  obtain ⟨other, isTable, _, isRow⟩ := SqlStore.exists_of_mem_rowsOf isEvaluation.1
  refine isForeign.2 other isTable evaluation isRow isEvaluation.2 ⟨requestId, by decide, ?_⟩
  simp [SqlRow.shares, notNull, sameRequest]

theorem framed_afterDeletion (store : MissionStore) (mission protectedId : PyStr)
    (now : Nat → PyStr) : Framed store (afterDeletion store mission protectedId now) mission where
  names := names_afterDeletion store mission protectedId now
  columns table member new isNew sameName := by
    by_cases isMeta : table.name = metaTable
    · exact (meta_afterDeletion member isMeta isNew sameName).2.1
    · rw [rows_afterDeletion member isNew sameName isMeta, SqlTable.deleteWhere_columns]
  rows table member new isNew sameName notMeta := by
    rw [rows_afterDeletion member isNew sameName notMeta]
    exact ⟨_, rfl, fun row _ => not_isMissionRow_of_isForeign⟩
  metaRows table member new isNew sameName isMeta :=
    (meta_afterDeletion member isMeta isNew sameName).2.2

theorem complete_afterDeletion :
    Complete store (afterDeletion store mission protectedId now) mission ↔
      NoOrphans store mission := by
  constructor
  · intro complete table member notMeta row isRow notGlobal stays other isOther own isOwn isMission
    -- A row of the mission is not in `mission_meta`, so it is gone.
    have otherNotMeta : other.name ≠ metaTable := by
      intro isMeta
      rw [isMissionRow_metaTable isOther isMeta isOwn] at isMission
      exact absurd isMission (by decide)
    have kept : table.deleteWhere (isMissionRow store mission table.name) ∈
        (afterDeletion store mission protectedId now).tables :=
      deleteWhere_mem_afterDeletion member notMeta
    have keptOther : other.deleteWhere (isMissionRow store mission other.name) ∈
        (afterDeletion store mission protectedId now).tables :=
      deleteWhere_mem_afterDeletion isOther otherNotMeta
    refine (complete _ kept notMeta row (SqlTable.mem_deleteWhere.mpr ⟨isRow, stays⟩)
      notGlobal).2 other isOther otherNotMeta own isOwn ⟨_, keptOther, rfl, fun inNew => ?_⟩
    rw [SqlTable.mem_deleteWhere, isMission] at inNew
    exact absurd inNew.2 (by decide)
  · intro noOrphans table member notMeta row isRow notGlobal
    obtain ⟨old, isOld, rfl⟩ := (mem_afterDeletion notMeta).mp member
    rw [SqlTable.mem_deleteWhere] at isRow
    rw [SqlTable.deleteWhere_name] at notMeta notGlobal
    constructor
    · have stays := isRow.2
      rw [isMissionRow, notGlobal, Bool.or_eq_false_iff] at stays
      simpa using stays.1
    · rintro other isOther otherNotMeta removed isRemoved ⟨new, isNew, sameName, gone⟩
      rw [rows_afterDeletion isOther isNew sameName otherNotMeta, SqlTable.mem_deleteWhere,
        not_and, Bool.not_eq_false] at gone
      exact noOrphans old isOld notMeta row isRow.1 notGlobal isRow.2 other isOther removed
        isRemoved (gone isRemoved)

end Store

end MissionLifecycle

end CyberLion
