import CyberLion.SqlTable

/-!
# Databases of unknown schema

A program that discovers its tables by their columns needs the tables as data:
a table has a name, columns and rows, and every row has a value in each of the
columns.  `DELETE FROM` keeps the rows that it does not select, in their order.
-/

namespace PyLib

inductive SqlValue
  | null
  | integer (value : Int)
  | text (value : PyStr)
  deriving DecidableEq

/-- `str(value or default)`. -/
def SqlValue.strOr (default : PyStr) : SqlValue → PyStr
  | .null => default
  | .integer value => if value = 0 then default else intText value
  | .text value => if value = [] then default else value

abbrev SqlRow := List (PyStr × SqlValue)

namespace SqlRow

/-- `row[column]`. -/
def get (row : SqlRow) (column : PyStr) : SqlValue :=
  (row.lookup column).getD .null

/-- `column = ?` for a text. -/
def holds (row : SqlRow) (column text : PyStr) : Bool :=
  row.get column = .text text

def shares (row other : SqlRow) (column : PyStr) : Bool :=
  row.get column ≠ .null && row.get column = other.get column

def setAll (row : SqlRow) (changes : List (PyStr × SqlValue)) : SqlRow :=
  row.map fun item => (item.1, (changes.lookup item.1).getD item.2)

@[simp]
theorem map_fst_setAll (row : SqlRow) (changes : List (PyStr × SqlValue)) :
    (row.setAll changes).map Prod.fst = row.map Prod.fst := by
  rw [setAll, List.map_map]
  rfl

theorem get_setAll {row : SqlRow} {changes : List (PyStr × SqlValue)} {column : PyStr}
    (kept : changes.lookup column = none) : (row.setAll changes).get column = row.get column := by
  rw [get, get, setAll]
  congr 1
  induction row with
  | nil => rfl
  | cons item row ih =>
    rw [List.map_cons, List.lookup_cons, List.lookup_cons, ih]
    split
    · rename_i same
      rw [← eq_of_beq same, kept]
      rfl
    · rfl

theorem holds_eq_true {row : SqlRow} {column text : PyStr} :
    row.holds column text = true ↔ row.get column = .text text := by
  simp [holds]

theorem get_of_not_mem {row : SqlRow} {column : PyStr} (absent : column ∉ row.map Prod.fst) :
    row.get column = .null := by
  have missing : row.lookup column = none := by
    rw [List.lookup_eq_none_iff]
    intro item member
    rw [bne_iff_ne]
    rintro rfl
    exact absent (List.mem_map_of_mem member)
  rw [get, missing]
  rfl

end SqlRow

@[ext]
structure SqlTable where
  name : PyStr
  columns : List PyStr
  rows : List SqlRow
  shaped : ∀ row ∈ rows, row.map Prod.fst = columns

namespace SqlTable

variable {table : SqlTable} {selected other : SqlRow → Bool}

/-- `DELETE FROM ... WHERE ...`. -/
def deleteWhere (table : SqlTable) (selected : SqlRow → Bool) : SqlTable where
  name := table.name
  columns := table.columns
  rows := table.rows.filter fun row => !selected row
  shaped row member := table.shaped row (List.mem_of_mem_filter member)

@[simp]
theorem deleteWhere_name : (table.deleteWhere selected).name = table.name :=
  rfl

@[simp]
theorem deleteWhere_columns : (table.deleteWhere selected).columns = table.columns :=
  rfl

@[simp]
theorem mem_deleteWhere {row : SqlRow} :
    row ∈ (table.deleteWhere selected).rows ↔ row ∈ table.rows ∧ selected row = false := by
  simp [deleteWhere]

theorem deleteWhere_congr (same : ∀ row ∈ table.rows, selected row = other row) :
    table.deleteWhere selected = table.deleteWhere other := by
  ext1
  · rfl
  · rfl
  · exact List.filter_congr fun row member => by rw [same row member]

theorem deleteWhere_none (nothing : ∀ row ∈ table.rows, selected row = false) :
    table.deleteWhere selected = table := by
  ext1
  · rfl
  · rfl
  · exact List.filter_eq_self.mpr fun row member => by rw [nothing row member]; rfl

@[simp]
theorem deleteWhere_deleteWhere : (table.deleteWhere selected).deleteWhere other =
    table.deleteWhere fun row => selected row || other row := by
  ext1
  · rfl
  · rfl
  · simp only [deleteWhere, List.filter_filter]
    exact List.filter_congr fun row _ => by cases selected row <;> cases other row <;> rfl

/-- `INSERT OR REPLACE INTO ...` for a row whose key is one column. -/
def insertOrReplace (table : SqlTable) (key : PyStr) (row : SqlRow)
    (fits : row.map Prod.fst = table.columns) : SqlTable where
  name := table.name
  columns := table.columns
  rows := table.rows.filter (fun old => old.get key ≠ row.get key) ++ [row]
  shaped old member := by
    rcases List.mem_append.mp member with isOld | isNew
    · exact table.shaped old (List.mem_of_mem_filter isOld)
    · rwa [List.mem_singleton.mp isNew]

/-- `UPDATE ... SET ... WHERE ...`. -/
def setWhere (table : SqlTable) (selected : SqlRow → Bool) (changes : List (PyStr × SqlValue)) :
    SqlTable where
  name := table.name
  columns := table.columns
  rows := updateWhere selected (fun row => row.setAll changes) table.rows
  shaped row member := by
    obtain ⟨old, isOld, rfl⟩ := List.mem_map.mp member
    split
    · rw [SqlRow.map_fst_setAll]
      exact table.shaped old isOld
    · exact table.shaped old isOld

theorem holds_of_not_mem {row : SqlRow} {column : PyStr} (member : row ∈ table.rows)
    (absent : column ∉ table.columns) (text : PyStr) : row.holds column text = false := by
  rw [SqlRow.holds, SqlRow.get_of_not_mem (by rwa [table.shaped row member])]
  rfl

end SqlTable

abbrev SqlStore := List SqlTable

namespace SqlStore

variable {store : SqlStore} {name : PyStr} {selected : SqlRow → Bool}

/-- `SELECT name FROM sqlite_master WHERE type='table'`. -/
def names (store : SqlStore) : List PyStr :=
  store.map SqlTable.name

def find (store : SqlStore) (name : PyStr) : Option SqlTable :=
  List.find? (fun table => table.name = name) store

/-- `SELECT * FROM ...`. -/
def rowsOf (store : SqlStore) (name : PyStr) : List SqlRow :=
  ((store.find name).map SqlTable.rows).getD []

/-- `PRAGMA table_info(...)`. -/
def columnsOf (store : SqlStore) (name : PyStr) : List PyStr :=
  ((store.find name).map SqlTable.columns).getD []

/-- `DELETE FROM <name> WHERE ...`. -/
def deleteFrom (store : SqlStore) (name : PyStr) (selected : SqlRow → Bool) : SqlStore :=
  List.map (fun table => if table.name = name then table.deleteWhere selected else table) store

/-- `INSERT OR REPLACE INTO <name>(...) VALUES(...)`, with a value for each column. -/
def insertOrReplace (store : SqlStore) (name key : PyStr) (row : SqlRow) : SqlStore :=
  List.map (fun table =>
    if fits : table.name = name ∧ row.map Prod.fst = table.columns then
      table.insertOrReplace key row fits.2
    else table) store

/-- `UPDATE <name> SET ... WHERE ...`. -/
def setWhere (store : SqlStore) (name : PyStr) (selected : SqlRow → Bool)
    (changes : List (PyStr × SqlValue)) : SqlStore :=
  List.map (fun table => if table.name = name then table.setWhere selected changes else table)
    store

@[simp]
theorem names_insertOrReplace (key : PyStr) (row : SqlRow) :
    (store.insertOrReplace name key row).names = store.names := by
  rw [names, insertOrReplace, List.map_map]
  exact List.map_congr_left fun table _ => by rw [Function.comp_apply]; split <;> rfl

@[simp]
theorem names_setWhere (changes : List (PyStr × SqlValue)) :
    (store.setWhere name selected changes).names = store.names := by
  rw [names, setWhere, List.map_map]
  exact List.map_congr_left fun table _ => by rw [Function.comp_apply]; split <;> rfl

theorem find_of_mem (unique : store.names.Nodup) {table : SqlTable} (member : table ∈ store) :
    store.find table.name = some table :=
  find?_of_nodup_map unique member

theorem columnsOf_of_mem (unique : store.names.Nodup) {table : SqlTable}
    (member : table ∈ store) : store.columnsOf table.name = table.columns := by
  rw [columnsOf, find_of_mem unique member]
  rfl

theorem exists_of_mem_rowsOf {row : SqlRow} (member : row ∈ store.rowsOf name) :
    ∃ table ∈ store, table.name = name ∧ row ∈ table.rows := by
  unfold rowsOf at member
  cases found : store.find name with
  | none => simp [found] at member
  | some table =>
    rw [found] at member
    exact ⟨table, List.mem_of_find?_eq_some found, by simpa using List.find?_some found, member⟩

end SqlStore

end PyLib
