import CyberLion.PyError

/-!
# Tables of a database

A table is the list of its rows in the order of their insertion.  An insertion
says which of the old rows clash with a key of the new one.
-/

namespace PyLib

section SqlTable

variable {Row Column : Type}

/-- `UPDATE ... SET ... WHERE ...`. -/
def updateWhere (selected : Row → Bool) (change : Row → Row) (rows : List Row) : List Row :=
  rows.map fun row => if selected row then change row else row

/-- `INSERT INTO ...`: it raises when a row clashes with the new one. -/
def insertRow (clash : PyError) (clashes : Row → Bool) (row : Row) (rows : List Row) :
    Except PyError (List Row) :=
  if rows.any clashes then .error clash else .ok (rows ++ [row])

/-- `INSERT OR IGNORE INTO ...`. -/
def insertOrIgnore (clashes : Row → Bool) (row : Row) (rows : List Row) : List Row :=
  if rows.any clashes then rows else rows ++ [row]

/-! ### Updates -/

variable {selected clashes : Row → Bool} {rows : List Row}

theorem mem_updateWhere {change : Row → Row} {row : Row} :
    row ∈ updateWhere selected change rows ↔
      ∃ old ∈ rows, row = if selected old then change old else old := by
  simp only [updateWhere, List.mem_map, @eq_comm _ row]

theorem mem_updateWhere_of_selected {change : Row → Row} {row : Row} (member : row ∈ rows)
    (isSelected : selected row = true) :
    change row ∈ updateWhere selected change rows :=
  mem_updateWhere.mpr ⟨row, member, (if_pos isSelected).symm⟩

theorem map_updateWhere {change : Row → Row} (column : Row → Column)
    (kept : ∀ row, selected row = true → column (change row) = column row) (rows : List Row) :
    (updateWhere selected change rows).map column = rows.map column := by
  rw [updateWhere, List.map_map]
  apply List.map_congr_left
  intro row _
  rw [Function.comp_apply]
  split
  · rename_i isSelected
    exact kept row isSelected
  · rfl

theorem filter_updateWhere {keep : Row → Bool} {change : Row → Row}
    (apart : ∀ row ∈ rows, selected row = true → keep row = false ∧ keep (change row) = false) :
    (updateWhere selected change rows).filter keep = rows.filter keep := by
  induction rows with
  | nil => rfl
  | cons row rows ih =>
    have later := ih fun other member => apart other (.tail _ member)
    rw [updateWhere] at later ⊢
    rw [List.map_cons, List.filter_cons, List.filter_cons, later]
    split
    · rename_i isSelected
      obtain ⟨old, new⟩ := apart row (.head _) isSelected
      simp [old, new]
    · rfl

theorem filter_updateWhere_comm {keep : Row → Bool} {change : Row → Row}
    (kept : ∀ row, keep (change row) = keep row) (rows : List Row) :
    (updateWhere selected change rows).filter keep =
      updateWhere selected change (rows.filter keep) := by
  rw [updateWhere, List.filter_map, updateWhere]
  congr 1
  apply List.filter_congr
  intro row _
  rw [Function.comp_apply]
  split
  · exact kept row
  · rfl

theorem find?_updateWhere {isKey : Row → Bool} {change : Row → Row}
    (kept : ∀ row, isKey (change row) = isKey row) (rows : List Row) :
    (updateWhere selected change rows).find? isKey =
      (rows.find? isKey).map fun row => if selected row then change row else row := by
  rw [updateWhere, List.find?_map]
  congr 2
  funext row
  rw [Function.comp_apply]
  split
  · exact kept row
  · rfl

theorem find?_of_nodup_map {Key : Type*} [DecidableEq Key] {key : Row → Key}
    (unique : (rows.map key).Nodup) {row : Row} (member : row ∈ rows) :
    rows.find? (fun other => key other = key row) = some row := by
  cases found : rows.find? (fun other => key other = key row) with
  | none =>
    have differ := List.find?_eq_none.mp found row member
    simp at differ
  | some other =>
    have same : key other = key row := by simpa using List.find?_some found
    rw [List.inj_on_of_nodup_map unique (List.mem_of_find?_eq_some found) member same]

theorem updateWhere_eq_self {change : Row → Row}
    (same : ∀ row ∈ rows, selected row = true → change row = row) :
    updateWhere selected change rows = rows := by
  conv_rhs => rw [← List.map_id rows]
  apply List.map_congr_left
  intro row member
  split
  · rename_i isSelected
    exact same row member isSelected
  · rfl

theorem updateWhere_eq_self_iff {change : Row → Row} :
    updateWhere selected change rows = rows ↔
      ∀ row ∈ rows, selected row = true → change row = row := by
  constructor
  · intro same
    rw [updateWhere] at same
    conv_rhs at same => rw [← List.map_id rows]
    intro row member isSelected
    have rowSame := List.map_inj_left.mp same row member
    rwa [if_pos isSelected] at rowSame
  · exact updateWhere_eq_self

theorem updateWhere_and (selected test : Row → Bool) (change : Row → Row) (rows : List Row) :
    updateWhere (fun row => selected row && test row) change rows =
      updateWhere selected (fun row => if test row then change row else row) rows := by
  apply List.map_congr_left
  intro row _
  cases isSelected : selected row <;> simp [isSelected]

theorem updateWhere_updateWhere {first : Row → Row}
    (kept : ∀ row, selected (first row) = selected row) (second : Row → Row) (rows : List Row) :
    updateWhere selected second (updateWhere selected first rows) =
      updateWhere selected (fun row => second (first row)) rows := by
  rw [updateWhere, updateWhere, List.map_map]
  apply List.map_congr_left
  intro row _
  rw [Function.comp_apply]
  cases isSelected : selected row with
  | false => simp [isSelected]
  | true => simp [kept, isSelected]

theorem updateWhere_append {change : Row → Row} {added : List Row}
    (apart : ∀ row ∈ added, selected row = false) :
    updateWhere selected change (rows ++ added) = updateWhere selected change rows ++ added := by
  have kept : updateWhere selected change added = added := by
    refine updateWhere_eq_self fun row member isSelected => ?_
    rw [apart row member] at isSelected
    exact absurd isSelected (by simp)
  rw [updateWhere] at kept ⊢
  rw [List.map_append, kept, updateWhere]

theorem updateWhere_congr {other : Row → Bool} {change : Row → Row}
    (same : ∀ row ∈ rows, selected row = other row) :
    updateWhere selected change rows = updateWhere other change rows := by
  apply List.map_congr_left
  intro row member
  rw [same row member]

/-! ### Insertions -/

theorem insertRow_eq_ok {clash : PyError} {row : Row} {inserted : List Row} :
    insertRow clash clashes row rows = .ok inserted ↔
      (∀ other ∈ rows, clashes other = false) ∧ inserted = rows ++ [row] := by
  unfold insertRow
  split
  · rename_i clashing
    obtain ⟨other, member, isClash⟩ := List.any_eq_true.mp clashing
    constructor
    · simp
    · rintro ⟨free, -⟩
      exact absurd isClash (by simp [free other member])
  · rename_i free
    simp only [List.any_eq_true, not_exists, not_and, Bool.not_eq_true] at free
    constructor
    · rintro ⟨⟩
      exact ⟨free, rfl⟩
    · rintro ⟨-, rfl⟩
      rfl

theorem insertOrIgnore_cases (clashes : Row → Bool) (row : Row) (rows : List Row) :
    (insertOrIgnore clashes row rows = rows ∧ ∃ other ∈ rows, clashes other = true) ∨
      insertOrIgnore clashes row rows = rows ++ [row] ∧
        ∀ other ∈ rows, clashes other = false := by
  unfold insertOrIgnore
  split
  · rename_i clashing
    exact .inl ⟨rfl, List.any_eq_true.mp clashing⟩
  · rename_i free
    simp only [List.any_eq_true, not_exists, not_and, Bool.not_eq_true] at free
    exact .inr ⟨rfl, free⟩

theorem nodup_insertOrIgnore {row : Row} (key : Row → Column) (unique : (rows.map key).Nodup)
    (clashing : ∀ other ∈ rows, key other = key row → clashes other = true) :
    ((insertOrIgnore clashes row rows).map key).Nodup := by
  rcases insertOrIgnore_cases clashes row rows with ⟨same, -⟩ | ⟨appended, free⟩
  · rwa [same]
  · rw [appended, List.map_append]
    refine List.Nodup.append unique (List.nodup_singleton _) fun value isOld isNew => ?_
    obtain ⟨other, member, rfl⟩ := List.mem_map.mp isOld
    have clash := clashing other member (List.mem_singleton.mp isNew)
    rw [free other member] at clash
    exact absurd clash (by simp)

theorem mem_insertOrIgnore_of_mem {row : Row} {other : Row} (member : other ∈ rows) :
    other ∈ insertOrIgnore clashes row rows := by
  rcases insertOrIgnore_cases clashes row rows with ⟨same, -⟩ | ⟨appended, -⟩
  · rwa [same]
  · rw [appended]
    exact List.mem_append_left _ member

end SqlTable

end PyLib
