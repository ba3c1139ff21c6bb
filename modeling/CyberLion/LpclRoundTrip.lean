import CyberLion.CanonicalFields

/-!
# The LPCL round trip

`parse_lpcl(render_lpcl(ir))` returns the Process IR exactly when its canonical
text contains none of the line boundaries U+0085, U+2028 and U+2029, which
`json.dumps` leaves as they are and `str.splitlines` cuts at.
-/

namespace CyberLion

open PyLib ProcessIR Json

namespace Lpcl

variable (process : ValidProcess)

/-! ### The rendered source -/

def statementLine (statement : PyStr × PyStr) : PyStr :=
  statement.1 ++ 0x20 :: render false (process.payload statement.2)

def renderedSource : PyStr :=
  (header :: statements.map (statementLine process) ++ [endMarker]).flatMap
    fun line => line ++ [0x0A]

theorem statements_root : ∀ statement ∈ statements, statement.2 ∈ rootFields := by
  decide

variable {statement : PyStr × PyStr}

theorem renderStatement_eq (member : statement ∈ statements) :
    renderStatement process.fields statement = .ok (statementLine process statement) := by
  have root := statements_root statement member
  have stored := process.mem_fields root
  have sorted := process.sortKeys_of_mem stored
  have printable := process.isPrintable_of_mem stored
  rw [renderStatement, process.item_eq root, ok_bind, dumps, if_pos printable, if_pos rfl,
    sorted, ok_bind, statementLine, show py " " = [0x20] by decide, List.append_assoc]
  rfl

theorem mapM_eq_ok_map {α β : Type} {transform : α → Except PyError β} {result : α → β}
    {values : List α} (each : ∀ value ∈ values, transform value = .ok (result value)) :
    values.mapM transform = .ok (values.map result) := by
  rw [mapM_eq_ok, List.forall₂_map_right_iff, List.forall₂_same]
  exact each

theorem renderLpcl_eq : renderLpcl process.ir = .ok (renderedSource process) := by
  have validated := CanonicalProcessIR.validate_eq_ok.mpr
    ⟨rfl, process.value, process.model, process.valid⟩
  have lines := mapM_eq_ok_map fun statement member => renderStatement_eq process member
  rw [renderLpcl, validated, ok_bind, CanonicalProcessIR.asDict, process.valid.parsed, ok_bind,
    ← ValidProcess.fields, lines, ok_bind, show py "\n" = [0x0A] by decide,
    pyJoin_append_separator (by simp)]
  rfl

/-! ### Reading the source back -/

def Unbroken : Prop :=
  ∀ c ∈ process.ir.canonicalBytes.text, c.isLineBreak = false

variable {process}

theorem payload_unbroken (unbroken : Unbroken process) {key : PyStr} (root : key ∈ rootFields) :
    ∀ c ∈ render false (process.payload key), c.isLineBreak = false := by
  intro c written
  refine unbroken c ?_
  rw [process.text_eq_render, process.value_eq_obj]
  exact mem_render_obj (process.mem_fields root) written

theorem statements_plain : ∀ statement ∈ statements,
    (∃ first rest, statement.1 = first :: rest ∧ first.isSpace = false) ∧
      (statement.1.any fun c => c.isLineBreak || c == 0x20) = false ∧
      statements.lookup statement.1 = some statement.2 := by
  simp only [statements, List.forall_mem_cons, List.not_mem_nil, false_implies, forall_const,
    and_true]
  refine ⟨?_, ?_, ?_, ?_, ?_, ?_, ?_, ?_, ?_, ?_, ?_⟩
  all_goals exact ⟨⟨_, _, rfl, by decide⟩, by decide, by decide⟩

theorem name_unbroken (member : statement ∈ statements) :
    ∀ c ∈ statement.1, c.isLineBreak = false := by
  obtain ⟨-, plain, -⟩ := statements_plain statement member
  intro c inName
  have := List.any_eq_false.mp plain c inName
  simp only [Bool.or_eq_true, not_or, Bool.not_eq_true] at this
  exact this.1

theorem statementLine_unbroken (unbroken : Unbroken process) (member : statement ∈ statements) :
    ∀ c ∈ statementLine process statement, c.isLineBreak = false := by
  intro c inLine
  rw [statementLine, List.mem_append, List.mem_cons] at inLine
  rcases inLine with inName | rfl | written
  · exact name_unbroken member c inName
  · decide
  · exact payload_unbroken unbroken (statements_root statement member) c written

theorem strip_line (member : statement ∈ statements) {payload : PyStr} (filled : payload ≠ [])
    (solid : ∀ c ∈ payload.getLast?, c.isSpace = false) :
    strip (statement.1 ++ 0x20 :: payload) = statement.1 ++ 0x20 :: payload := by
  obtain ⟨⟨first, rest, shape, firstSolid⟩, -, -⟩ := statements_plain statement member
  refine strip_eq_self ?_ ?_
  · intro d isHead
    rw [shape, List.cons_append, List.head?_cons, Option.mem_some_iff] at isHead
    exact isHead ▸ firstSolid
  · intro d isLast
    refine solid d ?_
    rwa [List.append_cons, List.getLast?_append_of_ne_nil _ filled] at isLast

theorem render_ne_nil {value : Json} (strict : Strict value) : render false value ≠ [] := by
  obtain ⟨c, tail, shape, -⟩ :=
    exists_render_cons (strict.readable (keepsDistinct_strictHooks contractError))
  simp [shape]

theorem strip_statementLine (member : statement ∈ statements) :
    strip (statementLine process statement) = statementLine process statement ∧
      statementLine process statement ≠ [] := by
  have stored := process.mem_fields (statements_root statement member)
  exact ⟨strip_line member (render_ne_nil (process.strict_of_mem stored))
    (render_getLast_solid (process.floatless_of_mem stored)), by simp [statementLine]⟩

theorem sourceLines_flatMap {lines : List PyStr}
    (noBreak : ∀ line ∈ lines, ∀ c ∈ line, c.isLineBreak = false)
    (kept : ∀ line ∈ lines, strip line = line ∧ line ≠ []) :
    sourceLines (lines.flatMap fun line => line ++ [0x0A]) = lines := by
  rw [sourceLines, splitLines_flatMap noBreak,
    List.map_congr_left fun line member => (kept line member).1, List.map_id',
    List.filter_eq_self.mpr fun line member => by simpa using (kept line member).2]

theorem sourceLines_framed {lines : List PyStr}
    (noBreak : ∀ line ∈ lines, ∀ c ∈ line, c.isLineBreak = false)
    (kept : ∀ line ∈ lines, strip line = line ∧ line ≠ []) :
    sourceLines ((header :: lines ++ [endMarker]).flatMap fun line => line ++ [0x0A]) =
      header :: lines ++ [endMarker] := by
  refine sourceLines_flatMap (fun line member => ?_) fun line member => ?_
  all_goals
    simp only [List.cons_append, List.mem_cons, List.mem_append, List.not_mem_nil,
      or_false] at member
    rcases member with rfl | inLines | rfl
  · simpa using (by decide : header.any CodePoint.isLineBreak = false)
  · exact noBreak line inLines
  · simpa using (by decide : endMarker.any CodePoint.isLineBreak = false)
  · decide
  · exact kept line inLines
  · decide

theorem sourceLines_renderedSource (unbroken : Unbroken process) :
    sourceLines (renderedSource process) =
      header :: statements.map (statementLine process) ++ [endMarker] := by
  refine sourceLines_framed (fun line member => ?_) fun line member => ?_
  all_goals
    obtain ⟨statement, inStatements, rfl⟩ := List.mem_map.mp member
  · exact statementLine_unbroken unbroken inStatements
  · exact strip_statementLine inStatements

theorem parseValue_payload {key : PyStr} (root : key ∈ rootFields) :
    parseValue (render false (process.payload key)) = .ok (process.payload key) := by
  have strict := process.strict_of_mem (process.mem_fields root)
  rw [parseValue, strict.loads_render (keepsDistinct_strictHooks parseError)]
  rfl

theorem partition_statementLine (member : statement ∈ statements) (rest : PyStr) :
    partition 0x20 (statement.1 ++ 0x20 :: rest) = (statement.1, true, rest) := by
  obtain ⟨-, plain, -⟩ := statements_plain statement member
  refine partition_of_notMem _ _ _ fun isSpace => ?_
  have := List.any_eq_false.mp plain _ isSpace
  simp at this

theorem parseStatements_eq {remaining : List (PyStr × PyStr)}
    {seen : List (PyStr × Json)} (known : ∀ statement ∈ remaining, statement ∈ statements)
    (distinct : (remaining.map Prod.snd).Nodup)
    (fresh : ∀ statement ∈ remaining, statement.2 ∉ seen.map Prod.fst) :
    parseStatements seen (remaining.map (statementLine process)) =
      .ok (seen ++ remaining.map fun statement =>
        (statement.2, process.payload statement.2)) := by
  induction remaining generalizing seen with
  | nil => simp [parseStatements]
  | cons statement remaining ih =>
    rw [List.forall_mem_cons] at known fresh
    rw [List.map_cons, List.nodup_cons] at distinct
    obtain ⟨-, -, found⟩ := statements_plain statement known.1
    have notSeen : ¬ statement.2 ∈ seen.map Prod.fst := fresh.1
    rw [List.map_cons, parseStatements, statementLine, partition_statementLine known.1]
    simp only [found, raiseIf, if_neg notSeen, ok_bind,
      parseValue_payload (statements_root statement known.1)]
    rw [ih known.2 distinct.2 ?_]
    · simp
    · intro other member
      simp only [List.map_append, List.map_cons, List.map_nil, List.mem_append,
        List.mem_singleton, not_or]
      refine ⟨fresh.2 other member, fun same => distinct.1 ?_⟩
      rw [← same]
      exact List.mem_map_of_mem member

/-! ### The mapping that the parser builds -/

variable (process)

def statementFields : List (PyStr × Json) :=
  statements.map fun statement => (statement.2, process.payload statement.2)

/-- The fields that the parser hands to `from_mapping`. -/
def mappingFields : List (PyStr × Json) :=
  (py "schema_version", .str (py "1.0.0")) :: statementFields process

theorem keys_mappingFields :
    (mappingFields process).map Prod.fst = py "schema_version" :: statements.map Prod.snd := by
  simp [mappingFields, statementFields, Function.comp_def]

theorem payload_schemaVersion :
    process.payload (py "schema_version") = .str (py "1.0.0") := by
  obtain ⟨entries, root, checked⟩ := bind_eq_ok.mp process.valid.checked
  obtain rfl : entries = process.fields :=
    Except.ok.inj ((exactObject_of_rootObject root).symm.trans process.exactObject_fields)
  obtain ⟨stored, read, version⟩ := bind_eq_ok.mp checked
  obtain rfl : process.payload (py "schema_version") = stored :=
    Except.ok.inj ((process.item_eq (by decide)).symm.trans read)
  obtain ⟨_, sameVersion, -⟩ := bind_eq_ok.mp version
  unfold validateSchemaVersion at sameVersion
  split at sameVersion
  · rename_i content shape
    rw [raiseIf_eq_ok, not_not] at sameVersion
    rw [shape, sameVersion]
    rfl
  · simp at sameVersion

theorem mappingFields_perm : (mappingFields process).Perm process.fields := by
  have distinct : ((mappingFields process).map Prod.fst).Nodup := by
    rw [keys_mappingFields]
    decide
  rw [List.perm_ext_iff_of_nodup (List.Nodup.of_map _ distinct)
    (List.Nodup.of_map _ process.keys_nodup)]
  rintro ⟨key, value⟩
  constructor
  · intro member
    rcases List.mem_cons.mp member with same | member
    · rw [same, ← payload_schemaVersion process]
      exact process.mem_fields (by decide)
    · obtain ⟨statement, inStatements, same⟩ := List.mem_map.mp member
      rw [← same]
      exact process.mem_fields (statements_root statement inStatements)
  · intro member
    have root := (process.mem_keys_iff key).mp (List.mem_map_of_mem member)
    have stored := lookup_of_mem process.keys_nodup member
    have isPayload : process.payload key = value := by
      rw [ValidProcess.payload, stored, Option.getD_some]
    rw [mappingFields, List.mem_cons]
    by_cases isSchema : key = py "schema_version"
    · left
      rw [← isPayload, isSchema, payload_schemaVersion]
    · right
      have isStatement : ∀ name ∈ rootFields, name ≠ py "schema_version" →
          ∃ statement ∈ statements, statement.2 = name := by decide
      obtain ⟨statement, inStatements, same⟩ := isStatement key root isSchema
      exact List.mem_map.mpr ⟨statement, inStatements, by rw [same, isPayload]⟩

theorem validateRoot_eq_of_lookup {first second : List (PyStr × Json)}
    (same : ∀ key, first.lookup key = second.lookup key) :
    validateRoot first = validateRoot second := by
  have sameItem : item first = item second := by
    funext key
    rw [item, Json.lookup, same key]
    rfl
  unfold validateRoot
  rw [sameItem]

theorem validateProcessIr_mapping :
    validateProcessIr (.obj (mappingFields process)) = .ok process.model := by
  have arrangement := mappingFields_perm process
  have distinct : ((mappingFields process).map Prod.fst).Nodup :=
    (arrangement.map Prod.fst).nodup_iff.mpr process.keys_nodup
  obtain ⟨entries, root, checked⟩ := bind_eq_ok.mp process.valid.checked
  obtain rfl : entries = process.fields :=
    Except.ok.inj ((exactObject_of_rootObject root).symm.trans process.exactObject_fields)
  have sameKeys : ∀ key, key ∈ (mappingFields process).map Prod.fst ↔ key ∈ rootFields :=
    fun key => ((arrangement.map Prod.fst).mem_iff).trans (process.mem_keys_iff key)
  refine bind_eq_ok.mpr ⟨mappingFields process, ?_, ?_⟩
  · simp only [rootObject, exactObject, bind_eq_ok, raiseIf_eq_ok, not_not, pure_eq_ok, and_true]
    exact ⟨(), fun key member => (sameKeys key).mp member,
      fun key member => (sameKeys key).mpr member⟩
  · rw [validateRoot_eq_of_lookup fun key => lookup_eq_of_perm arrangement distinct key]
    exact checked

theorem dumps_mapping :
    dumps false true (.obj (mappingFields process)) =
      .ok process.ir.canonicalBytes.text := by
  have arrangement := mappingFields_perm process
  have printable : (Json.obj (mappingFields process)).isPrintable = true := by
    rw [Json.isPrintable]
    exact membersPrintable_of_forall fun field member =>
      process.isPrintable_of_mem (arrangement.mem_iff.mp member)
  have sameOrder : (Json.obj (mappingFields process)).sortKeys = process.value.sortKeys := by
    rw [process.value_eq_obj, sortKeys, sortKeys, sortMembers_eq_map, sortMembers_eq_map]
    refine congrArg Json.obj (sortFields_eq_of_perm (arrangement.map _) ?_)
    rw [List.map_map]
    exact (arrangement.map Prod.fst).nodup_iff.mpr process.keys_nodup
  rw [dumps, if_pos printable, if_pos rfl, sameOrder, ← process.text_eq_render_sortKeys]

theorem fromMapping_mapping :
    CanonicalProcessIR.fromMapping (.obj (mappingFields process)) = .ok process.ir := by
  refine CanonicalProcessIR.fromMapping_eq_ok.mpr
    ⟨?_, process.value, process.model, process.valid⟩
  exact canonicalProcessIrBytes_eq_ok.mpr
    ⟨⟨process.model, validateProcessIr_mapping process⟩, dumps_mapping process⟩

variable {process}

theorem parseLpcl_renderedSource (unbroken : Unbroken process) :
    parseLpcl (renderedSource process) = .ok process.ir := by
  have lines := sourceLines_renderedSource unbroken
  have statementsRead : parseStatements [] (statements.map (statementLine process)) =
      .ok (statementFields process) :=
    parseStatements_eq (fun _ member => member) (by decide) (by simp)
  have noneMissing : ((statements.map Prod.snd).filter fun field =>
      field ∉ (statementFields process).map Prod.fst) = [] := by
    have sameKeys : (statementFields process).map Prod.fst = statements.map Prod.snd := by
      simp [statementFields, Function.comp_def]
    rw [sameKeys]
    exact List.filter_eq_nil_iff.mpr fun field member => by simpa using member
  have framed : ¬ ((sourceLines (renderedSource process)).head? ≠ some header ∨
      (sourceLines (renderedSource process)).getLast? ≠ some endMarker) := by
    rw [lines, List.getLast?_concat]
    simp
  have body : ((sourceLines (renderedSource process)).drop 1).dropLast =
      statements.map (statementLine process) := by
    rw [lines, List.cons_append, List.drop_one, List.tail_cons, List.dropLast_concat]
  rw [parseLpcl]
  simp only [raiseIf, if_neg framed, ok_bind, body, statementsRead, noneMissing, ne_eq,
    not_true_eq_false, if_false]
  rw [← mappingFields, fromMapping_mapping]
  rfl

end Lpcl

end CyberLion
