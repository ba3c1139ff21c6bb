import CyberLion.LpclRoundTrip

/-!
# Line boundaries in LPCL payloads

A line boundary inside a payload cuts its statement in the middle of a string.
The parser reads the first part as a payload of its own and rejects it, so the
round trip succeeds exactly on the texts without such a boundary.
-/

namespace CyberLion

open PyLib ProcessIR Json

namespace Lpcl

/-! ### What the parser accepts -/

theorem loads_of_parseStatements {lines : List PyStr} {seen fields : List (PyStr × Json)}
    (parsed : parseStatements seen lines = .ok fields) :
    ∀ line ∈ lines, ∃ value,
      loads (strictHooks parseError) (partition 0x20 line).2.2 = .ok value := by
  induction lines generalizing seen with
  | nil => simp
  | cons line lines ih =>
    rw [parseStatements] at parsed
    dsimp only at parsed
    split at parsed
    · simp only [bind_eq_ok, parseValue, rethrow_eq_ok] at parsed
      obtain ⟨-, -, value, loaded, rest⟩ := parsed
      rw [List.forall_mem_cons]
      exact ⟨⟨value, loaded⟩, ih rest⟩
    · simp at parsed

theorem line_cases_of_parseLpcl {source : PyStr} {ir : CanonicalProcessIR}
    (parsed : parseLpcl source = .ok ir) :
    ∀ line ∈ sourceLines source, line = header ∨ line = endMarker ∨
      ∃ value, loads (strictHooks parseError) (partition 0x20 line).2.2 = .ok value := by
  simp only [parseLpcl, bind_eq_ok, raiseIf_eq_ok, not_or, ne_eq, not_not] at parsed
  obtain ⟨_, ⟨first, last⟩, fields, statementsRead, -⟩ := parsed
  intro line member
  cases shape : sourceLines source with
  | nil => simp [shape] at member
  | cons head tail =>
    rw [shape] at first last member statementsRead
    rw [List.head?_cons, Option.some.injEq] at first
    rcases List.mem_cons.mp member with rfl | member
    · exact .inl first
    · have nonempty : tail ≠ [] := List.ne_nil_of_mem member
      rw [List.getLast?_cons_of_ne_nil nonempty,
        List.getLast?_eq_getLast_of_ne_nil nonempty, Option.some.injEq] at last
      rw [← List.dropLast_append_getLast nonempty, last, List.mem_append,
        List.mem_singleton] at member
      rcases member with member | rfl
      · exact .inr (.inr (loads_of_parseStatements statementsRead line
          (by simpa using member)))
      · exact .inr (.inl rfl)

/-! ### A cut statement -/

theorem run_ne_outside_of_append_blank {text blank : PyStr}
    (isBlank : ∀ c ∈ blank, c.isSpace = true)
    (inside : Lex.run .outside (text ++ blank) ≠ .outside) :
    Lex.run .outside text ≠ .outside := by
  intro ended
  refine inside ?_
  rw [Lex.run_append, ended]
  refine Lex.run_outside_of_noQuote fun c member isQuote => ?_
  have space := isBlank c member
  simp [CodePoint.isSpace, isQuote] at space

theorem lstrip_eq_self {c : CodePoint} {text : PyStr} (solid : c.isSpace = false) :
    lstrip (c :: text) = c :: text := by
  simp [lstrip, solid]

theorem exists_cut_payload {statement : PyStr × PyStr} (member : statement ∈ statements)
    {before : PyStr} (inside : Lex.run .outside before ≠ .outside) :
    ∃ payload, strip (statement.1 ++ 0x20 :: before) = statement.1 ++ 0x20 :: payload ∧
      Lex.run .outside payload ≠ .outside := by
  obtain ⟨⟨first, rest, shape, solid⟩, -, -⟩ := statements_plain statement member
  have leftKept : lstrip (statement.1 ++ 0x20 :: before) = statement.1 ++ 0x20 :: before := by
    rw [shape, List.cons_append, lstrip_eq_self solid]
  obtain ⟨blank, split, isBlank⟩ := exists_rstrip_append (statement.1 ++ 0x20 :: before)
  rw [strip, leftKept]
  rw [List.append_cons] at split
  rcases List.append_eq_append_iff.mp split with
    ⟨payload, kept, beforeEq⟩ | ⟨dropped, -, blankEq⟩
  · refine ⟨payload, by rw [List.append_cons, kept, ← List.append_cons], ?_⟩
    rw [beforeEq] at inside
    exact run_ne_outside_of_append_blank isBlank inside
  · -- the whole payload would be white space, which opens no string
    refine absurd (Lex.run_outside_of_noQuote fun c inBefore isQuote => ?_) inside
    have space := isBlank c (by rw [blankEq]; exact List.mem_append_right _ inBefore)
    simp [CodePoint.isSpace, isQuote] at space

theorem parseLpcl_ne_ok_of_cut {source before : PyStr} {statement : PyStr × PyStr}
    (member : statement ∈ statements) (inside : Lex.run .outside before ≠ .outside)
    (isLine : statement.1 ++ 0x20 :: before ∈ splitLines source) (ir : CanonicalProcessIR) :
    parseLpcl source ≠ .ok ir := by
  intro parsed
  obtain ⟨payload, stripped, stillInside⟩ := exists_cut_payload member inside
  have inLines : statement.1 ++ 0x20 :: payload ∈ sourceLines source := by
    rw [sourceLines, List.mem_filter, ← stripped]
    exact ⟨List.mem_map_of_mem isLine, by simp [stripped]⟩
  have parts := partition_statementLine member payload
  rcases line_cases_of_parseLpcl parsed _ inLines with isHeader | isEnd | ⟨value, loaded⟩
  · rw [isHeader] at parts
    have noStatement : ∀ other ∈ statements, other.1 ≠ py "LPCL" := by decide
    exact noStatement statement member (congrArg Prod.fst parts).symm
  · rw [isEnd] at parts
    have noSeparator : (partition 0x20 endMarker).2.1 = false := by decide
    rw [parts] at noSeparator
    simp at noSeparator
  · rw [parts] at loaded
    exact stillInside (run_outside_of_loads loaded)

/-! ### Broken payloads -/

variable {process : ValidProcess}

theorem exists_broken_statement {c : CodePoint}
    (member : c ∈ process.ir.canonicalBytes.text) (lineBreak : c.isLineBreak = true) :
    ∃ statement ∈ statements, c ∈ render false (process.payload statement.2) := by
  rw [process.text_eq_render, process.value_eq_obj] at member
  obtain ⟨⟨key, value⟩, stored, written⟩ := exists_field_of_mem_render lineBreak member
  have root := (process.mem_keys_iff key).mp (List.mem_map_of_mem stored)
  have isPayload : process.payload key = value := by
    rw [ValidProcess.payload, lookup_of_mem process.keys_nodup stored, Option.getD_some]
  have plainKeys : ∀ name ∈ rootFields,
      (renderText false name).any CodePoint.isLineBreak = false := by decide
  have notInKey := notBreak_of_plain (plainKeys key root) lineBreak
  have inPayload : c ∈ render false (process.payload key) := by
    rw [isPayload]
    exact written.resolve_left notInKey
  have notSchema : key ≠ py "schema_version" := by
    rintro rfl
    rw [payload_schemaVersion] at inPayload
    exact notBreak_of_plain (by decide) lineBreak inPayload
  have isStatement : ∀ name ∈ rootFields, name ≠ py "schema_version" →
      ∃ statement ∈ statements, statement.2 = name := by decide
  obtain ⟨statement, inStatements, rfl⟩ := isStatement key root notSchema
  exact ⟨statement, inStatements, inPayload⟩

theorem exists_renderedSource_split (process : ValidProcess) {statement : PyStr × PyStr}
    (member : statement ∈ statements) :
    ∃ before after, renderedSource process =
      before ++ 0x0A :: (statementLine process statement ++ after) := by
  obtain ⟨front, back, split⟩ := List.append_of_mem member
  have closes : ∀ lines : List PyStr, lines ≠ [] →
      ∃ start, (lines.flatMap fun line => line ++ [0x0A]) = start ++ [0x0A] := by
    intro lines nonempty
    rw [← List.dropLast_append_getLast nonempty, List.flatMap_append, List.flatMap_singleton,
      ← List.append_assoc]
    exact ⟨_, rfl⟩
  obtain ⟨start, shape⟩ := closes (header :: front.map (statementLine process)) (by simp)
  have lines : header :: statements.map (statementLine process) ++ [endMarker] =
      (header :: front.map (statementLine process)) ++
        (statementLine process statement ::
          (back.map (statementLine process) ++ [endMarker])) := by
    simp [split]
  rw [renderedSource, lines, List.flatMap_append, shape, List.flatMap_cons]
  exact ⟨start, _, by rw [List.append_assoc, List.append_assoc]; rfl⟩

theorem parseLpcl_renderedSource_ne_ok (broken : ¬ Unbroken process)
    (ir : CanonicalProcessIR) : parseLpcl (renderedSource process) ≠ .ok ir := by
  simp only [Unbroken, not_forall, Bool.not_eq_false] at broken
  obtain ⟨c, inText, lineBreak⟩ := broken
  obtain ⟨statement, member, written⟩ := exists_broken_statement inText lineBreak
  -- cut the payload at its first line boundary
  obtain ⟨cut, found⟩ := Option.isSome_iff_exists.mp
    (List.find?_isSome.mpr ⟨c, written, lineBreak⟩)
  obtain ⟨cutBreaks, before, after, split, noBreak⟩ := List.find?_eq_some_iff_append.mp found
  have stored := process.mem_fields (statements_root statement member)
  have quoted := quoted_render (process.floatless_of_mem stored)
  rw [split] at quoted
  have inside := quoted.run_ne_outside cutBreaks
  obtain ⟨start, rest, source⟩ := exists_renderedSource_split process member
  refine parseLpcl_ne_ok_of_cut member inside ?_ ir
  have lineUnbroken : ∀ d ∈ statement.1 ++ 0x20 :: before, d.isLineBreak = false := by
    intro d inLine
    rw [List.mem_append, List.mem_cons] at inLine
    rcases inLine with inName | rfl | inBefore
    · exact name_unbroken member d inName
    · decide
    · simpa using noBreak d inBefore
  have shape : statementLine process statement ++ rest =
      (statement.1 ++ 0x20 :: before) ++ cut :: (after ++ rest) := by
    rw [statementLine, split]
    simp
  rw [source, shape]
  exact mem_splitLines lineUnbroken cutBreaks

/-- `parse_lpcl(render_lpcl(ir))` returns `ir` exactly when the canonical text
contains no next line character and no line or paragraph separator. -/
theorem parseLpcl_renderLpcl_iff (process : ValidProcess) :
    (renderLpcl process.ir >>= parseLpcl) = .ok process.ir ↔
      ∀ c ∈ process.ir.canonicalBytes.text,
        c.val ≠ 0x85 ∧ c.val ≠ 0x2028 ∧ c.val ≠ 0x2029 := by
  have printable := (quoted_render process.floatless).printable
  rw [← process.text_eq_render] at printable
  have sameCondition : Unbroken process ↔ ∀ c ∈ process.ir.canonicalBytes.text,
      c.val ≠ 0x85 ∧ c.val ≠ 0x2028 ∧ c.val ≠ 0x2029 := by
    refine forall₂_congr fun c member => ?_
    have := printable c member
    simp only [CodePoint.isLineBreak, Bool.or_eq_false_iff, Bool.and_eq_false_iff,
      decide_eq_false_iff_not, beq_eq_false_iff_ne]
    omega
  rw [renderLpcl_eq, ok_bind, ← sameCondition]
  constructor
  · intro parsed
    by_contra broken
    exact parseLpcl_renderedSource_ne_ok broken process.ir parsed
  · exact parseLpcl_renderedSource

/-! ### A process that does not survive -/

def sampleTransition : Json :=
  .obj [(py "authority_requirements", .arr []), (py "currentness_requirements", .arr []),
    (py "dependencies", .arr []), (py "evidence_requirements", .arr []),
    (py "expected_postconditions", .arr []), (py "guards", .arr []),
    (py "idempotency_class", .str (py "PURE")), (py "operator", .str (py "OBSERVE")),
    (py "outcome_map", .obj [(py "PASS", .str (py "COMPLETE"))]),
    (py "replay_policy", .str (py "DENY")),
    (py "resource_claims", .obj [(py "authority_budgets", .arr []),
      (py "currentness_subjects", .arr []), (py "read_scopes", .arr []),
      (py "reconciliation_group", .str []), (py "replay_domain", .str []),
      (py "write_scopes", .arr [])]),
    (py "retry_policy", .obj [(py "max_attempts", .int 0),
      (py "on_exhausted", .str (py "STOP"))]),
    (py "source_states", .arr [.str (py "OPEN")]), (py "transition_class", .str (py "INTERNAL")),
    (py "transition_id", .str (py "watch")), (py "trigger", .str (py "start"))]

def sampleProcess (missionRef : PyStr) : Json :=
  .obj [(py "dependencies", .arr []), (py "goal_ref", .str (py "goal")),
    (py "initial_state", .str (py "OPEN")),
    (py "lineage", .obj [(py "generation", .int 0), (py "parent_process_digests", .arr []),
      (py "source_refs", .arr [])]),
    (py "mission_ref", .str missionRef), (py "process_id", .str (py "sample")),
    (py "scheduling_policy", .obj [(py "max_wip", .int 1), (py "order", .arr [.str (py "watch")]),
      (py "parallel_safe_groups", .arr []), (py "priorities", .obj [(py "watch", .int 0)]),
      (py "strategy", .str (py "DECLARED_ORDER"))]),
    (py "schema_version", .str (py "1.0.0")),
    (py "scope", .obj [(py "domains", .arr [.str (py "local")]), (py "resources", .arr []),
      (py "widening_allowed", .bool false)]),
    (py "states", .arr [.str (py "OPEN")]),
    (py "termination_policy", .obj [(py "allow_no_legal_transition", .bool true),
      (py "on_unknown", .str (py "STOP")), (py "terminal_states", .arr [.str (py "OPEN")])]),
    (py "transitions", .arr [sampleTransition])]

theorem strict_sampleProcess (missionRef : PyStr) : Strict (sampleProcess missionRef) := by
  simp only [sampleProcess, sampleTransition, strict_obj_iff, strict_arr_iff, strict_str,
    strict_bool, strict_int_iff, List.map_cons, List.map_nil, List.forall_mem_cons,
    List.not_mem_nil, false_implies, implies_true, and_true, true_and]
  decide +kernel

/-- A mission reference that is a single line separator is accepted and lost. -/
theorem parseLpcl_renderLpcl_lineSeparator :
    ∃ ir, CanonicalProcessIR.fromMapping (sampleProcess [0x2028]) = .ok ir ∧
      (renderLpcl ir >>= parseLpcl) ≠ .ok ir := by
  obtain ⟨process, valueEq, accepted⟩ := ValidProcess.exists_of_sorted
    (by decide +kernel : returned (validateProcessIr (sampleProcess [0x2028])) = true)
    (strict_sampleProcess _) (by decide +kernel) rfl (by decide +kernel)
  refine ⟨process.ir, accepted, ?_⟩
  rw [renderLpcl_eq, ok_bind]
  refine parseLpcl_renderedSource_ne_ok (fun unbroken => ?_) process.ir
  have written : (0x2028 : CodePoint) ∈ process.ir.canonicalBytes.text := by
    rw [process.text_eq_render, valueEq]
    decide +kernel
  exact absurd (unbroken _ written) (by decide)

end Lpcl

end CyberLion
