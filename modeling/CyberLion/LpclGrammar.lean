import CyberLion.LpclBreaks
import CyberLion.ProcessCanonicalForm
import CyberLion.PyLines

/-!
# The LPCL grammar

An LPCL source is a document: the header, one line with a strict JSON text for
each of the eleven statements, in any order, and the END marker.  The parser
accepts the documents whose mapping passes the contract and can be written, and
what it returns depends on the values of the statements only.
-/

namespace CyberLion

open PyLib ProcessIR Json

namespace Lpcl

/-! ### Entries -/

abbrev Entry : Type :=
  (PyStr × PyStr) × Json

def Entry.field (entry : Entry) : PyStr × Json :=
  (entry.1.2, entry.2)

def mappingOf (entries : List Entry) : Json :=
  .obj ((py "schema_version", .str (py "1.0.0")) :: entries.map Entry.field)

/-! ### A text with a surrogate -/

def surrogateFields : List (PyStr × Json) :=
  objectFields (sampleProcess [0xD800])

def surrogatePayload (field : PyStr) : Json :=
  (surrogateFields.lookup field).getD .null

def surrogateText (field : PyStr) : PyStr :=
  if field = py "mission_ref" then py "\"\\ud800\"" else render false (surrogatePayload field)

def surrogateLine (statement : PyStr × PyStr) : PyStr :=
  statement.1 ++ 0x20 :: surrogateText statement.2

def surrogateSource : PyStr :=
  (header :: statements.map surrogateLine ++ [endMarker]).flatMap fun line => line ++ [0x0A]

-- One theorem, so that the texts are built once.
theorem surrogateSource_read :
    sourceLines surrogateSource = header :: statements.map surrogateLine ++ [endMarker] ∧
    (∀ statement ∈ statements, statement.2 ∈ surrogateFields.map Prod.fst) ∧
    (mappingOf (statements.map fun statement =>
      (statement, surrogatePayload statement.2))).isPrintable = true ∧
    returned (validateProcessIr (mappingOf (statements.map fun statement =>
      (statement, surrogatePayload statement.2)))) = true := by
  decide +kernel

/-! ### Documents -/

structure Document where
  entries : List Entry
  complete : (entries.map Prod.fst).Perm statements
  distinct : ∀ entry ∈ entries, DistinctKeys entry.2

def IsEntryLine (entry : Entry) (line : PyStr) : Prop :=
  ∃ payload, line = entry.1.1 ++ 0x20 :: payload ∧ IsStrictJson entry.2 payload

namespace Document

def IsSource (document : Document) (text : PyStr) : Prop :=
  ∃ lines, sourceLines text = header :: (lines ++ [endMarker]) ∧
    List.Forall₂ IsEntryLine document.entries lines

def mapping (document : Document) : Json :=
  mappingOf document.entries

def Agrees (document other : Document) : Prop :=
  ∀ statement value otherValue, (statement, value) ∈ document.entries →
    (statement, otherValue) ∈ other.entries → SameValue value otherValue

end Document

/-! ### Statements -/

theorem isStrictReader_strictHooks (error : PyStr → PyError) :
    IsStrictReader (strictHooks error) := by
  constructor
  · intro pairs fields built
    exact (uniqueObject_eq_ok.mp built).1
  · intro name value built
    simp [strictHooks] at built

theorem parseValue_eq_ok {raw : PyStr} {value : Json} :
    parseValue raw = .ok value ↔ loads (strictHooks parseError) raw = .ok value := by
  rw [parseValue, rethrow_eq_ok]

theorem isStrictJson_of_parseValue {raw : PyStr} {value : Json}
    (read : parseValue raw = .ok value) : IsStrictJson value raw ∧ DistinctKeys value :=
  ⟨isStrictJson_of_loads (isStrictReader_strictHooks _) (parseValue_eq_ok.mp read),
    distinctKeys_of_loads (returnsDistinct_strictHooks _) (parseValue_eq_ok.mp read)⟩

theorem parseValue_of_isStrictJson {raw : PyStr} {value : Json} (isText : IsStrictJson value raw)
    (distinct : DistinctKeys value) (printable : value.isPrintable = true) :
    parseValue raw = .ok value :=
  parseValue_eq_ok.mpr (isText.loads_eq (keepsDistinct_strictHooks _) distinct printable)

theorem fields_nodup : (statements.map Prod.snd).Nodup := by
  decide

theorem lookup_statements {statement : PyStr × PyStr} (member : statement ∈ statements) :
    statements.lookup statement.1 = some statement.2 :=
  (statements_plain statement member).2.2

theorem eq_of_field {statement other : PyStr × PyStr} (member : statement ∈ statements)
    (otherMember : other ∈ statements) (same : statement.2 = other.2) : statement = other :=
  List.inj_on_of_nodup_map fields_nodup member otherMember same

def ReadsEntry (entry : Entry) (line : PyStr) : Prop :=
  entry.1 ∈ statements ∧ ∃ payload, line = entry.1.1 ++ 0x20 :: payload ∧
    parseValue payload = .ok entry.2

theorem eq_append_of_partition {separator : CodePoint} {text before after : PyStr}
    (parts : partition separator text = (before, true, after)) :
    text = before ++ separator :: after := by
  induction text generalizing before with
  | nil => simp [partition] at parts
  | cons c text ih =>
    rw [partition] at parts
    split at parts
    · rename_i isSeparator
      simp only [Prod.mk.injEq, true_and] at parts
      rw [← parts.1, parts.2, isSeparator, List.nil_append]
    · simp only [Prod.mk.injEq] at parts
      obtain ⟨rfl, found, rest⟩ := parts
      rw [List.cons_append, ← ih (Prod.ext rfl (Prod.ext found rest))]

theorem parseStatements_eq_ok {seen fields : List (PyStr × Json)} {lines : List PyStr} :
    parseStatements seen lines = .ok fields ↔
      ∃ entries : List Entry, List.Forall₂ ReadsEntry entries lines ∧
        (entries.map fun entry => entry.1.2).Nodup ∧
        (∀ entry ∈ entries, entry.1.2 ∉ seen.map Prod.fst) ∧
        fields = seen ++ entries.map Entry.field := by
  induction lines generalizing seen with
  | nil =>
    simp only [parseStatements, Except.ok.injEq, List.forall₂_nil_right_iff]
    constructor
    · rintro rfl
      exact ⟨[], rfl, by simp, by simp, by simp⟩
    · rintro ⟨entries, rfl, -, -, rfl⟩
      simp
  | cons line lines ih =>
    rw [parseStatements]
    dsimp only
    constructor
    · intro parsed
      split at parsed
      · rename_i separator field found known
        simp only [bind_eq_ok, raiseIf_eq_ok] at parsed
        obtain ⟨_, fresh, value, read, rest⟩ := parsed
        obtain ⟨entries, reads, distinct, others, rfl⟩ := ih.mp rest
        have isLine := eq_append_of_partition (Prod.ext rfl (Prod.ext found rfl) :
          partition 0x20 line = ((partition 0x20 line).1, true, (partition 0x20 line).2.2))
        refine ⟨((_, field), value) :: entries, .cons ⟨mem_of_lookup known, _, isLine, read⟩
          reads, ?_, ?_, by simp [Entry.field]⟩
        · rw [List.map_cons, List.nodup_cons]
          refine ⟨fun again => ?_, distinct⟩
          obtain ⟨entry, member, same⟩ := List.mem_map.mp again
          refine others entry member ?_
          rw [same]
          simp
        · rw [List.forall_mem_cons]
          refine ⟨fresh, fun entry member inSeen => others entry member ?_⟩
          rw [List.map_append]
          exact List.mem_append_left _ inSeen
      · simp at parsed
    · rintro ⟨entries, reads, distinct, others, rfl⟩
      cases reads with
      | @cons entry _ entries _ read reads =>
        obtain ⟨member, payload, rfl, value⟩ := read
        rw [List.map_cons, List.nodup_cons] at distinct
        rw [List.forall_mem_cons] at others
        simp only [partition_statementLine member, lookup_statements member]
        rw [raiseIf, if_neg others.1, ok_bind, value, ok_bind]
        refine ih.mpr ⟨entries, reads, distinct.2, fun other otherMember => ?_,
          by simp [Entry.field]⟩
        simp only [List.map_append, List.map_cons, List.map_nil, List.mem_append,
          List.mem_singleton, not_or]
        refine ⟨others.2 other otherMember, fun same => distinct.1 ?_⟩
        rw [← same]
        exact List.mem_map_of_mem otherMember

theorem perm_statements_iff {entries : List Entry}
    (known : ∀ entry ∈ entries, entry.1 ∈ statements) :
    (entries.map Prod.fst).Perm statements ↔
      (entries.map fun entry => entry.1.2).Nodup ∧
        ∀ field ∈ statements.map Prod.snd, field ∈ entries.map fun entry => entry.1.2 := by
  have fields : (entries.map fun entry => entry.1.2) = (entries.map Prod.fst).map Prod.snd := by
    rw [List.map_map]
    rfl
  rw [fields]
  constructor
  · intro arrangement
    have sameFields := arrangement.map Prod.snd
    exact ⟨sameFields.nodup_iff.mpr fields_nodup, fun field member => sameFields.mem_iff.mpr member⟩
  · rintro ⟨distinct, complete⟩
    rw [List.perm_ext_iff_of_nodup (List.Nodup.of_map _ distinct)
      (List.Nodup.of_map _ fields_nodup)]
    intro statement
    constructor
    · intro member
      obtain ⟨entry, inEntries, rfl⟩ := List.mem_map.mp member
      exact known entry inEntries
    · intro member
      obtain ⟨other, otherMember, same⟩ :=
        List.mem_map.mp (complete statement.2 (List.mem_map_of_mem member))
      obtain ⟨entry, inEntries, rfl⟩ := List.mem_map.mp otherMember
      rwa [← eq_of_field (known entry inEntries) member same]

/-! ### Accepted sources -/

theorem sourceLines_eq_iff {lines : List PyStr} :
    ¬ (lines.head? ≠ some header ∨ lines.getLast? ≠ some endMarker) ↔
      lines = header :: ((lines.drop 1).dropLast ++ [endMarker]) := by
  simp only [not_or, not_not]
  constructor
  · rintro ⟨first, last⟩
    obtain ⟨rest, rfl⟩ := List.head?_eq_some_iff.mp first
    have nonempty : rest ≠ [] := by
      rintro rfl
      rw [List.getLast?_singleton, Option.some.injEq] at last
      exact absurd last (by decide)
    rw [List.getLast?_cons_of_ne_nil nonempty, List.getLast?_eq_getLast_of_ne_nil nonempty,
      Option.some.injEq] at last
    rw [List.drop_one, List.tail_cons, ← last, List.dropLast_append_getLast nonempty]
  · intro shape
    rw [shape]
    exact ⟨rfl, by rw [← List.cons_append, List.getLast?_concat]⟩

theorem isPrintable_of_mem_mapping {entries : List Entry}
    (printable : (mappingOf entries).isPrintable = true) {entry : Entry}
    (member : entry ∈ entries) : entry.2.isPrintable = true :=
  isPrintable_of_mem_fields printable
    (List.mem_cons_of_mem _ (List.mem_map_of_mem member : entry.field ∈ entries.map Entry.field))

namespace Document

variable {document other : Document}

theorem known {entry : Entry} (member : entry ∈ document.entries) : entry.1 ∈ statements :=
  document.complete.mem_iff.mp (List.mem_map_of_mem member)

theorem keys_mapping : ((py "schema_version", Json.str (py "1.0.0")) ::
    document.entries.map Entry.field).map Prod.fst =
      py "schema_version" :: (document.entries.map Prod.fst).map Prod.snd := by
  simp [Entry.field, Function.comp_def]

theorem schemaVersion_notMem : py "schema_version" ∉ statements.map Prod.snd := by
  decide

theorem distinctKeys_mapping : DistinctKeys document.mapping := by
  refine .obj ?_ ?_
  · rw [keys_mapping, ((document.complete.map Prod.snd).cons _).nodup_iff, List.nodup_cons]
    exact ⟨schemaVersion_notMem, fields_nodup⟩
  · rw [List.forall_mem_cons]
    refine ⟨.str _, fun field member => ?_⟩
    obtain ⟨entry, inEntries, rfl⟩ := List.mem_map.mp member
    exact document.distinct entry inEntries

theorem reads_of_isEntryLine {entries : List Entry} {lines : List PyStr}
    (written : List.Forall₂ IsEntryLine entries lines)
    (known : ∀ entry ∈ entries, entry.1 ∈ statements)
    (distinct : ∀ entry ∈ entries, DistinctKeys entry.2)
    (printable : ∀ entry ∈ entries, entry.2.isPrintable = true) :
    List.Forall₂ ReadsEntry entries lines := by
  induction written with
  | nil => exact .nil
  | cons first others ih =>
    rw [List.forall_mem_cons] at known distinct printable
    obtain ⟨payload, isLine, isText⟩ := first
    exact .cons ⟨known.1, payload, isLine,
        parseValue_of_isStrictJson isText distinct.1 printable.1⟩
      (ih known.2 distinct.2 printable.2)

theorem IsSource.reads {text : PyStr} (source : document.IsSource text)
    (printable : document.mapping.isPrintable = true) :
    ∃ lines, sourceLines text = header :: (lines ++ [endMarker]) ∧
      List.Forall₂ ReadsEntry document.entries lines := by
  obtain ⟨lines, shape, written⟩ := source
  exact ⟨lines, shape, reads_of_isEntryLine written (fun _ member => known member)
    document.distinct fun _ member => isPrintable_of_mem_mapping printable member⟩

end Document

theorem parseLpcl_eq_ok {text : PyStr} {ir : CanonicalProcessIR} :
    parseLpcl text = .ok ir ↔ ∃ document : Document, document.IsSource text ∧
      CanonicalProcessIR.fromMapping document.mapping = .ok ir := by
  simp only [parseLpcl, bind_eq_ok, raiseIf_eq_ok, sourceLines_eq_iff, rethrow_eq_ok,
    ne_eq, not_not, List.filter_eq_nil_iff, decide_eq_true_eq]
  constructor
  · rintro ⟨_, shape, fields, parsed, _, complete, accepted⟩
    obtain ⟨entries, reads, distinct, -, rfl⟩ := parseStatements_eq_ok.mp parsed
    have known : ∀ entry ∈ entries, entry.1 ∈ statements := by
      intro entry member
      obtain ⟨line, -, read⟩ := exists_right_of_forall₂ reads member
      exact read.1
    have values : ∀ entry ∈ entries, DistinctKeys entry.2 := by
      intro entry member
      obtain ⟨line, -, -, payload, -, read⟩ := exists_right_of_forall₂ reads member
      exact (isStrictJson_of_parseValue read).2
    have arrangement := (perm_statements_iff known).mpr ⟨distinct, fun field member => by
      simpa [Entry.field, Function.comp_def] using complete field member⟩
    refine ⟨⟨entries, arrangement, values⟩, ⟨_, shape, ?_⟩, accepted⟩
    refine reads.imp fun entry line read => ?_
    obtain ⟨-, payload, isLine, value⟩ := read
    exact ⟨payload, isLine, (isStrictJson_of_parseValue value).1⟩
  · rintro ⟨document, source, accepted⟩
    have printable := (CanonicalProcessIR.strict_of_fromMapping document.distinctKeys_mapping
      accepted).isPrintable
    obtain ⟨lines, shape, reads⟩ := source.reads printable
    obtain ⟨distinct, complete⟩ := (perm_statements_iff fun _ member =>
      document.known member).mp document.complete
    have body : ((sourceLines text).drop 1).dropLast = lines := by
      rw [shape, List.drop_one, List.tail_cons, List.dropLast_concat]
    rw [body]
    refine ⟨(), shape, _, parseStatements_eq_ok.mpr
      ⟨document.entries, reads, distinct, by simp, rfl⟩, (), fun field member => ?_, accepted⟩
    simpa [Entry.field, Function.comp_def] using complete field member

namespace Document

variable {document other : Document}

theorem exists_fromMapping_iff :
    (∃ ir, CanonicalProcessIR.fromMapping document.mapping = .ok ir) ↔
      returned (validateProcessIr document.mapping) = true ∧
        document.mapping.isPrintable = true ∧ Writable document.mapping := by
  have distinct := document.distinctKeys_mapping
  constructor
  · rintro ⟨ir, accepted⟩
    have strict := CanonicalProcessIR.strict_of_fromMapping distinct accepted
    obtain ⟨bytes, -⟩ := CanonicalProcessIR.fromMapping_eq_ok.mp accepted
    obtain ⟨⟨model, checked⟩, -⟩ := canonicalProcessIrBytes_eq_ok.mp bytes
    have encodable := ir.canonicalBytes.encodable
    rw [CanonicalProcessIR.text_of_fromMapping accepted, isEncodable, List.all_eq_true] at encodable
    exact ⟨by rw [checked]; rfl, strict.isPrintable,
      strict.plain.writable_of_clean (by simpa using encodable)⟩
  · rintro ⟨accepted, printable, writable⟩
    exact CanonicalProcessIR.exists_fromMapping distinct accepted printable
      writable.sortKeys.isEncodable_render

/-! ### Documents that agree -/

theorem field_cases {key : PyStr} {value : Json}
    (stored : (key, value) ∈ (py "schema_version", Json.str (py "1.0.0")) ::
      document.entries.map Entry.field) :
    (key = py "schema_version" ∧ value = .str (py "1.0.0")) ∨
      ∃ statement ∈ statements, statement.2 = key ∧ (statement, value) ∈ document.entries := by
  rcases List.mem_cons.mp stored with same | stored
  · exact .inl (Prod.mk.inj same)
  · obtain ⟨⟨statement, stored⟩, member, same⟩ := List.mem_map.mp stored
    obtain ⟨rfl, rfl⟩ := Prod.mk.inj same
    exact .inr ⟨statement, document.known member, rfl, member⟩

theorem Agrees.sameValue (agrees : document.Agrees other) :
    SameValue document.mapping other.mapping := by
  have notVersion : ∀ statement ∈ statements, statement.2 ≠ py "schema_version" :=
    fun statement member same => schemaVersion_notMem (same ▸ List.mem_map_of_mem member)
  refine .obj (fun key => ?_) fun key value otherValue stored otherStored => ?_
  · rw [keys_mapping, keys_mapping]
    exact (((document.complete.trans other.complete.symm).map Prod.snd).cons _).mem_iff
  · rcases field_cases stored with ⟨isVersion, rfl⟩ | ⟨statement, member, isField, inEntries⟩
    · rcases field_cases otherStored with ⟨-, rfl⟩ | ⟨statement, member, isField, -⟩
      · exact .str _
      · exact absurd (isField.trans isVersion) (notVersion statement member)
    · rcases field_cases otherStored with ⟨isVersion, -⟩ | ⟨second, secondMember, same, inOther⟩
      · exact absurd (isField.trans isVersion) (notVersion statement member)
      · obtain rfl := eq_of_field member secondMember (isField.trans same.symm)
        exact agrees statement value otherValue inEntries inOther

theorem IsSource.parseLpcl_of_agrees {text : PyStr} (source : other.IsSource text)
    (agrees : document.Agrees other) {ir : CanonicalProcessIR}
    (accepted : CanonicalProcessIR.fromMapping document.mapping = .ok ir) :
    parseLpcl text = .ok ir :=
  parseLpcl_eq_ok.mpr ⟨other, source, CanonicalProcessIR.fromMapping_of_sameValue
    document.distinctKeys_mapping other.distinctKeys_mapping agrees.sameValue accepted⟩

/-! ### The document of a source -/

theorem readsEntry_unique {entry second : Entry} {line : PyStr} (read : ReadsEntry entry line)
    (secondRead : ReadsEntry second line) : entry = second := by
  obtain ⟨member, payload, rfl, value⟩ := read
  obtain ⟨secondMember, secondPayload, same, secondValue⟩ := secondRead
  have parts := partition_statementLine member payload
  rw [same, partition_statementLine secondMember, Prod.mk.injEq, Prod.mk.injEq] at parts
  obtain ⟨sameName, -, rfl⟩ := parts
  have sameField := lookup_statements member
  rw [← sameName, lookup_statements secondMember, Option.some.injEq] at sameField
  rw [value, Except.ok.injEq] at secondValue
  exact Prod.ext (Prod.ext sameName.symm sameField.symm) secondValue

theorem IsSource.unique {text : PyStr} (source : document.IsSource text)
    (otherSource : other.IsSource text) (printable : document.mapping.isPrintable = true)
    (otherPrintable : other.mapping.isPrintable = true) : other = document := by
  obtain ⟨lines, shape, reads⟩ := source.reads printable
  obtain ⟨otherLines, otherShape, otherReads⟩ := otherSource.reads otherPrintable
  rw [shape, List.cons.injEq, List.append_cancel_right_eq] at otherShape
  obtain ⟨-, rfl⟩ := otherShape
  have leftUnique : Relator.LeftUnique ReadsEntry := fun _ _ _ => readsEntry_unique
  have same := List.left_unique_forall₂' leftUnique otherReads reads
  cases document
  cases other
  simp only [mk.injEq]
  exact same

/-! ### The lines of a source -/

theorem isPrefixOf_iff {statement : PyStr × PyStr} (member : statement ∈ statements)
    {entry : Entry} (known : entry.1 ∈ statements) {line : PyStr} (isLine : IsEntryLine entry line) :
    (statement.1 ++ [0x20]).isPrefixOf line = true ↔ entry.1 = statement := by
  obtain ⟨payload, rfl, -⟩ := isLine
  constructor
  · intro starts
    obtain ⟨rest, split⟩ := List.isPrefixOf_iff_prefix.mp starts
    rw [List.append_assoc] at split
    have parts := partition_statementLine known payload
    rw [← split, List.singleton_append, partition_statementLine member, Prod.mk.injEq] at parts
    have sameField := lookup_statements known
    rw [← parts.1, lookup_statements member, Option.some.injEq] at sameField
    exact Prod.ext parts.1.symm sameField.symm
  · rintro rfl
    rw [List.isPrefixOf_iff_prefix]
    exact ⟨payload, by simp⟩

theorem countP_lines {entries : List Entry} {lines : List PyStr}
    (written : List.Forall₂ IsEntryLine entries lines)
    (known : ∀ entry ∈ entries, entry.1 ∈ statements) {statement : PyStr × PyStr}
    (member : statement ∈ statements) :
    lines.countP (fun line => (statement.1 ++ [0x20]).isPrefixOf line) =
      (entries.map Prod.fst).count statement := by
  induction written with
  | nil => rfl
  | cons first others ih =>
    rw [List.forall_mem_cons] at known
    rw [List.countP_cons, List.map_cons, List.count_cons, ih known.2]
    simp only [isPrefixOf_iff member known.1 first, beq_iff_eq]

theorem IsSource.lines {text : PyStr} (source : document.IsSource text) :
    (sourceLines text).length = 13 ∧ ∀ statement ∈ statements,
      (sourceLines text).countP (fun line => (statement.1 ++ [0x20]).isPrefixOf line) = 1 := by
  obtain ⟨lines, shape, written⟩ := source
  have length : lines.length = 11 := by
    have entries := document.complete.length_eq
    rw [List.length_map, written.length_eq] at entries
    exact entries
  have marks : ∀ statement ∈ statements,
      (statement.1 ++ [0x20]).isPrefixOf header = false ∧
        (statement.1 ++ [0x20]).isPrefixOf endMarker = false := by
    decide
  have once : ∀ statement ∈ statements, statements.count statement = 1 := by
    decide
  rw [shape]
  refine ⟨by simp [length], fun statement member => ?_⟩
  have entries := countP_lines written (fun _ inEntries => document.known inEntries) member
  rw [document.complete.count_eq, once statement member] at entries
  rw [List.countP_cons, List.countP_append, entries, List.countP_singleton,
    (marks statement member).1, (marks statement member).2]
  rfl

end Document

/-! ### The grammar -/

theorem parseLpcl_of_addsLines {text other : PyStr}
    (adds : AddsLines (fun line => line ≠ []) text other) : parseLpcl other = parseLpcl text := by
  have sameLines : sourceLines other = sourceLines text := adds.keptLines_eq (by simp)
  rw [parseLpcl, parseLpcl, sameLines]

/-- The parser is the grammar with the contract behind it: it accepts the documents
that pass the contract and can be written, and what it returns depends on the values
of the statements only. -/
theorem parseLpcl_grammar (text : PyStr) :
    ((∃ ir, parseLpcl text = .ok ir) ↔ ∃ document : Document, document.IsSource text ∧
      returned (validateProcessIr document.mapping) = true ∧
      document.mapping.isPrintable = true ∧ Writable document.mapping) ∧
    ∀ ir, parseLpcl text = .ok ir →
      (∃ document : Document, document.IsSource text ∧
        (∀ other : Document, other.IsSource text → other.mapping.isPrintable = true →
          other = document) ∧
        CanonicalProcessIR.fromMapping document.mapping = .ok ir ∧
        ∀ (other : Document) (otherText : PyStr), document.Agrees other →
          other.IsSource otherText → parseLpcl otherText = .ok ir) ∧
      (∀ otherText, AddsLines (fun line => line ≠ []) text otherText →
        parseLpcl otherText = .ok ir) ∧
      (sourceLines text).length = 13 ∧ ∀ statement ∈ statements,
        (sourceLines text).countP (fun line => (statement.1 ++ [0x20]).isPrefixOf line) = 1 := by
  constructor
  · constructor
    · rintro ⟨ir, parsed⟩
      obtain ⟨document, source, accepted⟩ := parseLpcl_eq_ok.mp parsed
      exact ⟨document, source, Document.exists_fromMapping_iff.mp ⟨ir, accepted⟩⟩
    · rintro ⟨document, source, contract⟩
      obtain ⟨ir, accepted⟩ := Document.exists_fromMapping_iff.mpr contract
      exact ⟨ir, parseLpcl_eq_ok.mpr ⟨document, source, accepted⟩⟩
  · intro ir parsed
    obtain ⟨document, source, accepted⟩ := parseLpcl_eq_ok.mp parsed
    have printable := (Document.exists_fromMapping_iff.mp ⟨ir, accepted⟩).2.1
    refine ⟨⟨document, source, fun other otherSource otherPrintable => ?_, accepted,
      fun other otherText agrees otherSource => ?_⟩, fun otherText adds => ?_, source.lines⟩
    · exact source.unique otherSource printable otherPrintable
    · exact otherSource.parseLpcl_of_agrees agrees accepted
    · rw [parseLpcl_of_addsLines adds, parsed]

/-- The pair of independent transitions, with a blank line in front of its source. -/
theorem parseLpcl_grammar_pair : ∃ process : ValidProcess, process.value = pairProcess ∧
    parseLpcl (py "\n" ++ renderedSource process) = .ok process.ir := by
  obtain ⟨process, same, -⟩ := exists_pairProcess
  have unbroken : Unbroken process := by
    rw [Unbroken, process.text_eq_render, same]
    have plain : (render false pairProcess).any CodePoint.isLineBreak = false := by
      decide +kernel
    simpa using plain
  have parsed := parseLpcl_renderedSource unbroken
  obtain ⟨-, addsLines, -⟩ := (parseLpcl_grammar (renderedSource process)).2 _ parsed
  have blank : IsLine [] (py "\n") := ⟨by simp, 0x0A, by decide, by decide⟩
  exact ⟨process, same, addsLines _ (blank.addsLines (by simp) _)⟩

/-! ### A document that cannot be written -/

theorem strict_surrogateFields : Strict (.obj surrogateFields) :=
  strict_sampleProcess _

variable {statement : PyStr × PyStr}

theorem mem_surrogateFields (member : statement ∈ statements) :
    (statement.2, surrogatePayload statement.2) ∈ surrogateFields := by
  obtain ⟨-, stored, -⟩ := surrogateSource_read
  obtain ⟨⟨key, value⟩, inFields, isKey⟩ := List.mem_map.mp (stored statement member)
  subst isKey
  rw [surrogatePayload, lookup_of_mem (strict_obj_iff.mp strict_surrogateFields).1 inFields]
  exact inFields

theorem strict_surrogatePayload (member : statement ∈ statements) :
    Strict (surrogatePayload statement.2) :=
  (strict_obj_iff.mp strict_surrogateFields).2 _ (mem_surrogateFields member)

theorem surrogatePayload_mission : surrogatePayload (py "mission_ref") = .str [0xD800] := by
  have stored : (py "mission_ref", Json.str [0xD800]) ∈ surrogateFields := by
    simp [surrogateFields, sampleProcess, objectFields]
  rw [surrogatePayload, lookup_of_mem (strict_obj_iff.mp strict_surrogateFields).1 stored]
  rfl

theorem isStrictJson_surrogateText (member : statement ∈ statements) :
    IsStrictJson (surrogatePayload statement.2) (surrogateText statement.2) := by
  unfold surrogateText
  split
  · rename_i isMission
    rw [isMission, surrogatePayload_mission]
    refine ⟨[], _, [], by rw [List.append_nil, List.nil_append], blank_nil, blank_nil, ?_⟩
    exact .str ⟨[(true, 0xD800)], .cons (.unicode (by decide)) .nil, rfl⟩
  · exact isStrictJson_of_loads (isStrictReader_strictHooks parseError)
      ((strict_surrogatePayload member).loads_render (keepsDistinct_strictHooks parseError))

def surrogateDocument : Document where
  entries := statements.map fun statement => (statement, surrogatePayload statement.2)
  complete := by
    rw [List.map_map]
    exact .of_eq (List.map_id statements)
  distinct := by
    intro entry member
    obtain ⟨statement, inStatements, rfl⟩ := List.mem_map.mp member
    exact (strict_surrogatePayload inStatements).distinctKeys

theorem isSource_surrogateSource : surrogateDocument.IsSource surrogateSource := by
  obtain ⟨lines, -⟩ := surrogateSource_read
  refine ⟨statements.map surrogateLine, lines, ?_⟩
  rw [surrogateDocument, List.forall₂_map_left_iff, List.forall₂_map_right_iff, List.forall₂_same]
  exact fun statement member => ⟨_, rfl, isStrictJson_surrogateText member⟩

/-- A lone surrogate passes the contract, but the mapping cannot be encoded. -/
theorem parseLpcl_loneSurrogate : surrogateDocument.IsSource surrogateSource ∧
    returned (validateProcessIr surrogateDocument.mapping) = true ∧
    ∀ ir, parseLpcl surrogateSource ≠ .ok ir := by
  obtain ⟨-, -, surrogatePrintable, valid⟩ := surrogateSource_read
  refine ⟨isSource_surrogateSource, valid, fun ir parsed => ?_⟩
  obtain ⟨document, source, accepted⟩ := parseLpcl_eq_ok.mp parsed
  obtain ⟨-, printable, writable⟩ := Document.exists_fromMapping_iff.mp ⟨ir, accepted⟩
  obtain rfl := source.unique isSource_surrogateSource printable surrogatePrintable
  cases writable with
  | obj keys all =>
    have inEntries : ((py "MISSION", py "mission_ref"), surrogatePayload (py "mission_ref")) ∈
        surrogateDocument.entries := List.mem_map.mpr ⟨_, by decide, rfl⟩
    have mission := all _ (List.mem_cons_of_mem _ (List.mem_map_of_mem inEntries))
    dsimp only [Entry.field] at mission
    rw [surrogatePayload_mission, writable_str_iff] at mission
    exact absurd mission (by decide)

end Lpcl

end CyberLion
