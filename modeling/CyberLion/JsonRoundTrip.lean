import CyberLion.JsonNumber

/-!
# Reading back a JSON value

`json.loads` inverts `json.dumps` on every value the encoder can write.  The
proof follows the value: the scanner consumes exactly the text of a member
and stops at the comma or bracket behind it.
-/

namespace PyLib

namespace Json

mutual

/-- The value that reading back gives: strings decoded, all else kept. -/
def decoded (ensureAscii : Bool) : Json → Json
  | .str value => .str (decodeText ensureAscii value)
  | .arr items => .arr (decodedItems ensureAscii items)
  | .obj fields => .obj (decodedFields ensureAscii fields)
  | .null => .null
  | .bool value => .bool value
  | .int value => .int value
  | .float literal => .float literal

def decodedItems (ensureAscii : Bool) : List Json → List Json
  | [] => []
  | item :: items => decoded ensureAscii item :: decodedItems ensureAscii items

def decodedFields (ensureAscii : Bool) : List (PyStr × Json) → List (PyStr × Json)
  | [] => []
  | (key, value) :: fields =>
    (decodeText ensureAscii key, decoded ensureAscii value) ::
      decodedFields ensureAscii fields

end

/-- The literal of a float that the scanner reads back, whatever stops it. -/
structure FloatText (hooks : Hooks) (literal : PyStr) : Prop where
  starts : ∃ c rest, literal = c :: rest ∧ (c.isAsciiDigit = true ∨ c.val = 0x2D ∨
    c.isAsciiUpper = true)
  scans : ∀ rest, NumberStop rest →
    scanAtom hooks (literal ++ rest) = .ok (.float literal, rest)

mutual

/-- A value whose text the scanner reads back: its integers are convertible,
its floats are literals, and its objects pass the object hook unchanged. -/
def Readable (hooks : Hooks) (ensureAscii : Bool) : Json → Prop
  | .float literal => FloatText hooks literal
  | .int value => isPrintableInt value = true
  | .arr items => ItemsReadable hooks ensureAscii items
  | .obj fields =>
    FieldsReadable hooks ensureAscii fields ∧
      hooks.object (decodedFields ensureAscii fields) =
        .ok (decodedFields ensureAscii fields)
  | .null => True
  | .bool _ => True
  | .str _ => True

def ItemsReadable (hooks : Hooks) (ensureAscii : Bool) : List Json → Prop
  | [] => True
  | item :: items =>
    Readable hooks ensureAscii item ∧ ItemsReadable hooks ensureAscii items

def FieldsReadable (hooks : Hooks) (ensureAscii : Bool) :
    List (PyStr × Json) → Prop
  | [] => True
  | (_, value) :: fields =>
    Readable hooks ensureAscii value ∧ FieldsReadable hooks ensureAscii fields

end

theorem decodedItems_false {items : List Json}
    (same : ∀ item ∈ items, decoded false item = item) :
    decodedItems false items = items := by
  induction items with
  | nil => rfl
  | cons item items ih =>
    rw [decodedItems, same item (by simp),
      ih fun other member => same other (List.mem_cons_of_mem item member)]

theorem decodedFields_false {fields : List (PyStr × Json)}
    (same : ∀ field ∈ fields, decoded false field.2 = field.2) :
    decodedFields false fields = fields := by
  induction fields with
  | nil => rfl
  | cons field fields ih =>
    rw [decodedFields, same field (by simp), decodeText_false,
      ih fun other member => same other (List.mem_cons_of_mem field member)]

@[simp]
theorem decoded_false (value : Json) : decoded false value = value := by
  induction value with
  | arr items ih => rw [decoded, decodedItems_false ih]
  | obj fields ih => rw [decoded, decodedFields_false ih]
  | _ => simp [decoded]

@[simp]
theorem decodedFields_false_eq (fields : List (PyStr × Json)) :
    decodedFields false fields = fields :=
  decodedFields_false fun field _ => decoded_false field.2

/-! ### Containers -/

theorem skipSpace_cons {c : CodePoint} {rest : PyStr}
    (solid : isJsonSpace c = false) : skipSpace (c :: rest) = c :: rest := by
  simp [skipSpace, solid]

theorem FloatText.ofStart (c : CodePoint)
    (isStart : c.isAsciiDigit = true ∨ c.val = 0x2D ∨ c.isAsciiUpper = true) :
    isJsonSpace c = false ∧ c.val ≠ 0x5D ∧ c.val ≠ 0x7D ∧ c.val < 0x80 := by
  simp only [CodePoint.isAsciiDigit, CodePoint.isAsciiUpper, Bool.and_eq_true,
    decide_eq_true_eq] at isStart
  simp only [isJsonSpace, Bool.or_eq_false_iff, beq_eq_false_iff_ne]
  omega

variable {hooks : Hooks} {ensureAscii : Bool}

/-- A rendered value starts with an ASCII character that is neither white
space nor a closing bracket. -/
theorem exists_render_cons {value : Json} (readable : Readable hooks ensureAscii value) :
    ∃ c rest, render ensureAscii value = c :: rest ∧ isJsonSpace c = false ∧
      c.val ≠ 0x5D ∧ c.val ≠ 0x7D ∧ c.val < 0x80 := by
  have ofDigit : ∀ c : CodePoint, c.isAsciiDigit = true →
      isJsonSpace c = false ∧ c.val ≠ 0x5D ∧ c.val ≠ 0x7D ∧ c.val < 0x80 := by
    intro c digit
    simp only [CodePoint.isAsciiDigit, Bool.and_eq_true, decide_eq_true_eq] at digit
    simp only [isJsonSpace, Bool.or_eq_false_iff, beq_eq_false_iff_ne]
    omega
  cases value with
  | null => exact ⟨0x6E, py "ull", by simp only [render]; decide, by decide⟩
  | bool flag =>
    cases flag with
    | true => exact ⟨0x74, py "rue", by simp only [render]; decide, by decide⟩
    | false => exact ⟨0x66, py "alse", by simp only [render]; decide, by decide⟩
  | int number =>
    rcases number with n | n
    · cases shape : natText n with
      | nil => exact absurd shape (natText_ne_nil n)
      | cons c digits =>
        refine ⟨c, digits, by simp only [render, intText, shape], ?_⟩
        exact ofDigit c (natText_isAsciiDigit n c (by simp [shape]))
    · exact ⟨0x2D, natText (n + 1), by
        simp only [render, intText]
        rfl, by decide⟩
  | float literal =>
    rw [Readable] at readable
    obtain ⟨c, tail, rfl, isStart⟩ := readable.starts
    exact ⟨c, tail, by simp only [render], FloatText.ofStart c isStart⟩
  | str text =>
    exact ⟨0x22, escapeText ensureAscii text ++ py "\"", by
      simp only [render, renderText]
      rfl, by decide⟩
  | arr items =>
    rcases items with _ | ⟨item, items⟩
    · exact ⟨0x5B, [0x5D], by simp only [render]; decide, by decide⟩
    · exact ⟨0x5B, render ensureAscii item ++ renderItems ensureAscii items ++ py "]",
        by
          simp only [render, List.append_assoc]
          rfl, by decide⟩
  | obj fields =>
    rcases fields with _ | ⟨⟨key, member⟩, fields⟩
    · exact ⟨0x7B, [0x7D], by simp only [render]; decide, by decide⟩
    exact ⟨0x7B, renderText ensureAscii key ++ py ":" ++ render ensureAscii member ++
      renderFields ensureAscii fields ++ py "\x7d", by
        simp only [render, List.append_assoc]
        rfl, by decide⟩

theorem skipSpace_render {value : Json} (readable : Readable hooks ensureAscii value) (rest : PyStr) :
    skipSpace (render ensureAscii value ++ rest) =
      render ensureAscii value ++ rest := by
  obtain ⟨c, tail, shape, solid, -⟩ := exists_render_cons readable
  rw [shape, List.cons_append, skipSpace_cons solid]

theorem readable_of_mem {items : List Json} (readable : ItemsReadable hooks ensureAscii items)
    {item : Json} (member : item ∈ items) : Readable hooks ensureAscii item := by
  induction items with
  | nil => simp at member
  | cons first items ih =>
    rw [ItemsReadable] at readable
    rcases List.mem_cons.mp member with rfl | member
    · exact readable.1
    · exact ih readable.2 member

theorem readable_of_mem_fields {fields : List (PyStr × Json)}
    (readable : FieldsReadable hooks ensureAscii fields) {field : PyStr × Json}
    (member : field ∈ fields) :
    Readable hooks ensureAscii field.2 := by
  induction fields with
  | nil => simp at member
  | cons first fields ih =>
    rw [FieldsReadable] at readable
    rcases List.mem_cons.mp member with rfl | member
    · exact readable.1
    · exact ih readable.2 member

/-- The reading specification of one value: with fuel for its own text the
scanner returns it and stops behind it. -/
def ReadsBack (hooks : Hooks) (ensureAscii : Bool) (value : Json) : Prop :=
  ∀ fuel rest, (render ensureAscii value).length ≤ fuel → NumberStop rest →
    scanValue hooks fuel (render ensureAscii value ++ rest) =
      .ok (decoded ensureAscii value, rest)

theorem numberStop_cons {c : CodePoint} (rest : PyStr)
    (closing : c.val = 0x2C ∨ c.val = 0x5D ∨ c.val = 0x7D) :
    NumberStop (c :: rest) := by
  intro d isHead
  obtain rfl : c = d := by simpa using isHead
  simp only [CodePoint.isAsciiDigit, Bool.and_eq_false_iff, decide_eq_false_iff_not]
  omega

theorem renderItems_cons_stop (ensureAscii : Bool) (items : List Json) (rest : PyStr) :
    ∃ c tail, renderItems ensureAscii items ++ 0x5D :: rest = c :: tail ∧
      isJsonSpace c = false ∧ (c.val = 0x2C ∨ c.val = 0x5D ∨ c.val = 0x7D) := by
  cases items with
  | nil => exact ⟨0x5D, rest, rfl, by decide, by decide⟩
  | cons item items =>
    exact ⟨0x2C, render ensureAscii item ++ (renderItems ensureAscii items ++
      0x5D :: rest), by
        simp only [renderItems, List.append_assoc]
        rfl, by decide, by decide⟩

theorem renderFields_cons_stop (ensureAscii : Bool)
    (fields : List (PyStr × Json)) (rest : PyStr) :
    ∃ c tail, renderFields ensureAscii fields ++ 0x7D :: rest = c :: tail ∧
      isJsonSpace c = false ∧ (c.val = 0x2C ∨ c.val = 0x5D ∨ c.val = 0x7D) := by
  cases fields with
  | nil => exact ⟨0x7D, rest, rfl, by decide, by decide⟩
  | cons field fields =>
    exact ⟨0x2C, renderText ensureAscii field.1 ++ (py ":" ++
      (render ensureAscii field.2 ++ (renderFields ensureAscii fields ++
        0x7D :: rest))), by
        simp only [renderFields, List.append_assoc]
        rfl, by decide, by decide⟩

theorem scanItems_renderItems {items : List Json} (readable : ItemsReadable hooks ensureAscii items)
    (readsBack : ∀ item ∈ items, ReadsBack hooks ensureAscii item) (fuel : Nat) (rest : PyStr)
    (enough : (renderItems ensureAscii items).length + 1 ≤ fuel) :
    scanItems hooks fuel (renderItems ensureAscii items ++ 0x5D :: rest) =
      .ok (decodedItems ensureAscii items, rest) := by
  induction items generalizing fuel with
  | nil =>
    obtain ⟨fuel, rfl⟩ : ∃ smaller, fuel = smaller + 1 := ⟨fuel - 1, by omega⟩
    rw [renderItems, List.nil_append, scanItems]
    rfl
  | cons item items ih =>
    rw [ItemsReadable] at readable
    rw [renderItems, show py "," = [0x2C] by decide] at enough ⊢
    simp only [List.length_append, List.length_singleton] at enough
    obtain ⟨fuel, rfl⟩ : ∃ smaller, fuel = smaller + 1 := ⟨fuel - 1, by omega⟩
    obtain ⟨c, tail, shape, solid, closing⟩ :=
      renderItems_cons_stop ensureAscii items rest
    have itemScan := readsBack item (by simp) fuel
      (renderItems ensureAscii items ++ 0x5D :: rest) (by omega)
      (by rw [shape]; exact numberStop_cons tail closing)
    have itemsScan := ih readable.2
      (fun other member => readsBack other (List.mem_cons_of_mem item member))
      fuel (by omega)
    simp only [List.append_assoc, List.cons_append, List.nil_append]
    rw [scanItems]
    simp only [show ((0x2C : CodePoint).val = 0x5D) = False by decide,
      show ((0x2C : CodePoint).val = 0x2C) = True by decide, if_true, if_false,
      skipSpace_render readable.1, itemScan, ok_bind]
    rw [shape, skipSpace_cons solid, ← shape, itemsScan]
    rfl

theorem scanField_render (key : PyStr) {value : Json} (readable : Readable hooks ensureAscii value)
    (readsBack : ReadsBack hooks ensureAscii value) (fuel : Nat) (rest : PyStr)
    (enough : (render ensureAscii value).length + 1 ≤ fuel) (stop : NumberStop rest) :
    scanField hooks fuel (renderText ensureAscii key ++ 0x3A ::
        (render ensureAscii value ++ rest)) =
      .ok ((decodeText ensureAscii key, decoded ensureAscii value), rest) := by
  obtain ⟨fuel, rfl⟩ : ∃ smaller, fuel = smaller + 1 := ⟨fuel - 1, by omega⟩
  have valueScan := readsBack fuel rest (by omega) stop
  rw [renderText, show py "\"" = [0x22] by decide]
  simp only [List.append_assoc, List.cons_append, List.nil_append]
  rw [scanField]
  simp only [show ((0x22 : CodePoint).val = 0x22) = True by decide, if_true,
    scanText_escapeText, ok_bind]
  rw [skipSpace_cons (by decide)]
  simp only [show ((0x3A : CodePoint).val = 0x3A) = True by decide, if_true,
    skipSpace_render readable, valueScan, ok_bind]
  rfl

theorem scanFields_renderFields {fields : List (PyStr × Json)}
    (readable : FieldsReadable hooks ensureAscii fields)
    (readsBack : ∀ field ∈ fields, ReadsBack hooks ensureAscii field.2) (fuel : Nat) (rest : PyStr)
    (enough : (renderFields ensureAscii fields).length + 1 ≤ fuel) :
    scanFields hooks fuel (renderFields ensureAscii fields ++ 0x7D :: rest) =
      .ok (decodedFields ensureAscii fields, rest) := by
  induction fields generalizing fuel with
  | nil =>
    obtain ⟨fuel, rfl⟩ : ∃ smaller, fuel = smaller + 1 := ⟨fuel - 1, by omega⟩
    rw [renderFields, List.nil_append, scanFields]
    rfl
  | cons field fields ih =>
    obtain ⟨key, value⟩ := field
    rw [FieldsReadable] at readable
    rw [renderFields, show py "," = [0x2C] by decide,
      show py ":" = [0x3A] by decide] at enough ⊢
    simp only [List.length_append, List.length_singleton] at enough
    obtain ⟨fuel, rfl⟩ : ∃ smaller, fuel = smaller + 1 := ⟨fuel - 1, by omega⟩
    obtain ⟨c, tail, shape, solid, closing⟩ :=
      renderFields_cons_stop ensureAscii fields rest
    have fieldScan := scanField_render key readable.1
      (readsBack (key, value) (by simp)) fuel
      (renderFields ensureAscii fields ++ 0x7D :: rest) (by omega)
      (by rw [shape]; exact numberStop_cons tail closing)
    have fieldsScan := ih readable.2
      (fun other member => readsBack other (List.mem_cons_of_mem _ member))
      fuel (by omega)
    have keySolid : ∀ after, skipSpace (renderText ensureAscii key ++ after) =
        renderText ensureAscii key ++ after := by
      intro after
      rw [renderText, show py "\"" = [0x22] by decide]
      exact skipSpace_cons (by decide)
    simp only [List.append_assoc, List.cons_append, List.nil_append]
    rw [scanFields]
    simp only [show ((0x2C : CodePoint).val = 0x7D) = False by decide,
      show ((0x2C : CodePoint).val = 0x2C) = True by decide, if_true, if_false,
      keySolid, fieldScan, ok_bind]
    rw [shape, skipSpace_cons solid, ← shape, fieldsScan]
    rfl

theorem readsBack {value : Json} (readable : Readable hooks ensureAscii value) :
    ReadsBack hooks ensureAscii value := by
  induction value with
  | null =>
    intro fuel rest enough stop
    obtain ⟨fuel, rfl⟩ : ∃ smaller, fuel = smaller + 1 := ⟨fuel - 1, by
      have : (render ensureAscii .null).length = 4 := by simp only [render]; decide
      omega⟩
    rw [render, show py "null" = 0x6E :: py "ull" by decide]
    rfl
  | bool flag =>
    intro fuel rest enough stop
    obtain ⟨fuel, rfl⟩ : ∃ smaller, fuel = smaller + 1 := ⟨fuel - 1, by
      have : 0 < (render ensureAscii (.bool flag)).length := by
        cases flag <;> (simp only [render]; decide)
      omega⟩
    cases flag with
    | true =>
      rw [render, show py "true" = 0x74 :: py "rue" by decide]
      rfl
    | false =>
      rw [render, show py "false" = 0x66 :: py "alse" by decide]
      rfl
  | int number =>
    intro fuel rest enough stop
    obtain ⟨c, tail, shape, -⟩ := exists_render_cons readable
    rw [shape, List.length_cons] at enough
    obtain ⟨fuel, rfl⟩ : ∃ smaller, fuel = smaller + 1 := ⟨fuel - 1, by omega⟩
    rw [Readable] at readable
    have scanned := scanAtom_intText hooks stop readable
    rw [render] at shape
    have notSpecial : c.val ≠ 0x22 ∧ c.val ≠ 0x5B ∧ c.val ≠ 0x7B := by
      cases number with
      | ofNat n =>
        rw [intText] at shape
        have digit := natText_isAsciiDigit n c (by simp [shape])
        simp only [CodePoint.isAsciiDigit, Bool.and_eq_true,
          decide_eq_true_eq] at digit
        omega
      | negSucc n =>
        rw [intText, show py "-" = [0x2D] by decide] at shape
        obtain rfl : 0x2D = c := (List.cons.inj shape).1
        decide
    rw [render, decoded, ← scanned, shape, List.cons_append, scanValue.eq_def]
    simp only [notSpecial, if_false]
  | float literal =>
    intro fuel rest enough stop
    rw [Readable] at readable
    obtain ⟨c, tail, rfl, isStart⟩ := readable.starts
    rw [render, List.length_cons] at enough
    obtain ⟨fuel, rfl⟩ : ∃ smaller, fuel = smaller + 1 := ⟨fuel - 1, by omega⟩
    have notSpecial : c.val ≠ 0x22 ∧ c.val ≠ 0x5B ∧ c.val ≠ 0x7B := by
      simp only [CodePoint.isAsciiDigit, CodePoint.isAsciiUpper, Bool.and_eq_true,
        decide_eq_true_eq] at isStart
      omega
    rw [render, decoded, ← readable.scans rest stop, List.cons_append, scanValue.eq_def]
    simp only [notSpecial, if_false]
  | str text =>
    intro fuel rest enough stop
    obtain ⟨fuel, rfl⟩ : ∃ smaller, fuel = smaller + 1 := ⟨fuel - 1, by
      have : 0 < (render ensureAscii (.str text)).length := by
        simp only [render, renderText, List.length_append]
        exact Nat.lt_of_lt_of_le (by decide : 0 < (py "\"").length) (by omega)
      omega⟩
    rw [render, renderText, show py "\"" = [0x22] by decide]
    simp only [List.append_assoc, List.cons_append, List.nil_append]
    rw [scanValue.eq_def]
    simp only [show ((0x22 : CodePoint).val = 0x22) = True by decide, if_true,
      scanText_escapeText, ok_bind]
    rfl
  | arr items ih =>
    intro fuel rest enough stop
    cases items with
    | nil =>
      rw [render, show py "[]" = [0x5B, 0x5D] by decide] at enough ⊢
      obtain ⟨fuel, rfl⟩ : ∃ smaller, fuel = smaller + 1 :=
        ⟨fuel - 1, by simp at enough; omega⟩
      rfl
    | cons item items =>
      rw [Readable, ItemsReadable] at readable
      rw [render, show py "[" = [0x5B] by decide,
        show py "]" = [0x5D] by decide] at enough ⊢
      simp only [List.length_append, List.length_singleton] at enough
      obtain ⟨fuel, rfl⟩ : ∃ smaller, fuel = smaller + 1 := ⟨fuel - 1, by omega⟩
      obtain ⟨c, tail, shape, solid, closing⟩ :=
        renderItems_cons_stop ensureAscii items rest
      obtain ⟨first, itemTail, itemShape, firstSolid, notBracket, -⟩ :=
        exists_render_cons readable.1
      have itemScan := ih item (by simp) readable.1 fuel
        (renderItems ensureAscii items ++ 0x5D :: rest) (by omega)
        (by rw [shape]; exact numberStop_cons tail closing)
      have readsMembers : ∀ other ∈ items, ReadsBack hooks ensureAscii other := by
        intro other member
        exact ih other (by simp [member]) (readable_of_mem readable.2 member)
      have itemsScan := scanItems_renderItems readable.2 readsMembers
        fuel rest (by omega)
      simp only [List.append_assoc, List.cons_append, List.nil_append]
      rw [scanValue.eq_def]
      simp only [show ((0x5B : CodePoint).val = 0x22) = False by decide,
        show ((0x5B : CodePoint).val = 0x5B) = True by decide, if_true, if_false]
      rw [itemShape, List.cons_append, skipSpace_cons firstSolid]
      rw [itemShape, List.cons_append] at itemScan
      simp only [notBracket, if_false, itemScan, ok_bind]
      rw [shape, skipSpace_cons solid, ← shape, itemsScan]
      rfl
  | obj fields ih =>
    intro fuel rest enough stop
    cases fields with
    | nil =>
      rw [Readable, decodedFields] at readable
      rw [render, show py "\x7b\x7d" = [0x7B, 0x7D] by decide] at enough ⊢
      obtain ⟨fuel, rfl⟩ : ∃ smaller, fuel = smaller + 1 :=
        ⟨fuel - 1, by simp at enough; omega⟩
      simp only [List.cons_append, List.nil_append]
      rw [scanValue.eq_def]
      simp only [show ((0x7B : CodePoint).val = 0x22) = False by decide,
        show ((0x7B : CodePoint).val = 0x5B) = False by decide,
        show ((0x7B : CodePoint).val = 0x7B) = True by decide, if_true, if_false]
      rw [skipSpace_cons (by decide)]
      simp only [show ((0x7D : CodePoint).val = 0x7D) = True by decide, if_true,
        readable.2, ok_bind]
      rfl
    | cons field fields =>
      obtain ⟨key, member⟩ := field
      rw [Readable, FieldsReadable] at readable
      obtain ⟨⟨memberReadable, fieldsReadable⟩, hookAccepts⟩ := readable
      rw [render, show py "\x7b" = [0x7B] by decide,
        show py ":" = [0x3A] by decide,
        show py "\x7d" = [0x7D] by decide] at enough ⊢
      simp only [List.length_append, List.length_singleton] at enough
      obtain ⟨fuel, rfl⟩ : ∃ smaller, fuel = smaller + 1 := ⟨fuel - 1, by omega⟩
      obtain ⟨c, tail, shape, solid, closing⟩ :=
        renderFields_cons_stop ensureAscii fields rest
      have fieldScan := scanField_render key memberReadable
        (ih (key, member) (by simp) memberReadable) fuel
        (renderFields ensureAscii fields ++ 0x7D :: rest) (by omega)
        (by rw [shape]; exact numberStop_cons tail closing)
      have readsMembers :
          ∀ other ∈ fields, ReadsBack hooks ensureAscii other.2 := by
        intro other otherMem
        exact ih other (by simp [otherMem])
          (readable_of_mem_fields fieldsReadable otherMem)
      have fieldsScan := scanFields_renderFields fieldsReadable readsMembers
        fuel rest (by omega)
      simp only [List.append_assoc, List.cons_append, List.nil_append]
      rw [scanValue.eq_def]
      simp only [show ((0x7B : CodePoint).val = 0x22) = False by decide,
        show ((0x7B : CodePoint).val = 0x5B) = False by decide,
        show ((0x7B : CodePoint).val = 0x7B) = True by decide, if_true, if_false]
      have keyShape : renderText ensureAscii key =
          0x22 :: (escapeText ensureAscii key ++ py "\"") := by
        rw [renderText]
        rfl
      rw [keyShape, List.cons_append, skipSpace_cons (by decide)]
      rw [keyShape, List.cons_append] at fieldScan
      simp only [show ((0x22 : CodePoint).val = 0x7D) = False by decide, if_false,
        fieldScan, ok_bind]
      rw [shape, skipSpace_cons solid, ← shape, fieldsScan]
      simp only [ok_bind]
      rw [← decodedFields, hookAccepts]
      rfl

theorem loads_render {value : Json} (readable : Readable hooks ensureAscii value) :
    loads hooks (render ensureAscii value) = .ok (decoded ensureAscii value) := by
  have scanned := readsBack readable (2 * (render ensureAscii value).length + 2) []
    (by omega) numberStop_nil
  rw [List.append_nil] at scanned
  have notMark : (render ensureAscii value).head? ≠ some 0xFEFF := by
    obtain ⟨c, rest, shape, -, -, -, ascii⟩ := exists_render_cons readable
    rw [shape, List.head?_cons]
    rintro same
    rw [Option.some.inj same] at ascii
    exact absurd ascii (by decide)
  have skipped := skipSpace_render readable []
  rw [List.append_nil] at skipped
  rw [loads]
  simp only [raiseIf, if_neg notMark, ok_bind, skipped, scanned]
  rfl

theorem loads_dumps {sortKeysFlag : Bool} {value : Json} {text : PyStr}
    (written : dumps ensureAscii sortKeysFlag value = .ok text)
    (readable : Readable hooks ensureAscii (if sortKeysFlag then value.sortKeys else value)) :
    loads hooks text =
      .ok (decoded ensureAscii (if sortKeysFlag then value.sortKeys else value)) := by
  unfold dumps at written
  split at written
  · rw [← Except.ok.inj written]
    exact loads_render readable
  · exact absurd written (by simp)

end Json

end PyLib
