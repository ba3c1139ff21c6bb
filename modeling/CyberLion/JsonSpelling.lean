import CyberLion.JsonReading

/-!
# The JSON texts of a value

One value has many texts: white space may stand between the tokens, and a
character of a string may be written as itself, by its two character escape or
by the escape of its code units.  The grammar below derives them all, for values
without floats whose strings have no surrogates.  They are strict JSON, so the
scanner reads each one back as the value.
-/

namespace PyLib

namespace Json

/-! ### The grammar -/

inductive SpellsChar : CodePoint → PyStr → Prop
  | plain {c : CodePoint} (visible : 0x20 ≤ c.val) (notQuote : c.val ≠ 0x22)
      (notBackslash : c.val ≠ 0x5C) : SpellsChar c [c]
  | short {c letter : CodePoint} (known : shortUnescape letter = some c) :
      SpellsChar c [0x5C, letter]
  | unit {c d₁ d₂ d₃ d₄ : CodePoint} (digits : hexUnit d₁ d₂ d₃ d₄ = some c)
      (notHigh : c.isHighSurrogate = false) (notLow : c.isLowSurrogate = false) :
      SpellsChar c [0x5C, 0x75, d₁, d₂, d₃, d₄]
  | pair {high low d₁ d₂ d₃ d₄ e₁ e₂ e₃ e₄ : CodePoint}
      (highDigits : hexUnit d₁ d₂ d₃ d₄ = some high)
      (lowDigits : hexUnit e₁ e₂ e₃ e₄ = some low)
      (isHigh : high.isHighSurrogate = true) (isLow : low.isLowSurrogate = true) :
      SpellsChar (joinPair high low)
        [0x5C, 0x75, d₁, d₂, d₃, d₄, 0x5C, 0x75, e₁, e₂, e₃, e₄]

inductive SpellsChars : PyStr → PyStr → Prop
  | nil : SpellsChars [] []
  | cons {c : CodePoint} {text spelling rest : PyStr} (first : SpellsChar c spelling)
      (others : SpellsChars text rest) : SpellsChars (c :: text) (spelling ++ rest)

mutual

inductive Spells : Json → PyStr → Prop
  | null : Spells .null (py "null")
  | true : Spells (.bool true) (py "true")
  | false : Spells (.bool false) (py "false")
  | int (value : Int) : Spells (.int value) (intText value)
  | minusZero : Spells (.int 0) (py "-0")
  | str {value inner : PyStr} (chars : SpellsChars value inner) :
      Spells (.str value) (0x22 :: (inner ++ [0x22]))
  | emptyArr {blank : PyStr} (space : Blank blank) :
      Spells (.arr []) (0x5B :: (blank ++ [0x5D]))
  | arr {item : Json} {items : List Json} {before first after rest : PyStr}
      (spaceBefore : Blank before) (firstSpelled : Spells item first)
      (spaceAfter : Blank after) (restSpelled : SpellsItems items rest) :
      Spells (.arr (item :: items)) (0x5B :: (before ++ (first ++ (after ++ rest))))
  | emptyObj {blank : PyStr} (space : Blank blank) :
      Spells (.obj []) (0x7B :: (blank ++ [0x7D]))
  | obj {field : PyStr × Json} {fields : List (PyStr × Json)}
      {before first after rest : PyStr}
      (distinct : ((field :: fields).map Prod.fst).Nodup)
      (spaceBefore : Blank before) (firstSpelled : SpellsField field first)
      (spaceAfter : Blank after) (restSpelled : SpellsFields fields rest) :
      Spells (.obj (field :: fields)) (0x7B :: (before ++ (first ++ (after ++ rest))))

inductive SpellsItems : List Json → PyStr → Prop
  | nil : SpellsItems [] [0x5D]
  | cons {item : Json} {items : List Json} {before first after rest : PyStr}
      (spaceBefore : Blank before) (firstSpelled : Spells item first)
      (spaceAfter : Blank after) (restSpelled : SpellsItems items rest) :
      SpellsItems (item :: items) (0x2C :: (before ++ (first ++ (after ++ rest))))

inductive SpellsField : PyStr × Json → PyStr → Prop
  | mk {key inner before after text : PyStr} {value : Json} (chars : SpellsChars key inner)
      (spaceBefore : Blank before) (spaceAfter : Blank after) (spelled : Spells value text) :
      SpellsField (key, value)
        (0x22 :: (inner ++ 0x22 :: (before ++ 0x3A :: (after ++ text))))

inductive SpellsFields : List (PyStr × Json) → PyStr → Prop
  | nil : SpellsFields [] [0x7D]
  | cons {field : PyStr × Json} {fields : List (PyStr × Json)}
      {before first after rest : PyStr}
      (spaceBefore : Blank before) (firstSpelled : SpellsField field first)
      (spaceAfter : Blank after) (restSpelled : SpellsFields fields rest) :
      SpellsFields (field :: fields) (0x2C :: (before ++ (first ++ (after ++ rest))))

end

/-! ### The texts are strict JSON -/

theorem SpellsChar.exists_units {c : CodePoint} {spelling : PyStr}
    (spelled : SpellsChar c spelling) :
    ∃ units, WritesUnits units spelling ∧ ∀ more, joinUnits (units ++ more) = c :: joinUnits more := by
  cases spelled with
  | plain visible notQuote notBackslash =>
    exact ⟨[(false, c)], .cons (.plain visible notQuote notBackslash) .nil,
      joinUnits_cons_false c⟩
  | short known => exact ⟨[(false, c)], .cons (.short known) .nil, joinUnits_cons_false c⟩
  | unit digits notHigh notLow =>
    exact ⟨[(true, c)], .cons (.unicode digits) .nil,
      fun more => joinUnits_cons_of_notHigh true c more notHigh⟩
  | @pair high low _ _ _ _ _ _ _ _ highDigits lowDigits isHigh isLow =>
    refine ⟨[(true, high), (true, low)], .cons (.unicode highDigits)
      (.cons (.unicode lowDigits) .nil), fun more => ?_⟩
    simp [joinUnits, isHigh, isLow]

theorem WritesUnits.append {front back : List (Bool × CodePoint)} {first second : PyStr}
    (frontWritten : WritesUnits front first) (backWritten : WritesUnits back second) :
    WritesUnits (front ++ back) (first ++ second) := by
  induction frontWritten with
  | nil => exact backWritten
  | cons unit others ih =>
    rw [List.cons_append, List.append_assoc]
    exact .cons unit ih

theorem SpellsChars.writesText {text inner : PyStr} (spelled : SpellsChars text inner) :
    WritesText text inner := by
  induction spelled with
  | nil => exact ⟨[], .nil, rfl⟩
  | cons first others ih =>
    obtain ⟨units, written, joined⟩ := ih
    obtain ⟨front, frontWritten, joins⟩ := first.exists_units
    exact ⟨front ++ units, frontWritten.append written, by rw [joins, joined]⟩

theorem writes_intText (value : Int) : Writes (.int value) (intText value) := by
  cases value with
  | ofNat n =>
    have written := Writes.int (isNumeral_natText n)
    rwa [natOfText_natText] at written
  | negSucc n =>
    have written := Writes.minus (isNumeral_natText (n + 1))
    rwa [natOfText_natText] at written

mutual

theorem Spells.writes : ∀ {value : Json} {text : PyStr}, Spells value text → Writes value text
  | _, _, .null => .null
  | _, _, .true => .true
  | _, _, .false => .false
  | _, _, .int value => writes_intText value
  | _, _, .minusZero => @Writes.minus (py "0") (.inl (by decide))
  | _, _, .str chars => .str chars.writesText
  | _, _, .emptyArr space => .emptyArr space
  | _, _, .arr before first after rest => .arr before first.writes after rest.writes
  | _, _, .emptyObj space => .emptyObj space
  | _, _, .obj _ before first after rest => .obj before first.writes after rest.writes

theorem SpellsItems.writes : ∀ {items : List Json} {text : PyStr},
    SpellsItems items text → WritesItems items text
  | _, _, .nil => .nil
  | _, _, .cons before first after rest => .cons before first.writes after rest.writes

theorem SpellsField.writes : ∀ {field : PyStr × Json} {text : PyStr},
    SpellsField field text → WritesField field text
  | _, _, .mk chars before after spelled => .mk chars.writesText before after spelled.writes

theorem SpellsFields.writes : ∀ {fields : List (PyStr × Json)} {text : PyStr},
    SpellsFields fields text → WritesFields fields text
  | _, _, .nil => .nil
  | _, _, .cons before first after rest => .cons before first.writes after rest.writes

end

mutual

theorem Spells.distinctKeys : ∀ {value : Json} {text : PyStr}, Spells value text →
    DistinctKeys value
  | _, _, .null => .null
  | _, _, .true => .bool _
  | _, _, .false => .bool _
  | _, _, .int _ => .int _
  | _, _, .minusZero => .int _
  | _, _, .str _ => .str _
  | _, _, .emptyArr _ => .arr (by simp)
  | _, _, .arr _ first _ rest => .arr (List.forall_mem_cons.mpr ⟨first.distinctKeys,
      rest.distinctKeys⟩)
  | _, _, .emptyObj _ => .obj (by simp) (by simp)
  | _, _, .obj distinct _ first _ rest => .obj distinct (List.forall_mem_cons.mpr
      ⟨first.distinctKeys, rest.distinctKeys⟩)

theorem SpellsItems.distinctKeys : ∀ {items : List Json} {text : PyStr},
    SpellsItems items text → ∀ item ∈ items, DistinctKeys item
  | _, _, .nil => by simp
  | _, _, .cons _ first _ rest => List.forall_mem_cons.mpr ⟨first.distinctKeys, rest.distinctKeys⟩

theorem SpellsField.distinctKeys : ∀ {field : PyStr × Json} {text : PyStr},
    SpellsField field text → DistinctKeys field.2
  | _, _, .mk _ _ _ spelled => spelled.distinctKeys

theorem SpellsFields.distinctKeys : ∀ {fields : List (PyStr × Json)} {text : PyStr},
    SpellsFields fields text → ∀ field ∈ fields, DistinctKeys field.2
  | _, _, .nil => by simp
  | _, _, .cons _ first _ rest => List.forall_mem_cons.mpr ⟨first.distinctKeys, rest.distinctKeys⟩

end

/-! ### The written text -/

theorem spellsChar_escapeChar (c : CodePoint) : SpellsChar c (escapeChar false c) := by
  unfold escapeChar
  cases escaped : shortEscape c with
  | some escape =>
    obtain ⟨letter, rfl, -, unescaped⟩ := shortEscape_eq_some escaped
    exact .short unescaped
  | none =>
    obtain ⟨notQuote, notBackslash⟩ := shortEscape_eq_none escaped
    dsimp only
    split
    · rename_i control
      have digits := hexUnit_unicodeEscape (show c.val < 0x10000 by omega)
      rw [ofNat_val] at digits
      refine .unit digits ?_ ?_
      · exact isHighSurrogate_eq_false_of_lt (by omega)
      · simp only [CodePoint.isLowSurrogate, Bool.and_eq_false_iff, decide_eq_false_iff_not]
        omega
    · rename_i visible
      exact .plain (by omega) notQuote notBackslash

theorem spellsChars_escapeText (text : PyStr) : SpellsChars text (escapeText false text) := by
  induction text with
  | nil => exact .nil
  | cons c text ih =>
    rw [escapeText, List.flatMap_cons]
    exact .cons (spellsChar_escapeChar c) ih

theorem spellsItems_renderItems {items : List Json}
    (spelled : ∀ item ∈ items, Spells item (render false item)) :
    SpellsItems items (renderItems false items ++ [0x5D]) := by
  induction items with
  | nil => exact .nil
  | cons item items ih =>
    have tail := ih fun other member => spelled other (List.mem_cons_of_mem item member)
    have text := SpellsItems.cons blank_nil
      (spelled item (by simp)) blank_nil tail
    simpa [renderItems, show py "," = [0x2C] by decide] using text

theorem spellsField_render {key : PyStr} {value : Json}
    (spelled : Spells value (render false value)) :
    SpellsField (key, value) (renderText false key ++ 0x3A :: render false value) := by
  have text := SpellsField.mk (spellsChars_escapeText key) blank_nil blank_nil spelled
  simpa [renderText, show py "\"" = [0x22] by decide] using text

theorem spellsFields_renderFields {fields : List (PyStr × Json)}
    (spelled : ∀ field ∈ fields, Spells field.2 (render false field.2)) :
    SpellsFields fields (renderFields false fields ++ [0x7D]) := by
  induction fields with
  | nil => exact .nil
  | cons field fields ih =>
    obtain ⟨key, value⟩ := field
    have tail := ih fun other member => spelled other (List.mem_cons_of_mem _ member)
    have text := SpellsFields.cons blank_nil
      (@spellsField_render key value (spelled (key, value) (by simp))) blank_nil tail
    simpa [renderFields, show py "," = [0x2C] by decide, show py ":" = [0x3A] by decide]
      using text

theorem Strict.spells_render {value : Json} (strict : Strict value) :
    Spells value (render false value) := by
  induction strict with
  | null => exact .null
  | bool flag =>
    cases flag with
    | true => exact .true
    | false => exact .false
  | int printable => exact .int _
  | str value =>
    have text := Spells.str (spellsChars_escapeText value)
    simpa [render, renderText, show py "\"" = [0x22] by decide] using text
  | @arr items all ih =>
    cases items with
    | nil =>
      have text := Spells.emptyArr blank_nil
      simpa [render, show py "[]" = [0x5B, 0x5D] by decide] using text
    | cons item items =>
      have others := spellsItems_renderItems fun other member =>
        ih other (List.mem_cons_of_mem item member)
      have text := Spells.arr blank_nil (ih item (by simp)) blank_nil others
      simpa [render, show py "[" = [0x5B] by decide, show py "]" = [0x5D] by decide]
        using text
  | @obj fields distinct all ih =>
    cases fields with
    | nil =>
      have text := Spells.emptyObj blank_nil
      simpa [render, show py "\x7b\x7d" = [0x7B, 0x7D] by decide] using text
    | cons field fields =>
      obtain ⟨key, value⟩ := field
      have text := Spells.obj distinct blank_nil
        (@spellsField_render key value (ih (key, value) (by simp))) blank_nil
        (spellsFields_renderFields fun other member => ih other (List.mem_cons_of_mem _ member))
      simpa [render, show py "\x7b" = [0x7B] by decide, show py ":" = [0x3A] by decide,
        show py "\x7d" = [0x7D] by decide] using text

/-! ### Reading a text -/

/-- A JSON text of a value: white space around a text that the grammar derives. -/
inductive IsJsonText (value : Json) : PyStr → Prop
  | mk {before text after : PyStr} (spaceBefore : Blank before) (spelled : Spells value text)
      (spaceAfter : Blank after) : IsJsonText value (before ++ (text ++ after))

theorem IsJsonText.isStrictJson {value : Json} {text : PyStr} (isText : IsJsonText value text) :
    IsStrictJson value text := by
  cases isText with
  | mk spaceBefore spelled spaceAfter =>
    exact ⟨_, _, _, rfl, spaceBefore, spaceAfter, spelled.writes⟩

theorem IsJsonText.distinctKeys {value : Json} {text : PyStr} (isText : IsJsonText value text) :
    DistinctKeys value := by
  cases isText with
  | mk spaceBefore spelled spaceAfter => exact spelled.distinctKeys

theorem IsJsonText.loads_eq {hooks : Hooks} {value : Json} {text : PyStr}
    (isText : IsJsonText value text) (keeps : KeepsDistinct hooks)
    (printable : value.isPrintable = true) : loads hooks text = .ok value :=
  isText.isStrictJson.loads_eq keeps isText.distinctKeys printable

end Json

end PyLib
