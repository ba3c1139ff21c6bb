import CyberLion.JsonCanonical
import CyberLion.JsonQuotes

/-!
# Line boundaries in written JSON

The text that `json.dumps` writes with `ensure_ascii=False` may contain line
boundaries of `str.splitlines`, but only inside strings.  A line that is cut
at such a boundary ends inside a string, so it is never a JSON text.
-/

namespace PyLib

namespace Json

def BreaksQuoted : Lex → PyStr → Prop
  | _, [] => True
  | state, c :: text =>
    (state = .outside → c.isLineBreak = false) ∧ BreaksQuoted (state.step c) text

theorem breaksQuoted_append {state : Lex} {first second : PyStr} :
    BreaksQuoted state (first ++ second) ↔
      BreaksQuoted state first ∧ BreaksQuoted (state.run first) second := by
  induction first generalizing state with
  | nil => simp [BreaksQuoted]
  | cons c first ih => simp [BreaksQuoted, ih, and_assoc]

/-- A text that leads from outside to outside, quotes its line boundaries and
has no control character. -/
structure Quoted (text : PyStr) : Prop where
  closed : Lex.run .outside text = .outside
  breaks : BreaksQuoted .outside text
  printable : ∀ c ∈ text, 0x20 ≤ c.val

theorem quoted_nil : Quoted [] :=
  ⟨rfl, trivial, by simp⟩

theorem Quoted.append {first second : PyStr} (firstQuoted : Quoted first)
    (secondQuoted : Quoted second) : Quoted (first ++ second) := by
  constructor
  · rw [Lex.run_append, firstQuoted.closed, secondQuoted.closed]
  · refine breaksQuoted_append.mpr ⟨firstQuoted.breaks, ?_⟩
    rw [firstQuoted.closed]
    exact secondQuoted.breaks
  · intro c member
    rcases List.mem_append.mp member with member | member
    · exact firstQuoted.printable c member
    · exact secondQuoted.printable c member

theorem quoted_of_plain {text : PyStr}
    (plain : (text.all fun c => c.val ≠ 0x22 && !c.isLineBreak && 0x20 ≤ c.val) = true) :
    Quoted text := by
  induction text with
  | nil => exact quoted_nil
  | cons c text ih =>
    simp only [List.all_cons, Bool.and_eq_true, decide_eq_true_eq, Bool.not_eq_true'] at plain
    obtain ⟨⟨⟨notQuote, notBreak⟩, printable⟩, rest⟩ := plain
    have stays : Lex.step .outside c = .outside := by rw [Lex.step, if_neg notQuote]
    refine Quoted.append (⟨stays, ⟨fun _ => notBreak, trivial⟩, ?_⟩ : Quoted [c]) (ih ?_)
    · simpa using printable
    · simpa [List.all_eq_true, and_assoc] using rest

theorem escapeChar_stays_inside (c : CodePoint) :
    Lex.run .inside (escapeChar false c) = .inside ∧
      BreaksQuoted .inside (escapeChar false c) := by
  unfold escapeChar
  cases escaped : shortEscape c with
  | some escape =>
    obtain ⟨letter, rfl, -⟩ := shortEscape_eq_some escaped
    exact ⟨by rw [Lex.run_inside_escape rfl]; rfl, by simp [BreaksQuoted, Lex.step]⟩
  | none =>
    dsimp only
    split
    · rename_i control
      have digit : ∀ value < 16, (hexPoint value).val ≠ 0x22 ∧
          (hexPoint value).val ≠ 0x5C := by decide
      have modulo : ∀ value : Nat, value % 16 < 16 := fun value =>
        Nat.mod_lt value (by decide)
      have stays : ∀ value : Nat, Lex.step .inside (hexPoint (value % 16)) = .inside := by
        intro value
        obtain ⟨notQuote, notSlash⟩ := digit _ (modulo value)
        rw [Lex.step, if_neg notQuote, if_neg notSlash]
      have slash : Lex.step .inside 0x5C = .escaped := by decide
      have letter : Lex.step .escaped 0x75 = .inside := rfl
      simp [unicodeEscape, py_unicodeMark, BreaksQuoted, slash, letter, stays]
    · obtain ⟨notQuote, notSlash⟩ := shortEscape_eq_none escaped
      have stays : Lex.step .inside c = .inside := by
        rw [Lex.step, if_neg notQuote, if_neg notSlash]
      simp [BreaksQuoted, stays]

theorem escapeText_stays_inside (text : PyStr) :
    Lex.run .inside (escapeText false text) = .inside ∧
      BreaksQuoted .inside (escapeText false text) := by
  induction text with
  | nil => exact ⟨rfl, trivial⟩
  | cons c text ih =>
    obtain ⟨stays, quoted⟩ := escapeChar_stays_inside c
    rw [escapeText, List.flatMap_cons]
    refine ⟨by rw [Lex.run_append, stays]; exact ih.1, breaksQuoted_append.mpr ⟨quoted, ?_⟩⟩
    rw [stays]
    exact ih.2

theorem escapeChar_not_control {c d : CodePoint} (member : d ∈ escapeChar false c) :
    0x20 ≤ d.val := by
  unfold escapeChar at member
  cases escaped : shortEscape c with
  | some escape =>
    rw [escaped] at member
    have printable : (∀ text, shortEscape c = some text →
        (text.all fun e => 0x20 ≤ e.val) = true) := by
      intro text shape
      unfold shortEscape at shape
      repeat' split at shape
      all_goals first | (cases shape; decide) | simp at shape
    have := List.all_eq_true.mp (printable escape escaped) d member
    simpa using this
  | none =>
    rw [escaped] at member
    dsimp only at member
    split at member
    · have digit : ∀ value < 16, 0x20 ≤ (hexPoint value).val := by decide
      have modulo : ∀ value : Nat, value % 16 < 16 := fun value =>
        Nat.mod_lt value (by decide)
      rw [unicodeEscape, py_unicodeMark] at member
      simp only [List.cons_append, List.nil_append, List.mem_cons, List.not_mem_nil,
        or_false] at member
      rcases member with rfl | rfl | rfl | rfl | rfl | rfl
      · decide
      · decide
      all_goals exact digit _ (modulo _)
    · rename_i notControl
      simp only [Bool.false_and, Bool.false_eq_true, if_false, List.mem_singleton] at member
      subst member
      omega

theorem quoted_renderText (text : PyStr) : Quoted (renderText false text) := by
  obtain ⟨stays, quoted⟩ := escapeText_stays_inside text
  have quote : py "\"" = [0x22] := by decide
  have opens : Lex.step .outside 0x22 = .inside := by decide
  have closes : Lex.step .inside 0x22 = .outside := by decide
  have quoteSolid : CodePoint.isLineBreak 0x22 = false := by decide
  rw [renderText, quote, List.append_assoc, List.singleton_append]
  constructor
  · simp only [Lex.run_cons, Lex.run_append, opens, stays, closes, Lex.run_nil]
  · refine ⟨fun _ => quoteSolid, ?_⟩
    rw [opens, breaksQuoted_append, stays]
    exact ⟨quoted, fun _ => quoteSolid, trivial⟩
  · intro c member
    simp only [List.mem_cons, List.mem_append, List.not_mem_nil, or_false, escapeText,
      List.mem_flatMap] at member
    rcases member with rfl | ⟨source, -, written⟩ | rfl
    · decide
    · exact escapeChar_not_control written
    · decide

theorem quoted_intText (value : Int) : Quoted (intText value) := by
  have digits : ∀ n : Nat, Quoted (natText n) := by
    intro n
    refine quoted_of_plain (List.all_eq_true.mpr fun c member => ?_)
    have digit := natText_isAsciiDigit n c member
    simp only [CodePoint.isAsciiDigit, Bool.and_eq_true, decide_eq_true_eq] at digit
    simp only [CodePoint.isLineBreak, Bool.and_eq_true, Bool.not_eq_true',
      Bool.or_eq_false_iff, Bool.and_eq_false_iff, decide_eq_false_iff_not,
      decide_eq_true_eq, beq_eq_false_iff_ne]
    omega
  cases value with
  | ofNat n => exact digits n
  | negSucc n => exact Quoted.append (quoted_of_plain (by decide)) (digits (n + 1))

theorem quoted_renderItems {items : List Json}
    (all : ∀ item ∈ items, Quoted (render false item)) : Quoted (renderItems false items) := by
  induction items with
  | nil => exact quoted_nil
  | cons item items ih =>
    rw [renderItems]
    exact ((quoted_of_plain (by decide)).append (all item (by simp))).append
      (ih fun other member => all other (by simp [member]))

theorem quoted_renderFields {fields : List (PyStr × Json)}
    (all : ∀ field ∈ fields, Quoted (render false field.2)) :
    Quoted (renderFields false fields) := by
  induction fields with
  | nil => exact quoted_nil
  | cons field fields ih =>
    rw [renderFields]
    exact ((((quoted_of_plain (by decide)).append (quoted_renderText field.1)).append
      (quoted_of_plain (by decide))).append (all field (by simp))).append
      (ih fun other member => all other (by simp [member]))

theorem quoted_render {value : Json} (floatless : Floatless value) :
    Quoted (render false value) := by
  induction floatless with
  | null => exact quoted_of_plain (by decide)
  | bool value => cases value <;> exact quoted_of_plain (by decide)
  | int value => exact quoted_intText value
  | str value => exact quoted_renderText value
  | @arr items all ih =>
    cases items with
    | nil => exact quoted_of_plain (by decide)
    | cons item items =>
      rw [render]
      exact (((quoted_of_plain (by decide)).append (ih item (by simp))).append
        (quoted_renderItems fun other member => ih other (by simp [member]))).append
        (quoted_of_plain (by decide))
  | @obj fields all ih =>
    cases fields with
    | nil => exact quoted_of_plain (by decide)
    | cons field fields =>
      rw [render]
      exact (((((quoted_of_plain (by decide)).append (quoted_renderText field.1)).append
        (quoted_of_plain (by decide))).append (ih field (by simp))).append
        (quoted_renderFields fun other member => ih other (by simp [member]))).append
        (quoted_of_plain (by decide))

theorem Quoted.run_ne_outside {before after : PyStr} {c : CodePoint}
    (quoted : Quoted (before ++ c :: after)) (lineBreak : c.isLineBreak = true) :
    Lex.run .outside before ≠ .outside := by
  intro ended
  have met := (breaksQuoted_append.mp quoted.breaks).2
  rw [ended] at met
  exact Bool.false_ne_true ((met.1 rfl).symm.trans lineBreak)

/-! ### Fields of a written object -/

theorem notBreak_of_plain {text : PyStr} (plain : (text.any CodePoint.isLineBreak) = false)
    {c : CodePoint} (lineBreak : c.isLineBreak = true) : c ∉ text := by
  intro member
  rw [List.any_eq_false] at plain
  exact plain c member lineBreak

theorem exists_field_of_mem_renderFields {fields : List (PyStr × Json)} {c : CodePoint}
    (lineBreak : c.isLineBreak = true) (member : c ∈ renderFields false fields) :
    ∃ field ∈ fields, c ∈ renderText false field.1 ∨ c ∈ render false field.2 := by
  have comma : c ∉ py "," := notBreak_of_plain (by decide) lineBreak
  have colon : c ∉ py ":" := notBreak_of_plain (by decide) lineBreak
  induction fields with
  | nil => simp [renderFields] at member
  | cons field fields ih =>
    rw [renderFields] at member
    simp only [List.mem_append, comma, colon, false_or, or_false] at member
    rcases member with (key | value) | later
    · exact ⟨field, by simp, .inl key⟩
    · exact ⟨field, by simp, .inr value⟩
    · obtain ⟨other, otherMem, written⟩ := ih later
      exact ⟨other, by simp [otherMem], written⟩

theorem exists_field_of_mem_render {fields : List (PyStr × Json)} {c : CodePoint}
    (lineBreak : c.isLineBreak = true) (member : c ∈ render false (.obj fields)) :
    ∃ field ∈ fields, c ∈ renderText false field.1 ∨ c ∈ render false field.2 := by
  have opening : c ∉ py "\x7b" := notBreak_of_plain (by decide) lineBreak
  have closing : c ∉ py "\x7d" := notBreak_of_plain (by decide) lineBreak
  have colon : c ∉ py ":" := notBreak_of_plain (by decide) lineBreak
  cases fields with
  | nil => exact absurd member (notBreak_of_plain (by decide) lineBreak)
  | cons field fields =>
    rw [render] at member
    simp only [List.mem_append, opening, closing, colon, false_or, or_false] at member
    rcases member with (key | value) | later
    · exact ⟨field, by simp, .inl key⟩
    · exact ⟨field, by simp, .inr value⟩
    · obtain ⟨other, otherMem, written⟩ := exists_field_of_mem_renderFields lineBreak later
      exact ⟨other, by simp [otherMem], written⟩

theorem render_getLast_solid {value : Json} (floatless : Floatless value) :
    ∀ c ∈ (render false value).getLast?, c.isSpace = false := by
  have ofLast : ∀ (front : PyStr) (last : CodePoint), last.isSpace = false →
      ∀ c ∈ (front ++ [last]).getLast?, c.isSpace = false := by
    intro front last solid c isLast
    rw [List.getLast?_concat, Option.mem_some_iff] at isLast
    exact isLast ▸ solid
  have ofDigits : ∀ (front : PyStr) (n : Nat),
      ∀ c ∈ (front ++ natText n).getLast?, c.isSpace = false := by
    intro front n c isLast
    rw [List.getLast?_append_of_ne_nil _ (natText_ne_nil n)] at isLast
    have digit := natText_isAsciiDigit n c (List.mem_of_mem_getLast? isLast)
    simp only [CodePoint.isAsciiDigit, Bool.and_eq_true, decide_eq_true_eq] at digit
    simp only [CodePoint.isSpace, Bool.or_eq_false_iff, Bool.and_eq_false_iff,
      decide_eq_false_iff_not, beq_eq_false_iff_ne]
    omega
  cases floatless with
  | null => exact ofLast (py "nul") (codePoint 'l') (by decide)
  | bool value =>
    cases value
    · exact ofLast (py "fals") (codePoint 'e') (by decide)
    · exact ofLast (py "tru") (codePoint 'e') (by decide)
  | int value =>
    cases value with
    | ofNat n => exact ofDigits [] n
    | negSucc n => exact ofDigits (py "-") (n + 1)
  | str value => exact ofLast (py "\"" ++ escapeText false value) 0x22 (by decide)
  | @arr items all =>
    cases items with
    | nil => exact ofLast (py "[") 0x5D (by decide)
    | cons item items =>
      rw [render]
      exact ofLast _ 0x5D (by decide)
  | @obj fields all =>
    cases fields with
    | nil => exact ofLast (py "\x7b") 0x7D (by decide)
    | cons field fields =>
      rw [render]
      exact ofLast _ 0x7D (by decide)

end Json

end PyLib
