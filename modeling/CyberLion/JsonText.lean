import CyberLion.JsonScan

/-!
# Reading back a JSON string

The scanner inverts the encoder on every string, up to one thing: with
`ensure_ascii` a high surrogate followed by a low one is written as two
escapes, which the scanner reads as the single character of that pair.
-/

namespace PyLib

namespace Json

/-- The value that the scanner gives back for a string.  Only adjacent
surrogates written as escapes are changed. -/
def decodeText (ensureAscii : Bool) (text : PyStr) : PyStr :=
  if ensureAscii then joinUnits (text.map fun c => (true, c)) else text

def hasNoSurrogatePair : PyStr → Bool
  | [] => true
  | [_] => true
  | first :: second :: rest =>
    !(first.isHighSurrogate && second.isLowSurrogate) &&
      hasNoSurrogatePair (second :: rest)

/-! ### Escapes -/

theorem hexValue_hexPoint : ∀ digit < 16, hexValue (hexPoint digit) = some digit := by
  decide

theorem hexUnit_unicodeEscape {unit : Nat} (small : unit < 0x10000) :
    hexUnit (hexPoint (unit / 4096 % 16)) (hexPoint (unit / 256 % 16))
        (hexPoint (unit / 16 % 16)) (hexPoint (unit % 16)) =
      some (Fin.ofNat _ unit) := by
  have digitSmall : ∀ value : Nat, value % 16 < 16 := fun value =>
    Nat.mod_lt value (by decide)
  have rebuilt : 4096 * (unit / 4096 % 16) + 256 * (unit / 256 % 16) +
      16 * (unit / 16 % 16) + unit % 16 = unit := by omega
  simp only [hexUnit, hexValue_hexPoint _ (digitSmall _), Option.bind_eq_bind,
    Option.bind_some, rebuilt]
  rfl

theorem py_unicodeMark : py "\\u" = [0x5C, 0x75] := by decide

def prependUnits (front : List (Bool × CodePoint))
    (result : Except PyError (List (Bool × CodePoint) × PyStr)) :
    Except PyError (List (Bool × CodePoint) × PyStr) :=
  result.map fun scanned => (front ++ scanned.1, scanned.2)

theorem prependUnits_append (front back : List (Bool × CodePoint))
    (result : Except PyError (List (Bool × CodePoint) × PyStr)) :
    prependUnits front (prependUnits back result) =
      prependUnits (front ++ back) result := by
  cases result <;> simp [prependUnits, Except.map]

theorem scanUnits_unicodeEscape {unit : Nat} (small : unit < 0x10000)
    (rest : PyStr) :
    scanUnits (unicodeEscape unit ++ rest) =
      prependUnits [(true, Fin.ofNat _ unit)] (scanUnits rest) := by
  simp only [unicodeEscape, py_unicodeMark, List.cons_append, List.nil_append]
  rw [scanUnits]
  simp only [hexUnit_unicodeEscape small]
  cases scanUnits rest <;> rfl

variable {c : CodePoint}

theorem shortEscape_eq_some {escape : PyStr} (escaped : shortEscape c = some escape) :
    ∃ letter : CodePoint, escape = [0x5C, letter] ∧ letter.val ≠ 0x75 ∧
      shortUnescape letter = some c := by
  unfold shortEscape at escaped
  split at escaped
  · rename_i same
    refine ⟨0x22, by rw [← Option.some.inj escaped]; decide, by decide, ?_⟩
    rw [show c = 0x22 from Fin.ext same]
    decide
  split at escaped
  · rename_i same
    refine ⟨0x5C, by rw [← Option.some.inj escaped]; decide, by decide, ?_⟩
    rw [show c = 0x5C from Fin.ext same]
    decide
  split at escaped
  · rename_i same
    refine ⟨0x6E, by rw [← Option.some.inj escaped]; decide, by decide, ?_⟩
    rw [show c = 0x0A from Fin.ext same]
    decide
  split at escaped
  · rename_i same
    refine ⟨0x72, by rw [← Option.some.inj escaped]; decide, by decide, ?_⟩
    rw [show c = 0x0D from Fin.ext same]
    decide
  split at escaped
  · rename_i same
    refine ⟨0x74, by rw [← Option.some.inj escaped]; decide, by decide, ?_⟩
    rw [show c = 0x09 from Fin.ext same]
    decide
  split at escaped
  · rename_i same
    refine ⟨0x66, by rw [← Option.some.inj escaped]; decide, by decide, ?_⟩
    rw [show c = 0x0C from Fin.ext same]
    decide
  split at escaped
  · rename_i same
    refine ⟨0x62, by rw [← Option.some.inj escaped]; decide, by decide, ?_⟩
    rw [show c = 0x08 from Fin.ext same]
    decide
  · exact absurd escaped (by simp)

theorem shortEscape_eq_none (plain : shortEscape c = none) :
    c.val ≠ 0x22 ∧ c.val ≠ 0x5C := by
  unfold shortEscape at plain
  split at plain
  · exact absurd plain (by simp)
  split at plain
  · exact absurd plain (by simp)
  · rename_i notQuote notBackslash
    exact ⟨notQuote, notBackslash⟩

/-! ### Characters -/

def unitsOfChar (ensureAscii : Bool) (c : CodePoint) : List (Bool × CodePoint) :=
  if (shortEscape c).isSome then [(false, c)]
  else if c.val < 0x20 then [(true, c)]
  else if ensureAscii && 0x7F ≤ c.val then
    if c.val < 0x10000 then [(true, c)]
    else [(true, Fin.ofNat _ (0xD800 + (c.val - 0x10000) / 0x400)),
      (true, Fin.ofNat _ (0xDC00 + (c.val - 0x10000) % 0x400))]
  else [(false, c)]

theorem ofNat_val (c : CodePoint) : Fin.ofNat 0x110000 c.val = c :=
  Fin.ext (Nat.mod_eq_of_lt c.isLt)

theorem scanUnits_escapeChar (ensureAscii : Bool) (c : CodePoint) (rest : PyStr) :
    scanUnits (escapeChar ensureAscii c ++ rest) =
      prependUnits (unitsOfChar ensureAscii c) (scanUnits rest) := by
  unfold escapeChar unitsOfChar
  cases escaped : shortEscape c with
  | some escape =>
    obtain ⟨letter, rfl, notUnicode, unescaped⟩ := shortEscape_eq_some escaped
    simp only [Option.isSome_some, if_true, List.cons_append, List.nil_append]
    rw [scanUnits.eq_def]
    simp only [show ((0x5C : CodePoint).val = 0x22) = False by decide,
      show ((0x5C : CodePoint).val = 0x5C) = True by decide, if_true, if_false,
      notUnicode, unescaped]
    cases scanUnits rest <;> rfl
  | none =>
    obtain ⟨notQuote, notBackslash⟩ := shortEscape_eq_none escaped
    simp only [Option.isSome_none, Bool.false_eq_true, if_false]
    split
    · rename_i control
      rw [scanUnits_unicodeEscape (by omega), ofNat_val]
    · rename_i notControl
      split
      · split
        · rename_i basic
          rw [scanUnits_unicodeEscape basic, ofNat_val]
        · have bound := c.isLt
          rw [List.append_assoc, scanUnits_unicodeEscape (by omega),
            scanUnits_unicodeEscape (by omega), prependUnits_append]
          rfl
      · rw [List.cons_append, List.nil_append, scanUnits.eq_def]
        simp only [notQuote, notBackslash, notControl, if_false]
        cases scanUnits rest <;> rfl

theorem scanUnits_escapeText (ensureAscii : Bool) (text after : PyStr) :
    scanUnits (escapeText ensureAscii text ++ 0x22 :: after) =
      .ok (text.flatMap (unitsOfChar ensureAscii), after) := by
  induction text with
  | nil =>
    rw [escapeText, List.flatMap_nil, List.nil_append, scanUnits.eq_def]
    rfl
  | cons c text ih =>
    rw [escapeText, List.flatMap_cons, List.append_assoc, scanUnits_escapeChar,
      ← escapeText, ih]
    rfl

/-! ### Joining the units -/

theorem joinUnits_cons_false (c : CodePoint) (units : List (Bool × CodePoint)) :
    joinUnits ((false, c) :: units) = c :: joinUnits units := by
  cases units with
  | nil => rfl
  | cons unit units => simp [joinUnits]

theorem joinUnits_cons_of_notHigh (escaped : Bool) (c : CodePoint)
    (units : List (Bool × CodePoint)) (notHigh : c.isHighSurrogate = false) :
    joinUnits ((escaped, c) :: units) = c :: joinUnits units := by
  cases units with
  | nil => rfl
  | cons unit units => simp [joinUnits, notHigh]

theorem joinUnits_cons_of_notLow (escaped : Bool) (c : CodePoint)
    {units : List (Bool × CodePoint)}
    (notLow : ∀ unit ∈ units.head?, (unit.1 && unit.2.isLowSurrogate) = false) :
    joinUnits ((escaped, c) :: units) = c :: joinUnits units := by
  cases units with
  | nil => rfl
  | cons unit units =>
    obtain ⟨unitEscaped, d⟩ := unit
    have headNotLow := notLow (unitEscaped, d) (by simp)
    rw [joinUnits, if_neg]
    intro joined
    simp only [Bool.and_eq_true] at joined
    simp [joined.1.1.2, joined.2] at headNotLow

theorem isHighSurrogate_eq_false_of_lt (small : c.val < 0xD800) :
    c.isHighSurrogate = false := by
  simp only [CodePoint.isHighSurrogate, Bool.and_eq_false_iff, decide_eq_false_iff_not]
  omega

theorem unitsOfChar_false (c : CodePoint) :
    ∃ escaped, unitsOfChar false c = [(escaped, c)] ∧
      (escaped = true → c.isHighSurrogate = false) := by
  unfold unitsOfChar
  split
  · exact ⟨false, rfl, by simp⟩
  split
  · rename_i control
    exact ⟨true, rfl, fun _ => isHighSurrogate_eq_false_of_lt (by omega)⟩
  · exact ⟨false, by simp, by simp⟩

theorem joinUnits_flatMap_false (text : PyStr) :
    joinUnits (text.flatMap (unitsOfChar false)) = text := by
  induction text with
  | nil => rfl
  | cons c text ih =>
    obtain ⟨escaped, shape, notHigh⟩ := unitsOfChar_false c
    rw [List.flatMap_cons, shape, List.cons_append, List.nil_append]
    cases escaped with
    | false => rw [joinUnits_cons_false, ih]
    | true => rw [joinUnits_cons_of_notHigh true c _ (notHigh rfl), ih]

/-- With `ensure_ascii` a character is a raw unit below the surrogates, an
escaped unit, or the two escapes of a pair that joins to it. -/
theorem unitsOfChar_true (c : CodePoint) :
    (∃ escaped, unitsOfChar true c = [(escaped, c)] ∧
        (escaped = false → c.val < 0xD800)) ∨
      ∃ high low : CodePoint, unitsOfChar true c = [(true, high), (true, low)] ∧
        high.isHighSurrogate = true ∧ low.isLowSurrogate = true ∧
        joinPair high low = c ∧ 0x10000 ≤ c.val := by
  have bound := c.isLt
  unfold unitsOfChar
  split
  · rename_i short
    refine .inl ⟨false, rfl, fun _ => ?_⟩
    by_contra large
    have none : shortEscape c = none := by
      unfold shortEscape
      simp only [show ¬ c.val = 0x22 by omega, show ¬ c.val = 0x5C by omega,
        show ¬ c.val = 0x0A by omega, show ¬ c.val = 0x0D by omega,
        show ¬ c.val = 0x09 by omega, show ¬ c.val = 0x0C by omega,
        show ¬ c.val = 0x08 by omega, if_false]
    simp [none] at short
  split
  · exact .inl ⟨true, rfl, by simp⟩
  split
  · split
    · exact .inl ⟨true, rfl, by simp⟩
    · rename_i astral
      refine .inr ⟨_, _, rfl, ?_, ?_, ?_, by omega⟩
      · simp only [CodePoint.isHighSurrogate, Fin.ofNat, Bool.and_eq_true,
          decide_eq_true_eq]
        rw [Nat.mod_eq_of_lt (by omega)]
        omega
      · simp only [CodePoint.isLowSurrogate, Fin.ofNat, Bool.and_eq_true,
          decide_eq_true_eq]
        rw [Nat.mod_eq_of_lt (by omega)]
        omega
      · apply Fin.ext
        simp only [joinPair, Fin.ofNat]
        rw [Nat.mod_eq_of_lt (a := 0xD800 + _) (by omega),
          Nat.mod_eq_of_lt (a := 0xDC00 + _) (by omega), Nat.mod_eq_of_lt (by omega)]
        omega
  · rename_i notEscaped
    refine .inl ⟨false, rfl, fun _ => ?_⟩
    simp only [Bool.true_and, decide_eq_true_eq] at notEscaped
    omega

theorem isLowSurrogate_eq_false_of_high (high : c.isHighSurrogate = true) :
    c.isLowSurrogate = false := by
  simp only [CodePoint.isHighSurrogate, CodePoint.isLowSurrogate, Bool.and_eq_true,
    decide_eq_true_eq, Bool.and_eq_false_iff, decide_eq_false_iff_not] at high ⊢
  omega

theorem unitsOfChar_true_of_low (low : c.isLowSurrogate = true) :
    unitsOfChar true c = [(true, c)] := by
  simp only [CodePoint.isLowSurrogate, Bool.and_eq_true, decide_eq_true_eq] at low
  rcases unitsOfChar_true c with ⟨escaped, shape, raw⟩ | ⟨_, _, _, _, _, _, astral⟩
  · cases escaped with
    | false =>
      have := raw rfl
      omega
    | true => exact shape
  · omega

theorem unitsOfChar_true_head (notLow : c.isLowSurrogate = false) (units : List (Bool × CodePoint)) :
    ∀ unit ∈ (unitsOfChar true c ++ units).head?,
      (unit.1 && unit.2.isLowSurrogate) = false := by
  intro unit isHead
  rcases unitsOfChar_true c with
    ⟨escaped, shape, -⟩ | ⟨high, low, shape, highHigh, -, -, -⟩
  · rw [shape] at isHead
    obtain rfl : (escaped, c) = unit := by simpa using isHead
    simp [notLow]
  · rw [shape] at isHead
    obtain rfl : (true, high) = unit := by simpa using isHead
    simp [isLowSurrogate_eq_false_of_high highHigh]

/-- Joining the units of an `ensure_ascii` string joins exactly the adjacent
surrogates of the string itself. -/
theorem joinUnits_flatMap_true : ∀ text : PyStr,
    joinUnits (text.flatMap (unitsOfChar true)) =
      joinUnits (text.map fun c => (true, c))
  | [] => rfl
  | c :: text => by
    have ih := joinUnits_flatMap_true text
    rw [List.flatMap_cons, List.map_cons]
    rcases unitsOfChar_true c with
      ⟨escaped, shape, raw⟩ | ⟨high, low, shape, highHigh, lowLow, joined, astral⟩
    · rw [shape, List.cons_append, List.nil_append]
      by_cases isHigh : c.isHighSurrogate = true
      · -- a high surrogate joins exactly when a low one follows in the text
        obtain rfl : escaped = true := by
          by_contra notEscaped
          have small := raw (Bool.eq_false_iff.mpr notEscaped)
          rw [isHighSurrogate_eq_false_of_lt small] at isHigh
          exact absurd isHigh (by decide)
        cases text with
        | nil => rfl
        | cons d text =>
          by_cases isLow : d.isLowSurrogate = true
          · have ihTail := joinUnits_flatMap_true text
            rw [List.flatMap_cons, unitsOfChar_true_of_low isLow, List.map_cons,
              List.cons_append, List.nil_append, joinUnits, joinUnits]
            simp only [isHigh, isLow, Bool.and_self, if_true, ihTail]
          · have notLow : d.isLowSurrogate = false := Bool.eq_false_iff.mpr isLow
            rw [joinUnits_cons_of_notLow true c, ih, joinUnits_cons_of_notLow true c]
            · simp [notLow]
            · rw [List.flatMap_cons]
              exact unitsOfChar_true_head notLow _
      · have notHigh : c.isHighSurrogate = false := Bool.eq_false_iff.mpr isHigh
        rw [joinUnits_cons_of_notHigh _ c _ notHigh,
          joinUnits_cons_of_notHigh _ c _ notHigh, ih]
    · have notHigh : c.isHighSurrogate = false := by
        simp only [CodePoint.isHighSurrogate, Bool.and_eq_false_iff,
          decide_eq_false_iff_not]
        omega
      rw [shape, joinUnits_cons_of_notHigh true c _ notHigh, ← ih,
        List.cons_append, List.cons_append, List.nil_append, joinUnits]
      simp only [highHigh, lowLow, Bool.and_self, if_true, joined]

theorem scanText_escapeText (ensureAscii : Bool) (text after : PyStr) :
    scanText (escapeText ensureAscii text ++ 0x22 :: after) =
      .ok (decodeText ensureAscii text, after) := by
  rw [scanText, scanUnits_escapeText]
  cases ensureAscii with
  | false =>
    simp only [ok_bind, joinUnits_flatMap_false]
    rfl
  | true =>
    simp only [ok_bind, joinUnits_flatMap_true]
    rfl

@[simp]
theorem decodeText_false (text : PyStr) : decodeText false text = text :=
  rfl

theorem decodeText_eq_self (ensureAscii : Bool) {text : PyStr}
    (noPair : hasNoSurrogatePair text = true) :
    decodeText ensureAscii text = text := by
  cases ensureAscii with
  | false => rfl
  | true =>
    rw [decodeText, if_pos rfl]
    induction text with
    | nil => rfl
    | cons c text ih =>
      cases text with
      | nil => rfl
      | cons d text =>
        simp only [hasNoSurrogatePair, Bool.and_eq_true] at noPair
        have joined := ih noPair.2
        rw [List.map_cons] at joined
        rw [List.map_cons, List.map_cons, joinUnits, if_neg, joined]
        have apart := noPair.1
        intro pair
        simp only [Bool.and_eq_true] at pair
        simp [pair.1.2, pair.2] at apart

theorem hasNoSurrogatePair_of_isEncodable {text : PyStr}
    (encodable : isEncodable text = true) : hasNoSurrogatePair text = true := by
  induction text with
  | nil => rfl
  | cons c text ih =>
    simp only [isEncodable, List.all_cons, Bool.and_eq_true] at encodable
    cases text with
    | nil => rfl
    | cons d text =>
      simp only [hasNoSurrogatePair, Bool.and_eq_true]
      refine ⟨?_, ih encodable.2⟩
      have solid := encodable.1
      simp only [CodePoint.isSurrogate, Bool.not_or, Bool.and_eq_true,
        Bool.not_eq_true'] at solid
      simp [solid.1]

end Json

end PyLib
