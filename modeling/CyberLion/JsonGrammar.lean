import CyberLion.JsonQuotes

/-!
# The strict JSON grammar

The grammar of strict JSON, with every kind of number and string, and without a
condition on the keys of an object.  Whatever the scanner reads has a derivation,
when its callbacks keep the pairs of an object and refuse the further constants.
-/

namespace PyLib

namespace Json

/-! ### White space, strings and numbers -/

def Blank (text : PyStr) : Prop :=
  ∀ c ∈ text, isJsonSpace c = true

instance (text : PyStr) : Decidable (Blank text) :=
  List.decidableBAll _ text

/-- The spelling of one code unit, with the mark whether `\uXXXX` wrote it. -/
inductive WritesUnit : Bool × CodePoint → PyStr → Prop
  | plain {c : CodePoint} (visible : 0x20 ≤ c.val) (notQuote : c.val ≠ 0x22)
      (notBackslash : c.val ≠ 0x5C) : WritesUnit (false, c) [c]
  | short {c letter : CodePoint} (known : shortUnescape letter = some c) :
      WritesUnit (false, c) [0x5C, letter]
  | unicode {c d₁ d₂ d₃ d₄ : CodePoint} (digits : hexUnit d₁ d₂ d₃ d₄ = some c) :
      WritesUnit (true, c) [0x5C, 0x75, d₁, d₂, d₃, d₄]

inductive WritesUnits : List (Bool × CodePoint) → PyStr → Prop
  | nil : WritesUnits [] []
  | cons {unit : Bool × CodePoint} {units : List (Bool × CodePoint)} {spelling rest : PyStr}
      (first : WritesUnit unit spelling) (others : WritesUnits units rest) :
      WritesUnits (unit :: units) (spelling ++ rest)

def WritesText (text inner : PyStr) : Prop :=
  ∃ units, WritesUnits units inner ∧ joinUnits units = text

def AreDigits (text : PyStr) : Prop :=
  ∀ c ∈ text, c.isAsciiDigit = true

/-- `0`, or digits that start with another one. -/
def IsNumeral (text : PyStr) : Prop :=
  text = [0x30] ∨ ∃ c rest, text = c :: rest ∧ c.isAsciiDigit = true ∧ c.val ≠ 0x30 ∧
    AreDigits rest

def IsFraction (text : PyStr) : Prop :=
  ∃ digits, text = 0x2E :: digits ∧ digits ≠ [] ∧ AreDigits digits

def IsExponent (text : PyStr) : Prop :=
  ∃ (letter : CodePoint) (sign digits : PyStr), text = letter :: (sign ++ digits) ∧
    (letter.val = 0x65 ∨ letter.val = 0x45) ∧
    (sign = [] ∨ ∃ c : CodePoint, sign = [c] ∧ (c.val = 0x2B ∨ c.val = 0x2D)) ∧
    digits ≠ [] ∧ AreDigits digits

structure IsFloatLiteral (text : PyStr) : Prop where
  parts : ∃ sign digits fraction exponent : PyStr,
    text = sign ++ digits ++ fraction ++ exponent ∧ (sign = [] ∨ sign = py "-") ∧
    IsNumeral digits ∧ (fraction = [] ∨ IsFraction fraction) ∧
    (exponent = [] ∨ IsExponent exponent) ∧ ¬ (fraction = [] ∧ exponent = [])

/-! ### Values -/

mutual

inductive Writes : Json → PyStr → Prop
  | null : Writes .null (py "null")
  | true : Writes (.bool true) (py "true")
  | false : Writes (.bool false) (py "false")
  | int {digits : PyStr} (numeral : IsNumeral digits) :
      Writes (.int (natOfText digits)) digits
  | minus {digits : PyStr} (numeral : IsNumeral digits) :
      Writes (.int (-(natOfText digits : Int))) (0x2D :: digits)
  | float {literal : PyStr} (isFloat : IsFloatLiteral literal) : Writes (.float literal) literal
  | str {value inner : PyStr} (chars : WritesText value inner) :
      Writes (.str value) (0x22 :: (inner ++ [0x22]))
  | emptyArr {blank : PyStr} (space : Blank blank) :
      Writes (.arr []) (0x5B :: (blank ++ [0x5D]))
  | arr {item : Json} {items : List Json} {before first after rest : PyStr}
      (spaceBefore : Blank before) (firstWritten : Writes item first)
      (spaceAfter : Blank after) (restWritten : WritesItems items rest) :
      Writes (.arr (item :: items)) (0x5B :: (before ++ (first ++ (after ++ rest))))
  | emptyObj {blank : PyStr} (space : Blank blank) :
      Writes (.obj []) (0x7B :: (blank ++ [0x7D]))
  | obj {field : PyStr × Json} {fields : List (PyStr × Json)} {before first after rest : PyStr}
      (spaceBefore : Blank before) (firstWritten : WritesField field first)
      (spaceAfter : Blank after) (restWritten : WritesFields fields rest) :
      Writes (.obj (field :: fields)) (0x7B :: (before ++ (first ++ (after ++ rest))))

inductive WritesItems : List Json → PyStr → Prop
  | nil : WritesItems [] [0x5D]
  | cons {item : Json} {items : List Json} {before first after rest : PyStr}
      (spaceBefore : Blank before) (firstWritten : Writes item first)
      (spaceAfter : Blank after) (restWritten : WritesItems items rest) :
      WritesItems (item :: items) (0x2C :: (before ++ (first ++ (after ++ rest))))

inductive WritesField : PyStr × Json → PyStr → Prop
  | mk {key inner before after text : PyStr} {value : Json} (chars : WritesText key inner)
      (spaceBefore : Blank before) (spaceAfter : Blank after) (written : Writes value text) :
      WritesField (key, value)
        (0x22 :: (inner ++ 0x22 :: (before ++ 0x3A :: (after ++ text))))

inductive WritesFields : List (PyStr × Json) → PyStr → Prop
  | nil : WritesFields [] [0x7D]
  | cons {field : PyStr × Json} {fields : List (PyStr × Json)} {before first after rest : PyStr}
      (spaceBefore : Blank before) (firstWritten : WritesField field first)
      (spaceAfter : Blank after) (restWritten : WritesFields fields rest) :
      WritesFields (field :: fields) (0x2C :: (before ++ (first ++ (after ++ rest))))

end

/-- `IsStrictJson value text`: the text is a strict JSON text of the value. -/
def IsStrictJson (value : Json) (text : PyStr) : Prop :=
  ∃ before inner after, text = before ++ (inner ++ after) ∧ Blank before ∧ Blank after ∧
    Writes value inner

/-! ### The scanner reads derivable texts -/

/-- Callbacks that keep the pairs of an object and refuse further constants. -/
structure IsStrictReader (hooks : Hooks) : Prop where
  object : ∀ pairs fields, hooks.object pairs = .ok fields → fields = pairs
  constant : ∀ name value, hooks.constant name ≠ .ok value

theorem exists_blank_skipSpace (text : PyStr) :
    ∃ blank, Blank blank ∧ text = blank ++ skipSpace text :=
  ⟨text.takeWhile isJsonSpace, fun _ member => List.mem_takeWhile_imp member,
    List.takeWhile_append_dropWhile.symm⟩

theorem writesUnits_of_scanUnits {text after : PyStr} {units : List (Bool × CodePoint)}
    (scanned : scanUnits text = .ok (units, after)) :
    ∃ inner, text = inner ++ 0x22 :: after ∧ WritesUnits units inner := by
  fun_induction scanUnits text generalizing units after with
  | case2 c rest quote =>
    simp only [Except.ok.injEq, Prod.mk.injEq] at scanned
    obtain ⟨rfl, rfl⟩ := scanned
    exact ⟨[], by rw [show c = 0x22 from Fin.ext quote]; rfl, .nil⟩
  | case4 c notQuote backslash e isUnicode d₁ d₂ d₃ d₄ rest unit digits ih =>
    simp only [bind_eq_ok, pure_eq_ok, Prod.mk.injEq] at scanned
    obtain ⟨⟨others, behind⟩, scannedRest, rfl, rfl⟩ := scanned
    obtain ⟨inner, rfl, written⟩ := ih scannedRest
    refine ⟨_, ?_, .cons (.unicode digits) written⟩
    rw [show c = 0x5C from Fin.ext backslash, show e = 0x75 from Fin.ext isUnicode]
    rfl
  | case7 c notQuote backslash e rest notUnicode unit known ih =>
    simp only [bind_eq_ok, pure_eq_ok, Prod.mk.injEq] at scanned
    obtain ⟨⟨others, behind⟩, scannedRest, rfl, rfl⟩ := scanned
    obtain ⟨inner, rfl, written⟩ := ih scannedRest
    refine ⟨_, ?_, .cons (.short known) written⟩
    rw [show c = 0x5C from Fin.ext backslash]
    rfl
  | case10 c rest notQuote notBackslash visible ih =>
    simp only [bind_eq_ok, pure_eq_ok, Prod.mk.injEq] at scanned
    obtain ⟨⟨others, behind⟩, scannedRest, rfl, rfl⟩ := scanned
    obtain ⟨inner, rfl, written⟩ := ih scannedRest
    exact ⟨_, rfl, .cons (.plain (Nat.not_lt.mp visible) notQuote notBackslash) written⟩
  | _ => simp at scanned

theorem writesText_of_scanText {text value after : PyStr}
    (scanned : scanText text = .ok (value, after)) :
    ∃ inner, text = inner ++ 0x22 :: after ∧ WritesText value inner := by
  simp only [scanText, bind_eq_ok, pure_eq_ok, Prod.mk.injEq] at scanned
  obtain ⟨⟨units, behind⟩, scannedUnits, rfl, rfl⟩ := scanned
  obtain ⟨inner, rfl, written⟩ := writesUnits_of_scanUnits scannedUnits
  exact ⟨inner, rfl, units, written, rfl⟩

/-! ### Numbers -/

theorem areDigits_takeWhile (text : PyStr) : AreDigits (text.takeWhile CodePoint.isAsciiDigit) :=
  fun _ member => List.mem_takeWhile_imp member

variable {rest : PyStr}

theorem areDigits_cons {c : CodePoint} (digit : c.isAsciiDigit = true) (digits : AreDigits rest) :
    AreDigits (c :: rest) := by
  rw [AreDigits, List.forall_mem_cons]
  exact ⟨digit, digits⟩

theorem isNumeral_of_scanInteger {text digits : PyStr}
    (scanned : scanInteger text = some (digits, rest)) :
    text = digits ++ rest ∧ IsNumeral digits := by
  cases text with
  | nil => simp [scanInteger] at scanned
  | cons c text =>
    rw [scanInteger] at scanned
    split at scanned
    · rename_i zero
      simp only [Option.some.injEq, Prod.mk.injEq] at scanned
      obtain ⟨rfl, rfl⟩ := scanned
      exact ⟨rfl, .inl (by rw [show c = 0x30 from Fin.ext zero])⟩
    split at scanned
    · rename_i notZero digit
      simp only [Option.some.injEq, Prod.mk.injEq] at scanned
      obtain ⟨rfl, rfl⟩ := scanned
      refine ⟨?_, .inr ⟨c, _, rfl, digit, notZero, areDigits_takeWhile text⟩⟩
      rw [List.cons_append, List.takeWhile_append_dropWhile]
    · simp at scanned

theorem isFraction_of_scanFraction {text fraction : PyStr}
    (scanned : scanFraction text = some (fraction, rest)) :
    text = fraction ++ rest ∧ IsFraction fraction := by
  unfold scanFraction at scanned
  split at scanned
  · rename_i point digit behind
    split at scanned
    · rename_i isFraction
      simp only [Bool.and_eq_true, decide_eq_true_eq] at isFraction
      simp only [Option.some.injEq, Prod.mk.injEq] at scanned
      obtain ⟨rfl, rfl⟩ := scanned
      refine ⟨?_, _, by rw [show point = 0x2E from Fin.ext isFraction.1], by simp,
        areDigits_cons isFraction.2 (areDigits_takeWhile behind)⟩
      rw [List.cons_append, List.cons_append, List.takeWhile_append_dropWhile]
    · simp at scanned
  · simp at scanned

theorem areDigits_of_scanExponentDigits {start text exponent : PyStr}
    (scanned : scanExponentDigits start text = some (exponent, rest)) :
    ∃ digits, exponent = start ++ digits ∧ text = digits ++ rest ∧ digits ≠ [] ∧
      AreDigits digits := by
  unfold scanExponentDigits at scanned
  split at scanned
  · rename_i digit behind
    split at scanned
    · rename_i isDigit
      simp only [Option.some.injEq, Prod.mk.injEq] at scanned
      obtain ⟨rfl, rfl⟩ := scanned
      refine ⟨_, rfl, ?_, by simp, areDigits_cons isDigit (areDigits_takeWhile behind)⟩
      rw [List.cons_append, List.takeWhile_append_dropWhile]
    · simp at scanned
  · simp at scanned

theorem isExponent_of_scanExponent {text exponent : PyStr}
    (scanned : scanExponent text = some (exponent, rest)) :
    text = exponent ++ rest ∧ IsExponent exponent := by
  unfold scanExponent at scanned
  split at scanned
  · rename_i letter behind
    split at scanned
    · rename_i isLetter
      simp only [Bool.or_eq_true, decide_eq_true_eq] at isLetter
      split at scanned
      · rename_i sign digits
        split at scanned
        · rename_i isSign
          simp only [Bool.or_eq_true, decide_eq_true_eq] at isSign
          obtain ⟨digits, rfl, rfl, filled, areDigits⟩ := areDigits_of_scanExponentDigits scanned
          exact ⟨rfl, letter, [sign], digits, rfl, isLetter, .inr ⟨sign, rfl, isSign⟩, filled,
            areDigits⟩
        · obtain ⟨digits, rfl, shape, filled, areDigits⟩ :=
            areDigits_of_scanExponentDigits scanned
          rw [shape]
          exact ⟨rfl, letter, [], digits, rfl, isLetter, .inl rfl, filled, areDigits⟩
      · simp at scanned
    · simp at scanned
  · simp at scanned

theorem part_of_getD {part : PyStr → Prop} {text : PyStr} {found : Option (PyStr × PyStr)}
    (sound : ∀ front rest, found = some (front, rest) → text = front ++ rest ∧ part front) :
    text = (found.getD ([], text)).1 ++ (found.getD ([], text)).2 ∧
      ((found.getD ([], text)).1 = [] ∨ part (found.getD ([], text)).1) := by
  cases found with
  | none => exact ⟨rfl, .inl rfl⟩
  | some pair => exact ⟨(sound pair.1 pair.2 rfl).1, .inr (sound pair.1 pair.2 rfl).2⟩

theorem writes_of_scanUnsigned {negative : Bool} {text : PyStr} {value : Json}
    (scanned : scanUnsigned negative text = .ok (value, rest)) :
    ∃ front, text = front ++ rest ∧ Writes value ((if negative then py "-" else []) ++ front) := by
  unfold scanUnsigned at scanned
  split at scanned
  · simp at scanned
  rename_i digits behind integer
  obtain ⟨rfl, numeral⟩ := isNumeral_of_scanInteger integer
  obtain ⟨fractionSplit, isFraction⟩ := @part_of_getD IsFraction behind (scanFraction behind)
    fun _ _ found => isFraction_of_scanFraction found
  dsimp only at scanned
  generalize (scanFraction behind).getD ([], behind) = fraction at scanned fractionSplit isFraction
  obtain ⟨exponentSplit, isExponent⟩ := @part_of_getD IsExponent fraction.2
    (scanExponent fraction.2) fun _ _ found => isExponent_of_scanExponent found
  generalize (scanExponent fraction.2).getD ([], fraction.2) = exponent
    at scanned exponentSplit isExponent
  split at scanned
  · rename_i noParts
    simp only [bind_eq_ok, pure_eq_ok, Prod.mk.injEq] at scanned
    obtain ⟨number, isNumber, rfl, rfl⟩ := scanned
    unfold intOfDigits at isNumber
    split at isNumber
    · rw [Except.ok.injEq] at isNumber
      subst isNumber
      refine ⟨digits, rfl, ?_⟩
      cases negative with
      | true => exact .minus numeral
      | false => exact .int numeral
    · simp at isNumber
  · rename_i someParts
    simp only [Except.ok.injEq, Prod.mk.injEq] at scanned
    obtain ⟨rfl, rfl⟩ := scanned
    refine ⟨digits ++ (fraction.1 ++ exponent.1), ?_, ?_⟩
    · conv_lhs => rw [fractionSplit, exponentSplit]
      simp only [List.append_assoc]
    · rw [← List.append_assoc, ← List.append_assoc]
      refine .float ⟨_, digits, fraction.1, exponent.1, rfl, ?_, numeral, isFraction, isExponent,
        ?_⟩
      · cases negative with
        | true => exact .inr rfl
        | false => exact .inl rfl
      · rintro ⟨noFraction, noExponent⟩
        simp [noFraction, noExponent] at someParts

/-! ### Values -/

section Reader

variable {hooks : Hooks}

variable {rest : PyStr} {fuel : Nat}

theorem AtomStep.writes (reader : IsStrictReader hooks) {text : PyStr} {value : Json}
    (step : AtomStep hooks text value rest) : ∃ front, text = front ++ rest ∧ Writes value front := by
  cases step with
  | word known =>
    simp only [List.mem_cons, List.not_mem_nil, or_false, Prod.mk.injEq] at known
    rcases known with ⟨rfl, rfl⟩ | ⟨rfl, rfl⟩ | ⟨rfl, rfl⟩
    · exact ⟨_, rfl, .null⟩
    · exact ⟨_, rfl, .true⟩
    · exact ⟨_, rfl, .false⟩
  | constant _ returned => exact (reader.constant _ _ returned).elim
  | negative scanned =>
    obtain ⟨front, rfl, written⟩ := writes_of_scanUnsigned scanned
    exact ⟨py "-" ++ front, by rw [List.append_assoc], written⟩
  | positive scanned => exact writes_of_scanUnsigned scanned

structure ScansGrammar (hooks : Hooks) (fuel : Nat) : Prop where
  value : ∀ text value rest, scanValue hooks fuel text = .ok (value, rest) →
    ∃ front, text = front ++ rest ∧ Writes value front
  items : ∀ text items rest, scanItems hooks fuel text = .ok (items, rest) →
    ∃ front, text = front ++ rest ∧ WritesItems items front
  field : ∀ text field rest, scanField hooks fuel text = .ok (field, rest) →
    ∃ front, text = front ++ rest ∧ WritesField field front
  fields : ∀ text fields rest, scanFields hooks fuel text = .ok (fields, rest) →
    ∃ front, text = front ++ rest ∧ WritesFields fields front

theorem exists_container {text : PyStr} {first : PyStr → Prop} {others : PyStr → Prop}
    {behind : PyStr} (firstRead : ∃ front, skipSpace text = front ++ behind ∧ first front)
    (othersRead : ∃ front, skipSpace behind = front ++ rest ∧ others front) :
    ∃ before front after back, text = (before ++ (front ++ (after ++ back))) ++ rest ∧
      Blank before ∧ first front ∧ Blank after ∧ others back := by
  obtain ⟨front, frontSplit, isFirst⟩ := firstRead
  obtain ⟨back, backSplit, isOthers⟩ := othersRead
  obtain ⟨before, spaceBefore, textSplit⟩ := exists_blank_skipSpace text
  obtain ⟨after, spaceAfter, behindSplit⟩ := exists_blank_skipSpace behind
  refine ⟨before, front, after, back, ?_, spaceBefore, isFirst, spaceAfter, isOthers⟩
  rw [backSplit] at behindSplit
  rw [textSplit, frontSplit, behindSplit]
  simp only [List.append_assoc]

theorem scansGrammar_value (reader : IsStrictReader hooks) (ih : ScansGrammar hooks fuel)
    {text : PyStr} {value : Json} (scanned : scanValue hooks (fuel + 1) text = .ok (value, rest)) :
    ∃ front, text = front ++ rest ∧ Writes value front := by
  cases valueStep scanned with
  | str read =>
    obtain ⟨inner, rfl, written⟩ := writesText_of_scanText read
    exact ⟨_, by simp, .str written⟩
  | @emptyArr text _ closed =>
    obtain ⟨blank, space, split⟩ := exists_blank_skipSpace text
    refine ⟨_, ?_, .emptyArr space⟩
    conv_lhs => rw [split, closed]
    simp
  | arr first others =>
    obtain ⟨before, front, after, back, rfl, spaceBefore, isFirst, spaceAfter, isOthers⟩ :=
      exists_container (ih.value _ _ _ first) (ih.items _ _ _ others)
    exact ⟨_, rfl, .arr spaceBefore isFirst spaceAfter isOthers⟩
  | @emptyObj text _ _ closed isBuilt =>
    rw [reader.object _ _ isBuilt]
    obtain ⟨blank, space, split⟩ := exists_blank_skipSpace text
    refine ⟨_, ?_, .emptyObj space⟩
    conv_lhs => rw [split, closed]
    simp
  | obj first others isBuilt =>
    rw [reader.object _ _ isBuilt]
    obtain ⟨before, front, after, back, rfl, spaceBefore, isFirst, spaceAfter, isOthers⟩ :=
      exists_container (ih.field _ _ _ first) (ih.fields _ _ _ others)
    exact ⟨_, rfl, .obj spaceBefore isFirst spaceAfter isOthers⟩
  | atom step => exact step.writes reader

theorem scansGrammar_items (ih : ScansGrammar hooks fuel) {text : PyStr} {items : List Json}
    (scanned : scanItems hooks (fuel + 1) text = .ok (items, rest)) :
    ∃ front, text = front ++ rest ∧ WritesItems items front := by
  rcases scanItems_succ scanned with ⟨rfl, rfl⟩ | ⟨_, _, _, _, rfl, first, others, rfl⟩
  · exact ⟨[0x5D], rfl, .nil⟩
  · obtain ⟨before, front, after, back, rfl, spaceBefore, isFirst, spaceAfter, isOthers⟩ :=
      exists_container (ih.value _ _ _ first) (ih.items _ _ _ others)
    exact ⟨_, rfl, .cons spaceBefore isFirst spaceAfter isOthers⟩

theorem scansGrammar_field (ih : ScansGrammar hooks fuel) {text : PyStr} {field : PyStr × Json}
    (scanned : scanField hooks (fuel + 1) text = .ok (field, rest)) :
    ∃ front, text = front ++ rest ∧ WritesField field front := by
  obtain ⟨behind, after, value, rfl, colon, keyRead, opened, valueRead, rfl⟩ :=
    scanField_succ scanned
  obtain ⟨inner, textSplit, keyWritten⟩ := writesText_of_scanText keyRead
  obtain ⟨front, frontSplit, written⟩ := ih.value _ _ _ valueRead
  obtain ⟨before, spaceBefore, colonSplit⟩ := exists_blank_skipSpace colon
  obtain ⟨between, spaceAfter, afterSplit⟩ := exists_blank_skipSpace after
  refine ⟨_, ?_, .mk keyWritten spaceBefore spaceAfter written⟩
  rw [opened, afterSplit, frontSplit] at colonSplit
  rw [textSplit, colonSplit]
  simp only [List.append_assoc, List.cons_append]

theorem scansGrammar_fields (ih : ScansGrammar hooks fuel) {text : PyStr}
    {fields : List (PyStr × Json)} (scanned : scanFields hooks (fuel + 1) text = .ok (fields, rest)) :
    ∃ front, text = front ++ rest ∧ WritesFields fields front := by
  rcases scanFields_succ scanned with ⟨rfl, rfl⟩ | ⟨_, _, _, _, rfl, first, others, rfl⟩
  · exact ⟨[0x7D], rfl, .nil⟩
  · obtain ⟨before, front, after, back, rfl, spaceBefore, isFirst, spaceAfter, isOthers⟩ :=
      exists_container (ih.field _ _ _ first) (ih.fields _ _ _ others)
    exact ⟨_, rfl, .cons spaceBefore isFirst spaceAfter isOthers⟩

theorem scansGrammar (reader : IsStrictReader hooks) (fuel : Nat) : ScansGrammar hooks fuel := by
  induction fuel with
  | zero =>
    constructor <;> intro text result rest scanned <;>
      simp [scanValue, scanItems, scanField, scanFields] at scanned
  | succ fuel ih =>
    exact ⟨fun _ _ _ => scansGrammar_value reader ih, fun _ _ _ => scansGrammar_items ih,
      fun _ _ _ => scansGrammar_field ih, fun _ _ _ => scansGrammar_fields ih⟩

theorem isStrictJson_of_loads (reader : IsStrictReader hooks) {text : PyStr} {value : Json}
    (loaded : loads hooks text = .ok value) : IsStrictJson value text := by
  simp only [loads, bind_eq_ok, pure_eq_ok, raiseIf_eq_ok, not_not, ne_eq] at loaded
  obtain ⟨_, -, ⟨result, rest⟩, scanned, _, ended, rfl⟩ := loaded
  obtain ⟨front, split, written⟩ := (scansGrammar reader _).value _ _ _ scanned
  obtain ⟨before, spaceBefore, textSplit⟩ := exists_blank_skipSpace text
  obtain ⟨after, spaceAfter, restSplit⟩ := exists_blank_skipSpace rest
  rw [ended, List.append_nil] at restSplit
  subst restSplit
  exact ⟨before, front, rest, by rw [textSplit, split], spaceBefore, spaceAfter, written⟩

end Reader

end Json

end PyLib
