import CyberLion.JsonGrammar
import CyberLion.PyInt

/-!
# Reading the texts of the grammar

Every text of a value is read back as the value, when its objects have distinct
keys and its integers can be converted.  With the derivations of what was read,
`json.loads` is the strict grammar on such values.
-/

namespace PyLib

namespace Json

/-! ### Strings -/

theorem WritesUnit.scanUnits_append {unit : Bool × CodePoint} {spelling : PyStr}
    (written : WritesUnit unit spelling) (rest : PyStr) :
    scanUnits (spelling ++ rest) = prependUnits [unit] (scanUnits rest) := by
  cases written with
  | plain visible notQuote notBackslash =>
    rw [List.cons_append, List.nil_append, scanUnits.eq_def]
    simp only [notQuote, notBackslash, if_false, Nat.not_lt.mpr visible]
    cases scanUnits rest <;> rfl
  | @short c letter known =>
    have notUnicode : letter.val ≠ 0x75 := by
      intro same
      simp [shortUnescape, same] at known
    rw [List.cons_append, List.cons_append, List.nil_append, scanUnits.eq_def]
    simp only [show ((0x5C : CodePoint).val = 0x22) = False by decide,
      show ((0x5C : CodePoint).val = 0x5C) = True by decide, if_true, if_false,
      notUnicode, known]
    cases scanUnits rest <;> rfl
  | unicode digits =>
    simp only [List.cons_append, List.nil_append]
    rw [scanUnits]
    simp only [digits]
    cases scanUnits rest <;> rfl

theorem WritesUnits.scanUnits_eq {units : List (Bool × CodePoint)} {inner : PyStr}
    (written : WritesUnits units inner) (after : PyStr) :
    scanUnits (inner ++ 0x22 :: after) = .ok (units, after) := by
  induction written with
  | nil =>
    rw [List.nil_append, scanUnits.eq_def]
    rfl
  | cons first others ih =>
    rw [List.append_assoc, first.scanUnits_append, ih]
    rfl

theorem WritesText.scanText_eq {text inner : PyStr} (written : WritesText text inner)
    (after : PyStr) : scanText (inner ++ 0x22 :: after) = .ok (text, after) := by
  obtain ⟨units, writtenUnits, joined⟩ := written
  rw [scanText, writtenUnits.scanUnits_eq, ← joined]
  rfl

/-! ### White space -/

theorem blank_nil : Blank [] := by
  simp [Blank]

theorem skipSpace_blank {blank : PyStr} (space : Blank blank) (rest : PyStr) :
    skipSpace (blank ++ rest) = skipSpace rest := by
  induction blank with
  | nil => rfl
  | cons c blank ih =>
    have isSpace := space c (by simp)
    rw [List.cons_append, skipSpace, List.dropWhile_cons_of_pos isSpace]
    exact ih fun other member => space other (List.mem_cons_of_mem c member)

theorem numberStop_blank {blank : PyStr} (space : Blank blank) {rest : PyStr}
    (stop : NumberStop rest) : NumberStop (blank ++ rest) := by
  cases blank with
  | nil => exact stop
  | cons c blank =>
    intro d isHead
    obtain rfl : c = d := by simpa using isHead
    have isSpace := space c (by simp)
    simp only [isJsonSpace, Bool.or_eq_true, beq_iff_eq] at isSpace
    simp only [CodePoint.isAsciiDigit, Bool.and_eq_false_iff, decide_eq_false_iff_not]
    omega

/-! ### Numbers -/

theorem IsNumeral.exists_cons {digits : PyStr} (numeral : IsNumeral digits) :
    ∃ c rest, digits = c :: rest ∧ AreDigits (c :: rest) ∧ (c.val = 0x30 → rest = []) := by
  rcases numeral with rfl | ⟨c, rest, rfl, digit, notZero, areDigits⟩
  · exact ⟨0x30, [], rfl, by simp [AreDigits, CodePoint.isAsciiDigit], fun _ => rfl⟩
  · exact ⟨c, rest, rfl, areDigits_cons digit areDigits, fun zero => absurd zero notZero⟩

theorem IsNumeral.natText_eq {digits : PyStr} (numeral : IsNumeral digits) :
    natText (natOfText digits) = digits := by
  obtain ⟨c, rest, rfl, areDigits, leading⟩ := numeral.exists_cons
  exact natText_natOfText areDigits leading

theorem isNumeral_natText (n : Nat) : IsNumeral (natText n) := by
  have areDigits := natText_isAsciiDigit n
  cases shape : natText n with
  | nil => exact absurd shape (natText_ne_nil n)
  | cons c rest =>
    rw [shape, List.forall_mem_cons] at areDigits
    by_cases zero : c.val = 0x30
    · rw [natText_head_zero shape zero, show c = 0x30 from Fin.ext zero]
      exact .inl rfl
    · exact .inr ⟨c, rest, rfl, areDigits.1, zero, areDigits.2⟩

theorem scanInteger_append {digits rest : PyStr} (numeral : IsNumeral digits)
    (stop : ∀ c ∈ rest.head?, c.isAsciiDigit = false) :
    scanInteger (digits ++ rest) = some (digits, rest) := by
  rcases numeral with rfl | ⟨c, others, rfl, digit, notZero, areDigits⟩
  · rw [List.cons_append, scanInteger, if_pos (by decide), List.nil_append]
  · obtain ⟨taken, dropped⟩ := takeWhile_digits areDigits stop
    rw [List.cons_append, scanInteger, if_neg notZero, if_pos digit, taken, dropped]

theorem scanFraction_append {fraction rest : PyStr} (isFraction : IsFraction fraction)
    (stop : ∀ c ∈ rest.head?, c.isAsciiDigit = false) :
    scanFraction (fraction ++ rest) = some (fraction, rest) := by
  obtain ⟨digits, rfl, filled, areDigits⟩ := isFraction
  cases digits with
  | nil => exact absurd rfl filled
  | cons digit digits =>
    rw [AreDigits, List.forall_mem_cons] at areDigits
    obtain ⟨taken, dropped⟩ := takeWhile_digits areDigits.2 stop
    rw [List.cons_append, List.cons_append, scanFraction, areDigits.1, taken, dropped]
    rfl

theorem scanExponentDigits_append {start digits rest : PyStr} (filled : digits ≠ [])
    (areDigits : AreDigits digits) (stop : ∀ c ∈ rest.head?, c.isAsciiDigit = false) :
    scanExponentDigits start (digits ++ rest) = some (start ++ digits, rest) := by
  cases digits with
  | nil => exact absurd rfl filled
  | cons digit digits =>
    rw [AreDigits, List.forall_mem_cons] at areDigits
    obtain ⟨taken, dropped⟩ := takeWhile_digits areDigits.2 stop
    rw [List.cons_append, scanExponentDigits, if_pos areDigits.1, taken, dropped]

theorem scanExponent_append {exponent rest : PyStr} (isExponent : IsExponent exponent)
    (stop : ∀ c ∈ rest.head?, c.isAsciiDigit = false) :
    scanExponent (exponent ++ rest) = some (exponent, rest) := by
  obtain ⟨letter, sign, digits, rfl, isLetter, isSign, filled, areDigits⟩ := isExponent
  have isLetterBool : (letter.val = 0x65 || letter.val = 0x45 : Bool) = true := by
    simpa using isLetter
  have digitsRead := fun start => @scanExponentDigits_append start digits rest filled areDigits stop
  rcases isSign with rfl | ⟨mark, rfl, isMark⟩
  · cases digits with
    | nil => exact absurd rfl filled
    | cons digit digits =>
      have isDigit := areDigits digit (by simp)
      simp only [CodePoint.isAsciiDigit, Bool.and_eq_true, decide_eq_true_eq] at isDigit
      have noMark : (digit.val = 0x2B || digit.val = 0x2D : Bool) = false := by
        simp only [Bool.or_eq_false_iff, decide_eq_false_iff_not]
        omega
      simp only [List.cons_append, List.nil_append]
      rw [scanExponent]
      simp only [isLetterBool, noMark, if_true, Bool.false_eq_true, if_false]
      exact digitsRead [letter]
  · have isMarkBool : (mark.val = 0x2B || mark.val = 0x2D : Bool) = true := by
      simpa using isMark
    simp only [List.cons_append, List.nil_append]
    rw [scanExponent]
    simp only [isLetterBool, isMarkBool, if_true]
    exact digitsRead [letter, mark]

theorem head_exponent {exponent rest : PyStr} (isExponent : exponent = [] ∨ IsExponent exponent)
    (stop : NumberStop rest) : ∀ c ∈ (exponent ++ rest).head?,
      c.isAsciiDigit = false ∧ c.val ≠ 0x2E := by
  rcases isExponent with rfl | ⟨letter, sign, digits, rfl, isLetter, -⟩
  · intro c head
    exact ⟨(stop c head).1, (stop c head).2.1⟩
  · intro c head
    obtain rfl : letter = c := by simpa using head
    simp only [CodePoint.isAsciiDigit, Bool.and_eq_false_iff, decide_eq_false_iff_not]
    omega

theorem scanFraction_of_head {rest : PyStr} (notPoint : ∀ c ∈ rest.head?, c.val ≠ 0x2E) :
    scanFraction rest = none := by
  match rest with
  | [] => rfl
  | [_] => rfl
  | c :: d :: rest =>
    have differs := notPoint c (by simp)
    simp [scanFraction, differs]

theorem scanUnsigned_append (negative : Bool) {digits fraction exponent rest : PyStr}
    (numeral : IsNumeral digits) (isFraction : fraction = [] ∨ IsFraction fraction)
    (isExponent : exponent = [] ∨ IsExponent exponent) (stop : NumberStop rest) :
    scanUnsigned negative (digits ++ (fraction ++ (exponent ++ rest))) =
      if fraction.isEmpty && exponent.isEmpty then do
        let value ← intOfDigits negative digits
        return (value, rest)
      else
        .ok (.float ((if negative then py "-" else []) ++ digits ++ fraction ++ exponent),
          rest) := by
  have exponentHead := head_exponent isExponent stop
  have fractionHead : ∀ c ∈ (fraction ++ (exponent ++ rest)).head?, c.isAsciiDigit = false := by
    rcases isFraction with rfl | ⟨others, rfl, -⟩
    · exact fun c head => (exponentHead c head).1
    · intro c head
      obtain rfl : 0x2E = c := by simpa using head
      decide
  have fractionRead : (scanFraction (fraction ++ (exponent ++ rest))).getD
      ([], fraction ++ (exponent ++ rest)) = (fraction, exponent ++ rest) := by
    rcases isFraction with rfl | isFraction
    · rw [List.nil_append, scanFraction_of_head fun c head => (exponentHead c head).2]
      rfl
    · rw [scanFraction_append isFraction fun c head => (exponentHead c head).1]
      rfl
  have exponentRead : (scanExponent (exponent ++ rest)).getD ([], exponent ++ rest) =
      (exponent, rest) := by
    rcases isExponent with rfl | isExponent
    · rw [List.nil_append, scanExponent_stop stop]
      rfl
    · rw [scanExponent_append isExponent fun c head => (stop c head).1]
      rfl
  rw [scanUnsigned, scanInteger_append numeral fractionHead]
  simp only [fractionRead, exponentRead]
  split
  · rename_i noParts
    simp only [Bool.and_eq_true, List.isEmpty_iff] at noParts
    rw [noParts.1, noParts.2]
    rfl
  · rfl

variable {hooks : Hooks}

theorem scanAtom_signed (hooks : Hooks) {sign digits rest : PyStr}
    (isSign : sign = [] ∨ sign = py "-") (numeral : IsNumeral digits) :
    scanAtom hooks (sign ++ (digits ++ rest)) =
      scanUnsigned (decide (sign = py "-")) (digits ++ rest) := by
  obtain ⟨c, others, rfl, areDigits, -⟩ := numeral.exists_cons
  have digit := areDigits c (by simp)
  rcases isSign with rfl | rfl
  · rw [List.nil_append, List.cons_append, scanAtom_digit hooks digit]
    rfl
  · rw [List.cons_append, show py "-" = [0x2D] by decide, List.cons_append, List.nil_append,
      scanAtom_minus hooks digit]
    rfl

theorem scanAtom_float {literal rest : PyStr} (isFloat : IsFloatLiteral literal)
    (stop : NumberStop rest) : scanAtom hooks (literal ++ rest) = .ok (.float literal, rest) := by
  obtain ⟨sign, digits, fraction, exponent, rfl, isSign, numeral, isFraction, isExponent,
    notInt⟩ := isFloat.parts
  have someParts : (fraction.isEmpty && exponent.isEmpty) = false := by
    rw [Bool.eq_false_iff]
    simpa only [ne_eq, Bool.and_eq_true, List.isEmpty_iff] using notInt
  have written : (if decide (sign = py "-") = true then py "-" else []) = sign := by
    rcases isSign with rfl | rfl <;> decide
  simp only [List.append_assoc]
  rw [scanAtom_signed hooks isSign numeral,
    scanUnsigned_append _ numeral isFraction isExponent stop, someParts, written]
  simp only [Bool.false_eq_true, if_false, List.append_assoc]

theorem intOfDigits_eq {digits : PyStr} (numeral : IsNumeral digits) (negative : Bool)
    (printable : isPrintableInt (natOfText digits) = true) : intOfDigits negative digits =
      .ok (.int (if negative then -(natOfText digits : Int) else natOfText digits)) := by
  simp only [isPrintableInt, Int.natAbs_natCast, numeral.natText_eq, decide_eq_true_eq] at printable
  rw [intOfDigits, if_pos printable]

theorem scanAtom_int {number : Int} {text rest : PyStr} (written : Writes (.int number) text)
    (stop : NumberStop rest) (printable : isPrintableInt number = true) :
    scanAtom hooks (text ++ rest) = .ok (.int number, rest) := by
  cases written with
  | int numeral =>
    have read := scanUnsigned_append false numeral (.inl rfl) (.inl rfl) stop
    have signed := @scanAtom_signed hooks [] text rest (.inl rfl) numeral
    rw [List.nil_append] at signed
    rw [signed]
    refine read.trans ?_
    rw [intOfDigits_eq numeral false printable]
    rfl
  | @minus digits numeral =>
    have positive : isPrintableInt (natOfText digits) = true := by
      simpa [isPrintableInt] using printable
    have read := scanUnsigned_append true numeral (.inl rfl) (.inl rfl) stop
    have signed := @scanAtom_signed hooks (py "-") digits rest (.inr rfl) numeral
    rw [show py "-" = [0x2D] by decide, List.cons_append, List.nil_append] at signed
    rw [List.cons_append, signed]
    refine read.trans ?_
    rw [intOfDigits_eq numeral true positive]
    rfl

/-! ### How a text starts -/

def IsStart (c : CodePoint) : Prop :=
  isJsonSpace c = false ∧ c.val ≠ 0x5D ∧ c.val ≠ 0x7D ∧ c.val < 0x80

def IsEnd (c : CodePoint) : Prop :=
  isJsonSpace c = false ∧ (c.val = 0x2C ∨ c.val = 0x5D ∨ c.val = 0x7D)

def IsNumberStart (c : CodePoint) : Prop :=
  c.isAsciiDigit = true ∨ c = 0x2D

theorem IsNumberStart.isStart {c : CodePoint} (starts : IsNumberStart c) : IsStart c := by
  rcases starts with digit | rfl
  · simp only [CodePoint.isAsciiDigit, Bool.and_eq_true, decide_eq_true_eq] at digit
    simp only [IsStart, isJsonSpace, Bool.or_eq_false_iff, beq_eq_false_iff_ne]
    omega
  · exact ⟨by decide, by decide⟩

theorem IsNumeral.exists_start {digits : PyStr} (numeral : IsNumeral digits) :
    ∃ c tail, digits = c :: tail ∧ IsNumberStart c := by
  obtain ⟨c, tail, rfl, areDigits, -⟩ := numeral.exists_cons
  exact ⟨c, tail, rfl, .inl (areDigits c (by simp))⟩

theorem IsFloatLiteral.exists_start {literal : PyStr} (isFloat : IsFloatLiteral literal) :
    ∃ c tail, literal = c :: tail ∧ IsNumberStart c := by
  obtain ⟨sign, digits, fraction, exponent, rfl, isSign, numeral, -⟩ := isFloat.parts
  obtain ⟨c, tail, rfl, starts⟩ := numeral.exists_start
  rcases isSign with rfl | rfl
  · exact ⟨c, _, rfl, starts⟩
  · exact ⟨0x2D, _, rfl, .inr rfl⟩

theorem exists_start_of_int {number : Int} {text : PyStr} (written : Writes (.int number) text) :
    ∃ c tail, text = c :: tail ∧ IsNumberStart c := by
  cases written with
  | int numeral => exact numeral.exists_start
  | minus numeral => exact ⟨0x2D, _, rfl, .inr rfl⟩

theorem Writes.exists_cons {value : Json} {text : PyStr} (written : Writes value text) :
    ∃ c tail, text = c :: tail ∧ IsStart c := by
  cases written with
  | null => exact ⟨0x6E, py "ull", by decide, by decide, by decide⟩
  | true => exact ⟨0x74, py "rue", by decide, by decide, by decide⟩
  | false => exact ⟨0x66, py "alse", by decide, by decide, by decide⟩
  | int numeral =>
    obtain ⟨c, tail, shape, starts⟩ := numeral.exists_start
    exact ⟨c, tail, shape, starts.isStart⟩
  | minus numeral => exact ⟨0x2D, _, rfl, by decide, by decide⟩
  | float isFloat =>
    obtain ⟨c, tail, shape, starts⟩ := isFloat.exists_start
    exact ⟨c, tail, shape, starts.isStart⟩
  | str chars => exact ⟨0x22, _, rfl, by decide, by decide⟩
  | emptyArr space => exact ⟨0x5B, _, rfl, by decide, by decide⟩
  | arr spaceBefore firstWritten spaceAfter restWritten =>
    exact ⟨0x5B, _, rfl, by decide, by decide⟩
  | emptyObj space => exact ⟨0x7B, _, rfl, by decide, by decide⟩
  | obj spaceBefore firstWritten spaceAfter restWritten =>
    exact ⟨0x7B, _, rfl, by decide, by decide⟩

theorem WritesItems.exists_cons {items : List Json} {text : PyStr}
    (written : WritesItems items text) : ∃ c tail, text = c :: tail ∧ IsEnd c := by
  cases written with
  | nil => exact ⟨0x5D, [], rfl, by decide, by decide⟩
  | cons spaceBefore firstWritten spaceAfter restWritten =>
    exact ⟨0x2C, _, rfl, by decide, by decide⟩

theorem WritesFields.exists_cons {fields : List (PyStr × Json)} {text : PyStr}
    (written : WritesFields fields text) : ∃ c tail, text = c :: tail ∧ IsEnd c := by
  cases written with
  | nil => exact ⟨0x7D, [], rfl, by decide, by decide⟩
  | cons spaceBefore firstWritten spaceAfter restWritten =>
    exact ⟨0x2C, _, rfl, by decide, by decide⟩

theorem Writes.skipSpace_eq {value : Json} {text blank : PyStr} (written : Writes value text)
    (space : Blank blank) (rest : PyStr) :
    skipSpace (blank ++ (text ++ rest)) = text ++ rest := by
  obtain ⟨c, tail, rfl, solid, -⟩ := written.exists_cons
  rw [skipSpace_blank space, List.cons_append, skipSpace_cons solid]

theorem WritesField.skipSpace_eq {field : PyStr × Json} {text blank : PyStr}
    (written : WritesField field text) (space : Blank blank) (rest : PyStr) :
    skipSpace (blank ++ (text ++ rest)) = text ++ rest := by
  cases written with
  | mk chars spaceBefore spaceAfter valueWritten =>
    rw [skipSpace_blank space, List.cons_append, skipSpace_cons (by decide)]

theorem skipSpace_end {text blank : PyStr} (ends : ∃ c tail, text = c :: tail ∧ IsEnd c)
    (space : Blank blank) (rest : PyStr) :
    skipSpace (blank ++ (text ++ rest)) = text ++ rest ∧
      NumberStop (blank ++ (text ++ rest)) := by
  obtain ⟨c, tail, rfl, solid, closing⟩ := ends
  refine ⟨?_, numberStop_blank space (numberStop_cons _ closing)⟩
  rw [skipSpace_blank space, List.cons_append, skipSpace_cons solid]

/-! ### Reading a text -/

/-- The reading specification of one value: with fuel for any text of it the
scanner returns it and stops behind the text. -/
def ReadsTexts (hooks : Hooks) (value : Json) : Prop :=
  ∀ text, Writes value text → ∀ fuel rest, text.length ≤ fuel → NumberStop rest →
    scanValue hooks fuel (text ++ rest) = .ok (value, rest)

theorem scanItems_of_writes {items : List Json}
    (reads : ∀ item ∈ items, ReadsTexts hooks item) {text : PyStr}
    (written : WritesItems items text) (fuel : Nat) (rest : PyStr)
    (enough : text.length ≤ fuel) :
    scanItems hooks fuel (text ++ rest) = .ok (items, rest) := by
  induction items generalizing fuel text with
  | nil =>
    cases written
    obtain ⟨fuel, rfl⟩ : ∃ smaller, fuel = smaller + 1 :=
      ⟨fuel - 1, by simp at enough; omega⟩
    rfl
  | cons item items ih =>
    cases written with
    | @cons _ _ before first after tail spaceBefore firstWritten spaceAfter restWritten =>
      simp only [List.length_cons, List.length_append] at enough
      obtain ⟨fuel, rfl⟩ : ∃ smaller, fuel = smaller + 1 := ⟨fuel - 1, by omega⟩
      obtain ⟨skipped, stop⟩ := skipSpace_end restWritten.exists_cons spaceAfter rest
      have itemScan := reads item (by simp) first firstWritten fuel (after ++ (tail ++ rest))
        (by omega) stop
      have itemsScan := ih
        (fun other member => reads other (List.mem_cons_of_mem item member)) restWritten
        fuel (by omega)
      simp only [List.append_assoc, List.cons_append]
      rw [scanItems]
      simp only [show ((0x2C : CodePoint).val = 0x5D) = False by decide,
        show ((0x2C : CodePoint).val = 0x2C) = True by decide, if_true, if_false,
        firstWritten.skipSpace_eq spaceBefore, itemScan, ok_bind, skipped, itemsScan]
      rfl

theorem scanField_of_writes {field : PyStr × Json} (reads : ReadsTexts hooks field.2)
    {text : PyStr} (written : WritesField field text) (fuel : Nat) (rest : PyStr)
    (enough : text.length ≤ fuel) (stop : NumberStop rest) :
    scanField hooks fuel (text ++ rest) = .ok (field, rest) := by
  cases written with
  | @mk key inner before after valueText value chars spaceBefore spaceAfter valueWritten =>
    simp only [List.length_cons, List.length_append] at enough
    obtain ⟨fuel, rfl⟩ : ∃ smaller, fuel = smaller + 1 := ⟨fuel - 1, by omega⟩
    have valueScan := reads valueText valueWritten fuel rest (by omega) stop
    simp only [List.append_assoc, List.cons_append]
    rw [scanField]
    simp only [show ((0x22 : CodePoint).val = 0x22) = True by decide, if_true,
      chars.scanText_eq, ok_bind, skipSpace_blank spaceBefore]
    rw [skipSpace_cons (by decide)]
    simp only [show ((0x3A : CodePoint).val = 0x3A) = True by decide, if_true,
      valueWritten.skipSpace_eq spaceAfter, valueScan, ok_bind]
    rfl

theorem scanFields_of_writes {fields : List (PyStr × Json)}
    (reads : ∀ field ∈ fields, ReadsTexts hooks field.2) {text : PyStr}
    (written : WritesFields fields text) (fuel : Nat) (rest : PyStr)
    (enough : text.length ≤ fuel) :
    scanFields hooks fuel (text ++ rest) = .ok (fields, rest) := by
  induction fields generalizing fuel text with
  | nil =>
    cases written
    obtain ⟨fuel, rfl⟩ : ∃ smaller, fuel = smaller + 1 :=
      ⟨fuel - 1, by simp at enough; omega⟩
    rfl
  | cons field fields ih =>
    cases written with
    | @cons _ _ before first after tail spaceBefore firstWritten spaceAfter restWritten =>
      simp only [List.length_cons, List.length_append] at enough
      obtain ⟨fuel, rfl⟩ : ∃ smaller, fuel = smaller + 1 := ⟨fuel - 1, by omega⟩
      obtain ⟨skipped, stop⟩ := skipSpace_end restWritten.exists_cons spaceAfter rest
      have fieldScan := scanField_of_writes (reads field (by simp)) firstWritten fuel
        (after ++ (tail ++ rest)) (by omega) stop
      have fieldsScan := ih
        (fun other member => reads other (List.mem_cons_of_mem field member)) restWritten
        fuel (by omega)
      simp only [List.append_assoc, List.cons_append]
      rw [scanFields]
      simp only [show ((0x2C : CodePoint).val = 0x7D) = False by decide,
        show ((0x2C : CodePoint).val = 0x2C) = True by decide, if_true, if_false,
        firstWritten.skipSpace_eq spaceBefore, fieldScan, ok_bind, skipped, fieldsScan]
      rfl

theorem scanValue_eq_scanAtom {c : CodePoint} {rest : PyStr} (number : IsNumberStart c)
    (fuel : Nat) : scanValue hooks (fuel + 1) (c :: rest) = scanAtom hooks (c :: rest) := by
  have notSpecial : c.val ≠ 0x22 ∧ c.val ≠ 0x5B ∧ c.val ≠ 0x7B := by
    rcases number with digit | rfl
    · simp only [CodePoint.isAsciiDigit, Bool.and_eq_true, decide_eq_true_eq] at digit
      omega
    · decide
  rw [scanValue.eq_def]
  simp only [notSpecial, if_false]

theorem scanValue_of_number {value : Json} {text rest : PyStr}
    (starts : ∃ c tail, text = c :: tail ∧ IsNumberStart c)
    (scanned : scanAtom hooks (text ++ rest) = .ok (value, rest)) {fuel : Nat}
    (enough : text.length ≤ fuel) : scanValue hooks fuel (text ++ rest) = .ok (value, rest) := by
  obtain ⟨c, tail, rfl, number⟩ := starts
  obtain ⟨fuel, rfl⟩ : ∃ smaller, fuel = smaller + 1 := ⟨fuel - 1, by simp at enough; omega⟩
  rw [List.cons_append, scanValue_eq_scanAtom number, ← List.cons_append, scanned]

theorem readsTexts (keeps : KeepsDistinct hooks) {value : Json}
    (distinct : DistinctKeys value) (printable : value.isPrintable = true) :
    ReadsTexts hooks value := by
  induction distinct with
  | null =>
    intro text written fuel rest enough stop
    cases written
    obtain ⟨fuel, rfl⟩ : ∃ smaller, fuel = smaller + 1 := ⟨fuel - 1, by
      have : (py "null").length = 4 := by decide
      omega⟩
    rw [show py "null" = 0x6E :: py "ull" by decide]
    rfl
  | bool flag =>
    intro text written fuel rest enough stop
    cases written with
    | true =>
      obtain ⟨fuel, rfl⟩ : ∃ smaller, fuel = smaller + 1 := ⟨fuel - 1, by
        have : (py "true").length = 4 := by decide
        omega⟩
      rw [show py "true" = 0x74 :: py "rue" by decide]
      rfl
    | false =>
      obtain ⟨fuel, rfl⟩ : ∃ smaller, fuel = smaller + 1 := ⟨fuel - 1, by
        have : (py "false").length = 5 := by decide
        omega⟩
      rw [show py "false" = 0x66 :: py "alse" by decide]
      rfl
  | int number =>
    intro text written fuel rest enough stop
    exact scanValue_of_number (exists_start_of_int written) (scanAtom_int written stop printable)
      enough
  | float literal =>
    intro text written fuel rest enough stop
    cases written with
    | float isFloat =>
      exact scanValue_of_number isFloat.exists_start (scanAtom_float isFloat stop) enough
  | str value =>
    intro text written fuel rest enough stop
    cases written with
    | @str _ inner chars =>
      obtain ⟨fuel, rfl⟩ : ∃ smaller, fuel = smaller + 1 :=
        ⟨fuel - 1, by simp at enough; omega⟩
      simp only [List.append_assoc, List.cons_append, List.nil_append]
      rw [scanValue.eq_def]
      simp only [show ((0x22 : CodePoint).val = 0x22) = True by decide, if_true,
        chars.scanText_eq, ok_bind]
      rfl
  | arr all ih =>
    intro text written fuel rest enough stop
    cases written with
    | emptyArr space =>
      simp only [List.length_cons, List.length_append] at enough
      obtain ⟨fuel, rfl⟩ : ∃ smaller, fuel = smaller + 1 := ⟨fuel - 1, by omega⟩
      simp only [List.append_assoc, List.cons_append, List.nil_append]
      rw [scanValue.eq_def]
      simp only [show ((0x5B : CodePoint).val = 0x22) = False by decide,
        show ((0x5B : CodePoint).val = 0x5B) = True by decide, if_true, if_false,
        skipSpace_blank space]
      rw [skipSpace_cons (by decide)]
      rfl
    | @arr item items before first after tail spaceBefore firstWritten spaceAfter
          restWritten =>
        simp only [List.length_cons, List.length_append] at enough
        obtain ⟨fuel, rfl⟩ : ∃ smaller, fuel = smaller + 1 := ⟨fuel - 1, by omega⟩
        have reads : ∀ other ∈ item :: items, ReadsTexts hooks other :=
          fun other member => ih other member (isPrintable_of_mem printable member)
        obtain ⟨skipped, itemStop⟩ := skipSpace_end restWritten.exists_cons spaceAfter rest
        have itemScan := reads item (by simp) first firstWritten fuel
          (after ++ (tail ++ rest)) (by omega) itemStop
        have itemsScan := scanItems_of_writes
          (fun other member => reads other (List.mem_cons_of_mem item member)) restWritten
          fuel rest (by omega)
        obtain ⟨c, firstTail, firstShape, -, notBracket, -⟩ := firstWritten.exists_cons
        simp only [List.append_assoc, List.cons_append]
        rw [scanValue.eq_def]
        simp only [show ((0x5B : CodePoint).val = 0x22) = False by decide,
          show ((0x5B : CodePoint).val = 0x5B) = True by decide, if_true, if_false,
          firstWritten.skipSpace_eq spaceBefore]
        rw [firstShape, List.cons_append] at itemScan ⊢
        simp only [notBracket, if_false, itemScan, ok_bind, skipped, itemsScan]
        rfl
  | obj keys all ih =>
    intro text written fuel rest enough stop
    cases written with
    | emptyObj space =>
      simp only [List.length_cons, List.length_append] at enough
      obtain ⟨fuel, rfl⟩ : ∃ smaller, fuel = smaller + 1 := ⟨fuel - 1, by omega⟩
      simp only [List.append_assoc, List.cons_append, List.nil_append]
      rw [scanValue.eq_def]
      simp only [show ((0x7B : CodePoint).val = 0x22) = False by decide,
        show ((0x7B : CodePoint).val = 0x5B) = False by decide,
        show ((0x7B : CodePoint).val = 0x7B) = True by decide, if_true, if_false,
        skipSpace_blank space]
      rw [skipSpace_cons (by decide)]
      simp only [show ((0x7D : CodePoint).val = 0x7D) = True by decide, if_true,
        keeps [] (by simp), ok_bind]
      rfl
    | @obj field fields before first after tail spaceBefore firstWritten spaceAfter
          restWritten =>
        simp only [List.length_cons, List.length_append] at enough
        obtain ⟨fuel, rfl⟩ : ∃ smaller, fuel = smaller + 1 := ⟨fuel - 1, by omega⟩
        have reads : ∀ other ∈ field :: fields, ReadsTexts hooks other.2 :=
          fun other member => ih other member (isPrintable_of_mem_fields printable member)
        obtain ⟨skipped, fieldStop⟩ := skipSpace_end restWritten.exists_cons spaceAfter rest
        have fieldScan := scanField_of_writes (reads field (by simp)) firstWritten fuel
          (after ++ (tail ++ rest)) (by omega) fieldStop
        have fieldsScan := scanFields_of_writes
          (fun other member => reads other (List.mem_cons_of_mem field member)) restWritten
          fuel rest (by omega)
        obtain ⟨firstTail, firstShape⟩ : ∃ firstTail, first = 0x22 :: firstTail := by
          cases firstWritten with
          | mk chars spaceBefore spaceAfter valueWritten => exact ⟨_, rfl⟩
        simp only [List.append_assoc, List.cons_append]
        rw [scanValue.eq_def]
        simp only [show ((0x7B : CodePoint).val = 0x22) = False by decide,
          show ((0x7B : CodePoint).val = 0x5B) = False by decide,
          show ((0x7B : CodePoint).val = 0x7B) = True by decide, if_true, if_false,
          firstWritten.skipSpace_eq spaceBefore]
        rw [firstShape, List.cons_append] at fieldScan ⊢
        simp only [show ((0x22 : CodePoint).val = 0x7D) = False by decide, if_false,
          fieldScan, ok_bind, skipped, fieldsScan, keeps _ keys]
        rfl

theorem IsStrictJson.loads_eq {value : Json} {text : PyStr} (isText : IsStrictJson value text)
    (keeps : KeepsDistinct hooks) (distinct : DistinctKeys value)
    (printable : value.isPrintable = true) : loads hooks text = .ok value := by
  obtain ⟨before, inner, after, rfl, spaceBefore, spaceAfter, written⟩ := isText
  have scanned := readsTexts keeps distinct printable inner written
    (2 * (before ++ (inner ++ after)).length + 2) after
    (by simp only [List.length_append]; omega)
    (by simpa using numberStop_blank spaceAfter numberStop_nil)
  have notMark : (before ++ (inner ++ after)).head? ≠ some 0xFEFF := by
    cases before with
    | nil =>
      obtain ⟨c, tail, rfl, -, -, -, ascii⟩ := written.exists_cons
      rw [List.nil_append, List.cons_append, List.head?_cons]
      intro same
      rw [Option.some.inj same] at ascii
      exact absurd ascii (by decide)
    | cons c before =>
      rw [List.cons_append, List.head?_cons]
      intro same
      have isSpace := spaceBefore c (by simp)
      rw [Option.some.inj same] at isSpace
      exact absurd isSpace (by decide)
  have ended : skipSpace after = [] := by
    have skipped := skipSpace_blank spaceAfter []
    rwa [List.append_nil] at skipped
  rw [loads]
  simp only [raiseIf, if_neg notMark, ok_bind, written.skipSpace_eq spaceBefore, scanned, ended]
  rfl

end Json

end PyLib
