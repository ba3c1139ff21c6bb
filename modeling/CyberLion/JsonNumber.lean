import CyberLion.JsonText

/-!
# Reading back a JSON number

The scanner reads a rendered integer as that integer, whenever the text behind
it cannot continue a number.
-/

namespace PyLib

namespace Json

def NumberStop (rest : PyStr) : Prop :=
  ∀ c ∈ rest.head?, c.isAsciiDigit = false ∧ c.val ≠ 0x2E ∧ c.val ≠ 0x65 ∧
    c.val ≠ 0x45

theorem numberStop_nil : NumberStop [] := by
  simp [NumberStop]

variable {rest : PyStr}

theorem takeWhile_digits {digits : PyStr} (allDigits : ∀ c ∈ digits, c.isAsciiDigit = true)
    (stop : ∀ c ∈ rest.head?, c.isAsciiDigit = false) :
    (digits ++ rest).takeWhile CodePoint.isAsciiDigit = digits ∧
      (digits ++ rest).dropWhile CodePoint.isAsciiDigit = rest := by
  induction digits with
  | nil =>
    cases rest with
    | nil => simp
    | cons c rest => simp [stop c (by simp)]
  | cons digit digits ih =>
    have tail := ih fun c member => allDigits c (List.mem_cons_of_mem digit member)
    simp [allDigits digit (by simp), tail.1, tail.2]

theorem scanInteger_natText (n : Nat) (stop : NumberStop rest) :
    scanInteger (natText n ++ rest) = some (natText n, rest) := by
  cases shape : natText n with
  | nil => exact absurd shape (natText_ne_nil n)
  | cons c digits =>
    have allDigits := natText_isAsciiDigit n
    rw [shape] at allDigits
    rw [List.cons_append, scanInteger]
    by_cases zero : c.val = 0x30
    · rw [if_pos zero, natText_head_zero shape zero, List.nil_append]
    · have tail := takeWhile_digits
        (fun d member => allDigits d (List.mem_cons_of_mem c member))
        fun d head => (stop d head).1
      rw [if_neg zero, if_pos (allDigits c (by simp)), tail.1, tail.2]

theorem scanFraction_stop (stop : NumberStop rest) :
    scanFraction rest = none := by
  match rest with
  | [] => rfl
  | [_] => rfl
  | c :: d :: rest =>
    have notPoint := (stop c (by simp)).2.1
    simp [scanFraction, notPoint]

theorem scanExponent_stop (stop : NumberStop rest) :
    scanExponent rest = none := by
  match rest with
  | [] => rfl
  | c :: rest =>
    obtain ⟨-, -, notSmall, notLarge⟩ := stop c (by simp)
    simp [scanExponent, notSmall, notLarge]

theorem scanUnsigned_natText (negative : Bool) {n : Nat} (stop : NumberStop rest)
    (printable : (natText n).length ≤ maxStrDigits) :
    scanUnsigned negative (natText n ++ rest) =
      .ok (.int (if negative then -(n : Int) else n), rest) := by
  simp only [scanUnsigned, scanInteger_natText n stop, scanFraction_stop stop,
    Option.getD_none, scanExponent_stop stop, List.isEmpty_nil, Bool.and_self,
    if_true, intOfDigits, if_pos printable, natOfText_natText]
  rfl

theorem stripWord_eq_none {first c : CodePoint} (word rest : PyStr)
    (differ : first.val ≠ c.val) : stripWord (first :: word) (c :: rest) = none := by
  have differBool : (first == c) = false := by
    simpa using fun same => differ (congrArg Fin.val same)
  simp [stripWord, List.isPrefixOf, differBool]

theorem scanAtom_digit (hooks : Hooks) {c : CodePoint} (digit : c.isAsciiDigit = true) :
    scanAtom hooks (c :: rest) = scanUnsigned false (c :: rest) := by
  simp only [CodePoint.isAsciiDigit, Bool.and_eq_true, decide_eq_true_eq] at digit
  have differ : ∀ first : CodePoint, (first.val < 0x30 ∨ 0x39 < first.val) →
      first.val ≠ c.val := by
    intro first outside
    omega
  rw [scanAtom]
  rw [show py "null" = 0x6E :: py "ull" by decide,
    stripWord_eq_none _ _ (differ _ (by decide)),
    show py "true" = 0x74 :: py "rue" by decide,
    stripWord_eq_none _ _ (differ _ (by decide)),
    show py "false" = 0x66 :: py "alse" by decide,
    stripWord_eq_none _ _ (differ _ (by decide)),
    show py "NaN" = 0x4E :: py "aN" by decide,
    stripWord_eq_none _ _ (differ _ (by decide)),
    show py "Infinity" = 0x49 :: py "nfinity" by decide,
    stripWord_eq_none _ _ (differ _ (by decide)),
    show py "-Infinity" = 0x2D :: py "Infinity" by decide,
    stripWord_eq_none _ _ (differ _ (by decide)),
    show py "-" = 0x2D :: [] by decide,
    stripWord_eq_none _ _ (differ _ (by decide))]

theorem scanAtom_minus (hooks : Hooks) {c : CodePoint} (digit : c.isAsciiDigit = true) :
    scanAtom hooks (0x2D :: c :: rest) = scanUnsigned true (c :: rest) := by
  simp only [CodePoint.isAsciiDigit, Bool.and_eq_true, decide_eq_true_eq] at digit
  have notLetter : ((0x49 : CodePoint) == c) = false := by
    simp only [beq_eq_false_iff_ne, ne_eq]
    rintro rfl
    exact absurd digit.2 (by decide)
  have notInfinity : stripWord (py "-Infinity") (0x2D :: c :: rest) = none := by
    rw [show py "-Infinity" = 0x2D :: 0x49 :: py "nfinity" by decide]
    simp [stripWord, List.isPrefixOf, notLetter]
  rw [scanAtom]
  rw [show py "null" = 0x6E :: py "ull" by decide,
    stripWord_eq_none _ _ (by decide),
    show py "true" = 0x74 :: py "rue" by decide,
    stripWord_eq_none _ _ (by decide),
    show py "false" = 0x66 :: py "alse" by decide,
    stripWord_eq_none _ _ (by decide),
    show py "NaN" = 0x4E :: py "aN" by decide,
    stripWord_eq_none _ _ (by decide),
    show py "Infinity" = 0x49 :: py "nfinity" by decide,
    stripWord_eq_none _ _ (by decide), notInfinity]
  rfl

theorem scanAtom_intText (hooks : Hooks) {value : Int} (stop : NumberStop rest)
    (printable : isPrintableInt value = true) :
    scanAtom hooks (intText value ++ rest) = .ok (.int value, rest) := by
  have digitsOf : ∀ n : Nat, ∃ c digits, natText n = c :: digits ∧
      c.isAsciiDigit = true := by
    intro n
    cases shape : natText n with
    | nil => exact absurd shape (natText_ne_nil n)
    | cons c digits =>
      exact ⟨c, digits, rfl, natText_isAsciiDigit n c (by simp [shape])⟩
  cases value with
  | ofNat n =>
    obtain ⟨c, digits, shape, digit⟩ := digitsOf n
    have scanned := scanUnsigned_natText false (n := n) stop
      (by simpa [isPrintableInt] using printable)
    rw [shape, List.cons_append] at scanned
    rw [intText, shape, List.cons_append, scanAtom_digit hooks digit, scanned]
    rfl
  | negSucc n =>
    obtain ⟨c, digits, shape, digit⟩ := digitsOf (n + 1)
    have scanned := scanUnsigned_natText true (n := n + 1) stop
      (by simpa [isPrintableInt] using printable)
    rw [shape, List.cons_append] at scanned
    rw [intText, shape, show py "-" = [0x2D] by decide]
    simp only [List.cons_append, List.nil_append]
    rw [scanAtom_minus hooks digit, scanned]
    rfl

end Json

end PyLib
