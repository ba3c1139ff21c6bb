import CyberLion.JsonStrict

/-!
# Quotation state

A three state lexer that follows the quotes and backslashes of a JSON text.
Whatever the reader accepts ends outside of every string.
-/

namespace PyLib

namespace Json

inductive Lex
  | outside
  | inside
  | escaped
  deriving DecidableEq

namespace Lex

def step : Lex → CodePoint → Lex
  | .outside, c => if c.val = 0x22 then .inside else .outside
  | .inside, c =>
    if c.val = 0x22 then .outside else if c.val = 0x5C then .escaped else .inside
  | .escaped, _ => .inside

def run (start : Lex) (text : PyStr) : Lex :=
  text.foldl step start

@[simp]
theorem run_nil (start : Lex) : start.run [] = start :=
  rfl

@[simp]
theorem run_cons (start : Lex) (c : CodePoint) (text : PyStr) :
    start.run (c :: text) = (start.step c).run text :=
  rfl

@[simp]
theorem run_append (start : Lex) (first second : PyStr) :
    start.run (first ++ second) = (start.run first).run second :=
  List.foldl_append

theorem run_outside_of_noQuote {text : PyStr} (noQuote : ∀ c ∈ text, c.val ≠ 0x22) :
    run .outside text = .outside := by
  induction text with
  | nil => rfl
  | cons c text ih =>
    rw [run_cons, step, if_neg (noQuote c (by simp))]
    exact ih fun d member => noQuote d (by simp [member])

end Lex

/-! ### Accepted text ends outside -/

def Closes (text rest : PyStr) : Prop :=
  ∃ consumed, text = consumed ++ rest ∧ Lex.run .outside consumed = .outside

theorem Closes.refl (text : PyStr) : Closes text text :=
  ⟨[], rfl, rfl⟩

theorem Closes.trans {first second third : PyStr} (left : Closes first second)
    (right : Closes second third) : Closes first third := by
  obtain ⟨start, rfl, startClosed⟩ := left
  obtain ⟨next, rfl, nextClosed⟩ := right
  exact ⟨start ++ next, by simp, by rw [Lex.run_append, startClosed, nextClosed]⟩

variable {rest digits : PyStr} {c : CodePoint} {hooks : Hooks}

theorem closes_of_noQuote {consumed : PyStr} (noQuote : ∀ c ∈ consumed, c.val ≠ 0x22) :
    Closes (consumed ++ rest) rest :=
  ⟨consumed, rfl, Lex.run_outside_of_noQuote noQuote⟩

theorem closes_cons (notQuote : c.val ≠ 0x22) :
    Closes (c :: rest) rest :=
  ⟨[c], rfl, Lex.run_outside_of_noQuote (by simpa using notQuote)⟩

theorem closes_skipSpace (text : PyStr) : Closes text (skipSpace text) := by
  have shape := List.takeWhile_append_dropWhile (p := isJsonSpace) (l := text)
  have noQuote : ∀ c ∈ text.takeWhile isJsonSpace, c.val ≠ 0x22 := by
    intro c member isQuote
    have space := List.mem_takeWhile_imp member
    simp [isJsonSpace, isQuote] at space
  conv_lhs => rw [← shape]
  exact closes_of_noQuote noQuote

theorem closes_of_skipSpace {text : PyStr} (closed : Closes (skipSpace text) rest) :
    Closes text rest :=
  (closes_skipSpace text).trans closed

theorem hexValue_eq_some {digit : Nat} (isHex : hexValue c = some digit) :
    c.val ≠ 0x22 ∧ c.val ≠ 0x5C := by
  unfold hexValue at isHex
  split at isHex
  · omega
  split at isHex
  · omega
  split at isHex
  · omega
  · simp at isHex

theorem Lex.run_inside_plain (plain : c.val ≠ 0x22 ∧ c.val ≠ 0x5C) :
    Lex.run .inside (c :: rest) = Lex.run .inside rest := by
  rw [run_cons, step, if_neg plain.1, if_neg plain.2]

theorem Lex.run_inside_escape {slash : CodePoint} (isSlash : slash.val = 0x5C) :
    Lex.run .inside (slash :: c :: rest) = Lex.run .inside rest := by
  simp [step, isSlash]

theorem run_inside_hexUnit {d₁ d₂ d₃ d₄ unit : CodePoint} (isUnit : hexUnit d₁ d₂ d₃ d₄ = some unit) :
    Lex.run .inside (d₁ :: d₂ :: d₃ :: d₄ :: rest) = Lex.run .inside rest := by
  simp only [hexUnit, Option.bind_eq_bind, Option.bind_eq_some_iff] at isUnit
  obtain ⟨_, first, _, second, _, third, _, fourth, -⟩ := isUnit
  rw [Lex.run_inside_plain (hexValue_eq_some first),
    Lex.run_inside_plain (hexValue_eq_some second),
    Lex.run_inside_plain (hexValue_eq_some third),
    Lex.run_inside_plain (hexValue_eq_some fourth)]

theorem exists_consumed_of_scanUnits {text : PyStr} {units : List (Bool × CodePoint)}
    (scanned : scanUnits text = .ok (units, rest)) :
    ∃ consumed, text = consumed ++ rest ∧ Lex.run .inside consumed = .outside := by
  fun_induction scanUnits text generalizing units with
  | case2 c rest isQuote =>
    cases scanned
    exact ⟨[c], rfl, by simp [Lex.step, isQuote]⟩
  | case4 c notQuote isSlash e isUnicode d₁ d₂ d₃ d₄ tail unit unitEq ih =>
    simp only [bind_eq_ok, pure_eq_ok, Prod.mk.injEq] at scanned
    obtain ⟨⟨_, _⟩, tailEq, -, rfl⟩ := scanned
    obtain ⟨consumed, rfl, closed⟩ := ih tailEq
    refine ⟨c :: e :: d₁ :: d₂ :: d₃ :: d₄ :: consumed, rfl, ?_⟩
    rw [Lex.run_inside_escape isSlash, run_inside_hexUnit unitEq, closed]
  | case7 c notQuote isSlash e tail notUnicode unit unitEq ih =>
    simp only [bind_eq_ok, pure_eq_ok, Prod.mk.injEq] at scanned
    obtain ⟨⟨_, _⟩, tailEq, -, rfl⟩ := scanned
    obtain ⟨consumed, rfl, closed⟩ := ih tailEq
    exact ⟨c :: e :: consumed, rfl, by rw [Lex.run_inside_escape isSlash, closed]⟩
  | case10 c tail notQuote notSlash notControl ih =>
    simp only [bind_eq_ok, pure_eq_ok, Prod.mk.injEq] at scanned
    obtain ⟨⟨_, _⟩, tailEq, -, rfl⟩ := scanned
    obtain ⟨consumed, rfl, closed⟩ := ih tailEq
    exact ⟨c :: consumed, rfl, by rw [Lex.run_inside_plain ⟨notQuote, notSlash⟩, closed]⟩
  | _ => simp at scanned

theorem closes_of_scanText {quote : CodePoint} {text result : PyStr} (isQuote : quote.val = 0x22)
    (scanned : scanText text = .ok (result, rest)) :
    Closes (quote :: text) rest := by
  simp only [scanText, bind_eq_ok, pure_eq_ok, Prod.mk.injEq] at scanned
  obtain ⟨⟨units, after⟩, unitsEq, -, rfl⟩ := scanned
  obtain ⟨consumed, rfl, closed⟩ := exists_consumed_of_scanUnits unitsEq
  exact ⟨quote :: consumed, rfl, by rw [Lex.run_cons, Lex.step, if_pos isQuote, closed]⟩

theorem notQuote_of_isAsciiDigit (digit : c.isAsciiDigit = true) :
    c.val ≠ 0x22 := by
  simp only [CodePoint.isAsciiDigit, Bool.and_eq_true, decide_eq_true_eq] at digit
  omega

theorem closes_dropWhile_digits (text : PyStr) :
    Closes text (text.dropWhile CodePoint.isAsciiDigit) := by
  conv_lhs => rw [← List.takeWhile_append_dropWhile (p := CodePoint.isAsciiDigit) (l := text)]
  exact closes_of_noQuote fun c member =>
    notQuote_of_isAsciiDigit (List.mem_takeWhile_imp member)

theorem closes_of_scanInteger {text : PyStr} (scanned : scanInteger text = some (digits, rest)) :
    Closes text rest := by
  unfold scanInteger at scanned
  split at scanned
  · simp at scanned
  · split at scanned
    · rename_i isZero
      simp only [Option.some.injEq, Prod.mk.injEq] at scanned
      obtain ⟨-, rfl⟩ := scanned
      exact closes_cons (by omega)
    split at scanned
    · rename_i digit
      simp only [Option.some.injEq, Prod.mk.injEq] at scanned
      obtain ⟨-, rfl⟩ := scanned
      exact (closes_cons (notQuote_of_isAsciiDigit digit)).trans (closes_dropWhile_digits _)
    · simp at scanned

theorem closes_of_scanFraction {text : PyStr} (scanned : scanFraction text = some (digits, rest)) :
    Closes text rest := by
  unfold scanFraction at scanned
  split at scanned
  · split at scanned
    · rename_i shape
      simp only [Bool.and_eq_true, decide_eq_true_eq] at shape
      simp only [Option.some.injEq, Prod.mk.injEq] at scanned
      obtain ⟨-, rfl⟩ := scanned
      exact ((closes_cons (by omega)).trans
        (closes_cons (notQuote_of_isAsciiDigit shape.2))).trans (closes_dropWhile_digits _)
    · simp at scanned
  · simp at scanned

theorem closes_of_scanExponentDigits {start text : PyStr}
    (scanned : scanExponentDigits start text = some (digits, rest)) : Closes text rest := by
  unfold scanExponentDigits at scanned
  split at scanned
  · split at scanned
    · rename_i digit
      simp only [Option.some.injEq, Prod.mk.injEq] at scanned
      obtain ⟨-, rfl⟩ := scanned
      exact (closes_cons (notQuote_of_isAsciiDigit digit)).trans (closes_dropWhile_digits _)
    · simp at scanned
  · simp at scanned

theorem closes_of_scanExponent {text : PyStr} (scanned : scanExponent text = some (digits, rest)) :
    Closes text rest := by
  unfold scanExponent at scanned
  split at scanned
  · split at scanned
    · rename_i isLetter
      simp only [Bool.or_eq_true, decide_eq_true_eq] at isLetter
      split at scanned
      · split at scanned
        · rename_i isSign
          simp only [Bool.or_eq_true, decide_eq_true_eq] at isSign
          exact ((closes_cons (by omega)).trans (closes_cons (by omega))).trans
            (closes_of_scanExponentDigits scanned)
        · exact (closes_cons (by omega)).trans (closes_of_scanExponentDigits scanned)
      · simp at scanned
    · simp at scanned
  · simp at scanned

theorem closes_getD {text : PyStr} {part : Option (PyStr × PyStr)}
    (closed : ∀ digits rest, part = some (digits, rest) → Closes text rest) :
    Closes text (part.getD ([], text)).2 := by
  cases part with
  | none => exact Closes.refl text
  | some found => exact closed found.1 found.2 rfl

theorem closes_of_scanUnsigned {negative : Bool} {text : PyStr} {value : Json}
    (scanned : scanUnsigned negative text = .ok (value, rest)) : Closes text rest := by
  unfold scanUnsigned at scanned
  split at scanned
  · simp at scanned
  rename_i digits after integer
  have integerCloses := closes_of_scanInteger integer
  dsimp only at scanned
  split at scanned
  · simp only [bind_eq_ok, pure_eq_ok, Prod.mk.injEq] at scanned
    obtain ⟨_, -, -, rfl⟩ := scanned
    exact integerCloses
  · simp only [Except.ok.injEq, Prod.mk.injEq] at scanned
    rw [← scanned.2]
    have fractionCloses : Closes after ((scanFraction after).getD ([], after)).2 :=
      closes_getD fun _ _ => closes_of_scanFraction
    exact integerCloses.trans
      (fractionCloses.trans (closes_getD fun _ _ => closes_of_scanExponent))

theorem closes_of_word {word : PyStr} (noQuote : (word.all fun c => c.val ≠ 0x22) = true) :
    Closes (word ++ rest) rest :=
  closes_of_noQuote (by simpa using noQuote)

theorem AtomStep.closes {text : PyStr} {value : Json} (step : AtomStep hooks text value rest) :
    Closes text rest := by
  cases step with
  | word known =>
    simp only [List.mem_cons, List.not_mem_nil, or_false, Prod.mk.injEq] at known
    rcases known with ⟨rfl, -⟩ | ⟨rfl, -⟩ | ⟨rfl, -⟩ <;> exact closes_of_word (by decide)
  | constant known =>
    simp only [List.mem_cons, List.not_mem_nil, or_false] at known
    rcases known with rfl | rfl | rfl <;> exact closes_of_word (by decide)
  | negative scanned =>
    exact (closes_of_word (by decide)).trans (closes_of_scanUnsigned scanned)
  | positive scanned => exact closes_of_scanUnsigned scanned

structure ScansClose (hooks : Hooks) (fuel : Nat) : Prop where
  value : ∀ text result rest, scanValue hooks fuel text = .ok (result, rest) →
    Closes text rest
  items : ∀ text results rest, scanItems hooks fuel text = .ok (results, rest) →
    Closes text rest
  field : ∀ text result rest, scanField hooks fuel text = .ok (result, rest) →
    Closes text rest
  fields : ∀ text results rest, scanFields hooks fuel text = .ok (results, rest) →
    Closes text rest

theorem scansClose_succ {fuel : Nat} (ih : ScansClose hooks fuel) :
    ScansClose hooks (fuel + 1) := by
  constructor
  · intro text result rest scanned
    cases valueStep scanned with
    | str read => exact closes_of_scanText rfl read
    | emptyArr closed =>
      refine (closes_cons (by decide)).trans (closes_of_skipSpace ?_)
      rw [closed]
      exact closes_cons (by decide)
    | arr first others =>
      exact (closes_cons (by decide)).trans (closes_of_skipSpace ((ih.value _ _ _ first).trans
        (closes_of_skipSpace (ih.items _ _ _ others))))
    | emptyObj closed =>
      refine (closes_cons (by decide)).trans (closes_of_skipSpace ?_)
      rw [closed]
      exact closes_cons (by decide)
    | obj first others =>
      exact (closes_cons (by decide)).trans (closes_of_skipSpace ((ih.field _ _ _ first).trans
        (closes_of_skipSpace (ih.fields _ _ _ others))))
    | atom step => exact step.closes
  · intro text results rest scanned
    rcases scanItems_succ scanned with ⟨rfl, -⟩ | ⟨_, _, _, _, rfl, first, others, -⟩
    · exact closes_cons (by decide)
    · exact (closes_cons (by decide)).trans (closes_of_skipSpace ((ih.value _ _ _ first).trans
        (closes_of_skipSpace (ih.items _ _ _ others))))
  · intro text result rest scanned
    obtain ⟨_, _, _, rfl, _, key, colon, value, -⟩ := scanField_succ scanned
    refine (closes_of_scanText rfl key).trans (closes_of_skipSpace ?_)
    rw [colon]
    exact (closes_cons (by decide)).trans (closes_of_skipSpace (ih.value _ _ _ value))
  · intro text results rest scanned
    rcases scanFields_succ scanned with ⟨rfl, -⟩ | ⟨_, _, _, _, rfl, first, others, -⟩
    · exact closes_cons (by decide)
    · exact (closes_cons (by decide)).trans (closes_of_skipSpace ((ih.field _ _ _ first).trans
        (closes_of_skipSpace (ih.fields _ _ _ others))))

theorem scansClose (hooks : Hooks) (fuel : Nat) : ScansClose hooks fuel := by
  induction fuel with
  | zero =>
    constructor <;> intro text result rest scanned <;>
      simp [scanValue, scanItems, scanField, scanFields] at scanned
  | succ fuel ih => exact scansClose_succ ih

theorem run_outside_of_loads {text : PyStr} {value : Json} (loaded : loads hooks text = .ok value) :
    Lex.run .outside text = .outside := by
  simp only [loads, bind_eq_ok, raiseIf_eq_ok, pure_eq_ok, not_not, ne_eq] at loaded
  obtain ⟨_, -, ⟨result, rest⟩, scanned, _, onlySpace, -⟩ := loaded
  have closed : Closes text [] := by
    refine closes_of_skipSpace (((scansClose hooks _).value _ _ _ scanned).trans ?_)
    rw [← onlySpace]
    exact closes_skipSpace rest
  obtain ⟨consumed, shape, ended⟩ := closed
  rw [shape, List.append_nil]
  exact ended

end Json

end PyLib
