import Mathlib.Data.List.Basic
import CyberLion.PyText

/-!
# Texts joined by a separator

When a text that was put together from parts tells the parts: a part without the separator
ends at the first separator after it, and begins behind the last one before it.
-/

namespace PyLib

section Separators

variable {α : Type} {separator : α} {first second after later : List α}

theorem append_separator_inj (isFirst : separator ∉ first) (isSecond : separator ∉ second)
    (same : first ++ separator :: after = second ++ separator :: later) :
    first = second ∧ after = later := by
  induction first generalizing second with
  | nil =>
    cases second with
    | nil => exact ⟨rfl, (List.cons.inj same).2⟩
    | cons c second =>
      have isHead := (List.cons.inj same).1
      exact absurd (by simp [isHead]) isSecond
  | cons c first ih =>
    cases second with
    | nil =>
      have isHead := (List.cons.inj same).1
      exact absurd (by simp [← isHead]) isFirst
    | cons d second =>
      rw [List.mem_cons, not_or] at isFirst isSecond
      obtain ⟨rfl, rest⟩ := List.cons.inj same
      obtain ⟨rfl, rfl⟩ := ih isFirst.2 isSecond.2 rest
      exact ⟨rfl, rfl⟩

theorem separator_append_inj (isFirst : separator ∉ first) (isSecond : separator ∉ second)
    (same : after ++ separator :: first = later ++ separator :: second) :
    after = later ∧ first = second := by
  have reversed := congrArg List.reverse same
  simp only [List.reverse_append, List.reverse_cons, List.append_assoc, List.singleton_append]
    at reversed
  obtain ⟨front, back⟩ := append_separator_inj (by simpa using isFirst) (by simpa using isSecond)
    reversed
  exact ⟨List.reverse_inj.mp back, List.reverse_inj.mp front⟩

end Separators

/-! ### Joined parts -/

variable {separator : CodePoint}

theorem pyJoin_cons (part : PyStr) {parts : List PyStr} (nonempty : parts ≠ []) :
    pyJoin [separator] (part :: parts) = part ++ separator :: pyJoin [separator] parts := by
  cases parts with
  | nil => exact absurd rfl nonempty
  | cons next parts => simp [pyJoin]

/-- As many parts without the separator, and a last part that is any text. -/
theorem pyJoin_inj_of_length (separator : CodePoint) {first second : List PyStr}
    {last final : PyStr} (length : first.length = second.length)
    (isFirst : ∀ part ∈ first, separator ∉ part) (isSecond : ∀ part ∈ second, separator ∉ part)
    (same : pyJoin [separator] (first ++ [last]) = pyJoin [separator] (second ++ [final])) :
    first = second ∧ last = final := by
  induction first generalizing second with
  | nil =>
    rw [List.eq_nil_of_length_eq_zero length.symm] at same ⊢
    exact ⟨rfl, same⟩
  | cons part first ih =>
    cases second with
    | nil => simp at length
    | cons other second =>
      rw [List.forall_mem_cons] at isFirst isSecond
      rw [List.cons_append, List.cons_append, pyJoin_cons part (by simp),
        pyJoin_cons other (by simp)] at same
      obtain ⟨rfl, rest⟩ := append_separator_inj isFirst.1 isSecond.1 same
      obtain ⟨rfl, rfl⟩ := ih (Nat.succ.inj length) isFirst.2 isSecond.2 rest
      exact ⟨rfl, rfl⟩

/-- Any number of parts without the separator, at least one. -/
theorem pyJoin_inj (separator : CodePoint) {first second : List PyStr} (nonempty : first ≠ [])
    (other : second ≠ []) (isFirst : ∀ part ∈ first, separator ∉ part)
    (isSecond : ∀ part ∈ second, separator ∉ part)
    (same : pyJoin [separator] first = pyJoin [separator] second) : first = second := by
  have joined : ∀ parts : List PyStr, pyJoin [separator] parts = [separator].intercalate parts := by
    intro parts
    induction parts with
    | nil => rfl
    | cons part parts ih =>
      cases parts with
      | nil => simp [pyJoin, List.intercalate]
      | cons next parts => rw [pyJoin_cons part (by simp), ih]; simp [List.intercalate]
  rw [joined, joined] at same
  have parts := congrArg (List.splitOn separator) same
  rwa [List.splitOn_intercalate separator isFirst nonempty,
    List.splitOn_intercalate separator isSecond other] at parts

/-! ### Numbers as parts -/

theorem intText_injective : Function.Injective intText := by
  have digit : ∀ (n : Nat) (rest : PyStr), natText n ≠ 0x2D :: rest := by
    intro n rest shape
    have isDigit := natText_isAsciiDigit n 0x2D (by rw [shape]; exact List.mem_cons_self)
    exact absurd isDigit (by decide)
  intro first second same
  cases first with
  | ofNat n =>
    cases second with
    | ofNat m =>
      have values := congrArg natOfText same
      simp only [intText, natOfText_natText] at values
      rw [values]
    | negSucc m => exact absurd same (digit n _)
  | negSucc n =>
    cases second with
    | ofNat m => exact absurd same.symm (digit m _)
    | negSucc m =>
      have values := congrArg natOfText (List.append_cancel_left same)
      simp only [natOfText_natText, Nat.add_right_cancel_iff] at values
      rw [values]

theorem notMem_intText (notDigit : separator.isAsciiDigit = false) (notMinus : separator ≠ 0x2D)
    (value : Int) : separator ∉ intText value := by
  have notNat : ∀ n, separator ∉ natText n := by
    intro n member
    rw [natText_isAsciiDigit n separator member] at notDigit
    exact absurd notDigit (by decide)
  cases value with
  | ofNat n => exact notNat n
  | negSucc n =>
    intro member
    rcases List.mem_append.mp member with isMinus | inDigits
    · exact notMinus (List.mem_singleton.mp isMinus)
    · exact notNat _ inDigits

end PyLib
