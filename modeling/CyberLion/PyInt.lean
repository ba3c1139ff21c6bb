import CyberLion.PyError

/-!
# Integers in texts

Which texts `int(text, 16)` accepts, and what `int(text)` returns.  The interpreter first replaces every
white space and every decimal digit outside ASCII by its ASCII counterpart,
then reads blanks, a sign, an optional `0x`, and digits that single
underscores may separate.
-/

namespace PyLib

namespace HexInt

/-- The code points of the digit zero in the scripts that have decimal
digits. -/
def decimalZeros : List Nat :=
  [0x30, 0x660, 0x6F0, 0x7C0, 0x966, 0x9E6, 0xA66, 0xAE6, 0xB66, 0xBE6, 0xC66, 0xCE6, 0xD66,
    0xDE6, 0xE50, 0xED0, 0xF20, 0x1040, 0x1090, 0x17E0, 0x1810, 0x1946, 0x19D0, 0x1A80, 0x1A90,
    0x1B50, 0x1BB0, 0x1C40, 0x1C50, 0xA620, 0xA8D0, 0xA900, 0xA9D0, 0xA9F0, 0xAA50, 0xABF0,
    0xFF10, 0x104A0, 0x10D30, 0x11066, 0x110F0, 0x11136, 0x111D0, 0x112F0, 0x11450, 0x114D0,
    0x11650, 0x116C0, 0x11730, 0x118E0, 0x11950, 0x11C50, 0x11D50, 0x11DA0, 0x16A60, 0x16AC0,
    0x16B50, 0x1D7CE, 0x1D7D8, 0x1D7E2, 0x1D7EC, 0x1D7F6, 0x1E140, 0x1E2F0, 0x1E950, 0x1FBF0]

/-- The ASCII counterpart of a character, `?` where there is none. -/
def toAscii (c : CodePoint) : CodePoint :=
  if c.val < 0x7F then c
  else if c.isSpace then 0x20
  else
    match decimalZeros.find? fun start => start ≤ c.val && c.val < start + 10 with
    | some start => Fin.ofNat _ (0x30 + (c.val - start))
    | none => 0x3F

def isBlankChar (c : CodePoint) : Bool :=
  (0x09 ≤ c.val && c.val ≤ 0x0D) || c.val == 0x20

def isDigit (c : CodePoint) : Bool :=
  c.isLowerHex || (0x41 ≤ c.val && c.val ≤ 0x46)

/-- Digits, with single underscores between them, and blanks to the end. -/
def readDigits : PyStr → Bool
  | [] => false
  | c :: rest =>
    isDigit c &&
      match rest with
      | [] => true
      | next :: later =>
        if next.val = 0x5F then readDigits later
        else if isDigit next then readDigits (next :: later)
        else (next :: later).all isBlankChar

def dropSign : PyStr → PyStr
  | [] => []
  | c :: rest => if c.val = 0x2B || c.val = 0x2D then rest else c :: rest

/-- `0x`, with an underscore after it or not. -/
def dropMark (text : PyStr) : PyStr :=
  match text with
  | zero :: mark :: rest =>
    if zero.val = 0x30 && (mark.val = 0x78 || mark.val = 0x58) then
      match rest with
      | next :: later => if next.val = 0x5F then later else rest
      | [] => []
    else text
  | _ => text

end HexInt

/-- `int(text, 16)` returns. -/
def isHexInt (text : PyStr) : Bool :=
  HexInt.readDigits
    (HexInt.dropMark (HexInt.dropSign ((text.map HexInt.toAscii).dropWhile HexInt.isBlankChar)))

/-! ### Plain numerals -/

theorem digitPoint_digitValue {c : CodePoint} (digit : c.isAsciiDigit = true) :
    digitValue c < 10 ∧ digitPoint (digitValue c) = c := by
  simp only [CodePoint.isAsciiDigit, Bool.and_eq_true, decide_eq_true_eq] at digit
  have small : digitValue c < 10 := by
    rw [digitValue]
    omega
  refine ⟨small, Fin.ext ?_⟩
  rw [digitPoint_val small, digitValue]
  omega

theorem natOfText_eq_ofDigits {text : PyStr} (digits : ∀ c ∈ text, c.isAsciiDigit = true) :
    natOfText text = Nat.ofDigits 10 (text.map digitValue).reverse := by
  have shape : ((text.map digitValue).reverse.reverse.map digitPoint) = text := by
    rw [List.reverse_reverse, List.map_map]
    calc text.map (digitPoint ∘ digitValue) = text.map id :=
          List.map_congr_left fun c member => (digitPoint_digitValue (digits c member)).2
      _ = text := List.map_id text
  have folded := foldl_digitPoint_reverse (text.map digitValue).reverse (by
    intro digit member
    obtain ⟨c, inText, rfl⟩ := List.mem_map.mp (List.mem_reverse.mp member)
    exact (digitPoint_digitValue (digits c inText)).1)
  rwa [shape] at folded

theorem natText_natOfText {first : CodePoint} {rest : PyStr}
    (digits : ∀ c ∈ first :: rest, c.isAsciiDigit = true)
    (leading : first.val = 0x30 → rest = []) :
    natText (natOfText (first :: rest)) = first :: rest := by
  by_cases zero : first.val = 0x30
  · have isZero : first = 0x30 := Fin.ext zero
    rw [leading zero, isZero]
    rfl
  · have canonical : Nat.digits 10 (natOfText (first :: rest)) =
        ((first :: rest).map digitValue).reverse := by
      rw [natOfText_eq_ofDigits digits]
      refine Nat.digits_ofDigits 10 (by decide) _ ?_ ?_
      · intro digit member
        obtain ⟨c, inText, rfl⟩ := List.mem_map.mp (List.mem_reverse.mp member)
        exact (digitPoint_digitValue (digits c inText)).1
      · intro nonempty
        have isDigit := digits first (by simp)
        simp only [CodePoint.isAsciiDigit, Bool.and_eq_true, decide_eq_true_eq] at isDigit
        simp only [List.map_cons, List.reverse_cons, List.getLast_append_singleton, digitValue]
        omega
    have nonzero : natOfText (first :: rest) ≠ 0 := by
      intro isZero
      simp [isZero] at canonical
    rw [natText, if_neg nonzero, canonical, List.reverse_reverse, List.map_map]
    calc (first :: rest).map (digitPoint ∘ digitValue) = (first :: rest).map id :=
          List.map_congr_left fun c member => (digitPoint_digitValue (digits c member)).2
      _ = first :: rest := List.map_id _

end PyLib
