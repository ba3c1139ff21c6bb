import CyberLion.LiveAuthorityAdmission

/-!
# Hash shapes that are checked by `int`

The numerals that `int(text, 16)` reads and the validators of hashes that rest on it: they accept a
numeral with a sign, a mark, underscores, blanks or digits outside ASCII, where the patterns of the
other modules do not.
-/

namespace PyLib

namespace HexInt

/-! ### Numerals -/

/-- Digits, with single underscores between them, and blanks behind them. -/
inductive Digits : PyStr → Prop
  | last {c : CodePoint} {after : PyStr} (digit : isDigit c = true)
      (blank : after.all isBlankChar = true) : Digits (c :: after)
  | cons {c : CodePoint} {rest : PyStr} (digit : isDigit c = true) (later : Digits rest) :
      Digits (c :: rest)
  | apart {c : CodePoint} {rest : PyStr} (digit : isDigit c = true) (later : Digits rest) :
      Digits (c :: 0x5F :: rest)

/-- In the ASCII counterparts of the text, digits and blanks follow the leading blanks, a sign and
a mark. -/
def IsNumeral (text : PyStr) : Prop :=
  Digits (dropMark (dropSign ((text.map toAscii).dropWhile isBlankChar)))

theorem val_of_isDigit {c : CodePoint} (digit : isDigit c = true) :
    (0x30 ≤ c.val ∧ c.val ≤ 0x39) ∨ (0x41 ≤ c.val ∧ c.val ≤ 0x46) ∨
      (0x61 ≤ c.val ∧ c.val ≤ 0x66) := by
  simp only [isDigit, CodePoint.isLowerHex, CodePoint.isAsciiDigit, Bool.or_eq_true,
    Bool.and_eq_true, decide_eq_true_eq] at digit
  omega

theorem val_of_isBlankChar {c : CodePoint} (blank : isBlankChar c = true) : c.val ≤ 0x20 := by
  simp only [isBlankChar, Bool.or_eq_true, Bool.and_eq_true, decide_eq_true_eq, beq_iff_eq] at blank
  omega

theorem readDigits_of_digits {text : PyStr} (digits : Digits text) : readDigits text = true := by
  induction digits with
  | @last c after digit blank =>
    cases after with
    | nil => simp [readDigits, digit]
    | cons next later =>
      have isBlank := val_of_isBlankChar (List.all_eq_true.mp blank next List.mem_cons_self)
      have noMark : next.val ≠ 0x5F := by omega
      have noDigit : isDigit next ≠ true := by
        intro isNext
        have := val_of_isDigit isNext
        omega
      rw [readDigits, digit, Bool.true_and, if_neg noMark, if_neg noDigit, blank]
  | @cons c rest digit later ih =>
    have isNext : ∃ next others, rest = next :: others ∧ isDigit next = true := by
      cases later with
      | last next | cons next _ | apart next _ => exact ⟨_, _, rfl, next⟩
    obtain ⟨next, others, rfl, isNext⟩ := isNext
    have noMark : next.val ≠ 0x5F := by
      have := val_of_isDigit isNext
      omega
    rw [readDigits, digit, Bool.true_and, if_neg noMark, if_pos isNext]
    exact ih
  | apart digit later ih =>
    rw [readDigits, digit, Bool.true_and]
    exact ih

theorem digits_of_readDigits (text : PyStr) (read : readDigits text = true) : Digits text := by
  match text with
  | [] => cases read
  | c :: rest =>
    rw [readDigits.eq_def] at read
    dsimp only at read
    rw [Bool.and_eq_true] at read
    obtain ⟨digit, read⟩ := read
    match rest with
    | [] => exact .last digit rfl
    | next :: later =>
      dsimp only at read
      split at read
      · rename_i isMark
        obtain rfl : next = 0x5F := Fin.ext isMark
        exact .apart digit (digits_of_readDigits later read)
      · split at read
        · exact .cons digit (digits_of_readDigits (next :: later) read)
        · exact .last digit read

theorem isHexInt_iff {text : PyStr} : isHexInt text = true ↔ IsNumeral text :=
  ⟨digits_of_readDigits _, readDigits_of_digits⟩

theorem digits_of_isLowerHex {text : PyStr} (nonempty : text ≠ [])
    (hex : ∀ c ∈ text, c.isLowerHex = true) : Digits text := by
  induction text with
  | nil => exact absurd rfl nonempty
  | cons c rest ih =>
    have digit : isDigit c = true := by rw [isDigit, hex c List.mem_cons_self, Bool.true_or]
    by_cases last : rest = []
    · rw [last]
      exact .last digit rfl
    · exact .cons digit (ih last fun other member => hex other (List.mem_cons_of_mem c member))

theorem isBlankChar_of_isLowerHex {c : CodePoint} (hex : c.isLowerHex = true) :
    isBlankChar c = false ∧ toAscii c = c ∧ ¬ (c.val = 0x2B ∨ c.val = 0x2D) ∧
      ¬ (c.val = 0x78 ∨ c.val = 0x58) := by
  have bounds := val_of_isDigit (c := c) (by rw [isDigit, hex, Bool.true_or])
  refine ⟨?_, ?_, by omega, by omega⟩
  · rw [Bool.eq_false_iff]
    intro blank
    have := val_of_isBlankChar blank
    omega
  · rw [toAscii, if_pos (by omega)]

theorem isNumeral_of_isLowerHex {text : PyStr} (nonempty : text ≠ [])
    (hex : ∀ c ∈ text, c.isLowerHex = true) : IsNumeral text := by
  have ascii : text.map toAscii = text := by
    calc text.map toAscii = text.map id :=
          List.map_congr_left fun c member => (isBlankChar_of_isLowerHex (hex c member)).2.1
      _ = text := List.map_id text
  suffices plain : dropMark (dropSign (text.dropWhile isBlankChar)) = text by
    rw [IsNumeral, ascii, plain]
    exact digits_of_isLowerHex nonempty hex
  match text with
  | [] => rfl
  | c :: rest =>
    obtain ⟨noBlank, -, noSign, -⟩ := isBlankChar_of_isLowerHex (hex c List.mem_cons_self)
    have signless : dropSign (c :: rest) = c :: rest := by simp [dropSign, noSign]
    rw [List.dropWhile_cons_of_neg (by simp [noBlank]), signless]
    match rest with
    | [] => rfl
    | second :: later =>
      obtain ⟨-, -, -, noMark⟩ := isBlankChar_of_isLowerHex (hex second (by simp))
      simp [dropMark, noMark]

end HexInt

end PyLib

namespace CyberLion

open PyLib

/-! ### The validators -/

/-- `_sha256` of `persistent_authority_state.py`. -/
def persistentSha256 (name value : PyStr) : Except PyError Unit :=
  digestText persistentError name value

/-- `_sha40` of `persistent_authority_state.py`. -/
def persistentSha40 (name value : PyStr) : Except PyError Unit :=
  raiseIf (¬ (value.length == 40 && isHexInt value && !value.any CodePoint.isAsciiUpper) = true)
    (persistentError (name ++ py " is invalid"))

/-- `_sha256` of `live_authority_admission.py`. -/
def liveSha256 (name value : PyStr) : Except PyError Unit :=
  digestText liveError name value

/-- A numeral without capitals that is more than lower-case digits: with blanks, a sign, a mark,
underscores or digits outside ASCII. -/
structure IsDecorated (count : Nat) (text : PyStr) : Prop where
  length : text.length = count
  numeral : HexInt.IsNumeral text
  noCapital : ∀ c ∈ text, c.isAsciiUpper = false
  decoration : ∃ c ∈ text, c.isLowerHex = false

theorem isAsciiUpper_of_isLowerHex {c : CodePoint} (hex : c.isLowerHex = true) :
    c.isAsciiUpper = false := by
  have bounds := HexInt.val_of_isDigit (c := c) (by rw [HexInt.isDigit, hex, Bool.true_or])
  simp only [CodePoint.isLowerHex, CodePoint.isAsciiDigit, CodePoint.isAsciiUpper, Bool.or_eq_true,
    Bool.and_eq_true, decide_eq_true_eq, Bool.and_eq_false_iff, decide_eq_false_iff_not] at hex ⊢
  omega

/-- The shape that is checked by `int` is the pattern for exactly the texts that are no decorated
numerals. -/
theorem agrees_iff_not_isDecorated {count : Nat} (positive : 0 < count) (error : PyError)
    (text : PyStr) :
    (raiseIf (¬ (text.length == count && isHexInt text &&
        !text.any CodePoint.isAsciiUpper) = true) error = .ok () ↔
      isLowerHexOf count text = true) ↔ ¬ IsDecorated count text := by
  rw [raiseIf_eq_ok, not_not, isLowerHexOf]
  simp only [Bool.and_eq_true, beq_iff_eq, HexInt.isHexInt_iff, Bool.not_eq_true',
    List.any_eq_false, Bool.not_eq_true, List.all_eq_true, and_assoc]
  constructor
  · rintro agree ⟨length, numeral, noCapital, c, member, noHex⟩
    have hex := (agree.mp ⟨length, numeral, noCapital⟩).2 c member
    rw [hex] at noHex
    cases noHex
  · intro plain
    constructor
    · rintro ⟨length, numeral, noCapital⟩
      refine ⟨length, fun c member => ?_⟩
      by_contra noHex
      exact plain ⟨length, numeral, noCapital, c, member, Bool.eq_false_iff.mpr noHex⟩
    · rintro ⟨length, hex⟩
      have nonempty : text ≠ [] := List.ne_nil_of_length_pos (length.symm ▸ positive)
      exact ⟨length, HexInt.isNumeral_of_isLowerHex nonempty hex, fun c member =>
        isAsciiUpper_of_isLowerHex (hex c member)⟩

/-- The three validators accept what the patterns match, for exactly the texts that are no
decorated numerals. -/
theorem hashValidators_agree_iff (name text : PyStr) :
    ((persistentSha256 name text = .ok () ↔ isLowerHexOf 64 text = true) ↔
      ¬ IsDecorated 64 text) ∧
    ((persistentSha40 name text = .ok () ↔ isLowerHexOf 40 text = true) ↔
      ¬ IsDecorated 40 text) ∧
    ((liveSha256 name text = .ok () ↔ isLowerHexOf 64 text = true) ↔ ¬ IsDecorated 64 text) :=
  ⟨agrees_iff_not_isDecorated (by decide) _ text, agrees_iff_not_isDecorated (by decide) _ text,
    agrees_iff_not_isDecorated (by decide) _ text⟩

/-- A sign before 63 digits is accepted. -/
theorem hashValidators_disagree : ¬ ∀ name text : PyStr,
    (persistentSha256 name text = .ok () ↔ isLowerHexOf 64 text = true) ∧
      (persistentSha40 name text = .ok () ↔ isLowerHexOf 40 text = true) ∧
      (liveSha256 name text = .ok () ↔ isLowerHexOf 64 text = true) := by
  intro agree
  have accepted : persistentSha256 [] (0x2B :: List.replicate 63 0x61) = .ok () := by
    decide +kernel
  exact absurd ((agree [] (0x2B :: List.replicate 63 0x61)).1.mp accepted) (by decide +kernel)

end CyberLion
