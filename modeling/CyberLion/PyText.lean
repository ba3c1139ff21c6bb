import Mathlib.Data.List.Lex
import Mathlib.Data.List.Nodup
import Mathlib.Data.List.Sort
import Mathlib.Data.List.TakeWhile
import Mathlib.Data.Nat.Digits.Lemmas

/-!
# Python text

A Python `str` is a sequence of Unicode code points in which lone surrogates
are legal.  This file fixes that representation and the string operations of
the standard library that the verified programs use: stripping, line
splitting, partitioning, decimal rendering and the encodable (surrogate free)
texts.  A byte string that was produced by `.encode("utf-8")` is represented
by the text it encodes, because UTF-8 is injective on encodable texts.
-/

namespace PyLib

abbrev CodePoint := Fin 0x110000

/-- A Python `str`. -/
abbrev PyStr := List CodePoint

-- named here, so that the definitions on text share these proofs and none carries its own
instance neZero_codePoints : NeZero (0x110000 : Nat) :=
  ⟨by decide⟩

instance lawfulBEq_codePoint : LawfulBEq CodePoint :=
  inferInstance

instance lawfulBEq_pyStr : LawfulBEq PyStr :=
  inferInstance

def codePoint (c : Char) : CodePoint :=
  ⟨c.toNat, by
    rcases c.valid with low | high
    · exact Nat.lt_trans low (by decide)
    · exact high.2⟩

def bytePoint (byte : UInt8) : CodePoint :=
  ⟨byte.toNat, Nat.lt_trans byte.toNat_lt (by decide)⟩

/-- The characters of a literal.  Those of an ASCII literal are its bytes, which the kernel
finds faster than `toList`. -/
def py (literal : String) : PyStr :=
  let bytes := literal.toByteArray.data.toList
  if bytes.all (· < 128) then bytes.map bytePoint else literal.toList.map codePoint

theorem map_bytePoint {c : Char} (ascii : ∀ byte ∈ String.utf8EncodeChar c, byte < 128) :
    (String.utf8EncodeChar c).map bytePoint = [codePoint c] := by
  have small : c.val.toNat ≤ 127 := by
    by_contra large
    have first : ∃ byte ∈ String.utf8EncodeChar c, 0xc0 ≤ byte.toNat := by
      rw [String.utf8EncodeChar, if_neg large]
      split
      · exact ⟨_, List.mem_cons_self .., by simp; omega⟩
      · split <;> exact ⟨_, List.mem_cons_self .., by simp; omega⟩
    obtain ⟨byte, member, high⟩ := first
    have low : byte.toNat < 128 := UInt8.lt_iff_toNat_lt.mp (ascii byte member)
    omega
  have single : String.utf8EncodeChar c = [UInt8.ofNat c.val.toNat] := if_pos small
  rw [single, List.map_singleton]
  exact congrArg (fun code => [code]) (Fin.ext (Nat.mod_eq_of_lt (by omega)))

theorem py_eq (literal : String) : py literal = literal.toList.map codePoint := by
  have bytes : literal.toByteArray.data.toList =
      literal.toList.flatMap String.utf8EncodeChar := by
    rw [← String.utf8Encode_toList, List.utf8Encode, List.data_toByteArray]
  rw [py]
  simp only [bytes]
  split
  · rename_i ascii
    rw [List.all_eq_true] at ascii
    rw [List.map_flatMap, List.map_eq_flatMap]
    refine List.flatMap_congr fun c member => map_bytePoint fun byte inByte => ?_
    simpa using ascii byte (List.mem_flatMap_of_mem member inByte)
  · rfl

theorem codePoint_injective : Function.Injective codePoint := by
  intro first second same
  have values : first.toNat = second.toNat := congrArg (fun c : CodePoint => c.val) same
  exact Char.toNat_inj.mp values

theorem py_injective : Function.Injective py :=
  fun first second same => by
    rw [py_eq, py_eq] at same
    exact String.toList_injective ((List.map_injective_iff.mpr codePoint_injective) same)

theorem nodup_py {literals : List String} (distinct : literals.Nodup) : (literals.map py).Nodup :=
  distinct.map py_injective

/-- The text `count` copies of one code point long. -/
def pyRepeat (c : CodePoint) (count : Nat) : PyStr :=
  List.replicate count c

namespace CodePoint

def isHighSurrogate (c : CodePoint) : Bool :=
  0xD800 ≤ c.val && c.val ≤ 0xDBFF

def isLowSurrogate (c : CodePoint) : Bool :=
  0xDC00 ≤ c.val && c.val ≤ 0xDFFF

def isSurrogate (c : CodePoint) : Bool :=
  c.isHighSurrogate || c.isLowSurrogate

/-- `str.isspace` for one character; also the class `\s` of a text pattern. -/
def isSpace (c : CodePoint) : Bool :=
  (0x09 ≤ c.val && c.val ≤ 0x0D) || (0x1C ≤ c.val && c.val ≤ 0x20) ||
    c.val == 0x85 || c.val == 0xA0 || c.val == 0x1680 ||
    (0x2000 ≤ c.val && c.val ≤ 0x200A) || c.val == 0x2028 ||
    c.val == 0x2029 || c.val == 0x202F || c.val == 0x205F || c.val == 0x3000

/-- The characters at which `str.splitlines` ends a line. -/
def isLineBreak (c : CodePoint) : Bool :=
  (0x0A ≤ c.val && c.val ≤ 0x0D) || (0x1C ≤ c.val && c.val ≤ 0x1E) ||
    c.val == 0x85 || c.val == 0x2028 || c.val == 0x2029

def isAsciiDigit (c : CodePoint) : Bool :=
  0x30 ≤ c.val && c.val ≤ 0x39

def isAsciiUpper (c : CodePoint) : Bool :=
  0x41 ≤ c.val && c.val ≤ 0x5A

def isAsciiLower (c : CodePoint) : Bool :=
  0x61 ≤ c.val && c.val ≤ 0x7A

def isAsciiLetter (c : CodePoint) : Bool :=
  c.isAsciiUpper || c.isAsciiLower

/-- The class `[0-9a-f]`. -/
def isLowerHex (c : CodePoint) : Bool :=
  c.isAsciiDigit || (0x61 ≤ c.val && c.val ≤ 0x66)

end CodePoint

/-! ### Blank text and stripping -/

/-- `str.lstrip()`. -/
def lstrip (text : PyStr) : PyStr :=
  text.dropWhile CodePoint.isSpace

/-- `str.rstrip()`. -/
def rstrip (text : PyStr) : PyStr :=
  (lstrip text.reverse).reverse

/-- `str.strip()`. -/
def strip (text : PyStr) : PyStr :=
  rstrip (lstrip text)

/-- `not value.strip()`. -/
def isBlank (text : PyStr) : Bool :=
  text.all CodePoint.isSpace

/-- `"\x00" in value`. -/
def hasNul (text : PyStr) : Bool :=
  text.any fun c => c.val == 0

theorem strip_eq_self {text : PyStr}
    (headSolid : ∀ c ∈ text.head?, c.isSpace = false)
    (lastSolid : ∀ c ∈ text.getLast?, c.isSpace = false) :
    strip text = text := by
  have leftKept : lstrip text = text := by
    cases text with
    | nil => rfl
    | cons first rest =>
      have := headSolid first (by simp)
      simp [lstrip, this]
  have rightKept : lstrip text.reverse = text.reverse := by
    cases reversed : text.reverse with
    | nil => rfl
    | cons last rest =>
      have lastEq : text.getLast? = some last := by
        rw [← List.head?_reverse, reversed, List.head?_cons]
      have := lastSolid last (by simp [lastEq])
      simp [lstrip, this]
  rw [strip, leftKept, rstrip, rightKept, List.reverse_reverse]

theorem exists_rstrip_append (text : PyStr) :
    ∃ blank : PyStr, text = rstrip text ++ blank ∧
      ∀ c ∈ blank, c.isSpace = true := by
  refine ⟨(text.reverse.takeWhile CodePoint.isSpace).reverse, ?_, ?_⟩
  · rw [rstrip, lstrip, ← List.reverse_append, List.takeWhile_append_dropWhile,
      List.reverse_reverse]
  · intro c member
    exact List.mem_takeWhile_imp (List.mem_reverse.mp member)

/-! ### Lines -/

/-- `str.splitlines()`: the text before each line boundary, and a last line
when the text does not end with a boundary.  The flag records that the
previous character was a carriage return, so that `\r\n` is one boundary. -/
def splitLinesAux : Bool → PyStr → PyStr → List PyStr
  | _, [], [] => []
  | _, [], lineReverse => [lineReverse.reverse]
  | afterReturn, c :: rest, lineReverse =>
    if afterReturn && c.val == 0x0A then
      splitLinesAux false rest lineReverse
    else if c.isLineBreak then
      lineReverse.reverse :: splitLinesAux (c.val == 0x0D) rest []
    else
      splitLinesAux false rest (c :: lineReverse)

def splitLines (text : PyStr) : List PyStr :=
  splitLinesAux false text []

theorem splitLinesAux_append_of_noBreak (line rest lineReverse : PyStr)
    (noBreak : ∀ c ∈ line, c.isLineBreak = false) :
    splitLinesAux false (line ++ rest) lineReverse =
      splitLinesAux false rest (line.reverse ++ lineReverse) := by
  induction line generalizing lineReverse with
  | nil => rfl
  | cons c line ih =>
    have cSolid := noBreak c (by simp)
    rw [List.cons_append, splitLinesAux]
    simp only [Bool.false_and, Bool.false_eq_true, if_false, cSolid]
    rw [ih _ fun d member => noBreak d (List.mem_cons_of_mem c member)]
    simp

theorem splitLinesAux_break (c : CodePoint) (rest lineReverse : PyStr)
    (lineBreak : c.isLineBreak = true) (notReturn : c.val ≠ 0x0D) :
    splitLinesAux false (c :: rest) lineReverse =
      lineReverse.reverse :: splitLinesAux false rest [] := by
  have notReturnBool : (c.val == 0x0D) = false := by simpa using notReturn
  rw [splitLinesAux]
  simp [lineBreak, notReturnBool]

theorem exists_splitLinesAux_append (afterReturn : Bool) (text rest lineReverse : PyStr)
    (fresh : afterReturn = true → lineReverse = []) :
    ∃ lines, splitLinesAux afterReturn (text ++ 0x0A :: rest) lineReverse =
      lines ++ splitLinesAux false rest [] := by
  induction text generalizing afterReturn lineReverse with
  | nil =>
    cases afterReturn with
    | true =>
      refine ⟨[], ?_⟩
      rw [fresh rfl, List.nil_append, splitLinesAux, if_pos (by decide), List.nil_append]
    | false =>
      refine ⟨[lineReverse.reverse], ?_⟩
      rw [List.nil_append, splitLinesAux_break _ _ _ (by decide) (by decide)]
      rfl
  | cons c text ih =>
    rw [List.cons_append, splitLinesAux]
    split
    · rename_i joined
      simp only [Bool.and_eq_true] at joined
      exact ih false lineReverse (by simp)
    split
    · obtain ⟨lines, shape⟩ := ih (c.val == 0x0D) [] (by simp)
      exact ⟨lineReverse.reverse :: lines, by rw [shape, List.cons_append]⟩
    · exact ih false (c :: lineReverse) (by simp)

theorem mem_splitLines {before line rest : PyStr} {c : CodePoint}
    (noBreak : ∀ d ∈ line, d.isLineBreak = false) (lineBreak : c.isLineBreak = true) :
    line ∈ splitLines (before ++ 0x0A :: (line ++ c :: rest)) := by
  obtain ⟨lines, shape⟩ :=
    exists_splitLinesAux_append false before (line ++ c :: rest) [] (by simp)
  rw [splitLines, shape, splitLinesAux_append_of_noBreak _ _ _ noBreak, splitLinesAux]
  simp [lineBreak]

theorem splitLines_flatMap {lines : List PyStr}
    (noBreak : ∀ line ∈ lines, ∀ c ∈ line, c.isLineBreak = false) :
    splitLines (lines.flatMap fun line => line ++ [0x0A]) = lines := by
  induction lines with
  | nil => rfl
  | cons line lines ih =>
    rw [List.flatMap_cons, List.append_assoc, List.singleton_append, splitLines,
      splitLinesAux_append_of_noBreak _ _ _ (noBreak line (by simp)),
      splitLinesAux_break _ _ _ (by decide) (by decide), List.append_nil,
      List.reverse_reverse]
    congr 1
    exact ih fun other member => noBreak other (by simp [member])

/-! ### Partition and join -/

/-- `str.partition` with a one character separator: the text before it,
whether it occurs, and the text after it. -/
def partition (separator : CodePoint) : PyStr → PyStr × Bool × PyStr
  | [] => ([], false, [])
  | c :: rest =>
    if c = separator then ([], true, rest)
    else
      let (before, found, after) := partition separator rest
      (c :: before, found, after)

theorem partition_of_notMem (separator : CodePoint) (before after : PyStr)
    (absent : separator ∉ before) :
    partition separator (before ++ separator :: after) =
      (before, true, after) := by
  induction before with
  | nil => simp [partition]
  | cons c before ih =>
    rw [List.mem_cons, not_or] at absent
    simp [partition, Ne.symm absent.1, ih absent.2]

/-- `separator.join(parts)`. -/
def pyJoin (separator : PyStr) : List PyStr → PyStr
  | [] => []
  | [part] => part
  | part :: next :: parts => part ++ separator ++ pyJoin separator (next :: parts)

theorem pyJoin_append_separator {separator : PyStr} {parts : List PyStr}
    (nonempty : parts ≠ []) :
    pyJoin separator parts ++ separator = parts.flatMap fun part => part ++ separator := by
  induction parts with
  | nil => exact absurd rfl nonempty
  | cons part parts ih =>
    cases parts with
    | nil => simp [pyJoin]
    | cons next parts =>
      rw [pyJoin, List.append_assoc, ih (by simp)]
      rfl

/-- `text.split(separator)` with a one character separator. -/
def pySplit (separator : CodePoint) : PyStr → List PyStr
  | [] => [[]]
  | c :: rest =>
    if c = separator then [] :: pySplit separator rest
    else
      match pySplit separator rest with
      | [] => [[c]]
      | part :: parts => (c :: part) :: parts

/-! ### Decimal text -/

def digitPoint (digit : Nat) : CodePoint :=
  Fin.ofNat _ (0x30 + digit)

/-- `str(n)` for a natural number. -/
def natText (n : Nat) : PyStr :=
  if n = 0 then [digitPoint 0] else ((Nat.digits 10 n).reverse).map digitPoint

/-- `str(n)` for an integer. -/
def intText : Int → PyStr
  | .ofNat n => natText n
  | .negSucc n => py "-" ++ natText (n + 1)

def digitValue (c : CodePoint) : Nat :=
  c.val - 0x30

/-- `int(text)` for a text of decimal digits. -/
def natOfText (text : PyStr) : Nat :=
  text.foldl (fun value c => 10 * value + digitValue c) 0

theorem digitPoint_val {digit : Nat} (small : digit < 10) :
    (digitPoint digit).val = 0x30 + digit := by
  simp only [digitPoint, Fin.ofNat]
  exact Nat.mod_eq_of_lt (by omega)

theorem digitPoint_isAsciiDigit {digit : Nat} (small : digit < 10) :
    (digitPoint digit).isAsciiDigit = true := by
  simp only [CodePoint.isAsciiDigit, digitPoint_val small, Bool.and_eq_true,
    decide_eq_true_eq]
  omega

theorem digitValue_digitPoint {digit : Nat} (small : digit < 10) :
    digitValue (digitPoint digit) = digit := by
  simp [digitValue, digitPoint_val small]

theorem natText_ne_nil (n : Nat) : natText n ≠ [] := by
  unfold natText
  split
  · simp
  · rename_i nonzero
    simpa using Nat.digits_ne_nil_iff_ne_zero.mpr nonzero

theorem natText_isAsciiDigit (n : Nat) :
    ∀ c ∈ natText n, c.isAsciiDigit = true := by
  intro c member
  unfold natText at member
  split at member
  · rw [List.mem_singleton] at member
    subst member
    exact digitPoint_isAsciiDigit (by decide)
  · obtain ⟨digit, digitMem, rfl⟩ := List.mem_map.mp member
    exact digitPoint_isAsciiDigit
      (Nat.digits_lt_base (by decide) (List.mem_reverse.mp digitMem))

theorem foldl_digitPoint_reverse (digits : List Nat)
    (small : ∀ digit ∈ digits, digit < 10) :
    (digits.reverse.map digitPoint).foldl
        (fun value c => 10 * value + digitValue c) 0 =
      Nat.ofDigits 10 digits := by
  induction digits with
  | nil => rfl
  | cons digit digits ih =>
    have tailEq := ih fun other member =>
      small other (List.mem_cons_of_mem digit member)
    rw [List.reverse_cons, List.map_append, List.foldl_append, tailEq]
    simp only [List.map_cons, List.map_nil, List.foldl_cons, List.foldl_nil,
      digitValue_digitPoint (small digit (by simp)), Nat.ofDigits_cons]
    omega

@[simp]
theorem natOfText_natText (n : Nat) : natOfText (natText n) = n := by
  unfold natText
  split
  · rename_i zero
    subst zero
    rfl
  · rw [natOfText, foldl_digitPoint_reverse _ fun digit member =>
      Nat.digits_lt_base (by decide) member]
    exact Nat.ofDigits_digits 10 n

theorem natText_head_zero {n : Nat} {c : CodePoint} {rest : PyStr}
    (shape : natText n = c :: rest) (zero : c.val = 0x30) : rest = [] := by
  unfold natText at shape
  split at shape
  · simp only [List.cons.injEq] at shape
    exact shape.2.symm
  · rename_i nonzero
    have digitsNonempty := Nat.digits_ne_nil_iff_ne_zero (b := 10).mpr nonzero
    have lastNonzero := Nat.getLast_digit_ne_zero 10 nonzero
    have headEq : ((Nat.digits 10 n).reverse.map digitPoint).head? =
        some (digitPoint ((Nat.digits 10 n).getLast digitsNonempty)) := by
      rw [List.head?_map, List.head?_reverse,
        List.getLast?_eq_getLast_of_ne_nil digitsNonempty, Option.map_some]
    rw [shape, List.head?_cons, Option.some.injEq] at headEq
    have small := Nat.digits_lt_base (b := 10) (by decide)
      (List.getLast_mem digitsNonempty)
    rw [headEq, digitPoint_val small] at zero
    omega

/-! ### Order and encoding -/

/-- `sorted(texts)`: ascending code point order. -/
def pySorted (texts : List PyStr) : List PyStr :=
  texts.insertionSort (· ≤ ·)

theorem perm_pySorted (texts : List PyStr) : (pySorted texts).Perm texts :=
  List.perm_insertionSort _ texts

theorem mem_pySorted {values : List PyStr} {value : PyStr} :
    value ∈ pySorted values ↔ value ∈ values :=
  (perm_pySorted values).mem_iff

/-- A text that `.encode("utf-8")` accepts. -/
def isEncodable (text : PyStr) : Bool :=
  text.all fun c => !c.isSurrogate

theorem isEncodable_py (literal : String) : isEncodable (py literal) = true := by
  rw [isEncodable, List.all_eq_true]
  intro c member
  rw [py_eq] at member
  obtain ⟨letter, -, rfl⟩ := List.mem_map.mp member
  have value : (codePoint letter).val = letter.toNat := rfl
  have valid : letter.toNat < 0xD800 ∨ 0xDFFF < letter.toNat ∧ letter.toNat < 0x110000 :=
    letter.valid
  simp only [CodePoint.isSurrogate, CodePoint.isHighSurrogate, CodePoint.isLowSurrogate, value,
    Bool.not_eq_true', Bool.or_eq_false_iff, Bool.and_eq_false_iff, decide_eq_false_iff_not]
  omega

theorem isEncodable_of_mem_py {literals : List String} {name : PyStr}
    (member : name ∈ literals.map py) : isEncodable name = true := by
  obtain ⟨literal, -, rfl⟩ := List.mem_map.mp member
  exact isEncodable_py literal

def utf8Point (c : CodePoint) : List Nat :=
  if c.val < 0x80 then [c.val]
  else if c.val < 0x800 then [0xC0 + c.val / 64, 0x80 + c.val % 64]
  else if c.val < 0x10000 then
    [0xE0 + c.val / 4096, 0x80 + c.val / 64 % 64, 0x80 + c.val % 64]
  else
    [0xF0 + c.val / 262144, 0x80 + c.val / 4096 % 64, 0x80 + c.val / 64 % 64,
      0x80 + c.val % 64]

/-- The bytes that `.encode("utf-8")` returns, as the text they encode. -/
structure Utf8Bytes where
  text : PyStr
  encodable : isEncodable text = true
  deriving DecidableEq

end PyLib
