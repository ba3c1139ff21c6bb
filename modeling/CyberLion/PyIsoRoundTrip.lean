import CyberLion.PyIsoFormat

/-!
# The text of a UTC value is read back

`isoformat` of a UTC value writes digits of fixed width between fixed marks,
and `fromisoformat` reads each number back.
-/

namespace PyLib

theorem length_padDigits (width n : Nat) : (padDigits width n).length = width := by
  induction width generalizing n with
  | zero => rfl
  | succ width ih => rw [padDigits, List.length_append, ih, List.length_singleton]

theorem padDigits_isAsciiDigit (width n : Nat) :
    ∀ c ∈ padDigits width n, c.isAsciiDigit = true := by
  induction width generalizing n with
  | zero => simp [padDigits]
  | succ width ih =>
    intro c member
    rw [padDigits, List.mem_append, List.mem_singleton] at member
    rcases member with earlier | rfl
    · exact ih (n / 10) c earlier
    · exact digitPoint_isAsciiDigit (Nat.mod_lt n (by decide))

theorem natOfText_padDigits {width n : Nat} (small : n < 10 ^ width) :
    natOfText (padDigits width n) = n := by
  induction width generalizing n with
  | zero =>
    rw [pow_zero, Nat.lt_one_iff] at small
    subst small
    rfl
  | succ width ih =>
    have quotient := ih (n := n / 10) (by rw [pow_succ] at small; omega)
    rw [natOfText] at quotient
    rw [padDigits, natOfText, List.foldl_append, quotient, List.foldl_cons, List.foldl_nil,
      digitValue_digitPoint (Nat.mod_lt n (by decide))]
    omega

namespace IsoFormat

theorem peek_cons (c : CodePoint) (rest : PyStr) : peek (c :: rest) = c :=
  rfl

theorem parseDigits_padDigits {width n : Nat} (small : n < 10 ^ width) (rest : PyStr) :
    parseDigits width (padDigits width n ++ rest) = some (n, rest) := by
  have taken : (padDigits width n ++ rest).take width = padDigits width n :=
    List.take_left' (length_padDigits width n)
  have dropped : (padDigits width n ++ rest).drop width = rest :=
    List.drop_left' (length_padDigits width n)
  have longEnough : width ≤ (padDigits width n ++ rest).length := by
    rw [List.length_append, length_padDigits]
    omega
  have digits : (padDigits width n).all CodePoint.isAsciiDigit = true :=
    List.all_eq_true.mpr (padDigits_isAsciiDigit width n)
  rw [parseDigits, taken, dropped, natOfText_padDigits small]
  rw [if_pos]
  rw [digits, decide_eq_true longEnough]
  rfl

theorem peek_padDigits (width n : Nat) (rest : PyStr) :
    (peek (padDigits (width + 1) n ++ rest)).isAsciiDigit = true := by
  have digits := padDigits_isAsciiDigit (width + 1) n
  have nonempty := length_padDigits (width + 1) n
  cases shape : padDigits (width + 1) n with
  | nil => simp [shape] at nonempty
  | cons c others =>
    apply digits
    simp [shape, peek]

/-- The time of day as `isoformat` writes it. -/
def clockText (time : DateTime) : PyStr :=
  padDigits 2 time.hour ++ (0x3A :: (padDigits 2 time.minute ++ (0x3A ::
    (padDigits 2 time.second ++
      (if time.microsecond = 0 then [] else 0x2E :: padDigits 6 time.microsecond)))))

theorem isoformatUtc_eq (time : DateTime) :
    time.isoformatUtc = padDigits 4 time.year ++ (0x2D :: (padDigits 2 time.month ++ (0x2D ::
      (padDigits 2 time.day ++ (0x54 :: (clockText time ++ py "+00:00")))))) := by
  unfold DateTime.isoformatUtc clockText
  split <;> simp [py_eq, codePoint]

theorem bounds (time : DateTime) :
    time.year < 10 ^ 4 ∧ time.month < 10 ^ 2 ∧ time.day < 10 ^ 2 ∧ time.hour < 10 ^ 2 ∧
      time.minute < 10 ^ 2 ∧ time.second < 10 ^ 2 ∧ time.microsecond < 10 ^ 6 := by
  have valid := time.valid
  simp only [validDateTime, Bool.and_eq_true, decide_eq_true_eq] at valid
  have monthLength : daysInMonth time.year time.month ≤ 31 := by
    unfold daysInMonth
    split_ifs <;> omega
  omega

theorem forall_mem_clockText {P : CodePoint → Prop}
    (digits : ∀ c, c.isAsciiDigit = true → P c) (colon : P 0x3A) (point : P 0x2E)
    (time : DateTime) : ∀ c ∈ clockText time, P c := by
  have number : ∀ width n, ∀ c ∈ padDigits width n, P c := fun width n c member =>
    digits c (padDigits_isAsciiDigit width n c member)
  unfold clockText
  simp only [List.forall_mem_append, List.forall_mem_cons]
  refine ⟨number 2 _, colon, number 2 _, colon, number 2 _, ?_⟩
  split
  · simp
  · exact List.forall_mem_cons.mpr ⟨point, number 6 _⟩

theorem forall_mem_isoformatUtc {P : CodePoint → Prop}
    (digits : ∀ c, c.isAsciiDigit = true → P c)
    (marks : P 0x2D ∧ P 0x54 ∧ P 0x3A ∧ P 0x2E ∧ P 0x2B)
    (time : DateTime) : ∀ c ∈ time.isoformatUtc, P c := by
  obtain ⟨dash, letter, colon, point, plus⟩ := marks
  have number : ∀ width n, ∀ c ∈ padDigits width n, P c := fun width n c member =>
    digits c (padDigits_isAsciiDigit width n c member)
  have zero : P 0x30 := digits 0x30 (by decide)
  have zone : ∀ c ∈ py "+00:00", P c := by
    simp [py_eq, codePoint, plus, zero, colon]
  rw [isoformatUtc_eq]
  simp only [List.forall_mem_append, List.forall_mem_cons]
  exact ⟨number 4 _, dash, number 2 _, dash, number 2 _, letter,
    forall_mem_clockText digits colon point time, zone⟩

theorem parseClock_colon (left : Nat) {separated : Option Bool} (fields : List Nat) {n : Nat}
    (rest : PyStr) {remaining : Nat} (small : n < 10 ^ 2)
    (colon : separated = none ∨ separated = some true) (more : 3 < remaining) :
    parseClock (left + 1) separated fields (padDigits 2 n ++ 0x3A :: rest) remaining =
      parseClock left (some true) (fields ++ [n]) rest (remaining - 3) := by
  have unfinished : ¬ remaining ≤ 3 := by omega
  rw [parseClock, parseDigits_padDigits small]
  rcases colon with rfl | rfl <;> simp [peek, unfinished]

theorem parseClock_last (left : Nat) (separated : Option Bool) (fields : List Nat) {n : Nat}
    (rest : PyStr) {remaining : Nat} (small : n < 10 ^ 2) (last : remaining ≤ 3) :
    parseClock (left + 1) separated fields (padDigits 2 n ++ rest) remaining =
      some ⟨fields ++ [n], 0, peek rest != 0⟩ := by
  rw [parseClock, parseDigits_padDigits small]
  simp [last]

theorem parseClock_fraction (left : Nat) (fields : List Nat) {n fraction : Nat} (rest : PyStr)
    (small : n < 10 ^ 2) (fractionSmall : fraction < 10 ^ 6) :
    parseClock (left + 1) (some true) fields
        (padDigits 2 n ++ 0x2E :: (padDigits 6 fraction ++ rest)) 9 =
      some ⟨fields ++ [n], fraction, peek (rest.dropWhile CodePoint.isAsciiDigit) != 0⟩ := by
  have notColon : ((0x2E : CodePoint) == 0x3A) = false := by decide
  rw [parseClock, parseDigits_padDigits small]
  simp [peek, notColon, parseFraction, parseDigits_padDigits fractionSmall]

theorem parseClock_clockText (time : DateTime) :
    parseClock 3 none [] (clockText time ++ py "+00:00") (clockText time).length =
      some ⟨[time.hour, time.minute, time.second], time.microsecond, true⟩ := by
  obtain ⟨-, -, -, hour, minute, second, microsecond⟩ := bounds time
  unfold clockText
  by_cases whole : time.microsecond = 0
  · simp only [if_pos whole, List.append_assoc, List.cons_append, List.append_nil,
      List.length_append, List.length_cons, length_padDigits]
    rw [parseClock_colon 2 _ _ hour (.inl rfl) (by decide),
      parseClock_colon 1 _ _ minute (.inr rfl) (by decide),
      parseClock_last 0 _ _ _ second (by decide), whole]
    rfl
  · simp only [if_neg whole, List.append_assoc, List.cons_append,
      List.length_append, List.length_cons, length_padDigits]
    rw [parseClock_colon 2 _ _ hour (.inl rfl) (by decide),
      parseClock_colon 1 _ _ minute (.inr rfl) (by decide),
      parseClock_fraction 0 _ _ second microsecond]
    rfl

theorem parseTime_clockText (time : DateTime) :
    parseTime (clockText time ++ py "+00:00") =
      some (⟨[time.hour, time.minute, time.second], time.microsecond, true⟩, some 0) := by
  have noMark : ∀ c ∈ clockText time, isZoneMark c = false := by
    apply forall_mem_clockText
    · intro c isDigit
      cases mark : isZoneMark c with
      | false => rfl
      | true =>
        simp only [isZoneMark, Bool.or_eq_true, beq_iff_eq] at mark
        rcases mark with (rfl | rfl) | rfl <;> exact absurd isDigit (by decide)
    · decide
    · decide
  have zoneStart : (clockText time ++ py "+00:00").findIdx isZoneMark =
      (clockText time).length := by
    have notFound : (clockText time).findIdx isZoneMark = (clockText time).length :=
      List.findIdx_eq_length.mpr noMark
    rw [List.findIdx_append, notFound, if_neg (Nat.lt_irrefl _),
      show (py "+00:00").findIdx isZoneMark = 0 by decide, Nat.zero_add]
  have zoneText : (clockText time ++ py "+00:00").drop (clockText time).length = py "+00:00" :=
    List.drop_left
  have offsetText : (clockText time ++ py "+00:00").drop ((clockText time).length + 1) =
      py "00:00" := by
    rw [← List.drop_drop, zoneText]
    rfl
  have length : (clockText time ++ py "+00:00").length = (clockText time).length + 6 := by
    rw [List.length_append]
    rfl
  have unfinished : (clockText time).length ≠ (clockText time).length + 6 := by omega
  have offsetLength : (clockText time).length + 6 - ((clockText time).length + 1) = 5 := by
    omega
  have offset : parseClock 3 none [] (py "00:00") 5 = some ⟨[0, 0], 0, false⟩ := by decide
  rw [parseTime]
  simp only [zoneStart, parseClock_clockText, zoneText, offsetText, length, offsetLength, offset,
    if_neg unfinished]
  rfl

theorem findSeparator_isoformatUtc (time : DateTime) :
    findSeparator time.isoformatUtc = some 10 := by
  have year := length_padDigits 4 time.year
  have month := length_padDigits 2 time.month
  have long : 8 ≤ time.isoformatUtc.length := by
    simp [isoformatUtc_eq, length_padDigits]
    omega
  have afterYear : time.isoformatUtc.drop 4 = 0x2D :: (padDigits 2 time.month ++ (0x2D ::
      (padDigits 2 time.day ++ (0x54 :: (clockText time ++ py "+00:00"))))) := by
    rw [isoformatUtc_eq]
    exact List.drop_left' year
  have atDash : peek (time.isoformatUtc.drop 4) = 0x2D := by
    rw [afterYear]
    rfl
  have notWeek : (peek (time.isoformatUtc.drop 5) == 0x57) = false := by
    rw [beq_eq_false_iff_ne]
    intro week
    have digit := peek_padDigits 1 time.month (0x2D ::
      (padDigits 2 time.day ++ (0x54 :: (clockText time ++ py "+00:00"))))
    have afterDash := List.drop_drop (i := 1) (j := 4) (l := time.isoformatUtc)
    rw [afterYear] at afterDash
    rw [← afterDash] at week
    rw [List.drop_one, List.tail_cons] at week
    rw [week] at digit
    exact absurd digit (by decide)
  rw [findSeparator, if_neg (by omega), atDash, notWeek]
  rfl

theorem parseDate_isoformatUtc (time : DateTime) :
    parseDate time.isoformatUtc 10 = some (time.year, time.month, time.day) := by
  obtain ⟨year, month, day, -⟩ := bounds time
  have notWeek : ∀ rest, (peek (padDigits 2 time.month ++ rest) == 0x57) = false := by
    intro rest
    rw [beq_eq_false_iff_ne]
    intro week
    have digit := peek_padDigits 1 time.month rest
    rw [week] at digit
    exact absurd digit (by decide)
  rw [isoformatUtc_eq, parseDate, parseDigits_padDigits year]
  simp [peek_cons, notWeek, parseMonthDay, parseDigits_padDigits month,
    parseDigits_padDigits day]

end IsoFormat

open IsoFormat in
theorem fromIsoFormat_isoformatUtc (time : DateTime) :
    fromIsoFormat time.isoformatUtc = some (.aware time 0) := by
  have ascii : ∀ c ∈ time.isoformatUtc, c.val < 0x80 := by
    apply forall_mem_isoformatUtc
    · intro c digit
      simp only [CodePoint.isAsciiDigit, Bool.and_eq_true, decide_eq_true_eq] at digit
      omega
    · decide
  have notSurrogate : ∀ c : CodePoint, c.val < 0x80 → c.isSurrogate = false := by
    intro c small
    have notHigh : ¬ 0xD800 ≤ c.val := by omega
    have notLow : ¬ 0xDC00 ≤ c.val := by omega
    simp [CodePoint.isSurrogate, CodePoint.isHighSurrogate, CodePoint.isLowSurrogate, notHigh,
      notLow]
  have clean : ∀ index, (peek (time.isoformatUtc.drop index)).isSurrogate = false := by
    intro index
    apply notSurrogate
    cases behind : time.isoformatUtc.drop index with
    | nil => decide
    | cons c rest =>
      apply ascii
      apply List.mem_of_mem_drop (i := index)
      simp [behind, peek]
  have bytes : time.isoformatUtc.flatMap utf8Char = time.isoformatUtc := by
    have single : ∀ c ∈ time.isoformatUtc, utf8Char c = [c] := by
      intro c member
      have sameByte : Fin.ofNat 0x110000 c.val = c := Fin.ext (Nat.mod_eq_of_lt c.isLt)
      rw [utf8Char, utf8Point, if_pos (ascii c member), List.map_singleton, sameByte]
    rw [List.flatMap_congr single, List.flatMap_singleton']
  have behindDate : time.isoformatUtc.drop 10 = 0x54 :: (clockText time ++ py "+00:00") := by
    have before : (padDigits 4 time.year ++ (0x2D :: (padDigits 2 time.month ++ (0x2D ::
        padDigits 2 time.day)))).length = 10 := by
      simp [length_padDigits]
    have split : ∀ rest : PyStr, ((padDigits 4 time.year ++ (0x2D :: (padDigits 2 time.month ++
        (0x2D :: padDigits 2 time.day)))) ++ rest).drop 10 = rest :=
      fun _ => List.drop_left' before
    rw [isoformatUtc_eq]
    simpa using split (0x54 :: (clockText time ++ py "+00:00"))
  have long : ¬ time.isoformatUtc.length < 7 := by
    simp [isoformatUtc_eq, length_padDigits]
    omega
  have sanitized : sanitize time.isoformatUtc = time.isoformatUtc := by
    simp [sanitize, clean]
  have noSurrogate : time.isoformatUtc.any CodePoint.isSurrogate = false := by
    rw [List.any_eq_false]
    intro c member
    simp [notSurrogate c (ascii c member)]
  have rest : parseRest (0x54 :: (clockText time ++ py "+00:00")) =
      parseTime (clockText time ++ py "+00:00") := by
    rfl
  have built : DateTime.ofFields time.year time.month time.day time.hour time.minute
      time.second time.microsecond = some time := dif_pos time.valid
  rw [fromIsoFormat, if_neg long]
  simp only [sanitized, noSurrogate, bytes, findSeparator_isoformatUtc, parseDate_isoformatUtc,
    behindDate, rest, parseTime_clockText]
  simp [buildMoment, built]

theorem isoformatUtc_injective : Function.Injective DateTime.isoformatUtc := by
  intro first second same
  have read := fromIsoFormat_isoformatUtc first
  rw [same, fromIsoFormat_isoformatUtc] at read
  exact (Moment.aware.inj (Option.some.inj read)).1.symm

theorem isEncodable_isoformatUtc (time : DateTime) : isEncodable time.isoformatUtc = true := by
  rw [isEncodable, List.all_eq_true]
  apply IsoFormat.forall_mem_isoformatUtc
  · intro c isDigit
    simp only [CodePoint.isAsciiDigit, Bool.and_eq_true, decide_eq_true_eq] at isDigit
    simp only [CodePoint.isSurrogate, CodePoint.isHighSurrogate, CodePoint.isLowSurrogate,
      Bool.not_eq_true', Bool.or_eq_false_iff, Bool.and_eq_false_iff, decide_eq_false_iff_not]
    omega
  · decide

end PyLib
