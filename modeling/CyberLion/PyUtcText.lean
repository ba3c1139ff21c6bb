import CyberLion.PyIsoRoundTrip

/-!
# UTC times as texts with `Z`

`isoformat().replace("+00:00", "Z")` writes a UTC time without a fraction when
its microseconds are zero.  The order of such texts is the order of the times
but for one case: a whole second is written with a `Z` where every later time
of that second has a point, and the point comes before the `Z`.
-/

namespace PyLib

/-! ### Replacing a word -/

/-- `text.replace(old, new)` behind the first `skipped` characters, which belong to a
word that was replaced. -/
def replaceFrom (old new : PyStr) : Nat → PyStr → PyStr
  | _, [] => []
  | skipped + 1, _ :: rest => replaceFrom old new skipped rest
  | 0, c :: rest =>
    if old.isPrefixOf (c :: rest) then new ++ replaceFrom old new (old.length - 1) rest
    else c :: replaceFrom old new 0 rest

/-- `text.replace(old, new)` for a word that is not empty. -/
def replaceWord (old new text : PyStr) : PyStr :=
  replaceFrom old new 0 text

theorem replaceFrom_append_skipped (old new : PyStr) (skipped rest : PyStr) :
    replaceFrom old new skipped.length (skipped ++ rest) = replaceFrom old new 0 rest := by
  induction skipped with
  | nil => rfl
  | cons c skipped ih => exact ih

theorem replaceWord_append {mark : CodePoint} {tail new text rest : PyStr} (absent : mark ∉ text) :
    replaceWord (mark :: tail) new (text ++ rest) =
      text ++ replaceWord (mark :: tail) new rest := by
  induction text with
  | nil => rfl
  | cons c text ih =>
    rw [List.mem_cons, not_or] at absent
    obtain ⟨other, later⟩ := absent
    have noWord : (mark :: tail).isPrefixOf (c :: (text ++ rest)) = false := by
      simp [List.isPrefixOf, other]
    rw [replaceWord, List.cons_append, replaceFrom, noWord]
    exact congrArg (List.cons c) (ih later)

theorem replaceWord_self (mark : CodePoint) (tail new : PyStr) :
    replaceWord (mark :: tail) new (mark :: tail) = new := by
  have isWord : (mark :: tail).isPrefixOf (mark :: tail) = true :=
    List.isPrefixOf_iff_prefix.mpr (List.prefix_refl _)
  have behind := replaceFrom_append_skipped (mark :: tail) new tail []
  rw [List.append_nil] at behind
  rw [replaceWord, replaceFrom, isWord, if_pos rfl, List.length_cons, Nat.add_sub_cancel, behind]
  exact List.append_nil new

/-! ### The texts -/

namespace DateTime

/-- `isoformat().replace("+00:00", "Z")` of a UTC value. -/
def zulu (time : DateTime) : PyStr :=
  replaceWord (py "+00:00") (py "Z") time.isoformatUtc

def unzoned (time : DateTime) : PyStr :=
  padDigits 4 time.year ++ (0x2D :: (padDigits 2 time.month ++ (0x2D ::
    (padDigits 2 time.day ++ (0x54 :: IsoFormat.clockText time)))))

theorem isoformatUtc_eq_unzoned (time : DateTime) :
    time.isoformatUtc = time.unzoned ++ py "+00:00" := by
  rw [IsoFormat.isoformatUtc_eq, unzoned]
  simp

theorem forall_mem_unzoned {P : CodePoint → Prop} (digits : ∀ c, c.isAsciiDigit = true → P c)
    (marks : P 0x2D ∧ P 0x54 ∧ P 0x3A ∧ P 0x2E ∧ P 0x2B) (time : DateTime) :
    ∀ c ∈ time.unzoned, P c := by
  intro c member
  have within := IsoFormat.forall_mem_isoformatUtc digits marks time
  rw [isoformatUtc_eq_unzoned] at within
  exact within c (List.mem_append_left _ member)

theorem zulu_eq (time : DateTime) : time.zulu = time.unzoned ++ py "Z" := by
  have noPlus : (0x2B : CodePoint) ∉ time.unzoned := by
    have number : ∀ width n, (0x2B : CodePoint) ∉ padDigits width n := fun width n member =>
      absurd (padDigits_isAsciiDigit width n _ member) (by decide)
    unfold unzoned IsoFormat.clockText
    split <;> simp [number]
  rw [zulu, isoformatUtc_eq_unzoned]
  exact (replaceWord_append noPlus).trans (congrArg _ (replaceWord_self _ _ _))

theorem fromIsoFormat_zulu (time : DateTime) :
    fromIsoFormat (pyReplace 0x5A (py "+00:00") time.zulu) = some (.aware time 0) := by
  have noZ : (0x5A : CodePoint) ∉ time.unzoned := by
    intro member
    refine forall_mem_unzoned (P := fun c => c ≠ 0x5A) ?_ (by decide) time _ member rfl
    rintro c digit rfl
    exact absurd digit (by decide)
  have replaced : pyReplace 0x5A (py "+00:00") time.zulu = time.isoformatUtc := by
    have start : pyReplace 0x5A (py "+00:00") time.unzoned = time.unzoned :=
      pyReplace_of_notMem noZ
    rw [pyReplace] at start
    rw [zulu_eq, isoformatUtc_eq_unzoned, pyReplace, List.flatMap_append, start]
    rfl
  rw [replaced, fromIsoFormat_isoformatUtc]

theorem isEncodable_zulu (time : DateTime) : isEncodable time.zulu = true := by
  rw [zulu_eq, isEncodable, List.all_append, Bool.and_eq_true]
  refine ⟨List.all_eq_true.mpr fun c member => ?_, by decide⟩
  refine forall_mem_unzoned (P := fun c => (!c.isSurrogate) = true) ?_ (by decide) time c member
  intro c digit
  simp only [CodePoint.isAsciiDigit, Bool.and_eq_true, decide_eq_true_eq] at digit
  have notHigh : ¬ 0xD800 ≤ c.val := by omega
  have notLow : ¬ 0xDC00 ≤ c.val := by omega
  simp [CodePoint.isSurrogate, CodePoint.isHighSurrogate, CodePoint.isLowSurrogate, notHigh,
    notLow]

end DateTime

/-! ### Their order -/

theorem append_lt_append_iff {α : Type} [LinearOrder α] {first second : List α}
    (sameLength : first.length = second.length) (firstRest secondRest : List α) :
    first ++ firstRest < second ++ secondRest ↔
      first < second ∨ first = second ∧ firstRest < secondRest := by
  induction first generalizing second with
  | nil =>
    obtain rfl := List.eq_nil_of_length_eq_zero sameLength.symm
    simp
  | cons head first ih =>
    cases second with
    | nil => simp at sameLength
    | cons other second =>
      have tailLength : first.length = second.length := by simpa using sameLength
      simp only [List.cons_append, List.cons_lt_cons_iff, ih tailLength, List.cons.injEq]
      tauto

theorem padDigits_lt_iff {width first second : Nat} (firstSmall : first < 10 ^ width)
    (secondSmall : second < 10 ^ width) :
    padDigits width first < padDigits width second ↔ first < second := by
  induction width generalizing first second with
  | zero =>
    obtain rfl : first = 0 := by simpa using firstSmall
    obtain rfl : second = 0 := by simpa using secondSmall
    simp [padDigits]
  | succ width ih =>
    rw [pow_succ] at firstSmall secondSmall
    have firstTens : first / 10 < 10 ^ width := by omega
    have secondTens : second / 10 < 10 ^ width := by omega
    have sameLength : (padDigits width (first / 10)).length =
        (padDigits width (second / 10)).length := by
      simp only [length_padDigits]
    have sameTens : padDigits width (first / 10) = padDigits width (second / 10) ↔
        first / 10 = second / 10 := by
      constructor
      · intro same
        have notLess := mt (ih firstTens secondTens).mpr (same ▸ lt_irrefl _)
        have notMore := mt (ih secondTens firstTens).mpr (same ▸ lt_irrefl _)
        omega
      · rintro same
        rw [same]
    have unit : [digitPoint (first % 10)] < [digitPoint (second % 10)] ↔
        first % 10 < second % 10 := by
      have firstDigit : first % 10 < 10 := Nat.mod_lt _ (by decide)
      have secondDigit : second % 10 < 10 := Nat.mod_lt _ (by decide)
      have firstValue : (digitPoint (first % 10)).val = 0x30 + first % 10 :=
        Nat.mod_eq_of_lt (by omega)
      have secondValue : (digitPoint (second % 10)).val = 0x30 + second % 10 :=
        Nat.mod_eq_of_lt (by omega)
      simp [List.cons_lt_cons_iff, Fin.lt_def, firstValue, secondValue]
    rw [padDigits, padDigits, append_lt_append_iff sameLength, ih firstTens secondTens, sameTens,
      unit]
    omega

theorem padDigits_inj {width first second : Nat} (firstSmall : first < 10 ^ width)
    (secondSmall : second < 10 ^ width) :
    padDigits width first = padDigits width second ↔ first = second := by
  constructor
  · intro same
    have notLess := mt (padDigits_lt_iff firstSmall secondSmall).mpr (same ▸ lt_irrefl _)
    have notMore := mt (padDigits_lt_iff secondSmall firstSmall).mpr (same ▸ lt_irrefl _)
    omega
  · rintro rfl
    rfl

theorem padDigits_append_lt_iff {width first second : Nat} (firstSmall : first < 10 ^ width)
    (secondSmall : second < 10 ^ width) (mark : CodePoint) (firstRest secondRest : PyStr) :
    padDigits width first ++ mark :: firstRest < padDigits width second ++ mark :: secondRest ↔
      first < second ∨ first = second ∧ firstRest < secondRest := by
  have sameLength : (padDigits width first).length = (padDigits width second).length := by
    simp only [length_padDigits]
  rw [append_lt_append_iff sameLength, padDigits_lt_iff firstSmall secondSmall,
    padDigits_inj firstSmall secondSmall, List.cons_lt_cons_iff]
  simp

namespace DateTime

def SameSecond (first second : DateTime) : Prop :=
  first.year = second.year ∧ first.month = second.month ∧ first.day = second.day ∧
    first.hour = second.hour ∧ first.minute = second.minute ∧ first.second = second.second

instance (first second : DateTime) : Decidable (SameSecond first second) := by
  unfold SameSecond
  infer_instance

def WholeSecondBefore (first second : DateTime) : Prop :=
  SameSecond first second ∧ first.microsecond = 0 ∧ second.microsecond ≠ 0

instance (first second : DateTime) : Decidable (WholeSecondBefore first second) := by
  unfold WholeSecondBefore
  infer_instance

def fractionText (time : DateTime) : PyStr :=
  if time.microsecond = 0 then py "Z" else 0x2E :: (padDigits 6 time.microsecond ++ py "Z")

theorem zulu_eq_fields (time : DateTime) :
    time.zulu = padDigits 4 time.year ++ (0x2D :: (padDigits 2 time.month ++ (0x2D ::
      (padDigits 2 time.day ++ (0x54 :: (padDigits 2 time.hour ++ (0x3A ::
        (padDigits 2 time.minute ++ (0x3A :: (padDigits 2 time.second ++
          time.fractionText)))))))))) := by
  rw [zulu_eq, unzoned, IsoFormat.clockText, fractionText]
  split <;> simp

theorem fractionText_lt_iff (first second : DateTime) :
    first.fractionText < second.fractionText ↔
      first.microsecond ≠ 0 ∧
        (second.microsecond = 0 ∨ first.microsecond < second.microsecond) := by
  have firstSmall := (IsoFormat.bounds first).2.2.2.2.2.2
  have secondSmall := (IsoFormat.bounds second).2.2.2.2.2.2
  have pointFirst : ∀ rest : PyStr, (0x2E : CodePoint) :: rest < py "Z" := fun rest =>
    List.cons_lt_cons_iff.mpr (.inl (by decide))
  have pointNotLast : ∀ rest : PyStr, ¬ py "Z" < (0x2E : CodePoint) :: rest := fun rest less =>
    absurd (less.trans (pointFirst rest)) (lt_irrefl _)
  unfold fractionText
  by_cases firstWhole : first.microsecond = 0
  · by_cases secondWhole : second.microsecond = 0
    · simp [firstWhole, secondWhole]
    · simp [firstWhole, secondWhole, pointNotLast]
  · by_cases secondWhole : second.microsecond = 0
    · simp [firstWhole, secondWhole, pointFirst]
    · have sameLength : (padDigits 6 first.microsecond).length =
          (padDigits 6 second.microsecond).length := by
        simp only [length_padDigits]
      rw [if_neg firstWhole, if_neg secondWhole, List.cons_lt_cons_iff,
        append_lt_append_iff sameLength, padDigits_lt_iff firstSmall secondSmall]
      simp [firstWhole, secondWhole]

theorem zulu_lt_iff (first second : DateTime) :
    first.zulu < second.zulu ↔ first.year < second.year ∨ first.year = second.year ∧
      (first.month < second.month ∨ first.month = second.month ∧
      (first.day < second.day ∨ first.day = second.day ∧
      (first.hour < second.hour ∨ first.hour = second.hour ∧
      (first.minute < second.minute ∨ first.minute = second.minute ∧
      (first.second < second.second ∨ first.second = second.second ∧
      first.fractionText < second.fractionText))))) := by
  obtain ⟨year, month, day, hour, minute, secondField, -⟩ := IsoFormat.bounds first
  obtain ⟨year', month', day', hour', minute', secondField', -⟩ := IsoFormat.bounds second
  have sameLength : (padDigits 2 first.second).length = (padDigits 2 second.second).length := by
    simp only [length_padDigits]
  rw [zulu_eq_fields, zulu_eq_fields, padDigits_append_lt_iff year year',
    padDigits_append_lt_iff month month', padDigits_append_lt_iff day day',
    padDigits_append_lt_iff hour hour', padDigits_append_lt_iff minute minute',
    append_lt_append_iff sameLength, padDigits_lt_iff secondField secondField',
    padDigits_inj secondField secondField']

theorem packed_lt_iff_of_zulu_lt {first second : DateTime} (before : first.zulu < second.zulu) :
    first.packed < second.packed ↔ ¬ WholeSecondBefore second first := by
  rw [zulu_lt_iff, fractionText_lt_iff] at before
  have firstBounds := IsoFormat.bounds first
  have secondBounds := IsoFormat.bounds second
  unfold WholeSecondBefore SameSecond packed
  omega

end DateTime

end PyLib
