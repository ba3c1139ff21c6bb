import CyberLion.PyError

/-!
# Dates and times

The part of `datetime` that handles absolute times: the proleptic Gregorian
calendar with its day ordinals, valid date and time fields, the conversion of
an aware value to UTC, the comparison of UTC values and the text `isoformat`
writes for them.
-/

namespace PyLib

/-! ### The calendar -/

def isLeapYear (year : Nat) : Bool :=
  year % 4 == 0 && (year % 100 != 0 || year % 400 == 0)

def daysInMonth (year month : Nat) : Nat :=
  if month = 2 then (if isLeapYear year then 29 else 28)
  else if month = 4 || month = 6 || month = 9 || month = 11 then 30
  else 31

def daysBeforeYear (year : Nat) : Nat :=
  (year - 1) * 365 + (year - 1) / 4 - (year - 1) / 100 + (year - 1) / 400

def daysBeforeMonth (year month : Nat) : Nat :=
  ((List.range (month - 1)).map fun index => daysInMonth year (index + 1)).sum

/-- `date.toordinal()`: January 1st of the year 1 is day 1. -/
def dateOrdinal (year month day : Nat) : Nat :=
  daysBeforeYear year + daysBeforeMonth year month + day

/-- The month and day of the day with the given index in its year. -/
def monthAndDay (year : Nat) : List Nat → Nat → Nat × Nat
  | [], index => (12, index + 1)
  | month :: months, index =>
    if index < daysInMonth year month then (month, index + 1)
    else monthAndDay year months (index - daysInMonth year month)

/-- `date.fromordinal()` for a positive ordinal: year, month and day. -/
def dateOfOrdinal (ordinal : Nat) : Nat × Nat × Nat :=
  let days := ordinal - 1
  let days400 := days % 146097
  let days100 := days400 % 36524
  let days4 := days100 % 1461
  let year := days / 146097 * 400 + days400 / 36524 * 100 + days100 / 1461 * 4 +
    days4 / 365 + 1
  if days4 / 365 = 4 || days400 / 36524 = 4 then (year - 1, 12, 31)
  else (year, monthAndDay year [1, 2, 3, 4, 5, 6, 7, 8, 9, 10, 11, 12] (days4 % 365))

/-! ### Date and time fields -/

/-- The ranges that the `datetime` constructor checks. -/
def validDateTime (year month day hour minute second microsecond : Nat) : Bool :=
  1 ≤ year && year ≤ 9999 && 1 ≤ month && month ≤ 12 && 1 ≤ day &&
    day ≤ daysInMonth year month && hour < 24 && minute < 60 && second < 60 &&
    microsecond < 1000000

theorem validDateTime_survey : validDateTime 2026 1 2 3 4 5 0 = true :=
  rfl

structure DateTime where
  year : Nat
  month : Nat
  day : Nat
  hour : Nat
  minute : Nat
  second : Nat
  microsecond : Nat
  valid : validDateTime year month day hour minute second microsecond = true
  deriving DecidableEq

namespace DateTime

/-- The `datetime` constructor; `none` stands for its `ValueError`. -/
def ofFields (year month day hour minute second microsecond : Nat) : Option DateTime :=
  if valid : validDateTime year month day hour minute second microsecond = true then
    some ⟨year, month, day, hour, minute, second, microsecond, valid⟩
  else none

def packed (time : DateTime) : Nat :=
  (((((time.year * 256 + time.month) * 256 + time.day) * 256 + time.hour) * 256 +
    time.minute) * 256 + time.second) * 16777216 + time.microsecond

def microseconds (time : DateTime) : Nat :=
  (((dateOrdinal time.year time.month time.day * 24 + time.hour) * 60 + time.minute) * 60 +
    time.second) * 1000000 + time.microsecond

def outOfRangeError : PyError :=
  ⟨.overflowError, py "date value out of range"⟩

/-- The value at the given distance from ordinal 0, when its year is in range. -/
def ofMicroseconds (total : Int) : Except PyError DateTime :=
  if total < 0 then .error outOfRangeError
  else
    let seconds := total.toNat / 1000000
    let ordinal := seconds / 86400
    let (year, month, day) := dateOfOrdinal ordinal
    if ordinal = 0 then .error outOfRangeError
    else
      match ofFields year month day (seconds / 3600 % 24) (seconds / 60 % 60) (seconds % 60)
          (total.toNat % 1000000) with
      | some time => .ok time
      | none => .error outOfRangeError

/-- `astimezone(timezone.utc)` of an aware value whose zone is `offset`
microseconds ahead of UTC. -/
def astimezoneUtc (time : DateTime) (offset : Int) : Except PyError DateTime :=
  if offset = 0 then .ok time else ofMicroseconds (time.microseconds - offset)

end DateTime

/-- A `datetime` object: naive, or aware with its distance from UTC. -/
inductive Moment
  | naive (time : DateTime)
  | aware (time : DateTime) (offset : Int)
  deriving DecidableEq

/-! ### Text -/

/-- The last `width` decimal digits of a number. -/
def padDigits : Nat → Nat → PyStr
  | 0, _ => []
  | width + 1, n => padDigits width (n / 10) ++ [digitPoint (n % 10)]

/-- `isoformat()` of a UTC value. -/
def DateTime.isoformatUtc (time : DateTime) : PyStr :=
  padDigits 4 time.year ++ py "-" ++ padDigits 2 time.month ++ py "-" ++
    padDigits 2 time.day ++ py "T" ++ padDigits 2 time.hour ++ py ":" ++
    padDigits 2 time.minute ++ py ":" ++ padDigits 2 time.second ++
    (if time.microsecond = 0 then [] else py "." ++ padDigits 6 time.microsecond) ++
    py "+00:00"

/-- `text.replace(old, new)` for a one character `old`. -/
def pyReplace (old : CodePoint) (new text : PyStr) : PyStr :=
  text.flatMap fun c => if c = old then new else [c]

theorem pyReplace_of_notMem {old : CodePoint} {new text : PyStr} (absent : old ∉ text) :
    pyReplace old new text = text := by
  induction text with
  | nil => rfl
  | cons c text ih =>
    rw [List.mem_cons, not_or] at absent
    have kept : c ≠ old := fun same => absent.1 same.symm
    have tailKept := ih absent.2
    simp only [pyReplace] at tailKept
    simp [pyReplace, kept, tailKept]

end PyLib
