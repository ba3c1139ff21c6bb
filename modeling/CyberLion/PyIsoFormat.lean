import CyberLion.PyDateTime

/-!
# Reading ISO 8601 text

`datetime.fromisoformat` as the interpreter's C code computes it, on the UTF-8
bytes of the text.  A byte is kept as the code point of its value.  A pointer
into the bytes is the list of what stands behind it, and reading past the end
gives a NUL.  The length that remains up to a fixed end is passed along where
the C code compares a pointer with that end.

The result is `none` where the function raises `ValueError`, which is the only
exception it raises on a text.
-/

namespace PyLib

namespace IsoFormat

/-- `*p`. -/
def peek (rest : PyStr) : CodePoint :=
  rest.headD 0

/-- `parse_digits`: a number of exactly `count` digits. -/
def parseDigits (count : Nat) (rest : PyStr) : Option (Nat × PyStr) :=
  if count ≤ rest.length && (rest.take count).all CodePoint.isAsciiDigit then
    some (natOfText (rest.take count), rest.drop count)
  else none

/-! ### The date -/

def isoWeek1Monday (year : Nat) : Nat :=
  let firstDay := dateOrdinal year 1 1
  let firstWeekday := (firstDay + 6) % 7
  if 3 < firstWeekday then firstDay - firstWeekday + 7 else firstDay - firstWeekday

/-- `iso_to_ymd`, with year 0 already refused. -/
def isoToYmd (year week day : Nat) : Option (Nat × Nat × Nat) :=
  let firstWeekday := (dateOrdinal year 1 1 + 6) % 7
  let longYear := firstWeekday == 3 || (firstWeekday == 2 && isLeapYear year)
  if year = 0 || week = 0 || 53 < week || (week == 53 && !longYear) || day = 0 || 7 < day then
    none
  else some (dateOfOrdinal (isoWeek1Monday year + (week - 1) * 7 + (day - 1)))

/-- The week form of a date, behind its `W`; `consumed` characters stand
before it and the date runs up to the index `dateEnd`. -/
def parseWeekDate (usesSeparator : Bool) (year consumed dateEnd : Nat) (rest : PyStr) :
    Option (Nat × Nat × Nat) :=
  match parseDigits 2 rest with
  | none => none
  | some (week, rest) =>
    if consumed + 2 < dateEnd then
      if usesSeparator && peek rest != 0x2D then none
      else
        match parseDigits 1 (if usesSeparator then rest.tail else rest) with
        | none => none
        | some (day, _) => isoToYmd year week day
    else isoToYmd year week 1

def parseMonthDay (usesSeparator : Bool) (year consumed dateEnd : Nat) (rest : PyStr) :
    Option (Nat × Nat × Nat) :=
  match parseDigits 2 rest with
  | none => none
  | some (month, rest) =>
    if usesSeparator && peek rest != 0x2D then none
    else
      match parseDigits 2 (if usesSeparator then rest.tail else rest) with
      | none => none
      | some (day, _) =>
        if consumed + 2 + (if usesSeparator then 1 else 0) + 2 = dateEnd then
          some (year, month, day)
        else none

/-- `parse_isoformat_date`. -/
def parseDate (text : PyStr) (dateEnd : Nat) : Option (Nat × Nat × Nat) :=
  match parseDigits 4 text with
  | none => none
  | some (year, rest) =>
    let usesSeparator := peek rest == 0x2D
    let rest := if usesSeparator then rest.tail else rest
    let consumed := if usesSeparator then 5 else 4
    if peek rest == 0x57 then
      parseWeekDate usesSeparator year (consumed + 1) dateEnd rest.tail
    else parseMonthDay usesSeparator year consumed dateEnd rest

/-- `_find_isoformat_datetime_separator`: the index at which the date ends. -/
def findSeparator (text : PyStr) : Option Nat :=
  if text.length = 7 then some 7
  else if peek (text.drop 4) == 0x2D then
    if peek (text.drop 5) == 0x57 then
      if text.length < 8 then none
      else if 8 < text.length && peek (text.drop 8) == 0x2D then
        if text.length = 9 then none
        else if 10 < text.length && (peek (text.drop 10)).isAsciiDigit then some 8
        else some 10
      else some 8
    else some 10
  else if peek (text.drop 4) == 0x57 then
    let digitsEnd := 7 + ((text.drop 7).takeWhile CodePoint.isAsciiDigit).length
    if digitsEnd < 9 then some digitsEnd
    else if digitsEnd % 2 = 0 then some 7
    else some 8
  else some 8

/-! ### The time of day -/

/-- What `parse_hh_mm_ss_ff` reads: hour, minute and second as far as they are
written, the microseconds, and whether it stopped before the end. -/
structure Clock where
  fields : List Nat
  microsecond : Nat
  trailing : Bool
  deriving DecidableEq

/-- The fraction of a second, `remaining` characters before the end. -/
def parseFraction (fields : List Nat) (rest : PyStr) (remaining : Nat) : Option Clock :=
  match parseDigits (min remaining 6) rest with
  | none => none
  | some (value, rest) =>
    some ⟨fields, value * 10 ^ (6 - min remaining 6),
      peek (rest.dropWhile CodePoint.isAsciiDigit) != 0⟩

/-- `parse_hh_mm_ss_ff` with `left` rounds of its loop to go.  Whether a colon
separates the fields is decided in the first round. -/
def parseClock : Nat → Option Bool → List Nat → PyStr → Nat → Option Clock
  | 0, _, fields, rest, remaining => parseFraction fields rest remaining
  | left + 1, separated, fields, rest, remaining =>
    match parseDigits 2 rest with
    | none => none
    | some (value, rest) =>
      let c := peek rest
      let hasSeparator := separated.getD (c == 0x3A)
      let fields := fields ++ [value]
      if remaining ≤ 3 then some ⟨fields, 0, c != 0⟩
      else if hasSeparator && c == 0x3A then
        parseClock left (some hasSeparator) fields rest.tail (remaining - 3)
      else if c == 0x2E || c == 0x2C then
        parseFraction fields rest.tail (remaining - 3)
      else if !hasSeparator then
        parseClock left (some hasSeparator) fields rest (remaining - 2)
      else none

def isZoneMark (c : CodePoint) : Bool :=
  c == 0x2B || c == 0x2D || c == 0x5A

/-- The offset of a zone in microseconds; a zone of zero seconds is UTC. -/
def zoneOffset (negative : Bool) (zone : Clock) : Int :=
  let seconds := zone.fields.getD 0 0 * 3600 + zone.fields.getD 1 0 * 60 +
    zone.fields.getD 2 0
  let size : Int := seconds * 1000000 + zone.microsecond
  if seconds = 0 then 0 else if negative then -size else size

/-- `parse_isoformat_time`: the time of day and the zone, if there is one. -/
def parseTime (text : PyStr) : Option (Clock × Option Int) :=
  let zoneStart := text.findIdx isZoneMark
  match parseClock 3 none [] text zoneStart with
  | none => none
  | some clock =>
    if zoneStart = text.length then
      if clock.trailing then none else some (clock, none)
    else if peek (text.drop zoneStart) == 0x5A then
      if peek (text.drop (zoneStart + 1)) != 0 then none else some (clock, some 0)
    else
      match parseClock 3 none [] (text.drop (zoneStart + 1))
          (text.length - (zoneStart + 1)) with
      | none => none
      | some zone =>
        if zone.trailing then none
        else some (clock, some (zoneOffset (peek (text.drop zoneStart) == 0x2D) zone))

/-! ### The whole text -/

/-- `_sanitize_isoformat_str`: a surrogate may stand in the place of the
separator only. -/
def sanitize (text : PyStr) : PyStr :=
  if (peek (text.drop 7)).isSurrogate then text.set 7 0x54
  else if (peek (text.drop 8)).isSurrogate then text.set 8 0x54
  else if (peek (text.drop 10)).isSurrogate then text.set 10 0x54
  else text

def utf8Char (c : CodePoint) : PyStr :=
  (utf8Point c).map (Fin.ofNat _)

def separatorLength (c : CodePoint) : Nat :=
  if c.val < 0x80 then 1 else if c.val < 0xE0 then 2 else if c.val < 0xF0 then 3 else 4

def parseRest : PyStr → Option (Clock × Option Int)
  | [] => some (⟨[], 0, false⟩, none)
  | separator :: rest => parseTime (rest.drop (separatorLength separator - 1))

def buildMoment (date : Nat × Nat × Nat) (clock : Clock) (zone : Option Int) :
    Option Moment :=
  let time := DateTime.ofFields date.1 date.2.1 date.2.2 (clock.fields.getD 0 0)
    (clock.fields.getD 1 0) (clock.fields.getD 2 0) clock.microsecond
  match zone with
  | none => time.map Moment.naive
  | some offset =>
    if -86400000000 < offset && offset < 86400000000 then
      time.map fun time => Moment.aware time offset
    else none

end IsoFormat

open IsoFormat in
/-- `datetime.fromisoformat(text)`. -/
def fromIsoFormat (text : PyStr) : Option Moment :=
  if text.length < 7 then none
  else
    let clean := sanitize text
    if clean.any CodePoint.isSurrogate then none
    else
      let bytes := clean.flatMap utf8Char
      match findSeparator bytes with
      | none => none
      | some dateEnd =>
        match parseDate bytes dateEnd, parseRest (bytes.drop dateEnd) with
        | some date, some (clock, zone) => buildMoment date clock zone
        | _, _ => none

end PyLib
