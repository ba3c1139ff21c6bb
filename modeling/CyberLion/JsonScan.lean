import CyberLion.JsonValue
import CyberLion.PyDict

/-!
# The JSON scanner

`json.loads` as the standard library's scanner computes it: strings in strict
mode with surrogate escapes joined in pairs, numbers, the three constants of
the grammar and the three further constants that go to `parse_constant`, and
containers whose objects go to `object_pairs_hook`.  The recursion is bounded
by fuel; `loads` gives more than the text can use.
-/

namespace PyLib

namespace Json

/-- The two callbacks of `json.loads`. -/
structure Hooks where
  object : List (PyStr × Json) → Except PyError (List (PyStr × Json))
  constant : PyStr → Except PyError Json

/-- `json.loads(text)` without callbacks. -/
def plainHooks : Hooks where
  object := fun pairs => .ok (dictOfPairs pairs)
  constant := fun name => .ok (.float name)

/-- Any `JSONDecodeError`.  Every caller replaces its message, so the position
in it is not kept. -/
def decodeError : PyError :=
  ⟨.jsonDecodeError, py "JSONDecodeError"⟩

/-! ### White space and strings -/

def isJsonSpace (c : CodePoint) : Bool :=
  c.val == 0x20 || c.val == 0x09 || c.val == 0x0A || c.val == 0x0D

def skipSpace (text : PyStr) : PyStr :=
  text.dropWhile isJsonSpace

def hexValue (c : CodePoint) : Option Nat :=
  if 0x30 ≤ c.val ∧ c.val ≤ 0x39 then some (c.val - 0x30)
  else if 0x61 ≤ c.val ∧ c.val ≤ 0x66 then some (c.val - 0x57)
  else if 0x41 ≤ c.val ∧ c.val ≤ 0x46 then some (c.val - 0x37)
  else none

/-- The unit of the four digits of `\uXXXX`. -/
def hexUnit (first second third fourth : CodePoint) : Option CodePoint := do
  let a ← hexValue first
  let b ← hexValue second
  let c ← hexValue third
  let d ← hexValue fourth
  return Fin.ofNat _ (4096 * a + 256 * b + 16 * c + d)

def shortUnescape (c : CodePoint) : Option CodePoint :=
  if c.val = 0x22 ∨ c.val = 0x5C ∨ c.val = 0x2F then some c
  else if c.val = 0x62 then some (codePoint '\x08')
  else if c.val = 0x66 then some (codePoint '\x0c')
  else if c.val = 0x6E then some (codePoint '\n')
  else if c.val = 0x72 then some (codePoint '\r')
  else if c.val = 0x74 then some (codePoint '\t')
  else none

/-- The characters of a string up to its closing quote, each with the mark
whether `\uXXXX` wrote it, and the text after the quote. -/
def scanUnits : PyStr → Except PyError (List (Bool × CodePoint) × PyStr)
  | [] => .error decodeError
  | c :: rest =>
    if c.val = 0x22 then .ok ([], rest)
    else if c.val = 0x5C then
      match rest with
      | [] => .error decodeError
      | e :: rest =>
        if e.val = 0x75 then
          match rest with
          | d₁ :: d₂ :: d₃ :: d₄ :: rest =>
            match hexUnit d₁ d₂ d₃ d₄ with
            | some unit => do
              let (units, after) ← scanUnits rest
              return ((true, unit) :: units, after)
            | none => .error decodeError
          | _ => .error decodeError
        else
          match shortUnescape e with
          | some unit => do
            let (units, after) ← scanUnits rest
            return ((false, unit) :: units, after)
          | none => .error decodeError
    else if c.val < 0x20 then .error decodeError
    else do
      let (units, after) ← scanUnits rest
      return ((false, c) :: units, after)

def joinPair (high low : CodePoint) : CodePoint :=
  Fin.ofNat _ (0x10000 + (high.val - 0xD800) * 0x400 + (low.val - 0xDC00))

/-- Join each escaped high surrogate with an escaped low one behind it. -/
def joinUnits : List (Bool × CodePoint) → PyStr
  | [] => []
  | [(_, c)] => [c]
  | (firstEscaped, first) :: (secondEscaped, second) :: rest =>
    if firstEscaped && secondEscaped && first.isHighSurrogate &&
        second.isLowSurrogate then
      joinPair first second :: joinUnits rest
    else
      first :: joinUnits ((secondEscaped, second) :: rest)

def scanText (text : PyStr) : Except PyError (PyStr × PyStr) := do
  let (units, after) ← scanUnits text
  return (joinUnits units, after)

/-! ### Numbers -/

def scanInteger : PyStr → Option (PyStr × PyStr)
  | [] => none
  | c :: rest =>
    if c.val = 0x30 then some ([c], rest)
    else if c.isAsciiDigit then
      some (c :: rest.takeWhile CodePoint.isAsciiDigit,
        rest.dropWhile CodePoint.isAsciiDigit)
    else none

def scanFraction : PyStr → Option (PyStr × PyStr)
  | point :: digit :: rest =>
    if point.val = 0x2E && digit.isAsciiDigit then
      some (point :: digit :: rest.takeWhile CodePoint.isAsciiDigit,
        rest.dropWhile CodePoint.isAsciiDigit)
    else none
  | _ => none

def scanExponentDigits (start : PyStr) : PyStr → Option (PyStr × PyStr)
  | digit :: rest =>
    if digit.isAsciiDigit then
      some (start ++ digit :: rest.takeWhile CodePoint.isAsciiDigit,
        rest.dropWhile CodePoint.isAsciiDigit)
    else none
  | [] => none

/-- An exponent, when its letter, an optional sign and a digit come next. -/
def scanExponent : PyStr → Option (PyStr × PyStr)
  | letter :: rest =>
    if letter.val = 0x65 || letter.val = 0x45 then
      match rest with
      | sign :: digits =>
        if sign.val = 0x2B || sign.val = 0x2D then
          scanExponentDigits [letter, sign] digits
        else scanExponentDigits [letter] (sign :: digits)
      | [] => none
    else none
  | [] => none

/-- `int(literal)`, which refuses a literal that is too long. -/
def intOfDigits (negative : Bool) (digits : PyStr) : Except PyError Json :=
  if digits.length ≤ maxStrDigits then
    .ok (.int (if negative then -(natOfText digits : Int) else natOfText digits))
  else
    .error intLimitError

def scanUnsigned (negative : Bool) (text : PyStr) : Except PyError (Json × PyStr) :=
  match scanInteger text with
  | none => .error decodeError
  | some (digits, rest) =>
    let fraction := (scanFraction rest).getD ([], rest)
    let exponent := (scanExponent fraction.2).getD ([], fraction.2)
    if fraction.1.isEmpty && exponent.1.isEmpty then do
      let value ← intOfDigits negative digits
      return (value, rest)
    else
      let sign := if negative then py "-" else []
      .ok (.float (sign ++ digits ++ fraction.1 ++ exponent.1), exponent.2)

def constantOf (hooks : Hooks) (name : PyStr) (rest : PyStr) :
    Except PyError (Json × PyStr) := do
  let value ← hooks.constant name
  return (value, rest)

/-- The text after `word`, when the text starts with it. -/
def stripWord (word text : PyStr) : Option PyStr :=
  if word.isPrefixOf text then some (text.drop word.length) else none

def scanAtom (hooks : Hooks) (text : PyStr) : Except PyError (Json × PyStr) :=
  match stripWord (py "null") text with
  | some rest => .ok (.null, rest)
  | none =>
  match stripWord (py "true") text with
  | some rest => .ok (.bool true, rest)
  | none =>
  match stripWord (py "false") text with
  | some rest => .ok (.bool false, rest)
  | none =>
  match stripWord (py "NaN") text with
  | some rest => constantOf hooks (py "NaN") rest
  | none =>
  match stripWord (py "Infinity") text with
  | some rest => constantOf hooks (py "Infinity") rest
  | none =>
  match stripWord (py "-Infinity") text with
  | some rest => constantOf hooks (py "-Infinity") rest
  | none =>
  match stripWord (py "-") text with
  | some rest => scanUnsigned true rest
  | none => scanUnsigned false text

/-! ### Containers -/

mutual

def scanValue (hooks : Hooks) : Nat → PyStr → Except PyError (Json × PyStr)
  | 0, _ => .error decodeError
  | _ + 1, [] => .error decodeError
  | fuel + 1, c :: rest =>
    if c.val = 0x22 then do
      let (text, after) ← scanText rest
      return (.str text, after)
    else if c.val = 0x5B then
      match skipSpace rest with
      | [] => .error decodeError
      | d :: after =>
        if d.val = 0x5D then .ok (.arr [], after)
        else do
          let (item, after) ← scanValue hooks fuel (d :: after)
          let (items, after) ← scanItems hooks fuel (skipSpace after)
          return (.arr (item :: items), after)
    else if c.val = 0x7B then
      match skipSpace rest with
      | [] => .error decodeError
      | d :: after =>
        if d.val = 0x7D then do
          let fields ← hooks.object []
          return (.obj fields, after)
        else do
          let (field, after) ← scanField hooks fuel (d :: after)
          let (fields, after) ← scanFields hooks fuel (skipSpace after)
          let fields ← hooks.object (field :: fields)
          return (.obj fields, after)
    else scanAtom hooks (c :: rest)

def scanItems (hooks : Hooks) : Nat → PyStr → Except PyError (List Json × PyStr)
  | 0, _ => .error decodeError
  | _ + 1, [] => .error decodeError
  | fuel + 1, c :: rest =>
    if c.val = 0x5D then .ok ([], rest)
    else if c.val = 0x2C then do
      let (item, after) ← scanValue hooks fuel (skipSpace rest)
      let (items, after) ← scanItems hooks fuel (skipSpace after)
      return (item :: items, after)
    else .error decodeError

def scanField (hooks : Hooks) : Nat → PyStr → Except PyError ((PyStr × Json) × PyStr)
  | 0, _ => .error decodeError
  | _ + 1, [] => .error decodeError
  | fuel + 1, c :: rest =>
    if c.val = 0x22 then do
      let (key, after) ← scanText rest
      match skipSpace after with
      | [] => .error decodeError
      | d :: after =>
        if d.val = 0x3A then do
          let (value, after) ← scanValue hooks fuel (skipSpace after)
          return ((key, value), after)
        else .error decodeError
    else .error decodeError

def scanFields (hooks : Hooks) :
    Nat → PyStr → Except PyError (List (PyStr × Json) × PyStr)
  | 0, _ => .error decodeError
  | _ + 1, [] => .error decodeError
  | fuel + 1, c :: rest =>
    if c.val = 0x7D then .ok ([], rest)
    else if c.val = 0x2C then do
      let (field, after) ← scanField hooks fuel (skipSpace rest)
      let (fields, after) ← scanFields hooks fuel (skipSpace after)
      return (field :: fields, after)
    else .error decodeError

end

/-- `json.loads(text)`. -/
def loads (hooks : Hooks) (text : PyStr) : Except PyError Json := do
  raiseIf (text.head? = some 0xFEFF) decodeError
  let (value, after) ← scanValue hooks (2 * text.length + 2) (skipSpace text)
  raiseIf (skipSpace after ≠ []) decodeError
  return value

/-! ### Steps of the scanner -/

variable {hooks : Hooks} {fuel : Nat} {text rest : PyStr}

theorem eq_append_of_stripWord {word : PyStr} (found : stripWord word text = some rest) :
    text = word ++ rest := by
  unfold stripWord at found
  split at found
  · rename_i starts
    obtain ⟨behind, rfl⟩ := List.isPrefixOf_iff_prefix.mp starts
    rw [List.drop_left, Option.some.injEq] at found
    rw [found]
  · simp at found

/-- How a text that is no container is read. -/
inductive AtomStep (hooks : Hooks) : PyStr → Json → PyStr → Prop
  | word {word rest : PyStr} {value : Json}
      (known : (word, value) ∈
        [(py "null", .null), (py "true", .bool true), (py "false", Json.bool false)]) :
      AtomStep hooks (word ++ rest) value rest
  | constant {name rest : PyStr} {value : Json}
      (known : name ∈ [py "NaN", py "Infinity", py "-Infinity"])
      (returned : hooks.constant name = .ok value) : AtomStep hooks (name ++ rest) value rest
  | negative {text rest : PyStr} {value : Json}
      (scanned : scanUnsigned true text = .ok (value, rest)) :
      AtomStep hooks (py "-" ++ text) value rest
  | positive {text rest : PyStr} {value : Json}
      (scanned : scanUnsigned false text = .ok (value, rest)) : AtomStep hooks text value rest

theorem atomStep_of_constantOf {name after : PyStr} {value : Json}
    (known : name ∈ [py "NaN", py "Infinity", py "-Infinity"])
    (found : stripWord name text = some after)
    (scanned : constantOf hooks name after = .ok (value, rest)) :
    AtomStep hooks text value rest := by
  simp only [constantOf, bind_eq_ok, pure_eq_ok, Prod.mk.injEq] at scanned
  obtain ⟨_, returned, rfl, rfl⟩ := scanned
  rw [eq_append_of_stripWord found]
  exact .constant known returned

theorem atomStep {value : Json} (scanned : scanAtom hooks text = .ok (value, rest)) :
    AtomStep hooks text value rest := by
  unfold scanAtom at scanned
  split at scanned
  · rename_i found
    cases scanned
    rw [eq_append_of_stripWord found]
    exact .word (by simp)
  split at scanned
  · rename_i found
    cases scanned
    rw [eq_append_of_stripWord found]
    exact .word (by simp)
  split at scanned
  · rename_i found
    cases scanned
    rw [eq_append_of_stripWord found]
    exact .word (by simp)
  split at scanned
  · rename_i found
    exact atomStep_of_constantOf (by simp) found scanned
  split at scanned
  · rename_i found
    exact atomStep_of_constantOf (by simp) found scanned
  split at scanned
  · rename_i found
    exact atomStep_of_constantOf (by simp) found scanned
  split at scanned
  · rename_i found
    rw [eq_append_of_stripWord found]
    exact .negative scanned
  · exact .positive scanned

/-- How a value is read with more fuel. -/
inductive ValueStep (hooks : Hooks) (fuel : Nat) : PyStr → Json → PyStr → Prop
  | str {text content rest : PyStr} (read : scanText text = .ok (content, rest)) :
      ValueStep hooks fuel (0x22 :: text) (.str content) rest
  | emptyArr {text rest : PyStr} (closed : skipSpace text = 0x5D :: rest) :
      ValueStep hooks fuel (0x5B :: text) (.arr []) rest
  | arr {text behind rest : PyStr} {item : Json} {items : List Json}
      (first : scanValue hooks fuel (skipSpace text) = .ok (item, behind))
      (others : scanItems hooks fuel (skipSpace behind) = .ok (items, rest)) :
      ValueStep hooks fuel (0x5B :: text) (.arr (item :: items)) rest
  | emptyObj {text rest : PyStr} {built : List (PyStr × Json)}
      (closed : skipSpace text = 0x7D :: rest) (isBuilt : hooks.object [] = .ok built) :
      ValueStep hooks fuel (0x7B :: text) (.obj built) rest
  | obj {text behind rest : PyStr} {field : PyStr × Json} {fields built : List (PyStr × Json)}
      (first : scanField hooks fuel (skipSpace text) = .ok (field, behind))
      (others : scanFields hooks fuel (skipSpace behind) = .ok (fields, rest))
      (isBuilt : hooks.object (field :: fields) = .ok built) :
      ValueStep hooks fuel (0x7B :: text) (.obj built) rest
  | atom {text rest : PyStr} {value : Json} (step : AtomStep hooks text value rest) :
      ValueStep hooks fuel text value rest

theorem valueStep {value : Json}
    (scanned : scanValue hooks (fuel + 1) text = .ok (value, rest)) :
    ValueStep hooks fuel text value rest := by
  cases text with
  | nil => simp [scanValue] at scanned
  | cons c text =>
    rw [scanValue.eq_def] at scanned
    dsimp only at scanned
    split at scanned
    · rename_i quote
      simp only [bind_eq_ok, pure_eq_ok, Prod.mk.injEq] at scanned
      obtain ⟨⟨_, _⟩, read, rfl, rfl⟩ := scanned
      rw [show c = 0x22 from Fin.ext quote]
      exact .str read
    split at scanned
    · rename_i bracket
      rw [show c = 0x5B from Fin.ext bracket]
      split at scanned
      · simp at scanned
      rename_i d behind opened
      split at scanned
      · rename_i closed
        cases scanned
        exact .emptyArr (by rw [opened, show d = 0x5D from Fin.ext closed])
      · simp only [bind_eq_ok, pure_eq_ok, Prod.mk.injEq, ← opened] at scanned
        obtain ⟨⟨_, _⟩, first, ⟨_, _⟩, others, rfl, rfl⟩ := scanned
        exact .arr first others
    split at scanned
    · rename_i brace
      rw [show c = 0x7B from Fin.ext brace]
      split at scanned
      · simp at scanned
      rename_i d behind opened
      split at scanned
      · rename_i closed
        simp only [bind_eq_ok, pure_eq_ok, Prod.mk.injEq] at scanned
        obtain ⟨_, isBuilt, rfl, rfl⟩ := scanned
        exact .emptyObj (by rw [opened, show d = 0x7D from Fin.ext closed]) isBuilt
      · simp only [bind_eq_ok, pure_eq_ok, Prod.mk.injEq, ← opened] at scanned
        obtain ⟨⟨_, _⟩, first, ⟨_, _⟩, others, _, isBuilt, rfl, rfl⟩ := scanned
        exact .obj first others isBuilt
    · exact .atom (atomStep scanned)

theorem scanItems_succ {items : List Json}
    (scanned : scanItems hooks (fuel + 1) text = .ok (items, rest)) :
    (text = 0x5D :: rest ∧ items = []) ∨ ∃ behind item after others, text = 0x2C :: behind ∧
      scanValue hooks fuel (skipSpace behind) = .ok (item, after) ∧
      scanItems hooks fuel (skipSpace after) = .ok (others, rest) ∧ items = item :: others := by
  cases text with
  | nil => simp [scanItems] at scanned
  | cons c text =>
    rw [scanItems.eq_def] at scanned
    dsimp only at scanned
    split at scanned
    · rename_i closed
      cases scanned
      exact .inl ⟨by rw [show c = 0x5D from Fin.ext closed], rfl⟩
    split at scanned
    · rename_i comma
      simp only [bind_eq_ok, pure_eq_ok, Prod.mk.injEq] at scanned
      obtain ⟨⟨item, after⟩, first, ⟨items, _⟩, others, rfl, rfl⟩ := scanned
      exact .inr ⟨text, item, after, items, by rw [show c = 0x2C from Fin.ext comma], first, others,
        rfl⟩
    · simp at scanned

theorem scanField_succ {field : PyStr × Json}
    (scanned : scanField hooks (fuel + 1) text = .ok (field, rest)) :
    ∃ behind after value, text = 0x22 :: behind ∧
      ∃ colon, scanText behind = .ok (field.1, colon) ∧ skipSpace colon = 0x3A :: after ∧
      scanValue hooks fuel (skipSpace after) = .ok (value, rest) ∧ field.2 = value := by
  cases text with
  | nil => simp [scanField] at scanned
  | cons c text =>
    rw [scanField.eq_def] at scanned
    dsimp only at scanned
    split at scanned
    · rename_i quote
      obtain ⟨⟨key, colon⟩, keyRead, valueRead⟩ := bind_eq_ok.mp scanned
      clear scanned
      dsimp only at valueRead
      split at valueRead
      · simp at valueRead
      rename_i d after opened
      split at valueRead
      · rename_i isColon
        simp only [bind_eq_ok, pure_eq_ok, Prod.mk.injEq] at valueRead
        obtain ⟨⟨value, _⟩, valueRead, rfl, rfl⟩ := valueRead
        exact ⟨text, after, value, by rw [show c = 0x22 from Fin.ext quote], colon, keyRead,
          by rw [opened, show d = 0x3A from Fin.ext isColon], valueRead, rfl⟩
      · simp at valueRead
    · simp at scanned

theorem scanFields_succ {fields : List (PyStr × Json)}
    (scanned : scanFields hooks (fuel + 1) text = .ok (fields, rest)) :
    (text = 0x7D :: rest ∧ fields = []) ∨ ∃ behind field after others, text = 0x2C :: behind ∧
      scanField hooks fuel (skipSpace behind) = .ok (field, after) ∧
      scanFields hooks fuel (skipSpace after) = .ok (others, rest) ∧ fields = field :: others := by
  cases text with
  | nil => simp [scanFields] at scanned
  | cons c text =>
    rw [scanFields.eq_def] at scanned
    dsimp only at scanned
    split at scanned
    · rename_i closed
      cases scanned
      exact .inl ⟨by rw [show c = 0x7D from Fin.ext closed], rfl⟩
    split at scanned
    · rename_i comma
      simp only [bind_eq_ok, pure_eq_ok, Prod.mk.injEq] at scanned
      obtain ⟨⟨field, after⟩, first, ⟨fields, _⟩, others, rfl, rfl⟩ := scanned
      exact .inr ⟨text, field, after, fields, by rw [show c = 0x2C from Fin.ext comma], first,
        others, rfl⟩
    · simp at scanned

end Json

end PyLib
