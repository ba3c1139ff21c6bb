import CyberLion.JsonValue

/-!
# Truth values and conversions

What Python code takes of a decoded JSON value without looking at its type:
its truth value, `or`, `str(value)`, and `value.get(key)` on an object.  A
float is the text that `repr` gives it.
-/

namespace PyLib

/-! ### Upper case -/

/-- The code points beyond ASCII whose upper case has an ASCII letter. -/
def specialUpper : List (Nat × List Nat) := [
  (0xDF, [0x53, 0x53]), (0x131, [0x49]), (0x149, [0x2BC, 0x4E]), (0x17F, [0x53]),
  (0x1F0, [0x4A, 0x30C]), (0x1E96, [0x48, 0x331]), (0x1E97, [0x54, 0x308]),
  (0x1E98, [0x57, 0x30A]), (0x1E99, [0x59, 0x30A]), (0x1E9A, [0x41, 0x2BE]),
  (0xFB00, [0x46, 0x46]), (0xFB01, [0x46, 0x49]), (0xFB02, [0x46, 0x4C]),
  (0xFB03, [0x46, 0x46, 0x49]), (0xFB04, [0x46, 0x46, 0x4C]), (0xFB05, [0x53, 0x54]),
  (0xFB06, [0x53, 0x54])]

/-- The upper case of one code point, for comparison with ASCII text: a code
point whose upper case has no ASCII letter stays. -/
def upperPoint (c : CodePoint) : PyStr :=
  if c.isAsciiLower then [Fin.ofNat 0x110000 (c.val - 0x20)]
  else
    match specialUpper.lookup c.val with
    | some points => points.map (Fin.ofNat 0x110000)
    | none => [c]

/-- `text.upper()`. -/
def pyUpper (text : PyStr) : PyStr :=
  text.flatMap upperPoint

/-- `needle in text`. -/
def pyContains (needle text : PyStr) : Bool :=
  text.tails.any fun rest => needle.isPrefixOf rest

namespace Json

/-- `bool(value)`. -/
def isTrue : Json → Bool
  | .null => false
  | .bool value => value
  | .int value => value ≠ 0
  | .float literal => literal ≠ py "0.0" && literal ≠ py "-0.0"
  | .str value => value ≠ []
  | .arr items => !items.isEmpty
  | .obj fields => !fields.isEmpty

/-- `first or second`. -/
def pyOr (first second : Json) : Json :=
  if first.isTrue then first else second

/-- `mapping.get(key)`. -/
def get (key : PyStr) (fields : List (PyStr × Json)) : Json :=
  (lookup key fields).getD .null

/-- `value`, if it is a `str`. -/
def asText : Json → Option PyStr
  | .str value => some value
  | _ => none

/-- `str(value)`.  For a container, which no text is compared with, its JSON
text stands for its `repr`. -/
def pyStr : Json → PyStr
  | .null => py "None"
  | .bool true => py "True"
  | .bool false => py "False"
  | .int value => intText value
  | .float literal => literal
  | .str value => value
  | container => render true container

end Json

end PyLib
