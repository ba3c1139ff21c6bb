import CyberLion.PyError

/-!
# JSON values and their text

The values that `json.loads` returns and the text that `json.dumps` writes
with the separators `","` and `":"`.  An object keeps its fields in insertion
order, as a Python `dict` does; `sortKeys` is the order that `sort_keys=True`
imposes at every level.
-/

namespace PyLib

/-- A decoded JSON value.  A number written with a fraction or an exponent is
kept as its literal, since no verified program computes with it. -/
inductive Json
  | null
  | bool (value : Bool)
  | int (value : Int)
  | float (literal : PyStr)
  | str (value : PyStr)
  | arr (items : List Json)
  | obj (fields : List (PyStr × Json))

namespace Json

@[elab_as_elim, induction_eliminator]
theorem induct {motive : Json → Prop}
    (null : motive .null) (bool : ∀ value, motive (.bool value))
    (int : ∀ value, motive (.int value))
    (float : ∀ literal, motive (.float literal))
    (str : ∀ value, motive (.str value))
    (arr : ∀ items, (∀ item ∈ items, motive item) → motive (.arr items))
    (obj : ∀ fields, (∀ field ∈ fields, motive field.2) → motive (.obj fields)) :
    ∀ value, motive value := by
  intro value
  refine Json.rec (motive_1 := motive)
    (motive_2 := fun items => ∀ item ∈ items, motive item)
    (motive_3 := fun fields => ∀ field ∈ fields, motive field.2)
    (motive_4 := fun field => motive field.2)
    null bool int float str (fun items ih => arr items ih)
    (fun fields ih => obj fields ih) ?_ ?_ ?_ ?_ ?_ value
  · simp
  · intro item items itemHolds itemsHold other member
    rcases List.mem_cons.mp member with rfl | member
    · exact itemHolds
    · exact itemsHold other member
  · simp
  · intro field fields fieldHolds fieldsHold other member
    rcases List.mem_cons.mp member with rfl | member
    · exact fieldHolds
    · exact fieldsHold other member
  · exact fun _ _ valueHolds => valueHolds

/-- `value[key]` on an object. -/
def lookup (key : PyStr) (fields : List (PyStr × Json)) : Option Json :=
  List.lookup key fields

/-! ### Key order -/

def keyLe (first second : PyStr × Json) : Prop :=
  first.1 ≤ second.1

instance : DecidableRel keyLe :=
  fun first second => inferInstanceAs (Decidable (first.1 ≤ second.1))

instance : Std.Total keyLe :=
  ⟨fun first second => le_total first.1 second.1⟩

instance : IsTrans (PyStr × Json) keyLe :=
  ⟨fun _ _ _ firstLe secondLe => le_trans firstLe secondLe⟩

/-- `sorted(mapping.items())` for a mapping with distinct keys. -/
def sortFields (fields : List (PyStr × Json)) : List (PyStr × Json) :=
  fields.insertionSort keyLe

mutual

def sortKeys : Json → Json
  | .arr items => .arr (sortItems items)
  | .obj fields => .obj (sortFields (sortMembers fields))
  | .null => .null
  | .bool value => .bool value
  | .int value => .int value
  | .float literal => .float literal
  | .str value => .str value

def sortItems : List Json → List Json
  | [] => []
  | item :: items => sortKeys item :: sortItems items

def sortMembers : List (PyStr × Json) → List (PyStr × Json)
  | [] => []
  | (key, value) :: fields => (key, sortKeys value) :: sortMembers fields

end

theorem sortItems_eq_map (items : List Json) :
    sortItems items = items.map sortKeys := by
  induction items with
  | nil => rfl
  | cons item items ih => simp [sortItems, ih]

theorem sortMembers_eq_map (fields : List (PyStr × Json)) :
    sortMembers fields = fields.map fun field => (field.1, sortKeys field.2) := by
  induction fields with
  | nil => rfl
  | cons field fields ih => simp [sortMembers, ih]

theorem sortFields_eq_of_perm {first second : List (PyStr × Json)}
    (arrangement : first.Perm second) (distinct : (first.map Prod.fst).Nodup) :
    sortFields first = sortFields second := by
  have firstPerm := List.perm_insertionSort keyLe first
  have secondPerm := List.perm_insertionSort keyLe second
  have distinctKeys : ∀ a b, a ∈ sortFields first → b ∈ sortFields second →
      keyLe a b → keyLe b a → a = b := by
    intro a b aMem bMem aLe bLe
    have keyEq : a.1 = b.1 := le_antisymm aLe bLe
    have aMem' : a ∈ first := firstPerm.mem_iff.mp aMem
    have bMem' : b ∈ first :=
      arrangement.symm.mem_iff.mp (secondPerm.mem_iff.mp bMem)
    exact List.inj_on_of_nodup_map distinct aMem' bMem' keyEq
  exact List.Perm.eq_of_pairwise distinctKeys
    (List.pairwise_insertionSort keyLe first)
    (List.pairwise_insertionSort keyLe second)
    (firstPerm.trans (arrangement.trans secondPerm.symm))

/-! ### Rendering -/

/-- A hexadecimal digit of `\uXXXX`, in lower case. -/
def hexPoint (digit : Nat) : CodePoint :=
  Fin.ofNat _ (if digit < 10 then 0x30 + digit else 0x57 + digit)

/-- `\uXXXX` for a sixteen bit unit. -/
def unicodeEscape (unit : Nat) : PyStr :=
  py "\\u" ++ [hexPoint (unit / 4096 % 16), hexPoint (unit / 256 % 16),
    hexPoint (unit / 16 % 16), hexPoint (unit % 16)]

def shortEscape (c : CodePoint) : Option PyStr :=
  if c.val = 0x22 then some (py "\\\"")
  else if c.val = 0x5C then some (py "\\\\")
  else if c.val = 0x0A then some (py "\\n")
  else if c.val = 0x0D then some (py "\\r")
  else if c.val = 0x09 then some (py "\\t")
  else if c.val = 0x0C then some (py "\\f")
  else if c.val = 0x08 then some (py "\\b")
  else none

/-- One character of a JSON string.  With `ensure_ascii` every character
outside the printable ASCII range is escaped, a character beyond the basic
plane as a surrogate pair. -/
def escapeChar (ensureAscii : Bool) (c : CodePoint) : PyStr :=
  match shortEscape c with
  | some escape => escape
  | none =>
    if c.val < 0x20 then unicodeEscape c.val
    else if ensureAscii && 0x7F ≤ c.val then
      if c.val < 0x10000 then unicodeEscape c.val
      else
        unicodeEscape (0xD800 + (c.val - 0x10000) / 0x400) ++
          unicodeEscape (0xDC00 + (c.val - 0x10000) % 0x400)
    else [c]

def escapeText (ensureAscii : Bool) (text : PyStr) : PyStr :=
  text.flatMap (escapeChar ensureAscii)

def renderText (ensureAscii : Bool) (text : PyStr) : PyStr :=
  py "\"" ++ escapeText ensureAscii text ++ py "\""

mutual

/-- The compact text of a value, its objects in the order they have. -/
def render (ensureAscii : Bool) : Json → PyStr
  | .null => py "null"
  | .bool true => py "true"
  | .bool false => py "false"
  | .int value => intText value
  | .float literal => literal
  | .str value => renderText ensureAscii value
  | .arr [] => py "[]"
  | .arr (item :: items) =>
    py "[" ++ render ensureAscii item ++ renderItems ensureAscii items ++ py "]"
  | .obj [] => py "\x7b\x7d"
  | .obj ((key, value) :: fields) =>
    py "\x7b" ++ renderText ensureAscii key ++ py ":" ++ render ensureAscii value ++
      renderFields ensureAscii fields ++ py "\x7d"

def renderItems (ensureAscii : Bool) : List Json → PyStr
  | [] => []
  | item :: items => py "," ++ render ensureAscii item ++ renderItems ensureAscii items

/-- The fields of an object after the first, each with its comma. -/
def renderFields (ensureAscii : Bool) : List (PyStr × Json) → PyStr
  | [] => []
  | (key, value) :: fields =>
    py "," ++ renderText ensureAscii key ++ py ":" ++ render ensureAscii value ++
      renderFields ensureAscii fields

end

/-! ### Integers that can be converted -/

def maxStrDigits : Nat := 4300

def isPrintableInt (value : Int) : Bool :=
  (natText value.natAbs).length ≤ maxStrDigits

def intLimitError : PyError :=
  ⟨.valueError, py "Exceeds the limit (4300 digits) for integer string conversion"⟩

mutual

def isPrintable : Json → Bool
  | .int value => isPrintableInt value
  | .arr items => arePrintable items
  | .obj fields => membersPrintable fields
  | .null => true
  | .bool _ => true
  | .float _ => true
  | .str _ => true

def arePrintable : List Json → Bool
  | [] => true
  | item :: items => isPrintable item && arePrintable items

def membersPrintable : List (PyStr × Json) → Bool
  | [] => true
  | (_, value) :: fields => isPrintable value && membersPrintable fields

end

/-- `json.dumps(value, separators=(",", ":"), ...)`. -/
def dumps (ensureAscii sortKeysFlag : Bool) (value : Json) : Except PyError PyStr :=
  if value.isPrintable then
    .ok (render ensureAscii (if sortKeysFlag then value.sortKeys else value))
  else
    .error intLimitError

end Json

end PyLib
