import CyberLion.PyFloatRounding

/-!
# Objects that are not JSON

A dictionary that a program builds can hold tuples, which `json.dumps` writes as arrays and which
`type(value) is list` tells from lists.  Sets take hashable objects only.
-/

namespace PyLib

inductive PyObject
  | none
  | bool (value : Bool)
  | int (value : Int)
  | float (literal : PyStr)
  | str (value : PyStr)
  | list (items : List PyObject)
  | tuple (items : List PyObject)
  | dict (fields : List (PyStr × PyObject))

namespace PyObject

mutual

/-- What `json.loads` returns for a value. -/
def ofJson : Json → PyObject
  | .null => .none
  | .bool value => .bool value
  | .int value => .int value
  | .float literal => .float literal
  | .str value => .str value
  | .arr items => .list (ofItems items)
  | .obj fields => .dict (ofFields fields)

def ofItems : List Json → List PyObject
  | [] => []
  | item :: items => ofJson item :: ofItems items

def ofFields : List (PyStr × Json) → List (PyStr × PyObject)
  | [] => []
  | (key, value) :: fields => (key, ofJson value) :: ofFields fields

end

mutual

/-- What `json.dumps` writes an object as. -/
def toJson : PyObject → Json
  | .none => .null
  | .bool value => .bool value
  | .int value => .int value
  | .float literal => .float literal
  | .str value => .str value
  | .list items => .arr (toItems items)
  | .tuple items => .arr (toItems items)
  | .dict fields => .obj (toFields fields)

def toItems : List PyObject → List Json
  | [] => []
  | item :: items => toJson item :: toItems items

def toFields : List (PyStr × PyObject) → List (PyStr × Json)
  | [] => []
  | (key, value) :: fields => (key, toJson value) :: toFields fields

end

theorem ofItems_eq_map (items : List Json) : ofItems items = items.map ofJson := by
  induction items with
  | nil => rfl
  | cons item items ih => rw [ofItems, List.map_cons, ih]

theorem ofFields_eq_map (fields : List (PyStr × Json)) :
    ofFields fields = fields.map fun field => (field.1, ofJson field.2) := by
  induction fields with
  | nil => rfl
  | cons field fields ih => rw [ofFields, List.map_cons, ih]

theorem toItems_eq_map (items : List PyObject) : toItems items = items.map toJson := by
  induction items with
  | nil => rfl
  | cons item items ih => rw [toItems, List.map_cons, ih]

theorem lookup_ofFields (fields : List (PyStr × Json)) (key : PyStr) :
    (ofFields fields).lookup key = (fields.lookup key).map ofJson := by
  induction fields with
  | nil => rfl
  | cons field fields ih =>
    rw [ofFields, List.lookup_cons, List.lookup_cons]
    cases key == field.1 with
    | true => rfl
    | false => exact ih

theorem keys_ofFields (fields : List (PyStr × Json)) :
    (ofFields fields).map Prod.fst = fields.map Prod.fst := by
  rw [ofFields_eq_map, List.map_map]
  rfl

theorem ofJson_eq_str {value : Json} {text : PyStr} : ofJson value = .str text ↔ value = .str text := by
  cases value <;> simp [ofJson]

theorem ofJson_eq_list {value : Json} {items : List PyObject} :
    ofJson value = .list items ↔ ∃ members, value = .arr members ∧ items = members.map ofJson := by
  cases value <;> simp [ofJson, ofItems_eq_map, eq_comm]

/-! ### Hashing -/

mutual

/-- The type for which `hash` raises, if it does. -/
def unhashable : PyObject → Option PyStr
  | .list _ => some (py "list")
  | .dict _ => some (py "dict")
  | .tuple items => firstUnhashable items
  | _ => .none

def firstUnhashable : List PyObject → Option PyStr
  | [] => .none
  | item :: items => (unhashable item).or (firstUnhashable items)

end

def Hashable (value : PyObject) : Prop :=
  value.unhashable = .none

instance (value : PyObject) : Decidable value.Hashable :=
  inferInstanceAs (Decidable (value.unhashable = .none))

/-- `hash(value)`. -/
def hash (value : PyObject) : Except PyError Unit :=
  match value.unhashable with
  | .none => .ok ()
  | some name => .error ⟨.typeError, py "unhashable type: '" ++ name ++ py "'"⟩

theorem hash_eq_ok {value : PyObject} {u : Unit} : value.hash = .ok u ↔ value.Hashable := by
  rw [hash, Hashable]
  cases value.unhashable <;> simp

@[simp]
theorem hashable_str (text : PyStr) : (PyObject.str text).Hashable :=
  rfl

def number : PyObject → Option PyFloat
  | .bool value => some (.finite (if value then 1 else 0))
  | .int value => some (.finite value)
  | .float literal => PyFloat.ofLiteral literal
  | _ => .none

mutual

/-- `first == second`, for values that a set takes.  A NaN that `json.loads` returns is one
object, and a set compares objects before it compares values. -/
def sameKey : PyObject → PyObject → Bool
  | .none, .none => true
  | .str first, .str second => first = second
  | .tuple first, .tuple second => sameKeys first second
  | first, second =>
    match first.number, second.number with
    | some value, some other => value = other
    | _, _ => false

def sameKeys : List PyObject → List PyObject → Bool
  | [], [] => true
  | first :: firsts, second :: seconds => sameKey first second && sameKeys firsts seconds
  | _, _ => false

end

/-- `len(values) == len(set(values))`, for values that a set takes. -/
def Distinct (values : List PyObject) : Prop :=
  values.Pairwise fun first second => sameKey first second = false

instance (values : List PyObject) : Decidable (Distinct values) :=
  inferInstanceAs (Decidable (List.Pairwise _ _))

theorem distinct_map_str {texts : List PyStr} :
    Distinct (texts.map PyObject.str) ↔ texts.Nodup := by
  rw [Distinct, List.pairwise_map]
  simp only [sameKey, decide_eq_false_iff_not]
  rfl

/-- `if len(values) != len(set(values)): raise`. -/
def requireDistinct (values : List PyObject) (error : PyError) : Except PyError Unit := do
  forM values hash
  raiseIf (¬ Distinct values) error

theorem requireDistinct_eq_ok {values : List PyObject} {error : PyError} {u : Unit} :
    requireDistinct values error = .ok u ↔ (∀ value ∈ values, value.Hashable) ∧ Distinct values := by
  simp only [requireDistinct, bind_eq_ok, raiseIf_eq_ok, not_not]
  constructor
  · rintro ⟨_, hashed, distinct⟩
    exact ⟨fun value member => hash_eq_ok.mp (forM_eq_ok.mp hashed value member), distinct⟩
  · rintro ⟨hashable, distinct⟩
    exact ⟨(), forM_eq_ok.mpr fun value member => hash_eq_ok.mpr (hashable value member), distinct⟩

section OnlyRaises

variable {allowed : PyError → Prop}
  (refused : ∀ name, ¬ allowed ⟨.typeError, py "unhashable type: '" ++ name ++ py "'"⟩)
include refused

theorem onlyRaises_hash_iff {value : PyObject} :
    OnlyRaises allowed value.hash ↔ value.Hashable := by
  rw [hash, Hashable]
  cases value.unhashable with
  | none => simp [OnlyRaises.ok]
  | some name =>
    simp only [reduceCtorEq, iff_false]
    exact fun raises => refused name (raises _ rfl)

theorem onlyRaises_requireDistinct_iff {values : List PyObject} {error : PyError}
    (isAllowed : allowed error) :
    OnlyRaises allowed (requireDistinct values error) ↔ ∀ value ∈ values, value.Hashable := by
  rw [requireDistinct, OnlyRaises.bind_iff_left fun _ _ => .raiseIf isAllowed]
  constructor
  · intro raises
    induction values with
    | nil => exact fun value member => absurd member List.not_mem_nil
    | cons value values ih =>
      rw [List.forM_cons, OnlyRaises.bind_iff, onlyRaises_hash_iff refused] at raises
      exact List.forall_mem_cons.mpr
        ⟨raises.1, ih (raises.2 () (hash_eq_ok.mpr raises.1))⟩
  · exact fun all => .forM fun value member => (onlyRaises_hash_iff refused).mpr (all value member)

end OnlyRaises

end PyObject

end PyLib
