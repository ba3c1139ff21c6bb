import CyberLion.JsonRoundTrip

/-!
# Values that survive a strict round trip

A value that a strict reader returned has distinct keys in every object.  When
it moreover has no float and only printable integers, it is read back from its
own text, and so is the value with all keys sorted.
-/

namespace PyLib

namespace Json

inductive DistinctKeys : Json → Prop
  | null : DistinctKeys .null
  | bool (value : Bool) : DistinctKeys (.bool value)
  | int (value : Int) : DistinctKeys (.int value)
  | float (literal : PyStr) : DistinctKeys (.float literal)
  | str (value : PyStr) : DistinctKeys (.str value)
  | arr {items : List Json} (all : ∀ item ∈ items, DistinctKeys item) :
      DistinctKeys (.arr items)
  | obj {fields : List (PyStr × Json)} (distinct : (fields.map Prod.fst).Nodup)
      (all : ∀ field ∈ fields, DistinctKeys field.2) : DistinctKeys (.obj fields)

inductive Floatless : Json → Prop
  | null : Floatless .null
  | bool (value : Bool) : Floatless (.bool value)
  | int (value : Int) : Floatless (.int value)
  | str (value : PyStr) : Floatless (.str value)
  | arr {items : List Json} (all : ∀ item ∈ items, Floatless item) :
      Floatless (.arr items)
  | obj {fields : List (PyStr × Json)} (all : ∀ field ∈ fields, Floatless field.2) :
      Floatless (.obj fields)

inductive Strict : Json → Prop
  | null : Strict .null
  | bool (value : Bool) : Strict (.bool value)
  | int {value : Int} (printable : isPrintableInt value = true) : Strict (.int value)
  | str (value : PyStr) : Strict (.str value)
  | arr {items : List Json} (all : ∀ item ∈ items, Strict item) : Strict (.arr items)
  | obj {fields : List (PyStr × Json)} (distinct : (fields.map Prod.fst).Nodup)
      (all : ∀ field ∈ fields, Strict field.2) : Strict (.obj fields)

theorem Strict.distinctKeys {value : Json} (strict : Strict value) : DistinctKeys value := by
  induction strict with
  | null => exact .null
  | bool value => exact .bool value
  | int printable => exact .int _
  | str value => exact .str value
  | arr all ih => exact .arr ih
  | obj distinct all ih => exact .obj distinct ih

@[simp]
theorem strict_str (value : PyStr) : Strict (.str value) :=
  .str value

@[simp]
theorem strict_bool (value : Bool) : Strict (.bool value) :=
  .bool value

@[simp]
theorem strict_int_iff {value : Int} : Strict (.int value) ↔ isPrintableInt value = true :=
  ⟨fun | .int printable => printable, .int⟩

@[simp]
theorem strict_arr_iff {items : List Json} :
    Strict (.arr items) ↔ ∀ item ∈ items, Strict item :=
  ⟨fun | .arr all => all, .arr⟩

@[simp]
theorem strict_obj_iff {fields : List (PyStr × Json)} :
    Strict (.obj fields) ↔
      (fields.map Prod.fst).Nodup ∧ ∀ field ∈ fields, Strict field.2 :=
  ⟨fun | .obj distinct all => ⟨distinct, all⟩, fun ⟨distinct, all⟩ => .obj distinct all⟩

theorem isPrintable_of_mem {items : List Json} (printable : arePrintable items = true)
    {item : Json} (member : item ∈ items) : item.isPrintable = true := by
  induction items with
  | nil => simp at member
  | cons first items ih =>
    rw [arePrintable, Bool.and_eq_true] at printable
    rcases List.mem_cons.mp member with rfl | member
    · exact printable.1
    · exact ih printable.2 member

theorem isPrintable_of_mem_fields {fields : List (PyStr × Json)}
    (printable : membersPrintable fields = true) {field : PyStr × Json}
    (member : field ∈ fields) : field.2.isPrintable = true := by
  induction fields with
  | nil => simp at member
  | cons first fields ih =>
    rw [membersPrintable, Bool.and_eq_true] at printable
    rcases List.mem_cons.mp member with rfl | member
    · exact printable.1
    · exact ih printable.2 member

theorem membersPrintable_of_forall {fields : List (PyStr × Json)}
    (all : ∀ field ∈ fields, field.2.isPrintable = true) :
    membersPrintable fields = true := by
  induction fields with
  | nil => rfl
  | cons field fields ih =>
    rw [membersPrintable, Bool.and_eq_true]
    exact ⟨all field (by simp), ih fun other member => all other (by simp [member])⟩

theorem strict_of_distinctKeys {value : Json} (distinct : DistinctKeys value)
    (floatless : Floatless value) (printable : value.isPrintable = true) :
    Strict value := by
  induction value with
  | null => exact .null
  | bool value => exact .bool value
  | int value => exact .int printable
  | float literal => nomatch floatless
  | str value => exact .str value
  | arr items ih =>
    cases distinct with
    | arr allDistinct =>
      cases floatless with
      | arr allFloatless =>
        exact .arr fun item member => ih item member (allDistinct item member)
          (allFloatless item member) (isPrintable_of_mem printable member)
  | obj fields ih =>
    cases distinct with
    | obj keys allDistinct =>
      cases floatless with
      | obj allFloatless =>
        exact .obj keys fun field member => ih field member (allDistinct field member)
          (allFloatless field member) (isPrintable_of_mem_fields printable member)

/-! ### Reading back -/

def KeepsDistinct (hooks : Hooks) : Prop :=
  ∀ fields : List (PyStr × Json), (fields.map Prod.fst).Nodup →
    hooks.object fields = .ok fields

variable {hooks : Hooks}

theorem itemsReadable_of_forall {ensureAscii : Bool} {items : List Json}
    (all : ∀ item ∈ items, Readable hooks ensureAscii item) :
    ItemsReadable hooks ensureAscii items := by
  induction items with
  | nil => trivial
  | cons item items ih =>
    exact ⟨all item (by simp), ih fun other member => all other (by simp [member])⟩

theorem fieldsReadable_of_forall {ensureAscii : Bool} {fields : List (PyStr × Json)}
    (all : ∀ field ∈ fields, Readable hooks ensureAscii field.2) :
    FieldsReadable hooks ensureAscii fields := by
  induction fields with
  | nil => trivial
  | cons field fields ih =>
    exact ⟨all field (by simp), ih fun other member => all other (by simp [member])⟩

theorem Strict.readable (keeps : KeepsDistinct hooks) {value : Json} (strict : Strict value) :
    Readable hooks false value := by
  induction strict with
  | null => trivial
  | bool value => trivial
  | int printable => exact printable
  | str value => trivial
  | arr all ih => exact itemsReadable_of_forall ih
  | obj distinct all ih =>
    refine ⟨fieldsReadable_of_forall ih, ?_⟩
    rw [decodedFields_false_eq]
    exact keeps _ distinct

theorem Strict.loads_render (keeps : KeepsDistinct hooks) {value : Json} (strict : Strict value) :
    loads hooks (render false value) = .ok value := by
  rw [Json.loads_render (strict.readable keeps), decoded_false]

/-! ### Sorted keys -/

theorem keys_sortMembers (fields : List (PyStr × Json)) :
    (sortMembers fields).map Prod.fst = fields.map Prod.fst := by
  rw [sortMembers_eq_map, List.map_map]
  rfl

theorem sortFields_perm (fields : List (PyStr × Json)) :
    (sortFields fields).Perm fields :=
  List.perm_insertionSort keyLe fields

theorem Strict.sortKeys {value : Json} (strict : Strict value) : Strict value.sortKeys := by
  induction strict with
  | null => exact .null
  | bool value => exact .bool value
  | int printable => exact .int printable
  | str value => exact .str value
  | arr all ih =>
    rw [Json.sortKeys, sortItems_eq_map]
    refine .arr fun item member => ?_
    obtain ⟨source, sourceMem, rfl⟩ := List.mem_map.mp member
    exact ih source sourceMem
  | @obj fields distinct all ih =>
    rw [Json.sortKeys]
    refine .obj ?_ fun field member => ?_
    · rw [((sortFields_perm _).map Prod.fst).nodup_iff, keys_sortMembers]
      exact distinct
    · rw [(sortFields_perm _).mem_iff, sortMembers_eq_map] at member
      obtain ⟨source, sourceMem, rfl⟩ := List.mem_map.mp member
      exact ih source sourceMem

theorem sortKeys_sortKeys (value : Json) : value.sortKeys.sortKeys = value.sortKeys := by
  induction value with
  | arr items ih =>
    simp only [sortKeys, sortItems_eq_map, List.map_map]
    congr 1
    exact List.map_congr_left fun item member => ih item member
  | obj fields ih =>
    have sortedAgain : sortMembers (sortFields (sortMembers fields)) =
        sortFields (sortMembers fields) := by
      rw [sortMembers_eq_map]
      conv_rhs => rw [← List.map_id (sortFields (sortMembers fields))]
      refine List.map_congr_left fun field member => ?_
      rw [(sortFields_perm _).mem_iff, sortMembers_eq_map] at member
      obtain ⟨source, sourceMem, rfl⟩ := List.mem_map.mp member
      simp [ih source sourceMem]
    simp only [sortKeys, sortedAgain]
    congr 1
    exact (List.pairwise_insertionSort keyLe (sortMembers fields)).insertionSort_eq
  | _ => simp [sortKeys]

/-! ### What a strict reader returns -/

structure ReturnsDistinct (hooks : Hooks) : Prop where
  object : ∀ pairs fields, hooks.object pairs = .ok fields →
    (fields.map Prod.fst).Nodup ∧ fields ⊆ pairs
  constant : ∀ name value, hooks.constant name = .ok value → DistinctKeys value

theorem distinctKeys_of_scanUnsigned {negative : Bool} {text rest : PyStr} {value : Json}
    (scanned : scanUnsigned negative text = .ok (value, rest)) : DistinctKeys value := by
  unfold scanUnsigned at scanned
  split at scanned
  · simp at scanned
  dsimp only at scanned
  split at scanned
  · rw [bind_eq_ok] at scanned
    obtain ⟨number, numberEq, same⟩ := scanned
    simp only [pure_eq_ok, Prod.mk.injEq] at same
    obtain ⟨rfl, -⟩ := same
    unfold intOfDigits at numberEq
    split at numberEq
    · cases numberEq
      exact .int _
    · simp at numberEq
  · simp only [Except.ok.injEq, Prod.mk.injEq] at scanned
    rw [← scanned.1]
    exact .float _

theorem AtomStep.distinctKeys (sound : ReturnsDistinct hooks) {text rest : PyStr} {value : Json}
    (step : AtomStep hooks text value rest) : DistinctKeys value := by
  cases step with
  | word known =>
    simp only [List.mem_cons, List.not_mem_nil, or_false, Prod.mk.injEq] at known
    rcases known with ⟨-, rfl⟩ | ⟨-, rfl⟩ | ⟨-, rfl⟩
    · exact .null
    · exact .bool true
    · exact .bool false
  | constant _ returned => exact sound.constant _ _ returned
  | negative scanned | positive scanned => exact distinctKeys_of_scanUnsigned scanned

/-- What a value, a list of items, a field and a list of fields have in common
when the reader returned them with some fuel. -/
structure ScansDistinct (hooks : Hooks) (fuel : Nat) : Prop where
  value : ∀ text result rest, scanValue hooks fuel text = .ok (result, rest) →
    DistinctKeys result
  items : ∀ text results rest, scanItems hooks fuel text = .ok (results, rest) →
    ∀ result ∈ results, DistinctKeys result
  field : ∀ text result rest, scanField hooks fuel text = .ok (result, rest) →
    DistinctKeys result.2
  fields : ∀ text results rest, scanFields hooks fuel text = .ok (results, rest) →
    ∀ result ∈ results, DistinctKeys result.2

theorem distinctKeys_of_object (sound : ReturnsDistinct hooks) {pairs fields : List (PyStr × Json)}
    (built : hooks.object pairs = .ok fields) (all : ∀ pair ∈ pairs, DistinctKeys pair.2) :
    DistinctKeys (.obj fields) := by
  obtain ⟨distinct, known⟩ := sound.object pairs fields built
  exact .obj distinct fun field member => all field (known member)

theorem scansDistinct_succ (sound : ReturnsDistinct hooks) {fuel : Nat}
    (ih : ScansDistinct hooks fuel) : ScansDistinct hooks (fuel + 1) := by
  constructor
  · intro text result rest scanned
    cases valueStep scanned with
    | str => exact .str _
    | emptyArr => exact .arr (by simp)
    | arr first others =>
      refine .arr fun item member => ?_
      rcases List.mem_cons.mp member with rfl | member
      · exact ih.value _ _ _ first
      · exact ih.items _ _ _ others item member
    | emptyObj _ built => exact distinctKeys_of_object sound built (by simp)
    | obj first others built =>
      refine distinctKeys_of_object sound built fun pair member => ?_
      rcases List.mem_cons.mp member with rfl | member
      · exact ih.field _ _ _ first
      · exact ih.fields _ _ _ others pair member
    | atom step => exact step.distinctKeys sound
  · intro text results rest scanned
    rcases scanItems_succ scanned with ⟨-, rfl⟩ | ⟨_, _, _, _, -, first, others, rfl⟩
    · simp
    · intro item member
      rcases List.mem_cons.mp member with rfl | member
      · exact ih.value _ _ _ first
      · exact ih.items _ _ _ others item member
  · intro text result rest scanned
    obtain ⟨_, _, _, -, _, -, -, value, same⟩ := scanField_succ scanned
    exact same ▸ ih.value _ _ _ value
  · intro text results rest scanned
    rcases scanFields_succ scanned with ⟨-, rfl⟩ | ⟨_, _, _, _, -, first, others, rfl⟩
    · simp
    · intro pair member
      rcases List.mem_cons.mp member with rfl | member
      · exact ih.field _ _ _ first
      · exact ih.fields _ _ _ others pair member

theorem scansDistinct (sound : ReturnsDistinct hooks) (fuel : Nat) :
    ScansDistinct hooks fuel := by
  induction fuel with
  | zero =>
    constructor <;> intro text result rest scanned <;>
      simp [scanValue, scanItems, scanField, scanFields] at scanned
  | succ fuel ih => exact scansDistinct_succ sound ih

theorem distinctKeys_of_loads (sound : ReturnsDistinct hooks) {text : PyStr} {value : Json}
    (loaded : loads hooks text = .ok value) :
    DistinctKeys value := by
  simp only [loads, bind_eq_ok, pure_eq_ok] at loaded
  obtain ⟨_, -, ⟨result, rest⟩, scanned, _, -, rfl⟩ := loaded
  exact (scansDistinct sound _).value _ _ _ scanned

end Json

end PyLib
