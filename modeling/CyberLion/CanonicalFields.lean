import CyberLion.JsonLines
import CyberLion.Lpcl
import CyberLion.ProcessIRShape

/-!
# The fields of a canonical process

The canonical text of a valid Process IR is the text of its value, whose keys
are sorted at every level, and its root object has exactly the root fields.
-/

namespace CyberLion

open PyLib ProcessIR Json

theorem keepsDistinct_strictHooks (error : PyStr → PyError) :
    KeepsDistinct (strictHooks error) := by
  intro fields distinct
  exact uniqueObject_eq_ok.mpr ⟨rfl, distinct⟩

theorem returnsDistinct_strictHooks (error : PyStr → PyError) :
    ReturnsDistinct (strictHooks error) := by
  constructor
  · intro pairs fields built
    obtain ⟨rfl, distinct⟩ := uniqueObject_eq_ok.mp built
    exact ⟨distinct, List.Subset.refl _⟩
  · intro name value built
    simp [strictHooks] at built

/-! ### The canonical value -/

namespace ValidProcess

variable (process : ValidProcess)

theorem loads_eq :
    loads (strictHooks contractError) process.ir.canonicalBytes.text = .ok process.value :=
  (parseJson_eq_ok.mp process.valid.parsed).1

theorem floatless : Floatless process.value :=
  floatless_of_validateProcessIr
    (distinctKeys_of_loads (returnsDistinct_strictHooks _) process.loads_eq)
    process.valid.checked

theorem isPrintable : process.value.isPrintable = true := by
  have written := process.valid.canonical
  unfold dumps at written
  split at written
  · assumption
  · simp at written

theorem strict : Strict process.value :=
  strict_of_distinctKeys
    (distinctKeys_of_loads (returnsDistinct_strictHooks _) process.loads_eq)
    process.floatless process.isPrintable

theorem text_eq_render_sortKeys :
    process.ir.canonicalBytes.text = render false process.value.sortKeys := by
  have written := process.valid.canonical
  rw [dumps, if_pos process.isPrintable] at written
  exact (Except.ok.inj written).symm

theorem sortKeys_value : process.value.sortKeys = process.value := by
  have read := process.strict.sortKeys.loads_render (keepsDistinct_strictHooks contractError)
  rw [← process.text_eq_render_sortKeys, process.loads_eq] at read
  exact (Except.ok.inj read).symm

theorem text_eq_render : process.ir.canonicalBytes.text = render false process.value := by
  rw [process.text_eq_render_sortKeys, process.sortKeys_value]

def fields : List (PyStr × Json) :=
  Lpcl.objectFields process.value

theorem value_eq_obj : process.value = .obj process.fields := by
  obtain ⟨entries, shape⟩ := (parseJson_eq_ok.mp process.valid.parsed).2
  rw [fields, shape]
  rfl

theorem exactObject_fields :
    exactObject process.value rootFields (py "ProcessIR") = .ok process.fields := by
  obtain ⟨entries, root, -⟩ := bind_eq_ok.mp process.valid.checked
  have exact := exactObject_of_rootObject root
  rw [process.value_eq_obj] at exact ⊢
  simp only [exactObject, bind_eq_ok, pure_eq_ok] at exact ⊢
  obtain ⟨done, keys, -⟩ := exact
  exact ⟨done, keys, trivial⟩

theorem keys_nodup : (process.fields.map Prod.fst).Nodup := by
  have strict := process.strict
  rw [process.value_eq_obj] at strict
  cases strict with
  | obj distinct all => exact distinct

theorem strict_of_mem {field : PyStr × Json} (member : field ∈ process.fields) :
    Strict field.2 := by
  have strict := process.strict
  rw [process.value_eq_obj] at strict
  cases strict with
  | obj distinct all => exact all field member

theorem floatless_of_mem {field : PyStr × Json} (member : field ∈ process.fields) :
    Floatless field.2 := by
  have floatless := process.floatless
  rw [process.value_eq_obj] at floatless
  cases floatless with
  | obj all => exact all field member

theorem isPrintable_of_mem {field : PyStr × Json} (member : field ∈ process.fields) :
    field.2.isPrintable = true := by
  have printable := process.isPrintable
  rw [process.value_eq_obj] at printable
  exact isPrintable_of_mem_fields printable member

theorem sortKeys_of_mem {field : PyStr × Json} (member : field ∈ process.fields) :
    field.2.sortKeys = field.2 := by
  have sorted := process.sortKeys_value
  rw [process.value_eq_obj, sortKeys, Json.obj.injEq] at sorted
  rw [← sorted, (sortFields_perm _).mem_iff, sortMembers_eq_map] at member
  obtain ⟨source, -, rfl⟩ := List.mem_map.mp member
  exact sortKeys_sortKeys source.2

theorem mem_keys_iff (key : PyStr) : key ∈ process.fields.map Prod.fst ↔ key ∈ rootFields := by
  have exact := process.exactObject_fields
  rw [process.value_eq_obj] at exact
  simp only [exactObject, bind_eq_ok, raiseIf_eq_ok, not_not] at exact
  obtain ⟨-, ⟨known, all⟩, -⟩ := exact
  exact ⟨fun member => known member, fun member => all member⟩

def payload (key : PyStr) : Json :=
  (process.fields.lookup key).getD .null

theorem mem_fields {key : PyStr} (root : key ∈ rootFields) :
    (key, process.payload key) ∈ process.fields := by
  obtain ⟨⟨other, value⟩, member, rfl⟩ := List.mem_map.mp ((process.mem_keys_iff key).mpr root)
  have found := lookup_of_mem process.keys_nodup member
  rw [payload, found]
  exact member

theorem item_eq {key : PyStr} (root : key ∈ rootFields) :
    item process.fields key = .ok (process.payload key) :=
  item_eq_ok.mpr (lookup_of_mem process.keys_nodup (process.mem_fields root))

theorem exists_of_sorted {value : Json} (accepted : returned (validateProcessIr value) = true)
    (strict : Strict value) (printable : value.isPrintable = true)
    (sorted : value.sortKeys = value) (encodable : isEncodable (render false value) = true) :
    ∃ process : ValidProcess, process.value = value ∧
      CanonicalProcessIR.fromMapping value = .ok process.ir := by
  cases checked : validateProcessIr value with
  | error error => simp [checked, returned] at accepted
  | ok model =>
    have isObject : ∃ fields, value = .obj fields := by
      cases value with
      | obj fields => exact ⟨fields, rfl⟩
      | _ => simp [validateProcessIr, rootObject] at checked
    have written : dumps false true value = .ok (render false value) := by
      rw [dumps, if_pos printable, if_pos rfl, sorted]
    let bytes : Utf8Bytes := ⟨render false value, encodable⟩
    have valid : CanonicalProcessIR.Valid ⟨bytes, digestOf bytes⟩ value model :=
      ⟨parseJson_eq_ok.mpr
        ⟨strict.loads_render (keepsDistinct_strictHooks contractError), isObject⟩,
        checked, written, rfl⟩
    refine ⟨⟨_, value, model, valid⟩, rfl, ?_⟩
    exact CanonicalProcessIR.fromMapping_eq_ok.mpr
      ⟨canonicalProcessIrBytes_eq_ok.mpr ⟨⟨model, checked⟩, written⟩, value, model, valid⟩

end ValidProcess

end CyberLion
