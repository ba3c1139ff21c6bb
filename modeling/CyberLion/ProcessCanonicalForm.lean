import CyberLion.JsonSameValue
import CyberLion.JsonSpelling
import CyberLion.ProcessKeyOrder
import CyberLion.ProcessParallelSafety

/-!
# The canonical form of a Process IR

`from_mapping`, `from_json` and `as_dict` of `contracts/process_ir.py` agree on
one form: the canonical bytes of a value are the text of its sorted form, every
text of the value is read into the same Process IR, and the digest tells values
apart.
-/

namespace CyberLion

open PyLib Json ProcessIR

namespace CanonicalProcessIR

variable {ir : CanonicalProcessIR} {value other : Json}

theorem fromMapping_of_valid {model : Model} (valid : ir.Valid value model) :
    fromMapping value = .ok ir :=
  fromMapping_eq_ok.mpr
    ⟨canonicalProcessIrBytes_eq_ok.mpr ⟨⟨model, valid.checked⟩, valid.canonical⟩,
      value, model, valid⟩

theorem strict_of_fromMapping (distinct : DistinctKeys value)
    (accepted : fromMapping value = .ok ir) : Strict value := by
  obtain ⟨bytes, -⟩ := fromMapping_eq_ok.mp accepted
  obtain ⟨⟨model, checked⟩, written⟩ := canonicalProcessIrBytes_eq_ok.mp bytes
  exact strict_of_distinctKeys distinct (floatless_of_validateProcessIr distinct checked)
    (dumps_eq_ok.mp written).1

theorem text_of_fromMapping (accepted : fromMapping value = .ok ir) :
    ir.canonicalBytes.text = render false value.sortKeys := by
  obtain ⟨bytes, -⟩ := fromMapping_eq_ok.mp accepted
  obtain ⟨-, written⟩ := canonicalProcessIrBytes_eq_ok.mp bytes
  exact (dumps_eq_ok.mp written).2

theorem exists_valid_of_fromMapping (distinct : DistinctKeys value)
    (accepted : fromMapping value = .ok ir) : ∃ model, ir.Valid value.sortKeys model := by
  obtain ⟨-, read, model, valid⟩ := fromMapping_eq_ok.mp accepted
  have strict := (strict_of_fromMapping distinct accepted).sortKeys
  have loaded := strict.loads_render (keepsDistinct_strictHooks contractError)
  rw [← text_of_fromMapping accepted, (parseJson_eq_ok.mp valid.parsed).1] at loaded
  exact ⟨model, Except.ok.inj loaded ▸ valid⟩

theorem fromMapping_of_sameValue (distinct : DistinctKeys value)
    (otherDistinct : DistinctKeys other) (same : SameValue value other)
    (accepted : fromMapping value = .ok ir) : fromMapping other = .ok ir := by
  obtain ⟨model, valid⟩ := exists_valid_of_fromMapping distinct accepted
  have sorted := same.sortKeys_eq distinct otherDistinct
  have printable := same.isPrintable (strict_of_fromMapping distinct accepted).isPrintable
  have checked := valid.checked
  rw [sorted] at checked
  obtain ⟨otherModel, otherChecked, -⟩ := leadsTo_validateProcessIr other model checked
  have written : dumps false true other = .ok ir.canonicalBytes.text := by
    rw [dumps_eq_ok, text_of_fromMapping accepted, sorted]
    exact ⟨printable, rfl⟩
  exact fromMapping_eq_ok.mpr
    ⟨canonicalProcessIrBytes_eq_ok.mpr ⟨⟨otherModel, otherChecked⟩, written⟩, _, _, valid⟩

theorem exists_fromMapping (distinct : DistinctKeys value)
    (accepted : returned (validateProcessIr value) = true) (printable : value.isPrintable = true)
    (encodable : isEncodable (render false value.sortKeys) = true) :
    ∃ ir, fromMapping value = .ok ir := by
  have sortedPrintable : value.sortKeys.isPrintable = true := by
    rwa [Json.isPrintable_sortKeys]
  have sortedAccepted := accepted
  rw [← (returnsAlike_validateProcessIr value).returned_eq] at sortedAccepted
  cases checked : validateProcessIr value with
  | error error => simp [checked, returned] at accepted
  | ok model =>
    have strict := (strict_of_distinctKeys distinct
      (floatless_of_validateProcessIr distinct checked) printable).sortKeys
    obtain ⟨process, -, returns⟩ := ValidProcess.exists_of_sorted sortedAccepted strict
      sortedPrintable (Json.sortKeys_sortKeys value) encodable
    have sortedDistinct := strict.distinctKeys
    have same : SameValue value.sortKeys value :=
      (sameValue_iff sortedDistinct distinct).mpr (Json.sortKeys_sortKeys value)
    exact ⟨process.ir, fromMapping_of_sameValue sortedDistinct distinct same returns⟩

theorem fromJson_of_isJsonText (distinct : DistinctKeys value)
    (accepted : fromMapping value = .ok ir) (same : SameValue value other) {text : PyStr}
    (isText : IsJsonText other text) : fromJson text = .ok ir := by
  have printable := same.isPrintable (strict_of_fromMapping distinct accepted).isPrintable
  have loaded := isText.loads_eq (keepsDistinct_strictHooks contractError) printable
  have otherDistinct := distinctKeys_of_loads (returnsDistinct_strictHooks _) loaded
  obtain ⟨model, valid⟩ := exists_valid_of_fromMapping distinct accepted
  obtain ⟨fields, shape⟩ := (parseJson_eq_ok.mp valid.parsed).2
  have isObject : ∃ fields, other = .obj fields := by
    rw [same.sortKeys_eq distinct otherDistinct] at shape
    cases other with
    | obj fields => exact ⟨fields, rfl⟩
    | _ => simp [Json.sortKeys] at shape
  rw [fromJson, parseJson_eq_ok.mpr ⟨loaded, isObject⟩, ok_bind]
  exact fromMapping_of_sameValue distinct otherDistinct same accepted

theorem canonicalBytes_eq_iff {otherIr : CanonicalProcessIR} (distinct : DistinctKeys value)
    (otherDistinct : DistinctKeys other) (accepted : fromMapping value = .ok ir)
    (otherAccepted : fromMapping other = .ok otherIr) :
    ir.canonicalBytes = otherIr.canonicalBytes ↔ SameValue value other := by
  rw [sameValue_iff distinct otherDistinct]
  constructor
  · intro same
    obtain ⟨model, valid⟩ := exists_valid_of_fromMapping distinct accepted
    obtain ⟨otherModel, otherValid⟩ := exists_valid_of_fromMapping otherDistinct otherAccepted
    have parsed := valid.parsed
    rw [same, otherValid.parsed] at parsed
    exact (Except.ok.inj parsed).symm
  · intro same
    have text : ir.canonicalBytes.text = otherIr.canonicalBytes.text := by
      rw [text_of_fromMapping accepted, text_of_fromMapping otherAccepted, same]
    rwa [Utf8Bytes.mk.injEq]

/-- Accepted values have the same digest exactly when they are the same, where the
digest does not collide on their bytes. -/
theorem processDigest_eq_iff {otherIr : CanonicalProcessIR} (distinct : DistinctKeys value)
    (otherDistinct : DistinctKeys other) (accepted : fromMapping value = .ok ir)
    (otherAccepted : fromMapping other = .ok otherIr)
    (apart : digestOf ir.canonicalBytes = digestOf otherIr.canonicalBytes →
      ir.canonicalBytes = otherIr.canonicalBytes) :
    ir.processDigest = otherIr.processDigest ↔ SameValue value other := by
  obtain ⟨model, valid⟩ := exists_valid_of_fromMapping distinct accepted
  obtain ⟨otherModel, otherValid⟩ := exists_valid_of_fromMapping otherDistinct otherAccepted
  rw [valid.digest, otherValid.digest,
    ← canonicalBytes_eq_iff distinct otherDistinct accepted otherAccepted]
  exact ⟨apart, congrArg digestOf⟩

/-- The canonical form of an accepted value: its bytes and its content lead back to
it, it is valid, every text of the value leads to it, and its digest is that of the
same values only. -/
theorem canonicalForm {value : Json} (distinct : DistinctKeys value) {ir : CanonicalProcessIR}
    (accepted : fromMapping value = .ok ir) :
    fromJson ir.canonicalBytes.text = .ok ir ∧ (ir.asDict >>= fromMapping) = .ok ir ∧
      ir.validate = .ok ir ∧
      (∀ other text, SameValue value other → IsJsonText other text →
        fromJson text = .ok ir) ∧
      ∀ second secondIr, DistinctKeys second → fromMapping second = .ok secondIr →
        (digestOf ir.canonicalBytes = digestOf secondIr.canonicalBytes →
          ir.canonicalBytes = secondIr.canonicalBytes) →
        (ir.processDigest = secondIr.processDigest ↔ SameValue value second) := by
  obtain ⟨model, valid⟩ := exists_valid_of_fromMapping distinct accepted
  have back : (ir.asDict >>= fromMapping) = .ok ir := by
    rw [asDict, valid.parsed, ok_bind]
    exact fromMapping_of_valid valid
  refine ⟨back, back, validate_eq_ok.mpr ⟨rfl, _, _, valid⟩, ?_, ?_⟩
  · intro other text same isText
    exact fromJson_of_isJsonText distinct accepted same isText
  · intro second secondIr secondDistinct secondAccepted apart
    exact processDigest_eq_iff distinct secondDistinct accepted secondAccepted apart

/-- The pair of independent transitions, read from a text with white space around
it. -/
theorem canonicalForm_pair : ∃ ir, fromMapping pairProcess = .ok ir ∧
    fromJson (py " " ++ (render false pairProcess ++ py "\n")) = .ok ir ∧
    SameValue pairProcess pairProcess := by
  obtain ⟨process, same, -⟩ := exists_pairProcess
  have strict := process.strict
  have distinct := distinctKeys_of_loads (returnsDistinct_strictHooks _) process.loads_eq
  have accepted := fromMapping_of_valid process.valid
  rw [same] at strict distinct accepted
  obtain ⟨-, -, -, reads, digests⟩ := canonicalForm distinct accepted
  refine ⟨process.ir, accepted, ?_,
    (digests pairProcess process.ir distinct accepted fun _ => rfl).mp rfl⟩
  apply reads pairProcess
  · exact (sameValue_iff distinct distinct).mpr rfl
  · exact .mk (by decide) strict.spells_render (by decide)

end CanonicalProcessIR

end CyberLion
