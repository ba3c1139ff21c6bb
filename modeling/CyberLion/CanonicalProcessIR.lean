import CyberLion.ProcessIR
import CyberLion.Sha256

/-!
# The canonical Process IR

`CanonicalProcessIR` of `contracts/process_ir.py`: the canonical bytes of a
validated value with their digest, and the strict JSON reader that checks
them.  Bytes are given by the text they encode, so the branch that rejects
bytes outside UTF-8 has no counterpart.
-/

namespace CyberLion

open PyLib

namespace ProcessIR

/-! ### Reading JSON -/

/-- The loop of `_unique_object`, with the object built so far. -/
def uniqueObjectFrom (duplicate : PyStr → PyError) (result : List (PyStr × Json)) :
    List (PyStr × Json) → Except PyError (List (PyStr × Json))
  | [] => .ok result
  | (key, value) :: pairs => do
    raiseIf (key ∈ result.map Prod.fst) (duplicate key)
    uniqueObjectFrom duplicate (result ++ [(key, value)]) pairs

/-- `_unique_object`: an object whose keys are pairwise distinct. -/
def uniqueObject (duplicate : PyStr → PyError) (pairs : List (PyStr × Json)) :
    Except PyError (List (PyStr × Json)) :=
  uniqueObjectFrom duplicate [] pairs

def strictHooks (error : PyStr → PyError) : Json.Hooks where
  object := uniqueObject fun key => error (py "duplicate JSON object key: " ++ key)
  constant := fun name => .error (error (py "non-RFC8259 constant is forbidden: " ++ name))

/-- `except (TypeError, ValueError, json.JSONDecodeError)` behind the clause
that lets the reader's own error class pass. -/
def isForeignError (own : ErrorClass) (error : PyError) : Bool :=
  !error.isInstance own && (error.isInstance .typeError || error.isInstance .valueError)

def parseJson (raw : PyStr) : Except PyError Json := do
  let value ← rethrow (isForeignError contractErrorClass)
    (fun _ => contractError (py "Process IR JSON is invalid"))
    (Json.loads (strictHooks contractError) raw)
  match value with
  | .obj fields => return .obj fields
  | _ => .error (contractError (py "Process IR root must be an object"))

theorem uniqueObjectFrom_eq_ok {duplicate : PyStr → PyError}
    {result pairs fields : List (PyStr × Json)}
    (distinct : (result.map Prod.fst).Nodup) :
    uniqueObjectFrom duplicate result pairs = .ok fields ↔
      fields = result ++ pairs ∧ ((result ++ pairs).map Prod.fst).Nodup := by
  induction pairs generalizing result with
  | nil =>
    simp only [uniqueObjectFrom, Except.ok.injEq, List.append_nil, distinct, and_true]
    exact eq_comm
  | cons pair pairs ih =>
    obtain ⟨key, value⟩ := pair
    simp only [uniqueObjectFrom, bind_eq_ok, raiseIf_eq_ok]
    constructor
    · rintro ⟨-, fresh, rest⟩
      have extended : ((result ++ [(key, value)]).map Prod.fst).Nodup := by
        simpa [List.nodup_append, distinct] using fun other otherValue member same =>
          fresh (List.mem_map.mpr ⟨(other, otherValue), member, same⟩)
      simpa using (ih extended).mp rest
    · rintro ⟨rfl, allDistinct⟩
      rw [List.append_cons] at allDistinct
      have extended : ((result ++ [(key, value)]).map Prod.fst).Nodup := by
        rw [List.map_append] at allDistinct
        exact (List.nodup_append.mp allDistinct).1
      refine ⟨(), ?_, (ih extended).mpr ⟨List.append_cons .., allDistinct⟩⟩
      intro known
      rw [List.map_append, List.nodup_append] at extended
      exact extended.2.2 key known key (by simp) rfl

theorem uniqueObject_eq_ok {duplicate : PyStr → PyError}
    {pairs fields : List (PyStr × Json)} :
    uniqueObject duplicate pairs = .ok fields ↔
      fields = pairs ∧ (pairs.map Prod.fst).Nodup := by
  rw [uniqueObject, uniqueObjectFrom_eq_ok (by simp), List.nil_append]

theorem parseJson_eq_ok {raw : PyStr} {value : Json} :
    parseJson raw = .ok value ↔
      Json.loads (strictHooks contractError) raw = .ok value ∧
        ∃ fields, value = .obj fields := by
  simp only [parseJson, bind_eq_ok, rethrow_eq_ok]
  constructor
  · rintro ⟨middle, loaded, shape⟩
    cases middle with
    | obj fields =>
      rw [pure_eq_ok] at shape
      subst shape
      exact ⟨loaded, fields, rfl⟩
    | _ => simp at shape
  · rintro ⟨loaded, fields, rfl⟩
    exact ⟨_, loaded, rfl⟩

/-! ### Canonical bytes -/

def canonicalProcessIrBytes (value : Json) : Except PyError Utf8Bytes := do
  let _ ← validateProcessIr value
  let text ← Json.dumps false true value
  encodeUtf8 text

def digestDomain : Utf8Bytes :=
  ⟨py "LION/PROCESS-IR/1\x00", by decide⟩

/-- `process_ir_digest`, on the canonical bytes. -/
def digestOf (bytes : Utf8Bytes) : PyStr :=
  sha256 (digestDomain.append bytes)

theorem canonicalProcessIrBytes_eq_ok {value : Json} {bytes : Utf8Bytes} :
    canonicalProcessIrBytes value = .ok bytes ↔
      (∃ model, validateProcessIr value = .ok model) ∧
        Json.dumps false true value = .ok bytes.text := by
  simp only [canonicalProcessIrBytes, bind_eq_ok]
  constructor
  · rintro ⟨model, checked, text, dumped, encoded⟩
    rw [encodeUtf8_eq_ok] at encoded
    exact ⟨⟨model, checked⟩, encoded ▸ dumped⟩
  · rintro ⟨⟨model, checked⟩, dumped⟩
    exact ⟨model, checked, bytes.text, dumped, encodeUtf8_eq_ok.mpr rfl⟩

end ProcessIR

open ProcessIR

structure CanonicalProcessIR where
  canonicalBytes : Utf8Bytes
  processDigest : PyStr
  deriving DecidableEq

namespace CanonicalProcessIR

def validate (ir : CanonicalProcessIR) : Except PyError CanonicalProcessIR := do
  let value ← parseJson ir.canonicalBytes.text
  let expected ← canonicalProcessIrBytes value
  raiseIf (expected ≠ ir.canonicalBytes)
    (contractError (py "canonical_bytes are not canonical"))
  raiseIf (isSha256 ir.processDigest = false)
    (contractError (py "process_digest must be lowercase SHA-256"))
  raiseIf (ir.processDigest ≠ digestOf ir.canonicalBytes)
    (contractError (py "process_digest mismatch"))
  return ir

def fromMapping (value : Json) : Except PyError CanonicalProcessIR := do
  let raw ← canonicalProcessIrBytes value
  validate ⟨raw, digestOf raw⟩

def fromJson (raw : PyStr) : Except PyError CanonicalProcessIR := do
  fromMapping (← parseJson raw)

def asDict (ir : CanonicalProcessIR) : Except PyError Json :=
  parseJson ir.canonicalBytes.text

/-- The typed view of `as_dict()`. -/
def asModel (ir : CanonicalProcessIR) : Except PyError Model := do
  validateProcessIr (← ir.asDict)

/-- A Process IR that passes `validate`, with its content. -/
structure Valid (ir : CanonicalProcessIR) (value : Json) (model : Model) : Prop where
  parsed : parseJson ir.canonicalBytes.text = .ok value
  checked : validateProcessIr value = .ok model
  canonical : Json.dumps false true value = .ok ir.canonicalBytes.text
  digest : ir.processDigest = digestOf ir.canonicalBytes

theorem isSha256_digestOf (bytes : Utf8Bytes) : isSha256 (digestOf bytes) = true :=
  isLowerHexOf_sha256 _

theorem validate_eq_ok {ir result : CanonicalProcessIR} :
    ir.validate = .ok result ↔ result = ir ∧ ∃ value model, ir.Valid value model := by
  simp only [validate, bind_eq_ok, raiseIf_eq_ok, pure_eq_ok, ne_eq, not_not]
  constructor
  · rintro ⟨value, parsed, bytes, canonical, -, rfl, -, -, -, digest, rfl⟩
    obtain ⟨⟨model, checked⟩, dumped⟩ := canonicalProcessIrBytes_eq_ok.mp canonical
    exact ⟨rfl, value, model, parsed, checked, dumped, digest⟩
  · rintro ⟨rfl, value, model, valid⟩
    have bytes : canonicalProcessIrBytes value = .ok result.canonicalBytes :=
      canonicalProcessIrBytes_eq_ok.mpr ⟨⟨model, valid.checked⟩, valid.canonical⟩
    refine ⟨value, valid.parsed, _, bytes, (), rfl, (), ?_, (), valid.digest, rfl⟩
    rw [valid.digest, isSha256_digestOf]
    decide

theorem Valid.asModel_eq {ir : CanonicalProcessIR} {value : Json} {model : Model}
    (valid : ir.Valid value model) : ir.asModel = .ok model := by
  rw [asModel, asDict, valid.parsed]
  exact valid.checked

theorem fromMapping_eq_ok {value : Json} {ir : CanonicalProcessIR} :
    fromMapping value = .ok ir ↔
      canonicalProcessIrBytes value = .ok ir.canonicalBytes ∧
        ∃ read model, ir.Valid read model := by
  simp only [fromMapping, bind_eq_ok]
  constructor
  · rintro ⟨raw, bytes, validated⟩
    obtain ⟨rfl, valid⟩ := validate_eq_ok.mp validated
    exact ⟨bytes, valid⟩
  · rintro ⟨bytes, read, model, valid⟩
    refine ⟨ir.canonicalBytes, bytes, ?_⟩
    have same : (⟨ir.canonicalBytes, digestOf ir.canonicalBytes⟩ :
        CanonicalProcessIR) = ir := by
      rw [← valid.digest]
    rw [same]
    exact validate_eq_ok.mpr ⟨rfl, read, model, valid⟩

end CanonicalProcessIR

structure ValidProcess where
  ir : CanonicalProcessIR
  value : Json
  model : Model
  valid : ir.Valid value model

end CyberLion
