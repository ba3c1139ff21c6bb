import CyberLion.JsonWritable
import CyberLion.ProcessSelection

/-!
# Sealing process records

A record whose texts can be encoded has a digest, and the record with that
digest passes its own validator.
-/

namespace CyberLion

open PyLib ProcessIR ProcessAction

/-! ### Digests -/

theorem isSha256_sha256 (bytes : Utf8Bytes) : isSha256 (sha256 bytes) = true :=
  isLowerHexOf_sha256 _

theorem exists_sealDigest (domain : Utf8Bytes) {payload : Json} (writable : Json.Writable payload)
    (printable : payload.isPrintable = true) :
    ∃ digest, sealDigest domain payload = .ok digest ∧ isSha256 digest = true := by
  obtain ⟨text, bytes, written, encoded⟩ := writable.exists_encodeUtf8 printable true
  refine ⟨sha256 (domain.append bytes), ?_, isSha256_sha256 _⟩
  rw [sealDigest, written, ok_bind, encoded, ok_bind]
  rfl

theorem checkSeal_eq_ok {digest : PyStr} {compute : Except PyError PyStr}
    {isDigest : PyStr → Bool} {invalid mismatch : PyError} (computed : compute = .ok digest)
    (wellFormed : isDigest digest = true) :
    checkSeal digest compute isDigest invalid mismatch = .ok () := by
  unfold checkSeal
  split
  · rfl
  · rw [wellFormed, computed]
    simp [raiseIf]

/-! ### Identifiers -/

variable {name content : PyStr}

theorem val_of_isIdentifier (valid : isIdentifier name = true) :
    ∀ c ∈ name, 0x2D ≤ c.val ∧ c.val < 0x80 := by
  have marks : ∀ c ∈ py "_.:/-", 0x2D ≤ c.val ∧ c.val < 0x80 := by
    rw [show py "_.:/-" = [0x5F, 0x2E, 0x3A, 0x2F, 0x2D] by decide]
    simp only [List.forall_mem_cons, List.not_mem_nil, false_implies, implies_true, and_true]
    decide
  have letters : ∀ c : CodePoint, c.isAsciiLetter = true → 0x2D ≤ c.val ∧ c.val < 0x80 := by
    intro c letter
    simp only [CodePoint.isAsciiLetter, CodePoint.isAsciiUpper, CodePoint.isAsciiLower,
      Bool.or_eq_true, Bool.and_eq_true, decide_eq_true_eq] at letter
    omega
  cases name with
  | nil => simp [isIdentifier] at valid
  | cons first rest =>
    simp only [isIdentifier, Bool.and_eq_true, List.all_eq_true, Bool.or_eq_true,
      decide_eq_true_eq] at valid
    intro c member
    rcases List.mem_cons.mp member with rfl | member
    · exact letters _ valid.1.1
    · rcases valid.2 c member with (letter | digit) | mark
      · exact letters _ letter
      · simp only [CodePoint.isAsciiDigit, Bool.and_eq_true, decide_eq_true_eq] at digit
        omega
      · exact marks _ mark

theorem isEncodable_of_isIdentifier (valid : isIdentifier name = true) :
    isEncodable name = true :=
  Json.isEncodable_of_isAscii fun c member => (val_of_isIdentifier valid c member).2

theorem hasNul_of_isIdentifier (valid : isIdentifier name = true) :
    hasNul name = false := by
  simp only [hasNul, List.any_eq_false, beq_iff_eq]
  intro c member zero
  have := (val_of_isIdentifier valid c member).1
  omega

theorem length_of_isIdentifier (valid : isIdentifier name = true) :
    name.length ≤ 256 ∧ name ≠ [] := by
  cases name with
  | nil => simp [isIdentifier] at valid
  | cons first rest =>
    simp only [isIdentifier, Bool.and_eq_true, decide_eq_true_eq] at valid
    simp only [List.length_cons, ne_eq, reduceCtorEq, not_false_eq_true, and_true]
    omega

theorem identifier_eq_ok {result : PyStr} :
    identifier (.str content) name = .ok result ↔
      result = content ∧ isIdentifier content = true := by
  simp only [identifier, ProcessIR.text, bind_eq_ok, raiseIf_eq_ok, pure_eq_ok, Bool.not_eq_false,
    Unique.exists_iff]
  constructor
  · rintro ⟨read, ⟨-, -, rfl⟩, valid, rfl⟩
    exact ⟨rfl, valid⟩
  · rintro ⟨rfl, valid⟩
    obtain ⟨short, nonempty⟩ := length_of_isIdentifier valid
    refine ⟨_, ⟨?_, ?_, rfl⟩, valid, rfl⟩
    · rw [hasNul_of_isIdentifier valid]
      simp [short]
    · simp [nonempty]

/-! ### Texts of the records -/

structure PlainText (content : PyStr) : Prop where
  short : content.length ≤ 4096
  noNul : hasNul content = false
  encodable : isEncodable content = true

theorem PlainText.of_isIdentifier (valid : isIdentifier name = true) :
    PlainText name :=
  ⟨by have := (length_of_isIdentifier valid).1; omega, hasNul_of_isIdentifier valid,
    isEncodable_of_isIdentifier valid⟩

theorem PlainText.text_eq {allowEmpty : Bool} (plain : PlainText content)
    (nonempty : allowEmpty = false → content ≠ []) :
    ProcessIR.text (.str content) name allowEmpty = .ok content := by
  have bounded : ¬ (content.length > 4096 ∨ hasNul content = true) := by
    simp [plain.noNul, plain.short]
  have filled : ¬ (allowEmpty = false ∧ content = []) := fun both => nonempty both.1 both.2
  simp only [ProcessIR.text, raiseIf, if_neg bounded, if_neg filled, ok_bind]
  rfl

/-! ### Sealed records -/

end CyberLion
