import CyberLion.JsonCanonical

/-!
# JSON in ASCII

What `json.dumps` writes by default for a value without floats is ASCII, so
encoding the text never fails.
-/

namespace PyLib

namespace Json

@[simp]
theorem floatless_str (value : PyStr) : Floatless (.str value) :=
  .str value

@[simp]
theorem floatless_int (value : Int) : Floatless (.int value) :=
  .int value

@[simp]
theorem floatless_bool (value : Bool) : Floatless (.bool value) :=
  .bool value

def IsAscii (text : PyStr) : Prop :=
  ∀ c ∈ text, c.val < 0x80

instance (text : PyStr) : Decidable (IsAscii text) :=
  List.decidableBAll _ text

theorem isAscii_append {first second : PyStr} :
    IsAscii (first ++ second) ↔ IsAscii first ∧ IsAscii second := by
  unfold IsAscii
  exact List.forall_mem_append

theorem isAscii_unicodeEscape (unit : Nat) : IsAscii (unicodeEscape unit) := by
  have digits : ∀ digit < 16, (hexPoint digit).val < 0x80 := by decide
  have small : ∀ value : Nat, value % 16 < 16 := fun value => Nat.mod_lt value (by decide)
  rw [unicodeEscape, isAscii_append]
  refine ⟨by decide, ?_⟩
  intro c member
  simp only [List.mem_cons, List.not_mem_nil, or_false] at member
  rcases member with rfl | rfl | rfl | rfl <;> exact digits _ (small _)

theorem isAscii_escapeChar (c : CodePoint) : IsAscii (escapeChar true c) := by
  unfold escapeChar
  split
  · rename_i escape found
    unfold shortEscape at found
    split_ifs at found <;> (obtain rfl := Option.some.inj found; decide)
  · split_ifs with control wide
    · exact isAscii_unicodeEscape _
    · exact isAscii_unicodeEscape _
    · rw [isAscii_append]
      exact ⟨isAscii_unicodeEscape _, isAscii_unicodeEscape _⟩
    · intro other member
      rw [List.mem_singleton.mp member]
      simp only [Bool.true_and, decide_eq_true_eq, not_le] at wide
      omega

theorem isAscii_renderText (text : PyStr) : IsAscii (renderText true text) := by
  rw [renderText, isAscii_append, isAscii_append]
  refine ⟨⟨by decide, ?_⟩, by decide⟩
  intro c member
  obtain ⟨original, -, written⟩ := List.mem_flatMap.mp member
  exact isAscii_escapeChar original c written

theorem isAscii_intText (value : Int) : IsAscii (intText value) := by
  have digits : ∀ n, IsAscii (natText n) := by
    intro n c member
    have digit := natText_isAsciiDigit n c member
    simp only [CodePoint.isAsciiDigit, Bool.and_eq_true, decide_eq_true_eq] at digit
    omega
  cases value with
  | ofNat n => exact digits n
  | negSucc n =>
    rw [intText, isAscii_append]
    exact ⟨by decide, digits _⟩

theorem isAscii_renderItems {items : List Json}
    (all : ∀ item ∈ items, IsAscii (render true item)) : IsAscii (renderItems true items) := by
  induction items with
  | nil => exact fun _ member => by simp [renderItems] at member
  | cons item items ih =>
    rw [renderItems, isAscii_append, isAscii_append]
    exact ⟨⟨by decide, all item (by simp)⟩, ih fun other member => all other (by simp [member])⟩

theorem isAscii_renderFields {fields : List (PyStr × Json)}
    (all : ∀ field ∈ fields, IsAscii (render true field.2)) :
    IsAscii (renderFields true fields) := by
  induction fields with
  | nil => exact fun _ member => by simp [renderFields] at member
  | cons field fields ih =>
    simp only [renderFields, isAscii_append]
    exact ⟨⟨⟨⟨by decide, isAscii_renderText _⟩, by decide⟩, all field (by simp)⟩,
      ih fun other member => all other (by simp [member])⟩

theorem Floatless.isAscii_render {value : Json} (floatless : Floatless value) :
    IsAscii (render true value) := by
  induction floatless with
  | null => rw [render]; decide
  | bool value => cases value <;> (rw [render]; decide)
  | int value => rw [render]; exact isAscii_intText value
  | str value => rw [render]; exact isAscii_renderText value
  | @arr items all ih =>
    cases items with
    | nil => rw [render]; decide
    | cons item items =>
      simp only [render, isAscii_append]
      exact ⟨⟨⟨by decide, ih item (by simp)⟩,
        isAscii_renderItems fun other member => ih other (by simp [member])⟩, by decide⟩
  | @obj fields all ih =>
    cases fields with
    | nil => rw [render]; decide
    | cons field fields =>
      simp only [render, isAscii_append]
      exact ⟨⟨⟨⟨⟨by decide, isAscii_renderText _⟩, by decide⟩, ih field (by simp)⟩,
        isAscii_renderFields fun other member => ih other (by simp [member])⟩, by decide⟩

theorem isEncodable_of_isAscii {text : PyStr} (ascii : IsAscii text) :
    isEncodable text = true := by
  apply List.all_eq_true.mpr
  intro c member
  have small := ascii c member
  simp only [CodePoint.isSurrogate, CodePoint.isHighSurrogate, CodePoint.isLowSurrogate,
    Bool.not_eq_true', Bool.or_eq_false_iff, Bool.and_eq_false_iff, decide_eq_false_iff_not]
  omega

theorem Floatless.sortKeys {value : Json} (floatless : Floatless value) :
    Floatless value.sortKeys := by
  induction floatless with
  | null => exact .null
  | bool value => exact .bool value
  | int value => exact .int value
  | str value => exact .str value
  | arr all ih =>
    rw [Json.sortKeys, sortItems_eq_map]
    apply Floatless.arr
    intro item member
    obtain ⟨original, originalMember, rfl⟩ := List.mem_map.mp member
    exact ih original originalMember
  | obj all ih =>
    rw [Json.sortKeys]
    apply Floatless.obj
    intro field member
    rw [(sortFields_perm _).mem_iff, sortMembers_eq_map] at member
    obtain ⟨original, originalMember, rfl⟩ := List.mem_map.mp member
    exact ih original originalMember

theorem exists_encodeUtf8_dumps {value : Json} (floatless : Floatless value)
    (printable : value.isPrintable = true) (sortKeysFlag : Bool) :
    ∃ text bytes, dumps true sortKeysFlag value = .ok text ∧ encodeUtf8 text = .ok bytes := by
  refine ⟨_, ⟨_, isEncodable_of_isAscii ?_⟩, dumps_eq_ok.mpr ⟨printable, rfl⟩,
    encodeUtf8_eq_ok.mpr rfl⟩
  cases sortKeysFlag with
  | false => exact floatless.isAscii_render
  | true => exact floatless.sortKeys.isAscii_render

end Json

end PyLib
