import CyberLion.JsonAscii

/-!
# JSON that can be encoded

Without `ensure_ascii` the text of a value holds the characters of its strings
as they are, so it can be encoded exactly when they can.
-/

namespace PyLib

namespace Json

/-- No string of the value holds a surrogate, and no member is a float. -/
inductive Writable : Json → Prop
  | null : Writable .null
  | bool (value : Bool) : Writable (.bool value)
  | int (value : Int) : Writable (.int value)
  | str {value : PyStr} (encodable : isEncodable value = true) : Writable (.str value)
  | arr {items : List Json} (all : ∀ item ∈ items, Writable item) : Writable (.arr items)
  | obj {fields : List (PyStr × Json)} (keys : ∀ field ∈ fields, isEncodable field.1 = true)
      (all : ∀ field ∈ fields, Writable field.2) : Writable (.obj fields)

@[simp]
theorem writable_str_iff {value : PyStr} : Writable (.str value) ↔ isEncodable value = true :=
  ⟨fun writable => by cases writable; assumption, .str⟩

@[simp]
theorem writable_int (value : Int) : Writable (.int value) :=
  .int value

theorem isEncodable_append {first second : PyStr} :
    isEncodable (first ++ second) = true ↔
      isEncodable first = true ∧ isEncodable second = true := by
  simp [isEncodable, List.all_append]

theorem isEncodable_escapeChar {c : CodePoint} (scalar : c.isSurrogate = false) :
    isEncodable (escapeChar false c) = true := by
  unfold escapeChar
  split
  · rename_i escape found
    unfold shortEscape at found
    split_ifs at found <;> (obtain rfl := Option.some.inj found; decide)
  · split_ifs with control wide
    · exact isEncodable_of_isAscii (isAscii_unicodeEscape _)
    · simp at wide
    · simp at wide
    · simp [isEncodable, scalar]

theorem isEncodable_renderText {text : PyStr} (encodable : isEncodable text = true) :
    isEncodable (renderText false text) = true := by
  rw [renderText, isEncodable_append, isEncodable_append]
  refine ⟨⟨by decide, ?_⟩, by decide⟩
  rw [isEncodable, List.all_eq_true] at encodable ⊢
  intro c member
  obtain ⟨original, inText, written⟩ := List.mem_flatMap.mp member
  exact List.all_eq_true.mp (isEncodable_escapeChar (by simpa using encodable original inText))
    c written

theorem isEncodable_renderItems {items : List Json}
    (all : ∀ item ∈ items, isEncodable (render false item) = true) :
    isEncodable (renderItems false items) = true := by
  induction items with
  | nil => rw [renderItems]; decide
  | cons item items ih =>
    rw [renderItems, isEncodable_append, isEncodable_append]
    exact ⟨⟨by decide, all item (by simp)⟩, ih fun other member => all other (by simp [member])⟩

theorem isEncodable_renderFields {fields : List (PyStr × Json)}
    (keys : ∀ field ∈ fields, isEncodable field.1 = true)
    (all : ∀ field ∈ fields, isEncodable (render false field.2) = true) :
    isEncodable (renderFields false fields) = true := by
  induction fields with
  | nil => rw [renderFields]; decide
  | cons field fields ih =>
    simp only [renderFields, isEncodable_append]
    exact ⟨⟨⟨⟨by decide, isEncodable_renderText (keys field (by simp))⟩, by decide⟩,
      all field (by simp)⟩, ih (fun other member => keys other (by simp [member]))
        fun other member => all other (by simp [member])⟩

theorem isEncodable_render_arr {items : List Json}
    (all : ∀ item ∈ items, isEncodable (render false item) = true) :
    isEncodable (render false (.arr items)) = true := by
  cases items with
  | nil => rw [render]; decide
  | cons item items =>
    simp only [render, isEncodable_append]
    exact ⟨⟨⟨by decide, all item (by simp)⟩,
      isEncodable_renderItems fun other member => all other (by simp [member])⟩, by decide⟩

theorem isEncodable_render_obj {fields : List (PyStr × Json)}
    (keys : ∀ field ∈ fields, isEncodable field.1 = true)
    (all : ∀ field ∈ fields, isEncodable (render false field.2) = true) :
    isEncodable (render false (.obj fields)) = true := by
  cases fields with
  | nil => rw [render]; decide
  | cons field fields =>
    simp only [render, isEncodable_append]
    exact ⟨⟨⟨⟨⟨by decide, isEncodable_renderText (keys field (by simp))⟩, by decide⟩,
      all field (by simp)⟩, isEncodable_renderFields
        (fun other member => keys other (by simp [member]))
        fun other member => all other (by simp [member])⟩, by decide⟩

theorem Writable.isEncodable_render {value : Json} (writable : Writable value) :
    isEncodable (render false value) = true := by
  induction writable with
  | null => rw [render]; decide
  | bool value => cases value <;> (rw [render]; decide)
  | int value => rw [render]; exact isEncodable_of_isAscii (isAscii_intText value)
  | str encodable => rw [render]; exact isEncodable_renderText encodable
  | arr all ih => exact isEncodable_render_arr ih
  | obj keys all ih => exact isEncodable_render_obj keys ih

theorem Writable.sortKeys {value : Json} (writable : Writable value) :
    Writable value.sortKeys := by
  induction writable with
  | null => exact .null
  | bool value => exact .bool value
  | int value => exact .int value
  | str encodable => exact .str encodable
  | arr all ih =>
    rw [Json.sortKeys, sortItems_eq_map]
    refine .arr fun item member => ?_
    obtain ⟨original, originalMember, rfl⟩ := List.mem_map.mp member
    exact ih original originalMember
  | obj keys all ih =>
    rw [Json.sortKeys]
    refine .obj (fun field member => ?_) fun field member => ?_
    all_goals
      rw [(sortFields_perm _).mem_iff, sortMembers_eq_map] at member
      obtain ⟨original, originalMember, rfl⟩ := List.mem_map.mp member
    · exact keys original originalMember
    · exact ih original originalMember

theorem Writable.exists_encodeUtf8 {value : Json} (writable : Writable value)
    (printable : value.isPrintable = true) (sortKeysFlag : Bool) :
    ∃ text bytes, dumps false sortKeysFlag value = .ok text ∧ encodeUtf8 text = .ok bytes := by
  refine ⟨_, ⟨_, ?_⟩, dumps_eq_ok.mpr ⟨printable, rfl⟩, encodeUtf8_eq_ok.mpr rfl⟩
  cases sortKeysFlag with
  | false => exact writable.isEncodable_render
  | true => exact writable.sortKeys.isEncodable_render

/-! ### Values that were written -/

theorem mem_renderFields_key {fields : List (PyStr × Json)} {field : PyStr × Json}
    (member : field ∈ fields) {c : CodePoint} (written : c ∈ renderText false field.1) :
    c ∈ renderFields false fields := by
  induction fields with
  | nil => simp at member
  | cons first fields ih =>
    rw [renderFields]
    rcases List.mem_cons.mp member with rfl | member
    · simp [written]
    · simp [ih member]

theorem mem_render_key {fields : List (PyStr × Json)} {field : PyStr × Json}
    (member : field ∈ fields) {c : CodePoint} (written : c ∈ renderText false field.1) :
    c ∈ render false (.obj fields) := by
  cases fields with
  | nil => simp at member
  | cons first fields =>
    rw [render]
    rcases List.mem_cons.mp member with rfl | member
    · simp [written]
    · simp [mem_renderFields_key member written]

theorem isEncodable_of_clean_renderText {text : PyStr}
    (clean : ∀ c ∈ renderText false text, c.isSurrogate = false) : isEncodable text = true := by
  rw [isEncodable, List.all_eq_true]
  intro c inText
  by_contra surrogate
  rw [Bool.not_eq_true', Bool.not_eq_false] at surrogate
  have written := mem_render_str surrogate inText
  rw [render] at written
  rw [clean c written] at surrogate
  cases surrogate

theorem Plain.writable_of_clean {value : Json} (plain : Plain value)
    (clean : ∀ c ∈ render false value.sortKeys, c.isSurrogate = false) : Writable value := by
  induction plain with
  | null => exact .null
  | bool value => exact .bool value
  | int value => exact .int value
  | str value =>
    rw [Json.sortKeys, render] at clean
    exact .str (isEncodable_of_clean_renderText clean)
  | arr all ih =>
    rw [Json.sortKeys, sortItems_eq_map] at clean
    refine .arr fun item member => ih item member fun c inItem => clean c ?_
    exact mem_render_arr (List.mem_map_of_mem member) inItem
  | @obj fields distinct all ih =>
    rw [Json.sortKeys] at clean
    have sorted : ∀ field ∈ fields, (field.1, field.2.sortKeys) ∈ sortFields (sortMembers fields) := by
      intro field member
      rw [(sortFields_perm _).mem_iff, sortMembers_eq_map]
      exact List.mem_map.mpr ⟨field, member, rfl⟩
    refine .obj (fun field member => ?_) fun field member => ?_
    · exact isEncodable_of_clean_renderText fun c inKey =>
        clean c (mem_render_key (sorted field member) inKey)
    · exact ih field member fun c inValue => clean c (mem_render_obj (sorted field member) inValue)

end Json

end PyLib
