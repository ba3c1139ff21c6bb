import CyberLion.JsonStrict

/-!
# Canonical JSON texts

What `json.dumps(value, sort_keys=True, ensure_ascii=False)` writes for a value
without floats and repeated keys: the text is read back as the sorted value,
two values with one text are equal up to key order, and a text that can be
encoded has only encodable strings in it.
-/

namespace PyLib

namespace Json

inductive Plain : Json → Prop
  | null : Plain .null
  | bool (value : Bool) : Plain (.bool value)
  | int (value : Int) : Plain (.int value)
  | str (value : PyStr) : Plain (.str value)
  | arr {items : List Json} (all : ∀ item ∈ items, Plain item) : Plain (.arr items)
  | obj {fields : List (PyStr × Json)} (distinct : (fields.map Prod.fst).Nodup)
      (all : ∀ field ∈ fields, Plain field.2) : Plain (.obj fields)

@[simp]
theorem plain_str (value : PyStr) : Plain (.str value) :=
  .str value

@[simp]
theorem plain_int (value : Int) : Plain (.int value) :=
  .int value

theorem Plain.strict {value : Json} (plain : Plain value)
    (printable : value.isPrintable = true) : Strict value := by
  induction plain with
  | null => exact .null
  | bool value => exact .bool value
  | int value => exact .int printable
  | str value => exact .str value
  | arr all ih =>
    exact .arr fun item member => ih item member (isPrintable_of_mem printable member)
  | obj distinct all ih =>
    exact .obj distinct fun field member =>
      ih field member (isPrintable_of_mem_fields printable member)

theorem Strict.plain {value : Json} (strict : Strict value) : Plain value := by
  induction strict with
  | null => exact .null
  | bool value => exact .bool value
  | int printable => exact .int _
  | str value => exact .str value
  | arr all ih => exact .arr ih
  | obj distinct all ih => exact .obj distinct ih

theorem arePrintable_of_forall {items : List Json}
    (all : ∀ item ∈ items, item.isPrintable = true) : arePrintable items = true := by
  induction items with
  | nil => rfl
  | cons item items ih =>
    rw [arePrintable, all item (by simp), ih fun other member => all other (by simp [member])]
    rfl

theorem Strict.isPrintable {value : Json} (strict : Strict value) :
    value.isPrintable = true := by
  induction strict with
  | null => rfl
  | bool value => rfl
  | int printable => exact printable
  | str value => rfl
  | arr all ih =>
    rw [Json.isPrintable]
    exact arePrintable_of_forall ih
  | obj distinct all ih =>
    rw [Json.isPrintable]
    exact membersPrintable_of_forall ih

theorem dumps_eq_ok {ensureAscii sortKeysFlag : Bool} {value : Json} {text : PyStr} :
    dumps ensureAscii sortKeysFlag value = .ok text ↔
      value.isPrintable = true ∧
        text = render ensureAscii (if sortKeysFlag then value.sortKeys else value) := by
  unfold dumps
  split
  · rename_i printable
    simp only [Except.ok.injEq, printable, true_and]
    exact eq_comm
  · rename_i notPrintable
    simp [notPrintable]

theorem arePrintable_eq_all (items : List Json) :
    arePrintable items = items.all Json.isPrintable := by
  induction items with
  | nil => rfl
  | cons item items ih => rw [arePrintable, List.all_cons, ih]

theorem membersPrintable_eq_all (fields : List (PyStr × Json)) :
    membersPrintable fields = fields.all fun field => field.2.isPrintable := by
  induction fields with
  | nil => rfl
  | cons field fields ih => rw [membersPrintable, List.all_cons, ih]

theorem isPrintable_sortKeys (value : Json) : value.sortKeys.isPrintable = value.isPrintable := by
  induction value with
  | arr items ih =>
    rw [sortKeys, isPrintable, isPrintable, arePrintable_eq_all, arePrintable_eq_all,
      sortItems_eq_map, List.all_map, Bool.eq_iff_iff, List.all_eq_true, List.all_eq_true]
    exact forall₂_congr fun item member => by rw [Function.comp_apply, ih item member]
  | obj fields ih =>
    rw [sortKeys, isPrintable, isPrintable, membersPrintable_eq_all, membersPrintable_eq_all,
      (sortFields_perm _).all_eq, sortMembers_eq_map, List.all_map, Bool.eq_iff_iff,
      List.all_eq_true, List.all_eq_true]
    exact forall₂_congr fun field member => by rw [Function.comp_apply, ih field member]
  | _ => rw [sortKeys]

theorem keepsDistinct_plainHooks : KeepsDistinct plainHooks := by
  intro fields distinct
  exact congrArg Except.ok (dictOfPairs_eq_self distinct)

theorem Plain.loads_dumps {value : Json} (plain : Plain value) {text : PyStr}
    (written : dumps false true value = .ok text) :
    loads plainHooks text = .ok value.sortKeys := by
  obtain ⟨printable, rfl⟩ := dumps_eq_ok.mp written
  exact (plain.strict printable).sortKeys.loads_render keepsDistinct_plainHooks

theorem Plain.sortKeys_eq {first second : Json} (firstPlain : Plain first)
    (secondPlain : Plain second) {text : PyStr}
    (firstWritten : dumps false true first = .ok text)
    (secondWritten : dumps false true second = .ok text) :
    first.sortKeys = second.sortKeys := by
  have read := firstPlain.loads_dumps firstWritten
  rw [secondPlain.loads_dumps secondWritten] at read
  exact (Except.ok.inj read).symm

/-! ### Arrays of texts -/

theorem decodedItems_map_str (ensureAscii : Bool) (values : List PyStr) :
    decodedItems ensureAscii (values.map Json.str) =
      values.map fun value => Json.str (decodeText ensureAscii value) := by
  induction values with
  | nil => rfl
  | cons value values ih => rw [List.map_cons, decodedItems, decoded, ih, List.map_cons]

theorem loads_dumps_texts {hooks : Hooks} {ensureAscii : Bool} {values : List PyStr}
    {text : PyStr} (written : dumps ensureAscii false (.arr (values.map Json.str)) = .ok text) :
    loads hooks text =
      .ok (.arr (values.map fun value => Json.str (decodeText ensureAscii value))) := by
  have readable : Readable hooks ensureAscii (.arr (values.map Json.str)) := by
    apply itemsReadable_of_forall
    intro item member
    obtain ⟨value, -, rfl⟩ := List.mem_map.mp member
    trivial
  have read := loads_dumps written readable
  rw [if_neg (by simp), decoded, decodedItems_map_str] at read
  exact read

/-! ### Reading fields of a sorted object -/

theorem lookup_map_snd (transform : Json → Json) (fields : List (PyStr × Json)) (key : PyStr) :
    (fields.map fun field => (field.1, transform field.2)).lookup key =
      (fields.lookup key).map transform := by
  induction fields with
  | nil => rfl
  | cons field fields ih =>
    rw [List.map_cons, List.lookup_cons, List.lookup_cons]
    cases key == field.1 with
    | true => rfl
    | false => exact ih

theorem lookup_sortFields {fields : List (PyStr × Json)}
    (distinct : (fields.map Prod.fst).Nodup) (key : PyStr) :
    (sortFields (sortMembers fields)).lookup key = (fields.lookup key).map sortKeys := by
  have keys : ((sortFields (sortMembers fields)).map Prod.fst).Nodup := by
    rw [((sortFields_perm _).map Prod.fst).nodup_iff, keys_sortMembers]
    exact distinct
  rw [lookup_eq_of_perm (sortFields_perm _) keys, sortMembers_eq_map, lookup_map_snd]

theorem fields_eq_of_sortKeys_eq {first second : List (PyStr × Json)}
    (keys : first.map Prod.fst = second.map Prod.fst) (distinct : (first.map Prod.fst).Nodup)
    (firstFlat : ∀ field ∈ first, field.2.sortKeys = field.2)
    (secondFlat : ∀ field ∈ second, field.2.sortKeys = field.2)
    (same : (Json.obj first).sortKeys = (Json.obj second).sortKeys) : first = second := by
  have flatLookup : ∀ {fields : List (PyStr × Json)},
      (∀ field ∈ fields, field.2.sortKeys = field.2) → ∀ key,
      (fields.lookup key).map sortKeys = fields.lookup key := by
    intro fields flat key
    cases found : fields.lookup key with
    | none => rfl
    | some value => rw [Option.map_some, flat (key, value) (mem_of_lookup found)]
  have secondDistinct : (second.map Prod.fst).Nodup := keys ▸ distinct
  rw [sortKeys, sortKeys, Json.obj.injEq] at same
  apply eq_of_lookup_eq keys distinct
  intro key _
  rw [← flatLookup firstFlat, ← flatLookup secondFlat, ← lookup_sortFields distinct,
    ← lookup_sortFields secondDistinct, same]

/-! ### Strings inside an encodable text -/

theorem mem_renderItems {items : List Json} {item : Json} (member : item ∈ items)
    {c : CodePoint} (written : c ∈ render false item) : c ∈ renderItems false items := by
  induction items with
  | nil => simp at member
  | cons first items ih =>
    rw [renderItems]
    rcases List.mem_cons.mp member with rfl | member
    · simp [written]
    · simp [ih member]

theorem mem_render_arr {items : List Json} {item : Json} (member : item ∈ items)
    {c : CodePoint} (written : c ∈ render false item) : c ∈ render false (.arr items) := by
  cases items with
  | nil => simp at member
  | cons first items =>
    rw [render]
    rcases List.mem_cons.mp member with rfl | member
    · simp [written]
    · simp [mem_renderItems member written]

theorem mem_renderFields {fields : List (PyStr × Json)} {field : PyStr × Json}
    (member : field ∈ fields) {c : CodePoint} (written : c ∈ render false field.2) :
    c ∈ renderFields false fields := by
  induction fields with
  | nil => simp at member
  | cons first fields ih =>
    rw [renderFields]
    rcases List.mem_cons.mp member with rfl | member
    · simp [written]
    · simp [ih member]

theorem mem_render_obj {fields : List (PyStr × Json)} {field : PyStr × Json}
    (member : field ∈ fields) {c : CodePoint} (written : c ∈ render false field.2) :
    c ∈ render false (.obj fields) := by
  cases fields with
  | nil => simp at member
  | cons first fields =>
    rw [render]
    rcases List.mem_cons.mp member with rfl | member
    · simp [written]
    · simp [mem_renderFields member written]

theorem mem_render_str {text : PyStr} {c : CodePoint} (surrogate : c.isSurrogate = true)
    (member : c ∈ text) : c ∈ render false (.str text) := by
  have large : 0xD800 ≤ c.val := by
    simp only [CodePoint.isSurrogate, CodePoint.isHighSurrogate, CodePoint.isLowSurrogate,
      Bool.or_eq_true, Bool.and_eq_true, decide_eq_true_eq] at surrogate
    omega
  have kept : escapeChar false c = [c] := by
    have plain : shortEscape c = none := by
      unfold shortEscape
      repeat rw [if_neg (by omega)]
    rw [escapeChar, plain]
    simp only [Bool.false_and, Bool.false_eq_true, if_false]
    rw [if_neg (by omega)]
  rw [render, renderText]
  simp only [List.mem_append, escapeText, List.mem_flatMap]
  exact .inl (.inr ⟨c, member, by rw [kept]; simp⟩)

end Json

end PyLib
