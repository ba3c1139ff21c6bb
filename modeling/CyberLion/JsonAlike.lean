import CyberLion.JsonAscii

/-!
# Values with one ASCII text

With `ensure_ascii` the text of a value says the value up to one thing: a surrogate pair
reads back as the character of that pair.  Two values of one shape have the same canonical
text exactly when they agree after every pair is joined.
-/

namespace PyLib

namespace Json

/-! ### Strings -/

theorem shortEscape_eq_none_of_le {c : CodePoint} (large : 0x7F ≤ c.val) :
    shortEscape c = none := by
  cases short : shortEscape c with
  | none => rfl
  | some escape =>
    unfold shortEscape at short
    split_ifs at short with first second third fourth fifth sixth seventh
    all_goals omega

theorem escapeChar_of_lt {c : CodePoint} (large : 0x7F ≤ c.val) (basic : c.val < 0x10000) :
    escapeChar true c = unicodeEscape c.val := by
  have notControl : ¬ c.val < 0x20 := by omega
  simp [escapeChar, shortEscape_eq_none_of_le large, notControl, large, basic]

theorem escapeChar_of_le {c : CodePoint} (astral : 0x10000 ≤ c.val) :
    escapeChar true c = unicodeEscape (0xD800 + (c.val - 0x10000) / 0x400) ++
      unicodeEscape (0xDC00 + (c.val - 0x10000) % 0x400) := by
  have notControl : ¬ c.val < 0x20 := by omega
  have large : 0x7F ≤ c.val := by omega
  have notBasic : ¬ c.val < 0x10000 := by omega
  simp [escapeChar, shortEscape_eq_none_of_le large, notControl, large, notBasic]

theorem escapeChar_joinPair {high low : CodePoint} (isHigh : high.isHighSurrogate = true)
    (isLow : low.isLowSurrogate = true) :
    escapeChar true (joinPair high low) = escapeChar true high ++ escapeChar true low := by
  simp only [CodePoint.isHighSurrogate, CodePoint.isLowSurrogate, Bool.and_eq_true,
    decide_eq_true_eq] at isHigh isLow
  have value : (joinPair high low).val =
      0x10000 + (high.val - 0xD800) * 0x400 + (low.val - 0xDC00) := by
    rw [joinPair]
    exact Nat.mod_eq_of_lt (by omega)
  have first : 0xD800 + ((joinPair high low).val - 0x10000) / 0x400 = high.val := by
    rw [value]
    omega
  have second : 0xDC00 + ((joinPair high low).val - 0x10000) % 0x400 = low.val := by
    rw [value]
    omega
  rw [escapeChar_of_le (by omega), first, second,
    escapeChar_of_lt (by omega) (by omega),
    escapeChar_of_lt (by omega) (by omega)]

theorem escapeText_decodeText : ∀ text : PyStr,
    escapeText true (decodeText true text) = escapeText true text
  | [] => rfl
  | [_] => rfl
  | first :: second :: rest => by
    have tail := escapeText_decodeText (second :: rest)
    have later := escapeText_decodeText rest
    simp only [decodeText, if_true, escapeText, List.map_cons, List.flatMap_cons] at tail later ⊢
    rw [joinUnits]
    split
    · rename_i pair
      simp only [Bool.true_and, Bool.and_eq_true] at pair
      rw [List.flatMap_cons, later, escapeChar_joinPair pair.1 pair.2, List.append_assoc]
    · rw [List.flatMap_cons, tail]

theorem renderText_decodeText (text : PyStr) :
    renderText true (decodeText true text) = renderText true text := by
  rw [renderText, renderText, escapeText_decodeText]

def IsSolid (text : PyStr) : Prop :=
  decodeText true text = text

theorem isSolid_of_hasNoSurrogatePair {text : PyStr} (noPair : hasNoSurrogatePair text = true) :
    IsSolid text :=
  decodeText_eq_self true noPair

/-! ### Values -/

theorem decodedItems_eq_map (ensureAscii : Bool) (items : List Json) :
    decodedItems ensureAscii items = items.map (decoded ensureAscii) := by
  induction items with
  | nil => rfl
  | cons item items ih => rw [decodedItems, ih, List.map_cons]

inductive Keyed : Json → Prop
  | null : Keyed .null
  | bool (value : Bool) : Keyed (.bool value)
  | int (value : Int) : Keyed (.int value)
  | str (value : PyStr) : Keyed (.str value)
  | arr {items : List Json} (all : ∀ item ∈ items, Keyed item) : Keyed (.arr items)
  | obj {fields : List (PyStr × Json)} (distinct : (fields.map Prod.fst).Nodup)
      (solid : ∀ field ∈ fields, IsSolid field.1) (all : ∀ field ∈ fields, Keyed field.2) :
      Keyed (.obj fields)

theorem decodedFields_eq_map {fields : List (PyStr × Json)}
    (solid : ∀ field ∈ fields, IsSolid field.1) :
    decodedFields true fields = fields.map fun field => (field.1, decoded true field.2) := by
  induction fields with
  | nil => rfl
  | cons field fields ih =>
    rw [decodedFields, solid field (by simp), List.map_cons,
      ih fun other member => solid other (by simp [member])]

theorem keys_decodedFields {fields : List (PyStr × Json)}
    (solid : ∀ field ∈ fields, IsSolid field.1) :
    (decodedFields true fields).map Prod.fst = fields.map Prod.fst := by
  rw [decodedFields_eq_map solid, List.map_map]
  rfl

theorem render_decoded (value : Json) : render true (decoded true value) = render true value := by
  induction value with
  | str value => rw [decoded, render, render, renderText_decodeText]
  | arr items ih =>
    have rest : ∀ members : List Json, members ⊆ items →
        renderItems true (decodedItems true members) = renderItems true members := by
      intro members inside
      induction members with
      | nil => rfl
      | cons item members restIh =>
        rw [List.cons_subset] at inside
        rw [decodedItems, renderItems, renderItems, ih item inside.1, restIh inside.2]
    cases items with
    | nil => rfl
    | cons item items =>
      rw [decoded, decodedItems, render, render, ih item (by simp),
        rest items (List.subset_cons_self item items)]
  | obj fields ih =>
    have rest : ∀ members : List (PyStr × Json), members ⊆ fields →
        renderFields true (decodedFields true members) = renderFields true members := by
      intro members inside
      induction members with
      | nil => rfl
      | cons field members restIh =>
        rw [List.cons_subset] at inside
        rw [decodedFields, renderFields, renderFields, renderText_decodeText,
          ih field inside.1, restIh inside.2]
    cases fields with
    | nil => rfl
    | cons field fields =>
      rw [decoded, decodedFields, render, render, renderText_decodeText,
        ih field (by simp), rest fields (List.subset_cons_self field fields)]
  | _ => rfl

theorem Keyed.sortKeys {value : Json} (keyed : Keyed value) : Keyed value.sortKeys := by
  induction keyed with
  | null => exact .null
  | bool value => exact .bool value
  | int value => exact .int value
  | str value => exact .str value
  | arr all ih =>
    rw [Json.sortKeys, sortItems_eq_map]
    apply Keyed.arr
    intro item member
    obtain ⟨source, sourceMem, rfl⟩ := List.mem_map.mp member
    exact ih source sourceMem
  | @obj fields distinct solid all ih =>
    rw [Json.sortKeys]
    have source : ∀ field ∈ sortFields (sortMembers fields), ∃ original ∈ fields,
        field = (original.1, original.2.sortKeys) := by
      intro field member
      rw [(sortFields_perm _).mem_iff, sortMembers_eq_map] at member
      obtain ⟨original, originalMem, rfl⟩ := List.mem_map.mp member
      exact ⟨original, originalMem, rfl⟩
    apply Keyed.obj
    · rw [((sortFields_perm _).map Prod.fst).nodup_iff, keys_sortMembers]
      exact distinct
    · intro field member
      obtain ⟨original, originalMem, rfl⟩ := source field member
      exact solid original originalMem
    · intro field member
      obtain ⟨original, originalMem, rfl⟩ := source field member
      exact ih original originalMem

theorem Keyed.readable {value : Json} (keyed : Keyed value)
    (printable : value.isPrintable = true) : Readable plainHooks true value := by
  induction keyed with
  | null => trivial
  | bool value => trivial
  | int value => exact printable
  | str value => trivial
  | arr all ih =>
    exact itemsReadable_of_forall fun item member =>
      ih item member (isPrintable_of_mem printable member)
  | obj distinct solid all ih =>
    refine ⟨fieldsReadable_of_forall fun field member =>
      ih field member (isPrintable_of_mem_fields printable member), ?_⟩
    apply keepsDistinct_plainHooks
    rw [keys_decodedFields solid]
    exact distinct

theorem Keyed.decoded_sortKeys {value : Json} (keyed : Keyed value) :
    decoded true value.sortKeys = (decoded true value).sortKeys := by
  induction keyed with
  | @arr items all ih =>
    rw [Json.sortKeys, decoded, decoded, Json.sortKeys, sortItems_eq_map, decodedItems_eq_map,
      decodedItems_eq_map, sortItems_eq_map, List.map_map, List.map_map]
    congr 1
    exact List.map_congr_left fun item member => ih item member
  | @obj fields distinct solid all ih =>
    have members : (sortMembers fields).map (fun field => (field.1, decoded true field.2)) =
        sortMembers (fields.map fun field => (field.1, decoded true field.2)) := by
      rw [sortMembers_eq_map, sortMembers_eq_map, List.map_map, List.map_map]
      exact List.map_congr_left fun field member =>
        congrArg (Prod.mk field.1) (ih field member)
    have solidMembers : ∀ field ∈ sortMembers fields, IsSolid field.1 := by
      intro field member
      rw [sortMembers_eq_map] at member
      obtain ⟨original, originalMem, rfl⟩ := List.mem_map.mp member
      exact solid original originalMem
    have solidSorted : ∀ field ∈ sortFields (sortMembers fields), IsSolid field.1 :=
      fun field member => solidMembers field ((sortFields_perm _).mem_iff.mp member)
    rw [Json.sortKeys, decoded, decoded, Json.sortKeys, decodedFields_eq_map solidSorted,
      decodedFields_eq_map solid, ← members, ← decodedFields_eq_map solidMembers]
    congr 1
    have arranged : ((sortFields (sortMembers fields)).map fun field =>
        (field.1, decoded true field.2)).Perm (decodedFields true (sortMembers fields)) := by
      rw [decodedFields_eq_map solidMembers]
      exact (sortFields_perm _).map _
    have keys : (((sortFields (sortMembers fields)).map fun field =>
        (field.1, decoded true field.2)).map Prod.fst).Nodup := by
      rw [(arranged.map Prod.fst).nodup_iff, keys_decodedFields solidMembers, keys_sortMembers]
      exact distinct
    rw [← sortFields_eq_of_perm arranged keys]
    -- the sorted fields are sorted by their keys, which joining leaves as they are
    have sorted : ((sortFields (sortMembers fields)).map fun field =>
        (field.1, decoded true field.2)).Pairwise keyLe :=
      (List.pairwise_insertionSort keyLe (sortMembers fields)).map _ fun _ _ le => le
    exact (List.Pairwise.insertionSort_eq sorted).symm
  | _ => rfl

theorem Keyed.loads_dumps {value : Json} (keyed : Keyed value)
    (kept : decoded true value = value) {text : PyStr}
    (written : dumps true true value = .ok text) :
    loads plainHooks text = .ok value.sortKeys := by
  obtain ⟨printable, rfl⟩ := dumps_eq_ok.mp written
  rw [if_pos rfl, loads_render (keyed.sortKeys.readable (by rw [isPrintable_sortKeys, printable])),
    keyed.decoded_sortKeys, kept]

theorem Keyed.text_eq_iff {first second : Json} (firstKeyed : Keyed first)
    (secondKeyed : Keyed second) {firstText secondText : PyStr}
    (firstWritten : dumps true true first = .ok firstText)
    (secondWritten : dumps true true second = .ok secondText) :
    firstText = secondText ↔
      (decoded true first).sortKeys = (decoded true second).sortKeys := by
  obtain ⟨firstPrintable, rfl⟩ := dumps_eq_ok.mp firstWritten
  obtain ⟨secondPrintable, rfl⟩ := dumps_eq_ok.mp secondWritten
  rw [if_pos rfl, if_pos rfl, ← firstKeyed.decoded_sortKeys, ← secondKeyed.decoded_sortKeys]
  constructor
  · intro same
    have firstRead := loads_render (firstKeyed.sortKeys.readable
      (by rw [isPrintable_sortKeys, firstPrintable]))
    rw [same, loads_render (secondKeyed.sortKeys.readable
      (by rw [isPrintable_sortKeys, secondPrintable]))] at firstRead
    exact (Except.ok.inj firstRead).symm
  · intro same
    rw [← render_decoded first.sortKeys, same, render_decoded]

/-! ### Values of one shape -/

/-- Two values of one shape: scalars and arrays of scalars, or objects with the same keys in
the same order whose values have one shape. -/
inductive SameShape : Json → Json → Prop
  | flat {first second : Json} (firstFlat : first.sortKeys = first)
      (secondFlat : second.sortKeys = second) : SameShape first second
  | obj {first second : List (PyStr × Json)} (keys : first.map Prod.fst = second.map Prod.fst)
      (distinct : (first.map Prod.fst).Nodup)
      (all : List.Forall₂ SameShape (first.map Prod.snd) (second.map Prod.snd)) :
      SameShape (.obj first) (.obj second)

theorem lookup_of_forall₂ {R : Json → Json → Prop} {first second : List (PyStr × Json)}
    (keys : first.map Prod.fst = second.map Prod.fst)
    (all : List.Forall₂ R (first.map Prod.snd) (second.map Prod.snd)) {key : PyStr}
    {left right : Json} (isLeft : first.lookup key = some left)
    (isRight : second.lookup key = some right) : R left right := by
  induction first generalizing second with
  | nil => exact nomatch isLeft
  | cons field fields ih =>
    cases second with
    | nil => exact nomatch isRight
    | cons other others =>
      rw [List.map_cons, List.map_cons, List.cons.injEq] at keys
      rw [List.map_cons, List.map_cons, List.forall₂_cons] at all
      rw [List.lookup_cons] at isLeft isRight
      rw [← keys.1] at isRight
      cases same : key == field.1 with
      | true =>
        rw [same] at isLeft isRight
        obtain rfl := Option.some.inj isLeft
        obtain rfl := Option.some.inj isRight
        exact all.1
      | false =>
        rw [same] at isLeft isRight
        exact ih keys.2 all.2 isLeft isRight

theorem SameShape.eq_of_sortKeys_eq {first second : Json} (shape : SameShape first second)
    (same : first.sortKeys = second.sortKeys) : first = second := by
  induction first generalizing second with
  | obj fields ih =>
    cases shape with
    | flat firstFlat secondFlat => rw [← firstFlat, same, secondFlat]
    | @obj _ others keys distinct all =>
      have otherDistinct : (others.map Prod.fst).Nodup := keys ▸ distinct
      rw [sortKeys, sortKeys, Json.obj.injEq] at same
      congr 1
      apply eq_of_lookup_eq keys distinct
      intro key member
      have sorted : (fields.lookup key).map sortKeys = (others.lookup key).map sortKeys := by
        rw [← lookup_sortFields distinct, same, lookup_sortFields otherDistinct]
      cases isLeft : fields.lookup key with
      | none =>
        rw [isLeft, Option.map_none, eq_comm, Option.map_eq_none_iff] at sorted
        exact sorted.symm
      | some left =>
        rw [isLeft, Option.map_some, eq_comm, Option.map_eq_some_iff] at sorted
        obtain ⟨right, isRight, sameValue⟩ := sorted
        have sameField : left = right := ih (key, left) (mem_of_lookup isLeft)
          (lookup_of_forall₂ keys all isLeft isRight) sameValue.symm
        rw [isRight, sameField]
  | _ =>
    cases shape with
    | flat firstFlat secondFlat => rw [← firstFlat, same, secondFlat]

end Json

end PyLib
