import CyberLion.JsonCanonical

/-!
# Equality of JSON values

Two values are the same when their arrays agree member by member and their objects
agree key by key.  The order of the keys does not count, and for values with
distinct keys that is the equality of the sorted forms.
-/

namespace PyLib

namespace Json

/-- The same JSON value, up to the order of the keys of its objects. -/
inductive SameValue : Json → Json → Prop
  | null : SameValue .null .null
  | bool (flag : Bool) : SameValue (.bool flag) (.bool flag)
  | int (number : Int) : SameValue (.int number) (.int number)
  | float (literal : PyStr) : SameValue (.float literal) (.float literal)
  | str (text : PyStr) : SameValue (.str text) (.str text)
  | arr {items others : List Json} (length : items.length = others.length)
      (members : ∀ (index : Nat) item other, items[index]? = some item →
        others[index]? = some other → SameValue item other) :
      SameValue (.arr items) (.arr others)
  | obj {fields others : List (PyStr × Json)}
      (keys : ∀ key, key ∈ fields.map Prod.fst ↔ key ∈ others.map Prod.fst)
      (members : ∀ key value other, (key, value) ∈ fields → (key, other) ∈ others →
        SameValue value other) :
      SameValue (.obj fields) (.obj others)

theorem arePrintable_eq_true_iff {items : List Json} :
    arePrintable items = true ↔ ∀ item ∈ items, item.isPrintable = true := by
  rw [arePrintable_eq_all, List.all_eq_true]

theorem membersPrintable_eq_true_iff {fields : List (PyStr × Json)} :
    membersPrintable fields = true ↔ ∀ field ∈ fields, field.2.isPrintable = true := by
  rw [membersPrintable_eq_all, List.all_eq_true]

theorem SameValue.isPrintable {first second : Json} (same : SameValue first second)
    (printable : first.isPrintable = true) : second.isPrintable = true := by
  induction same with
  | arr length members ih =>
    rw [Json.isPrintable, arePrintable_eq_true_iff] at printable ⊢
    intro other member
    obtain ⟨index, isOther⟩ := List.mem_iff_getElem?.mp member
    have below := (List.getElem?_eq_some_iff.mp isOther).1
    rw [← length] at below
    exact ih index _ other (List.getElem?_eq_getElem below) isOther
      (printable _ (List.getElem_mem below))
  | obj keys members ih =>
    rw [Json.isPrintable, membersPrintable_eq_true_iff] at printable ⊢
    rintro ⟨key, other⟩ member
    obtain ⟨⟨_, value⟩, isField, rfl⟩ :=
      List.mem_map.mp ((keys key).mpr (List.mem_map.mpr ⟨_, member, rfl⟩))
    exact ih _ value other isField member (printable _ isField)
  | _ => exact printable

/-! ### Sorted forms -/

theorem nodup_sortMembers {fields : List (PyStr × Json)}
    (distinct : (fields.map Prod.fst).Nodup) : (sortMembers fields).Nodup := by
  apply List.Nodup.of_map Prod.fst
  rw [keys_sortMembers]
  exact distinct

theorem SameValue.sortKeys_eq {first second : Json} (same : SameValue first second)
    (firstDistinct : DistinctKeys first) (secondDistinct : DistinctKeys second) :
    first.sortKeys = second.sortKeys := by
  induction same with
  | @arr items others length members ih =>
    cases firstDistinct with
    | arr allFirst =>
      cases secondDistinct with
      | arr allSecond =>
        rw [sortKeys, sortKeys, sortItems_eq_map, sortItems_eq_map, Json.arr.injEq]
        apply List.ext_getElem (by simpa using length)
        intro index below belowOther
        rw [List.getElem_map, List.getElem_map]
        rw [List.length_map] at below belowOther
        exact ih index _ _ (List.getElem?_eq_getElem below)
          (List.getElem?_eq_getElem belowOther) (allFirst _ (List.getElem_mem below))
          (allSecond _ (List.getElem_mem belowOther))
  | @obj fields others keys members ih =>
    cases firstDistinct with
    | obj firstKeys allFirst =>
      cases secondDistinct with
      | obj secondKeys allSecond =>
        have perm : (sortMembers fields).Perm (sortMembers others) := by
          rw [List.perm_ext_iff_of_nodup (nodup_sortMembers firstKeys)
            (nodup_sortMembers secondKeys)]
          intro field
          simp only [sortMembers_eq_map, List.mem_map]
          constructor
          · rintro ⟨⟨key, value⟩, member, rfl⟩
            obtain ⟨⟨_, other⟩, otherMember, rfl⟩ :=
              List.mem_map.mp ((keys key).mp (List.mem_map.mpr ⟨_, member, rfl⟩))
            refine ⟨_, otherMember, ?_⟩
            rw [ih _ value other member otherMember (allFirst _ member)
              (allSecond _ otherMember)]
          · rintro ⟨⟨key, other⟩, otherMember, rfl⟩
            obtain ⟨⟨_, value⟩, member, rfl⟩ :=
              List.mem_map.mp ((keys key).mpr (List.mem_map.mpr ⟨_, otherMember, rfl⟩))
            refine ⟨_, member, ?_⟩
            rw [ih _ value other member otherMember (allFirst _ member)
              (allSecond _ otherMember)]
        rw [sortKeys, sortKeys, sortFields_eq_of_perm perm
          (by rw [keys_sortMembers]; exact firstKeys)]
  | _ => rfl

theorem sameValue_of_sortKeys_eq {first second : Json} (firstDistinct : DistinctKeys first)
    (secondDistinct : DistinctKeys second) (same : first.sortKeys = second.sortKeys) :
    SameValue first second := by
  induction first generalizing second with
  | null => cases second <;> simp [sortKeys] at same; exact .null
  | bool flag => cases second <;> simp [sortKeys] at same; exact same ▸ .bool flag
  | int number => cases second <;> simp [sortKeys] at same; exact same ▸ .int number
  | float literal => cases second <;> simp [sortKeys] at same; exact same ▸ .float literal
  | str text => cases second <;> simp [sortKeys] at same; exact same ▸ .str text
  | arr items ih =>
    cases second with
    | arr others =>
      cases firstDistinct with
      | arr allFirst =>
        cases secondDistinct with
        | arr allSecond =>
          rw [sortKeys, sortKeys, sortItems_eq_map, sortItems_eq_map, Json.arr.injEq] at same
          refine .arr (by simpa using congrArg List.length same) ?_
          intro index item other isItem isOther
          have sorted := congrArg (·[index]?) same
          simp only [List.getElem?_map, isItem, isOther, Option.map_some,
            Option.some.injEq] at sorted
          exact ih item (List.mem_of_getElem? isItem)
            (allFirst item (List.mem_of_getElem? isItem))
            (allSecond other (List.mem_of_getElem? isOther)) sorted
    | _ => simp [sortKeys] at same
  | obj fields ih =>
    cases second with
    | obj others =>
      cases firstDistinct with
      | obj firstKeys allFirst =>
        cases secondDistinct with
        | obj secondKeys allSecond =>
          rw [sortKeys, sortKeys, Json.obj.injEq] at same
          have perm : (sortMembers fields).Perm (sortMembers others) :=
            (sortFields_perm _).symm.trans (same ▸ sortFields_perm _)
          refine .obj (fun key => ?_) ?_
          · rw [← keys_sortMembers fields, ← keys_sortMembers others,
              (perm.map Prod.fst).mem_iff]
          · intro key value other member otherMember
            have found := lookup_sortFields firstKeys key
            rw [same, lookup_sortFields secondKeys key, lookup_of_mem secondKeys otherMember,
              lookup_of_mem firstKeys member] at found
            exact ih _ member (allFirst _ member) (allSecond _ otherMember)
              (Option.some.inj found).symm
    | _ => simp [sortKeys] at same

theorem sameValue_iff {first second : Json} (firstDistinct : DistinctKeys first)
    (secondDistinct : DistinctKeys second) :
    SameValue first second ↔ first.sortKeys = second.sortKeys :=
  ⟨fun same => same.sortKeys_eq firstDistinct secondDistinct,
    sameValue_of_sortKeys_eq firstDistinct secondDistinct⟩

end Json

end PyLib
