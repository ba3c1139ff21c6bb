import Mathlib.Data.List.Perm.Basic
import Mathlib.Data.List.Nodup
import Mathlib.Data.List.Induction
import Mathlib.Data.List.Forall2

/-!
# Dictionaries

A Python `dict` is the list of its items in insertion order, with distinct
keys.  Reading is `List.lookup`; assigning keeps the place of a known key and
appends a new one.
-/

namespace PyLib

section Dictionary

variable {Key Value : Type} [BEq Key]

/-- `items[key] = value`. -/
def dictSet (key : Key) (value : Value) : List (Key × Value) → List (Key × Value)
  | [] => [(key, value)]
  | (other, old) :: items =>
    if other == key then (key, value) :: items
    else (other, old) :: dictSet key value items

/-- `dict(pairs)`. -/
def dictOfPairs (pairs : List (Key × Value)) : List (Key × Value) :=
  pairs.foldl (fun items pair => dictSet pair.1 pair.2 items) []

variable [LawfulBEq Key]

variable {items : List (Key × Value)}

theorem lookup_of_mem {key : Key} {value : Value} (distinct : (items.map Prod.fst).Nodup)
    (member : (key, value) ∈ items) :
    items.lookup key = some value := by
  induction items with
  | nil => simp at member
  | cons item items ih =>
    rw [List.map_cons, List.nodup_cons] at distinct
    rcases List.mem_cons.mp member with rfl | later
    · simp
    · have differ : (key == item.1) = false := by
        rw [beq_eq_false_iff_ne]
        rintro rfl
        exact distinct.1 (List.mem_map.mpr ⟨(_, value), later, rfl⟩)
      rw [List.lookup_cons, differ]
      exact ih distinct.2 later

theorem mem_of_lookup {key : Key} {value : Value} (found : items.lookup key = some value) :
    (key, value) ∈ items := by
  obtain ⟨before, after, rfl, -⟩ := List.lookup_eq_some_iff.mp found
  simp

theorem lookup_eq_of_perm {first second : List (Key × Value)}
    (arrangement : first.Perm second) (distinct : (first.map Prod.fst).Nodup)
    (key : Key) : first.lookup key = second.lookup key := by
  have secondDistinct : (second.map Prod.fst).Nodup :=
    (arrangement.map Prod.fst).nodup_iff.mp distinct
  apply Option.ext
  intro value
  constructor
  · intro found
    exact lookup_of_mem secondDistinct (arrangement.mem_iff.mp (mem_of_lookup found))
  · intro found
    exact lookup_of_mem distinct (arrangement.mem_iff.mpr (mem_of_lookup found))

@[simp]
theorem lookup_dictSet_self (key : Key) (value : Value) (items : List (Key × Value)) :
    (dictSet key value items).lookup key = some value := by
  induction items with
  | nil => simp [dictSet]
  | cons item items ih =>
    rw [dictSet]
    split
    · simp
    · rename_i differ
      rw [beq_iff_eq] at differ
      rw [List.lookup_cons, beq_eq_false_iff_ne.mpr (Ne.symm differ)]
      exact ih

theorem lookup_dictSet_of_ne {key other : Key} (differ : other ≠ key) (value : Value)
    (items : List (Key × Value)) :
    (dictSet key value items).lookup other = items.lookup other := by
  induction items with
  | nil => simp [dictSet, List.lookup_cons, beq_eq_false_iff_ne.mpr differ]
  | cons item items ih =>
    rw [dictSet]
    split
    · rename_i same
      rw [beq_iff_eq] at same
      rw [List.lookup_cons, List.lookup_cons, same, beq_eq_false_iff_ne.mpr differ]
    · rw [List.lookup_cons, List.lookup_cons, ih]

theorem map_fst_dictSet (key : Key) (value : Value) (items : List (Key × Value)) :
    (dictSet key value items).map Prod.fst =
      if key ∈ items.map Prod.fst then items.map Prod.fst
      else items.map Prod.fst ++ [key] := by
  induction items with
  | nil => simp [dictSet]
  | cons item items ih =>
    rw [dictSet]
    split
    · rename_i same
      rw [beq_iff_eq] at same
      simp [same]
    · rename_i differ
      rw [beq_iff_eq] at differ
      rw [List.map_cons, ih]
      by_cases known : key ∈ items.map Prod.fst
      · simp [known]
      · simp [known, Ne.symm differ]

theorem nodup_dictSet (key : Key) (value : Value) (distinct : (items.map Prod.fst).Nodup) :
    ((dictSet key value items).map Prod.fst).Nodup := by
  rw [map_fst_dictSet]
  split
  · exact distinct
  · rename_i fresh
    rw [List.nodup_append]
    refine ⟨distinct, by simp, ?_⟩
    rintro a member b isKey rfl
    rw [List.mem_singleton] at isKey
    exact fresh (isKey ▸ member)

theorem dictSet_of_notMem {key : Key} (value : Value) (fresh : key ∉ items.map Prod.fst) :
    dictSet key value items = items ++ [(key, value)] := by
  induction items with
  | nil => rfl
  | cons item items ih =>
    rw [List.map_cons, List.mem_cons, not_or] at fresh
    have differ : ¬ (item.1 == key) = true := by
      rw [beq_iff_eq]
      exact Ne.symm fresh.1
    rw [dictSet, if_neg differ, ih fresh.2, List.cons_append]

omit [LawfulBEq Key] in
theorem mem_dictSet {items : List (Key × Value)} {key : Key} {value : Value}
    {item : Key × Value} (member : item ∈ dictSet key value items) :
    item = (key, value) ∨ item ∈ items := by
  induction items with
  | nil => exact .inl (List.mem_singleton.mp member)
  | cons first items ih =>
    rw [dictSet] at member
    split at member
    · rcases List.mem_cons.mp member with rfl | later
      · exact .inl rfl
      · exact .inr (List.mem_cons_of_mem first later)
    · rcases List.mem_cons.mp member with rfl | later
      · exact .inr List.mem_cons_self
      · exact (ih later).imp_right (List.mem_cons_of_mem first)

theorem dictOfPairs_eq_self {pairs : List (Key × Value)}
    (distinct : (pairs.map Prod.fst).Nodup) : dictOfPairs pairs = pairs := by
  have extended : ∀ (rest items : List (Key × Value)), ((items ++ rest).map Prod.fst).Nodup →
      rest.foldl (fun items pair => dictSet pair.1 pair.2 items) items = items ++ rest := by
    intro rest
    induction rest with
    | nil => simp
    | cons pair rest ih =>
      intro items allDistinct
      have fresh : pair.1 ∉ items.map Prod.fst := by
        intro known
        rw [List.map_append, List.nodup_append] at allDistinct
        exact allDistinct.2.2 pair.1 known pair.1 (by simp) rfl
      rw [List.foldl_cons, dictSet_of_notMem _ fresh, ih _ (by simpa using allDistinct)]
      simp
  exact extended pairs [] distinct

theorem exists_lookup_dictOfPairs {pairs : List (Key × Value)} {key : Key}
    (known : key ∈ pairs.map Prod.fst) :
    ∃ value, (dictOfPairs pairs).lookup key = some value ∧ (key, value) ∈ pairs := by
  have folded : ∀ (rest items : List (Key × Value)),
      key ∈ items.map Prod.fst ∨ key ∈ rest.map Prod.fst →
      ∃ value, (rest.foldl (fun items pair => dictSet pair.1 pair.2 items) items).lookup key =
        some value ∧ ((key, value) ∈ items ∨ (key, value) ∈ rest) := by
    intro rest
    induction rest with
    | nil =>
      intro items known
      have inItems : key ∈ items.map Prod.fst := by simpa using known
      cases found : items.lookup key with
      | none =>
        obtain ⟨item, member, same⟩ := List.mem_map.mp inItems
        have differ := List.lookup_eq_none_iff.mp found item member
        simp [same] at differ
      | some value => exact ⟨value, found, .inl (mem_of_lookup found)⟩
    | cons pair rest ih =>
      intro items known
      have stillKnown : key ∈ (dictSet pair.1 pair.2 items).map Prod.fst ∨
          key ∈ rest.map Prod.fst := by
        rw [map_fst_dictSet]
        rcases known with inItems | inRest
        · left
          split <;> simp [inItems]
        · rcases List.mem_cons.mp inRest with rfl | later
          · left
            split
            · assumption
            · simp
          · exact .inr later
      obtain ⟨value, found, member⟩ := ih _ stillKnown
      refine ⟨value, found, ?_⟩
      rcases member with assigned | later
      · rcases mem_dictSet assigned with same | old
        · right
          rw [same]
          exact List.mem_cons_self
        · exact .inl old
      · exact .inr (List.mem_cons_of_mem pair later)
  obtain ⟨value, found, member⟩ := folded pairs [] (.inr known)
  exact ⟨value, found, member.resolve_left (by simp)⟩

theorem eq_of_lookup_eq {first second : List (Key × Value)}
    (keys : first.map Prod.fst = second.map Prod.fst) (distinct : (first.map Prod.fst).Nodup)
    (same : ∀ key ∈ first.map Prod.fst, first.lookup key = second.lookup key) :
    first = second := by
  induction first generalizing second with
  | nil =>
    rw [List.map_nil, eq_comm, List.map_eq_nil_iff] at keys
    exact keys.symm
  | cons item first ih =>
    cases second with
    | nil => simp at keys
    | cons other second =>
      rw [List.map_cons, List.map_cons, List.cons.injEq] at keys
      rw [List.map_cons, List.nodup_cons] at distinct
      have sameHead : item = other := by
        have found := same item.1 (by simp)
        rw [List.lookup_cons, List.lookup_cons, keys.1] at found
        simp only [beq_self_eq_true, Option.some.injEq] at found
        exact Prod.ext keys.1 found
      have sameTail : first = second := by
        apply ih keys.2 distinct.2
        intro key member
        have differ : (key == item.1) = false := by
          rw [beq_eq_false_iff_ne]
          rintro rfl
          exact distinct.1 member
        have found := same key (List.mem_cons_of_mem _ member)
        rw [List.lookup_cons, List.lookup_cons, ← sameHead, differ] at found
        exact found
      rw [sameHead, sameTail]

omit [LawfulBEq Key] in
theorem dictOfPairs_concat (pairs : List (Key × Value)) (pair : Key × Value) :
    dictOfPairs (pairs ++ [pair]) = dictSet pair.1 pair.2 (dictOfPairs pairs) := by
  rw [dictOfPairs, List.foldl_append]
  rfl

theorem lookup_dictOfPairs (pairs : List (Key × Value)) (key : Key) :
    (dictOfPairs pairs).lookup key = pairs.reverse.lookup key := by
  induction pairs using List.reverseRecOn with
  | nil => rfl
  | append_singleton pairs pair ih =>
    rw [dictOfPairs_concat, List.reverse_append, List.reverse_singleton, List.singleton_append,
      List.lookup_cons]
    by_cases same : key = pair.1
    · subst same
      simp
    · rw [lookup_dictSet_of_ne same, ih, beq_eq_false_iff_ne.mpr same]

section Agree

omit [LawfulBEq Key]

variable {keep : Key → Bool}

def AgreeOn (keep : Key → Bool) (first second : Key × Value) : Prop :=
  first.1 = second.1 ∧ (keep first.1 = true → first.2 = second.2)

theorem forall₂_dictSet {first second : List (Key × Value)} {item other : Key × Value}
    (items : List.Forall₂ (AgreeOn keep) first second) (added : AgreeOn keep item other) :
    List.Forall₂ (AgreeOn keep) (dictSet item.1 item.2 first) (dictSet other.1 other.2 second) := by
  induction items with
  | nil => exact .cons added .nil
  | @cons head otherHead tail otherTail agree rest ih =>
    rw [dictSet, dictSet, ← agree.1, ← added.1]
    split
    · exact .cons ⟨rfl, added.2⟩ rest
    · refine .cons ⟨rfl, agree.2⟩ ?_
      rw [← added.1] at ih
      exact ih

theorem forall₂_dictOfPairs {first second : List (Key × Value)}
    (pairs : List.Forall₂ (AgreeOn keep) first second) :
    List.Forall₂ (AgreeOn keep) (dictOfPairs first) (dictOfPairs second) := by
  have folded : ∀ items others : List (Key × Value), List.Forall₂ (AgreeOn keep) items others →
      List.Forall₂ (AgreeOn keep)
        (first.foldl (fun items pair => dictSet pair.1 pair.2 items) items)
        (second.foldl (fun items pair => dictSet pair.1 pair.2 items) others) := by
    induction pairs with
    | nil => exact fun _ _ agree => agree
    | cons agree _ ih => exact fun _ _ items => ih _ _ (forall₂_dictSet items agree)
  exact folded [] [] .nil

omit [BEq Key] in
theorem filter_eq_of_forall₂ {first second : List (Key × Value)}
    (items : List.Forall₂ (AgreeOn keep) first second) :
    first.filter (fun item => keep item.1) = second.filter fun item => keep item.1 := by
  induction items with
  | nil => rfl
  | @cons head otherHead tail otherTail agree _ ih =>
    rw [List.filter_cons, List.filter_cons, ih, ← agree.1]
    split
    · rename_i kept
      rw [Prod.ext agree.1 (agree.2 kept)]
    · rfl

end Agree

end Dictionary

end PyLib
