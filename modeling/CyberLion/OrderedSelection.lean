import Mathlib.Data.List.Lattice
import Mathlib.Data.List.Pairwise
import Mathlib.Order.Defs.Unbundled

/-!
# Selection from an ordered list

The first member of an ordered list with a property is its least member with
that property.  A greedy pass keeps a member when it is compatible with every
member kept before it; what it keeps is a sublist, compatible in pairs.
-/

namespace OrderedSelection

variable {α : Type}

/-! ### The first member -/

section First

variable {precedes : α → α → Prop} {items : List α} {legal : α → Bool}

structure IsFirst (precedes : α → α → Prop) (items : List α) (legal : α → Bool) (item : α) :
    Prop where
  member : item ∈ items
  holds : legal item = true
  least : ∀ other ∈ items, legal other = true → other = item ∨ precedes item other

theorem isFirst_of_find? (ordered : items.Pairwise precedes) {item : α}
    (found : items.find? legal = some item) : IsFirst precedes items legal item := by
  obtain ⟨holds, before, after, rfl, notBefore⟩ := List.find?_eq_some_iff_append.mp found
  refine ⟨by simp, holds, fun other member otherHolds => ?_⟩
  rw [List.pairwise_append, List.pairwise_cons] at ordered
  rcases List.mem_append.mp member with early | late
  · have rejected := notBefore other early
    simp [otherHolds] at rejected
  · rcases List.mem_cons.mp late with same | later
    · exact .inl same
    · exact .inr (ordered.2.1.1 other later)

theorem find?_eq_some_iff_isFirst (ordered : items.Pairwise precedes)
    (asymmetric : ∀ first second, precedes first second → ¬ precedes second first) {item : α} :
    items.find? legal = some item ↔ IsFirst precedes items legal item := by
  refine ⟨isFirst_of_find? ordered, fun isFirst => ?_⟩
  have exists_found : (items.find? legal).isSome = true :=
    List.find?_isSome.mpr ⟨item, isFirst.member, isFirst.holds⟩
  obtain ⟨found, foundEq⟩ := Option.isSome_iff_exists.mp exists_found
  have foundFirst := isFirst_of_find? ordered foundEq
  rcases isFirst.least found foundFirst.member foundFirst.holds with rfl | before
  · exact foundEq
  · rcases foundFirst.least item isFirst.member isFirst.holds with rfl | after
    · exact foundEq
    · exact absurd after (asymmetric _ _ before)

end First

/-! ### The greedy pass -/

section Greedy

variable (compatible : α → α → Bool)

/-- Keep every member that is compatible with all members kept before it. -/
def greedy (kept : List α) : List α → List α
  | [] => kept
  | item :: items =>
    if kept.all (compatible item) then greedy (kept ++ [item]) items
    else greedy kept items

variable {compatible}

theorem exists_greedy_eq (kept items : List α) :
    ∃ added, greedy compatible kept items = kept ++ added ∧ added.Sublist items := by
  induction items generalizing kept with
  | nil => exact ⟨[], by simp [greedy], List.Sublist.refl _⟩
  | cons item items ih =>
    rw [greedy]
    split
    · obtain ⟨added, same, within⟩ := ih (kept ++ [item])
      exact ⟨item :: added, by simp [same], within.cons_cons item⟩
    · obtain ⟨added, same, within⟩ := ih kept
      exact ⟨added, same, within.cons item⟩

theorem greedy_sublist (items : List α) : (greedy compatible [] items).Sublist items := by
  obtain ⟨added, same, within⟩ := @exists_greedy_eq α compatible [] items
  rw [same, List.nil_append]
  exact within

theorem head?_greedy_cons (item : α) (items : List α) :
    (greedy compatible [] (item :: items)).head? = some item := by
  rw [greedy]
  obtain ⟨added, same, -⟩ := @exists_greedy_eq α compatible [item] items
  simp [same]

theorem pairwise_greedy {kept : List α} (items : List α)
    (keptPairwise : kept.Pairwise fun earlier later => compatible later earlier = true) :
    (greedy compatible kept items).Pairwise fun earlier later =>
      compatible later earlier = true := by
  induction items generalizing kept with
  | nil => exact keptPairwise
  | cons item items ih =>
    rw [greedy]
    split
    · rename_i accepted
      refine ih (List.pairwise_append.mpr ⟨keptPairwise, List.pairwise_singleton _ _, ?_⟩)
      intro earlier member later isItem
      obtain rfl := List.mem_singleton.mp isItem
      exact List.all_eq_true.mp accepted earlier member
    · exact ih keptPairwise

end Greedy

end OrderedSelection
