import Mathlib.Data.Fintype.Card
import Mathlib.Data.List.Chain
import Mathlib.Data.Set.Finite.Basic
import Mathlib.Data.Set.Insert
import Mathlib.Logic.Relation
import Mathlib.Order.WellFounded

/-!
# Cycles of a directed graph

What a depth first search for a cycle relies on: the nodes it has settled form
a set that no edge leaves and that holds no cycle, and the nodes it is visiting
form a path, so that an edge back into the path closes a cycle.  A walk that
can always go on ends up in a cycle when there are finitely many nodes.
-/

namespace PyLib

namespace Graph

variable {α : Type*} {edge : α → α → Prop} {nodes : Set α} {node : α}

def Cyclic (edge : α → α → Prop) : Prop :=
  ∃ node, Relation.TransGen edge node node

structure Settled (edge : α → α → Prop) (nodes : Set α) : Prop where
  closed : ∀ node ∈ nodes, ∀ next, edge node next → next ∈ nodes
  acyclic : ∀ node ∈ nodes, ¬ Relation.TransGen edge node node

namespace Settled

theorem empty : Settled edge ∅ :=
  ⟨fun _ absurdity => absurdity.elim, fun _ absurdity => absurdity.elim⟩

theorem mem_of_transGen (settled : Settled edge nodes) (member : node ∈ nodes) {last : α}
    (walk : Relation.TransGen edge node last) : last ∈ nodes := by
  induction walk with
  | single step => exact settled.closed _ member _ step
  | tail _ step ih => exact settled.closed _ ih _ step

theorem insert (settled : Settled edge nodes) (fresh : node ∉ nodes)
    (successors : ∀ next, edge node next → next ∈ nodes) : Settled edge (insert node nodes) := by
  constructor
  · rintro other (rfl | member) next step
    · exact .inr (successors next step)
    · exact .inr (settled.closed other member next step)
  · rintro other (rfl | member) walk
    · obtain ⟨next, step, rest⟩ := Relation.TransGen.head'_iff.mp walk
      rcases Relation.reflTransGen_iff_eq_or_transGen.mp rest with rfl | later
      · exact fresh (successors other step)
      · exact fresh (settled.mem_of_transGen (successors next step) later)
    · exact settled.acyclic other member walk

theorem not_cyclic (settled : Settled edge nodes)
    (covers : ∀ node next, edge node next → node ∈ nodes) : ¬ Cyclic edge := by
  rintro ⟨node, walk⟩
  obtain ⟨next, step, -⟩ := Relation.TransGen.head'_iff.mp walk
  exact settled.acyclic node (covers node next step) walk

end Settled

theorem cyclic_of_path {visiting : List α}
    (path : (node :: visiting).IsChain fun later earlier => edge earlier later)
    (member : node ∈ visiting) : Cyclic edge := by
  have walks : (node :: visiting).IsChain fun later earlier =>
      Relation.TransGen edge earlier later :=
    path.imp fun _ _ step => .single step
  have : IsTrans α fun later earlier => Relation.TransGen edge earlier later :=
    ⟨fun _ _ _ first second => second.trans first⟩
  have reaches := (List.pairwise_cons.mp walks.pairwise).1 node member
  exact ⟨node, reaches⟩

theorem Cyclic.congr {other : α → α → Prop} (same : ∀ node next, edge node next ↔ other node next) :
    Cyclic edge ↔ Cyclic other := by
  have equal : edge = other := by
    funext node next
    exact propext (same node next)
  rw [equal]

/-- When every node that is not an end has an edge, and all nodes but finitely many are ends,
the walk from a node reaches an end or a cycle. -/
theorem exists_end_or_cycle {ends : α → Prop} (finite : {node | ¬ ends node}.Finite)
    (progress : ∀ node, ¬ ends node → ∃ next, edge node next) (start : α) :
    ∃ last, Relation.ReflTransGen edge start last ∧
      (ends last ∨ Relation.TransGen edge last last) := by
  by_contra none
  simp only [not_exists, not_and, not_or] at none
  -- the nodes that are reached are no ends, so there are finitely many
  let Reached := {node // Relation.ReflTransGen edge start node}
  have finiteReached : Finite Reached :=
    (finite.subset fun node reached => (none node reached).1).to_subtype
  let later : Reached → Reached → Prop := fun second first =>
    Relation.TransGen edge first.1 second.1
  have : IsTrans Reached later := ⟨fun _ _ _ first second => second.trans first⟩
  have : Std.Irrefl later := ⟨fun node cycle => (none node.1 node.2).2 cycle⟩
  have wellFounded : WellFounded later := Finite.wellFounded_of_trans_of_irrefl later
  obtain ⟨last, -, latest⟩ := wellFounded.has_min Set.univ ⟨⟨start, .refl⟩, trivial⟩
  obtain ⟨next, step⟩ := progress last.1 (none last.1 last.2).1
  exact latest ⟨next, last.2.tail step⟩ trivial (.single step)

end Graph

end PyLib
