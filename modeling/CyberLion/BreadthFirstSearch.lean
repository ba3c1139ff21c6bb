import Mathlib.Data.Finset.Card
import Mathlib.Data.List.Nodup
import Mathlib.Logic.Relation

/-!
# Breadth first search

A search keeps a queue of walks from one node and the set of the nodes it has
seen.  A node is seen as soon as a walk to it is queued, so that the first walk
that reaches a node is the only one, and the search stops when a walk of the
queue can be continued to the target.
-/

namespace PyLib

namespace Graph

variable {Node Edge : Type*}

inductive Walk (joins : Node → Edge → Node → Prop) (source : Node) :
    List Node → List Edge → Node → Prop
  | start : Walk joins source [source] [] source
  | step {nodes : List Node} {edges : List Edge} {current : Node} {edge : Edge} {next : Node}
      (walk : Walk joins source nodes edges current) (joined : joins current edge next) :
      Walk joins source (nodes ++ [next]) (edges ++ [edge]) next

def Adjacent (joins : Node → Edge → Node → Prop) (node next : Node) : Prop :=
  ∃ edge, joins node edge next

section Walks

variable {joins : Node → Edge → Node → Prop} {source current : Node} {nodes : List Node}
  {edges : List Edge}

theorem Walk.length_nodes (walk : Walk joins source nodes edges current) :
    nodes.length = edges.length + 1 := by
  induction walk with
  | start => rfl
  | step _ _ ih => simp [ih]

theorem Walk.joins_of_mem (walk : Walk joins source nodes edges current) {edge : Edge}
    (member : edge ∈ edges) : ∃ node next, joins node edge next := by
  induction walk with
  | start => simp at member
  | step _ joined ih =>
    rcases List.mem_append.mp member with earlier | last
    · exact ih earlier
    · rw [List.mem_singleton.mp last]
      exact ⟨_, _, joined⟩

theorem Walk.reaches (walk : Walk joins source nodes edges current) :
    Relation.ReflTransGen (Adjacent joins) source current := by
  induction walk with
  | start => exact .refl
  | step _ joined ih => exact ih.tail ⟨_, joined⟩

theorem mem_of_reaches {seen : List Node} (start : source ∈ seen)
    (closed : ∀ node ∈ seen, ∀ edge next, joins node edge next → next ∈ seen)
    (reached : Relation.ReflTransGen (Adjacent joins) source current) : current ∈ seen := by
  induction reached with
  | refl => exact start
  | tail _ step ih =>
    obtain ⟨edge, joined⟩ := step
    exact closed _ ih edge _ joined

end Walks

structure Trail (Node Edge : Type*) where
  last : Node
  nodes : List Node
  edges : List Edge

namespace Trail

def start (source : Node) : Trail Node Edge :=
  ⟨source, [source], []⟩

def extend (trail : Trail Node Edge) (next : Node) (edge : Edge) : Trail Node Edge :=
  ⟨next, trail.nodes ++ [next], trail.edges ++ [edge]⟩

/-- The trail is a shortest walk from a source, and it meets no node twice. -/
structure IsShortest (joins : Node → Edge → Node → Prop) (source : Node)
    (trail : Trail Node Edge) : Prop where
  walk : Walk joins source trail.nodes trail.edges trail.last
  nodup : trail.nodes.Nodup
  minimal : ∀ nodes edges, Walk joins source nodes edges trail.last →
    trail.edges.length ≤ edges.length

end Trail

/-- What the successors of a node give: the target, or nodes to go on with. -/
inductive Round (Node Edge : Type*)
  | found (trail : Trail Node Edge)
  | next (seen : List Node) (queue : List (Trail Node Edge))

/-! ### The invariant of the search -/

section Invariant

variable {joins : Node → Edge → Node → Prop} {source target : Node}

/-- The queue holds shortest walks of two lengths, all nodes up to the first of them are
seen, and a node that is seen is queued or done. -/
structure Frontier (joins : Node → Edge → Node → Prop) (source target : Node) (depth : Nat)
    (seen : List Node) (queue : List (Trail Node Edge)) : Prop where
  start : source ∈ seen
  missing : target ∉ seen
  shortest : ∀ trail ∈ queue, trail.IsShortest joins source
  marked : ∀ trail ∈ queue, ∀ node ∈ trail.nodes, node ∈ seen
  settled : ∀ node ∈ seen, (∃ trail ∈ queue, trail.last = node) ∨
    ∀ edge next, joins node edge next → next ∈ seen
  ordered : queue.Pairwise fun first second => first.edges.length ≤ second.edges.length
  deep : ∀ trail ∈ queue, depth ≤ trail.edges.length
  near : ∀ trail ∈ queue, trail.edges.length ≤ depth + 1
  covered : ∀ nodes edges node, Walk joins source nodes edges node → edges.length ≤ depth →
    node ∈ seen

namespace Frontier

variable {depth : Nat} {seen : List Node} {queue : List (Trail Node Edge)}

theorem initial (differ : source ≠ target) :
    Frontier joins source target 0 [source] [(Trail.start source : Trail Node Edge)] where
  start := .head _
  missing := by simp [differ.symm]
  shortest := by
    intro trail member
    rw [List.mem_singleton.mp member]
    exact ⟨.start, List.nodup_singleton source, fun _ _ _ => Nat.zero_le _⟩
  marked := by
    intro trail member node listed
    rw [List.mem_singleton.mp member] at listed
    exact listed
  settled := by
    intro node member
    exact .inl ⟨_, .head _, (List.mem_singleton.mp member).symm⟩
  ordered := List.pairwise_singleton _ _
  deep := fun _ _ => Nat.zero_le _
  near := by
    intro trail member
    rw [List.mem_singleton.mp member]
    exact Nat.zero_le _
  covered := by
    intro nodes edges node walk short
    cases walk with
    | start => exact .head _
    | step => simp at short

theorem deepen (frontier : Frontier joins source target depth seen queue)
    (longer : ∀ trail ∈ queue, depth + 1 ≤ trail.edges.length) :
    Frontier joins source target (depth + 1) seen queue where
  start := frontier.start
  missing := frontier.missing
  shortest := frontier.shortest
  marked := frontier.marked
  settled := frontier.settled
  ordered := frontier.ordered
  deep := longer
  near := fun trail member => Nat.le_succ_of_le (frontier.near trail member)
  covered := by
    intro nodes edges node walk short
    cases walk with
    | start => exact frontier.start
    | @step _ earlier current edge _ walk joined =>
      have shorter : earlier.length ≤ depth := by simpa using short
      rcases frontier.settled current (frontier.covered _ _ _ walk shorter) with
        ⟨trail, member, rfl⟩ | closed
      · -- the walk that is queued would be longer than this one
        have minimal := (frontier.shortest trail member).minimal _ _ walk
        have longer := longer trail member
        omega
      · exact closed edge node joined

theorem exists_depth {trail : Trail Node Edge}
    (frontier : Frontier joins source target depth seen (trail :: queue)) :
    Frontier joins source target trail.edges.length seen (trail :: queue) := by
  rcases Nat.eq_or_lt_of_le (frontier.deep trail (.head _)) with same | longer
  · rw [← same]
    exact frontier
  · have same : trail.edges.length = depth + 1 :=
      Nat.le_antisymm (frontier.near trail (.head _)) longer
    rw [same]
    refine frontier.deepen fun other member => ?_
    rcases List.mem_cons.mp member with rfl | member
    · exact longer
    · exact Nat.le_trans longer ((List.pairwise_cons.mp frontier.ordered).1 other member)

theorem isShortest_extend {trail : Trail Node Edge} {next : Node} {edge : Edge}
    (frontier : Frontier joins source target trail.edges.length seen (trail :: queue))
    (joined : joins trail.last edge next) (unseen : next ∉ seen) :
    (trail.extend next edge).IsShortest joins source where
  walk := .step (frontier.shortest trail (.head _)).walk joined
  nodup := by
    refine List.Nodup.append (frontier.shortest trail (.head _)).nodup
      (List.nodup_singleton next) ?_
    rw [List.disjoint_singleton]
    exact fun listed => unseen (frontier.marked trail (.head _) next listed)
  minimal := by
    intro nodes edges walk
    by_contra shorter
    refine unseen (frontier.covered nodes edges next walk ?_)
    simp only [Trail.extend, List.length_append, List.length_singleton] at shorter
    omega

theorem not_reaches (frontier : Frontier joins source target depth seen []) :
    ¬ Relation.ReflTransGen (Adjacent joins) source target := by
  refine fun reached => frontier.missing (mem_of_reaches frontier.start ?_ reached)
  intro node member edge next joined
  rcases frontier.settled node member with ⟨_, queued, _⟩ | closed
  · simp at queued
  · exact closed edge next joined

end Frontier

end Invariant

section Search

variable [DecidableEq Node]

def visit (target : Node) (trail : Trail Node Edge) :
    List (Node × Edge) → List Node → List (Trail Node Edge) → Round Node Edge
  | [], seen, queue => .next seen queue
  | (next, edge) :: successors, seen, queue =>
    if next ∈ seen then visit target trail successors seen queue
    else if next = target then .found (trail.extend next edge)
    else visit target trail successors (next :: seen) (queue ++ [trail.extend next edge])

/-- The loop over the queue: `none` when it has not ended after that many rounds. -/
def search (successors : Node → List (Node × Edge)) (target : Node) :
    Nat → List Node → List (Trail Node Edge) → Option (Option (Trail Node Edge))
  | 0, _, _ => none
  | _ + 1, _, [] => some none
  | rounds + 1, seen, trail :: queue =>
    match visit target trail (successors trail.last) seen queue with
    | .found found => some (some found)
    | .next seen queue => search successors target rounds seen queue

/-! ### One round -/

/-- What a round adds to the queue, and which nodes it has seen after it. -/
structure Visited (target : Node) (trail : Trail Node Edge) (successors : List (Node × Edge))
    (seen later : List Node) (fresh : List (Trail Node Edge)) : Prop where
  marks : ∀ node, node ∈ later ↔ node ∈ seen ∨ ∃ edge, (node, edge) ∈ successors
  queued : ∀ node ∈ later, node ∈ seen ∨ ∃ entry ∈ fresh, entry.last = node
  extends_trail : ∀ entry ∈ fresh, ∃ next edge,
    (next, edge) ∈ successors ∧ next ∉ seen ∧ entry = trail.extend next edge
  misses : target ∉ seen → target ∉ later

variable {target : Node} {trail : Trail Node Edge}

theorem exists_of_visit_found {successors : List (Node × Edge)} {seen : List Node}
    {queue : List (Trail Node Edge)} {found : Trail Node Edge}
    (visited : visit target trail successors seen queue = .found found) :
    ∃ edge, (target, edge) ∈ successors ∧ found = trail.extend target edge := by
  induction successors generalizing seen queue with
  | nil => cases visited
  | cons pair successors ih =>
    rw [visit] at visited
    split_ifs at visited with marked isTarget
    · obtain ⟨edge, member, same⟩ := ih visited
      exact ⟨edge, .tail _ member, same⟩
    · cases visited
      exact ⟨pair.2, isTarget ▸ .head _, by rw [isTarget]⟩
    · obtain ⟨edge, member, same⟩ := ih visited
      exact ⟨edge, .tail _ member, same⟩

theorem visited_of_visit_next {successors : List (Node × Edge)} {seen later : List Node}
    {queue rest : List (Trail Node Edge)}
    (visited : visit target trail successors seen queue = .next later rest) :
    ∃ fresh, rest = queue ++ fresh ∧ Visited target trail successors seen later fresh := by
  induction successors generalizing seen queue with
  | nil =>
    cases visited
    exact ⟨[], by simp, by simp, by simp, by simp, id⟩
  | cons pair successors ih =>
    obtain ⟨next, edge⟩ := pair
    rw [visit] at visited
    split_ifs at visited with marked isTarget
    · obtain ⟨fresh, same, round⟩ := ih visited
      refine ⟨fresh, same, ?_, round.queued, ?_, round.misses⟩
      · intro node
        rw [round.marks]
        constructor
        · rintro (old | ⟨other, member⟩)
          · exact .inl old
          · exact .inr ⟨other, .tail _ member⟩
        · rintro (old | ⟨other, member⟩)
          · exact .inl old
          · rcases List.mem_cons.mp member with equal | member
            · obtain ⟨rfl, -⟩ := Prod.mk.inj equal
              exact .inl marked
            · exact .inr ⟨other, member⟩
      · intro entry member
        obtain ⟨other, taken, listed, new, same⟩ := round.extends_trail entry member
        exact ⟨other, taken, .tail _ listed, new, same⟩
    · obtain ⟨fresh, same, round⟩ := ih visited
      refine ⟨trail.extend next edge :: fresh, by rw [same]; simp, ?_, ?_, ?_, ?_⟩
      · intro node
        rw [round.marks]
        constructor
        · rintro (old | ⟨other, member⟩)
          · rcases List.mem_cons.mp old with rfl | old
            · exact .inr ⟨edge, .head _⟩
            · exact .inl old
          · exact .inr ⟨other, .tail _ member⟩
        · rintro (old | ⟨other, member⟩)
          · exact .inl (.tail _ old)
          · rcases List.mem_cons.mp member with equal | member
            · obtain ⟨rfl, -⟩ := Prod.mk.inj equal
              exact .inl (.head _)
            · exact .inr ⟨other, member⟩
      · intro node member
        rcases round.queued node member with old | ⟨entry, queued, last⟩
        · rcases List.mem_cons.mp old with rfl | old
          · exact .inr ⟨_, .head _, rfl⟩
          · exact .inl old
        · exact .inr ⟨entry, .tail _ queued, last⟩
      · intro entry member
        rcases List.mem_cons.mp member with rfl | member
        · exact ⟨next, edge, .head _, marked, rfl⟩
        · obtain ⟨other, taken, listed, new, same⟩ := round.extends_trail entry member
          exact ⟨other, taken, .tail _ listed, fun old => new (.tail _ old), same⟩
      · intro missed
        apply round.misses
        simp [missed, Ne.symm isTarget]

theorem card_of_visit_next {successors : List (Node × Edge)} {seen later : List Node}
    {queue rest : List (Trail Node Edge)} {region : Finset Node}
    (inside : ∀ pair ∈ successors, pair.1 ∈ region)
    (visited : visit target trail successors seen queue = .next later rest) :
    (region \ later.toFinset).card + rest.length ≤
      (region \ seen.toFinset).card + queue.length := by
  induction successors generalizing seen queue with
  | nil =>
    cases visited
    exact Nat.le_refl _
  | cons pair successors ih =>
    have insideLater : ∀ other ∈ successors, other.1 ∈ region :=
      fun other member => inside other (.tail _ member)
    rw [visit] at visited
    split_ifs at visited with marked isTarget
    · exact ih insideLater visited
    · have fewer := ih insideLater visited
      have left : pair.1 ∈ region \ seen.toFinset := by
        simp [inside pair (.head _), marked]
      have removed : region \ (pair.1 :: seen).toFinset =
          (region \ seen.toFinset).erase pair.1 := by
        ext node
        simp only [List.toFinset_cons, Finset.mem_sdiff, Finset.mem_insert, Finset.mem_erase]
        tauto
      rw [removed, Finset.card_erase_of_mem left, List.length_append] at fewer
      have positive := Finset.card_pos.mpr ⟨pair.1, left⟩
      simp only [List.length_singleton] at fewer
      omega

/-! ### The search -/

variable {joins : Node → Edge → Node → Prop} {source : Node}
  {successors : Node → List (Node × Edge)}

namespace Frontier

variable {depth : Nat} {seen : List Node} {queue : List (Trail Node Edge)}

theorem found {trail found : Trail Node Edge}
    (frontier : Frontier joins source target trail.edges.length seen (trail :: queue))
    (lists : ∀ node next edge, (next, edge) ∈ successors node ↔ joins node edge next)
    (visited : visit target trail (successors trail.last) seen queue = .found found) :
    found.last = target ∧ found.IsShortest joins source := by
  obtain ⟨edge, member, rfl⟩ := exists_of_visit_found visited
  exact ⟨rfl, frontier.isShortest_extend ((lists _ _ _).mp member) frontier.missing⟩

theorem next {trail : Trail Node Edge} {later : List Node} {rest : List (Trail Node Edge)}
    (frontier : Frontier joins source target trail.edges.length seen (trail :: queue))
    (lists : ∀ node next edge, (next, edge) ∈ successors node ↔ joins node edge next)
    (visited : visit target trail (successors trail.last) seen queue = .next later rest) :
    Frontier joins source target trail.edges.length later rest := by
  obtain ⟨fresh, rfl, round⟩ := visited_of_visit_next visited
  have grows : ∀ node ∈ seen, node ∈ later := fun node old => (round.marks node).mpr (.inl old)
  have extension : ∀ entry ∈ fresh, entry.IsShortest joins source ∧
      entry.edges.length = trail.edges.length + 1 := by
    intro entry member
    obtain ⟨next, edge, listed, unseen, rfl⟩ := round.extends_trail entry member
    exact ⟨frontier.isShortest_extend ((lists _ _ _).mp listed) unseen, by simp [Trail.extend]⟩
  constructor
  case start => exact grows source frontier.start
  case missing => exact round.misses frontier.missing
  case shortest =>
    intro entry member
    rcases List.mem_append.mp member with old | new
    · exact frontier.shortest entry (.tail _ old)
    · exact (extension entry new).1
  case marked =>
    intro entry member node listed
    rcases List.mem_append.mp member with old | new
    · exact grows node (frontier.marked entry (.tail _ old) node listed)
    · obtain ⟨next, edge, follows, -, rfl⟩ := round.extends_trail entry new
      rcases List.mem_append.mp listed with earlier | last
      · exact grows node (frontier.marked trail (.head _) node earlier)
      · rw [List.mem_singleton.mp last]
        exact (round.marks next).mpr (.inr ⟨edge, follows⟩)
  case settled =>
    intro node member
    rcases round.queued node member with old | ⟨entry, new, last⟩
    · rcases frontier.settled node old with ⟨entry, queued, last⟩ | closed
      · rcases List.mem_cons.mp queued with rfl | queued
        · -- the node of this round: its successors are all marked
          refine .inr fun edge next joined => (round.marks next).mpr (.inr ⟨edge, ?_⟩)
          exact (lists _ _ _).mpr (last ▸ joined)
        · exact .inl ⟨entry, List.mem_append_left _ queued, last⟩
      · exact .inr fun edge next joined => grows next (closed edge next joined)
    · exact .inl ⟨entry, List.mem_append_right _ new, last⟩
  case ordered =>
    refine List.pairwise_append.mpr
      ⟨(List.pairwise_cons.mp frontier.ordered).2, ?_, ?_⟩
    · refine List.pairwise_of_forall_mem_list fun first isFirst second isSecond => ?_
      rw [(extension first isFirst).2, (extension second isSecond).2]
    · intro old isOld new isNew
      rw [(extension new isNew).2]
      exact frontier.near old (.tail _ isOld)
  case deep =>
    intro entry member
    rcases List.mem_append.mp member with old | new
    · exact frontier.deep entry (.tail _ old)
    · exact Nat.le_of_lt (by rw [(extension entry new).2]; omega)
  case near =>
    intro entry member
    rcases List.mem_append.mp member with old | new
    · exact frontier.near entry (.tail _ old)
    · exact Nat.le_of_eq (extension entry new).2
  case covered =>
    intro nodes edges node walk short
    exact grows node (frontier.covered nodes edges node walk short)

end Frontier

def IsOutcome (joins : Node → Edge → Node → Prop) (source target : Node) :
    Option (Trail Node Edge) → Prop
  | some trail => trail.last = target ∧ trail.IsShortest joins source
  | none => ¬ Relation.ReflTransGen (Adjacent joins) source target

theorem Frontier.exists_outcome {region : Finset Node}
    (lists : ∀ node next edge, (next, edge) ∈ successors node ↔ joins node edge next)
    (inside : ∀ node, ∀ pair ∈ successors node, pair.1 ∈ region) {rounds depth : Nat}
    {seen : List Node} {queue : List (Trail Node Edge)}
    (frontier : Frontier joins source target depth seen queue)
    (enough : (region \ seen.toFinset).card + queue.length < rounds) :
    ∃ outcome, search successors target rounds seen queue = some outcome ∧
      IsOutcome joins source target outcome := by
  induction rounds generalizing depth seen queue with
  | zero => simp at enough
  | succ rounds ih =>
    cases queue with
    | nil => exact ⟨none, rfl, frontier.not_reaches⟩
    | cons trail queue =>
      have frontier := frontier.exists_depth
      rw [search]
      cases visited : visit target trail (successors trail.last) seen queue with
      | found found => exact ⟨some found, rfl, frontier.found lists visited⟩
      | next later rest =>
        have fewer := card_of_visit_next (inside trail.last) visited
        apply ih (frontier.next lists visited)
        simp only [List.length_cons] at enough
        omega

theorem search_mono {rounds : Nat} {seen : List Node} {queue : List (Trail Node Edge)}
    {outcome : Option (Trail Node Edge)}
    (ended : search successors target rounds seen queue = some outcome) {more : Nat}
    (atLeast : rounds ≤ more) : search successors target more seen queue = some outcome := by
  induction rounds generalizing seen queue more with
  | zero => simp [search] at ended
  | succ rounds ih =>
    obtain ⟨more, rfl⟩ : ∃ fewer, more = fewer + 1 := ⟨more - 1, by omega⟩
    cases queue with
    | nil => exact ended
    | cons trail queue =>
      rw [search] at ended ⊢
      split at ended
      · exact ended
      · exact ih ended (by omega)

/-- A search from a source finds a shortest walk exactly when there is one, within a number
of rounds that the number of nodes bounds. -/
theorem exists_outcome {region : Finset Node} (differ : source ≠ target)
    (lists : ∀ node next edge, (next, edge) ∈ successors node ↔ joins node edge next)
    (inside : ∀ node, ∀ pair ∈ successors node, pair.1 ∈ region) :
    ∃ outcome, IsOutcome joins source target outcome ∧ ∀ rounds, region.card + 2 ≤ rounds →
      search successors target rounds [source] [Trail.start source] = some outcome := by
  have enough : (region \ [source].toFinset).card +
      [(Trail.start source : Trail Node Edge)].length < region.card + 2 := by
    have fewer := Finset.card_le_card (Finset.sdiff_subset (s := region) (t := [source].toFinset))
    simp only [List.length_singleton]
    omega
  obtain ⟨outcome, ended, isOutcome⟩ :=
    (Frontier.initial differ).exists_outcome lists inside enough
  exact ⟨outcome, isOutcome, fun rounds atLeast => search_mono ended atLeast⟩

end Search

end Graph

end PyLib
