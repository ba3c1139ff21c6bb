import CyberLion.ProcessSelection

/-!
# Parallel selection

`select_parallel`: a batch of legal transitions that one declared group allows
to run together and whose resource claims do not conflict.
-/

namespace CyberLion

open PyLib ProcessIR OrderedSelection

namespace TransitionSelector

def meets (first second : List PyStr) : Bool :=
  first.any fun name => name ∈ second

def independent (left right : Transition) : Bool :=
  let l := left.resourceClaims
  let r := right.resourceClaims
  if meets l.writeScopes (r.writeScopes ++ r.readScopes) || meets r.writeScopes l.readScopes then
    false
  else if meets l.authorityBudgets r.authorityBudgets then false
  else if l.replayDomain ≠ [] ∧ l.replayDomain = r.replayDomain then false
  else if l.reconciliationGroup ≠ [] ∧ l.reconciliationGroup = r.reconciliationGroup then false
  else if (l.writeScopes ≠ [] ∨ r.writeScopes ≠ []) ∧
      meets l.currentnessSubjects r.currentnessSubjects then false
  else true

/-- The body of the loop of `select_parallel`. -/
def isLegal (context : ProcessContextSnapshot) (transition : Transition) :
    Except PyError Bool := do
  if transition.transitionId ∈ context.completedTransitions ∨
      context.processState ∉ transition.sourceStates then
    return false
  if ¬ transition.dependencies ⊆ context.satisfiedDependencies then
    return false
  if ¬ transition.guards ⊆ context.satisfiedGuards then
    return false
  if ¬ transition.evidenceRequirements ⊆ context.satisfiedEvidenceRequirements then
    return false
  if !(← currentnessSatisfied transition context) then
    return false
  if ¬ transition.authorityRequirements ⊆ context.verifiedAuthorityContextRefs then
    return false
  if attemptCount context transition.transitionId > transition.retryPolicy.maxAttempts then
    return false
  if retryReconciled transition context = false then
    return false
  return true

/-- The loop of `select_parallel`.  The identifier that it collects names the
transition itself in `self._transitions`, so the transition stands for it. -/
def collectLegal (context : ProcessContextSnapshot) :
    List Transition → Except PyError (List Transition)
  | [] => .ok []
  | transition :: transitions => do
    let legal ← isLegal context transition
    let rest ← collectLegal context transitions
    return if legal then transition :: rest else rest

/-- The batch of the candidates: at most one of them unless a group has all. -/
def batch (groups : List (List PyStr)) (candidates : List Transition) : List Transition :=
  match candidates with
  | [] => []
  | [only] => [only]
  | first :: second :: rest =>
    let names := (first :: second :: rest).map Transition.transitionId
    if groups.any fun group => names ⊆ group then
      greedy independent [] (first :: second :: rest)
    else [first]

def selectParallel (ir : CanonicalProcessIR) (context : ProcessContextSnapshot) :
    Except PyError (List PyStr) := do
  let _ ← ir.validate
  let model ← ir.asModel
  let _ ← context.validateFor ir
  if context.processControl ≠ .active then
    return []
  let policy := model.schedulingPolicy
  if policy.maxWip ≤ 1 then
    return []
  let legal ← collectLegal context (ordered model)
  let candidates := legal.take policy.maxWip.toNat
  return (batch policy.parallelSafeGroups candidates).map Transition.transitionId

end TransitionSelector

open TransitionSelector

/-! ### Independence -/

/-- Two transitions whose resource claims do not conflict, in either order. -/
structure Independent (first second : Transition) : Prop where
  writes : ∀ scope ∈ first.resourceClaims.writeScopes,
    scope ∉ second.resourceClaims.writeScopes ∧ scope ∉ second.resourceClaims.readScopes
  reads : ∀ scope ∈ second.resourceClaims.writeScopes, scope ∉ first.resourceClaims.readScopes
  budgets : ∀ budget ∈ first.resourceClaims.authorityBudgets,
    budget ∉ second.resourceClaims.authorityBudgets
  replay : first.resourceClaims.replayDomain ≠ [] →
    first.resourceClaims.replayDomain ≠ second.resourceClaims.replayDomain
  reconciliation : first.resourceClaims.reconciliationGroup ≠ [] →
    first.resourceClaims.reconciliationGroup ≠ second.resourceClaims.reconciliationGroup
  currentness : first.resourceClaims.writeScopes ≠ [] ∨ second.resourceClaims.writeScopes ≠ [] →
    ∀ subject ∈ first.resourceClaims.currentnessSubjects,
      subject ∉ second.resourceClaims.currentnessSubjects

theorem Independent.symm {first second : Transition} (apart : Independent first second) :
    Independent second first where
  writes := fun scope member =>
    ⟨fun other => (apart.writes scope other).1 member, apart.reads scope member⟩
  reads := fun scope member => (apart.writes scope member).2
  budgets := fun budget member other => apart.budgets budget other member
  replay := fun _ same => by
    by_cases empty : first.resourceClaims.replayDomain = []
    · simp_all
    · exact apart.replay empty same.symm
  reconciliation := fun _ same => by
    by_cases empty : first.resourceClaims.reconciliationGroup = []
    · simp_all
    · exact apart.reconciliation empty same.symm
  currentness := fun writes subject member other =>
    apart.currentness writes.symm subject other member

instance : Std.Symm Independent :=
  ⟨fun _ _ => Independent.symm⟩

theorem meets_eq_false {first second : List PyStr} :
    meets first second = false ↔ ∀ name ∈ first, name ∉ second := by
  simp [meets]

theorem independent_iff {left right : Transition} :
    independent left right = true ↔ Independent left right := by
  unfold independent
  dsimp only
  constructor
  · intro holds
    split at holds
    · simp at holds
    rename_i scopes
    split at holds
    · simp at holds
    rename_i budgets
    split at holds
    · simp at holds
    rename_i replay
    split at holds
    · simp at holds
    rename_i group
    split at holds
    · simp at holds
    rename_i subjects
    simp only [Bool.or_eq_true, not_or, Bool.not_eq_true, meets_eq_false, List.mem_append] at scopes
    rw [Bool.not_eq_true, meets_eq_false] at budgets
    refine ⟨fun scope member => scopes.1 scope member, scopes.2, budgets,
      fun nonempty same => replay ⟨nonempty, same⟩, fun nonempty same => group ⟨nonempty, same⟩,
      fun writes => ?_⟩
    rw [← meets_eq_false, ← Bool.not_eq_true]
    exact fun shared => subjects ⟨writes, shared⟩
  · intro apart
    have scopes : (meets left.resourceClaims.writeScopes
        (right.resourceClaims.writeScopes ++ right.resourceClaims.readScopes) ||
        meets right.resourceClaims.writeScopes left.resourceClaims.readScopes) = false := by
      rw [Bool.or_eq_false_iff, meets_eq_false, meets_eq_false]
      refine ⟨fun scope member => ?_, apart.reads⟩
      rw [List.mem_append, not_or]
      exact apart.writes scope member
    rw [scopes, if_neg Bool.false_ne_true, meets_eq_false.mpr apart.budgets,
      if_neg Bool.false_ne_true, if_neg fun shared => apart.replay shared.1 shared.2,
      if_neg fun shared => apart.reconciliation shared.1 shared.2, if_neg]
    rintro ⟨writes, shared⟩
    rw [meets_eq_false.mpr (apart.currentness writes)] at shared
    exact Bool.false_ne_true shared

/-! ### The two filters -/

theorem isLegal_eq_screen (context : ProcessContextSnapshot) (transition : Transition) :
    isLegal context transition =
      (screen context transition).map fun finding => decide (finding = .legal) := by
  unfold isLegal screen
  split
  · rfl
  split
  · rfl
  split
  · rfl
  split
  · rfl
  cases currentnessSatisfied transition context with
  | error error => rfl
  | ok current =>
    simp only [ok_bind]
    split
    · rfl
    split
    · rfl
    split
    · rfl
    split
    · rfl
    · rfl

section Filters

variable {process : ValidProcess} {context : ProcessContextSnapshot}

theorem isLegal_eq (facts : ContextFacts process context) (transition : Transition) :
    isLegal context transition = .ok (decide (Legal context transition)) := by
  obtain ⟨finding, screened, legalIff⟩ := exists_screen_eq facts transition
  rw [isLegal_eq_screen, screened]
  simp [Except.map, legalIff]

theorem collectLegal_eq (facts : ContextFacts process context) (transitions : List Transition) :
    collectLegal context transitions =
      .ok (transitions.filter fun transition => Legal context transition) := by
  induction transitions with
  | nil => rfl
  | cons transition transitions ih =>
    rw [collectLegal, isLegal_eq facts, ok_bind, ih, ok_bind]
    by_cases legal : Legal context transition
    · simp [legal]
    · simp [legal]

def candidates (process : ValidProcess) (context : ProcessContextSnapshot) : List Transition :=
  ((ordered process.model).filter fun transition => Legal context transition).take
    process.model.schedulingPolicy.maxWip.toNat

def parallelBatch (process : ValidProcess) (context : ProcessContextSnapshot) :
    List Transition :=
  if context.processControl = .active ∧ 1 < process.model.schedulingPolicy.maxWip then
    batch process.model.schedulingPolicy.parallelSafeGroups (candidates process context)
  else []

theorem selectParallel_eq (valid : context.validateFor process.ir = .ok context) :
    selectParallel process.ir context =
      .ok ((parallelBatch process context).map Transition.transitionId) := by
  rw [selectParallel, process.validate_eq, ok_bind, process.valid.asModel_eq, ok_bind, valid,
    ok_bind, collectLegal_eq (facts_of_validateFor valid), parallelBatch]
  by_cases active : context.processControl = .active
  · by_cases narrow : process.model.schedulingPolicy.maxWip ≤ 1
    · have inactive : ¬ (context.processControl = .active ∧
          1 < process.model.schedulingPolicy.maxWip) := by omega
      rw [if_neg inactive]
      simp only [active, narrow, ne_eq, not_true_eq_false, if_false, if_true]
      rfl
    · have wide : context.processControl = .active ∧
          1 < process.model.schedulingPolicy.maxWip := ⟨active, by omega⟩
      rw [if_pos wide]
      simp only [active, narrow, ne_eq, not_true_eq_false, if_false]
      rfl
  · have inactive : ¬ (context.processControl = .active ∧
        1 < process.model.schedulingPolicy.maxWip) := fun both => active both.1
    rw [if_neg inactive]
    simp only [active, ne_eq, not_false_eq_true, if_true]
    rfl

end Filters

/-! ### Batches -/

theorem batch_sublist (groups : List (List PyStr)) (items : List Transition) :
    (batch groups items).Sublist items := by
  match items with
  | [] => exact List.Sublist.refl _
  | [only] => exact List.Sublist.refl _
  | first :: second :: rest =>
    rw [batch]
    split
    · exact greedy_sublist _
    · simp

theorem head?_batch (groups : List (List PyStr)) (items : List Transition) :
    (batch groups items).head? = items.head? := by
  match items with
  | [] => rfl
  | [only] => rfl
  | first :: second :: rest =>
    rw [batch]
    split
    · exact head?_greedy_cons first _
    · rfl

theorem exists_group_of_batch {groups : List (List PyStr)} {items : List Transition}
    (several : 2 ≤ (batch groups items).length) :
    ∃ group ∈ groups, ∀ transition ∈ batch groups items, transition.transitionId ∈ group := by
  match items with
  | [] => simp [batch] at several
  | [only] => simp [batch] at several
  | first :: second :: rest =>
    rw [batch] at several ⊢
    split
    · rename_i grouped
      obtain ⟨group, member, covers⟩ := List.any_eq_true.mp grouped
      refine ⟨group, member, fun transition kept => ?_⟩
      exact of_decide_eq_true covers
        (List.mem_map_of_mem ((greedy_sublist _).subset kept))
    · rename_i ungrouped
      rw [if_neg ungrouped] at several
      simp at several

theorem pairwise_batch (groups : List (List PyStr)) (items : List Transition) :
    (batch groups items).Pairwise Independent := by
  match items with
  | [] => exact .nil
  | [only] => exact List.pairwise_singleton _ _
  | first :: second :: rest =>
    rw [batch]
    split
    · exact (pairwise_greedy _ .nil).imp fun compatible => (independent_iff.mp compatible).symm
    · exact List.pairwise_singleton _ _

end CyberLion
