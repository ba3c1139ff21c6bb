import CyberLion.ProcessParallelSafety

/-!
# Sequential and parallel selection

`select` and `select_parallel` filter the schedule alike, so they agree on the
first transition wherever both run over it.  Only `select` looks at the
terminal states.
-/

namespace CyberLion

open PyLib ProcessIR TransitionSelector

section Agreement

variable {process : ValidProcess} {context : ProcessContextSnapshot}

/-- Both selections match the specification of the first legal transition, and
for a process that may run several steps they agree with each other. -/
structure SelectionsAgree (process : ValidProcess) (context : ProcessContextSnapshot) : Prop where
  sequential : ∀ transitionId, Selects process context transitionId ↔
    context.processControl = .active ∧
      context.processState ∉ process.model.terminationPolicy.terminalStates ∧
      ∃ transition, IsFirstLegal process context transition ∧
        transition.transitionId = transitionId
  parallel : 1 < process.model.schedulingPolicy.maxWip →
    ∃ names, selectParallel process.ir context = .ok names ∧
      (names ≠ [] ↔ ∃ transitionId, Selects process context transitionId) ∧
      ∀ transitionId, Selects process context transitionId → names.head? = some transitionId

theorem head?_parallelBatch (active : context.processControl = .active)
    (wide : 1 < process.model.schedulingPolicy.maxWip) :
    (parallelBatch process context).head? = firstLegal process context := by
  have room : process.model.schedulingPolicy.maxWip.toNat ≠ 0 := by omega
  rw [parallelBatch, if_pos ⟨active, wide⟩, head?_batch, candidates, List.head?_take,
    if_neg room, List.head?_filter, firstLegal]

theorem exists_isFirstLegal_iff :
    (∃ transition, IsFirstLegal process context transition) ↔
      ∃ transition ∈ process.model.transitions, Legal context transition := by
  constructor
  · rintro ⟨transition, member, legal, -⟩
    exact ⟨transition, member, legal⟩
  · rintro ⟨transition, member, legal⟩
    have found : (firstLegal process context).isSome = true :=
      List.find?_isSome.mpr ⟨transition, (mem_ordered_iff process.parts).mpr member,
        decide_eq_true legal⟩
    obtain ⟨first, firstEq⟩ := Option.isSome_iff_exists.mp found
    exact ⟨first, firstLegal_eq_some_iff.mp firstEq⟩

theorem head?_eq_of_selects (valid : context.validateFor process.ir = .ok context)
    (wide : 1 < process.model.schedulingPolicy.maxWip) {transitionId : PyStr}
    (selected : Selects process context transitionId) :
    ((parallelBatch process context).map Transition.transitionId).head? = some transitionId := by
  obtain ⟨active, -, transition, isFirst, rfl⟩ := (selects_iff valid).mp selected
  rw [List.head?_map, head?_parallelBatch active wide, firstLegal_eq_some_iff.mpr isFirst]
  rfl

/-- A transition that is legal in a terminal state is in no selection but in a
batch. -/
def BatchedInTerminalState (process : ValidProcess) (context : ProcessContextSnapshot) : Prop :=
  context.processControl = .active ∧
    context.processState ∈ process.model.terminationPolicy.terminalStates ∧
    1 < process.model.schedulingPolicy.maxWip ∧
    ∃ transition ∈ process.model.transitions, Legal context transition

theorem not_selectionsAgree_of_batched (valid : context.validateFor process.ir = .ok context)
    (batched : BatchedInTerminalState process context) : ¬ SelectionsAgree process context := by
  rintro ⟨-, parallel⟩
  obtain ⟨active, terminal, wide, anyLegal⟩ := batched
  obtain ⟨names, selected, nonemptyIff, -⟩ := parallel wide
  rw [selectParallel_eq valid] at selected
  obtain rfl := Except.ok.inj selected
  obtain ⟨first, isFirst⟩ := exists_isFirstLegal_iff.mpr anyLegal
  have startsWith := head?_parallelBatch active wide
  rw [firstLegal_eq_some_iff.mpr isFirst] at startsWith
  have nonempty : (parallelBatch process context).map Transition.transitionId ≠ [] := by
    intro empty
    rw [List.map_eq_nil_iff.mp empty] at startsWith
    simp at startsWith
  obtain ⟨transitionId, single⟩ := nonemptyIff.mp nonempty
  exact ((selects_iff valid).mp single).2.1 terminal

/-- The selections agree exactly when no transition is legal in a terminal
state of a process that may run several. -/
theorem selectionsAgree_iff (process : ValidProcess) (context : ProcessContextSnapshot)
    (valid : context.validateFor process.ir = .ok context) :
    SelectionsAgree process context ↔ ¬ BatchedInTerminalState process context := by
  constructor
  · exact fun agree batched => not_selectionsAgree_of_batched valid batched agree
  · intro apart
    refine ⟨fun transitionId => selects_iff valid, fun wide => ?_⟩
    refine ⟨_, selectParallel_eq valid, ?_, fun _ => head?_eq_of_selects valid wide⟩
    constructor
    · intro nonempty
      have active : context.processControl = .active := by
        by_contra inactive
        rw [parallelBatch, if_neg fun both => inactive both.1] at nonempty
        exact nonempty rfl
      have found : (firstLegal process context).isSome = true := by
        rw [← head?_parallelBatch active wide, List.isSome_head?]
        simpa using nonempty
      obtain ⟨first, firstEq⟩ := Option.isSome_iff_exists.mp found
      have isFirst := firstLegal_eq_some_iff.mp firstEq
      refine ⟨first.transitionId, (selects_iff valid).mpr ⟨active, fun terminal => ?_, first,
        isFirst, rfl⟩⟩
      exact apart ⟨active, terminal, wide, first, isFirst.1, isFirst.2.1⟩
    · rintro ⟨transitionId, selected⟩ empty
      have startsWith := head?_eq_of_selects valid wide selected
      rw [empty] at startsWith
      simp at startsWith

end Agreement

theorem selectionsAgree_iff_pair :
    ∃ process : ValidProcess, process.value = pairProcess ∧
      (SelectionsAgree process (process.contextIn (py "OPEN")) ↔
        ¬ BatchedInTerminalState process (process.contextIn (py "OPEN"))) := by
  obtain ⟨process, same, known⟩ := exists_pairProcess
  exact ⟨process, same, selectionsAgree_iff process _ (ValidProcess.contextIn_valid known)⟩

/-! ### A process that goes on in a terminal state -/

def terminalProcess : Json :=
  smallProcess [py "OPEN"] [py "OPEN"] [⟨py "scan", [], py "COMPLETE"⟩]

theorem exists_terminalProcess :
    ∃ process : ValidProcess, process.value = terminalProcess ∧
      py "OPEN" ∈ process.model.states ∧
      BatchedInTerminalState process (process.contextIn (py "OPEN")) := by
  have accepted : modelSatisfies terminalProcess (fun model =>
      py "OPEN" ∈ model.states ∧ py "OPEN" ∈ model.terminationPolicy.terminalStates ∧
      1 < model.schedulingPolicy.maxWip ∧ ∃ transition ∈ model.transitions,
        Legal { processIrDigest := [], processState := py "OPEN", observedAt := py "now" }
          transition) = true := by
    decide +kernel
  obtain ⟨process, same, holds⟩ := exists_smallProcess accepted rfl (by simp)
  obtain ⟨known, terminal, wide, transition, member, legal⟩ := of_decide_eq_true holds
  exact ⟨process, same, known, rfl, terminal, wide, transition, member,
    legal_contextIn_iff.mpr legal⟩

/-- In its terminal state `select` answers COMPLETE and `select_parallel` a batch. -/
theorem not_selectionsAgree_terminal :
    ∃ process : ValidProcess, process.value = terminalProcess ∧
      (process.contextIn (py "OPEN")).validateFor process.ir =
        .ok (process.contextIn (py "OPEN")) ∧
      ¬ SelectionsAgree process (process.contextIn (py "OPEN")) := by
  obtain ⟨process, same, known, batched⟩ := exists_terminalProcess
  have valid := ValidProcess.contextIn_valid known
  exact ⟨process, same, valid, not_selectionsAgree_of_batched valid batched⟩

end CyberLion
