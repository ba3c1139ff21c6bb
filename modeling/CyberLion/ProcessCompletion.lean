import CyberLion.ProcessRun
import CyberLion.SqlTable

/-!
# What a process is answered

The process control and the terminal states answer before the transitions are screened, and
the order covers every transition.
-/

namespace CyberLion

open PyLib ProcessIR TransitionSelector

/-! ### The order covers the transitions -/

theorem subset_order_of_validateScheduling {transitionIds : List PyStr} {value : Json}
    {policy : Scheduling} (checked : validateScheduling transitionIds value = .ok policy) :
    transitionIds ⊆ policy.order := by
  refine (?_ : Returns (fun policy : Scheduling => transitionIds ⊆ policy.order)
    (validateScheduling transitionIds value)) policy checked
  unfold validateScheduling
  refine Returns.bind fun _ _ => Returns.bind fun _ _ => Returns.bind fun _ _ => ?_
  refine Returns.bind fun _ _ => Returns.bind fun order _ => Returns.bind fun _ covering => ?_
  repeat refine Returns.bind fun _ _ => ?_
  refine Returns.pure ?_
  simp only [raiseIf_eq_ok, not_or, not_not] at covering
  exact covering.1.2

theorem mem_ordered_iff {model : Model} (parts : ModelParts model) {transition : Transition} :
    transition ∈ ordered model ↔ transition ∈ model.transitions := by
  constructor
  · intro member
    exact List.mem_of_find?_eq_some (find?_of_mem_ordered member)
  · intro member
    obtain ⟨_, scheduled⟩ := parts.scheduling
    have listed := subset_order_of_validateScheduling scheduled
      (List.mem_map_of_mem member)
    have found : (model.transitions.find? fun other =>
        other.transitionId = transition.transitionId) = some transition :=
      find?_of_nodup_map parts.transitionIds_nodup member
    refine List.mem_filterMap.mpr ⟨transition.transitionId, ?_, found⟩
    split
    · exact (List.mergeSort_perm _ _).mem_iff.mpr listed
    · exact listed

/-! ### The answer -/

section Answer

variable {process : ValidProcess} {context : ProcessContextSnapshot}

theorem select_eq (valid : context.validateFor process.ir = .ok context) :
    select process.ir context = (match context.processControl with
      | .complete => answer .complete (py "process control is complete")
      | .handoffRequired => answer .handoffRequired (py "process control requires handoff")
      | .deferred => answer .blocked (py "process control is deferred")
      | .terminated => answer .blocked (py "process control is terminated")
      | .active =>
        if context.processState ∈ process.model.terminationPolicy.terminalStates then
          answer .complete (py "terminal process state")
        else selectFrom process.model context [] (ordered process.model)) := by
  have irValid := CanonicalProcessIR.validate_eq_ok.mpr
    ⟨rfl, process.value, process.model, process.valid⟩
  rw [select, irValid, ok_bind, process.valid.asModel_eq, ok_bind, valid]
  rfl

end Answer

end CyberLion
