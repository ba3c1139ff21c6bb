import CyberLion.AtomicProgram

/-!
# A program between the steps of another party

When the other party of a shared state does a fixed thing in each gap between two
steps of a program, the run of the program is determined.  The rules of this
file find the checks that a step of such a run has passed.
-/

namespace PyLib

namespace Prog

variable {σ α : Type}

/-- The run of a program when the other party acts before each of its steps: the
states that the steps find and leave, and the result. -/
def amid (gap : Nat → σ → σ) : Nat → Prog σ α → σ → List (σ × σ) × α
  | _, ret result, _ => ([], result)
  | index, atomic update next, state =>
    let found := gap index state
    let later := amid gap (index + 1) (next found) (update found)
    ((found, update found) :: later.1, later.2)

variable {gap : Nat → σ → σ}

theorem allowed_of_mem_amid {allowed : σ → σ → Prop} {program : Prog σ α}
    (within : Within allowed program) {index : Nat} {state found left : σ}
    (member : (found, left) ∈ (amid gap index program state).1) : allowed found left := by
  induction within generalizing index state with
  | ret result => exact absurd member (by simp [amid])
  | atomic steps _ ih =>
    rw [amid, List.mem_cons] at member
    rcases member with same | later
    · obtain ⟨rfl, rfl⟩ := Prod.mk.inj same
      exact steps _
    · exact ih _ later

end Prog

namespace PyProg

variable {σ α β : Type} {gap : Nat → σ → σ} {index : Nat} {state found left : σ}

def stepsAmid (gap : Nat → σ → σ) (index : Nat) (program : PyProg σ α) (state : σ) :
    List (σ × σ) :=
  (Prog.amid gap index (ExceptT.run program) state).1

theorem mem_stepsAmid_lift {computation : Except PyError α} {rest : α → PyProg σ β}
    (member : (found, left) ∈ stepsAmid gap index (lift computation >>= rest) state) :
    ∃ value, computation = .ok value ∧ (found, left) ∈ stepsAmid gap index (rest value) state := by
  cases computation with
  | ok value => exact ⟨value, rfl, member⟩
  | error error => exact absurd member (List.not_mem_nil)

theorem mem_stepsAmid_read {view : σ → Except PyError α} {rest : α → PyProg σ β}
    (changes : left ≠ found)
    (member : (found, left) ∈ stepsAmid gap index (read view >>= rest) state) :
    ∃ value, view (gap index state) = .ok value ∧
      (found, left) ∈ stepsAmid gap (index + 1) (rest value) (gap index state) := by
  have split : (found, left) = (gap index state, gap index state) ∨
      (found, left) ∈ stepsAmid gap (index + 1) (lift (view (gap index state)) >>= rest)
        (gap index state) :=
    List.mem_cons.mp member
  rcases split with same | later
  · obtain ⟨rfl, rfl⟩ := Prod.mk.inj same
    exact absurd rfl changes
  · exact mem_stepsAmid_lift later

theorem mem_stepsAmid_transact {transaction : σ → σ × Except PyError α} {rest : α → PyProg σ β}
    (member : (found, left) ∈ stepsAmid gap index (transact transaction >>= rest) state) :
    (found = gap index state ∧ left = (transaction found).1) ∨
      ∃ value, (transaction (gap index state)).2 = .ok value ∧ (found, left) ∈
        stepsAmid gap (index + 1) (rest value) (transaction (gap index state)).1 := by
  have split : (found, left) = (gap index state, (transaction (gap index state)).1) ∨
      (found, left) ∈ stepsAmid gap (index + 1)
        (lift (transaction (gap index state)).2 >>= rest) (transaction (gap index state)).1 :=
    List.mem_cons.mp member
  rcases split with same | later
  · obtain ⟨rfl, rfl⟩ := Prod.mk.inj same
    exact .inl ⟨rfl, rfl⟩
  · exact .inr (mem_stepsAmid_lift later)

theorem eq_of_mem_stepsAmid {program : PyProg σ α}
    (within : Within (fun before after => after = before) program)
    (member : (found, left) ∈ stepsAmid gap index program state) : left = found :=
  Prog.allowed_of_mem_amid within member

end PyProg

end PyLib
