import CyberLion.ProgramRely

/-!
# Workers over a shared state

A worker is a value that tells what is left to do, and a step moves one of them.  A
condition on a step is one on the state that the step finds and the worker that takes it.
-/

namespace PyLib

structure Crew (σ τ : Type) where
  shared : σ
  workers : List τ

namespace Crew

variable {σ τ : Type} (move : σ → τ → σ × τ)

def step (crew : Crew σ τ) (index : Nat) : Crew σ τ :=
  match crew.workers[index]? with
  | some worker =>
    ⟨(move crew.shared worker).1, crew.workers.set index (move crew.shared worker).2⟩
  | none => crew

def run (crew : Crew σ τ) (schedule : List Nat) : Crew σ τ :=
  schedule.foldl (step move) crew

def Meets (condition : σ → τ → Prop) (crew : Crew σ τ) (index : Nat) : Prop :=
  ∀ worker, crew.workers[index]? = some worker → condition crew.shared worker

abbrev EachStep (condition : σ → τ → Prop) (crew : Crew σ τ) (schedule : List Nat) : Prop :=
  EachMeets (step move) (Meets condition) crew schedule

variable {move}

theorem step_cases (crew : Crew σ τ) (index : Nat) :
    (crew.workers[index]? = none ∧ crew.step move index = crew) ∨
      ∃ worker, crew.workers[index]? = some worker ∧ crew.step move index =
        ⟨(move crew.shared worker).1, crew.workers.set index (move crew.shared worker).2⟩ := by
  unfold step
  cases found : crew.workers[index]? with
  | none => exact .inl ⟨rfl, rfl⟩
  | some worker => exact .inr ⟨worker, rfl, rfl⟩

theorem related_run {Related : σ → σ → Prop} (refl : ∀ state, Related state state)
    (trans : ∀ first second third, Related first second → Related second third →
      Related first third) {condition : σ → τ → Prop}
    (keeps : ∀ shared worker, condition shared worker → Related shared (move shared worker).1)
    {crew : Crew σ τ} {schedule : List Nat} (meets : EachStep move condition crew schedule) :
    Related crew.shared (crew.run move schedule).shared := by
  induction schedule generalizing crew with
  | nil => exact refl _
  | cons index schedule ih =>
    obtain ⟨here, later⟩ := eachMeets_cons.mp meets
    refine trans _ _ _ ?_ (ih later)
    rcases crew.step_cases index with ⟨-, same⟩ | ⟨worker, found, stepped⟩
    · rw [same]
      exact refl _
    · rw [stepped]
      exact keeps _ _ (here worker found)

theorem eachStep_congr {first second : σ → τ → Prop}
    (same : ∀ shared worker, first shared worker ↔ second shared worker) (crew : Crew σ τ)
    (schedule : List Nat) : EachStep move first crew schedule ↔ EachStep move second crew schedule :=
  forall₄_congr fun _ _ _ _ => forall₂_congr fun worker _ => same _ worker

end Crew

end PyLib
