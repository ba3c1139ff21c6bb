import CyberLion.AtomicProgram

/-!
# Runs step by step

A run of a sequence that begins with a computation, a look at the state or a transaction,
said for its first step and the rest.  A run that returned is inverted with these without
naming the states and instants of the computations in between.
-/

namespace PyLib

namespace Prog

variable {σ τ α : Type} {between : σ → σ → Prop} {part : σ → τ}

theorem Within.part_eq {program : Prog σ α}
    (within : Within (fun before after => part after = part before) program)
    (kept : ∀ before after, between before after → part after = part before)
    {start final : σ} {instants : List σ} {result : α}
    (execution : Exec between program start instants final result) : part final = part start := by
  induction execution with
  | ret result state => rfl
  | atomic waited _ ih =>
    obtain ⟨_, _⟩ | ⟨steps, rests⟩ := within
    rw [ih (rests _), steps, kept _ _ waited]

theorem Within.exists_exec_run {program : Prog σ α}
    (within : Within (fun before after => part after = part before) program)
    (alone : ∀ state, between state state) (state : σ) :
    ∃ instants, Exec between program state instants (program.run state).1 (program.run state).2 ∧
      ∀ found ∈ instants, part found = part state := by
  induction within generalizing state with
  | ret result => exact ⟨[], .ret _ _, fun found member => nomatch member⟩
  | @atomic update next steps _ ih =>
    obtain ⟨instants, execution, kept⟩ := ih state (update state)
    refine ⟨state :: instants, .atomic (alone state) execution, ?_⟩
    rw [List.forall_mem_cons]
    exact ⟨rfl, fun found member => (kept found member).trans (steps state)⟩

theorem Commits.part_eq {committed : α → Prop} {program : Prog σ α}
    (commits : Commits committed part program)
    (kept : ∀ before after, between before after → part after = part before)
    {start final : σ} {instants : List σ} {result : α}
    (execution : Exec between program start instants final result)
    (uncommitted : ¬ committed result) : part final = part start := by
  induction execution with
  | ret result state => rfl
  | @atomic update next start found final instants result waited rest ih =>
    rcases commits found with ⟨steps, later⟩ | ⟨last, returned, isCommitted⟩
    · rw [ih later uncommitted, steps, kept _ _ waited]
    · rw [returned] at rest
      obtain ⟨-, -, rfl⟩ := exec_ret.mp rest
      exact absurd isCommitted uncommitted

end Prog

namespace PyProg

variable {σ α β : Type} {between : σ → σ → Prop}

theorem lift_ok_bind (value : α) (rest : α → PyProg σ β) :
    (lift (.ok value) >>= rest) = rest value :=
  rfl

theorem lift_error_bind (error : PyError) (rest : α → PyProg σ β) :
    (lift (.error error) >>= rest) = lift (.error error) :=
  rfl

variable {rest : α → PyProg σ β} {final : σ} {instants : List σ}

theorem exec_view_bind {view : σ → α} {start : σ} {result : Except PyError β} :
    Exec between (read (fun state => .ok (view state)) >>= rest) start instants final result ↔
      ∃ found later, instants = found :: later ∧ between start found ∧
        Exec between (rest (view found)) found later final result :=
  Prog.exec_atomic

theorem exec_lift_bind {computation : Except PyError α} {start : σ} {result : β} :
    Exec between (lift computation >>= rest) start instants final (.ok result) ↔
      ∃ value, computation = .ok value ∧
        Exec between (rest value) start instants final (.ok result) := by
  rw [exec_bind_ok]
  constructor
  · rintro ⟨first, middle, value, second, rfl, lifted, following⟩
    obtain ⟨rfl, rfl, same⟩ := exec_lift.mp lifted
    exact ⟨value, same.symm, following⟩
  · rintro ⟨value, same, following⟩
    exact ⟨[], start, value, instants, rfl, exec_lift.mpr ⟨rfl, rfl, same.symm⟩, following⟩

theorem exec_read_bind {view : σ → Except PyError α} {start : σ} {result : β} :
    Exec between (read view >>= rest) start instants final (.ok result) ↔
      ∃ found later value, instants = found :: later ∧ between start found ∧
        view found = .ok value ∧
        Exec between (rest value) found later final (.ok result) := by
  rw [exec_bind_ok]
  constructor
  · rintro ⟨first, middle, value, second, rfl, reading, following⟩
    obtain ⟨rfl, waited, same⟩ := exec_read.mp reading
    exact ⟨middle, second, value, rfl, waited, same, following⟩
  · rintro ⟨found, later, value, rfl, waited, same, following⟩
    exact ⟨[found], found, value, later, rfl, exec_read.mpr ⟨rfl, waited, same⟩, following⟩

theorem exec_transact_bind {transaction : σ → σ × Except PyError α} {start : σ} {result : β} :
    Exec between (transact transaction >>= rest) start instants final (.ok result) ↔
      ∃ found later value, instants = found :: later ∧ between start found ∧
        (transaction found).2 = .ok value ∧
        Exec between (rest value) (transaction found).1 later final (.ok result) := by
  rw [exec_bind_ok]
  constructor
  · rintro ⟨first, middle, value, second, rfl, writing, following⟩
    obtain ⟨found, rfl, waited, same⟩ := exec_transact.mp writing
    obtain ⟨stored, isValue⟩ := Prod.mk.inj same
    rw [← stored] at following
    exact ⟨found, second, value, rfl, waited, isValue, following⟩
  · rintro ⟨found, later, value, rfl, waited, same, following⟩
    exact ⟨[found], _, value, later, rfl,
      exec_transact.mpr ⟨found, rfl, waited, Prod.ext rfl same⟩, following⟩

theorem exists_exec_of_bind {program : PyProg σ α} {start : σ} {result : β}
    (execution : Exec between (program >>= rest) start instants final (.ok result)) :
    ∃ first middle value second, Exec between program start first middle (.ok value) ∧
      Exec between (rest value) middle second final (.ok result) ∧ first.Sublist instants ∧
      second.Sublist instants := by
  obtain ⟨first, middle, value, second, rfl, firstRun, secondRun⟩ := exec_bind_ok.mp execution
  exact ⟨first, middle, value, second, firstRun, secondRun, List.sublist_append_left first second,
    List.sublist_append_right first second⟩

end PyProg

end PyLib
