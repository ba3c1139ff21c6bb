import CyberLion.AtomicProgram

/-!
# Pools of programs

Several programs over one shared state, run by a schedule.  The run of each
member is a run among the steps of the others, and a token that a program
returns only with the step that takes it is returned by at most one member.
-/

namespace PyLib

structure Pool (σ α : Type) where
  shared : σ
  threads : List (Prog σ α)

namespace Pool

variable {σ α : Type}

/-- One thread takes its next step.  A thread that has returned stays. -/
def step (pool : Pool σ α) (index : Nat) : Pool σ α :=
  match pool.threads[index]? with
  | some (.atomic update next) =>
    ⟨update pool.shared, pool.threads.set index (next pool.shared)⟩
  | _ => pool

def run (pool : Pool σ α) (schedule : List Nat) : Pool σ α :=
  schedule.foldl step pool

def history (pool : Pool σ α) : List Nat → List σ
  | [] => []
  | index :: schedule => pool.shared :: (pool.step index).history schedule

def Returned (pool : Pool σ α) (index : Nat) (result : α) : Prop :=
  pool.threads[index]? = some (.ret result)

theorem step_eq_self {pool : Pool σ α} {index : Nat}
    (idle : ∀ update next, pool.threads[index]? ≠ some (.atomic update next)) :
    pool.step index = pool := by
  unfold step
  split
  · rename_i update next found
    exact absurd found (idle update next)
  · rfl

theorem step_eq {pool : Pool σ α} {index : Nat} {update : σ → σ} {next : σ → Prog σ α}
    (found : pool.threads[index]? = some (.atomic update next)) :
    pool.step index = ⟨update pool.shared, pool.threads.set index (next pool.shared)⟩ := by
  rw [step, found]

theorem step_cases (pool : Pool σ α) (index : Nat) :
    pool.step index = pool ∨ ∃ update next, pool.threads[index]? = some (.atomic update next) ∧
      pool.step index = ⟨update pool.shared, pool.threads.set index (next pool.shared)⟩ := by
  by_cases idle : ∀ update next, pool.threads[index]? ≠ some (.atomic update next)
  · exact .inl (step_eq_self idle)
  · push Not at idle
    obtain ⟨update, next, found⟩ := idle
    exact .inr ⟨update, next, found, step_eq found⟩

section Runs

variable {allowed : σ → σ → Prop} {pool : Pool σ α}

theorem within_step (within : ∀ thread ∈ pool.threads, thread.Within allowed) (index : Nat) :
    ∀ thread ∈ (pool.step index).threads, thread.Within allowed := by
  rcases pool.step_cases index with same | ⟨update, next, found, stepped⟩
  · rw [same]
    exact within
  · rw [stepped]
    intro thread member
    rcases List.mem_or_eq_of_mem_set member with old | rfl
    · exact within thread old
    · cases within _ (List.mem_of_getElem? found) with
      | atomic _ rest => exact rest pool.shared

theorem exec_of_returned (refl : ∀ state, allowed state state)
    (trans : ∀ first second third, allowed first second → allowed second third →
      allowed first third)
    (within : ∀ thread ∈ pool.threads, thread.Within allowed) {schedule : List Nat}
    {index : Nat} {program : Prog σ α} {result : α}
    (starts : pool.threads[index]? = some program)
    (returned : (pool.run schedule).Returned index result) :
    ∃ instants final, program.Exec allowed pool.shared instants final result ∧
      instants.Sublist (pool.history schedule) ∧ allowed final (pool.run schedule).shared := by
  induction schedule generalizing pool program with
  | nil =>
    have same : program = .ret result := Option.some.inj (starts.symm.trans returned)
    rw [same]
    exact ⟨[], pool.shared, .ret _ _, .slnil, refl _⟩
  | cons chosen schedule ih =>
    have laterWithin := within_step within chosen
    rcases pool.step_cases chosen with same | ⟨update, next, found, stepped⟩
    · have laterStarts : (pool.step chosen).threads[index]? = some program := by
        rw [same]
        exact starts
      obtain ⟨instants, final, execution, sublist, reached⟩ :=
        ih laterWithin laterStarts returned
      rw [same] at execution
      exact ⟨instants, final, execution, sublist.cons _, reached⟩
    · by_cases isIndex : chosen = index
      · subst isIndex
        obtain rfl : program = .atomic update next := Option.some.inj (starts.symm.trans found)
        have laterStarts : (pool.step chosen).threads[chosen]? = some (next pool.shared) := by
          have bound := (List.getElem?_eq_some_iff.mp found).1
          rw [stepped]
          simp [bound]
        obtain ⟨instants, final, execution, sublist, reached⟩ :=
          ih laterWithin laterStarts returned
        rw [stepped] at execution
        exact ⟨pool.shared :: instants, final, .atomic (refl _) execution,
          sublist.cons_cons _, reached⟩
      · have laterStarts : (pool.step chosen).threads[index]? = some program := by
          rw [stepped]
          simp [List.getElem?_set_ne isIndex, starts]
        obtain ⟨instants, final, execution, sublist, reached⟩ :=
          ih laterWithin laterStarts returned
        have passed : allowed pool.shared (pool.step chosen).shared := by
          rw [stepped]
          cases within _ (List.mem_of_getElem? found) with
          | atomic steps _ => exact steps pool.shared
        obtain ⟨left, earlier, leftReached⟩ := execution.of_earlier trans refl passed
        exact ⟨instants, left, earlier, sublist.cons _, trans _ _ _ leftReached reached⟩

end Runs

section Commits

variable {τ : Type} {committed : α → Prop} {part : σ → τ} {pool : Pool σ α}

theorem returned_step {index : Nat} {result : α} (returned : pool.Returned index result)
    (chosen : Nat) : (pool.step chosen).Returned index result := by
  rcases pool.step_cases chosen with same | ⟨update, next, found, stepped⟩
  · rw [same]
    exact returned
  · have different : chosen ≠ index := by
      rintro rfl
      exact absurd (found.symm.trans returned) (by simp)
    rw [Returned, stepped]
    simp only [List.getElem?_set_ne different]
    exact returned

theorem returned_run {index : Nat} {result : α} (returned : pool.Returned index result)
    (schedule : List Nat) : (pool.run schedule).Returned index result := by
  induction schedule generalizing pool with
  | nil => exact returned
  | cons chosen schedule ih => exact ih (returned_step returned chosen)

theorem exists_run_alone {pool : Pool σ α} {index : Nat} {program : Prog σ α}
    (found : pool.threads[index]? = some program) :
    ∃ schedule, pool.run schedule =
      ⟨(program.run pool.shared).1, pool.threads.set index (.ret (program.run pool.shared).2)⟩ := by
  induction program generalizing pool with
  | ret result =>
    refine ⟨[], ?_⟩
    obtain ⟨bound, same⟩ := List.getElem?_eq_some_iff.mp found
    rw [Prog.run_ret, ← same, List.set_getElem_self]
    rfl
  | atomic update next ih =>
    have stepped := step_eq found
    obtain ⟨bound, -⟩ := List.getElem?_eq_some_iff.mp found
    have now : (pool.step index).threads[index]? = some (next pool.shared) := by
      rw [stepped]
      exact List.getElem?_set_self bound
    obtain ⟨schedule, ran⟩ := ih pool.shared now
    refine ⟨index :: schedule, ?_⟩
    change (pool.step index).run schedule = _
    rw [ran, stepped, List.set_set]
    rfl

def CommitsAt (committed : α → Prop) (part : σ → τ) (pool : Pool σ α) (index : Nat) : Prop :=
  ∀ thread, pool.threads[index]? = some thread → thread.Commits committed part

theorem commitsAt_step {index : Nat} (commits : pool.CommitsAt committed part index)
    (chosen : Nat) : (pool.step chosen).CommitsAt committed part index := by
  rcases pool.step_cases chosen with same | ⟨update, next, found, stepped⟩
  · rw [same]
    exact commits
  · rw [stepped]
    intro thread isThread
    dsimp only at isThread
    by_cases isIndex : chosen = index
    · subst isIndex
      have bound := (List.getElem?_eq_some_iff.mp found).1
      rw [List.getElem?_set_self bound] at isThread
      obtain rfl := Option.some.inj isThread
      rcases commits _ found pool.shared with ⟨-, later⟩ | ⟨result, returned, -⟩
      · exact later
      · rw [returned]
        trivial
    · rw [List.getElem?_set_ne isIndex] at isThread
      exact commits thread isThread

theorem commitsAt_run {index : Nat} (commits : pool.CommitsAt committed part index)
    (schedule : List Nat) : (pool.run schedule).CommitsAt committed part index := by
  induction schedule generalizing pool with
  | nil => exact commits
  | cons chosen schedule ih => exact ih (commitsAt_step commits chosen)

theorem part_step_eq {index : Nat} {schedule : List Nat} {result : α}
    (commits : pool.CommitsAt committed part index)
    (returned : ((pool.step index).run schedule).Returned index result)
    (notCommitted : ¬ committed result) :
    part (pool.step index).shared = part pool.shared := by
  rcases pool.step_cases index with same | ⟨update, next, found, stepped⟩
  · rw [same]
  · rcases commits _ found pool.shared with ⟨kept, -⟩ | ⟨other, isOther, isCommitted⟩
    · rw [stepped]
      exact kept
    · have bound := (List.getElem?_eq_some_iff.mp found).1
      have otherReturned : (pool.step index).Returned index other := by
        rw [Returned, stepped]
        dsimp only
        rw [List.getElem?_set_self bound, isOther]
      have same := (returned_run otherReturned schedule).symm.trans returned
      obtain rfl := Prog.ret.inj (Option.some.inj same)
      exact absurd isCommitted notCommitted

end Commits

section Tokens

variable {κ : Type} {token : α → Option κ} {taken : σ → κ → Prop}

/-- What a pool of claiming threads keeps: the returned tokens are taken, and
no two threads have returned the same one. -/
structure Settled (token : α → Option κ) (taken : σ → κ → Prop) (pool : Pool σ α) : Prop where
  threads : ∀ thread ∈ pool.threads, thread.Claims token taken ∨
    ∃ result key, thread = .ret result ∧ token result = some key ∧ taken pool.shared key
  unique : ∀ first second firstResult secondResult key, pool.Returned first firstResult →
    pool.Returned second secondResult → token firstResult = some key →
    token secondResult = some key → first = second

theorem settled_start {pool : Pool σ α}
    (claims : ∀ thread ∈ pool.threads, thread.Claims token taken) : pool.Settled token taken where
  threads := fun thread member => .inl (claims thread member)
  unique := by
    intro first second firstResult secondResult key firstReturned _ hasToken
    have noToken : token firstResult = none := claims _ (List.mem_of_getElem? firstReturned)
    rw [noToken] at hasToken
    exact absurd hasToken (by simp)

variable {pool : Pool σ α}

theorem Settled.taken_of_returned (settled : pool.Settled token taken) {index : Nat} {result : α}
    {key : κ} (returned : pool.Returned index result) (hasToken : token result = some key) :
    taken pool.shared key := by
  rcases settled.threads _ (List.mem_of_getElem? returned) with claims | known
  · have noToken : token result = none := claims
    rw [noToken] at hasToken
    exact absurd hasToken (by simp)
  · obtain ⟨other, otherKey, same, otherToken, isTaken⟩ := known
    obtain rfl : result = other := Prog.ret.inj same
    rw [hasToken] at otherToken
    obtain rfl := Option.some.inj otherToken
    exact isTaken

theorem settled_step
    (keeps : ∀ thread ∈ pool.threads,
      thread.Within fun before after => ∀ key, taken before key → taken after key)
    (settled : pool.Settled token taken) (chosen : Nat) :
    (pool.step chosen).Settled token taken := by
  rcases pool.step_cases chosen with same | ⟨update, next, found, stepped⟩
  · rw [same]
    exact settled
  have member := List.mem_of_getElem? found
  have stays : ∀ key, taken pool.shared key → taken (update pool.shared) key := by
    cases keeps _ member with
    | atomic steps _ => exact steps pool.shared
  have claims : (∃ result key, next pool.shared = .ret result ∧ token result = some key ∧
      ¬ taken pool.shared key ∧ taken (update pool.shared) key) ∨
      (next pool.shared).Claims token taken := by
    rcases settled.threads _ member with claims | ⟨result, key, same, -⟩
    · exact claims pool.shared
    · exact absurd same (by simp)
  -- a token that the step returns was not taken before, so no other thread has it
  have fresh : ∀ other otherResult result key, pool.Returned other otherResult →
      next pool.shared = .ret result → token otherResult = some key →
      token result ≠ some key := by
    intro other otherResult result key returned isResult otherToken hasToken
    rcases claims with ⟨claimed, claimedKey, isClaimed, claimedToken, notTaken, -⟩ | later
    · rw [isClaimed] at isResult
      obtain rfl := Prog.ret.inj isResult
      rw [hasToken] at claimedToken
      obtain rfl := Option.some.inj claimedToken
      exact notTaken (settled.taken_of_returned returned otherToken)
    · rw [isResult] at later
      have noToken : token result = none := later
      rw [noToken] at hasToken
      exact absurd hasToken (by simp)
  have bound := (List.getElem?_eq_some_iff.mp found).1
  rw [stepped]
  refine ⟨?_, ?_⟩
  · intro thread threadMember
    rcases List.mem_or_eq_of_mem_set threadMember with old | rfl
    · rcases settled.threads thread old with threadClaims | ⟨result, key, same, hasToken, isTaken⟩
      · exact .inl threadClaims
      · exact .inr ⟨result, key, same, hasToken, stays key isTaken⟩
    · rcases claims with ⟨result, key, isResult, hasToken, -, isTaken⟩ | later
      · exact .inr ⟨result, key, isResult, hasToken, isTaken⟩
      · exact .inl later
  · intro first second firstResult secondResult key firstReturned secondReturned firstToken
      secondToken
    rw [Returned] at firstReturned secondReturned
    by_cases isFirst : chosen = first
    · by_cases isSecond : chosen = second
      · exact isFirst.symm.trans isSecond
      · rw [← isFirst, List.getElem?_set_self bound] at firstReturned
        rw [List.getElem?_set_ne isSecond] at secondReturned
        exact absurd firstToken (fresh second secondResult firstResult key secondReturned
          (Option.some.inj firstReturned) secondToken)
    · rw [List.getElem?_set_ne isFirst] at firstReturned
      by_cases isSecond : chosen = second
      · rw [← isSecond, List.getElem?_set_self bound] at secondReturned
        exact absurd secondToken (fresh first firstResult secondResult key firstReturned
          (Option.some.inj secondReturned) firstToken)
      · rw [List.getElem?_set_ne isSecond] at secondReturned
        exact settled.unique first second firstResult secondResult key firstReturned
          secondReturned firstToken secondToken

theorem settled_run
    (keeps : ∀ thread ∈ pool.threads,
      thread.Within fun before after => ∀ key, taken before key → taken after key)
    (settled : pool.Settled token taken) (schedule : List Nat) :
    (pool.run schedule).Settled token taken := by
  induction schedule generalizing pool with
  | nil => exact settled
  | cons chosen schedule ih =>
    exact ih (within_step keeps chosen) (settled_step keeps settled chosen)

end Tokens

end Pool

end PyLib
