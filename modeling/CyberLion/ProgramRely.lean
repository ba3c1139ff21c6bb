import CyberLion.ProgramPool

/-!
# What a program may rely on

A fact that no step of the surroundings ends is one that a program may rely on.
The rules of this file say what a program does while such a fact holds, that it
makes one true before it returns, or that it changes nothing unless it commits;
and they carry each of these through the runs of a pool.
-/

namespace PyLib

namespace Prog

variable {σ α τ : Type}

def Stable (allowed : σ → σ → Prop) (fact : σ → Prop) : Prop :=
  ∀ before after, allowed before after → fact before → fact after

/-- While the fact holds, the program leaves a part of the state as it is and
returns only accepted results. -/
def Under (fact : σ → Prop) (part : σ → τ) (accepted : α → Prop) : Prog σ α → Prop
  | ret result => accepted result
  | atomic update next => ∀ found, fact found →
      part (update found) = part found ∧ Under fact part accepted (next found)

def Ensures (fact : σ → Prop) (kind : α → Prop) : Prog σ α → Prop
  | ret result => ¬ kind result
  | atomic update next => ∀ found, fact (update found) ∨ Ensures fact kind (next found)

/-- A step that changes the part makes a fact true under which the program changes
no more and returns a committed result. -/
def Settles (allowed : σ → σ → Prop) (part : σ → τ) (committed : α → Prop) : Prog σ α → Prop
  | ret _ => True
  | atomic update next => ∀ found,
      (part (update found) = part found ∧ Settles allowed part committed (next found)) ∨
        ∃ fact, Stable allowed fact ∧ fact (update found) ∧
          Under fact part committed (next found)

variable {β : Type} {fact : σ → Prop} {part : σ → τ} {allowed : σ → σ → Prop}

theorem Under.bind {middle : α → Prop} {accepted : β → Prop} {program : Prog σ α}
    {rest : α → Prog σ β} (first : Under fact part middle program)
    (second : ∀ result, middle result → Under fact part accepted (rest result)) :
    Under fact part accepted (program >>= rest) := by
  induction program with
  | ret result => exact second result first
  | atomic update next ih =>
    exact fun found holds => ⟨(first found holds).1, ih found (first found holds).2⟩

theorem Settles.bind {committed : β → Prop} {program : Prog σ α} {rest : α → Prog σ β}
    (first : Within (fun before after => part after = part before) program)
    (second : ∀ result, Settles allowed part committed (rest result)) :
    Settles allowed part committed (program >>= rest) := by
  induction first with
  | ret result => exact second result
  | atomic steps _ ih => exact fun found => .inl ⟨steps found, ih found⟩

end Prog

/-! ### Calls one after the other -/

section Calls

variable {σ κ : Type} (execute : σ → κ → σ) (Meets : σ → κ → Prop)

def EachMeets (state : σ) (calls : List κ) : Prop :=
  ∀ first call second, calls = first ++ call :: second → Meets (first.foldl execute state) call

variable {execute Meets}

theorem EachMeets.of_append {state : σ} {first second : List κ}
    (meets : EachMeets execute Meets state (first ++ second)) :
    EachMeets execute Meets state first ∧
      EachMeets execute Meets (first.foldl execute state) second := by
  constructor
  · rintro before call after rfl
    exact meets before call (after ++ second) (by simp)
  · rintro before call after rfl
    have later := meets (first ++ before) call after (by simp)
    rwa [List.foldl_append] at later

theorem eachMeets_nil (state : σ) : EachMeets execute Meets state [] := by
  intro first call second same
  simp at same

theorem eachMeets_cons {state : σ} {call : κ} {calls : List κ} :
    EachMeets execute Meets state (call :: calls) ↔
      Meets state call ∧ EachMeets execute Meets (execute state call) calls := by
  constructor
  · intro meets
    obtain ⟨here, later⟩ := @EachMeets.of_append _ _ execute Meets state [call] calls meets
    exact ⟨here [] call [] rfl, later⟩
  · rintro ⟨here, later⟩ first found second same
    cases first with
    | nil =>
      obtain ⟨rfl, -⟩ := List.cons.inj same
      exact here
    | cons head first =>
      obtain ⟨rfl, rest⟩ := List.cons.inj same
      exact later first found second rest

theorem invariant_of_eachMeets {Invariant : σ → Prop}
    (step : ∀ state call, Invariant state → Meets state call → Invariant (execute state call))
    {state : σ} {calls : List κ} (initially : Invariant state)
    (meets : EachMeets execute Meets state calls) : Invariant (calls.foldl execute state) := by
  induction calls generalizing state with
  | nil => exact initially
  | cons call calls ih =>
    obtain ⟨here, later⟩ := @EachMeets.of_append _ _ execute Meets state [call] calls meets
    exact ih (step state call initially (here [] call [] rfl)) later

end Calls

/-! ### Fallible programs -/

namespace PyProg

open Prog

variable {σ α β τ : Type} {fact : σ → Prop} {part : σ → τ} {allowed : σ → σ → Prop}

variable {computation : Except PyError α} {rest : α → PyProg σ β}

theorem under_lift {accepted : Except PyError β → Prop}
    (raised : ∀ error, computation = .error error → accepted (.error error))
    (later : ∀ value, computation = .ok value → Under fact part accepted (ExceptT.run (rest value))) :
    Under fact part accepted (ExceptT.run (lift computation >>= rest)) := by
  cases computation with
  | ok value => exact later value rfl
  | error error => exact raised error rfl

theorem under_read {accepted : Except PyError β → Prop} {view : σ → Except PyError α}
    (step : ∀ found, fact found →
      Under fact part accepted (ExceptT.run (lift (view found) >>= rest))) :
    Under fact part accepted (ExceptT.run (read view >>= rest)) :=
  fun found holds => ⟨rfl, step found holds⟩

theorem under_bind {middle : α → Prop} {accepted : Except PyError β → Prop} {program : PyProg σ α}
    (first : Under fact part (fun result => ∃ value, result = .ok value ∧ middle value)
      (ExceptT.run program))
    (second : ∀ value, middle value → Under fact part accepted (ExceptT.run (rest value))) :
    Under fact part accepted (ExceptT.run (program >>= rest)) := by
  refine Under.bind first fun result isMiddle => ?_
  obtain ⟨value, rfl, holds⟩ := isMiddle
  exact second value holds

theorem ensures_lift {kind : Except PyError β → Prop} (raised : ∀ error, ¬ kind (.error error))
    (later : ∀ value, computation = .ok value → Ensures fact kind (ExceptT.run (rest value))) :
    Ensures fact kind (ExceptT.run (lift computation >>= rest)) := by
  cases computation with
  | ok value => exact later value rfl
  | error error => exact raised error

theorem ensures_read {kind : Except PyError β → Prop} {view : σ → Except PyError α}
    (step : ∀ found, fact found ∨ Ensures fact kind (ExceptT.run (lift (view found) >>= rest))) :
    Ensures fact kind (ExceptT.run (read view >>= rest)) :=
  step

theorem ensures_transact {kind : Except PyError β → Prop} {transaction : σ → σ × Except PyError α}
    (step : ∀ found, fact (transaction found).1 ∨
      Ensures fact kind (ExceptT.run (lift (transaction found).2 >>= rest))) :
    Ensures fact kind (ExceptT.run (transact transaction >>= rest)) :=
  step

theorem settles_lift {committed : Except PyError β → Prop}
    (later : ∀ value, computation = .ok value →
      Settles allowed part committed (ExceptT.run (rest value))) :
    Settles allowed part committed (ExceptT.run (lift computation >>= rest)) := by
  cases computation with
  | ok value => exact later value rfl
  | error error => trivial

theorem settles_read {committed : Except PyError β → Prop} {view : σ → Except PyError α}
    (later : ∀ value, Settles allowed part committed (ExceptT.run (rest value))) :
    Settles allowed part committed (ExceptT.run (read view >>= rest)) :=
  fun _ => .inl ⟨rfl, settles_lift fun value _ => later value⟩

theorem settles_bind {committed : Except PyError β → Prop} {program : PyProg σ α}
    (first : PyProg.Within (fun before after => part after = part before) program)
    (second : ∀ value, Settles allowed part committed (ExceptT.run (rest value))) :
    Settles allowed part committed (ExceptT.run (program >>= rest)) := by
  refine Settles.bind first fun result => ?_
  cases result with
  | ok value => exact second value
  | error error => trivial

theorem settles_transact {committed : Except PyError β → Prop}
    {transaction : σ → σ × Except PyError α}
    (raised : ∀ found error, (transaction found).2 = .error error →
      part (transaction found).1 = part found)
    (returned : ∀ found value, (transaction found).2 = .ok value →
      ∃ fact, Stable allowed fact ∧ fact (transaction found).1 ∧
      Under fact part committed (ExceptT.run (rest value))) :
    Settles allowed part committed (ExceptT.run (transact transaction >>= rest)) := by
  intro found
  cases outcome : (transaction found).2 with
  | error error =>
    refine .inl ⟨raised found error outcome, ?_⟩
    change Settles allowed part committed
      (ExceptT.run (lift (transaction found).2 >>= rest))
    rw [outcome]
    trivial
  | ok value =>
    obtain ⟨fact, stable, holds, later⟩ := returned found value outcome
    refine .inr ⟨fact, stable, holds, ?_⟩
    change Under fact part committed (ExceptT.run (lift (transaction found).2 >>= rest))
    rw [outcome]
    exact later

/-! ### A program that is alone -/

section Alone

variable {state : σ} {holds : σ → Prop}

theorem fst_runAlone_lift {computation : Except PyError α} {rest : α → PyProg σ β}
    (raised : holds state)
    (later : ∀ value, computation = .ok value → holds (runAlone (rest value) state).1) :
    holds (runAlone (lift computation >>= rest) state).1 := by
  cases computation with
  | ok value => exact later value rfl
  | error error => exact raised

theorem fst_runAlone_read {view : σ → Except PyError α} {rest : α → PyProg σ β}
    (raised : holds state)
    (later : ∀ value, view state = .ok value → holds (runAlone (rest value) state).1) :
    holds (runAlone (read view >>= rest) state).1 :=
  fst_runAlone_lift raised later

theorem fst_runAlone_transact {transaction : σ → σ × Except PyError α} {rest : α → PyProg σ β}
    (raised : holds (transaction state).1)
    (later : ∀ value, (transaction state).2 = .ok value →
      holds (runAlone (rest value) (transaction state).1).1) :
    holds (runAlone (transact transaction >>= rest) state).1 := by
  have split : runAlone (transact transaction >>= rest) state =
      runAlone (lift (transaction state).2 >>= rest) (transaction state).1 := rfl
  rw [split]
  exact fst_runAlone_lift raised later

theorem fst_runAlone_of_within {program : PyProg σ α}
    (within : Within (fun before after => after = before) program) :
    (runAlone program state).1 = state := by
  unfold runAlone
  unfold Within at within
  generalize ExceptT.run program = steps at within
  induction within generalizing state with
  | ret result => rfl
  | atomic steps _ ih =>
    rw [Prog.run, ih]
    exact steps state

end Alone

end PyProg

/-! ### Pools -/

namespace Pool

open Prog

variable {σ α τ : Type} {allowed : σ → σ → Prop} {pool : Pool σ α}

theorem run_append (pool : Pool σ α) (first second : List Nat) :
    pool.run (first ++ second) = (pool.run first).run second :=
  List.foldl_append ..

theorem getElem?_run_of_notMem {index : Nat} {schedule : List Nat} (idle : index ∉ schedule) :
    (pool.run schedule).threads[index]? = pool.threads[index]? := by
  induction schedule generalizing pool with
  | nil => rfl
  | cons chosen schedule ih =>
    rw [List.mem_cons, not_or] at idle
    obtain ⟨notChosen, later⟩ := idle
    have stays : (pool.step chosen).threads[index]? = pool.threads[index]? := by
      rcases pool.step_cases chosen with same | ⟨update, next, -, stepped⟩
      · rw [same]
      · rw [stepped]
        exact List.getElem?_set_ne (Ne.symm notChosen)
    exact (ih later).trans stays

theorem within_run (within : ∀ thread ∈ pool.threads, thread.Within allowed)
    (schedule : List Nat) : ∀ thread ∈ (pool.run schedule).threads, thread.Within allowed := by
  induction schedule generalizing pool with
  | nil => exact within
  | cons chosen schedule ih => exact ih (within_step within chosen)

theorem allowed_step (refl : ∀ state, allowed state state)
    (within : ∀ thread ∈ pool.threads, thread.Within allowed) (chosen : Nat) :
    allowed pool.shared (pool.step chosen).shared := by
  rcases pool.step_cases chosen with same | ⟨update, next, found, stepped⟩
  · rw [same]
    exact refl _
  · rw [stepped]
    cases within _ (List.mem_of_getElem? found) with
    | atomic steps _ => exact steps pool.shared

theorem fact_run {fact : σ → Prop} (refl : ∀ state, allowed state state)
    (within : ∀ thread ∈ pool.threads, thread.Within allowed) (stable : Stable allowed fact)
    (holds : fact pool.shared) (schedule : List Nat) : fact (pool.run schedule).shared := by
  induction schedule generalizing pool with
  | nil => exact holds
  | cons chosen schedule ih =>
    exact ih (within_step within chosen)
      (stable _ _ (allowed_step refl within chosen) holds)

theorem allowed_run (refl : ∀ state, allowed state state)
    (trans : ∀ first second third, allowed first second → allowed second third →
      allowed first third)
    (within : ∀ thread ∈ pool.threads, thread.Within allowed) (schedule : List Nat) :
    allowed pool.shared (pool.run schedule).shared :=
  fact_run refl within (fun _ _ step reached => trans _ _ _ reached step) (refl _) schedule

theorem getElem?_step {chosen index : Nat} {thread : Prog σ α}
    (found : (pool.step chosen).threads[index]? = some thread) :
    pool.threads[index]? = some thread ∨ ∃ update next,
      pool.threads[index]? = some (.atomic update next) ∧ thread = next pool.shared ∧
        (pool.step chosen).shared = update pool.shared := by
  rcases pool.step_cases chosen with same | ⟨update, next, isAtomic, stepped⟩
  · rw [same] at found
    exact .inl found
  · rw [stepped] at found ⊢
    dsimp only at found
    by_cases isIndex : chosen = index
    · subst isIndex
      have bound := (List.getElem?_eq_some_iff.mp isAtomic).1
      rw [List.getElem?_set_self bound] at found
      exact .inr ⟨update, next, isAtomic, (Option.some.inj found).symm, rfl⟩
    · rw [List.getElem?_set_ne isIndex] at found
      exact .inl found

theorem invariantAt_run {holds : σ → Prog σ α → Prop} (refl : ∀ state, allowed state state)
    (within : ∀ thread ∈ pool.threads, thread.Within allowed)
    (own : ∀ shared update next, allowed shared (update shared) →
      holds shared (.atomic update next) → holds (update shared) (next shared))
    (others : ∀ before after thread, allowed before after → holds before thread →
      holds after thread)
    {index : Nat}
    (start : ∀ thread, pool.threads[index]? = some thread → holds pool.shared thread)
    (schedule : List Nat) :
    ∀ thread, (pool.run schedule).threads[index]? = some thread →
      holds (pool.run schedule).shared thread := by
  induction schedule generalizing pool with
  | nil => exact start
  | cons chosen schedule ih =>
    refine ih (within_step within chosen) fun thread found => ?_
    have moves := allowed_step refl within chosen
    rcases getElem?_step found with same | ⟨update, next, isAtomic, rfl, moved⟩
    · exact others _ _ _ moves (start thread same)
    · rw [moved] at moves ⊢
      exact own _ _ _ moves (start _ isAtomic)

section Facts

variable {fact : σ → Prop} {part : σ → τ} (refl : ∀ state, allowed state state)
  (within : ∀ thread ∈ pool.threads, thread.Within allowed) (stable : Stable allowed fact)
include refl within stable

theorem under_run {accepted : α → Prop} {index : Nat} (holds : fact pool.shared)
    (under : ∀ thread, pool.threads[index]? = some thread → thread.Under fact part accepted)
    (schedule : List Nat) {thread : Prog σ α}
    (found : (pool.run schedule).threads[index]? = some thread) :
    thread.Under fact part accepted := by
  have both := @invariantAt_run σ α allowed pool
    (fun shared thread => fact shared ∧ thread.Under fact part accepted) refl within
    (fun shared update next moves ⟨isFact, later⟩ =>
      ⟨stable _ _ moves isFact, (later shared isFact).2⟩)
    (fun before after thread moves ⟨isFact, later⟩ => ⟨stable _ _ moves isFact, later⟩)
    index (fun thread found => ⟨holds, under thread found⟩) schedule thread found
  exact both.2

theorem part_step_eq_of_under {accepted : α → Prop} {index : Nat} (holds : fact pool.shared)
    (under : ∀ thread, pool.threads[index]? = some thread → thread.Under fact part accepted)
    (schedule : List Nat) :
    part ((pool.run schedule).run [index]).shared = part (pool.run schedule).shared := by
  change part ((pool.run schedule).step index).shared = _
  rcases (pool.run schedule).step_cases index with same | ⟨update, next, found, stepped⟩
  · rw [same]
  · rw [stepped]
    have isUnder := under_run refl within stable holds under schedule found
    exact (isUnder _ (fact_run refl within stable holds schedule)).1

theorem fact_of_returned {kind : α → Prop} {index : Nat}
    (ensures : ∀ thread, pool.threads[index]? = some thread → thread.Ensures fact kind)
    {schedule : List Nat} {result : α} (returned : (pool.run schedule).Returned index result)
    (isKind : kind result) : fact (pool.run schedule).shared := by
  have either := @invariantAt_run σ α allowed pool
    (fun shared thread => fact shared ∨ thread.Ensures fact kind) refl within
    (fun shared update next moves known => by
      rcases known with isFact | later
      · exact .inl (stable _ _ moves isFact)
      · exact later shared)
    (fun before after thread moves known => known.imp (stable _ _ moves) id)
    index (fun thread found => .inr (ensures thread found)) schedule _ returned
  exact either.resolve_right fun impossible => impossible isKind

end Facts

theorem part_step_eq_of_settles {part : σ → τ} {committed : α → Prop}
    (refl : ∀ state, allowed state state)
    (within : ∀ thread ∈ pool.threads, thread.Within allowed) {index : Nat}
    (settles : ∀ thread, pool.threads[index]? = some thread →
      thread.Settles allowed part committed)
    {before after : List Nat} {result : α}
    (returned : (pool.run (before ++ index :: after)).Returned index result)
    (notCommitted : ¬ committed result) :
    part (pool.run (before ++ [index])).shared = part (pool.run before).shared := by
  have laterWithin := within_run within before
  have split : pool.run (before ++ index :: after) =
      ((pool.run before).step index).run after := run_append ..
  have one : pool.run (before ++ [index]) = (pool.run before).step index := run_append ..
  rw [split] at returned
  rw [one]
  -- a thread has settled when it is under a fact that its change has made true
  have known := @invariantAt_run σ α allowed pool
    (fun shared thread => thread.Settles allowed part committed ∨
      ∃ fact, Stable allowed fact ∧ fact shared ∧ thread.Under fact part committed) refl within
    (fun shared update next moves known => by
      rcases known with settles | ⟨fact, stable, holds, under⟩
      · exact (settles shared).imp And.right id
      · exact .inr ⟨fact, stable, stable _ _ moves holds, (under shared holds).2⟩)
    (fun first second thread moves known => known.imp id fun ⟨fact, stable, holds, under⟩ =>
      ⟨fact, stable, stable _ _ moves holds, under⟩)
    index (fun thread found => .inl (settles thread found)) before
  rcases (pool.run before).step_cases index with same | ⟨update, next, found, stepped⟩
  · rw [same]
  have committing : ∀ fact, Stable allowed fact → fact ((pool.run before).step index).shared →
      (∀ thread, ((pool.run before).step index).threads[index]? = some thread →
        thread.Under fact part committed) → False := by
    intro fact stable holds under
    exact notCommitted (under_run refl (within_step laterWithin index) stable holds under after
      returned)
  have bound := (List.getElem?_eq_some_iff.mp found).1
  have isNext : ∀ thread, ((pool.run before).step index).threads[index]? = some thread →
      thread = next (pool.run before).shared := by
    intro thread isThread
    rw [stepped, List.getElem?_set_self bound] at isThread
    exact (Option.some.inj isThread).symm
  rcases known _ found with settled | ⟨fact, stable, holds, under⟩
  · rcases settled (pool.run before).shared with ⟨kept, -⟩ | ⟨fact, stable, holds, under⟩
    · rw [stepped]
      exact kept
    · refine (committing fact stable ?_ fun thread isThread => ?_).elim
      · rw [stepped]
        exact holds
      · rw [isNext thread isThread]
        exact under
  · rw [stepped]
    exact (under _ holds).1

end Pool

end PyLib
