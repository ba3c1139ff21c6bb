import CyberLion.PyError

/-!
# Programs that share a state

A program meets the state it shares with others only in atomic steps: a
transaction, or what happens under a lock.  Between two of its steps the
others may do anything that the surroundings allow.
-/

namespace PyLib

/-- A program over a shared state: a step may replace the state, and what
follows depends on the state that the step found. -/
inductive Prog (σ α : Type)
  | ret (result : α)
  | atomic (update : σ → σ) (next : σ → Prog σ α)

namespace Prog

variable {σ ε α β : Type}

def bind : Prog σ α → (α → Prog σ β) → Prog σ β
  | ret result, rest => rest result
  | atomic update next, rest => atomic update fun found => (next found).bind rest

instance : Monad (Prog σ) where
  pure := ret
  bind := bind

def transact (transaction : σ → σ × α) : Prog σ α :=
  atomic (fun found => (transaction found).1) fun found => ret (transaction found).2

def read (view : σ → α) : Prog σ α :=
  transact fun found => (found, view found)

def run : Prog σ α → σ → σ × α
  | ret result, state => (state, result)
  | atomic update next, state => (next state).run (update state)

@[simp]
theorem run_ret (result : α) (state : σ) : (ret result).run state = (state, result) :=
  rfl

@[simp]
theorem run_pure (result : α) (state : σ) : (pure result : Prog σ α).run state = (state, result) :=
  rfl

@[simp]
theorem run_transact (transaction : σ → σ × α) (state : σ) :
    (transact transaction).run state = transaction state :=
  rfl

@[simp]
theorem run_read (view : σ → α) (state : σ) : (read view).run state = (state, view state) :=
  rfl

theorem run_bind (program : Prog σ α) (rest : α → Prog σ β) (state : σ) :
    (program >>= rest).run state = (rest (program.run state).2).run (program.run state).1 := by
  induction program generalizing state with
  | ret result => rfl
  | atomic update next ih => exact ih state (update state)

/-! ### Runs among others -/

/-- A run of a program among the steps of others.  What one step left and what
the next step finds are related by `between`; `instants` are the states that
the steps found. -/
inductive Exec (between : σ → σ → Prop) : Prog σ α → σ → List σ → σ → α → Prop
  | ret (result : α) (state : σ) : Exec between (ret result) state [] state result
  | atomic {update : σ → σ} {next : σ → Prog σ α} {start found final : σ} {instants : List σ}
      {result : α} (waited : between start found)
      (rest : Exec between (next found) (update found) instants final result) :
      Exec between (atomic update next) start (found :: instants) final result

variable {between : σ → σ → Prop}

variable {final : σ} {instants : List σ}

@[simp]
theorem exec_ret {value result : α} {start : σ} :
    Exec between (ret value) start instants final result ↔
      instants = [] ∧ final = start ∧ result = value := by
  constructor
  · rintro ⟨⟩
    exact ⟨rfl, rfl, rfl⟩
  · rintro ⟨rfl, rfl, rfl⟩
    exact .ret _ _

theorem exec_atomic {update : σ → σ} {next : σ → Prog σ α} {start : σ} {result : α} :
    Exec between (atomic update next) start instants final result ↔
      ∃ found later, instants = found :: later ∧ between start found ∧
        Exec between (next found) (update found) later final result := by
  constructor
  · rintro (_ | ⟨waited, rest⟩)
    exact ⟨_, _, rfl, waited, rest⟩
  · rintro ⟨found, later, rfl, waited, rest⟩
    exact .atomic waited rest

@[simp]
theorem exec_transact {transaction : σ → σ × α} {start : σ} {result : α} :
    Exec between (transact transaction) start instants final result ↔
      ∃ found, instants = [found] ∧ between start found ∧ transaction found = (final, result) := by
  rw [transact, exec_atomic]
  constructor
  · rintro ⟨found, later, rfl, waited, rest⟩
    obtain ⟨rfl, rfl, rfl⟩ := exec_ret.mp rest
    exact ⟨found, rfl, waited, rfl⟩
  · rintro ⟨found, rfl, waited, same⟩
    refine ⟨found, [], rfl, waited, ?_⟩
    rw [same]
    exact .ret _ _

@[simp]
theorem exec_read {view : σ → α} {start : σ} {result : α} :
    Exec between (read view) start instants final result ↔
      instants = [final] ∧ between start final ∧ view final = result := by
  rw [read, exec_transact]
  constructor
  · rintro ⟨found, rfl, waited, same⟩
    obtain ⟨rfl, rfl⟩ := Prod.mk.inj same
    exact ⟨rfl, waited, rfl⟩
  · rintro ⟨rfl, waited, rfl⟩
    exact ⟨final, rfl, waited, rfl⟩

theorem exec_bind {program : Prog σ α} {rest : α → Prog σ β} {start : σ} {result : β} :
    Exec between (program >>= rest) start instants final result ↔
      ∃ first middle value second, instants = first ++ second ∧
        Exec between program start first middle value ∧
        Exec between (rest value) middle second final result := by
  induction program generalizing start instants with
  | ret value =>
    change Exec between (rest value) start instants final result ↔ _
    constructor
    · intro execution
      exact ⟨[], start, value, instants, rfl, .ret _ _, execution⟩
    · rintro ⟨first, middle, other, second, rfl, returned, execution⟩
      obtain ⟨rfl, rfl, rfl⟩ := exec_ret.mp returned
      exact execution
  | atomic update next ih =>
    change Exec between (atomic update fun found => next found >>= rest) start instants final
      result ↔ _
    rw [exec_atomic]
    constructor
    · rintro ⟨found, later, rfl, waited, execution⟩
      obtain ⟨first, middle, value, second, rfl, firstRun, secondRun⟩ := (ih found).mp execution
      exact ⟨found :: first, middle, value, second, rfl, .atomic waited firstRun, secondRun⟩
    · rintro ⟨first, middle, value, second, rfl, firstRun, secondRun⟩
      obtain ⟨found, later, rfl, waited, laterRun⟩ := exec_atomic.mp firstRun
      exact ⟨found, later ++ second, rfl, waited,
        (ih found).mpr ⟨later, middle, value, second, rfl, laterRun, secondRun⟩⟩

theorem exec_run (alone : ∀ state, between state state) (program : Prog σ α) (state : σ) :
    ∃ instants, Exec between program state instants (program.run state).1
      (program.run state).2 := by
  induction program generalizing state with
  | ret result => exact ⟨[], .ret _ _⟩
  | atomic update next ih =>
    obtain ⟨instants, execution⟩ := ih state (update state)
    exact ⟨state :: instants, .atomic (alone state) execution⟩

theorem Exec.of_earlier
    (trans : ∀ first second third, between first second →
      between second third → between first third)
    (refl : ∀ state, between state state) {program : Prog σ α} {earlier start : σ} {result : α}
    (passed : between earlier start) (execution : Exec between program start instants final result) :
    ∃ left, Exec between program earlier instants left result ∧ between left final := by
  cases execution with
  | ret => exact ⟨earlier, .ret _ _, passed⟩
  | atomic waited rest =>
    exact ⟨final, .atomic (trans _ _ _ passed waited) rest, refl final⟩

/-! ### What the steps may do -/

inductive Within (allowed : σ → σ → Prop) : Prog σ α → Prop
  | ret (result : α) : Within allowed (ret result)
  | atomic {update : σ → σ} {next : σ → Prog σ α} (steps : ∀ found, allowed found (update found))
      (rest : ∀ found, Within allowed (next found)) : Within allowed (atomic update next)

variable {allowed : σ → σ → Prop}

theorem Within.imp {wider : σ → σ → Prop} {program : Prog σ α} (within : Within allowed program)
    (weaken : ∀ before after, allowed before after → wider before after) :
    Within wider program := by
  induction within with
  | ret result => exact .ret result
  | atomic steps _ ih => exact .atomic (fun found => weaken _ _ (steps found)) ih

theorem within_transact {transaction : σ → σ × α}
    (steps : ∀ found, allowed found (transaction found).1) :
    Within allowed (transact transaction) :=
  .atomic steps fun _ => .ret _

theorem within_read (refl : ∀ state, allowed state state) (view : σ → α) :
    Within allowed (read view) :=
  within_transact refl

theorem Within.bind {program : Prog σ α} {rest : α → Prog σ β} (first : Within allowed program)
    (second : ∀ value, Within allowed (rest value)) : Within allowed (program >>= rest) := by
  induction first with
  | ret result => exact second result
  | atomic steps _ ih => exact .atomic steps ih

def zoom {τ : Type} (part : τ → σ) (replace : τ → σ → τ) : Prog σ α → Prog τ α
  | ret result => ret result
  | atomic update next =>
    atomic (fun found => replace found (update (part found))) fun found =>
      (next (part found)).zoom part replace

theorem zoom_bind {τ : Type} {part : τ → σ} {replace : τ → σ → τ} (program : Prog σ α)
    (rest : α → Prog σ β) :
    (program >>= rest).zoom part replace =
      program.zoom part replace >>= fun value => (rest value).zoom part replace := by
  induction program with
  | ret result => rfl
  | atomic update next ih =>
    change atomic _ _ = atomic _ _
    congr 1
    funext found
    exact ih (part found)

theorem run_zoom {τ : Type} {part : τ → σ} {replace : τ → σ → τ}
    (replaced : ∀ whole new, part (replace whole new) = new)
    (kept : ∀ whole, replace whole (part whole) = whole)
    (last : ∀ whole first second, replace (replace whole first) second = replace whole second)
    (program : Prog σ α) (whole : τ) :
    (program.zoom part replace).run whole =
      (replace whole (program.run (part whole)).1, (program.run (part whole)).2) := by
  induction program generalizing whole with
  | ret result =>
    rw [zoom, run, run, kept]
  | atomic update next ih =>
    rw [zoom, run, ih, replaced, last]
    rfl

theorem Within.zoom {τ : Type} {part : τ → σ} {replace : τ → σ → τ} {program : Prog σ α}
    (replaced : ∀ whole new, part (replace whole new) = new) (within : Within allowed program) :
    Within (fun before after => allowed (part before) (part after))
      (program.zoom part replace) := by
  induction within with
  | ret result => exact .ret result
  | atomic steps _ ih =>
    refine .atomic (fun found => ?_) fun found => ih (part found)
    rw [replaced]
    exact steps (part found)

theorem within_zoom {τ ρ : Type} {part : τ → σ} {replace : τ → σ → τ} {other : τ → ρ}
    (kept : ∀ whole new, other (replace whole new) = other whole) (program : Prog σ α) :
    Within (fun before after => other after = other before) (program.zoom part replace) := by
  induction program with
  | ret result => exact .ret result
  | atomic update next ih => exact .atomic (fun found => kept _ _) fun found => ih (part found)

/-- A program that returns a token only with the step that takes it. -/
def Claims {κ : Type} (token : α → Option κ) (taken : σ → κ → Prop) : Prog σ α → Prop
  | ret result => token result = none
  | atomic update next => ∀ found,
      (∃ result key, next found = ret result ∧ token result = some key ∧ ¬ taken found key ∧
        taken (update found) key) ∨ Claims token taken (next found)

theorem Claims.bind {κ : Type} {token : β → Option κ} {taken : σ → κ → Prop}
    (program : Prog σ α) {rest : α → Prog σ β}
    (claims : ∀ value, Claims token taken (rest value)) :
    Claims token taken (program >>= rest) := by
  induction program with
  | ret result => exact claims result
  | atomic update next ih => exact fun found => .inr (ih found)

theorem Claims.finish {κ : Type} {token : β → Option κ} {taken : σ → κ → Prop}
    {program : Prog σ α} {last : α → β}
    (claims : Claims (fun result => token (last result)) taken program) :
    Claims token taken (program >>= fun result => ret (last result)) := by
  induction program with
  | ret result => exact claims
  | atomic update next ih =>
    intro found
    rcases claims found with ⟨result, key, returned, hasToken, fresh, isTaken⟩ | later
    · refine .inl ⟨last result, key, ?_, hasToken, fresh, isTaken⟩
      change (next found).bind _ = _
      rw [returned]
      rfl
    · exact .inr (ih found later)

/-- Every step leaves a part of the state as it is, but for a last step that
returns a committed result. -/
def Commits {τ : Type} (committed : α → Prop) (part : σ → τ) : Prog σ α → Prop
  | ret _ => True
  | atomic update next => ∀ found,
      (part (update found) = part found ∧ Commits committed part (next found)) ∨
        ∃ result, next found = ret result ∧ committed result

section Commits

variable {τ : Type} {committed : β → Prop} {part : σ → τ}

theorem Commits.bind {program : Prog σ α} {rest : α → Prog σ β}
    (first : Within (fun before after => part after = part before) program)
    (second : ∀ value, Commits committed part (rest value)) :
    Commits committed part (program >>= rest) := by
  induction first with
  | ret result => exact second result
  | atomic steps _ ih => exact fun found => .inl ⟨steps found, ih found⟩

theorem Commits.imp {weaker : α → Prop} {stronger : α → Prop} {program : Prog σ α}
    (weaken : ∀ result, stronger result → weaker result)
    (commits : Commits stronger part program) : Commits weaker part program := by
  induction program with
  | ret result => trivial
  | atomic update next ih =>
    intro found
    rcases commits found with ⟨kept, later⟩ | ⟨result, returned, isCommitted⟩
    · exact .inl ⟨kept, ih found later⟩
    · exact .inr ⟨result, returned, weaken result isCommitted⟩

theorem Commits.finish {program : Prog σ α} {last : α → β}
    (commits : Commits (fun result => committed (last result)) part program) :
    Commits committed part (program >>= fun result => ret (last result)) := by
  induction program with
  | ret result => trivial
  | atomic update next ih =>
    intro found
    rcases commits found with ⟨kept, later⟩ | ⟨result, returned, isCommitted⟩
    · exact .inl ⟨kept, ih found later⟩
    · refine .inr ⟨last result, ?_, isCommitted⟩
      change (next found).bind _ = _
      rw [returned]
      rfl

end Commits

theorem Exec.of_zoom {τ : Type} {part : τ → σ} {replace : τ → σ → τ} {among : τ → τ → Prop}
    (replaced : ∀ whole new, part (replace whole new) = new) {program : Prog σ α}
    {start final : τ} {instants : List τ} {result : α}
    (execution : Exec among (program.zoom part replace) start instants final result) :
    Exec (fun _ _ => True) program (part start) (instants.map part) (part final) result := by
  induction program generalizing start instants with
  | ret value =>
    obtain ⟨rfl, rfl, rfl⟩ := exec_ret.mp execution
    exact .ret _ _
  | atomic update next ih =>
    obtain ⟨found, later, rfl, -, rest⟩ := exec_atomic.mp execution
    have remaining := ih (part found) rest
    rw [replaced] at remaining
    exact .atomic trivial remaining

end Prog

/-! ### Fallible programs -/

abbrev PyProg (σ α : Type) := ExceptT PyError (Prog σ) α

namespace PyProg

variable {σ α β : Type} {between : σ → σ → Prop}

def lift (computation : Except PyError α) : PyProg σ α :=
  Prog.ret computation

def transact (transaction : σ → σ × Except PyError α) : PyProg σ α :=
  Prog.transact transaction

def read (view : σ → Except PyError α) : PyProg σ α :=
  Prog.read view

/-- `try: ... except ... as exc: return ...`, where the handler decides what it
catches. -/
def handle (program : PyProg σ α) (handler : PyError → Except PyError α) : PyProg σ α :=
  Prog.bind program fun result =>
    match result with
    | .ok value => .ret (.ok value)
    | .error error => .ret (handler error)

def Exec (between : σ → σ → Prop) (program : PyProg σ α) (start : σ) (instants : List σ)
    (final : σ) (result : Except PyError α) : Prop :=
  Prog.Exec between (ExceptT.run program) start instants final result

def runAlone (program : PyProg σ α) (state : σ) : σ × Except PyError α :=
  Prog.run (ExceptT.run program) state

variable {final : σ} {instants : List σ} {handler : PyError → Except PyError α}

@[simp]
theorem exec_lift {computation result : Except PyError α} {start : σ} :
    Exec between (lift computation) start instants final result ↔
      instants = [] ∧ final = start ∧ result = computation :=
  Prog.exec_ret

@[simp]
theorem exec_pure {value : α} {result : Except PyError α} {start : σ} :
    Exec between (pure value) start instants final result ↔
      instants = [] ∧ final = start ∧ result = .ok value :=
  Prog.exec_ret

@[simp]
theorem exec_transact {transaction : σ → σ × Except PyError α} {start : σ}
    {result : Except PyError α} :
    Exec between (transact transaction) start instants final result ↔
      ∃ found, instants = [found] ∧ between start found ∧ transaction found = (final, result) :=
  Prog.exec_transact

@[simp]
theorem exec_read {view : σ → Except PyError α} {start : σ} {result : Except PyError α} :
    Exec between (read view) start instants final result ↔
      instants = [final] ∧ between start final ∧ view final = result :=
  Prog.exec_read

theorem exec_bind_ok {program : PyProg σ α} {rest : α → PyProg σ β} {start : σ} {result : β} :
    Exec between (program >>= rest) start instants final (.ok result) ↔
      ∃ first middle value second, instants = first ++ second ∧
        Exec between program start first middle (.ok value) ∧
        Exec between (rest value) middle second final (.ok result) := by
  constructor
  · intro execution
    obtain ⟨first, middle, value, second, rfl, firstRun, secondRun⟩ := Prog.exec_bind.mp execution
    cases value with
    | ok value => exact ⟨first, middle, value, second, rfl, firstRun, secondRun⟩
    | error error =>
      obtain ⟨-, -, impossible⟩ := Prog.exec_ret.mp secondRun
      exact absurd impossible (by simp)
  · rintro ⟨first, middle, value, second, rfl, firstRun, secondRun⟩
    exact Prog.exec_bind.mpr ⟨first, middle, .ok value, second, rfl, firstRun, secondRun⟩

theorem exec_handle {program : PyProg σ α} {start : σ} {result : Except PyError α} :
    Exec between (handle program handler) start instants final result ↔
      (∃ value, Exec between program start instants final (.ok value) ∧ result = .ok value) ∨
      ∃ error, Exec between program start instants final (.error error) ∧
        result = handler error := by
  constructor
  · intro execution
    obtain ⟨first, middle, value, second, rfl, firstRun, secondRun⟩ := Prog.exec_bind.mp execution
    cases value with
    | ok value =>
      obtain ⟨rfl, rfl, rfl⟩ := Prog.exec_ret.mp secondRun
      rw [List.append_nil]
      exact .inl ⟨value, firstRun, rfl⟩
    | error error =>
      obtain ⟨rfl, rfl, rfl⟩ := Prog.exec_ret.mp secondRun
      rw [List.append_nil]
      exact .inr ⟨error, firstRun, rfl⟩
  · rintro (⟨value, execution, rfl⟩ | ⟨error, execution, rfl⟩)
    · exact Prog.exec_bind.mpr ⟨instants, final, .ok value, [], by simp, execution, .ret _ _⟩
    · exact Prog.exec_bind.mpr ⟨instants, final, .error error, [], by simp, execution, .ret _ _⟩

@[simp]
theorem runAlone_lift (computation : Except PyError α) (state : σ) :
    runAlone (lift computation) state = (state, computation) :=
  rfl

@[simp]
theorem runAlone_pure (value : α) (state : σ) :
    runAlone (pure value) state = (state, .ok value) :=
  rfl

@[simp]
theorem runAlone_read (view : σ → Except PyError α) (state : σ) :
    runAlone (read view) state = (state, view state) :=
  rfl

@[simp]
theorem runAlone_transact (transaction : σ → σ × Except PyError α) (state : σ) :
    runAlone (transact transaction) state = transaction state :=
  rfl

theorem runAlone_bind (program : PyProg σ α) (rest : α → PyProg σ β) (state : σ) :
    runAlone (program >>= rest) state =
      match runAlone program state with
      | (middle, .ok value) => runAlone (rest value) middle
      | (middle, .error error) => (middle, .error error) := by
  have sequenced := Prog.run_bind program (ExceptT.bindCont rest) state
  have unfolded : runAlone (program >>= rest) state =
      Prog.run (ExceptT.bindCont rest (runAlone program state).2) (runAlone program state).1 :=
    sequenced
  rw [unfolded]
  cases runAlone program state with
  | mk middle result => cases result <;> rfl

theorem runAlone_handle (program : PyProg σ α) (handler : PyError → Except PyError α)
    (state : σ) :
    runAlone (handle program handler) state =
      match runAlone program state with
      | (final, .ok value) => (final, .ok value)
      | (final, .error error) => (final, handler error) := by
  have sequenced : runAlone (handle program handler) state =
      Prog.run (match (runAlone program state).2 with
        | .ok value => .ret (.ok value)
        | .error error => .ret (handler error)) (runAlone program state).1 :=
    Prog.run_bind (ExceptT.run program) _ state
  rw [sequenced]
  cases runAlone program state with
  | mk middle result => cases result <;> rfl

theorem snd_runAlone {program : PyProg σ α} {start : σ} {result : Except PyError α} :
    (runAlone program start).2 = result ↔ ∃ final, runAlone program start = (final, result) := by
  constructor
  · rintro rfl
    exact ⟨_, rfl⟩
  · rintro ⟨final, same⟩
    rw [same]

theorem runAlone_bind_ok {program : PyProg σ α} {rest : α → PyProg σ β} {start : σ} {result : β} :
    runAlone (program >>= rest) start = (final, .ok result) ↔
      ∃ middle value, runAlone program start = (middle, .ok value) ∧
        runAlone (rest value) middle = (final, .ok result) := by
  rw [runAlone_bind]
  cases runAlone program start with
  | mk middle value =>
    cases value with
    | ok value =>
      constructor
      · intro returned
        exact ⟨middle, value, rfl, returned⟩
      · rintro ⟨_, _, same, returned⟩
        obtain ⟨rfl, sameValue⟩ := Prod.mk.inj same
        obtain rfl := Except.ok.inj sameValue
        exact returned
    | error error => simp

theorem runAlone_handle_ok {program : PyProg σ α} {start : σ} {result : α} :
    runAlone (handle program handler) start = (final, .ok result) ↔
      runAlone program start = (final, .ok result) ∨
      ∃ error, runAlone program start = (final, .error error) ∧ handler error = .ok result := by
  rw [runAlone_handle]
  cases runAlone program start with
  | mk middle value =>
    cases value with
    | ok value => simp
    | error error =>
      constructor
      · intro returned
        obtain ⟨rfl, isHandled⟩ := Prod.mk.inj returned
        exact .inr ⟨error, rfl, isHandled⟩
      · rintro (impossible | ⟨_, same, isHandled⟩)
        · exact absurd (Prod.mk.inj impossible).2 (by simp)
        · obtain ⟨rfl, sameError⟩ := Prod.mk.inj same
          obtain rfl := Except.error.inj sameError
          exact congrArg (Prod.mk middle) isHandled

theorem onlyRaises_runAlone_bind {allowed : PyError → Prop} {program : PyProg σ α}
    {rest : α → PyProg σ β} {start : σ} :
    OnlyRaises allowed (runAlone (program >>= rest) start).2 ↔
      OnlyRaises allowed (runAlone program start).2 ∧
        ∀ middle value, runAlone program start = (middle, .ok value) →
          OnlyRaises allowed (runAlone (rest value) middle).2 := by
  rw [runAlone_bind]
  cases runAlone program start with
  | mk middle result =>
    cases result with
    | ok value =>
      constructor
      · intro raises
        refine ⟨.ok value, ?_⟩
        rintro _ _ ⟨⟩
        exact raises
      · exact fun parts => parts.2 middle value rfl
    | error error =>
      constructor
      · exact fun raises => ⟨.error (raises error rfl), fun _ _ absurdity => nomatch absurdity⟩
      · exact fun parts => .error (parts.1 error rfl)

theorem exists_runAlone_handle_iff {answered : PyError → Prop} {program : PyProg σ α} {start : σ}
    (handles : ∀ error, (∃ result, handler error = .ok result) ↔ answered error) :
    (∃ result, (runAlone (handle program handler) start).2 = .ok result) ↔
      OnlyRaises answered (runAlone program start).2 := by
  rw [runAlone_handle]
  cases runAlone program start with
  | mk final result =>
    cases result with
    | ok value =>
      constructor
      · exact fun _ => .ok value
      · exact fun _ => ⟨value, rfl⟩
    | error error =>
      rw [handles error]
      constructor
      · exact fun isAnswered => .error isAnswered
      · exact fun raises => raises error rfl

theorem exec_runAlone (program : PyProg σ α) (state : σ) :
    ∃ instants, Exec Eq program state instants (runAlone program state).1
      (runAlone program state).2 :=
  Prog.exec_run (fun _ => rfl) (ExceptT.run program) state

/-! #### Steps of fallible programs -/

def zoom {τ : Type} (part : τ → σ) (replace : τ → σ → τ) (program : PyProg σ α) : PyProg τ α :=
  Prog.zoom part replace (ExceptT.run program)

section Zoom

variable {τ : Type} {part : τ → σ} {replace : τ → σ → τ}

@[simp]
theorem zoom_lift (computation : Except PyError α) :
    zoom part replace (lift computation : PyProg σ α) = lift computation :=
  rfl

@[simp]
theorem zoom_pure (value : α) :
    zoom part replace (pure value : PyProg σ α) = pure value :=
  rfl

@[simp]
theorem zoom_transact (transaction : σ → σ × Except PyError α) :
    zoom part replace (transact transaction) = transact fun whole =>
      (replace whole (transaction (part whole)).1, (transaction (part whole)).2) :=
  rfl

@[simp]
theorem zoom_bind (program : PyProg σ α) (rest : α → PyProg σ β) :
    zoom part replace (program >>= rest) =
      zoom part replace program >>= fun value => zoom part replace (rest value) := by
  apply (Prog.zoom_bind program (ExceptT.bindCont rest)).trans
  change (Prog.zoom part replace (ExceptT.run program) >>= fun value =>
    Prog.zoom part replace (ExceptT.bindCont rest value)) = Prog.bind _ _
  congr 1
  funext value
  cases value <;> rfl

end Zoom

def Within (allowed : σ → σ → Prop) (program : PyProg σ α) : Prop :=
  Prog.Within allowed (ExceptT.run program)

variable {allowed : σ → σ → Prop}

theorem within_lift (computation : Except PyError α) :
    Within allowed (lift computation : PyProg σ α) :=
  .ret _

theorem within_pure (value : α) : Within allowed (pure value : PyProg σ α) :=
  .ret _

theorem within_transact {transaction : σ → σ × Except PyError α}
    (steps : ∀ found, allowed found (transaction found).1) :
    Within allowed (transact transaction) :=
  Prog.within_transact steps

theorem within_read (refl : ∀ state, allowed state state) (view : σ → Except PyError α) :
    Within allowed (read view) :=
  Prog.within_read refl view

variable {rest : α → PyProg σ β}

theorem Within.bind {program : PyProg σ α} (first : Within allowed program)
    (second : ∀ value, Within allowed (rest value)) :
    Within allowed (program >>= rest) := by
  apply Prog.Within.bind first
  intro value
  cases value with
  | ok value => exact second value
  | error error => exact .ret _

theorem within_lift_bind {computation : Except PyError α}
    (second : ∀ value, Within allowed (rest value)) :
    Within allowed (lift computation >>= rest) :=
  (within_lift computation).bind second

theorem Within.handle {program : PyProg σ α} (within : Within allowed program)
    (handler : PyError → Except PyError α) : Within allowed (handle program handler) := by
  apply Prog.Within.bind within
  intro value
  cases value with
  | ok value => exact .ret _
  | error error => exact .ret _

def Claims {κ : Type} (token : Except PyError α → Option κ) (taken : σ → κ → Prop)
    (program : PyProg σ α) : Prop :=
  Prog.Claims token taken (ExceptT.run program)

theorem Claims.bind {κ : Type} {token : Except PyError β → Option κ} {taken : σ → κ → Prop}
    (program : PyProg σ α) (raised : ∀ error, token (.error error) = none)
    (claims : ∀ value, Claims token taken (rest value)) :
    Claims token taken (program >>= rest) := by
  apply Prog.Claims.bind
  intro value
  cases value with
  | ok value => exact claims value
  | error error => exact raised error

theorem ret_map_eq_bindCont (wrap : α → β) :
    (fun result => .ret (result.map wrap)) =
      (ExceptT.bindCont fun value => pure (wrap value) :
        Except PyError α → Prog σ (Except PyError β)) := by
  funext result
  cases result <;> rfl

def handled (handler : PyError → Except PyError α) : Except PyError α → Except PyError α
  | .ok value => .ok value
  | .error error => handler error

theorem ret_handled_eq (handler : PyError → Except PyError α) :
    (fun result => .ret (handled handler result)) =
      (fun result => match result with
        | .ok value => .ret (.ok value)
        | .error error => .ret (handler error) :
          Except PyError α → Prog σ (Except PyError α)) := by
  funext result
  cases result <;> rfl

theorem Claims.map {κ : Type} {token : Except PyError β → Option κ} {taken : σ → κ → Prop}
    {program : PyProg σ α} {wrap : α → β}
    (claims : Claims (fun result => token (result.map wrap)) taken program) :
    Claims token taken (program >>= fun value => pure (wrap value)) := by
  have finished := Prog.Claims.finish claims
  rw [ret_map_eq_bindCont] at finished
  exact finished

theorem Claims.handle {κ : Type} {token : Except PyError α → Option κ} {taken : σ → κ → Prop}
    {program : PyProg σ α} {handler : PyError → Except PyError α}
    (same : ∀ error, token (handler error) = token (.error error))
    (claims : Claims token taken program) : Claims token taken (handle program handler) := by
  have tokens : token = fun result => token (handled handler result) := by
    funext result
    cases result with
    | ok value => rfl
    | error error => exact (same error).symm
  rw [tokens] at claims
  have finished := Prog.Claims.finish claims
  rw [ret_handled_eq] at finished
  exact finished

def Commits {τ : Type} (committed : Except PyError α → Prop) (part : σ → τ)
    (program : PyProg σ α) : Prop :=
  Prog.Commits committed part (ExceptT.run program)

theorem Commits.bind {τ : Type} {committed : Except PyError β → Prop} {part : σ → τ}
    {program : PyProg σ α} (first : Within (fun before after => part after = part before) program)
    (second : ∀ value, Commits committed part (rest value)) :
    Commits committed part (program >>= rest) := by
  apply Prog.Commits.bind first
  intro value
  cases value with
  | ok value => exact second value
  | error error => trivial

theorem Commits.map {τ : Type} {committed : Except PyError β → Prop} {part : σ → τ}
    {program : PyProg σ α} {wrap : α → β}
    (commits : Commits (fun result => committed (result.map wrap)) part program) :
    Commits committed part (program >>= fun value => pure (wrap value)) := by
  have finished := Prog.Commits.finish commits
  rw [ret_map_eq_bindCont] at finished
  exact finished

theorem Commits.handle {τ : Type} {committed : Except PyError α → Prop} {part : σ → τ}
    {program : PyProg σ α} (handler : PyError → Except PyError α)
    (raised : ∀ error, ¬ committed (.error error)) (commits : Commits committed part program) :
    Commits committed part (handle program handler) := by
  have stronger : Prog.Commits (fun result => committed (handled handler result)) part
      (ExceptT.run program) := by
    apply Prog.Commits.imp _ commits
    intro result isCommitted
    cases result with
    | ok value => exact isCommitted
    | error error => exact absurd isCommitted (raised error)
  have finished := Prog.Commits.finish stronger
  rw [ret_handled_eq] at finished
  exact finished

def Views (program : PyProg σ α) (view : σ → Except PyError α) : Prop :=
  ∀ state, runAlone program state = (state, view state)

theorem views_lift (computation : Except PyError α) :
    Views (lift computation : PyProg σ α) fun _ => computation :=
  fun _ => rfl

theorem views_read (view : σ → Except PyError α) : Views (read view) view :=
  fun _ => rfl

theorem Views.bind {program : PyProg σ α} {view : σ → Except PyError α}
    {views : α → σ → Except PyError β} (first : Views program view)
    (second : ∀ value, Views (rest value) (views value)) :
    Views (program >>= rest) fun state => view state >>= fun value => views value state := by
  intro state
  rw [runAlone_bind, first state]
  dsimp only
  cases view state with
  | ok value => exact second value state
  | error error => rfl

end PyProg

end PyLib
