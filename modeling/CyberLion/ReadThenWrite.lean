import CyberLion.SqlConnection

/-!
# Calls that read and then write

Each call has a connection of its own: it looks at the database in one statement and returns, or
it goes on to write and to commit.  A statement finds the last commit, with what its own connection
has written since, and a connection that has written keeps the others from writing until it
commits.

What a call writes rests on what it has read.  A guard says when that is still good enough, and in
a run whose writes are guarded every commit is a guarded write on the commit before it.
-/

namespace PyLib

/-- What a call finds: it raises, it returns, or it goes on with what it has read.  Then what it
makes of the database that it writes to. -/
structure ReadThenWrite (Call Db View : Type) where
  look : Call → Db → Except PyError (Option View)
  write : Call → View → Db → Except PyError Db

inductive CallPhase (Call View : Type)
  | idle
  | looked (call : Call) (view : View)
  | wrote (call : Call) (view : View)

inductive CallEvent (Call : Type)
  | look (conn : Nat) (call : Call)
  | write (conn : Nat)
  | commit (conn : Nat)

structure CallState (Call Db View : Type) where
  committed : Db
  writer : Option (Nat × Db)
  phase : Nat → CallPhase Call View

namespace CallState

variable {Call Db View : Type}

def seen (state : CallState Call Db View) (conn : Nat) : Db :=
  match state.writer with
  | some (holder, work) => if holder = conn then work else state.committed
  | none => state.committed

def setPhase (state : CallState Call Db View) (conn : Nat) (phase : CallPhase Call View) :
    CallState Call Db View :=
  { state with phase := Function.update state.phase conn phase }

/-- The next statement of a connection.  One that waits for another writer changes nothing. -/
def step (calls : ReadThenWrite Call Db View) (state : CallState Call Db View) :
    CallEvent Call → CallState Call Db View
  | .look conn call =>
    match state.phase conn, calls.look call (state.seen conn) with
    | .idle, .ok (some view) => state.setPhase conn (.looked call view)
    | _, _ => state
  | .write conn =>
    match state.phase conn, state.writer with
    | .looked call view, none =>
      match calls.write call view state.committed with
      | .ok work => { state.setPhase conn (.wrote call view) with writer := some (conn, work) }
      | .error _ => state.setPhase conn .idle
    | _, _ => state
  | .commit conn =>
    match state.phase conn, state.writer with
    | .wrote _ _, some (holder, work) =>
      if holder = conn then
        { state.setPhase conn .idle with committed := work, writer := none }
      else state
    | _, _ => state

/-- No call is under way. -/
structure Quiet (state : CallState Call Db View) : Prop where
  writer : state.writer = none
  phase : ∀ conn, state.phase conn = .idle

/-- When the event is a write that does not raise, the guard holds before it. -/
def Guarded (calls : ReadThenWrite Call Db View) (guard : Call → View → Db → Prop)
    (state : CallState Call Db View) (event : CallEvent Call) : Prop :=
  ∀ conn call view work, event = .write conn → state.phase conn = .looked call view →
    state.writer = none → calls.write call view state.committed = .ok work →
      guard call view state.committed

variable (calls : ReadThenWrite Call Db View) (guard : Call → View → Db → Prop)

inductive Run (start : CallState Call Db View) : CallState Call Db View → Prop
  | refl : Run start start
  | step {state : CallState Call Db View} (run : Run start state) (event : CallEvent Call)
      (guarded : state.Guarded calls guard event) : Run start (state.step calls event)

/-- A call that has written holds the lock, and what it wrote stands on the last commit. -/
structure Orderly (state : CallState Call Db View) : Prop where
  wrote : ∀ conn call view, state.phase conn = .wrote call view →
    ∃ work, state.writer = some (conn, work) ∧
      calls.write call view state.committed = .ok work ∧ guard call view state.committed
  holds : ∀ conn work, state.writer = some (conn, work) →
    ∃ call view, state.phase conn = .wrote call view

variable {calls guard} {start state : CallState Call Db View}

theorem Quiet.orderly (quiet : state.Quiet) : state.Orderly calls guard where
  wrote conn call view wrote := by
    rw [quiet.phase] at wrote
    contradiction
  holds conn work isWriter := by
    rw [quiet.writer] at isWriter
    contradiction

theorem setPhase_of_ne {conn other : Nat} {phase : CallPhase Call View} (different : other ≠ conn) :
    (state.setPhase conn phase).phase other = state.phase other :=
  Function.update_of_ne different _ _

theorem setPhase_self {conn : Nat} {phase : CallPhase Call View} :
    (state.setPhase conn phase).phase conn = phase :=
  Function.update_self _ _ _

theorem Orderly.setPhase (orderly : state.Orderly calls guard) {conn : Nat}
    {phase : CallPhase Call View} (before : ∀ call view, state.phase conn ≠ .wrote call view)
    (after : ∀ call view, phase ≠ .wrote call view) :
    (state.setPhase conn phase).Orderly calls guard where
  wrote other call view wrote := by
    by_cases same : other = conn
    · subst same
      rw [setPhase_self] at wrote
      exact absurd wrote (after call view)
    · rw [setPhase_of_ne same] at wrote
      exact orderly.wrote other call view wrote
  holds other work isWriter := by
    obtain ⟨call, view, wrote⟩ := orderly.holds other work isWriter
    have different : other ≠ conn := by
      rintro rfl
      exact before call view wrote
    exact ⟨call, view, by rw [setPhase_of_ne different, wrote]⟩

/-- What an event of an orderly state does to the commits. -/
theorem Orderly.step (orderly : state.Orderly calls guard) (event : CallEvent Call)
    (guarded : state.Guarded calls guard event) :
    (state.step calls event).Orderly calls guard ∧
      ((state.step calls event).committed = state.committed ∨
        ∃ conn call view, event = .commit conn ∧ state.phase conn = .wrote call view ∧
          guard call view state.committed ∧
          calls.write call view state.committed = .ok (state.step calls event).committed) := by
  cases event with
  | look conn call =>
    simp only [CallState.step]
    split
    · rename_i idle _
      exact ⟨orderly.setPhase (by simp [idle]) (by simp), .inl rfl⟩
    · exact ⟨orderly, .inl rfl⟩
  | write conn =>
    simp only [CallState.step]
    split
    · rename_i call view looked free
      split
      · rename_i work written
        have isGuarded := guarded conn call view work rfl looked free written
        have others : ∀ other call view, state.phase other ≠ .wrote call view := by
          intro other call view wrote
          obtain ⟨_, isWriter, -⟩ := orderly.wrote other call view wrote
          rw [free] at isWriter
          contradiction
        refine ⟨⟨fun other otherCall otherView wrote => ?_, fun other _ isWriter => ?_⟩, .inl rfl⟩
        · by_cases same : other = conn
          · subst same
            rw [setPhase_self] at wrote
            obtain ⟨rfl, rfl⟩ := CallPhase.wrote.inj wrote
            exact ⟨work, rfl, written, isGuarded⟩
          · rw [setPhase_of_ne same] at wrote
            exact absurd wrote (others other otherCall otherView)
        · obtain ⟨rfl, -⟩ := Prod.mk.inj (Option.some.inj isWriter)
          exact ⟨call, view, setPhase_self⟩
      · exact ⟨orderly.setPhase (by simp [looked]) (by simp), .inl rfl⟩
    · exact ⟨orderly, .inl rfl⟩
  | commit conn =>
    simp only [CallState.step]
    split
    · rename_i call view holder work wrote isWriter
      obtain ⟨_, isHolder, written, isGuarded⟩ := orderly.wrote conn call view wrote
      rw [isWriter] at isHolder
      obtain ⟨rfl, rfl⟩ := Prod.mk.inj (Option.some.inj isHolder)
      rw [if_pos rfl]
      refine ⟨⟨fun other otherCall otherView otherWrote => ?_, fun _ _ absent => nomatch absent⟩,
        .inr ⟨holder, call, view, rfl, wrote, isGuarded, written⟩⟩
      by_cases same : other = holder
      · subst same
        rw [setPhase_self] at otherWrote
        contradiction
      · rw [setPhase_of_ne same] at otherWrote
        obtain ⟨_, isOther, -⟩ := orderly.wrote other otherCall otherView otherWrote
        rw [isWriter] at isOther
        exact absurd (Prod.mk.inj (Option.some.inj isOther)).1.symm same
    · exact ⟨orderly, .inl rfl⟩

theorem Orderly.write_commit (orderly : state.Orderly calls guard) {conn : Nat} {call : Call}
    {view : View} (wrote : state.phase conn = .wrote call view) :
    calls.write call view state.committed = .ok (state.step calls (.commit conn)).committed := by
  obtain ⟨work, isWriter, written, -⟩ := orderly.wrote conn call view wrote
  simp [CallState.step, wrote, isWriter, written]

theorem Run.orderly (run : Run calls guard start state) (quiet : start.Quiet) :
    state.Orderly calls guard := by
  induction run with
  | refl => exact quiet.orderly
  | step run event guarded ih => exact (ih.step event guarded).1

theorem Run.events (start : CallState Call Db View) (events : List (CallEvent Call)) :
    Run calls (fun _ _ _ => True) start (events.foldl (CallState.step calls) start) := by
  induction events using List.reverseRecOn with
  | nil => exact .refl
  | append_singleton events event ih =>
    rw [List.foldl_concat]
    exact .step ih event fun _ _ _ _ _ _ _ _ => trivial

/-- What guarded writes keep and lead to, a run keeps and leads to. -/
theorem Run.leads (Holds : Db → Prop) (Leads : Db → Db → Prop) (refl : ∀ db, Leads db db)
    (trans : ∀ first second third, Leads first second → Leads second third → Leads first third)
    (sound : ∀ call view db work, Holds db → guard call view db →
      calls.write call view db = .ok work → Holds work ∧ Leads db work)
    (run : Run calls guard start state) (orderly : start.Orderly calls guard)
    (holds : Holds start.committed) :
    Holds state.committed ∧ Leads start.committed state.committed := by
  have all : state.Orderly calls guard ∧ Holds state.committed ∧
      Leads start.committed state.committed := by
    induction run with
    | refl => exact ⟨orderly, holds, refl _⟩
    | step run event guarded ih =>
      obtain ⟨orderly, holds, leads⟩ := ih
      obtain ⟨next, same | ⟨_, call, view, -, -, isGuarded, written⟩⟩ :=
        orderly.step event guarded
      · exact ⟨next, same ▸ holds, same ▸ leads⟩
      · obtain ⟨nextHolds, nextLeads⟩ := sound call view _ _ holds isGuarded written
        exact ⟨next, nextHolds, trans _ _ _ leads nextLeads⟩
  exact all.2

end CallState

end PyLib
