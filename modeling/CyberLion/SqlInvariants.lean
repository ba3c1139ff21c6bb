import CyberLion.ProgramSteps
import CyberLion.SqlConnection

/-!
# Invariants of a file that several connections write

What holds of the last commit and of what the writing connection has written since is kept
by every statement that changes the rows well.  A transaction that begins at once and is undone
when it raises may pass through states of which the invariant does not hold.

The invariant may depend on a history that is not in the file: `Holds` has an index.
-/

namespace PyLib

/-! ### Steps of programs -/

namespace Prog

variable {σ τ ρ α β : Type} {allowed : σ → σ → Prop}

def Yields (kind : α → Prop) : Prog σ α → Prop
  | ret result => kind result
  | atomic _ next => ∀ found, Yields kind (next found)

theorem Within.run {program : Prog σ α} (within : Within allowed program)
    (refl : ∀ state, allowed state state)
    (trans : ∀ first second third, allowed first second → allowed second third →
      allowed first third) (state : σ) : allowed state (program.run state).1 := by
  induction within generalizing state with
  | ret result => exact refl state
  | atomic steps _ ih => exact trans _ _ _ (steps state) (ih state _)

theorem Within.bind_of_yields {kind : α → Prop} {program : Prog σ α} {rest : α → Prog σ β}
    (first : Within allowed program) (yields : Yields kind program)
    (second : ∀ value, kind value → Within allowed (rest value)) :
    Within allowed (program >>= rest) := by
  induction first with
  | ret result => exact second result yields
  | atomic steps _ ih => exact .atomic steps fun found => ih found (yields found)

theorem Yields.bind {kind : α → Prop} {other : β → Prop} {program : Prog σ α}
    {rest : α → Prog σ β} (first : Yields kind program)
    (second : ∀ value, kind value → Yields other (rest value)) :
    Yields other (program >>= rest) := by
  induction program with
  | ret result => exact second result first
  | atomic update next ih => exact fun found => ih found (first found)

theorem Within.zoom_kept {part : τ → σ} {replace : τ → σ → τ} {other : τ → ρ}
    {program : Prog σ α} (replaced : ∀ whole new, part (replace whole new) = new)
    (kept : ∀ whole new, other (replace whole new) = other whole)
    (within : Within allowed program) :
    Within (fun before after => allowed (part before) (part after) ∧ other after = other before)
      (program.zoom part replace) := by
  induction within with
  | ret result => exact .ret result
  | atomic steps _ ih =>
    refine .atomic (fun found => ⟨?_, kept _ _⟩) fun found => ih (part found)
    rw [replaced]
    exact steps (part found)

end Prog

namespace PyProg

variable {σ α β : Type} {allowed : σ → σ → Prop}

def Yields (kind : α → Prop) (program : PyProg σ α) : Prop :=
  Prog.Yields (fun result => ∀ value, result = .ok value → kind value) (ExceptT.run program)

theorem yields_lift {kind : α → Prop} {computation : Except PyError α}
    (returned : ∀ value, computation = .ok value → kind value) :
    Yields kind (lift computation : PyProg σ α) :=
  returned

theorem yields_pure {kind : α → Prop} {value : α} (holds : kind value) :
    Yields kind (pure value : PyProg σ α) := by
  rintro _ ⟨⟩
  exact holds

theorem yields_any (program : PyProg σ α) : Yields (fun _ => True) program := by
  unfold Yields
  generalize ExceptT.run program = steps
  induction steps with
  | ret result => exact fun _ _ => trivial
  | atomic update next ih => exact fun found => ih found

theorem Yields.bind {kind : α → Prop} {other : β → Prop} {program : PyProg σ α}
    {rest : α → PyProg σ β} (first : Yields kind program)
    (second : ∀ value, kind value → Yields other (rest value)) :
    Yields other (program >>= rest) := by
  refine Prog.Yields.bind first fun result holds => ?_
  cases result with
  | ok value => exact second value (holds value rfl)
  | error error => exact fun _ absent => nomatch absent

theorem Within.bind_of_yields {kind : α → Prop} {program : PyProg σ α} {rest : α → PyProg σ β}
    (first : Within allowed program) (yields : Yields kind program)
    (second : ∀ value, kind value → Within allowed (rest value)) :
    Within allowed (program >>= rest) := by
  refine Prog.Within.bind_of_yields first yields fun result holds => ?_
  cases result with
  | ok value => exact second value (holds value rfl)
  | error error => exact .ret _

end PyProg

namespace PyProg

theorem runAlone_lift_bind_ok {σ α β : Type} {computation : Except PyError α}
    {rest : α → PyProg σ β} {start final : σ} {result : β} :
    runAlone (lift computation >>= rest) start = (final, .ok result) ↔
      ∃ value, computation = .ok value ∧ runAlone (rest value) start = (final, .ok result) := by
  cases computation with
  | ok value =>
    constructor
    · exact fun ran => ⟨value, rfl, ran⟩
    · rintro ⟨_, ⟨⟩, ran⟩
      exact ran
  | error error =>
    constructor
    · intro raised
      exact absurd (congrArg Prod.snd raised) (by simp [lift_error_bind])
    · rintro ⟨_, ⟨⟩, _⟩

theorem runAlone_read_bind_ok {σ α β : Type} {view : σ → Except PyError α}
    {rest : α → PyProg σ β} {start final : σ} {result : β} :
    runAlone (read view >>= rest) start = (final, .ok result) ↔
      ∃ value, view start = .ok value ∧ runAlone (rest value) start = (final, .ok result) := by
  rw [runAlone_bind, runAlone_read]
  cases view start with
  | ok value => simp
  | error error => simp

end PyProg

/-! ### Statements on a file -/

variable {ι Db α β : Type} (Holds : ι → Db → Prop) (Leads : Db → Db → Prop)

structure SqlFile.Keeps (index : ι) (file : SqlFile Db) : Prop where
  committed : Holds index file.committed
  written : ∀ conn work, file.writer = some (conn, work) →
    Holds index work ∧ Leads file.committed work

def SqlFile.Step (before after : SqlFile Db) : Prop :=
  ∀ index, before.Keeps Holds Leads index →
    after.Keeps Holds Leads index ∧ Leads before.committed after.committed

def SqlProg.Safe (program : SqlProg Db α) : Prop :=
  PyProg.Within (SqlFile.Step Holds Leads) program

def SqlProg.Sound (statements : PyProg Db α) : Prop :=
  ∀ index work, Holds index work → Holds index (PyProg.runAlone statements work).1 ∧
    Leads work (PyProg.runAlone statements work).1

variable {Holds Leads}

namespace SqlFile

theorem Step.trans (leadsTrans : ∀ first second third, Leads first second →
      Leads second third → Leads first third)
    (first second third : SqlFile Db) (earlier : first.Step Holds Leads second)
    (later : second.Step Holds Leads third) : first.Step Holds Leads third := by
  intro index keeps
  obtain ⟨middle, firstLeads⟩ := earlier index keeps
  obtain ⟨final, secondLeads⟩ := later index middle
  exact ⟨final, leadsTrans _ _ _ firstLeads secondLeads⟩

variable (leadsRefl : ∀ db, Leads db db)
include leadsRefl

theorem step_of_same {before after : SqlFile Db} (committed : after.committed = before.committed)
    (writer : after.writer = before.writer) : before.Step Holds Leads after := by
  intro index keeps
  refine ⟨⟨committed ▸ keeps.committed, fun conn work isWriter => ?_⟩, committed ▸ leadsRefl _⟩
  rw [committed]
  exact keeps.written conn work (writer ▸ isWriter)

theorem step_refl (file : SqlFile Db) : file.Step Holds Leads file :=
  step_of_same leadsRefl rfl rfl

theorem step_of_none {before after : SqlFile Db} (committed : after.committed = before.committed)
    (writer : after.writer = none) : before.Step Holds Leads after := by
  intro index keeps
  refine ⟨⟨committed ▸ keeps.committed, fun conn work isWriter => ?_⟩, committed ▸ leadsRefl _⟩
  rw [writer] at isWriter
  exact absurd isWriter (by simp)

theorem step_rollback (file : SqlFile Db) (conn : Nat) :
    file.Step Holds Leads (file.rollback conn) := by
  unfold rollback
  split
  · split
    · exact step_of_none leadsRefl rfl rfl
    · exact step_of_same leadsRefl rfl rfl
  · exact step_of_same leadsRefl rfl rfl

theorem step_commit (file : SqlFile Db) (conn : Nat) :
    file.Step Holds Leads (file.commit conn) := by
  unfold commit
  split
  · rename_i holder work isWriter
    split
    · intro index keeps
      obtain ⟨holds, leads⟩ := keeps.written holder work isWriter
      exact ⟨⟨holds, fun _ _ absent => nomatch absent⟩, leads⟩
    · exact step_of_same leadsRefl rfl rfl
  · exact step_of_same leadsRefl rfl rfl

end SqlFile

namespace SqlProg

theorem safe_lift (computation : Except PyError α) :
    Safe Holds Leads (PyProg.lift computation : SqlProg Db α) :=
  PyProg.within_lift computation

theorem safe_pure (value : α) : Safe Holds Leads (pure value : SqlProg Db α) :=
  PyProg.within_pure value

theorem Safe.bind {program : SqlProg Db α} {rest : α → SqlProg Db β}
    (first : Safe Holds Leads program) (second : ∀ value, Safe Holds Leads (rest value)) :
    Safe Holds Leads (program >>= rest) :=
  PyProg.Within.bind first second

theorem acquired_cases {file : SqlFile Db} {conn : Nat} {work : Db}
    (acquired : file.acquired conn = some work) :
    file.writer = some (conn, work) ∨ file.writer = none ∧ work = file.committed := by
  unfold SqlFile.acquired at acquired
  split at acquired
  · rename_i holder held isWriter
    split at acquired
    · rename_i isHolder
      obtain rfl := Option.some.inj acquired
      exact .inl (isHolder ▸ isWriter)
    · exact absurd acquired (by simp)
  · rename_i free
    refine .inr ⟨free, ?_⟩
    split at acquired
    · split at acquired
      · exact (Option.some.inj acquired).symm
      · exact absurd acquired (by simp)
    · exact (Option.some.inj acquired).symm

variable (leadsRefl : ∀ db, Leads db db)
include leadsRefl

theorem safe_select (conn : Nat) (texts : List PyStr) (look : Db → Except PyError α) :
    Safe Holds Leads (select conn texts look) := by
  refine PyProg.within_transact fun file => ?_
  split
  · rw [SqlFile.startRead]
    split <;> exact SqlFile.step_of_same leadsRefl rfl rfl
  · exact SqlFile.step_refl leadsRefl file

theorem safe_commit (conn : Nat) : Safe Holds Leads (commit conn : SqlProg Db Unit) :=
  PyProg.within_transact fun file => SqlFile.step_commit leadsRefl file conn

variable (leadsTrans : ∀ first second third, Leads first second → Leads second third →
  Leads first third)
include leadsTrans

theorem safe_write (conn : Nat) (texts : List PyStr) {statements : PyProg Db α}
    (sound : Sound Holds Leads statements) : Safe Holds Leads (write conn texts statements) := by
  refine PyProg.within_transact fun file => ?_
  have started : file.Step Holds Leads (file.start conn) := by
    unfold SqlFile.start
    split
    · exact SqlFile.step_refl leadsRefl file
    · exact SqlFile.step_of_same leadsRefl rfl rfl
  dsimp only
  split
  · exact started
  · exact started
  · rename_i work _ acquired
    refine SqlFile.Step.trans leadsTrans _ _ _ started fun index keeps => ?_
    have found : Holds index work ∧ Leads (file.start conn).committed work := by
      rcases acquired_cases acquired with isWriter | ⟨-, rfl⟩
      · exact keeps.written conn work isWriter
      · exact ⟨keeps.committed, leadsRefl _⟩
    obtain ⟨holds, leads⟩ := sound index work found.1
    refine ⟨⟨keeps.committed, ?_⟩, leadsRefl _⟩
    rintro _ _ ⟨⟩
    exact ⟨holds, leadsTrans _ _ _ found.2 leads⟩

theorem safe_atomically {statements : SqlProg Db α} (safe : Safe Holds Leads statements) :
    Safe Holds Leads (atomically statements) :=
  PyProg.within_transact fun file =>
    Prog.Within.run safe (SqlFile.step_refl leadsRefl) (SqlFile.Step.trans leadsTrans) file

theorem safe_orRollback (conn : Nat) {statements : SqlProg Db α}
    (safe : Safe Holds Leads statements) : Safe Holds Leads (orRollback conn statements) := by
  refine PyProg.within_transact fun file => ?_
  have steps := Prog.Within.run safe (SqlFile.step_refl leadsRefl)
    (SqlFile.Step.trans leadsTrans) file
  change file.Step Holds Leads (PyProg.runAlone statements file).1 at steps
  cases outcome : PyProg.runAlone statements file with
  | mk after result =>
    rw [outcome] at steps
    cases result with
    | ok value => exact steps
    | error error =>
      exact SqlFile.Step.trans leadsTrans _ _ _ steps
        (SqlFile.step_rollback leadsRefl after conn)

end SqlProg

/-! ### Statements within a transaction -/

namespace SqlProg

variable (leadsRefl : ∀ db, Leads db db)
include leadsRefl

theorem sound_lift (computation : Except PyError α) :
    Sound Holds Leads (PyProg.lift computation : PyProg Db α) :=
  fun _ work holds => ⟨holds, leadsRefl work⟩

theorem sound_pure (value : α) : Sound Holds Leads (pure value : PyProg Db α) :=
  fun _ work holds => ⟨holds, leadsRefl work⟩

theorem sound_read (view : Db → Except PyError α) : Sound Holds Leads (PyProg.read view) :=
  fun _ work holds => ⟨holds, leadsRefl work⟩

omit leadsRefl in
theorem Sound.bind (leadsTrans : ∀ first second third, Leads first second →
      Leads second third → Leads first third)
    {statements : PyProg Db α} {rest : α → PyProg Db β} (first : Sound Holds Leads statements)
    (second : ∀ value, Sound Holds Leads (rest value)) :
    Sound Holds Leads (statements >>= rest) := by
  intro index work holds
  obtain ⟨middleHolds, middleLeads⟩ := first index work holds
  rw [PyProg.runAlone_bind]
  cases outcome : PyProg.runAlone statements work with
  | mk middle result =>
    rw [outcome] at middleHolds middleLeads
    cases result with
    | error error => exact ⟨middleHolds, middleLeads⟩
    | ok value =>
      obtain ⟨finalHolds, finalLeads⟩ := second value index middle middleHolds
      exact ⟨finalHolds, leadsTrans _ _ _ middleLeads finalLeads⟩

end SqlProg

/-! ### Transactions that begin at once -/

namespace SqlProg

inductive Whole (statements : PyProg Db α) (file : SqlFile Db) :
    SqlFile Db × Except PyError α → Prop
  | committed {after : SqlFile Db} {value : α} (free : file.writer = none)
      (ran : PyProg.runAlone statements file.committed = (after.committed, .ok value))
      (released : after.writer = none) : Whole statements file (after, .ok value)
  | undone {after : SqlFile Db} {error : PyError} (kept : after.committed = file.committed)
      (writer : after.writer = file.writer ∨ after.writer = none) :
      Whole statements file (after, .error error)

theorem Whole.rollback {statements : PyProg Db α} {file after : SqlFile Db} {error : PyError}
    (whole : Whole statements file (after, .error error)) (conn : Nat) :
    Whole statements file (after.rollback conn, .error error) := by
  obtain ⟨-, -, -⟩ | ⟨kept, writer⟩ := whole
  unfold SqlFile.rollback
  split
  · split
    · exact .undone kept (.inr rfl)
    · exact .undone kept writer
  · exact .undone kept writer

theorem runAlone_write_hold (file : SqlFile Db) (conn : Nat) (statements : PyProg Db α) :
    PyProg.runAlone (write conn [] statements) (file.hold conn file.committed) =
      ((file.hold conn file.committed).hold conn (PyProg.runAlone statements file.committed).1,
        (PyProg.runAlone statements file.committed).2) := by
  have idle : (file.hold conn file.committed).readers conn = .idle := by
    simp [SqlFile.hold, SqlFile.setReader]
  have inside : (file.hold conn file.committed).inTransaction conn = true := by
    have holder : (file.hold conn file.committed).writer = some (conn, file.committed) := rfl
    simp [SqlFile.inTransaction, idle, holder]
  have started : (file.hold conn file.committed).start conn = file.hold conn file.committed := by
    simp [SqlFile.start, inside]
  have acquired : (file.hold conn file.committed).acquired conn = some file.committed := by
    simp [SqlFile.acquired, SqlFile.hold]
  rw [write, PyProg.runAlone_transact]
  simp only [started, acquired]
  rfl

theorem runAlone_beginImmediate_cases (conn : Nat) (file : SqlFile Db) :
    (∃ error, PyProg.runAlone (beginImmediate conn) file = (file, .error error)) ∨
      file.writer = none ∧
        PyProg.runAlone (beginImmediate conn) file = (file.hold conn file.committed, .ok ()) := by
  rw [beginImmediate, PyProg.runAlone_transact]
  split
  · exact .inl ⟨_, rfl⟩
  · cases isWriter : file.writer with
    | some writer => exact .inl ⟨_, rfl⟩
    | none => exact .inr ⟨rfl, rfl⟩

theorem runAlone_write_commit_hold (file : SqlFile Db) (conn : Nat) (statements : PyProg Db α) :
    (∃ value after, PyProg.runAlone statements file.committed = (after, .ok value) ∧
      PyProg.runAlone (do
        let value ← write conn [] statements
        commit conn
        return value) (file.hold conn file.committed) =
          ({ file.setReader conn .idle with
              committed := after, version := file.version + 1, writer := none }, .ok value)) ∨
    ∃ error after, PyProg.runAlone (do
        let value ← write conn [] statements
        commit conn
        return value) (file.hold conn file.committed) =
          ((file.hold conn file.committed).hold conn after, .error error) := by
  rw [PyProg.runAlone_bind, runAlone_write_hold]
  cases PyProg.runAlone statements file.committed with
  | mk after result =>
    cases result with
    | error error => exact .inr ⟨error, after, rfl⟩
    | ok value =>
      refine .inl ⟨value, after, rfl, ?_⟩
      simp only [PyProg.runAlone_bind, runAlone_commit, PyProg.runAlone_pure, SqlFile.commit,
        SqlFile.hold, if_pos]
      simp [SqlFile.setReader]

theorem whole_begin (conn : Nat) (statements : PyProg Db α) (file : SqlFile Db) :
    Whole statements file (PyProg.runAlone (do
      beginImmediate conn
      orRollback conn do
        let value ← write conn [] statements
        commit conn
        return value) file) := by
  rw [PyProg.runAlone_bind]
  rcases runAlone_beginImmediate_cases conn file with ⟨error, refused⟩ | ⟨free, begun⟩
  · rw [refused]
    exact .undone rfl (.inl rfl)
  · rw [begun]
    dsimp only
    rw [runAlone_orRollback]
    rcases runAlone_write_commit_hold file conn statements with
      ⟨value, after, ran, committed⟩ | ⟨error, after, raised⟩
    · rw [committed]
      exact .committed free ran rfl
    · rw [raised]
      refine .undone ?_ (.inr ?_) <;> simp [SqlFile.rollback, SqlFile.hold, SqlFile.setReader]

theorem whole_orRollback (conn : Nat) (check : Except PyError Unit) (statements : PyProg Db α)
    (file : SqlFile Db) :
    Whole statements file (PyProg.runAlone (orRollback conn do
      .lift check
      beginImmediate conn
      let value ← write conn [] statements
      commit conn
      return value) file) := by
  rw [runAlone_orRollback, PyProg.runAlone_bind, PyProg.runAlone_lift]
  cases check with
  | error error => exact (Whole.undone rfl (.inl rfl)).rollback conn
  | ok _ =>
    dsimp only
    rw [PyProg.runAlone_bind]
    rcases runAlone_beginImmediate_cases conn file with ⟨error, refused⟩ | ⟨free, begun⟩
    · rw [refused]
      exact (Whole.undone rfl (.inl rfl)).rollback conn
    · rw [begun]
      dsimp only
      rcases runAlone_write_commit_hold file conn statements with
        ⟨value, after, ran, committed⟩ | ⟨error, after, raised⟩
      · rw [committed]
        exact .committed free ran rfl
      · rw [raised]
        refine .undone ?_ (.inr ?_) <;> simp [SqlFile.rollback, SqlFile.hold, SqlFile.setReader]

end SqlProg

end PyLib
