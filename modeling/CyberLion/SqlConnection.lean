import CyberLion.ProgramRely

/-!
# Connections to a database file

Connections of `sqlite3` with its default transactions, to a file in WAL mode.  The first
INSERT, UPDATE or DELETE of a connection opens a transaction, which lasts until a commit
or a rollback.  One connection at a time may write.  A reader sees the last commit, or
the one that was the last when its open transaction began to read.

A statement that raises leaves the transaction open.
-/

namespace PyLib

inductive SqlReader (Db : Type)
  | idle
  | begun
  | reading (snapshot : Db) (version : Nat)

/-- A database file: the last commit and how many there were, the connection that holds the
write lock with what it has written, and the transactions of the others. -/
structure SqlFile (Db : Type) where
  committed : Db
  version : Nat
  writer : Option (Nat × Db)
  readers : Nat → SqlReader Db

def operationalError (text : PyStr) : PyError :=
  ⟨.declared .exception (py "OperationalError"), text⟩

def integrityError (text : PyStr) : PyError :=
  ⟨.integrityError, text⟩

def bindTexts (texts : List PyStr) : Except PyError Unit :=
  texts.forM fun text => do
    let _ ← encodeUtf8 text

theorem bindTexts_bytes (bytes : Utf8Bytes) : bindTexts [bytes.text] = .ok () := by
  have encoded : encodeUtf8 bytes.text = .ok bytes := encodeUtf8_eq_ok.mpr rfl
  simp [bindTexts, encoded]

namespace SqlFile

variable {Db α : Type}

def inTransaction (file : SqlFile Db) (conn : Nat) : Bool :=
  match file.writer, file.readers conn with
  | some (holder, _), .idle => holder = conn
  | none, .idle => false
  | _, _ => true

def seen (file : SqlFile Db) (conn : Nat) : Db :=
  match file.writer, file.readers conn with
  | some (holder, work), reader =>
    if holder = conn then work
    else
      match reader with
      | .reading snapshot _ => snapshot
      | _ => file.committed
  | none, .reading snapshot _ => snapshot
  | none, _ => file.committed

def setReader (file : SqlFile Db) (conn : Nat) (reader : SqlReader Db) : SqlFile Db :=
  { file with readers := Function.update file.readers conn reader }

def startRead (file : SqlFile Db) (conn : Nat) : SqlFile Db :=
  match file.readers conn with
  | .begun => file.setReader conn (.reading file.committed file.version)
  | _ => file

def start (file : SqlFile Db) (conn : Nat) : SqlFile Db :=
  if file.inTransaction conn then file else file.setReader conn .begun

/-- What a writing statement may start from: not while another connection writes, and
not when the transaction has read what is no longer the last commit. -/
def acquired (file : SqlFile Db) (conn : Nat) : Option Db :=
  match file.writer with
  | some (holder, work) => if holder = conn then some work else none
  | none =>
    match file.readers conn with
    | .reading _ version => if version = file.version then some file.committed else none
    | _ => some file.committed

def hold (file : SqlFile Db) (conn : Nat) (work : Db) : SqlFile Db :=
  { file.setReader conn .idle with writer := some (conn, work) }

def commit (file : SqlFile Db) (conn : Nat) : SqlFile Db :=
  match file.writer with
  | some (holder, work) =>
    if holder = conn then
      { file with committed := work, version := file.version + 1, writer := none }
    else file.setReader conn .idle
  | none => file.setReader conn .idle

def rollback (file : SqlFile Db) (conn : Nat) : SqlFile Db :=
  match file.writer with
  | some (holder, _) =>
    if holder = conn then { file with writer := none } else file.setReader conn .idle
  | none => file.setReader conn .idle

end SqlFile

abbrev SqlProg (Db α : Type) := PyProg (SqlFile Db) α

namespace SqlProg

variable {Db α : Type}

/-- `SELECT ...` with its parameters. -/
def select (conn : Nat) (texts : List PyStr) (look : Db → Except PyError α) : SqlProg Db α :=
  .transact fun file =>
    match bindTexts texts with
    | .ok _ => (file.startRead conn, look (file.seen conn))
    | .error error => (file, .error error)

def lockedError : PyError :=
  operationalError (py "database is locked")

def nestedError : PyError :=
  operationalError (py "cannot start a transaction within a transaction")

/-- Statements of which the first writes, with its parameters.  The others find what it
wrote, and no other connection comes between them. -/
def write (conn : Nat) (texts : List PyStr) (statements : PyProg Db α) : SqlProg Db α :=
  .transact fun file =>
    let started := file.start conn
    match bindTexts texts, started.acquired conn with
    | .error error, _ => (started, .error error)
    | .ok _, none => (started, .error lockedError)
    | .ok _, some work =>
      let (after, result) := PyProg.runAlone statements work
      (started.hold conn after, result)

/-- `BEGIN IMMEDIATE`. -/
def beginImmediate (conn : Nat) : SqlProg Db Unit :=
  .transact fun file =>
    if file.inTransaction conn then (file, .error nestedError)
    else
      match file.writer with
      | some _ => (file, .error lockedError)
      | none => (file.hold conn file.committed, .ok ())

/-- `conn.commit()`. -/
def commit (conn : Nat) : SqlProg Db Unit :=
  .transact fun file => (file.commit conn, .ok ())

/-- Statements between which no other connection comes, because the first takes the write
lock and the last ends the transaction or the call. -/
def atomically (statements : SqlProg Db α) : SqlProg Db α :=
  .transact (PyProg.runAlone statements)

/-- `try: ... except Exception: conn.rollback(); raise`. -/
def orRollback (conn : Nat) (statements : SqlProg Db α) : SqlProg Db α :=
  .transact fun file =>
    match PyProg.runAlone statements file with
    | (after, .ok value) => (after, .ok value)
    | (after, .error error) => (after.rollback conn, .error error)

end SqlProg

/-! ### Files in which at most one connection has a transaction -/

namespace SqlFile

variable {Db : Type} (db work : Db) (version conn : Nat)

def quiet : SqlFile Db :=
  ⟨db, version, none, fun _ => .idle⟩

def held : SqlFile Db :=
  ⟨db, version, some (conn, work), fun _ => .idle⟩

def opened : SqlFile Db :=
  (quiet db version).setReader conn .begun

@[simp]
theorem inTransaction_quiet : (quiet db version).inTransaction conn = false :=
  rfl

@[simp]
theorem inTransaction_held : (held db work version conn).inTransaction conn = true :=
  decide_eq_true rfl

@[simp]
theorem inTransaction_opened : (opened db version conn).inTransaction conn = true := by
  simp [opened, setReader, inTransaction, quiet]

@[simp]
theorem commit_quiet : (quiet db version).commit conn = quiet db version := by
  simp only [commit, quiet, setReader]
  congr 1
  exact Function.update_eq_self conn _

@[simp]
theorem commit_held : (held db work version conn).commit conn = quiet work (version + 1) := by
  simp [commit, held, quiet]

@[simp]
theorem rollback_quiet : (quiet db version).rollback conn = quiet db version := by
  simp only [rollback, quiet, setReader]
  congr 1
  exact Function.update_eq_self conn _

@[simp]
theorem rollback_held : (held db work version conn).rollback conn = quiet db version := by
  simp [rollback, held, quiet]

@[simp]
theorem committed_quiet : (quiet db version).committed = db :=
  rfl

@[simp]
theorem hold_quiet : (quiet db version).hold conn work = held db work version conn := by
  simp only [hold, quiet, setReader, held]
  congr 1
  exact Function.update_eq_self conn _

theorem hold_opened : (opened db version conn).hold conn work = held db work version conn := by
  simp only [hold, opened, quiet, setReader, held]
  congr 1
  rw [Function.update_idem]
  exact Function.update_eq_self conn _

@[simp]
theorem hold_held (other : Db) :
    (held db work version conn).hold conn other = held db other version conn := by
  simp only [hold, held, setReader]
  congr 1
  exact Function.update_eq_self conn _

end SqlFile

namespace SqlProg

open SqlFile

variable {Db α β : Type} {db work : Db} {version conn : Nat}

theorem runAlone_select_quiet (texts : List PyStr) (look : Db → Except PyError α) :
    PyProg.runAlone (select conn texts look) (quiet db version) =
      (quiet db version, bindTexts texts >>= fun _ => look db) := by
  rw [select, PyProg.runAlone_transact]
  cases bindTexts texts <;> rfl

theorem runAlone_write_quiet {texts : List PyStr} (bound : bindTexts texts = .ok ())
    (statements : PyProg Db α) :
    PyProg.runAlone (write conn texts statements) (quiet db version) =
      (held db (PyProg.runAlone statements db).1 version conn,
        (PyProg.runAlone statements db).2) := by
  have started : (quiet db version).start conn = opened db version conn := rfl
  have acquired : (opened db version conn).acquired conn = some db := by
    simp [opened, quiet, setReader, SqlFile.acquired]
  rw [write, PyProg.runAlone_transact]
  simp only [bound, started, acquired, hold_opened]

@[simp]
theorem runAlone_write_quiet_nil (statements : PyProg Db α) :
    PyProg.runAlone (write conn [] statements) (quiet db version) =
      (held db (PyProg.runAlone statements db).1 version conn,
        (PyProg.runAlone statements db).2) :=
  runAlone_write_quiet rfl statements

theorem runAlone_write_quiet_of_error {texts : List PyStr} {error : PyError}
    (unbound : bindTexts texts = .error error) (statements : PyProg Db α) :
    PyProg.runAlone (write conn texts statements) (quiet db version) =
      (opened db version conn, .error error) := by
  rw [write, PyProg.runAlone_transact]
  simp only [unbound]
  rfl

@[simp]
theorem runAlone_write_held_nil (statements : PyProg Db α) :
    PyProg.runAlone (write conn [] statements) (held db work version conn) =
      (held db (PyProg.runAlone statements work).1 version conn,
        (PyProg.runAlone statements work).2) := by
  have started : (held db work version conn).start conn = held db work version conn := by
    simp [start]
  have acquired : (held db work version conn).acquired conn = some work := by
    simp [held, SqlFile.acquired]
  rw [write, PyProg.runAlone_transact]
  simp only [started, acquired, hold_held]
  rfl

@[simp]
theorem runAlone_beginImmediate_quiet :
    PyProg.runAlone (beginImmediate conn) (quiet db version) =
      (held db db version conn, .ok ()) := by
  rw [beginImmediate, PyProg.runAlone_transact]
  simp only [inTransaction_quiet, hold_quiet, committed_quiet]
  rfl

@[simp]
theorem runAlone_commit (file : SqlFile Db) :
    PyProg.runAlone (commit conn) file = (file.commit conn, .ok ()) :=
  rfl

@[simp]
theorem runAlone_atomically (statements : SqlProg Db α) (file : SqlFile Db) :
    PyProg.runAlone (atomically statements) file = PyProg.runAlone statements file :=
  rfl

theorem runAlone_orRollback (statements : SqlProg Db α) (file : SqlFile Db) :
    PyProg.runAlone (orRollback conn statements) file =
      match PyProg.runAlone statements file with
      | (after, .ok value) => (after, .ok value)
      | (after, .error error) => (after.rollback conn, .error error) :=
  rfl

theorem runAlone_immediate (statements : PyProg Db α) :
    PyProg.runAlone (orRollback conn do
        let value ← write conn [] statements
        commit conn
        return value) (held db db version conn) =
      match PyProg.runAlone statements db with
      | (after, .ok value) => (quiet after (version + 1), .ok value)
      | (_, .error error) => (quiet db version, .error error) := by
  rw [runAlone_orRollback, PyProg.runAlone_bind, runAlone_write_held_nil]
  cases PyProg.runAlone statements db with
  | mk after result =>
    cases result with
    | ok value => simp [PyProg.runAlone_bind]
    | error error => simp

/-! ### Programs that only look -/

def Looks (program : SqlProg Db α) : Prop :=
  ∀ db version, (PyProg.runAlone program (quiet db version)).1 = quiet db version

theorem looks_lift (computation : Except PyError α) :
    Looks (PyProg.lift computation : SqlProg Db α) :=
  fun _ _ => rfl

theorem looks_pure (value : α) : Looks (pure value : SqlProg Db α) :=
  fun _ _ => rfl

theorem looks_select (texts : List PyStr) (look : Db → Except PyError α) :
    Looks (select conn texts look) := by
  intro db version
  rw [runAlone_select_quiet]

theorem Looks.bind {program : SqlProg Db α} {rest : α → SqlProg Db β} (first : Looks program)
    (second : ∀ value, Looks (rest value)) : Looks (program >>= rest) := by
  intro db version
  rw [PyProg.runAlone_bind]
  have kept := first db version
  cases outcome : PyProg.runAlone program (quiet db version) with
  | mk after result =>
    rw [outcome] at kept
    obtain rfl := kept
    cases result with
    | ok value => exact second value db version
    | error error => rfl

def LooksAs (program : SqlProg Db α) (view : Db → Except PyError α) : Prop :=
  ∀ db version, PyProg.runAlone program (quiet db version) = (quiet db version, view db)

theorem looksAs_lift (computation : Except PyError α) :
    LooksAs (PyProg.lift computation : SqlProg Db α) fun _ => computation :=
  fun _ _ => rfl

theorem looksAs_pure (value : α) : LooksAs (pure value : SqlProg Db α) fun _ => pure value :=
  fun _ _ => rfl

theorem looksAs_select (texts : List PyStr) (look : Db → Except PyError α) :
    LooksAs (select conn texts look) fun db => bindTexts texts >>= fun _ => look db :=
  fun _ _ => runAlone_select_quiet texts look

theorem LooksAs.bind {program : SqlProg Db α} {rest : α → SqlProg Db β}
    {view : Db → Except PyError α} {views : α → Db → Except PyError β}
    (first : LooksAs program view) (second : ∀ value, LooksAs (rest value) (views value)) :
    LooksAs (program >>= rest) fun db => view db >>= fun value => views value db := by
  intro db version
  rw [PyProg.runAlone_bind, first]
  dsimp only
  cases view db with
  | ok value => exact second value db version
  | error error => rfl

theorem Looks.orRollback {program : SqlProg Db α} (looks : Looks program) :
    Looks (orRollback conn program) := by
  intro db version
  rw [runAlone_orRollback]
  have kept := looks db version
  cases outcome : PyProg.runAlone program (quiet db version) with
  | mk after result =>
    rw [outcome] at kept
    obtain rfl := kept
    cases result with
    | ok value => rfl
    | error error => exact rollback_quiet db version conn

theorem snd_orRollback {program : SqlProg Db α} (file : SqlFile Db) :
    (PyProg.runAlone (SqlProg.orRollback conn program) file).2 =
      (PyProg.runAlone program file).2 := by
  rw [runAlone_orRollback]
  cases PyProg.runAlone program file with
  | mk after result => cases result <;> rfl

theorem Looks.runAlone_bind {program : SqlProg Db α} (looks : Looks program)
    (rest : α → SqlProg Db β) :
    PyProg.runAlone (program >>= rest) (quiet db version) =
      match (PyProg.runAlone program (quiet db version)).2 with
      | .ok value => PyProg.runAlone (rest value) (quiet db version)
      | .error error => (quiet db version, .error error) := by
  rw [PyProg.runAlone_bind]
  have kept := looks db version
  cases outcome : PyProg.runAlone program (quiet db version) with
  | mk after result =>
    rw [outcome] at kept
    obtain rfl := kept
    cases result <;> rfl

end SqlProg

end PyLib
