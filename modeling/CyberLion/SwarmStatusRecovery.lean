import CyberLion.SwarmStatusReplay

/-!
# Recovery of the status store

The status file is replaced inside the open transaction.  A call that stops
before the replacement or after its COMMIT leaves a database and a file that the
constructor accepts; one that stops in between leaves the new file beside the
old tables, and the constructor refuses the pair.
-/

namespace CyberLion

namespace SwarmStatus

open PyLib
open FleetCoordination (ClockReading)

/-- Where a call stops: before it replaces the file, between the replacement
and its COMMIT, or after that. -/
inductive StopPoint
  | beforeReplace
  | beforeCommit
  | afterCommit
  deriving DecidableEq

/-- What a call leaves that stops.  The open transaction is rolled back; a file
that was replaced stays replaced. -/
def stopStatus (store : StatusStore) (live : Live) (call : StatusCall) : StopPoint → Live
  | .beforeReplace => live
  | .beforeCommit =>
    match call.apply store live with
    | .ok applied => ⟨live.db, applied.file.getD live.file⟩
    | .error _ => live
  | .afterCommit => stepStatus store live call

structure Attempt where
  call : StatusCall
  isOperation : call.operation.isSome = true
  stop : StopPoint

def Attempt.apply (store : StatusStore) (live : Live) (attempt : Attempt) : Live :=
  stopStatus store live attempt.call attempt.stop

inductive StatusEvent
  | operation (attempt : Attempt)
  | reopen

def StatusEvent.apply (store : StatusStore) (live : Live) : StatusEvent → Live
  | .operation attempt => attempt.apply store live
  | .reopen => stepStatus store live .reopen

def runEvents (store : StatusStore) (live : Live) (events : List StatusEvent) : Live :=
  events.foldl (StatusEvent.apply store) live

def Attempt.IsWhole (attempt : Attempt) : Prop :=
  attempt.stop ≠ .beforeCommit

def StatusEvent.IsWhole : StatusEvent → Prop
  | .operation attempt => attempt.IsWhole
  | .reopen => True

def StatusEvent.FreeOf (keys : List PyStr) : StatusEvent → Prop
  | .operation attempt => attempt.call.FreeOf keys
  | .reopen => True

/-- A new store on what a stopped call left opens and shows the state before or
after that call. -/
def Recovers (store : StatusStore) (live : Live) (attempt : Attempt) : Prop :=
  ∀ clock context, ∃ (reopened : Live) (status : Status),
    openStatus store.systemId ⟨some (attempt.apply store live).db,
      some (attempt.apply store live).file⟩ clock context =
        (⟨some reopened.db, some reopened.file⟩, .ok status) ∧
    (reopened.db.snapshot store.systemId = live.db.snapshot store.systemId ∨
      reopened.db.snapshot store.systemId =
        (stepStatus store live attempt.call).db.snapshot store.systemId)

def ShowsDigest (db : StatusDb) : Prop :=
  checkStoredDigest (db.visible (py "status_digest") (.str db.info.statusDigest))
    db.info.statusDigest = .ok ()

theorem showsDigest_of_freeOf {db : StatusDb}
    (free : FreeOf [py "status_digest"] db.info.context) : ShowsDigest db := by
  rw [ShowsDigest, visible_of_freeOf free (List.mem_singleton.mpr rfl), checkStoredDigest,
    raiseIf_eq_ok]
  rintro ⟨-, differ⟩
  exact differ rfl

section Attempts

variable {store : StatusStore} {live : Live}

theorem db_apply (attempt : Attempt) : (attempt.apply store live).db = live.db ∨
    (attempt.apply store live).db = (stepStatus store live attempt.call).db := by
  rw [Attempt.apply]
  cases attempt.stop with
  | beforeReplace => exact .inl rfl
  | beforeCommit =>
    left
    rw [stopStatus]
    split <;> rfl
  | afterCommit => exact .inr rfl

theorem digested_stepStatus (digested : Digested store.systemId live.db) (call : StatusCall) :
    Digested store.systemId (stepStatus store live call).db := by
  rcases cases_of_stepStatus digested call with same | ⟨-, after⟩
  · rw [same]
    exact digested
  · exact after.digested

theorem digested_attempt (digested : Digested store.systemId live.db) (attempt : Attempt) :
    Digested store.systemId (attempt.apply store live).db := by
  have applied : (attempt.apply store live).db = live.db ∨
      (attempt.apply store live).db = (stepStatus store live attempt.call).db := db_apply attempt
  rcases applied with same | same
  · rw [same]
    exact digested
  · rw [same]
    exact digested_stepStatus digested attempt.call

theorem digested_runEvents (digested : Digested store.systemId live.db)
    (events : List StatusEvent) : Digested store.systemId (runEvents store live events).db := by
  induction events generalizing live with
  | nil => exact digested
  | cons event events ih =>
    rw [runEvents, List.foldl_cons]
    apply ih
    cases event with
    | operation attempt => exact digested_attempt digested attempt
    | reopen => exact digested_stepStatus digested .reopen

/-- An attempt that is not stopped in between leaves the store as it was or as
the whole call leaves it. -/
theorem Attempt.IsWhole.apply_eq {attempt : Attempt} (whole : attempt.IsWhole) :
    attempt.apply store live = live ∨
      attempt.apply store live = stepStatus store live attempt.call := by
  rw [Attempt.IsWhole] at whole
  rw [Attempt.apply]
  cases stop : attempt.stop with
  | beforeReplace => exact .inl rfl
  | beforeCommit => exact absurd stop whole
  | afterCommit => exact .inr rfl

theorem synced_attempt (synced : Synced store live) {attempt : Attempt}
    (whole : attempt.IsWhole) : Synced store (attempt.apply store live) := by
  have applied : attempt.apply store live = live ∨
      attempt.apply store live = stepStatus store live attempt.call := whole.apply_eq
  rcases applied with same | same
  · rw [same]
    exact synced
  · rw [same]
    exact synced_stepStatus synced attempt.call

theorem freeOf_attempt {keys : List PyStr} (synced : Synced store live)
    (free : FreeOf keys live.db.info.context) {attempt : Attempt} (whole : attempt.IsWhole)
    (update : attempt.call.FreeOf keys) :
    FreeOf keys (attempt.apply store live).db.info.context := by
  have applied : attempt.apply store live = live ∨
      attempt.apply store live = stepStatus store live attempt.call := whole.apply_eq
  rcases applied with same | same
  · rw [same]
    exact free
  · rw [same]
    exact freeOf_stepStatus synced free update

theorem synced_runEvents (synced : Synced store live) {events : List StatusEvent}
    (whole : ∀ event ∈ events, event.IsWhole) : Synced store (runEvents store live events) := by
  induction events generalizing live with
  | nil => exact synced
  | cons event events ih =>
    rw [List.forall_mem_cons] at whole
    rw [runEvents, List.foldl_cons]
    apply ih _ whole.2
    cases event with
    | operation attempt => exact synced_attempt synced whole.1
    | reopen => exact synced_stepStatus synced .reopen

theorem freeOf_runEvents {keys : List PyStr} (synced : Synced store live)
    (free : FreeOf keys live.db.info.context) {events : List StatusEvent}
    (whole : ∀ event ∈ events, event.IsWhole) (updates : ∀ event ∈ events, event.FreeOf keys) :
    FreeOf keys (runEvents store live events).db.info.context := by
  induction events generalizing live with
  | nil => exact free
  | cons event events ih =>
    rw [List.forall_mem_cons] at whole updates
    rw [runEvents, List.foldl_cons]
    cases event with
    | operation attempt =>
      exact ih (synced_attempt synced whole.1)
        (freeOf_attempt synced free whole.1 updates.1) whole.2 updates.2
    | reopen =>
      exact ih (synced_stepStatus synced .reopen)
        (freeOf_stepStatus synced free trivial) whole.2 updates.2

/-- A new store opens exactly when the file is the text of the projection and
the digest that it shows is accepted. -/
theorem recovers_iff (digested : Digested store.systemId live.db) (attempt : Attempt) :
    Recovers store live attempt ↔
      fileBytes ((attempt.apply store live).db.snapshot store.systemId) =
          .ok (attempt.apply store live).file ∧
        ShowsDigest (attempt.apply store live).db := by
  have reopens := fun written => @reopen_eq_ok _ _ (attempt.apply store live).file written
    (digested_attempt digested attempt)
  constructor
  · intro recovers
    obtain ⟨reopened, status, opened, -⟩ := recovers (.ok (.naive ⟨1, 1, 1, 0, 0, 0, 0, rfl⟩)) []
    rw [openStatus] at opened
    dsimp only at opened
    split at opened
    · rename_i written isReopened
      obtain ⟨file, shown, -⟩ := (reopens written).mp isReopened
      exact ⟨file, shown⟩
    · cases (Prod.mk.inj opened).2
  · rintro ⟨file, shown⟩ clock context
    refine ⟨attempt.apply store live, (attempt.apply store live).db.projection store.systemId, ?_,
      (db_apply attempt).imp (congrArg _) (congrArg _)⟩
    rw [openStatus]
    dsimp only
    rw [(reopens _).mpr ⟨file, shown, rfl⟩]

end Attempts

/-- In every run of operations that may stop: a new store recovers when no
operation stops between the replacement of the file and its COMMIT and no context
sets the status digest.  An operation that stops there on a store whose file is
current can be recovered from only if the new file is the old one. -/
theorem status_recovery (store : StatusStore) (start : OpenedStore store)
    (events : List StatusEvent) (attempt : Attempt) :
    let live := runEvents store start.live events
    ((∀ event ∈ events, event.IsWhole) → attempt.IsWhole →
      FreeOf [py "status_digest"] start.context →
      (∀ event ∈ events, event.FreeOf [py "status_digest"]) →
      attempt.call.FreeOf [py "status_digest"] → Recovers store live attempt) ∧
    ((∀ event ∈ events, event.IsWhole) → attempt.stop = .beforeCommit →
      (Recovers store live attempt ↔
        (attempt.apply store live).file = live.file ∧ ShowsDigest live.db)) := by
  intro live
  have startSynced := start.exists_initialDb.2
  have digested : Digested store.systemId live.db := digested_runEvents startSynced.digested events
  refine ⟨?_, ?_⟩
  · intro whole isWhole initial updates update
    have synced : Synced store live := synced_runEvents startSynced whole
    have free : FreeOf [py "status_digest"] live.db.info.context :=
      freeOf_runEvents startSynced (freeOf_initial start initial) whole updates
    exact (recovers_iff digested attempt).mpr ⟨(synced_attempt synced isWhole).file,
      showsDigest_of_freeOf (freeOf_attempt synced free isWhole update)⟩
  · intro whole stops
    have synced : Synced store live := synced_runEvents startSynced whole
    have sameDb : (attempt.apply store live).db = live.db := by
      rw [Attempt.apply, stops, stopStatus]
      split <;> rfl
    rw [recovers_iff digested attempt, sameDb, StatusDb.snapshot, synced.file, Except.ok.injEq]
    exact and_congr_left fun _ => eq_comm

/-- A report that stops between the replacement of the file and its COMMIT
leaves a pair that no new store opens. -/
theorem not_recovers_report : ∃ (start : OpenedStore surveyStore) (attempt : Attempt),
    start.context = [] ∧ attempt.stop = .beforeCommit ∧
      ¬ Recovers surveyStore start.live attempt := by
  obtain ⟨start, isContext, applied, isApplied, newFile⟩ := exists_surveyDelivery
  refine ⟨start, ⟨.applyReport (.ok ()) (surveyReport 0 start.live.db.info.statusDigest), rfl,
    .beforeCommit⟩, isContext, rfl, ?_⟩
  have synced := start.exists_initialDb.2
  rw [recovers_iff synced.digested]
  rintro ⟨file, -⟩
  simp only [Attempt.apply, stopStatus, StatusCall.apply, isApplied] at file
  rw [StatusDb.snapshot, synced.file] at file
  exact newFile (Except.ok.inj file).symm

end SwarmStatus

end CyberLion
