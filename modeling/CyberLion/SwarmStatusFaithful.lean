import CyberLion.SwarmStatusLifecycle

/-!
# What a snapshot shows of the status store

The projection takes the caller's context between the store's own fields and the
action tables.  A snapshot shows the stored revision and digests exactly when
the context leaves them alone, and then a report that copies its expected values
from the snapshot passes the comparison.
-/

namespace CyberLion

namespace SwarmStatus

open PyLib

def StatusDb.snapshot (systemId : PyStr) (db : StatusDb) : Status :=
  db.projection systemId

def StatusReport.CopiedFrom (report : StatusReport) (status : Status) : Prop :=
  status.field (py "revision") = .int report.expectedRevision ∧
    status.field (py "status_digest") = .str report.expectedStatusDigest

def StatusReport.IsNonAction (report : StatusReport) : Prop :=
  eventState.lookup report.eventType = none

/-- A snapshot that shows what the tables hold and from which the expected values
of a report can be copied. -/
structure Faithful (systemId : PyStr) (db : StatusDb) : Prop where
  revision : (db.snapshot systemId).field (py "revision") = .int db.info.revision
  statusDigest : (db.snapshot systemId).field (py "status_digest") = .str db.info.statusDigest
  revisionDigest :
    (db.snapshot systemId).field (py "revision_digest") = .str db.info.revisionDigest
  currentActions : (db.snapshot systemId).field (py "current_actions") =
    .arr ((sortedActions db.currentActions).map ActionRecord.toJson)
  history : (db.snapshot systemId).field (py "history") =
    .arr ((sortedActions db.history).map ActionRecord.toJson)
  computed : ∃ logical, computeStatusDigest (db.snapshot systemId) = .ok logical ∧
    (db.snapshot systemId).field (py "status_digest") = .str logical
  passes : ∀ report : StatusReport, report.validate = .ok () → report.IsNonAction →
    report.CopiedFrom (db.snapshot systemId) →
    db.checkExpected report.expectedRevision report.expectedStatusDigest = .ok ()

def StatusDb.ownFields (db : StatusDb) : List (PyStr × Json) :=
  [(py "revision", .int db.info.revision), (py "status_digest", .str db.info.statusDigest),
    (py "revision_digest", .str db.info.revisionDigest)]

def ownKeys : List PyStr :=
  [py "revision", py "status_digest", py "revision_digest"]

def StatusDb.ContextAgrees (db : StatusDb) : Prop :=
  ∀ field ∈ db.ownFields, ∀ value,
    db.info.context.reverse.lookup field.1 = some value → value = field.2

theorem visible_eq_stored {db : StatusDb} {key : PyStr} {stored : Json} :
    db.visible key stored = stored ↔
      ∀ value, db.info.context.reverse.lookup key = some value → value = stored := by
  rw [StatusDb.visible]
  cases db.info.context.reverse.lookup key with
  | none => simp
  | some value => simp

theorem contextAgrees_iff {db : StatusDb} : db.ContextAgrees ↔
    db.visible (py "revision") (.int db.info.revision) = .int db.info.revision ∧
      db.visible (py "status_digest") (.str db.info.statusDigest) = .str db.info.statusDigest ∧
      db.visible (py "revision_digest") (.str db.info.revisionDigest) =
        .str db.info.revisionDigest := by
  simp only [visible_eq_stored, StatusDb.ContextAgrees, StatusDb.ownFields, List.forall_mem_cons,
    List.not_mem_nil, IsEmpty.forall_iff, implies_true, and_true]

theorem checkExpected_eq_ok {db : StatusDb} {expectedRevision : Int}
    {expectedStatusDigest : PyStr} :
    db.checkExpected expectedRevision expectedStatusDigest = .ok () ↔
      expectedRevision = db.info.revision ∧ expectedStatusDigest = db.info.statusDigest := by
  rw [StatusDb.checkExpected, raiseIf_eq_ok, not_or, not_not, not_not]

theorem faithful_iff {systemId : PyStr} {db : StatusDb} (digested : Digested systemId db) :
    Faithful systemId db ↔ db.ContextAgrees := by
  rw [contextAgrees_iff, ← field_revision systemId, ← field_statusDigest systemId,
    ← field_revisionDigest systemId]
  constructor
  · intro faithful
    exact ⟨faithful.revision, faithful.statusDigest, faithful.revisionDigest⟩
  · rintro ⟨revision, statusDigest, revisionDigest⟩
    refine ⟨revision, statusDigest, revisionDigest, field_currentActions systemId db,
      field_history systemId db, ⟨_, digested.statusDigest, statusDigest⟩, ?_⟩
    rintro report - - ⟨copiedRevision, copiedDigest⟩
    rw [StatusDb.snapshot, revision] at copiedRevision
    rw [StatusDb.snapshot, statusDigest] at copiedDigest
    exact checkExpected_eq_ok.mpr
      ⟨(Json.int.inj copiedRevision).symm, (Json.str.inj copiedDigest).symm⟩

theorem contextAgrees_of_freeOf {db : StatusDb} (free : FreeOf ownKeys db.info.context) :
    db.ContextAgrees := by
  rw [contextAgrees_iff]
  exact ⟨visible_of_freeOf free (by simp [ownKeys]) _,
    visible_of_freeOf free (by simp [ownKeys]) _, visible_of_freeOf free (by simp [ownKeys]) _⟩

/-- In every state of every run the snapshot is faithful exactly when the context
agrees with the stored fields; it does when no context of the run sets one. -/
theorem snapshot_faithful_iff (store : StatusStore) (start : OpenedStore store)
    (calls : List StatusCall) :
    let db := (runStatus store start.live calls).db
    (Faithful store.systemId db ↔ db.ContextAgrees) ∧
      (FreeOf ownKeys start.context → (∀ call ∈ calls, call.FreeOf ownKeys) →
        Faithful store.systemId db) := by
  intro db
  have digested : Digested store.systemId db := (synced_runStatus start calls).digested
  refine ⟨faithful_iff digested, ?_⟩
  intro initial updates
  exact (faithful_iff digested).mpr (contextAgrees_of_freeOf
    (freeOf_runStatus start initial updates))

def surveyReport (expectedRevision : Int) (statusDigest : PyStr) : StatusReport where
  operationId := py "operation-1"
  expectedRevision := expectedRevision
  expectedStatusDigest := statusDigest
  reporterDroneId := py "drone-1"
  missionId := py "mission-1"
  eventType := py "STATUS_REPORT"
  payload := []
  evidenceRefs := [py "evidence-1"]
  observedAt := py "2026-01-02T03:04:05+00:00"

/-- With a context that sets the revision, the snapshot shows another revision
than the stored one, and a report that copies it is refused as stale. -/
theorem not_faithful_context :
    ∃ start : OpenedStore surveyStore, start.context = [(py "revision", .int 7)] ∧
      (start.live.db.snapshot surveyStore.systemId).field (py "revision") = .int 7 ∧
      start.live.db.info.revision = 0 ∧
      ∃ report : StatusReport, report.validate = .ok () ∧ report.IsNonAction ∧
        report.CopiedFrom (start.live.db.snapshot surveyStore.systemId) ∧
        start.live.db.checkExpected report.expectedRevision report.expectedStatusDigest =
          .error (stateError (py "stale status CAS")) := by
  obtain ⟨start, isContext, isStorage⟩ := exists_openedStore surveyStore
    (by decide +kernel : returned (openStatus surveyStore.systemId ⟨none, none⟩ surveyClock
      [(py "revision", .int 7)]).2 = true)
  have valid : ((openStatus surveyStore.systemId ⟨none, none⟩ surveyClock
      [(py "revision", .int 7)]).1.db.map fun db =>
        (surveyReport 7 db.info.statusDigest).validate == .ok ()) = some true := by
    decide +kernel
  rw [isStorage, Option.map_some, Option.some.injEq, beq_iff_eq] at valid
  obtain ⟨⟨generatedAt, statusDigest, revisionDigest, isDb⟩, -⟩ := start.exists_initialDb
  rw [isContext] at isDb
  refine ⟨start, isContext, ?_, by rw [isDb]; rfl, surveyReport 7 start.live.db.info.statusDigest,
    valid, rfl, ⟨?_, ?_⟩, ?_⟩
  all_goals
    rw [isDb]
    try rw [StatusDb.snapshot, field_revision]
  · rfl
  · rfl
  · rw [StatusDb.snapshot, field_statusDigest]
    rfl
  · rfl

end SwarmStatus

end CyberLion
