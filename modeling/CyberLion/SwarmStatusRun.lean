import CyberLion.SwarmStatus

/-!
# Runs of the swarm status store

A run is a list of calls on an opened store; a call that raises leaves the
tables and the file as they were.  What an operation does to the tables is said
once: the log, the revision and the digests advance, and at most one action is
planned, moved or finished.
-/

namespace CyberLion

namespace SwarmStatus

open PyLib
open FleetCoordination (ClockReading)

structure StatusStore where
  systemId : PyStr
  knownDrones : List PyStr
  interpreter : Interpreter

structure Live where
  db : StatusDb
  file : Utf8Bytes

/-- A call of one of the writing methods, with what the governor's fence
answers, or another opening of the store. -/
inductive StatusCall
  | applyReport (fence : Except PyError Unit) (report : StatusReport)
  | replaceContext (fence : Except PyError Unit) (clock : ClockReading) (update : ContextUpdate)
  | reopen

/-- `apply_report`. -/
def applyReportCall (store : StatusStore) (db : StatusDb) (fence : Except PyError Unit)
    (report : StatusReport) : Except PyError Applied := do
  report.validate
  raiseIf (report.reporterDroneId ∉ store.knownDrones) (stateError (py "unknown reporter drone"))
  fence
  db.applyReport store.interpreter store.systemId report

/-- `replace_context`. -/
def replaceContextCall (store : StatusStore) (db : StatusDb) (fence : Except PyError Unit)
    (clock : ClockReading) (update : ContextUpdate) : Except PyError Applied := do
  raiseIf (update.evidenceRefs = []) (stateError (py "context update requires evidence"))
  fence
  db.replaceContext store.systemId clock update

def StatusCall.apply (store : StatusStore) (live : Live) : StatusCall → Except PyError Applied
  | .applyReport fence report => applyReportCall store live.db fence report
  | .replaceContext fence clock update => replaceContextCall store live.db fence clock update
  | .reopen => Written.applied <$> SwarmStatus.reopen store.systemId live.db (some live.file)

def Applied.live (applied : Applied) (before : Live) : Live :=
  ⟨applied.db, applied.file.getD before.file⟩

def stepStatus (store : StatusStore) (live : Live) (call : StatusCall) : Live :=
  match call.apply store live with
  | .ok applied => applied.live live
  | .error _ => live

def runStatus (store : StatusStore) (live : Live) (calls : List StatusCall) : Live :=
  calls.foldl (stepStatus store) live

structure OpenedStore (store : StatusStore) where
  clock : ClockReading
  context : List (PyStr × Json)
  staleFile : Option Utf8Bytes
  live : Live
  status : Status
  opened : openStatus store.systemId ⟨none, staleFile⟩ clock context =
    (⟨some live.db, some live.file⟩, .ok status)

/-! ### The projection -/

section Projection

variable (systemId : PyStr) (db : StatusDb)

def StatusDb.visible (key : PyStr) (stored : Json) : Json :=
  (db.info.context.reverse.lookup key).getD stored

theorem lookup_projection (key : PyStr) : (db.projection systemId).lookup key =
    (List.lookup key [(py "generated_at", Json.str db.info.generatedAt),
      (py "history", .arr ((sortedActions db.history).map ActionRecord.toJson)),
      (py "current_actions",
        .arr ((sortedActions db.currentActions).map ActionRecord.toJson))]).or
    ((db.info.context.reverse.lookup key).or
      (List.lookup key [(py "previous_revision_digest", Json.str db.info.previousRevisionDigest),
        (py "revision_digest", .str db.info.revisionDigest),
        (py "previous_status_digest", .str db.info.previousStatusDigest),
        (py "status_digest", .str db.info.statusDigest), (py "revision", .int db.info.revision),
        (py "system_id", .str systemId), (py "schema_version", .str (py "1.0.0"))])) := by
  rw [StatusDb.projection, lookup_dictOfPairs, List.reverse_append, List.reverse_append,
    List.lookup_append, List.lookup_append]
  rfl

theorem field_eq_visible {key : PyStr} {stored : Json}
    (shown : (db.projection systemId).lookup key =
      (db.info.context.reverse.lookup key).or (some stored)) :
    (db.projection systemId).field key = db.visible key stored := by
  rw [Status.field, StatusDb.visible, shown]
  cases db.info.context.reverse.lookup key <;> rfl

theorem field_revision : (db.projection systemId).field (py "revision") =
    db.visible (py "revision") (.int db.info.revision) := by
  apply field_eq_visible
  rw [lookup_projection]
  rfl

theorem field_statusDigest : (db.projection systemId).field (py "status_digest") =
    db.visible (py "status_digest") (.str db.info.statusDigest) := by
  apply field_eq_visible
  rw [lookup_projection]
  rfl

theorem field_revisionDigest : (db.projection systemId).field (py "revision_digest") =
    db.visible (py "revision_digest") (.str db.info.revisionDigest) := by
  apply field_eq_visible
  rw [lookup_projection]
  rfl

theorem field_previousRevisionDigest :
    (db.projection systemId).field (py "previous_revision_digest") =
      db.visible (py "previous_revision_digest") (.str db.info.previousRevisionDigest) := by
  apply field_eq_visible
  rw [lookup_projection]
  rfl

theorem field_currentActions : (db.projection systemId).field (py "current_actions") =
    .arr ((sortedActions db.currentActions).map ActionRecord.toJson) := by
  rw [Status.field, lookup_projection]
  rfl

theorem field_history : (db.projection systemId).field (py "history") =
    .arr ((sortedActions db.history).map ActionRecord.toJson) := by
  rw [Status.field, lookup_projection]
  rfl

theorem logicalStatusPayload_withDigests (statusDigest revisionDigest : PyStr) :
    logicalStatusPayload ((db.withDigests statusDigest revisionDigest).projection systemId) =
      logicalStatusPayload (db.projection systemId) := by
  have same : ∀ item : PyStr × Json,
      AgreeOn (fun key => !excludedFields.contains key) item item := fun _ => ⟨rfl, fun _ => rfl⟩
  have statusLeftOut : ¬ (!excludedFields.contains (py "status_digest")) = true := by decide
  have revisionLeftOut : ¬ (!excludedFields.contains (py "revision_digest")) = true := by decide
  have agree : List.Forall₂ (AgreeOn fun key => !excludedFields.contains key)
      ((db.withDigests statusDigest revisionDigest).projection systemId)
      (db.projection systemId) := by
    apply forall₂_dictOfPairs
    apply List.rel_append
    · apply List.rel_append
      · refine .cons (same _) (.cons (same _) (.cons (same _) (.cons ⟨rfl, ?_⟩ (.cons (same _)
          (.cons ⟨rfl, ?_⟩ (.cons (same _) .nil))))))
        · exact fun kept => absurd kept statusLeftOut
        · exact fun kept => absurd kept revisionLeftOut
      · exact List.forall₂_same.mpr fun item _ => same item
    · exact List.forall₂_same.mpr fun item _ => same item
  exact filter_eq_of_forall₂ agree

end Projection

/-! ### Digests -/

structure Digested (systemId : PyStr) (db : StatusDb) : Prop where
  statusDigest : computeStatusDigest (db.projection systemId) = .ok db.info.statusDigest
  revisionDigest : computeRevisionDigest (db.visible (py "revision") (.int db.info.revision))
    (.str db.info.statusDigest)
    (db.visible (py "previous_revision_digest") (.str db.info.previousRevisionDigest)) =
      .ok db.info.revisionDigest

theorem recomputeAndWrite_eq_ok {systemId : PyStr} {db : StatusDb} {verifyExisting : Bool}
    {written : Written} (recomputed : db.recomputeAndWrite systemId verifyExisting = .ok written) :
    (∃ statusDigest revisionDigest, written.db = db.withDigests statusDigest revisionDigest) ∧
      Digested systemId written.db ∧
      fileBytes (written.db.projection systemId) = .ok written.file ∧
      written.status = written.db.projection systemId := by
  simp only [StatusDb.recomputeAndWrite, bind_eq_ok, pure_eq_ok, field_revision,
    field_previousRevisionDigest] at recomputed
  obtain ⟨logical, logicalEq, revisionDigest, revisionEq, _, -, file, fileEq, rfl⟩ := recomputed
  refine ⟨⟨logical, revisionDigest, rfl⟩, ⟨?_, revisionEq⟩, fileEq, rfl⟩
  rw [computeStatusDigest, logicalStatusPayload_withDigests]
  exact logicalEq

/-- Opening a store whose digests are those of its projection changes nothing;
it fails when the file or the digest that is shown differ. -/
theorem reopen_eq_ok {systemId : PyStr} {db : StatusDb} {raw : Utf8Bytes} {written : Written}
    (digested : Digested systemId db) :
    reopen systemId db (some raw) = .ok written ↔
      fileBytes (db.projection systemId) = .ok raw ∧
        checkStoredDigest (db.visible (py "status_digest") (.str db.info.statusDigest))
          db.info.statusDigest = .ok () ∧
        written = ⟨db, raw, db.projection systemId⟩ := by
  have same : db.withDigests db.info.statusDigest db.info.revisionDigest = db := rfl
  simp only [reopen, verifyExternalFile, StatusDb.recomputeAndWrite, bind_eq_ok, pure_eq_ok,
    raiseIf_eq_ok, ne_eq, not_not, field_revision, field_previousRevisionDigest,
    field_statusDigest, if_true]
  constructor
  · rintro ⟨_, ⟨expected, expectedEq, rfl⟩, logical, logicalEq, revisionDigest, revisionEq, _,
      checked, file, fileEq, rfl⟩
    rw [digested.statusDigest] at logicalEq
    obtain rfl := Except.ok.inj logicalEq
    rw [digested.revisionDigest] at revisionEq
    obtain rfl := Except.ok.inj revisionEq
    rw [same, expectedEq] at fileEq
    obtain rfl := Except.ok.inj fileEq
    exact ⟨expectedEq, checked, rfl⟩
  · rintro ⟨expectedEq, checked, rfl⟩
    exact ⟨(), ⟨raw, expectedEq, rfl⟩, _, digested.statusDigest, _, digested.revisionDigest, (),
      checked, raw, expectedEq, rfl⟩

/-! ### What an operation does -/

inductive ActionChange (db : StatusDb) : List ActionRecord → List ActionRecord → Prop
  | none : ActionChange db db.currentActions db.history
  | plan {record : ActionRecord} (planned : record.state = .planned)
      (fresh : findAction db.currentActions record.actionId = .none)
      (unfinished : findAction db.history record.actionId = .none) :
      ActionChange db (db.currentActions ++ [record]) db.history
  | move {old new : ActionRecord} (found : findAction db.currentActions old.actionId = some old)
      (same : new.actionId = old.actionId)
      (allowed : old.state.transitionAllowed new.state = true)
      (active : new.state.isTerminal = false) :
      ActionChange db
        (db.currentActions.map fun other => if other.actionId = old.actionId then new else other)
        db.history
  | finish {old new : ActionRecord} (found : findAction db.currentActions old.actionId = some old)
      (same : new.actionId = old.actionId)
      (allowed : old.state.transitionAllowed new.state = true)
      (terminal : new.state.isTerminal = true)
      (unfinished : findAction db.history old.actionId = .none) :
      ActionChange db (db.removeAction old.actionId) (db.history ++ [new])

theorem findAction_eq_some {records : List ActionRecord} {actionId : PyStr}
    {record : ActionRecord} (found : findAction records actionId = some record) :
    record ∈ records ∧ record.actionId = actionId :=
  ⟨List.mem_of_find?_eq_some found, by simpa using List.find?_some found⟩

theorem actionChange_of_moveAction {interpreter : Interpreter} {db after : StatusDb}
    {report : StatusReport} {newState : ActionState} {record : ActionRecord}
    (found : findAction db.currentActions record.actionId = some record)
    (moved : db.moveAction interpreter report newState record = .ok after) :
    ActionChange db after.currentActions after.history ∧
      after = { db with currentActions := after.currentActions, history := after.history } := by
  rw [StatusDb.moveAction, bind_eq_ok] at moved
  obtain ⟨_, allowed, rest⟩ := moved
  rw [raiseIf_eq_ok, not_not] at allowed
  by_cases terminal : newState.isTerminal = true
  · rw [if_pos terminal] at rest
    simp only [bind_eq_ok, pure_eq_ok, raiseIf_eq_ok, Option.not_isSome_iff_eq_none] at rest
    obtain ⟨refs, -, _, -, _, unfinished, rfl⟩ := rest
    exact ⟨.finish found rfl allowed terminal unfinished, rfl⟩
  · rw [if_neg terminal] at rest
    simp only [bind_eq_ok, pure_eq_ok] at rest
    obtain ⟨_, -, rfl⟩ := rest
    exact ⟨.move found rfl allowed (Bool.eq_false_iff.mpr terminal), rfl⟩

theorem actionChange_of_applyAction {interpreter : Interpreter} {db after : StatusDb}
    {report : StatusReport} {newState : ActionState}
    (applied : db.applyAction interpreter report newState = .ok after) :
    ActionChange db after.currentActions after.history ∧
      after = { db with currentActions := after.currentActions, history := after.history } := by
  simp only [StatusDb.applyAction, bind_eq_ok] at applied
  obtain ⟨_, -, _, -, rest⟩ := applied
  split at rest
  · simp only [StatusDb.planAction, bind_eq_ok, pure_eq_ok, raiseIf_eq_ok, not_or,
      Option.not_isSome_iff_eq_none] at rest
    obtain ⟨_, ⟨fresh, unfinished⟩, _, -, rfl⟩ := rest
    exact ⟨.plan rfl fresh unfinished, rfl⟩
  · split at rest
    · cases rest
    · rename_i record found
      have same := (findAction_eq_some found).2
      rw [← same] at found
      exact actionChange_of_moveAction found rest

structure Operation where
  operationId : PyStr
  payload : List (PyStr × Json)
  expectedRevision : Int
  expectedStatusDigest : PyStr

def StatusCall.operation : StatusCall → Option Operation
  | .applyReport _ report => some ⟨report.operationId, report.raw, report.expectedRevision,
      report.expectedStatusDigest⟩
  | .replaceContext _ _ update => some ⟨update.operationId, update.payload,
      update.expectedRevision, update.expectedStatusDigest⟩
  | .reopen => none

def StatusCall.contextAfter (context : List (PyStr × Json)) : StatusCall → List (PyStr × Json)
  | .replaceContext _ _ update => storedFields update.context
  | _ => context

structure OperationStep (store : StatusStore) (call : StatusCall) (operation : Operation)
    (payloadDigest : PyStr) (db after : StatusDb) : Prop where
  isOperation : call.operation = some operation
  expected : db.checkExpected operation.expectedRevision operation.expectedStatusDigest = .ok ()
  digested : digest (.obj operation.payload) = .ok payloadDigest
  fresh : db.findOperation operation.operationId = none
  acted : ActionChange db after.currentActions after.history
  operations : after.operations = db.operations ++ [⟨operation.operationId, payloadDigest⟩]
  revision : after.info.revision = db.info.revision + 1
  previousStatusDigest : after.info.previousStatusDigest = db.info.statusDigest
  previousRevisionDigest : after.info.previousRevisionDigest = db.info.revisionDigest
  context : after.info.context = call.contextAfter db.info.context

structure Synced (store : StatusStore) (live : Live) : Prop where
  digested : Digested store.systemId live.db
  file : fileBytes (live.db.projection store.systemId) = .ok live.file

structure Replayed (store : StatusStore) (operation : Operation) (db : StatusDb)
    (applied : Applied) : Prop where
  known : ∃ row, db.findOperation operation.operationId = some row ∧
    digest (.obj operation.payload) = .ok row.payloadDigest
  unchanged : applied = ⟨db, none, db.projection store.systemId⟩

section Apply

variable {store : StatusStore} {live : Live} {applied : Applied}

theorem replayed_eq_ok {db : StatusDb} {operation : Operation} {row : OperationRow}
    {payloadDigest : PyStr} (found : db.findOperation operation.operationId = some row)
    (digested : digest (.obj operation.payload) = .ok payloadDigest)
    (replayed : db.replayed store.systemId row payloadDigest = .ok applied) :
    Replayed store operation db applied := by
  simp only [StatusDb.replayed, bind_eq_ok, pure_eq_ok, raiseIf_eq_ok, ne_eq, not_not] at replayed
  obtain ⟨_, same, rfl⟩ := replayed
  exact ⟨⟨row, found, same ▸ digested⟩, rfl⟩

theorem cases_of_applyReport {fence : Except PyError Unit} {report : StatusReport}
    (returned : applyReportCall store live.db fence report = .ok applied) :
    let operation : Operation := ⟨report.operationId, report.raw, report.expectedRevision,
      report.expectedStatusDigest⟩
    Replayed store operation live.db applied ∨
      (∃ payloadDigest, OperationStep store (.applyReport fence report) operation payloadDigest
        live.db applied.db) ∧ ∃ file, applied.file = some file ∧ Synced store ⟨applied.db, file⟩ ∧
          applied.status = applied.db.projection store.systemId := by
  intro operation
  simp only [applyReportCall, StatusDb.applyReport, bind_eq_ok] at returned
  obtain ⟨_, -, _, -, _, -, _, expected, payloadDigest, digested, rest⟩ := returned
  split at rest
  · rename_i row found
    exact .inl (replayed_eq_ok found digested rest)
  · rename_i fresh
    right
    simp only [StatusDb.applyNew, bind_eq_ok, pure_eq_ok] at rest
    obtain ⟨acted, actedEq, logged, loggedEq, written, writtenEq, rfl⟩ := rest
    have change : ActionChange live.db acted.currentActions acted.history ∧
        acted = { live.db with
          currentActions := acted.currentActions, history := acted.history } := by
      rw [StatusDb.act] at actedEq
      split at actedEq
      · exact actionChange_of_applyAction actedEq
      · obtain rfl := Except.ok.inj actedEq
        exact ⟨.none, rfl⟩
    simp only [StatusDb.logReport, bind_eq_ok, pure_eq_ok] at loggedEq
    obtain ⟨_, -, _, -, rfl⟩ := loggedEq
    obtain ⟨⟨statusDigest, revisionDigest, isDb⟩, isDigested, fileEq, statusEq⟩ :=
      recomputeAndWrite_eq_ok writtenEq
    refine ⟨⟨payloadDigest, ⟨rfl, expected, digested, fresh, ?_, ?_, ?_, ?_, ?_, ?_⟩⟩,
      written.file, rfl, ⟨isDigested, fileEq⟩, statusEq⟩
    all_goals
      rw [Written.applied, isDb]
      obtain ⟨acts, same⟩ := change
      rw [same]
    · exact acts
    all_goals rfl

theorem cases_of_replaceContext {fence : Except PyError Unit} {clock : ClockReading}
    {update : ContextUpdate}
    (returned : replaceContextCall store live.db fence clock update = .ok applied) :
    let operation : Operation := ⟨update.operationId, update.payload, update.expectedRevision,
      update.expectedStatusDigest⟩
    Replayed store operation live.db applied ∨
      (∃ payloadDigest, OperationStep store (.replaceContext fence clock update) operation
        payloadDigest live.db applied.db) ∧ ∃ file, applied.file = some file ∧
          Synced store ⟨applied.db, file⟩ ∧
          applied.status = applied.db.projection store.systemId := by
  intro operation
  simp only [replaceContextCall, StatusDb.replaceContext, bind_eq_ok] at returned
  obtain ⟨_, -, _, -, _, expected, payloadDigest, digested, _, -, rest⟩ := returned
  split at rest
  · rename_i row found
    exact .inl (replayed_eq_ok found digested rest)
  · rename_i fresh
    right
    simp only [StatusDb.replaceNew, bind_eq_ok, pure_eq_ok] at rest
    obtain ⟨_, -, generatedAt, -, written, writtenEq, rfl⟩ := rest
    obtain ⟨⟨statusDigest, revisionDigest, isDb⟩, isDigested, fileEq, statusEq⟩ :=
      recomputeAndWrite_eq_ok writtenEq
    refine ⟨⟨payloadDigest, ⟨rfl, expected, digested, fresh, ?_, ?_, ?_, ?_, ?_, ?_⟩⟩,
      written.file, rfl, ⟨isDigested, fileEq⟩, statusEq⟩
    all_goals rw [Written.applied, isDb]
    · exact .none
    all_goals rfl

end Apply

/-! ### Steps and runs -/

section Steps

variable {store : StatusStore}

theorem cases_of_stepStatus {live : Live} (digested : Digested store.systemId live.db)
    (call : StatusCall) :
    stepStatus store live call = live ∨
      (∃ operation payloadDigest, OperationStep store call operation payloadDigest live.db
        (stepStatus store live call).db) ∧ Synced store (stepStatus store live call) := by
  rw [stepStatus]
  split
  · rename_i applied returned
    cases call with
    | applyReport fence report =>
      rcases cases_of_applyReport returned with ⟨-, rfl⟩ | ⟨⟨digest, step⟩, file, isFile, after, -⟩
      · exact .inl rfl
      · rw [Applied.live, isFile]
        exact .inr ⟨⟨_, digest, step⟩, after⟩
    | replaceContext fence clock update =>
      rcases cases_of_replaceContext returned with
        ⟨-, rfl⟩ | ⟨⟨digest, step⟩, file, isFile, after, -⟩
      · exact .inl rfl
      · rw [Applied.live, isFile]
        exact .inr ⟨⟨_, digest, step⟩, after⟩
    | reopen =>
      rw [StatusCall.apply, map_eq_ok] at returned
      obtain ⟨written, reopened, rfl⟩ := returned
      obtain ⟨-, -, rfl⟩ := (reopen_eq_ok digested).mp reopened
      exact .inl rfl
  · exact .inl rfl

theorem OpenedStore.exists_initialDb (start : OpenedStore store) :
    (∃ generatedAt statusDigest revisionDigest, start.live.db =
      (initialDb generatedAt start.context).withDigests statusDigest revisionDigest) ∧
      Synced store start.live := by
  have opened := start.opened
  rw [openStatus] at opened
  dsimp only at opened
  split at opened
  · exact nomatch (Prod.mk.inj opened).2
  · rename_i db inserted
    split at opened
    · rename_i written recomputed
      obtain ⟨sameStorage, -⟩ := Prod.mk.inj opened
      obtain ⟨sameDb, sameFile⟩ := Storage.mk.inj sameStorage
      obtain ⟨⟨statusDigest, revisionDigest, isDb⟩, digested, file, -⟩ :=
        recomputeAndWrite_eq_ok recomputed
      rw [Option.some.inj sameDb] at isDb digested file
      rw [Option.some.inj sameFile] at file
      simp only [insertInitial, bind_eq_ok, pure_eq_ok] at inserted
      obtain ⟨generatedAt, -, _, -, rfl⟩ := inserted
      exact ⟨⟨generatedAt, statusDigest, revisionDigest, isDb⟩, digested, file⟩
    · exact nomatch (Prod.mk.inj opened).2

theorem exists_openedStore (store : StatusStore) {clock : ClockReading}
    {context : List (PyStr × Json)} {staleFile : Option Utf8Bytes}
    (created : returned (openStatus store.systemId ⟨none, staleFile⟩ clock context).2 = true) :
    ∃ start : OpenedStore store, start.context = context ∧
      (openStatus store.systemId ⟨none, staleFile⟩ clock context).1 =
        ⟨some start.live.db, some start.live.file⟩ := by
  have opened : ∃ db file status, openStatus store.systemId ⟨none, staleFile⟩ clock context =
      (⟨some db, some file⟩, .ok status) := by
    rw [openStatus] at created ⊢
    dsimp only at created ⊢
    split at created
    · exact nomatch created
    · split at created
      · exact ⟨_, _, _, rfl⟩
      · exact nomatch created
  obtain ⟨db, file, status, isOpened⟩ := opened
  exact ⟨⟨clock, context, staleFile, ⟨db, file⟩, status, isOpened⟩, rfl, by rw [isOpened]⟩

theorem run_induction {P : StatusDb → Prop}
    (step : ∀ {call operation payloadDigest db after},
      OperationStep store call operation payloadDigest db after →
      Digested store.systemId after → P db → P after)
    {live : Live} (synced : Synced store live) (holds : P live.db) (calls : List StatusCall) :
    Synced store (runStatus store live calls) ∧ P (runStatus store live calls).db := by
  induction calls generalizing live with
  | nil => exact ⟨synced, holds⟩
  | cons call calls ih =>
    rw [runStatus, List.foldl_cons]
    rcases cases_of_stepStatus synced.digested call with same | ⟨⟨operation, digest, applied⟩, after⟩
    · rw [same]
      exact ih synced holds
    · exact ih after (step applied after.digested holds)

theorem synced_runStatus (start : OpenedStore store) (calls : List StatusCall) :
    Synced store (runStatus store start.live calls) :=
  (run_induction (P := fun _ => True) (fun _ _ _ => trivial) start.exists_initialDb.2 trivial
    calls).1

theorem runStatus_append (live : Live) (calls more : List StatusCall) :
    runStatus store live (calls ++ more) = runStatus store (runStatus store live calls) more :=
  List.foldl_append

end Steps

end SwarmStatus

end CyberLion
