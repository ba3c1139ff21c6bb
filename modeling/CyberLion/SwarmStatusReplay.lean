import CyberLion.SwarmStatusFaithful

/-!
# Operations of the status store that are sent again

The comparison of the expected values comes before the lookup of the operation,
and an operation that was applied has advanced the revision.  So the identical
operation is refused as stale from then on; the lookup answers a context update
that is sent again with the current expected values.
-/

namespace CyberLion

namespace SwarmStatus

open PyLib
open FleetCoordination (ClockReading)

def StatusCall.redelivered (fence : Except PyError Unit) (clock : ClockReading) :
    StatusCall → StatusCall
  | .applyReport _ report => .applyReport fence report
  | .replaceContext _ _ update => .replaceContext fence clock update
  | .reopen => .reopen

def ContextUpdate.expecting (update : ContextUpdate) (info : StatusMeta) : ContextUpdate :=
  { update with expectedRevision := info.revision, expectedStatusDigest := info.statusDigest }

structure FirstDelivery (store : StatusStore) (live : Live) (call : StatusCall)
    (operation : Operation) : Prop where
  isOperation : call.operation = some operation
  applies : ∃ applied, call.apply store live = .ok applied
  fresh : live.db.findOperation operation.operationId = none

theorem stepStatus_of_error {store : StatusStore} {live : Live} {call : StatusCall}
    {error : PyError} (raised : call.apply store live = .error error) :
    stepStatus store live call = live := by
  rw [stepStatus, raised]

theorem cases_of_known {store : StatusStore} {live : Live} {call : StatusCall}
    {operation : Operation} (isOperation : call.operation = some operation) {row : OperationRow}
    (found : live.db.findOperation operation.operationId = some row) :
    (∃ error, call.apply store live = .error error) ∨
      digest (.obj operation.payload) = .ok row.payloadDigest := by
  cases returned : call.apply store live with
  | error error => exact .inl ⟨error, rfl⟩
  | ok applied =>
    right
    have cases : Replayed store operation live.db applied ∨
        ∃ payloadDigest, OperationStep store call operation payloadDigest live.db applied.db := by
      cases call with
      | applyReport fence report =>
        obtain rfl := Option.some.inj isOperation
        exact (cases_of_applyReport returned).imp_right And.left
      | replaceContext fence clock update =>
        obtain rfl := Option.some.inj isOperation
        exact (cases_of_replaceContext returned).imp_right And.left
      | reopen => exact nomatch isOperation
    rcases cases with replayed | ⟨payloadDigest, step⟩
    · obtain ⟨other, sameId, digested⟩ := replayed.known
      obtain rfl := Option.some.inj (found.symm.trans sameId)
      exact digested
    · exact nomatch found.symm.trans step.fresh

section Delivered

variable {store : StatusStore} {live : Live} {call : StatusCall} {operation : Operation}

theorem FirstDelivery.step (first : FirstDelivery store live call operation) :
    ∃ payloadDigest, OperationStep store call operation payloadDigest live.db
      (stepStatus store live call).db := by
  obtain ⟨isOperation, ⟨applied, returned⟩, fresh⟩ := first
  rw [stepStatus, returned]
  cases call with
  | applyReport fence report =>
    obtain rfl := Option.some.inj isOperation
    rcases cases_of_applyReport returned with replayed | ⟨step, -⟩
    · obtain ⟨row, found, -⟩ := replayed.known
      cases found.symm.trans fresh
    · exact step
  | replaceContext fence clock update =>
    obtain rfl := Option.some.inj isOperation
    rcases cases_of_replaceContext returned with replayed | ⟨step, -⟩
    · obtain ⟨row, found, -⟩ := replayed.known
      cases found.symm.trans fresh
    · exact step
  | reopen => cases isOperation

/-- From then on the log knows the operation and the revision is past the one
that it expects. -/
structure Delivered (operation : Operation) (db : StatusDb) : Prop where
  past : operation.expectedRevision < db.info.revision
  known : ∃ row, db.findOperation operation.operationId = some row ∧
    digest (.obj operation.payload) = .ok row.payloadDigest

theorem delivered_of_operationStep {payloadDigest : PyStr} {db after : StatusDb}
    (step : OperationStep store call operation payloadDigest db after) :
    Delivered operation after := by
  constructor
  · rw [(checkExpected_eq_ok.mp step.expected).1, step.revision]
    omega
  · refine ⟨⟨operation.operationId, payloadDigest⟩, ?_, step.digested⟩
    have fresh := step.fresh
    rw [StatusDb.findOperation] at fresh ⊢
    rw [step.operations, List.find?_append, fresh, Option.none_or, List.find?_singleton]
    exact if_pos (decide_eq_true rfl)

theorem Delivered.operationStep {db after : StatusDb} (delivered : Delivered operation db)
    {other : Operation} {payloadDigest : PyStr}
    (step : OperationStep store call other payloadDigest db after) :
    Delivered operation after := by
  obtain ⟨past, row, found, digested⟩ := delivered
  refine ⟨?_, row, ?_, digested⟩
  · rw [step.revision]
    omega
  · rw [StatusDb.findOperation] at found ⊢
    rw [step.operations, List.find?_append, found, Option.some_or]

theorem FirstDelivery.delivered {start : OpenedStore store} {calls : List StatusCall}
    (first : FirstDelivery store (runStatus store start.live calls) call operation)
    (more : List StatusCall) :
    Delivered operation (runStatus store start.live (calls ++ call :: more)).db := by
  obtain ⟨payloadDigest, step⟩ := first.step
  have after := delivered_of_operationStep step
  have synced : Synced store (stepStatus store (runStatus store start.live calls) call) := by
    have whole := synced_runStatus start (calls ++ [call])
    rwa [runStatus_append] at whole
  rw [runStatus_append]
  exact (run_induction (P := Delivered operation)
    (fun other _ holds => holds.operationStep other) synced after more).2

theorem Delivered.refused {before : Live}
    (applies : ∃ applied, call.apply store before = .ok applied)
    (isOperation : call.operation = some operation) (delivered : Delivered operation live.db)
    (clock : ClockReading) :
    (call.redelivered (.ok ()) clock).apply store live =
      .error (stateError (py "stale status CAS")) := by
  have stale : live.db.checkExpected operation.expectedRevision operation.expectedStatusDigest =
      .error (stateError (py "stale status CAS")) := by
    rw [StatusDb.checkExpected, raiseIf, if_pos (Or.inl (by have := delivered.past; omega))]
  obtain ⟨applied, returned⟩ := applies
  cases call with
  | applyReport fence report =>
    obtain rfl := Option.some.inj isOperation
    simp only [StatusCall.apply, applyReportCall, bind_eq_ok] at returned
    obtain ⟨_, valid, _, isKnown, -⟩ := returned
    rw [StatusCall.redelivered, StatusCall.apply, applyReportCall, valid, ok_bind, isKnown,
      ok_bind, ok_bind, StatusDb.applyReport, stale]
    rfl
  | replaceContext fence clock update =>
    obtain rfl := Option.some.inj isOperation
    simp only [StatusCall.apply, replaceContextCall, bind_eq_ok] at returned
    obtain ⟨_, evident, -⟩ := returned
    rw [StatusCall.redelivered, StatusCall.apply, replaceContextCall, evident, ok_bind, ok_bind,
      StatusDb.replaceContext, stale]
    rfl
  | reopen => cases isOperation

theorem Delivered.answered {before : Live} {fence : Except PyError Unit} {clock : ClockReading}
    {update : ContextUpdate}
    (applies : ∃ applied, (StatusCall.replaceContext fence clock update).apply store before =
      .ok applied)
    (isOperation : (StatusCall.replaceContext fence clock update).operation = some operation)
    (delivered : Delivered operation live.db) (again : ClockReading) :
    (StatusCall.replaceContext (.ok ()) again (update.expecting live.db.info)).apply store live =
      .ok ⟨live.db, none, live.db.snapshot store.systemId⟩ := by
  obtain ⟨applied, returned⟩ := applies
  obtain rfl := Option.some.inj isOperation
  obtain ⟨-, row, found, digested⟩ := delivered
  simp only [StatusCall.apply, replaceContextCall, StatusDb.replaceContext, bind_eq_ok]
    at returned
  obtain ⟨_, evident, _, -, _, -, _, -, encoded, isEncoded, -⟩ := returned
  have current : live.db.checkExpected live.db.info.revision live.db.info.statusDigest = .ok () :=
    checkExpected_eq_ok.mpr ⟨rfl, rfl⟩
  have matched : raiseIf (row.payloadDigest ≠ row.payloadDigest)
      (stateError (py "operation replay substitution denied")) = .ok () :=
    raiseIf_eq_ok.mpr (not_not.mpr rfl)
  have samePayload : (update.expecting live.db.info).payload = update.payload := rfl
  rw [StatusCall.apply, replaceContextCall, ContextUpdate.expecting, evident, ok_bind, ok_bind,
    ← ContextUpdate.expecting, StatusDb.replaceContext, samePayload, digested]
  rw [ContextUpdate.expecting, current, ok_bind, ok_bind, isEncoded, ok_bind, found]
  simp only [StatusDb.replayed, matched, ok_bind]
  rfl

end Delivered

/-- An operation that was applied earlier in a run: the identical one is refused
as stale, a context update that expects the current values is answered with the
current projection, and another payload under the same identifier is refused, or
the two payloads are an explicit collision of the digest.  Nothing changes. -/
theorem status_redelivery (store : StatusStore) (start : OpenedStore store)
    (calls more : List StatusCall) (call : StatusCall) (operation : Operation)
    (first : FirstDelivery store (runStatus store start.live calls) call operation) :
    let live := runStatus store start.live (calls ++ call :: more)
    (∀ clock, (call.redelivered (.ok ()) clock).apply store live =
        .error (stateError (py "stale status CAS")) ∧
      stepStatus store live (call.redelivered (.ok ()) clock) = live) ∧
    (∀ fence clock update, call = .replaceContext fence clock update → ∀ again,
      let resent := StatusCall.replaceContext (.ok ()) again (update.expecting live.db.info)
      resent.apply store live = .ok ⟨live.db, none, live.db.snapshot store.systemId⟩ ∧
        stepStatus store live resent = live) ∧
    (∀ other : StatusCall, ∀ otherOperation : Operation, other.operation = some otherOperation →
      otherOperation.operationId = operation.operationId →
      canonicalJson (.obj otherOperation.payload) ≠ canonicalJson (.obj operation.payload) →
      (∃ error, other.apply store live = .error error ∧ stepStatus store live other = live) ∨
        ∃ recorded offered, canonicalJson (.obj operation.payload) = .ok recorded ∧
          canonicalJson (.obj otherOperation.payload) = .ok offered ∧ recorded ≠ offered ∧
          sha256 recorded = sha256 offered) := by
  intro live
  have delivered : Delivered operation live.db := first.delivered more
  refine ⟨?_, ?_, ?_⟩
  · intro clock
    have refused := delivered.refused first.applies first.isOperation clock
    exact ⟨refused, stepStatus_of_error refused⟩
  · rintro fence clock update rfl again
    have answered := delivered.answered first.applies first.isOperation again
    refine ⟨answered, ?_⟩
    rw [stepStatus, answered]
    rfl
  · intro other otherOperation isOperation sameId differ
    obtain ⟨-, row, found, digested⟩ := delivered
    rw [← sameId] at found
    rcases cases_of_known isOperation found with ⟨error, raised⟩ | sameDigest
    · exact .inl ⟨error, raised, stepStatus_of_error raised⟩
    · right
      simp only [digest, bind_eq_ok, pure_eq_ok] at digested sameDigest
      obtain ⟨recorded, isRecorded, isDigest⟩ := digested
      obtain ⟨offered, isOffered, isSame⟩ := sameDigest
      refine ⟨recorded, offered, isRecorded, isOffered, ?_, isDigest.trans isSame.symm⟩
      rintro rfl
      exact differ (isOffered.trans isRecorded.symm)

def replacesFile (storage : Storage) : Bool :=
  match storage.db, storage.file with
  | some db, some file =>
    match applyReportCall surveyStore db (.ok ()) (surveyReport 0 db.info.statusDigest) with
    | .ok applied => applied.file.getD file != file
    | .error _ => false
  | _, _ => false

theorem exists_surveyDelivery : ∃ start : OpenedStore surveyStore, start.context = [] ∧
    ∃ applied, applyReportCall surveyStore start.live.db (.ok ())
      (surveyReport 0 start.live.db.info.statusDigest) = .ok applied ∧
      applied.file.getD start.live.file ≠ start.live.file := by
  obtain ⟨start, isContext, isStorage⟩ := exists_openedStore surveyStore
    (by decide +kernel : returned (openStatus surveyStore.systemId ⟨none, none⟩ surveyClock
      []).2 = true)
  have replaces : replacesFile (openStatus surveyStore.systemId ⟨none, none⟩ surveyClock []).1 =
      true := by
    decide +kernel
  rw [isStorage, replacesFile] at replaces
  refine ⟨start, isContext, ?_⟩
  dsimp only at replaces
  split at replaces
  · rename_i applied isApplied
    exact ⟨applied, isApplied, bne_iff_ne.mp replaces⟩
  · exact nomatch replaces

theorem firstDelivery_surveyReport {start : OpenedStore surveyStore} {applied : Applied}
    {report : StatusReport}
    (isApplied : applyReportCall surveyStore start.live.db (.ok ()) report = .ok applied) :
    FirstDelivery surveyStore (runStatus surveyStore start.live [])
      (.applyReport (.ok ()) report)
      ⟨report.operationId, report.raw, report.expectedRevision, report.expectedStatusDigest⟩ := by
  refine ⟨rfl, ⟨applied, isApplied⟩, ?_⟩
  obtain ⟨⟨generatedAt, statusDigest, revisionDigest, isDb⟩, -⟩ := start.exists_initialDb
  rw [runStatus, List.foldl_nil, isDb]
  rfl

/-- A report that was just applied is refused when it is sent again. -/
theorem not_replayed_surveyReport : ∃ (start : OpenedStore surveyStore) (report : StatusReport),
    let call := StatusCall.applyReport (.ok ()) report
    (∃ applied, call.apply surveyStore start.live = .ok applied) ∧
      call.apply surveyStore (runStatus surveyStore start.live [call]) =
        .error (stateError (py "stale status CAS")) := by
  obtain ⟨start, -, applied, isApplied, -⟩ := exists_surveyDelivery
  have delivery := firstDelivery_surveyReport isApplied
  exact ⟨start, _, ⟨applied, isApplied⟩,
    (delivery.delivered []).refused delivery.applies delivery.isOperation surveyClock⟩

theorem status_redelivery_survey : ∃ (start : OpenedStore surveyStore) (call : StatusCall),
    stepStatus surveyStore (runStatus surveyStore start.live [call])
      (call.redelivered (.ok ()) surveyClock) = runStatus surveyStore start.live [call] := by
  obtain ⟨start, -, applied, isApplied, -⟩ := exists_surveyDelivery
  exact ⟨start, _, ((status_redelivery surveyStore start [] [] _ _
    (firstDelivery_surveyReport isApplied)).1 surveyClock).2⟩

end SwarmStatus

end CyberLion
