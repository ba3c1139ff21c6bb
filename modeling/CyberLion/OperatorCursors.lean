import CyberLion.OperatorMessages
import CyberLion.ReadThenWrite

/-!
# Cursors of consumers

`acknowledge_events` reads the cursor of a consumer, and refuses to move it back, before the
transaction that moves it.  So a cursor goes back exactly when, between the two, another call has
committed a later one.
-/

namespace CyberLion

namespace OperatorControl

open PyLib

/-- A row of `operator_consumer_cursors`. -/
structure CursorRow where
  consumerId : PyStr
  missionId : PyStr
  eventId : Int
  updatedAt : PyStr

/-- The arguments of `acknowledge_events`, with what `now_fn` does. -/
structure Acknowledgement where
  consumerId : PyStr
  missionId : PyStr
  eventId : Int
  stamp : Except PyError PyStr

def CursorRow.isOf (consumerId missionId : PyStr) (row : CursorRow) : Bool :=
  row.consumerId = consumerId && row.missionId = missionId

def storedCursor (rows : List CursorRow) (consumerId missionId : PyStr) : Option Int :=
  (rows.find? (CursorRow.isOf consumerId missionId)).map CursorRow.eventId

namespace Acknowledgement

/-- The check against the row that is read. -/
def Passes (call : Acknowledgement) (rows : List CursorRow) : Prop :=
  ∀ prior ∈ storedCursor rows call.consumerId call.missionId, prior ≤ call.eventId

instance (call : Acknowledgement) (rows : List CursorRow) : Decidable (call.Passes rows) :=
  inferInstanceAs (Decidable (∀ prior ∈ storedCursor rows _ _, _))

def look (call : Acknowledgement) (rows : List CursorRow) : Except PyError (Option Unit) := do
  raiseIf (call.consumerId = [] ∨ call.eventId < 0) ⟨.valueError, py "consumer cursor"⟩
  bindTexts [call.consumerId, call.missionId]
  raiseIf (¬ call.Passes rows) ⟨.valueError, py "event cursor regression"⟩
  return some ()

/-- `INSERT ... ON CONFLICT(consumer_id,mission_id) DO UPDATE SET ...`. -/
def upsert (call : Acknowledgement) (stamp : PyStr) (rows : List CursorRow) : List CursorRow :=
  let isOf := CursorRow.isOf call.consumerId call.missionId
  if rows.any isOf then
    updateWhere isOf (fun row => { row with eventId := call.eventId, updatedAt := stamp }) rows
  else rows ++ [⟨call.consumerId, call.missionId, call.eventId, stamp⟩]

def write (call : Acknowledgement) (rows : List CursorRow) : Except PyError (List CursorRow) := do
  let stamp ← call.stamp
  bindTexts [call.consumerId, call.missionId, stamp]
  raiseIf (9223372036854775807 < call.eventId) columnOverflow
  return call.upsert stamp rows

end Acknowledgement

def acknowledgeEvents : ReadThenWrite Acknowledgement (List CursorRow) Unit where
  look := Acknowledgement.look
  write := fun call _ => call.write

/-- Every cursor that is stored before is stored after, and is not smaller. -/
def NeverRegresses (before after : List CursorRow) : Prop :=
  ∀ consumerId missionId, ∀ old ∈ storedCursor before consumerId missionId,
    ∃ new ∈ storedCursor after consumerId missionId, old ≤ new

variable {call : Acknowledgement} {rows written : List CursorRow}

theorem neverRegresses_refl (rows : List CursorRow) : NeverRegresses rows rows :=
  fun _ _ old stored => ⟨old, stored, le_refl old⟩

theorem NeverRegresses.trans (first second third : List CursorRow)
    (earlier : NeverRegresses first second) (later : NeverRegresses second third) :
    NeverRegresses first third := by
  intro consumerId missionId old stored
  obtain ⟨middle, isMiddle, grown⟩ := earlier consumerId missionId old stored
  obtain ⟨new, isNew, grownAgain⟩ := later consumerId missionId middle isMiddle
  exact ⟨new, isNew, grown.trans grownAgain⟩

theorem storedCursor_upsert_self (stamp : PyStr) :
    storedCursor (call.upsert stamp rows) call.consumerId call.missionId = some call.eventId := by
  rw [storedCursor, Acknowledgement.upsert]
  split
  · rename_i found
    rw [find?_updateWhere]
    case kept => exact fun _ => rfl
    obtain ⟨row, member, isOf⟩ := List.any_eq_true.mp found
    cases shape : rows.find? (CursorRow.isOf call.consumerId call.missionId) with
    | none => exact absurd isOf (List.find?_eq_none.mp shape row member)
    | some row => simp [List.find?_some shape]
  · rename_i absent
    have none : rows.find? (CursorRow.isOf call.consumerId call.missionId) = none := by
      rw [List.find?_eq_none]
      intro row member isOf
      exact absent (List.any_eq_true.mpr ⟨row, member, isOf⟩)
    simp [List.find?_append, none, CursorRow.isOf]

theorem storedCursor_upsert_of_ne {consumerId missionId : PyStr} (stamp : PyStr)
    (other : ¬ (call.consumerId = consumerId ∧ call.missionId = missionId)) :
    storedCursor (call.upsert stamp rows) consumerId missionId =
      storedCursor rows consumerId missionId := by
  rw [storedCursor, storedCursor, Acknowledgement.upsert]
  split
  · rw [find?_updateWhere]
    case kept => exact fun _ => rfl
    cases shape : rows.find? (CursorRow.isOf consumerId missionId) with
    | none => rfl
    | some row =>
      have isOf := List.find?_some shape
      simp only [CursorRow.isOf, Bool.and_eq_true, decide_eq_true_eq] at isOf
      have notCall : CursorRow.isOf call.consumerId call.missionId row = false := by
        by_contra isCall
        simp only [Bool.not_eq_false, CursorRow.isOf, Bool.and_eq_true, decide_eq_true_eq] at isCall
        exact other ⟨isCall.1.symm.trans isOf.1, isCall.2.symm.trans isOf.2⟩
      simp [notCall]
  · have notNew : CursorRow.isOf consumerId missionId
        ⟨call.consumerId, call.missionId, call.eventId, stamp⟩ = false := by
      simpa [CursorRow.isOf] using other
    simp [List.find?_append, notNew]

theorem exists_upsert (wrote : call.write rows = .ok written) :
    ∃ stamp, written = call.upsert stamp rows := by
  simp only [Acknowledgement.write, bind_eq_ok, pure_eq_ok] at wrote
  obtain ⟨stamp, -, _, -, _, -, rfl⟩ := wrote
  exact ⟨stamp, rfl⟩

theorem neverRegresses_write_iff (wrote : call.write rows = .ok written) :
    NeverRegresses rows written ↔ call.Passes rows := by
  obtain ⟨stamp, rfl⟩ := exists_upsert wrote
  constructor
  · intro kept prior stored
    obtain ⟨new, isNew, grown⟩ := kept call.consumerId call.missionId prior stored
    rw [storedCursor_upsert_self] at isNew
    obtain rfl := Option.mem_some_iff.mp isNew
    exact grown
  · intro passes consumerId missionId old stored
    by_cases same : call.consumerId = consumerId ∧ call.missionId = missionId
    · obtain ⟨rfl, rfl⟩ := same
      exact ⟨call.eventId, storedCursor_upsert_self stamp, passes old stored⟩
    · exact ⟨old, by rwa [storedCursor_upsert_of_ne stamp same], le_refl old⟩

open CallState in
/-- In a run in which the check still passes when a call writes, no cursor goes back.  In any run,
exactly the commits of such calls keep every cursor, and a commit leaves the cursor of its call. -/
theorem acknowledgeEvents_neverRegresses
    {start state : CallState Acknowledgement (List CursorRow) Unit} (quiet : start.Quiet) :
    (Run acknowledgeEvents (fun call _ rows => call.Passes rows) start state →
      NeverRegresses start.committed state.committed) ∧
    (Run acknowledgeEvents (fun _ _ _ => True) start state → ∀ event,
      (NeverRegresses state.committed (state.step acknowledgeEvents event).committed ↔
        ∀ conn call, event = .commit conn → state.phase conn = .wrote call () →
          call.Passes state.committed) ∧
      ∀ conn call, event = .commit conn → state.phase conn = .wrote call () →
        storedCursor (state.step acknowledgeEvents event).committed call.consumerId
          call.missionId = some call.eventId) := by
  constructor
  · intro run
    have all := run.leads (fun _ => True) NeverRegresses neverRegresses_refl
      NeverRegresses.trans (fun call view rows written _ passes wrote =>
        ⟨trivial, (neverRegresses_write_iff wrote).mpr passes⟩) quiet.orderly trivial
    exact all.2
  · intro run event
    have orderly := run.orderly quiet
    refine ⟨⟨?_, fun passes => ?_⟩, ?_⟩
    · rintro kept conn call rfl wrote
      exact (neverRegresses_write_iff (orderly.write_commit wrote)).mp kept
    · obtain ⟨-, same | ⟨conn, call, view, isCommit, wrote, -, written⟩⟩ :=
        orderly.step event fun _ _ _ _ _ _ _ _ => trivial
      · rw [same]
        exact neverRegresses_refl _
      · exact (neverRegresses_write_iff written).mpr (passes conn call isCommit wrote)
    · rintro conn call rfl wrote
      obtain ⟨stamp, moved⟩ := exists_upsert (orderly.write_commit wrote)
      rw [moved]
      exact storedCursor_upsert_self stamp

theorem acknowledgeEvents_neverRegresses_alone :
    let call : Acknowledgement := ⟨py "consumer", py "mission", 7, .ok (py "now")⟩
    let start : CallState Acknowledgement (List CursorRow) Unit := ⟨[], none, fun _ => .idle⟩
    let state := (start.step acknowledgeEvents (.look 0 call)).step acknowledgeEvents (.write 0)
    NeverRegresses start.committed (state.step acknowledgeEvents (.commit 0)).committed ∧
      storedCursor (state.step acknowledgeEvents (.commit 0)).committed (py "consumer")
        (py "mission") = some 7 := by
  intro call start state
  have quiet : start.Quiet := ⟨rfl, fun _ => rfl⟩
  refine ⟨(acknowledgeEvents_neverRegresses quiet).1 ?_,
    ((acknowledgeEvents_neverRegresses quiet).2
      (CallState.Run.events start [.look 0 call, .write 0]) (.commit 0)).2 0 call rfl (by rfl)⟩
  refine .step (.step (.step .refl _ ?_) _ ?_) _ ?_
  · rintro _ _ _ _ ⟨⟩
  · rintro _ written _ _ ⟨⟩ looked - -
    obtain ⟨rfl, -⟩ := CallPhase.looked.inj
      ((show (start.step acknowledgeEvents (.look 0 call)).phase 0 = .looked call () by
        rfl).symm.trans looked)
    decide
  · rintro _ _ _ _ ⟨⟩

/-- The first consumer has read before the second commits 10, and then commits 7. -/
theorem acknowledgeEvents_regresses : ∃ start state : CallState Acknowledgement (List CursorRow) Unit,
    start.Quiet ∧ CallState.Run acknowledgeEvents (fun _ _ _ => True) start state ∧
      ¬ NeverRegresses state.committed
        (state.step acknowledgeEvents (.commit 0)).committed := by
  let call (eventId : Int) : Acknowledgement :=
    ⟨py "consumer", py "mission", eventId, .ok (py "2026-01-01T00:00:00+00:00")⟩
  let start : CallState Acknowledgement (List CursorRow) Unit := ⟨[], none, fun _ => .idle⟩
  let events : List (CallEvent Acknowledgement) :=
    [.look 0 (call 7), .look 1 (call 10), .write 1, .commit 1, .write 0]
  refine ⟨start, events.foldl (CallState.step acknowledgeEvents) start, ⟨rfl, fun _ => rfl⟩, ?_, ?_⟩
  · exact CallState.Run.events _ _
  · intro kept
    obtain ⟨new, isNew, grown⟩ := kept (py "consumer") (py "mission") 10 (by decide +kernel)
    have isSeven : storedCursor ((events.foldl (CallState.step acknowledgeEvents) start).step
        acknowledgeEvents (.commit 0)).committed (py "consumer") (py "mission") = some 7 := by
      decide +kernel
    rw [isSeven] at isNew
    obtain rfl := Option.mem_some_iff.mp isNew
    contradiction

end OperatorControl

end CyberLion
