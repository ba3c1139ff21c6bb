import CyberLion.SchedulerEffects
import Mathlib.Data.Prod.Lex

/-!
# Assignments that workers are offered

`pending_local_assignments` offers the assignments that a claim would get, in the order of their
creation.  A claim moves its assignment out of `READY`, so between two claims of one assignment
some step has made it ready again.
-/

namespace CyberLion

namespace GlobalScheduler

open PyLib OperatorControl

/-- The order of `ORDER BY created_at,assignment_id`. -/
def isCreatedBefore (row other : AssignmentRow) : Prop :=
  toLex (row.createdAt, row.assignmentId) ≤ toLex (other.createdAt, other.assignmentId)

instance : DecidableRel isCreatedBefore :=
  fun row other => inferInstanceAs (Decidable
    (toLex (row.createdAt, row.assignmentId) ≤ toLex (other.createdAt, other.assignmentId)))

instance : Std.Total isCreatedBefore where
  total row _ := le_total (toLex (row.createdAt, row.assignmentId)) (toLex _)

instance : IsTrans AssignmentRow isCreatedBefore where
  trans _ _ _ first second := le_trans first second

/-- The condition of the two queries. -/
def isReadyOf (missionId : Option PyStr) (row : AssignmentRow) : Bool :=
  row.state = .ready && (!isSet missionId || missionId = some row.missionId)

def readyAssignments (db : OperatorDb) (missionId : Option PyStr) : List AssignmentRow :=
  (db.assignments.filter (isReadyOf missionId)).insertionSort isCreatedBefore

def isEligible (db : OperatorDb) (row : AssignmentRow) : Bool :=
  (assignmentClaimEligibility db row).isOk

/-- The loop of `pending_local_assignments`. -/
def advertise (db : OperatorDb) (limit : Int) (allowed : List AssignmentRow) :
    List AssignmentRow → List AssignmentRow
  | [] => allowed
  | row :: rows =>
    let allowed := if isEligible db row then allowed ++ [row] else allowed
    if limit ≤ allowed.length then allowed else advertise db limit allowed rows

def pendingLocalAssignments (db : OperatorDb) (missionId : Option PyStr) (limit : Int) :
    Except PyError (List AssignmentRow) := do
  raiseIf (¬ (1 ≤ limit ∧ limit ≤ 64)) (valueError (py "assignment limit"))
  return advertise db limit [] (readyAssignments db missionId)

/-- The claim of a row under its own material identity succeeds. -/
def isClaimable (db : OperatorDb) (leaseSeconds : Int) (inputs : CallInputs)
    (row : AssignmentRow) : Bool :=
  (claimAssignment db row.assignmentId (some row.materialDroneId) leaseSeconds inputs).isOk

variable {db : OperatorDb} {leaseSeconds : Int} {inputs : CallInputs}

theorem advertise_eq_take (limit : Int) (rows : List AssignmentRow) {allowed : List AssignmentRow}
    (room : allowed.length < limit) :
    advertise db limit allowed rows =
      allowed ++ (rows.filter (isEligible db)).take (limit - allowed.length).toNat := by
  induction rows generalizing allowed with
  | nil => simp [advertise]
  | cons row rows ih =>
    rw [advertise]
    by_cases eligible : isEligible db row = true
    · simp only [eligible, if_true, List.filter_cons_of_pos]
      have left : (limit - allowed.length).toNat =
          (limit - (allowed ++ [row]).length).toNat + 1 := by
        simp only [List.length_append, List.length_singleton]
        omega
      split
      · rename_i full
        have none : (limit - (allowed ++ [row]).length).toNat = 0 := by omega
        rw [left, none, List.take_succ_cons, List.take_zero]
      · rename_i more
        rw [ih (by omega), left, List.take_succ_cons, List.append_assoc]
        rfl
    · rw [List.filter_cons_of_neg eligible, if_neg eligible, if_neg (by omega), ih room]

theorem mem_readyAssignments {missionId : Option PyStr} {row : AssignmentRow} :
    row ∈ readyAssignments db missionId ↔
      row ∈ db.assignments ∧ row.state = .ready ∧
        (isSet missionId = true → missionId = some row.missionId) := by
  rw [readyAssignments, (List.perm_insertionSort _ _).mem_iff, List.mem_filter]
  cases given : isSet missionId <;> simp [isReadyOf, given]

theorem countP_isNamed (unique : (db.assignments.map AssignmentRow.assignmentId).Nodup)
    {row : AssignmentRow} (member : row ∈ db.assignments) (ready : row.state = .ready) :
    db.assignments.countP (isNamed row.assignmentId .ready) = 1 := by
  have counted : db.assignments.countP (isNamed row.assignmentId .ready) =
      (db.assignments.map AssignmentRow.assignmentId).count row.assignmentId := by
    rw [List.count, List.countP_map]
    apply List.countP_congr
    intro other isOther
    rw [isNamed_eq_true, Function.comp_apply, beq_iff_eq]
    constructor
    · exact And.left
    · intro same
      rw [eq_of_assignmentId unique isOther member same]
      exact ⟨rfl, ready⟩
  rw [counted, List.count_eq_one_of_mem unique (List.mem_map_of_mem member)]

theorem isClaimable_eq_isEligible
    (unique : (db.assignments.map AssignmentRow.assignmentId).Nodup)
    (clock : (assignmentLeaseDeadline (inputs.now 0) leaseSeconds).isOk = true)
    {row : AssignmentRow} (member : row ∈ db.assignments) (ready : row.state = .ready) :
    isClaimable db leaseSeconds inputs row = isEligible db row := by
  have found : findAssignment db row.assignmentId = some row := find?_of_nodup_map unique member
  rw [isClaimable, claimAssignment, found, isEligible]
  simp only [claimFound, ne_eq, not_true_eq_false, and_false, raiseIf, if_false, ok_bind]
  cases assignmentClaimEligibility db row with
  | error reason => rfl
  | ok _ =>
    cases expires : assignmentLeaseDeadline (inputs.now 0) leaseSeconds with
    | error error => simp [expires, Except.isOk, Except.toBool] at clock
    | ok deadline => simp [countP_isNamed unique member ready, Except.isOk, Except.toBool]

/-! ### Claims one after another -/

theorem findAssignment_claimed {changed : OperatorDb} {assignmentId : PyStr}
    {expected : Option PyStr} {claimed : AssignmentRow}
    (returned : claimAssignment db assignmentId expected leaseSeconds inputs =
      .ok (changed, claimed)) :
    (∃ row, findAssignment db assignmentId = some row ∧ row.state = .ready) ∧
      ∀ row, findAssignment changed assignmentId = some row → row.state ≠ .ready := by
  obtain ⟨row, found, isClaimed⟩ := claimed_of_claim returned
  refine ⟨⟨row, found, isClaimed.ready⟩, ?_⟩
  obtain ⟨claimedAt, leaseExpiresAt, rfl⟩ := isClaimed.changed
  obtain ⟨-, rfl⟩ := mem_of_findAssignment found
  intro after isAfter ready
  obtain ⟨member, named⟩ := mem_of_findAssignment isAfter
  obtain ⟨old, -, rfl⟩ := mem_updateWhere.mp member
  split at ready
  · simp at ready
  · rename_i notNamed
    rw [if_neg notNamed] at named
    exact notNamed (isNamed_eq_true.mpr ⟨named, ready⟩)

def IsReady (db : OperatorDb) (assignmentId : PyStr) : Prop :=
  ∃ row, findAssignment db assignmentId = some row ∧ row.state = .ready

theorem exists_ready_step {later : OperatorDb} {assignmentId : PyStr} {calls : List SchedulerCall}
    (before : ¬ IsReady db assignmentId)
    (ran : calls.foldl SchedulerCall.execute db = later) (after : IsReady later assignmentId) :
    ∃ earlier call rest, calls = earlier ++ call :: rest ∧
      ¬ IsReady (earlier.foldl SchedulerCall.execute db) assignmentId ∧
      IsReady ((earlier ++ [call]).foldl SchedulerCall.execute db) assignmentId := by
  induction calls generalizing db with
  | nil =>
    subst ran
    exact absurd after before
  | cons call calls ih =>
    by_cases ready : IsReady (call.execute db) assignmentId
    · exact ⟨[], call, calls, rfl, before, ready⟩
    · obtain ⟨earlier, next, rest, rfl, notReady, isReady⟩ := ih ready ran
      exact ⟨call :: earlier, next, rest, rfl, notReady, isReady⟩

/-- What is offered is what a claim would get, oldest first, and between two claims of one
assignment a call has made it ready again. -/
theorem pendingLocalAssignments_eq_claimable
    (unique : (db.assignments.map AssignmentRow.assignmentId).Nodup)
    (clock : (assignmentLeaseDeadline (inputs.now 0) leaseSeconds).isOk = true)
    (missionId : Option PyStr) (limit : Int) :
    pendingLocalAssignments db missionId limit = (do
      raiseIf (¬ (1 ≤ limit ∧ limit ≤ 64)) (valueError (py "assignment limit"))
      return ((readyAssignments db missionId).filter
        (isClaimable db leaseSeconds inputs)).take limit.toNat) ∧
    (readyAssignments db missionId).Pairwise isCreatedBefore ∧
    (∀ row, row ∈ readyAssignments db missionId ↔ row ∈ db.assignments ∧ row.state = .ready ∧
      (isSet missionId = true → missionId = some row.missionId)) ∧
    ∀ assignmentId first second firstSeconds secondSeconds firstInputs secondInputs changed last
      firstRow secondRow calls,
      claimAssignment db assignmentId first firstSeconds firstInputs = .ok (changed, firstRow) →
      claimAssignment (calls.foldl SchedulerCall.execute changed) assignmentId second
        secondSeconds secondInputs = .ok (last, secondRow) →
      ∃ earlier call rest, calls = earlier ++ call :: rest ∧
        ¬ IsReady (earlier.foldl SchedulerCall.execute changed) assignmentId ∧
        IsReady ((earlier ++ [call]).foldl SchedulerCall.execute changed) assignmentId := by
  refine ⟨?_, List.pairwise_insertionSort _ _, fun row => mem_readyAssignments, ?_⟩
  · rw [pendingLocalAssignments]
    by_cases isLimit : 1 ≤ limit ∧ limit ≤ 64
    · have same : (readyAssignments db missionId).filter (isClaimable db leaseSeconds inputs) =
          (readyAssignments db missionId).filter (isEligible db) := by
        apply List.filter_congr
        intro row member
        obtain ⟨inTable, ready, -⟩ := mem_readyAssignments.mp member
        exact isClaimable_eq_isEligible unique clock inTable ready
      rw [same, advertise_eq_take limit _ (by simp; omega)]
      simp
    · simp [raiseIf, isLimit]
  · intro assignmentId first second firstSeconds secondSeconds firstInputs secondInputs changed
      last firstRow secondRow calls claimed again
    obtain ⟨-, notReady⟩ := findAssignment_claimed claimed
    obtain ⟨ready, -⟩ := findAssignment_claimed again
    refine exists_ready_step ?_ rfl ready
    rintro ⟨row, found, isReady⟩
    exact notReady row found isReady

/-- Two missions have a driver; one of the three ready assignments is of an older generation. -/
def advertisingDb : OperatorDb :=
  let driver (missionId : PyStr) : DriverRow :=
    ⟨missionId, 2, py "ACTIVE", [], none, none, none, none, none, none, none, none, []⟩
  let ready (assignmentId missionId : PyStr) (generation : Int) (createdAt : PyStr) :
      AssignmentRow :=
    ⟨assignmentId, missionId, py "phase", py "drone", py "worker", [], none, .ready, generation, 0,
      0, 0, autonomousOwner, createdAt, none, none, none⟩
  { OperatorDb.empty with
    drivers := [driver (py "m"), driver (py "n")]
    assignments := [ready (py "a") (py "m") 2 (py "2026-01-02"),
      ready (py "b") (py "m") 1 (py "2026-01-01"), ready (py "c") (py "n") 2 (py "2026-01-01")] }

theorem pendingLocalAssignments_advertisingDb :
    ∃ rows, pendingLocalAssignments advertisingDb none 2 = .ok rows ∧
      rows.map AssignmentRow.assignmentId = [py "c", py "a"] := by
  have clock : (assignmentLeaseDeadline (py "2026-01-03T00:00:00+00:00") 120).isOk = true := by
    decide +kernel
  have offered := (@pendingLocalAssignments_eq_claimable advertisingDb 120
    ⟨fun _ => py "2026-01-03T00:00:00+00:00", fun _ => py "x"⟩ (by decide +kernel) clock none 2).1
  exact ⟨_, offered, by decide +kernel⟩

end GlobalScheduler

end CyberLion
