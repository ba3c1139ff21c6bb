import CyberLion.SchedulerReceipts

/-!
# Revoked capabilities

A revocation moves the control epoch on, and the assignments keep the old one: no
claim finds the epoch that it needs.  Creation and release look at the revocations;
the calls that give a row the current epoch, or copy it, do not.
-/

namespace CyberLion

namespace GlobalScheduler

open PyLib OperatorControl

def IsRevoked (db : OperatorDb) (row : AssignmentRow) : Prop :=
  ∃ input, row.input = some input ∧ hasRevokedCapability db row.missionId input = true

/-- No assignment is ahead of its mission, and one with a revoked capability is behind. -/
structure RevocationTables (db : OperatorDb) : Prop where
  unique : (db.assignments.map AssignmentRow.assignmentId).Nodup
  epochs : ∀ row ∈ db.assignments, row.controlEpoch ≤ epochOf db row.missionId
  fenced : ∀ row ∈ db.assignments, IsRevoked db row →
    (∃ control, findControl db row.missionId = some control) ∧
      row.controlEpoch < epochOf db row.missionId

def SchedulerCall.KeepsRevocations (db : OperatorDb) (call : SchedulerCall) : Prop :=
  ∀ row ∈ db.assignments, IsRevoked db row →
    ¬ (row.state = .ready ∧ call.Rebinds row) ∧ ¬ (IsIdle row ∧ call.Reassigns row)

def ClaimsUnrevoked (db : OperatorDb) : Prop :=
  ∀ assignmentId expected leaseSeconds inputs changed claimed,
    claimAssignment db assignmentId expected leaseSeconds inputs = .ok (changed, claimed) →
    ∀ row, findAssignment db assignmentId = some row → ¬ IsRevoked db row

variable {db changed : OperatorDb} {call : SchedulerCall}

theorem RevocationTables.of_new (assignments : db.assignments = []) : RevocationTables db := by
  constructor <;> simp [assignments]

theorem RevocationTables.claimsUnrevoked (tables : RevocationTables db) : ClaimsUnrevoked db := by
  intro assignmentId expected leaseSeconds inputs changed claimed returned row found revoked
  obtain ⟨same, isFound, isClaimed⟩ := claimed_of_claim returned
  obtain rfl := Option.some.inj (isFound.symm.trans found)
  obtain ⟨⟨control, isControl⟩, behind⟩ :=
    tables.fenced _ (mem_of_findAssignment found).1 revoked
  exact absurd (epoch_of_allowed isControl isClaimed.allowed) behind.ne

theorem isRevoked_of_append {row : AssignmentRow} {revocation : CapabilityRevocationRow}
    (added : changed.capabilityRevocations = db.capabilityRevocations ++ [revocation])
    (revoked : IsRevoked changed row) : IsRevoked db row ∨ revocation.missionId = row.missionId := by
  obtain ⟨input, isInput, revoked⟩ := revoked
  unfold hasRevokedCapability at revoked
  split at revoked
  · rename_i capability isCapability
    rw [isCapabilityRevoked, added, List.any_append, Bool.or_eq_true] at revoked
    rcases revoked with old | new
    · refine .inl ⟨input, isInput, ?_⟩
      rw [hasRevokedCapability, isCapability]
      exact old
    · rw [List.any_cons, List.any_nil, Bool.or_false, Bool.and_eq_true, Bool.and_eq_true,
        decide_eq_true_eq] at new
      exact .inr new.1.1
  · exact absurd revoked (by simp)

theorem isRevoked_congr (same : changed.capabilityRevocations = db.capabilityRevocations)
    {row : AssignmentRow} : IsRevoked changed row ↔ IsRevoked db row := by
  simp only [IsRevoked, hasRevokedCapability_congr same]

/-! ### One call -/

section Step

variable (step : TableStep call db changed) (tables : RevocationTables db)
include step tables

theorem TableStep.fenced_of_revoked (keeps : call.KeepsRevocations db) {old row : AssignmentRow}
    (isOld : old ∈ db.assignments) (rowStep : RowStep call db changed old row)
    (revoked : IsRevoked db old) :
    (∃ control, findControl changed row.missionId = some control) ∧
      row.controlEpoch < epochOf changed row.missionId := by
  obtain ⟨⟨control, found⟩, behind⟩ := tables.fenced old isOld revoked
  have later : (∃ control, findControl changed old.missionId = some control) ∧
      old.controlEpoch < epochOf changed old.missionId :=
    ⟨step.controls.kept _ _ found, behind.trans_le (step.controls.grows old.missionId)⟩
  cases rowStep with
  | rebound ready rebinds => exact absurd ⟨ready, rebinds⟩ (keeps old isOld revoked).1
  | _ => exact later

theorem TableStep.revocationTables (keeps : call.KeepsRevocations db) :
    RevocationTables changed := by
  refine ⟨step.nodup_assignmentId tables.unique, step.controlEpoch_le tables.epochs, ?_⟩
  intro row member revoked
  rcases step.revocations with same | ⟨revocation, added, assignments, found, grown⟩
  · rw [isRevoked_congr same] at revoked
    rcases step.source_of_mem member with ⟨old, isOld, rowStep⟩ | isAdded
    · refine step.fenced_of_revoked tables keeps isOld rowStep ?_
      rw [IsRevoked, rowStep.input, rowStep.missionId] at revoked
      exact revoked
    · rcases isAdded.source with notRevoked | ⟨old, isOld, reassigns, idle, isOwn, sameInput⟩
      · obtain ⟨input, isInput, isRevoked⟩ := revoked
        exact absurd (isRevoked.symm.trans (notRevoked input isInput)) (by simp)
      · rw [IsRevoked, isOwn, sameInput] at revoked
        exact absurd ⟨idle, reassigns⟩ (keeps old isOld revoked).2
  · rw [assignments] at member
    rcases isRevoked_of_append added revoked with old | isOwn
    · exact step.fenced_of_revoked tables keeps member .kept old
    · rw [isOwn] at found grown
      exact ⟨found, (tables.epochs row member).trans_lt grown⟩

end Step

/-! ### Runs -/

/-- Over every run of calls that meet the condition, no claim succeeds on an assignment
with a revoked capability. -/
theorem claims_unrevoked {db : OperatorDb} (tables : RevocationTables db)
    {calls : List SchedulerCall} (keeps : EachMeets SchedulerCall.execute
      SchedulerCall.KeepsRevocations db calls) :
    ∀ first second, calls = first ++ second →
      ClaimsUnrevoked (first.foldl SchedulerCall.execute db) := by
  rintro first second rfl
  have step : ∀ db call, RevocationTables db → SchedulerCall.KeepsRevocations db call →
      RevocationTables (SchedulerCall.execute db call) := fun _ call tables keeps =>
    (tableStep_execute tables.unique call).revocationTables tables keeps
  exact (invariant_of_eachMeets step tables keeps.of_append.1).claimsUnrevoked

def revokingDb : OperatorDb :=
  { driverDb with
    grants := [⟨py "G1", primaryOperator, py "*", py "[\"REVOKE_CAPABILITY\"]", [], none, none⟩] }

def revokeCommand : SchedulerCall :=
  commandOf (py "C1") (py "REVOKE_CAPABILITY") [(py "capability", .str (py "READ"))]

def rebindCall : SchedulerCall :=
  .rebind (py "M1") autonomousOwner none (callInputs (py "R"))

/-- The capability of an assignment is revoked. -/
theorem claims_unrevoked_revoke :
    ClaimsUnrevoked ([createCall, revokeCommand].foldl SchedulerCall.execute revokingDb) := by
  refine claims_unrevoked (.of_new rfl) (fun first call second same => ?_)
    [createCall, revokeCommand] [] rfl
  have same : [createCall, revokeCommand] = first ++ call :: second := same
  intro row isRow revoked
  match first, same with
  | [], same =>
    exact absurd isRow (by simp [revokingDb, driverDb, missionDb, OperatorDb.empty])
  | [head], same =>
    obtain ⟨rfl, same⟩ := List.cons.inj same
    have none : ([createCall].foldl SchedulerCall.execute revokingDb).capabilityRevocations =
        [] := by
      decide +kernel
    obtain ⟨input, -, revoked⟩ := revoked
    unfold hasRevokedCapability at revoked
    split at revoked
    · rw [isCapabilityRevoked, none] at revoked
      exact absurd revoked (by simp)
    · exact absurd revoked (by simp)
  | head :: next :: rest, same =>
    exact absurd (List.cons.inj (List.cons.inj same).2).2 (by simp)

/-- A rebinding after the revocation makes the assignment claimable again. -/
theorem exists_revoked_claimed :
    ¬ ∀ (db : OperatorDb) (calls : List SchedulerCall), db.assignments = [] →
      ∀ first second, calls = first ++ second →
        ClaimsUnrevoked (first.foldl SchedulerCall.execute db) := by
  intro always
  let last := [createCall, revokeCommand, rebindCall].foldl SchedulerCall.execute revokingDb
  have claims := always revokingDb _ rfl [createCall, revokeCommand, rebindCall] [] rfl
  obtain ⟨returned, revoked⟩ : (claimAssignment last (py "assignment-A") none 60
      (callInputs (py "B"))).toBool = true ∧
      ((findAssignment last (py "assignment-A")).map fun row =>
        (row.input.map (hasRevokedCapability last row.missionId))) = some (some true) := by
    unfold last
    delta SchedulerCall.execute Admission.transaction createAssignment recordInternalReceipt
      createIn Admission.commit acceptCommand Admission.start Admission.complete continueCommand
      repeatCommand applyCommand applyAction OperatorCommand.payloadDigest admitCommand
      commandReceiptDigest event shortId OperatorControl.digest GlobalScheduler.digest pauseScope
      fenceScope driverFence fenceDriver recordReceipt recordContent insertRequest reassign
      reassignFound releaseControl
    rw [Sha256.sha256_eq_evalText]
    decide +kernel
  obtain ⟨row, found, isRevoked⟩ := Option.map_eq_some_iff.mp revoked
  obtain ⟨input, isInput, isRevoked⟩ := Option.map_eq_some_iff.mp isRevoked
  cases claimed : claimAssignment last (py "assignment-A") none 60 (callInputs (py "B")) with
  | error error =>
    rw [claimed] at returned
    exact absurd returned (by simp [Except.toBool])
  | ok result =>
    exact claims (py "assignment-A") none 60 (callInputs (py "B")) _ _ claimed row found
      ⟨input, isInput, isRevoked⟩

end GlobalScheduler

end CyberLion
