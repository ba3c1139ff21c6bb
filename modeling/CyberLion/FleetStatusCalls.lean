import CyberLion.FleetStatusSourceJournal

/-!
# The operations of the fleet status store

`enterprise/fleet_status_state.py`: the closure of a mission, and the write operations of
`FleetStatusStore` as one type of calls.
-/

namespace CyberLion

namespace FleetStatus

open PyLib

/-! ### Closure -/

def terminalMissions : List PyStr :=
  [py "DONE", py "FAILED", py "TERMINATED"]

/-- `TERMINAL_AUTHORITY`, `TERMINAL_EFFECT` and `TERMINAL_RECONCILIATION`, in the order in which
`close_mission` asks for them. -/
def terminalStates : List (ProjectionKind × List PyStr) :=
  [(.authority, [py "NONE", py "REVOKED", py "EXPIRED"]),
    (.effect, [py "NONE", py "APPLIED", py "FAILED_NO_EFFECT"]),
    (.reconciliation, [py "NOT_REQUIRED", py "RESOLVED"])]

def checkTerminal (missionId : PyStr) (store : StatusStore) : Except PyError Unit :=
  match store.missionOf missionId with
  | none => .error (stateError (py "terminal mission required"))
  | some mission => do
    raiseIf (mission.status ∉ terminalMissions) (stateError (py "terminal mission required"))
    raiseIf (mission.status = py "DONE" ∧
        (store.verificationOf missionId).map VerificationRow.verificationState ≠
          some (py "PASS"))
      (stateError (py "verification evidence incomplete"))

/-- Whether the newest decision of some dimension of the mission is a conflict. -/
def hasActiveConflict (missionId : PyStr) : List DecisionRow → Bool
  | [] => false
  | row :: rows =>
    (row.missionId = some missionId && row.decisionType = .conflict &&
      rows.all fun later => later.missionId ≠ some missionId || later.dimension ≠ row.dimension)
    || hasActiveConflict missionId rows

def checkProjection (missionId : PyStr) (store : StatusStore)
    (terminal : ProjectionKind × List PyStr) : Except PyError Unit :=
  let incomplete := stateError (ProcessIR.toText projectionKinds terminal.1 ++
    py " evidence incomplete")
  match store.projectionOf missionId terminal.1 with
  | none => .error incomplete
  | some row => raiseIf (row.state ∉ terminal.2) incomplete

def StatusStore.lastReceiptOf (store : StatusStore) (missionId : PyStr) : Option ReceiptRow :=
  (store.receipts.filter fun row => row.missionId = missionId).getLast?

/-- The checks of `close_mission` inside its transaction give the last receipt. -/
def checkClosure (missionId : PyStr) (store : StatusStore) : Except PyError ReceiptRow := do
  bindText missionId
  checkTerminal missionId store
  raiseIf (hasActiveConflict missionId store.decisions = true)
    (stateError (py "active source conflict prevents closure"))
  terminalStates.forM (checkProjection missionId store)
  raiseIf (store.projectionOf missionId .sandbox = none)
    (stateError (py "sandbox evidence incomplete"))
  raiseIf (∃ row ∈ store.leases, row.missionId = missionId ∧ row.state.isHeld = true)
    (stateError (py "active write lease prevents closure"))
  match store.lastReceiptOf missionId with
  | none => .error (stateError (py "valid receipt chain evidence required"))
  | some receipt => return receipt

/-- `UPDATE fleet_mission SET phase='CLOSE',closure_state='CLOSED',observed_at=?`. -/
def MissionRow.closed (observedAt : PyStr) (row : MissionRow) : MissionRow :=
  { row with phase := py "CLOSE", closureState := py "CLOSED", observedAt }

def closeMission (missionId : PyStr) (clock : Moment) (store : StatusStore) :
    Except PyError StatusStore := do
  let observedAt ← now clock
  let _ ← verifyEventChain store
  let _ ← verifyReceiptChain store
  let _ ← verifySourceChains store
  verifySourceDecisions store
  let receipt ← checkClosure missionId store
  appendEvent .missionClosed (some missionId)
    (.obj [(py "last_receipt_id", .str receipt.receiptId)]) observedAt
    { store with
      missions := updateWhere (fun row => row.missionId = missionId) (MissionRow.closed observedAt)
        store.missions }

/-! ### Calls -/

/-- The write operations of `FleetStatusStore`.  A verification comes with what the trusted source
resolves its identifier to. -/
inductive StoreCall
  | registerIdentity (identity : FleetStatusIdentity)
  | setMissionState (input : MissionStateInput)
  | bindRuntime (missionId runtimeId evidenceRef : PyStr)
  | heartbeat (input : HeartbeatInput)
  | projectObservedState (input : ObservedInput)
  | projectVerification (verificationId : PyStr)
      (resolved : Except PyError TrustedVerificationEvidence)
  | markVerifiedDone (input : DoneInput)
  | recordLease (input : LeaseInput)
  | appendReceipt (missionId receiptId sourceRef : PyStr)
  | closeMission (missionId : PyStr)
  | recordSourceDecisions (facts : List ReconciledStatusFact) (conflicts : List SourceConflict)
      (missing : List MissingStatusSource)
  | ingestSourceRead (read : StatusSourceRead)

def StoreCall.work (pins : VerificationTrustPins) (clock : Moment) (store : StatusStore) :
    StoreCall → Except PyError StatusStore
  | registerIdentity identity => FleetStatus.registerIdentity identity clock store
  | setMissionState input => FleetStatus.setMissionState input clock store
  | bindRuntime missionId runtimeId evidenceRef =>
    FleetStatus.bindRuntime missionId runtimeId evidenceRef clock store
  | heartbeat input => FleetStatus.heartbeat input clock store
  | projectObservedState input => FleetStatus.projectObservedState input clock store
  | projectVerification verificationId resolved =>
    FleetStatus.projectVerification pins verificationId resolved clock store
  | markVerifiedDone input => FleetStatus.markVerifiedDone input clock store
  | recordLease input => FleetStatus.recordLease input clock store
  | appendReceipt missionId receiptId sourceRef => do
    let (after, _) ← FleetStatus.appendReceipt missionId receiptId sourceRef clock store
    return after
  | closeMission missionId => FleetStatus.closeMission missionId clock store
  | recordSourceDecisions facts conflicts missing =>
    FleetStatus.recordSourceDecisions facts conflicts missing clock store
  | ingestSourceRead read => do
    let (after, _) ← ingestWork read clock store
    return after

/-- What a caller sees: `ingest_source_read` validates its checkpoint after the commit. -/
def StoreCall.perform (pins : VerificationTrustPins) (clock : Moment) (call : StoreCall)
    (store : StatusStore) : StatusStore × Except PyError Unit :=
  match call with
  | ingestSourceRead read =>
    let (after, checkpoint) := FleetStatus.ingestSourceRead read clock store
    (after, checkpoint.map fun _ => ())
  | other =>
    match other.work pins clock store with
    | .ok after => (after, .ok ())
    | .error error => (store, .error error)

abbrev TimedCall := StoreCall × Moment

def stepCall (pins : VerificationTrustPins) (store : StatusStore) (call : TimedCall) :
    StatusStore :=
  (call.1.perform pins call.2 store).1

def runCalls (pins : VerificationTrustPins) (calls : List TimedCall) (store : StatusStore) :
    StatusStore :=
  calls.foldl (stepCall pins) store

theorem stepCall_cases (pins : VerificationTrustPins) (store : StatusStore) (call : TimedCall) :
    call.1.work pins call.2 store = .ok (stepCall pins store call) ∨
      stepCall pins store call = store := by
  obtain ⟨call, clock⟩ := call
  cases call with
  | ingestSourceRead read =>
    simp only [stepCall, StoreCall.perform, FleetStatus.ingestSourceRead, StoreCall.work]
    cases worked : ingestWork read clock store with
    | error error => exact .inr rfl
    | ok result => exact .inl rfl
  | _ =>
    simp only [stepCall, StoreCall.perform]
    split
    · rename_i after worked
      exact .inl worked
    · exact .inr rfl

end FleetStatus

end CyberLion
