import CyberLion.FleetStatusContracts
import CyberLion.PersistentAuthorityState
import CyberLion.ProcessIR
import CyberLion.SqlTable

/-!
# The fleet status store

`enterprise/fleet_status_state.py`: the tables of `FleetStatusStore`, its event journal, and the
operations on identities, missions, runtimes, heartbeats, projections, verifications, leases
and receipts.  An operation that raises rolls its transaction back, so it returns no store.
-/

namespace CyberLion

namespace FleetStatus

open PyLib
open FleetCoordination (canonicalJson zeroDigest optionalText)
open ProcessIR (ofText)

/-- `class FleetStatusStateError(RuntimeError)`. -/
def stateErrorClass : ErrorClass :=
  .declared .runtimeError (py "FleetStatusStateError")

def stateError (message : PyStr) : PyError :=
  ⟨stateErrorClass, message⟩

/-! ### Tables -/

/-- A row of `fleet_identity`. -/
structure IdentityRow where
  identity : FleetStatusIdentity
  identityDigest : PyStr
  deriving DecidableEq

/-- A row of `fleet_mission`. -/
structure MissionRow where
  missionId : PyStr
  phase : PyStr
  status : PyStr
  closureState : PyStr
  currentOperation : Option PyStr
  currentBlocker : Option PyStr
  dependencyState : PyStr
  branchHead : Option PyStr
  observedAt : PyStr
  deriving DecidableEq

/-- A row of `fleet_runtime`. -/
structure RuntimeRow where
  missionId : PyStr
  runtimeId : PyStr
  evidenceRef : PyStr
  boundAt : PyStr
  deriving DecidableEq

/-- A row of `fleet_heartbeat`. -/
structure HeartbeatRow where
  missionId : PyStr
  runtimeId : PyStr
  sequence : Int
  deadlineSeconds : Int
  sourceRef : PyStr
  observedAt : PyStr
  deriving DecidableEq

/-- `PROJECTION_KINDS`. -/
inductive ProjectionKind
  | authority | sandbox | effect | reconciliation
  deriving DecidableEq

def projectionKinds : List (ProjectionKind × PyStr) :=
  [(.authority, py "authority"), (.sandbox, py "sandbox"), (.effect, py "effect"),
    (.reconciliation, py "reconciliation")]

/-- A row of `fleet_projection`. -/
structure ProjectionRow where
  missionId : PyStr
  kind : ProjectionKind
  state : PyStr
  sourceRef : PyStr
  observedAt : PyStr
  deriving DecidableEq

/-- A row of `fleet_verification`. -/
structure VerificationRow where
  missionId : PyStr
  verificationId : PyStr
  verificationState : PyStr
  pins : VerificationTrustPins
  evidenceDigest : PyStr
  sourceProvenanceRef : PyStr
  epistemicClass : PyStr
  observedAt : PyStr
  bindingDigest : PyStr
  deriving DecidableEq

inductive LeaseType
  | repository | branch | path
  deriving DecidableEq

inductive LeaseState
  | active | staleHeld | released
  deriving DecidableEq

def leaseTypes : List (LeaseType × PyStr) :=
  [(.repository, py "REPOSITORY"), (.branch, py "BRANCH"), (.path, py "PATH")]

def heldStates : List (LeaseState × PyStr) :=
  [(.active, py "ACTIVE"), (.staleHeld, py "STALE_HELD"), (.released, py "RELEASED")]

/-- `state IN ('ACTIVE','STALE_HELD')`. -/
def LeaseState.isHeld : LeaseState → Bool
  | .active | .staleHeld => true
  | .released => false

/-- A row of `fleet_lease`. -/
structure LeaseRow where
  leaseId : PyStr
  missionId : PyStr
  leaseType : LeaseType
  resource : PyStr
  state : LeaseState
  sourceRef : PyStr
  observedAt : PyStr
  deriving DecidableEq

inductive EventType
  | identityRegistered
  | missionState
  | runtimeBound
  | heartbeat
  | observed (kind : ProjectionKind)
  | verificationProjected
  | missionDone
  | leaseState
  | receiptAppended
  | missionClosed
  | sourceBatchIngested
  | sourceReconciliationDecision
  deriving DecidableEq

def EventType.text : EventType → PyStr
  | identityRegistered => py "IDENTITY_REGISTERED"
  | missionState => py "MISSION_STATE"
  | runtimeBound => py "RUNTIME_BOUND"
  | heartbeat => py "HEARTBEAT"
  | observed .authority => py "AUTHORITY_OBSERVED"
  | observed .sandbox => py "SANDBOX_OBSERVED"
  | observed .effect => py "EFFECT_OBSERVED"
  | observed .reconciliation => py "RECONCILIATION_OBSERVED"
  | verificationProjected => py "VERIFICATION_PROJECTED"
  | missionDone => py "MISSION_DONE"
  | leaseState => py "LEASE_STATE"
  | receiptAppended => py "RECEIPT_APPENDED"
  | missionClosed => py "MISSION_CLOSED"
  | sourceBatchIngested => py "SOURCE_BATCH_INGESTED"
  | sourceReconciliationDecision => py "SOURCE_RECONCILIATION_DECISION"

/-- A row of `fleet_event`.  The rows of the journals stand in the order of `seq`. -/
structure EventRow where
  eventId : PyStr
  eventType : EventType
  missionId : Option PyStr
  payloadJson : PyStr
  previousDigest : PyStr
  eventDigest : PyStr
  observedAt : PyStr
  deriving DecidableEq

/-- A row of `fleet_receipt`. -/
structure ReceiptRow where
  receiptId : PyStr
  missionId : PyStr
  sourceRef : PyStr
  previousDigest : PyStr
  receiptDigest : PyStr
  observedAt : PyStr
  deriving DecidableEq

/-- A row of `fleet_source_batch`. -/
structure BatchRow where
  sourceId : PyStr
  sourceKind : PyStr
  sourceInstanceId : PyStr
  sourceImplementationDigest : PyStr
  trustAnchorId : PyStr
  sourceIdentityDigest : PyStr
  sourceSequence : Nat
  sourceObservedAt : PyStr
  ingestedAt : PyStr
  readDigest : PyStr
  batchDigest : PyStr
  previousSourceChainDigest : PyStr
  sourceChainDigest : PyStr
  deriving DecidableEq

/-- A row of `fleet_source_observation`.  The columns that repeat the text are left out. -/
structure ObservationRow where
  batchDigest : PyStr
  observationIndex : Nat
  observationId : PyStr
  observationDigest : PyStr
  observationJson : PyStr
  deriving DecidableEq

/-- A row of `fleet_source_checkpoint`. -/
structure CheckpointRow where
  sourceId : PyStr
  sourceIdentityDigest : PyStr
  sourceKind : PyStr
  sourceInstanceId : PyStr
  sourceImplementationDigest : PyStr
  trustAnchorId : PyStr
  sourceSequence : Nat
  sourceObservedAt : PyStr
  readDigest : PyStr
  batchDigest : PyStr
  sourceChainDigest : PyStr
  deriving DecidableEq

/-- `DECISION_TYPES`. -/
inductive DecisionType
  | fact | conflict | missing
  deriving DecidableEq

/-- A row of `fleet_source_decision`. -/
structure DecisionRow where
  decisionId : PyStr
  missionId : Option PyStr
  droneId : Option PyStr
  dimension : PyStr
  decisionType : DecisionType
  decisionDigest : PyStr
  decisionJson : PyStr
  observedAt : PyStr
  deriving DecidableEq

/-- The tables, with the columns of the one row of `fleet_meta`. -/
structure StatusStore where
  registryInstanceId : PyStr
  revision : Nat
  eventHead : PyStr
  receiptHead : PyStr
  identities : List IdentityRow
  missions : List MissionRow
  runtimes : List RuntimeRow
  heartbeats : List HeartbeatRow
  projections : List ProjectionRow
  verifications : List VerificationRow
  leases : List LeaseRow
  events : List EventRow
  receipts : List ReceiptRow
  batches : List BatchRow
  observations : List ObservationRow
  checkpoints : List CheckpointRow
  decisions : List DecisionRow

/-- What `_bind_instance` makes of a new database. -/
def emptyStore (registryInstanceId : PyStr) : StatusStore :=
  ⟨registryInstanceId, 0, zeroDigest, zeroDigest, [], [], [], [], [], [], [], [], [], [], [], [], []⟩

def uniqueError (columns : PyStr) : PyError :=
  ⟨.integrityError, py "UNIQUE constraint failed: " ++ columns⟩

/-! ### The event journal -/

def now : Moment → Except PyError PyStr
  | .naive _ => .error (stateError (py "trusted clock must return timezone-aware datetime"))
  | .aware time offset => do
    let utcTime ← time.astimezoneUtc offset
    return utcTime.isoformatUtc

/-- `_event_digest`. -/
def eventDigestOf (previous : PyStr) (eventType : EventType) (missionId : Option PyStr)
    (payload : Json) (observedAt : PyStr) : Except PyError PyStr :=
  digestOf (.obj [(py "previous_digest", .str previous), (py "event_type", .str eventType.text),
    (py "mission_id", optionalText missionId), (py "payload", payload),
    (py "observed_at", .str observedAt)])

/-- `sha256(text.encode()).hexdigest()`. -/
def digestText (text : PyStr) : Except PyError PyStr := do
  let bytes ← encodeUtf8 text
  return sha256 bytes

/-- `_append_event` with the `_bump` that follows it everywhere. -/
def appendEvent (eventType : EventType) (missionId : Option PyStr) (payload : Json)
    (observedAt : PyStr) (store : StatusStore) : Except PyError StatusStore := do
  let eventDigest ← eventDigestOf store.eventHead eventType missionId payload observedAt
  let eventId ← digestText (eventDigest ++ eventType.text)
  let bytes ← canonicalJson payload
  let event : EventRow := ⟨eventId, eventType, missionId, bytes.text, store.eventHead, eventDigest,
    observedAt⟩
  let events ← insertRow (uniqueError (py "fleet_event.event_id"))
    (fun row => row.eventId = eventId || row.eventDigest = eventDigest) event store.events
  return { store with events, eventHead := eventDigest, revision := store.revision + 1 }

def verifyEvent (previous : PyStr) (event : EventRow) : Except PyError PyStr := do
  let payload ← Json.loads Json.plainHooks event.payloadJson
  let expected ← eventDigestOf previous event.eventType event.missionId payload event.observedAt
  raiseIf (event.previousDigest ≠ previous ∨ event.eventDigest ≠ expected)
    (stateError (py "event chain corruption"))
  return expected

def verifyEventChain (store : StatusStore) : Except PyError PyStr := do
  let last ← store.events.foldlM verifyEvent zeroDigest
  raiseIf (store.eventHead ≠ last) (stateError (py "event chain head mismatch"))
  return last

/-- `_receipt_digest`. -/
def receiptDigestOf (previous receiptId missionId sourceRef observedAt : PyStr) :
    Except PyError PyStr :=
  digestOf (.obj [(py "previous_digest", .str previous), (py "receipt_id", .str receiptId),
    (py "mission_id", .str missionId), (py "source_ref", .str sourceRef),
    (py "observed_at", .str observedAt)])

def verifyReceipt (previous : PyStr) (receipt : ReceiptRow) : Except PyError PyStr := do
  let expected ← receiptDigestOf previous receipt.receiptId receipt.missionId receipt.sourceRef
    receipt.observedAt
  raiseIf (receipt.previousDigest ≠ previous ∨ receipt.receiptDigest ≠ expected)
    (stateError (py "receipt chain corruption"))
  return expected

def verifyReceiptChain (store : StatusStore) : Except PyError PyStr := do
  let last ← store.receipts.foldlM verifyReceipt zeroDigest
  raiseIf (store.receiptHead ≠ last) (stateError (py "receipt chain head mismatch"))
  return last

/-! ### Rows -/

namespace StatusStore

variable (store : StatusStore)

/-- `SELECT * FROM fleet_identity WHERE mission_id=?`. -/
def identityOf (missionId : PyStr) : Option IdentityRow :=
  store.identities.find? fun row => row.identity.missionId = missionId

def missionOf (missionId : PyStr) : Option MissionRow :=
  store.missions.find? fun row => row.missionId = missionId

def runtimeOf (missionId : PyStr) : Option RuntimeRow :=
  store.runtimes.find? fun row => row.missionId = missionId

def heartbeatOf (missionId : PyStr) : Option HeartbeatRow :=
  store.heartbeats.find? fun row => row.missionId = missionId

def projectionOf (missionId : PyStr) (kind : ProjectionKind) : Option ProjectionRow :=
  store.projections.find? fun row => row.missionId = missionId && row.kind = kind

def verificationOf (missionId : PyStr) : Option VerificationRow :=
  store.verifications.find? fun row => row.missionId = missionId

end StatusStore

/-- `INSERT ... ON CONFLICT(key) DO UPDATE SET ...`. -/
def upsertRow {Row : Type} (sameKey : Row → Bool) (change : Row → Row) (row : Row)
    (rows : List Row) : List Row :=
  if rows.any sameKey then updateWhere sameKey change rows else rows ++ [row]

def knownMission (missionId message : PyStr) (store : StatusStore) :
    Except PyError IdentityRow := do
  bindText missionId
  match store.identityOf missionId with
  | some row => return row
  | none => .error (stateError message)

/-! ### Identities and missions -/

def registerIdentity (identity : FleetStatusIdentity) (clock : Moment) (store : StatusStore) :
    Except PyError StatusStore := do
  identity.validate
  let observedAt ← now clock
  let identityDigest ← identity.digest
  let identities ← insertRow (uniqueError (py "fleet_identity"))
    (fun row => row.identity.droneId = identity.droneId ||
      row.identity.executorId = identity.executorId ||
      row.identity.missionId = identity.missionId || row.identityDigest = identityDigest)
    ⟨identity, identityDigest⟩ store.identities
  appendEvent .identityRegistered (some identity.missionId)
    (.obj [(py "identity_digest", .str identityDigest)]) observedAt { store with identities }

/-- The arguments of `set_mission_state`. -/
structure MissionStateInput where
  missionId : PyStr
  phase : PyStr
  status : PyStr
  closureState : PyStr
  currentOperation : Option PyStr
  currentBlocker : Option PyStr
  dependencyState : PyStr
  branchHead : Option PyStr

/-- The row that `set_mission_state` writes. -/
def MissionStateInput.row (input : MissionStateInput) (observedAt : PyStr) : MissionRow :=
  ⟨input.missionId, input.phase, input.status, input.closureState, input.currentOperation,
    input.currentBlocker, input.dependencyState, input.branchHead, observedAt⟩

def MissionRow.bind (row : MissionRow) : Except PyError Unit :=
  forM ([row.missionId, row.phase, row.status, row.closureState, row.dependencyState] ++
    row.currentOperation.toList ++ row.currentBlocker.toList ++ row.branchHead.toList) bindText

/-- `INSERT INTO fleet_mission ... ON CONFLICT(mission_id)`: every other column is set. -/
def upsertMission (row : MissionRow) (rows : List MissionRow) : List MissionRow :=
  upsertRow (fun other => other.missionId = row.missionId) (fun _ => row) row rows

def setMissionState (input : MissionStateInput) (clock : Moment) (store : StatusStore) :
    Except PyError StatusStore := do
  raiseIf (input.status = py "DONE" ∨ input.closureState = py "CLOSED")
    (stateError (py "DONE/CLOSED require dedicated evidence-gated transition"))
  let observedAt ← now clock
  let _ ← knownMission input.missionId (py "unknown mission") store
  (input.row observedAt).bind
  appendEvent .missionState (some input.missionId)
    (.obj [(py "phase", .str input.phase), (py "status", .str input.status),
      (py "closure_state", .str input.closureState)]) observedAt
    { store with missions := upsertMission (input.row observedAt) store.missions }

/-! ### Runtimes -/

def bindRuntime (missionId runtimeId evidenceRef : PyStr) (clock : Moment) (store : StatusStore) :
    Except PyError StatusStore := do
  raiseIf (runtimeId = [] ∨ evidenceRef = []) (stateError (py "runtime binding invalid"))
  let observedAt ← now clock
  let _ ← knownMission missionId (py "unknown mission") store
  bindText runtimeId
  bindText evidenceRef
  let runtimes ← insertRow (stateError (py "runtime substitution or duplicate binding denied"))
    (fun row => row.missionId = missionId || row.runtimeId = runtimeId)
    ⟨missionId, runtimeId, evidenceRef, observedAt⟩ store.runtimes
  appendEvent .runtimeBound (some missionId)
    (.obj [(py "runtime_id", .str runtimeId), (py "evidence_ref", .str evidenceRef)]) observedAt
    { store with runtimes }

/-- The arguments of `heartbeat`. -/
structure HeartbeatInput where
  missionId : PyStr
  runtimeId : PyStr
  sequence : Int
  deadlineSeconds : Int
  sourceRef : PyStr

def checkHeartbeat (sequence : Int) (observedAt : PyStr) : Option HeartbeatRow → Except PyError Unit
  | none => .ok ()
  | some old => do
    raiseIf (sequence ≤ old.sequence) (stateError (py "heartbeat sequence rollback"))
    raiseIf (observedAt ≤ old.observedAt) (stateError (py "heartbeat time rollback"))

def heartbeat (input : HeartbeatInput) (clock : Moment) (store : StatusStore) :
    Except PyError StatusStore := do
  raiseIf (input.sequence < 1) (stateError (py "heartbeat sequence invalid"))
  raiseIf (input.deadlineSeconds ≤ 0) (stateError (py "heartbeat deadline invalid"))
  raiseIf (input.sourceRef = []) (stateError (py "heartbeat source missing"))
  let observedAt ← now clock
  bindText input.missionId
  raiseIf ((store.runtimeOf input.missionId).map RuntimeRow.runtimeId ≠ some input.runtimeId)
    (stateError (py "heartbeat runtime mismatch"))
  checkHeartbeat input.sequence observedAt (store.heartbeatOf input.missionId)
  bindInt input.sequence
  bindInt input.deadlineSeconds
  bindText input.sourceRef
  let row : HeartbeatRow := ⟨input.missionId, input.runtimeId, input.sequence,
    input.deadlineSeconds, input.sourceRef, observedAt⟩
  let heartbeats := upsertRow (fun other => other.missionId = input.missionId) (fun _ => row) row
    store.heartbeats
  appendEvent .heartbeat (some input.missionId)
    (.obj [(py "runtime_id", .str input.runtimeId), (py "sequence", .int input.sequence),
      (py "deadline_seconds", .int input.deadlineSeconds),
      (py "source_ref", .str input.sourceRef)]) observedAt { store with heartbeats }

/-! ### Observed states -/

def projectedStates : ProjectionKind → List PyStr
  | .authority => authorityStates
  | .sandbox => sandboxStates
  | .effect => effectStates
  | .reconciliation => reconciliationStates

/-- The arguments of `project_observed_state`. -/
structure ObservedInput where
  missionId : PyStr
  kind : PyStr
  state : PyStr
  sourceRef : PyStr

/-- `kind not in allowed or state not in allowed[kind] or state == "UNKNOWN"`. -/
def observedKind (kind state : PyStr) : Except PyError ProjectionKind := do
  let invalid := stateError (py "projection kind/state invalid")
  match ofText projectionKinds kind with
  | none => .error invalid
  | some found => do
    raiseIf (state ∉ projectedStates found ∨ state = py "UNKNOWN") invalid
    return found

def projectObservedState (input : ObservedInput) (clock : Moment) (store : StatusStore) :
    Except PyError StatusStore := do
  let kind ← observedKind input.kind input.state
  raiseIf (input.sourceRef = []) (stateError (py "projection source missing"))
  let observedAt ← now clock
  let _ ← knownMission input.missionId (py "unknown mission") store
  bindText input.sourceRef
  let row : ProjectionRow := ⟨input.missionId, kind, input.state, input.sourceRef, observedAt⟩
  let projections := upsertRow
    (fun other => other.missionId = input.missionId && other.kind = kind) (fun _ => row) row
    store.projections
  appendEvent (.observed kind) (some input.missionId)
    (.obj [(py "state", .str input.state), (py "source_ref", .str input.sourceRef)]) observedAt
    { store with projections }

/-! ### Verification -/

def TrustedVerificationEvidence.row (evidence : TrustedVerificationEvidence)
    (bindingDigest : PyStr) : VerificationRow :=
  ⟨evidence.missionId, evidence.verificationId, evidence.verificationState, evidence.pins,
    evidence.evidenceDigest, evidence.sourceProvenanceRef, evidence.epistemicClass,
    evidence.observedAt, bindingDigest⟩

/-- `INSERT INTO fleet_verification ... ON CONFLICT(mission_id)`: the other two keys of a row may
not be those of another one. -/
def upsertVerification (row : VerificationRow) (rows : List VerificationRow) :
    Except PyError (List VerificationRow) := do
  raiseIf (rows.any (fun other => other.missionId ≠ row.missionId &&
      (other.verificationId = row.verificationId || other.bindingDigest = row.bindingDigest)) = true)
    (uniqueError (py "fleet_verification"))
  return upsertRow (fun other => other.missionId = row.missionId) (fun _ => row) row rows

/-- `evidence.validate()`, its error translated. -/
def validEvidence (evidence : TrustedVerificationEvidence) : Except PyError Unit :=
  rethrow (fun error => error.isInstance contractErrorClass)
    (fun _ => stateError (py "verification evidence invalid")) evidence.validate

/-- `project_verification`, with what the trusted source resolves the identifier to. -/
def projectVerification (pins : VerificationTrustPins) (verificationId : PyStr)
    (resolved : Except PyError TrustedVerificationEvidence) (clock : Moment)
    (store : StatusStore) : Except PyError StatusStore := do
  let evidence ← resolved
  validEvidence evidence
  raiseIf (evidence.pins ≠ pins) (stateError (py "verification source/pin substitution denied"))
  let observedAt ← now clock
  let known ← knownMission evidence.missionId (py "verification mission unknown") store
  raiseIf (known.identity.droneId ≠ evidence.droneId ∨
      known.identity.executorId ≠ evidence.executorId)
    (stateError (py "verification identity binding mismatch"))
  let bindingDigest ← evidence.bindingDigest
  let verifications ← upsertVerification (evidence.row bindingDigest) store.verifications
  appendEvent .verificationProjected (some evidence.missionId)
    (.obj [(py "verification_id", .str verificationId),
      (py "binding_digest", .str bindingDigest)]) observedAt { store with verifications }

/-- The arguments of `mark_verified_done`. -/
structure DoneInput where
  missionId : PyStr
  phase : PyStr
  branchHead : Option PyStr
  currentOperation : Option PyStr
  currentBlocker : Option PyStr
  dependencyState : PyStr

/-- The row that `mark_verified_done` writes. -/
def DoneInput.row (input : DoneInput) (observedAt : PyStr) : MissionRow :=
  ⟨input.missionId, input.phase, py "DONE", py "READY_TO_CLOSE", input.currentOperation,
    input.currentBlocker, input.dependencyState, input.branchHead, observedAt⟩

def verifiedIdentity (missionId : PyStr) (store : StatusStore) :
    Option (FleetStatusIdentity × VerificationRow) := do
  let known ← store.identityOf missionId
  let verification ← store.verificationOf missionId
  return (known.identity, verification)

/-- The checks of `mark_verified_done`. -/
def checkVerified (missionId : PyStr) (store : StatusStore) : Except PyError VerificationRow := do
  bindText missionId
  let required := stateError (py "trusted independent PASS required")
  match verifiedIdentity missionId store with
  | none => .error required
  | some (identity, verification) => do
    raiseIf (verification.verificationState ≠ py "PASS" ∨
      verification.epistemicClass ∉ [py "OBSERVED", py "ANCHORED"]) required
    raiseIf (verification.pins.verifierId ∈ [identity.droneId, identity.executorId])
      (stateError (py "verifier is not independent"))
    return verification

def markVerifiedDone (input : DoneInput) (clock : Moment) (store : StatusStore) :
    Except PyError StatusStore := do
  let observedAt ← now clock
  let verification ← checkVerified input.missionId store
  (input.row observedAt).bind
  appendEvent .missionDone (some input.missionId)
    (.obj [(py "verification_id", .str verification.verificationId)]) observedAt
    { store with missions := upsertMission (input.row observedAt) store.missions }

/-! ### Leases -/

/-- The arguments of `record_lease`. -/
structure LeaseInput where
  missionId : PyStr
  leaseId : PyStr
  leaseType : PyStr
  resource : PyStr
  state : PyStr
  sourceRef : PyStr

/-- `value.rstrip("/")`. -/
def rstripSlash (text : PyStr) : PyStr :=
  (text.reverse.dropWhile fun c => c = 0x2F).reverse

/-- `a == b or a.startswith(b + "/") or b.startswith(a + "/")`. -/
def pathsOverlap (first second : PyStr) : Bool :=
  let a := rstripSlash first
  let b := rstripSlash second
  a = b || (b ++ py "/").isPrefixOf a || (a ++ py "/").isPrefixOf b

/-- The refusal of a lease next to a held one of its repository and type. -/
def leaseClash (leaseType : LeaseType) (resource held : PyStr) : Option PyError :=
  match leaseType with
  | .repository | .branch =>
    if held = resource then some (stateError (py "duplicate active write lease")) else none
  | .path =>
    if pathsOverlap resource held then some (stateError (py "overlapping active path lease"))
    else none

def heldLeases (leaseId : PyStr) (store : StatusStore) : List (LeaseRow × PyStr) :=
  (store.leases.filter fun row => row.state.isHeld && row.leaseId ≠ leaseId).filterMap fun row =>
    (store.identityOf row.missionId).map fun known => (row, known.identity.repository)

def checkHeld (repository resource : PyStr) (leaseType : LeaseType) :
    List (LeaseRow × PyStr) → Except PyError Unit
  | [] => .ok ()
  | (row, rowRepository) :: rows =>
    if rowRepository ≠ repository ∨ row.leaseType ≠ leaseType then
      checkHeld repository resource leaseType rows
    else
      match leaseClash leaseType resource row.resource with
      | some error => .error error
      | none => checkHeld repository resource leaseType rows

def leaseKind (leaseType state : PyStr) : Except PyError (LeaseType × LeaseState) :=
  match ofText leaseTypes leaseType, ofText heldStates state with
  | some foundType, some foundState => .ok (foundType, foundState)
  | _, _ => .error (stateError (py "lease invalid"))

def leasePayload (input : LeaseInput) : Json :=
  .obj [(py "lease_id", .str input.leaseId), (py "lease_type", .str input.leaseType),
    (py "resource", .str input.resource), (py "state", .str input.state)]

/-- `INSERT INTO fleet_lease ... ON CONFLICT(lease_id)`: the mission, the type and the resource
of the old row stay. -/
def upsertLease (row : LeaseRow) (rows : List LeaseRow) : List LeaseRow :=
  upsertRow (fun other => other.leaseId = row.leaseId)
    (fun old => { old with
      state := row.state, sourceRef := row.sourceRef, observedAt := row.observedAt }) row rows

def recordLease (input : LeaseInput) (clock : Moment) (store : StatusStore) :
    Except PyError StatusStore := do
  let (leaseType, state) ← leaseKind input.leaseType input.state
  raiseIf (input.leaseId = [] ∨ input.resource = [] ∨ input.sourceRef = [])
    (stateError (py "lease fields missing"))
  let observedAt ← now clock
  let known ← knownMission input.missionId (py "unknown mission") store
  forM [input.leaseId, input.resource, input.sourceRef] bindText
  if state.isHeld then
    checkHeld known.identity.repository input.resource leaseType (heldLeases input.leaseId store)
  let row : LeaseRow := ⟨input.leaseId, input.missionId, leaseType, input.resource, state,
    input.sourceRef, observedAt⟩
  appendEvent .leaseState (some input.missionId) (leasePayload input) observedAt
    { store with leases := upsertLease row store.leases }

/-! ### Receipts -/

/-- `append_receipt`, with the digest that it returns. -/
def appendReceipt (missionId receiptId sourceRef : PyStr) (clock : Moment) (store : StatusStore) :
    Except PyError (StatusStore × PyStr) := do
  raiseIf (receiptId = [] ∨ sourceRef = []) (stateError (py "receipt invalid"))
  let observedAt ← now clock
  let _ ← knownMission missionId (py "unknown mission") store
  let digest ← receiptDigestOf store.receiptHead receiptId missionId sourceRef observedAt
  let receipts ← insertRow (uniqueError (py "fleet_receipt"))
    (fun row => row.receiptId = receiptId || row.receiptDigest = digest)
    ⟨receiptId, missionId, sourceRef, store.receiptHead, digest, observedAt⟩ store.receipts
  let after ← appendEvent .receiptAppended (some missionId)
    (.obj [(py "receipt_id", .str receiptId), (py "receipt_digest", .str digest)]) observedAt
    { store with receipts, receiptHead := digest }
  return (after, digest)

end FleetStatus

end CyberLion
