import CyberLion.SwarmStatusRun

/-!
# The governor of the swarm

`GovernorLease` of `contracts/swarm_governance.py` and
`enterprise/swarm_governor.py`.  The governor holds one row; `acquire`, `renew`
and `run_fenced` each run in one transaction of its database.  The machine at
the end lets any number of processes take the steps of their calls in any order:
`run_fenced` keeps the governor's write lock while the status store opens and
commits its own transaction.

The time columns are kept as the UTC times whose `isoformat` they hold.
-/

namespace CyberLion

namespace SwarmGovernor

open PyLib
open FleetCoordination (ClockReading)
open SwarmStatus (Applied Live StatusCall StatusReport StatusStore)

/-! ### Contract -/

def governanceErrorClass : ErrorClass :=
  .declared .valueError (py "SwarmGovernanceError")

/-- `SwarmGovernanceError(message)`. -/
def governanceError (message : PyStr) : PyError :=
  ⟨governanceErrorClass, message⟩

/-- `_text`. -/
def textField (value name : PyStr) : Except PyError Unit :=
  raiseIf (isBlank value = true ∨ (0 : CodePoint) ∈ value) (governanceError (name ++ py " invalid"))

/-- `_when`: the instant, in microseconds. -/
def when (value name : PyStr) : Except PyError Int := do
  textField value name
  match fromIsoFormat (pyReplace 0x5A (py "+00:00") value) with
  | none => .error (governanceError (name ++ py " invalid"))
  | some (.naive _) => .error (governanceError (name ++ py " timezone required"))
  | some (.aware time offset) => .ok (time.microseconds - offset)

structure GovernorLease where
  instanceId : PyStr
  epoch : Int
  leaseId : PyStr
  fencingToken : Int
  acquiredAt : PyStr
  expiresAt : PyStr
  logicalRole : PyStr
  isAuthoritySource : Bool
  deriving DecidableEq

def GovernorLease.validate (lease : GovernorLease) : Except PyError Unit := do
  textField lease.instanceId (py "instance_id")
  textField lease.leaseId (py "lease_id")
  raiseIf (lease.logicalRole ≠ py "SWARM_GOVERNOR") (governanceError (py "logical_role invalid"))
  raiseIf (lease.isAuthoritySource = true)
    (governanceError (py "governor must not be authority source"))
  raiseIf (lease.epoch < 1) (governanceError (py "epoch invalid"))
  raiseIf (lease.fencingToken < 1) (governanceError (py "fencing_token invalid"))
  let expires ← when lease.expiresAt (py "expires_at")
  let acquired ← when lease.acquiredAt (py "acquired_at")
  raiseIf (expires ≤ acquired) (governanceError (py "lease interval invalid"))

/-! ### Transactions -/

def stateErrorClass : ErrorClass :=
  .declared .runtimeError (py "SwarmGovernorStateError")

/-- `SwarmGovernorStateError(message)`. -/
def stateError (message : PyStr) : PyError :=
  ⟨stateErrorClass, message⟩

def utc (clock : ClockReading) : Except PyError DateTime := do
  let moment ← clock
  match moment with
  | .naive _ => .error (stateError (py "trusted clock must be timezone-aware"))
  | .aware time offset => time.astimezoneUtc offset

/-- `now + timedelta(seconds=seconds)`. -/
def plusSeconds (now : DateTime) (seconds : Int) : Except PyError DateTime :=
  DateTime.ofMicroseconds (now.microseconds + seconds * 1000000)

structure GovernorRow where
  instanceId : Option PyStr
  epoch : Int
  fencingToken : Int
  leaseId : Option PyStr
  acquiredAt : Option DateTime
  expiresAt : Option DateTime
  deriving DecidableEq

def initialRow : GovernorRow :=
  ⟨none, 0, 0, none, none, none⟩

def leaseOf (instanceId : PyStr) (epoch : Int) (leaseId : PyStr) (fencingToken : Int)
    (acquiredAt expiresAt : PyStr) : GovernorLease :=
  ⟨instanceId, epoch, leaseId, fencingToken, acquiredAt, expiresAt, py "SWARM_GOVERNOR", false⟩

def GovernorRow.heldByOther (row : GovernorRow) (instanceId : PyStr) (now : DateTime) : Prop :=
  ∃ holder ∈ row.instanceId, ∃ expires ∈ row.expiresAt,
    holder ≠ [] ∧ now.packed < expires.packed ∧ holder ≠ instanceId

instance (row : GovernorRow) (instanceId : PyStr) (now : DateTime) :
    Decidable (row.heldByOther instanceId now) := by
  unfold GovernorRow.heldByOther
  infer_instance

/-- The checks of `acquire` before its transaction. -/
def checkRequest (instanceId : PyStr) (leaseSeconds : Int) : Except PyError Unit :=
  raiseIf (instanceId = [] ∨ leaseSeconds < 1) (stateError (py "invalid lease request"))

/-- The transaction of `acquire`: the new row and the lease.  `leaseId` is what
`uuid4` returns. -/
def acquire (row : GovernorRow) (clock : ClockReading) (instanceId : PyStr) (leaseSeconds : Int)
    (leaseId : PyStr) : Except PyError (GovernorRow × GovernorLease) := do
  let now ← utc clock
  raiseIf (row.heldByOther instanceId now) (stateError (py "active governor lease exists"))
  let expires ← plusSeconds now leaseSeconds
  let _ ← encodeUtf8 instanceId
  let lease := leaseOf instanceId (row.epoch + 1) leaseId (row.fencingToken + 1) now.isoformatUtc
    expires.isoformatUtc
  lease.validate
  return (⟨some instanceId, row.epoch + 1, row.fencingToken + 1, some leaseId, some now,
    some expires⟩, lease)

def GovernorRow.Matches (row : GovernorRow) (lease : GovernorLease) : Prop :=
  row.instanceId = some lease.instanceId ∧ row.epoch = lease.epoch ∧
    row.fencingToken = lease.fencingToken ∧ row.leaseId = some lease.leaseId

instance (row : GovernorRow) (lease : GovernorLease) : Decidable (row.Matches lease) := by
  unfold GovernorRow.Matches
  infer_instance

def GovernorRow.expired (row : GovernorRow) (now : DateTime) : Prop :=
  ∀ expires ∈ row.expiresAt, expires.packed ≤ now.packed

instance (row : GovernorRow) (now : DateTime) : Decidable (row.expired now) := by
  unfold GovernorRow.expired
  infer_instance

def assertRow (row : GovernorRow) (lease : GovernorLease) (now : DateTime) :
    Except PyError Unit := do
  raiseIf (¬ row.Matches lease) (stateError (py "stale governor fenced"))
  raiseIf (row.expired now) (stateError (py "governor lease expired"))

/-- The transaction of `renew`. -/
def renew (row : GovernorRow) (clock : ClockReading) (lease : GovernorLease)
    (leaseSeconds : Int) : Except PyError (GovernorRow × GovernorLease) := do
  let now ← utc clock
  assertRow row lease now
  let expires ← plusSeconds now leaseSeconds
  let renewed := leaseOf lease.instanceId lease.epoch lease.leaseId lease.fencingToken
    lease.acquiredAt expires.isoformatUtc
  renewed.validate
  return ({ row with expiresAt := some expires }, renewed)

/-- The check of `run_fenced` inside its transaction. -/
def fence (row : GovernorRow) (clock : ClockReading) (lease : GovernorLease) :
    Except PyError DateTime := do
  let now ← utc clock
  assertRow row lease now
  return now

/-! ### Processes -/

inductive FencedCall
  | applyReport (report : StatusReport)
  | replaceContext (clock : ClockReading) (update : SwarmStatus.ContextUpdate)

def FencedCall.passed : FencedCall → StatusCall
  | .applyReport report => .applyReport (.ok ()) report
  | .replaceContext clock update => .replaceContext (.ok ()) clock update

/-- The checks of a write before `run_fenced`. -/
def FencedCall.check (store : StatusStore) : FencedCall → Except PyError Unit
  | .applyReport report => do
    report.validate
    raiseIf (report.reporterDroneId ∉ store.knownDrones)
      (SwarmStatus.stateError (py "unknown reporter drone"))
  | .replaceContext _ update =>
    raiseIf (update.evidenceRefs = [])
      (SwarmStatus.stateError (py "context update requires evidence"))

inductive GovernorCall
  | acquire (instanceId : PyStr) (leaseSeconds : Int)
  | renew (lease : GovernorLease) (leaseSeconds : Int)
  | status (lease : GovernorLease) (call : FencedCall)

/-- What a call checks before it opens the governor's transaction. -/
def GovernorCall.check (store : StatusStore) : GovernorCall → Except PyError Unit
  | .acquire instanceId leaseSeconds => checkRequest instanceId leaseSeconds
  | .renew lease _ => lease.validate
  | .status lease call => do
    call.check store
    lease.validate

inductive GovernorEntry
  | issued (lease : GovernorLease)
  | renewed (lease : GovernorLease)
  /-- The fence check of a process, with the row that it read. -/
  | checked (process : Nat) (lease : GovernorLease) (row : GovernorRow) (now : DateTime)
  /-- The COMMIT of a status transaction. -/
  | committed (process : Nat) (lease : GovernorLease)

inductive Phase
  | idle
  /-- In the governor's transaction, before the row is read. -/
  | entered (call : GovernorCall)
  /-- The row is updated; `entry` is logged by the COMMIT. -/
  | granted (row : GovernorRow) (entry : GovernorEntry)
  /-- The fence check has passed. -/
  | fenced (lease : GovernorLease) (call : FencedCall)
  /-- In the status transaction. -/
  | writing (lease : GovernorLease) (call : FencedCall)
  /-- The status tables are updated and the file is replaced. -/
  | written (lease : GovernorLease) (applied : Applied)
  /-- The status transaction is committed, the governor's is still open. -/
  | leaving

/-- The two databases, the locks of their writers and the processes. -/
structure World where
  row : GovernorRow
  governorLock : Option Nat
  live : Live
  statusLock : Option Nat
  phases : Nat → Phase
  log : List GovernorEntry

def openedWorld (live : Live) : World where
  row := initialRow
  governorLock := none
  live := live
  statusLock := none
  phases := fun _ => .idle
  log := []

namespace World

def setPhase (world : World) (process : Nat) (phase : Phase) : World :=
  { world with phases := Function.update world.phases process phase }

def record (world : World) (entry : GovernorEntry) : World :=
  { world with log := world.log ++ [entry] }

def release (world : World) (process : Nat) : World :=
  { world.setPhase process .idle with
    governorLock := if world.governorLock = some process then none else world.governorLock
    statusLock := if world.statusLock = some process then none else world.statusLock }

end World

inductive GovernorEvent
  /-- `BEGIN IMMEDIATE` of the governor's database. -/
  | enter (process : Nat) (call : GovernorCall)
  /-- The work of `acquire` or `renew`. -/
  | grant (process : Nat) (clock : ClockReading) (leaseId : PyStr)
  /-- The check of `run_fenced`. -/
  | check (process : Nat) (clock : ClockReading)
  /-- `BEGIN IMMEDIATE` of the status database. -/
  | beginStatus (process : Nat)
  /-- The work of the status transaction. -/
  | write (process : Nat)
  /-- `COMMIT` of the status database. -/
  | commitStatus (process : Nat)
  /-- `COMMIT` of the governor's database. -/
  | leave (process : Nat)
  /-- An exception or the end of the process: both transactions are rolled
  back. -/
  | abort (process : Nat)

namespace World

/-- The work of `acquire` or `renew` returned a row, or raised. -/
def granting (world : World) (process : Nat) (entry : GovernorLease → GovernorEntry) :
    Except PyError (GovernorRow × GovernorLease) → World
  | .ok (row, lease) => world.setPhase process (.granted row (entry lease))
  | .error _ => world.release process

def enter (store : StatusStore) (world : World) (process : Nat) (call : GovernorCall) : World :=
  match world.phases process, world.governorLock, call.check store with
  | .idle, none, .ok _ =>
    { world.setPhase process (.entered call) with governorLock := some process }
  | _, _, _ => world

def grant (world : World) (process : Nat) (clock : ClockReading) (leaseId : PyStr) : World :=
  match world.phases process with
  | .entered (.acquire instanceId leaseSeconds) =>
    world.granting process .issued
      (SwarmGovernor.acquire world.row clock instanceId leaseSeconds leaseId)
  | .entered (.renew lease leaseSeconds) =>
    world.granting process .renewed (SwarmGovernor.renew world.row clock lease leaseSeconds)
  | _ => world

def check (world : World) (process : Nat) (clock : ClockReading) : World :=
  match world.phases process with
  | .entered (.status lease call) =>
    match fence world.row clock lease with
    | .ok now => (world.setPhase process (.fenced lease call)).record
        (.checked process lease world.row now)
    | .error _ => world.release process
  | _ => world

def beginStatus (world : World) (process : Nat) : World :=
  match world.phases process, world.statusLock with
  | .fenced lease call, none =>
    { world.setPhase process (.writing lease call) with statusLock := some process }
  | _, _ => world

def write (store : StatusStore) (world : World) (process : Nat) : World :=
  match world.phases process with
  | .writing lease call =>
    match call.passed.apply store world.live with
    | .ok applied => { world.setPhase process (.written lease applied) with
        live := ⟨world.live.db, applied.file.getD world.live.file⟩ }
    | .error _ => world.release process
  | _ => world

def commitStatus (world : World) (process : Nat) : World :=
  match world.phases process with
  | .written lease applied =>
    { world.setPhase process .leaving with
      live := ⟨applied.db, world.live.file⟩
      statusLock := none
      log := world.log ++ [.committed process lease] }
  | _ => world

def leave (world : World) (process : Nat) : World :=
  match world.phases process with
  | .granted row entry => { world.release process with row := row, log := world.log ++ [entry] }
  | .leaving => world.release process
  | _ => world

/-- One step of one process; a step that is not the process's next one changes
nothing. -/
def step (store : StatusStore) (world : World) : GovernorEvent → World
  | .enter process call => world.enter store process call
  | .grant process clock leaseId => world.grant process clock leaseId
  | .check process clock => world.check process clock
  | .beginStatus process => world.beginStatus process
  | .write process => world.write store process
  | .commitStatus process => world.commitStatus process
  | .leave process => world.leave process
  | .abort process => world.release process

def run (store : StatusStore) (world : World) (events : List GovernorEvent) : World :=
  events.foldl (step store) world

end World

end SwarmGovernor

end CyberLion
