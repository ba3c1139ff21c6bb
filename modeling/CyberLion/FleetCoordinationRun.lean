import CyberLion.FleetCoordinationPlan
import CyberLion.PyIsoRoundTrip

/-!
# Runs of the fleet coordination store

A run is a list of calls on one database, made through any number of handles;
a call that raises leaves the database as it was.  What a call can change is
said once, as four kinds of elementary steps: a registration, a dispatch, the
commit of a plan, and the end of a dispatch.  A property that these steps keep
holds after every run.
-/

namespace CyberLion

namespace FleetCoordination

open PyLib

/-- A call of one of the writing methods, with what it reads of its
surroundings. -/
inductive FleetCall
  | registerMission (depth : Nat) (clock : ClockReading) (spec : FleetCoordinationSpec)
  | plan (clock : ClockReading) (request : FleetPlanRequest)
  | requeue (clock : ClockReading) (missionId dispatchId fencingToken evidenceRef : PyStr)
  | recordTerminal (clock : ClockReading)
      (missionId dispatchId fencingToken terminalState evidenceRef : PyStr)

def FleetCall.apply (db : Database) : FleetCall → Except PyError Database
  | .registerMission depth clock spec => db.registerMission depth clock spec
  | .plan clock request => Prod.fst <$> db.plan clock request
  | .requeue clock missionId dispatchId fencingToken evidenceRef =>
    db.requeue clock missionId dispatchId fencingToken evidenceRef
  | .recordTerminal clock missionId dispatchId fencingToken terminalState evidenceRef =>
    db.recordTerminal clock missionId dispatchId fencingToken terminalState evidenceRef

def stepCall (db : Database) (call : FleetCall) : Database :=
  match call.apply db with
  | .ok after => after
  | .error _ => db

def runCalls (db : Database) (calls : List FleetCall) : Database :=
  calls.foldl stepCall db

/-! ### Time -/

theorem parseTime_isoformatUtc (time : DateTime) : parseTime time.isoformatUtc = .ok time := by
  have noZ : (0x5A : CodePoint) ∉ time.isoformatUtc := by
    intro member
    have notZ : (0x5A : CodePoint) ≠ 0x5A := by
      apply IsoFormat.forall_mem_isoformatUtc (P := fun c => c ≠ 0x5A) _ _ time _ member
      · rintro c digit rfl
        exact absurd digit (by decide)
      · decide
    exact notZ rfl
  rw [parseTime, pyReplace_of_notMem noZ, fromIsoFormat_isoformatUtc]
  rfl

structure Current (db : Database) (now : PyStr) : Prop where
  written : ∃ time : DateTime, now = time.isoformatUtc
  notBefore : db.notBefore now = .ok ()

variable {db : Database}

theorem current_of_now {clock : ClockReading} {now : PyStr} (read : db.now clock = .ok now) :
    Current db now := by
  simp only [Database.now, bind_eq_ok, pure_eq_ok] at read
  obtain ⟨moment, -, text, utcText, _, notBefore, rfl⟩ := read
  refine ⟨?_, notBefore⟩
  cases moment with
  | naive time => simp [utc] at utcText
  | aware time offset =>
    simp only [utc, bind_eq_ok, pure_eq_ok] at utcText
    obtain ⟨utcTime, -, rfl⟩ := utcText
    exact ⟨utcTime, rfl⟩

theorem Current.of_events {other : Database} {now : PyStr} (current : Current db now)
    (same : other.events = db.events) : Current other now := by
  refine ⟨current.written, ?_⟩
  rw [Database.notBefore, same]
  exact current.notBefore

/-! ### Events -/

/-- The event that a successful `_append_event` adds. -/
structure IsEvent (db : Database) (eventType : EventType) (missionId : Option PyStr)
    (payload : List (PyStr × Json)) (observedAt : PyStr) (event : EventRow) : Prop where
  digest : eventDigestOf db.eventHead eventType missionId payload observedAt =
    .ok event.eventDigest
  payload : ∃ bytes, canonicalJson (.obj payload) = .ok bytes ∧ event.payloadJson = bytes.text
  eventId : event.eventId = event.eventDigest
  eventType : event.eventType = eventType
  missionId : event.missionId = missionId
  previous : event.previousDigest = db.eventHead
  observedAt : event.observedAt = observedAt

def Database.withEvent (db : Database) (event : EventRow) : Database :=
  { db with eventHead := event.eventDigest, events := db.events ++ [event] }

theorem exists_event_of_appendEvent {after : Database} {eventType : EventType}
    {missionId : Option PyStr} {payload : List (PyStr × Json)} {observedAt : PyStr}
    (appended : db.appendEvent eventType missionId payload observedAt = .ok after) :
    ∃ event, IsEvent db eventType missionId payload observedAt event ∧
      after = db.withEvent event := by
  simp only [Database.appendEvent, bind_eq_ok, pure_eq_ok, raiseIf_eq_ok] at appended
  obtain ⟨digest, digestEq, bytes, bytesEq, -, -, rfl⟩ := appended
  exact ⟨⟨digest, eventType, missionId, bytes.text, db.eventHead, digest, observedAt⟩,
    ⟨digestEq, ⟨bytes, bytesEq, rfl⟩, rfl, rfl, rfl, rfl, rfl⟩, rfl⟩

theorem notBefore_eq_ok {event : EventRow} {now : PyStr} (last : db.events.getLast? = some event)
    {current previous : DateTime} (currentTime : parseTime now = .ok current)
    (previousTime : parseTime event.observedAt = .ok previous) :
    db.notBefore now = .ok () ↔ previous.packed ≤ current.packed := by
  unfold Database.notBefore
  rw [last]
  dsimp only
  rw [currentTime, previousTime, ok_bind, ok_bind, raiseIf_eq_ok, not_lt]

theorem Current.withEvent {now : PyStr} {event : EventRow} (current : Current db now)
    (observed : event.observedAt = now) :
    Current (db.withEvent event) now := by
  refine ⟨current.written, ?_⟩
  obtain ⟨time, timeText⟩ := current.written
  have last : (db.withEvent event).events.getLast? = some event :=
    List.getLast?_concat
  have read : parseTime now = .ok time := by
    rw [timeText]
    exact parseTime_isoformatUtc time
  rw [notBefore_eq_ok last read (observed ▸ read)]

/-! ### Elementary steps -/

structure RegisterStep (db : Database) (spec : FleetCoordinationSpec) (digest now : PyStr)
    (after : Database) : Prop where
  valid : spec.validate = .ok ()
  digested : spec.digest = .ok digest
  fresh : db.findMission spec.missionId = none
  newDrone : spec.droneId ∉ db.missions.map MissionRow.droneId
  acyclic : ∃ depth, hasCycle depth
    (dictSet spec.missionId spec.dependencies db.dependencyGraph) = .ok false
  current : Current db now
  applied : ∃ inserted event, db.insertMission spec digest now = .ok inserted ∧
    IsEvent inserted .missionRegistered (some spec.missionId)
      [(py "drone_id", .str spec.droneId), (py "spec_digest", .str digest)] now event ∧
    after = (inserted.withEvent event).bump

structure DispatchStep (db : Database) (context : PlanContext) (row : MissionRow)
    (dispatch : FleetDispatch) (after : Database) : Prop where
  present : row ∈ db.missions
  ready : row.state = .starting ∨ row.state = .waiting
  dependencies : db.dependenciesDone row.missionId = true
  scope : storedTexts row.writeScopeJson = .ok dispatch.writeScope
  available : db.leasesAvailable row.repository row.branch dispatch.writeScope = true
  built : buildDispatch db context row dispatch.writeScope = .ok dispatch
  valid : dispatch.validate = .ok ()
  current : Current db context.now
  applied : ∃ leases event, insertLeases db.leases (leasesOf dispatch) = .ok leases ∧
    IsEvent db .missionDispatched (some row.missionId)
      (dispatchedPayload context row dispatch) context.now event ∧
    after = (Database.updateMission { db with leases := leases } row.missionId
      (MissionRow.dispatched dispatch context.now)).withEvent event

/-- A request that `plan` has accepted and that has no plan row yet. -/
structure Accepted (db : Database) (context : PlanContext) : Prop where
  valid : context.request.validate = .ok ()
  digested : context.request.digest = .ok context.requestDigest
  coordinator : context.request.coordinatorId = db.coordinatorId
  fresh : ∀ plan ∈ db.plans, plan.requestId ≠ context.request.requestId

structure CommitStep (db : Database) (context : PlanContext) (selected : List FleetDispatch)
    (after : Database) : Prop where
  accepted : Accepted db context
  current : Current db context.now
  committed : db.commitPlan context selected = .ok after

inductive Ending
  | requeue (evidenceRef : PyStr)
  | terminal (state : MissionState) (isTerminal : state.isTerminal = true) (evidenceRef : PyStr)

namespace Ending

def state : Ending → MissionState
  | .requeue _ => .waiting
  | .terminal state _ _ => state

def change : Ending → PyStr → MissionRow → MissionRow
  | .requeue evidenceRef => Database.requeuedRow evidenceRef
  | .terminal state _ evidenceRef => Database.terminalRow state evidenceRef

def eventType : Ending → EventType
  | .requeue _ => .missionRequeued
  | .terminal _ _ _ => .missionTerminal

def payload (dispatchId : PyStr) (generation : Int) (released : Nat) :
    Ending → List (PyStr × Json)
  | .requeue evidenceRef =>
    Database.requeuedPayload dispatchId evidenceRef generation released
  | .terminal state _ evidenceRef =>
    Database.terminalPayload dispatchId evidenceRef state generation released

theorem state_ne_running (ending : Ending) : ending.state ≠ .running := by
  cases ending with
  | requeue evidenceRef => simp [state]
  | terminal terminalState isTerminal evidenceRef =>
    rintro rfl
    exact absurd isTerminal (by decide)

end Ending

structure EndStep (db : Database) (row : MissionRow) (dispatchId : PyStr) (ending : Ending)
    (now : PyStr) (after : Database) : Prop where
  present : row ∈ db.missions
  running : row.state = .running
  active : row.dispatchId = some dispatchId
  current : Current db now
  applied : ∃ event, IsEvent db ending.eventType (some row.missionId)
      (ending.payload dispatchId row.generation
        (db.ownedLeases row.missionId dispatchId).length) now event ∧
    after = (((db.release row.missionId dispatchId).updateMission row.missionId
      (ending.change now)).withEvent event).bump

/-! ### The calls make elementary steps -/

variable {db : Database} {clock : ClockReading} {context : PlanContext} {dispatch : FleetDispatch}
  {dispatchId fencingToken : PyStr}

theorem exists_registerStep {after : Database} {depth : Nat} {spec : FleetCoordinationSpec}
    (registered : db.registerMission depth clock spec = .ok after) :
    after = db ∨ ∃ digest now, RegisterStep db spec digest now after := by
  simp only [Database.registerMission, bind_eq_ok] at registered
  obtain ⟨_, valid, digest, digested, rest⟩ := registered
  split at rest
  · split at rest
    · exact .inl (Except.ok.inj rest).symm
    · simp at rest
  · rename_i fresh
    simp only [Database.registerNew, bind_eq_ok, pure_eq_ok, raiseIf_eq_ok] at rest
    obtain ⟨_, newDrone, cyclic, searched, _, acyclic, now, nowEq, inserted, insertedEq, logged,
      loggedEq, rfl⟩ := rest
    rw [Bool.not_eq_true] at acyclic
    subst acyclic
    obtain ⟨event, isEvent, rfl⟩ := exists_event_of_appendEvent loggedEq
    exact .inr ⟨digest, now, valid, digested, fresh, newDrone, ⟨depth, searched⟩,
      current_of_now nowEq, inserted, event, insertedEq, isEvent, rfl⟩

theorem dispatchStep_of_dispatchMission {after : Database} {row : MissionRow} {scope : List PyStr}
    (considered : considerMission db context row = .ok (some scope))
    (dispatched : dispatchMission db context row scope = .ok (after, dispatch))
    (present : row ∈ db.missions) (ready : row.state = .starting ∨ row.state = .waiting)
    (current : Current db context.now) : DispatchStep db context row dispatch after := by
  simp only [dispatchMission, Database.claimLeases, bind_eq_ok, pure_eq_ok, Prod.mk.injEq,
    raiseIf_eq_ok] at dispatched
  obtain ⟨built, builtEq, _, valid, claimed, ⟨_, -, leases, leasesEq, rfl⟩, logged, loggedEq,
    rfl, rfl⟩ := dispatched
  obtain ⟨event, isEvent, rfl⟩ := exists_event_of_appendEvent loggedEq
  have sameScope : built.writeScope = scope := by
    simp only [buildDispatch, bind_eq_ok, pure_eq_ok] at builtEq
    obtain ⟨_, -, _, -, rfl⟩ := builtEq
    rfl
  subst sameScope
  unfold considerMission at considered
  split at considered
  · rename_i dependencies
    split at considered
    · simp at considered
    · simp only [bind_eq_ok, raiseIf_eq_ok] at considered
      obtain ⟨_, -, scope, scopeEq, choice⟩ := considered
      split at choice
      · rename_i available
        rw [pure_eq_ok, Option.some.injEq] at choice
        subst choice
        exact ⟨present, ready, dependencies, scopeEq, available, builtEq, valid, current, leases, event,
          leasesEq, ⟨isEvent.digest, isEvent.payload, isEvent.eventId, isEvent.eventType,
          isEvent.missionId, isEvent.previous, isEvent.observedAt⟩, rfl⟩
      · simp at choice
  · simp at considered

theorem mem_of_requireMission {missionId : PyStr} {row : MissionRow}
    (found : db.requireMission missionId = .ok row) : row ∈ db.missions := by
  simp only [Database.requireMission, bind_eq_ok] at found
  obtain ⟨_, -, found⟩ := found
  split at found
  · simp at found
  · rename_i known
    rw [← Except.ok.inj found]
    exact List.mem_of_find?_eq_some known

theorem isTerminal_of_terminalStateOf {text : PyStr} {state : MissionState}
    (known : terminalStateOf text = some state) : state.isTerminal = true := by
  have member := List.mem_of_find?_eq_some known
  revert member
  cases state <;> simp [MissionState.isTerminal]

theorem endStep_of_endDispatch {after : Database} {row : MissionRow} {now : PyStr} {ending : Ending}
    (present : row ∈ db.missions) (running : row.state = .running)
    (active : Database.requireActive row dispatchId fencingToken = .ok ())
    (current : Current db now)
    (ended : db.endDispatch row dispatchId ending.change ending.eventType
      (fun released => ending.payload dispatchId row.generation released) now = .ok after) :
    EndStep db row dispatchId ending now after := by
  simp only [Database.requireActive, raiseIf_eq_ok, not_or, ne_eq, not_not] at active
  simp only [Database.endDispatch, bind_eq_ok, pure_eq_ok] at ended
  obtain ⟨logged, loggedEq, rfl⟩ := ended
  obtain ⟨event, isEvent, rfl⟩ := exists_event_of_appendEvent loggedEq
  exact ⟨present, running, active.1, current, event,
    ⟨isEvent.digest, isEvent.payload, isEvent.eventId, isEvent.eventType, isEvent.missionId,
      isEvent.previous, isEvent.observedAt⟩, rfl⟩

theorem exists_endStep_of_requeue {after : Database} {missionId evidenceRef : PyStr}
    (requeued : db.requeue clock missionId dispatchId fencingToken evidenceRef = .ok after) :
    after = db ∨ ∃ row now, EndStep db row dispatchId (.requeue evidenceRef) now after := by
  simp only [Database.requeue, bind_eq_ok] at requeued
  obtain ⟨_, -, _, -, _, -, _, -, row, found, rest⟩ := requeued
  unfold Database.requeueRow at rest
  split at rest
  · split at rest
    · exact .inl (Except.ok.inj rest).symm
    · simp at rest
  split at rest
  · rename_i running
    simp only [bind_eq_ok] at rest
    obtain ⟨_, active, now, nowEq, _, -, ended⟩ := rest
    exact .inr ⟨row, now,
      endStep_of_endDispatch (mem_of_requireMission found) running active
        (current_of_now nowEq) ended⟩
  · simp at rest

theorem exists_endStep_of_recordTerminal {after : Database}
    {missionId terminalState evidenceRef : PyStr}
    (recorded : db.recordTerminal clock missionId dispatchId fencingToken terminalState
      evidenceRef = .ok after) :
    after = db ∨ ∃ row state isTerminal now,
      EndStep db row dispatchId (.terminal state isTerminal evidenceRef) now after := by
  simp only [Database.recordTerminal, bind_eq_ok] at recorded
  obtain ⟨_, -, _, -, _, -, _, -, rest⟩ := recorded
  split at rest
  · simp at rest
  · rename_i state known
    rw [bind_eq_ok] at rest
    obtain ⟨row, found, rest⟩ := rest
    unfold Database.recordTerminalRow at rest
    split at rest
    · split at rest
      · exact .inl (Except.ok.inj rest).symm
      · simp at rest
    split at rest
    · rename_i running
      simp only [bind_eq_ok] at rest
      obtain ⟨_, active, now, nowEq, _, -, ended⟩ := rest
      exact .inr ⟨row, state, isTerminal_of_terminalStateOf known, now,
        endStep_of_endDispatch (mem_of_requireMission found) running active
          (current_of_now nowEq) ended⟩
    · simp at rest

/-! ### Invariants -/

def pendingOf (context : PlanContext) (selected : List FleetDispatch) :
    List (PlanContext × FleetDispatch) :=
  selected.map fun dispatch => (context, dispatch)

/-- A property of the database, inside a transaction also of the dispatches
that are pending, that every elementary step keeps. -/
structure StoreInvariant (P : Database → List (PlanContext × FleetDispatch) → Prop) : Prop where
  distinct : ∀ {db pending}, P db pending → (db.missions.map MissionRow.missionId).Nodup
  register : ∀ {db spec digest now after}, RegisterStep db spec digest now after → P db [] →
    P after []
  dispatch : ∀ {db context row dispatch after selected}, Accepted db context →
    DispatchStep db context row dispatch after → P db (pendingOf context selected) →
    P after (pendingOf context (selected ++ [dispatch]))
  commit : ∀ {db context selected after}, CommitStep db context selected after →
    P db (pendingOf context selected) → P after []
  finish : ∀ {db row dispatchId ending now after}, EndStep db row dispatchId ending now after →
    P db [] → P after []

theorem DispatchStep.accepted {after : Database} {row : MissionRow}
    (step : DispatchStep db context row dispatch after) (accepted : Accepted db context) :
    Accepted after context := by
  obtain ⟨leases, event, -, -, rfl⟩ := step.applied
  exact ⟨accepted.valid, accepted.digested, accepted.coordinator, accepted.fresh⟩

theorem DispatchStep.stillCurrent {after : Database} {row : MissionRow}
    (step : DispatchStep db context row dispatch after) : Current after context.now := by
  obtain ⟨leases, event, -, isEvent, rfl⟩ := step.applied
  apply Current.withEvent _ isEvent.observedAt
  exact step.current.of_events rfl

theorem DispatchStep.mem_of_ne {after : Database} {row other : MissionRow}
    (step : DispatchStep db context row dispatch after) (member : other ∈ db.missions)
    (differ : other.missionId ≠ row.missionId) : other ∈ after.missions := by
  obtain ⟨leases, event, -, -, rfl⟩ := step.applied
  exact List.mem_map.mpr ⟨other, member, if_neg differ⟩

/-- The dispatches of one plan, each in the database that the one before it has
left. -/
inductive DispatchChain (context : PlanContext) :
    Database → List FleetDispatch → Database → Prop
  | nil (db : Database) : DispatchChain context db [] db
  | cons {db middle after : Database} {row : MissionRow} {dispatch : FleetDispatch}
      {rest : List FleetDispatch} (step : DispatchStep db context row dispatch middle)
      (later : DispatchChain context middle rest after) :
      DispatchChain context db (dispatch :: rest) after

theorem DispatchChain.accepted {after : Database} {issued : List FleetDispatch}
    (chain : DispatchChain context db issued after) (accepted : Accepted db context)
    (current : Current db context.now) :
    Accepted after context ∧ Current after context.now := by
  induction chain with
  | nil db => exact ⟨accepted, current⟩
  | cons step later ih => exact ih (step.accepted accepted) step.stillCurrent

theorem dispatchChain_of_planLoop {rows : List MissionRow} {after : Database}
    {selected final : List FleetDispatch}
    (looped : planLoop context rows db selected = .ok (after, final))
    (current : Current db context.now)
    (present : ∀ row ∈ rows, row ∈ db.missions ∧ (row.state = .starting ∨ row.state = .waiting))
    (distinct : (rows.map MissionRow.missionId).Nodup) :
    ∃ issued, final = selected ++ issued ∧ DispatchChain context db issued after := by
  induction rows generalizing db selected with
  | nil =>
    obtain ⟨rfl, rfl⟩ := Prod.mk.inj (Except.ok.inj looped)
    exact ⟨[], (List.append_nil _).symm, .nil db⟩
  | cons row rows ih =>
    rw [FleetCoordination.planLoop] at looped
    rw [List.map_cons, List.nodup_cons] at distinct
    split at looped
    · obtain ⟨rfl, rfl⟩ := Prod.mk.inj (Except.ok.inj looped)
      exact ⟨[], (List.append_nil _).symm, .nil db⟩
    · rw [bind_eq_ok] at looped
      obtain ⟨choice, considered, rest⟩ := looped
      have othersPresent := fun other member => present other (List.mem_cons_of_mem row member)
      cases choice with
      | none => exact ih rest current othersPresent distinct.2
      | some scope =>
        simp only [bind_eq_ok] at rest
        obtain ⟨⟨dispatched, dispatch⟩, dispatchedEq, rest⟩ := rest
        obtain ⟨rowPresent, rowReady⟩ := present row (by simp)
        have step := dispatchStep_of_dispatchMission considered dispatchedEq rowPresent
          rowReady current
        have stillPresent : ∀ other ∈ rows, other ∈ dispatched.missions ∧
            (other.state = .starting ∨ other.state = .waiting) := by
          intro other member
          obtain ⟨otherPresent, otherReady⟩ := othersPresent other member
          have differ : other.missionId ≠ row.missionId := by
            intro same
            exact distinct.1 (same ▸ List.mem_map_of_mem member)
          exact ⟨step.mem_of_ne otherPresent differ, otherReady⟩
        obtain ⟨issued, rfl, later⟩ := ih rest step.stillCurrent stillPresent distinct.2
        refine ⟨dispatch :: issued, ?_, .cons step later⟩
        rw [List.append_assoc, List.singleton_append]

theorem exists_dispatchChain_of_plan {after : Database} {request : FleetPlanRequest}
    {dispatches : List FleetDispatch} (planned : db.plan clock request = .ok (after, dispatches))
    (distinct : (db.missions.map MissionRow.missionId).Nodup) :
    (after = db ∧ ∃ plan ∈ db.plans, plan.requestId = request.requestId) ∨
      ∃ context middle, context.request = request ∧ Accepted db context ∧
        DispatchChain context db dispatches middle ∧
        CommitStep middle context dispatches after := by
  simp only [Database.plan, bind_eq_ok, raiseIf_eq_ok, ne_eq, not_not] at planned
  obtain ⟨_, valid, _, coordinator, digest, digested, rest⟩ := planned
  split at rest
  · rename_i plan known
    simp only [bind_eq_ok, pure_eq_ok, Prod.mk.injEq] at rest
    obtain ⟨_, -, rfl, -⟩ := rest
    exact .inl ⟨rfl, plan, List.mem_of_find?_eq_some known, by simpa using List.find?_some known⟩
  · rename_i fresh
    simp only [Database.planNew, bind_eq_ok, pure_eq_ok, Prod.mk.injEq] at rest
    obtain ⟨now, nowEq, ⟨dispatched, selected⟩, looped, committed, committedEq, rfl, rfl⟩ := rest
    have accepted : Accepted db ⟨request, digest, now⟩ := by
      refine ⟨valid, digested, coordinator, ?_⟩
      intro row member
      simpa using List.find?_eq_none.mp fresh row member
    have sorted := List.perm_insertionSort
      (fun first second : MissionRow => first.missionId ≤ second.missionId)
      (db.missions.filter fun row => row.state = .starting || row.state = .waiting)
    have present : ∀ row ∈ db.waitingMissions,
        row ∈ db.missions ∧ (row.state = .starting ∨ row.state = .waiting) := by
      intro row member
      simpa using sorted.mem_iff.mp member
    have waitingDistinct : (db.waitingMissions.map MissionRow.missionId).Nodup := by
      rw [Database.waitingMissions, (sorted.map MissionRow.missionId).nodup_iff]
      exact distinct.sublist (List.filter_sublist.map _)
    obtain ⟨issued, isIssued, chain⟩ :=
      dispatchChain_of_planLoop looped (current_of_now nowEq) present waitingDistinct
    rw [List.nil_append] at isIssued
    subst isIssued
    obtain ⟨stillAccepted, stillCurrent⟩ := chain.accepted accepted (current_of_now nowEq)
    exact .inr ⟨⟨request, digest, now⟩, dispatched, rfl, accepted, chain, stillAccepted,
      stillCurrent, committedEq⟩

section Invariant

variable {P : Database → List (PlanContext × FleetDispatch) → Prop} (invariant : StoreInvariant P)
include invariant

variable {db : Database}

theorem StoreInvariant.dispatchChain {context : PlanContext} {after : Database}
    {selected issued : List FleetDispatch} (chain : DispatchChain context db issued after)
    (holds : P db (pendingOf context selected)) (accepted : Accepted db context) :
    P after (pendingOf context (selected ++ issued)) := by
  induction chain generalizing selected with
  | nil db =>
    rw [List.append_nil]
    exact holds
  | @cons db middle after row dispatch rest step later ih =>
    have continued := ih (invariant.dispatch accepted step holds) (step.accepted accepted)
    rwa [List.append_assoc, List.singleton_append] at continued

theorem StoreInvariant.plan {after : Database} {clock : ClockReading} {request : FleetPlanRequest}
    {dispatches : List FleetDispatch} (planned : db.plan clock request = .ok (after, dispatches))
    (holds : P db []) :
    P after [] := by
  rcases exists_dispatchChain_of_plan planned (invariant.distinct holds) with
    ⟨rfl, -⟩ | ⟨context, middle, -, accepted, chain, commit⟩
  · exact holds
  · have nonePending : P db (pendingOf context []) := holds
    have chainHolds := invariant.dispatchChain chain nonePending accepted
    rw [List.nil_append] at chainHolds
    exact invariant.commit commit chainHolds

theorem StoreInvariant.stepCall (call : FleetCall) (holds : P db []) :
    P (stepCall db call) [] := by
  rw [FleetCoordination.stepCall]
  split
  · rename_i after applied
    cases call with
    | registerMission depth clock spec =>
      rcases exists_registerStep applied with rfl | ⟨digest, now, step⟩
      · exact holds
      · exact invariant.register step holds
    | plan clock request =>
      rw [FleetCall.apply, map_eq_ok] at applied
      obtain ⟨⟨planned, dispatches⟩, plannedEq, rfl⟩ := applied
      exact invariant.plan plannedEq holds
    | requeue clock missionId dispatchId fencingToken evidenceRef =>
      rcases exists_endStep_of_requeue applied with rfl | ⟨row, now, step⟩
      · exact holds
      · exact invariant.finish step holds
    | recordTerminal clock missionId dispatchId fencingToken terminalState evidenceRef =>
      rcases exists_endStep_of_recordTerminal applied with rfl | ⟨row, _, _, now, step⟩
      · exact holds
      · exact invariant.finish step holds
  · exact holds

theorem StoreInvariant.runCalls (calls : List FleetCall) (holds : P db []) :
    P (runCalls db calls) [] := by
  induction calls generalizing db with
  | nil => exact holds
  | cons call calls ih => exact ih (invariant.stepCall call holds)

end Invariant

end FleetCoordination

end CyberLion
