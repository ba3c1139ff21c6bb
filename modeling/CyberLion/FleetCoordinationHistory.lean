import CyberLion.FleetCoordinationLeases
import CyberLion.FleetCoordinationRecords

/-!
# The event history of the store

Every writer appends events that the verifier accepts: the digests form one
chain, the times do not decrease, and the replay of the events gives the rows
of the mission table.
-/

namespace CyberLion

namespace FleetCoordination

open PyLib Json

/-! ### Events are read back -/

section Event

variable {db : Database} {eventType : EventType} {missionId : Option PyStr}
  {payload : List (PyStr × Json)} {observedAt : PyStr} {event : EventRow}

theorem IsEvent.loads_payload
    (isEvent : IsEvent db eventType missionId payload observedAt event)
    (plain : Plain (.obj payload)) :
    loads plainHooks event.payloadJson = .ok (.obj (sortFields (sortMembers payload))) := by
  obtain ⟨bytes, written, text⟩ := isEvent.payload
  rw [text, plain.loads_dumps (canonicalJson_eq_ok.mp written), sortKeys]

theorem eventDigestOf_sorted (previous : PyStr) :
    eventDigestOf previous eventType missionId (sortFields (sortMembers payload)) observedAt =
      eventDigestOf previous eventType missionId payload observedAt := by
  have sorted : Json.obj (sortFields (sortMembers payload)) = (Json.obj payload).sortKeys := by
    rw [sortKeys]
  have sameText : ∀ value : Json, dumps false true (.obj [(py "previous_digest", .str previous),
      (py "event_type", .str eventType.text), (py "mission_id", optionalText missionId),
      (py "payload", value.sortKeys), (py "observed_at", .str observedAt)]) =
      dumps false true (.obj [(py "previous_digest", .str previous),
      (py "event_type", .str eventType.text), (py "mission_id", optionalText missionId),
      (py "payload", value), (py "observed_at", .str observedAt)]) := by
    intro value
    simp only [dumps, isPrintable, membersPrintable, isPrintable_sortKeys, sortKeys, sortMembers,
      sortKeys_sortKeys, if_true]
  rw [eventDigestOf, eventDigestOf, canonicalJson, canonicalJson, sorted, sameText]

end Event

/-! ### The chain -/

def Chained (db : Database) : Prop :=
  ∃ lastTime, db.events.foldlM verifyEvent (zeroDigest, none) = .ok (db.eventHead, lastTime) ∧
    ∀ last ∈ lastTime, ∃ event, db.events.getLast? = some event ∧
      parseTime event.observedAt = .ok last

theorem chained_emptyDatabase (coordinatorId : PyStr) : Chained (emptyDatabase coordinatorId) :=
  ⟨none, rfl, by simp⟩

theorem Chained.of_events {db other : Database} (chained : Chained db)
    (events : other.events = db.events) (head : other.eventHead = db.eventHead) :
    Chained other := by
  unfold Chained
  rw [events, head]
  exact chained

theorem Chained.withEvent {db : Database} {eventType : EventType} {missionId : Option PyStr}
    {payload : List (PyStr × Json)} {now : PyStr} {event : EventRow} (chained : Chained db)
    (isEvent : IsEvent db eventType missionId payload now event)
    (plain : Plain (.obj payload)) (current : Current db now) :
    Chained (db.withEvent event) := by
  obtain ⟨lastTime, walked, lastEvent⟩ := chained
  obtain ⟨time, written⟩ := current.written
  have read : parseTime event.observedAt = .ok time := by
    rw [isEvent.observedAt, written]
    exact parseTime_isoformatUtc time
  have ordered : ¬ ∃ last ∈ lastTime, time.packed < last.packed := by
    rintro ⟨last, member, earlier⟩
    obtain ⟨previous, isLast, previousTime⟩ := lastEvent last member
    have readNow : parseTime now = .ok time := isEvent.observedAt ▸ read
    have notBefore := (notBefore_eq_ok isLast readNow previousTime).mp current.notBefore
    omega
  have accepted : verifyEvent (db.eventHead, lastTime) event =
      .ok (event.eventDigest, some time) := by
    have digest : eventDigestOf db.eventHead event.eventType event.missionId
        (sortFields (sortMembers payload)) event.observedAt = .ok event.eventDigest := by
      rw [eventDigestOf_sorted, isEvent.eventType, isEvent.missionId, isEvent.observedAt]
      exact isEvent.digest
    have linked : ¬ (event.previousDigest ≠ db.eventHead ∨
        event.eventDigest ≠ event.eventDigest ∨ event.eventId ≠ event.eventDigest) := by
      simp [isEvent.previous, isEvent.eventId]
    rw [verifyEvent, isEvent.loads_payload plain]
    simp only [rethrow, ok_bind, digest, read, raiseIf, if_neg ordered, if_neg linked]
    rfl
  refine ⟨some time, ?_, ?_⟩
  · change (db.events ++ [event]).foldlM verifyEvent (zeroDigest, none) = _
    rw [List.foldlM_append, walked, ok_bind, List.foldlM_cons, accepted, ok_bind]
    rfl
  · intro last member
    rw [Option.mem_some_iff] at member
    subst member
    exact ⟨event, List.getLast?_concat, read⟩

/-! ### The replay -/

def entryOf (row : MissionRow) : ReplayEntry where
  state := .str row.state.text
  generation := .int row.generation
  dispatchId := optionalText row.dispatchId
  fencingToken := optionalText row.fencingToken
  terminalEvidenceRef := optionalText row.terminalEvidenceRef
  lastRequeueEvidenceRef := optionalText row.lastRequeueEvidenceRef

def replayOf (missions : List MissionRow) : Replay :=
  missions.map fun row => (some row.missionId, entryOf row)

def Replayed (db : Database) : Prop :=
  db.events.foldlM replayEvent [] = .ok (replayOf db.missions)

theorem keys_replayOf (missions : List MissionRow) :
    (replayOf missions).map Prod.fst = missions.map fun row => some row.missionId := by
  rw [replayOf, List.map_map]
  rfl

variable {missions : List MissionRow} {context : PlanContext} {selected : List FleetDispatch}

theorem nodup_keys_replayOf (distinct : (missions.map MissionRow.missionId).Nodup) :
    ((replayOf missions).map Prod.fst).Nodup := by
  have keys : (replayOf missions).map Prod.fst =
      (missions.map MissionRow.missionId).map some := by
    rw [keys_replayOf, List.map_map]
    rfl
  rw [keys]
  exact distinct.map (Option.some_injective _)

theorem replayedEntry_replayOf {row : MissionRow}
    (distinct : (missions.map MissionRow.missionId).Nodup) (member : row ∈ missions) :
    replayedEntry (replayOf missions) (some row.missionId) = .ok (entryOf row) := by
  have found : (replayOf missions).lookup (some row.missionId) = some (entryOf row) :=
    lookup_of_mem (nodup_keys_replayOf distinct) (List.mem_map.mpr ⟨row, member, rfl⟩)
  rw [replayedEntry, found]

theorem dictSet_replayOf {row : MissionRow} {change : MissionRow → MissionRow}
    (distinct : (missions.map MissionRow.missionId).Nodup) (member : row ∈ missions)
    (keepsId : (change row).missionId = row.missionId) :
    dictSet (some row.missionId) (entryOf (change row)) (replayOf missions) =
      replayOf (missions.map fun other =>
        if other.missionId = row.missionId then change other else other) := by
  induction missions with
  | nil => simp at member
  | cons first missions ih =>
    rw [List.map_cons, List.nodup_cons] at distinct
    rw [replayOf, List.map_cons, dictSet]
    rcases List.mem_cons.mp member with rfl | later
    · have others : missions.map (fun other =>
          if other.missionId = row.missionId then change other else other) = missions := by
        conv_rhs => rw [← List.map_id missions]
        apply List.map_congr_left
        intro other otherMember
        apply if_neg
        intro same
        exact distinct.1 (same ▸ List.mem_map_of_mem otherMember)
      rw [if_pos (by simp), List.map_cons, others, if_pos rfl, replayOf, List.map_cons, keepsId]
    · have differ : first.missionId ≠ row.missionId := by
        intro same
        exact distinct.1 (same ▸ List.mem_map_of_mem later)
      rw [if_neg (by simpa using differ), List.map_cons, if_neg differ]
      exact congrArg _ (ih distinct.2 later)

theorem Replayed.append {db after : Database} {event : EventRow} (replayed : Replayed db)
    (events : after.events = db.events ++ [event])
    (accepted : replayEvent (replayOf db.missions) event = .ok (replayOf missions))
    (rows : after.missions = missions) : Replayed after := by
  rw [Replayed, events, List.foldlM_append, replayed, ok_bind, List.foldlM_cons, accepted,
    ok_bind, rows]
  rfl

theorem payloadField_sorted {fields : List (PyStr × Json)}
    (distinct : (fields.map Prod.fst).Nodup) (key : PyStr) (value : Json)
    (member : (key, value) ∈ fields) :
    payloadField (.obj (sortFields (sortMembers fields))) key = .ok value.sortKeys :=
  fieldOf_sorted distinct key member

/-! ### The payloads -/

def registeredPayload (spec : FleetCoordinationSpec) (digest : PyStr) : List (PyStr × Json) :=
  [(py "drone_id", .str spec.droneId), (py "spec_digest", .str digest)]

theorem plain_registeredPayload (spec : FleetCoordinationSpec) (digest : PyStr) :
    Plain (.obj (registeredPayload spec digest)) := by
  apply Plain.obj
  · change [py "drone_id", py "spec_digest"].Nodup
    decide
  · simp [registeredPayload]

theorem distinct_dispatchedPayload (context : PlanContext) (row : MissionRow)
    (dispatch : FleetDispatch) :
    ((dispatchedPayload context row dispatch).map Prod.fst).Nodup := by
  change [py "request_id", py "request_digest", py "dispatch_id", py "fencing_token",
    py "generation", py "spec_digest"].Nodup
  decide

theorem plain_dispatchedPayload (context : PlanContext) (row : MissionRow)
    (dispatch : FleetDispatch) : Plain (.obj (dispatchedPayload context row dispatch)) := by
  apply Plain.obj (distinct_dispatchedPayload context row dispatch)
  simp [dispatchedPayload]

theorem Ending.distinct_payload (ending : Ending) (dispatchId : PyStr) (generation : Int)
    (released : Nat) :
    ((ending.payload dispatchId generation released).map Prod.fst).Nodup := by
  cases ending with
  | requeue evidenceRef =>
    change [py "dispatch_id", py "generation", py "evidence_ref",
      py "released_lease_count"].Nodup
    decide
  | terminal state isTerminal evidenceRef =>
    change [py "dispatch_id", py "generation", py "terminal_state", py "evidence_ref",
      py "released_lease_count"].Nodup
    decide

theorem Ending.plain_payload (ending : Ending) (dispatchId : PyStr) (generation : Int)
    (released : Nat) : Plain (.obj (ending.payload dispatchId generation released)) := by
  apply Plain.obj (ending.distinct_payload dispatchId generation released)
  cases ending <;> simp [Ending.payload, Database.requeuedPayload, Database.terminalPayload]

theorem plain_committedPayload (context : PlanContext) (resultDigest : PyStr)
    (dispatchIds : List PyStr) :
    Plain (.obj [(py "request_id", .str context.request.requestId),
      (py "request_digest", .str context.requestDigest),
      (py "result_digest", .str resultDigest), (py "dispatch_ids", textList dispatchIds)]) := by
  apply Plain.obj
  · change [py "request_id", py "request_digest", py "result_digest", py "dispatch_ids"].Nodup
    decide
  · simp

/-! ### Every step extends the chain -/

theorem chained_of_registerStep {db after : Database} {spec : FleetCoordinationSpec}
    {digest now : PyStr} (chained : Chained db) (step : RegisterStep db spec digest now after) :
    Chained after := by
  obtain ⟨inserted, event, insertedEq, isEvent, rfl⟩ := step.applied
  have sameHistory : inserted.events = db.events ∧ inserted.eventHead = db.eventHead := by
    simp only [Database.insertMission, bind_eq_ok, pure_eq_ok, raiseIf_eq_ok] at insertedEq
    obtain ⟨_, -, _, -, _, -, _, -, rfl⟩ := insertedEq
    exact ⟨rfl, rfl⟩
  have extended := (chained.of_events sameHistory.1 sameHistory.2).withEvent isEvent
    (plain_registeredPayload spec digest) (step.current.of_events sameHistory.1)
  exact extended.of_events rfl rfl

theorem chained_of_dispatchStep {db after : Database} {row : MissionRow} {dispatch : FleetDispatch}
    (chained : Chained db) (step : DispatchStep db context row dispatch after) : Chained after := by
  obtain ⟨leases, event, -, isEvent, rfl⟩ := step.applied
  have extended := chained.withEvent isEvent (plain_dispatchedPayload context row dispatch)
    step.current
  exact extended.of_events rfl rfl

theorem chained_of_endStep {db after : Database} {row : MissionRow} {dispatchId now : PyStr}
    {ending : Ending} (chained : Chained db)
    (step : EndStep db row dispatchId ending now after) : Chained after := by
  obtain ⟨event, isEvent, rfl⟩ := step.applied
  have extended := chained.withEvent isEvent (ending.plain_payload _ _ _) step.current
  exact extended.of_events rfl rfl

theorem CommitStep.exists_plan {db after : Database} (step : CommitStep db context selected after) :
    ∃ plan event resultBytes requestBytes,
      dispatchesJson selected = .ok plan.resultJson ∧
      encodeUtf8 plan.resultJson = .ok resultBytes ∧
      canonicalJson (.obj context.request.fields) = .ok requestBytes ∧
      plan = ⟨context.request.requestId, context.requestDigest, requestBytes.text,
        plan.resultJson, sha256 resultBytes, context.now⟩ ∧
      IsEvent db .planCommitted none
        [(py "request_id", .str context.request.requestId),
          (py "request_digest", .str context.requestDigest),
          (py "result_digest", .str (sha256 resultBytes)),
          (py "dispatch_ids", textList (selected.map FleetDispatch.dispatchId))]
        context.now event ∧
      after = (Database.withEvent { db with plans := db.plans ++ [plan] } event).bump := by
  have committed := step.committed
  simp only [Database.commitPlan, FleetPlanRequest.canonicalDict, bind_eq_ok, pure_eq_ok]
    at committed
  obtain ⟨result, resultEq, resultBytes, resultBytesEq, request, ⟨_, -, rfl⟩, requestBytes,
    requestBytesEq, logged, loggedEq, rfl⟩ := committed
  obtain ⟨event, isEvent, rfl⟩ := exists_event_of_appendEvent loggedEq
  exact ⟨⟨context.request.requestId, context.requestDigest, requestBytes.text, result,
    sha256 resultBytes, context.now⟩, event, resultBytes, requestBytes, resultEq, resultBytesEq,
    requestBytesEq, rfl, ⟨isEvent.digest, isEvent.payload, isEvent.eventId, isEvent.eventType,
    isEvent.missionId, isEvent.previous, isEvent.observedAt⟩, rfl⟩

theorem chained_of_commitStep {db after : Database} (chained : Chained db)
    (step : CommitStep db context selected after) : Chained after := by
  obtain ⟨plan, event, resultBytes, _, -, -, -, -, isEvent, rfl⟩ := step.exists_plan
  have extended := chained.withEvent isEvent (plain_committedPayload context _ _) step.current
  exact extended.of_events rfl rfl

/-! ### The replay follows every step -/

theorem replayed_of_registerStep {db after : Database} {spec : FleetCoordinationSpec}
    {digest now : PyStr} (replayed : Replayed db)
    (step : RegisterStep db spec digest now after) : Replayed after := by
  obtain ⟨inserted, event, insertedEq, isEvent, rfl⟩ := step.applied
  simp only [Database.insertMission, bind_eq_ok, pure_eq_ok, raiseIf_eq_ok] at insertedEq
  obtain ⟨scopeJson, -, dependenciesJson, -, evidenceJson, -, _, -, rfl⟩ := insertedEq
  apply replayed.append rfl _ rfl
  have fresh : some spec.missionId ∉ (replayOf db.missions).map Prod.fst := by
    rw [keys_replayOf]
    intro known
    obtain ⟨row, member, same⟩ := List.mem_map.mp known
    have absent := List.find?_eq_none.mp step.fresh row member
    simp [Option.some.inj same] at absent
  rw [replayEvent, isEvent.loads_payload (plain_registeredPayload spec digest), ok_bind,
    isEvent.eventType, isEvent.missionId]
  dsimp only
  rw [dictSet_of_notMem _ fresh, pure_eq_ok]
  have extended : replayOf (db.missions ++
      [registeredRow spec digest scopeJson dependenciesJson evidenceJson now]) =
      replayOf db.missions ++ [(some spec.missionId, registeredEntry)] :=
    List.map_append
  exact extended.symm

theorem replayed_of_dispatchStep {db after : Database} {row : MissionRow} {dispatch : FleetDispatch}
    (replayed : Replayed db) (distinct : (db.missions.map MissionRow.missionId).Nodup)
    (step : DispatchStep db context row dispatch after) : Replayed after := by
  obtain ⟨leases, event, -, isEvent, rfl⟩ := step.applied
  have keys := distinct_dispatchedPayload context row dispatch
  apply replayed.append rfl _ rfl
  have changed : replayChange .missionDispatched
      (.obj (sortFields (sortMembers (dispatchedPayload context row dispatch)))) (entryOf row) =
      .ok (entryOf (row.dispatched dispatch context.now)) := by
    rw [replayChange,
      payloadField_sorted keys (py "generation") (.int dispatch.generation)
        (by simp [dispatchedPayload]), ok_bind,
      payloadField_sorted keys (py "dispatch_id") (.str dispatch.dispatchId)
        (by simp [dispatchedPayload]), ok_bind,
      payloadField_sorted keys (py "fencing_token") (.str dispatch.fencingToken)
        (by simp [dispatchedPayload]), ok_bind]
    rfl
  rw [replayEvent, isEvent.loads_payload (plain_dispatchedPayload context row dispatch), ok_bind,
    isEvent.eventType, isEvent.missionId]
  dsimp only
  rw [replayedEntry_replayOf distinct step.present, ok_bind, changed, ok_bind, pure_eq_ok]
  exact dictSet_replayOf distinct step.present rfl

theorem replayed_of_endStep {db after : Database} {row : MissionRow} {dispatchId now : PyStr}
    {ending : Ending} (replayed : Replayed db)
    (distinct : (db.missions.map MissionRow.missionId).Nodup)
    (step : EndStep db row dispatchId ending now after) : Replayed after := by
  obtain ⟨event, isEvent, rfl⟩ := step.applied
  have keys := ending.distinct_payload dispatchId row.generation
    (db.ownedLeases row.missionId dispatchId).length
  apply replayed.append rfl _ rfl
  have changed : replayChange ending.eventType (.obj (sortFields (sortMembers
      (ending.payload dispatchId row.generation
        (db.ownedLeases row.missionId dispatchId).length)))) (entryOf row) =
      .ok (entryOf (ending.change now row)) := by
    cases ending with
    | requeue evidenceRef =>
      rw [Ending.eventType, replayChange, payloadField_sorted keys (py "evidence_ref")
        (.str evidenceRef) (by simp [Ending.payload, Database.requeuedPayload]), ok_bind]
      rfl
    | terminal state isTerminal evidenceRef =>
      rw [Ending.eventType, replayChange,
        payloadField_sorted keys (py "terminal_state") (.str state.text)
          (by simp [Ending.payload, Database.terminalPayload]), ok_bind,
        payloadField_sorted keys (py "evidence_ref") (.str evidenceRef)
          (by simp [Ending.payload, Database.terminalPayload]), ok_bind]
      rfl
  have keepsId : (ending.change now row).missionId = row.missionId := by
    cases ending <;> rfl
  have rounds : replayEvent (replayOf db.missions) event =
      .ok (dictSet (some row.missionId) (entryOf (ending.change now row))
        (replayOf db.missions)) := by
    rw [replayEvent, isEvent.loads_payload (ending.plain_payload _ _ _), ok_bind,
      isEvent.eventType, isEvent.missionId]
    cases ending with
    | requeue evidenceRef =>
      dsimp only [Ending.eventType] at changed ⊢
      rw [replayedEntry_replayOf distinct step.present, ok_bind, changed]
      rfl
    | terminal state isTerminal evidenceRef =>
      dsimp only [Ending.eventType] at changed ⊢
      rw [replayedEntry_replayOf distinct step.present, ok_bind, changed]
      rfl
  rw [rounds, dictSet_replayOf distinct step.present keepsId]
  rfl

theorem replayed_of_commitStep {db after : Database} (replayed : Replayed db)
    (step : CommitStep db context selected after) : Replayed after := by
  obtain ⟨plan, event, resultBytes, _, -, -, -, -, isEvent, rfl⟩ := step.exists_plan
  apply replayed.append rfl _ rfl
  rw [replayEvent, isEvent.loads_payload (plain_committedPayload context _ _), ok_bind,
    isEvent.eventType]
  rfl

end FleetCoordination

end CyberLion
