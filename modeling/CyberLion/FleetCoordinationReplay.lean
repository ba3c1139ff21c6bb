import CyberLion.FleetCoordinationLifecycle

/-!
# Repeated requests of the fleet store

An accepted request that is repeated finds its own traces: the plan row, or
the columns of the mission that it set.  It is answered from them and changes
nothing, in every later state in which these traces last.
-/

namespace CyberLion

namespace FleetCoordination

open PyLib Json

variable {db after : Database} {clock : ClockReading}
  {missionId dispatchId fencingToken evidenceRef : PyStr}

/-! ### Requeues -/

/-- The arguments of `requeue` and `record_terminal` that their checks accept. -/
structure EndingArguments (missionId dispatchId fencingToken evidenceRef : PyStr) : Prop where
  mission : stateText (py "mission_id") missionId = .ok ()
  dispatch : stateDigest (py "dispatch_id") dispatchId = .ok ()
  token : stateDigest (py "fencing_token") fencingToken = .ok ()
  evidence : stateText (py "evidence_ref") evidenceRef = .ok ()
  bound : ∃ bytes, encodeUtf8 missionId = .ok bytes

structure WaitsAfter (row : MissionRow) (dispatchId fencingToken evidenceRef : PyStr) : Prop where
  state : row.state = .waiting
  dispatch : row.dispatchId = some dispatchId
  token : row.fencingToken = some fencingToken
  evidence : row.lastRequeueEvidenceRef = some evidenceRef

theorem requireMission_of_findMission {row : MissionRow}
    (bound : ∃ bytes, encodeUtf8 missionId = .ok bytes)
    (found : db.findMission missionId = some row) : db.requireMission missionId = .ok row := by
  obtain ⟨bytes, encoded⟩ := bound
  rw [Database.requireMission, encoded, ok_bind, found]

theorem findMission_of_requireMission {row : MissionRow}
    (required : db.requireMission missionId = .ok row) :
    (∃ bytes, encodeUtf8 missionId = .ok bytes) ∧ db.findMission missionId = some row := by
  simp only [Database.requireMission, bind_eq_ok] at required
  obtain ⟨bytes, encoded, rest⟩ := required
  refine ⟨⟨bytes, encoded⟩, ?_⟩
  split at rest
  · exact nomatch rest
  · rename_i found
    rw [found, Except.ok.inj rest]

theorem findMission_endDispatch {row : MissionRow} {change : PyStr → MissionRow → MissionRow}
    {eventType : EventType} {payload : Nat → List (PyStr × Json)} {now : PyStr}
    (keepsId : ∀ old, (change now old).missionId = old.missionId)
    (found : db.findMission missionId = some row)
    (ended : db.endDispatch row dispatchId change eventType payload now = .ok after) :
    after.findMission missionId = some (change now row) := by
  simp only [Database.endDispatch, bind_eq_ok, pure_eq_ok] at ended
  obtain ⟨logged, loggedEq, rfl⟩ := ended
  obtain ⟨event, -, rfl⟩ := exists_event_of_appendEvent loggedEq
  have updated := findMission_updateMission (db.release row.missionId dispatchId) row.missionId
    missionId keepsId
  have released : (db.release row.missionId dispatchId).findMission missionId = some row := found
  rw [released, Option.map_some, if_pos rfl] at updated
  exact updated

theorem waitsAfter_of_requeue
    (accepted : db.requeue clock missionId dispatchId fencingToken evidenceRef = .ok after) :
    EndingArguments missionId dispatchId fencingToken evidenceRef ∧
      ∃ row, after.findMission missionId = some row ∧
        WaitsAfter row dispatchId fencingToken evidenceRef := by
  simp only [Database.requeue, bind_eq_ok] at accepted
  obtain ⟨_, missionOk, _, dispatchOk, _, tokenOk, _, evidenceOk, row, required, rest⟩ := accepted
  obtain ⟨bound, found⟩ := findMission_of_requireMission required
  refine ⟨⟨missionOk, dispatchOk, tokenOk, evidenceOk, bound⟩, ?_⟩
  unfold Database.requeueRow at rest
  split at rest
  · rename_i waiting
    split at rest
    · rename_i same
      rw [← Except.ok.inj rest]
      exact ⟨row, found, waiting, same.1, same.2.1, same.2.2⟩
    · cases rest
  · split at rest
    · simp only [Database.requireActive, bind_eq_ok, raiseIf_eq_ok, not_or, ne_eq, not_not] at rest
      obtain ⟨_, active, now, -, _, -, ended⟩ := rest
      have isAfter := findMission_endDispatch (fun _ => rfl) found ended
      exact ⟨_, isAfter, rfl, active.1, active.2, rfl⟩
    · cases rest

theorem requeue_again {row : MissionRow}
    (arguments : EndingArguments missionId dispatchId fencingToken evidenceRef)
    (found : db.findMission missionId = some row)
    (waits : WaitsAfter row dispatchId fencingToken evidenceRef) (again : ClockReading) :
    db.requeue again missionId dispatchId fencingToken evidenceRef = .ok db := by
  rw [Database.requeue, arguments.mission, ok_bind, arguments.dispatch, ok_bind, arguments.token,
    ok_bind, arguments.evidence, ok_bind, requireMission_of_findMission arguments.bound found,
    ok_bind, Database.requeueRow, if_pos waits.state,
    if_pos ⟨waits.dispatch, waits.token, waits.evidence⟩]

theorem findMission_of_stillWaiting (holds : LeaseInvariant db) {row : MissionRow}
    (found : db.findMission missionId = some row) (waiting : row.state = .waiting)
    {calls : List FleetCall}
    (still : ∀ before, before <+: calls → ∃ later,
      (runCalls db before).findMission missionId = some later ∧ later.state = .waiting) :
    (runCalls db calls).findMission missionId = some row := by
  induction calls generalizing db with
  | nil => exact found
  | cons call calls ih =>
    have kept : (stepCall db call).findMission missionId = some row := by
      obtain ⟨moved, isMoved, step⟩ := missionStep_stepCall holds found call
      obtain ⟨later, isLater, stillWaiting⟩ := still [call] (by simp)
      rw [show runCalls db [call] = stepCall db call from rfl, isMoved] at isLater
      rw [← Option.some.inj isLater] at stillWaiting
      cases step with
      | refl => exact isMoved
      | single step =>
        rw [step.running_of_waiting waiting] at stillWaiting
        exact nomatch stillWaiting
    apply ih (storeInvariant_leaseInvariant.stepCall call holds) kept
    intro before isBefore
    exact still (call :: before) (by simpa using isBefore)

/-! ### Terminal states -/

structure EndedWith (row : MissionRow) (dispatchId fencingToken evidenceRef : PyStr)
    (state : MissionState) : Prop where
  isState : row.state = state
  terminal : state.isTerminal = true
  dispatch : row.dispatchId = some dispatchId
  token : row.fencingToken = some fencingToken
  evidence : row.terminalEvidenceRef = some evidenceRef

variable {terminalState : PyStr}

theorem endedWith_of_recordTerminal
    (accepted : db.recordTerminal clock missionId dispatchId fencingToken terminalState
      evidenceRef = .ok after) :
    EndingArguments missionId dispatchId fencingToken evidenceRef ∧
      ∃ state row, terminalStateOf terminalState = some state ∧
        after.findMission missionId = some row ∧
        EndedWith row dispatchId fencingToken evidenceRef state := by
  simp only [Database.recordTerminal, bind_eq_ok] at accepted
  obtain ⟨_, missionOk, _, dispatchOk, _, tokenOk, _, evidenceOk, rest⟩ := accepted
  split at rest
  · cases rest
  · rename_i state known
    rw [bind_eq_ok] at rest
    obtain ⟨row, required, rest⟩ := rest
    obtain ⟨bound, found⟩ := findMission_of_requireMission required
    have terminal := isTerminal_of_terminalStateOf known
    refine ⟨⟨missionOk, dispatchOk, tokenOk, evidenceOk, bound⟩, state, ?_⟩
    unfold Database.recordTerminalRow at rest
    split at rest
    · split at rest
      · rename_i same
        rw [← Except.ok.inj rest]
        exact ⟨row, known, found, same.1, terminal, same.2.1, same.2.2.1, same.2.2.2⟩
      · cases rest
    · split at rest
      · simp only [Database.requireActive, bind_eq_ok, raiseIf_eq_ok, not_or, ne_eq,
          not_not] at rest
        obtain ⟨_, active, now, -, _, -, ended⟩ := rest
        have isAfter := findMission_endDispatch (fun _ => rfl) found ended
        exact ⟨_, known, isAfter, rfl, terminal, active.1, active.2, rfl⟩
      · cases rest

theorem recordTerminal_again {row : MissionRow} {state : MissionState}
    (arguments : EndingArguments missionId dispatchId fencingToken evidenceRef)
    (known : terminalStateOf terminalState = some state)
    (found : db.findMission missionId = some row)
    (ended : EndedWith row dispatchId fencingToken evidenceRef state) (again : ClockReading) :
    db.recordTerminal again missionId dispatchId fencingToken terminalState evidenceRef =
      .ok db := by
  have terminal : row.state.isTerminal = true := by
    rw [ended.isState]
    exact ended.terminal
  rw [Database.recordTerminal, arguments.mission, ok_bind, arguments.dispatch, ok_bind,
    arguments.token, ok_bind, arguments.evidence, ok_bind, known]
  dsimp only
  rw [requireMission_of_findMission arguments.bound found, ok_bind, Database.recordTerminalRow,
    if_pos terminal, if_pos ⟨ended.isState, ended.dispatch, ended.token, ended.evidence⟩]

/-! ### Plans -/

/-- The store answers the request with the dispatches it recorded for it. -/
structure Answers (db : Database) (request : FleetPlanRequest) (dispatches : List FleetDispatch) :
    Prop where
  valid : request.validate = .ok ()
  coordinator : request.coordinatorId = db.coordinatorId
  recorded : ∃ digest plan, request.digest = .ok digest ∧
    (db.plans.find? fun row => row.requestId = request.requestId) = some plan ∧
    Database.planCached plan digest = .ok dispatches

variable {request : FleetPlanRequest} {dispatches : List FleetDispatch}

theorem Answers.plan (answers : Answers db request dispatches) (again : ClockReading) :
    db.plan again request = .ok (db, dispatches) := by
  obtain ⟨digest, plan, digested, found, cached⟩ := answers.recorded
  have sameCoordinator : raiseIf (request.coordinatorId ≠ db.coordinatorId)
      (stateError (py "plan coordinator mismatch")) = .ok () :=
    raiseIf_eq_ok.mpr (not_not.mpr answers.coordinator)
  rw [Database.plan, answers.valid, ok_bind, sameCoordinator, ok_bind, digested, ok_bind, found]
  dsimp only
  rw [cached, ok_bind]
  rfl

theorem answers_of_plan (distinct : (db.missions.map MissionRow.missionId).Nodup)
    (planned : db.plan clock request = .ok (after, dispatches)) :
    Answers after request dispatches := by
  rcases exists_dispatchChain_of_plan planned distinct with
    ⟨rfl, known, member, same⟩ | ⟨context, middle, rfl, accepted, chain, commit⟩
  · simp only [Database.plan, bind_eq_ok, raiseIf_eq_ok, ne_eq, not_not] at planned
    obtain ⟨_, valid, _, coordinator, digest, digested, rest⟩ := planned
    refine ⟨valid, coordinator, digest, ?_⟩
    split at rest
    · rename_i plan found
      simp only [bind_eq_ok, pure_eq_ok, Prod.mk.injEq, true_and] at rest
      obtain ⟨_, cached, rfl⟩ := rest
      exact ⟨plan, digested, found, cached⟩
    · rename_i fresh
      have differ := List.find?_eq_none.mp fresh known member
      exact absurd same (by simpa using differ)
  · obtain ⟨plan, event, resultBytes, requestBytes, resultEq, resultBytesEq, -, planEq, -, rfl⟩ :=
      commit.exists_plan
    have fresh : (middle.plans.find? fun row => row.requestId = context.request.requestId) =
        none := by
      rw [chain.frame.2, List.find?_eq_none]
      intro row member
      simpa using accepted.fresh row member
    have requestId : plan.requestId = context.request.requestId := by rw [planEq]
    have requestDigest : plan.requestDigest = context.requestDigest := by rw [planEq]
    have resultDigest : sha256 resultBytes = plan.resultDigest := by rw [planEq]
    have cached : Database.planCached plan context.requestDigest = .ok dispatches := by
      have sameDigest : raiseIf (plan.requestDigest ≠ context.requestDigest)
          (stateError (py "request_id replay substitution denied")) = .ok () :=
        raiseIf_eq_ok.mpr (not_not.mpr requestDigest)
      have sameResult : raiseIf (sha256 resultBytes ≠ plan.resultDigest)
          (stateError (py "stored plan result digest mismatch")) = .ok () :=
        raiseIf_eq_ok.mpr (not_not.mpr resultDigest)
      rw [Database.planCached, sameDigest, ok_bind, resultBytesEq, ok_bind, sameResult, ok_bind]
      exact (dispatchesFromJson_of_dispatchesJson resultEq).1
    refine ⟨accepted.valid, commit.accepted.coordinator, context.requestDigest, plan,
      accepted.digested, ?_, cached⟩
    have found : ((middle.plans ++ [plan]).find? fun row =>
        row.requestId = context.request.requestId) = some plan := by
      rw [List.find?_append, fresh, Option.none_or, List.find?_singleton, requestId]
      simp
    exact found

def KeepsPlans (start : Database) (db : Database) (_ : List (PlanContext × FleetDispatch)) :
    Prop :=
  LeaseInvariant db ∧ db.coordinatorId = start.coordinatorId ∧ start.plans <+: db.plans

theorem storeInvariant_keepsPlans (start : Database) : StoreInvariant (KeepsPlans start) where
  distinct := fun holds => holds.1.distinct
  register := fun step holds => by
    obtain ⟨_, -, -, -, -, plans, coordinator⟩ := step.tables
    refine ⟨storeInvariant_leaseInvariant.register step holds.1, coordinator.trans holds.2.1, ?_⟩
    rw [plans]
    exact holds.2.2
  dispatch := fun accepted step holds => by
    obtain ⟨-, plans, coordinator⟩ := step.frame
    refine ⟨leaseInvariant_of_dispatchStep holds.1 step, coordinator.trans holds.2.1, ?_⟩
    rw [plans]
    exact holds.2.2
  commit := fun step holds => by
    obtain ⟨missions, leases, -, coordinator⟩ := step.frame
    obtain ⟨plan, _, _, _, -, -, -, -, -, rfl⟩ := step.exists_plan
    exact ⟨holds.1.of_tables missions leases, coordinator.trans holds.2.1,
      holds.2.2.trans (List.prefix_append _ _)⟩
  finish := fun step holds => by
    have leases := storeInvariant_leaseInvariant.finish step holds.1
    obtain ⟨event, -, rfl⟩ := step.applied
    exact ⟨leases, holds.2.1, holds.2.2⟩

theorem Answers.runCalls (holds : LeaseInvariant db) (answers : Answers db request dispatches)
    (calls : List FleetCall) : Answers (runCalls db calls) request dispatches := by
  obtain ⟨-, coordinator, plans⟩ := (storeInvariant_keepsPlans db).runCalls calls
    ⟨holds, rfl, List.prefix_rfl⟩
  obtain ⟨digest, plan, digested, found, cached⟩ := answers.recorded
  refine ⟨answers.valid, answers.coordinator.trans coordinator.symm, digest, plan, digested, ?_,
    cached⟩
  obtain ⟨added, isAdded⟩ := plans
  rw [← isAdded, List.find?_append, found, Option.some_or]

/-- Another request under the same identifier is refused, or its text and the
recorded one are an explicit collision of the digest. -/
theorem Answers.plan_other (answers : Answers db request dispatches) {other : FleetPlanRequest}
    (sameId : other.requestId = request.requestId) (differ : other ≠ request)
    (again : ClockReading) :
    (∃ error, db.plan again other = .error error) ∨
      ∃ first second, canonicalJson (.obj request.fields) = .ok first ∧
        canonicalJson (.obj other.fields) = .ok second ∧ first ≠ second ∧
        sha256 first = sha256 second := by
  cases planned : db.plan again other with
  | error error => exact .inl ⟨error, rfl⟩
  | ok result =>
    right
    obtain ⟨digest, plan, digested, found, cached⟩ := answers.recorded
    simp only [Database.plan, sameId, found, bind_eq_ok] at planned
    obtain ⟨_, otherValid, _, -, otherDigest, otherDigested, _, otherCached, -⟩ := planned
    simp only [Database.planCached, bind_eq_ok, raiseIf_eq_ok, ne_eq, not_not]
      at cached otherCached
    obtain ⟨_, isDigest, -⟩ := cached
    obtain ⟨_, isOther, -⟩ := otherCached
    simp only [FleetPlanRequest.digest, FleetPlanRequest.canonicalDict, bind_eq_ok, pure_eq_ok]
      at digested otherDigested
    obtain ⟨_, ⟨_, -, rfl⟩, first, isFirst, rfl⟩ := digested
    obtain ⟨_, ⟨_, -, rfl⟩, second, isSecond, rfl⟩ := otherDigested
    refine ⟨first, second, isFirst, isSecond, ?_, isDigest.symm.trans isOther⟩
    rintro rfl
    have read := requestFromJson_of_canonicalJson answers.valid isFirst
    rw [requestFromJson_of_canonicalJson otherValid isSecond] at read
    exact differ (Except.ok.inj read)

/-! ### Fencing over runs -/

/-- What the fence of every mission promises in a state, for all calls that
come next. -/
structure Fenced (db : Database) : Prop where
  generation : ∀ missionId row more, db.findMission missionId = some row →
    ∃ later, (runCalls db more).findMission missionId = some later ∧
      row.generation ≤ later.generation
  stale : ∀ missionId row dispatchId fencingToken, db.findMission missionId = some row →
    ¬ (row.dispatchId = some dispatchId ∧ row.fencingToken = some fencingToken) →
    ∀ clock evidenceRef,
      stepCall db (.requeue clock missionId dispatchId fencingToken evidenceRef) = db ∧
      ∀ terminalState, stepCall db
        (.recordTerminal clock missionId dispatchId fencingToken terminalState evidenceRef) = db
  terminal : ∀ missionId row more, db.findMission missionId = some row →
    row.state.isTerminal = true → (runCalls db more).findMission missionId = some row
  dependencies : ∀ call : FleetCall, ∀ dispatch ∈ call.dispatches db, ∃ row spec,
    db.findMission dispatch.missionId = some row ∧ reconstructSpec row = .ok spec ∧
    ∀ dependency ∈ spec.dependencies, ∃ done, db.findMission dependency = some done ∧
      done.state = .done

/-- What an accepted request promises of its repetitions, in all later states. -/
structure Replayable (db : Database) : Prop where
  plan : ∀ {clock request after dispatches}, db.plan clock request = .ok (after, dispatches) →
    ∀ more again, (runCalls after more).plan again request =
      .ok (runCalls after more, dispatches)
  planOther : ∀ {clock request after dispatches},
    db.plan clock request = .ok (after, dispatches) →
    ∀ more again other, other.requestId = request.requestId → other ≠ request →
      (∃ error, (runCalls after more).plan again other = .error error) ∨
        ∃ first second, canonicalJson (.obj request.fields) = .ok first ∧
          canonicalJson (.obj other.fields) = .ok second ∧ first ≠ second ∧
          sha256 first = sha256 second
  requeue : ∀ {clock missionId dispatchId fencingToken evidenceRef after},
    db.requeue clock missionId dispatchId fencingToken evidenceRef = .ok after →
    ∀ more again, (∀ before, before <+: more → ∃ later,
        (runCalls after before).findMission missionId = some later ∧ later.state = .waiting) →
      (runCalls after more).requeue again missionId dispatchId fencingToken evidenceRef =
        .ok (runCalls after more)
  recordTerminal : ∀ {clock missionId dispatchId fencingToken terminalState evidenceRef after},
    db.recordTerminal clock missionId dispatchId fencingToken terminalState evidenceRef =
      .ok after →
    ∀ more again, (runCalls after more).recordTerminal again missionId dispatchId fencingToken
      terminalState evidenceRef = .ok (runCalls after more)

theorem fenced_of_coherent {specs : List FleetCoordinationSpec} (holds : Coherent db specs []) :
    Fenced db where
  generation := by
    intro missionId row more found
    obtain ⟨later, isLater, steps⟩ := missionSteps_runCalls holds.leases found more
    exact ⟨later, isLater, generation_le_of_reflTransGen steps⟩
  stale := fun _ _ _ _ found stale clock evidenceRef => stepCall_stale found stale clock evidenceRef
  terminal := by
    intro missionId row more found terminal
    obtain ⟨later, isLater, steps⟩ := missionSteps_runCalls holds.leases found more
    rw [isLater, eq_of_reflTransGen_of_isTerminal steps terminal]
  dependencies := by
    intro call dispatch member
    obtain ⟨row, -, found, -, done, -⟩ :=
      (exists_row_of_mem_dispatches holds.leases call).2 dispatch member
    obtain ⟨rowMember, rowId⟩ := findMission_eq_some found
    obtain ⟨spec, specMember, stores⟩ := holds.exists_spec rowMember
    refine ⟨row, spec, found, stores.reconstructSpec, ?_⟩
    intro dependency declared
    rw [← holds.edges spec specMember, ← stores.missionId, rowId, dependenciesOf,
      List.mem_map] at declared
    obtain ⟨edge, edgeMember, rfl⟩ := declared
    rw [Database.dependenciesDone, List.all_eq_true] at done
    simpa only [Option.any_eq_true, decide_eq_true_eq] using done edge edgeMember

theorem leaseInvariant_of_apply (holds : LeaseInvariant db) (call : FleetCall)
    (applied : call.apply db = .ok after) : LeaseInvariant after := by
  have stepped := storeInvariant_leaseInvariant.stepCall call holds
  rwa [stepCall, applied] at stepped

theorem answers_of_plan_runCalls (holds : LeaseInvariant db)
    (planned : db.plan clock request = .ok (after, dispatches)) (calls : List FleetCall) :
    Answers (runCalls after calls) request dispatches := by
  have applied : FleetCall.apply db (.plan clock request) = .ok after := by
    rw [FleetCall.apply, planned]
    rfl
  exact (answers_of_plan holds.distinct planned).runCalls
    (leaseInvariant_of_apply holds (.plan clock request) applied) calls

theorem replayable_of_leaseInvariant (holds : LeaseInvariant db) : Replayable db where
  plan := by
    intro clock request after dispatches planned more again
    exact (answers_of_plan_runCalls holds planned more).plan again
  planOther := by
    intro clock request after dispatches planned more again other sameId differ
    exact (answers_of_plan_runCalls holds planned more).plan_other sameId differ again
  requeue := by
    intro clock missionId dispatchId fencingToken evidenceRef after accepted more again still
    have afterHolds := leaseInvariant_of_apply holds
      (.requeue clock missionId dispatchId fencingToken evidenceRef) accepted
    obtain ⟨arguments, row, found, waits⟩ := waitsAfter_of_requeue accepted
    exact requeue_again arguments
      (findMission_of_stillWaiting afterHolds found waits.state still) waits again
  recordTerminal := by
    intro clock missionId dispatchId fencingToken terminalState evidenceRef after accepted more
      again
    have afterHolds := leaseInvariant_of_apply holds
      (.recordTerminal clock missionId dispatchId fencingToken terminalState evidenceRef) accepted
    obtain ⟨arguments, state, row, known, found, ended⟩ := endedWith_of_recordTerminal accepted
    have terminal : row.state.isTerminal = true := by
      rw [ended.isState]
      exact ended.terminal
    obtain ⟨later, isLater, steps⟩ := missionSteps_runCalls afterHolds found more
    rw [eq_of_reflTransGen_of_isTerminal steps terminal] at isLater
    exact recordTerminal_again arguments known isLater ended again

/-- Every state that a run reaches is fenced and answers repeated requests, and
the dispatches of a mission have growing generations along the run. -/
theorem runCalls_fenced (coordinatorId : PyStr) (calls : List FleetCall) :
    Fenced (runCalls (emptyDatabase coordinatorId) calls) ∧
    Replayable (runCalls (emptyDatabase coordinatorId) calls) ∧
    (dispatchLog (emptyDatabase coordinatorId) calls).Pairwise fun earlier later =>
      earlier.missionId = later.missionId → earlier.generation < later.generation := by
  obtain ⟨specs, coherent⟩ := storeInvariant_coherent.runCalls calls
    ⟨[], coherent_emptyDatabase coordinatorId⟩
  exact ⟨fenced_of_coherent coherent, replayable_of_leaseInvariant coherent.leases,
    pairwise_dispatchLog (leaseInvariant_emptyDatabase coordinatorId) calls⟩

end FleetCoordination

end CyberLion
