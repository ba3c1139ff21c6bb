import CyberLion.FleetCoordinationOpen

/-!
# The life of a mission

Seen through one mission the store is a small machine: a mission that starts
or waits is dispatched under the next generation, a mission that runs waits
again or ends, and nothing else changes its row.  Fencing, the finality of
terminal states and the answers to repeated requests are read off this
machine.
-/

namespace CyberLion

namespace FleetCoordination

open PyLib Json

/-! ### The machine -/

inductive MissionStep : MissionRow → MissionRow → Prop
  | dispatch {row : MissionRow} (ready : row.state = .starting ∨ row.state = .waiting)
      (dispatch : FleetDispatch) (next : dispatch.generation = row.generation + 1) (now : PyStr) :
      MissionStep row (row.dispatched dispatch now)
  | finish {row : MissionRow} (running : row.state = .running) (ending : Ending) (now : PyStr) :
      MissionStep row (ending.change now row)

namespace MissionStep

variable {row after : MissionRow}

theorem generation_le (step : MissionStep row after) : row.generation ≤ after.generation := by
  cases step with
  | dispatch ready dispatch next now =>
    have raised : (row.dispatched dispatch now).generation = row.generation + 1 := next
    omega
  | finish running ending now => rw [(ending.change_keeps now row).2.2.1]

theorem not_isTerminal (step : MissionStep row after) : row.state.isTerminal = false := by
  cases step with
  | dispatch ready dispatch next now => rcases ready with isState | isState <;> rw [isState] <;> rfl
  | finish running ending now =>
    rw [running]
    rfl

theorem running_of_waiting (step : MissionStep row after) (waiting : row.state = .waiting) :
    after.state = .running := by
  cases step with
  | dispatch ready dispatch next now => rfl
  | finish running ending now =>
    rw [waiting] at running
    exact nomatch running

end MissionStep

theorem generation_le_of_reflTransGen {row after : MissionRow}
    (steps : Relation.ReflTransGen MissionStep row after) : row.generation ≤ after.generation := by
  induction steps with
  | refl => exact le_rfl
  | tail _ step ih => exact ih.trans step.generation_le

theorem eq_of_reflTransGen_of_isTerminal {row after : MissionRow}
    (steps : Relation.ReflTransGen MissionStep row after) (terminal : row.state.isTerminal = true) :
    after = row := by
  rcases Relation.ReflTransGen.cases_head steps with rfl | ⟨middle, step, -⟩
  · rfl
  · rw [step.not_isTerminal] at terminal
    exact nomatch terminal

/-! ### Rows after a step -/

theorem findMission_eq_some {db : Database} {missionId : PyStr} {row : MissionRow}
    (found : db.findMission missionId = some row) :
    row ∈ db.missions ∧ row.missionId = missionId :=
  ⟨List.mem_of_find?_eq_some found, by simpa using List.find?_some found⟩

theorem findMission_of_mem {db : Database} {row : MissionRow}
    (distinct : (db.missions.map MissionRow.missionId).Nodup) (member : row ∈ db.missions) :
    db.findMission row.missionId = some row := by
  cases found : db.findMission row.missionId with
  | none =>
    have differ := List.find?_eq_none.mp found row member
    simp at differ
  | some other =>
    obtain ⟨otherMember, same⟩ := findMission_eq_some found
    rw [eq_of_missionId_eq distinct otherMember member same]

theorem findMission_updateMission (db : Database) (missionId other : PyStr)
    {change : MissionRow → MissionRow} (keepsId : ∀ row, (change row).missionId = row.missionId) :
    (db.updateMission missionId change).findMission other = (db.findMission other).map fun row =>
      if row.missionId = missionId then change row else row := by
  rw [Database.findMission, Database.updateMission, List.find?_map, Database.findMission]
  congr 2
  funext row
  rw [Function.comp_apply]
  split
  · rw [keepsId]
  · rfl

theorem findMission_congr {db after : Database} (same : after.missions = db.missions) :
    after.findMission = db.findMission := by
  funext missionId
  rw [Database.findMission, Database.findMission, same]

section Dispatch

variable {db middle after : Database} {context : PlanContext} {row : MissionRow}
  {dispatch : FleetDispatch} {issued : List FleetDispatch}

theorem DispatchStep.identity (step : DispatchStep db context row dispatch after) :
    dispatch.missionId = row.missionId ∧ dispatch.generation = row.generation + 1 := by
  obtain ⟨_, _, -, -, shape⟩ := exists_bytes_of_buildDispatch step.built
  rw [shape]
  exact ⟨rfl, rfl⟩

theorem DispatchStep.findMission (step : DispatchStep db context row dispatch after)
    (missionId : PyStr) :
    after.findMission missionId = (db.findMission missionId).map fun old =>
      if old.missionId = row.missionId then old.dispatched dispatch context.now else old := by
  rw [findMission_congr step.tables.1]
  exact findMission_updateMission db row.missionId missionId fun _ => rfl

theorem DispatchStep.distinct (step : DispatchStep db context row dispatch after)
    (distinct : (db.missions.map MissionRow.missionId).Nodup) :
    (after.missions.map MissionRow.missionId).Nodup := by
  have kept := missionIds_updateMission db row.missionId
    (fun _ => rfl : ∀ old, (MissionRow.dispatched dispatch context.now old).missionId = old.missionId)
  rw [step.tables.1, kept]
  exact distinct

theorem DispatchStep.findMission_self (step : DispatchStep db context row dispatch after)
    (distinct : (db.missions.map MissionRow.missionId).Nodup) :
    db.findMission dispatch.missionId = some row ∧
      after.findMission dispatch.missionId = some (row.dispatched dispatch context.now) := by
  have found := findMission_of_mem distinct step.present
  rw [step.findMission, step.identity.1, found]
  refine ⟨rfl, ?_⟩
  rw [Option.map_some, if_pos rfl]

theorem DispatchChain.findMission (chain : DispatchChain context db issued after)
    (distinct : (db.missions.map MissionRow.missionId).Nodup) {missionId : PyStr}
    {found : MissionRow} (isFound : db.findMission missionId = some found) :
    after.findMission missionId = some found ∨
      ∃ dispatch, (found.state = .starting ∨ found.state = .waiting) ∧
        dispatch.generation = found.generation + 1 ∧
        after.findMission missionId = some (found.dispatched dispatch context.now) := by
  induction chain generalizing found with
  | nil db => exact .inl isFound
  | @cons db middle after row dispatch rest step later ih =>
    have foundMiddle := step.findMission missionId
    rw [isFound, Option.map_some] at foundMiddle
    by_cases same : found.missionId = row.missionId
    · -- the dispatched mission runs, so no later step of the chain changes it
      obtain rfl : found = row := eq_of_missionId_eq distinct (findMission_eq_some isFound).1
        step.present same
      rw [if_pos rfl] at foundMiddle
      refine .inr ⟨dispatch, step.ready, step.identity.2, ?_⟩
      rcases ih (step.distinct distinct) foundMiddle with kept | ⟨_, ready, -⟩
      · exact kept
      · exact absurd ready (by simp [MissionRow.dispatched])
    · rw [if_neg same] at foundMiddle
      exact ih (step.distinct distinct) foundMiddle

theorem DispatchChain.findMission_after (chain : DispatchChain context db issued after)
    (distinct : (db.missions.map MissionRow.missionId).Nodup) {missionId : PyStr}
    {final : MissionRow} (isFinal : after.findMission missionId = some final) :
    ∃ found, db.findMission missionId = some found ∧
      (final = found ∨ final.state = .running) := by
  induction chain with
  | nil db => exact ⟨final, isFinal, .inl rfl⟩
  | @cons db middle after row dispatch rest step later ih =>
    obtain ⟨moved, isMoved, kept⟩ := ih (step.distinct distinct) isFinal
    rw [step.findMission, Option.map_eq_some_iff] at isMoved
    obtain ⟨found, isFound, changed⟩ := isMoved
    refine ⟨found, isFound, ?_⟩
    split at changed
    · rcases kept with rfl | running
      · exact .inr (by rw [← changed]; rfl)
      · exact .inr running
    · exact changed ▸ kept

theorem DispatchChain.frame (chain : DispatchChain context db issued after) :
    after.dependencies = db.dependencies ∧ after.plans = db.plans := by
  induction chain with
  | nil db => exact ⟨rfl, rfl⟩
  | cons step later ih =>
    obtain ⟨dependencies, plans, -⟩ := step.frame
    exact ⟨ih.1.trans dependencies, ih.2.trans plans⟩

theorem DispatchChain.dependenciesDone (chain : DispatchChain context db issued after)
    (distinct : (db.missions.map MissionRow.missionId).Nodup) {missionId : PyStr}
    (done : after.dependenciesDone missionId = true) : db.dependenciesDone missionId = true := by
  rw [Database.dependenciesDone, List.all_eq_true] at done ⊢
  intro edge member
  rw [← chain.frame.1] at member
  have doneAfter := done edge member
  simp only [Option.any_eq_true, decide_eq_true_eq] at doneAfter ⊢
  obtain ⟨final, isFinal, isDone⟩ := doneAfter
  obtain ⟨found, isFound, rfl | running⟩ := chain.findMission_after distinct isFinal
  · exact ⟨final, isFound, isDone⟩
  · rw [isDone] at running
    exact nomatch running

theorem DispatchChain.exists_row (chain : DispatchChain context db issued after)
    (distinct : (db.missions.map MissionRow.missionId).Nodup) :
    ∀ dispatch ∈ issued, ∃ found, db.findMission dispatch.missionId = some found ∧
      (found.state = .starting ∨ found.state = .waiting) ∧
      dispatch.generation = found.generation + 1 ∧
      db.dependenciesDone dispatch.missionId = true ∧
      after.findMission dispatch.missionId = some (found.dispatched dispatch context.now) := by
  induction chain with
  | nil db => simp
  | @cons db middle after row dispatch rest step later ih =>
    obtain ⟨isFound, isMoved⟩ := step.findMission_self distinct
    have once : DispatchChain context db [dispatch] middle := .cons step (.nil middle)
    rw [List.forall_mem_cons]
    constructor
    · refine ⟨row, isFound, step.ready, step.identity.2, ?_, ?_⟩
      · rw [step.identity.1]
        exact step.dependencies
      · rcases later.findMission (step.distinct distinct) isMoved with kept | ⟨_, ready, -⟩
        · exact kept
        · exact absurd ready (by simp [MissionRow.dispatched])
    · intro other member
      obtain ⟨moved, isMoved, ready, next, done, isFinal⟩ :=
        ih (step.distinct distinct) other member
      obtain ⟨found, isFound, rfl | running⟩ := once.findMission_after distinct isMoved
      · exact ⟨moved, isFound, ready, next, once.dependenciesDone distinct done, isFinal⟩
      · rw [running] at ready
        simp at ready

theorem DispatchChain.nodup (chain : DispatchChain context db issued after)
    (distinct : (db.missions.map MissionRow.missionId).Nodup) :
    (issued.map FleetDispatch.missionId).Nodup := by
  induction chain with
  | nil db => exact List.nodup_nil
  | @cons db middle after row dispatch rest step later ih =>
    rw [List.map_cons, List.nodup_cons]
    refine ⟨?_, ih (step.distinct distinct)⟩
    intro again
    obtain ⟨other, member, same⟩ := List.mem_map.mp again
    obtain ⟨moved, isMoved, ready, -⟩ := later.exists_row (step.distinct distinct) other member
    rw [same, (step.findMission_self distinct).2] at isMoved
    rw [← Option.some.inj isMoved] at ready
    simp [MissionRow.dispatched] at ready

end Dispatch

/-! ### Rows after a call -/

theorem EndStep.findMission {db after : Database} {row : MissionRow} {dispatchId now : PyStr}
    {ending : Ending} (step : EndStep db row dispatchId ending now after) (missionId : PyStr) :
    after.findMission missionId = (db.findMission missionId).map fun old =>
      if old.missionId = row.missionId then ending.change now old else old := by
  obtain ⟨event, -, rfl⟩ := step.applied
  exact findMission_updateMission (db.release row.missionId dispatchId) row.missionId missionId
    fun old => (ending.change_keeps now old).2.2.2

theorem RegisterStep.findMission {db after : Database} {spec : FleetCoordinationSpec}
    {digest now : PyStr} (step : RegisterStep db spec digest now after) {missionId : PyStr}
    {row : MissionRow} (found : db.findMission missionId = some row) :
    after.findMission missionId = some row := by
  obtain ⟨added, -, -, missions, -⟩ := step.tables
  rw [Database.findMission, missions, List.find?_append]
  rw [Database.findMission] at found
  rw [found, Option.some_or]

variable {db : Database} {missionId : PyStr} {row : MissionRow}

theorem missionStep_stepCall (holds : LeaseInvariant db)
    (found : db.findMission missionId = some row) (call : FleetCall) :
    ∃ after, (stepCall db call).findMission missionId = some after ∧
      Relation.ReflGen MissionStep row after := by
  have finished : ∀ {other dispatchId ending now final},
      EndStep db other dispatchId ending now final →
      ∃ after, final.findMission missionId = some after ∧
        Relation.ReflGen MissionStep row after := by
    intro other dispatchId ending now final step
    have isFinal := step.findMission missionId
    rw [found, Option.map_some] at isFinal
    by_cases same : row.missionId = other.missionId
    · obtain rfl : row = other :=
        eq_of_missionId_eq holds.distinct (findMission_eq_some found).1 step.present same
      rw [if_pos rfl] at isFinal
      exact ⟨_, isFinal, .single (.finish step.running ending now)⟩
    · rw [if_neg same] at isFinal
      exact ⟨row, isFinal, .refl⟩
  rw [stepCall]
  split
  · rename_i final applied
    cases call with
    | registerMission depth clock spec =>
      rcases exists_registerStep applied with rfl | ⟨digest, now, step⟩
      · exact ⟨row, found, .refl⟩
      · exact ⟨row, step.findMission found, .refl⟩
    | plan clock request =>
      rw [FleetCall.apply, map_eq_ok] at applied
      obtain ⟨⟨planned, dispatches⟩, plannedEq, rfl⟩ := applied
      rcases exists_dispatchChain_of_plan plannedEq holds.distinct with
        ⟨rfl, -⟩ | ⟨context, middle, -, -, chain, commit⟩
      · exact ⟨row, found, .refl⟩
      · rw [findMission_congr commit.frame.1]
        rcases chain.findMission holds.distinct found with kept | ⟨dispatch, ready, next, moved⟩
        · exact ⟨row, kept, .refl⟩
        · exact ⟨_, moved, .single (.dispatch ready dispatch next context.now)⟩
    | requeue clock missionId dispatchId fencingToken evidenceRef =>
      rcases exists_endStep_of_requeue applied with rfl | ⟨other, now, step⟩
      · exact ⟨row, found, .refl⟩
      · exact finished step
    | recordTerminal clock missionId dispatchId fencingToken terminalState evidenceRef =>
      rcases exists_endStep_of_recordTerminal applied with rfl | ⟨other, _, _, now, step⟩
      · exact ⟨row, found, .refl⟩
      · exact finished step
  · exact ⟨row, found, .refl⟩

theorem missionSteps_runCalls (holds : LeaseInvariant db)
    (found : db.findMission missionId = some row) (calls : List FleetCall) :
    ∃ after, (runCalls db calls).findMission missionId = some after ∧
      Relation.ReflTransGen MissionStep row after := by
  induction calls generalizing db row with
  | nil => exact ⟨row, found, .refl⟩
  | cons call calls ih =>
    obtain ⟨middle, isMiddle, step⟩ := missionStep_stepCall holds found call
    obtain ⟨after, isAfter, steps⟩ :=
      ih (storeInvariant_leaseInvariant.stepCall call holds) isMiddle
    exact ⟨after, isAfter, step.to_reflTransGen.trans steps⟩

/-! ### Dispatches of a run -/

/-- The dispatches that a call makes; the answer to a known request repeats
earlier ones. -/
def FleetCall.dispatches (db : Database) : FleetCall → List FleetDispatch
  | .plan clock request =>
    match db.plans.find? fun row => row.requestId = request.requestId with
    | some _ => []
    | none =>
      match db.plan clock request with
      | .ok (_, dispatches) => dispatches
      | .error _ => []
  | _ => []

def dispatchLog (db : Database) : List FleetCall → List FleetDispatch
  | [] => []
  | call :: calls => call.dispatches db ++ dispatchLog (stepCall db call) calls

theorem exists_row_of_mem_dispatches (holds : LeaseInvariant db) (call : FleetCall) :
    ((call.dispatches db).map FleetDispatch.missionId).Nodup ∧
    ∀ dispatch ∈ call.dispatches db, ∃ found final,
      db.findMission dispatch.missionId = some found ∧
      dispatch.generation = found.generation + 1 ∧
      db.dependenciesDone dispatch.missionId = true ∧
      (stepCall db call).findMission dispatch.missionId = some final ∧
      final.generation = dispatch.generation := by
  unfold FleetCall.dispatches
  split
  · rename_i clock request
    split
    · simp
    · rename_i fresh
      split
      · rename_i after dispatches planned
        have stepped : stepCall db (.plan clock request) = after := by
          rw [stepCall, FleetCall.apply, planned]
          rfl
        rcases exists_dispatchChain_of_plan planned holds.distinct with
          ⟨-, plan, member, same⟩ | ⟨context, middle, -, -, chain, commit⟩
        · have differ := List.find?_eq_none.mp fresh plan member
          exact absurd same (by simpa using differ)
        · refine ⟨chain.nodup holds.distinct, ?_⟩
          intro dispatch member
          obtain ⟨found, isFound, -, next, done, isFinal⟩ :=
            chain.exists_row holds.distinct dispatch member
          refine ⟨found, found.dispatched dispatch context.now, isFound, next, done, ?_, rfl⟩
          rw [stepped, findMission_congr commit.frame.1]
          exact isFinal
      · simp
  · simp

theorem lt_generation_of_mem_dispatchLog (holds : LeaseInvariant db)
    (found : db.findMission missionId = some row) {calls : List FleetCall}
    {dispatch : FleetDispatch} (member : dispatch ∈ dispatchLog db calls)
    (same : dispatch.missionId = missionId) : row.generation < dispatch.generation := by
  induction calls generalizing db row with
  | nil => exact nomatch member
  | cons call calls ih =>
    rw [dispatchLog, List.mem_append] at member
    rcases member with now | later
    · obtain ⟨before, -, isBefore, next, -⟩ :=
        (exists_row_of_mem_dispatches holds call).2 dispatch now
      rw [same, found] at isBefore
      rw [next, Option.some.inj isBefore]
      omega
    · obtain ⟨middle, isMiddle, step⟩ := missionStep_stepCall holds found call
      have grown := generation_le_of_reflTransGen step.to_reflTransGen
      exact grown.trans_lt (ih (storeInvariant_leaseInvariant.stepCall call holds) isMiddle later)

theorem pairwise_dispatchLog (holds : LeaseInvariant db) (calls : List FleetCall) :
    (dispatchLog db calls).Pairwise fun earlier later =>
      earlier.missionId = later.missionId → earlier.generation < later.generation := by
  induction calls generalizing db with
  | nil => exact .nil
  | cons call calls ih =>
    have stepHolds := storeInvariant_leaseInvariant.stepCall call holds
    obtain ⟨once, known⟩ := exists_row_of_mem_dispatches holds call
    rw [dispatchLog, List.pairwise_append]
    refine ⟨?_, ih stepHolds, ?_⟩
    · rw [List.Nodup, List.pairwise_map] at once
      exact once.imp fun differ same => absurd same differ
    · intro earlier isEarlier later isLater same
      obtain ⟨-, final, -, -, -, isFinal, generation⟩ := known earlier isEarlier
      rw [← generation]
      exact lt_generation_of_mem_dispatchLog stepHolds isFinal isLater same.symm

/-! ### Stale tokens -/

theorem requireMission_eq_ok {found : MissionRow} (isFound : db.findMission missionId = some row)
    (required : db.requireMission missionId = .ok found) : found = row := by
  simp only [Database.requireMission, isFound, bind_eq_ok] at required
  obtain ⟨_, -, same⟩ := required
  exact (Except.ok.inj same).symm

theorem stepCall_stale {dispatchId fencingToken : PyStr}
    (found : db.findMission missionId = some row)
    (stale : ¬ (row.dispatchId = some dispatchId ∧ row.fencingToken = some fencingToken))
    (clock : ClockReading) (evidenceRef : PyStr) :
    stepCall db (.requeue clock missionId dispatchId fencingToken evidenceRef) = db ∧
    ∀ terminalState, stepCall db
      (.recordTerminal clock missionId dispatchId fencingToken terminalState evidenceRef) = db := by
  have denied : ∀ {u}, ¬ Database.requireActive row dispatchId fencingToken = .ok u := by
    intro _ active
    simp only [Database.requireActive, raiseIf_eq_ok, not_or, ne_eq, not_not] at active
    exact stale active
  constructor
  · rw [stepCall]
    split
    · rename_i after applied
      simp only [FleetCall.apply, Database.requeue, bind_eq_ok] at applied
      obtain ⟨_, -, _, -, _, -, _, -, required, isRequired, rest⟩ := applied
      obtain rfl := requireMission_eq_ok found isRequired
      unfold Database.requeueRow at rest
      split at rest
      · split at rest
        · exact (Except.ok.inj rest).symm
        · cases rest
      · split at rest
        · simp only [bind_eq_ok] at rest
          obtain ⟨_, active, -⟩ := rest
          exact absurd active denied
        · cases rest
    · rfl
  · intro terminalState
    rw [stepCall]
    split
    · rename_i after applied
      simp only [FleetCall.apply, Database.recordTerminal, bind_eq_ok] at applied
      obtain ⟨_, -, _, -, _, -, _, -, rest⟩ := applied
      split at rest
      · cases rest
      · rw [bind_eq_ok] at rest
        obtain ⟨required, isRequired, rest⟩ := rest
        obtain rfl := requireMission_eq_ok found isRequired
        unfold Database.recordTerminalRow at rest
        split at rest
        · split at rest
          · exact (Except.ok.inj rest).symm
          · cases rest
        · split at rest
          · simp only [bind_eq_ok] at rest
            obtain ⟨_, active, -⟩ := rest
            exact absurd active denied
          · cases rest
    · rfl

end FleetCoordination

end CyberLion
