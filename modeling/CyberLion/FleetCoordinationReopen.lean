import CyberLion.FleetCoordinationHistory

/-!
# A store can be opened again

The invariant that the verifier of the constructor needs: every mission row
stores a valid specification, every plan row stores its request and the
dispatches issued for it, and every mission that was ever dispatched points to
a recorded dispatch.  With the lease invariant, the event chain and the replay
it makes the constructor succeed after every run.
-/

namespace CyberLion

namespace FleetCoordination

open PyLib Json

/-! ### Issued dispatches -/

/-- A dispatch that was issued for a specification under a request. -/
structure Issued (coordinatorId requestDigest requestId : PyStr) (spec : FleetCoordinationSpec)
    (dispatch : FleetDispatch) : Prop where
  valid : dispatch.validate = .ok ()
  sameRequest : dispatch.requestId = requestId
  sameCoordinator : dispatch.coordinatorId = coordinatorId
  missionId : dispatch.missionId = spec.missionId
  droneId : dispatch.droneId = spec.droneId
  repository : dispatch.repository = spec.repository
  baselineSha : dispatch.baselineSha = spec.baselineSha
  baselineTreeSha : dispatch.baselineTreeSha = spec.baselineTreeSha
  branch : dispatch.branch = spec.branch
  writeScope : dispatch.writeScope = spec.writeScope
  digests : ∃ specDigest idBytes fenceBytes, spec.digest = .ok specDigest ∧
    canonicalJson (dispatchSeed (py "dispatch") coordinatorId requestDigest dispatch.missionId
      dispatch.droneId specDigest dispatch.generation dispatch.issuedAt) = .ok idBytes ∧
    canonicalJson (dispatchSeed (py "fence") coordinatorId requestDigest dispatch.missionId
      dispatch.droneId specDigest dispatch.generation dispatch.issuedAt) = .ok fenceBytes ∧
    dispatch.dispatchId = sha256 idBytes ∧ dispatch.fencingToken = sha256 fenceBytes

variable {db : Database} {context : PlanContext} {dispatch : FleetDispatch}
  {spec : FleetCoordinationSpec}

theorem issued_of_dispatchStep {after : Database} {row : MissionRow}
    (step : DispatchStep db context row dispatch after) (stores : StoresSpec row spec) :
    Issued db.coordinatorId context.requestDigest context.request.requestId spec dispatch := by
  obtain ⟨idBytes, fenceBytes, idEq, fenceEq, shape⟩ := exists_bytes_of_buildDispatch step.built
  have scope : dispatch.writeScope = spec.writeScope := by
    have stored := step.scope
    rw [stores.writeScope] at stored
    exact (Except.ok.inj stored).symm
  have valid := step.valid
  generalize dispatch.writeScope = writeScope at shape scope
  subst shape
  exact ⟨valid, rfl, rfl, stores.missionId, stores.droneId, stores.repository, stores.baselineSha,
    stores.baselineTreeSha, stores.branch, scope, row.specDigest, idBytes, fenceBytes,
    stores.digest, idEq, fenceEq, rfl, rfl⟩

/-- A plan row with the request and the dispatches that it stores. -/
structure RecordsPlan (coordinatorId : PyStr) (specs : List FleetCoordinationSpec)
    (plan : PlanRow) (request : FleetPlanRequest) (dispatches : List FleetDispatch) : Prop where
  read : requestFromJson plan.requestJson = .ok request
  valid : request.validate = .ok ()
  sameRequest : request.requestId = plan.requestId
  sameCoordinator : request.coordinatorId = coordinatorId
  digest : request.digest = .ok plan.requestDigest
  result : dispatchesFromJson plan.resultJson = .ok dispatches
  resultDigest : ∃ bytes, encodeUtf8 plan.resultJson = .ok bytes ∧
    sha256 bytes = plan.resultDigest
  issued : ∀ dispatch ∈ dispatches, ∃ spec ∈ specs,
    Issued coordinatorId plan.requestDigest request.requestId spec dispatch

theorem RecordsPlan.mono {coordinatorId : PyStr} {specs more : List FleetCoordinationSpec}
    {plan : PlanRow} {request : FleetPlanRequest} {dispatches : List FleetDispatch}
    (records : RecordsPlan coordinatorId specs plan request dispatches) (extended : specs ⊆ more) :
    RecordsPlan coordinatorId more plan request dispatches := by
  refine { records with issued := ?_ }
  intro dispatch member
  obtain ⟨spec, known, issued⟩ := records.issued dispatch member
  exact ⟨spec, extended known, issued⟩

def Recorded (db : Database) (dispatch : FleetDispatch) : Prop :=
  ∃ plan ∈ db.plans, ∃ dispatches, dispatchesFromJson plan.resultJson = .ok dispatches ∧
    dispatch ∈ dispatches

/-- A row whose mission runs under, or last ran under, the dispatch. -/
structure BoundTo (row : MissionRow) (dispatch : FleetDispatch) : Prop where
  dispatchId : row.dispatchId = some dispatch.dispatchId
  fencingToken : row.fencingToken = some dispatch.fencingToken
  generation : row.generation = dispatch.generation

/-! ### The invariant -/

/-- What the tables say about the specifications that were registered, with
the dispatches that are not yet recorded. -/
structure Coherent (db : Database) (specs : List FleetCoordinationSpec)
    (pending : List (PlanContext × FleetDispatch)) : Prop where
  leases : LeaseInvariant db
  chained : Chained db
  replayed : Replayed db
  rows : List.Forall₂ StoresSpec db.missions specs
  edges : ∀ spec ∈ specs, ∀ dependency,
    dependency ∈ dependenciesOf db spec.missionId ↔ dependency ∈ spec.dependencies
  edgesKnown : ∀ edge ∈ db.dependencies, edge.missionId ∈ db.missions.map MissionRow.missionId
  plans : ∀ plan ∈ db.plans, ∃ request dispatches,
    RecordsPlan db.coordinatorId specs plan request dispatches
  issued : ∀ entry ∈ pending, ∃ spec ∈ specs, Issued db.coordinatorId entry.1.requestDigest
    entry.1.request.requestId spec entry.2
  bound : ∀ row ∈ db.missions, 0 < row.generation → ∃ dispatch,
    (Recorded db dispatch ∨ dispatch ∈ pending.map Prod.snd) ∧ BoundTo row dispatch

theorem coherent_emptyDatabase (coordinatorId : PyStr) :
    Coherent (emptyDatabase coordinatorId) [] [] where
  leases := leaseInvariant_emptyDatabase coordinatorId
  chained := chained_emptyDatabase coordinatorId
  replayed := rfl
  rows := .nil
  edges := by simp
  edgesKnown := by simp [emptyDatabase]
  plans := by simp [emptyDatabase]
  issued := by simp
  bound := by simp [emptyDatabase]

theorem Coherent.exists_spec {specs : List FleetCoordinationSpec}
    {pending : List (PlanContext × FleetDispatch)} (holds : Coherent db specs pending)
    {row : MissionRow} (member : row ∈ db.missions) :
    ∃ spec ∈ specs, StoresSpec row spec :=
  exists_right_of_forall₂ holds.rows member

theorem Coherent.exists_row {specs : List FleetCoordinationSpec}
    {pending : List (PlanContext × FleetDispatch)} (holds : Coherent db specs pending)
    (member : spec ∈ specs) :
    ∃ row ∈ db.missions, StoresSpec row spec :=
  exists_left_of_forall₂ holds.rows member

/-! ### The steps keep the invariant -/

theorem RegisterStep.tables {after : Database} {digest now : PyStr}
    (step : RegisterStep db spec digest now after) :
    ∃ row, StoresSpec row spec ∧ row.generation = 0 ∧ after.missions = db.missions ++ [row] ∧
      after.dependencies = db.dependencies ++
        spec.dependencies.map (fun dependency => ⟨spec.missionId, dependency⟩) ∧
      after.plans = db.plans ∧ after.coordinatorId = db.coordinatorId := by
  obtain ⟨inserted, event, insertedEq, isEvent, rfl⟩ := step.applied
  simp only [Database.insertMission, bind_eq_ok, pure_eq_ok, raiseIf_eq_ok] at insertedEq
  obtain ⟨scopeJson, scope, dependenciesJson, dependencies, evidenceJson, evidence, _, -, rfl⟩ :=
    insertedEq
  exact ⟨_, storesSpec_registeredRow now step.valid step.digested scope dependencies evidence,
    rfl, rfl, rfl, rfl, rfl⟩

theorem recorded_of_plans {after : Database} (recorded : Recorded db dispatch)
    (kept : db.plans ⊆ after.plans) :
    Recorded after dispatch := by
  obtain ⟨plan, member, dispatches, read, inside⟩ := recorded
  exact ⟨plan, kept member, dispatches, read, inside⟩

theorem coherent_of_registerStep {after : Database} {specs : List FleetCoordinationSpec}
    {digest now : PyStr} (holds : Coherent db specs [])
    (step : RegisterStep db spec digest now after) : Coherent after (specs ++ [spec]) [] := by
  obtain ⟨row, stores, noDispatch, missions, dependencies, plans, coordinator⟩ := step.tables
  have fresh : spec.missionId ∉ db.missions.map MissionRow.missionId := by
    intro known
    obtain ⟨old, member, same⟩ := List.mem_map.mp known
    have absent := List.find?_eq_none.mp step.fresh old member
    simp [same] at absent
  have newEdges : ∀ missionId, dependenciesOf after missionId = dependenciesOf db missionId ++
      if missionId = spec.missionId then spec.dependencies else [] := by
    intro missionId
    rw [dependenciesOf, dependencies, List.filter_append, List.map_append]
    congr 1
    split
    · rename_i same
      rw [List.filter_eq_self.mpr (by simp [same]), List.map_map]
      exact List.map_id' _
    · rename_i differ
      rw [List.filter_eq_nil_iff.mpr (by simpa using fun _ _ => Ne.symm differ), List.map_nil]
  refine ⟨leaseInvariant_of_registerStep holds.leases step,
    chained_of_registerStep holds.chained step, replayed_of_registerStep holds.replayed step,
    ?_, ?_, ?_, ?_, by simp, ?_⟩
  · rw [missions]
    exact List.rel_append holds.rows (.cons stores .nil)
  · intro other member dependency
    rw [newEdges]
    rcases List.mem_append.mp member with old | new
    · obtain ⟨oldRow, oldMember, oldStores⟩ := holds.exists_row old
      have differ : other.missionId ≠ spec.missionId := by
        intro same
        rw [← same, ← oldStores.missionId] at fresh
        exact fresh (List.mem_map_of_mem oldMember)
      rw [if_neg differ, List.append_nil]
      exact holds.edges other old dependency
    · rw [List.mem_singleton.mp new, if_pos rfl]
      have noEdges : dependenciesOf db spec.missionId = [] := by
        rw [dependenciesOf, List.map_eq_nil_iff, List.filter_eq_nil_iff]
        intro edge edgeMember
        rw [decide_eq_true_eq]
        intro same
        exact fresh (same ▸ holds.edgesKnown edge edgeMember)
      rw [noEdges, List.nil_append]
  · intro edge member
    rw [missions, List.map_append]
    rw [dependencies, List.mem_append] at member
    rcases member with old | new
    · exact List.mem_append_left _ (holds.edgesKnown edge old)
    · obtain ⟨dependency, -, rfl⟩ := List.mem_map.mp new
      apply List.mem_append_right
      simp [stores.missionId]
  · intro plan member
    rw [plans] at member
    obtain ⟨request, dispatches, records⟩ := holds.plans plan member
    refine ⟨request, dispatches, ?_⟩
    rw [coordinator]
    exact records.mono (List.subset_append_left specs [spec])
  · intro other member dispatched
    rw [missions, List.mem_append] at member
    rcases member with old | new
    · obtain ⟨dispatch, recorded | isPending, bound⟩ := holds.bound other old dispatched
      · exact ⟨dispatch, .inl (recorded_of_plans recorded (by rw [plans]; simp)), bound⟩
      · simp at isPending
    · rw [List.mem_singleton.mp new, noDispatch] at dispatched
      exact absurd dispatched (by decide)

theorem forall₂_updateMission {specs : List FleetCoordinationSpec} {missionId : PyStr}
    {change : MissionRow → MissionRow} (rows : List.Forall₂ StoresSpec db.missions specs)
    (keeps : ∀ row spec, StoresSpec row spec → StoresSpec (change row) spec) :
    List.Forall₂ StoresSpec (db.updateMission missionId change).missions specs := by
  rw [Database.updateMission, List.forall₂_map_left_iff]
  apply rows.imp
  intro row spec stores
  split
  · exact keeps row spec stores
  · exact stores

theorem dependenciesOf_congr {after : Database} (same : after.dependencies = db.dependencies) :
    dependenciesOf after = dependenciesOf db := by
  funext missionId
  rw [dependenciesOf, dependenciesOf, same]

theorem DispatchStep.frame {after : Database} {row : MissionRow}
    (step : DispatchStep db context row dispatch after) :
    after.dependencies = db.dependencies ∧ after.plans = db.plans ∧
      after.coordinatorId = db.coordinatorId := by
  obtain ⟨leases, event, -, -, rfl⟩ := step.applied
  exact ⟨rfl, rfl, rfl⟩

theorem coherent_of_dispatchStep {after : Database} {specs : List FleetCoordinationSpec}
    {row : MissionRow} {selected : List FleetDispatch}
    (holds : Coherent db specs (pendingOf context selected))
    (step : DispatchStep db context row dispatch after) :
    Coherent after specs (pendingOf context (selected ++ [dispatch])) := by
  obtain ⟨dependencies, plans, coordinator⟩ := step.frame
  have missions := step.tables.1
  have pending : pendingOf context (selected ++ [dispatch]) =
      pendingOf context selected ++ [(context, dispatch)] :=
    List.map_append
  have ids : after.missions.map MissionRow.missionId = db.missions.map MissionRow.missionId := by
    rw [missions]
    exact missionIds_updateMission db row.missionId fun _ => rfl
  refine ⟨leaseInvariant_of_dispatchStep holds.leases step,
    chained_of_dispatchStep holds.chained step,
    replayed_of_dispatchStep holds.replayed holds.leases.distinct step, ?_, ?_, ?_, ?_, ?_, ?_⟩
  · rw [missions]
    apply forall₂_updateMission holds.rows
    intro old spec stores
    exact { stores with }
  · rw [dependenciesOf_congr dependencies]
    exact holds.edges
  · rw [dependencies, ids]
    exact holds.edgesKnown
  · rw [plans, coordinator]
    exact holds.plans
  · intro entry member
    rw [coordinator]
    rw [pending, List.mem_append] at member
    rcases member with old | new
    · exact holds.issued entry old
    · rw [List.mem_singleton.mp new]
      obtain ⟨spec, specMember, stores⟩ := holds.exists_spec step.present
      exact ⟨spec, specMember, issued_of_dispatchStep step stores⟩
  · intro other member dispatched
    rw [pending, List.map_append]
    rw [missions] at member
    rcases mem_updateMission member with ⟨old, -, -, rfl⟩ | ⟨oldMember, -⟩
    · exact ⟨dispatch, .inr (by simp), rfl, rfl, rfl⟩
    · obtain ⟨earlier, recorded | isPending, bound⟩ := holds.bound other oldMember dispatched
      · exact ⟨earlier, .inl (recorded_of_plans recorded (by rw [plans]; simp)), bound⟩
      · exact ⟨earlier, .inr (List.mem_append_left _ isPending), bound⟩

theorem Ending.change_keeps (ending : Ending) (now : PyStr) (row : MissionRow) :
    (∀ spec, StoresSpec row spec → StoresSpec (ending.change now row) spec) ∧
      (∀ dispatch, BoundTo row dispatch → BoundTo (ending.change now row) dispatch) ∧
      (ending.change now row).generation = row.generation ∧
      (ending.change now row).missionId = row.missionId := by
  cases ending with
  | requeue evidenceRef =>
    exact ⟨fun _ stores => { stores with }, fun _ bound => { bound with }, rfl, rfl⟩
  | terminal state isTerminal evidenceRef =>
    exact ⟨fun _ stores => { stores with }, fun _ bound => { bound with }, rfl, rfl⟩

theorem coherent_of_endStep {after : Database} {specs : List FleetCoordinationSpec}
    {row : MissionRow} {dispatchId now : PyStr} {ending : Ending} (holds : Coherent db specs [])
    (step : EndStep db row dispatchId ending now after) : Coherent after specs [] := by
  have leases := leaseInvariant_of_endStep holds.leases step
  have chained := chained_of_endStep holds.chained step
  have replayed := replayed_of_endStep holds.replayed holds.leases.distinct step
  obtain ⟨event, -, rfl⟩ := step.applied
  have ids := missionIds_updateMission (db.release row.missionId dispatchId) row.missionId
    fun old => (ending.change_keeps now old).2.2.2
  refine ⟨leases, chained, replayed, ?_, holds.edges, ?_, holds.plans, by simp, ?_⟩
  · have rows : List.Forall₂ StoresSpec (db.release row.missionId dispatchId).missions specs :=
      holds.rows
    exact forall₂_updateMission rows fun old => (ending.change_keeps now old).1
  · intro edge member
    have known := holds.edgesKnown edge member
    exact ids ▸ known
  · intro other member dispatched
    rcases mem_updateMission member with ⟨old, oldMember, -, rfl⟩ | ⟨oldMember, -⟩
    · rw [(ending.change_keeps now old).2.2.1] at dispatched
      obtain ⟨earlier, recorded, bound⟩ := holds.bound old oldMember dispatched
      exact ⟨earlier, recorded, (ending.change_keeps now old).2.1 earlier bound⟩
    · exact holds.bound other oldMember dispatched

theorem coherent_of_commitStep {after : Database} {specs : List FleetCoordinationSpec}
    {selected : List FleetDispatch} (holds : Coherent db specs (pendingOf context selected))
    (step : CommitStep db context selected after) : Coherent after specs [] := by
  obtain ⟨missions, leases, dependencies, coordinator⟩ := step.frame
  have chained := chained_of_commitStep holds.chained step
  have replayed := replayed_of_commitStep holds.replayed step
  obtain ⟨plan, event, resultBytes, requestBytes, resultEq, resultBytesEq, requestBytesEq,
    planEq, -, afterEq⟩ := step.exists_plan
  obtain ⟨read, valid⟩ := dispatchesFromJson_of_dispatchesJson resultEq
  have plans : after.plans = db.plans ++ [plan] := by rw [afterEq]; rfl
  have records : RecordsPlan db.coordinatorId specs plan context.request selected := by
    refine ⟨?_, step.accepted.valid, ?_, step.accepted.coordinator, ?_, read,
      ⟨resultBytes, resultBytesEq, ?_⟩, ?_⟩
    · rw [planEq]
      exact requestFromJson_of_canonicalJson step.accepted.valid requestBytesEq
    · rw [planEq]
    · rw [planEq]
      exact step.accepted.digested
    · rw [planEq]
    · intro dispatch member
      obtain ⟨spec, known, issued⟩ := holds.issued (context, dispatch)
        (List.mem_map_of_mem member)
      refine ⟨spec, known, ?_⟩
      rw [planEq]
      exact issued
  refine ⟨holds.leases.of_tables missions leases, chained, replayed, ?_, ?_, ?_, ?_, by simp, ?_⟩
  · rw [missions]
    exact holds.rows
  · rw [dependenciesOf_congr dependencies]
    exact holds.edges
  · rw [dependencies, missions]
    exact holds.edgesKnown
  · intro other member
    rw [coordinator]
    rw [plans, List.mem_append] at member
    rcases member with old | new
    · exact holds.plans other old
    · rw [List.mem_singleton.mp new]
      exact ⟨context.request, selected, records⟩
  · intro row member dispatched
    rw [missions] at member
    obtain ⟨dispatch, recorded | isPending, bound⟩ := holds.bound row member dispatched
    · exact ⟨dispatch, .inl (recorded_of_plans recorded (by rw [plans]; simp)), bound⟩
    · have chosen : dispatch ∈ selected := by
        obtain ⟨entry, entryMember, rfl⟩ := List.mem_map.mp isPending
        obtain ⟨inner, innerMember, rfl⟩ := List.mem_map.mp entryMember
        exact innerMember
      refine ⟨dispatch, .inl ⟨plan, ?_, selected, read, chosen⟩, bound⟩
      rw [plans]
      simp

theorem storeInvariant_coherent :
    StoreInvariant fun db pending => ∃ specs, Coherent db specs pending where
  distinct := fun ⟨_, holds⟩ => holds.leases.distinct
  register := fun step ⟨specs, holds⟩ => ⟨specs ++ [_], coherent_of_registerStep holds step⟩
  dispatch := fun _ step ⟨specs, holds⟩ => ⟨specs, coherent_of_dispatchStep holds step⟩
  commit := fun step ⟨specs, holds⟩ => ⟨specs, coherent_of_commitStep holds step⟩
  finish := fun step ⟨specs, holds⟩ => ⟨specs, coherent_of_endStep holds step⟩

end FleetCoordination

end CyberLion
