import CyberLion.FleetCoordinationReopen

/-!
# The constructor accepts every reachable database

Each part of the verification succeeds on a coherent database.  The lookup of
a dispatch by its identifier is the one place that relies on the digest
function: were two recorded dispatches to share an identifier, their seeds
would be two different texts with one digest.
-/

namespace CyberLion

namespace FleetCoordination

open PyLib Json

/-! ### Seeds -/

section Seeds

variable {kind coordinatorId requestDigest missionId droneId specDigest issuedAt : PyStr}
  {generation : Int}

theorem nodup_seedKeys : ((seedFields kind coordinatorId requestDigest missionId droneId
    specDigest generation issuedAt).map Prod.fst).Nodup := by
  change [py "kind", py "coordinator_id", py "request_digest", py "mission_id",
    py "drone_id", py "spec_digest", py "generation", py "issued_at"].Nodup
  decide

theorem plain_dispatchSeed : Plain (dispatchSeed kind coordinatorId requestDigest missionId
    droneId specDigest generation issuedAt) := by
  apply Plain.obj nodup_seedKeys
  simp [seedFields]

theorem flat_seedFields : ∀ field ∈ seedFields kind coordinatorId requestDigest missionId
    droneId specDigest generation issuedAt, field.2.sortKeys = field.2 := by
  simp [seedFields, sortKeys]

theorem dispatchSeed_inj
    {coordinatorId' requestDigest' missionId' droneId' specDigest' issuedAt' : PyStr}
    {generation' : Int} {bytes : Utf8Bytes}
    (first : canonicalJson (dispatchSeed kind coordinatorId requestDigest missionId droneId
      specDigest generation issuedAt) = .ok bytes)
    (second : canonicalJson (dispatchSeed kind coordinatorId' requestDigest' missionId' droneId'
      specDigest' generation' issuedAt') = .ok bytes) :
    requestDigest = requestDigest' ∧ missionId = missionId' ∧ droneId = droneId' ∧
      specDigest = specDigest' ∧ generation = generation' ∧ issuedAt = issuedAt' := by
  have sorted := plain_dispatchSeed.sortKeys_eq plain_dispatchSeed (canonicalJson_eq_ok.mp first)
    (canonicalJson_eq_ok.mp second)
  have same : seedFields kind coordinatorId requestDigest missionId droneId specDigest
      generation issuedAt = seedFields kind coordinatorId' requestDigest' missionId' droneId'
      specDigest' generation' issuedAt' := by
    apply fields_eq_of_sortKeys_eq _ nodup_seedKeys flat_seedFields flat_seedFields sorted
    rfl
  simp only [seedFields, List.cons.injEq, Prod.mk.injEq, Json.str.injEq, Json.int.injEq] at same
  obtain ⟨-, -, requestSame, missionSame, droneSame, specSame, generationSame, timeSame, -⟩ := same
  exact ⟨requestSame.2, missionSame.2, droneSame.2, specSame.2, generationSame.2, timeSame.2⟩

end Seeds

/-- The bytes whose digests are the identifiers of the recorded dispatches. -/
def dispatchPreimages (db : Database) : List Utf8Bytes :=
  db.plans.flatMap fun plan =>
    match dispatchesFromJson plan.resultJson with
    | .error _ => []
    | .ok dispatches => dispatches.filterMap fun dispatch =>
      (db.findMission dispatch.missionId).bind fun row =>
        (canonicalJson (dispatchSeed (py "dispatch") db.coordinatorId plan.requestDigest
          dispatch.missionId dispatch.droneId row.specDigest dispatch.generation
          dispatch.issuedAt)).toOption

section Verify

variable {db : Database} {specs : List FleetCoordinationSpec} (holds : Coherent db specs [])
include holds

theorem keys_specs : specs.map FleetCoordinationSpec.missionId =
    db.missions.map MissionRow.missionId := by
  have rows := holds.rows
  clear holds
  generalize db.missions = missions at rows
  induction rows with
  | nil => rfl
  | cons stores _ ih => rw [List.map_cons, List.map_cons, stores.missionId, ih]

theorem lookup_specs {spec : FleetCoordinationSpec} (member : spec ∈ specs) :
    (specs.map fun spec => (spec.missionId, spec)).lookup spec.missionId = some spec := by
  have inside : (spec.missionId, spec) ∈ specs.map fun spec => (spec.missionId, spec) :=
    List.mem_map.mpr ⟨spec, member, rfl⟩
  apply lookup_of_mem _ inside
  rw [List.map_map]
  change (specs.map FleetCoordinationSpec.missionId).Nodup
  rw [keys_specs holds]
  exact holds.leases.distinct

theorem findMission_of_storesSpec {row : MissionRow} (member : row ∈ db.missions) :
    db.findMission row.missionId = some row := by
  cases found : db.findMission row.missionId with
  | none =>
    have absent := List.find?_eq_none.mp found row member
    simp at absent
  | some other =>
    have otherMember := List.mem_of_find?_eq_some found
    have same : other.missionId = row.missionId := by simpa using List.find?_some found
    rw [eq_of_missionId_eq holds.leases.distinct otherMember member same]

/-- The identifier of a recorded dispatch is the digest of its preimage, and
the preimage determines its fence and its generation. -/
theorem exists_preimage {dispatch : FleetDispatch} (recorded : Recorded db dispatch) :
    ∃ requestDigest specDigest idBytes fenceBytes, idBytes ∈ dispatchPreimages db ∧
      canonicalJson (dispatchSeed (py "dispatch") db.coordinatorId requestDigest
        dispatch.missionId dispatch.droneId specDigest dispatch.generation
        dispatch.issuedAt) = .ok idBytes ∧
      canonicalJson (dispatchSeed (py "fence") db.coordinatorId requestDigest
        dispatch.missionId dispatch.droneId specDigest dispatch.generation
        dispatch.issuedAt) = .ok fenceBytes ∧
      dispatch.dispatchId = sha256 idBytes ∧ dispatch.fencingToken = sha256 fenceBytes := by
  obtain ⟨plan, planMember, dispatches, stored, member⟩ := recorded
  obtain ⟨request, others, records⟩ := holds.plans plan planMember
  obtain rfl : dispatches = others := Except.ok.inj (stored.symm.trans records.result)
  obtain ⟨spec, specMember, issued⟩ := records.issued dispatch member
  obtain ⟨specDigest, idBytes, fenceBytes, digest, idEq, fenceEq, isId, isFence⟩ := issued.digests
  refine ⟨plan.requestDigest, specDigest, idBytes, fenceBytes, ?_, idEq, fenceEq, isId, isFence⟩
  obtain ⟨row, rowMember, stores⟩ := holds.exists_row specMember
  have sameDigest : row.specDigest = specDigest := by
    have stored := stores.digest
    rw [digest] at stored
    exact (Except.ok.inj stored).symm
  have found : db.findMission dispatch.missionId = some row := by
    rw [issued.missionId, ← stores.missionId]
    exact findMission_of_storesSpec holds rowMember
  apply List.mem_flatMap.mpr
  refine ⟨plan, planMember, ?_⟩
  rw [stored]
  apply List.mem_filterMap.mpr
  refine ⟨dispatch, member, ?_⟩
  rw [found, Option.bind_some, sameDigest, idEq]
  rfl

theorem verifyEventChain_eq_ok : verifyEventChain db = .ok db.eventHead := by
  obtain ⟨lastTime, walked, -⟩ := holds.chained
  rw [verifyEventChain, walked]
  simp [raiseIf]

theorem mapM_verifyMission : db.missions.mapM (verifyMission db) =
    .ok (specs.map fun spec => (spec.missionId, spec)) := by
  apply mapM_eq_ok.mpr
  rw [List.forall₂_map_right_iff]
  apply (forall₂_and_mem_right holds.rows).imp
  intro row spec known
  obtain ⟨stores, member⟩ := known
  have edges : dependenciesOf db row.missionId ⊆ spec.dependencies ∧
      spec.dependencies ⊆ dependenciesOf db row.missionId := by
    rw [stores.missionId]
    exact ⟨fun dependency => (holds.edges spec member dependency).mp,
      fun dependency => (holds.edges spec member dependency).mpr⟩
  rw [verifyMission, stores.reconstructSpec, ok_bind, stores.digest, ok_bind]
  simp only [raiseIf, ne_eq, not_true, if_false, ok_bind]
  rw [if_neg (not_not.mpr edges), ok_bind, stores.missionId]
  rfl

theorem verifyMaterialized_eq_ok : verifyMaterializedStateFromEvents db = .ok () := by
  have optional : ∀ column, optionalMatches column (optionalText column) = true := by
    intro column
    cases column <;> simp [optionalMatches, optionalText]
  have row : ∀ row ∈ db.missions, verifyReplayedRow (replayOf db.missions) row = .ok () := by
    intro row member
    rw [verifyReplayedRow, replayedEntry_replayOf holds.leases.distinct member, ok_bind]
    simp [raiseIf, entryOf, textMatches, intMatches, optional]
  have replayed : db.events.foldlM replayEvent [] = .ok (replayOf db.missions) := holds.replayed
  rw [verifyMaterializedStateFromEvents, replayed, ok_bind]
  simp only [keys_replayOf, raiseIf]
  rw [if_neg (by simp), ok_bind]
  exact forM_eq_ok.mpr row

theorem verifyPlan_eq_ok {plan : PlanRow} {request : FleetPlanRequest}
    {dispatches : List FleetDispatch}
    (records : RecordsPlan db.coordinatorId specs plan request dispatches) :
    verifyPlan db.coordinatorId (specs.map fun spec => (spec.missionId, spec)) plan =
      .ok dispatches := by
  have dispatchesPass : forM dispatches
      (verifyDispatch (specs.map fun spec => (spec.missionId, spec)) request) = .ok () := by
    apply forM_eq_ok.mpr
    intro dispatch member
    obtain ⟨spec, specMember, issued⟩ := records.issued dispatch member
    obtain ⟨row, -, stores⟩ := holds.exists_row specMember
    have bound : dispatch.boundTo spec request = true := by
      simp [FleetDispatch.boundTo, issued.sameRequest, issued.sameCoordinator,
        records.sameCoordinator, issued.missionId, issued.droneId, issued.repository,
        issued.baselineSha, issued.baselineTreeSha, issued.branch, issued.writeScope]
    have passes : dispatch.validateFor spec request = .ok () := by
      rw [FleetDispatch.validateFor, issued.valid, ok_bind, stores.valid, ok_bind, records.valid,
        ok_bind, bound]
      rfl
    rw [verifyDispatch, issued.missionId, lookup_specs holds specMember]
    exact rethrow_eq_ok.mpr passes
  obtain ⟨bytes, encoded, digested⟩ := records.resultDigest
  rw [verifyPlan, records.read, ok_bind, records.digest, encoded, records.result, ok_bind, ok_bind,
    ok_bind, dispatchesPass, records.sameRequest, records.sameCoordinator, digested]
  simp [raiseIf]

theorem exists_mapM_verifyPlan : ∃ dispatches,
    db.plans.mapM (verifyPlan db.coordinatorId (specs.map fun spec => (spec.missionId, spec))) =
      .ok dispatches ∧ ∀ dispatch, dispatch ∈ dispatches.flatten ↔ Recorded db dispatch := by
  have all : ∀ plan ∈ db.plans, ∃ dispatches, verifyPlan db.coordinatorId
      (specs.map fun spec => (spec.missionId, spec)) plan = .ok dispatches := by
    intro plan member
    obtain ⟨request, dispatches, records⟩ := holds.plans plan member
    exact ⟨dispatches, verifyPlan_eq_ok holds records⟩
  have read : ∀ plan ∈ db.plans, ∀ dispatches, verifyPlan db.coordinatorId
      (specs.map fun spec => (spec.missionId, spec)) plan = .ok dispatches →
      dispatchesFromJson plan.resultJson = .ok dispatches := by
    intro plan member dispatches verified
    obtain ⟨request, stored, records⟩ := holds.plans plan member
    rw [verifyPlan_eq_ok holds records] at verified
    rw [records.result, verified]
  obtain ⟨dispatches, mapped⟩ := exists_mapM_eq_ok all
  refine ⟨dispatches, mapped, ?_⟩
  have related := mapM_eq_ok.mp mapped
  intro dispatch
  rw [List.mem_flatten]
  constructor
  · rintro ⟨inner, innerMember, inside⟩
    obtain ⟨plan, planMember, verified⟩ := exists_left_of_forall₂ related innerMember
    exact ⟨plan, planMember, inner, read plan planMember inner verified, inside⟩
  · rintro ⟨plan, planMember, stored, storedEq, inside⟩
    obtain ⟨inner, innerMember, verified⟩ := exists_right_of_forall₂ related planMember
    have same := read plan planMember inner verified
    rw [storedEq] at same
    exact ⟨inner, innerMember, Except.ok.inj same ▸ inside⟩

theorem verifyLeases_eq_ok {row : MissionRow} (member : row ∈ db.missions) :
    verifyLeases db (specs.map fun spec => (spec.missionId, spec)) row = .ok () := by
  unfold verifyLeases
  split
  · rename_i running
    obtain ⟨dispatchId, scope, sameDispatch, stored, owned⟩ := holds.leases.running row member running
    obtain ⟨spec, specMember, stores⟩ := holds.exists_spec member
    have sameScope : scope = spec.writeScope := by
      rw [stores.writeScope] at stored
      exact (Except.ok.inj stored).symm
    rw [Database.leasesOwnedBy] at owned
    rw [stores.missionId, lookup_specs holds specMember, ← stores.missionId, owned]
    have expected : (missionLeases row scope dispatchId).map
        (fun lease => (lease.kind, lease.resource)) = expectedLeases spec := by
      simp [missionLeases, expectedLeases, sameScope, stores.branch]
    have bound : forM (missionLeases row scope dispatchId) (fun lease =>
        raiseIf (some lease.dispatchId ≠ row.dispatchId ∨ lease.generation ≠ row.generation ∨
          lease.droneId ≠ row.droneId ∨ lease.repository ≠ row.repository)
          (stateError (py "active lease binding mismatch"))) = .ok () := by
      apply forM_eq_ok.mpr
      simp [missionLeases, sameDispatch]
    simp only [expected]
    rw [bound]
    simp [raiseIf]
  · rename_i idle
    rw [raiseIf_eq_ok, not_not]
    exact holds.leases.idle row member idle

theorem sameBinding_of_dispatchId_eq
    (noCollision : ∀ first ∈ dispatchPreimages db, ∀ second ∈ dispatchPreimages db,
      sha256 first = sha256 second → first = second)
    {first second : FleetDispatch} (firstRecorded : Recorded db first)
    (secondRecorded : Recorded db second) (sameId : first.dispatchId = second.dispatchId) :
    first.generation = second.generation ∧ first.fencingToken = second.fencingToken := by
  obtain ⟨_, _, firstSeed, firstFence, firstMember, firstSeedEq, firstFenceEq, firstId,
    firstToken⟩ := exists_preimage holds firstRecorded
  obtain ⟨_, _, secondSeed, secondFence, secondMember, secondSeedEq, secondFenceEq, secondId,
    secondToken⟩ := exists_preimage holds secondRecorded
  have sameSeed : firstSeed = secondSeed := by
    apply noCollision firstSeed firstMember secondSeed secondMember
    rw [← firstId, ← secondId, sameId]
  subst sameSeed
  obtain ⟨rfl, sameMission, sameDrone, rfl, sameGeneration, sameTime⟩ :=
    dispatchSeed_inj firstSeedEq secondSeedEq
  rw [sameMission, sameDrone, sameGeneration, sameTime, secondFenceEq] at firstFenceEq
  refine ⟨sameGeneration, ?_⟩
  rw [firstToken, secondToken, Except.ok.inj firstFenceEq]

/-- The dispatch that a mission is bound to is found under its identifier,
unless two recorded dispatches have different seeds with one digest. -/
theorem verifyBinding_eq_ok {dispatches : List FleetDispatch}
    (recorded : ∀ dispatch, dispatch ∈ dispatches ↔ Recorded db dispatch)
    (noCollision : ∀ first ∈ dispatchPreimages db, ∀ second ∈ dispatchPreimages db,
      sha256 first = sha256 second → first = second)
    {row : MissionRow} (member : row ∈ db.missions) :
    verifyBinding (dictOfPairs (dispatches.map fun dispatch =>
      (dispatch.dispatchId, dispatch))) row = .ok () := by
  rw [verifyBinding, raiseIf_eq_ok]
  rintro ⟨dispatched, missing⟩
  apply missing
  obtain ⟨bound, known | isPending, binds⟩ := holds.bound row member dispatched
  · have key : bound.dispatchId ∈
        (dispatches.map fun dispatch => (dispatch.dispatchId, dispatch)).map Prod.fst := by
      rw [List.map_map]
      exact List.mem_map.mpr ⟨bound, (recorded bound).mpr known, rfl⟩
    obtain ⟨found, foundEq, foundMember⟩ := exists_lookup_dictOfPairs key
    refine ⟨found, ?_, ?_⟩
    · rw [binds.dispatchId]
      exact foundEq
    · obtain ⟨other, otherMember, same⟩ := List.mem_map.mp foundMember
      obtain ⟨sameId, rfl⟩ := Prod.mk.inj same
      obtain ⟨sameGeneration, sameToken⟩ := sameBinding_of_dispatchId_eq holds noCollision
        ((recorded other).mp otherMember) known sameId
      rw [binds.fencingToken, binds.generation, sameGeneration, sameToken]
      exact ⟨rfl, rfl⟩
  · simp at isPending

theorem verifyConsistency_eq_ok
    (noCollision : ∀ first ∈ dispatchPreimages db, ∀ second ∈ dispatchPreimages db,
      sha256 first = sha256 second → first = second) : verifyConsistency db = .ok () := by
  obtain ⟨dispatches, plans, recorded⟩ := exists_mapM_verifyPlan holds
  rw [verifyConsistency, mapM_verifyMission holds, ok_bind, plans, ok_bind,
    verifyMaterialized_eq_ok holds, ok_bind]
  apply forM_eq_ok.mpr
  intro row member
  rw [verifyBinding_eq_ok holds recorded noCollision member, ok_bind]
  exact verifyLeases_eq_ok holds member

end Verify

/-! ### Opening after a run -/

def CoherentFor (coordinatorId : PyStr) (db : Database)
    (pending : List (PlanContext × FleetDispatch)) : Prop :=
  db.coordinatorId = coordinatorId ∧ ∃ specs, Coherent db specs pending

theorem storeInvariant_coherentFor (coordinatorId : PyStr) :
    StoreInvariant (CoherentFor coordinatorId) where
  distinct := fun ⟨_, holds⟩ => storeInvariant_coherent.distinct holds
  register := fun step ⟨same, holds⟩ => by
    obtain ⟨_, -, -, -, -, -, kept⟩ := step.tables
    exact ⟨kept.trans same, storeInvariant_coherent.register step holds⟩
  dispatch := fun accepted step ⟨same, holds⟩ =>
    ⟨step.frame.2.2.trans same, storeInvariant_coherent.dispatch accepted step holds⟩
  commit := fun step ⟨same, holds⟩ =>
    ⟨step.frame.2.2.2.trans same, storeInvariant_coherent.commit step holds⟩
  finish := fun step ⟨same, holds⟩ => by
    have coherent := storeInvariant_coherent.finish step holds
    obtain ⟨event, -, rfl⟩ := step.applied
    exact ⟨same, coherent⟩

theorem openStore_none_eq_ok {coordinatorId : PyStr} {start : Database}
    (opened : openStore coordinatorId none = .ok start) :
    stateText (py "coordinator_id") coordinatorId = .ok () ∧
      start = emptyDatabase coordinatorId := by
  simp only [openStore, bindCoordinator, bind_eq_ok, pure_eq_ok] at opened
  obtain ⟨_, valid, _, ⟨_, -, rfl⟩, _, -, _, -, rfl⟩ := opened
  exact ⟨valid, rfl⟩

/-- After every run from a new database the constructor accepts what the run
left.  The event chain, the stored specifications, plans and dispatches, the
replay of the mission rows and the lease sets always verify; only the lookup
of a dispatch by its identifier could fail, and then the seeds of two recorded
dispatches are an explicit collision of the digest. -/
theorem openStore_runCalls {coordinatorId : PyStr} {start : Database}
    (opened : openStore coordinatorId none = .ok start) (calls : List FleetCall) :
    let db := runCalls start calls
    verifyEventChain db = .ok db.eventHead ∧
    verifyMaterializedStateFromEvents db = .ok () ∧
    (∃ specs dispatches, db.missions.mapM (verifyMission db) = .ok specs ∧
      db.plans.mapM (verifyPlan coordinatorId specs) = .ok dispatches ∧
      ∀ row ∈ db.missions, verifyLeases db specs row = .ok ()) ∧
    (openStore coordinatorId (some db) = .ok db ∨
      ∃ first ∈ dispatchPreimages db, ∃ second ∈ dispatchPreimages db,
        first ≠ second ∧ sha256 first = sha256 second) := by
  intro db
  obtain ⟨valid, rfl⟩ := openStore_none_eq_ok opened
  have coherent : CoherentFor coordinatorId db [] :=
    (storeInvariant_coherentFor coordinatorId).runCalls calls
      ⟨rfl, [], coherent_emptyDatabase coordinatorId⟩
  obtain ⟨same, specs, holds⟩ := coherent
  have chain := verifyEventChain_eq_ok holds
  refine ⟨chain, verifyMaterialized_eq_ok holds, ?_, ?_⟩
  · obtain ⟨dispatches, plans, -⟩ := exists_mapM_verifyPlan holds
    rw [same] at plans
    exact ⟨_, dispatches, mapM_verifyMission holds, plans, fun _ => verifyLeases_eq_ok holds⟩
  · by_cases collides : ∃ first ∈ dispatchPreimages db, ∃ second ∈ dispatchPreimages db,
        first ≠ second ∧ sha256 first = sha256 second
    · exact .inr collides
    · left
      have noCollision : ∀ first ∈ dispatchPreimages db, ∀ second ∈ dispatchPreimages db,
          sha256 first = sha256 second → first = second := by
        intro first firstMember second secondMember sameDigest
        by_contra differ
        exact collides ⟨first, firstMember, second, secondMember, differ, sameDigest⟩
      have bound : bindCoordinator coordinatorId (some db) = .ok db := by
        simp [bindCoordinator, raiseIf, same]
      rw [openStore, valid, ok_bind, bound, ok_bind, chain, ok_bind,
        verifyConsistency_eq_ok holds noCollision]
      rfl

theorem openStore_runCalls_fleet :
    let db := runCalls (emptyDatabase (py "fleet"))
      [.registerMission 4 (.ok (.aware ⟨2026, 1, 2, 3, 4, 5, 0, validDateTime_survey⟩ 0))
        ⟨py "survey", py "drone-1", py "core/api", List.replicate 40 0x61,
          List.replicate 40 0x62, py "drone/survey", [py "docs"], [], [py "ticket:1"]⟩]
    openStore (py "fleet") none = .ok (emptyDatabase (py "fleet")) ∧
      verifyEventChain db = .ok db.eventHead ∧
      (openStore (py "fleet") (some db) = .ok db ∨
        ∃ first ∈ dispatchPreimages db, ∃ second ∈ dispatchPreimages db,
          first ≠ second ∧ sha256 first = sha256 second) := by
  have opened : openStore (py "fleet") none = .ok (emptyDatabase (py "fleet")) := rfl
  intro db
  obtain ⟨chain, -, -, reopened⟩ := openStore_runCalls opened _
  exact ⟨opened, chain, reopened⟩

end FleetCoordination

end CyberLion
