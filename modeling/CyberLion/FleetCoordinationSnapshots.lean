import CyberLion.FleetCoordinationReads

/-!
# Snapshots among the commits of other handles

`snapshot` reads the `meta` row, the missions and the leases with one statement
each, and other handles may commit between them.  Every commit that changes the
database raises its revision, so the only committed state that a snapshot can
show is the one its first statement has seen: the snapshot is a cut of the
history exactly when the two other tables still read as they did then.
-/

namespace CyberLion

namespace FleetCoordination

open PyLib

/-! ### Revisions -/

def Commits (db after : Database) : Prop :=
  ∃ calls, after = runCalls db calls

variable {db : Database}

theorem DispatchChain.revision {context : PlanContext} {after : Database}
    {issued : List FleetDispatch} (chain : DispatchChain context db issued after) :
    after.revision = db.revision := by
  induction chain with
  | nil db => rfl
  | cons step later ih =>
    obtain ⟨leases, event, -, -, rfl⟩ := step.applied
    exact ih

theorem CommitStep.revision {after : Database} {context : PlanContext}
    {selected : List FleetDispatch} (step : CommitStep db context selected after) :
    after.revision = db.revision + 1 := by
  have committed := step.committed
  simp only [Database.commitPlan, bind_eq_ok, pure_eq_ok] at committed
  obtain ⟨_, -, _, -, _, -, _, -, logged, loggedEq, rfl⟩ := committed
  obtain ⟨event, -, rfl⟩ := exists_event_of_appendEvent loggedEq
  rfl

theorem RegisterStep.revision {after : Database} {spec : FleetCoordinationSpec} {digest now : PyStr}
    (step : RegisterStep db spec digest now after) :
    after.revision = db.revision + 1 := by
  obtain ⟨inserted, event, insertedEq, -, rfl⟩ := step.applied
  simp only [Database.insertMission, bind_eq_ok, pure_eq_ok, raiseIf_eq_ok] at insertedEq
  obtain ⟨scopeJson, -, dependenciesJson, -, evidenceJson, -, _, -, rfl⟩ := insertedEq
  rfl

theorem EndStep.revision {after : Database} {row : MissionRow} {dispatchId now : PyStr}
    {ending : Ending} (step : EndStep db row dispatchId ending now after) :
    after.revision = db.revision + 1 := by
  obtain ⟨event, -, rfl⟩ := step.applied
  rfl

theorem revision_stepCall (distinct : (db.missions.map MissionRow.missionId).Nodup)
    (call : FleetCall) : stepCall db call = db ∨ (stepCall db call).revision = db.revision + 1 := by
  rw [stepCall]
  split
  · rename_i after applied
    cases call with
    | registerMission depth clock spec =>
      rcases exists_registerStep applied with rfl | ⟨digest, now, step⟩
      · exact .inl rfl
      · exact .inr step.revision
    | plan clock request =>
      rw [FleetCall.apply, map_eq_ok] at applied
      obtain ⟨⟨planned, dispatches⟩, plannedEq, rfl⟩ := applied
      rcases exists_dispatchChain_of_plan plannedEq distinct with
        ⟨rfl, -⟩ | ⟨context, middle, -, -, chain, commit⟩
      · exact .inl rfl
      · right
        rw [commit.revision, chain.revision]
    | requeue clock missionId dispatchId fencingToken evidenceRef =>
      rcases exists_endStep_of_requeue applied with rfl | ⟨row, now, step⟩
      · exact .inl rfl
      · exact .inr step.revision
    | recordTerminal clock missionId dispatchId fencingToken terminalState evidenceRef =>
      rcases exists_endStep_of_recordTerminal applied with rfl | ⟨row, _, _, now, step⟩
      · exact .inl rfl
      · exact .inr step.revision
  · exact .inl rfl

theorem revision_runCalls (holds : LeaseInvariant db) (calls : List FleetCall) :
    runCalls db calls = db ∨ db.revision < (runCalls db calls).revision := by
  induction calls generalizing db with
  | nil => exact .inl rfl
  | cons call calls ih =>
    have stepHolds := storeInvariant_leaseInvariant.stepCall call holds
    have later := ih stepHolds
    rw [runCalls, List.foldl_cons]
    rcases revision_stepCall holds.distinct call with same | raised
    · rw [same] at later ⊢
      exact later
    · right
      rcases later with same | grown
      · rw [runCalls] at same
        rw [same]
        omega
      · rw [runCalls] at grown
        omega

theorem runCalls_append (db : Database) (calls more : List FleetCall) :
    runCalls db (calls ++ more) = runCalls (runCalls db calls) more :=
  List.foldl_append

theorem runCalls_eq_of_revision {coordinatorId : PyStr} {first second history : List FleetCall}
    (firstPrefix : first <+: history) (secondPrefix : second <+: history)
    (same : (runCalls (emptyDatabase coordinatorId) first).revision =
      (runCalls (emptyDatabase coordinatorId) second).revision) :
    runCalls (emptyDatabase coordinatorId) first =
      runCalls (emptyDatabase coordinatorId) second := by
  rcases List.prefix_or_prefix_of_prefix firstPrefix secondPrefix with
    ⟨more, rfl⟩ | ⟨more, rfl⟩
  · rw [runCalls_append] at same ⊢
    rcases revision_runCalls (leaseInvariant_runCalls coordinatorId first) more with equal | grown
    · exact equal.symm
    · omega
  · rw [runCalls_append] at same ⊢
    rcases revision_runCalls (leaseInvariant_runCalls coordinatorId second) more with equal | grown
    · exact equal
    · omega

/-! ### What a snapshot returns -/

theorem exec_snapshot {between : Database → Database → Prop} {start final : Database}
    {instants : List Database} {result : FleetCoordinationSnapshot} :
    PyProg.Exec between snapshot start instants final (.ok result) ↔
      ∃ first second missions leases, instants = [first, second, final] ∧
        between start first ∧ between first second ∧ between second final ∧
        second.readMissions = .ok missions ∧ final.activeLeases = .ok leases ∧
        buildSnapshot first.coordinatorId first.revision first.eventHead missions leases =
          .ok result := by
  simp only [snapshot, PyProg.exec_bind_ok, PyProg.exec_read, PyProg.exec_lift]
  constructor
  · rintro ⟨_, first, _, _, rfl, ⟨rfl, toFirst, isMeta⟩, _, second, missions, _, rfl,
      ⟨rfl, toSecond, readMissions⟩, _, third, leases, _, rfl, ⟨rfl, toThird, readLeases⟩,
      rfl, rfl, built⟩
    obtain rfl := Except.ok.inj isMeta
    exact ⟨first, second, missions, leases, rfl, toFirst, toSecond, toThird, readMissions,
      readLeases, built.symm⟩
  · rintro ⟨first, second, missions, leases, rfl, toFirst, toSecond, toThird, readMissions,
      readLeases, built⟩
    exact ⟨[first], first, _, [second, final], rfl, ⟨rfl, toFirst, rfl⟩, [second], second,
      missions, [final], rfl, ⟨rfl, toSecond, readMissions⟩, [final], final, leases, [], rfl,
      ⟨rfl, toThird, readLeases⟩, rfl, rfl, built.symm⟩

theorem eq_of_exec_snapshot {between : Database → Database → Prop} {start final : Database}
    {instants : List Database} {result : FleetCoordinationSnapshot}
    (returned : PyProg.Exec between snapshot start instants final (.ok result)) :
    ∃ first second, instants = [first, second, final] ∧ between start first ∧
      between first second ∧ between second final ∧
      result = ⟨first.coordinatorId, first.revision, first.eventHead, second.view.missions,
        final.view.activeLeases⟩ := by
  obtain ⟨first, second, missions, leases, isInstants, toFirst, toSecond, toFinal, readMissions,
    readLeases, built⟩ := exec_snapshot.mp returned
  have isMissions : missions = second.sortedMissions.map MissionRow.toState :=
    eq_map_of_mapM_eq_ok readMissions fun row state read => (missionStateOf_eq_ok.mp read).2
  have isLeases : leases = final.sortedLeases.map LeaseRow.toLease := by
    apply eq_map_of_mapM_eq_ok readLeases
    intro row lease read
    rw [leaseOf, bind_eq_ok] at read
    obtain ⟨_, -, same⟩ := read
    exact pure_eq_ok.mp same
  rw [buildSnapshot, bind_eq_ok] at built
  obtain ⟨_, -, same⟩ := built
  refine ⟨first, second, isInstants, toFirst, toSecond, toFinal, ?_⟩
  rw [← pure_eq_ok.mp same, isMissions, isLeases]
  rfl

/-! ### Cuts -/

/-- Three instants of a history: a run leads to the first of them, and commits
lead from each to the next. -/
structure History (coordinatorId : PyStr) (first second third : Database)
    (before during later : List FleetCall) : Prop where
  isFirst : first = runCalls (emptyDatabase coordinatorId) before
  isSecond : second = runCalls first during
  isThird : third = runCalls second later

def IsCut (coordinatorId : PyStr) (history : List FleetCall)
    (result : FleetCoordinationSnapshot) : Prop :=
  ∃ committed, committed <+: history ∧
    (runCalls (emptyDatabase coordinatorId) committed).view = result

/-- The leases of a snapshot are those of the missions that it reports as
running. -/
structure LeasesMatch (result : FleetCoordinationSnapshot) : Prop where
  owner : ∀ lease ∈ result.activeLeases, ∃ mission ∈ result.missions,
    mission.missionId = lease.missionId ∧ mission.state = .running ∧
      mission.dispatchId = some lease.dispatchId ∧ mission.generation = lease.generation
  held : ∀ mission ∈ result.missions, mission.state = .running →
    ∃ lease ∈ result.activeLeases, lease.missionId = mission.missionId ∧ lease.leaseKind = .branch

theorem mem_view_missions {mission : FleetMissionState} :
    mission ∈ db.view.missions ↔ ∃ row ∈ db.missions, row.toState = mission := by
  simp only [Database.view, Database.sortedMissions, List.mem_map, List.mem_insertionSort]

theorem mem_view_activeLeases {lease : FleetLease} :
    lease ∈ db.view.activeLeases ↔ ∃ row ∈ db.leases, row.toLease = lease := by
  simp only [Database.view, Database.sortedLeases, List.mem_map, List.mem_insertionSort]

theorem generation_of_mem_missionLeases {row : MissionRow} {scope : List PyStr}
    {dispatchId : PyStr} {lease : LeaseRow} (member : lease ∈ missionLeases row scope dispatchId) :
    lease.generation = row.generation := by
  rcases List.mem_cons.mp member with rfl | later
  · rfl
  · obtain ⟨path, -, rfl⟩ := List.mem_map.mp later
    rfl

theorem leasesMatch_view (holds : LeaseInvariant db) : LeasesMatch db.view := by
  constructor
  · intro lease member
    obtain ⟨held, heldMember, rfl⟩ := mem_view_activeLeases.mp member
    obtain ⟨row, rowMember, same⟩ := List.mem_map.mp (holds.registered held heldMember)
    have owned : held ∈ db.leasesOwnedBy row.missionId := by
      rw [Database.leasesOwnedBy, List.mem_filter, decide_eq_true_eq]
      exact ⟨heldMember, same.symm⟩
    by_cases running : row.state = .running
    · obtain ⟨dispatchId, scope, active, -, leases⟩ := holds.running row rowMember running
      rw [leases] at owned
      refine ⟨row.toState, mem_view_missions.mpr ⟨row, rowMember, rfl⟩, same, running, ?_,
        (generation_of_mem_missionLeases owned).symm⟩
      rw [LeaseRow.toLease, (mem_missionLeases owned).2.1]
      exact active
    · rw [holds.idle row rowMember running] at owned
      cases owned
  · intro mission member running
    obtain ⟨row, rowMember, rfl⟩ := mem_view_missions.mp member
    obtain ⟨dispatchId, scope, -, -, leases⟩ := holds.running row rowMember running
    have branch : (⟨row.repository, .branch, row.branch, row.missionId, row.droneId, dispatchId,
        row.generation, row.updatedAt⟩ : LeaseRow) ∈ db.leasesOwnedBy row.missionId := by
      rw [leases, missionLeases]
      exact List.mem_cons_self
    exact ⟨_, mem_view_activeLeases.mpr ⟨_, (List.mem_filter.mp branch).1, rfl⟩, rfl, rfl⟩

theorem isCut_iff {coordinatorId : PyStr} {first second third : Database}
    {before during later : List FleetCall}
    (history : History coordinatorId first second third before during later) :
    IsCut coordinatorId (before ++ during ++ later) ⟨first.coordinatorId, first.revision,
        first.eventHead, second.view.missions, third.view.activeLeases⟩ ↔
      second.view.missions = first.view.missions ∧
        third.view.activeLeases = first.view.activeLeases := by
  constructor
  · rintro ⟨committed, isPrefix, shown⟩
    have firstPrefix : before <+: before ++ during ++ later := by
      rw [List.append_assoc]
      exact List.prefix_append _ _
    have sameRevision := congrArg FleetCoordinationSnapshot.revision shown
    have same : runCalls (emptyDatabase coordinatorId) committed = first := by
      rw [history.isFirst] at sameRevision ⊢
      exact runCalls_eq_of_revision isPrefix firstPrefix sameRevision
    rw [same] at shown
    exact ⟨(congrArg FleetCoordinationSnapshot.missions shown).symm,
      (congrArg FleetCoordinationSnapshot.activeLeases shown).symm⟩
  · rintro ⟨sameMissions, sameLeases⟩
    refine ⟨before, ?_, ?_⟩
    · rw [List.append_assoc]
      exact List.prefix_append _ _
    · rw [← history.isFirst, sameMissions, sameLeases]
      rfl

/-- The three instants of a snapshot lie in a history of calls; in every such
history the snapshot is one committed state, with the leases of the missions it
reports as running, exactly when the missions and the leases that it read are
those of its first instant. -/
theorem snapshot_isCut_iff {coordinatorId : PyStr} {start final : Database}
    {instants : List Database} {result : FleetCoordinationSnapshot}
    (reached : Commits (emptyDatabase coordinatorId) start)
    (returned : PyProg.Exec Commits snapshot start instants final (.ok result)) :
    ∃ first second third, instants = [first, second, third] ∧
      (∃ before during later, History coordinatorId first second third before during later) ∧
      ∀ before during later, History coordinatorId first second third before during later →
        ((IsCut coordinatorId (before ++ during ++ later) result ∧ LeasesMatch result) ↔
          second.view.missions = first.view.missions ∧
            third.view.activeLeases = first.view.activeLeases) := by
  obtain ⟨first, second, isInstants, ⟨more, isFirst⟩, ⟨during, isSecond⟩, ⟨later, isThird⟩, rfl⟩ :=
    eq_of_exec_snapshot returned
  obtain ⟨calls, rfl⟩ := reached
  refine ⟨first, second, final, isInstants, ⟨calls ++ more, during, later, ?_, isSecond, isThird⟩,
    ?_⟩
  · rw [runCalls_append]
    exact isFirst
  · intro before during later history
    have cut := isCut_iff history
    constructor
    · rintro ⟨isCut, -⟩
      exact cut.mp isCut
    · intro same
      refine ⟨cut.mpr same, ?_⟩
      have matching : LeasesMatch first.view := by
        rw [history.isFirst]
        exact leasesMatch_view (leaseInvariant_runCalls coordinatorId before)
      rw [same.1, same.2]
      exact matching

/-- A snapshot of a new store while nobody else writes. -/
theorem snapshot_isCut_iff_fleet :
    IsCut (py "fleet") [] ⟨py "fleet", 0, zeroDigest, [], []⟩ := by
  have returned : PyProg.Exec Commits snapshot (emptyDatabase (py "fleet"))
      [emptyDatabase (py "fleet"), emptyDatabase (py "fleet"), emptyDatabase (py "fleet")]
      (emptyDatabase (py "fleet")) (.ok ⟨py "fleet", 0, zeroDigest, [], []⟩) := by
    apply exec_snapshot.mpr
    refine ⟨_, _, [], [], rfl, ⟨[], rfl⟩, ⟨[], rfl⟩, ⟨[], rfl⟩, rfl, rfl, ?_⟩
    decide +kernel
  obtain ⟨first, second, third, isInstants, -, exactly⟩ := snapshot_isCut_iff ⟨[], rfl⟩ returned
  obtain ⟨rfl, rfl, rfl⟩ : first = emptyDatabase (py "fleet") ∧
      second = emptyDatabase (py "fleet") ∧ third = emptyDatabase (py "fleet") := by
    simpa [eq_comm] using isInstants
  exact ((exactly [] [] [] ⟨rfl, rfl, rfl⟩).mpr ⟨rfl, rfl⟩).1

def registerSurvey : FleetCall :=
  .registerMission 4 (.ok (.aware ⟨2026, 1, 2, 3, 4, 5, 0, validDateTime_survey⟩ 0))
    ⟨py "survey", py "drone-1", py "core/api", List.replicate 40 0x61, List.replicate 40 0x62,
      py "drone/survey", [py "docs"], [], [py "ticket:1"]⟩

/-- The snapshot has the revision of the empty store and the mission that was
registered behind its first statement: no committed state reads so. -/
theorem snapshot_torn :
    ∃ result, PyProg.Exec Commits snapshot (emptyDatabase (py "fleet"))
      [emptyDatabase (py "fleet"), runCalls (emptyDatabase (py "fleet")) [registerSurvey],
        runCalls (emptyDatabase (py "fleet")) [registerSurvey]]
      (runCalls (emptyDatabase (py "fleet")) [registerSurvey]) (.ok result) ∧
      ¬ IsCut (py "fleet") [registerSurvey] result := by
  have read : (do
      let missions ← (runCalls (emptyDatabase (py "fleet")) [registerSurvey]).readMissions
      let leases ← (runCalls (emptyDatabase (py "fleet")) [registerSurvey]).activeLeases
      let result ← buildSnapshot (py "fleet") 0 zeroDigest missions leases
      return result.missions.length) = .ok 1 := by decide +kernel
  generalize isAfter : runCalls (emptyDatabase (py "fleet")) [registerSurvey] = after at read ⊢
  simp only [bind_eq_ok, pure_eq_ok] at read
  obtain ⟨missions, readMissions, leases, readLeases, result, built, count⟩ := read
  have returned : PyProg.Exec Commits snapshot (emptyDatabase (py "fleet"))
      [emptyDatabase (py "fleet"), after, after] after (.ok result) :=
    exec_snapshot.mpr ⟨_, after, missions, leases, rfl, ⟨[], rfl⟩, ⟨[registerSurvey], isAfter.symm⟩,
      ⟨[], rfl⟩, readMissions, readLeases, built⟩
  refine ⟨result, returned, ?_⟩
  obtain ⟨first, second, isInstants, -, -, -, rfl⟩ := eq_of_exec_snapshot returned
  obtain ⟨rfl, rfl⟩ : emptyDatabase (py "fleet") = first ∧ after = second := by
    simpa using isInstants
  intro cut
  have history : History (py "fleet") (emptyDatabase (py "fleet")) after after []
    [registerSurvey] [] := ⟨rfl, isAfter.symm, rfl⟩
  have same := ((isCut_iff history).mp cut).1
  rw [same] at count
  cases count

end FleetCoordination

end CyberLion
