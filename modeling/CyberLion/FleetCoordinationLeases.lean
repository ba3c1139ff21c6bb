import CyberLion.FleetCoordinationRun

/-!
# Running missions exclude each other

After every run of the store a mission is running exactly when it holds
leases, these are the lease of its branch and one lease for each path of its
write scope, and two running missions of one repository share no branch and no
path.
-/

namespace CyberLion

namespace FleetCoordination

open PyLib

def missionLeases (row : MissionRow) (scope : List PyStr) (dispatchId : PyStr) :
    List LeaseRow :=
  ⟨row.repository, .branch, row.branch, row.missionId, row.droneId, dispatchId, row.generation,
      row.updatedAt⟩ ::
    scope.map fun path =>
      ⟨row.repository, .path, path, row.missionId, row.droneId, dispatchId, row.generation,
        row.updatedAt⟩

namespace Database

def leasesOwnedBy (db : Database) (missionId : PyStr) : List LeaseRow :=
  db.leases.filter fun lease => lease.missionId = missionId

end Database

def Conflict (first second : LeaseRow) : Prop :=
  first.repository = second.repository ∧
    ((first.kind = .branch ∧ second.kind = .branch ∧ first.resource = second.resource) ∨
      (first.kind = .path ∧ second.kind = .path ∧
        pathOverlap first.resource second.resource = true))

theorem pathOverlap_comm (first second : PyStr) :
    pathOverlap first second = pathOverlap second first := by
  apply Bool.eq_iff_iff.mpr
  rw [pathOverlap_iff, pathOverlap_iff]
  exact or_comm

theorem Conflict.symm {first second : LeaseRow} (conflict : Conflict first second) :
    Conflict second first := by
  obtain ⟨repository, branches | paths⟩ := conflict
  · exact ⟨repository.symm, .inl ⟨branches.2.1, branches.1, branches.2.2.symm⟩⟩
  · refine ⟨repository.symm, .inr ⟨paths.2.1, paths.1, ?_⟩⟩
    rw [pathOverlap_comm]
    exact paths.2.2

structure LeaseInvariant (db : Database) : Prop where
  distinct : (db.missions.map MissionRow.missionId).Nodup
  running : ∀ row ∈ db.missions, row.state = .running →
    ∃ dispatchId scope, row.dispatchId = some dispatchId ∧
      storedTexts row.writeScopeJson = .ok scope ∧
      db.leasesOwnedBy row.missionId = missionLeases row scope dispatchId
  idle : ∀ row ∈ db.missions, row.state ≠ .running → db.leasesOwnedBy row.missionId = []
  registered : ∀ lease ∈ db.leases, lease.missionId ∈ db.missions.map MissionRow.missionId
  exclusive : ∀ first ∈ db.leases, ∀ second ∈ db.leases, first.missionId ≠ second.missionId →
    ¬ Conflict first second

theorem leaseInvariant_emptyDatabase (coordinatorId : PyStr) :
    LeaseInvariant (emptyDatabase coordinatorId) := by
  constructor <;> simp [emptyDatabase]

/-! ### What the steps do to the two tables -/

theorem missionIds_updateMission (db : Database) (missionId : PyStr)
    {change : MissionRow → MissionRow} (keepsId : ∀ row, (change row).missionId = row.missionId) :
    (db.updateMission missionId change).missions.map MissionRow.missionId =
      db.missions.map MissionRow.missionId := by
  rw [Database.updateMission, List.map_map]
  apply List.map_congr_left
  intro row _
  rw [Function.comp_apply]
  split
  · exact keepsId row
  · rfl

theorem mem_updateMission {db : Database} {missionId : PyStr}
    {change : MissionRow → MissionRow} {row : MissionRow}
    (member : row ∈ (db.updateMission missionId change).missions) :
    (∃ old ∈ db.missions, old.missionId = missionId ∧ row = change old) ∨
      (row ∈ db.missions ∧ row.missionId ≠ missionId) := by
  obtain ⟨old, oldMember, rfl⟩ := List.mem_map.mp member
  split
  · rename_i same
    exact .inl ⟨old, oldMember, same, rfl⟩
  · rename_i differ
    exact .inr ⟨oldMember, differ⟩

theorem eq_of_missionId_eq {missions : List MissionRow}
    (distinct : (missions.map MissionRow.missionId).Nodup) {first second : MissionRow}
    (firstMember : first ∈ missions) (secondMember : second ∈ missions)
    (same : first.missionId = second.missionId) : first = second :=
  List.inj_on_of_nodup_map distinct firstMember secondMember same

theorem insertLeases_eq_ok {leases rows after : List LeaseRow}
    (inserted : insertLeases leases rows = .ok after) : after = leases ++ rows := by
  induction rows generalizing leases with
  | nil =>
    rw [List.append_nil]
    exact (Except.ok.inj inserted).symm
  | cons lease rows ih =>
    simp only [insertLeases, bind_eq_ok, raiseIf_eq_ok] at inserted
    obtain ⟨_, -, rest⟩ := inserted
    rw [ih rest, List.append_assoc, List.singleton_append]

theorem exists_bytes_of_buildDispatch {db : Database} {context : PlanContext}
    {row : MissionRow} {scope : List PyStr} {dispatch : FleetDispatch}
    (built : buildDispatch db context row scope = .ok dispatch) :
    ∃ idBytes fenceBytes,
      canonicalJson (dispatchSeed (py "dispatch") db.coordinatorId context.requestDigest
        row.missionId row.droneId row.specDigest (row.generation + 1) context.now) =
          .ok idBytes ∧
      canonicalJson (dispatchSeed (py "fence") db.coordinatorId context.requestDigest
        row.missionId row.droneId row.specDigest (row.generation + 1) context.now) =
          .ok fenceBytes ∧
      dispatch = ⟨sha256 idBytes, sha256 fenceBytes, context.request.requestId,
        db.coordinatorId, row.missionId, row.droneId, row.generation + 1, row.repository,
        row.baselineSha, row.baselineTreeSha, row.branch, scope, context.now⟩ := by
  simp only [buildDispatch, bind_eq_ok, pure_eq_ok] at built
  obtain ⟨idBytes, idEq, fenceBytes, fenceEq, rfl⟩ := built
  exact ⟨idBytes, fenceBytes, idEq, fenceEq, rfl⟩

section Dispatch

variable {db after : Database} {context : PlanContext} {row : MissionRow}
  {dispatch : FleetDispatch}

theorem leasesOf_eq_missionLeases (step : DispatchStep db context row dispatch after) :
    leasesOf dispatch = missionLeases (row.dispatched dispatch context.now) dispatch.writeScope
      dispatch.dispatchId := by
  obtain ⟨_, _, -, -, shape⟩ := exists_bytes_of_buildDispatch step.built
  rw [shape]
  rfl

theorem mem_missionLeases {row : MissionRow} {scope : List PyStr} {dispatchId : PyStr}
    {lease : LeaseRow} (member : lease ∈ missionLeases row scope dispatchId) :
    lease.missionId = row.missionId ∧ lease.dispatchId = dispatchId ∧
      lease.repository = row.repository := by
  rcases List.mem_cons.mp member with rfl | later
  · exact ⟨rfl, rfl, rfl⟩
  · obtain ⟨path, -, rfl⟩ := List.mem_map.mp later
    exact ⟨rfl, rfl, rfl⟩

theorem not_conflict_of_available (step : DispatchStep db context row dispatch after)
    {fresh held : LeaseRow} (freshMember : fresh ∈ leasesOf dispatch)
    (heldMember : held ∈ db.leases) : ¬ Conflict fresh held := by
  have available := step.available
  simp only [Database.leasesAvailable, Bool.and_eq_true, Bool.not_eq_true', List.any_eq_false,
    decide_eq_true_eq, not_and] at available
  obtain ⟨branchFree, pathsFree⟩ := available
  rw [leasesOf_eq_missionLeases step] at freshMember
  rintro ⟨repository, ⟨freshKind, heldKind, resource⟩ | ⟨freshKind, heldKind, overlap⟩⟩
  · rcases List.mem_cons.mp freshMember with rfl | later
    · exact branchFree held heldMember ⟨repository.symm, heldKind⟩ resource.symm
    · obtain ⟨path, -, rfl⟩ := List.mem_map.mp later
      simp at freshKind
  · rcases List.mem_cons.mp freshMember with rfl | later
    · simp at freshKind
    · obtain ⟨path, pathMember, rfl⟩ := List.mem_map.mp later
      simp only [List.any_eq_true, Bool.and_eq_true, decide_eq_true_eq, not_exists,
        not_and] at pathsFree
      exact pathsFree path pathMember held heldMember ⟨repository.symm, heldKind⟩ overlap

theorem DispatchStep.tables (step : DispatchStep db context row dispatch after) :
    after.missions = (db.updateMission row.missionId
        (MissionRow.dispatched dispatch context.now)).missions ∧
      after.leases = db.leases ++ leasesOf dispatch := by
  obtain ⟨leases, event, inserted, -, rfl⟩ := step.applied
  rw [insertLeases_eq_ok inserted]
  exact ⟨rfl, rfl⟩

theorem leasesOwnedBy_dispatch (step : DispatchStep db context row dispatch after)
    (missionId : PyStr) :
    after.leasesOwnedBy missionId = db.leasesOwnedBy missionId ++
      if missionId = row.missionId then leasesOf dispatch else [] := by
  have owner : ∀ lease ∈ leasesOf dispatch, lease.missionId = row.missionId := by
    rw [leasesOf_eq_missionLeases step]
    intro lease member
    exact (mem_missionLeases member).1
  rw [Database.leasesOwnedBy, step.tables.2, List.filter_append]
  congr 1
  split
  · rename_i same
    rw [List.filter_eq_self]
    intro lease member
    simp [owner lease member, same]
  · rename_i differ
    rw [List.filter_eq_nil_iff]
    intro lease member
    simpa [owner lease member] using Ne.symm differ

theorem leaseInvariant_of_dispatchStep (holds : LeaseInvariant db)
    (step : DispatchStep db context row dispatch after) : LeaseInvariant after := by
  have notRunning : row.state ≠ .running := by
    rcases step.ready with ready | ready <;> simp [ready]
  have free : db.leasesOwnedBy row.missionId = [] := holds.idle row step.present notRunning
  obtain ⟨missionsEq, leasesEq⟩ := step.tables
  have ids : after.missions.map MissionRow.missionId =
      db.missions.map MissionRow.missionId := by
    rw [missionsEq]
    exact missionIds_updateMission db row.missionId fun _ => rfl
  constructor
  · rw [ids]
    exact holds.distinct
  · intro other member runs
    rw [missionsEq] at member
    rw [leasesOwnedBy_dispatch step]
    rcases mem_updateMission member with ⟨old, oldMember, same, rfl⟩ | ⟨oldMember, differ⟩
    · obtain rfl := eq_of_missionId_eq holds.distinct oldMember step.present same
      refine ⟨dispatch.dispatchId, dispatch.writeScope, rfl, step.scope, ?_⟩
      have sameId : (old.dispatched dispatch context.now).missionId = old.missionId := rfl
      rw [sameId, if_pos rfl, free, List.nil_append]
      exact leasesOf_eq_missionLeases step
    · rw [if_neg differ, List.append_nil]
      exact holds.running other oldMember runs
  · intro other member stands
    rw [missionsEq] at member
    rw [leasesOwnedBy_dispatch step]
    rcases mem_updateMission member with ⟨old, oldMember, same, rfl⟩ | ⟨oldMember, differ⟩
    · exact absurd rfl stands
    · rw [if_neg differ, List.append_nil]
      exact holds.idle other oldMember stands
  · intro lease member
    rw [ids]
    rw [leasesEq, List.mem_append] at member
    rcases member with held | fresh
    · exact holds.registered lease held
    · rw [leasesOf_eq_missionLeases step] at fresh
      have owner : lease.missionId = row.missionId := (mem_missionLeases fresh).1
      rw [owner]
      exact List.mem_map_of_mem step.present
  · intro first firstMember second secondMember differ
    rw [leasesEq, List.mem_append] at firstMember secondMember
    rcases firstMember with firstHeld | firstFresh
    · rcases secondMember with secondHeld | secondFresh
      · exact holds.exclusive first firstHeld second secondHeld differ
      · intro conflict
        exact not_conflict_of_available step secondFresh firstHeld conflict.symm
    · rcases secondMember with secondHeld | secondFresh
      · exact not_conflict_of_available step firstFresh secondHeld
      · rw [leasesOf_eq_missionLeases step] at firstFresh secondFresh
        have same := (mem_missionLeases firstFresh).1.trans (mem_missionLeases secondFresh).1.symm
        exact absurd same differ

end Dispatch

theorem leaseInvariant_of_registerStep {db after : Database} {spec : FleetCoordinationSpec}
    {digest now : PyStr} (holds : LeaseInvariant db)
    (step : RegisterStep db spec digest now after) : LeaseInvariant after := by
  obtain ⟨inserted, event, insertedEq, -, rfl⟩ := step.applied
  simp only [Database.insertMission, bind_eq_ok, pure_eq_ok, raiseIf_eq_ok] at insertedEq
  obtain ⟨scopeJson, -, dependenciesJson, -, evidenceJson, -, _, -, rfl⟩ := insertedEq
  have fresh : spec.missionId ∉ db.missions.map MissionRow.missionId := by
    intro known
    obtain ⟨row, member, same⟩ := List.mem_map.mp known
    have absent := List.find?_eq_none.mp step.fresh row member
    simp [same] at absent
  constructor
  · change ((db.missions ++ [_]).map MissionRow.missionId).Nodup
    rw [List.map_append, List.nodup_append]
    refine ⟨holds.distinct, by simp, ?_⟩
    rintro first firstMember second secondMember rfl
    have newId : first = spec.missionId := List.mem_singleton.mp secondMember
    exact fresh (newId ▸ firstMember)
  · intro row member runs
    rcases List.mem_append.mp member with old | new
    · exact holds.running row old runs
    · rw [List.mem_singleton.mp new] at runs
      exact absurd runs (by simp [registeredRow])
  · intro row member stands
    rcases List.mem_append.mp member with old | new
    · exact holds.idle row old stands
    · rw [List.mem_singleton.mp new]
      apply List.filter_eq_nil_iff.mpr
      intro lease leaseMember
      have known := holds.registered lease leaseMember
      rw [decide_eq_true_eq]
      intro same
      have newId : lease.missionId = spec.missionId := same
      exact fresh (newId ▸ known)
  · intro lease member
    have known := holds.registered lease member
    change lease.missionId ∈ (db.missions ++ [_]).map MissionRow.missionId
    rw [List.map_append]
    exact List.mem_append_left _ known
  · exact holds.exclusive

theorem leasesOwnedBy_release {db : Database} {row : MissionRow} {dispatchId : PyStr}
    (holds : LeaseInvariant db) (present : row ∈ db.missions) (running : row.state = .running)
    (active : row.dispatchId = some dispatchId) (missionId : PyStr) :
    (db.release row.missionId dispatchId).leasesOwnedBy missionId =
      if missionId = row.missionId then [] else db.leasesOwnedBy missionId := by
  obtain ⟨other, scope, otherActive, -, owned⟩ := holds.running row present running
  have sameDispatch : other = dispatchId := by
    rw [active, Option.some.injEq] at otherActive
    exact otherActive.symm
  have released : ∀ lease ∈ db.leases, lease.missionId = row.missionId →
      lease.dispatchId = dispatchId := by
    intro lease member owner
    have inOwned : lease ∈ db.leasesOwnedBy row.missionId :=
      List.mem_filter.mpr ⟨member, by simpa using owner⟩
    rw [owned] at inOwned
    rw [(mem_missionLeases inOwned).2.1, sameDispatch]
  rw [Database.leasesOwnedBy, Database.release, List.filter_filter]
  split
  · rename_i same
    apply List.filter_eq_nil_iff.mpr
    intro lease member
    simp only [Bool.and_eq_true, decide_eq_true_eq, Bool.not_eq_true', Bool.and_eq_false_iff,
      decide_eq_false_iff_not, not_and, not_or, not_not]
    intro owner
    exact ⟨owner.trans same, released lease member (owner.trans same)⟩
  · rename_i differ
    apply List.filter_congr
    intro lease _
    by_cases owner : lease.missionId = missionId
    · simp [owner, differ]
    · simp [owner]

theorem leaseInvariant_of_endStep {db after : Database} {row : MissionRow}
    {dispatchId now : PyStr} {ending : Ending} (holds : LeaseInvariant db)
    (step : EndStep db row dispatchId ending now after) : LeaseInvariant after := by
  have keepsId : ∀ old : MissionRow, (ending.change now old).missionId = old.missionId := by
    intro old
    cases ending <;> rfl
  have ended : ∀ old : MissionRow, (ending.change now old).state = ending.state := by
    intro old
    cases ending <;> rfl
  have owned := leasesOwnedBy_release holds step.present step.running step.active
  obtain ⟨event, -, rfl⟩ := step.applied
  have ids := missionIds_updateMission (db.release row.missionId dispatchId) row.missionId keepsId
  have subset : ∀ lease ∈ (db.release row.missionId dispatchId).leases, lease ∈ db.leases :=
    fun lease member => (List.mem_filter.mp member).1
  constructor
  · change (((db.release row.missionId dispatchId).updateMission row.missionId
      (ending.change now)).missions.map MissionRow.missionId).Nodup
    rw [ids]
    exact holds.distinct
  · intro other member runs
    change ∃ dispatchId' scope, other.dispatchId = some dispatchId' ∧
      storedTexts other.writeScopeJson = .ok scope ∧
      (db.release row.missionId dispatchId).leasesOwnedBy other.missionId =
        missionLeases other scope dispatchId'
    rcases mem_updateMission member with ⟨old, -, -, rfl⟩ | ⟨oldMember, differ⟩
    · rw [ended old] at runs
      exact absurd runs ending.state_ne_running
    · rw [owned, if_neg differ]
      exact holds.running other oldMember runs
  · intro other member stands
    change (db.release row.missionId dispatchId).leasesOwnedBy other.missionId = []
    rw [owned]
    rcases mem_updateMission member with ⟨old, -, same, rfl⟩ | ⟨oldMember, differ⟩
    · rw [if_pos ((keepsId old).trans same)]
    · rw [if_neg differ]
      exact holds.idle other oldMember stands
  · intro lease member
    change lease.missionId ∈ ((db.release row.missionId dispatchId).updateMission row.missionId
      (ending.change now)).missions.map MissionRow.missionId
    rw [ids]
    exact holds.registered lease (subset lease member)
  · intro first firstMember second secondMember differ
    exact holds.exclusive first (subset first firstMember) second (subset second secondMember)
      differ

theorem CommitStep.frame {db after : Database} {context : PlanContext}
    {selected : List FleetDispatch} (step : CommitStep db context selected after) :
    after.missions = db.missions ∧ after.leases = db.leases ∧
      after.dependencies = db.dependencies ∧ after.coordinatorId = db.coordinatorId := by
  have committed := step.committed
  simp only [Database.commitPlan, bind_eq_ok, pure_eq_ok] at committed
  obtain ⟨_, -, _, -, _, -, _, -, logged, loggedEq, rfl⟩ := committed
  obtain ⟨event, -, rfl⟩ := exists_event_of_appendEvent loggedEq
  exact ⟨rfl, rfl, rfl, rfl⟩

theorem LeaseInvariant.of_tables {db after : Database} (holds : LeaseInvariant db)
    (missions : after.missions = db.missions) (leases : after.leases = db.leases) :
    LeaseInvariant after := by
  have owned : after.leasesOwnedBy = db.leasesOwnedBy := by
    funext missionId
    rw [Database.leasesOwnedBy, Database.leasesOwnedBy, leases]
  constructor
  · rw [missions]
    exact holds.distinct
  · rw [missions, owned]
    exact holds.running
  · rw [missions, owned]
    exact holds.idle
  · rw [missions, leases]
    exact holds.registered
  · rw [leases]
    exact holds.exclusive

theorem storeInvariant_leaseInvariant : StoreInvariant fun db _ => LeaseInvariant db where
  distinct := LeaseInvariant.distinct
  register := fun step holds => leaseInvariant_of_registerStep holds step
  dispatch := fun _ step holds => leaseInvariant_of_dispatchStep holds step
  commit := fun step holds => holds.of_tables step.frame.1 step.frame.2.1
  finish := fun step holds => leaseInvariant_of_endStep holds step

theorem leaseInvariant_runCalls (coordinatorId : PyStr) (calls : List FleetCall) :
    LeaseInvariant (runCalls (emptyDatabase coordinatorId) calls) :=
  storeInvariant_leaseInvariant.runCalls calls (leaseInvariant_emptyDatabase coordinatorId)

/-! ### Mutual exclusion -/

/-- After every run from an empty store, two running missions of one repository
have different branches and no path of one leads to or into a path of the
other; a mission runs exactly when it owns leases, and these are then its
branch lease and one lease for each path of its write scope, with its current
dispatch, generation and drone. -/
theorem runCalls_mutualExclusion (coordinatorId : PyStr) (calls : List FleetCall) :
    (∀ first ∈ (runCalls (emptyDatabase coordinatorId) calls).missions,
      ∀ second ∈ (runCalls (emptyDatabase coordinatorId) calls).missions,
        first ≠ second → first.state = .running → second.state = .running →
        first.repository = second.repository →
        first.branch ≠ second.branch ∧
          ∀ firstScope secondScope, storedTexts first.writeScopeJson = .ok firstScope →
            storedTexts second.writeScopeJson = .ok secondScope →
            ∀ firstPath ∈ firstScope, ∀ secondPath ∈ secondScope,
              firstPath ≠ secondPath ∧
                ¬ PosixPath.parts firstPath <+: PosixPath.parts secondPath ∧
                ¬ PosixPath.parts secondPath <+: PosixPath.parts firstPath) ∧
    ∀ row ∈ (runCalls (emptyDatabase coordinatorId) calls).missions,
      (row.state = .running ↔
        ∃ lease ∈ (runCalls (emptyDatabase coordinatorId) calls).leases,
          lease.missionId = row.missionId) ∧
      (row.state = .running → ∃ dispatchId scope, row.dispatchId = some dispatchId ∧
        storedTexts row.writeScopeJson = .ok scope ∧
        (runCalls (emptyDatabase coordinatorId) calls).leases.filter
            (fun lease => lease.missionId = row.missionId) =
          missionLeases row scope dispatchId) := by
  have holds := leaseInvariant_runCalls coordinatorId calls
  generalize runCalls (emptyDatabase coordinatorId) calls = db at holds ⊢
  constructor
  · intro first firstMember second secondMember differ firstRuns secondRuns repository
    obtain ⟨firstDispatch, firstScope, -, firstScopeEq, firstOwned⟩ :=
      holds.running first firstMember firstRuns
    obtain ⟨secondDispatch, secondScope, -, secondScopeEq, secondOwned⟩ :=
      holds.running second secondMember secondRuns
    have differentIds : first.missionId ≠ second.missionId := fun same =>
      differ (eq_of_missionId_eq holds.distinct firstMember secondMember same)
    have noConflict : ∀ a ∈ missionLeases first firstScope firstDispatch,
        ∀ b ∈ missionLeases second secondScope secondDispatch, ¬ Conflict a b := by
      intro a aMember b bMember
      have aOwner := (mem_missionLeases aMember).1
      have bOwner := (mem_missionLeases bMember).1
      rw [← firstOwned] at aMember
      rw [← secondOwned] at bMember
      apply holds.exclusive a (List.mem_filter.mp aMember).1 b (List.mem_filter.mp bMember).1
      rw [aOwner, bOwner]
      exact differentIds
    constructor
    · intro sameBranch
      exact noConflict _ List.mem_cons_self _ List.mem_cons_self
        ⟨repository, .inl ⟨rfl, rfl, sameBranch⟩⟩
    · intro firstScope' secondScope' firstEq secondEq firstPath firstPathMember secondPath
        secondPathMember
      rw [firstScopeEq, Except.ok.injEq] at firstEq
      rw [secondScopeEq, Except.ok.injEq] at secondEq
      subst firstEq secondEq
      have apart : ¬ pathOverlap firstPath secondPath = true := by
        intro overlap
        exact noConflict _ (List.mem_cons_of_mem _ (List.mem_map_of_mem firstPathMember)) _
          (List.mem_cons_of_mem _ (List.mem_map_of_mem secondPathMember))
          ⟨repository, .inr ⟨rfl, rfl, overlap⟩⟩
      rw [pathOverlap_iff, not_or] at apart
      refine ⟨?_, apart⟩
      rintro rfl
      exact apart.1 List.prefix_rfl
  · intro row member
    refine ⟨⟨?_, ?_⟩, holds.running row member⟩
    · intro runs
      obtain ⟨dispatchId, scope, -, -, owned⟩ := holds.running row member runs
      have held : ∀ lease ∈ missionLeases row scope dispatchId, lease ∈ db.leases := by
        intro lease leaseMember
        rw [← owned] at leaseMember
        exact (List.mem_filter.mp leaseMember).1
      exact ⟨_, held _ List.mem_cons_self, rfl⟩
    · rintro ⟨lease, leaseMember, owner⟩
      by_contra stands
      have empty := holds.idle row member stands
      have owned : lease ∈ db.leasesOwnedBy row.missionId :=
        List.mem_filter.mpr ⟨leaseMember, by simpa using owner⟩
      rw [empty] at owned
      simp at owned

end FleetCoordination

end CyberLion
