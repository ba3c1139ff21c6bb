import CyberLion.FleetCoordinationReopen
import CyberLion.GraphCycles

/-!
# Dependency cycles

`_has_cycle` answers whether the dependencies among the registered missions
have a directed cycle.  The nodes it has visited are settled, and the nodes it
is visiting form a path.  No more calls of `visit` are nested than there are
nodes.  A registration is refused when it would close a cycle, so none is ever
stored.
-/

namespace CyberLion

namespace FleetCoordination

open PyLib Graph

variable {graph : List (PyStr × List PyStr)} {node : PyStr} {search : CycleSearch}
  {result : Bool × CycleSearch}

def GraphEdge (graph : List (PyStr × List PyStr)) (node next : PyStr) : Prop :=
  next ∈ (graph.lookup node).getD [] ∧ next ∈ graph.map Prod.fst

/-! ### The search -/

/-- What holds whenever `visit` is called or has returned `False`. -/
structure Searching (graph : List (PyStr × List PyStr)) (search : CycleSearch) : Prop where
  settled : Settled (GraphEdge graph) {node | node ∈ search.visited}
  path : search.visiting.IsChain fun later earlier => GraphEdge graph earlier later
  apart : ∀ node ∈ search.visiting, node ∉ search.visited
  distinct : search.visiting.Nodup
  known : search.visiting ⊆ graph.map Prod.fst

structure Next (graph : List (PyStr × List PyStr)) (search : CycleSearch) (node : PyStr) :
    Prop where
  known : node ∈ graph.map Prod.fst
  edge : ∀ parent ∈ search.visiting.head?, GraphEdge graph parent node

structure Visits (graph : List (PyStr × List PyStr)) (search : CycleSearch) (nodes : List PyStr)
    (result : Bool × CycleSearch) : Prop where
  cyclic : result.1 = true → Cyclic (GraphEdge graph)
  searching : result.1 = false → Searching graph result.2
  path : result.1 = false → result.2.visiting = search.visiting
  mono : result.1 = false → search.visited ⊆ result.2.visited
  visited : result.1 = false → ∀ node ∈ nodes, node ∈ graph.map Prod.fst →
    node ∈ result.2.visited

theorem visits_visitEach {visit : PyStr → CycleSearch → Except PyError (Bool × CycleSearch)}
    (sound : ∀ {node search result}, Searching graph search → Next graph search node →
      visit node search = .ok result → Visits graph search [node] result)
    {nodes : List PyStr} (searching : Searching graph search)
    (next : ∀ node ∈ nodes, node ∈ graph.map Prod.fst → Next graph search node)
    (visited : visitEach graph visit nodes search = .ok result) :
    Visits graph search nodes result := by
  induction nodes generalizing search with
  | nil =>
    obtain rfl := Except.ok.inj visited
    exact ⟨nofun, fun _ => searching, fun _ => rfl, fun _ => List.Subset.refl _, by simp⟩
  | cons node nodes ih =>
    rw [List.forall_mem_cons] at next
    rw [visitEach] at visited
    split at visited
    · rename_i known
      rw [bind_eq_ok] at visited
      obtain ⟨⟨found, middle⟩, isFirst, rest⟩ := visited
      have first := sound searching (next.1 known) isFirst
      cases found with
      | true =>
        obtain rfl := Except.ok.inj rest
        exact ⟨first.cyclic, nofun, nofun, nofun, nofun⟩
      | false =>
        have samePath : middle.visiting = search.visiting := first.path rfl
        have stillNext : ∀ other ∈ nodes, other ∈ graph.map Prod.fst →
            Next graph middle other := by
          intro other member otherKnown
          refine ⟨otherKnown, ?_⟩
          rw [samePath]
          exact (next.2 other member otherKnown).edge
        have later := ih (first.searching rfl) stillNext rest
        refine ⟨later.cyclic, later.searching, fun none => (later.path none).trans samePath,
          fun none => List.Subset.trans (first.mono rfl) (later.mono none), ?_⟩
        intro none
        rw [List.forall_mem_cons]
        exact ⟨fun isKnown => later.mono none (first.visited rfl node (by simp) isKnown),
          later.visited none⟩
    · rename_i unknown
      have later := ih searching next.2 visited
      refine ⟨later.cyclic, later.searching, later.path, later.mono, ?_⟩
      intro none
      rw [List.forall_mem_cons]
      exact ⟨fun isKnown => absurd isKnown unknown, later.visited none⟩

theorem Searching.enter (searching : Searching graph search) (next : Next graph search node)
    (notVisited : node ∉ search.visited) (notVisiting : node ∉ search.visiting) :
    Searching graph { search with visiting := node :: search.visiting } where
  settled := searching.settled
  path := List.isChain_cons.mpr ⟨next.edge, searching.path⟩
  apart := by
    rw [List.forall_mem_cons]
    exact ⟨notVisited, searching.apart⟩
  distinct := List.nodup_cons.mpr ⟨notVisiting, searching.distinct⟩
  known := List.cons_subset.mpr ⟨next.known, searching.known⟩

theorem Searching.leave {after : CycleSearch} (searching : Searching graph after)
    (isPath : after.visiting = node :: search.visiting)
    (successors : ∀ next, GraphEdge graph node next → next ∈ after.visited) :
    Searching graph ⟨search.visiting, node :: after.visited⟩ := by
  obtain ⟨settled, path, apart, distinct, known⟩ := searching
  rw [isPath] at path apart distinct known
  rw [List.forall_mem_cons] at apart
  rw [List.nodup_cons] at distinct
  refine ⟨?_, path.tail, ?_, distinct.2, (List.cons_subset.mp known).2⟩
  · have inserted : {other | other ∈ node :: after.visited} =
        insert node {other | other ∈ after.visited} := by
      ext other
      exact List.mem_cons
    rw [inserted]
    exact settled.insert apart.1 successors
  · intro other member
    rw [List.mem_cons, not_or]
    refine ⟨?_, apart.2 other member⟩
    rintro rfl
    exact distinct.1 member

theorem visits_visit {depth : Nat} (searching : Searching graph search)
    (next : Next graph search node) (visited : visit graph depth node search = .ok result) :
    Visits graph search [node] result := by
  induction depth generalizing node search result with
  | zero => exact nomatch visited
  | succ depth ih =>
    rw [visit] at visited
    split at visited
    · rename_i isVisited
      obtain rfl := Except.ok.inj visited
      exact ⟨nofun, fun _ => searching, fun _ => rfl, fun _ => List.Subset.refl _,
        by simp [isVisited]⟩
    split at visited
    · rename_i isVisiting
      obtain rfl := Except.ok.inj visited
      have cyclic := cyclic_of_path (List.isChain_cons.mpr ⟨next.edge, searching.path⟩) isVisiting
      exact ⟨fun _ => cyclic, nofun, nofun, nofun, nofun⟩
    · rename_i notVisited notVisiting
      rw [bind_eq_ok] at visited
      obtain ⟨⟨found, after⟩, isLoop, rest⟩ := visited
      have entered := searching.enter next notVisited notVisiting
      have below := visits_visitEach ih entered
        (fun child member known => ⟨known, by rintro _ ⟨⟩; exact ⟨member, known⟩⟩) isLoop
      cases found with
      | true =>
        obtain rfl := Except.ok.inj rest
        exact ⟨below.cyclic, nofun, nofun, nofun, nofun⟩
      | false =>
        have isPath : after.visiting = node :: search.visiting := below.path rfl
        obtain rfl : (false, ⟨search.visiting, node :: after.visited⟩) = result := by
          rw [← Except.ok.inj rest, isPath, List.erase_cons_head]
        have left := (below.searching rfl).leave isPath fun child edge =>
          below.visited rfl child edge.1 edge.2
        exact ⟨nofun, fun _ => left, fun _ => rfl,
          fun _ => List.Subset.trans (below.mono rfl) (List.subset_cons_self _ _), by simp⟩

/-! ### Nested calls -/

theorem Searching.length_le (searching : Searching graph search) :
    search.visiting.length ≤ graph.length := by
  have bounded := (searching.distinct.subperm searching.known).length_le
  rwa [List.length_map] at bounded

theorem exists_visitEach {visit : PyStr → CycleSearch → Except PyError (Bool × CycleSearch)}
    (sound : ∀ {node search result}, Searching graph search → Next graph search node →
      visit node search = .ok result → Visits graph search [node] result)
    {nodes : List PyStr} (searching : Searching graph search)
    (total : ∀ {node reached}, Searching graph reached → Next graph reached node →
      reached.visiting = search.visiting → ∃ result, visit node reached = .ok result)
    (next : ∀ node ∈ nodes, node ∈ graph.map Prod.fst → Next graph search node) :
    ∃ result, visitEach graph visit nodes search = .ok result := by
  induction nodes generalizing search with
  | nil => exact ⟨_, rfl⟩
  | cons node nodes ih =>
    rw [List.forall_mem_cons] at next
    rw [visitEach]
    split
    · rename_i known
      obtain ⟨⟨found, middle⟩, isFirst⟩ := total searching (next.1 known) rfl
      have first := sound searching (next.1 known) isFirst
      rw [isFirst, ok_bind]
      cases found with
      | true => exact ⟨_, rfl⟩
      | false =>
        have samePath : middle.visiting = search.visiting := first.path rfl
        apply ih (first.searching rfl)
        · intro other reached reachedSearching otherNext sameReached
          exact total reachedSearching otherNext (sameReached.trans samePath)
        · intro other member otherKnown
          refine ⟨otherKnown, ?_⟩
          rw [samePath]
          exact (next.2 other member otherKnown).edge
    · exact ih searching total next.2

theorem exists_visit {depth : Nat} (searching : Searching graph search)
    (next : Next graph search node) (enough : graph.length < depth + search.visiting.length) :
    ∃ result, visit graph depth node search = .ok result := by
  induction depth generalizing node search with
  | zero =>
    have bounded := searching.length_le
    omega
  | succ depth ih =>
    rw [visit]
    split
    · exact ⟨_, rfl⟩
    split
    · exact ⟨_, rfl⟩
    · rename_i notVisited notVisiting
      have entered := searching.enter next notVisited notVisiting
      obtain ⟨⟨found, after⟩, isLoop⟩ := exists_visitEach
        (fun {_ _ _} reachedSearching reachedNext => visits_visit reachedSearching reachedNext)
        entered
        (fun {_ reached} reachedSearching reachedNext samePath => by
          apply ih reachedSearching reachedNext
          rw [samePath, List.length_cons]
          omega)
        (fun child member known => ⟨known, by rintro _ ⟨⟩; exact ⟨member, known⟩⟩)
      rw [isLoop, ok_bind]
      cases found with
      | true => exact ⟨_, rfl⟩
      | false => exact ⟨_, rfl⟩

/-! ### The answer -/

theorem searching_nil : Searching graph ⟨[], []⟩ where
  settled := by
    have none : {node : PyStr | node ∈ ([] : List PyStr)} = ∅ := by simp
    rw [none]
    exact .empty
  path := .nil
  apart := by simp
  distinct := List.nodup_nil
  known := by simp

theorem next_nil (node : PyStr) (known : node ∈ graph.map Prod.fst) :
    Next graph ⟨[], []⟩ node :=
  ⟨known, by simp⟩

theorem mem_of_graphEdge {next : PyStr} (edge : GraphEdge graph node next) :
    node ∈ graph.map Prod.fst := by
  by_contra unknown
  have missing : graph.lookup node = none := by
    rw [List.lookup_eq_none_iff]
    intro entry member
    simp only [bne_iff_ne, ne_eq]
    rintro rfl
    exact unknown (List.mem_map_of_mem member)
  have member := edge.1
  rw [missing] at member
  exact nomatch member

theorem cyclic_of_hasCycle {depth : Nat} {found : Bool}
    (answered : hasCycle depth graph = .ok found) :
    found = true ↔ Cyclic (GraphEdge graph) := by
  simp only [hasCycle, bind_eq_ok, pure_eq_ok] at answered
  obtain ⟨⟨answer, after⟩, isLoop, rfl⟩ := answered
  have all := visits_visitEach
    (fun {_ _ _} searching next => visits_visit searching next) searching_nil
    (fun node _ known => next_nil node known) isLoop
  cases answer with
  | true => exact ⟨fun _ => all.cyclic rfl, fun _ => rfl⟩
  | false =>
    refine ⟨fun never => (by cases never), fun cyclic => absurd cyclic ?_⟩
    apply (all.searching rfl).settled.not_cyclic
    intro node next edge
    have known := mem_of_graphEdge edge
    exact all.visited rfl node known known

theorem exists_hasCycle {depth : Nat} (enough : graph.length < depth) :
    ∃ found, hasCycle depth graph = .ok found := by
  have total : ∀ {node : PyStr} {reached : CycleSearch}, Searching graph reached →
      Next graph reached node → reached.visiting = [] →
      ∃ result, visit graph depth node reached = .ok result := by
    intro node reached searching next samePath
    apply exists_visit searching next
    rw [samePath, List.length_nil]
    exact enough
  obtain ⟨result, isLoop⟩ := exists_visitEach
    (fun {_ _ _} searching next => visits_visit searching next) searching_nil total
    (fun node (_ : node ∈ graph.map Prod.fst) known => next_nil node known)
  exact ⟨result.1, by rw [hasCycle, isLoop, ok_bind]; rfl⟩

/-! ### Stored dependencies -/

def DependsOn (db : Database) (missionId dependency : PyStr) : Prop :=
  (⟨missionId, dependency⟩ : DependencyRow) ∈ db.dependencies ∧
    missionId ∈ db.missions.map MissionRow.missionId ∧
    dependency ∈ db.missions.map MissionRow.missionId

theorem keys_dependencyGraph (db : Database) :
    db.dependencyGraph.map Prod.fst = db.missions.map MissionRow.missionId := by
  rw [Database.dependencyGraph, List.map_map]
  rfl

theorem lookup_dependencyGraph (db : Database) (missionId : PyStr) :
    db.dependencyGraph.lookup missionId =
      if missionId ∈ db.missions.map MissionRow.missionId then
        some (dependenciesOf db missionId) else none := by
  have rows : ∀ rows : List MissionRow,
      (rows.map fun row => (row.missionId, dependenciesOf db row.missionId)).lookup missionId =
        if missionId ∈ rows.map MissionRow.missionId then some (dependenciesOf db missionId)
        else none := by
    intro rows
    induction rows with
    | nil => rfl
    | cons row rows ih =>
      by_cases same : missionId = row.missionId
      · simp [same]
      · have differ : (missionId == row.missionId) = false := beq_eq_false_iff_ne.mpr same
        rw [List.map_cons, List.lookup_cons, differ, List.map_cons]
        simp [same, ih]
  exact rows db.missions

theorem mem_dependenciesOf {db : Database} {missionId dependency : PyStr} :
    dependency ∈ dependenciesOf db missionId ↔
      (⟨missionId, dependency⟩ : DependencyRow) ∈ db.dependencies := by
  rw [dependenciesOf, List.mem_map]
  constructor
  · rintro ⟨edge, member, rfl⟩
    obtain ⟨stored, same⟩ := List.mem_filter.mp member
    rw [decide_eq_true_eq] at same
    rw [← same]
    exact stored
  · intro stored
    exact ⟨_, List.mem_filter.mpr ⟨stored, by simp⟩, rfl⟩

theorem graphEdge_iff_of_registerStep {db after : Database} {spec : FleetCoordinationSpec}
    {digest now : PyStr} {specs : List FleetCoordinationSpec} (holds : Coherent db specs [])
    (step : RegisterStep db spec digest now after) (missionId dependency : PyStr) :
    GraphEdge (dictSet spec.missionId spec.dependencies db.dependencyGraph) missionId dependency ↔
      DependsOn after missionId dependency := by
  obtain ⟨row, stores, -, missions, dependencies, -⟩ := step.tables
  have fresh : spec.missionId ∉ db.missions.map MissionRow.missionId := by
    intro member
    obtain ⟨known, knownMember, same⟩ := List.mem_map.mp member
    have differ := List.find?_eq_none.mp step.fresh known knownMember
    exact absurd same (by simpa using differ)
  have ids : after.missions.map MissionRow.missionId =
      db.missions.map MissionRow.missionId ++ [spec.missionId] := by
    rw [missions, List.map_append, List.map_singleton, stores.missionId]
  have keys : (dictSet spec.missionId spec.dependencies db.dependencyGraph).map Prod.fst =
      after.missions.map MissionRow.missionId := by
    rw [map_fst_dictSet, keys_dependencyGraph, if_neg fresh, ids]
  have noOldEdges : ∀ target, (⟨spec.missionId, target⟩ : DependencyRow) ∉ db.dependencies :=
    fun target member => fresh (holds.edgesKnown _ member)
  rw [GraphEdge, DependsOn, keys, dependencies, List.mem_append]
  by_cases same : missionId = spec.missionId
  · subst same
    rw [lookup_dictSet_self, ids]
    simp [noOldEdges]
  · rw [lookup_dictSet_of_ne same, lookup_dependencyGraph]
    have stillKnown : missionId ∈ after.missions.map MissionRow.missionId ↔
        missionId ∈ db.missions.map MissionRow.missionId := by
      rw [ids]
      simp [same]
    rw [stillKnown]
    by_cases known : missionId ∈ db.missions.map MissionRow.missionId
    · rw [if_pos known, Option.getD_some, mem_dependenciesOf]
      have notNew : (⟨missionId, dependency⟩ : DependencyRow) ∉
          spec.dependencies.map fun target => ⟨spec.missionId, target⟩ := by
        intro member
        obtain ⟨target, -, equal⟩ := List.mem_map.mp member
        exact same (congrArg DependencyRow.missionId equal).symm
      rw [or_iff_left notNew, and_iff_right known]
    · simp [known]

def Acyclic (db : Database) : Prop :=
  ¬ Cyclic (DependsOn db)

theorem Acyclic.of_tables {db after : Database} (acyclic : Acyclic db)
    (dependencies : after.dependencies = db.dependencies)
    (ids : after.missions.map MissionRow.missionId = db.missions.map MissionRow.missionId) :
    Acyclic after := by
  have same : ∀ missionId dependency,
      DependsOn after missionId dependency ↔ DependsOn db missionId dependency := by
    intro missionId dependency
    rw [DependsOn, DependsOn, dependencies, ids]
  rw [Acyclic, Cyclic.congr same]
  exact acyclic

theorem storeInvariant_acyclic :
    StoreInvariant fun db pending => (∃ specs, Coherent db specs pending) ∧ Acyclic db where
  distinct := fun holds => storeInvariant_coherent.distinct holds.1
  register := fun step holds => by
    obtain ⟨specs, coherent⟩ := holds.1
    obtain ⟨depth, searched⟩ := step.acyclic
    refine ⟨storeInvariant_coherent.register step holds.1, ?_⟩
    intro cyclic
    rw [← Cyclic.congr (graphEdge_iff_of_registerStep coherent step),
      ← cyclic_of_hasCycle searched] at cyclic
    exact nomatch cyclic
  dispatch := fun {db _ row dispatch _ _} accepted step holds => by
    refine ⟨storeInvariant_coherent.dispatch accepted step holds.1, ?_⟩
    apply holds.2.of_tables step.frame.1
    rw [step.tables.1]
    exact missionIds_updateMission db row.missionId fun _ => rfl
  commit := fun step holds => by
    refine ⟨storeInvariant_coherent.commit step holds.1, ?_⟩
    apply holds.2.of_tables step.frame.2.2.1
    rw [step.frame.1]
  finish := fun {db row dispatchId ending now _} step holds => by
    refine ⟨storeInvariant_coherent.finish step holds.1, ?_⟩
    obtain ⟨event, -, rfl⟩ := step.applied
    have ids := missionIds_updateMission (db.release row.missionId dispatchId) row.missionId
      fun old => (ending.change_keeps now old).2.2.2
    have released : Acyclic (db.release row.missionId dispatchId) := holds.2
    exact released.of_tables rfl ids

theorem acyclic_emptyDatabase (coordinatorId : PyStr) : Acyclic (emptyDatabase coordinatorId) := by
  rintro ⟨missionId, walk⟩
  obtain ⟨dependency, ⟨stored, -⟩, -⟩ := Relation.TransGen.head'_iff.mp walk
  exact nomatch stored

/-- `_has_cycle` answers exactly whether the graph among its nodes has a cycle,
given a stack deeper than the number of nodes; on a smaller stack it can run
out of it, but it never answers otherwise.  So no run stores a cycle, and a
registration that is refused changes nothing. -/
theorem hasCycle_correct (coordinatorId : PyStr) (calls : List FleetCall) :
    (∀ graph depth, (graph : List (PyStr × List PyStr)).length < depth →
      ∃ found, hasCycle depth graph = .ok found ∧
        (found = true ↔ Cyclic (GraphEdge graph))) ∧
    (∀ graph depth found, hasCycle depth graph = .ok found →
      (found = true ↔ Cyclic (GraphEdge graph))) ∧
    Acyclic (runCalls (emptyDatabase coordinatorId) calls) ∧
    ∀ depth clock spec error,
      (runCalls (emptyDatabase coordinatorId) calls).registerMission depth clock spec =
        .error error →
      stepCall (runCalls (emptyDatabase coordinatorId) calls)
        (.registerMission depth clock spec) = runCalls (emptyDatabase coordinatorId) calls := by
  refine ⟨?_, fun _ _ _ => cyclic_of_hasCycle, ?_, ?_⟩
  · intro graph depth enough
    obtain ⟨found, answered⟩ := exists_hasCycle enough
    exact ⟨found, answered, cyclic_of_hasCycle answered⟩
  · exact (storeInvariant_acyclic.runCalls calls
      ⟨⟨[], coherent_emptyDatabase coordinatorId⟩, acyclic_emptyDatabase coordinatorId⟩).2
  · intro depth clock spec error refused
    rw [stepCall, FleetCall.apply, refused]

end FleetCoordination

end CyberLion
