import CyberLion.EnterpriseGraph

/-!
# Paths in the enterprise graph

Whatever nodes and edges are added, the ids stay distinct and every edge joins two different
registered nodes.  The search for a path between registered nodes ends: it finds a shortest one
among the edges of the plane when there is one, and says that there is none otherwise.
-/

namespace CyberLion

namespace EnterpriseGraph

open PyLib PyLib.Graph

/-! ### What a call changes -/

def edgeTypesOf (plane : PyStr) : List PyStr :=
  if plane = py "DATA_PROVENANCE" then dataEdgeTypes else authorityEdgeTypes

/-- An edge of the table fits its plane, and it joins two different registered nodes. -/
structure Database.Anchors (db : Database) (row : EdgeRow) : Prop where
  plane : row.plane ∈ planes
  edgeType : row.edgeType ∈ edgeTypesOf row.plane
  source : db.hasNode row.sourceId = true
  target : db.hasNode row.targetId = true
  differ : row.sourceId ≠ row.targetId

/-- The ids are distinct, those of nodes can be bound, and no edge is dangling. -/
structure Sound (db : Database) : Prop where
  encodable : ∀ row ∈ db.nodes, isEncodable row.nodeId = true
  nodeIds : (db.nodes.map NodeRow.nodeId).Nodup
  edgeIds : (db.edges.map EdgeRow.edgeId).Nodup
  anchored : ∀ row ∈ db.edges, db.Anchors row

theorem sound_emptyDatabase (graphId : PyStr) : Sound (emptyDatabase graphId) where
  encodable := by simp [emptyDatabase]
  nodeIds := List.nodup_nil
  edgeIds := List.nodup_nil
  anchored := by simp [emptyDatabase]

variable {db : Database} {plane sourceId targetId : PyStr}

theorem commit_tables {eventType : EventType} {payload result : Json}
    {operationId operationDigest observedAt : PyStr} {after : Database}
    (committed : commit eventType payload operationId operationDigest result observedAt db =
      .ok after) : after.nodes = db.nodes ∧ after.edges = db.edges := by
  simp only [commit, append, save, bind_eq_ok, pure_eq_ok] at committed
  obtain ⟨logged, ⟨_, -, _, -, _, -, rfl⟩, _, -, _, -, _, -, rfl⟩ := committed
  exact ⟨rfl, rfl⟩

theorem operate_cases {α : Type} {operationId : PyStr} {payload : Json}
    {replay : Json → Except PyError α} {work : PyStr → Except PyError (Database × α)}
    {after : Database} {result : α}
    (operated : operate operationId payload replay work db = .ok (after, result)) :
    after = db ∨ ∃ operationDigest, work operationDigest = .ok (after, result) := by
  simp only [operate, bind_eq_ok] at operated
  obtain ⟨⟨operationDigest, saved⟩, -, operated⟩ := operated
  dsimp only at operated
  split at operated
  · simp only [bind_eq_ok, pure_eq_ok, Prod.mk.injEq] at operated
    obtain ⟨_, -, rfl, -⟩ := operated
    exact .inl rfl
  · exact .inr ⟨operationDigest, operated⟩

theorem addNode_cases {node given : GraphNode} {operationId : PyStr} {evidenceRefs : List PyStr}
    {clock : Moment} {after : Database}
    (added : addNode node operationId evidenceRefs clock db = .ok (after, given)) :
    after = db ∨ ∃ row : NodeRow, isEncodable row.nodeId = true ∧
      row.nodeId ∉ db.nodes.map NodeRow.nodeId ∧ after.nodes = db.nodes ++ [row] ∧
      after.edges = db.edges := by
  rw [addNode, bind_eq_ok] at added
  obtain ⟨_, -, operated⟩ := added
  rcases operate_cases operated with same | ⟨operationDigest, worked⟩
  · exact .inl same
  · simp only [addNodeWork, bind_eq_ok, pure_eq_ok, Prod.mk.injEq] at worked
    obtain ⟨_, bound, -, -, observedAt, -, raw, -, digest, -, nodes, inserted, _, committed,
      rfl, -⟩ := worked
    simp only [bindText, bind_eq_ok, pure_eq_ok] at bound
    obtain ⟨bytes, encoded, -⟩ := bound
    obtain ⟨fresh, rfl⟩ := insertRow_eq_ok.mp inserted
    obtain ⟨sameNodes, sameEdges⟩ := commit_tables committed
    refine .inr ⟨_, ?_, ?_, sameNodes, sameEdges⟩
    · rw [← encodeUtf8_eq_ok.mp encoded]
      exact bytes.encodable
    · intro member
      obtain ⟨row, isRow, same⟩ := List.mem_map.mp member
      simpa [same] using fresh row isRow

theorem plane_of_validate {edge : GraphEdge} (valid : edge.validate = .ok ()) :
    edge.plane ∈ planes ∧ edge.edgeType ∈ edgeTypesOf edge.plane := by
  simp only [GraphEdge.validate, bind_eq_ok, raiseIf_eq_ok] at valid
  obtain ⟨-, -, -, -, -, -, -, plane, -, edgeType, -⟩ := valid
  constructor
  · simp only [planes, List.mem_cons, List.not_mem_nil, or_false]
    tauto
  · exact not_not.mp edgeType

theorem addEdge_cases {edge given : GraphEdge} {operationId : PyStr} {evidenceRefs : List PyStr}
    {clock : Moment} {after : Database}
    (added : addEdge edge operationId evidenceRefs clock db = .ok (after, given)) :
    after = db ∨ ∃ row : EdgeRow, db.Anchors row ∧
      row.edgeId ∉ db.edges.map EdgeRow.edgeId ∧ after.nodes = db.nodes ∧
      after.edges = db.edges ++ [row] := by
  rw [addEdge, bind_eq_ok] at added
  obtain ⟨_, valid, operated⟩ := added
  rcases operate_cases operated with same | ⟨operationDigest, worked⟩
  · exact .inl same
  · simp only [addEdgeWork, bind_eq_ok, pure_eq_ok, raiseIf_eq_ok, Prod.mk.injEq] at worked
    obtain ⟨-, differ, -, anchored, -, -, observedAt, -, raw, -, digest, -, edges, inserted, _,
      committed, rfl, -⟩ := worked
    obtain ⟨fresh, rfl⟩ := insertRow_eq_ok.mp inserted
    obtain ⟨sameNodes, sameEdges⟩ := commit_tables committed
    obtain ⟨source, target⟩ := Bool.and_eq_true_iff.mp (not_not.mp anchored)
    obtain ⟨plane, edgeType⟩ := plane_of_validate valid
    refine .inr ⟨_, ⟨plane, edgeType, source, target, differ⟩, ?_, sameNodes, sameEdges⟩
    intro member
    obtain ⟨row, isRow, same⟩ := List.mem_map.mp member
    simpa [same] using fresh row isRow

/-! ### Runs -/

inductive Call
  | addNode (node : GraphNode) (operationId : PyStr) (evidenceRefs : List PyStr)
  | addEdge (edge : GraphEdge) (operationId : PyStr) (evidenceRefs : List PyStr)

/-- The database after a call at a time: what raised is rolled back. -/
def Call.execute (clock : Moment) (db : Database) : Call → Database
  | addNode node operationId evidenceRefs =>
    match EnterpriseGraph.addNode node operationId evidenceRefs clock db with
    | .ok (after, _) => after
    | .error _ => db
  | addEdge edge operationId evidenceRefs =>
    match EnterpriseGraph.addEdge edge operationId evidenceRefs clock db with
    | .ok (after, _) => after
    | .error _ => db

def runCalls (graphId : PyStr) (calls : List (Moment × Call)) : Database :=
  calls.foldl (fun db timed => timed.2.execute timed.1 db) (emptyDatabase graphId)

theorem hasNode_mono {after : Database} {row : NodeRow} (grown : after.nodes = db.nodes ++ [row])
    {nodeId : PyStr} (known : db.hasNode nodeId = true) : after.hasNode nodeId = true := by
  rw [Database.hasNode, grown, List.any_append, Bool.or_eq_true]
  exact .inl known

theorem sound_addNode {after : Database} (sound : Sound db) {row : NodeRow}
    (encodable : isEncodable row.nodeId = true) (fresh : row.nodeId ∉ db.nodes.map NodeRow.nodeId)
    (nodes : after.nodes = db.nodes ++ [row]) (edges : after.edges = db.edges) : Sound after where
  encodable := by
    intro other member
    rw [nodes] at member
    rcases List.mem_append.mp member with old | new
    · exact sound.encodable other old
    · rw [List.mem_singleton.mp new]
      exact encodable
  nodeIds := by
    rw [nodes, List.map_append]
    exact sound.nodeIds.append (List.nodup_singleton _) (List.disjoint_singleton.mpr fresh)
  edgeIds := edges ▸ sound.edgeIds
  anchored := by
    intro edge member
    rw [edges] at member
    have anchors := sound.anchored edge member
    exact ⟨anchors.plane, anchors.edgeType, hasNode_mono nodes anchors.source,
      hasNode_mono nodes anchors.target, anchors.differ⟩

theorem sound_addEdge {after : Database} (sound : Sound db) {row : EdgeRow}
    (anchors : db.Anchors row) (fresh : row.edgeId ∉ db.edges.map EdgeRow.edgeId)
    (nodes : after.nodes = db.nodes) (edges : after.edges = db.edges ++ [row]) : Sound after where
  encodable := nodes ▸ sound.encodable
  nodeIds := nodes ▸ sound.nodeIds
  edgeIds := by
    rw [edges, List.map_append]
    exact sound.edgeIds.append (List.nodup_singleton _) (List.disjoint_singleton.mpr fresh)
  anchored := by
    intro edge member
    have kept : ∀ nodeId, after.hasNode nodeId = db.hasNode nodeId := by
      intro nodeId
      rw [Database.hasNode, nodes, Database.hasNode]
    have anchors : db.Anchors edge := by
      rw [edges] at member
      rcases List.mem_append.mp member with old | new
      · exact sound.anchored edge old
      · rw [List.mem_singleton.mp new]
        exact anchors
    exact ⟨anchors.plane, anchors.edgeType, (kept _).trans anchors.source,
      (kept _).trans anchors.target, anchors.differ⟩

theorem sound_execute (sound : Sound db) (clock : Moment) (call : Call) :
    Sound (call.execute clock db) := by
  cases call with
  | addNode node operationId evidenceRefs =>
    rw [Call.execute]
    split
    · rename_i after given added
      rcases addNode_cases added with rfl | ⟨row, encodable, fresh, nodes, edges⟩
      · exact sound
      · exact sound_addNode sound encodable fresh nodes edges
    · exact sound
  | addEdge edge operationId evidenceRefs =>
    rw [Call.execute]
    split
    · rename_i after given added
      rcases addEdge_cases added with rfl | ⟨row, anchors, fresh, nodes, edges⟩
      · exact sound
      · exact sound_addEdge sound anchors fresh nodes edges
    · exact sound

theorem sound_runCalls (graphId : PyStr) (calls : List (Moment × Call)) :
    Sound (runCalls graphId calls) := by
  have folded : ∀ (calls : List (Moment × Call)) (db : Database), Sound db →
      Sound (calls.foldl (fun db timed => timed.2.execute timed.1 db) db) := by
    intro calls
    induction calls with
    | nil => exact fun _ sound => sound
    | cons timed calls ih =>
      exact fun db sound => ih _ (sound_execute sound timed.1 timed.2)
  exact folded calls _ (sound_emptyDatabase graphId)

/-! ### The adjacency of a plane -/

def Database.Joins (db : Database) (plane sourceId edgeId targetId : PyStr) : Prop :=
  ∃ row ∈ db.edges, row.plane = plane ∧ row.edgeId = edgeId ∧ row.sourceId = sourceId ∧
    row.targetId = targetId

theorem mem_planeEdges {row : EdgeRow} :
    row ∈ db.planeEdges plane ↔ row ∈ db.edges ∧ row.plane = plane := by
  rw [Database.planeEdges, List.mem_insertionSort, List.mem_filter, decide_eq_true_eq]

theorem neighbours_addNeighbour (adj : List (PyStr × List (PyStr × PyStr))) (row : EdgeRow)
    (current : PyStr) : neighbours (addNeighbour adj row) current =
      if row.sourceId = current then neighbours adj current ++ [(row.targetId, row.edgeId)]
      else neighbours adj current := by
  split
  · rename_i same
    rw [neighbours, addNeighbour, ← same, lookup_dictSet_self]
    rfl
  · rename_i differ
    rw [neighbours, addNeighbour, lookup_dictSet_of_ne (Ne.symm differ)]
    rfl

theorem neighbours_adjacency (rows : List EdgeRow) (current : PyStr) :
    neighbours (adjacency rows) current = (rows.filter fun row => row.sourceId = current).map
      fun row => (row.targetId, row.edgeId) := by
  have folded : ∀ (rows : List EdgeRow) (adj : List (PyStr × List (PyStr × PyStr))),
      neighbours (rows.foldl addNeighbour adj) current = neighbours adj current ++
        (rows.filter fun row => row.sourceId = current).map
          fun row => (row.targetId, row.edgeId) := by
    intro rows
    induction rows with
    | nil => exact fun adj => (List.append_nil _).symm
    | cons row rows ih =>
      intro adj
      rw [List.foldl_cons, ih, neighbours_addNeighbour, List.filter_cons]
      by_cases same : row.sourceId = current <;> simp [same]
  exact folded rows []

theorem mem_neighbours {node next edge : PyStr} :
    (next, edge) ∈ neighbours (adjacency (db.planeEdges plane)) node ↔
      db.Joins plane node edge next := by
  rw [neighbours_adjacency, List.mem_map]
  constructor
  · rintro ⟨row, member, same⟩
    obtain ⟨listed, source⟩ := List.mem_filter.mp member
    obtain ⟨isRow, isPlane⟩ := mem_planeEdges.mp listed
    obtain ⟨target, isEdge⟩ := Prod.mk.inj same
    exact ⟨row, isRow, isPlane, isEdge, of_decide_eq_true source, target⟩
  · rintro ⟨row, isRow, isPlane, isEdge, source, target⟩
    refine ⟨row, List.mem_filter.mpr ⟨mem_planeEdges.mpr ⟨isRow, isPlane⟩, ?_⟩, ?_⟩
    · exact decide_eq_true source
    · rw [isEdge, target]

/-! ### The search -/

/-- What `find_path` promises of a path. -/
structure Database.IsPath (db : Database) (plane sourceId targetId : PyStr) (path : GraphPath) :
    Prop where
  samePlane : path.plane = plane
  walk : Walk (db.Joins plane) sourceId path.nodeIds path.edgeIds targetId
  nodup : path.nodeIds.Nodup
  minimal : ∀ nodeIds edgeIds, Walk (db.Joins plane) sourceId nodeIds edgeIds targetId →
    path.edgeIds.length ≤ edgeIds.length
  valid : path.validate = .ok ()
  inPlane : ∀ row ∈ db.edges, row.edgeId ∈ path.edgeIds → row.plane = plane

theorem isPath_of_isShortest (sound : Sound db) (isPlane : plane ∈ planes)
    {trail : Trail PyStr PyStr} (last : trail.last = targetId)
    (shortest : trail.IsShortest (db.Joins plane) sourceId) :
    db.IsPath plane sourceId targetId ⟨plane, trail.nodes, trail.edges⟩ := by
  subst last
  refine ⟨rfl, shortest.walk, shortest.nodup, shortest.minimal, ?_, ?_⟩
  · simp [GraphPath.validate, isPlane, shortest.walk.length_nodes]
  · intro row isRow listed
    obtain ⟨_, _, other, isOther, same, sameEdge, -⟩ := shortest.walk.joins_of_mem listed
    rw [← same]
    exact congrArg EdgeRow.plane (List.inj_on_of_nodup_map sound.edgeIds isRow isOther
      sameEdge.symm)

theorem bindText_of_hasNode (sound : Sound db) {nodeId : PyStr} (known : db.hasNode nodeId = true) :
    bindText nodeId = .ok () := by
  obtain ⟨row, isRow, same⟩ := List.any_eq_true.mp known
  obtain ⟨bytes, encoded⟩ := exists_encodeUtf8 (sound.encodable row isRow)
  rw [bindText, ← of_decide_eq_true same, encoded]
  rfl

/-- What `find_path` makes of the outcome of its loop. -/
def resultOf (plane : PyStr) : Option (Trail PyStr PyStr) → Except PyError GraphPath
  | none => .error (stateError (py "path not found"))
  | some trail => .ok ⟨plane, trail.nodes, trail.edges⟩

theorem findPath_of_differ (sound : Sound db) (isPlane : plane ∈ planes)
    (source : db.hasNode sourceId = true) (target : db.hasNode targetId = true)
    (differ : sourceId ≠ targetId) {rounds : Nat} {outcome : Option (Trail PyStr PyStr)}
    (ended : search (neighbours (adjacency (db.planeEdges plane))) targetId rounds [sourceId]
      [Trail.start sourceId] = some outcome)
    (isOutcome : IsOutcome (db.Joins plane) sourceId targetId outcome) :
    db.findPath rounds sourceId targetId plane = (resultOf plane outcome).map some := by
  rw [Database.findPath, raiseIf, if_neg (not_not.mpr isPlane), ok_bind,
    bindText_of_hasNode sound source, ok_bind, raiseIf, if_neg (not_not.mpr source), ok_bind,
    bindText_of_hasNode sound target, ok_bind, raiseIf, if_neg (not_not.mpr target), ok_bind,
    if_neg differ, ended]
  cases outcome with
  | none => rfl
  | some trail =>
    have isPath := isPath_of_isShortest sound isPlane isOutcome.1 isOutcome.2
    dsimp only
    rw [isPath.valid]
    rfl

theorem findPath_self (sound : Sound db) (isPlane : plane ∈ planes)
    (source : db.hasNode sourceId = true) (rounds : Nat) :
    db.findPath rounds sourceId sourceId plane = .ok (some ⟨plane, [sourceId], []⟩) := by
  have valid : GraphPath.validate ⟨plane, [sourceId], []⟩ = .ok () := by
    simp [GraphPath.validate, isPlane]
  rw [Database.findPath, raiseIf, if_neg (not_not.mpr isPlane), ok_bind,
    bindText_of_hasNode sound source, ok_bind, raiseIf, if_neg (not_not.mpr source), ok_bind,
    ok_bind, if_pos rfl]
  dsimp only
  rw [ok_bind, valid]
  rfl

theorem exists_findPath (sound : Sound db) (isPlane : plane ∈ planes)
    (source : db.hasNode sourceId = true) (target : db.hasNode targetId = true) :
    ∃ outcome : Except PyError GraphPath,
      (∀ rounds, db.edges.length + 2 ≤ rounds →
        db.findPath rounds sourceId targetId plane = outcome.map some) ∧
      ((∃ path, outcome = .ok path) ↔
        Relation.ReflTransGen (Adjacent (db.Joins plane)) sourceId targetId) ∧
      ∀ path, outcome = .ok path → db.IsPath plane sourceId targetId path := by
  by_cases differ : sourceId = targetId
  · subst differ
    have shortest : (Trail.start sourceId).IsShortest (db.Joins plane) sourceId :=
      ⟨.start, List.nodup_singleton _, fun _ _ _ => Nat.zero_le _⟩
    refine ⟨.ok ⟨plane, [sourceId], []⟩, ?_, ?_, ?_⟩
    · exact fun rounds _ => findPath_self sound isPlane source rounds
    · exact ⟨fun _ => .refl, fun _ => ⟨_, rfl⟩⟩
    · rintro path ⟨⟩
      exact isPath_of_isShortest sound isPlane rfl shortest
  · let region : Finset PyStr := ((db.planeEdges plane).map EdgeRow.targetId).toFinset
    have inside : ∀ node, ∀ pair ∈ neighbours (adjacency (db.planeEdges plane)) node,
        pair.1 ∈ region := by
      intro node pair member
      rw [neighbours_adjacency] at member
      obtain ⟨row, listed, rfl⟩ := List.mem_map.mp member
      exact List.mem_toFinset.mpr (List.mem_map_of_mem (List.mem_of_mem_filter listed))
    have few : region.card ≤ db.edges.length := by
      calc region.card ≤ ((db.planeEdges plane).map EdgeRow.targetId).length :=
            List.toFinset_card_le _
        _ = (db.edges.filter fun row => row.plane = plane).length := by
            rw [List.length_map, Database.planeEdges, List.length_insertionSort]
        _ ≤ db.edges.length := List.length_filter_le _ _
    obtain ⟨outcome, isOutcome, ended⟩ :=
      exists_outcome differ (fun _ _ _ => mem_neighbours) inside
    refine ⟨resultOf plane outcome, fun rounds enough => ?_, ?_⟩
    · exact findPath_of_differ sound isPlane source target differ (ended rounds (by omega))
        isOutcome
    · cases outcome with
      | none =>
        constructor
        · constructor
          · rintro ⟨path, ⟨⟩⟩
          · exact fun reached => absurd reached isOutcome
        · rintro path ⟨⟩
      | some trail =>
        have isPath := isPath_of_isShortest sound isPlane isOutcome.1 isOutcome.2
        constructor
        · exact ⟨fun _ => isPath.walk.reaches, fun _ => ⟨_, rfl⟩⟩
        · rintro path ⟨⟩
          exact isPath

theorem findPath_mono {rounds more : Nat} {path : GraphPath}
    (found : db.findPath rounds sourceId targetId plane = .ok (some path)) (atLeast : rounds ≤ more) :
    db.findPath more sourceId targetId plane = .ok (some path) := by
  simp only [Database.findPath, bind_eq_ok] at found ⊢
  obtain ⟨_, isPlane, _, boundSource, _, source, _, boundTarget, _, target, found⟩ := found
  refine ⟨_, isPlane, _, boundSource, _, source, _, boundTarget, _, target, ?_⟩
  split at found
  · rename_i same
    rw [if_pos same]
    exact found
  · rename_i differ
    rw [if_neg differ]
    split at found
    · simp at found
    · simp at found
    · rename_i trail ended
      rw [search_mono ended atLeast]
      exact found

theorem mem_planes_of_findPath {rounds : Nat} {path : GraphPath}
    (found : db.findPath rounds sourceId targetId plane = .ok (some path)) :
    plane ∈ planes ∧ db.hasNode sourceId = true ∧ db.hasNode targetId = true := by
  simp only [Database.findPath, bind_eq_ok, raiseIf_eq_ok, not_not] at found
  obtain ⟨_, isPlane, _, -, _, source, _, -, _, target, -⟩ := found
  exact ⟨isPlane, source, target⟩

theorem isPath_of_findPath (sound : Sound db) {rounds : Nat} {path : GraphPath}
    (found : db.findPath rounds sourceId targetId plane = .ok (some path)) :
    db.IsPath plane sourceId targetId path := by
  obtain ⟨isPlane, source, target⟩ := mem_planes_of_findPath found
  obtain ⟨outcome, ends, -, isPath⟩ := exists_findPath sound isPlane source target
  apply isPath
  have later := findPath_mono found (Nat.le_max_left rounds (db.edges.length + 2))
  rw [ends _ (Nat.le_max_right _ _)] at later
  obtain ⟨_, isOk, same⟩ := map_eq_ok.mp later
  rw [isOk, Option.some.inj same]

/-- After any calls, the search between two registered nodes ends, with a path exactly when one
node reaches the other in the plane, and every path is a shortest walk of edges of the plane. -/
theorem findPath_runCalls (graphId : PyStr) (calls : List (Moment × Call))
    {plane sourceId targetId : PyStr} (isPlane : plane ∈ planes)
    (source : (runCalls graphId calls).hasNode sourceId = true)
    (target : (runCalls graphId calls).hasNode targetId = true) :
    (∃ outcome : Except PyError GraphPath,
      (∀ rounds, (runCalls graphId calls).edges.length + 2 ≤ rounds →
        (runCalls graphId calls).findPath rounds sourceId targetId plane = outcome.map some) ∧
      ((∃ path, outcome = .ok path) ↔ Relation.ReflTransGen
        (Adjacent ((runCalls graphId calls).Joins plane)) sourceId targetId) ∧
      ∀ path, outcome = .ok path →
        (runCalls graphId calls).IsPath plane sourceId targetId path) ∧
    (∀ rounds path,
      (runCalls graphId calls).authorityReferencePath rounds sourceId targetId = .ok (some path) →
      ∀ row ∈ (runCalls graphId calls).edges, row.edgeId ∈ path.edgeIds →
        row.plane ≠ py "DATA_PROVENANCE") ∧
    ∀ row ∈ (runCalls graphId calls).edges, (runCalls graphId calls).Anchors row := by
  have sound := sound_runCalls graphId calls
  refine ⟨exists_findPath sound isPlane source target, ?_, sound.anchored⟩
  intro rounds path found row isRow listed
  rw [(isPath_of_findPath sound found).inPlane row isRow listed]
  decide

def noon : Moment :=
  .aware ⟨2020, 1, 1, 12, 0, 0, 0, rfl⟩ 0

def entity (nodeId : PyStr) : GraphNode :=
  ⟨nodeId, py "ENTITY", py "1", [], []⟩

def parentCalls : List (Moment × Call) :=
  [(noon, .addNode (entity (py "a")) (py "1") []), (noon, .addNode (entity (py "b")) (py "2") []),
    (noon, .addEdge ⟨py "e", py "AUTHORITY_REFERENCE", py "AUTHORITY_PARENT_OF", py "a", py "b",
      [], none⟩ (py "3") [])]

theorem findPath_parent :
    (∃ outcome : Except PyError GraphPath,
      (∀ rounds, (runCalls (py "g") parentCalls).edges.length + 2 ≤ rounds →
        (runCalls (py "g") parentCalls).findPath rounds (py "a") (py "b")
          (py "AUTHORITY_REFERENCE") = outcome.map some) ∧
      ((∃ path, outcome = .ok path) ↔ Relation.ReflTransGen (Adjacent
        ((runCalls (py "g") parentCalls).Joins (py "AUTHORITY_REFERENCE"))) (py "a") (py "b")) ∧
      ∀ path, outcome = .ok path → (runCalls (py "g") parentCalls).IsPath
        (py "AUTHORITY_REFERENCE") (py "a") (py "b") path) ∧
    (∀ rounds path,
      (runCalls (py "g") parentCalls).authorityReferencePath rounds (py "a") (py "b") =
        .ok (some path) →
      ∀ row ∈ (runCalls (py "g") parentCalls).edges, row.edgeId ∈ path.edgeIds →
        row.plane ≠ py "DATA_PROVENANCE") ∧
    ∀ row ∈ (runCalls (py "g") parentCalls).edges,
      (runCalls (py "g") parentCalls).Anchors row := by
  have registered : (runCalls (py "g") parentCalls).nodes.map NodeRow.nodeId =
      [py "a", py "b"] := by
    decide +kernel
  have known : ∀ nodeId ∈ [py "a", py "b"],
      (runCalls (py "g") parentCalls).hasNode nodeId = true := by
    intro nodeId member
    rw [← registered] at member
    obtain ⟨row, isRow, rfl⟩ := List.mem_map.mp member
    exact List.any_eq_true.mpr ⟨row, isRow, decide_eq_true rfl⟩
  exact findPath_runCalls (py "g") parentCalls (by decide) (known _ (.head _))
    (known _ (.tail _ (.head _)))

end EnterpriseGraph

end CyberLion
