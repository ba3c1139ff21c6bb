import CyberLion.BreadthFirstSearch
import CyberLion.FleetCoordinationReads
import CyberLion.PersistentAuthorityState
import CyberLion.PolicyGateContracts
import CyberLion.PyConvert
import CyberLion.SqlTable

/-!
# The enterprise graph

`enterprise/enterprise_graph.py` with `GraphPath` of `contracts/enterprise_graph.py`: nodes and
edges are added, each call in one transaction with its event and its entry in the log of
operations, and a path is searched for breadth first among the edges of one plane.
-/

namespace CyberLion

namespace EnterpriseGraph

open PyLib
open AuthorityGrant (textList)
open FleetCoordination (canonicalJson zeroDigest fieldOf iterate textOf textFieldOf)

/-- `EnterpriseGraphStateError(message)`. -/
def stateError (message : PyStr) : PyError :=
  ⟨.declared .runtimeError (py "EnterpriseGraphStateError"), message⟩

/-! ### Tables -/

/-- A row of `enterprise_graph_node`. -/
structure NodeRow where
  nodeId : PyStr
  nodeType : PyStr
  version : PyStr
  nodeDigest : PyStr
  nodeJson : PyStr
  registeredAt : PyStr
  deriving DecidableEq

/-- A row of `enterprise_graph_edge`. -/
structure EdgeRow where
  edgeId : PyStr
  plane : PyStr
  edgeType : PyStr
  sourceId : PyStr
  targetId : PyStr
  edgeDigest : PyStr
  edgeJson : PyStr
  registeredAt : PyStr
  deriving DecidableEq

/-- A row of `enterprise_graph_operation`. -/
structure OperationRow where
  operationId : PyStr
  operationDigest : PyStr
  resultJson : PyStr
  resultDigest : PyStr
  observedAt : PyStr
  deriving DecidableEq

inductive EventType
  | nodeAdded
  | edgeAdded
  deriving DecidableEq

def EventType.text : EventType → PyStr
  | nodeAdded => py "NODE_ADDED"
  | edgeAdded => py "EDGE_ADDED"

/-- A row of `enterprise_graph_event`.  The rows stand in the order of `seq`. -/
structure EventRow where
  eventId : PyStr
  eventType : EventType
  payloadJson : PyStr
  previousDigest : PyStr
  eventDigest : PyStr
  observedAt : PyStr
  deriving DecidableEq

/-- The tables, with the columns of the one row of `enterprise_graph_meta`. -/
structure Database where
  graphId : PyStr
  revision : Nat
  eventHead : PyStr
  nodes : List NodeRow
  edges : List EdgeRow
  operations : List OperationRow
  events : List EventRow
  deriving DecidableEq

/-- What `_bind` inserts into a new database. -/
def emptyDatabase (graphId : PyStr) : Database :=
  ⟨graphId, 0, zeroDigest, [], [], [], []⟩

def uniqueError (columns : PyStr) : PyError :=
  ⟨.integrityError, py "UNIQUE constraint failed: " ++ columns⟩

/-! ### Events and operations -/

def now : Moment → Except PyError PyStr
  | .naive _ => .error (stateError (py "trusted clock must be timezone-aware"))
  | .aware time offset => do
    let utcTime ← time.astimezoneUtc offset
    return utcTime.isoformatUtc

/-- `sha256(canonical_json(value)).hexdigest()`. -/
def digestOf (value : Json) : Except PyError PyStr := do
  let bytes ← canonicalJson value
  return sha256 bytes

/-- `_event_digest`. -/
def eventDigestOf (previous : PyStr) (eventType : EventType) (payload : Json)
    (observedAt : PyStr) : Except PyError PyStr :=
  digestOf (.obj [(py "previous_digest", .str previous), (py "event_type", .str eventType.text),
    (py "payload", payload), (py "observed_at", .str observedAt)])

def append (eventType : EventType) (payload : Json) (observedAt : PyStr) (db : Database) :
    Except PyError Database := do
  let eventDigest ← eventDigestOf db.eventHead eventType payload observedAt
  let bytes ← canonicalJson payload
  let event : EventRow :=
    ⟨eventDigest, eventType, bytes.text, db.eventHead, eventDigest, observedAt⟩
  let events ← insertRow (uniqueError (py "enterprise_graph_event.event_id"))
    (fun row => row.eventId = eventDigest || row.eventDigest = eventDigest) event db.events
  return { db with events, revision := db.revision + 1, eventHead := eventDigest }

/-- The result of an operation row, if the operation is the same. -/
def OperationRow.result (operationDigest : PyStr) (row : OperationRow) : Except PyError Json := do
  let bytes ← encodeUtf8 row.resultJson
  raiseIf (row.operationDigest ≠ operationDigest ∨ sha256 bytes ≠ row.resultDigest)
    (stateError (py "operation replay substitution/corruption denied"))
  Json.loads Json.plainHooks row.resultJson

def cached (operationId : PyStr) (payload : Json) (db : Database) :
    Except PyError (PyStr × Json) := do
  raiseIf (operationId = []) (stateError (py "operation_id required"))
  let operationDigest ← digestOf payload
  bindText operationId
  match db.operations.find? (fun row => row.operationId = operationId) with
  | none => return (operationDigest, .null)
  | some row => do
    let value ← row.result operationDigest
    return (operationDigest, value)

def save (operationId operationDigest : PyStr) (result : Json) (observedAt : PyStr)
    (db : Database) : Except PyError Database := do
  let raw ← Json.dumps true true result
  let bytes ← encodeUtf8 raw
  let operations ← insertRow (uniqueError (py "enterprise_graph_operation.operation_id"))
    (fun row => row.operationId = operationId)
    ⟨operationId, operationDigest, raw, sha256 bytes, observedAt⟩ db.operations
  return { db with operations }

def commit (eventType : EventType) (payload : Json) (operationId operationDigest : PyStr)
    (result : Json) (observedAt : PyStr) (db : Database) : Except PyError Database := do
  let db ← append eventType payload observedAt db
  save operationId operationDigest result observedAt db

/-- What the two operations share: a saved result is given again. -/
def operate {α : Type} (operationId : PyStr) (payload : Json) (replay : Json → Except PyError α)
    (work : PyStr → Except PyError (Database × α)) (db : Database) :
    Except PyError (Database × α) := do
  let (operationDigest, saved) ← cached operationId payload db
  if saved.isTrue = true then do
    let result ← replay saved
    return (db, result)
  else work operationDigest

/-! ### Stored records -/

/-- The members of a stored record under the names of its class, with its references. -/
def recordOf (names : List PyStr) : Json → Except PyError (List (PyStr × Json) × List PyStr)
  | .obj fields => do
    let refs ← iterate ((fields.lookup (py "provenance_refs")).getD (.arr []))
    raiseIf (∃ field ∈ fields, field.1 ∉ names)
      ⟨.typeError, py "unexpected keyword argument"⟩
    let texts ← refs.mapM textOf
    return (fields, texts)
  | _ => .error ⟨.typeError, py "not a mapping"⟩

/-- A reader of a stored record: whatever it raises, the record is invalid. -/
def readStored {α : Type} (message : PyStr) (read : Json → Except PyError α) (raw : PyStr) :
    Except PyError α :=
  rethrow (fun _ => true) (fun _ => stateError message) (do
    let value ← Json.loads Json.plainHooks raw
    read value)

/-- `GraphNode(**d).validate()`. -/
def nodeOf (value : Json) : Except PyError GraphNode := do
  let (fields, provenanceRefs) ← recordOf [py "node_id", py "node_type", py "version",
    py "payload", py "provenance_refs"] value
  let nodeId ← textFieldOf fields (py "node_id")
  let nodeType ← textFieldOf fields (py "node_type")
  let version ← textFieldOf fields (py "version")
  let payload ← fieldOf fields (py "payload")
  match payload with
  | .obj payload => do
    let node : GraphNode := ⟨nodeId, nodeType, version, payload, provenanceRefs⟩
    node.validate
    return node
  | _ => .error (graphError (py "payload must be mapping"))

def nodeFrom (raw : PyStr) : Except PyError GraphNode :=
  readStored (py "stored node invalid") nodeOf raw

def evidenceOf (fields : List (PyStr × Json)) : Except PyError (Option PyStr) :=
  match fields.lookup (py "causality_evidence_ref") with
  | none | some .null => .ok none
  | some (.str value) => .ok (some value)
  | some _ => .error (graphError (py "causality evidence only valid for CAUSED_BY"))

/-- `GraphEdge(**d).validate()`. -/
def edgeOf (value : Json) : Except PyError GraphEdge := do
  let (fields, provenanceRefs) ← recordOf [py "edge_id", py "plane", py "edge_type",
    py "source_id", py "target_id", py "provenance_refs", py "causality_evidence_ref"] value
  let edgeId ← textFieldOf fields (py "edge_id")
  let plane ← textFieldOf fields (py "plane")
  let edgeType ← textFieldOf fields (py "edge_type")
  let sourceId ← textFieldOf fields (py "source_id")
  let targetId ← textFieldOf fields (py "target_id")
  let evidence ← evidenceOf fields
  let edge : GraphEdge := ⟨edgeId, plane, edgeType, sourceId, targetId, provenanceRefs, evidence⟩
  edge.validate
  return edge

def edgeFrom (raw : PyStr) : Except PyError GraphEdge :=
  readStored (py "stored edge invalid") edgeOf raw

def replayed {α : Type} (read : PyStr → Except PyError α) (saved : Json) : Except PyError α := do
  let bytes ← canonicalJson saved
  read bytes.text

/-! ### Nodes -/

/-- The payload of `add_node`. -/
def nodePayload (node : GraphNode) (evidenceRefs : List PyStr) : Json :=
  .obj [(py "kind", .str (py "add_node")), (py "node", node.toJson),
    (py "evidence_refs", textList evidenceRefs)]

def denyNode (row : NodeRow) (node : GraphNode) : Except PyError Unit := do
  let digest ← digestOf node.toJson
  raiseIf (row.nodeDigest ≠ digest) (stateError (py "node id payload substitution denied"))
  .error (stateError (py "node already exists under different operation"))

/-- The `work` of `add_node`, for an operation that was not saved. -/
def addNodeWork (node : GraphNode) (operationId : PyStr) (evidenceRefs : List PyStr)
    (clock : Moment) (db : Database) (operationDigest : PyStr) :
    Except PyError (Database × GraphNode) := do
  bindText node.nodeId
  forM (db.nodes.find? fun row => row.nodeId = node.nodeId).toList fun row => denyNode row node
  let observedAt ← now clock
  let raw ← canonicalJson node.toJson
  let digest ← digestOf node.toJson
  let nodes ← insertRow (uniqueError (py "enterprise_graph_node.node_id"))
    (fun row => row.nodeId = node.nodeId)
    ⟨node.nodeId, node.nodeType, node.version, digest, raw.text, observedAt⟩ db.nodes
  let db ← commit .nodeAdded (nodePayload node evidenceRefs) operationId operationDigest
    node.toJson observedAt { db with nodes }
  return (db, node)

def addNode (node : GraphNode) (operationId : PyStr) (evidenceRefs : List PyStr) (clock : Moment)
    (db : Database) : Except PyError (Database × GraphNode) := do
  node.validate
  operate operationId (nodePayload node evidenceRefs) (replayed nodeFrom)
    (addNodeWork node operationId evidenceRefs clock db) db

/-! ### Edges -/

/-- The payload of `add_edge`. -/
def edgePayload (edge : GraphEdge) (evidenceRefs : List PyStr) : Json :=
  .obj [(py "kind", .str (py "add_edge")), (py "edge", edge.toJson),
    (py "evidence_refs", textList evidenceRefs)]

def denyEdge (row : EdgeRow) (edge : GraphEdge) : Except PyError Unit := do
  let digest ← digestOf edge.toJson
  raiseIf (row.edgeDigest ≠ digest) (stateError (py "edge id payload substitution denied"))
  .error (stateError (py "edge already exists under different operation"))

def Database.hasNode (db : Database) (nodeId : PyStr) : Bool :=
  db.nodes.any fun row => row.nodeId = nodeId

/-- The `work` of `add_edge`, for an operation that was not saved. -/
def addEdgeWork (edge : GraphEdge) (operationId : PyStr) (evidenceRefs : List PyStr)
    (clock : Moment) (db : Database) (operationDigest : PyStr) :
    Except PyError (Database × GraphEdge) := do
  raiseIf (edge.sourceId = edge.targetId) (stateError (py "self edge denied"))
  raiseIf (¬ (db.hasNode edge.sourceId && db.hasNode edge.targetId) = true)
    (stateError (py "dangling edge denied"))
  forM (db.edges.find? fun row => row.edgeId = edge.edgeId).toList fun row => denyEdge row edge
  let observedAt ← now clock
  let raw ← canonicalJson edge.toJson
  let digest ← digestOf edge.toJson
  let edges ← insertRow (uniqueError (py "enterprise_graph_edge.edge_id"))
    (fun row => row.edgeId = edge.edgeId)
    ⟨edge.edgeId, edge.plane, edge.edgeType, edge.sourceId, edge.targetId, digest, raw.text,
      observedAt⟩ db.edges
  let db ← commit .edgeAdded (edgePayload edge evidenceRefs) operationId operationDigest
    edge.toJson observedAt { db with edges }
  return (db, edge)

def addEdge (edge : GraphEdge) (operationId : PyStr) (evidenceRefs : List PyStr) (clock : Moment)
    (db : Database) : Except PyError (Database × GraphEdge) := do
  edge.validate
  operate operationId (edgePayload edge evidenceRefs) (replayed edgeFrom)
    (addEdgeWork edge operationId evidenceRefs clock db) db

/-! ### Paths -/

def planes : List PyStr :=
  [py "DATA_PROVENANCE", py "AUTHORITY_REFERENCE"]

structure GraphPath where
  plane : PyStr
  nodeIds : List PyStr
  edgeIds : List PyStr
  deriving DecidableEq

def GraphPath.validate (path : GraphPath) : Except PyError Unit := do
  raiseIf (path.plane ∉ planes) (graphError (py "unknown plane"))
  raiseIf (path.nodeIds.length ≠ path.edgeIds.length + 1) (graphError (py "path shape invalid"))

/-- `ORDER BY edge_type,source_id,target_id,edge_id`. -/
def EdgeRow.before (first second : EdgeRow) : Bool :=
  first.edgeType < second.edgeType || (first.edgeType = second.edgeType &&
    (first.sourceId < second.sourceId || (first.sourceId = second.sourceId &&
      (first.targetId < second.targetId || (first.targetId = second.targetId &&
        first.edgeId ≤ second.edgeId)))))

/-- The rows of a plane in the order of `find_path`. -/
def Database.planeEdges (db : Database) (plane : PyStr) : List EdgeRow :=
  (db.edges.filter fun row => row.plane = plane).insertionSort fun first second =>
    first.before second

/-- `adj.setdefault(r[1],[]).append((r[2],r[0]))`. -/
def addNeighbour (adj : List (PyStr × List (PyStr × PyStr))) (row : EdgeRow) :
    List (PyStr × List (PyStr × PyStr)) :=
  dictSet row.sourceId ((adj.lookup row.sourceId).getD [] ++ [(row.targetId, row.edgeId)]) adj

/-- `adj`. -/
def adjacency (rows : List EdgeRow) : List (PyStr × List (PyStr × PyStr)) :=
  rows.foldl addNeighbour []

/-- `adj.get(cur,())`. -/
def neighbours (adj : List (PyStr × List (PyStr × PyStr))) (current : PyStr) :
    List (PyStr × PyStr) :=
  (adj.lookup current).getD []

/-- `find_path`, with a bound on the rounds of its loop: `none` when they do not suffice. -/
def Database.findPath (rounds : Nat) (sourceId targetId plane : PyStr) (db : Database) :
    Except PyError (Option GraphPath) := do
  raiseIf (plane ∉ planes) (stateError (py "explicit valid plane required"))
  bindText sourceId
  raiseIf (¬ db.hasNode sourceId = true) (stateError (py "path endpoint unknown"))
  bindText targetId
  raiseIf (¬ db.hasNode targetId = true) (stateError (py "path endpoint unknown"))
  if sourceId = targetId then do
    let path : GraphPath := ⟨plane, [sourceId], []⟩
    path.validate
    return some path
  else
    match Graph.search (neighbours (adjacency (db.planeEdges plane))) targetId rounds [sourceId]
      [Graph.Trail.start sourceId] with
    | none => return none
    | some none => .error (stateError (py "path not found"))
    | some (some trail) => do
      let path : GraphPath := ⟨plane, trail.nodes, trail.edges⟩
      path.validate
      return some path

/-- Among two edges into the target and one of the other plane, the first of the plane. -/
example : (⟨py "g", 0, zeroDigest, [⟨py "a", [], [], [], [], []⟩, ⟨py "b", [], [], [], [], []⟩],
    [⟨py "1", py "DATA_PROVENANCE", py "SUPPORTS", py "a", py "b", [], [], []⟩,
      ⟨py "3", py "AUTHORITY_REFERENCE", py "AUTHORITY_PARENT_OF", py "a", py "b", [], [], []⟩,
      ⟨py "2", py "AUTHORITY_REFERENCE", py "AUTHORITY_PARENT_OF", py "a", py "b", [], [], []⟩],
    [], []⟩ : Database).findPath 2 (py "a") (py "b") (py "AUTHORITY_REFERENCE") =
      .ok (some ⟨py "AUTHORITY_REFERENCE", [py "a", py "b"], [py "2"]⟩) := by
  decide +kernel

def Database.authorityReferencePath (rounds : Nat) (sourceId targetId : PyStr) (db : Database) :
    Except PyError (Option GraphPath) :=
  db.findPath rounds sourceId targetId (py "AUTHORITY_REFERENCE")

end EnterpriseGraph

end CyberLion
