import CyberLion.JsonStrict
import CyberLion.PosixPath
import CyberLion.Sha256

/-!
# Fleet coordination contracts

`contracts/fleet_coordination.py`: the mission specification, the plan request
and the dispatch with their field checks, their canonical JSON and their
digests.  A field holds a value of the type its check demands; a stored JSON
value of another type is refused by the decoders that build these records.
-/

namespace CyberLion

namespace FleetCoordination

open PyLib

def contractErrorClass : ErrorClass :=
  .declared .valueError (py "FleetCoordinationContractError")

/-- `FleetCoordinationContractError(message)`. -/
def contractError (message : PyStr) : PyError :=
  ⟨contractErrorClass, message⟩

def canonicalJson (value : Json) : Except PyError Utf8Bytes := do
  let text ← Json.dumps false true value
  encodeUtf8 text

/-! ### Field checks -/

def isControl (c : CodePoint) : Bool :=
  c.val < 32 || c.val == 127

/-- `_text` for a field that must be present. -/
def textField (limit : Nat) (name value : PyStr) : Except PyError Unit :=
  raiseIf (isBlank value || limit < value.length || value.any isControl)
    (contractError (name ++ py " is invalid"))

/-- `_sha40`. -/
def sha40Field (name value : PyStr) : Except PyError Unit := do
  textField 40 name value
  raiseIf (¬ isLowerHexOf 40 value = true)
    (contractError (name ++ py " must be a full lowercase git SHA"))

/-- `_sha256` for a field that must be present. -/
def sha256Field (name value : PyStr) : Except PyError Unit := do
  textField 64 name value
  raiseIf (¬ isLowerHexOf 64 value = true)
    (contractError (name ++ py " must be sha256 hex"))

/-- The class `[^/\s]`. -/
def isRepositoryChar (c : CodePoint) : Bool :=
  c != 0x2F && !c.isSpace

/-- The pattern `[^/\s]+/[^/\s]+` matches the whole text. -/
def isRepositoryName (value : PyStr) : Bool :=
  let owner := value.takeWhile isRepositoryChar
  let name := (value.dropWhile isRepositoryChar).tail
  owner ≠ [] && name ≠ [] && name.all isRepositoryChar &&
    (value.dropWhile isRepositoryChar).head? = some 0x2F

/-- `_repository`. -/
def repositoryField (value : PyStr) : Except PyError Unit := do
  textField 4096 (py "repository") value
  raiseIf (¬ isRepositoryName value = true)
    (contractError (py "repository must use owner/name form"))

def branchForbidden : PyStr := py " ~^:?*[\\"

def isUnsafeBranch (value : PyStr) : Bool :=
  py "refs/" <+: value || py "/" <+: value || py "/" <:+ value || py "." <:+ value ||
    py ".lock" <:+ value || py ".." <:+: value || py "//" <:+: value ||
    py "@\x7b" <:+: value || value.any fun c => branchForbidden.contains c

/-- `_branch`. -/
def branchField (value : PyStr) : Except PyError Unit := do
  textField 255 (py "branch") value
  raiseIf (isUnsafeBranch value)
    (contractError (py "branch is not a safe repository branch name"))

def stringTuple (name : PyStr) (nonempty : Bool) (values : List PyStr) : Except PyError Unit := do
  raiseIf (nonempty ∧ values = []) (contractError (name ++ py " must be a non-empty tuple"))
  forM values (textField 4096 name)
  raiseIf (¬ values.Nodup) (contractError (name ++ py " entries must be unique"))

def isUnsafePath (raw : PyStr) : Bool :=
  raw.contains 0x5C || raw.any (fun c => (py "*?[]").contains c) || PosixPath.isAbsolute raw ||
    (PosixPath.parts raw).contains (py "..") || PosixPath.canonical raw = [] ||
    PosixPath.canonical raw = py "." || PosixPath.canonical raw ≠ raw

/-- `_write_scope`. -/
def writeScopeField (values : List PyStr) : Except PyError Unit := do
  stringTuple (py "write_scope") true values
  forM values fun raw => raiseIf (isUnsafePath raw)
    (contractError (py "write_scope contains a non-canonical or unsafe path"))

/-- `_heads`. -/
def headsField (heads : List (PyStr × PyStr)) : Except PyError Unit := do
  raiseIf (heads = []) (contractError (py "current_heads must be a non-empty tuple"))
  forM heads fun row => do
    repositoryField row.1
    sha40Field (py "current head") row.2
  raiseIf (¬ (heads.map Prod.fst).Nodup)
    (contractError (py "current_heads repositories must be unique"))

/-! ### Records -/

def textList (values : List PyStr) : Json :=
  .arr (values.map Json.str)

structure FleetCoordinationSpec where
  missionId : PyStr
  droneId : PyStr
  repository : PyStr
  baselineSha : PyStr
  baselineTreeSha : PyStr
  branch : PyStr
  writeScope : List PyStr
  dependencies : List PyStr
  evidenceRefs : List PyStr
  deriving DecidableEq

namespace FleetCoordinationSpec

def validate (spec : FleetCoordinationSpec) : Except PyError Unit := do
  textField 4096 (py "mission_id") spec.missionId
  textField 4096 (py "drone_id") spec.droneId
  repositoryField spec.repository
  sha40Field (py "baseline_sha") spec.baselineSha
  sha40Field (py "baseline_tree_sha") spec.baselineTreeSha
  branchField spec.branch
  writeScopeField spec.writeScope
  stringTuple (py "dependencies") false spec.dependencies
  stringTuple (py "evidence_refs") true spec.evidenceRefs
  raiseIf (spec.missionId ∈ spec.dependencies)
    (contractError (py "mission cannot depend on itself"))

def fields (spec : FleetCoordinationSpec) : List (PyStr × Json) :=
  [(py "mission_id", .str spec.missionId), (py "drone_id", .str spec.droneId),
    (py "repository", .str spec.repository), (py "baseline_sha", .str spec.baselineSha),
    (py "baseline_tree_sha", .str spec.baselineTreeSha), (py "branch", .str spec.branch),
    (py "write_scope", textList spec.writeScope),
    (py "dependencies", textList spec.dependencies),
    (py "evidence_refs", textList spec.evidenceRefs)]

def canonicalDict (spec : FleetCoordinationSpec) : Except PyError Json := do
  spec.validate
  return .obj spec.fields

def digest (spec : FleetCoordinationSpec) : Except PyError PyStr := do
  let value ← spec.canonicalDict
  let bytes ← canonicalJson value
  return sha256 bytes

end FleetCoordinationSpec

structure FleetPlanRequest where
  requestId : PyStr
  coordinatorId : PyStr
  currentHeads : List (PyStr × PyStr)
  maxParallel : Int
  deriving DecidableEq

namespace FleetPlanRequest

def validate (request : FleetPlanRequest) : Except PyError Unit := do
  textField 4096 (py "request_id") request.requestId
  textField 4096 (py "coordinator_id") request.coordinatorId
  headsField request.currentHeads
  raiseIf (¬ (1 ≤ request.maxParallel ∧ request.maxParallel ≤ 100))
    (contractError (py "max_parallel must be in [1,100]"))

def fields (request : FleetPlanRequest) : List (PyStr × Json) :=
  [(py "request_id", .str request.requestId),
    (py "coordinator_id", .str request.coordinatorId),
    (py "current_heads",
      .arr (request.currentHeads.map fun row => .arr [.str row.1, .str row.2])),
    (py "max_parallel", .int request.maxParallel)]

def canonicalDict (request : FleetPlanRequest) : Except PyError Json := do
  request.validate
  return .obj request.fields

def digest (request : FleetPlanRequest) : Except PyError PyStr := do
  let value ← request.canonicalDict
  let bytes ← canonicalJson value
  return sha256 bytes

end FleetPlanRequest

structure FleetDispatch where
  dispatchId : PyStr
  fencingToken : PyStr
  requestId : PyStr
  coordinatorId : PyStr
  missionId : PyStr
  droneId : PyStr
  generation : Int
  repository : PyStr
  baselineSha : PyStr
  baselineTreeSha : PyStr
  branch : PyStr
  writeScope : List PyStr
  issuedAt : PyStr
  deriving DecidableEq

namespace FleetDispatch

def validate (dispatch : FleetDispatch) : Except PyError Unit := do
  sha256Field (py "dispatch_id") dispatch.dispatchId
  sha256Field (py "fencing_token") dispatch.fencingToken
  textField 4096 (py "request_id") dispatch.requestId
  textField 4096 (py "coordinator_id") dispatch.coordinatorId
  textField 4096 (py "mission_id") dispatch.missionId
  textField 4096 (py "drone_id") dispatch.droneId
  textField 4096 (py "issued_at") dispatch.issuedAt
  raiseIf (dispatch.generation < 1) (contractError (py "generation must be positive"))
  repositoryField dispatch.repository
  sha40Field (py "baseline_sha") dispatch.baselineSha
  sha40Field (py "baseline_tree_sha") dispatch.baselineTreeSha
  branchField dispatch.branch
  writeScopeField dispatch.writeScope

def fields (dispatch : FleetDispatch) : List (PyStr × Json) :=
  [(py "dispatch_id", .str dispatch.dispatchId),
    (py "fencing_token", .str dispatch.fencingToken),
    (py "request_id", .str dispatch.requestId),
    (py "coordinator_id", .str dispatch.coordinatorId),
    (py "mission_id", .str dispatch.missionId), (py "drone_id", .str dispatch.droneId),
    (py "generation", .int dispatch.generation),
    (py "repository", .str dispatch.repository),
    (py "baseline_sha", .str dispatch.baselineSha),
    (py "baseline_tree_sha", .str dispatch.baselineTreeSha),
    (py "branch", .str dispatch.branch), (py "write_scope", textList dispatch.writeScope),
    (py "issued_at", .str dispatch.issuedAt)]

def canonicalDict (dispatch : FleetDispatch) : Except PyError Json := do
  dispatch.validate
  return .obj dispatch.fields

/-- The dispatch has the identity of its mission and of its request. -/
def boundTo (dispatch : FleetDispatch) (spec : FleetCoordinationSpec)
    (request : FleetPlanRequest) : Bool :=
  dispatch.requestId = request.requestId &&
    dispatch.coordinatorId = request.coordinatorId &&
    dispatch.missionId = spec.missionId && dispatch.droneId = spec.droneId &&
    dispatch.repository = spec.repository && dispatch.baselineSha = spec.baselineSha &&
    dispatch.baselineTreeSha = spec.baselineTreeSha && dispatch.branch = spec.branch &&
    dispatch.writeScope = spec.writeScope

def validateFor (dispatch : FleetDispatch) (spec : FleetCoordinationSpec)
    (request : FleetPlanRequest) : Except PyError Unit := do
  dispatch.validate
  spec.validate
  request.validate
  raiseIf (¬ dispatch.boundTo spec request = true)
    (contractError (py "dispatch binding mismatch"))

end FleetDispatch

end FleetCoordination

end CyberLion
