import CyberLion.PersistentAuthorityState
import CyberLion.SqlTable

/-!
# Dual evaluations

`mission_control/dual_result_join.py`: a request is put to two providers, the first response
of each is recorded, and the two are joined.  The prompts that a request is split into are
columns that nothing here reads, and are left out.
-/

namespace CyberLion

namespace DualResultJoin

open PyLib

def localProvider : PyStr :=
  py "gpt-oss-20b-MXFP4"

def saasProvider : PyStr :=
  py "CHATGPT_SAAS_SUPERVISOR"

/-- The states of an evaluation: `CREATED`, `WAITING_RESPONSES` and `JOIN_READY`. -/
inductive EvaluationState
  | created
  | waitingResponses
  | joinReady
  deriving DecidableEq

/-- A row of `mission_dual_evaluations`. -/
structure DualEvaluation where
  requestId : PyStr
  missionId : PyStr
  phaseId : Option PyStr
  contextDigest : PyStr
  currentnessDigest : PyStr
  originalRequest : PyStr
  state : EvaluationState
  saasRequestId : Option PyStr
  createdAt : PyStr
  updatedAt : PyStr
  deriving DecidableEq

/-- A row of `mission_dual_receipts`. -/
structure DualReceipt where
  receiptId : PyStr
  requestId : PyStr
  provider : PyStr
  responseDigest : PyStr
  responseText : PyStr
  transport : Option PyStr
  authorityEffect : PyStr
  createdAt : PyStr
  deriving DecidableEq

structure Database where
  evaluations : List DualEvaluation
  receipts : List DualReceipt
  deriving DecidableEq

/-- `ValueError(message)`. -/
def dualError (message : PyStr) : PyError :=
  ⟨.valueError, message⟩

def uniqueError (column : PyStr) : PyError :=
  ⟨.integrityError, py "UNIQUE constraint failed: " ++ column⟩

def digestText (text : PyStr) : Except PyError PyStr := do
  let bytes ← encodeUtf8 text
  return sha256 bytes

/-- `_digest_text(_canon(value))`. -/
def digestCanon (value : Json) : Except PyError PyStr := do
  let text ← Json.dumps false true value
  digestText text

def bindTexts (values : List PyStr) : Except PyError Unit :=
  forM values bindText

/-! ### Writers -/

/-- The arguments of `create_dual`, with the identifier and the time that it draws. -/
structure CreateInput where
  requestId : PyStr
  missionId : PyStr
  phaseId : Option PyStr
  originalRequest : PyStr
  currentness : Json
  stamp : PyStr

def createDual (input : CreateInput) (db : Database) :
    Except PyError (Database × DualEvaluation) := do
  let text := strip input.originalRequest
  raiseIf (text = []) (dualError (py "dual request empty"))
  let contextDigest ← digestText text
  let currentnessDigest ← digestCanon input.currentness
  bindTexts ([input.requestId, input.missionId, input.stamp] ++ input.phaseId.toList)
  let evaluation : DualEvaluation := ⟨input.requestId, input.missionId, input.phaseId,
    contextDigest, currentnessDigest, text, .created, none, input.stamp, input.stamp⟩
  let evaluations ← insertRow (uniqueError (py "mission_dual_evaluations.request_id"))
    (fun row => row.requestId = input.requestId) evaluation db.evaluations
  return ({ db with evaluations }, evaluation)

def DualEvaluation.linked (saasRequestId : Option PyStr) (stamp : PyStr) (row : DualEvaluation) :
    DualEvaluation :=
  { row with saasRequestId, state := .waitingResponses, updatedAt := stamp }

def DualEvaluation.moved (state : EvaluationState) (stamp : PyStr) (row : DualEvaluation) :
    DualEvaluation :=
  { row with state, updatedAt := stamp }

def updateEvaluation (requestId : PyStr) (change : DualEvaluation → DualEvaluation)
    (rows : List DualEvaluation) : List DualEvaluation :=
  updateWhere (fun row => row.requestId = requestId) change rows

def linkSaasRequest (requestId : PyStr) (saasRequestId : Option PyStr) (stamp : PyStr)
    (db : Database) : Except PyError (Database × Unit) := do
  bindTexts (saasRequestId.toList ++ [stamp, requestId])
  raiseIf (db.evaluations.any (fun row => row.requestId = requestId) = false)
    (dualError (py "dual request not found"))
  return ({ db with
    evaluations := updateEvaluation requestId (.linked saasRequestId stamp) db.evaluations }, ())

/-- The arguments of `record_response`, with the identifier and the time that it draws. -/
structure ResponseInput where
  receiptId : PyStr
  requestId : PyStr
  provider : PyStr
  responseText : PyStr
  transport : Option PyStr
  authorityEffect : PyStr
  stamp : PyStr

def ResponseInput.receipt (input : ResponseInput) (digest : PyStr) : DualReceipt :=
  ⟨input.receiptId, input.requestId, input.provider, digest, strip input.responseText,
    input.transport, input.authorityEffect, input.stamp⟩

def DualReceipt.isFor (requestId provider : PyStr) (row : DualReceipt) : Bool :=
  row.requestId = requestId && row.provider = provider

/-- `COUNT(DISTINCT provider)` of a request. -/
def providerCount (requestId : PyStr) (receipts : List DualReceipt) : Nat :=
  ((receipts.filter fun row => row.requestId = requestId).map DualReceipt.provider).dedup.length

def stateOf (requestId : PyStr) (receipts : List DualReceipt) : EvaluationState :=
  if providerCount requestId receipts = 2 then .joinReady else .waitingResponses

def secondResponse (receipt existing : DualReceipt) : PyError :=
  dualError (if (existing.responseDigest, existing.transport, existing.authorityEffect) =
      (receipt.responseDigest, receipt.transport, receipt.authorityEffect) then
    py "dual response duplicate" else py "dual response conflict")

def insertReceipt (receipt : DualReceipt) (receipts : List DualReceipt) :
    Except PyError (List DualReceipt) :=
  match receipts.find? (DualReceipt.isFor receipt.requestId receipt.provider) with
  | some existing => .error (secondResponse receipt existing)
  | none => insertRow (uniqueError (py "mission_dual_receipts.receipt_id"))
      (fun row => row.receiptId = receipt.receiptId) receipt receipts

def recordResponse (input : ResponseInput) (db : Database) :
    Except PyError (Database × DualReceipt) := do
  raiseIf (input.provider ≠ localProvider ∧ input.provider ≠ saasProvider)
    (dualError (py "dual provider"))
  raiseIf (isBlank input.responseText = true) (dualError (py "dual response"))
  let digest ← digestText (strip input.responseText)
  let receipt := input.receipt digest
  bindTexts ([input.receiptId, input.requestId, input.authorityEffect, input.stamp] ++
    input.transport.toList)
  let receipts ← insertReceipt receipt db.receipts
  let state := stateOf input.requestId receipts
  return (⟨updateEvaluation input.requestId (.moved state input.stamp) db.evaluations, receipts⟩,
    receipt)

/-! ### The join -/

/-- `control_plane_check`, without the flags that are constant. -/
structure JoinFlags where
  localReceived : Bool
  handoffCreated : Bool
  saasReceived : Bool
  currentnessUsed : Bool
  deriving DecidableEq

inductive JoinReply
  | waitingResponses (requestId : PyStr) (flags : JoinFlags)
  | joined (requestId answer : PyStr) (flags : JoinFlags)
      (localReceipt saasReceipt contextDigest : PyStr)
  deriving DecidableEq

/-- `str(value).upper()` of a flag. -/
def flagText (value : Bool) : PyStr :=
  if value then py "TRUE" else py "FALSE"

def JoinFlags.text (flags : JoinFlags) : PyStr :=
  pyJoin (py "\n") [py "LOCAL_RESPONSE_RECEIVED=" ++ flagText flags.localReceived,
    py "SAAS_HANDOFF_CREATED=" ++ flagText flags.handoffCreated,
    py "SAAS_RESPONSE_RECEIVED=" ++ flagText flags.saasReceived,
    py "MISSION_CURRENTNESS_USED=" ++ flagText flags.currentnessUsed,
    py "MATERIAL_EVIDENCE_USED=TRUE", py "AUTHORITY_EFFECT=NONE"]

/-- `bool(value)` of a column. -/
def isFilled (value : Option PyStr) : Bool :=
  value.any fun text => text ≠ []

def joinFlags (evaluation : DualEvaluation) (localRow saasRow : Option DualReceipt) : JoinFlags :=
  ⟨localRow.isSome, isFilled evaluation.saasRequestId, saasRow.isSome,
    isFilled (some evaluation.currentnessDigest)⟩

def joinedReply (evaluation : DualEvaluation) (localRow saasRow : DualReceipt) : JoinReply :=
  let flags := joinFlags evaluation (some localRow) (some saasRow)
  .joined evaluation.requestId
    (py "### MISSION CONTROL CURRENTNESS\nsnapshot_digest=" ++ evaluation.currentnessDigest ++
      py "\n\n### LOCAL · gpt-oss-20b-MXFP4\n" ++ localRow.responseText ++
      py "\n\n### CHATGPT_SAAS_SUPERVISOR\n" ++ saasRow.responseText ++
      py "\n\n### CONTROL PLANE CHECK\n" ++ flags.text)
    flags localRow.responseDigest saasRow.responseDigest evaluation.contextDigest

def receiptOf (requestId provider : PyStr) (db : Database) : Option DualReceipt :=
  (db.receipts.filter (DualReceipt.isFor requestId provider)).getLast?

def joinResult (requestId : PyStr) (db : Database) : Except PyError JoinReply :=
  match db.evaluations.find? (fun row => row.requestId = requestId) with
  | none => .error (dualError (py "dual request not found"))
  | some evaluation =>
    match receiptOf requestId localProvider db, receiptOf requestId saasProvider db with
    | some localRow, some saasRow => .ok (joinedReply evaluation localRow saasRow)
    | localRow, saasRow =>
      .ok (.waitingResponses requestId (joinFlags evaluation localRow saasRow))

end DualResultJoin

end CyberLion
