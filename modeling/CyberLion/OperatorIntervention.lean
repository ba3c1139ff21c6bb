import CyberLion.JsonScan
import CyberLion.PyConvert
import CyberLion.Sha256

/-!
# Operator commands

`contracts/operator_intervention.py`: the actions of the human operator, the
command with the checks of `from_dict`, and the digests of commands and
receipts.  The value that `from_dict` gets is a decoded JSON value.
-/

namespace CyberLion

namespace OperatorControl

open PyLib

/-- `ValueError(message)`. -/
def valueError (message : PyStr) : PyError :=
  ⟨.valueError, message⟩

def primaryOperator : PyStr := py "OPERATOR_PRIMARY"

def primaryParticipant : PyStr := py "operator:primary"

/-! ### Actions -/

/-- `ACTIONS`. -/
inductive Action
  | message
  | requestStatus
  | annotate
  | amendContext
  | amendPlan
  | reassign
  | approveProposal
  | pauseScope
  | stopScope
  | cancelAssignment
  | revokeCapability
  | takeControl
  | releaseControl
  | resumeScope
  deriving DecidableEq

namespace Action

def text : Action → PyStr
  | message => py "MESSAGE"
  | requestStatus => py "REQUEST_STATUS"
  | annotate => py "ANNOTATE"
  | amendContext => py "AMEND_CONTEXT"
  | amendPlan => py "AMEND_PLAN"
  | reassign => py "REASSIGN"
  | approveProposal => py "APPROVE_PROPOSAL"
  | pauseScope => py "PAUSE_SCOPE"
  | stopScope => py "STOP_SCOPE"
  | cancelAssignment => py "CANCEL_ASSIGNMENT"
  | revokeCapability => py "REVOKE_CAPABILITY"
  | takeControl => py "TAKE_CONTROL"
  | releaseControl => py "RELEASE_CONTROL"
  | resumeScope => py "RESUME_SCOPE"

def all : List Action :=
  [message, requestStatus, annotate, amendContext, amendPlan, reassign, approveProposal,
    pauseScope, stopScope, cancelAssignment, revokeCapability, takeControl, releaseControl,
    resumeScope]

/-- The element of `ACTIONS` that a text names. -/
def ofText (text : PyStr) : Option Action :=
  all.find? fun action => action.text = text

/-- Membership in `COMMUNICATION_ACTIONS`. -/
def isCommunication : Action → Bool
  | message | requestStatus | annotate => true
  | _ => false

/-- Membership in `CONTROL_ACTIONS`. -/
def isControl : Action → Bool
  | pauseScope | stopScope | cancelAssignment | revokeCapability | takeControl | releaseControl
  | resumeScope => true
  | _ => false

/-- `action_effect`. -/
def effect (action : Action) : PyStr :=
  if action.isCommunication then py "COMMUNICATION"
  else if action = amendContext ∨ action = amendPlan ∨ action = approveProposal then
    py "CONTROL_METADATA"
  else if action = reassign then py "ASSIGNMENT_CONTROL"
  else py "CONTROL_STATE"

end Action

/-! ### Canonical text -/

def canonical (value : Json) : Except PyError PyStr :=
  Json.dumps false true value

def digest (value : Json) : Except PyError PyStr := do
  let text ← canonical value
  let bytes ← encodeUtf8 text
  return sha256 bytes

/-! ### Field checks -/

/-- `_text`. -/
def textField (value : Json) (name : PyStr) (maximum : Nat) : Except PyError PyStr :=
  match value with
  | .str text =>
    if strip text = [] ∨ maximum < (strip text).length then .error (valueError name)
    else .ok (strip text)
  | _ => .error (valueError name)

/-- The class `[A-Za-z0-9._:-]`. -/
def isIdentityPoint (c : CodePoint) : Bool :=
  c.isAsciiLetter || c.isAsciiDigit || c == codePoint '.' || c == codePoint '_' ||
    c == codePoint ':' || c == codePoint '-'

/-- `ID_RE.fullmatch(text)`. -/
def isIdentity : PyStr → Bool
  | [] => false
  | first :: rest =>
    (first.isAsciiLetter || first.isAsciiDigit) && rest.all isIdentityPoint &&
      rest.length ≤ 191

/-- The alternatives that `TARGET_RE` starts with. -/
def targetPrefixes : List PyStr :=
  [py "mission:", py "drone:", py "worker:", py "swarm:", py "group:", py "operator:"]

/-- `TARGET_RE.fullmatch(text)`. -/
def isTarget (text : PyStr) : Bool :=
  targetPrefixes.any fun head => head.isPrefixOf text && isIdentity (text.drop head.length)

def validateTarget (value : Json) : Except PyError PyStr := do
  let text ← textField value (py "target") 200
  raiseIf (isTarget text = false) (valueError (py "target"))
  return text

def missionTarget (missionId : PyStr) : Except PyError PyStr := do
  raiseIf (isIdentity missionId = false) (valueError (py "mission_id"))
  return py "mission:" ++ missionId

/-! ### Commands -/

structure OperatorCommand where
  commandId : PyStr
  missionId : PyStr
  action : Action
  target : PyStr
  payload : List (PyStr × Json)
  expectedRevision : Option Int
  deadlineAt : Option PyStr
  correlationId : Option PyStr
  causationId : Option PyStr

namespace OperatorCommand

/-- The field names that `from_dict` allows. -/
def allowedFields : List PyStr :=
  [py "command_id", py "mission_id", py "action", py "target", py "payload",
    py "expected_revision", py "deadline_at", py "correlation_id", py "causation_id"]

/-- `type(value) is dict`, or `raise ValueError(message)`. -/
def objectFields (message : PyStr) : Json → Except PyError (List (PyStr × Json))
  | .obj fields => .ok fields
  | _ => .error (valueError message)

/-- `action not in ACTIONS`. -/
def actionField (text : PyStr) : Except PyError Action :=
  match Action.ofText (pyUpper text) with
  | some action => .ok action
  | none => .error (valueError (py "action"))

/-- The value of `target`, or the mission's own target. -/
def targetField (value : Json) (missionId : PyStr) : Except PyError PyStr :=
  if value.isTrue then validateTarget value
  else do
    let own ← missionTarget missionId
    validateTarget (.str own)

def payloadField : Json → Except PyError (List (PyStr × Json))
  | .null => .ok []
  | value => objectFields (py "payload") value

def expectedField : Json → Except PyError (Option Int)
  | .null => .ok none
  | .int value =>
    if value < 0 then .error (valueError (py "expected_revision")) else .ok (some value)
  | _ => .error (valueError (py "expected_revision"))

def deadlineField : Json → Except PyError (Option PyStr)
  | .null => .ok none
  | .str text =>
    if 64 < text.length then .error (valueError (py "deadline_at")) else .ok (some text)
  | _ => .error (valueError (py "deadline_at"))

def lineageField (name : PyStr) : Json → Except PyError (Option PyStr)
  | .null => .ok none
  | .str text => if isIdentity text then .ok (some text) else .error (valueError name)
  | _ => .error (valueError name)

def fromDict (value : Json) : Except PyError OperatorCommand := do
  let fields ← objectFields (py "command object") value
  raiseIf (fields.any fun field => !allowedFields.contains field.1)
    (valueError (py "command fields"))
  let commandId ← textField (Json.get (py "command_id") fields) (py "command_id") 192
  let missionId ← textField (Json.get (py "mission_id") fields) (py "mission_id") 128
  raiseIf (isIdentity commandId = false ∨ isIdentity missionId = false)
    (valueError (py "command identity"))
  let actionText ← textField (Json.get (py "action") fields) (py "action") 64
  let action ← actionField actionText
  let target ← targetField (Json.get (py "target") fields) missionId
  let payload ← payloadField (Json.get (py "payload") fields)
  let payloadText ← canonical (.obj payload)
  let payloadBytes ← encodeUtf8 payloadText
  raiseIf (32768 < (payloadBytes.text.flatMap utf8Point).length)
    (valueError (py "payload too large"))
  let expected ← expectedField (Json.get (py "expected_revision") fields)
  let deadline ← deadlineField (Json.get (py "deadline_at") fields)
  let correlation ← lineageField (py "correlation_id") (Json.get (py "correlation_id") fields)
  let causation ← lineageField (py "causation_id") (Json.get (py "causation_id") fields)
  return ⟨commandId, missionId, action, target, payload, expected, deadline, correlation,
    causation⟩

/-- A value that may be `None`. -/
def optional {α : Type} (encode : α → Json) : Option α → Json
  | none => .null
  | some value => encode value

def asDict (command : OperatorCommand) : Json :=
  .obj [(py "command_id", .str command.commandId), (py "mission_id", .str command.missionId),
    (py "action", .str command.action.text), (py "target", .str command.target),
    (py "payload", .obj command.payload),
    (py "expected_revision", optional .int command.expectedRevision),
    (py "deadline_at", optional .str command.deadlineAt),
    (py "correlation_id", optional .str command.correlationId),
    (py "causation_id", optional .str command.causationId)]

def payloadDigest (command : OperatorCommand) : Except PyError PyStr :=
  digest command.asDict

end OperatorCommand

def commandReceiptDigest (receipt : List (PyStr × Json)) : Except PyError PyStr :=
  digest (.obj (receipt.filter fun field => field.1 ≠ py "receipt_digest"))

end OperatorControl

end CyberLion
