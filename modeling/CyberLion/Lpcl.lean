import CyberLion.CanonicalProcessIR

/-!
# LPCL

`process_language/lpcl.py`: the surface syntax over the canonical Process IR,
with one JSON payload per statement line.
-/

namespace CyberLion

open PyLib ProcessIR

namespace Lpcl

def header : PyStr := py "LPCL 1.0"

def endMarker : PyStr := py "END"

/-- `_STATEMENTS`: the name of a statement and the field it carries. -/
def statements : List (PyStr × PyStr) :=
  [(py "PROCESS", py "process_id"), (py "MISSION", py "mission_ref"),
    (py "GOAL", py "goal_ref"), (py "SCOPE", py "scope"),
    (py "INITIAL", py "initial_state"), (py "STATES", py "states"),
    (py "DEPENDENCIES", py "dependencies"), (py "TRANSITIONS", py "transitions"),
    (py "SCHEDULING", py "scheduling_policy"),
    (py "TERMINATION", py "termination_policy"), (py "LINEAGE", py "lineage")]

/-- `class LPCLParseError(ValueError)`. -/
def parseErrorClass : ErrorClass :=
  .declared .valueError (py "LPCLParseError")

def parseError (text : PyStr) : PyError :=
  ⟨parseErrorClass, text⟩

def parseValue (raw : PyStr) : Except PyError Json :=
  rethrow (isForeignError parseErrorClass)
    (fun _ => parseError (py "LPCL statement payload must be strict JSON"))
    (Json.loads (strictHooks parseError) raw)

/-- The loop over the statement lines, with the fields already read. -/
def parseStatements (seen : List (PyStr × Json)) :
    List PyStr → Except PyError (List (PyStr × Json))
  | [] => .ok seen
  | line :: lines => do
    let (name, separator, raw) := partition 0x20 line
    match separator, statements.lookup name with
    | true, some field => do
      raiseIf (field ∈ seen.map Prod.fst)
        (parseError (py "duplicate LPCL statement: " ++ name))
      let value ← parseValue raw
      parseStatements (seen ++ [(field, value)]) lines
    | _, _ => .error (parseError (py "unknown or malformed LPCL statement: " ++ name))

/-- `str(fields)` for a list of plain names. -/
def namesText (fields : List PyStr) : PyStr :=
  py "[" ++ pyJoin (py ", ") (fields.map fun field => py "'" ++ field ++ py "'") ++ py "]"

def sourceLines (source : PyStr) : List PyStr :=
  ((splitLines source).map strip).filter fun line => line ≠ []

def parseLpcl (source : PyStr) : Except PyError CanonicalProcessIR := do
  let lines := sourceLines source
  raiseIf (lines.head? ≠ some header ∨ lines.getLast? ≠ some endMarker)
    (parseError (py "LPCL header or END marker missing"))
  let seen ← parseStatements [] (lines.drop 1).dropLast
  let missing := (statements.map Prod.snd).filter fun field => field ∉ seen.map Prod.fst
  raiseIf (missing ≠ [])
    (parseError (py "missing LPCL statements: " ++ namesText (pySorted missing)))
  rethrow (fun error => error.isInstance contractErrorClass)
    (fun error => parseError error.text)
    (CanonicalProcessIR.fromMapping
      (.obj ((py "schema_version", .str (py "1.0.0")) :: seen)))

def renderStatement (fields : List (PyStr × Json)) (statement : PyStr × PyStr) :
    Except PyError PyStr := do
  let value ← item fields statement.2
  let payload ← Json.dumps false true value
  return statement.1 ++ py " " ++ payload

/-- The fields of `as_dict()`. -/
def objectFields (value : Json) : List (PyStr × Json) :=
  match value with
  | .obj fields => fields
  | _ => []

def renderLpcl (ir : CanonicalProcessIR) : Except PyError PyStr := do
  let _ ← ir.validate
  let value ← ir.asDict
  let lines ← statements.mapM (renderStatement (objectFields value))
  return pyJoin (py "\n") ([header] ++ lines ++ [endMarker]) ++ py "\n"

end Lpcl

end CyberLion
