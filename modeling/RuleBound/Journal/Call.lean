import RuleBound.Journal.Line
import RuleBound.Text.Blank

/-!
Calls on the journal: a caller names a level, a message and named values, and a note comes of it.

Some names are taken by the call itself, so no value can have them. Whatever is told about a
failure, only its last line goes into a JSON line.
-/

namespace RuleBound

/-- Something else than a level that the journal knows by a name. It cannot be called like one. -/
def Note.otherNames : List String := ["operation", "logger", "name", "layer", "_log"]

/-- The level of a call. There is no call for the gravest level. -/
def Level.ofCall (word : Document) : Except Fault Level :=
  match word with
  | .text s =>
    match Level.ofName? s with
    | some .critical | none =>
      .error (if Note.otherNames.contains s then .wrongType else .noPart)
    | some level => .ok level
  | _ => .error .wrongType

/-- The named values of a call; what counts as false stands for none. -/
def Note.namedValues (taken : List String) (d : Document) :
    Except Fault (List (String × Document)) :=
  if !d.isTrue then .ok []
  else
    match d with
    | .object named =>
      if named.any fun v => taken.contains v.1 then .error .wrongType else .ok named
    | _ => .error .wrongType

/-- The note of a message. -/
def Note.ofCall (level : Level) (origin : Origin) (message : String) (context : Document) :
    Except Fault Note := do
  let named ← namedValues ["self", "level", "message"] context
  return ofNamed level origin message named

/-- The note that an operation has ended. -/
def Note.ofEnd (origin : Origin) (operation duration : Document) (success : Bool)
    (context : Document) : Except Fault Note := do
  let named ← namedValues
    ["self", "level", "message", "name", "operation", "duration_ms", "success"] context
  return { ended origin operation.shown duration success named with operation := operation }

/-- The note of a message about a failure with a text. -/
def Note.ofFailure (origin : Origin) (message text : String) (code : Option Document)
    (context : Document) : Except Fault Note := do
  let named ← namedValues ["self", "level", "message", "exc_info"] context
  let named := code.elim named (Document.putField named "error_code")
  let failure := "RuntimeError" ++ (if text = "" then "" else ": " ++ text)
  return { ofNamed .error origin message named with failure := .text (Text.lastLine failure) }

end RuleBound
