import RuleBound.Cli.Options
import RuleBound.Registry.Action
import RuleBound.Text.Numeral

/-!
Commands: what a command line asks for.
-/

namespace RuleBound.Cli

/-- How results are written. -/
inductive OutputFormat
  | json
  | yaml
  | text
  deriving DecidableEq, Repr

/-- The format of a name. -/
def OutputFormat.ofName? : String → Option OutputFormat
  | "json" => some .json
  | "yaml" => some .yaml
  | "text" => some .text
  | _ => none

/-- What is asked for. What may be an empty list instead of a text or number is a document. -/
inductive Command
  /-- Compile the intent in a file, at a moment or, if that is null, now. -/
  | compile (intent : String) (now : Document)
  /-- Make a key. -/
  | keygen
  /-- Create an object from the intent in a file, perhaps with content from another. -/
  | create (intent identity : String) (contentFile : Option String)
  /-- Request an action through a link. -/
  | access (link identity : String) (action context : Document)
  /-- Show a record. -/
  | show (id : Int)
  /-- List events, of one object or, if that is null, all. -/
  | events (id : Document)
  /-- Check a refusal again. -/
  | verifyRefusal (reference : String)
  /-- Show the settings. -/
  | showSettings
  /-- Check the settings. -/
  | checkSettings
  /-- Settings were named, but not what to do with them. -/
  | settings
  deriving DecidableEq, Repr

/-- The name of a command. -/
def Command.name : Command → String
  | compile _ _ => "compile"
  | keygen => "keygen"
  | create _ _ _ => "create"
  | access _ _ _ _ => "access"
  | «show» _ => "show"
  | events _ => "events"
  | verifyRefusal _ => "verify-refusal"
  | showSettings | checkSettings | settings => "config"

/-- A command with what holds for all commands. -/
structure Invocation where
  /-- There is none if the option was left with an empty list. -/
  format : Option OutputFormat
  quiet : Bool
  settingsFile : Option String
  stateDirectory : Option String
  level : Option String
  /-- There may be none. -/
  command : Option Command
  deriving DecidableEq, Repr

namespace Invocation

/-! ## Grammars -/

/-- The option that asks for help. -/
def helpForm : OptionForm := ⟨"help", ["-h", "--help"], .help⟩

/-- The option that names who acts. -/
def identityForm : OptionForm := ⟨"identity", ["-i", "--identity"], .value⟩

/-- Whether a text is a whole number. -/
def isInteger (s : String) : Bool := (Text.readInteger? s).isSome

/-- Whether a text names an action. -/
def isAction (s : String) : Bool := (Action.ofName? (Text.upper s)).isSome

/-- The names of the commands. -/
def commandNames : List String :=
  ["compile", "keygen", "create", "access", "show", "events", "verify-refusal", "config"]

/-- What may stand before a command. -/
def mainGrammar : Grammar where
  forms := [helpForm, ⟨"version", ["--version", "-V"], .version⟩,
    ⟨"format", ["--format", "-f"], .value⟩, ⟨"quiet", ["--quiet", "-q"], .flag⟩,
    ⟨"config", ["--config", "-c"], .value⟩, ⟨"state-dir", ["--state-dir", "-s"], .value⟩,
    ⟨"log-level", ["--log-level"], .value⟩]
  operand := .command
  accepts key value := key != "format" || (OutputFormat.ofName? value).isSome

/-- What may stand behind a command. -/
def grammarOf (command : String) : Grammar :=
  match command with
  | "compile" => ⟨[helpForm, ⟨"now", ["--now"], .value⟩], .one "intent",
      fun key value => key != "now" || isInteger value⟩
  | "create" => ⟨[helpForm, identityForm, ⟨"content-file", ["--content-file"], .value⟩],
      .one "intent", fun _ _ => true⟩
  | "access" => ⟨[helpForm, identityForm, ⟨"action", ["--action", "-a"], .value⟩,
      ⟨"context", ["--context"], .value⟩], .one "link",
      fun key value => key != "action" || isAction value⟩
  | "show" => ⟨[helpForm], .one "rdo_id", fun _ value => isInteger value⟩
  | "events" => ⟨[helpForm, ⟨"rdo-id", ["--rdo-id"], .value⟩], .none,
      fun _ value => isInteger value⟩
  | "verify-refusal" => ⟨[helpForm], .one "tx_ref", fun _ _ => true⟩
  | "config" => ⟨[helpForm], .command, fun _ _ => true⟩
  | _ => ⟨[helpForm], .none, fun _ _ => true⟩

/-! ## Reading -/

/-- Something that has to be given. -/
def needed {α : Type} (v : Option α) : Except Stop α :=
  match v with
  | some a => .ok a
  | none => .error .misused

/-- The whole number that a value is; an empty list stays one, and without a value it is null. -/
def integerOf : Option Document → Document
  | some (.text s) => ((Text.readInteger? s).map .integer).getD .null
  | d => d.getD .null

/-- The identity that has to be given; an empty list is a blank one. -/
def identityOf (t : Taken) : Except Stop String :=
  (needed (t.value? "identity")).map fun d => d.asText?.getD ""

/-- The command about settings, and whether something had no place. -/
def settingsCommand (t : Taken) : Except Stop (Command × Bool) :=
  match t.operand with
  | none => .ok (.settings, t.leftover)
  | some name => do
    if name ≠ "show" ∧ name ≠ "validate" then throw .misused
    let inner ← Grammar.read ⟨[helpForm], .none, fun _ _ => true⟩ t.rest
    return (if name = "show" then .showSettings else .checkSettings, t.leftover || inner.leftover)

/-- The command of a name with its arguments, and whether something had no place. -/
def commandOf (name : String) (t : Taken) : Except Stop (Command × Bool) := do
  match name with
  | "compile" => return (.compile (← needed t.operand) (integerOf (t.value? "now")), t.leftover)
  | "keygen" => return (.keygen, t.leftover)
  | "create" =>
    return (.create (← needed t.operand) (← identityOf t) (t.text? "content-file"), t.leftover)
  | "access" =>
    let action : Document := match t.value? "action" with
      | some (.text s) => .text (Text.upper s)
      | d => d.getD (.text "READ")
    return (.access (← needed t.operand) (← identityOf t) action
      ((t.value? "context").getD (.text "")), t.leftover)
  | "show" =>
    match t.operand.bind Text.readInteger? with
    | some id => return (.show id, t.leftover)
    | none => throw .misused
  | "events" => return (.events (integerOf (t.value? "rdo-id")), t.leftover)
  | "verify-refusal" => return (.verifyRefusal (← needed t.operand), t.leftover)
  | _ => settingsCommand t

/-- Read a command line. What has no place makes it misused, unless help is asked for. -/
def ofArguments (args : List String) : Except Stop Invocation := do
  let t ← mainGrammar.read args
  let (command, leftover) ← match t.operand with
    | none => pure (none, t.leftover)
    | some name =>
      if !commandNames.contains name then throw .misused
      let (command, leftover) ← commandOf name (← (grammarOf name).read t.rest)
      pure (some command, leftover || t.leftover)
  if leftover then throw .misused
  return {
    format := match t.value? "format" with
      | some d => d.asText?.bind OutputFormat.ofName?
      | none => some .json
    quiet := t.has "quiet"
    settingsFile := t.text? "config"
    stateDirectory := t.text? "state-dir"
    level := t.text? "log-level"
    command := command }

end Invocation

end RuleBound.Cli
