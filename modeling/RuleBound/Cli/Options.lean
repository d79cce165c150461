import RuleBound.Document.Basic
import RuleBound.Text.DecimalDigit

/-!
The grammar of command lines: options, their values and operands.

An option may be written in full, cut short as long as it stays unambiguous, or as a single
letter; letters may be written together. Its value follows as the next argument, behind an equals
sign or, for a letter, at once. Two hyphens alone end the options; written as the value of an option
they leave it with an empty list, which any option takes. An argument that looks like a negative
number is no option.
-/

namespace RuleBound.Cli

/-- What an option does. -/
inductive OptionKind
  | flag
  | value
  | help
  | version
  deriving DecidableEq, Repr

/-- An option: the key under which it is recorded, and how it is written. -/
structure OptionForm where
  key : String
  names : List String
  kind : OptionKind := .value
  deriving DecidableEq, Repr

/-- What a command line takes beside options. -/
inductive Operand
  | none
  /-- One argument, recorded under a key. -/
  | one (key : String)
  /-- A command with arguments of its own, which end the line. -/
  | command
  deriving DecidableEq, Repr

/-- A grammar: options, an operand, and which values are acceptable for a key. -/
structure Grammar where
  forms : List OptionForm
  operand : Operand
  accepts : String → String → Bool := fun _ _ => true

/-- Why a command line is not carried out. -/
inductive Stop
  | misused
  | help
  | version
  deriving DecidableEq, Repr

/-- An argument as the grammar sees it. -/
inductive Word
  | plain (text : String)
  /-- Two hyphens alone. -/
  | ending
  | unknown
  /-- An option with what is written at once behind its name. -/
  | option (form : OptionForm) (isLetter : Bool) (inline : Option String)
  deriving DecidableEq, Repr

/-- What has been read from a command line. -/
structure Taken where
  values : List (String × Document) := []
  operand : Option String := .none
  /-- The arguments behind a command. -/
  rest : List String := []
  /-- Whether something had no place. -/
  leftover : Bool := false
  deriving DecidableEq, Repr

namespace Taken

/-- The value of a key; the last one counts. -/
def value? (t : Taken) (key : String) : Option Document :=
  (t.values.reverse.find? fun v => v.1 == key).map Prod.snd

/-- The text that is the value of a key; an empty list is none. -/
def text? (t : Taken) (key : String) : Option String := (t.value? key).bind Document.asText?

/-- Whether a flag was given. -/
def has (t : Taken) (key : String) : Bool := (t.value? key).isSome

/-- Record a value. -/
def record (t : Taken) (key : String) (value : Document) : Taken :=
  { t with values := t.values ++ [(key, value)] }

end Taken

/-! ## Single arguments -/

/-- Whether an argument is a negative number: decimal digits of any script with or without a point
among them, perhaps followed by a line feed. -/
def isNegativeNumber (arg : String) : Bool :=
  match arg.toList with
  | '-' :: cs =>
    let whole := cs.takeWhile Text.isDecimal
    match cs.dropWhile Text.isDecimal with
    | [] | ['\n'] => !whole.isEmpty
    | '.' :: fraction =>
      let rest := fraction.dropWhile Text.isDecimal
      fraction.head?.any Text.isDecimal && (rest == [] || rest == ['\n'])
    | _ => false
  | _ => false

/-- Split an argument at the first equals sign. -/
def splitEquals (arg : String) : String × Option String :=
  let cs := arg.toList
  if cs.contains '=' then
    (String.ofList (cs.takeWhile (· != '=')),
      some (String.ofList ((cs.dropWhile (· != '=')).drop 1)))
  else (arg, none)

namespace Grammar

/-- The option of a name. -/
def form? (g : Grammar) (name : String) : Option OptionForm :=
  g.forms.find? fun f => f.names.contains name

/-- The options that a name, cut short, may mean, once for each of their names. -/
def candidates (g : Grammar) (start : String) : List OptionForm :=
  g.forms.flatMap fun f =>
    (f.names.filter fun n => start.toList.isPrefixOf n.toList).map fun _ => f

/-- An argument that begins with two hyphens and is no full name. -/
def longWord (g : Grammar) (arg : String) : Except Stop Word :=
  let (start, inline) := splitEquals arg
  match g.candidates start with
  | [f] => .ok (.option f false inline)
  | [] => if arg.toList.contains ' ' then .ok (.plain arg) else .ok .unknown
  | _ => .error .misused

/-- An argument that begins with one hyphen and is no full name. -/
def letterWord (g : Grammar) (arg : String) : Word :=
  match g.form? (String.ofList (arg.toList.take 2)) with
  | some f => .option f true (some (String.ofList (arg.toList.drop 2)))
  | none =>
    if isNegativeNumber arg || arg.toList.contains ' ' then .plain arg else .unknown

/-- Whether the name of an option is a single letter. -/
def isLetterName (name : String) : Bool := "--".toList.isPrefixOf name.toList == false

/-- One argument. -/
def word (g : Grammar) (arg : String) : Except Stop Word :=
  if arg.toList.head? != some '-' || arg = "-" then .ok (.plain arg)
  else
    match g.form? arg with
    | some f => .ok (.option f (isLetterName arg) none)
    | none =>
      let (name, inline) := splitEquals arg
      match g.form? name, inline with
      | some f, some v => .ok (.option f (isLetterName name) (some v))
      | _, _ => if isLetterName arg then .ok (g.letterWord arg) else g.longWord arg

/-- All arguments, each beside the way it was written. -/
def words (g : Grammar) : List String → Except Stop (List (String × Word))
  | [] => .ok []
  | "--" :: rest => .ok (("--", .ending) :: rest.map fun a => (a, .plain a))
  | arg :: rest => do
    let w ← g.word arg
    return (arg, w) :: (← words g rest)

/-! ## Whole lines -/

/-- Letters written together: each but the last has to be one without a value; what follows a
letter with a value is its value. -/
def letters (g : Grammar) : OptionForm → List Char → Except Stop (List (OptionForm × Option String))
  | f, [] => .ok [(f, none)]
  | f, c :: rest =>
    if f.kind = .value then .ok [(f, some (String.ofList (c :: rest)))]
    else
      match g.form? (String.ofList ['-', c]) with
      | some next => (letters g next rest).map ((f, none) :: ·)
      | none => .error .misused

/-- The options that one argument gives. -/
def steps (g : Grammar) (f : OptionForm) (isLetter : Bool) (inline : Option String) :
    Except Stop (List (OptionForm × Option String)) :=
  match inline with
  | none => .ok [(f, none)]
  | some v =>
    if f.kind = .value then .ok [(f, some v)]
    else if isLetter && v != "" then g.letters f v.toList
    else .error .misused

/-- Whether the last of some options still needs its value. -/
def needsValue (steps : List (OptionForm × Option String)) : Bool :=
  steps.getLast?.any fun s => s.1.kind == .value && s.2.isNone

/-- Carry out options one after the other; `next` is the value of the one that has none yet. -/
def perform (g : Grammar) (next : String) :
    Taken → List (OptionForm × Option String) → Except Stop Taken
  | t, [] => .ok t
  | t, (f, inline) :: rest =>
    match f.kind with
    | .help => .error .help
    | .version => .error .version
    | .flag => perform g next (t.record f.key .null) rest
    | .value =>
      let v := inline.getD next
      if v = "--" then perform g next (t.record f.key (.list [])) rest
      else if g.accepts f.key v then perform g next (t.record f.key (.text v)) rest
      else .error .misused

/-- Take an operand. -/
def takeOperand (g : Grammar) (t : Taken) (key value : String) : Except Stop Taken :=
  if g.accepts key value then .ok { t with operand := some value } else .error .misused

/-- Read words until they end, or a command takes the rest. Two hyphens beside an operand go with
it. -/
def readWords (g : Grammar) : List (String × Word) → Taken → Except Stop Taken
  | [], t => .ok t
  | (raw, .plain text) :: rest, t =>
    match g.operand, t.operand with
    | .command, _ => .ok { t with operand := some raw, rest := rest.map Prod.fst }
    | .one key, none =>
      match g.takeOperand t key text with
      | .error stop => .error stop
      | .ok t =>
        match rest with
        | (_, .ending) :: rest => readWords g rest t
        | rest => readWords g rest t
    | _, _ => readWords g rest { t with leftover := true }
  | (_, .ending) :: (raw, .plain text) :: rest, t =>
    match g.operand, t.operand with
    | .command, _ => .error .misused
    | .one key, none =>
      match g.takeOperand t key text with
      | .error stop => .error stop
      | .ok t => readWords g rest t
    | _, _ => readWords g ((raw, .plain text) :: rest) { t with leftover := true }
  | (_, .ending) :: rest, t =>
    if g.operand = .command then .error .misused
    else readWords g rest { t with leftover := true }
  | (_, .unknown) :: rest, t => readWords g rest { t with leftover := true }
  | (_, .option f isLetter inline) :: rest, t =>
    match g.steps f isLetter inline with
    | .error stop => .error stop
    | .ok steps =>
      if needsValue steps then
        match rest with
        | (_, .plain next) :: rest =>
          match g.perform next t steps with
          | .error stop => .error stop
          | .ok t => readWords g rest t
        | _ => .error .misused
      else
        match g.perform "" t steps with
        | .error stop => .error stop
        | .ok t => readWords g rest t
termination_by words => words.length

/-- Read a command line. -/
def read (g : Grammar) (args : List String) : Except Stop Taken := do
  g.readWords (← g.words args) {}

end Grammar

end RuleBound.Cli
