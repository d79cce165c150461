import RuleBound.Settings.Setting
import RuleBound.Settings.TakenName
import RuleBound.Document.Loading
import RuleBound.Document.Yaml
import RuleBound.Disk

/-!
The settings in force: what was set by hand or read from files, over which the variables of the
environment prevail.

Reading a file sets its values one after the other. A value that is turned down ends the reading;
what was set before it stays.
-/

namespace RuleBound

/-- What was set, and the variables of the environment. -/
structure Settings where
  overrides : List (Setting × Document) := []
  environment : List (String × String) := []
  deriving DecidableEq, Inhabited

namespace Settings

/-- What was set, if anything. -/
def override? (s : Settings) (k : Setting) : Option Document :=
  (s.overrides.find? fun o => o.1 == k).map Prod.snd

/-- The text of a variable. -/
def variableText? (s : Settings) (name : String) : Option String :=
  (s.environment.find? fun v => v.1 == name).map Prod.snd

/-- The value that holds for a setting. -/
def get (s : Settings) (k : Setting) : Except Fault Document :=
  Setting.resolve k.default (s.override? k) (s.variableText? k.variableName)

/-- Set a value that has been checked; null means that nothing is set. -/
def put (s : Settings) (k : Setting) (d : Document) : Settings :=
  let others := s.overrides.filter fun o => o.1 != k
  { s with overrides := if d = .null then others else (k, d) :: others }

/-- Set a value if it is acceptable. -/
def set (s : Settings) (k : Setting) (d : Document) : Except Fault Settings := do
  if ← k.accepts d then return s.put k d
  else throw (.settings (.declined d.shown))

/-- The setting of a path that a caller names. -/
def settingAt (path : Document) : Except Fault Setting :=
  match path with
  | .text path =>
    match Setting.ofPath? path with
    | some k => .ok k
    | none => .error (.settings (.noSuchPath path))
  | _ => .error .noPart

/-- Drop all that was set. -/
def reset (s : Settings) : Settings := { s with overrides := [] }

/-! ## Reading documents -/

/-- Set the values of one group, one after the other until one fails. -/
def applyGroup (group : String) :
    Settings → List (String × Document) → Settings × Except Fault Unit
  | s, [] => (s, .ok ())
  | s, (name, d) :: rest =>
    match Setting.ofName? group name with
    | none =>
      match applyTaken (group ++ ".") [] name d with
      | .error f => (s, .error f)
      | .ok () => applyGroup group s rest
    | some k =>
      match s.set k d with
      | .error f => (s, .error f)
      | .ok s => applyGroup group s rest

/-- Set the values of all groups, one after the other until one fails. -/
def apply : Settings → List (String × Document) → Settings × Except Fault Unit
  | s, [] => (s, .ok ())
  | s, (name, d) :: rest =>
    if Setting.groups.contains name then
      match d with
      | .object fields =>
        match applyGroup name s fields with
        | (s, .ok ()) => apply s rest
        | (s, .error f) => (s, .error f)
      | _ => (s, .error (.settings (.notSection name)))
    else
      match applyTaken "" wholeNames name d with
      | .error f => (s, .error f)
      | .ok () => apply s rest

/-- What is noted about a file that was read. -/
def loadedNote (path : String) : Note where
  level := .debug
  origin := .settings
  message := "Loaded configuration"
  operation := .text "load"
  context := [("path", .text path)]

/-- The document in a file of settings. -/
def documentAt (disk : Disk) (path : String) : Except Fault Document :=
  match disk.exists? path with
  | .error fault => .error (.disk fault)
  | .ok false => .error (.settings (.noFile path))
  | .ok true =>
    match disk.read path with
    | .error fault => .error (.disk fault)
    | .ok content =>
      match Text.fromUtf8 content with
      | .error defect => .error (.notUtf8 defect)
      | .ok text =>
        match Document.parseYaml text with
        | .ok d => .ok d
        | .error (.notYaml _) => .error (.settings (.notYaml path))
        | .error f => .error f

/-- Read a file of settings. An empty document sets nothing. -/
def load (s : Settings) (disk : Disk) (path : String) : Settings × Except Fault Note :=
  let path := Path.normal path
  match documentAt disk path with
  | .error f => (s, .error f)
  | .ok d =>
    if !d.isTrue then (s, .ok (loadedNote path))
    else
      match d with
      | .object fields =>
        let (s, result) := s.apply fields
        (s, result.map fun _ => loadedNote path)
      | _ => (s, .error (.settings (.notMapping path)))

/-- The files that are read if none is named, below the home directory and the current one. -/
def defaultPaths (home : String) : List String :=
  [Path.join home ".rdo/config.yaml", "config/rdo.yaml", "rdo.yaml"]

/-- Read a file if it is there, and tell whether it is. -/
def loadIfPresent (disk : Disk) (s : Settings) (path : String) : Settings × Except Fault Bool :=
  match disk.exists? path with
  | .error fault => (s, .error (.disk fault))
  | .ok false => (s, .ok false)
  | .ok true =>
    let (s, result) := s.load disk path
    (s, result.map fun _ => true)

/-- Read those of some files that are there, and tell which. -/
def loadPresent (disk : Disk) : Settings → List String → Settings × Except Fault (List String)
  | s, [] => (s, .ok [])
  | s, path :: rest =>
    match loadIfPresent disk s path with
    | (s, .error f) => (s, .error f)
    | (s, .ok found) =>
      let (s, result) := loadPresent disk s rest
      (s, result.map fun paths => if found then path :: paths else paths)

/-- Read the default files that are there. -/
def loadDefaults (s : Settings) (disk : Disk) (home : String) :
    Settings × Except Fault (List String) :=
  loadPresent disk s (defaultPaths home)

/-! ## Showing and checking -/

/-- What is shown in place of a secret. -/
def hidden : Document := .text "***"

/-- The value of a setting as it is shown. -/
def shownValue (s : Settings) (hide : Bool) (k : Setting) : Except Fault Document := do
  let d ← s.get k
  return if hide && k.isSecret && d.isTrue then hidden else d

/-- All settings as a document of groups. -/
def toDocument (s : Settings) (hide : Bool) : Except Fault Document := do
  let group (name : String) : Except Fault (String × Document) := do
    let members ← (Setting.all.filter fun k => k.group == name).mapM fun k =>
      (s.shownValue hide k).map fun d => (k.name, d)
    return (name, .object members)
  return .object (← Setting.groups.mapM group)

/-- All settings as YAML, without secrets. -/
def toYaml (s : Settings) : Except Fault String := (s.toDocument true).map Document.toYaml

/-- What is wrong with the value of a setting. -/
def defect? (s : Settings) (k : Setting) : Option String :=
  let checked : Except Fault (Option String) := do
    let d ← s.get k
    return if ← k.accepts d then none else some ("validation failed for value " ++ d.shown)
  match checked with
  | .ok none => none
  | .ok (some text) => some (k.path ++ ": " ++ text)
  | .error f => some (k.path ++ ": " ++ f.message)

/-- What is wrong with the settings in force. -/
def defects (s : Settings) : List String := Setting.all.filterMap s.defect?

end Settings

end RuleBound
