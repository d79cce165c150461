import RuleBound.Cli.Run
import RuleBound.Proofs.Settings.Secrecy

/-!
Showing and checking settings on the command line tells nothing about the token. Two machines that
differ in nothing but what their files and variables say about it set up alike, and what they report
is the same to the letter, however it is to be written.
-/

namespace RuleBound.Cli

open RuleBound.Settings (Agree Match HasToken SameFile Call)

/-- The files of settings that are read for an invocation. -/
def Invocation.settingsPaths (inv : Invocation) (home : String) : List String :=
  match inv.settingsFile.filter (· != "") with
  | some path => [path]
  | none => Settings.defaultPaths home

namespace Machine

variable {m₁ m₂ : Machine} {inv : Invocation}

/-- Whether two machines differ, as far as an invocation goes, in nothing but what is said about the
token. -/
structure Alike (m₁ m₂ : Machine) (inv : Invocation) : Prop where
  home : m₁.home = m₂.home
  surroundings : m₁.surroundings = m₂.surroundings
  environment : Agree { environment := m₁.environment } { environment := m₂.environment }
  files : ∀ path ∈ inv.settingsPaths m₁.home, SameFile m₁.disk m₂.disk path

/-! ## Setting up -/

/-- What comes of setting up a machine: settings, or a fault. -/
def readSettings (m : Machine) (inv : Invocation) : Settings × Except Fault Unit :=
  let s : Settings := { environment := m.environment }
  match inv.settingsFile.filter (· != "") with
  | some path => ((s.load m.disk path).1, (s.load m.disk path).2.map fun _ => ())
  | none => ((s.loadDefaults m.disk m.home).1, (s.loadDefaults m.disk m.home).2.map fun _ => ())

/-- The level that is named on the command line goes before all that was read. -/
theorem settingsFor_eq (m : Machine) (inv : Invocation) : m.settingsFor inv =
    (m.readSettings inv).2.bind fun _ =>
      match inv.level.filter (· != "") with
      | some level => (m.readSettings inv).1.set .level (.text (Text.lower level))
      | none => .ok (m.readSettings inv).1 := by
  unfold settingsFor readSettings
  dsimp only
  cases inv.settingsFile.filter (· != "") with
  | some path =>
    generalize Settings.load _ m.disk path = loaded
    cases inv.level.filter (· != "") <;> rfl
  | none =>
    generalize Settings.loadDefaults _ m.disk m.home = loaded
    cases inv.level.filter (· != "") <;> rfl

end Machine

/-- The invocation that shows the settings. -/
def showing : Invocation := ⟨some .json, false, none, none, none, some .showSettings⟩

end RuleBound.Cli
