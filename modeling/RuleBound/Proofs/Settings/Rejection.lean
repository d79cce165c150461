import RuleBound.Proofs.Settings.Course

/-!
Files that are rejected. Reading a file goes through the entries of its document in order, and sets a
value for each that gives one; the first entry that cannot be taken ends the reading. What the entries
in front of it have set stays. So a rejected file leaves all settings as they were exactly if no entry
in front of the one that it is rejected for gives a setting another value, where no variable of the
environment prevails.
-/

namespace RuleBound.Settings

/-! ## The entries of a document -/

/-- An entry of a document of settings: a value under a name in a group, or one outside of groups. -/
inductive Entry
  | inGroup (group name : String) (value : Document)
  | outside (name : String) (value : Document)
  deriving DecidableEq

namespace Entry

/-- The entries of a field of a document: those of a group, or the field itself. -/
def ofField (name : String) (d : Document) : List Entry :=
  if Setting.groups.contains name then
    match d with
    | .object members => members.map fun m => inGroup name m.1 m.2
    | d => [outside name d]
  else [outside name d]

/-- The entries of a document, in order. -/
def ofFields (fields : List (String × Document)) : List Entry :=
  fields.flatMap fun f => ofField f.1 f.2

/-- What an entry gives if it can be taken: a value for a setting, or nothing. A value that its setting
does not accept cannot be taken, nor can a name that is unknown or names no settings. -/
def outcome : Entry → Except Fault (Option (Setting × Document))
  | inGroup group name d =>
    match Setting.ofName? group name with
    | some k => do
      if ← k.accepts d then return some (k, d) else throw (.settings (.declined d.shown))
    | none => (applyTaken (group ++ ".") [] name d).map fun _ => none
  | outside name d =>
    if Setting.groups.contains name then .error (.settings (.notSection name))
    else (applyTaken "" wholeNames name d).map fun _ => none

/-- The value that an entry gives to a setting. -/
def value? (k : Setting) (e : Entry) : Option Document :=
  match e.outcome with
  | .ok (some (k', d)) => if k = k' then some d else none
  | _ => none

/-- The entries in front of the first that cannot be taken. -/
def front (es : List Entry) : List Entry := es.takeWhile fun e => e.outcome.isOk

end Entry

variable {s : Settings} {k : Setting} {d : Document} {f : Fault} {e : Entry} {es : List Entry}

/-- What holds for a setting where others have been set by what is given. -/
theorem ComesOf.get_eq {s' : Settings} {given : Setting → Option Document} (comes : ComesOf s' s given)
    (k : Setting) : s'.get k =
      Setting.resolve k.default ((given k).elim (s.override? k) held)
        (s.variableText? k.variableName) := by
  rw [get, comes.overrides]
  unfold variableText?
  rw [comes.environment]

end RuleBound.Settings
