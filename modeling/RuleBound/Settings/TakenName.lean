import RuleBound.Fault

/-!
Names that are taken: what groups of settings have beside their settings.

Such a name is known, so it is no unknown key, but what it names holds no settings and cannot be
read as a group. One of them names the kind that a group is of; it is read as a group without
settings, so only an empty object may stand for it.
-/

namespace RuleBound.Settings

/-- The name of the kind of a group. -/
def kindName : String := "__class__"

/-- What every group has. -/
def commonNames : List String :=
  ["__annotations__", "__class__", "__dataclass_fields__", "__dataclass_params__", "__delattr__",
    "__dict__", "__dir__", "__doc__", "__eq__", "__format__", "__ge__", "__getattribute__",
    "__getstate__", "__gt__", "__hash__", "__init__", "__init_subclass__", "__le__", "__lt__",
    "__match_args__", "__module__", "__ne__", "__new__", "__reduce__", "__reduce_ex__", "__repr__",
    "__setattr__", "__sizeof__", "__str__", "__subclasshook__", "__weakref__"]

/-- What the kind of a group has besides. -/
def kindOnlyNames : List String :=
  ["__base__", "__bases__", "__basicsize__", "__call__", "__dictoffset__", "__flags__",
    "__instancecheck__", "__itemsize__", "__mro__", "__name__", "__or__", "__prepare__",
    "__qualname__", "__ror__", "__subclasscheck__", "__subclasses__", "__text_signature__",
    "__weakrefoffset__", "mro"]

/-- What the whole has besides its groups. -/
def wholeNames : List String := ["to_dict", "to_yaml"]

/-- Read fields as those of the kind of a group at a path, where `own` is what this kind has by
itself. -/
def applyKind (path : String) (own : List String) : List (String × Document) → Except Fault Unit
  | [] => .ok ()
  | (name, _) :: _ =>
    if (own ++ commonNames ++ kindOnlyNames).contains name then
      .error (.settings (.notSection (path ++ name)))
    else .error (.settings (.unknownKey (path ++ name)))

/-- Read the value of a name at a path that is no setting and no group. -/
def applyTaken (path : String) (own : List String) (name : String) (d : Document) :
    Except Fault Unit :=
  match d with
  | .object fields =>
    if name = kindName then applyKind (path ++ kindName ++ ".") own fields else refuse
  | _ => refuse
where
  /-- A name that is taken is no group; any other is unknown. -/
  refuse : Except Fault Unit :=
    if (own ++ commonNames).contains name then .error (.settings (.notSection (path ++ name)))
    else .error (.settings (.unknownKey (path ++ name)))

end RuleBound.Settings
