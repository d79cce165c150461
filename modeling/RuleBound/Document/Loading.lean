import RuleBound.Document.Coercion
import RuleBound.Text.LetterCase
import RuleBound.Disk

/-!
Documents in files. The end of a file's name says whether it holds YAML; anything else is JSON.
-/

namespace RuleBound.Document

/-- The last part of a path. -/
def lastSegment (path : String) : List Char := ((Path.steps path).getLastD "").toList

/-- The end of a file's name from its last point on. A point at either end of the name starts no
such end. -/
def fileEnding (path : String) : String :=
  let name := lastSegment path
  let ending := (name.reverse.takeWhile (· != '.')).reverse
  if ending.isEmpty || name.length ≤ ending.length + 1 then "" else String.ofList ('.' :: ending)

/-- Whether a file's name says that it holds YAML. -/
def namesYaml (path : String) : Bool :=
  let ending := Text.lower (fileEnding path)
  ending == ".yaml" || ending == ".yml"

/-- Read a file's bytes as a document, by the file's name. -/
def ofFile (path : String) (content : Bytes) : Except Fault Document :=
  match Text.fromUtf8 content with
  | .error defect => .error (.notUtf8 defect)
  | .ok s => if namesYaml path then parseYaml s else parse s

end RuleBound.Document
