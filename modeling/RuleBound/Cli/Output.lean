import RuleBound.Cli.Command
import RuleBound.Document.Yaml
import RuleBound.Document.Display
import RuleBound.Cli.Options

/-!
What the command line writes: results as a page of JSON, as YAML, or as plain lines, and what it
tells about itself, its version and how it is used.
-/

namespace RuleBound.Document

mutual
/-- A document as plain lines: items and fields each on a line of their own. -/
def plainLines : Document → String
  | .list items => "\n".intercalate (itemLines items)
  | .object fields => "\n".intercalate (fields.map fun f => f.1 ++ ": " ++ f.2.shown)
  | d => d.shown

/-- Each item as plain lines. -/
def itemLines : List Document → List String
  | [] => []
  | d :: rest => plainLines d :: itemLines rest
end

end RuleBound.Document

namespace RuleBound.Cli

/-- A result in a format. -/
def OutputFormat.write : OutputFormat → Document → String
  | .json, d => d.toJson .page
  | .yaml, d => d.toYaml
  | .text, d => d.plainLines

/-- The version, with the name of the program. -/
def versionText : String := "rdo 0.3.0\n"

/-- How a command line is put together. -/
def usageText : String :=
  "usage: rdo [-h] [--version] [--format json|yaml|text] [--quiet] [--config FILE]\n" ++
  "           [--state-dir DIR] [--log-level LEVEL] COMMAND ...\n"

/-- All options and commands. -/
def helpText : String := usageText ++
  "\n" ++
  "Rule-bound digital objects: compile, mint and access\n" ++
  "\n" ++
  "commands:\n" ++
  "  compile INTENT [--now SECONDS]      compile an intent document\n" ++
  "  keygen                              generate a content key\n" ++
  "  create INTENT -i IDENTITY [--content-file FILE]\n" ++
  "                                      create an object from an intent document\n" ++
  "  access LINK -i IDENTITY [-a ACTION] [--context TEXT]\n" ++
  "                                      request an action through a capability link\n" ++
  "  show ID                             show a registry record\n" ++
  "  events [--rdo-id ID]                list registry events\n" ++
  "  verify-refusal REFERENCE            verify a refusal proof\n" ++
  "  config show|validate                show or check the configuration\n"

/-- What a command line that is not carried out writes, as output and beside it. -/
def Stop.texts : Stop → String × String
  | .misused => ("", usageText)
  | .help => (helpText, "")
  | .version => (versionText, "")

end RuleBound.Cli
