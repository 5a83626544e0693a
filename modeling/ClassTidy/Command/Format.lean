import ClassTidy.Command.Outcome
import ClassTidy.Format.Options
import ClassTidy.Json.Writer

/-! The command that formats class lists, given as arguments or one on a line. -/

namespace ClassTidy.Command.Format

def manual : Manual where
  program := "classlist-format"
  usage := "usage: classlist-format [-h] [--groups GROUPS] [--json] [--debug] [values ...]\n"
  description := unlines [
    "Sort and deduplicate utility-class lists (one list per argument or stdin",
    "line).",
    "",
    "positional arguments:",
    "  values           Class lists to format. When omitted, one class list is read",
    "                   per stdin line.",
    "",
    "options:",
    "  -h, --help       show this help message and exit",
    "  --groups GROUPS  JSON file with a list of \x7bname, matchers\x7d group definitions",
    "                   (replaces the defaults).",
    "  --json           Emit one JSON object per value: \x7binput, output, changed\x7d.",
    "  --debug          Enable DEBUG logging on stderr."]
  switches := [Switch.help, ⟨["--groups"], true⟩, ⟨["--json"], false⟩, ⟨["--debug"], false⟩]
  positional := "values"
  arity := .any

def asOptions : Json → Json
  | .list items => .object [("groupDefinitions", .list items)]
  | v => v

def loadOptions (tree : Tree) (p : Path) : Except Failure FormatOptions := do
  (FormatOptions.ofJson (asOptions (← loadJson tree p))).mapError .shape

def loadFormatter (tree : Tree) (groups : Option String) : Except Failure (Formatter Empty) := do
  let options ← match groups with
    | none => pure {}
    | some p => loadOptions tree (.ofString p)
  (Formatter.ofGroups options.groups .default).mapError .setup

def formatOne (f : Formatter Empty) (value : Text) : Option Text :=
  match f.format value with
  | .ok new => new

def outputLine (f : Formatter Empty) (asJson : Bool) (value : Text) : String :=
  let new := formatOne f value
  let result := String.ofList (new.getD value)
  if asJson then
    String.ofList (Json.object [
      ("input", .str (String.ofList value)), ("output", .str result),
      ("changed", .bool new.isSome)]).compact
  else result

def valuesOf (a : Arguments) (input : Utf8.Bytes) : Except Failure (List Text) :=
  if a.positionals.isEmpty then
    ((Utf8.readText input).mapError fun e => .text (.decode e)).map linesOf
  else .ok (a.positionals.map String.toList)

def runWith (a : Arguments) (env : Environment) : Outcome :=
  match loadFormatter env.tree (a.value? "--groups") with
  | .error f => failToLoad manual env.tree f.subject f
  | .ok formatter =>
    match valuesOf a env.input with
    | .error f => { tree := env.tree, status := .error f }
    | .ok values =>
      { output := unlines (values.map (outputLine formatter (a.has "--json"))), tree := env.tree,
        status := .ok 0 }

def run (arguments : List String) (env : Environment) : Outcome :=
  match manual.readArguments arguments with
  | .error r => refuse manual env.tree r
  | .ok a => runWith a env

end ClassTidy.Command.Format
