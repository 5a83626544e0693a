import ClassTidy.Command.Outcome

/-! The command that checks source files and repairs them. -/

namespace ClassTidy.Command.Lint

def manual : Manual where
  program := "classlist-lint"
  usage := unlines [
    "usage: classlist-lint [-h] [--config CONFIG] [--fix] [--out OUT] [--debug]",
    "                      paths [paths ...]"]
  description := unlines [
    "Report (and optionally fix) unsorted utility-class lists in source files.",
    "",
    "positional arguments:",
    "  paths            Source files to check.",
    "",
    "options:",
    "  -h, --help       show this help message and exit",
    "  --config CONFIG  JSON options file: classRegex, groupDefinitions,",
    "                   attributes, debug.",
    "  --fix            Rewrite files with the formatted class lists.",
    "  --out OUT        Optional JSON report file path.",
    "  --debug          Enable DEBUG logging on stderr."]
  switches := [Switch.help, ⟨["--config"], true⟩, ⟨["--fix"], false⟩, ⟨["--out"], true⟩,
    ⟨["--debug"], false⟩]
  positional := "paths"
  arity := .atLeastOne

def loadOptions (tree : Tree) : Option String → Except Failure LintOptions
  | none => .ok {}
  | some p => do (LintOptions.ofJson (← loadJson tree (.ofString p))).mapError .shape

structure Run where
  results : List LintResult := []
  log : List LogRecord := []
  tree : Tree
  stopped : Option (RunError Empty) := none

def checkAll (o : LintOptions) (fix : Bool) : Tree → List Path → Run
  | tree, [] => { tree }
  | tree, p :: ps =>
    match FileCheck.run o (.default : Resolver Empty) fix tree p with
    | .error e => { tree, stopped := some e }
    | .ok first =>
      let rest := checkAll o fix first.tree ps
      { rest with results := first.result :: rest.results, log := first.log ++ rest.log }

def findingLine (r : LintResult) (f : Finding) : String :=
  r.path.getD "None" ++ ":" ++ toString f.line ++ ":" ++ toString (f.column + 1) ++ ": " ++
    (if r.fixed then "fixed" else "error") ++ ": " ++ f.message ++ " (" ++
    Text.quoted f.original ++ " -> " ++ Text.quoted f.replacement ++ ")"

def errorLine (r : LintResult) (e : LintError) : String :=
  r.path.getD "None" ++ ": " ++ e.code ++ ": " ++ e.message

def findingLines (rs : List LintResult) : List String :=
  rs.flatMap fun r => r.findings.map (findingLine r)

def errorLines (rs : List LintResult) : List String :=
  rs.flatMap fun r => r.errors.map (errorLine r)

def summaryLine (rs : List LintResult) : String :=
  String.ofList (Json.object [
    ("ok", .bool (LintResult.allOk rs)), ("files", .int rs.length),
    ("findings", .int (LintResult.findingCount rs)),
    ("fixed", .int (rs.countP fun r => r.fixed))]).compact

def exitCode (rs : List LintResult) : Nat :=
  if !LintResult.allOk rs then 2
  else if LintResult.findingCount (rs.filter fun r => !r.fixed) > 0 then 1 else 0

def reportTo (tree : Tree) (out : Option String) (rs : List LintResult) : Except FileError Tree :=
  match out with
  | none => .ok tree
  | some p => writeReport tree (.ofString p) rs

def treeWithoutReport (tree : Tree) : Option String → Tree
  | none => tree
  | some p => (tree.makeDirectories (Path.ofString p).parent).1

def finish (run : Run) (logLines : List String) (out : Option String) : Outcome :=
  let errors := unlines (logLines ++ errorLines run.results)
  match reportTo run.tree out run.results with
  | .error e =>
    { output := unlines (findingLines run.results), errors, tree := treeWithoutReport run.tree out,
      status := .error (.text (.file e)) }
  | .ok tree =>
    { output := unlines (findingLines run.results ++ [summaryLine run.results]), errors, tree,
      status := .ok (exitCode run.results) }

def stop (run : Run) (logLines : List String) : RunError Empty → Outcome
  | .setup (.pattern fault) =>
    { errors := unlines (logLines ++ [manual.program ++ ": invalid pattern: " ++ fault.message]),
      tree := run.tree, status := .ok 1 }
  | .setup e => { errors := unlines logLines, tree := run.tree, status := .error (.setup e) }
  | .path e =>
    { errors := unlines logLines, tree := run.tree, status := .error (.text (.file e)) }

def runWith (a : Arguments) (env : Environment) : Outcome :=
  match loadOptions env.tree (a.value? "--config") with
  | .error f => failToLoad manual env.tree "config" f
  | .ok options =>
    let run := checkAll options (a.has "--fix") env.tree (a.positionals.map Path.ofString)
    let logLines :=
      if a.has "--debug" || options.debug then run.log.map LogRecord.line else []
    match run.stopped with
    | some e => stop run logLines e
    | none => finish run logLines (a.value? "--out")

def run (arguments : List String) (env : Environment) : Outcome :=
  match manual.readArguments arguments with
  | .error r => refuse manual env.tree r
  | .ok a => runWith a env

end ClassTidy.Command.Lint
