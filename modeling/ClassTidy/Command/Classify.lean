import ClassTidy.Command.Outcome

/-! The command that shows the group and base of each token of a class list. -/

namespace ClassTidy.Command.Classify

def manual : Manual where
  program := "classlist-debug-print"
  usage := "usage: classlist-debug-print [-h] value\n"
  description := unlines [
    "positional arguments:",
    "  value       Class list to classify.",
    "",
    "options:",
    "  -h, --help  show this help message and exit"]
  switches := [Switch.help]
  positional := "value"
  arity := .one

def padEnd (width : Nat) (s : String) : String :=
  s ++ String.ofList (List.replicate (width - s.length) ' ')

def padStart (width : Nat) (s : String) : String :=
  String.ofList (List.replicate (width - s.length) ' ') ++ s

def tokenLine (r : Registry) (t : Text) : String :=
  let parts := r.normalize t
  let name := (r[parts.weight]?.map Group.name).getD "(unclassified)"
  padStart 2 (toString parts.weight) ++ " " ++ padEnd 14 name ++ " base=" ++
    Text.quoted parts.base ++ (if parts.important then " !important" else "") ++ " :: " ++
    String.ofList t

def lines (r : Registry) (value : Text) : List String :=
  let tokens := Text.words (Text.collapse value)
  ["tokens=" ++ toString tokens.length ++ " groups=" ++ toString r.length, "",
    "-- TOKENS (sorted) --"] ++ (r.sortTokens tokens).map (tokenLine r)

def run (arguments : List String) (env : Environment) : Outcome :=
  match manual.readArguments arguments with
  | .error r => refuse manual env.tree r
  | .ok a =>
    { output := unlines (lines .default (a.positionals.headD "").toList), tree := env.tree,
      status := .ok 0 }

end ClassTidy.Command.Classify
