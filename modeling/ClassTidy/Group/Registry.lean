import ClassTidy.Group.Definition
import ClassTidy.Pattern.Match
import ClassTidy.Setup

/-! Registries: groups in order, with their patterns compiled. -/

namespace ClassTidy

structure Group where
  name : String
  weight : Nat
  patterns : List Pattern

def Group.matches (g : Group) (t : Text) : Bool :=
  g.patterns.any fun p => p.occursIn t

abbrev Registry := List Group

namespace Registry

def compileMatcher (group : String) : Json → Except SetupError Pattern
  | .str source => SetupError.compile source (.badMatcher group source)
  | matcher => .error (.pattern (.matcherNotText group matcher))

def compileGroup (d : GroupDefinition) (weight : Nat) : Except SetupError Group :=
  if d.matchers.isEmpty then .error (.pattern (.noMatchers d.name))
  else (d.matchers.mapM (compileMatcher d.name)).map fun patterns => ⟨d.name, weight, patterns⟩

def compile (definitions : List GroupDefinition) : Except SetupError Registry :=
  definitions.zipIdx.mapM fun (d, weight) => compileGroup d weight

def weight (r : Registry) (t : Text) : Nat :=
  match r.find? fun g => g.matches t with
  | some g => g.weight
  | none => r.length

end Registry

end ClassTidy
