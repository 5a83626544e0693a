import ClassTidy.Command.Arguments
import ClassTidy.Json.Reader
import ClassTidy.Lint.File

/-! What running a command gives, and how commands load options from files. -/

namespace ClassTidy.Command

inductive Failure
  | text (error : TextError)
  | json (error : Json.ReadError)
  | shape (error : ShapeError)
  | setup (error : SetupError)

namespace Failure

def message : Failure → String
  | text e => e.message
  | json e => e.message
  | shape e => e.message
  | setup e => e.message

/-- Whether a command that loads options says what is wrong and ends. A value without fields, and a
pattern that counts too far, stop it instead. -/
def isReported : Failure → Bool
  | text _ => true
  | json _ => true
  | shape (.noFields _) => false
  | shape .infiniteNumber => false
  | shape (.missingField _) => false
  | shape _ => true
  | setup (.pattern _) => true
  | setup .countTooLarge => false
  | setup (.badValue _) => true

def subject : Failure → String
  | setup (.pattern _) => "pattern"
  | _ => "config"

end Failure

structure Environment where
  tree : Tree
  input : Utf8.Bytes := []

structure Outcome where
  output : String := ""
  errors : String := ""
  tree : Tree
  status : Except Failure Nat

def unlines (lines : List String) : String :=
  String.join (lines.map fun l => l ++ "\n")

def loadJson (tree : Tree) (p : Path) : Except Failure Json := do
  let t ← (tree.readText p).mapError .text
  (Json.parse t (some Text.digitLimit)).mapError .json

def linesOf (t : Text) : List Text :=
  let lines := t.splitOn '\n'
  if lines.getLast? = some [] then lines.dropLast else lines

def refuse (m : Manual) (tree : Tree) : Refusal → Outcome
  | .help => { output := m.usage ++ "\n" ++ m.description, tree, status := .ok 0 }
  | r =>
    { errors := m.usage ++ m.program ++ ": error: " ++ r.message ++ "\n", tree, status := .ok 2 }

def failToLoad (m : Manual) (tree : Tree) (subject : String) (f : Failure) : Outcome :=
  if f.isReported then
    { errors := m.program ++ ": invalid " ++ subject ++ ": " ++ f.message ++ "\n", tree,
      status := .ok 1 }
  else { tree, status := .error f }

end ClassTidy.Command
