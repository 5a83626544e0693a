import ClassTidy.Pattern.CharClass
import ClassTidy.Pattern.Error
import ClassTidy.Pattern.Token
import ClassTidy.Text.Identifier

/-! The state of reading a pattern, and its elementary steps. -/

namespace ClassTidy.Pattern

inductive Flag
  | ignoreCase
  | multiline
  | dotAll
  | verbose
  | ascii
  | unicode
  | locale
  | template
deriving DecidableEq, Repr

namespace Flag

def ofChar? : Char → Option Flag
  | 'i' => some ignoreCase
  | 'm' => some multiline
  | 's' => some dotAll
  | 'x' => some verbose
  | 'a' => some ascii
  | 'u' => some unicode
  | 'L' => some locale
  | 't' => some template
  | _ => none

def isAlphabet : Flag → Bool
  | ascii | unicode | locale => true
  | _ => false

def combine (flags on off : List Flag) : List Flag :=
  let kept := if on.any isAlphabet then flags.filter fun f => !f.isAlphabet else flags
  (on ++ kept).filter fun f => !off.contains f

end Flag

structure Reader where
  source : Text
  rest : List Token
  offset : Nat := 0
  flags : List Flag := []
  names : List (Text × Nat) := []
  /-- Least and greatest width of each group in order, `none` while the group is open. -/
  widths : List (Option (Nat × Nat)) := []
  lookBehindFrom : Option Nat := none
  /-- The groups that conditions ask for by number, with the places of the first ones that do. -/
  conditions : List (Nat × Nat) := []

abbrev Read := StateT Reader (Except Failure)

namespace Read

def failAt {α : Type} (problem : Problem) (position : Nat) : Read α := do
  let r ← get
  throw (.malformed ⟨problem, some position, r.source⟩)

def fail {α : Type} (problem : Problem) (back : Nat) : Read α := do
  let r ← get
  failAt problem (r.offset - back)

def offset : Read Nat := do
  return (← get).offset

-- The reader looks one token ahead: a backslash at the very end is refused as soon as it comes next.
def refuseDangling : Read Unit := do
  match (← get).rest with
  | .dangling :: _ => fail .danglingEscape 0
  | _ => pure ()

def peek : Read (Option Token) := do
  return (← get).rest.head?

def moveTo (rest : List Token) (width : Nat) : Read Unit := do
  modify fun r => { r with rest := rest, offset := r.offset + width }
  refuseDangling

def next : Read (Option Token) := do
  match (← get).rest with
  | [] => return none
  | t :: rest =>
    moveTo rest t.spelling.length
    return some t

def accept (c : Char) : Read Bool := do
  if (← peek) = some (.plain c) then
    let _ ← next
    return true
  else return false

def takeUpTo (limit : Nat) (p : Char → Bool) : Read Text := do
  let r ← get
  let taken := Token.plainRun p (r.rest.take limit)
  moveTo (r.rest.drop taken.length) taken.length
  return taken

def digits : Read Text := do
  takeUpTo (← get).rest.length Char.isDigit

def moveToEnd : Read Unit := do
  let r ← get
  moveTo [] (r.rest.flatMap Token.spelling).length
  if r.rest.getLast? = some .dangling then fail .danglingEscape 1

def nameUntil (terminator : Char) (missing : Problem) : Read Text := do
  let r ← get
  match Token.cutAt terminator r.rest with
  | some (name, rest) =>
    moveTo rest (name.length + 1)
    if name.isEmpty then fail missing 1
    return name
  | none =>
    moveToEnd
    let name := r.rest.flatMap Token.spelling
    if name.isEmpty then fail missing 0
    fail (.unterminatedName terminator) name.length

def groupName (terminator : Char) : Read Text := do
  let name ← nameUntil terminator .missingName
  if !Text.isIdentifier name then fail (.badName name) (name.length + 1)
  return name

def alphabet : Read Alphabet := do
  return if (← get).flags.contains .ascii then .ascii else .unicode

def caseRule : Read CaseRule := do
  let flags := (← get).flags
  if !flags.contains .ignoreCase then return .exact
  return if flags.contains .ascii then .foldedAscii else .folded

def layout : List Char := [' ', '\t', '\n', '\r', '\x0b', '\x0c']

def skipLayout (t : Token) : Read Bool := do
  if !(← get).flags.contains .verbose then return false
  match t with
  | .plain '#' =>
    match Token.cutAt '\n' (← get).rest with
    | some (skipped, rest) => moveTo rest (skipped.length + 1)
    | none => moveToEnd
    return true
  | .plain c => return layout.contains c
  | _ => return false

end Read

end ClassTidy.Pattern
