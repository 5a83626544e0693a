import ClassTidy.Text.Basic

/-! Parentheses in source text, those between quotes left out. -/

namespace ClassTidy.Source

def isQuote (c : Char) : Bool := c = '\x22' || c = '\x27' || c = '\x60'

inductive ParenError
  | unbalanced (index : Int)
  | outOfRange
deriving DecidableEq, Repr

def ParenError.message : ParenError → String
  | unbalanced index => "Unbalanced parenthesis at offset " ++ toString index
  | outOfRange => "string index out of range"

-- The number of characters before the first opening parenthesis that has no backslash before it.
-- `previous` is the character before the text.
def openFrom? : (previous : Option Char) → Text → Option Nat
  | _, [] => none
  | previous, c :: t =>
    if c = '(' ∧ previous ≠ some '\\' then some 0
    else (openFrom? (some c) t).map (· + 1)

def openParen? (t : Text) (start stop : Int) : Option Nat :=
  let first := Text.position t.length start
  let previous := if first = 0 then none else t[first - 1]?
  (openFrom? previous (Text.slice t start stop)).map (first + ·)

/-- Where a scan for a closing parenthesis stands: between quotes or not, with `depth` inner
parentheses open. -/
inductive Scan
  | code (depth : Nat)
  | quoted (quote : Char) (depth : Nat)
  | escaped (quote : Char) (depth : Nat)
deriving DecidableEq, Repr

def Scan.step : Scan → Char → Option Scan
  | code depth, c =>
    if isQuote c then some (quoted c depth)
    else if c = '(' then some (code (depth + 1))
    else if c = ')' then
      match depth with
      | 0 => none
      | d + 1 => some (code d)
    else some (code depth)
  | quoted q depth, c =>
    if c = '\\' then some (escaped q depth)
    else if c = q then some (code depth)
    else some (quoted q depth)
  | escaped q depth, _ => some (quoted q depth)

def Scan.run : Scan → Text → Option Nat
  | _, [] => none
  | s, c :: t =>
    match s.step c with
    | none => some 0
    | some s' => (run s' t).map (· + 1)

def closeFrom? (t : Text) : Option Nat := (Scan.code 0).run t

def closeParen (t : Text) (index : Int) : Except ParenError Int :=
  match Text.readFrom t (index + 1) with
  | none => .error .outOfRange
  | some rest =>
    match closeFrom? rest with
    | some n => .ok (index + 1 + n)
    | none => .error (.unbalanced index)

end ClassTidy.Source
