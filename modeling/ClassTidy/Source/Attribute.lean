import ClassTidy.Source.Literal
import ClassTidy.Text.Alphanumeric
import ClassTidy.Text.Blank

/-! Class attributes with a fixed value. -/

namespace ClassTidy.Source

inductive AttributeForm
  | plain
  | braced
deriving DecidableEq, Repr

def joinsName (c : Char) : Bool :=
  Text.isWordChar c || c = ':' || c = '.' || c = '@' || c = '-'

def skipBlanks (t : Text) : Text := t.dropWhile Text.isBlank

def afterName? (t : Text) : Option Text :=
  if "className".toList.isPrefixOf t then some (t.drop 9)
  else if "class".toList.isPrefixOf t then some (t.drop 5)
  else none

def afterChar? (c : Char) (t : Text) : Option Text :=
  match skipBlanks t with
  | d :: rest => if d = c then some rest else none
  | [] => none

def AttributeForm.allows : AttributeForm → (quote c : Char) → Bool
  | plain, quote, c => c ≠ quote
  | braced, quote, c => c ≠ quote && c ≠ '\\' && !(quote = '\x60' && c = '$')

def AttributeForm.quotes : AttributeForm → Char → Bool
  | plain, c => c = '\x22' || c = '\x27'
  | braced, c => isQuote c

def quotedValue? (form : AttributeForm) : Text → Option (Text × Text)
  | [] => none
  | quote :: t =>
    if form.quotes quote then
      match t.span (form.allows quote) with
      | (value, c :: rest) => if c = quote then some (value, rest) else none
      | (_, []) => none
    else none

def valueStart? (form : AttributeForm) (t : Text) : Option Text := do
  let t ← afterChar? '=' (← afterName? t)
  match form with
  | .plain => return skipBlanks t
  | .braced => return skipBlanks (← afterChar? '\x7b' t)

def valueEnd? (form : AttributeForm) (t : Text) : Option Text :=
  match form with
  | .plain => some t
  | .braced => afterChar? '\x7d' t

def attributeAt? (form : AttributeForm) (t : Text) : Option (Span × Nat) := do
  let opened ← valueStart? form t
  let (value, rest) ← quotedValue? form opened
  let rest ← valueEnd? form rest
  let start := t.length - opened.length + 1
  return (⟨start, start + value.length⟩, t.length - rest.length)

-- The values of the attributes from an offset on, the next `skip` characters left out as starts.
-- `previous` is the character before.
def attributesFrom (form : AttributeForm) :
    (previous : Option Char) → (offset skip : Nat) → Text → List Span
  | _, _, _, [] => []
  | _, i, skip + 1, c :: t => attributesFrom form (some c) (i + 1) skip t
  | previous, i, 0, c :: t =>
    match if previous.any joinsName then none else attributeAt? form (c :: t) with
    | some (span, length) =>
      span.shift i :: attributesFrom form (some c) (i + 1) (length - 1) t
    | none => attributesFrom form (some c) (i + 1) 0 t

def attributes (t : Text) : List Span :=
  attributesFrom .plain none 0 0 t ++ attributesFrom .braced none 0 0 t

end ClassTidy.Source
