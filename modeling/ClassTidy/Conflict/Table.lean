import ClassTidy.Text.Basic

/-! Conflict tables: which classes set the same property. -/

namespace ClassTidy.Conflict

structure Table where
  exact : List (Text × Text)
  beginnings : List (Text × Text)

def setEntry (key property : Text) : List (Text × Text) → List (Text × Text)
  | [] => [(key, property)]
  | (k, p) :: entries =>
    if k = key then (key, property) :: entries else (k, p) :: setEntry key property entries

namespace Table

def isBeginning (name : Text) : Bool := name.getLast? == some '-'

def entries (rules : List (Text × List Text)) : List (Text × Text) :=
  rules.flatMap fun (property, names) => names.map fun name => (name, property)

def ofRules (rules : List (Text × List Text)) : Table where
  exact := (entries rules).filter fun entry => !isBeginning entry.1
  beginnings := (entries rules).filter fun entry => isBeginning entry.1

def insert (table : Table) (property name : Text) : Table :=
  if isBeginning name then
    { table with beginnings := setEntry name property table.beginnings }
  else { table with exact := setEntry name property table.exact }

def addRule (table : Table) (rule : Text × List Text) : Table :=
  rule.2.foldl (fun t name => t.insert rule.1 name) table

def isNameChar (c : Char) : Bool := c.isAlphanum || c = '-'

/-- The part before a value in square brackets, with its hyphen, if the base has such a value at its
end. The part is made of letters, digits and hyphens, and the value is not empty. -/
def beforeValue? (base : Text) : Option Text :=
  let (name, bracketed) := base.span (· ≠ '[')
  let value := (bracketed.drop 1).takeWhile (· ≠ ']')
  if name.all isNameChar && name.length ≥ 2 && name.getLast? == some '-' &&
      !value.isEmpty && bracketed.drop (value.length + 1) == [']'] then some name
  else none

def longer (a b : Text × Text) : Text × Text :=
  if a.1.length < b.1.length then b else a

def byBeginning? (table : Table) (name : Text) : Option Text :=
  match table.beginnings.filter fun entry => entry.1.isPrefixOf name with
  | [] => none
  | entry :: entries => some (entries.foldl longer entry).2

def property? (table : Table) (base : Text) : Option Text :=
  let found :=
    if base.isEmpty then none
    else
      match table.exact.lookup base with
      | some property => some property
      | none => table.byBeginning? ((beforeValue? base).getD base)
  found.filter fun property => !property.isEmpty

end Table

end ClassTidy.Conflict
