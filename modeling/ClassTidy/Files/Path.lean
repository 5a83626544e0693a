import ClassTidy.Text.Quoted

/-! Paths as lists of names. Empty parts and single dots mean nothing and are left out. -/

namespace ClassTidy

structure Path where
  root : String
  names : List String
deriving DecidableEq, Repr

namespace Path

/-- What an absolute path starts with: one slash, but exactly two are kept. -/
def rootOf : Text → String
  | '/' :: '/' :: '/' :: _ => "/"
  | '/' :: '/' :: _ => "//"
  | '/' :: _ => "/"
  | _ => ""

def ofString (s : String) : Path :=
  let parts := s.toList.splitOn '/'
  ⟨rootOf s.toList, (parts.filter fun p => p ≠ [] ∧ p ≠ ['.']).map String.ofList⟩

def toString (p : Path) : String :=
  let body := "/".intercalate p.names
  if p.root.isEmpty && p.names.isEmpty then "." else p.root ++ body

def parent (p : Path) : Path := { p with names := p.names.dropLast }

end Path

end ClassTidy
