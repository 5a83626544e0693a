import ClassTidy.Text.Basic

/-! The units in which the source of a pattern is read. -/

namespace ClassTidy.Pattern

inductive Token
  | plain (c : Char)
  | escaped (c : Char)
  | dangling
deriving DecidableEq, Repr

namespace Token

def spelling : Token → Text
  | plain c => [c]
  | escaped c => ['\\', c]
  | dangling => ['\\']

def ofText : Text → List Token
  | [] => []
  | ['\\'] => [dangling]
  | '\\' :: c :: rest => escaped c :: ofText rest
  | c :: rest => plain c :: ofText rest

def plainRun (p : Char → Bool) : List Token → Text
  | plain c :: rest => if p c then c :: plainRun p rest else []
  | _ => []

def cutAt (c : Char) : List Token → Option (Text × List Token)
  | [] => none
  | t :: rest =>
    if t = plain c then some ([], rest)
    else (cutAt c rest).map fun (before, after) => (t.spelling ++ before, after)

end Token

end ClassTidy.Pattern
