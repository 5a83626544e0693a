import ClassTidy.Conflict.Default
import ClassTidy.Text.Blank

/-! Merging: of classes that compete for one slot the last one stays. -/

namespace ClassTidy.Conflict

def baseOf (cls : Text) : Text :=
  (cls.reverse.takeWhile (· ≠ ':')).reverse

def modifiersOf (cls : Text) : Text :=
  (cls.reverse.dropWhile (· ≠ ':')).reverse

/-- What a class competes for: a property under modifiers, or its own spelling. -/
inductive Slot
  | property (key : Text)
  | spelling (cls : Text)
deriving DecidableEq, Repr

namespace Table

def slot (table : Table) (cls : Text) : Slot :=
  match table.property? (baseOf cls) with
  | some property => .property (modifiersOf cls ++ ':' :: property)
  | none => .spelling cls

def dropOverridden (table : Table) : List Text → List Text
  | [] => []
  | c :: cs =>
    if cs.any fun d => table.slot d == table.slot c then dropOverridden table cs
    else c :: dropOverridden table cs

def merge (table : Table) (t : Text) : Text :=
  Text.unwords (table.dropOverridden (Text.words t))

end Table

end ClassTidy.Conflict
