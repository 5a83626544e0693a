import ClassTidy.Pattern.CharClass

/-! Search patterns as trees. -/

namespace ClassTidy.Pattern

inductive Anchor
  | textStart
  | textEnd
  | lineStart
  | lineEnd
  | lastLineEnd
  | wordEdge (alphabet : Alphabet)
  | noWordEdge (alphabet : Alphabet)
deriving DecidableEq, Repr

/-- How a repetition chooses its count: as many as possible, as few as possible, or as many as
possible without ever giving one back. -/
inductive Greed
  | greedy
  | lazy
  | possessive
deriving DecidableEq, Repr

inductive Node
  | empty
  | one (cls : CharClass) (rule : CaseRule)
  | any (lineEnd : Bool)
  | anchor (anchor : Anchor)
  | seq (first second : Node)
  | alt (first second : Node)
  | iterate (body : Node) (least : Nat) (most : Option Nat) (greed : Greed)
  | capture (group : Nat) (body : Node)
  | atomic (body : Node)
  | again (group : Nat) (rule : CaseRule)
  | ifCaptured (group : Nat) (yes no : Node)
  | lookAhead (positive : Bool) (body : Node)
  | lookBehind (positive : Bool) (width : Nat) (body : Node)
deriving DecidableEq, Repr

end Pattern

structure Pattern where
  source : Text
  groups : Nat
  node : Pattern.Node
deriving DecidableEq, Repr

end ClassTidy
