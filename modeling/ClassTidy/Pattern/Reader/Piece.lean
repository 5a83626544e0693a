import ClassTidy.Pattern.Basic
import ClassTidy.Pattern.Error

/-! The pieces of a pattern while it is read. -/

namespace ClassTidy.Pattern

inductive Form
  | plain
  | anchor
  | repetition
deriving DecidableEq, Repr

/-- A node with the least and the greatest number of characters that it takes, and the first problem in
it that is told only when the whole source has been read. -/
structure Piece where
  node : Node
  least : Nat
  greatest : Nat
  form : Form := .plain
  problem : Option Problem := none

def Greed.name : Greed → String
  | greedy => "MAX_REPEAT"
  | lazy => "MIN_REPEAT"
  | possessive => "POSSESSIVE_REPEAT"

namespace Piece

def widthLimit : Nat := 1 <<< 64

def lookBehindLimit : Nat := 4294967295

def single (node : Node) : Piece := { node, least := 1, greatest := 1 }

def anchor (a : Anchor) : Piece := { node := .anchor a, least := 0, greatest := 0, form := .anchor }

def chain : List Piece → Node
  | [] => .empty
  | [p] => p.node
  | p :: ps => .seq p.node (chain ps)

def sequence (ps : List Piece) : Piece where
  node := chain ps
  least := min (ps.foldr (fun p n => p.least + n) 0) widthLimit
  greatest := min (ps.foldr (fun p n => p.greatest + n) 0) widthLimit
  problem := ps.findSome? problem

def choice : Piece → List Piece → Piece
  | p, [] => { p with form := .plain }
  | p, q :: qs =>
    let r := choice q qs
    { node := .alt p.node r.node, least := min p.least r.least, greatest := max p.greatest r.greatest,
      problem := p.problem.or r.problem }

def iterate (p : Piece) (least : Nat) (most : Option Nat) (greed : Greed) (allowed : Bool) : Piece where
  node := .iterate p.node least most greed
  least := p.least * least
  greatest := match most with
    | some n => p.greatest * n
    | none => if p.greatest = 0 then 0 else widthLimit
  form := .repetition
  problem := if allowed then p.problem else some (.noRepetition greed.name)

def conditional (group : Nat) (yes : Piece) (no : Option Piece) : Piece :=
  match no with
  | none => { yes with node := .ifCaptured group yes.node .empty, least := 0, form := .plain }
  | some no =>
    { node := .ifCaptured group yes.node no.node, least := min yes.least no.least,
      greatest := max yes.greatest no.greatest, problem := yes.problem.or no.problem }

def lookAhead (positive : Bool) (p : Piece) : Piece :=
  { node := .lookAhead positive p.node, least := 0, greatest := 0, problem := p.problem }

def lookBehind (positive : Bool) (p : Piece) : Piece where
  node := .lookBehind positive p.least p.node
  least := 0
  greatest := 0
  problem :=
    if p.least > lookBehindLimit then some .lookBehindTooLong
    else if p.least ≠ p.greatest then some .variableLookBehind
    else p.problem

end Piece

end ClassTidy.Pattern
