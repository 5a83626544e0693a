import ClassTidy.Pattern.Reader.Group
import ClassTidy.Pattern.Reader.Item

/-! Reading whole patterns. -/

namespace ClassTidy.Pattern

namespace Read

def startAnchor : Read Anchor := do
  return if (← get).flags.contains .multiline then .lineStart else .textStart

def endAnchor : Read Anchor := do
  return if (← get).flags.contains .multiline then .lineEnd else .lastLineEnd

mutual

-- Reads alternatives, the ones before them given latest first. The bound falls with each call.
def alternatives (bound : Nat) (top : Bool) (before : List Piece) : Read Piece :=
  match bound with
  | 0 => return .sequence []
  | bound + 1 => do
    let ps ← pieces bound (top && before.isEmpty) []
    let read := Piece.sequence ps.reverse :: before
    if ← accept '|' then alternatives bound top read
    else
      match read.reverse with
      | [] => return .sequence []
      | p :: ps => return .choice p ps

def pieces (bound : Nat) (first : Bool) (before : List Piece) : Read (List Piece) :=
  match bound with
  | 0 => return before
  | bound + 1 => do
    match ← peek with
    | none => return before
    | some (.plain '|') => return before
    | some (.plain ')') => return before
    | some t =>
      let start ← offset
      let _ ← next
      if ← skipLayout t then pieces bound first before else
      match t with
      | .escaped c => pieces bound first ((← escape c) :: before)
      | .plain '[' => pieces bound first ((← classPiece) :: before)
      | .plain '.' =>
        pieces bound first (.single (.any ((← get).flags.contains .dotAll)) :: before)
      | .plain '^' => pieces bound first (.anchor (← startAnchor) :: before)
      | .plain '$' => pieces bound first (.anchor (← endAnchor) :: before)
      | .plain '(' =>
        let o ← opening start (first && before.isEmpty)
        let branch := Piece.sequence <$> List.reverse <$> pieces bound false []
        let p ← groupPiece (alternatives bound false []) branch start o
        pieces bound first (p.toList ++ before)
      | .plain c =>
        match ← repetition? c with
        | some (least, most) => pieces bound first (← repeatLast start least most before)
        | none => pieces bound first ((← single (codeItem c.toNat)) :: before)
      | .dangling => return before

end

def wholePattern : Read Pattern := do
  refuseDangling
  let r ← get
  let p ← alternatives (2 * r.rest.length + 2) true []
  let r ← get
  if r.flags.contains .ascii && r.flags.contains .unicode then throw (.badValue .mixedAlphabets)
  if r.rest ≠ [] then fail .unbalancedParenthesis 0
  match r.conditions.find? fun (group, _) => group > r.widths.length with
  | some (group, position) => failAt (.invalidReference group) position
  | none =>
    match p.problem with
    | some problem => throw (.malformed ⟨problem, none, r.source⟩)
    | none => return ⟨r.source, r.widths.length, p.node⟩

end Read

def compile (source : Text) : Except Failure Pattern :=
  (Read.wholePattern.run { source := source, rest := Token.ofText source }).map Prod.fst

end ClassTidy.Pattern
