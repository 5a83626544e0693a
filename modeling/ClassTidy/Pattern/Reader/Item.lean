import ClassTidy.Pattern.Reader.Escape

/-! Reading character classes and repetition marks. -/

namespace ClassTidy.Pattern.Read

def classAtom : Token → Read ClassItem
  | .escaped c => classEscape c
  | .plain c => return codeItem c.toNat
  | .dangling => return codeItem '\\'.toNat

def rangeItem (first last : ClassItem) (spelling : Text) : Read ClassItem :=
  match first, last with
  | .range a a', .range b b' =>
    if a = a' ∧ b = b' ∧ a ≤ b then return .range a b
    else fail (.badRange spelling) spelling.length
  | _, _ => fail (.badRange spelling) spelling.length

def classItems (start : Nat) : Nat → List ClassItem → Read (List ClassItem)
  | 0, _ => failAt .unterminatedClass start
  | bound + 1, items => do
    match ← next with
    | none => failAt .unterminatedClass start
    | some t =>
      if t = .plain ']' ∧ items ≠ [] then return items
      let first ← classAtom t
      if ← accept '-' then
        match ← next with
        | none => failAt .unterminatedClass start
        | some u =>
          if u = .plain ']' then return codeItem '-'.toNat :: first :: items
          let last ← classAtom u
          let item ← rangeItem first last (t.spelling ++ '-' :: u.spelling)
          classItems start bound (item :: items)
      else classItems start bound (first :: items)

def classPiece : Read Piece := do
  let start := (← offset) - 1
  let negated ← accept '^'
  let items ← classItems start ((← get).rest.length + 1) []
  return .single (.one ⟨negated, items.reverse⟩ (← caseRule))

def countLimit : Nat := 4294967295

def count (ds : Text) : Read (Option Nat) := do
  if ds.isEmpty then return none
  if ds.length > Text.digitLimit then throw (.badValue (.tooManyDigits ds.length))
  let n := numeral 10 ds
  if n ≥ countLimit then throw .countTooLarge
  return some n

-- Reads the counts behind an opening brace. Gives nothing, and takes nothing, if the brace is a
-- character of its own.
def counts : Read (Option (Nat × Option Nat)) := do
  let before ← get
  if (← peek) = some (.plain '}') then return none
  let least ← digits
  let most ← if ← accept ',' then digits else pure least
  if ← accept '}' then
    let low ← count least
    let high ← count most
    if high.any (· < low.getD 0) then failAt .leastAboveMost before.offset
    return some (low.getD 0, high)
  else
    set before
    return none

def repetition? (c : Char) : Read (Option (Nat × Option Nat)) := do
  match c with
  | '?' => return some (0, some 1)
  | '*' => return some (0, none)
  | '+' => return some (1, none)
  | '{' => counts
  | _ => return none

def greed : Read Greed := do
  if ← accept '?' then return .lazy
  else if ← accept '+' then return .possessive
  else return .greedy

def repeatLast (start least : Nat) (most : Option Nat) : List Piece → Read (List Piece)
  | [] => failAt .nothingToRepeat start
  | p :: done =>
    match p.form with
    | .anchor => failAt .nothingToRepeat start
    | .repetition => failAt .multipleRepeat start
    | .plain => do
      let allowed := !(← get).flags.contains .template
      return p.iterate least most (← greed) allowed :: done

end ClassTidy.Pattern.Read
