import ClassTidy.Pattern.Reader.Escape

/-! Reading what a parenthesis opens. -/

namespace ClassTidy.Pattern

inductive Opening
  | capture (name : Option Text)
  | plain (flags : List Flag)
  | atomic
  | condition (group : Nat)
  | look (ahead positive : Bool)
  | closed (piece : Option Piece)

namespace Read

def flagOf (t : Token) (otherwise : Problem) : Read Flag :=
  match t with
  | .plain c =>
    match Flag.ofChar? c with
    | some f => return f
    | none => if Text.isLetter c then fail .unknownFlag 1 else fail otherwise 1
  | _ => fail otherwise 2

def turnOn (on : List Flag) (f : Flag) : Read (List Flag) := do
  if f = .locale then fail .localeFlag 0
  if f.isAlphabet && on.any (fun g => g.isAlphabet && g != f) then fail .mixedFlags 0
  return f :: on

def flagsOff : Nat → List Flag → Flag → Read (List Flag)
  | 0, off, _ => return off
  | bound + 1, off, f => do
    if f.isAlphabet then fail .alphabetFlagOff 0
    match ← next with
    | none => fail .missingColon 0
    | some t =>
      if t = .plain ':' then return f :: off
      flagsOff bound (f :: off) (← flagOf t .missingColon)

-- Reads flags whose first letter or sign is `t`. A closing parenthesis makes them flags of the whole
-- pattern, which is allowed only where `atStart` says so; `start` is the place of the group.
def flagGroup (start : Nat) (atStart : Bool) : Nat → List Flag → Token → Read Opening
  | 0, _, _ => failAt .unexpectedEnd start
  | bound + 1, on, t => do
    if t = .plain ')' then
      if !atStart then failAt .misplacedFlags start
      modify fun r => { r with flags := on ++ r.flags }
      return .closed none
    else if t = .plain ':' || t = .plain '-' then
      if on.contains .template then fail .globalFlagOn 1
      if t = .plain ':' then return .plain (Flag.combine (← get).flags on [])
      match ← next with
      | none => fail .missingFlag 0
      | some u =>
        let off ← flagsOff bound [] (← flagOf u .missingFlag)
        if off.contains .template then fail .globalFlagOff 1
        if off.any on.contains then fail .flagOnAndOff 1
        return .plain (Flag.combine (← get).flags on off)
    else
      let on ← turnOn on (← flagOf t .missingFlagsEnd)
      match ← next with
      | none => fail .missingFlagsEnd 0
      | some u => flagGroup start atStart bound on u

def comment (start : Nat) : Read Unit := do
  match Token.cutAt ')' (← get).rest with
  | some (skipped, rest) => moveTo rest (skipped.length + 1)
  | none =>
    moveToEnd
    failAt .unterminatedComment start

def needed : Read Token := do
  match ← next with
  | some t => return t
  | none => fail .unexpectedEnd 0

def groupNamed (name : Text) (position : Nat) : Read Nat := do
  match (← get).names.lookup name with
  | some group => return group
  | none => failAt (.unknownName name) position

def namedOpening : Read Opening := do
  if ← accept '<' then return .capture (some (← groupName '>'))
  else if ← accept '=' then
    let name ← groupName ')'
    let position := (← offset) - (name.length + 1)
    let group ← groupNamed name position
    return .closed (some (← reference group position))
  else
    let t ← needed
    fail (.unknownExtension ('?' :: 'P' :: t.spelling)) (t.spelling.length + 2)

def groupLimit : Nat := 1073741823

def groupNumbered (name : Text) (position : Nat) : Read Nat := do
  match Text.integerValue name with
  | .error _ => failAt (.badName name) position
  | .ok n =>
    if n < 0 then failAt (.badName name) position
    let group := n.toNat
    if group = 0 then failAt .badGroupNumber position
    if group ≥ groupLimit then failAt (.invalidReference group) position
    if ((← get).conditions.lookup group).isNone then
      modify fun r => { r with conditions := r.conditions ++ [(group, position)] }
    return group

def conditionOpening : Read Opening := do
  let name ← nameUntil ')' .missingName
  let position := (← offset) - (name.length + 1)
  let group ← if Text.isIdentifier name then groupNamed name position else groupNumbered name position
  let r ← get
  if r.lookBehindFrom.isSome && ((r.widths[group - 1]?).bind id).isNone then fail .openReference 0
  refuseInLookBehind group
  return .condition group

def lookBehindOpening : Read Opening := do
  let t ← needed
  if t = .plain '=' then return .look false true
  else if t = .plain '!' then return .look false false
  else fail (.unknownExtension ('?' :: '<' :: t.spelling)) (t.spelling.length + 2)

def opening (start : Nat) (atStart : Bool) : Read Opening := do
  if !(← accept '?') then return .capture none
  let t ← needed
  match t with
  | .plain 'P' => namedOpening
  | .plain ':' => return .plain (← get).flags
  | .plain '#' =>
    comment start
    return .closed none
  | .plain '=' => return .look true true
  | .plain '!' => return .look true false
  | .plain '<' => lookBehindOpening
  | .plain '(' => conditionOpening
  | .plain '>' => return .atomic
  | .plain c =>
    if c = '-' || (Flag.ofChar? c).isSome then
      flagGroup start atStart ((← get).rest.length + 2) [] t
    else fail (.unknownExtension ['?', c]) 2
  | t => fail (.unknownExtension ('?' :: t.spelling)) (t.spelling.length + 1)

def openGroup (name : Option Text) : Read Nat := do
  let r ← get
  let group := r.widths.length + 1
  match name with
  | none => set { r with widths := r.widths ++ [none] }
  | some n =>
    match r.names.lookup n with
    | some earlier => fail (.redefinedName n group earlier) (n.length + 1)
    | none => set { r with widths := r.widths ++ [none], names := r.names ++ [(n, group)] }
  return group

def closeGroup (group : Nat) (p : Piece) : Read Piece := do
  modify fun r => { r with widths := r.widths.set (group - 1) (some (p.least, p.greatest)) }
  return { p with node := .capture group p.node, form := .plain }

def conditionPiece (branch : Read Piece) (group : Nat) : Read Piece := do
  let yes ← branch
  if ← accept '|' then
    let no ← branch
    if (← peek) = some (.plain '|') then fail .tooManyBranches 0
    return .conditional group yes (some no)
  else return .conditional group yes none

def groupPiece (body branch : Read Piece) (start : Nat) (o : Opening) : Read (Option Piece) := do
  let close (read : Read Piece) : Read Piece := do
    let p ← read
    if ← accept ')' then return p
    failAt .unterminatedGroup start
  match o with
  | .closed p => return p
  | .capture name =>
    let group ← openGroup name
    closeGroup group (← close body)
  | .plain flags =>
    let outer := (← get).flags
    modify fun r => { r with flags := flags }
    let p ← close body
    modify fun r => { r with flags := outer }
    return some { p with form := .plain }
  | .atomic =>
    let p ← close body
    return some { p with node := .atomic p.node, form := .plain }
  | .condition group => close (conditionPiece branch group)
  | .look true positive => return some (.lookAhead positive (← close body))
  | .look false positive =>
    let outer := (← get).lookBehindFrom
    modify fun r => { r with lookBehindFrom := outer.or (some (r.widths.length + 1)) }
    let p ← close body
    modify fun r => { r with lookBehindFrom := outer }
    return some (.lookBehind positive p)

end Read

end ClassTidy.Pattern
