import ClassTidy.Pattern.Reader.Basic
import ClassTidy.Pattern.Reader.Piece
import ClassTidy.Text.CharacterName

/-! Reading what stands behind a backslash. -/

namespace ClassTidy.Pattern.Read

def isOctal (c : Char) : Bool := '0' ≤ c && c ≤ '7'

def isHexDigit (c : Char) : Bool :=
  c.isDigit || ('a' ≤ c && c ≤ 'f') || ('A' ≤ c && c ≤ 'F')

def digitCode (c : Char) : Nat :=
  if c.isDigit then c.toNat - '0'.toNat
  else if 'a' ≤ c then c.toNat - 'a'.toNat + 10
  else c.toNat - 'A'.toNat + 10

def numeral (base : Nat) (digits : Text) : Nat :=
  digits.foldl (fun n c => n * base + digitCode c) 0

def hexEscape (start : Nat) (c : Char) (count : Nat) : Read Nat := do
  let ds ← takeUpTo count isHexDigit
  let spelling := '\\' :: c :: ds
  if ds.length ≠ count then failAt (.incompleteEscape spelling) start
  let code := numeral 16 ds
  if code > 0x10ffff then failAt (.badEscape spelling) start
  return code

def namedCharacter (start : Nat) : Read Nat := do
  if !(← accept '\x7b') then fail .missingBrace 0
  let name ← nameUntil '\x7d' .missingCharacterName
  match Text.characterNamed? name with
  | some n => return n
  | none => failAt (.undefinedCharacter name) start

def controlEscape? : Char → Option Nat
  | 'a' => some 7
  | 'f' => some 12
  | 'n' => some 10
  | 'r' => some 13
  | 't' => some 9
  | 'v' => some 11
  | _ => none

def codeEscape (start : Nat) (c : Char) : Read Nat := do
  match controlEscape? c with
  | some n => return n
  | none =>
    if c = 'x' then hexEscape start c 2
    else if c = 'u' then hexEscape start c 4
    else if c = 'U' then hexEscape start c 8
    else if c = 'N' then namedCharacter start
    else if c.isAlphanum then failAt (.badEscape ['\\', c]) start
    else return c.toNat

def octalCode (start : Nat) (ds : Text) : Read Nat := do
  let code := numeral 8 ds
  if code > 0o377 then failAt (.octalTooLarge ('\\' :: ds)) start
  return code

def kindEscape? (alphabet : Alphabet) : Char → Option ClassItem
  | 'd' => some (.kind alphabet .digit false)
  | 'D' => some (.kind alphabet .digit true)
  | 's' => some (.kind alphabet .blank false)
  | 'S' => some (.kind alphabet .blank true)
  | 'w' => some (.kind alphabet .word false)
  | 'W' => some (.kind alphabet .word true)
  | _ => none

def anchorEscape? (alphabet : Alphabet) : Char → Option Anchor
  | 'A' => some .textStart
  | 'Z' => some .textEnd
  | 'b' => some (.wordEdge alphabet)
  | 'B' => some (.noWordEdge alphabet)
  | _ => none

def codeItem (n : Nat) : ClassItem := .range n n

def classEscape (c : Char) : Read ClassItem := do
  let start := (← offset) - 2
  match kindEscape? (← alphabet) c with
  | some item => return item
  | none =>
    if c = 'b' then return codeItem 8
    else if isOctal c then
      let ds ← takeUpTo 2 isOctal
      codeItem <$> octalCode start (c :: ds)
    else codeItem <$> codeEscape start c

def single (item : ClassItem) : Read Piece := do
  return .single (.one ⟨false, [item]⟩ (← caseRule))

def refuseInLookBehind (group : Nat) : Read Unit := do
  if (← get).lookBehindFrom.any (· ≤ group) then fail .referenceInLookBehind 0

def reference (group : Nat) (position : Nat) : Read Piece := do
  match (← get).widths[group - 1]? with
  | some (some (least, greatest)) =>
    refuseInLookBehind group
    return { node := .again group (← caseRule), least, greatest }
  | _ => failAt .openReference position

def numberEscape (start : Nat) (c : Char) : Read Piece := do
  let second ← takeUpTo 1 Char.isDigit
  let third ← if isOctal c && second.any isOctal then takeUpTo 1 isOctal else pure []
  if third.isEmpty then
    let group := numeral 10 (c :: second)
    if group ≤ (← get).widths.length then reference group start
    else failAt (.invalidReference group) (start + 1)
  else
    let code ← octalCode start (c :: second ++ third)
    single (codeItem code)

def escape (c : Char) : Read Piece := do
  let start := (← offset) - 2
  match kindEscape? (← alphabet) c, anchorEscape? (← alphabet) c with
  | some item, _ => single item
  | _, some a => return .anchor a
  | none, none =>
    if c = '0' then
      let ds ← takeUpTo 2 isOctal
      single (codeItem (numeral 8 (c :: ds)))
    else if c.isDigit then numberEscape start c
    else
      let code ← codeEscape start c
      single (codeItem code)

end ClassTidy.Pattern.Read
