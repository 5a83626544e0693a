import ClassTidy.Json.Basic
import ClassTidy.Sorting

/-! Writing JSON, with sorted fields. -/

namespace ClassTidy.Json

def shortEscape? : Char → Option Char
  | '\n' => some 'n'
  | '\r' => some 'r'
  | '\t' => some 't'
  | '\x08' => some 'b'
  | '\x0c' => some 'f'
  | _ => none

def writeChar (c : Char) : Text :=
  if c = '\x22' ∨ c = '\\' then ['\\', c]
  else
    match shortEscape? c with
    | some e => ['\\', e]
    | none => if c.toNat < 0x20 then '\\' :: 'u' :: Text.hexDigits 4 c.toNat else [c]

def writeString (s : String) : Text :=
  '\x22' :: s.toList.flatMap writeChar ++ ['\x22']

def writeInt (n : Int) : Text :=
  if n < 0 then '-' :: Nat.toDigits 10 n.natAbs else Nat.toDigits 10 n.natAbs

def writeFloat (x : Float) : Text :=
  match Decimal.Binary.ofFloat x with
  | .notANumber => "NaN".toList
  | .infinite negative => if negative then "-Infinity".toList else "Infinity".toList
  | .finite negative m e narrowBelow => Decimal.writeFinite negative m e narrowBelow

structure Layout where
  padding : Nat → Text
  between : Nat → Text
  afterKey : Text

def Layout.compact : Layout where
  padding _ := []
  between _ := [',']
  afterKey := [':']

def Layout.indented : Layout where
  padding depth := '\n' :: List.replicate (2 * depth) ' '
  between depth := ',' :: '\n' :: List.replicate (2 * depth) ' '
  afterKey := [':', ' ']

def Layout.enclose (layout : Layout) (depth : Nat) (first last : Char) (items : List Text) : Text :=
  if items.isEmpty then [first, last]
  else first :: layout.padding (depth + 1) ++ (layout.between (depth + 1)).intercalate items ++
    layout.padding depth ++ [last]

mutual

def write (layout : Layout) (depth : Nat) : Json → Text
  | null => "null".toList
  | bool b => if b then "true".toList else "false".toList
  | int n => writeInt n
  | float x => writeFloat x
  | str s => writeString s
  | list items => layout.enclose depth '[' ']' (writeItems layout (depth + 1) items)
  | object fields =>
    let written := sortBy (fun a b => decide (a.1 ≤ b.1)) (writeFields layout (depth + 1) fields)
    layout.enclose depth '\x7b' '\x7d' (written.map Prod.snd)

def writeItems (layout : Layout) (depth : Nat) : List Json → List Text
  | [] => []
  | v :: vs => write layout depth v :: writeItems layout depth vs

def writeFields (layout : Layout) (depth : Nat) : List (String × Json) → List (String × Text)
  | [] => []
  | (k, v) :: fields =>
    (k, writeString k ++ layout.afterKey ++ write layout depth v) :: writeFields layout depth fields

end

def compact (v : Json) : Text := write .compact 0 v

def indented (v : Json) : Text := write .indented 0 v

end ClassTidy.Json
