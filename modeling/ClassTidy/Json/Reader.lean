import ClassTidy.Json.Basic
import ClassTidy.Text.Numeral

/-! Reading JSON. -/

namespace ClassTidy.Json

inductive Problem
  | value
  | name
  | colon
  | comma
  | extra
  | unterminated
  | control
  | escape
  | codeEscape
  | byteOrderMark
  | tooManyDigits (count : Nat)
deriving DecidableEq, Repr

def Problem.message : Problem → String
  | value => "Expecting value"
  | name => "Expecting property name enclosed in double quotes"
  | colon => "Expecting ':' delimiter"
  | comma => "Expecting ',' delimiter"
  | extra => "Extra data"
  | unterminated => "Unterminated string starting at"
  | control => "Invalid control character at"
  | escape => "Invalid \\escape"
  | codeEscape => "Invalid \\uXXXX escape"
  | byteOrderMark => "Unexpected UTF-8 BOM (decode using utf-8-sig)"
  | tooManyDigits count => Text.tooManyDigitsMessage count

structure ReadError where
  problem : Problem
  position : Nat
  source : Text
deriving DecidableEq, Repr

-- Lines and columns are counted from one, characters from zero.
def ReadError.message (e : ReadError) : String :=
  match e.problem with
  | .tooManyDigits _ => e.problem.message
  | _ =>
    e.problem.message ++ ": line " ++ toString (Text.lineEndsBefore e.source e.position + 1) ++
      " column " ++ toString (Text.columnOf e.source e.position + 1) ++
      " (char " ++ toString e.position ++ ")"

abbrev Fault := Problem × Nat

abbrev Take (α : Type) := Text → Except Fault (α × Text)

def fault {α : Type} (problem : Problem) (rest : Text) : Except Fault α :=
  .error (problem, rest.length)

def isSpace (c : Char) : Bool := c = ' ' || c = '\t' || c = '\n' || c = '\r'

def skipSpace (t : Text) : Text := t.dropWhile isSpace

/-! ### Texts -/

def hexDigit? (c : Char) : Option Nat :=
  if c.isDigit then some (c.toNat - '0'.toNat)
  else if 'a' ≤ c && c ≤ 'f' then some (c.toNat - 'a'.toNat + 10)
  else if 'A' ≤ c && c ≤ 'F' then some (c.toNat - 'A'.toNat + 10)
  else none

def hexCode? (ds : Text) : Option Nat :=
  if ds.length = 4 then
    ds.foldl (fun n c => n.bind fun n => (hexDigit? c).map fun d => n * 16 + d) (some 0)
  else none

def isHighSurrogate (n : Nat) : Bool := 0xd800 ≤ n && n ≤ 0xdbff

def isLowSurrogate (n : Nat) : Bool := 0xdc00 ≤ n && n ≤ 0xdfff

-- A surrogate that stands alone is replaced by `U+FFFD`.
def charOfCode (n : Nat) : Char :=
  if 0xd800 ≤ n && n ≤ 0xdfff then '\ufffd' else Char.ofNat n

def joinSurrogates (high low : Nat) : Char :=
  Char.ofNat (0x10000 + (high - 0xd800) * 0x400 + (low - 0xdc00))

def takeCode : Take Nat := fun t =>
  let rest := t.drop 1
  if rest.length ≤ 4 then fault .codeEscape t
  else
    match hexCode? (rest.take 4) with
    | some n => .ok (n, rest.drop 4)
    | none => fault .codeEscape t

def takeCodeEscape : Take Char := fun t => do
  let (high, rest) ← takeCode t
  if isHighSurrogate high && rest.length > 6 && rest.take 2 == ['\\', 'u'] then
    let (low, rest') ← takeCode (rest.drop 1)
    if isLowSurrogate low then return (joinSurrogates high low, rest')
  return (charOfCode high, rest)

def simpleEscape? : Char → Option Char
  | '\x22' => some '\x22'
  | '\\' => some '\\'
  | '/' => some '/'
  | 'b' => some '\x08'
  | 'f' => some '\x0c'
  | 'n' => some '\n'
  | 'r' => some '\r'
  | 't' => some '\t'
  | _ => none

def takeEscape (opened : Text) (whole : Text) : Except Fault (Char × Text) :=
  match whole.drop 1 with
  | [] => fault .unterminated opened
  | c :: rest =>
    if c = 'u' then takeCodeEscape (c :: rest)
    else
      match simpleEscape? c with
      | some e => .ok (e, rest)
      | none => fault .escape whole

def takeChars (opened : Text) : Nat → Text → Except Fault (Text × Text)
  | 0, _ => fault .unterminated opened
  | bound + 1, t =>
    match t with
    | [] => fault .unterminated opened
    | c :: rest =>
      if c = '\x22' then .ok ([], rest)
      else if c = '\\' then do
        let (d, rest') ← takeEscape opened (c :: rest)
        let (ds, rest'') ← takeChars opened bound rest'
        return (d :: ds, rest'')
      else if c.toNat < 0x20 then fault .control (c :: rest)
      else do
        let (ds, rest') ← takeChars opened bound rest
        return (c :: ds, rest')

def takeString : Take String := fun t => do
  let (cs, rest) ← takeChars t (t.length + 1) (t.drop 1)
  return (String.ofList cs, rest)

/-! ### Numbers -/

def takeDigits (t : Text) : Text × Text := t.span Char.isDigit

def scientific (m : Nat) (e : Int) : Float :=
  let size := e + (Nat.toDigits 10 m).length
  if m = 0 ∨ size < -400 then 0
  else if size > 400 then 1 / 0
  else if 0 ≤ e then Float.ofScientific m false e.toNat
  else Float.ofScientific m true (-e).toNat

def takeFraction (t : Text) : Option (Text × Text) :=
  match t with
  | '.' :: rest =>
    let (ds, rest') := takeDigits rest
    if ds.isEmpty then none else some (ds, rest')
  | _ => none

def takePower (t : Text) : Option (Int × Text) :=
  match t with
  | e :: rest =>
    if e = 'e' ∨ e = 'E' then
      let (negative, rest') := match rest with
        | '-' :: r => (true, r)
        | '+' :: r => (false, r)
        | r => (false, r)
      let (ds, rest'') := takeDigits rest'
      let n : Int := Nat.ofDigitChars 10 ds 0
      if ds.isEmpty then none else some (if negative then -n else n, rest'')
    else none
  | [] => none

def takeWhole (t : Text) : Option (Text × Text) :=
  match t with
  | '0' :: rest => some (['0'], rest)
  | _ =>
    let (ds, rest) := takeDigits t
    if ds.isEmpty then none else some (ds, rest)

def takeNumber (limit : Option Nat) : Take Json := fun t =>
  let (negative, unsigned) := match t with
    | '-' :: rest => (true, rest)
    | _ => (false, t)
  match takeWhole unsigned with
  | none => fault .value t
  | some (whole, rest) =>
    let fraction := takeFraction rest
    let rest := (fraction.map Prod.snd).getD rest
    let power := takePower rest
    let rest := (power.map Prod.snd).getD rest
    if fraction.isNone && power.isNone then
      let n : Int := Nat.ofDigitChars 10 whole 0
      if limit.any (· < whole.length) then fault (.tooManyDigits whole.length) t
      else .ok (int (if negative then -n else n), rest)
    else
      let places := (fraction.map Prod.fst).getD []
      let m := Nat.ofDigitChars 10 (whole ++ places) 0
      let x := scientific m ((power.map Prod.fst).getD 0 - places.length)
      .ok (float (if negative then -x else x), rest)

/-! ### Values -/

def wordValues : List (Text × Json) :=
  [("null".toList, null), ("true".toList, bool true), ("false".toList, bool false),
   ("NaN".toList, float (0 / 0)), ("Infinity".toList, float (1 / 0)),
   ("-Infinity".toList, float (-1 / 0))]

def takeWord? (t : Text) : Option (Json × Text) :=
  (wordValues.find? fun (w, _) => w.isPrefixOf t).map fun (w, v) => (v, t.drop w.length)

mutual

-- Reads a value. The bound falls with each level and with each item.
def takeValue (limit : Option Nat) (bound : Nat) (t : Text) : Except Fault (Json × Text) :=
  match bound with
  | 0 => fault .value t
  | bound + 1 =>
    match t with
    | '\x22' :: _ => do
      let (s, rest) ← takeString t
      return (str s, rest)
    | '[' :: rest =>
      match skipSpace rest with
      | ']' :: rest => .ok (list [], rest)
      | rest => do
        let (items, rest) ← takeItems limit bound rest
        return (list items, rest)
    | '\x7b' :: rest =>
      match skipSpace rest with
      | '\x7d' :: rest => .ok (object [], rest)
      | rest => do
        let (fields, rest) ← takeFields limit bound rest
        return (ofFields fields, rest)
    | _ =>
      match takeWord? t with
      | some found => .ok found
      | none => takeNumber limit t

def takeItems (limit : Option Nat) (bound : Nat) (t : Text) : Except Fault (List Json × Text) :=
  match bound with
  | 0 => fault .value t
  | bound + 1 => do
    let (v, rest) ← takeValue limit bound t
    match skipSpace rest with
    | ']' :: rest => return ([v], rest)
    | ',' :: rest =>
      let (vs, rest) ← takeItems limit bound (skipSpace rest)
      return (v :: vs, rest)
    | rest => fault .comma rest

def takeFields (limit : Option Nat) (bound : Nat) (t : Text) : Except Fault (List (String × Json) × Text) :=
  match bound with
  | 0 => fault .name t
  | bound + 1 =>
    match t with
    | '\x22' :: _ => do
      let (k, rest) ← takeString t
      match skipSpace rest with
      | ':' :: rest =>
        let (v, rest) ← takeValue limit bound (skipSpace rest)
        match skipSpace rest with
        | '\x7d' :: rest => return ([(k, v)], rest)
        | ',' :: rest =>
          let (fields, rest) ← takeFields limit bound (skipSpace rest)
          return ((k, v) :: fields, rest)
        | rest => fault .comma rest
      | rest => fault .colon rest
    | _ => fault .name t

end

def takeAll (limit : Option Nat) (t : Text) : Except Fault Json :=
  match t with
  | '\ufeff' :: _ => fault .byteOrderMark t
  | _ => do
    let (v, rest) ← takeValue limit (2 * t.length + 2) (skipSpace t)
    match skipSpace rest with
    | [] => return v
    | rest => fault .extra rest

def parse (t : Text) (limit : Option Nat := none) : Except ReadError Json :=
  (takeAll limit t).mapError fun (problem, left) => ⟨problem, t.length - left, t⟩

end ClassTidy.Json
