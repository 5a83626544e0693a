import ClassTidy.Text.Basic
import ClassTidy.Text.CharTable
import ClassTidy.Text.CharacterNameTable

/-! Characters by their names in Unicode 14. -/

namespace ClassTidy.Text

namespace CharacterName

/-! ### The table

A name is a list of words. Its record is a header, which says how many words it shares with the front and
with the end of the name before it, and the words in between, joined by low lines. Headers and frequent
pairs of symbols are spelled by two characters, all other symbols by one. -/

def firstHeader : Nat := 128

def firstPair : Nat := 177

def jump : Nat := 48

-- Line ends and the blanks behind them are layout.
def isLayout (c : Char) : Bool := c == ' ' || c == '\n'

def symbols (leading trailing : Text) : Text → List Nat
  | [] => []
  | [c] => [c.toNat]
  | c :: d :: rest =>
    match leading.idxOf? c with
    | none => c.toNat :: symbols leading trailing (d :: rest)
    | some i => (firstHeader + i * trailing.length + trailing.idxOf d) :: symbols leading trailing rest

def expand (pairs : Array (List Nat)) (symbol : Nat) : List Nat :=
  if symbol < firstPair then [symbol] else pairs.getD (symbol - firstPair) []

def expandPairs : Array (List Nat) → List Nat → Array (List Nat)
  | pairs, a :: b :: rest => expandPairs (pairs.push (expand pairs a ++ expand pairs b)) rest
  | pairs, _ => pairs

def records (header : Nat) (text : Text) : List Nat → List (Nat × Text)
  | [] => [(header, text.reverse)]
  | symbol :: rest =>
    if symbol < firstHeader then records header (Char.ofNat symbol :: text) rest
    else (header, text.reverse) :: records (symbol - firstHeader) [] rest

def wordsOf (t : Text) : List Text :=
  if t.isEmpty then [] else t.splitOn '_'

-- Looks for a name among records; `code` is the code point of the next name and `before` the name that
-- was read last.
def find? (name : List Text) : (code : Nat) → (before : List Text) → List (Nat × Text) → Option Nat
  | _, _, [] => none
  | code, before, (header, text) :: rest =>
    if header = jump then find? name (Nat.ofDigitChars 10 text 0) before rest
    else
      let found := before.take (header / 6) ++ wordsOf text ++ before.drop (before.length - header % 6)
      if found = name then some code else find? name (code + 1) found rest

def ofTable? (name : Text) : Option Nat :=
  let read := fun (code : String) =>
    symbols leadingChars.toList trailingChars.toList (code.toList.filter fun c => !isLayout c)
  let pairs := expandPairs #[] (read pairCode)
  let all := records 0 [] ((read nameCode).flatMap (expand pairs))
  find? (name.splitOn ' ') 0 [] (all.drop 1)

/-! ### Names that follow a rule -/

def hexDigit? (c : Char) : Option Nat :=
  if c.isDigit then some (c.toNat - '0'.toNat)
  else if 'A' ≤ c && c ≤ 'F' then some (c.toNat - 'A'.toNat + 10)
  else none

def hexValue? (t : Text) : Option Nat :=
  t.foldlM (fun n c => (hexDigit? c).map fun d => n * 16 + d) 0

def numbered? (start : String) (table : CharTable) (name : Text) : Option Nat :=
  if start.toList.isPrefixOf name then
    (hexValue? (name.drop start.length)).filter table.contains
  else none

def ideographTable : CharTable :=
  [(0x3400, 0x4dbf), (0x4e00, 0x9fff), (0x20000, 0x2a6df), (0x2a700, 0x2b738), (0x2b740, 0x2b81d),
   (0x2b820, 0x2cea1), (0x2ceb0, 0x2ebe0), (0x30000, 0x3134a)]

def ideographStart : String := "CJK UNIFIED IDEOGRAPH-"

-- Here alone a leading zero may stand before four digits.
def ideograph? (name : Text) : Option Nat :=
  if name.length = 26 || name.length = 27 then numbered? ideographStart ideographTable name else none

def numberedStarts : List (String × CharTable) :=
  [("CJK COMPATIBILITY IDEOGRAPH-", [(0xf900, 0xfa6d), (0xfa70, 0xfad9), (0x2f800, 0x2fa1d)]),
   ("KHITAN SMALL SCRIPT CHARACTER-", [(0x18b00, 0x18cd5)]),
   ("NUSHU CHARACTER-", [(0x1b170, 0x1b2fb)])]

def ofNumber? (name : Text) : Option Nat :=
  numberedStarts.findSome? fun (start, table) =>
    (numbered? start table name).filter fun n =>
      name.length = start.length + (if n < 0x10000 then 4 else 5)

def leadConsonants : List String :=
  ["G", "GG", "N", "D", "DD", "R", "M", "B", "BB", "S", "SS", "", "J", "JJ", "C", "K", "T", "P", "H"]

def vowels : List String :=
  ["A", "AE", "YA", "YAE", "EO", "E", "YEO", "YE", "O", "WA", "WAE", "OE", "YO", "U", "WEO", "WE", "WI",
   "YU", "EU", "YI", "I"]

def finalConsonants : List String :=
  ["", "G", "GG", "GS", "N", "NJ", "NH", "D", "L", "LG", "LM", "LB", "LS", "LT", "LP", "LH", "M", "B",
   "BS", "S", "SS", "NG", "J", "C", "K", "T", "P", "H"]

def syllableStart : String := "HANGUL SYLLABLE "

def syllable? (name : Text) : Option Nat :=
  let sounds := name.drop syllableStart.length
  leadConsonants.zipIdx.findSome? fun (lead, i) =>
    vowels.zipIdx.findSome? fun (vowel, j) =>
      finalConsonants.zipIdx.findSome? fun (final, k) =>
        if (lead ++ vowel ++ final).toList = sounds then
          some (0xac00 + (i * vowels.length + j) * finalConsonants.length + k)
        else none

def selector? (name : Text) : Option Nat :=
  match name with
  | 'V' :: 'S' :: digits =>
    let n := Nat.ofDigitChars 10 digits 0
    if digits.all Char.isDigit && (toString n).toList = digits && 1 ≤ n && n ≤ 256 then
      some (if n ≤ 16 then 0xfe00 + n - 1 else 0xe0100 + n - 17)
    else none
  | _ => none

end CharacterName

open CharacterName

-- The code point of a name. Only syllables and ideographs have to be spelled in capital letters.
def characterNamed? (name : Text) : Option Nat :=
  if syllableStart.toList.isPrefixOf name then syllable? name
  else if ideographStart.toList.isPrefixOf name then ideograph? name
  else
    let name := name.map Char.toUpper
    (ofNumber? name).or ((selector? name).or (ofTable? name))

end ClassTidy.Text
