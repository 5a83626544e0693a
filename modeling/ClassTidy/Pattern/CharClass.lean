import ClassTidy.Text.Alphanumeric
import ClassTidy.Text.Blank
import ClassTidy.Text.DecimalDigit
import ClassTidy.Text.Lowercase

/-! Character classes. Members are code points, so a class may also name some that are no characters. -/

namespace ClassTidy.Pattern

inductive Alphabet
  | unicode
  | ascii
deriving DecidableEq, Repr

inductive CharKind
  | digit
  | blank
  | word
deriving DecidableEq, Repr

def CharKind.contains : Alphabet → CharKind → Char → Bool
  | .unicode, digit, c => Text.isDecimalDigit c
  | .unicode, blank, c => Text.isBlank c
  | .unicode, word, c => Text.isWordChar c
  | .ascii, digit, c => c.isDigit
  | .ascii, blank, c => c == ' ' || ('\t' ≤ c && c ≤ '\r')
  | .ascii, word, c => c.isAlphanum || c == '_'

/-- How the case of letters matters: it does, it does not, or it does not for the letters of an
alphabet without accents. -/
inductive CaseRule
  | exact
  | folded
  | foldedAscii
deriving DecidableEq, Repr

-- Code points that count as `n`, which counts as itself too.
def CaseRule.variants : CaseRule → Nat → List Nat
  | exact, _ => []
  | folded, n => Text.caseVariants n
  | foldedAscii, n =>
    if (Char.ofNat n).isUpper then [n + 0x20] else if (Char.ofNat n).isLower then [n - 0x20] else []

def CaseRule.lower (rule : CaseRule) (c : Char) : Char :=
  match rule with
  | exact => c
  | folded => Text.lowerChar c
  | foldedAscii => c.toLower

inductive ClassItem
  | range (first last : Nat)
  | kind (alphabet : Alphabet) (kind : CharKind) (outside : Bool)
deriving DecidableEq, Repr

def ClassItem.contains (rule : CaseRule) : ClassItem → Char → Bool
  | range first last, c =>
    let holds := fun n => first ≤ n && n ≤ last
    -- A range beyond the basic plane looks up the lower case of all its members.
    let beyond := rule == .foldedAscii && first < last && last > 0xffff && c.toNat > 0x7f
    holds c.toNat || (rule.variants c.toNat).any holds ||
      (beyond && (Text.lowercaseTable.sources c.toNat).any holds)
  | kind alphabet k outside, c => CharKind.contains alphabet k c != outside

structure CharClass where
  negated : Bool
  items : List ClassItem
deriving DecidableEq, Repr

def CharClass.contains (cls : CharClass) (rule : CaseRule) (c : Char) : Bool :=
  (cls.items.any fun item => item.contains rule c) != cls.negated

def CharClass.single (n : Nat) : CharClass :=
  ⟨false, [.range n n]⟩

end ClassTidy.Pattern
