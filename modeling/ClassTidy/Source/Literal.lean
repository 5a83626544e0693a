import ClassTidy.Source.Paren

/-! Spans of a text, and the quoted literals in it. -/

namespace ClassTidy

structure Span where
  start : Nat
  stop : Nat
deriving DecidableEq, Repr

namespace Span

def text (s : Span) (t : Text) : Text := Text.between t s.start s.stop

def shift (s : Span) (n : Nat) : Span := ⟨s.start + n, s.stop + n⟩

end Span

namespace Source

inductive LiteralScan
  | outside
  | inside (quote : Char) (start : Nat)
  | escaped (quote : Char) (start : Nat)
deriving DecidableEq, Repr

/-- The literals of a text whose first character has the given offset. A literal that is not closed is
left out. -/
def literalsFrom : LiteralScan → (offset : Nat) → Text → List Span
  | _, _, [] => []
  | .outside, i, c :: t =>
    if isQuote c then literalsFrom (.inside c (i + 1)) (i + 1) t
    else literalsFrom .outside (i + 1) t
  | .inside q start, i, c :: t =>
    if c = '\\' then literalsFrom (.escaped q start) (i + 1) t
    else if c = q then ⟨start, i⟩ :: literalsFrom .outside (i + 1) t
    else literalsFrom (.inside q start) (i + 1) t
  | .escaped q start, i, _ :: t => literalsFrom (.inside q start) (i + 1) t

def literals (t : Text) : List Span := literalsFrom .outside 0 t

end Source

end ClassTidy
