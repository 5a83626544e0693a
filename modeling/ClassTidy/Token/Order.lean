import ClassTidy.Sorting
import ClassTidy.Text.CaseFolding
import ClassTidy.Token.Basic

/-! The order of tokens: by weight, base, important mark and spelling. -/

namespace ClassTidy.Token

def compareSpelling (a b : Text) : Ordering :=
  (compare (Text.fold a) (Text.fold b)).then (compare a b)

structure Ranked where
  token : Text
  parts : NormalToken
deriving DecidableEq, Repr

def Ranked.compare (a b : Ranked) : Ordering :=
  (Ord.compare a.parts.weight b.parts.weight).then <|
    (compareSpelling a.parts.base b.parts.base).then <|
      (Ord.compare a.parts.important b.parts.important).then <|
        compareSpelling a.token b.token

end Token

open Token

namespace Registry

def rank (r : Registry) (t : Text) : Ranked := ⟨t, r.normalize t⟩

def compareTokens (r : Registry) (a b : Text) : Ordering :=
  (r.rank a).compare (r.rank b)

def sortTokens (r : Registry) (ts : List Text) : List Text :=
  (sortBy (fun a b => (a.compare b).isLE) (ts.map r.rank)).map Ranked.token

end Registry

end ClassTidy
