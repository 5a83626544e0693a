/-! Texts as lists of characters. -/

namespace ClassTidy

abbrev Text := List Char

namespace Text

/-- The position that the index `i` stands for in a text of length `n`: a negative index counts from
the end, and an index outside the text is moved to the nearest end. -/
def position (n : Nat) (i : Int) : Nat :=
  if i < 0 then (i + n).toNat else min i.toNat n

def slice (t : Text) (start stop : Int) : Text :=
  (t.take (position t.length stop)).drop (position t.length start)

-- The characters from index `i` on. A negative index counts from the end and goes on with the whole
-- text after it; `none` if it counts past the start.
def readFrom (t : Text) (i : Int) : Option Text :=
  if 0 ≤ i then some (t.drop i.toNat)
  else if -(t.length : Int) ≤ i then some (t.drop (i + t.length).toNat ++ t)
  else none

def between (t : Text) (start stop : Nat) : Text :=
  (t.take stop).drop start

def lineEndsBefore (t : Text) (n : Nat) : Nat :=
  (t.take n).count '\n'

def columnOf (t : Text) (n : Nat) : Nat :=
  ((t.take n).reverse.takeWhile (· ≠ '\n')).length

end Text

end ClassTidy
