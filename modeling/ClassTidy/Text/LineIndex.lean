import ClassTidy.Text.Basic

/-! Lines and columns of offsets, by a table of the offsets at which lines start. -/

namespace ClassTidy.Text

def lineStartsFrom : (offset : Nat) → Text → List Nat
  | _, [] => []
  | i, c :: t => if c = '\n' then (i + 1) :: lineStartsFrom (i + 1) t else lineStartsFrom (i + 1) t

structure LineIndex where
  starts : Array Nat

namespace LineIndex

def ofText (t : Text) : LineIndex := ⟨(0 :: lineStartsFrom 0 t).toArray⟩

-- How many starts of a table are not behind an offset, if that number lies from `low` to `high`. The
-- range is halved until one number is left.
def countUpTo (starts : Array Nat) (offset low high : Nat) (h : high ≤ starts.size) : Nat :=
  if hlt : low < high then
    let middle := (low + high) / 2
    have hmiddle : middle < starts.size := by omega
    if offset < starts[middle] then countUpTo starts offset low middle (by omega)
    else countUpTo starts offset (middle + 1) high h
  else low
termination_by high - low

def locate (index : LineIndex) (offset : Nat) : Nat × Nat :=
  let line := countUpTo index.starts offset 0 index.starts.size (Nat.le_refl _)
  (line, offset - index.starts.getD (line - 1) 0)

end LineIndex

end ClassTidy.Text
