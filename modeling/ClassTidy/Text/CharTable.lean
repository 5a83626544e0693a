/-! Tables of code points in ascending order. -/

namespace ClassTidy.Text

abbrev CharTable := List (Nat × Nat)

namespace CharTable

def contains : CharTable → Nat → Bool
  | [], _ => false
  | (first, last) :: rows, n =>
    if n < first then false else if n ≤ last then true else contains rows n

end CharTable

/-- The rows `(first, last, step, target)` of a case mapping, ascending and disjoint: `first + k` is
mapped to `target + k` for each multiple `k` of `step` up to `last - first`. -/
abbrev CaseTable := List (Nat × Nat × Nat × Nat)

namespace CaseTable

def target? : CaseTable → Nat → Option Nat
  | [], _ => none
  | (first, last, step, target) :: rows, n =>
    if n < first then none
    else if n ≤ last then
      if (n - first) % step = 0 then some (target + (n - first)) else none
    else target? rows n

def sources (table : CaseTable) (n : Nat) : List Nat :=
  table.filterMap fun (first, last, step, target) =>
    if target ≤ n ∧ n - target ≤ last - first ∧ (n - target) % step = 0 then
      some (first + (n - target))
    else none

end CaseTable

end ClassTidy.Text
