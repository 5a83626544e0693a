import ClassTidy.Token.Order

/-! Taking tokens apart with a memory. -/

namespace ClassTidy

structure Memo where
  entries : List (Text × NormalToken) := []

namespace Memo

def size (m : Memo) : Nat := m.entries.length

def normalize (r : Registry) (t : Text) (m : Memo) : NormalToken × Memo :=
  match m.entries.lookup t with
  | some parts => (parts, m)
  | none =>
    let parts := r.normalize t
    (parts, ⟨(t, parts) :: m.entries⟩)

def compareTokens (r : Registry) (a b : Text) (m : Memo) : Ordering × Memo :=
  let (partsA, m) := m.normalize r a
  let (partsB, m) := m.normalize r b
  ((Token.Ranked.mk a partsA).compare ⟨b, partsB⟩, m)

end Memo

end ClassTidy
