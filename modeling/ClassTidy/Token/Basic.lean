import ClassTidy.Group.Registry

/-! Class tokens: an important mark, variants, and a base that decides the group. -/

namespace ClassTidy.Token

def splitImportant : Text → Bool × Text
  | '!' :: rest => (true, rest)
  | t => (false, t)

/-- Reads a token from its end, `depth` brackets being open, and gives what stands behind the first
colon outside of brackets. What was read is kept in order. -/
def afterColon? : (depth : Nat) → (reversed read : Text) → Option Text
  | _, [], _ => none
  | depth, c :: rest, read =>
    if c = ']' then afterColon? (depth + 1) rest (c :: read)
    else if c = '[' then afterColon? (depth - 1) rest (c :: read)
    else if c = ':' ∧ depth = 0 then some read
    else afterColon? depth rest (c :: read)

def dropVariants (t : Text) : Text :=
  (afterColon? 0 t.reverse []).getD t

end Token

structure NormalToken where
  important : Bool
  base : Text
  weight : Nat
deriving DecidableEq, Repr

def Registry.normalize (r : Registry) (t : Text) : NormalToken :=
  let (important, rest) := Token.splitImportant t
  let base := Token.dropVariants rest
  ⟨important, base, r.weight base⟩

end ClassTidy
