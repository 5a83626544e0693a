/-! Sorting by insertion. -/

namespace ClassTidy

variable {α : Type}

def insertBy (le : α → α → Bool) (a : α) : List α → List α
  | [] => [a]
  | b :: bs => if le a b then a :: b :: bs else b :: insertBy le a bs

def sortBy (le : α → α → Bool) : List α → List α
  | [] => []
  | a :: as => insertBy le a (sortBy le as)

def distinct [DecidableEq α] (as : List α) : List α :=
  as.foldl (fun seen a => if a ∈ seen then seen else seen ++ [a]) []

end ClassTidy
