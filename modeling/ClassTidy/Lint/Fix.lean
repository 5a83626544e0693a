import ClassTidy.Lint.Finding
import ClassTidy.Sorting

/-! Repairing a text by its findings. -/

namespace ClassTidy

namespace Finding

def withoutOverlap (last : Int) : List Finding → List Finding
  | [] => []
  | f :: fs =>
    if f.start < last then withoutOverlap last fs else f :: withoutOverlap f.stop fs

def selected (fs : List Finding) : List Finding :=
  withoutOverlap (-1) (sortBy atOrBefore fs)

def splice (f : Finding) (t : Text) : Text :=
  t.take (Text.position t.length f.start) ++ f.replacement ++
    t.drop (Text.position t.length f.stop)

end Finding

def applyFixes (t : Text) (fs : List Finding) : Text :=
  (Finding.selected fs).foldr Finding.splice t

end ClassTidy
