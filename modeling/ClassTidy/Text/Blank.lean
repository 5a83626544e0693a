import ClassTidy.Text.Basic
import ClassTidy.Text.CharTable

/-! Blank characters of Unicode 14, and the words between them. -/

namespace ClassTidy.Text

def blankTable : CharTable :=
  [(0x9, 0xd), (0x1c, 0x20), (0x85, 0x85), (0xa0, 0xa0), (0x1680, 0x1680), (0x2000, 0x200a),
   (0x2028, 0x2029), (0x202f, 0x202f), (0x205f, 0x205f), (0x3000, 0x3000)]

def isBlank (c : Char) : Bool :=
  blankTable.contains c.toNat

@[simp] theorem isBlank_space : isBlank ' ' = true := by decide

def trim (t : Text) : Text :=
  ((t.dropWhile isBlank).reverse.dropWhile isBlank).reverse

def squeeze : Bool → Text → Text
  | _, [] => []
  | inRun, c :: t =>
    if isBlank c then
      if inRun then squeeze true t else ' ' :: squeeze true t
    else c :: squeeze false t

def collapse (t : Text) : Text :=
  squeeze false (trim t)

def words (t : Text) : List Text :=
  (t.splitOnP isBlank).filter (· ≠ [])

def unwords (ts : List Text) : Text :=
  [' '].intercalate ts

end ClassTidy.Text
