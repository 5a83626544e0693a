import ClassTidy.Text.Blank
import ClassTidy.Text.DecimalDigit

/-! Whole numbers as texts spell them. -/

namespace ClassTidy.Text

def digitLimit : Nat := 4300

def tooManyDigitsMessage (count : Nat) : String :=
  "Exceeds the limit (" ++ toString digitLimit ++ " digits) for integer string conversion: value has " ++
    toString count ++ " digits; use sys.set_int_max_str_digits() to increase the limit"

inductive NumeralError
  | malformed
  | tooManyDigits (count : Nat)
deriving DecidableEq, Repr

-- Unlike other blanks, the separators `U+001C` to `U+001F` do not go with a number.
def isNumeralBlank (c : Char) : Bool :=
  isBlank c && !(0x1c ≤ c.toNat && c.toNat ≤ 0x1f)

-- The number and the value of the decimal digits at the front, with single low lines between digits,
-- and what follows them.
def takeNumeral (afterDigit : Bool) (count n : Nat) : Text → Option (Nat × Nat × Text)
  | [] => if afterDigit then some (count, n, []) else none
  | c :: rest =>
    match digitValue? c with
    | some d => takeNumeral true (count + 1) (n * 10 + d) rest
    | none =>
      if !afterDigit then none
      else if c = '_' then takeNumeral false count n rest
      else some (count, n, c :: rest)

def naturalValue (t : Text) : Except NumeralError Nat :=
  match takeNumeral false 0 0 t with
  | none => .error .malformed
  | some (count, n, rest) =>
    if count > digitLimit then .error (.tooManyDigits count)
    else if rest.all isNumeralBlank then .ok n
    else .error .malformed

def integerValue (t : Text) : Except NumeralError Int :=
  match t.dropWhile isNumeralBlank with
  | '-' :: rest => (naturalValue rest).map fun n => -(n : Int)
  | '+' :: rest => (naturalValue rest).map fun n => (n : Int)
  | rest => (naturalValue rest).map fun n => (n : Int)

end ClassTidy.Text
