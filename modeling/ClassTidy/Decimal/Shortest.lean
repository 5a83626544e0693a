import ClassTidy.Decimal.Binary
import ClassTidy.Text.Basic

/-! The shortest decimal that reads back as a given floating point number. -/

namespace ClassTidy.Decimal

/-- Decimal digits and the place of the point: the value is `0.d₁d₂… * 10 ^ point`. -/
structure Digits where
  digits : Text
  point : Int
deriving DecidableEq, Repr

def powerAbove (num den : Nat) : Nat → Nat
  | 0 => 0
  | bound + 1 =>
    let k := powerAbove num den bound
    if num < 10 ^ k * den then k else bound + 1

def powerBelow (num den : Nat) : Nat → Nat
  | 0 => 0
  | bound + 1 =>
    let k := powerBelow num den bound
    if k = bound ∧ num * 10 ^ (bound + 1) < den then bound + 1 else k

def pointOf (num den : Nat) : Int :=
  if den ≤ num then powerAbove num den 400 else -(powerBelow num den 400 : Int)

-- The nearest of the two neighbours of `num / den` that lie within the bounds, a tie going to the even
-- one; all four are scaled alike.
def nearest? (num den low high : Nat) (closed : Bool) : Option Nat :=
  let within (d : Nat) : Bool :=
    if closed then low ≤ d * den && d * den ≤ high else low < d * den && d * den < high
  let d := num / den
  let rest := num - d * den
  match within d, within (d + 1) with
  | true, true =>
    if 2 * rest < den then some d
    else if 2 * rest > den then some (d + 1)
    else if d % 2 = 0 then some d else some (d + 1)
  | true, false => some d
  | false, true => some (d + 1)
  | false, false => none

def withDigits? (m : Nat) (e : Int) (narrowBelow : Bool) (point : Int) (count : Nat) : Option Nat :=
  let up := Nat.pow 10 ((count : Int) - point).toNat <<< (e - 2).toNat
  let down := Nat.pow 10 (point - count).toNat <<< (2 - e).toNat
  let low := if narrowBelow then 4 * m - 1 else 4 * m - 2
  nearest? (4 * m * up) down (low * up) ((4 * m + 2) * up) (m % 2 = 0)

def search (m : Nat) (e : Int) (narrowBelow : Bool) (point : Int) : (left count : Nat) → Nat × Nat
  | 0, count => (0, count)
  | left + 1, count =>
    match withDigits? m e narrowBelow point count with
    | some d => (d, count)
    | none => search m e narrowBelow point left (count + 1)

def shortest (m : Nat) (e : Int) (narrowBelow : Bool) : Digits :=
  let point := pointOf (m <<< e.toNat) (1 <<< (-e).toNat)
  let (d, count) := search m e narrowBelow point 17 1
  let written := Nat.toDigits 10 d
  let digits := (written.reverse.dropWhile (· == '0')).reverse
  ⟨digits, point + (written.length - count : Int)⟩

/-- Digits with a point where it stands from four places before to sixteen places behind the first
digit, and with a power of ten of at least two digits elsewhere. A whole number ends in `.0`. -/
def Digits.write (x : Digits) : Text :=
  let n := x.digits.length
  if -4 < x.point ∧ x.point ≤ 16 then
    if x.point ≤ 0 then '0' :: '.' :: List.replicate (-x.point).toNat '0' ++ x.digits
    else
      let p := x.point.toNat
      if n ≤ p then x.digits ++ List.replicate (p - n) '0' ++ ['.', '0']
      else x.digits.take p ++ '.' :: x.digits.drop p
  else
    let power := x.point - 1
    let powerDigits := Nat.toDigits 10 power.natAbs
    let mantissa := match x.digits with
      | d :: rest => if rest.isEmpty then [d] else d :: '.' :: rest
      | [] => []
    mantissa ++ 'e' :: (if power < 0 then '-' else '+') ::
      List.replicate (2 - powerDigits.length) '0' ++ powerDigits

def writeFinite (negative : Bool) (m : Nat) (e : Int) (narrowBelow : Bool) : Text :=
  let body := if m = 0 then ['0', '.', '0'] else (shortest m e narrowBelow).write
  if negative then '-' :: body else body

end ClassTidy.Decimal
