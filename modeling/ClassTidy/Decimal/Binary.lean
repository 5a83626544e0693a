/-! Floating point numbers by their parts. -/

namespace ClassTidy.Decimal

inductive Binary
  | notANumber
  | infinite (negative : Bool)
  /-- `mantissa * 2 ^ exponent`. The gap to the number below is half as wide where `narrowBelow`. -/
  | finite (negative : Bool) (mantissa : Nat) (exponent : Int) (narrowBelow : Bool)
deriving DecidableEq, Repr

namespace Binary

def ofFloat (x : Float) : Binary :=
  let bits := x.toBits.toNat
  let negative := bits >>> 63 == 1
  let exponent : Nat := (bits >>> 52) % 2048
  let fraction := bits % (1 <<< 52)
  if exponent = 2047 then
    if fraction = 0 then infinite negative else notANumber
  else if exponent = 0 then finite negative fraction (-1074) false
  else finite negative (fraction + (1 <<< 52)) ((exponent : Int) - 1075) (fraction = 0 && exponent > 1)

def wholePart (m : Nat) (e : Int) : Nat :=
  if 0 ≤ e then m <<< e.toNat else m >>> (-e).toNat

end Binary

end ClassTidy.Decimal
