/-! # Decimal numbers

A number written in decimal digits with an exponent of ten becomes infinite in double precision when
its magnitude is at least halfway between the greatest finite number and the next power of two. A
whole number keeps its first 53 binary digits in double precision. A quotient written with a fixed
number of places is rounded to the nearest such number.
-/

namespace ThoughtJournal.Decimal

/-- The least magnitude that double precision rounds to infinity. -/
def overflowBound : Nat := Nat.pow 2 1024 - Nat.pow 2 970

/-- Whether `digits · 10 ^ exponent` is finite in double precision. The number of digits decides
unless it is close to that of the bound. -/
def isFinite (digits : Nat) (exponent : Int) : Bool :=
  let size : Int := (Nat.toDigits 10 digits).length + exponent
  if digits == 0 || size < 308 then true
  else if 309 < size then false
  else if 0 ≤ exponent then decide (digits * Nat.pow 10 exponent.toNat < overflowBound)
  else decide (digits < overflowBound * Nat.pow 10 (-exponent).toNat)

/-- A quotient rounded to the nearest whole number; a half goes to the even neighbour. -/
def roundHalfEven (numerator denominator : Nat) : Nat :=
  let quotient := numerator / denominator
  let twice := 2 * (numerator % denominator)
  if twice < denominator then quotient
  else if denominator < twice then quotient + 1
  else if quotient % 2 == 0 then quotient
  else quotient + 1

/-- The whole number of double precision next to a whole number, with the even one of two that are
equally near. -/
def roundDouble (n : Nat) : Nat :=
  let unit := Nat.pow 2 (n.log2 - 52)
  unit * roundHalfEven n unit

/-- A quotient with a fixed number of places after the point. -/
def fixed (places numerator denominator : Nat) : List Char :=
  let unit := Nat.pow 10 places
  let rounded := roundHalfEven (unit * numerator) denominator
  let after := Nat.toDigits 10 (rounded % unit)
  Nat.toDigits 10 (rounded / unit) ++ '.' :: (List.replicate (places - after.length) '0' ++ after)

end ThoughtJournal.Decimal
