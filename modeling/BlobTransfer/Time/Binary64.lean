/-!
Rounding of rational numbers to the numbers of the 64-bit binary floating format: 53 significant
bits, steps of at least `2 ^ -1074`, a half going to the even neighbour.
-/

namespace BlobTransfer.Binary64

def roundHalfEven (numerator denominator : Nat) : Nat :=
  let quotient := numerator / denominator
  let twice := 2 * (numerator % denominator)
  if twice < denominator then quotient
  else if denominator < twice then quotient + 1
  else quotient + quotient % 2

/-- The greatest power of two, by its exponent, not above a positive quotient. -/
def exponent (numerator denominator : Nat) : Int :=
  let guess : Int := (Nat.log2 numerator : Int) - Nat.log2 denominator
  let reached :=
    if 0 ≤ guess then denominator * Nat.pow 2 guess.toNat ≤ numerator
    else denominator ≤ numerator * Nat.pow 2 (-guess).toNat
  if reached then guess else guess - 1

def powerOfTwo (power : Int) : Rat :=
  if 0 ≤ power then (Nat.pow 2 power.toNat : Rat) else 1 / (Nat.pow 2 (-power).toNat : Rat)

def round (value : Rat) : Option Rat :=
  if value = 0 then some 0
  else
    let numerator := value.num.natAbs
    let step := max (exponent numerator value.den - 52) (-1074)
    let scaled := ((numerator : Nat) : Rat) / (value.den : Rat) / powerOfTwo step
    let steps := roundHalfEven scaled.num.natAbs scaled.den
    let magnitude := (steps : Rat) * powerOfTwo step
    if powerOfTwo 1024 ≤ magnitude then none
    else some (if value < 0 then -magnitude else magnitude)

end BlobTransfer.Binary64
