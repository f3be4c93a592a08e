import BlobTransfer.Text.Ascii

/-!
Decimal texts of natural numbers below a bound.
-/

namespace BlobTransfer.Decimal

def digitsValue (digits : List Char) : Nat :=
  digits.foldl (fun value digit => value * 10 + (digit.toNat - 48)) 0

/-- Digits after at most one plus sign, worth less than the bound. -/
def parse? (bound : Nat) (text : String) : Option Nat :=
  let digits :=
    match text.toList with
    | '+' :: rest => rest
    | chars => chars
  if !digits.isEmpty && digits.all Ascii.isDigit && digitsValue digits < bound then
    some (digitsValue digits)
  else none

end BlobTransfer.Decimal
