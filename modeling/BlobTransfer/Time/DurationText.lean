import BlobTransfer.Time.Duration

/-!
A duration in the largest unit of which it holds at least one, with as many decimals as needed.
-/

namespace BlobTransfer.Duration

def fractionDigits (places value : Nat) : List Char :=
  let digits := Nat.toDigits 10 value
  let padded := List.replicate (places - digits.length) '0' ++ digits
  (padded.reverse.dropWhile (· = '0')).reverse

def inUnit (places : Nat) (unit : String) (nanos : Nat) : String :=
  let whole := toString (nanos / Nat.pow 10 places)
  let fraction := fractionDigits places (nanos % Nat.pow 10 places)
  if fraction.isEmpty then whole ++ unit else whole ++ "." ++ String.ofList fraction ++ unit

def text (duration : Duration) : String :=
  let nanos := duration.nanos
  if nanosPerSecond ≤ nanos then inUnit 9 "s" nanos
  else if nanosPerMilli ≤ nanos then inUnit 6 "ms" nanos
  else if 1000 ≤ nanos then inUnit 3 "µs" nanos
  else toString nanos ++ "ns"

end BlobTransfer.Duration
