import BlobTransfer.Time.Binary64
import BlobTransfer.Time.Duration

/-!
Durations multiplied by a factor, to the nearest nanosecond: once with the exact product and
once with each step rounded to a 64-bit floating number. There is no product below zero or past
the largest duration.
-/

namespace BlobTransfer.Duration

def ofSecondsRounded? (seconds : Rat) : Option Duration :=
  if seconds < 0 then none
  else ofNanos? (Binary64.roundHalfEven (seconds.num.natAbs * nanosPerSecond) seconds.den)

def scaleExact (factor : Rat) (duration : Duration) : Option Duration :=
  ofSecondsRounded? (factor * ((duration.nanos : Rat) / (nanosPerSecond : Rat)))

/-- Seconds as a floating number: the whole ones and the fraction rounded, then their sum. -/
def secondsRounded (duration : Duration) : Option Rat := do
  let whole ← Binary64.round (duration.seconds : Rat)
  let fraction ← Binary64.round ((duration.subsecNanos : Rat) / (nanosPerSecond : Rat))
  Binary64.round (whole + fraction)

def scale (factor : Rat) (duration : Duration) : Option Duration := do
  let seconds ← duration.secondsRounded
  let product ← Binary64.round (factor * seconds)
  ofSecondsRounded? product

end BlobTransfer.Duration
