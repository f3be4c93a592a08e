/-!
Spans of time in nanoseconds, up to the largest whose seconds fill 64 bits.
-/

namespace BlobTransfer

def nanosPerSecond : Nat := 1000000000
def nanosPerMilli : Nat := 1000000
def largestNanos : Nat := UInt64.size * nanosPerSecond - 1

structure Duration where
  nanos : Nat
  inRange : nanos ≤ largestNanos
  deriving DecidableEq, Repr

namespace Duration

def ofNanos? (nanos : Nat) : Option Duration :=
  if inRange : nanos ≤ largestNanos then some ⟨nanos, inRange⟩ else none

def saturating (nanos : Nat) : Duration := ⟨min nanos largestNanos, Nat.min_le_right _ _⟩

def zero : Duration := ⟨0, Nat.zero_le _⟩
def largest : Duration := ⟨largestNanos, Nat.le_refl _⟩

def ofSeconds (seconds : Nat) : Duration := saturating (seconds * nanosPerSecond)
def ofMillis (millis : Nat) : Duration := saturating (millis * nanosPerMilli)

def ofParts? (seconds nanos : Nat) : Option Duration := ofNanos? (seconds * nanosPerSecond + nanos)

def seconds (duration : Duration) : Nat := duration.nanos / nanosPerSecond
def subsecNanos (duration : Duration) : Nat := duration.nanos % nanosPerSecond
def isZero (duration : Duration) : Bool := duration.nanos = 0

instance : LE Duration := ⟨fun left right => left.nanos ≤ right.nanos⟩
instance : LT Duration := ⟨fun left right => left.nanos < right.nanos⟩
instance (left right : Duration) : Decidable (left ≤ right) :=
  inferInstanceAs (Decidable (left.nanos ≤ right.nanos))
instance (left right : Duration) : Decidable (left < right) :=
  inferInstanceAs (Decidable (left.nanos < right.nanos))
instance : Min Duration := ⟨fun left right => if left ≤ right then left else right⟩

theorem nanos_min (left right : Duration) :
    (min left right).nanos = min left.nanos right.nanos := by
  change (if left.nanos ≤ right.nanos then left else right).nanos = _
  split <;> omega

def times (duration : Duration) (factor : Nat) : Duration := saturating (duration.nanos * factor)

end Duration

end BlobTransfer
