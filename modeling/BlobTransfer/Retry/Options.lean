import BlobTransfer.Error.Transfer
import BlobTransfer.Text.Ascii
import BlobTransfer.Time.Duration

/-!
How often and how long to retry. A zero stands for the default of the policy; validation checks
the combination and puts the defaults in.
-/

namespace BlobTransfer

inductive RetryPolicyKind where
  /-- The delay grows as one less than a power of two. -/
  | exponential
  | fixed
  deriving DecidableEq, Repr

def RetryPolicyKind.ofText (text : String) : Except TransferError RetryPolicyKind :=
  let name := Ascii.lower text
  if name = "exponential" then .ok .exponential
  else if name = "fixed" then .ok .fixed
  else .error (.invalid (.policyName name))

structure RetryOptions where
  policy : RetryPolicyKind := .exponential
  maxTries : UInt32 := 0
  tryTimeout : Duration := .zero
  retryDelay : Duration := .zero
  maxRetryDelay : Duration := .zero
  secondaryHost : Option String := none
  deriving DecidableEq, Repr

namespace RetryOptions

def defaultMaxTries : UInt32 := 4
def defaultTryTimeout : Duration := .ofSeconds 30
def defaultMaxRetryDelay : Duration := .ofSeconds 120

def defaultRetryDelay : RetryPolicyKind → Duration
  | .exponential => .ofSeconds 4
  | .fixed => .ofSeconds 30

/-- The options with every default in place, unless the two delays contradict each other. -/
def validated (options : RetryOptions) : Except TransferError RetryOptions :=
  if options.maxRetryDelay < options.retryDelay then .error (.invalid .delayOrder)
  else if options.retryDelay.isZero ≠ options.maxRetryDelay.isZero then
    .error (.invalid .delayMix)
  else .ok {
    options with
    secondaryHost := options.secondaryHost.filter (· ≠ "")
    maxTries := if options.maxTries = 0 then defaultMaxTries else options.maxTries
    tryTimeout := if options.tryTimeout.isZero then defaultTryTimeout else options.tryTimeout
    retryDelay :=
      if options.retryDelay.isZero then defaultRetryDelay options.policy else options.retryDelay
    maxRetryDelay :=
      if options.retryDelay.isZero then defaultMaxRetryDelay else options.maxRetryDelay }

/-- What the retry delay is multiplied by: `2 ^ (tryNumber - 1) - 1`, held in 32 bits. -/
def exponentialFactor (tryNumber : Nat) : Nat :=
  if 1 ≤ tryNumber ∧ tryNumber ≤ 32 then Nat.pow 2 (tryNumber - 1) - 1
  else UInt32.size - 1

def baseDelay (options : RetryOptions) (tryNumber : Nat) : Duration :=
  match options.policy with
  | .exponential => options.retryDelay.times (exponentialFactor tryNumber)
  | .fixed => if 1 < tryNumber then options.retryDelay else .zero

/-- The delay before a primary try, stretched by `scale` and held under the ceiling. Stretching
starts from at most twice the ceiling: a longer delay would end at the ceiling all the same. -/
def delay (options : RetryOptions) (scale : Duration → Option Duration) (tryNumber : Nat) :
    Option Duration :=
  (scale (min (options.baseDelay tryNumber) (options.maxRetryDelay.times 2))).map
    (min · options.maxRetryDelay)

end RetryOptions

end BlobTransfer
