/-!
Punycode: a text of any script written with letters, digits and hyphens. The ASCII characters come
first, then a hyphen, then where the others stand, as numbers of varying length.
-/

namespace BlobTransfer.Punycode

def digit (value : Nat) : Char :=
  if value < 26 then Char.ofNat ('a'.toNat + value) else Char.ofNat ('0'.toNat + (value - 26))

def digitValue? (c : Char) : Option Nat :=
  if 'a' ≤ c ∧ c ≤ 'z' then some (c.toNat - 'a'.toNat)
  else if '0' ≤ c ∧ c ≤ '9' then some (c.toNat - '0'.toNat + 26)
  else none

def threshold (bias place : Nat) : Nat := max 1 (min 26 (place - bias))

theorem threshold_bounds (bias place : Nat) :
    1 ≤ threshold bias place ∧ threshold bias place ≤ 26 := by
  unfold threshold
  omega

/-- How often a step is to be divided until it is small, and what it is then. -/
def shrink (step : Nat) : Nat × Nat :=
  if 455 < step then
    let (times, small) := shrink (step / 35)
    (times + 1, small)
  else (0, step)
termination_by step
decreasing_by omega

def adaptedBias (step count : Nat) (isFirst : Bool) : Nat :=
  let damped := if isFirst then step / 700 else step / 2
  let (times, small) := shrink (damped + damped / count)
  36 * times + 36 * small / (small + 38)

def numberDigits (bias place value : Nat) : List Char :=
  let limit := threshold bias place
  if value < limit then [digit value]
  else
    digit (limit + (value - limit) % (36 - limit)) ::
      numberDigits bias (place + 36) ((value - limit) / (36 - limit))
termination_by value
decreasing_by
  have := threshold_bounds bias place
  calc (value - threshold bias place) / (36 - threshold bias place)
      ≤ value - threshold bias place := Nat.div_le_self _ _
    _ < value := by omega

def readNumber (bias place weight value : Nat) : List Char → Option (Nat × List Char)
  | [] => none
  | c :: rest => do
      let next ← digitValue? c
      let limit := threshold bias place
      if next < limit then return (value + next * weight, rest)
      else readNumber bias (place + 36) (weight * (36 - limit)) (value + next * weight) rest

structure Encoding where
  digits : List Char := []
  step : Nat := 0
  bias : Nat := 72
  count : Nat

def encodeChar (basic code : Nat) (encoding : Encoding) (c : Char) : Encoding :=
  if c.toNat < code then { encoding with step := encoding.step + 1 }
  else if c.toNat = code then {
    digits := encoding.digits ++ numberDigits encoding.bias 36 encoding.step
    step := 0
    bias := adaptedBias encoding.step (encoding.count + 1) (encoding.count = basic)
    count := encoding.count + 1 }
  else encoding

def encodeCodes (text : List Char) (basic lowest : Nat) (encoding : Encoding) :
    List Nat → Encoding
  | [] => encoding
  | code :: rest =>
      let skipped := encoding.step + (code - lowest) * (encoding.count + 1)
      let placed := text.foldl (encodeChar basic code) { encoding with step := skipped }
      encodeCodes text basic (code + 1) { placed with step := placed.step + 1 } rest

def isBasic (c : Char) : Bool := c.toNat < 0x80

def encode (text : List Char) : List Char :=
  let basic := text.filter isBasic
  let codes := (((text.filter fun c => !isBasic c).map Char.toNat).mergeSort).eraseDups
  let encoding := encodeCodes text basic.length 0x80 { count := basic.length } codes
  basic ++ (if basic.isEmpty then [] else ['-']) ++ encoding.digits

/-- Characters are put in place one after another. Each takes a digit or more, so no more can come
than there are digits. -/
def decodeDigits (bias code start : Nat) (decoded : List Char) :
    (fuel : Nat) → List Char → Option (List Char)
  | _, [] => some decoded
  | 0, _ => none
  | fuel + 1, digits => do
      let (total, rest) ← readNumber bias 36 1 start digits
      let count := decoded.length + 1
      let next := code + total / count
      let position := total % count
      if next.isValidChar then
        decodeDigits (adaptedBias (total - start) count (decide (start = 0))) next (position + 1)
          (decoded.insertIdx position (Char.ofNat next)) fuel rest
      else none

def decode? (text : List Char) : Option (List Char) :=
  let digits := (text.reverse.takeWhile (· ≠ '-')).reverse
  let basic := (text.take (text.length - digits.length)).dropLast
  if basic.all isBasic then decodeDigits 72 0x80 0 basic digits.length digits else none

end BlobTransfer.Punycode
