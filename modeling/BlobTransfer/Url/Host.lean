import BlobTransfer.Bytes
import BlobTransfer.Text.Ascii
import BlobTransfer.Text.Decimal
import BlobTransfer.Url.Domain
import BlobTransfer.Url.Failure
import BlobTransfer.Url.Form

/-!
The host of a URL: a name, or a numeric address in either of its two widths.
-/

namespace BlobTransfer

inductive Host where
  | name (text : String)
  | ipv4 (address : UInt32)
  | ipv6 (pieces : List UInt16)
  deriving DecidableEq, Repr

namespace Host

/-! Addresses of four bytes. -/

def digitsInBase (base : Nat) (digits : List Char) : Option Nat :=
  digits.foldlM (fun value digit => do
    let next ← Bytes.hexValue? digit
    if next < base then return value * base + next else none) 0

def ipv4Part? (part : List Char) : Option Nat :=
  match part with
  | [] => none
  | '0' :: 'x' :: digits | '0' :: 'X' :: digits => digitsInBase 16 digits
  | '0' :: digit :: digits => digitsInBase 8 (digit :: digits)
  | digits => digitsInBase 10 digits

def dottedParts (chars : List Char) : List (List Char) :=
  let parts := Form.split '.' chars
  if 1 < parts.length && parts.getLast? = some [] then parts.dropLast else parts

/-- Whether a name counts as an address: its last part is a number. -/
def endsInNumber (chars : List Char) : Bool :=
  match (dottedParts chars).getLast? with
  | some part => (!part.isEmpty && part.all Ascii.isDigit) || (ipv4Part? part).isSome
  | none => false

/-- Up to four parts, of which the last fills all the bytes that are left. -/
def ipv4? (chars : List Char) : Except UrlFailure UInt32 :=
  let parts := dottedParts chars
  match parts.mapM ipv4Part? with
  | none => .error .ipv4Address
  | some numbers =>
      let last := numbers.getLast?.getD 0
      let leading := numbers.dropLast
      if 4 < numbers.length || leading.any (255 < ·) ||
          Nat.pow 256 (4 - leading.length) ≤ last then .error .ipv4Address
      else
        let high := leading.zipIdx.foldl
          (fun sum part => sum + part.1 * Nat.pow 256 (3 - part.2)) 0
        .ok (UInt32.ofNat (high + last))

def ipv4Text (address : UInt32) : String :=
  ".".intercalate ((Bytes.ofWord address).map fun byte => toString byte.toNat)

/-! Addresses of eight pieces. -/

def ipv6Piece? (part : List Char) : Option UInt16 :=
  if part.isEmpty || 4 < part.length then none
  else (digitsInBase 16 part).map UInt16.ofNat

def ipv4Byte? (part : List Char) : Option Nat :=
  match part with
  | ['0'] => some 0
  | '0' :: _ | [] => none
  | digits => (digitsInBase 10 digits).filter (· ≤ 255)

/-- Pieces between colons; the last may be a dotted address, worth two pieces. -/
def ipv6Pieces? (mayBeDotted : Bool) : List (List Char) → Option (List UInt16)
  | [] => some []
  | [part] =>
      if mayBeDotted && part.contains '.' then do
        let bytes ← (Form.split '.' part).mapM ipv4Byte?
        match bytes with
        | [a, b, c, d] => return [UInt16.ofNat (a * 256 + b), UInt16.ofNat (c * 256 + d)]
        | _ => none
      else (ipv6Piece? part).map ([·])
  | part :: rest => do
      let piece ← ipv6Piece? part
      let pieces ← ipv6Pieces? mayBeDotted rest
      return piece :: pieces

def splitGap : List Char → List Char × Option (List Char)
  | ':' :: ':' :: rest => ([], some rest)
  | c :: rest => let (before, after) := splitGap rest; (c :: before, after)
  | [] => ([], none)

def piecesBeside (mayBeDotted : Bool) (chars : List Char) : Option (List UInt16) :=
  if chars.isEmpty then some [] else ipv6Pieces? mayBeDotted (Form.split ':' chars)

def ipv6? (chars : List Char) : Except UrlFailure (List UInt16) :=
  let found := do
    match splitGap chars with
    | (before, some after) =>
        let front ← piecesBeside false before
        let back ← piecesBeside true after
        if front.length + back.length ≤ 7 then
          return front ++ List.replicate (8 - front.length - back.length) 0 ++ back
        else none
    | (all, none) =>
        let pieces ← piecesBeside true all
        if pieces.length = 8 then return pieces else none
  match found with
  | some pieces => .ok pieces
  | none => .error .ipv6Address

def longestZeros (pieces : List UInt16) : Nat × Nat :=
  (List.range pieces.length).foldl (fun best start =>
    let length := ((pieces.drop start).takeWhile (· = 0)).length
    if best.2 < length then (start, length) else best) (0, 0)

def piecesText (pieces : List UInt16) : String :=
  ":".intercalate (pieces.map fun piece => String.ofList (Nat.toDigits 16 piece.toNat))

def ipv6Text (pieces : List UInt16) : String :=
  let (start, length) := longestZeros pieces
  if 1 < length then
    piecesText (pieces.take start) ++ "::" ++ piecesText (pieces.drop (start + length))
  else piecesText pieces

/-! Names. -/

def inBrackets? (chars : List Char) : Option (Except UrlFailure (List Char)) :=
  match chars with
  | '[' :: rest =>
      if rest.getLast? = some ']' then some (.ok rest.dropLast) else some (.error .ipv6Address)
  | _ => none

/-- The host of a web address. A name that ends in a number is an address in figures. -/
def ofWeb (chars : List Char) : Except UrlFailure Host :=
  match inBrackets? chars with
  | some inner => do return .ipv6 (← ipv6? (← inner))
  | none =>
      let decoded := Bytes.toText? (Percent.decode (chars.flatMap String.utf8EncodeChar))
      match decoded.bind fun text => Domain.sent? text.toList with
      | none => .error .internationalName
      | some domain =>
          if domain.isEmpty then .error .emptyHost
          else if endsInNumber domain then (ipv4? domain).map .ipv4
          else .ok (.name (String.ofList domain))

def ofOther (chars : List Char) : Except UrlFailure Host :=
  match inBrackets? chars with
  | some inner => do return .ipv6 (← ipv6? (← inner))
  | none =>
      if chars.any fun c => c.toNat = 0 ||
          Domain.isForbiddenInHost c && (0x20 ≤ c.toNat || c = '\t' || c = '\n' || c = '\r') then
        .error .domainCharacter
      else .ok (.name (String.ofList (Percent.encode Percent.isPlain chars)))

def text : Host → String
  | .name text => text
  | .ipv4 address => ipv4Text address
  | .ipv6 pieces => "[" ++ ipv6Text pieces ++ "]"

def isEmpty (host : Host) : Bool := host = .name ""

end Host

end BlobTransfer
