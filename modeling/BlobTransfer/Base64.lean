import BlobTransfer.Bytes

/-!
Base64 with the standard alphabet and required padding. Decoding accepts exactly the texts that
encoding writes and tells the first place where another text departs from them.
-/

namespace BlobTransfer.Base64

def padByte : UInt8 := 61

def symbolByte (value : Nat) : UInt8 :=
  if value < 26 then UInt8.ofNat (65 + value)
  else if value < 52 then UInt8.ofNat (71 + value)
  else if value < 62 then UInt8.ofNat (value - 4)
  else if value = 62 then 43
  else 47

def symbolValue? (symbol : UInt8) : Option Nat :=
  let code := symbol.toNat
  if 65 ≤ code ∧ code ≤ 90 then some (code - 65)
  else if 97 ≤ code ∧ code ≤ 122 then some (code - 71)
  else if 48 ≤ code ∧ code ≤ 57 then some (code + 4)
  else if code = 43 then some 62
  else if code = 47 then some 63
  else none

def encode : Bytes → Bytes
  | [] => []
  | [first] =>
      [symbolByte (first.toNat / 4), symbolByte (first.toNat % 4 * 16), padByte, padByte]
  | [first, second] =>
      [symbolByte (first.toNat / 4), symbolByte (first.toNat % 4 * 16 + second.toNat / 16),
        symbolByte (second.toNat % 16 * 4), padByte]
  | first :: second :: third :: rest =>
      symbolByte (first.toNat / 4) ::
      symbolByte (first.toNat % 4 * 16 + second.toNat / 16) ::
      symbolByte (second.toNat % 16 * 4 + third.toNat / 64) ::
      symbolByte (third.toNat % 64) :: encode rest

def encodeText (bytes : Bytes) : String :=
  String.ofList ((encode bytes).map fun symbol => Char.ofNat symbol.toNat)

inductive DecodeError where
  | symbol (byte : UInt8) (offset : Nat)
  | lastSymbol (byte : UInt8) (offset : Nat)
  | length (symbols : Nat)
  | padding
  deriving DecidableEq, Repr

def DecodeError.message : DecodeError → String
  | .symbol byte offset => s!"Invalid symbol {byte.toNat}, offset {offset}."
  | .lastSymbol byte offset => s!"Invalid last symbol {byte.toNat}, offset {offset}."
  | .length symbols => s!"Invalid input length: {symbols}"
  | .padding => "Invalid padding"

def valueAt (symbol : UInt8) (offset : Nat) : Except DecodeError Nat :=
  match symbolValue? symbol with
  | some value => .ok value
  | none => .error (.symbol symbol offset)

def valuesFrom : (offset : Nat) → Bytes → Except DecodeError (List Nat)
  | _, [] => .ok []
  | offset, symbol :: rest => do
      let value ← valueAt symbol offset
      let values ← valuesFrom (offset + 1) rest
      return value :: values

def decodeLast (offset : Nat) (quad : Bytes) : Except DecodeError Bytes := do
  let symbols := quad.takeWhile (· != padByte)
  let pads := quad.dropWhile (· != padByte)
  let values ← valuesFrom offset symbols
  if !pads.isEmpty && (decide (symbols.length < 2) || pads.any (· != padByte)) then
    throw (.symbol padByte (offset + symbols.length))
  match values with
  | [] => return []
  | [_] => throw (.length (offset + 1))
  | [high, low] =>
      if pads.length ≠ 2 then throw .padding
      if low % 16 ≠ 0 then throw (.lastSymbol (quad.getD 1 0) (offset + 1))
      return [UInt8.ofNat (high * 4 + low / 16)]
  | [high, middle, low] =>
      if pads.length ≠ 1 then throw .padding
      if low % 4 ≠ 0 then throw (.lastSymbol (quad.getD 2 0) (offset + 2))
      return [UInt8.ofNat (high * 4 + middle / 16), UInt8.ofNat (middle % 16 * 16 + low / 4)]
  | high :: middle :: low :: last :: _ =>
      return [UInt8.ofNat (high * 4 + middle / 16), UInt8.ofNat (middle % 16 * 16 + low / 4),
        UInt8.ofNat (low % 4 * 64 + last)]

def decodeQuads : (offset : Nat) → Bytes → Except DecodeError Bytes
  | offset, first :: second :: third :: fourth :: next :: rest => do
      let high ← valueAt first offset
      let middle ← valueAt second (offset + 1)
      let low ← valueAt third (offset + 2)
      let last ← valueAt fourth (offset + 3)
      let bytes ← decodeQuads (offset + 4) (next :: rest)
      return UInt8.ofNat (high * 4 + middle / 16) :: UInt8.ofNat (middle % 16 * 16 + low / 4) ::
        UInt8.ofNat (low % 4 * 64 + last) :: bytes
  | offset, quad => decodeLast offset quad

/-- A lone symbol after the last whole quad, reported ahead of everything else when it is one
no text could hold there, such as a line end. -/
def strayLast? (text : Bytes) : Option DecodeError :=
  match text.getLast? with
  | some byte =>
      if text.length % 4 = 1 ∧ byte ≠ padByte ∧ symbolValue? byte = none then
        some (.symbol byte (text.length - 1))
      else none
  | none => none

def decode (text : Bytes) : Except DecodeError Bytes :=
  match strayLast? text with
  | some error => .error error
  | none => decodeQuads 0 text

end BlobTransfer.Base64
