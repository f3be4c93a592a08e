import BlobTransfer.Bytes

/-!
Percent escapes: bytes written as a percent sign and two hexadecimal digits.
-/

namespace BlobTransfer.Percent

def escape (byte : UInt8) : List Char :=
  ['%', (Bytes.hexDigit (byte.toNat / 16)).toUpper, (Bytes.hexDigit (byte.toNat % 16)).toUpper]

def encodeChar (kept : Char → Bool) (c : Char) : List Char :=
  if kept c then [c] else (String.utf8EncodeChar c).flatMap escape

def encode (kept : Char → Bool) (chars : List Char) : List Char := chars.flatMap (encodeChar kept)

def hexByte? (byte : UInt8) : Option Nat := Bytes.hexValue? (Char.ofNat byte.toNat)

def escaped? (mark high low : UInt8) : Option UInt8 := do
  if mark ≠ 0x25 then none
  else return UInt8.ofNat ((← hexByte? high) * 16 + (← hexByte? low))

def decode : Bytes → Bytes
  | first :: high :: low :: rest =>
      match escaped? first high low with
      | some byte => byte :: decode rest
      | none => first :: decode (high :: low :: rest)
  | bytes => bytes

/-! Characters that the parts of a URL keep. All others, and all outside ASCII, are escaped. -/

def isPlain (c : Char) : Bool := 0x20 ≤ c.toNat && c.toNat < 0x7F

def keptInFragment (c : Char) : Bool :=
  isPlain c && c ≠ ' ' && c ≠ '"' && c ≠ '<' && c ≠ '>' && c.toNat ≠ 0x60

def keptInPath (c : Char) : Bool :=
  keptInFragment c && c ≠ '#' && c ≠ '?' && c ≠ '{' && c ≠ '}'

def keptInUser (c : Char) : Bool :=
  keptInPath c && c ≠ '/' && c ≠ ':' && c ≠ ';' && c ≠ '=' && c ≠ '@' && c ≠ '[' && c ≠ ']' &&
    c ≠ '\\' && c ≠ '^' && c ≠ '|'

def keptInQuery (c : Char) : Bool :=
  isPlain c && c ≠ ' ' && c ≠ '"' && c ≠ '#' && c ≠ '<' && c ≠ '>'

def keptInWebQuery (c : Char) : Bool := keptInQuery c && c.toNat ≠ 0x27

end BlobTransfer.Percent
