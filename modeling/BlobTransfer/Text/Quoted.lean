import BlobTransfer.Bytes
import BlobTransfer.Text.CharClass

/-!
A text between double quotes on one line. Quotes, backslashes and the common controls are
written with a backslash; whatever would not show by itself is written by its code point.
-/

namespace BlobTransfer.Quoted

def digits (base number : Nat) : List Char :=
  (Nat.toDigits base number)

def codePoint (c : Char) : List Char :=
  ['\\', 'u', '\x7b'] ++ digits 16 c.toNat ++ ['\x7d']

def escape (c : Char) : List Char :=
  if c = '\x00' then ['\\', '0']
  else if c = '\t' then ['\\', 't']
  else if c = '\r' then ['\\', 'r']
  else if c = '\n' then ['\\', 'n']
  else if c = '\\' then ['\\', '\\']
  else if c = '"' then ['\\', '"']
  else if CharClass.isCombining c then codePoint c
  else if CharClass.isVisible c then [c]
  else codePoint c

def quote (text : String) : String :=
  String.ofList ('"' :: text.toList.flatMap escape ++ ['"'])

end BlobTransfer.Quoted
