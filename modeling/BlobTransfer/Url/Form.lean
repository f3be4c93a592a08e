import BlobTransfer.Text.Ascii
import BlobTransfer.Text.Utf8
import BlobTransfer.Url.Percent

/-!
Names and values in a query: pairs joined by ampersands, each name and value escaped, a blank
written as a plus sign.
-/

namespace BlobTransfer.Form

abbrev Pair := String × String

def isKept (c : Char) : Bool :=
  Ascii.isAlpha c || Ascii.isDigit c || c = '*' || c = '-' || c = '.' || c = '_'

def encodeChar (c : Char) : List Char :=
  if c = ' ' then ['+'] else Percent.encodeChar isKept c

def encode (text : String) : List Char := text.toList.flatMap encodeChar

def encodePair (pair : Pair) : List Char := encode pair.1 ++ '=' :: encode pair.2

def encodePairs : List Pair → List Char
  | [] => []
  | [pair] => encodePair pair
  | pair :: rest => encodePair pair ++ '&' :: encodePairs rest

/-- Plus signs become blanks before the escapes are read, so that an escaped plus sign stays. -/
def decode (chars : List Char) : String :=
  let blanks := chars.map fun c => if c = '+' then ' ' else c
  String.ofList (Utf8.decodeChars (Percent.decode (blanks.flatMap String.utf8EncodeChar)))

def split (separator : Char) : List Char → List (List Char)
  | [] => [[]]
  | c :: rest =>
      if c = separator then [] :: split separator rest
      else
        match split separator rest with
        | part :: parts => (c :: part) :: parts
        | [] => [[c]]

def decodePair (part : List Char) : Pair :=
  (decode (part.takeWhile (· ≠ '=')), decode ((part.dropWhile (· ≠ '=')).drop 1))

def decodePairs (query : List Char) : List Pair :=
  ((split '&' query).filter fun part => !part.isEmpty).map decodePair

end BlobTransfer.Form
