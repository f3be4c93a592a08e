/-!
Letters of either case count as one letter, within ASCII only.
-/

namespace BlobTransfer.Ascii

def lowerChar (c : Char) : Char :=
  if 'A' ≤ c ∧ c ≤ 'Z' then Char.ofNat (c.toNat + 32) else c

def lower (text : String) : String := String.ofList (text.toList.map lowerChar)

def isAlpha (c : Char) : Bool := ('a' ≤ c && c ≤ 'z') || ('A' ≤ c && c ≤ 'Z')
def isDigit (c : Char) : Bool := '0' ≤ c && c ≤ '9'

def sameIgnoringCase (left right : String) : Bool := lower left = lower right

end BlobTransfer.Ascii
