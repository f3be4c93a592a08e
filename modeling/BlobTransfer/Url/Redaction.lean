import BlobTransfer.Url.Basic

/-!
URLs fit for a log: signatures in the query are hidden.
-/

namespace BlobTransfer

def hiddenText : String := "REDACTED"

namespace Url

def isSignature (name : String) : Bool := Ascii.sameIgnoringCase name "sig"

def hidePair (pair : Form.Pair) : Form.Pair :=
  if isSignature pair.1 then (pair.1, hiddenText) else pair

/-- The URL with every signature hidden. Without any it stays as it is written. -/
def redact (url : Url) : Url :=
  if url.pairs.any fun pair => isSignature pair.1 then url.withPairs (url.pairs.map hidePair)
  else url

end Url

end BlobTransfer
