import BlobTransfer.Text.Ascii

/-!
Header names and values, and lists of them in the order in which the names first came.
-/

namespace BlobTransfer

def isTokenChar (c : Char) : Bool :=
  Ascii.isAlpha c || Ascii.isDigit c || "!#$%&'*+-.^_`|~".toList.contains c

def isHeaderName (text : String) : Bool :=
  !text.isEmpty && text.length < 65536 &&
    text.toList.all fun c => isTokenChar c && Ascii.lowerChar c = c

def isHeaderValue (text : String) : Bool :=
  text.toList.all fun c => (0x20 ≤ c.toNat && c.toNat ≠ 0x7F) || c = '\t'

structure HeaderName where
  text : String
  valid : isHeaderName text = true
  deriving DecidableEq, Repr

structure HeaderValue where
  text : String
  valid : isHeaderValue text = true
  deriving DecidableEq, Repr

def HeaderName.ofText? (text : String) : Option HeaderName :=
  if valid : isHeaderName text = true then some ⟨text, valid⟩ else none

namespace HeaderValue

def ofText? (text : String) : Option HeaderValue :=
  if valid : isHeaderValue text = true then some ⟨text, valid⟩ else none

def visible? (value : HeaderValue) : Option String :=
  if value.text.toList.all fun c => c.toNat < 0x7F then some value.text else none

def shown (value : HeaderValue) : String := value.visible?.getD "<binary>"

end HeaderValue

inductive HeaderFault where
  | name (text : String)
  | value (name : String)
  deriving DecidableEq, Repr

/-- The entries of one name are its values, of which the first counts. -/
structure Headers where
  entries : List (HeaderName × HeaderValue) := []
  deriving DecidableEq, Repr

namespace Headers

def insertEntry (name : HeaderName) (value : HeaderValue) :
    List (HeaderName × HeaderValue) → List (HeaderName × HeaderValue)
  | [] => [(name, value)]
  | entry :: rest =>
      if entry.1 = name then (name, value) :: rest.filter (·.1 ≠ name)
      else entry :: insertEntry name value rest

def insert (headers : Headers) (name : HeaderName) (value : HeaderValue) : Headers :=
  ⟨insertEntry name value headers.entries⟩

def get? (headers : Headers) (name : HeaderName) : Option HeaderValue :=
  headers.entries.lookup name

def put (headers : Headers) (name value : String) : Except HeaderFault Headers :=
  match HeaderValue.ofText? value, HeaderName.ofText? name with
  | none, _ => .error (.value name)
  | _, none => .error (.name name)
  | some value, some name => .ok (headers.insert name value)

def putAll (headers : Headers) (entries : List (String × String)) : Except HeaderFault Headers :=
  entries.foldlM (fun headers entry => headers.put entry.1 entry.2) headers

end Headers

namespace HeaderName

def userAgent : HeaderName := ⟨"user-agent", by decide⟩
def authorization : HeaderName := ⟨"authorization", by decide⟩
def clientRequestId : HeaderName := ⟨"x-ms-client-request-id", by decide⟩
def requestId : HeaderName := ⟨"x-ms-request-id", by decide⟩

end HeaderName

end BlobTransfer
