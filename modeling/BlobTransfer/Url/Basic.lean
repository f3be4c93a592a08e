import BlobTransfer.Url.Form
import BlobTransfer.Url.Host

/-!
URLs in parts. Every part is kept as it is written: what must be escaped already is.
-/

namespace BlobTransfer

structure Authority where
  userName : String := ""
  password : String := ""
  host : Host
  portNumber : Option Nat := none
  deriving DecidableEq, Repr

inductive UrlPath where
  /-- A path that starts with no slash, such as that of a mail address. -/
  | rootless (text : String)
  | segments (names : List String)
  deriving DecidableEq, Repr

structure Url where
  scheme : String
  authority : Option Authority
  path : UrlPath
  query : Option String
  fragment : Option String
  deriving DecidableEq, Repr

namespace Authority

def userText (authority : Authority) : String :=
  if authority.userName.isEmpty && authority.password.isEmpty then ""
  else if authority.password.isEmpty then authority.userName ++ "@"
  else authority.userName ++ ":" ++ authority.password ++ "@"

def text (authority : Authority) : String :=
  authority.userText ++ authority.host.text ++
    match authority.portNumber with
    | some number => ":" ++ toString number
    | none => ""

end Authority

namespace Url

def usualPort? (scheme : String) : Option Nat :=
  match scheme with
  | "http" | "ws" => some 80
  | "https" | "wss" => some 443
  | "ftp" => some 21
  | _ => none

/-- Whether the scheme takes web addresses: with a host, and with backslashes as slashes. -/
def isWeb (scheme : String) : Bool := (usualPort? scheme).isSome

def pathText : UrlPath → String
  | .rootless text => text
  | .segments names => String.join (names.map ("/" ++ ·))

/-- A path that starts with two slashes must not look like a host. -/
def rootMark (url : Url) : String :=
  match url.authority, url.path with
  | none, .segments ("" :: _ :: _) => "/."
  | _, _ => ""

def text (url : Url) : String :=
  url.scheme ++ ":" ++
    (match url.authority with
    | some authority => "//" ++ authority.text
    | none => url.rootMark) ++
    pathText url.path ++
    (match url.query with
    | some query => "?" ++ query
    | none => "") ++
    match url.fragment with
    | some fragment => "#" ++ fragment
    | none => ""

def pairs (url : Url) : List Form.Pair :=
  match url.query with
  | some query => Form.decodePairs query.toList
  | none => []

def withPairs (url : Url) (pairs : List Form.Pair) : Url :=
  { url with query := some (String.ofList (Form.encodePairs pairs)) }

def parameter? (url : Url) (name : String) : Option String := url.pairs.lookup name

def setParameter (url : Url) (name value : String) : Url :=
  url.withPairs (url.pairs.filter (fun pair => pair.1 ≠ name) ++ [(name, value)])

def bareHost (text : List Char) : Except UrlFailure (List Char) :=
  if text.head? = some '[' && text.getLast? = some ']' then .ok text
  else
    match text with
    | ':' :: _ => .error .domainCharacter
    | _ => .ok (text.takeWhile (· ≠ ':'))

def setHost (url : Url) (text : String) : Except UrlFailure Url := do
  match url.authority, url.path with
  | none, .rootless _ => throw .hostlessUrl
  | _, _ => pure ()
  if text.isEmpty && isWeb url.scheme then throw .emptyHost
  let chars ← bareHost text.toList
  let host ← if isWeb url.scheme || url.scheme = "file" then Host.ofWeb chars
    else Host.ofOther chars
  let authority :=
    match url.authority with
    | some authority => { authority with host }
    | none => { host }
  return { url with authority := some authority }

end Url

end BlobTransfer
