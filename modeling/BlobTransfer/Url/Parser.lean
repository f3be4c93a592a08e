import BlobTransfer.Url.Basic

/-!
Reading URLs. Blanks around the text and line breaks within it are dropped, the path is freed
of dot segments, and whatever its part does not keep is escaped.
-/

namespace BlobTransfer.Url

def isBlankOrControl (c : Char) : Bool := c.toNat ≤ 0x20

def isLineBreakOrTab (c : Char) : Bool := c = '\t' || c = '\n' || c = '\r'

def cleaned (text : String) : List Char :=
  let trimmed := ((text.toList.dropWhile isBlankOrControl).reverse.dropWhile
    isBlankOrControl).reverse
  trimmed.filter fun c => !isLineBreakOrTab c

def isSchemeChar (c : Char) : Bool :=
  Ascii.isAlpha c || Ascii.isDigit c || c = '+' || c = '-' || c = '.'

def splitScheme? (chars : List Char) : Option (String × List Char) :=
  let name := chars.takeWhile isSchemeChar
  match name, chars.dropWhile isSchemeChar with
  | first :: _, ':' :: rest =>
      if Ascii.isAlpha first then some (String.ofList (name.map Ascii.lowerChar), rest) else none
  | _, _ => none

def cut (mark : Char) (chars : List Char) : List Char × Option (List Char) :=
  (chars.takeWhile (· ≠ mark),
    match chars.dropWhile (· ≠ mark) with
    | [] => none
    | _ :: rest => some rest)

/-! Paths. -/

def isSingleDot (segment : List Char) : Bool :=
  let name := segment.map Ascii.lowerChar
  name = ".".toList || name = "%2e".toList

def isDoubleDot (segment : List Char) : Bool :=
  let name := segment.map Ascii.lowerChar
  name = "..".toList || name = ".%2e".toList || name = "%2e.".toList || name = "%2e%2e".toList

def isDrive (segment : List Char) : Bool :=
  match segment with
  | [letter, mark] => Ascii.isAlpha letter && (mark = ':' || mark = '|')
  | _ => false

/-- The segments kept so far, last one first, without that one. A drive letter stays. -/
def dropLastSegment (file : Bool) (kept : List String) : List String :=
  match kept with
  | [only] => if file && isDrive only.toList then kept else []
  | _ :: rest => rest
  | [] => []

def addSegment (file : Bool) (kept : List String) (segment : List Char) : List String :=
  match segment with
  | [letter, _] =>
      if file && kept.isEmpty && isDrive segment then [String.ofList [letter, ':']]
      else String.ofList (Percent.encode Percent.keptInPath segment) :: kept
  | _ => String.ofList (Percent.encode Percent.keptInPath segment) :: kept

/-- Segments with every dot segment carried out. One at the end leaves an empty segment. -/
def resolve (file : Bool) (kept : List String) : List (List Char) → List String
  | [] => kept.reverse
  | [last] =>
      if isDoubleDot last then ("" :: dropLastSegment file kept).reverse
      else if isSingleDot last then ("" :: kept).reverse
      else (addSegment file kept last).reverse
  | segment :: rest =>
      if isDoubleDot segment then resolve file (dropLastSegment file kept) rest
      else if isSingleDot segment then resolve file kept rest
      else resolve file (addSegment file kept segment) rest

def isWebSlash (c : Char) : Bool := c = '/' || c = '\\'

def webPath (chars : List Char) : UrlPath :=
  let slashed := chars.map fun c => if c = '\\' then '/' else c
  let body :=
    match slashed with
    | '/' :: rest => rest
    | rest => rest
  .segments (resolve false [] (Form.split '/' body))

/-- A path on this machine, on which empty names at the front do not count. -/
def filePath (chars : List Char) : UrlPath :=
  let slashed := chars.map fun c => if c = '\\' then '/' else c
  let body :=
    match slashed with
    | '/' :: rest => rest
    | rest => rest
  let names := resolve true [] (Form.split '/' body)
  let named := names.dropWhile String.isEmpty
  .segments (if named.isEmpty then [""] else named)

def otherPath (chars : List Char) : UrlPath :=
  match chars with
  | [] => .segments []
  | '/' :: rest | rest => .segments (resolve false [] (Form.split '/' rest))

/-! Hosts with what stands around them. -/

def splitUser (chars : List Char) : Option (List Char) × List Char :=
  let host := (chars.reverse.takeWhile (· ≠ '@')).reverse
  if host.length = chars.length then (none, chars)
  else (some (chars.take (chars.length - host.length - 1)), host)

/-- The host up to the first colon and what follows it; colons in brackets do not count. -/
def splitPort (inBrackets : Bool) : List Char → List Char × Option (List Char)
  | [] => ([], none)
  | c :: rest =>
      if c = ':' && !inBrackets then ([], some rest)
      else
        let inside := if c = '[' then true else if c = ']' then false else inBrackets
        let (host, after) := splitPort inside rest
        (c :: host, after)

def parsePort (scheme : String) (digits : List Char) : Except UrlFailure (Option Nat) :=
  if !digits.all Ascii.isDigit || 65535 < Decimal.digitsValue digits then .error .portNumber
  else if digits.isEmpty || usualPort? scheme = some (Decimal.digitsValue digits) then .ok none
  else .ok (some (Decimal.digitsValue digits))

def parseAuthority (scheme : String) (chars : List Char) : Except UrlFailure Authority := do
  let (user, rest) := splitUser chars
  let (hostChars, portChars) := splitPort false rest
  if hostChars.isEmpty && (isWeb scheme || portChars.isSome || user.isSome) then
    throw .emptyHost
  let host ← if isWeb scheme then Host.ofWeb hostChars else Host.ofOther hostChars
  let portNumber ← parsePort scheme (portChars.getD [])
  let (userName, password) := cut ':' (user.getD [])
  let written := fun (part : List Char) => String.ofList (Percent.encode Percent.keptInUser part)
  return { userName := written userName, password := written (password.getD []), host, portNumber }

/-- A host of a file is that of another machine; this machine has an empty name. -/
def parseFileHost (chars : List Char) : Except UrlFailure Host := do
  if chars.isEmpty then return .name ""
  let host ← Host.ofWeb chars
  return if host = .name "localhost" then .name "" else host

def parseHierarchy (scheme : String) (chars : List Char) :
    Except UrlFailure (Option Authority × UrlPath) := do
  if isWeb scheme then
    let rest := chars.dropWhile isWebSlash
    let authority ← parseAuthority scheme (rest.takeWhile fun c => !isWebSlash c)
    return (some authority, webPath (rest.dropWhile fun c => !isWebSlash c))
  else if scheme = "file" then
    match chars with
    | first :: second :: rest =>
        let hostChars := rest.takeWhile fun c => !isWebSlash c
        if isWebSlash first && isWebSlash second && !isDrive hostChars then
          let host ← parseFileHost hostChars
          return (some { host }, filePath (rest.dropWhile fun c => !isWebSlash c))
        else if isWebSlash first && isWebSlash second then
          return (some { host := .name "" }, filePath rest)
        else return (some { host := .name "" }, filePath chars)
    | _ => return (some { host := .name "" }, filePath chars)
  else
    match chars with
    | '/' :: '/' :: rest =>
        let authority ← parseAuthority scheme (rest.takeWhile (· ≠ '/'))
        return (some authority, otherPath (rest.dropWhile (· ≠ '/')))
    | '/' :: _ => return (none, otherPath chars)
    | _ => return (none, .rootless (String.ofList (Percent.encode Percent.isPlain chars)))

def parse (text : String) : Except UrlFailure Url := do
  match splitScheme? (cleaned text) with
  | none => throw .noBase
  | some (scheme, rest) =>
      let (main, fragment) := cut '#' rest
      let (hierarchy, query) := cut '?' main
      let (authority, path) ← parseHierarchy scheme hierarchy
      let keptInQuery :=
        if isWeb scheme || scheme = "file" then Percent.keptInWebQuery else Percent.keptInQuery
      return {
        scheme, authority, path
        query := query.map fun chars => String.ofList (Percent.encode keptInQuery chars)
        fragment := fragment.map fun chars =>
          String.ofList (Percent.encode Percent.keptInFragment chars) }

end BlobTransfer.Url
