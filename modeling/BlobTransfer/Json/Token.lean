import BlobTransfer.Bytes
import BlobTransfer.Text.Ascii
import BlobTransfer.Text.Decimal

/-!
JSON texts cut into tokens, one character at a time.
-/

namespace BlobTransfer.Json

inductive Token where
  | openArray | closeArray | openObject | closeObject | comma | colon
  | null
  | bool (value : Bool)
  | integer (value : Int)
  | fraction
  /-- Absent where an escape names half a surrogate pair. -/
  | string (text : Option String)
  deriving DecidableEq, Repr

inductive Escape where
  | none
  | begun
  | unit (digits : List Char)
  deriving DecidableEq, Repr

/-- What the lexer is in the middle of; characters and code units come last one first. -/
inductive Lexing where
  | between
  | bare (chars : List Char)
  | quoted (units : List Nat) (escape : Escape)
  deriving DecidableEq, Repr

structure Lexer where
  state : Lexing := .between
  tokens : List Token := []

def isHigh (unit : Nat) : Bool := 0xd800 ≤ unit && unit < 0xdc00
def isLow (unit : Nat) : Bool := 0xdc00 ≤ unit && unit < 0xe000

def joinUnits : List Nat → Option (List Char)
  | [] => some []
  | [unit] => if isHigh unit || isLow unit then none else some [Char.ofNat unit]
  | unit :: next :: rest =>
      if isHigh unit then
        if isLow next then
          (joinUnits rest).map
            (Char.ofNat (0x10000 + (unit - 0xd800) * 0x400 + (next - 0xdc00)) :: ·)
        else none
      else if isLow unit then none
      else (joinUnits (next :: rest)).map (Char.ofNat unit :: ·)

def isInteger (digits : List Char) : Bool :=
  match digits with
  | ['0'] => true
  | first :: rest => first != '0' && Ascii.isDigit first && rest.all Ascii.isDigit
  | [] => false

def isExponent (chars : List Char) : Bool :=
  let digits :=
    match chars with
    | '+' :: rest | '-' :: rest => rest
    | _ => chars
  !digits.isEmpty && digits.all Ascii.isDigit

def isFraction (chars : List Char) : Bool :=
  !chars.isEmpty && chars.all Ascii.isDigit

def number? (chars : List Char) : Option Token :=
  let negative := chars.head? = some '-'
  let unsigned := if negative then chars.drop 1 else chars
  let isMark := fun c => c = '.' || c = 'e' || c = 'E'
  let whole := unsigned.takeWhile (!isMark ·)
  let afterWhole := unsigned.dropWhile (!isMark ·)
  if !isInteger whole then none
  else
    let isExponentMark := fun c => c = 'e' || c = 'E'
    match afterWhole with
    | [] =>
        let magnitude := Decimal.digitsValue whole
        if !negative then some (.integer magnitude)
        else if magnitude = 0 then some .fraction
        else some (.integer (-(magnitude : Int)))
    | '.' :: rest =>
        let decimals := rest.takeWhile (!isExponentMark ·)
        match rest.dropWhile (!isExponentMark ·) with
        | [] => if isFraction decimals then some .fraction else none
        | _ :: digits => if isFraction decimals && isExponent digits then some .fraction else none
    | _ :: digits => if isExponent digits then some .fraction else none

def bare? (chars : List Char) : Option Token :=
  if chars = "null".toList then some .null
  else if chars = "true".toList then some (.bool true)
  else if chars = "false".toList then some (.bool false)
  else number? chars

def mark? (c : Char) : Option Token :=
  if c = '[' then some .openArray
  else if c = ']' then some .closeArray
  else if c = '\x7b' then some .openObject
  else if c = '\x7d' then some .closeObject
  else if c = ',' then some .comma
  else if c = ':' then some .colon
  else none

def isSpace (c : Char) : Bool := c = ' ' || c = '\n' || c = '\t' || c = '\r'

def Lexer.begin (tokens : List Token) (c : Char) : Lexer :=
  if isSpace c then ⟨.between, tokens⟩
  else if c = '"' then ⟨.quoted [] .none, tokens⟩
  else
    match mark? c with
    | some token => ⟨.between, token :: tokens⟩
    | none => ⟨.bare [c], tokens⟩

def escaped? (c : Char) : Option Nat :=
  if c = '"' || c = '\\' || c = '/' then some c.toNat
  else if c = 'b' then some 8
  else if c = 'f' then some 12
  else if c = 'n' then some 10
  else if c = 'r' then some 13
  else if c = 't' then some 9
  else none

def hexUnit? (digits : List Char) : Option Nat :=
  digits.foldlM (fun value digit => (Bytes.hexValue? digit).map (value * 16 + ·)) 0

def Lexer.step (lexer : Lexer) (c : Char) : Option Lexer :=
  match lexer.state with
  | .between => some (Lexer.begin lexer.tokens c)
  | .bare chars =>
      if isSpace c || c = '"' || (mark? c).isSome then do
        let token ← bare? chars.reverse
        return Lexer.begin (token :: lexer.tokens) c
      else some { lexer with state := .bare (c :: chars) }
  | .quoted units .none =>
      if c = '"' then
        some ⟨.between, .string ((joinUnits units.reverse).map String.ofList) :: lexer.tokens⟩
      else if c = '\\' then some { lexer with state := .quoted units .begun }
      else if c.toNat < 0x20 then none
      else some { lexer with state := .quoted (c.toNat :: units) .none }
  | .quoted units .begun =>
      if c = 'u' then some { lexer with state := .quoted units (.unit []) }
      else (escaped? c).map fun code => { lexer with state := .quoted (code :: units) .none }
  | .quoted units (.unit digits) =>
      if digits.length < 3 then some { lexer with state := .quoted units (.unit (c :: digits)) }
      else
        (hexUnit? (c :: digits).reverse).map fun unit =>
          { lexer with state := .quoted (unit :: units) .none }

def Lexer.finish (lexer : Lexer) : Option (List Token) :=
  match lexer.state with
  | .between => some lexer.tokens.reverse
  | .bare chars => (bare? chars.reverse).map fun token => (token :: lexer.tokens).reverse
  | .quoted _ _ => none

def tokens? (text : String) : Option (List Token) := do
  let lexer ← text.toList.foldlM Lexer.step {}
  lexer.finish

end BlobTransfer.Json
