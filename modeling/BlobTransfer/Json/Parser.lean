import BlobTransfer.Json.Token
import BlobTransfer.Json.Value

/-!
JSON values put together from tokens, with the containers that are still open kept on a stack.
-/

namespace BlobTransfer.Json

/-- An open container, what it holds so far last one first. -/
inductive Frame where
  | array (items : List Json)
  | object (members : List (Option String × Json)) (name : Option String)

inductive Expectation where
  | value
  | valueOrClose
  | name
  | nameOrClose
  | colon
  | commaOrClose
  | nothing
  deriving DecidableEq, Repr

structure Assembly where
  expects : Expectation := .value
  stack : List Frame := []
  result : Option Json := none

namespace Assembly

def place (stack : List Frame) (value : Json) : Assembly :=
  match stack with
  | [] => ⟨.nothing, [], some value⟩
  | .array items :: rest => ⟨.commaOrClose, .array (value :: items) :: rest, none⟩
  | .object members name :: rest =>
      ⟨.commaOrClose, .object ((name, value) :: members) none :: rest, none⟩

def close (stack : List Frame) (token : Token) : Option Assembly :=
  match token, stack with
  | .closeArray, .array items :: rest => some (place rest (.array items.reverse))
  | .closeObject, .object members _ :: rest => some (place rest (.object members.reverse))
  | _, _ => none

def value (stack : List Frame) (token : Token) : Option Assembly :=
  match token with
  | .null => some (place stack .null)
  | .bool value => some (place stack (.bool value))
  | .integer value => some (place stack (.integer value))
  | .fraction => some (place stack .fraction)
  | .string (some text) => some (place stack (.string text))
  | .string none => some (place stack .brokenString)
  | .openArray => some ⟨.valueOrClose, .array [] :: stack, none⟩
  | .openObject => some ⟨.nameOrClose, .object [] none :: stack, none⟩
  | _ => none

def memberName (stack : List Frame) (token : Token) : Option Assembly :=
  match token, stack with
  | .string name, .object members _ :: rest => some ⟨.colon, .object members name :: rest, none⟩
  | _, _ => none

def comma (stack : List Frame) : Option Assembly :=
  match stack with
  | .array _ :: _ => some ⟨.value, stack, none⟩
  | .object _ _ :: _ => some ⟨.name, stack, none⟩
  | [] => none

def step (assembly : Assembly) (token : Token) : Option Assembly :=
  let stack := assembly.stack
  match assembly.expects with
  | .value => value stack token
  | .valueOrClose => (close stack token).orElse fun _ => value stack token
  | .name => memberName stack token
  | .nameOrClose => (close stack token).orElse fun _ => memberName stack token
  | .colon => if token = .colon then some { assembly with expects := .value } else none
  | .commaOrClose => if token = .comma then comma stack else close stack token
  | .nothing => none

end Assembly

def parse? (text : String) : Option Json := do
  let tokens ← tokens? text
  let assembly ← tokens.foldlM Assembly.step {}
  assembly.result

end BlobTransfer.Json
