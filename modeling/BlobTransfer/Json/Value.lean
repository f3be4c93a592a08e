/-!
JSON values. Members keep their order and may repeat a name. A string whose escapes name half a
surrogate pair is well formed but holds no text.
-/

namespace BlobTransfer

inductive Json where
  | null
  | bool (value : Bool)
  | integer (value : Int)
  | fraction
  | string (text : String)
  | brokenString
  | array (items : List Json)
  /-- A name is absent where it holds no text. -/
  | object (members : List (Option String × Json))
  deriving Repr

namespace Json

def natural (value : Nat) : Json := .integer value

def record (members : List (String × Json)) : Json :=
  .object (members.map fun member => (some member.1, member.2))

def ofOption {α : Type} (encode : α → Json) : Option α → Json
  | some value => encode value
  | none => .null

end Json

end BlobTransfer
