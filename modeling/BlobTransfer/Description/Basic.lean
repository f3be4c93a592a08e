import BlobTransfer.Text.Quoted
import BlobTransfer.Time.Duration

/-!
Values in one line, for people who look for a fault: a record shows its name and its fields, and
two dots if there is more in it.
-/

namespace BlobTransfer.Description

def braced (items : List String) : String :=
  "\x7b" ++ ", ".intercalate items ++ "\x7d"

def record (name : String) (fields : List (String × String)) (isOpen : Bool) : String :=
  let shown := fields.map fun field => field.1 ++ ": " ++ field.2
  let items := if isOpen then shown ++ [".."] else shown
  name ++ " \x7b " ++ ", ".intercalate items ++ " \x7d"

def optional {α : Type} (text : α → String) : Option α → String
  | some value => "Some(" ++ text value ++ ")"
  | none => "None"

def quoted : Option String → String := optional Quoted.quote

def number (value : Nat) : String := toString value

def flag (value : Bool) : String := toString value

end BlobTransfer.Description
