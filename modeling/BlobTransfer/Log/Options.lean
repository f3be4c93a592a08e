import BlobTransfer.Time.Duration

/-!
Which requests are logged, and how loudly.
-/

namespace BlobTransfer

inductive LogLevel where
  | none
  | error
  | warning
  | info
  | debug
  deriving DecidableEq, Repr

namespace LogLevel

def rank : LogLevel → Nat
  | .none => 0
  | .error => 1
  | .warning => 2
  | .info => 3
  | .debug => 4

def label : LogLevel → String
  | .none => "NONE"
  | .error => "ERROR"
  | .warning => "WARN"
  | .info => "INFO"
  | .debug => "DEBUG"

def compare (left right : LogLevel) : Ordering := Ord.compare left.rank right.rank

def allows (minimum level : LogLevel) : Bool :=
  minimum ≠ .none && level ≠ .none && level.rank ≤ minimum.rank

end LogLevel

structure RequestLogOptions where
  minLevel : LogLevel := .info
  /-- Tries that take longer are logged as warnings; without it none are. -/
  slowThreshold : Option Duration := some (.ofSeconds 3)
  expectedStatuses : List UInt16 := [404, 409, 412, 416]
  forceLog : Bool := true
  deriving DecidableEq, Repr

end BlobTransfer
