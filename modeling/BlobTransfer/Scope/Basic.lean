import BlobTransfer.Error.Transfer
import BlobTransfer.Time.Duration

/-!
Scopes of operations. A scope ends when it or a scope that it was derived from is cancelled, or
when its deadline passes; a deadline is never later than that of the scope it was derived from.
Times are nanoseconds since the start.
-/

namespace BlobTransfer

structure Scope where
  /-- The marks whose cancellation ends the scope, its own one first. -/
  lineage : List Nat
  deadline : Option Nat := none
  deriving DecidableEq, Repr

inductive ScopeEnd where
  | canceled
  | deadlineExceeded
  deriving DecidableEq, Repr

def ScopeEnd.error : ScopeEnd → TransferError
  | .canceled => .canceled
  | .deadlineExceeded => .deadlineExceeded

namespace Scope

def withoutDeadline (scope : Scope) : Scope := { scope with deadline := none }

def hasExpired (scope : Scope) (now : Nat) : Bool := scope.deadline.any (· ≤ now)

def remaining (scope : Scope) (now : Nat) : Option Nat := scope.deadline.map (· - now)

end Scope

structure Scopes where
  fresh : Nat := 0
  canceled : List Nat := []
  deriving DecidableEq, Repr

namespace Scopes

def root (scopes : Scopes) : Scope × Scopes :=
  ({ lineage := [scopes.fresh] }, { scopes with fresh := scopes.fresh + 1 })

def child (scopes : Scopes) (scope : Scope) : Scope × Scopes :=
  ({ scope with lineage := scopes.fresh :: scope.lineage },
    { scopes with fresh := scopes.fresh + 1 })

def childUntil (scopes : Scopes) (scope : Scope) (deadline : Nat) : Scope × Scopes :=
  let (derived, scopes') := scopes.child scope
  let earliest :=
    match scope.deadline with
    | some current => min current deadline
    | none => deadline
  ({ derived with deadline := some earliest }, scopes')

def cancel (scopes : Scopes) (scope : Scope) : Scopes :=
  { scopes with canceled := scope.lineage.take 1 ++ scopes.canceled }

def cancelAll (scopes : Scopes) (ended : List Scope) : Scopes := ended.foldl cancel scopes

def isCanceled (scopes : Scopes) (scope : Scope) : Bool :=
  scope.lineage.any fun mark => scopes.canceled.contains mark

/-- Why a scope is over, if it is. Cancellation counts before the deadline. -/
def end? (scopes : Scopes) (scope : Scope) (now : Nat) : Option ScopeEnd :=
  if scopes.isCanceled scope then some .canceled
  else if scope.hasExpired now then some .deadlineExceeded
  else none

end Scopes

end BlobTransfer
