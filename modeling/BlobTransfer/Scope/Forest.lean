import BlobTransfer.Scope.Timeline

/-!
The scopes of a program all together. Each is new or made out of an earlier one, and all are
numbered in the order in which they are made; so are the guards, which cancel a scope when they
are dropped.
-/

namespace BlobTransfer

inductive ScopeAct where
  | root
  | copy (number : Nat)
  /-- A scope that is cancelled with another one and has no deadline. -/
  | bind (number : Nat)
  | child (number : Nat)
  | childUntil (number deadline : Nat)
  | childFor (number : Nat) (timeout : Duration)
  | cancel (number : Nat)
  | guard (number : Nat)
  | dropGuard (guard : Nat)
  | wait (nanos : Nat)
  deriving DecidableEq, Repr

structure ScopeForest where
  /-- What the clock shows, in nanoseconds. -/
  now : Nat := 0
  scopes : Scopes := {}
  members : List Scope := []
  guards : List Scope := []
  deriving DecidableEq, Repr

namespace ScopeForest

def end? (forest : ScopeForest) (scope : Scope) : Option ScopeEnd :=
  forest.scopes.end? scope forest.now

def add (forest : ScopeForest) (made : Scope × Scopes) : ScopeForest :=
  { forest with scopes := made.2, members := forest.members ++ [made.1] }

def withMember (forest : ScopeForest) (number : Nat) (use : Scope → ScopeForest) : ScopeForest :=
  (forest.members[number]?).elim forest use

/-- A timeout whose end cannot be told makes no scope. -/
def perform (forest : ScopeForest) : ScopeAct → ScopeForest
  | .root => forest.add forest.scopes.root
  | .copy number => forest.withMember number fun scope => forest.add (scope, forest.scopes)
  | .bind number => forest.withMember number fun scope =>
      forest.add (scope.withoutDeadline, forest.scopes)
  | .child number => forest.withMember number fun scope => forest.add (forest.scopes.child scope)
  | .childUntil number deadline => forest.withMember number fun scope =>
      forest.add (forest.scopes.childUntil scope deadline)
  | .childFor number timeout =>
      if !timeout.hasEnd forest.now then forest
      else forest.withMember number fun scope =>
        forest.add (forest.scopes.childUntil scope (forest.now + timeout.nanos))
  | .cancel number => forest.withMember number fun scope =>
      { forest with scopes := forest.scopes.cancel scope }
  | .guard number => forest.withMember number fun scope =>
      { forest with guards := forest.guards ++ [scope] }
  | .dropGuard guard => (forest.guards[guard]?).elim forest fun scope =>
      { forest with scopes := forest.scopes.cancel scope }
  | .wait nanos => { forest with now := forest.now + nanos }

def performAll (forest : ScopeForest) (acts : List ScopeAct) : ScopeForest :=
  acts.foldl perform forest

end ScopeForest

end BlobTransfer
