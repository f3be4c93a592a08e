import BlobTransfer.Scope.Timeline

/-!
Work that is waited for in a scope, one look after the other. Anything may happen between two looks,
and what the work does when it is asked may cancel scopes, its own one among them.
-/

namespace BlobTransfer

/-- Work that is asked whether it is done by now. -/
abbrev Work (State Result : Type) := State → Timeline → Option Result × State × Timeline

def Work.readyAt (time : Option Nat) : Work Unit Unit := fun state timeline =>
  (if time.any (· ≤ timeline.now) then some () else none, state, timeline)

def Waited.outcome : Waited → Except ScopeEnd Unit
  | .finished => .ok ()
  | .ended reason => .error reason

namespace Timeline

variable {State Result : Type}

/-- A look at work that is waited for. The work is asked first; who wins the race for the end of the
scope is looked at only if there is no result. -/
def attend (timeline : Timeline) (work : Work State Result) (scope : Scope) (state : State) :
    Option (Except ScopeEnd Result) × State × Timeline :=
  match work state timeline with
  | (some result, asked) => (some (.ok result), asked)
  | (none, state, later) => ((later.race scope).map .error, state, later)

def attendAll (timeline : Timeline) (work : Work State Result) (scope : Scope) (state : State) :
    (events : List (Timeline → Timeline)) → Option (Except ScopeEnd Result) × State × Timeline
  | [] => timeline.attend work scope state
  | event :: others =>
      match timeline.attend work scope state with
      | (some told, asked) => (some told, asked)
      | (none, state, later) => (event later).attendAll work scope state others

/-- Work is not begun in a scope that is over. -/
def drive (timeline : Timeline) (work : Work State Result) (scope : Scope) (state : State)
    (events : List (Timeline → Timeline)) :
    Option (Except ScopeEnd Result) × State × Timeline :=
  match timeline.end? scope with
  | some reason => (some (.error reason), state, timeline)
  | none => timeline.attendAll work scope state events

end Timeline

end BlobTransfer
