import BlobTransfer.Scope.Basic

/-!
Scopes on a clock. Timers ring at whole milliseconds, so a deadline between two of them is
noticed at the later one. Cancellations may be planned ahead.
-/

namespace BlobTransfer

def millisAtOrAfter (instant : Nat) : Nat := (instant + nanosPerMilli - 1) / nanosPerMilli

/-- The last instant that can be told: instants have 63 bits of seconds. -/
def lastInstant : Nat := Nat.pow 2 63 * nanosPerSecond - 1

def Duration.hasEnd (duration : Duration) (instant : Nat) : Bool :=
  duration.nanos ≤ lastInstant - instant

/-- Thirty years, which is how long a sleep lasts whose end cannot be told. -/
def longestSleep : Nat := 30 * 365 * 86400 * nanosPerSecond

def earlier? : Option Nat → Option Nat → Option Nat
  | some left, some right => some (min left right)
  | some left, none => some left
  | none, right => right

structure Timeline where
  /-- Milliseconds since the start. -/
  now : Nat := 0
  scopes : Scopes := {}
  planned : List (Nat × Scope) := []
  /-- What is seen first of a scope that has been cancelled and is past its deadline, by those who
  wait for either. Nothing orders the two. -/
  firstSeen : ScopeEnd := .canceled
  /-- What the clock showed at the start, in nanoseconds. -/
  origin : Nat := 0
  deriving DecidableEq, Repr

inductive Waited where
  | finished
  | ended (reason : ScopeEnd)
  deriving DecidableEq, Repr

namespace Timeline

def instant (timeline : Timeline) : Nat := timeline.now * nanosPerMilli

/-- Whether the clock goes so much further. -/
def spans (timeline : Timeline) (duration : Duration) : Bool :=
  duration.hasEnd (timeline.origin + timeline.instant)

def wake (timeline : Timeline) (duration : Duration) : Nat :=
  millisAtOrAfter (timeline.instant +
    if timeline.spans duration then duration.nanos else longestSleep)

def end? (timeline : Timeline) (scope : Scope) : Option ScopeEnd :=
  timeline.scopes.end? scope timeline.instant

def isOver (timeline : Timeline) (scope : Scope) : Bool := (timeline.end? scope).isSome

def cancel (timeline : Timeline) (scope : Scope) : Timeline :=
  { timeline with scopes := timeline.scopes.cancel scope }

def cancelAll (timeline : Timeline) (scopes : List Scope) : Timeline :=
  { timeline with scopes := timeline.scopes.cancelAll scopes }

def plan (timeline : Timeline) (scope : Scope) (time : Nat) : Timeline :=
  { timeline with planned := timeline.planned ++ [(time, scope)] }

def root (timeline : Timeline) : Scope × Timeline :=
  let (scope, scopes) := timeline.scopes.root
  (scope, { timeline with scopes })

def child (timeline : Timeline) (scope : Scope) : Scope × Timeline :=
  let (derived, scopes) := timeline.scopes.child scope
  (derived, { timeline with scopes })

def childUntil (timeline : Timeline) (scope : Scope) (deadline : Nat) : Scope × Timeline :=
  let (derived, scopes) := timeline.scopes.childUntil scope deadline
  (derived, { timeline with scopes })

def childFor (timeline : Timeline) (scope : Scope) (timeout : Duration) : Scope × Timeline :=
  timeline.childUntil scope (timeline.instant + timeout.nanos)

def carryOut (timeline : Timeline) (due : Nat → Bool) : Timeline :=
  { timeline with
    scopes := timeline.scopes.cancelAll
      ((timeline.planned.filter fun entry => due entry.1).map (·.2))
    planned := timeline.planned.filter fun entry => !due entry.1 }

/-- The clock moved on. Who waits for a time is served before what is planned for it. -/
def advanceTo (timeline : Timeline) (time : Nat) : Timeline :=
  { timeline.carryOut (· < time) with now := max timeline.now time }

/-- The clock moved on, with what is planned for the time as well. -/
def advanceThrough (timeline : Timeline) (time : Nat) : Timeline :=
  { timeline.carryOut (· ≤ time) with now := max timeline.now time }

def cancellation? (timeline : Timeline) (scope : Scope) : Option Nat :=
  if timeline.scopes.isCanceled scope then some timeline.now
  else
    (timeline.planned.filter fun entry => entry.2.lineage.head?.any scope.lineage.contains).foldl
      (fun earliest entry => earlier? earliest (some (max timeline.now entry.1))) none

def endAhead? (timeline : Timeline) (scope : Scope) : Option (ScopeEnd × Timeline) :=
  let deadline? := scope.deadline.map fun deadline =>
    max timeline.now (millisAtOrAfter deadline)
  match timeline.cancellation? scope, deadline? with
  | some canceled, some deadline =>
      if canceled < deadline then some (.canceled, timeline.advanceThrough canceled)
      else some (.deadlineExceeded, timeline.advanceTo deadline)
  | some canceled, none => some (.canceled, timeline.advanceThrough canceled)
  | none, some deadline => some (.deadlineExceeded, timeline.advanceTo deadline)
  | none, none => none

/-- Why the scope is over, if it is, told by a race between cancellation and deadline. -/
def race (timeline : Timeline) (scope : Scope) : Option ScopeEnd :=
  let canceled := if timeline.scopes.isCanceled scope then some .canceled else none
  let expired := if scope.hasExpired timeline.instant then some .deadlineExceeded else none
  match timeline.firstSeen with
  | .canceled => canceled.or expired
  | .deadlineExceeded => expired.or canceled

def awaitEnd (timeline : Timeline) (scope : Scope) : Option (ScopeEnd × Timeline) :=
  match timeline.race scope with
  | some reason => some (reason, timeline)
  | none => timeline.endAhead? scope

/-- Waits for work that is ready at a time or never. Work is not begun in a scope that is over;
work ready at the very end of the scope still counts. -/
def run (timeline : Timeline) (scope : Scope) (readyAt : Option Nat) :
    Option (Waited × Timeline) :=
  match timeline.end? scope with
  | some reason => some (.ended reason, timeline)
  | none =>
      match readyAt, timeline.endAhead? scope with
      | some ready, some (reason, later) =>
          if ready ≤ later.now then some (.finished, timeline.advanceTo ready)
          else some (.ended reason, later)
      | some ready, none => some (.finished, timeline.advanceTo ready)
      | none, some (reason, later) => some (.ended reason, later)
      | none, none => none

def sleep (timeline : Timeline) (scope : Scope) (duration : Duration) :
    Option (Waited × Timeline) :=
  timeline.run scope (some (timeline.wake duration))

end Timeline

end BlobTransfer
