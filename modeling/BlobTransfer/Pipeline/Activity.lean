import BlobTransfer.Pipeline.Attempt

/-!
What goes on for a request, from one wait to the next. Marks tell onlookers how far it has come and
change nothing.
-/

namespace BlobTransfer

inductive Activity (Service Mark Result : Type) where
  | done (result : Result) (progress : Progress Service)
  | halted (reason : Halt)
  | mark (note : Mark) (rest : Activity Service Mark Result)
  /-- Waits until it is woken, as far as it knows when that is. Whoever waits for it may give it up
  meanwhile. -/
  | wait (progress : Progress Service) (woken : Option Timeline)
      (resume : Progress Service → Activity Service Mark Result)
      (giveUp : Progress Service → Progress Service)

namespace Activity

variable {Service Mark Result Next : Type}

def bind (activity : Activity Service Mark Result)
    (next : Result → Progress Service → Activity Service Mark Next) :
    Activity Service Mark Next :=
  match activity with
  | .done result progress => next result progress
  | .halted reason => .halted reason
  | .mark note rest => .mark note (rest.bind next)
  | .wait progress woken resume giveUp =>
      .wait progress woken (fun progress => (resume progress).bind next) giveUp

/-- The marks that are set, and what comes of the activity, if nobody interferes. -/
def course : Activity Service Mark Result → List Mark × Except Halt (Result × Progress Service)
  | .done result progress => ([], .ok (result, progress))
  | .halted reason => ([], .error reason)
  | .mark note rest => (note :: rest.course.1, rest.course.2)
  | .wait progress (some timeline) resume _ => (resume { progress with timeline }).course
  | .wait _ none _ _ => ([], .error .forever)

def marks (activity : Activity Service Mark Result) : List Mark := activity.course.1

def run (activity : Activity Service Mark Result) : Except Halt (Result × Progress Service) :=
  activity.course.2

def unmarked : Activity Service Empty Result → Activity Service Mark Result
  | .done result progress => .done result progress
  | .halted reason => .halted reason
  | .mark note _ => note.elim
  | .wait progress woken resume giveUp =>
      .wait progress woken (fun progress => (resume progress).unmarked) giveUp

def releasing (release : Progress Service → Progress Service) :
    Activity Service Mark Result → Activity Service Mark Result
  | .done result progress => .done result progress
  | .halted reason => .halted reason
  | .mark note rest => .mark note (rest.releasing release)
  | .wait progress woken resume giveUp =>
      .wait progress woken (fun progress => (resume progress).releasing release)
        (fun progress => release (giveUp progress))

/-- What is woken no later than the scope ends goes on; else it is given up at the end of the
scope. -/
def guard (scope : Scope) : Activity Service Mark (Except TransferError Result) →
    Activity Service Mark (Except TransferError Result)
  | .done result progress => .done result progress
  | .halted reason => .halted reason
  | .mark note rest => .mark note (rest.guard scope)
  | .wait progress woken resume giveUp =>
      match progress.timeline.awaitEnd scope with
      | none => .wait progress woken (fun progress => (resume progress).guard scope) giveUp
      | some (reason, later) =>
          if woken.any (·.now ≤ later.now) then
            .wait progress woken (fun progress => (resume progress).guard scope) giveUp
          else
            .wait progress (some later)
              (fun progress => .done (.error reason.error) (giveUp progress)) giveUp

/-- An activity is not begun in a scope that is over, and given up when the scope ends. -/
def within (scope : Scope)
    (activity : Progress Service → Activity Service Mark (Except TransferError Result))
    (progress : Progress Service) : Activity Service Mark (Except TransferError Result) :=
  match progress.timeline.end? scope with
  | some reason => .done (.error reason.error) progress
  | none => (activity progress).guard scope

def sleep (scope : Scope) (duration : Duration) (progress : Progress Service) :
    Activity Service Mark (Except TransferError Unit) :=
  within scope (fun progress =>
    let woken := progress.timeline.advanceTo (progress.timeline.wake duration)
    .wait progress (some woken) (.done (.ok ())) id) progress

end Activity

end BlobTransfer
