import BlobTransfer.Bytes
import BlobTransfer.Error.IoError

/-!
Bodies that arrive piece by piece. A body goes on after an error; a silent one never answers
again.
-/

namespace BlobTransfer

inductive BodyEvent where
  | data (bytes : Bytes)
  | failure (error : IoError)
  | delay (millis : Nat)
  | silence
  deriving DecidableEq, Repr

structure Body where
  events : List BodyEvent := []
  wakeAt : Option Nat := none
  deriving DecidableEq, Repr

abbrev BodyItem := Except IoError Bytes

namespace Body

def ofBytes (bytes : Bytes) : Body := ⟨[.data bytes], none⟩

def nextEvent (skipped : Bytes → Bool) (now : Nat) (wakeAt : Option Nat) :
    List BodyEvent → Option (Option BodyItem × Body × Nat)
  | [] => some (none, {}, now)
  | .data bytes :: rest =>
      if skipped bytes then nextEvent skipped now none rest
      else some (some (.ok bytes), { events := rest }, now)
  | .failure error :: rest => some (some (.error error), { events := rest }, now)
  | .silence :: _ => none
  | .delay millis :: rest => nextEvent skipped (max now (wakeAt.getD (now + millis))) none rest

/-- The next item or the end, what follows, and when it comes, if ever. Some data may be
skipped. -/
def next (body : Body) (skipped : Bytes → Bool) (now : Nat) :
    Option (Option BodyItem × Body × Nat) :=
  nextEvent skipped now body.wakeAt body.events

def waitEvents (skipped : Bytes → Bool) (now limit : Nat) (wakeAt : Option Nat) :
    List BodyEvent → Body
  | .delay millis :: rest =>
      let wake := wakeAt.getD (now + millis)
      if wake < limit then waitEvents skipped (max now wake) limit none rest
      else ⟨.delay millis :: rest, some wake⟩
  | .data bytes :: rest =>
      if skipped bytes then waitEvents skipped now limit none rest
      else { events := .data bytes :: rest }
  | events => { events }

def waitUntil (body : Body) (skipped : Bytes → Bool) (now limit : Nat) : Body :=
  waitEvents skipped now limit body.wakeAt body.events

def drainEvents (now : Nat) (wakeAt : Option Nat) :
    List BodyEvent → Option (List BodyItem × Nat)
  | [] => some ([], now)
  | .data bytes :: rest => (drainEvents now none rest).map fun (items, time) =>
      (.ok bytes :: items, time)
  | .failure error :: rest => (drainEvents now none rest).map fun (items, time) =>
      (.error error :: items, time)
  | .silence :: _ => none
  | .delay millis :: rest => drainEvents (max now (wakeAt.getD (now + millis))) none rest

def drain (body : Body) (now : Nat) : Option (List BodyItem × Nat) :=
  drainEvents now body.wakeAt body.events

def collectEvents (now : Nat) (wakeAt : Option Nat) (collected : Bytes) :
    List BodyEvent → Option (BodyItem × Nat)
  | [] => some (.ok collected, now)
  | .data bytes :: rest => collectEvents now none (collected ++ bytes) rest
  | .failure error :: _ => some (.error error, now)
  | .silence :: _ => none
  | .delay millis :: rest =>
      collectEvents (max now (wakeAt.getD (now + millis))) none collected rest

def collect (body : Body) (now : Nat) : Option (BodyItem × Nat) :=
  collectEvents now body.wakeAt [] body.events

end Body

end BlobTransfer
