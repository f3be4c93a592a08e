import BlobTransfer.Reader.Basic

/-!
A reader among tasks that may force a retry at any moment. A read goes on in small steps here;
between any two of them come the calls of the others. All handles of a reader share one state, so
it does not matter through which one a call comes, or when that was given out.
-/

namespace BlobTransfer

/-- How far a read has come: its size, and how many failures it has made up for. -/
inductive ReadPhase where
  | resting
  | reading (size failures : Nat)
  | asking (size failures : Nat)
  /-- The response has failed. It is let go of, but whether to retry is not decided yet. -/
  | judging (size failures : Nat) (error : IoError)

def ReadPhase.isJudging : ReadPhase → Bool
  | .judging _ _ _ => true
  | _ => false

structure ReaderState where
  reader : RangeReader
  phase : ReadPhase := .resting

inductive ReaderMove where
  | began (size : Nat)
  | asked (span : Span)
  | answered (response : LiveResponse)
  | refused (error : TransferError)
  | returned (bytes : Bytes)
  | failed (error : IoError)
  | judged (report : FailedRead)
  | left
  | waited (now limit : Nat)
  | changed (source : AbortableBody)
  | closed
  | forced

namespace ReaderState

def start (initial : Option LiveResponse) (span : Span) (retries : Nat) : ReaderState :=
  { reader := .new initial span retries }

def force (state : ReaderState) : ReaderState := { state with reader := state.reader.force }

/-- Whether a response is there to be aborted: one that is held, or one whose failure is still to
be judged. -/
def isEngaged (state : ReaderState) : Bool :=
  state.reader.canForce && (state.reader.body.isSome || state.phase.isJudging)

inductive Step : ReaderState → ReaderMove → ReaderState → Prop
  | begin {reader size} (positive : 0 < size) :
      Step ⟨reader, .resting⟩ (.began size) ⟨reader, .reading size 0⟩
  | ask {reader size failures} (unexhausted : reader.isExhausted = false)
      (unheld : reader.body = none) :
      Step ⟨reader, .reading size failures⟩ (.asked reader.span) ⟨reader, .asking size failures⟩
  | answer {reader size failures response} :
      Step ⟨reader, .asking size failures⟩ (.answered response)
        ⟨reader.install response, .reading size failures⟩
  | refuse {reader size failures error} :
      Step ⟨reader, .asking size failures⟩ (.refused error) ⟨reader, .resting⟩
  | exhaust {reader size failures} (exhausted : reader.isExhausted = true) :
      Step ⟨reader, .reading size failures⟩ (.returned []) ⟨reader, .resting⟩
  | take {reader size failures body bytes rest now time}
      (unexhausted : reader.isExhausted = false) (held : reader.body = some body)
      (given : body.read (reader.limit size) now none = some (.ok bytes, rest, time)) :
      Step ⟨reader, .reading size failures⟩ (.returned bytes)
        ⟨reader.advance rest bytes.length, .resting⟩
  | fail {reader size failures body error rest now time}
      (unexhausted : reader.isExhausted = false) (held : reader.body = some body)
      (given : body.read (reader.limit size) now none = some (.error error, rest, time)) :
      Step ⟨reader, .reading size failures⟩ (.failed error)
        ⟨reader.close, .judging size failures error⟩
  | judge {reader size failures error report}
      (reported : reader.report failures (reader.retries - failures) error = report) :
      Step ⟨reader, .judging size failures error⟩ (.judged report)
        ⟨reader, if report.willRetry then .reading size (failures + 1) else .resting⟩
  | leave {reader size failures} : Step ⟨reader, .reading size failures⟩ .left ⟨reader, .resting⟩
  | withdraw {reader size failures} :
      Step ⟨reader, .asking size failures⟩ .left ⟨reader, .resting⟩
  | wait {reader size failures body now limit} (held : reader.body = some body) :
      Step ⟨reader, .reading size failures⟩ (.waited now limit)
        ⟨{ reader with body := some (body.waitUntil now limit) }, .reading size failures⟩
  | change {reader phase body source} (held : reader.body = some body) :
      Step ⟨reader, phase⟩ (.changed source)
        ⟨{ reader with body := some { body with source } }, phase⟩
  | close {reader} : Step ⟨reader, .resting⟩ .closed ⟨reader.close, .resting⟩
  | force {reader phase} : Step ⟨reader, phase⟩ .forced ⟨reader.force, phase⟩

inductive Path : ReaderState → List ReaderMove → ReaderState → Prop
  | stay {state} : Path state [] state
  | step {state move middle later last} (first : Step state move middle)
      (rest : Path middle later last) : Path state (move :: later) last

end ReaderState

namespace ReaderMove

def bytes : ReaderMove → Bytes
  | .returned bytes => bytes
  | _ => []

def handedOut (moves : List ReaderMove) : Bytes := moves.flatMap bytes

def span? : ReaderMove → Option Span
  | .asked span => some span
  | _ => none

def report? : ReaderMove → Option FailedRead
  | .judged report => some report
  | _ => none

/-- The last move of a kind, with what it bore and what came after it. -/
def Since {Load : Type} (mark : Load → ReaderMove) (history : List ReaderMove)
    (Holds : Load → List ReaderMove → Prop) : Prop :=
  ∃ earlier load since, history = earlier ++ mark load :: since ∧
    (∀ other, mark other ∉ since) ∧ Holds load since

def Abortable (history : List ReaderMove) : Prop :=
  Since answered history fun response _ => response.abortable = true

/-- Whether a retry was forced after the last answer had come, and that one can be aborted. -/
def Forced (history : List ReaderMove) : Prop :=
  Since answered history fun response since => response.abortable = true ∧ forced ∈ since

def Reading (history : List ReaderMove) (size failures : Nat) : Prop :=
  Since began history fun began since => began = size ∧ (since.filterMap report?).length = failures

def JustFailed (history : List ReaderMove) (error : IoError) : Prop :=
  Since failed history fun failure since => failure = error ∧ ∀ move ∈ since, move = forced

end ReaderMove

end BlobTransfer
