import BlobTransfer.Blob.Span
import BlobTransfer.Body.Live
import BlobTransfer.Error.Transfer

/-!
A reader of one part of a blob over a series of responses. It holds at most one response at a
time; when that fails, the next one is asked for what has not been handed out yet, and for the
version that was seen first.
-/

namespace BlobTransfer

structure RangeReader where
  span : Span
  bounded : Bool
  body : Option LiveBody := none
  /-- Whether the response held last can be aborted. -/
  canForce : Bool := false
  forced : Bool := false
  retries : Nat
  deriving DecidableEq, Repr

structure FailedRead where
  failureCount : Nat
  error : IoError
  offset : Nat
  count : Option Nat
  willRetry : Bool
  deriving DecidableEq, Repr

namespace RangeReader

/-- Takes the body of a response. The first entity tag seen stays the one asked for. -/
def install (reader : RangeReader) (response : LiveResponse) : RangeReader :=
  { reader with
    span := { reader.span with etag := reader.span.etag.or response.etag }
    body := some (.ofResponse response)
    canForce := response.abortable
    forced := false }

def new (initial : Option LiveResponse) (span : Span) (retries : Nat) : RangeReader :=
  let reader : RangeReader := { span, bounded := span.count.isSome, retries }
  match initial with
  | some response => reader.install response
  | none => reader

def close (reader : RangeReader) : RangeReader := { reader with body := none }

/-- Aborts the response, so that its failure counts as one to retry after. -/
def force (reader : RangeReader) : RangeReader :=
  if reader.canForce then
    { reader with forced := true, body := reader.body.map LiveBody.abort }
  else reader

def isExhausted (reader : RangeReader) : Bool := reader.bounded && reader.span.count = some 0

def limit (reader : RangeReader) (size : Nat) : Nat :=
  match reader.span.count with
  | some count => min size count
  | none => size

def advance (reader : RangeReader) (body : LiveBody) (read : Nat) : RangeReader :=
  { reader with body := some body, span := reader.span.advance read }

def mayRetry (reader : RangeReader) (error : IoError) : Bool := error.isNetwork || reader.forced

def report (reader : RangeReader) (failures left : Nat) (error : IoError) : FailedRead where
  failureCount := failures + 1
  error := error
  offset := reader.span.offset
  count := reader.span.count
  willRetry := reader.mayRetry error && 0 < left

end RangeReader

end BlobTransfer
