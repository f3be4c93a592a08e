/-!
The part of a blob that is still to be read, and how a request asks for it.
-/

namespace BlobTransfer

def largestOffset : Nat := UInt64.size - 1

structure Span where
  /-- Of 64 bits, which all bytes of a blob are taken to fit in. -/
  offset : Nat := 0
  /-- Bytes still wanted; without it, all up to the end. -/
  count : Option Nat := none
  etag : Option String := none
  deriving DecidableEq, Repr

namespace Span

def advance (span : Span) (read : Nat) : Span :=
  { span with offset := span.offset + read, count := span.count.map (· - read) }

/-- The first and the last byte asked for; without a last one the range is open. -/
def range (span : Span) : Nat × Option Nat :=
  match span.count with
  | some (count + 1) => (span.offset, some (min (span.offset + count) largestOffset))
  | _ => (span.offset, none)

def header (span : Span) : String :=
  match span.range with
  | (first, some last) => s!"bytes={first}-{last}"
  | (first, none) => s!"bytes={first}-"

end Span

end BlobTransfer
