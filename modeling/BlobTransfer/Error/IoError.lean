import BlobTransfer.Error.Network

/-!
Errors of byte streams: a kind and what lies behind it.
-/

namespace BlobTransfer

inductive IoKind where
  | notFound | permissionDenied | connectionRefused | connectionReset | hostUnreachable
  | networkUnreachable | connectionAborted | notConnected | addrInUse | addrNotAvailable
  | networkDown | brokenPipe | alreadyExists | wouldBlock | invalidInput | invalidData | timedOut
  | writeZero | storageFull | interrupted | unsupported | unexpectedEof | outOfMemory | other
  deriving DecidableEq, Repr

def IoKind.description : IoKind → String
  | .notFound => "entity not found"
  | .permissionDenied => "permission denied"
  | .connectionRefused => "connection refused"
  | .connectionReset => "connection reset"
  | .hostUnreachable => "host unreachable"
  | .networkUnreachable => "network unreachable"
  | .connectionAborted => "connection aborted"
  | .notConnected => "not connected"
  | .addrInUse => "address in use"
  | .addrNotAvailable => "address not available"
  | .networkDown => "network down"
  | .brokenPipe => "broken pipe"
  | .alreadyExists => "entity already exists"
  | .wouldBlock => "operation would block"
  | .invalidInput => "invalid input parameter"
  | .invalidData => "invalid data"
  | .timedOut => "timed out"
  | .writeZero => "write zero"
  | .storageFull => "no storage space"
  | .interrupted => "operation interrupted"
  | .unsupported => "unsupported"
  | .unexpectedEof => "unexpected end of file"
  | .outOfMemory => "out of memory"
  | .other => "other error"

def IoKind.names : List (String × IoKind) := [
  ("NotFound", .notFound), ("PermissionDenied", .permissionDenied),
  ("ConnectionRefused", .connectionRefused), ("ConnectionReset", .connectionReset),
  ("HostUnreachable", .hostUnreachable), ("NetworkUnreachable", .networkUnreachable),
  ("ConnectionAborted", .connectionAborted), ("NotConnected", .notConnected),
  ("AddrInUse", .addrInUse), ("AddrNotAvailable", .addrNotAvailable),
  ("NetworkDown", .networkDown), ("BrokenPipe", .brokenPipe), ("AlreadyExists", .alreadyExists),
  ("WouldBlock", .wouldBlock), ("InvalidInput", .invalidInput), ("InvalidData", .invalidData),
  ("TimedOut", .timedOut), ("WriteZero", .writeZero), ("StorageFull", .storageFull),
  ("Interrupted", .interrupted), ("Unsupported", .unsupported),
  ("UnexpectedEof", .unexpectedEof), ("OutOfMemory", .outOfMemory), ("Other", .other)]

def IoKind.name (kind : IoKind) : String :=
  ((names.find? fun entry => entry.2 = kind).map (·.1)).getD "Other"

def IoKind.ofName (name : String) : IoKind := (names.lookup name).getD .other

inductive IoCause where
  | kindOnly
  | text (message : String)
  | network (error : NetworkError)
  deriving DecidableEq, Repr

structure IoError where
  kind : IoKind
  cause : IoCause
  deriving DecidableEq, Repr

namespace IoError

def message (error : IoError) : String :=
  match error.cause with
  | .kindOnly => error.kind.description
  | .text message => message
  | .network inner => inner.message

/-- Whether the connection failed, rather than the data or the disk. A body cut short is not a
failure of the connection. -/
def isNetwork (error : IoError) : Bool :=
  match error.cause, error.kind with
  | .network _, _ => true
  | _, .connectionReset | _, .connectionAborted | _, .connectionRefused | _, .notConnected
  | _, .brokenPipe | _, .timedOut => true
  | _, _ => false

def ofNetwork (error : NetworkError) : IoError where
  kind :=
    match error.failure with
    | .temporary => .connectionReset
    | .timeout => .timedOut
    | .fatal => .connectionAborted
  cause := .network error

end IoError

end BlobTransfer
