import BlobTransfer.Error.Transfer
import BlobTransfer.Http.Header
import BlobTransfer.Pipeline.Options

/-!
The user agent that requests are sent with: the caller's own text, then program and platform.
-/

namespace BlobTransfer

structure Platform where
  system : String
  architecture : String
  deriving DecidableEq, Repr

namespace Platform

def text (platform : Platform) : String :=
  "dog-transfer/0.1.0 (" ++ platform.system ++ "; " ++ platform.architecture ++ ")"

def userAgent (platform : Platform) (options : TelemetryOptions) :
    Except TransferError HeaderValue :=
  let text :=
    if options.value.isEmpty then platform.text else options.value ++ " " ++ platform.text
  match HeaderValue.ofText? text with
  | some value => .ok value
  | none => .error (.invalid .userAgent)

end Platform

end BlobTransfer
