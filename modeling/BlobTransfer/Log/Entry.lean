import BlobTransfer.Http.Request
import BlobTransfer.Http.Response
import BlobTransfer.Log.Options
import BlobTransfer.Time.DurationText
import BlobTransfer.Url.Redaction

/-!
Entries of the request log: one before a try, one after it. Neither shows a signature or an
authorization.
-/

namespace BlobTransfer

structure LogEntry where
  level : LogLevel
  forced : Bool
  tryNumber : Nat
  status : Option StatusCode := none
  message : String
  hasBacktrace : Bool := false
  deriving DecidableEq, Repr

namespace LogEntry

def headersText (shown : HeaderName × HeaderValue → String) (headers : Headers) : String :=
  if headers.entries.isEmpty then ""
  else
    let texts := headers.entries.map fun entry => entry.1.text ++ ": " ++ shown entry
    " [" ++ ", ".intercalate texts ++ "]"

def hideAuthorization (entry : HeaderName × HeaderValue) : String :=
  if entry.1 = .authorization then hiddenText else entry.2.shown

def requestText (request : Request) : String :=
  request.method ++ " " ++ request.url.redact.text ++
    headersText hideAuthorization request.headers

def responseText (response : Response) : String :=
  " -- RESPONSE Status: " ++ response.status.text ++
    headersText (fun entry => entry.2.shown) response.headers

def outgoing (tryNumber : Nat) (request : Request) : LogEntry where
  level := .info
  forced := false
  tryNumber := tryNumber
  message := s!"==> OUTGOING REQUEST (Try={tryNumber}) " ++ requestText request

end LogEntry

namespace RequestLogOptions

def isSlow (options : RequestLogOptions) (elapsed : Duration) : Bool :=
  options.slowThreshold.any (· < elapsed)

def isUnexpected (options : RequestLogOptions) (status : StatusCode) : Bool :=
  (status.isClientError && !options.expectedStatuses.any (·.toNat = status.code)) ||
    status.isServerError

def level (options : RequestLogOptions) (outcome : Except TransferError Response)
    (elapsed : Duration) : LogLevel :=
  match outcome with
  | .error _ => .error
  | .ok response =>
      if options.isUnexpected response.status then .error
      else if options.isSlow elapsed then .warning
      else .info

def message (options : RequestLogOptions) (tryNumber : Nat) (request : Request)
    (outcome : Except TransferError Response) (elapsed total : Duration) : String :=
  let slow :=
    match options.slowThreshold with
    | some threshold => if threshold < elapsed then "[SLOW >" ++ threshold.text ++ "]" else ""
    | none => ""
  let result :=
    match outcome with
    | .error _ => "REQUEST ERROR "
    | .ok _ =>
        if options.level outcome elapsed = .error then "RESPONSE STATUS CODE ERROR "
        else "RESPONSE SUCCESSFULLY RECEIVED "
  let answer :=
    match outcome with
    | .error error => " -- ERROR: " ++ error.message
    | .ok response => LogEntry.responseText response
  s!"==> REQUEST/RESPONSE (Try={tryNumber}/" ++ elapsed.text ++ slow ++ ", OpTime=" ++
    total.text ++ ") -- " ++ result ++ LogEntry.requestText request ++ answer

/-- The entry after a try, unless its level is below the minimum and not forced. -/
def completed? (options : RequestLogOptions) (tryNumber : Nat) (request : Request)
    (outcome : Except TransferError Response) (elapsed total : Duration) : Option LogEntry :=
  let level := options.level outcome elapsed
  let allowed := options.minLevel.allows level
  let forced := options.forceLog && (level = .warning || level = .error)
  if allowed || forced then some {
    level
    forced := forced && !allowed
    tryNumber
    status := outcome.toOption.map (·.status)
    message := options.message tryNumber request outcome elapsed total
    hasBacktrace := level = .error }
  else none

end RequestLogOptions

end BlobTransfer
