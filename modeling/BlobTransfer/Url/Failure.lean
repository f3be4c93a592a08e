/-!
Why a text is no URL, or a host cannot be put into one.
-/

namespace BlobTransfer

inductive UrlFailure where
  | emptyHost
  | internationalName
  | domainCharacter
  | portNumber
  | ipv4Address
  | ipv6Address
  | noBase
  | hostlessUrl
  deriving DecidableEq, Repr

def UrlFailure.message : UrlFailure → String
  | .emptyHost => "empty host"
  | .internationalName => "invalid international domain name"
  | .domainCharacter => "invalid domain character"
  | .portNumber => "invalid port number"
  | .ipv4Address => "invalid IPv4 address"
  | .ipv6Address => "invalid IPv6 address"
  | .noBase => "relative URL without a base"
  | .hostlessUrl => "a cannot-be-a-base URL doesn’t have a host to set"

end BlobTransfer
