/-!
# Faults of URLs

Why a text is no URL.
-/

namespace EntityMapper.Url

/-- Why a text is no URL. -/
inductive Fault where
  | emptyHost
  | internationalName
  | port
  | ipv4Address
  | ipv6Address
  | hostCharacter
  | noScheme
deriving DecidableEq, Repr

def Fault.message : Fault → String
  | .emptyHost => "empty host"
  | .internationalName => "invalid international domain name"
  | .port => "invalid port number"
  | .ipv4Address => "invalid IPv4 address"
  | .ipv6Address => "invalid IPv6 address"
  | .hostCharacter => "invalid domain character"
  | .noScheme => "relative URL without a base"

end EntityMapper.Url
