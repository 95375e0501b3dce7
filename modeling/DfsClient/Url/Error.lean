/-! Why a text is no URL. -/

namespace DfsClient.Url

inductive Error where
  | emptyHost
  | badDomainName
  | badPort
  | badIpv4
  | badIpv6
  | badDomainCharacter
  | relative
deriving DecidableEq, Repr

def Error.message : Error → String
  | .emptyHost => "empty host"
  | .badDomainName => "invalid international domain name"
  | .badPort => "invalid port number"
  | .badIpv4 => "invalid IPv4 address"
  | .badIpv6 => "invalid IPv6 address"
  | .badDomainCharacter => "invalid domain character"
  | .relative => "relative URL without a base"

end DfsClient.Url
