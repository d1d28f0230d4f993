/-!
# Url problems — why a text is no address
-/

namespace Postbox.Url

/-- The reasons for which a text is refused as an address. -/
inductive Problem
  | emptyHost
  | domainName
  | portNumber
  | ipv4Address
  | ipv6Address
  | hostCharacter
  | relativeWithoutBase
  | relativeToFlatBase
deriving DecidableEq, Repr

/-- The wording of a reason. -/
def Problem.message : Problem → String
  | emptyHost           => "empty host"
  | domainName          => "invalid international domain name"
  | portNumber          => "invalid port number"
  | ipv4Address         => "invalid IPv4 address"
  | ipv6Address         => "invalid IPv6 address"
  | hostCharacter       => "invalid domain character"
  | relativeWithoutBase => "relative URL without a base"
  | relativeToFlatBase  => "relative URL with a cannot-be-a-base base"

end Postbox.Url
