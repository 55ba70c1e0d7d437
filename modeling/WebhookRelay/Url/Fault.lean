/-!
# What can be wrong with a URL
-/

namespace WebhookRelay.Url

/-- Why a text is no absolute URL. -/
inductive Fault where
  /-- it does not begin with a scheme -/
  | relative
  /-- it names no host -/
  | emptyHost
  /-- what stands for the port is no port -/
  | badPort
  /-- what stands for the host is no domain -/
  | badDomain
  /-- the host holds characters that no host may hold -/
  | badCharacter
  /-- the host looks like an IPv4 address and is none -/
  | badIpv4
  /-- the host stands in brackets and is no IPv6 address -/
  | badIpv6
  deriving DecidableEq, Repr

/-- The text of a fault. -/
def Fault.message : Fault → String
  | relative => "relative URL without a base"
  | emptyHost => "empty host"
  | badPort => "invalid port number"
  | badDomain => "invalid international domain name"
  | badCharacter => "invalid domain character"
  | badIpv4 => "invalid IPv4 address"
  | badIpv6 => "invalid IPv6 address"

end WebhookRelay.Url
