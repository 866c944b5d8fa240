import Contest.Crystal

/-!
# The configuration

What the server reads from its environment, and the one question that it asks of the C library:
whether a text is the literal of an IP address.
-/

namespace Contest

/-- A `Socket::IPAddress`. -/
structure IPAddress where
  /-- The IP literal. -/
  address : Text
  /-- The port. -/
  port : Int
deriving DecidableEq, Repr

/-- The constants of `Conf`, with the address parser of the C library. -/
structure Conf where
  /-- `SERVER_IP_ADDRESS`. -/
  serverIpAddress : Text
  /-- `DEFAULT_SIP_PORT`. -/
  defaultSipPort : Int
  /-- Whether `inet_pton` accepts the text, as IPv4 or as IPv6. -/
  inetPton : Text → Bool

/-- The configured address consists of symbols that IP literals have. -/
def Conf.IsLiteral (conf : Conf) : Prop :=
  ∀ c ∈ conf.serverIpAddress, c.isAlphanum = true ∨ c = '.' ∨ c = ':'

/-- `Socket::IPAddress.new`. -/
def IPAddress.new (conf : Conf) (address : Text) (port : Int) : Fallible IPAddress :=
  if conf.inetPton address then .ok ⟨address, port⟩ else .error .socketError

end Contest
