import Ftp.Text.Decimal

/-!
# Addresses

IPv4 addresses, the ranges that never leave a local network, and endpoints: an address with a port.
-/

namespace Ftp

/-- An IPv4 address, as its four octets. -/
structure IPv4 where
  a : UInt8
  b : UInt8
  c : UInt8
  d : UInt8
  deriving DecidableEq, Repr, Inhabited

/-- One end of a TCP connection. -/
structure Endpoint where
  ip : IPv4
  port : UInt16
  deriving DecidableEq, Repr, Inhabited

namespace IPv4

/-- The address that stands for every interface. -/
def any : IPv4 := ⟨0, 0, 0, 0⟩

def localhost : IPv4 := ⟨127, 0, 0, 1⟩

def octets (ip : IPv4) : List UInt8 :=
  [ip.a, ip.b, ip.c, ip.d]

/-- Dotted decimal notation. -/
def text (ip : IPv4) : Text :=
  Text.join '.' (ip.octets.map fun octet => Decimal.digits octet.toNat)

/-- One octet in dotted notation: at most three digits without leading zeros, and at most 255. -/
def octet? (s : Text) : Option UInt8 :=
  match Decimal.number? s with
  | some n =>
    if s.length ≤ 3 ∧ (s.length = 1 ∨ s.head? ≠ some '0') ∧ n ≤ 255 then some (UInt8.ofNat n)
    else none
  | none => none

/-- Reads dotted decimal notation. -/
def ofText? (s : Text) : Option IPv4 :=
  match (Text.split '.' s).mapM octet? with
  | some [a, b, c, d] => some ⟨a, b, c, d⟩
  | _ => none

/-- One of the ranges `10.0.0.0/8`, `172.16.0.0/12` and `192.168.0.0/16`. -/
def isPrivate (ip : IPv4) : Bool :=
  ip.a = 10 || (ip.a = 172 && 16 ≤ ip.b && ip.b ≤ 31) || (ip.a = 192 && ip.b = 168)

/-- The range `127.0.0.0/8`. -/
def isLoopback (ip : IPv4) : Bool :=
  ip.a = 127

/-- The range `169.254.0.0/16`. -/
def isLinkLocal (ip : IPv4) : Bool :=
  ip.a = 169 && ip.b = 254

/-- The address has a meaning in the local network only. -/
def isLocal (ip : IPv4) : Bool :=
  ip.isPrivate || ip.isLoopback || ip.isLinkLocal

end IPv4

/-- The address, a colon and the port. -/
def Endpoint.text (e : Endpoint) : Text :=
  e.ip.text ++ ':' :: Decimal.digits e.port.toNat

end Ftp
