import LogCourier.Net.IpAddress

/-!
# Socket addresses

An address with a port, and for version 6 a scope, as in `192.0.2.1:53` or
`[fe80::1%2]:53`.
-/

namespace LogCourier

/-- An address with a port; the scope is 0 except for version 6. -/
structure SocketAddress where
  ip : IpAddress
  scope : UInt32
  port : UInt16
  deriving DecidableEq, Repr

namespace SocketAddress

/-- Read a colon and a port. -/
def readPort (cs : List Char) : Option (UInt16 × List Char) := do
  let (n, rest) ← IpAddress.readNumber 10 65536 none (← IpAddress.readChar ':' cs)
  return (.ofNat n, rest)

/-- Read a percent sign and the number of a scope, if there is one. -/
def readScope (cs : List Char) : UInt32 × List Char :=
  match IpAddress.readChar '%' cs >>= IpAddress.readNumber 10 UInt32.size none with
  | some (n, rest) => (.ofNat n, rest)
  | none => (0, cs)

/-- Read a socket address at the front of a text. -/
def read (cs : List Char) : Option (SocketAddress × List Char) :=
  let plain := do
    let ((a, b, c, d), rest) ← IpAddress.readV4 cs
    let (port, rest) ← readPort rest
    return (⟨.v4 a b c d, 0, port⟩, rest)
  let bracketed := do
    let (groups, rest) ← IpAddress.readV6 (← IpAddress.readChar '[' cs)
    let (scope, rest) := readScope rest
    let (port, rest) ← readPort (← IpAddress.readChar ']' rest)
    return (⟨.v6 groups, scope, port⟩, rest)
  plain <|> bracketed

/-- The socket address that a text names. -/
def parse? (s : String) : Option SocketAddress :=
  match read s.toList with
  | some (a, []) => some a
  | _ => none

/-- The text of a socket address. -/
def text (a : SocketAddress) : String :=
  let port := ":" ++ Decimal.text a.port.toNat
  match a.ip with
  | .v4 .. => a.ip.text ++ port
  | .v6 _ =>
    let scope := if a.scope = 0 then "" else "%" ++ Decimal.text a.scope.toNat
    "[" ++ a.ip.text ++ scope ++ "]" ++ port

end SocketAddress

end LogCourier
