import Friendship.Arithmetic
import Friendship.Network.Ip

/-!
# Socket addresses

An internet address and a port. An address of version 6 stands in brackets and may have a scope.
-/

namespace Friendship.Network

inductive SocketAddress
  | v4 (ip : Ipv4) (port : UInt16)
  | v6 (ip : Ipv6) (scope : UInt32) (port : UInt16)
  deriving DecidableEq, Repr

namespace SocketAddress

/-- A port that ends a text. -/
def port? (cs : List Char) : Option UInt16 := do
  let ((), cs) ← character ':' cs
  let (n, rest) ← decimal 65536 cs
  if rest.isEmpty then some (UInt16.ofNat n) else none

def v4? (cs : List Char) : Option SocketAddress := do
  let (ip, cs) ← Ipv4.front cs
  some (.v4 ip (← port? cs))

/-- A scope behind a percent sign; zero if there is none. -/
def scope? (cs : List Char) : Option (UInt32 × List Char) :=
  match cs with
  | '%' :: rest => (decimal (2 ^ 32) rest).map fun (n, rest) => (UInt32.ofNat n, rest)
  | _ => some (0, cs)

def v6? (cs : List Char) : Option SocketAddress := do
  let ((), cs) ← character '[' cs
  let (ip, cs) ← Ipv6.front cs
  let (scope, cs) ← scope? cs
  let ((), cs) ← character ']' cs
  some (.v6 ip scope (← port? cs))

def read? (s : String) : Option SocketAddress := (v4? s.toList).or (v6? s.toList)

def text : SocketAddress → String
  | v4 ip port => ip.text ++ s!":{port}"
  | v6 ip scope port =>
    let zone := if scope = 0 then "" else s!"%{scope}"
    "[" ++ ip.text ++ zone ++ s!"]:{port}"

end SocketAddress
end Friendship.Network
