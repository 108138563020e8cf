import Friendship.Arithmetic
import Friendship.Network.Ip
import Friendship.Text.Utf8
import Friendship.Url.Domain.Label
import Friendship.Url.Percent

/-!
# Hosts of URLs

A host is an address of version 6 in brackets, or a name. Where names are those of domains, one
whose last label is a number is an address of version 4: up to four numbers, each in decimal, octal
or hexadecimal digits, of which the last one fills the bytes that are left.
-/

namespace Friendship.Url

/-- What is wrong with a URL. -/
inductive UrlError
  | relative
  | emptyHost
  | port
  | ipv4Address
  | ipv6Address
  | hostName
  | hostCharacter
  deriving DecidableEq, Repr

def UrlError.message : UrlError → String
  | relative => "relative URL without a base"
  | emptyHost => "empty host"
  | port => "invalid port number"
  | ipv4Address => "invalid IPv4 address"
  | ipv6Address => "invalid IPv6 address"
  | hostName => "invalid international domain name"
  | hostCharacter => "invalid domain character"

namespace Host

/-- A number in decimal digits, in octal ones behind a zero, or in hexadecimal ones behind a zero
and an `x`. -/
def number? (cs : List Char) : Option Nat :=
  let value (base : Nat) (digits : List Char) : Option Nat :=
    digits.foldlM (fun n c => do
      let d ← Text.Hex.value? c
      if d < base then some (base * n + d) else none) 0
  match cs with
  | [] => none
  | '0' :: 'x' :: digits | '0' :: 'X' :: digits => value 16 digits
  | '0' :: digits => value 8 digits
  | digits => value 10 digits

/-- The labels without an empty one at the end. -/
def parts (domain : List Char) : List (List Char) :=
  let all := Domain.labels domain
  if all.getLast? = some [] then all.dropLast else all

/-- Whether a domain can only be an address of version 4. -/
def endsInNumber (domain : List Char) : Bool :=
  match (parts domain).getLast? with
  | none | some [] => false
  | some last => last.all Text.Number.isDigit || (number? last).isSome

/-- Whether numbers make an address of version 4. -/
def isIpv4 (domain : List Char) : Bool :=
  let parts := parts domain
  match parts.mapM number? with
  | none => false
  | some numbers =>
    parts.length ≤ 4 && numbers.dropLast.all (· < 256) &&
      numbers.getLast?.all fun n => n < 256 ^ (5 - numbers.length)

/-- Checks an address in brackets whose opening one is behind. -/
def checkIpv6 (inner : List Char) : Except UrlError Unit :=
  match inner.getLast?, Network.Ipv6.front inner.dropLast with
  | some ']', some (_, []) => .ok ()
  | _, _ => .error .ipv6Address

/-- Checks a host whose name is that of a domain. -/
def checkDomain (host : List Char) : Except UrlError Unit :=
  match host with
  | '[' :: inner => checkIpv6 inner
  | _ =>
    match (Text.Utf8.text? (Percent.decoded host)).bind fun s => Domain.read? s.toList with
    | none => .error .hostName
    | some [] => .error .emptyHost
    | some domain =>
      if endsInNumber domain && !isIpv4 domain then .error .ipv4Address else .ok ()

/-- Characters that no name has, whatever it means. -/
def isForbidden (c : Char) : Bool := "\x00\t\n\r #/:<>?@[\\]^|".toList.contains c

/-- Checks a host whose name may mean anything. -/
def checkOpaque (host : List Char) : Except UrlError Unit :=
  match host with
  | '[' :: inner => checkIpv6 inner
  | _ => if host.any isForbidden then .error .hostCharacter else .ok ()

end Host
end Friendship.Url
