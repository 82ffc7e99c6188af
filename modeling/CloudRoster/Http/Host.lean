/-
  Hosts of URLs: a name, an IPv4 address or an IPv6 address in brackets.

  What a host without brackets may be depends on the scheme.  With one that is not known it is any
  name without the characters that divide a URL (`Host.parseOpaque`); otherwise the following holds.

  A host that ends in a number has to be an IPv4 address, of one to four parts that are decimal,
  octal (after `0`) or hexadecimal (after `0x`) numbers, where the last part fills all octets that
  are left.  What the percent encoding hid is looked at like anything else, and of a name only the
  form that is sent (`Domain.toAscii?`): wide digits make an address, too.

  Whatever makes a text no URL is a `UrlFault`, for the host and for the parts around it.
-/
import CloudRoster.Address.Parser
import CloudRoster.Address.Printer
import CloudRoster.Domain.Name
import CloudRoster.Http.Percent

namespace CloudRoster.Http

open Text

/-- What can be wrong with a URL. -/
inductive UrlFault where
  /-- It does not start with a scheme. -/
  | relative
  | emptyHost
  | invalidName
  /-- A character that no host may hold, whatever the scheme. -/
  | invalidCharacter
  | invalidIPv4
  | invalidIPv6
  | invalidPort
deriving DecidableEq, Repr

/-- Whom a request goes to. -/
inductive Host where
  | name (n : String)
  | address (a : Address)
deriving DecidableEq, Repr

namespace Host

/-- The number that a part of an IPv4 address spells, in the base that its first characters say. -/
def part? : List Char → Option Nat
  | ['0'] | ['0', 'x'] => some 0
  | '0' :: 'x' :: cs => natural? 16 cs
  | '0' :: cs => natural? 8 cs
  | cs => natural? 10 cs

/-- The parts of a name; an empty one at the end does not count, unless it is all there is. -/
def labels (cs : List Char) : List (List Char) :=
  match (pieces '.' cs).reverse with
  | [] :: p :: ps => (p :: ps).reverse
  | ps => ps.reverse

/-- Whether the last part is a number, which makes the host an IPv4 address or invalid. -/
def endsInNumber (cs : List Char) : Bool :=
  match (labels cs).getLast? with
  | some l =>
    (!l.isEmpty && l.all Char.isDigit) || (l.take 2 == ['0', 'x'] && (part? l).isSome)
  | none => false

/-- The number that parts spell when `n` octets are left: one octet each, and the last part fills
    those that remain, of which there is at least one. -/
def combine? : Nat → List Nat → Option Nat
  | n + 1, [last] => if last < 1 <<< (8 * (n + 1)) then some last else none
  | n + 1, p :: ps => if p < 256 then (combine? n ps).map (p <<< (8 * n) + ·) else none
  | _, _ => none

/-- The IPv4 address that a host spells. -/
def ipv4? (cs : List Char) : Option IPv4 := do
  let n ← combine? 4 (← (labels cs).mapM part?)
  return ⟨.ofNat (n >>> 24), .ofNat (n >>> 16), .ofNat (n >>> 8), .ofNat n⟩

/-- The IPv6 address between brackets. -/
def bracketed (cs : List Char) : Except UrlFault Host :=
  match if cs.getLast? = some ']' then IPv6.parse? (cs.drop 1).dropLast else none with
  | some ip => .ok (.address (.v6 ip))
  | none => .error .invalidIPv6

/-- The host of a URL with a known scheme, from the text between user and port number. -/
def parse (cs : List Char) : Except UrlFault Host :=
  if cs.isEmpty then .error .emptyHost
  else if cs.head? = some '[' then bracketed cs
  else
    match (ofUtf8? (decodeOctets cs)).bind fun spelled => Domain.toAscii? spelled.toList with
    | none => .error .invalidName
    -- of a name, nothing may be left
    | some [] => .error .emptyHost
    | some sent =>
      if endsInNumber sent then
        match ipv4? sent with
        | some ip => .ok (.address (.v4 ip))
        | none => .error .invalidIPv4
      else .ok (.name (String.ofList sent))

/-- The characters that divide a URL, or could be taken for those. -/
def isDivider (c : Char) : Bool :=
  ['\x00', '\t', '\n', '\r', ' ', '#', '/', ':', '<', '>', '?', '@', '[', '\\', ']', '^',
    '|'].contains c

/-- The host of a URL whose scheme is not known. -/
def parseOpaque (cs : List Char) : Except UrlFault Host :=
  if cs.head? = some '[' then bracketed cs
  else if cs.any isDivider then .error .invalidCharacter
  else .ok (.name (String.ofList (encode isControl cs)))

/-- A host as it stands in a URL. -/
def text : Host → List Char
  | .name n => n.toList
  | .address (.v4 ip) => ip.print
  | .address (.v6 ip) => '[' :: ip.printHexadecimal ++ [']']

end Host

end CloudRoster.Http
