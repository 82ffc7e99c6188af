/-
  Reading addresses and networks.

  1. An octet is a decimal number below 256 without leading zeros; four of them with points are an
     IPv4 address.
  2. A group is one to four hexadecimal digits.  Groups stand with colons between them, and the last
     piece may be an IPv4 address that fills two groups.
  3. An IPv6 address is eight groups, or two lists of groups around a double colon that stands for
     one zero group or more.  Before the double colon no IPv4 address may stand.
  4. A network is an address, a slash and the length of the network part: a decimal number of at
     most 32 or 128, or for IPv4 a mask written as an address.  The address is kept as it is
     written, host bits included.
-/
import CloudRoster.Address.Basic
import CloudRoster.Text.Numeral
import CloudRoster.Text.Pieces

namespace CloudRoster

open Text

namespace IPv4

/-- A decimal number below 256 without leading zeros. -/
def octet? (cs : List Char) : Option UInt8 :=
  if cs.head? = some '0' ∧ cs.length ≠ 1 then none
  else ((natural? 10 cs).filter (· < 256)).map UInt8.ofNat

/-- Four octets with points. -/
def parse? (cs : List Char) : Option IPv4 := ((pieces '.' cs).mapM octet?).bind ofOctets?

/-- The mask whose first `n` bits are set, as a number. -/
def mask (n : Nat) : Nat := 1 <<< 32 - 1 <<< (32 - n)

/-- The address as a number. -/
def toNat (ip : IPv4) : Nat := ip.octets.foldl (fun n o => n * 256 + o.toNat) 0

end IPv4

namespace IPv6

/-- One to four hexadecimal digits. -/
def group? (cs : List Char) : Option UInt16 :=
  if 4 < cs.length then none else (natural? 16 cs).map UInt16.ofNat

/-- Groups of hexadecimal digits, where the last piece may be an IPv4 address.  That has points and
    a group has none, so no piece can be both. -/
def groups? : List (List Char) → Option (List UInt16)
  | [] => some []
  | [p] => ((group? p).map ([·])).or ((IPv4.parse? p).map IPv4.groups)
  | p :: ps => (group? p).bind fun g => (groups? ps).map (g :: ·)

/-- Groups on one side of a double colon, where there may be none. -/
def side? (groups : List (List Char) → Option (List UInt16)) (cs : List Char) :
    Option (List UInt16) :=
  if cs.isEmpty then some [] else groups (pieces ':' cs)

/-- The texts around the first double colon. -/
def gap? : List Char → Option (List Char × List Char)
  | [] => none
  | ':' :: ':' :: cs => some ([], cs)
  | c :: cs => (gap? cs).map fun (l, r) => (c :: l, r)

/-- The eight groups that are written. -/
def allGroups? (cs : List Char) : Option (List UInt16) :=
  match gap? cs with
  | none => groups? (pieces ':' cs)
  | some (l, r) => do
    let left ← side? (fun ps => ps.mapM group?) l
    -- a second double colon leaves an empty piece on the right, which is no group
    let right ← side? groups? r
    if left.length + right.length < 8 then
      some (left ++ List.replicate (8 - left.length - right.length) 0 ++ right)
    else none

def parse? (cs : List Char) : Option IPv6 := (allGroups? cs).bind ofGroups?

end IPv6

namespace Address

/-- An address of either version. -/
def parse? (cs : List Char) : Option Address :=
  ((IPv4.parse? cs).map .v4).or ((IPv6.parse? cs).map .v6)

/-! ## Networks -/

/-- The length of a network part: decimal, after an optional plus sign. -/
def networkLength? (max : Nat) (cs : List Char) : Option Nat :=
  (natural? 10 (if cs.head? = some '+' then cs.tail else cs)).filter (· ≤ max)

/-- Whether a text is the mask of an IPv4 network: some bits that are set, then none. -/
def isNetworkMask (cs : List Char) : Bool :=
  match IPv4.parse? cs with
  | some ip => (List.range 33).any fun n => ip.toNat == IPv4.mask n
  | none => false

/-- The address of a network whose address and length are written as `cs` and `len`. -/
def ofNetwork? (cs len : List Char) : Option Address :=
  match IPv4.parse? cs with
  | some ip => if isNetworkMask len || (networkLength? 32 len).isSome then some (.v4 ip) else none
  | none =>
    match IPv6.parse? cs with
    | some ip => if (networkLength? 128 len).isSome then some (.v6 ip) else none
    | none => none

/-- The address of a text that is an address or, if it has a slash, a network. -/
def read? (s : String) : Option Address :=
  match cut '/' s.toList with
  | (cs, none) => parse? cs
  | (cs, some len) => ofNetwork? cs len

end Address

end CloudRoster
