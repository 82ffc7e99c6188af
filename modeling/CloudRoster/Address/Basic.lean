/-
  Internet addresses of both versions.

  An IPv4 address is four octets and an IPv6 address eight sixteen-bit groups; nothing else about an
  address matters here, so equality is equality of those numbers.
-/

namespace CloudRoster

/-- The two versions of the Internet protocol. -/
inductive Version where
  | v4
  | v6
deriving DecidableEq, Repr

/-- An address of four octets. -/
structure IPv4 where
  a : UInt8
  b : UInt8
  c : UInt8
  d : UInt8
deriving DecidableEq, Repr

/-- An address of eight groups. -/
structure IPv6 where
  a : UInt16
  b : UInt16
  c : UInt16
  d : UInt16
  e : UInt16
  f : UInt16
  g : UInt16
  h : UInt16
deriving DecidableEq, Repr

/-- An address of either version. -/
inductive Address where
  | v4 (ip : IPv4)
  | v6 (ip : IPv6)
deriving DecidableEq, Repr

namespace Address

/-- The version that an address belongs to. -/
def version : Address → Version
  | .v4 _ => .v4
  | .v6 _ => .v6

end Address

/-! ## Octets and groups -/

namespace IPv4

def octets (ip : IPv4) : List UInt8 := [ip.a, ip.b, ip.c, ip.d]

def ofOctets? : List UInt8 → Option IPv4
  | [a, b, c, d] => some ⟨a, b, c, d⟩
  | _ => none

@[simp] theorem ofOctets?_octets (ip : IPv4) : ofOctets? ip.octets = some ip := rfl

/-- The two groups that the octets fill. -/
def groups (ip : IPv4) : List UInt16 :=
  [ip.a.toUInt16 * 256 + ip.b.toUInt16, ip.c.toUInt16 * 256 + ip.d.toUInt16]

/-- The address whose octets fill the two groups. -/
def ofGroups (high low : UInt16) : IPv4 :=
  ⟨(high / 256).toUInt8, high.toUInt8, (low / 256).toUInt8, low.toUInt8⟩

end IPv4

namespace IPv6

def groups (ip : IPv6) : List UInt16 := [ip.a, ip.b, ip.c, ip.d, ip.e, ip.f, ip.g, ip.h]

def ofGroups? : List UInt16 → Option IPv6
  | [a, b, c, d, e, f, g, h] => some ⟨a, b, c, d, e, f, g, h⟩
  | _ => none

@[simp] theorem ofGroups?_groups (ip : IPv6) : ofGroups? ip.groups = some ip := rfl

@[simp] theorem length_groups (ip : IPv6) : ip.groups.length = 8 := rfl

theorem groups_of_ofGroups? {gs : List UInt16} {ip : IPv6} (h : ofGroups? gs = some ip) :
    gs = ip.groups := by
  unfold ofGroups? at h
  split at h
  · cases h; rfl
  · cases h

/-- The IPv4 address that an address of the form `::ffff:a.b.c.d` carries. -/
def mapped? (ip : IPv6) : Option IPv4 :=
  if ip.a = 0 ∧ ip.b = 0 ∧ ip.c = 0 ∧ ip.d = 0 ∧ ip.e = 0 ∧ ip.f = 0xffff then
    some (IPv4.ofGroups ip.g ip.h)
  else none

end IPv6

end CloudRoster
