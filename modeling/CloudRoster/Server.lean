/-
  Servers, with the addresses under which they can be reached.

  Private addresses and public addresses belong to a server; floating addresses can be moved from
  one server to another, and carry the version that they were made for.
-/
import CloudRoster.Address.Basic

namespace CloudRoster

/-- A public address of a server. -/
structure PublicAddress where
  ip : Address
  blocked : Bool
deriving DecidableEq, Repr

/-- An address that can be moved between servers. -/
structure FloatingAddress where
  ip : Address
  version : Version
  blocked : Bool
deriving DecidableEq, Repr

/-- A server. -/
structure Server where
  id : UInt64
  name : String
  location : String
  /-- One address for each private network, in the provider's order. -/
  privateAddresses : List Address
  publicV4 : Option PublicAddress
  publicV6 : Option PublicAddress
  floating : List FloatingAddress
deriving DecidableEq, Repr

namespace Server

/-- The public address of a version. -/
def publicAddress (s : Server) : Version → Option PublicAddress
  | .v4 => s.publicV4
  | .v6 => s.publicV6

/-- The floating addresses of a version that are not blocked. -/
def usableFloating (s : Server) (v : Version) : List FloatingAddress :=
  s.floating.filter fun f => f.version = v ∧ f.blocked = false

end Server

end CloudRoster
