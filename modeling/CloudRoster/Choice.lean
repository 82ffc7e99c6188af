/-
  The one address that is told of a server.

  A family has sources, in order, and the first that yields an address decides.

  - `privateV4`: the address in the first private network.  Public addresses never stand in.
  - `publicV4`, `publicV6`: the public address of that version unless it is absent or blocked, then
    the first floating address of that version that is not blocked.

  Each source says in the log what it found.
-/
import CloudRoster.Address.Printer
import CloudRoster.Family
import CloudRoster.Server

namespace CloudRoster

namespace Version

/-- The name of a version. -/
def label : Version → String
  | .v4 => "IPv4"
  | .v6 => "IPv6"

end Version

namespace Choice

/-- Where an address can come from. -/
inductive Source where
  | privateNetwork
  | attached (v : Version)
  | floating (v : Version)
deriving DecidableEq, Repr

/-- The sources of a family, the first choice first. -/
def sources : Family → List Source
  | .privateV4 => [.privateNetwork]
  | .publicV4 => [.attached .v4, .floating .v4]
  | .publicV6 => [.attached .v6, .floating .v6]

/-- The words for a server in the log. -/
def instanceText (s : Server) : String := s!"instance {s.name} ({s.id})"

/-- The address that a source yields.  A blocked address is passed over as an absent one is, but
    what the log says differs: absence is for the curious, and a block is told to everybody, though
    only where there is a floating address to go on with, of whatever version. -/
def Source.offer (s : Server) : Source → Log.Logged (Option Address)
  | .privateNetwork =>
    match s.privateAddresses.head? with
    | some ip => ⟨some ip, [.info s!"{instanceText s} has private IP {ip}"]⟩
    | none => ⟨none, [.info s!"{instanceText s} has no private IP"]⟩
  | .attached v =>
    match s.publicAddress v with
    | some ⟨ip, false⟩ => ⟨some ip, [.info s!"{instanceText s} has public IP {ip}"]⟩
    | some ⟨_, true⟩ =>
      ⟨none, if s.floating.isEmpty then [] else
        [.info (s!"public {v.label} for {instanceText s} is blocked, "
          ++ "checking associated floating IPs")]⟩
    | none =>
      ⟨none, [.debug (s!"{instanceText s} has no public {v.label}, "
        ++ "checking associated floating IPs")]⟩
  | .floating v =>
    match (s.usableFloating v).head? with
    | some f => ⟨some f.ip, [.info s!"{instanceText s} has floating IP {f.ip}"]⟩
    | none => ⟨none, []⟩

/-- The address of the first source that yields one.  Sources after it are not looked at, so they
    leave nothing in the log. -/
def firstOf (s : Server) : List Source → Log.Logged (Option Address)
  | [] => ⟨none, [.debug s!"{instanceText s} has no valid associated IP address"]⟩
  | source :: more =>
    match source.offer s with
    | ⟨some ip, entries⟩ => ⟨some ip, entries⟩
    | ⟨none, entries⟩ =>
      let rest := firstOf s more
      ⟨rest.value, entries ++ rest.entries⟩

/-- The address of a server that is told for a family. -/
def address (s : Server) (family : Family) : Log.Logged (Option Address) :=
  firstOf s (sources family)

end Choice

end CloudRoster
