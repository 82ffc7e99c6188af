/-
  From what the provider writes to servers.

  A text becomes an address, or is the reason to refuse all.  Of several that are no addresses the
  first is told: floating addresses in the order of their listing; for a server its private
  addresses, then its public one of version four, then that of version six.

  A server's floating addresses are its numbers looked up in the listing.  Where a number is listed
  more than once the last entry counts, and a number that is not listed is left out.
-/
import CloudRoster.Address.Parser
import CloudRoster.Failure
import CloudRoster.Provider.Schema

namespace CloudRoster.Provider

/-- The address that a text spells. -/
def readAddress (text : String) : Except Refusal Address :=
  match Address.read? text with
  | some ip => .ok ip
  | none => .error (.badAddress text)

namespace PublicEntry

def toAddress (e : PublicEntry) : Except Refusal PublicAddress := do
  return ⟨← readAddress e.ip, e.blocked⟩

end PublicEntry

/-- Floating addresses by number, in the order of their listing. -/
abbrev FloatingTable := List (UInt64 × FloatingAddress)

namespace FloatingTable

/-- The last address listed under a number. -/
def find? (table : FloatingTable) (id : UInt64) : Option FloatingAddress := table.reverse.lookup id

/-- A row in front of a table counts only where its number is not listed behind it. -/
theorem find?_cons (row : UInt64 × FloatingAddress) (table : FloatingTable) (id : UInt64) :
    find? (row :: table) id = (find? table id).or (if id = row.1 then some row.2 else none) := by
  rw [find?, List.reverse_cons, List.lookup_append]
  by_cases hid : id = row.1
  · rw [if_pos hid, hid, List.lookup_cons_self]
    rfl
  · rw [if_neg hid, List.lookup_cons, beq_false_of_ne hid]
    rfl

end FloatingTable

namespace FloatingEntry

def toAddress (e : FloatingEntry) : Except Refusal (UInt64 × FloatingAddress) := do
  return (e.id, ⟨← readAddress e.ip, e.version, e.blocked⟩)

end FloatingEntry

/-- The table of a listing. -/
def tableOf (entries : List FloatingEntry) : Except Refusal FloatingTable :=
  entries.mapM FloatingEntry.toAddress

namespace ServerEntry

/-- The server that an entry describes, with its floating addresses from the table. -/
def toServer (table : FloatingTable) (e : ServerEntry) : Except Refusal Server := do
  let privateAddresses ← e.privateIps.mapM readAddress
  let publicV4 ← e.publicV4.mapM PublicEntry.toAddress
  let publicV6 ← e.publicV6.mapM PublicEntry.toAddress
  return {
    id := e.id
    name := e.name
    location := e.location
    privateAddresses := privateAddresses
    publicV4 := publicV4
    publicV6 := publicV6
    floating := e.floatingIds.filterMap table.find? }

end ServerEntry

end CloudRoster.Provider
