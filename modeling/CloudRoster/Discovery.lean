/-
  One discovery: from settings to the addresses of the servers that match them.

  A discovery asks an inventory for the running servers and tells the chosen address of each one in
  the right location.  If the settings name no location it is that of the server whose name is
  this machine's hostname, and if there is no such server all locations count.

  Settings, hostname and inventory are all that a discovery depends on; it is a dialogue with the
  questions below.
-/
import CloudRoster.Choice
import CloudRoster.Dialogue
import CloudRoster.File
import CloudRoster.Settings

namespace CloudRoster

open Text

namespace Discovery

/-! ## Questions -/

/-- What a discovery can ask. -/
inductive Question where
  /-- What does the hostname file hold? -/
  | hostname
  /-- Which server has this name? -/
  | serverNamed (name : String)
  /-- Which servers run and match this label selector? -/
  | runningServers (selector : String)
deriving DecidableEq, Repr

/-- The type of the answer to each question. -/
@[reducible] def Answer : Question → Type
  | .hostname => FileContent
  | .serverNamed _ => Except Failure (Option Server)
  | .runningServers _ => Except Failure (List Server)

/-- An inventory of servers. -/
structure Inventory where
  serverNamed : String → Except Failure (Option Server)
  runningServers : String → Except Failure (List Server)

/-- The inventory that holds these servers, all of them running and matching. -/
def Inventory.ofServers (servers : List Server) : Inventory where
  serverNamed name := .ok (servers.find? fun s => s.name = name)
  runningServers _ := .ok servers

/-- The answers of an inventory on a machine with this hostname file. -/
def Inventory.answer (inv : Inventory) (host : FileContent) : (q : Question) → Answer q
  | .hostname => host
  | .serverNamed name => inv.serverNamed name
  | .runningServers selector => inv.runningServers selector

/-! ## What the log says -/

/-- Addresses in quotes, in brackets. -/
def quotedList (ips : List Address) : String :=
  "[" ++ ", ".intercalate (ips.map fun ip => "\"" ++ ip.print ++ "\"") ++ "]"

namespace Line

def searching (hostname : String) : Log.Entry :=
  .info s!"Location not specified. Searching for current server named {hostname}."

def detected (s : Server) : Log.Entry :=
  .info s!"Detected current server {s.name} with id {s.id}"

def notAServer : Log.Entry :=
  .info ("No location specified and not an hcloud server. "
    ++ "Joining all matching label selector.")

def filtering (location : String) : Log.Entry := .info s!"filtering by location {location}"

def asking (settings : Settings) (location : Option String) : Log.Entry :=
  let place := location.getD ""
  .debug (s!"using address_type={settings.family.name} "
    ++ s!"label_selector={settings.labelSelector} location={place}")

def listed (servers : List Server) : Log.Entry := .debug s!"found {servers.length} running servers"

def chosen (ips : List Address) : Log.Entry := .debug s!"found IP addresses: {quotedList ips}"

end Line

/-! ## Steps -/

/-- Asks for the content of the hostname file. -/
def readHostname : Dialogue Answer FileContent := Dialogue.question Question.hostname

/-- Asks for the server with this name. -/
def serverNamed (name : String) : Dialogue Answer (Option Server) := do
  Dialogue.orFail (← Dialogue.question (Question.serverNamed name))

/-- Asks for the running servers that match a label selector. -/
def runningServers (selector : String) : Dialogue Answer (List Server) := do
  Dialogue.orFail (← Dialogue.question (Question.runningServers selector))

/-- The server with this machine's name, if there is one.  A machine without a name is no server,
    and nobody has to be asked. -/
def ownServer (hostname : String) : Dialogue Answer (Option Server) :=
  if hostname = "" then pure none else serverNamed hostname

/-- The location of the server that this machine is, if it is one. -/
def adopt (own : Option Server) : Dialogue Answer (Option String) := do
  match own with
  | some s =>
    Dialogue.say (Line.detected s)
    return some s.location
  | none =>
    Dialogue.say Line.notAServer
    return none

/-- The location of this machine, as its hostname file and the inventory tell it. -/
def ownLocation (hostnamePath : String) : Dialogue Answer (Option String) := do
  match (← readHostname).text with
  | .error cause => .fail (.noHostname hostnamePath cause)
  | .ok content =>
    Dialogue.say (Line.searching (trim content))
    adopt (← ownServer (trim content))

/-- The location that servers have to be in, if any.  One that the settings name is taken as it is,
    without a look at this machine. -/
def effectiveLocation (hostnamePath : String) (settings : Settings) :
    Dialogue Answer (Option String) :=
  match settings.location with
  | some location => pure (some location)
  | none => ownLocation hostnamePath

/-- Whether a server is in the location.  An empty location is one that only servers without a
    location are in; it is not the same as none. -/
def isIn (location : Option String) (s : Server) : Bool :=
  match location with
  | some l => s.location = l
  | none => true

/-- The addresses of the servers that have one, in their order, and the log of all choices. -/
def chooseAll (family : Family) (servers : List Server) : Log.Logged (List Address) :=
  let choices := servers.map fun s => Choice.address s family
  ⟨choices.filterMap Log.Logged.value, choices.flatMap Log.Logged.entries⟩

/-- The addresses of the servers in a location that match the settings. -/
def addressesIn (settings : Settings) (location : Option String) :
    Dialogue Answer (List Address) := do
  Dialogue.sayAll (location.toList.map Line.filtering ++ [Line.asking settings location])
  let servers ← runningServers settings.labelSelector
  Dialogue.say (Line.listed servers)
  let ips ← Dialogue.tell (chooseAll settings.family (servers.filter (isIn location)))
  Dialogue.say (Line.chosen ips)
  return ips

/-- The addresses of the servers that match the settings. -/
def addresses (hostnamePath : String) (settings : Settings) : Dialogue Answer (List Address) := do
  addressesIn settings (← effectiveLocation hostnamePath settings)

end Discovery

end CloudRoster
