/-
  The addresses of a project's servers, from what a caller hands in.

  Parameters come as such, as a list of tokens or as a line.  Whatever is wrong with them is found
  before anything is asked or reported.  Tokens are kept by key and then visited, in an order that
  only decides which of several keys without a meaning is told.
-/
import CloudRoster.Provider.Client

namespace CloudRoster.Roster

open Provider

/-- The file that holds the hostname. -/
def hostnamePath : String := "/etc/hostname"

/-- The addresses that parameters ask for. -/
def ofParameters (p : Parameters) (env : Environment) : Dialogue Answer (List Address) := do
  let resolved ← Dialogue.orFail (Settings.ofParameters p env)
  let settings ← Dialogue.tell resolved
  Client.addresses hostnamePath settings

/-- The addresses that tokens ask for. -/
def ofTokens (tokens : List String) (env : Environment) (order : Visiting := .given) :
    Dialogue Answer (List Address) := do
  let p ← Dialogue.orFail (Parameters.ofTokens tokens order)
  ofParameters p env

/-- The addresses that a line asks for. -/
def ofLine (line : String) (env : Environment) (order : Visiting := .given) :
    Dialogue Answer (List Address) := do
  let p ← Dialogue.orFail (Parameters.ofLine line order)
  ofParameters p env

/-- How to use the provider. -/
def help : String :=
"Hetzner Cloud:

	provider:       \"hcloud\"
	api_token:      The Hetzner Cloud API token to use
	location:       The Hetzner Cloud datacenter location to filter by (eg. \"fsn1\"). Optional.
	                If empty, the location of the current server is detected. If not running
	                on an hcloud server, all servers matching label_selector are used.
	label_selector: The label selector to filter by
	address_type:   \"private_v4\", \"public_v4\" or \"public_v6\". Defaults to \"private_v4\".
	                For private networks the first one is used.

	Variables can also be provided by environment variables:
	export HCLOUD_LOCATION for location
	export HCLOUD_TOKEN for api_token
	export HCLOUD_ENDPOINT to use another API endpoint
"

end CloudRoster.Roster
