/-
  What can go wrong, and in which words it is told.

  A failure names its cause; its wording is in `Failure.message` alone.  What goes wrong between the
  library and the servers' provider is a `Refusal` with causes of its own; `summary` is the wording
  that leaves out why a request could not be sent.
-/
import CloudRoster.Http.Message

namespace CloudRoster

open Http

/-- Why the provider's answer is of no use. -/
inductive Refusal where
  /-- The request could not be written down: no URL to ask or no legal header. -/
  | unsendable (fault : RequestFault)
  /-- The connection ended without an answer. -/
  | unanswered
  /-- A success whose body is not what was asked for. -/
  | undecodable
  /-- An answer that is no success, with the provider's code and message if it gave them. -/
  | rejected (path : String) (status : Status) (details : Option (String × String))
  /-- A text where an address belongs. -/
  | badAddress (text : String)
  /-- What another inventory says. -/
  | reported (text : String)
deriving DecidableEq, Repr

/-! ## What goes wrong on the way to the server and back -/

/-- A text between quotation marks; those inside it, and backslashes, follow a backslash. -/
def quoted (cs : List Char) : String :=
  "\"" ++ String.ofList (cs.flatMap fun c => if c = '"' ∨ c = '\\' then ['\\', c] else [c]) ++ "\""

/-- The wording for what need not be there. -/
def optional : Option String → String
  | none => "None"
  | some s => s!"Some({s})"

/-- The parts of a host. -/
def hostDetails : Host → String
  | .name n => s!"Domain({quoted n.toList})"
  | .address (.v4 ip) => s!"Ipv4({Address.v4 ip})"
  | .address (.v6 ip) => s!"Ipv6({Address.v6 ip})"

/-- The parts of a URL, one by one. -/
def urlDetails (u : Url) : String :=
  "Url \x7b " ++ ", ".intercalate [
    s!"scheme: {quoted u.scheme.name}", s!"cannot_be_a_base: {u.isOpaque}",
    s!"username: {quoted u.user}", s!"password: {optional (u.password.map quoted)}",
    s!"host: {optional (u.host.map hostDetails)}",
    s!"port: {optional (u.portNumber.map toString)}", s!"path: {quoted u.path}",
    s!"query: {optional (u.query.map quoted)}",
    s!"fragment: {optional (u.fragment.map quoted)}"] ++ " \x7d"

/-- The wording for a fault of a URL. -/
def urlFaultWord : UrlFault → String
  | .relative => "RelativeUrlWithoutBase"
  | .emptyHost => "EmptyHost"
  | .invalidName => "IdnaError"
  | .invalidCharacter => "InvalidDomainCharacter"
  | .invalidIPv4 => "InvalidIpv4Address"
  | .invalidIPv6 => "InvalidIpv6Address"
  | .invalidPort => "InvalidPort"

/-- What the wording for a fault adds to its kind. -/
def faultDetails : RequestFault → List String
  | .url fault => [s!"source: {urlFaultWord fault}"]
  | .foreign u => [s!"url: {urlDetails u}", "source: BadScheme"]
  | .header => ["source: http::Error(InvalidHeaderValue)"]
  | .illegal u => [s!"url: {urlDetails u}", "source: \"Parsed Url is not a valid Uri\""]

/-- The wording for a kind of problem and what is known of it. -/
def clientText (kind : String) (details : List String) : String :=
  "reqwest::Error \x7b " ++ ", ".intercalate (s!"kind: {kind}" :: details) ++ " \x7d"

namespace Refusal

/-- The wording of a cause.  Of a lost connection and of an unreadable body only the kind is told:
    the URL and what the connection or the decoder says about it depend on the world, and are left
    out. -/
def message : Refusal → String
  | .unsendable fault => clientText "Builder" (faultDetails fault)
  | .unanswered => clientText "Request" []
  | .undecodable => clientText "Decode" []
  | .rejected path status none => s!"{path} returned {status.text}: no error details"
  | .rejected path status (some (code, message)) =>
    s!"{path} returned {status.text}: {message} ({code})"
  | .badAddress text => s!"Invalid IP address `{text}`"
  | .reported text => text

/-- The wording of a cause without the fault of a request. -/
def summary : Refusal → String
  | .unsendable _ => clientText "Builder" []
  | cause => cause.message

end Refusal

/-- Why no addresses were found. -/
inductive Failure where
  /-- An argument that cannot be read. -/
  | malformed (argument problem : String)
  /-- A key that is given twice. -/
  | repeated (key : String)
  /-- A key that has no meaning. -/
  | unknown (key : String)
  /-- A key that has to be given and is not. -/
  | absent (key : String)
  /-- A provider that is not served. -/
  | foreignProvider (provider : String)
  /-- Neither parameter nor environment gives a token. -/
  | noToken
  /-- The file at `path` gives no hostname. -/
  | noHostname (path cause : String)
  /-- The provider gives no servers. -/
  | refused (cause : Refusal)
deriving DecidableEq, Repr

namespace Failure

/-- The wording of a failure, given that of a refusal. -/
def wording (refusal : Refusal → String) : Failure → String
  | .malformed argument problem =>
    s!"Invalid argument: `{argument}`. Error message: `{problem}`"
  | .repeated key => s!"Duplicate argument with key: `{key}`"
  | .unknown key => s!"Argument with key: `{key}` was not expected"
  | .absent key => s!"Argument with key: `{key}` is required"
  | .foreignProvider provider =>
    s!"Invalid provider `{provider}`. This plugin only serves `hcloud`."
  | .noToken =>
    "No API token specified. Set `api_token` or the HCLOUD_TOKEN environment variable"
  | .noHostname path cause =>
    s!"Unable to read hostname from `{path}`. Error message: `{cause}`"
  | .refused cause =>
    s!"Unable to retrieve data from provider. Error message: `{refusal cause}`"

/-- The wording of a failure. -/
def message : Failure → String := wording Refusal.message

/-- The wording of a failure without the fault of a request. -/
def summary : Failure → String := wording Refusal.summary

end Failure

end CloudRoster
