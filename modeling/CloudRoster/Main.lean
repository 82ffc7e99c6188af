/-
  The program: performs the dialogue of the command line with files, servers and the terminal.

  Servers are reached without encryption, so only a question to an `http` URL has an answer.
-/
import CloudRoster.CommandLine
import CloudRoster.Http.Transfer
import Std.Async.DNS
import Std.Async.TCP

namespace CloudRoster.Main

open Std.Async Std.Net

/-- The content of a file. -/
def readFile (path : String) : IO FileContent := do
  try
    return .octets (← IO.FS.readBinFile path).data.toList
  catch
    | .noFileOrDirectory .. => return .missing
    | .inappropriateType .. => return .directory
    | e => return .unreadable (toString e)

/-- The addresses of a host. -/
def resolve (host : Http.Host) : Async (List IPAddr) := do
  match host with
  | .address (.v4 ip) => return [.v4 (.ofParts ip.a ip.b ip.c ip.d)]
  | .address (.v6 ip) => return [.v6 (.ofParts ip.a ip.b ip.c ip.d ip.e ip.f ip.g ip.h)]
  | .name n => return (← DNS.getAddrInfo n "").toList

/-- An address with a port number. -/
def socketAddress (ip : IPAddr) (number : UInt16) : SocketAddress :=
  match ip with
  | .v4 ip => .v4 ⟨ip, number⟩
  | .v6 ip => .v6 ⟨ip, number⟩

/-- All that a connection brings until it ends. -/
partial def receive (socket : TCP.Socket.Client) (sofar : ByteArray) : Async ByteArray := do
  match ← socket.recv? 65536 with
  | none => return sofar
  | some more => receive socket (sofar ++ more)

/-- Sends octets to an address and gives what comes back. -/
def converse (target : SocketAddress) (octets : List UInt8) : Async (List UInt8) := do
  let socket ← TCP.Socket.Client.mk
  socket.connect target
  socket.send ⟨octets.toArray⟩
  return (← receive socket .empty).data.toList

/-- The reply of the first address of the host, if there is one. -/
def ask (r : Http.Request) : IO (Option Http.Reply) := do
  match r.url.scheme, r.url.host with
  | .http, some host =>
    try
      match ← (resolve host).block with
      | [] => return none
      | ip :: _ =>
        let number := UInt16.ofNat ((r.url.portNumber <|> r.url.scheme.portNumber).getD 0)
        let octets ← (converse (socketAddress ip number) r.octets).block
        return Http.Reply.ofOctets? octets
    catch _ => return none
  | _, _ => return none

/-- The answer to a question. -/
def answer : (q : Provider.Question) → IO (Provider.Answer q)
  | .hostname => readFile Roster.hostnamePath
  | .request r => ask r

/-- The environment variables that the program looks at. -/
def variableNames : List String :=
  ["HCLOUD_TOKEN", "HCLOUD_LOCATION", "HCLOUD_ENDPOINT", "RUST_LOG"]

end CloudRoster.Main

open CloudRoster in
/-- Runs the program. -/
def main (argv : List String) : IO UInt32 := do
  let values ← Main.variableNames.mapM fun name => return (name, ← IO.getEnv name)
  let env : Environment := fun name => (values.lookup name).join
  let result ← (CommandLine.run argv env).perform Main.answer fun e => do
    for line in CommandLine.terminal env [e] do IO.eprintln line
  let outcome := CommandLine.outcomeOf result
  IO.print outcome.stdout
  return outcome.exitCode
