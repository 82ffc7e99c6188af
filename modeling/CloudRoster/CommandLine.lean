/-
  The command line.

  The word `addrs` is followed by arguments and prints the addresses on one line.  Anything else
  prints how to use the program.  What is reported goes to the terminal as far as the filter in the
  environment lets it pass.
-/
import CloudRoster.Log.Filter
import CloudRoster.Roster

namespace CloudRoster.CommandLine

/-- What a run leaves behind, its log apart. -/
structure Outcome where
  exitCode : UInt32
  stdout : String
deriving DecidableEq, Repr

/-- The target of what the command line itself reports. -/
def target : String := "node_discover_hcloud"

/-- How to use the program. -/
def usage : String :=
"The options for discovering ip addresses are provided as
\"key=value key=value ...\" arguments.

  node-discover-hcloud addrs provider=hcloud label_selector=role=consul ...

The options are listed below.
"

/-- The text that explains program and provider. -/
def help : Outcome := ⟨0, usage ++ "\n" ++ Roster.help ++ "\n"⟩

/-- What is reported at the end, and the outcome. -/
def conclude : Except Failure (List Address) → Log.Entry × Outcome
  | .ok ips =>
    (⟨target, .info, Discovery.quotedList ips⟩,
      ⟨0, " ".intercalate (ips.map Address.print) ++ "\n"⟩)
  | .error e =>
    (⟨target, .error, s!"Unable to retrieve addrs. Received error: {e.message}"⟩, ⟨1, ""⟩)

/-- Runs the program with these words in an environment. -/
def run (argv : List String) (env : Environment) (order : Visiting := .given) :
    Dialogue Provider.Answer Outcome :=
  match argv with
  | "addrs" :: tokens => do
    let (entry, outcome) := conclude (← (Roster.ofTokens tokens env order).attempt)
    Dialogue.say entry
    return outcome
  | _ => .done help

/-- The outcome of a run; none fails. -/
def outcomeOf : Except Failure Outcome → Outcome
  | .ok outcome => outcome
  | .error e => (conclude (.error e)).2

/-- The filter that the environment sets. -/
def filter (env : Environment) : Log.Filter := Log.Filter.parse ((env "RUST_LOG").getD "")

/-- The lines on the terminal for what is reported. -/
def terminal (env : Environment) (entries : List Log.Entry) : List String :=
  (entries.filter (filter env).allows).flatMap Log.Entry.terminalLines

end CloudRoster.CommandLine
