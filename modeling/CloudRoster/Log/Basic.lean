/-
  Log entries.

  Whatever the library has to report is an entry: a level, the target it is reported under and a
  message.  Where entries go is the caller's choice: to text lines, to a facade that drops what is
  above its limit, or nowhere.
-/

namespace CloudRoster.Log

/-- How important an entry is, the most important first. -/
inductive Level where
  | error
  | warn
  | info
  | debug
  | trace
deriving DecidableEq, Repr

namespace Level

/-- The name of a level in capital letters. -/
def name : Level → String
  | .error => "ERROR"
  | .warn => "WARN"
  | .info => "INFO"
  | .debug => "DEBUG"
  | .trace => "TRACE"

/-- One for the most important level, five for the least. -/
def rank : Level → Nat
  | .error => 1
  | .warn => 2
  | .info => 3
  | .debug => 4
  | .trace => 5

/-- All levels. -/
def all : List Level := [.error, .warn, .info, .debug, .trace]

/-- The level with a name, which may be written in letters of either case. -/
def ofName? (s : String) : Option Level :=
  all.find? fun l => l.name.toList == s.toList.map Char.toUpper

end Level

/-- The least important level that passes; `none` lets nothing pass. -/
abbrev Limit := Option Level

/-- Whether a level passes a limit. -/
def Limit.allows (limit : Limit) (level : Level) : Bool :=
  match limit with
  | none => false
  | some l => level.rank ≤ l.rank

/-- The target of what is reported while servers are looked for. -/
def target : String := "discover-hcloud"

/-- A line of the log. -/
structure Entry where
  target : String
  level : Level
  message : String
deriving DecidableEq, Repr

namespace Entry

def error (message : String) : Entry := ⟨Log.target, .error, message⟩
def warn (message : String) : Entry := ⟨Log.target, .warn, message⟩
def info (message : String) : Entry := ⟨Log.target, .info, message⟩
def debug (message : String) : Entry := ⟨Log.target, .debug, message⟩
def trace (message : String) : Entry := ⟨Log.target, .trace, message⟩

/-- An entry as a line of text. -/
def line (e : Entry) : String := s!"[{e.level.name}] {e.target}: {e.message}"

end Entry

/-- Where entries go. -/
inductive Sink where
  | lines
  | facade
  | nowhere
deriving DecidableEq, Repr

namespace Sink

/-- The text lines that entries become. -/
def textLines : Sink → List Entry → List String
  | .lines, es => es.map Entry.line
  | _, _ => []

/-- The entries that pass through the facade. -/
def forwarded : Sink → Limit → List Entry → List Entry
  | .facade, limit, es => es.filter fun e => limit.allows e.level
  | _, _, _ => []

end Sink

/-! ## Values with a log -/

/-- A value and what was reported while it was found. -/
structure Logged (α : Type) where
  value : α
  entries : List Entry
deriving Repr

end CloudRoster.Log
