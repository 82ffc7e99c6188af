/-
  Filters on log entries, and the records that pass them as lines for a terminal.

  A filter is a list of directives with commas between them: `target=level` sets the limit for the
  targets that start so, `target` lets all of them pass and `level` sets the limit for every other
  target.  The directive with the longest start decides, the last of equals.  Without a directive
  only errors pass.  What a message says makes no difference.
-/
import CloudRoster.Log.Basic
import CloudRoster.Text.Blank
import CloudRoster.Text.Pieces

namespace CloudRoster.Log

open Text

/-- A limit for the targets that start with `start`. -/
structure Directive where
  start : List Char
  limit : Limit
deriving DecidableEq, Repr

namespace Directive

/-- The limit that a text names. -/
def limit? (cs : List Char) : Option Limit :=
  if cs.map Char.toUpper = ['O', 'F', 'F'] then some none
  else (Level.ofName? (String.ofList cs)).map some

/-- The directive that a text spells, if it is one. -/
def parse? (cs : List Char) : Option Directive :=
  match pieces '=' (strip isBlank cs) with
  | [[]] => none
  | [one] =>
    match limit? one with
    | some limit => some ⟨[], limit⟩
    | none => some ⟨one, some .trace⟩
  | [start, level] =>
    if (strip isBlank level).isEmpty then some ⟨start, some .trace⟩
    else (limit? (strip isBlank level)).map fun limit => ⟨start, limit⟩
  | _ => none

end Directive

/-- Which entries pass. -/
structure Filter where
  directives : List Directive
deriving DecidableEq, Repr

namespace Filter

/-- The filter that a text spells; what is not a directive is left out.  Behind a slash a text can
    have a pattern that messages must match: it is not a part of this, and every message passes. -/
def parse (s : String) : Filter :=
  match (pieces ',' (cut '/' s.toList).1).filterMap Directive.parse? with
  | [] => ⟨[⟨[], some .error⟩]⟩
  | ds => ⟨ds⟩

/-- The limit that holds for a target: that of the longest start that fits, and of the later one
    where two are equally long.  A target that no directive fits gets nothing through. -/
def limitFor (f : Filter) (target : String) : Limit :=
  let found := f.directives.foldl (fun best d =>
    if d.start.isPrefixOf target.toList then
      match best with
      | some b => if b.start.length ≤ d.start.length then some d else best
      | none => some d
    else best) none
  found.bind Directive.limit

/-- Whether an entry passes. -/
def allows (f : Filter) (e : Entry) : Bool := (f.limitFor e.target).allows e.level

end Filter

namespace Entry

/-- The lines that an entry takes on a terminal; those after the first are indented. -/
def terminalLines (e : Entry) : List String :=
  let level := e.level.name.toList ++ List.replicate (5 - e.level.name.length) ' '
  match pieces '\n' e.message.toList with
  | [] => []
  | first :: more =>
    s!"[{String.ofList level} {e.target}] {String.ofList first}"
      :: more.map fun cs => String.ofList (List.replicate 4 ' ' ++ cs)

end Entry

end CloudRoster.Log
