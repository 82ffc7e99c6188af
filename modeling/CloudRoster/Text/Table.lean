/-
  Tables of characters: what a property is for every character, written down run by run.

  A table is read from words such as `3B1-3C9:v`: the code points of the first and of the last
  character of a run (one is enough for a run of one character), and the value they share.  The runs
  ascend, and `find?` halves the table until it comes to the character.
-/
import CloudRoster.Text.Blank
import CloudRoster.Text.Numeral
import CloudRoster.Text.Pieces

namespace CloudRoster.Text

/-! ## Runs -/

/-- Characters that follow one another and share a value. -/
structure Run (α : Type) where
  first : Nat
  last : Nat
  value : α
  first_le_last : first ≤ last := by omega
deriving DecidableEq, Repr

namespace Run

variable {α : Type}

/-- The run that a word spells, given how values are spelled. -/
def ofWord? (value? : List Char → Option α) (word : List Char) : Option (Run α) := do
  let (ends, value) := cut ':' word
  let (first, last) := cut '-' ends
  let first ← natural? 16 first
  let last ← (last.map (natural? 16)).getD (some first)
  if h : first ≤ last then return ⟨first, last, ← value? (value.getD []), h⟩ else none

end Run

/-- The texts between blanks. -/
def words (cs : List Char) : List (List Char) :=
  cs.foldr (fun c ws => if isBlank c then [] :: ws else consHead c ws) [[]]

/-! ## Tables -/

/-- What characters share, run by run. -/
structure Table (α : Type) where
  runs : Array (Run α)

namespace Table

variable {α : Type}

/-- The table that a text spells; a word that spells no run is left out. -/
def ofText (value? : List Char → Option α) (text : String) : Table α :=
  ⟨((words text.toList).filterMap (Run.ofWord? value?)).toArray⟩

/-- The set of characters that a text spells. -/
def setOfText (text : String) : Table Unit := ofText (fun _ => some ()) text

/-- The run that holds a code point, of those from `lo` on and before `hi`. -/
def findBetween? (t : Table α) (n lo hi : Nat) (hhi : hi ≤ t.runs.size) : Option (Run α) :=
  if h : lo < hi then
    have : (lo + hi) / 2 < t.runs.size := by omega
    let r := t.runs[(lo + hi) / 2]
    if n < r.first then findBetween? t n lo ((lo + hi) / 2) (by omega)
    else if r.last < n then findBetween? t n ((lo + hi) / 2 + 1) hi hhi
    else some r
  else none
termination_by hi - lo
decreasing_by all_goals omega

/-- The run that holds a code point. -/
def find? (t : Table α) (n : Nat) : Option (Run α) :=
  t.findBetween? n 0 t.runs.size (Nat.le_refl _)

/-- The value that a character shares, if a run holds it. -/
def value? (t : Table α) (c : Char) : Option α := (t.find? c.toNat).map Run.value

/-- Whether a run holds a character. -/
def contains (t : Table α) (c : Char) : Bool := (t.find? c.toNat).isSome

end Table

end CloudRoster.Text
