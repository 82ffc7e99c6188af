/-
  Names of machines, as they are sent.

  A name is made of labels with dots between them and is sent in ASCII: a label with other
  characters is written in Punycode behind `xn--`.  Before that, characters become what they stand
  for (`meaning?`), and letters with marks get one spelling (`composed`).

  A label may also be given in Punycode, if it spells what would be written so.  Whichever way it is
  given, it does not start with a mark (`isMark`) and its joiners are where they may be
  (`joinersFit`); in a name with letters that run to the left, each label keeps to one direction
  (`keepsDirection`).
-/
import CloudRoster.Domain.Composition
import CloudRoster.Domain.Direction
import CloudRoster.Domain.Joining
import CloudRoster.Domain.Punycode
import CloudRoster.Domain.Replacement

namespace CloudRoster.Domain

open Text

/-- The characters that no name may hold. -/
def isForbidden (c : Char) : Bool :=
  c.toNat ≤ 0x20 || c.toNat == 0x7F
    || ['#', '%', '/', ':', '<', '>', '?', '@', '[', '\\', ']', '^', '|'].contains c

/-! ## Labels -/

/-- A part of a name: what is sent, and what it means to a reader. -/
structure Label where
  sent : List Char
  read : List Char
deriving DecidableEq, Repr

namespace Label

/-- What stands before Punycode. -/
def sign : List Char := ['x', 'n', '-', '-']

/-- The most characters of Punycode that are decoded. -/
def mostCoded : Nat := 2000

/-- The most characters of a label that is more than ASCII, as a reader counts them. -/
def mostRead : Nat := 1000

/-- The text that Punycode spells, if it is more than ASCII and is what a label can be read as. -/
def spelled? (cs : List Char) : Option (List Char) :=
  if cs.all isAscii && cs.length ≤ mostCoded then
    (Punycode.decode? cs).filter fun read =>
      !read.all isAscii && read.length ≤ mostRead && read.all isPermitted && composed read == read
  else none

/-- The label that a text gives, once its characters are replaced. -/
def ofText? (cs : List Char) : Option Label :=
  if cs.take 4 = sign then (spelled? (cs.drop 4)).map fun read => ⟨cs, read⟩
  else if cs.all isAscii then some ⟨cs, cs⟩
  else if cs.length ≤ mostRead then some ⟨sign ++ Punycode.encode cs, cs⟩
  else none

/-- Whether a label begins with a character of its own, and its joiners are where they may be. -/
def isLegible (l : Label) : Bool := !l.read.head?.any isMark && joinersFit [] l.read

end Label

/-! ## Names -/

/-- Whether each label keeps its direction, if one of them has letters that run to the left. -/
def directionsFit (ls : List Label) : Bool :=
  !(ls.any fun l => l.read.any runsLeft) || ls.all fun l => keepsDirection l.read

/-- What is sent for labels, if there is nothing wrong with them. -/
def send? (ls : List Label) : Option (List Char) :=
  if ls.all Label.isLegible ∧ directionsFit ls then some (joined '.' (ls.map Label.sent)) else none

/-- The text of a name in which characters have become what they stand for. -/
def spelling? (cs : List Char) : Option (List Char) :=
  (cs.mapM meaning?).map fun texts => composed texts.flatten

/-- The ASCII characters that a name is sent in. -/
def toAscii? (cs : List Char) : Option (List Char) := do
  let text ← (spelling? cs).filter fun text => !text.any isForbidden
  send? (← (pieces '.' text).mapM Label.ofText?)

end CloudRoster.Domain
