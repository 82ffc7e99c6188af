/-
  Schemes: what a URL begins with.

  A scheme is a letter and then letters, digits and a few signs, in any case, up to a colon; breaks
  among them do not count.  The schemes of the web and of files are known: in their URLs a backslash
  counts as a slash.  Of any other, no more than its name is known.
-/
import CloudRoster.Text.Blank
import CloudRoster.Text.Pieces

namespace CloudRoster.Http

open Text

/-- What a URL can begin with. -/
inductive Scheme where
  | http
  | https
  | ws
  | wss
  | ftp
  | file
  /-- Any other, in lower case. -/
  | other (name : List Char)
deriving DecidableEq, Repr

namespace Scheme

/-- The known schemes by their names. -/
def byName : List (String × Scheme) :=
  [("http", .http), ("https", .https), ("ws", .ws), ("wss", .wss), ("ftp", .ftp), ("file", .file)]

/-- The scheme of a name in lower case. -/
def ofName (cs : List Char) : Scheme := (byName.lookup (String.ofList cs)).getD (.other cs)

/-- How a scheme is written. -/
def name : Scheme → List Char
  | .http => ['h', 't', 't', 'p']
  | .https => ['h', 't', 't', 'p', 's']
  | .ws => ['w', 's']
  | .wss => ['w', 's', 's']
  | .ftp => ['f', 't', 'p']
  | .file => ['f', 'i', 'l', 'e']
  | .other name => name

/-- Whether more than the name of a scheme is known. -/
def isKnown : Scheme → Bool
  | .other _ => false
  | _ => true

/-- Whether requests are sent by a scheme. -/
def isAsked : Scheme → Bool
  | .http | .https => true
  | _ => false

/-- The port number of a URL that gives none. -/
def portNumber : Scheme → Option Nat
  | .http | .ws => some 80
  | .https | .wss => some 443
  | .ftp => some 21
  | .file | .other _ => none

/-- The characters that divide what follows a scheme. -/
def isSlash (s : Scheme) (c : Char) : Bool := c == '/' || (s.isKnown && c == '\\')

/-- The characters that a scheme may have after its first, which is a letter. -/
def isNameChar (c : Char) : Bool := c.isAlphanum || ['+', '-', '.'].contains c

/-- The scheme that a text begins with, and what follows its colon. -/
def read? (cs : List Char) : Option (Scheme × List Char) :=
  match cut ':' cs with
  | (name, some rest) =>
    let name := unbroken name
    if name.head?.any Char.isAlpha && name.all isNameChar then
      some (ofName (name.map Char.toLower), rest)
    else none
  | (_, none) => none

end Scheme

end CloudRoster.Http
