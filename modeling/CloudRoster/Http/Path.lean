/-
  Paths of URLs.

  A path is a list of segments, each behind a slash.  A segment of one dot stands for the directory
  it is in and one of two dots for the directory above; both are resolved while the path is read,
  also where the dots are percent-encoded.

  A letter with a colon or a bar is a drive.  The directory above a drive is the drive itself, and
  at the top of a file's path a drive

  1. has a colon, however it was written;
  2. is a segment of its own where a break parts it from what follows, which then is a name, also if
     it looks like dots.
-/
import CloudRoster.Http.Percent
import CloudRoster.Http.Scheme

namespace CloudRoster.Http

open Text

/-! ## Segments -/

/-- One step of a path. -/
inductive Segment where
  /-- The drive at the top of a file's path. -/
  | drive (letter : Char)
  /-- Any other step, encoded. -/
  | name (text : List Char)
deriving DecidableEq, Repr

/-- The drive that a text spells. -/
def drive? : List Char → Option Char
  | [c, d] => if c.isAlpha ∧ (d = ':' ∨ d = '|') then some c else none
  | _ => none

/-- Whether a text spells a drive. -/
def isDrive (cs : List Char) : Bool := (drive? cs).isSome

namespace Segment

/-- A segment as it is written. -/
def text : Segment → List Char
  | drive letter => [letter, ':']
  | name cs => cs

/-- The segment that a text names. -/
def ofText (cs : List Char) : Segment := name (encode pathSpecial cs)

/-- Whether a segment is the drive at the top. -/
def isTop : Segment → Bool
  | drive _ => true
  | name _ => false

/-- The segments that the first text of a file's path spells, the last one first. -/
def ofTop (cs : List Char) : List Segment :=
  match drive? (unbroken cs), cut ':' cs with
  | some letter, _ => [drive letter]
  | none, (letter, some (c :: rest)) =>
    if isBreak c && isDrive (unbroken letter ++ [':']) then
      [ofText (unbroken rest), ofText (unbroken letter ++ [':'])]
    else [ofText (unbroken cs)]
  | none, _ => [ofText (unbroken cs)]

end Segment

/-! ## Dots -/

/-- Whether a text stands for the directory it is in. -/
def isSingleDot (cs : List Char) : Bool :=
  [['.'], ['%', '2', 'e']].contains (cs.map Char.toLower)

/-- Whether a text stands for the directory above. -/
def isDoubleDot (cs : List Char) : Bool :=
  [['.', '.'], ['.', '%', '2', 'e'], ['%', '2', 'e', '.'], ['%', '2', 'e', '%', '2', 'e']].contains
    (cs.map Char.toLower)

/-- The segments of the directory above, the last one first.  There is none above the top, and none
    above a drive, which a backslash may follow where it is no slash. -/
def above : List Segment → List Segment
  | [] => []
  | s :: ss => if isDrive (cut '\\' s.text).1 then s :: ss else ss

/-- The segments that texts between slashes spell; `done` are those before, the last one first.
    Dots at the end leave a slash behind. -/
def resolve (scheme : Scheme) (done : List Segment) : List (List Char) → List Segment
  | [] => done.reverse
  | cs :: rest =>
    let last : List Segment := if rest.isEmpty then [.name []] else []
    if isDoubleDot (unbroken cs) then resolve scheme (last ++ above done) rest
    else if isSingleDot (unbroken cs) then resolve scheme (last ++ done) rest
    else if scheme = .file ∧ done = [] then resolve scheme (Segment.ofTop cs) rest
    else resolve scheme (.ofText (unbroken cs) :: done) rest

/-! ## Writing -/

/-- Segments as they are written, without the slash at the front. -/
def segmentsText (ss : List Segment) : List Char := joined '/' (ss.map Segment.text)

/-- The path that a text spells, which may begin with a slash.  That of a known scheme is never
    empty. -/
def pathOf (scheme : Scheme) (cs : List Char) : List Char :=
  if cs.isEmpty && !scheme.isKnown then []
  else
    let cs := cs.map fun c => if scheme.isSlash c then '/' else c
    let texts := pieces '/' (if cs.head? = some '/' then cs.drop 1 else cs)
    '/' :: segmentsText (resolve scheme [] texts)

/-- The path of a file, which has one slash at the front. -/
def filePath (ss : List Segment) : List Char := '/' :: (segmentsText ss).dropWhile (· == '/')

end CloudRoster.Http
