/-
  Files, as far as one is read: its octets, or why they cannot be had.
-/
import CloudRoster.Text.Utf8

namespace CloudRoster

open Text

/-- What reading a file gives. -/
inductive FileContent where
  | octets (bs : List UInt8)
  | unreadable (cause : String)
deriving DecidableEq, Repr

namespace FileContent

/-- No file has this path. -/
def missing : FileContent := .unreadable "No such file or directory (os error 2)"

/-- A directory has this path. -/
def directory : FileContent := .unreadable "Is a directory (os error 21)"

/-- The text of a file, or why there is none. -/
def text : FileContent → Except String String
  | .octets bs =>
    match ofUtf8? bs with
    | some s => .ok s
    | none => .error "stream did not contain valid UTF-8"
  | .unreadable cause => .error cause

end FileContent

end CloudRoster
