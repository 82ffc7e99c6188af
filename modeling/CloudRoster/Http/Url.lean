/-
  URLs.

  `Url.parse` reads an absolute URL the way browsers do:

  1. Controls and spaces at the ends do not count, nor do breaks, except behind a file's drive.
  2. The fragment begins at the first number sign, the query at the first question mark before it.
  3. The authority is an optional user, up to the last at sign, a host and an optional port number.
     With a scheme of the web it follows any number of slashes, and has a host.  With a scheme that
     is not known it follows two slashes; without them there is none.
  4. The URL of a file has at most a host, between two slashes and the next one, and none beside a
     drive at the top of its path.  If the text between the slashes names no host, the slash behind
     it begins a segment without a name, so that no drive that follows is at the top.
  5. The rest is the path (`pathOf`), which has no segments if the scheme is not known and no slash
     follows it.

  Only some URLs have a server to ask, and not every one of those can be asked for: `Url.isLegal`
  says of which a request line can be written.
-/
import CloudRoster.Http.Form
import CloudRoster.Http.Host
import CloudRoster.Http.Path
import CloudRoster.Text.Blank

namespace CloudRoster.Http

open Text

/-- Whom a URL speaks to, and as whom.  User and password are encoded; the port number is left out
    where it is that of the scheme. -/
structure Authority where
  user : List Char
  password : Option (List Char)
  host : Option Host
  portNumber : Option Nat
deriving DecidableEq, Repr

/-- A URL with its path, query and fragment encoded. -/
structure Url extends Authority where
  scheme : Scheme
  /-- Whether the path is a text of its own, without segments. -/
  isOpaque : Bool
  path : List Char
  query : Option (List Char)
  fragment : Option (List Char)
deriving DecidableEq, Repr

/-! ## Authority -/

namespace Authority

/-- No authority. -/
def nobody : Authority := ⟨[], none, none, none⟩

/-- The user before the last at sign, if there is one, and the place behind it. -/
def userAndPlace (cs : List Char) : Option (List Char) × List Char :=
  match (pieces '@' cs).reverse with
  | [] => (none, [])
  | [place] => (none, place)
  | place :: user => (some (joined '@' user.reverse), place)

/-- Texts of host and port number: the colon between them is the first outside brackets. -/
def hostAndNumber (cs : List Char) : List Char × Option (List Char) :=
  if cs.head? = some '[' then
    match cut ']' cs with
    | (host, some rest) =>
      match cut ':' rest with
      | (more, number) => (host ++ ']' :: more, number)
    | (host, none) => (host, none)
  else cut ':' cs

/-- The port number that a URL gives: none, or digits of a number below 65536. -/
def readNumber : Option (List Char) → Except UrlFault (Option Nat)
  | none => .ok none
  | some [] => .ok none
  | some cs =>
    match (natural? 10 cs).filter (· < 65536) with
    | some n => .ok (some n)
    | none => .error .invalidPort

/-- The host that a text spells.  Only with a scheme that is not known, and with neither user nor
    port number, there need not be one; a user that is a mere colon does not count. -/
def readHost (scheme : Scheme) (user : Option (List Char)) (text : List Char)
    (number : Option (List Char)) : Except UrlFault (Option Host) :=
  if scheme.isKnown then (Host.parse text).map some
  else if !text.isEmpty then (Host.parseOpaque text).map some
  else if number.isSome || user.any (· ≠ [':']) then .error .emptyHost
  else .ok none

/-- The authority that a text spells, and what of the text belongs to the path: with a scheme that
    is not known, a backslash ends the port number. -/
def read (scheme : Scheme) (cs : List Char) : Except UrlFault (Authority × List Char) := do
  let (user, place) := userAndPlace cs
  let (hostText, number) := hostAndNumber place
  let host ← readHost scheme user hostText number
  let number ← readNumber (number.map fun cs => cs.takeWhile (· != '\\'))
  let (name, password) := cut ':' (user.getD [])
  return (⟨encode userSpecial name, (password.filter (· ≠ [])).map (encode userSpecial), host,
    number.filter fun n => some n ≠ scheme.portNumber⟩, place.dropWhile (· != '\\'))

/-- A part that need not be there, behind the sign that begins it. -/
def behind (sign : Char) : Option (List Char) → List Char
  | none => []
  | some cs => sign :: cs

/-- User and password, if there are any. -/
def userText (a : Authority) : List Char :=
  if a.user = [] ∧ a.password = none then []
  else a.user ++ behind ':' a.password ++ ['@']

/-- Host and port number, as far as they are given. -/
def placeText (a : Authority) : List Char :=
  (a.host.map Host.text).getD [] ++ behind ':' (a.portNumber.map decimal)

/-- An authority as it is written. -/
def text (a : Authority) : List Char := a.userText ++ a.placeText

/-- The authority without its user, if that one's name can be read, and with it what is left of the
    password: then a request speaks for them in another place. -/
def withoutUser (a : Authority) : Authority :=
  let read (cs : List Char) := ofUtf8? (decodeOctets cs)
  if (read a.user).isSome ∧ (a.user ≠ [] ∨ (a.password.bind read).isSome) then
    { a with user := [], password := none }
  else a

end Authority

namespace Url

/-! ## Reading -/

/-- `u` with the authority and the path that a text spells. -/
def readPlace (u : Url) (cs : List Char) : Except UrlFault Url := do
  let (authority, rest) ← Authority.read u.scheme (cs.takeWhile fun c => !u.scheme.isSlash c)
  return { u with
    toAuthority := authority
    path := pathOf u.scheme (rest ++ cs.dropWhile fun c => !u.scheme.isSlash c) }

/-- The host that a file's URL names; `localhost` is as good as none. -/
def fileHost (name : List Char) : Except UrlFault (Option Host) :=
  if name = [] then .ok none
  else do
    let host ← Host.parse name
    return if host = .name "localhost" then none else some host

/-- `u` with the path of a file and, after two slashes, its host.  A drive is no host. -/
def readFile (u : Url) (cs : List Char) : Except UrlFault Url :=
  let texts := pieces '/' (cs.map fun c => if c = '\\' then '/' else c)
  match texts.map unbroken with
  | [] :: [] :: name :: _ =>
    if isDrive name then .ok { u with path := filePath (resolve .file [] (texts.drop 2)) }
    else do
      match ← fileHost name with
      | none => return { u with path := filePath (resolve .file [] ([] :: texts.drop 3)) }
      | some host =>
        let path := resolve .file [] (texts.drop 3)
        return { u with
          host := if path.head?.any Segment.isTop then none else some host
          path := filePath path }
  | [] :: _ :: _ => .ok { u with path := filePath (resolve .file [] (texts.drop 1)) }
  | _ => .ok { u with path := filePath (resolve .file [] texts) }

/-- `u` with what follows a scheme. -/
def readRest (u : Url) (cs : List Char) : Except UrlFault Url :=
  match u.scheme, unbroken cs with
  | .file, _ => u.readFile cs
  | .other _, '/' :: '/' :: cs => u.readPlace cs
  | .other _, '/' :: cs => .ok { u with path := pathOf u.scheme ('/' :: cs) }
  | .other _, cs => .ok { u with isOpaque := true, path := encode isControl cs }
  | _, cs => u.readPlace (cs.dropWhile u.scheme.isSlash)

/-- The URL that a text spells. -/
def parse (s : String) : Except UrlFault Url :=
  match Scheme.read? (strip (fun c => c.toNat ≤ 0x20) s.toList) with
  | none => .error .relative
  | some (scheme, rest) =>
    let (rest, fragment) := cut '#' rest
    let (rest, query) := cut '?' rest
    let special (c : Char) := querySpecial c || (scheme.isKnown && c == '\'')
    readRest ⟨.nobody, scheme, false, [], query.map fun cs => encode special (unbroken cs),
      fragment.map fun cs => encode fragmentSpecial (unbroken cs)⟩ rest

/-! ## Writing -/

/-- The URL with the pairs added to its query. -/
def withPairs (u : Url) (ps : List (String × String)) : Url :=
  { u with query := some (match u.query with
      | none | some [] => Form.encode ps
      | some q => q ++ '&' :: Form.encode ps) }

/-- What a request line names: path and query. -/
def target (u : Url) : List Char := u.path ++ Authority.behind '?' u.query

/-- A URL with a host as it is written. -/
def text (u : Url) : List Char :=
  u.scheme.name ++ ':' :: '/' :: '/' :: u.toAuthority.text ++ u.target ++
    Authority.behind '#' u.fragment

/-! ## URLs that can be asked for -/

/-- The most characters of a URL that can be asked for. -/
def mostCharacters : Nat := 65534

/-- The characters that a name may hold but an authority may not. -/
def isIllegal (c : Char) : Bool := ['"', '\u0060', '\x7b', '\x7d'].contains c

/-- Whether a request can name a URL.  Whatever could not stand in path and query is encoded. -/
def isLegal (u : Url) : Bool :=
  !u.toAuthority.text.any isIllegal && u.text.length ≤ mostCharacters

end Url

end CloudRoster.Http
