/-
  Requests and replies.

  A request asks for a URL in the name of a token, which it carries in its authorization header.
  None is made for a URL without a host, with a token that no header may hold, with a scheme that
  requests are not sent by, or for a URL that no request line can name; what comes first here is the
  fault that counts.  A reply is a status code and the octets of a body.
-/
import CloudRoster.Http.Status
import CloudRoster.Http.Url

namespace CloudRoster.Http

open Text

/-- A question to a server. -/
structure Request where
  url : Url
  token : String
deriving DecidableEq, Repr

/-- A server's answer. -/
structure Reply where
  status : Status
  body : List UInt8
deriving DecidableEq, Repr

/-- Whether a header may hold a text: no control character but the tab. -/
def isHeaderText (s : String) : Bool :=
  (utf8 s).all fun b => (0x20 ≤ b && b != 0x7F) || b == 0x09

/-- Why a request cannot be sent. -/
inductive RequestFault where
  | url (fault : UrlFault)
  /-- The URL has no host, or its scheme is none that requests are sent by. -/
  | foreign (url : Url)
  /-- The token is no text for a header. -/
  | header
  /-- The URL is none that a request line can name. -/
  | illegal (url : Url)
deriving DecidableEq, Repr

namespace Request

/-- The request for the pairs `query` at a URL in the name of a token. -/
def make (url token : String) (query : List (String × String)) : Except RequestFault Request :=
  match Url.parse url with
  | .error fault => .error (.url fault)
  | .ok u =>
    if u.host.isNone then .error (.foreign u)
    else if !isHeaderText token then .error .header
    else
      let u := { u with toAuthority := u.toAuthority.withoutUser }.withPairs query
      if !u.scheme.isAsked then .error (.foreign u)
      else if u.isLegal then .ok ⟨u, token⟩
      else .error (.illegal u)

/-- Method and target. -/
def line (r : Request) : String := "GET " ++ String.ofList r.url.target

/-- The value of the authorization header. -/
def authorization (r : Request) : String := "Bearer " ++ r.token

end Request

end CloudRoster.Http
