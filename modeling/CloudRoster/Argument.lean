/-
  Arguments of the form `key=value`.

  The key of a token is the text before its first equals sign and the value all that follows it.  A
  token without an equals sign or without a value is malformed, and a key may be given once only.
  Tokens are looked at in order and the first fault is the one that is told; whether a provider is
  named is looked at last.

  A line of arguments is its tokens with single spaces between them, and blanks at its ends do not
  count.  No other blank separates tokens.

  Arguments are kept by key.  Whoever goes through them goes through a map, and in which order a map
  is visited is its own affair; so the order is handed in where it can make a difference.
-/
import CloudRoster.Failure
import CloudRoster.Text.Blank
import CloudRoster.Text.Pieces

namespace CloudRoster

open Text

namespace Argument

/-- The problem with a token that is not of the form `key=value`. -/
def expectedForm : String := "Expected an argument on the format: key=value"

/-- Key and value of a token. -/
def parse (token : String) : Except Failure (String × String) :=
  match cut '=' token.toList with
  | (key, none) => .error (.malformed (String.ofList key) expectedForm)
  | (key, some value) =>
    if value.isEmpty then .error (.malformed (String.ofList key) expectedForm)
    else .ok (String.ofList key, String.ofList value)

end Argument

/-- The order in which the keys of a map are visited.  Nothing is known of it but that each key
    comes up once: every map has an order of its own, and the values have no part in it. -/
structure Visiting where
  arrange : List String → List String
  perm : ∀ keys, (arrange keys).Perm keys

/-- The order in which the keys were given. -/
def Visiting.given : Visiting := ⟨id, List.Perm.refl⟩

/-- Arguments by key and the provider that they name.  The pairs stand as they were given. -/
structure Arguments where
  pairs : List (String × String)
  provider : String
deriving DecidableEq, Repr

namespace Arguments

/-- The pairs of `tokens` after those in `seen`.  A token is read before its key is looked up, so a
    malformed token is told as such even if its key is also repeated. -/
def gather (seen : List (String × String)) : List String → Except Failure (List (String × String))
  | [] => .ok seen
  | token :: tokens => do
    let pair ← Argument.parse token
    if (seen.lookup pair.1).isSome then .error (.repeated pair.1)
    else gather (seen ++ [pair]) tokens

/-- The arguments that a list of tokens gives. -/
def ofTokens (tokens : List String) : Except Failure Arguments := do
  let pairs ← gather [] tokens
  match pairs.lookup "provider" with
  | none => .error (.absent "provider")
  | some provider => .ok ⟨pairs, provider⟩

/-- The tokens of a line.  Two spaces in a row have an empty token between them, which is malformed;
    so nothing that a caller wrote is passed over. -/
def tokensOfLine (line : String) : List String :=
  (pieces ' ' (trim line).toList).map String.ofList

/-- The arguments that a line gives. -/
def ofLine (line : String) : Except Failure Arguments := ofTokens (tokensOfLine line)

/-- The value of a key. -/
def value? (args : Arguments) (key : String) : Option String := args.pairs.lookup key

/-- The pairs in the order in which their keys are visited. -/
def visited (args : Arguments) (order : Visiting) : List (String × String) :=
  (order.arrange (args.pairs.map Prod.fst)).filterMap fun key =>
    (args.value? key).map fun value => (key, value)

end Arguments

end CloudRoster
