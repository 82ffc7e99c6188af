/-
  From parameters to settings.

  Parameters are what a caller asks for, and an empty text counts as nothing.  Settings are what a
  discovery works with.  A parameter comes before the environment variable of the same meaning; only
  the token has to be given, and a family that does not exist is corrected, not refused.  The
  provider is looked at before the token.
-/
import CloudRoster.Argument
import CloudRoster.Family

namespace CloudRoster

/-- What a caller asks for. -/
structure Parameters where
  provider : String
  apiToken : Option String
  location : Option String
  labelSelector : Option String
  addressType : Option String
deriving DecidableEq, Repr

namespace Parameters

/-- The parameters with one more argument entered.  The provider is there already. -/
def enter (p : Parameters) (pair : String × String) : Except Failure Parameters :=
  match pair.1 with
  | "provider" => .ok p
  | "api_token" => .ok { p with apiToken := some pair.2 }
  | "location" => .ok { p with location := some pair.2 }
  | "label_selector" => .ok { p with labelSelector := some pair.2 }
  | "address_type" => .ok { p with addressType := some pair.2 }
  | key => .error (.unknown key)

/-- Arguments entered one after another, from parameters that hold the provider only.  The first key
    without a meaning ends this, and what follows is not looked at. -/
def fill (provider : String) (pairs : List (String × String)) : Except Failure Parameters :=
  pairs.foldlM enter ⟨provider, none, none, none, none⟩

/-- The parameters that arguments give, visited in this order. -/
def ofArguments (args : Arguments) (order : Visiting := .given) : Except Failure Parameters :=
  fill args.provider (args.visited order)

/-- The parameters that a list of tokens gives. -/
def ofTokens (tokens : List String) (order : Visiting := .given) : Except Failure Parameters := do
  ofArguments (← Arguments.ofTokens tokens) order

/-- The parameters that a line gives. -/
def ofLine (line : String) (order : Visiting := .given) : Except Failure Parameters := do
  ofArguments (← Arguments.ofLine line) order

end Parameters

/-- The values of environment variables; one whose value is no text has none. -/
abbrev Environment := String → Option String

/-- What a discovery works with. -/
structure Settings where
  apiToken : String
  /-- Where servers are looked for: everywhere or around this one, if absent. -/
  location : Option String
  /-- Which servers are looked for: all, if empty. -/
  labelSelector : String
  family : Family
  endpoint : String
deriving DecidableEq, Repr

namespace Settings

/-- The name of the provider. -/
def providerName : String := "hcloud"

/-- Where the provider answers, if nothing else is said. -/
def defaultEndpoint : String := "https://api.hetzner.cloud/v1"

/-- A text that is not empty. -/
def nonEmpty (s : Option String) : Option String := s.filter (· ≠ "")

/-- A parameter or, if it is not given, the environment variable.  Both count as not given when they
    are empty, so what results is never empty. -/
def given (env : Environment) (param : Option String) (variableName : String) : Option String :=
  (nonEmpty param).or (nonEmpty (env variableName))

/-- The settings for parameters in an environment.  The family comes last, because what is said
    about it in the log is of no interest when there are no settings. -/
def ofParameters (p : Parameters) (env : Environment) : Except Failure (Log.Logged Settings) :=
  if p.provider ≠ providerName then .error (.foreignProvider p.provider)
  else
    match given env p.apiToken "HCLOUD_TOKEN" with
    | none => .error .noToken
    | some token =>
      let family := Family.choose p.addressType
      .ok ⟨{
        apiToken := token
        location := given env p.location "HCLOUD_LOCATION"
        labelSelector := p.labelSelector.getD ""
        family := family.value
        endpoint := (nonEmpty (env "HCLOUD_ENDPOINT")).getD defaultEndpoint }, family.entries⟩

end Settings

end CloudRoster
