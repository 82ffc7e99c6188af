/-
  The words for a failure.

  A failure is told to whoever has asked, in one text that names what went wrong and, where that is
  a text, a URL or a status, holds it.

  1. **Specification** - `Quotes cs text`, `OptionWording W o text`, `HostWording`, `UrlWording`:
     how the parts of a URL are told.  `FaultWording`: why a request cannot be written down.
     `CauseWording`: why the provider's answer is of no use.  `Wording`: a failure.
  2. **The parts** - each is told as the specification has it (`quotes_quoted`,
     `urlWording_urlDetails`, `faultWording_clientText`, `causeWording_message`).

  **Main statement** (`wording_message`): every failure is told in its words.
-/
import CloudRoster.Failure

namespace CloudRoster

open Http

/-! ## Specification -/

/-- `Escapes cs text`: in the text a backslash stands before each quotation mark and each backslash
    of `cs`. -/
inductive Escapes : List Char → List Char → Prop where
  | nil : Escapes [] []
  | sign {c : Char} {cs text : List Char} (hc : c = '"' ∨ c = '\\') (h : Escapes cs text) :
    Escapes (c :: cs) ('\\' :: c :: text)
  | plain {c : Char} {cs text : List Char} (hquote : c ≠ '"') (hbackslash : c ≠ '\\')
      (h : Escapes cs text) : Escapes (c :: cs) (c :: text)

/-- A text between quotation marks. -/
inductive Quotes : List Char → String → Prop where
  | marks {cs text : List Char} (h : Escapes cs text) :
    Quotes cs ("\"" ++ String.ofList text ++ "\"")

/-- What need not be there, given the words for what is there. -/
inductive OptionWording {α : Type} (W : α → String → Prop) : Option α → String → Prop where
  | absent : OptionWording W none "None"
  | present {a : α} {text : String} (h : W a text) : OptionWording W (some a) s!"Some({text})"

inductive HostWording : Host → String → Prop where
  | name {n text : String} (h : Quotes n.toList text) : HostWording (.name n) s!"Domain({text})"
  | v4 (ip : IPv4) : HostWording (.address (.v4 ip)) s!"Ipv4({(Address.v4 ip).print})"
  | v6 (ip : IPv6) : HostWording (.address (.v6 ip)) s!"Ipv6({(Address.v6 ip).print})"

inductive NumberWording : Nat → String → Prop where
  | digits (n : Nat) : NumberWording n (toString n)

/-- A URL, part by part. -/
inductive UrlWording (u : Url) : String → Prop where
  | parts {scheme user password host portNumber path query fragment : String}
      (hscheme : Quotes u.scheme.name scheme) (huser : Quotes u.user user)
      (hpassword : OptionWording Quotes u.password password)
      (hhost : OptionWording HostWording u.host host)
      (hport : OptionWording NumberWording u.portNumber portNumber)
      (hpath : Quotes u.path path) (hquery : OptionWording Quotes u.query query)
      (hfragment : OptionWording Quotes u.fragment fragment) :
    UrlWording u (s!"Url \x7b scheme: {scheme}, cannot_be_a_base: {u.isOpaque}, " ++
      s!"username: {user}, password: {password}, host: {host}, port: {portNumber}, " ++
      s!"path: {path}, query: {query}, fragment: {fragment} \x7d")

/-- What is wrong with the text of a URL. -/
inductive SourceWording : UrlFault → String → Prop where
  | relative : SourceWording .relative "RelativeUrlWithoutBase"
  | emptyHost : SourceWording .emptyHost "EmptyHost"
  | invalidName : SourceWording .invalidName "IdnaError"
  | invalidCharacter : SourceWording .invalidCharacter "InvalidDomainCharacter"
  | invalidIPv4 : SourceWording .invalidIPv4 "InvalidIpv4Address"
  | invalidIPv6 : SourceWording .invalidIPv6 "InvalidIpv6Address"
  | invalidPort : SourceWording .invalidPort "InvalidPort"

/-- Why a request cannot be written down. -/
inductive FaultWording : RequestFault → String → Prop where
  | url {fault : UrlFault} {source : String} (h : SourceWording fault source) :
      FaultWording (.url fault) s!"reqwest::Error \x7b kind: Builder, source: {source} \x7d"
  | foreign {u : Url} {text : String} (h : UrlWording u text) :
      FaultWording (.foreign u)
        s!"reqwest::Error \x7b kind: Builder, url: {text}, source: BadScheme \x7d"
  | header : FaultWording .header
      "reqwest::Error \x7b kind: Builder, source: http::Error(InvalidHeaderValue) \x7d"
  | illegal {u : Url} {text : String} (h : UrlWording u text) :
      FaultWording (.illegal u) (s!"reqwest::Error \x7b kind: Builder, url: {text}" ++
        ", source: \"Parsed Url is not a valid Uri\" \x7d")

/-- Why the provider's answer is of no use. -/
inductive CauseWording : Refusal → String → Prop where
  | unsendable {fault : RequestFault} {text : String} (h : FaultWording fault text) :
      CauseWording (.unsendable fault) text
  | unanswered : CauseWording .unanswered "reqwest::Error \x7b kind: Request \x7d"
  | undecodable : CauseWording .undecodable "reqwest::Error \x7b kind: Decode \x7d"
  | unexplained (path : String) (status : Status) :
      CauseWording (.rejected path status none)
        s!"{path} returned {status.text}: no error details"
  | explained (path : String) (status : Status) (code message : String) :
      CauseWording (.rejected path status (some (code, message)))
        s!"{path} returned {status.text}: {message} ({code})"
  | badAddress (text : String) : CauseWording (.badAddress text) s!"Invalid IP address `{text}`"
  | reported (text : String) : CauseWording (.reported text) text

/-- A failure in words. -/
inductive Wording : Failure → String → Prop where
  | malformed (argument problem : String) :
      Wording (.malformed argument problem)
        s!"Invalid argument: `{argument}`. Error message: `{problem}`"
  | repeated (key : String) : Wording (.repeated key) s!"Duplicate argument with key: `{key}`"
  | unknown (key : String) :
      Wording (.unknown key) s!"Argument with key: `{key}` was not expected"
  | absent (key : String) : Wording (.absent key) s!"Argument with key: `{key}` is required"
  | foreignProvider (provider : String) :
      Wording (.foreignProvider provider)
        s!"Invalid provider `{provider}`. This plugin only serves `hcloud`."
  | noToken : Wording .noToken
      "No API token specified. Set `api_token` or the HCLOUD_TOKEN environment variable"
  | noHostname (path cause : String) :
      Wording (.noHostname path cause)
        s!"Unable to read hostname from `{path}`. Error message: `{cause}`"
  | refused {cause : Refusal} {text : String} (h : CauseWording cause text) :
      Wording (.refused cause)
        s!"Unable to retrieve data from provider. Error message: `{text}`"

/-! ## The parts -/

theorem quotes_quoted (cs : List Char) : Quotes cs (quoted cs) := by
  refine .marks ?_
  induction cs with
  | nil => exact .nil
  | cons c cs ih =>
    rw [List.flatMap_cons]
    by_cases hc : c = '"' ∨ c = '\\'
    · rw [if_pos hc]
      exact .sign hc ih
    · rw [if_neg hc]
      obtain ⟨hquote, hbackslash⟩ := not_or.1 hc
      exact .plain hquote hbackslash ih

theorem optionWording_optional {α : Type} {W : α → String → Prop} {f : α → String}
    (hf : ∀ a, W a (f a)) (o : Option α) : OptionWording W o (optional (o.map f)) := by
  cases o with
  | none => exact .absent
  | some a => exact .present (hf a)

theorem hostWording_hostDetails (host : Host) : HostWording host (hostDetails host) := by
  cases host with
  | name n => exact .name (quotes_quoted n.toList)
  | address ip =>
    cases ip with
    | v4 ip => exact .v4 ip
    | v6 ip => exact .v6 ip

/-- A text is told as it is. -/
theorem toString_string (s : String) : toString s = s := rfl

theorem urlWording_urlDetails (u : Url) : UrlWording u (urlDetails u) := by
  have hparts := UrlWording.parts (quotes_quoted u.scheme.name) (quotes_quoted u.user)
    (optionWording_optional quotes_quoted u.password)
    (optionWording_optional hostWording_hostDetails u.host)
    (optionWording_optional NumberWording.digits u.portNumber) (quotes_quoted u.path)
    (optionWording_optional quotes_quoted u.query)
    (optionWording_optional quotes_quoted u.fragment)
  refine cast (congrArg (UrlWording u) ?_) hparts
  -- the commas stand between the parts, or with them
  rw [← String.toList_inj, urlDetails]
  simp [toString_string]

theorem sourceWording_urlFaultWord (fault : UrlFault) :
    SourceWording fault (urlFaultWord fault) := by
  cases fault with
  | relative => exact .relative
  | emptyHost => exact .emptyHost
  | invalidName => exact .invalidName
  | invalidCharacter => exact .invalidCharacter
  | invalidIPv4 => exact .invalidIPv4
  | invalidIPv6 => exact .invalidIPv6
  | invalidPort => exact .invalidPort

/-- Without a URL there is the source alone. -/
theorem clientText_source (source : String) : clientText "Builder" [s!"source: {source}"] =
    s!"reqwest::Error \x7b kind: Builder, source: {source} \x7d" := by
  unfold clientText
  rw [← String.toList_inj]
  simp [toString_string]

/-- The source of the fault comes behind the URL. -/
theorem clientText_url (url : String) {source rest : String}
    (h : ", " ++ source ++ " \x7d" = rest) :
    clientText "Builder" [s!"url: {url}", source] =
      s!"reqwest::Error \x7b kind: Builder, url: {url}" ++ rest := by
  unfold clientText
  rw [← h, ← String.toList_inj]
  simp [toString_string]

theorem faultWording_clientText (fault : RequestFault) :
    FaultWording fault (clientText "Builder" (faultDetails fault)) := by
  cases fault with
  | url fault =>
    rw [faultDetails, clientText_source]
    exact .url (sourceWording_urlFaultWord fault)
  | foreign u =>
    have htext : clientText "Builder" (faultDetails (.foreign u)) =
        s!"reqwest::Error \x7b kind: Builder, url: {urlDetails u}" ++ ", source: BadScheme \x7d" :=
      clientText_url _ (by decide +kernel)
    rw [htext]
    exact .foreign (urlWording_urlDetails u)
  | header =>
    have htext : clientText "Builder" (faultDetails .header) =
        "reqwest::Error \x7b kind: Builder, source: http::Error(InvalidHeaderValue) \x7d" := by
      decide +kernel
    rw [htext]
    exact .header
  | illegal u =>
    have htext : clientText "Builder" (faultDetails (.illegal u)) =
        s!"reqwest::Error \x7b kind: Builder, url: {urlDetails u}" ++
          ", source: \"Parsed Url is not a valid Uri\" \x7d" :=
      clientText_url _ (by decide +kernel)
    rw [htext]
    exact .illegal (urlWording_urlDetails u)

theorem causeWording_message (cause : Refusal) : CauseWording cause cause.message := by
  cases cause with
  | unsendable fault => exact .unsendable (faultWording_clientText fault)
  | unanswered => exact .unanswered
  | undecodable => exact .undecodable
  | rejected path status details =>
    cases details with
    | none => exact .unexplained path status
    | some details => exact .explained path status details.1 details.2
  | badAddress text => exact .badAddress text
  | reported text => exact .reported text

/-! ## Main statement -/

/-- Every failure is told in its words. -/
theorem wording_message (e : Failure) : Wording e e.message := by
  cases e with
  | malformed argument problem => exact .malformed argument problem
  | repeated key => exact .repeated key
  | unknown key => exact .unknown key
  | absent key => exact .absent key
  | foreignProvider provider => exact .foreignProvider provider
  | noToken => exact .noToken
  | noHostname path cause => exact .noHostname path cause
  | refused cause => exact .refused (causeWording_message cause)

end CloudRoster
