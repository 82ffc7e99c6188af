/-
  What is wrong with the arguments is told before anything happens.

  A caller can be wrong about several things at once.  They are looked at in this order, and the
  first one that is wrong is told:

  1. **The arguments** - each is a key and a value, no key is given twice, and a provider is named
     (`IsArguments`).
  2. **The keys** - each has a meaning.
  3. **The provider** - it is the one that is served.
  4. **The token** - the arguments or the environment give one (`EffectiveToken`).

  Whatever it is, nothing is asked and nothing reported (`FailsAtOnce`).  If nothing is wrong and
  the location is known, the first page of servers is asked for at once, unless no request line can
  name its URL (`firstPage`).

  **Headline** (`validation_first`), for all ways to hand in arguments (`EntryPoint`) and all orders
  in which these are visited.
-/
import CloudRoster.Proofs.Arguments.Order
import CloudRoster.Proofs.Provider.FirstRequest
import CloudRoster.Proofs.Roster.Secrecy

namespace CloudRoster

open Text Dialogue Provider Http

/-! ## What callers give -/

/-- Tokens that are arguments: each is a key and a value with an equals sign between them, no key is
    given twice, and a provider is named. -/
structure IsArguments (tokens : List String) (pairs : List (String × String)) : Prop where
  spelled : List.Forall₂ (fun token pair =>
    token = pair.1 ++ "=" ++ pair.2 ∧ '=' ∉ pair.1.toList ∧ pair.2 ≠ "") tokens pairs
  distinct : (pairs.map Prod.fst).Nodup
  provided : "provider" ∈ pairs.map Prod.fst

theorem isArguments_iff {tokens : List String} {pairs : List (String × String)} :
    IsArguments tokens pairs ↔ ∃ provider, Arguments.ofTokens tokens = .ok ⟨pairs, provider⟩ := by
  have hspelled : List.Forall₂ (fun token (pair : String × String) =>
      token = pair.1 ++ "=" ++ pair.2 ∧ '=' ∉ pair.1.toList ∧ pair.2 ≠ "") tokens pairs ↔
      List.Forall₂ (fun token pair => Argument.parse token = .ok pair) tokens pairs := by
    constructor
    · exact fun h => h.imp fun _ _ hpair => Argument.parse_eq_ok_iff.2 hpair
    · exact fun h => h.imp fun _ _ hpair => Argument.parse_eq_ok_iff.1 hpair
  constructor
  · intro h
    obtain ⟨⟨key, provider⟩, hprovider, hkey⟩ := List.mem_map.1 h.provided
    obtain rfl : key = "provider" := hkey
    exact ⟨provider, Arguments.ofTokens_eq_ok_iff.2 ⟨hspelled.1 h.spelled, h.distinct, hprovider⟩⟩
  · rintro ⟨provider, h⟩
    obtain ⟨hparse, hnodup, hprovider⟩ := Arguments.ofTokens_eq_ok_iff.1 h
    exact ⟨hspelled.2 hparse, hnodup, List.mem_map_of_mem hprovider⟩

/-- The ways to get the addresses that arguments ask for: from their list or a line of them, with a
    log or without.  Each visits the arguments in an order of its own. -/
inductive EntryPoint (tokens : List String) (env : Environment) :
    Dialogue Answer (List Address) → Prop where
  | list (order : Visiting) : EntryPoint tokens env (Roster.ofTokens tokens env order)
  | line {line : String} (h : Arguments.tokensOfLine line = tokens) (order : Visiting) :
    EntryPoint tokens env (Roster.ofLine line env order)
  | silent {d : Dialogue Answer (List Address)} (h : EntryPoint tokens env d) :
    EntryPoint tokens env d.silent

/-- A dialogue does what another one does, and reports as much or nothing. -/
def Echoes (d u : Dialogue Answer (List Address)) : Prop :=
  ∀ world past, d.run world past = u.run world past ∨
    d.run world past = { u.run world past with entries := [] }

/-- For each order of the arguments the ways differ in what they report only. -/
theorem EntryPoint.exists_echoes {tokens : List String} {env : Environment}
    {d : Dialogue Answer (List Address)} (h : EntryPoint tokens env d) :
    ∃ order, Echoes d (Roster.ofTokens tokens env order) := by
  induction h with
  | list order => exact ⟨order, fun _ _ => .inl rfl⟩
  | line h order =>
    subst h
    exact ⟨order, fun _ _ => .inl rfl⟩
  | silent h ih =>
    obtain ⟨order, hechoes⟩ := ih
    refine ⟨order, fun world past => .inr ?_⟩
    rw [run_silent]
    rcases hechoes world past with hd | hd
    · rw [hd]
    · rw [hd]

/-! ## Faults -/

/-- What can be wrong with tokens that are no arguments. -/
inductive IsArgumentFault : Failure → Prop where
  | malformed (argument problem : String) : IsArgumentFault (.malformed argument problem)
  | repeated (key : String) : IsArgumentFault (.repeated key)
  | absent (key : String) : IsArgumentFault (.absent key)

/-- In every world a dialogue fails before it asks or reports anything. -/
def FailsAtOnce (d : Dialogue Answer (List Address)) (e : Failure) : Prop :=
  ∀ world past, d.run world past = ⟨.error e, [], []⟩

theorem Echoes.failsAtOnce {d : Dialogue Answer (List Address)} {e : Failure}
    (h : Echoes d (.fail e)) : FailsAtOnce d e := by
  intro world past
  rcases h world past with hd | hd
  · exact hd
  · exact hd

theorem isArgumentFault_ofTokens {tokens : List String} {e : Failure}
    (h : Arguments.ofTokens tokens = .error e) : IsArgumentFault e := by
  rcases Arguments.ofTokens_eq_error_iff.1 h with ⟨_, _, _, -, -, hfault⟩ | ⟨rfl, -⟩
  · cases hfault with
    | malformed => exact .malformed _ _
    | repeated => exact .repeated _
  · exact .absent _

/-! ## Parameters and settings -/

section

variable {tokens : List String} {pairs : List (String × String)} {env : Environment}

/-- A key without a meaning is told. -/
theorem ofTokens_of_unknown (h : IsArguments tokens pairs)
    (hkeys : ∃ key ∈ pairs.map Prod.fst, key ∉ Parameters.keys) (order : Visiting) :
    ∃ key ∈ pairs.map Prod.fst, key ∉ Parameters.keys ∧
      Parameters.ofTokens tokens order = .error (.unknown key) := by
  obtain ⟨provider, hargs⟩ := isArguments_iff.1 h
  obtain ⟨-, hdistinct, -⟩ := Arguments.ofTokens_eq_ok_iff.1 hargs
  have hnodup := Arguments.nodup_visited hdistinct order
  have hperm := Arguments.visited_perm hdistinct order
  rw [Parameters.ofTokens_of_arguments hargs]
  cases hresult : Parameters.fill provider (Arguments.visited ⟨pairs, provider⟩ order) with
  | ok p =>
    obtain ⟨key, hkey, hunknown⟩ := hkeys
    obtain ⟨pair, hpair, rfl⟩ := List.mem_map.1 hkey
    exact absurd (Parameters.known_of_fill hnodup hresult pair (hperm.mem_iff.2 hpair)) hunknown
  | error e =>
    obtain ⟨told, htold, hunknown, rfl⟩ := Parameters.unknown_of_fill hnodup hresult
    exact ⟨told.1, List.mem_map_of_mem (hperm.mem_iff.1 htold), hunknown, rfl⟩

/-- If all keys have a meaning, each parameter is what its key gives. -/
theorem ofTokens_of_known (h : IsArguments tokens pairs)
    (hkeys : ∀ key ∈ pairs.map Prod.fst, key ∈ Parameters.keys) {provider : String}
    (hprovider : ("provider", provider) ∈ pairs) (order : Visiting) :
    ∃ p, Parameters.ofTokens tokens order = .ok p ∧ p.provider = provider ∧
      p.location = pairs.lookup "location" ∧ p.labelSelector = pairs.lookup "label_selector" := by
  obtain ⟨named, hargs⟩ := isArguments_iff.1 h
  obtain ⟨-, hdistinct, hnamed⟩ := Arguments.ofTokens_eq_ok_iff.1 hargs
  have hnodup := Arguments.nodup_visited hdistinct order
  have hperm := Arguments.visited_perm hdistinct order
  have hlookup := Arguments.lookup_visited hdistinct order
  have hknown : ∀ pair ∈ Arguments.visited ⟨pairs, named⟩ order, pair.1 ∈ Parameters.keys :=
    fun pair hpair => hkeys _ (List.mem_map_of_mem (hperm.mem_iff.1 hpair))
  rw [← lookup_eq_some_iff_of_nodup hdistinct] at hnamed hprovider
  rw [Parameters.ofTokens_of_arguments hargs, Parameters.fill_of_known hnodup hknown]
  exact ⟨_, rfl, Option.some.inj (hnamed.symm.trans hprovider), hlookup "location",
    hlookup "label_selector"⟩

theorem settings_of_foreign {p : Parameters} (h : p.provider ≠ "hcloud") :
    Settings.ofParameters p env = .error (.foreignProvider p.provider) := by
  have hforeign : p.provider ≠ Settings.providerName := h
  rw [Settings.ofParameters, if_pos hforeign]

theorem settings_of_noToken {p : Parameters} (hprovider : p.provider = "hcloud")
    (h : Settings.given env p.apiToken "HCLOUD_TOKEN" = none) :
    Settings.ofParameters p env = .error .noToken := by
  have hserved : ¬p.provider ≠ Settings.providerName := not_not.2 hprovider
  rw [Settings.ofParameters, if_neg hserved, h]

/-- With the provider that is served and a token, there are settings. -/
theorem settings_of_given {p : Parameters} (hprovider : p.provider = "hcloud") {token : String}
    (htoken : Settings.given env p.apiToken "HCLOUD_TOKEN" = some token) :
    ∃ l, Settings.ofParameters p env = .ok l ∧ l.value.apiToken = token ∧
      l.value.location = Settings.given env p.location "HCLOUD_LOCATION" ∧
      l.value.labelSelector = p.labelSelector.getD "" ∧
      l.value.endpoint =
        (Settings.nonEmpty (env "HCLOUD_ENDPOINT")).getD Settings.defaultEndpoint := by
  have hserved : ¬p.provider ≠ Settings.providerName := not_not.2 hprovider
  rw [Settings.ofParameters, if_neg hserved, htoken]
  exact ⟨_, rfl, rfl, rfl, rfl, rfl⟩

/-- Without settings, there is nothing to begin with. -/
theorem ofTokens_eq_fail {order : Visiting} {p : Parameters}
    (hp : Parameters.ofTokens tokens order = .ok p) {e : Failure}
    (he : Settings.ofParameters p env = .error e) : Roster.ofTokens tokens env order = .fail e := by
  rw [Roster.ofTokens, hp]
  show Roster.ofParameters p env = .fail e
  rw [Roster.ofParameters, he]
  rfl

/-- Addresses for parameters are addresses for their settings. -/
theorem run_ofTokens_of_settings {order : Visiting} {p : Parameters}
    (hp : Parameters.ofTokens tokens order = .ok p) {l : Log.Logged Settings}
    (hl : Settings.ofParameters p env = .ok l) (world : World Answer)
    (past : List (Exchange Answer)) :
    (Roster.ofTokens tokens env order).run world past =
      let t := (Client.addresses Roster.hostnamePath l.value).run world past
      ⟨t.result, t.exchanges, l.entries ++ t.entries⟩ := by
  have hsame : Roster.ofTokens tokens env order = Roster.ofParameters p env := by
    rw [Roster.ofTokens, hp]
    rfl
  rw [hsame, Roster.ofParameters, hl]
  simp only [run_bind, run_orFail, run_tell, Transcript.andThen, List.append_nil, List.nil_append]

end

/-! ## What has to be given -/

/-- All that a request takes is given: a token of visible ASCII, a location, a label selector if
    there should be one, and an endpoint that names a place and a path. -/
structure Provides (tokens : List String) (pairs : List (String × String)) (env : Environment)
    (token selector : String) (place : Authority) (path : List Char) : Prop where
  effective : EffectiveToken tokens env token
  visible : ∀ c ∈ token.toList, 0x20 ≤ c.toNat ∧ c.toNat < 0x7F
  located : ∃ location, location ≠ "" ∧
    (("location", location) ∈ pairs ∨ env "HCLOUD_LOCATION" = some location)
  selects : ("label_selector", selector) ∈ pairs ∨
    selector = "" ∧ "label_selector" ∉ pairs.map Prod.fst
  reaches : ∃ endpoint, env "HCLOUD_ENDPOINT" = some endpoint ∧ NamesPlace endpoint place path

theorem Settings.exists_given {env : Environment} {param : Option String}
    {variableName value : String} (hne : value ≠ "")
    (h : param = some value ∨ env variableName = some value) :
    ∃ effective, Settings.given env param variableName = some effective := by
  rw [← Option.isSome_iff_exists, Settings.given, Option.isSome_or, Bool.or_eq_true]
  rcases h with h | h
  · exact .inl (by rw [Settings.nonEmpty_eq_some_iff.2 ⟨h, hne⟩]; rfl)
  · exact .inr (by rw [Settings.nonEmpty_eq_some_iff.2 ⟨h, hne⟩]; rfl)

theorem Provider.NamesPlace.ne_empty {endpoint : String} {place : Authority} {path : List Char}
    (h : NamesPlace endpoint place path) : endpoint ≠ "" := by
  rintro rfl
  obtain ⟨authority, -, -, -, htext⟩ := h.text
  cases htext

section

variable {tokens : List String} {pairs : List (String × String)} {env : Environment}
  {token selector : String} {place : Authority} {path : List Char}

/-- What is given becomes the settings. -/
theorem Provides.settings (h : Provides tokens pairs env token selector place path)
    (hargs : IsArguments tokens pairs) (hkeys : ∀ key ∈ pairs.map Prod.fst, key ∈ Parameters.keys)
    (hprovider : ("provider", "hcloud") ∈ pairs) (order : Visiting) :
    ∃ p l location, Parameters.ofTokens tokens order = .ok p ∧ Settings.ofParameters p env = .ok l ∧
      l.value.location = some location ∧ l.value.apiToken = token ∧
      l.value.labelSelector = selector ∧ NamesPlace l.value.endpoint place path := by
  have hlookup := @lookup_eq_some_iff_of_nodup pairs hargs.distinct
  obtain ⟨p, hp, hserved, hlocation, hselector⟩ := ofTokens_of_known hargs hkeys hprovider order
  have htoken := (effectiveToken_iff hp env token).1 h.effective
  obtain ⟨l, hl, hltoken, hllocation, hlselector, hlendpoint⟩ := settings_of_given hserved htoken
  obtain ⟨value, hvalue, hgiven⟩ := h.located
  rw [← hlookup, ← hlocation] at hgiven
  obtain ⟨location, hsome⟩ := Settings.exists_given hvalue hgiven
  refine ⟨p, l, location, hp, hl, hllocation.trans hsome, hltoken, ?_, ?_⟩
  · rw [hlselector, hselector]
    rcases h.selects with hgiven | ⟨rfl, hnone⟩
    · rw [hlookup.2 hgiven]
      rfl
    · rw [lookup_eq_none_iff_notMem.2 hnone]
      rfl
  · obtain ⟨endpoint, henv, hplace⟩ := h.reaches
    rw [hlendpoint, Settings.nonEmpty_eq_some_iff.2 ⟨henv, hplace.ne_empty⟩]
    exact hplace

/-- The first page is what is asked for first, if a request line can name its URL; if not, nothing
    is asked. -/
theorem Provides.run (h : Provides tokens pairs env token selector place path)
    (hargs : IsArguments tokens pairs) (hkeys : ∀ key ∈ pairs.map Prod.fst, key ∈ Parameters.keys)
    (hprovider : ("provider", "hcloud") ∈ pairs) (order : Visiting) (world : World Answer)
    (past : List (Exchange Answer)) :
    let t := (Roster.ofTokens tokens env order).run world past
    let r : Request := ⟨firstPage place path selector, token⟩
    (r.url.isLegal = true →
      ∃ more, t.exchanges = ⟨.request r, world past (.request r)⟩ :: more) ∧
    (r.url.isLegal = false →
      t.exchanges = [] ∧ t.result = .error (.refused (.unsendable (.illegal r.url)))) := by
  intro t r
  obtain ⟨p, l, location, hp, hl, hlocation, rfl, rfl, hplace⟩ :=
    h.settings hargs hkeys hprovider order
  have ht : t = _ := run_ofTokens_of_settings hp hl world past
  have hrequest := Client.request?_firstPage hplace (isHeaderText_of_visible h.visible)
    l.value.labelSelector
  constructor
  · intro hlegal
    rw [if_pos hlegal] at hrequest
    rw [ht]
    exact Client.run_addresses_asked Roster.hostnamePath hlocation hrequest world past
  · intro hillegal
    rw [if_neg (Bool.eq_false_iff.1 hillegal)] at hrequest
    rw [ht]
    exact Client.run_addresses_unsendable Roster.hostnamePath hlocation hrequest world past

end

/-! ## Headline -/

/-- **Validation comes first.**  Whichever way arguments are handed in, they are looked at in order,
    and what is wrong fails at once, in every world:

    * tokens that are no arguments;
    * else, a key without a meaning;
    * else, a provider that is not served;
    * else, no token.

    If nothing of this is wrong and all that a request takes is given, the first request is the one
    for the first page of servers, in the name of the token.  Only if no request line can name its
    URL, because that is too long or its host is no name for a server, nothing is asked, and this is
    what fails. -/
theorem validation_first {tokens : List String} {env : Environment}
    {d : Dialogue Answer (List Address)} (h : EntryPoint tokens env d) :
    ((∀ pairs, ¬IsArguments tokens pairs) → ∃ e, IsArgumentFault e ∧ FailsAtOnce d e) ∧
    ∀ pairs, IsArguments tokens pairs →
      ((∃ key ∈ pairs.map Prod.fst, key ∉ Parameters.keys) →
        ∃ key ∈ pairs.map Prod.fst, key ∉ Parameters.keys ∧ FailsAtOnce d (.unknown key)) ∧
      ((∀ key ∈ pairs.map Prod.fst, key ∈ Parameters.keys) →
        ∀ provider, ("provider", provider) ∈ pairs →
          (provider ≠ "hcloud" → FailsAtOnce d (.foreignProvider provider)) ∧
          (provider = "hcloud" →
            ((∀ token, ¬EffectiveToken tokens env token) → FailsAtOnce d .noToken) ∧
            ∀ token selector place path, Provides tokens pairs env token selector place path →
              let r : Request := ⟨firstPage place path selector, token⟩
              AsksFirstPage r token selector ∧
              ∀ world,
                (r.url.isLegal = true → ∃ more, (d.run world []).exchanges =
                  ⟨.request r, world [] (.request r)⟩ :: more) ∧
                (r.url.isLegal = false → (d.run world []).exchanges = [] ∧
                  (d.run world []).result =
                    .error (.refused (.unsendable (.illegal r.url)))))) := by
  obtain ⟨order, hechoes⟩ := h.exists_echoes
  have hfails : ∀ {e : Failure}, Roster.ofTokens tokens env order = .fail e → FailsAtOnce d e :=
    fun he => (he ▸ hechoes).failsAtOnce
  refine ⟨fun hnone => ?_, fun pairs hargs => ⟨fun hunknown => ?_, fun hkeys provider hprovider =>
    ⟨fun hforeign => ?_, ?_⟩⟩⟩
  · cases harguments : Arguments.ofTokens tokens with
    | ok args => exact absurd (isArguments_iff.2 ⟨args.provider, harguments⟩) (hnone args.pairs)
    | error e =>
      refine ⟨e, isArgumentFault_ofTokens harguments, hfails ?_⟩
      rw [Roster.ofTokens, Parameters.ofTokens_of_refused harguments]
      rfl
  · obtain ⟨key, hkey, hmeaning, hp⟩ := ofTokens_of_unknown hargs hunknown order
    refine ⟨key, hkey, hmeaning, hfails ?_⟩
    rw [Roster.ofTokens, hp]
    rfl
  · obtain ⟨p, hp, rfl, -⟩ := ofTokens_of_known hargs hkeys hprovider order
    exact hfails (ofTokens_eq_fail hp (settings_of_foreign hforeign))
  · rintro rfl
    refine ⟨fun hnone => ?_, fun token selector place path hprovides => ?_⟩
    · obtain ⟨p, hp, hserved, -⟩ := ofTokens_of_known hargs hkeys hprovider order
      have hgiven : Settings.given env p.apiToken "HCLOUD_TOKEN" = none := by
        rw [Option.eq_none_iff_forall_ne_some]
        exact fun token htoken => hnone token ((effectiveToken_iff hp env token).2 htoken)
      exact hfails (ofTokens_eq_fail hp (settings_of_noToken hserved hgiven))
    · refine ⟨asksFirstPage place path token selector, fun world => ?_⟩
      have hrun := hprovides.run hargs hkeys hprovider order world []
      have hsame : (d.run world []).exchanges =
            ((Roster.ofTokens tokens env order).run world []).exchanges ∧
          (d.run world []).result =
            ((Roster.ofTokens tokens env order).run world []).result := by
        rcases hechoes world [] with hd | hd
        · rw [hd]
          exact ⟨rfl, rfl⟩
        · rw [hd]
          exact ⟨rfl, rfl⟩
      rw [hsame.1, hsame.2]
      exact hrun

/-! ### Callers of a server on this machine -/

/-- The place that `localEnvironment` names. -/
def localPlace : Authority := ⟨[], none, some (.address (.v6 ⟨0, 0, 0, 0, 0, 0, 0, 1⟩)), some 8080⟩

theorem namesPlace_local : NamesPlace "http://[::1]:8080/v1" localPlace ['/', 'v', '1'] where
  text := ⟨['[', ':', ':', '1', ']', ':', '8', '0', '8', '0'],
    ⟨List.cons_ne_nil _ _, by simp [isBreak]⟩, by decide, by rfl, by decide +kernel⟩
  slash := .inr rfl
  plain := by simp

/-- The pairs of `argumentsWith`. -/
def pairsWith (token : String) : List (String × String) :=
  [("provider", "hcloud"), ("api_token", token), ("location", "fsn1")]

theorem isArguments_argumentsWith {token : String} (h : token ≠ "") :
    IsArguments (argumentsWith token) (pairsWith token) where
  spelled := .cons ⟨rfl, by simp, by simp⟩ (.cons ⟨rfl, by simp, h⟩
    (.cons ⟨rfl, by simp, by simp⟩ .nil))
  distinct := by simp [pairsWith]
  provided := List.mem_cons_self

/-- A key without a meaning is told before a foreign provider is, and that before a missing token;
    and from a line without a fault the first page is asked for. -/
theorem validation_first_local :
    FailsAtOnce (Roster.ofTokens ["provider=aws", "zone=1"] localEnvironment) (.unknown "zone") ∧
    FailsAtOnce (Roster.ofTokens ["provider=aws"] localEnvironment) (.foreignProvider "aws") ∧
    EntryPoint (argumentsWith "one") localEnvironment
      (Roster.ofLine "provider=hcloud api_token=one location=fsn1" localEnvironment).silent ∧
    ∀ world, ∃ r answer more,
      ((Roster.ofLine "provider=hcloud api_token=one location=fsn1" localEnvironment).silent.run
        world []).exchanges = ⟨.request r, answer⟩ :: more ∧
      r.line = "GET /v1/servers?status=running&page=1&per_page=50" ∧
      r.authorization = "Bearer one" := by
  have hzone : IsArguments ["provider=aws", "zone=1"] [("provider", "aws"), ("zone", "1")] :=
    ⟨.cons ⟨rfl, by simp, by simp⟩ (.cons ⟨rfl, by simp, by simp⟩ .nil), by simp, by simp⟩
  have haws : IsArguments ["provider=aws"] [("provider", "aws")] :=
    ⟨.cons ⟨rfl, by simp, by simp⟩ .nil, by simp, by simp⟩
  have hline : EntryPoint (argumentsWith "one") localEnvironment
      (Roster.ofLine "provider=hcloud api_token=one location=fsn1" localEnvironment).silent :=
    .silent (.line (by decide +kernel) .given)
  refine ⟨?_, ?_, hline, ?_⟩
  · obtain ⟨key, hkey, hunknown, hfails⟩ :=
      ((validation_first (.list .given)).2 _ hzone).1 ⟨"zone", by simp, by decide +kernel⟩
    have hzone : key = "zone" := by
      rcases List.mem_cons.1 hkey with rfl | hkey
      · exact absurd (by decide +kernel) hunknown
      · exact List.mem_singleton.1 hkey
    exact hzone ▸ hfails
  · exact (((validation_first (.list .given)).2 _ haws).2 (by decide +kernel) "aws"
      List.mem_cons_self).1 (by decide)
  · have hprovides : Provides (argumentsWith "one") (pairsWith "one") localEnvironment "one" ""
        localPlace ['/', 'v', '1'] :=
      { effective := .argument (by decide +kernel) (by decide)
        visible := by simp
        located := ⟨"fsn1", by decide, .inl (by decide)⟩
        selects := .inr ⟨rfl, by decide⟩
        reaches := ⟨_, rfl, namesPlace_local⟩ }
    obtain ⟨-, hfirst⟩ := (((validation_first hline).2 _ (isArguments_argumentsWith (by decide))).2
      (by decide +kernel) "hcloud" List.mem_cons_self).2 rfl |>.2 _ _ _ _ hprovides
    intro world
    obtain ⟨more, hmore⟩ := (hfirst world).1 (by decide +kernel)
    exact ⟨_, _, more, hmore, by decide +kernel, by decide +kernel⟩

/-- With a label selector longer than any URL, all that a request takes may be given, and yet
    nothing is asked: no request line can name the URL. -/
theorem exchanges_of_overlong {selector : String} (hlong : Url.mostCharacters < selector.length) :
    let tokens := argumentsWith "t" ++ ["label_selector=" ++ selector]
    let pairs := pairsWith "t" ++ [("label_selector", selector)]
    IsArguments tokens pairs ∧ (∀ key ∈ pairs.map Prod.fst, key ∈ Parameters.keys) ∧
    ("provider", "hcloud") ∈ pairs ∧
    Provides tokens pairs localEnvironment "t" selector localPlace ['/', 'v', '1'] ∧
    ∀ world, ((Roster.ofTokens tokens localEnvironment).run world []).exchanges = [] := by
  intro tokens pairs
  have hne : selector ≠ "" := by
    rintro rfl
    exact absurd hlong (Nat.not_lt_zero _)
  have hprovider : ("provider", "hcloud") ∈ pairs := List.mem_cons_self
  have hplain : IsArguments (argumentsWith "t") (pairsWith "t") :=
    isArguments_argumentsWith (by decide)
  have hargs : IsArguments tokens pairs :=
    { spelled := List.rel_append hplain.spelled (.cons ⟨rfl, by simp, hne⟩ .nil)
      distinct := by simp [pairs, pairsWith]
      provided := List.mem_map_of_mem hprovider }
  have hkeys : ∀ key ∈ pairs.map Prod.fst, key ∈ Parameters.keys := by
    show ∀ key ∈ ["provider", "api_token", "location", "label_selector"], key ∈ Parameters.keys
    decide +kernel
  have hprovides : Provides tokens pairs localEnvironment "t" selector localPlace
      ['/', 'v', '1'] :=
    { effective := .argument (List.mem_append_left _ (by decide +kernel)) (by decide)
      visible := by simp
      located := ⟨"fsn1", by decide, .inl (List.mem_append_left _ (by decide))⟩
      selects := .inl (List.mem_append_right _ List.mem_cons_self)
      reaches := ⟨_, rfl, namesPlace_local⟩ }
  have hillegal : (firstPage localPlace ['/', 'v', '1'] selector).isLegal = false := by
    have hlength := Nat.lt_of_lt_of_le hlong
      (length_le_text_firstPage localPlace ['/', 'v', '1'] hne)
    rw [Url.isLegal, decide_eq_false (Nat.not_le.2 hlength), Bool.and_false]
  exact ⟨hargs, hkeys, hprovider, hprovides, fun world =>
    ((hprovides.run hargs hkeys hprovider .given world []).2 hillegal).1⟩

theorem validation_first_overlong :
    let tokens := argumentsWith "t" ++ ["label_selector=" ++ Client.overlongSelector]
    let pairs := pairsWith "t" ++ [("label_selector", Client.overlongSelector)]
    IsArguments tokens pairs ∧ (∀ key ∈ pairs.map Prod.fst, key ∈ Parameters.keys) ∧
    ("provider", "hcloud") ∈ pairs ∧
    Provides tokens pairs localEnvironment "t" Client.overlongSelector localPlace
      ['/', 'v', '1'] ∧
    ∀ world, ((Roster.ofTokens tokens localEnvironment).run world []).exchanges = [] :=
  exchanges_of_overlong Client.lt_length_overlongSelector

end CloudRoster
