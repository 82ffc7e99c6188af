/-
  The token shows nowhere but in the authorization of requests.

  Two callers whose tokens can be exchanged (`Interchangeable`: neither is empty, and a header may
  hold both or neither) and who give the same otherwise are told apart by nobody who does not see
  the authorization headers.

  1. **What callers give** - arguments, parameters and environments that are the same but for the
     token (`SameArgument`, `SameParameters`, `SameEnvironment`).
  2. **What becomes of it** - they fail alike, or give settings that are the same but for the token
     (`SameOutcome`, `sameOutcome_settings`), and so their dialogues are alike
     (`alike_ofParameters`, `alike_ofTokens`, `alike_commandLine`).
  3. **What the token is for** - every request is authorized by the effective token, and there is
     none if no header may hold that (`Bears`).

  **Headline** (`token_secret`): in every way to call the program, and in every order of visiting
  the arguments, two such callers get the same result, the same entries and the same requests but
  for their authorization, and each one's requests bear its own token.
-/
import CloudRoster.CommandLine
import CloudRoster.Proofs.Provider.Alike
import CloudRoster.Proofs.Provider.Target
import CloudRoster.Proofs.Roster.Credential

namespace CloudRoster

open Http Provider Dialogue

variable {α β γ δ : Type}

/-! ## What callers give -/

/-- Tokens of which a header may hold both or neither. -/
structure Interchangeable (a b : String) : Prop where
  left : a ≠ ""
  right : b ≠ ""
  legal : isHeaderText a = isHeaderText b

/-- Texts that are the same, or interchangeable tokens. -/
inductive SameToken : Option String → Option String → Prop where
  | same (o : Option String) : SameToken o o
  | exchanged {a b : String} (h : Interchangeable a b) : SameToken (some a) (some b)

/-- Arguments that are the same but for the token that they give. -/
inductive SameArgument : String → String → Prop where
  | same (argument : String) : SameArgument argument argument
  | exchanged {a b : String} (h : Interchangeable a b) :
      SameArgument ("api_token=" ++ a) ("api_token=" ++ b)

/-- Parameters that are the same but for the token. -/
structure SameParameters (p p' : Parameters) : Prop where
  provider : p.provider = p'.provider
  apiToken : SameToken p.apiToken p'.apiToken
  location : p.location = p'.location
  labelSelector : p.labelSelector = p'.labelSelector
  addressType : p.addressType = p'.addressType

/-- Environments that are the same but for the token. -/
structure SameEnvironment (env env' : Environment) : Prop where
  token : SameToken (env "HCLOUD_TOKEN") <| env' "HCLOUD_TOKEN"
  others : ∀ name, name ≠ "HCLOUD_TOKEN" → env name = env' name

/-! ## Outcomes -/

/-- The same failure, or values that are related. -/
inductive SameOutcome (R : α → β → Prop) : Except Failure α → Except Failure β → Prop where
  | error (e : Failure) : SameOutcome R (.error e) (.error e)
  | ok {a : α} {b : β} (h : R a b) : SameOutcome R (.ok a) (.ok b)

theorem SameOutcome.bind {R : α → β → Prop} {S : γ → δ → Prop} {x : Except Failure α}
    {y : Except Failure β} (h : SameOutcome R x y) {f : α → Except Failure γ}
    {g : β → Except Failure δ} (hfg : ∀ a b, R a b → SameOutcome S (f a) (g b)) :
    SameOutcome S (x >>= f) (y >>= g) := by
  cases h with
  | error e => exact .error e
  | ok h => exact hfg _ _ h

/-- Dialogues that begin with such outcomes are alike if they go on so. -/
theorem SameOutcome.alike {R : α → β → Prop} {x : Except Failure α} {y : Except Failure β}
    (h : SameOutcome R x y) {f : α → Dialogue Answer γ} {g : β → Dialogue Answer γ}
    (hfg : ∀ a b, R a b → Alike (f a) (g b)) : Alike (orFail x >>= f) (orFail y >>= g) := by
  cases h with
  | error e => exact .fail e
  | ok h => exact hfg _ _ h

/-! ## Settings -/

namespace SameToken

theorem nonEmpty {o o' : Option String} (h : SameToken o o') :
    SameToken (Settings.nonEmpty o) (Settings.nonEmpty o') := by
  cases h with
  | same o => exact .same _
  | @exchanged a b h =>
    have ha : Settings.nonEmpty (some a) = some a :=
      Settings.nonEmpty_eq_some_iff.2 ⟨rfl, h.left⟩
    have hb : Settings.nonEmpty (some b) = some b :=
      Settings.nonEmpty_eq_some_iff.2 ⟨rfl, h.right⟩
    rw [ha, hb]
    exact .exchanged h

theorem or {o o' q q' : Option String} (h : SameToken o o') (hq : SameToken q q') :
    SameToken (o.or q) (o'.or q') := by
  cases h with
  | same o =>
    cases o with
    | none => exact hq
    | some s => exact .same _
  | exchanged h => exact .exchanged h

theorem isSome {o o' : Option String} (h : SameToken o o') : o.isSome = o'.isSome := by
  cases h with
  | same o => rfl
  | exchanged h => rfl

end SameToken

/-- Settings that are the same but for the token, with the same log. -/
def SameSettings (l l' : Log.Logged Settings) : Prop :=
  ∃ token, isHeaderText l.value.apiToken = isHeaderText token ∧
    l' = ⟨{ l.value with apiToken := token }, l.entries⟩

theorem sameOutcome_settings {p p' : Parameters} {env env' : Environment}
    (hp : SameParameters p p') (henv : SameEnvironment env env') :
    SameOutcome SameSettings (Settings.ofParameters p env) (Settings.ofParameters p' env') := by
  have hlocation : Settings.given env p.location "HCLOUD_LOCATION" =
      Settings.given env' p'.location "HCLOUD_LOCATION" := by
    rw [Settings.given, Settings.given, hp.location, henv.others "HCLOUD_LOCATION" (by decide)]
  have hendpoint : env "HCLOUD_ENDPOINT" = env' "HCLOUD_ENDPOINT" :=
    henv.others "HCLOUD_ENDPOINT" (by decide)
  have htoken : SameToken (Settings.given env p.apiToken "HCLOUD_TOKEN")
      (Settings.given env' p'.apiToken "HCLOUD_TOKEN") :=
    hp.apiToken.nonEmpty.or henv.token.nonEmpty
  unfold Settings.ofParameters
  rw [← hp.provider, ← hp.labelSelector, ← hp.addressType, ← hlocation, ← hendpoint]
  by_cases hprovider : p.provider ≠ Settings.providerName
  · rw [if_pos hprovider, if_pos hprovider]
    exact .error _
  · rw [if_neg hprovider, if_neg hprovider]
    generalize Settings.given env p.apiToken "HCLOUD_TOKEN" = o at htoken ⊢
    generalize Settings.given env' p'.apiToken "HCLOUD_TOKEN" = o' at htoken ⊢
    cases htoken with
    | same =>
      cases o with
      | none => exact .error _
      | some token => exact .ok ⟨token, rfl, rfl⟩
    | @exchanged a b h => exact .ok ⟨b, h.legal, rfl⟩

/-! ## Arguments -/

/-- Pairs of key and value that are the same but for the token. -/
structure SamePair (pair pair' : String × String) : Prop where
  key : pair.1 = pair'.1
  value : SameToken (some pair.2) (some pair'.2)
  others : pair.1 ≠ "api_token" → pair.2 = pair'.2

theorem SamePair.refl (pair : String × String) : SamePair pair pair := ⟨rfl, .same _, fun _ => rfl⟩

theorem SameArgument.parse {token token' : String} (h : SameArgument token token') :
    SameOutcome SamePair (Argument.parse token) (Argument.parse token') := by
  cases h with
  | same =>
    cases Argument.parse token with
    | error e => exact .error e
    | ok pair => exact .ok (.refl pair)
  | @exchanged a b h =>
    have hparse : ∀ value, value ≠ "" →
        Argument.parse ("api_token=" ++ value) = .ok ("api_token", value) := fun value hvalue =>
      Argument.parse_eq_ok_iff.2 ⟨rfl, by decide +kernel, hvalue⟩
    rw [hparse a h.left, hparse b h.right]
    exact .ok ⟨rfl, .exchanged h, fun hkey => absurd rfl hkey⟩

section

variable {pairs pairs' : List (String × String)}

theorem sameToken_lookup (h : List.Forall₂ SamePair pairs pairs') (key : String) :
    SameToken (pairs.lookup key) (pairs'.lookup key) := by
  induction h with
  | nil => exact .same _
  | @cons pair pair' _ _ hpair _ ih =>
    rw [List.lookup_cons, List.lookup_cons, ← hpair.key]
    cases key == pair.1 with
    | true => exact hpair.value
    | false => exact ih

theorem lookup_eq (h : List.Forall₂ SamePair pairs pairs') {key : String}
    (hkey : key ≠ "api_token") : pairs.lookup key = pairs'.lookup key := by
  induction h with
  | nil => rfl
  | @cons pair pair' _ _ hpair _ ih =>
    rw [List.lookup_cons, List.lookup_cons, ← hpair.key]
    cases hsame : key == pair.1 with
    | true =>
      have hne : pair.1 ≠ "api_token" := beq_iff_eq.1 hsame ▸ hkey
      exact congrArg some (hpair.others hne)
    | false => exact ih

end

/-- Arguments that are read from these. -/
structure SameArguments (args args' : Arguments) : Prop where
  pairs : List.Forall₂ SamePair args.pairs args'.pairs
  provider : args.provider = args'.provider

theorem sameOutcome_gather {tokens tokens' : List String}
    (h : List.Forall₂ SameArgument tokens tokens') {seen seen' : List (String × String)}
    (hseen : List.Forall₂ SamePair seen seen') :
    SameOutcome (List.Forall₂ SamePair) (Arguments.gather seen tokens)
      (Arguments.gather seen' tokens') := by
  induction h generalizing seen seen' with
  | nil => exact .ok hseen
  | cons hargument _ ih =>
    rw [Arguments.gather, Arguments.gather]
    refine hargument.parse.bind fun pair pair' hpair => ?_
    rw [← hpair.key, ← (sameToken_lookup hseen pair.1).isSome]
    split
    · exact .error _
    · exact ih (List.rel_append hseen (.cons hpair .nil))

theorem sameOutcome_arguments {tokens tokens' : List String}
    (h : List.Forall₂ SameArgument tokens tokens') :
    SameOutcome SameArguments (Arguments.ofTokens tokens) (Arguments.ofTokens tokens') := by
  unfold Arguments.ofTokens
  refine (sameOutcome_gather h .nil).bind fun pairs pairs' hpairs => ?_
  rw [← lookup_eq hpairs (by decide)]
  cases pairs.lookup "provider" with
  | none => exact .error _
  | some provider => exact .ok ⟨hpairs, rfl⟩

/-- Two maps with the same keys are visited alike in the same order. -/
theorem forall₂_visited {args args' : Arguments} (h : SameArguments args args') (order : Visiting) :
    List.Forall₂ SamePair (args.visited order) (args'.visited order) := by
  have hkeys : args.pairs.map Prod.fst = args'.pairs.map Prod.fst := by
    rw [← List.forall₂_eq_eq_eq, List.forall₂_map_left_iff, List.forall₂_map_right_iff]
    exact h.pairs.imp fun _ _ hpair => hpair.key
  rw [Arguments.visited, Arguments.visited, ← hkeys]
  generalize order.arrange (args.pairs.map Prod.fst) = keys
  induction keys with
  | nil => exact .nil
  | cons key keys ih =>
    have hvalue : SameToken (args.value? key) (args'.value? key) := sameToken_lookup h.pairs key
    have hothers : key ≠ "api_token" → args.value? key = args'.value? key := lookup_eq h.pairs
    rw [List.filterMap_cons, List.filterMap_cons]
    generalize args.value? key = o at hvalue hothers
    generalize args'.value? key = o' at hvalue hothers
    cases hvalue with
    | same =>
      cases o with
      | none => exact ih
      | some value => exact .cons (.refl _) ih
    | exchanged htoken =>
      exact .cons ⟨rfl, .exchanged htoken, fun hkey => Option.some.inj (hothers hkey)⟩ ih

/-- What one argument does to the parameters is the same but for the token. -/
theorem sameOutcome_enter {p p' : Parameters} (hp : SameParameters p p')
    {pair pair' : String × String} (hpair : SamePair pair pair') :
    SameOutcome SameParameters (p.enter pair) (p'.enter pair') := by
  obtain ⟨key, value⟩ := pair
  obtain ⟨_, value'⟩ := pair'
  obtain ⟨rfl, hvalue, hothers⟩ := hpair
  unfold Parameters.enter
  dsimp only at hothers ⊢
  split
  · exact .ok hp
  · exact .ok { hp with apiToken := hvalue }
  · exact .ok { hp with location := congrArg some (hothers (by decide)) }
  · exact .ok { hp with labelSelector := congrArg some (hothers (by decide)) }
  · exact .ok { hp with addressType := congrArg some (hothers (by decide)) }
  · exact .error _

theorem sameOutcome_fill {pairs pairs' : List (String × String)}
    (h : List.Forall₂ SamePair pairs pairs') (provider : String) :
    SameOutcome SameParameters (Parameters.fill provider pairs)
      (Parameters.fill provider pairs') := by
  have hloop : ∀ p p', SameParameters p p' →
      SameOutcome SameParameters (pairs.foldlM Parameters.enter p)
        (pairs'.foldlM Parameters.enter p') := by
    induction h with
    | nil => exact fun p p' hp => .ok hp
    | cons hpair _ ih =>
      intro p p' hp
      rw [List.foldlM_cons, List.foldlM_cons]
      exact (sameOutcome_enter hp hpair).bind ih
  exact hloop _ _ ⟨rfl, .same _, rfl, rfl, rfl⟩

theorem sameOutcome_parameters {tokens tokens' : List String}
    (h : List.Forall₂ SameArgument tokens tokens') (order : Visiting) :
    SameOutcome SameParameters (Parameters.ofTokens tokens order)
      (Parameters.ofTokens tokens' order) := by
  refine (sameOutcome_arguments h).bind fun args args' hargs => ?_
  rw [Parameters.ofArguments, Parameters.ofArguments, ← hargs.provider]
  exact sameOutcome_fill (forall₂_visited hargs order) args.provider

/-! ## Dialogues -/

section

variable {env env' : Environment}

theorem alike_ofParameters {p p' : Parameters} (hp : SameParameters p p')
    (henv : SameEnvironment env env') :
    Alike (Roster.ofParameters p env) (Roster.ofParameters p' env') := by
  refine (sameOutcome_settings hp henv).alike fun l l' hl => ?_
  obtain ⟨token, hlegal, rfl⟩ := hl
  have htell : ∀ l : Log.Logged Settings, (Dialogue.tell l >>=
      Client.addresses Roster.hostnamePath : Dialogue Answer (List Address)) =
      sayAll l.entries >>= fun _ => Client.addresses Roster.hostnamePath l.value := by
    intro l
    rw [Dialogue.tell, bind_assoc]
    rfl
  rw [htell, htell]
  exact (Alike.refl _).bind fun _ => Client.alike_addresses Roster.hostnamePath l.value hlegal

variable {tokens tokens' : List String}

theorem alike_ofTokens (h : List.Forall₂ SameArgument tokens tokens')
    (henv : SameEnvironment env env') (order : Visiting) :
    Alike (Roster.ofTokens tokens env order) (Roster.ofTokens tokens' env' order) :=
  (sameOutcome_parameters h order).alike fun _ _ hp => alike_ofParameters hp henv

theorem commandLine_help {word : String} (h : word ≠ "addrs") (tokens : List String)
    (env : Environment) (order : Visiting) :
    CommandLine.run (word :: tokens) env order = .done CommandLine.help := by
  unfold CommandLine.run
  split
  · next hwords => exact absurd (List.cons.inj hwords).1 h
  · rfl

theorem alike_commandLine (h : List.Forall₂ SameArgument tokens tokens')
    (henv : SameEnvironment env env') (order : Visiting) (word : String) :
    Alike (CommandLine.run (word :: tokens) env order)
      (CommandLine.run (word :: tokens') env' order) := by
  by_cases hword : word = "addrs"
  · subst hword
    exact (alike_ofTokens h henv order).attempt.bind fun _ => .refl _
  · rw [commandLine_help hword, commandLine_help hword]
    exact .done _

end

/-! ## What the token is for -/

/-- Every request of a transcript is authorized by the only token there is, and there is no request
    if no header may hold the token. -/
structure Bears (isToken : String → Prop) (t : Transcript Answer α) : Prop where
  bearer : ∀ x ∈ requests t.exchanges, ∃ token, (∀ other, isToken other ↔ other = token) ∧
    x.1.authorization = "Bearer " ++ token
  illegal : ∀ token, isToken token → isHeaderText token = false → requests t.exchanges = []

section

variable {isToken : String → Prop} {t : Transcript Answer α}

theorem bears_nil (h : requests t.exchanges = []) : Bears isToken t where
  bearer x hx := by
    rw [h] at hx
    exact absurd hx List.not_mem_nil
  illegal _ _ _ := h

theorem Bears.transport (h : Bears isToken t) {u : Transcript Answer β}
    (hx : requests u.exchanges = requests t.exchanges) : Bears isToken u where
  bearer x hmem := by
    rw [hx] at hmem
    exact h.bearer x hmem
  illegal token htoken hlegal := hx.trans (h.illegal token htoken hlegal)

/-- A client's requests bear its token. -/
theorem bears_of_asksOnly {c : Client} {kind : Inquiry → Prop} (h : c.AsksOnly t kind)
    (htoken : ∀ other, isToken other ↔ other = c.token) : Bears isToken t where
  bearer x hx := by
    obtain ⟨i, -, hr⟩ := h x hx
    refine ⟨c.token, htoken, ?_⟩
    rw [Request.authorization, (Request.token_of_make hr).1]
  illegal token hother hlegal := by
    rw [List.eq_nil_iff_forall_not_mem]
    intro x hx
    obtain ⟨i, -, hr⟩ := h x hx
    rw [(htoken token).1 hother, (Request.token_of_make hr).2] at hlegal
    cases hlegal

end

theorem token_of_ofParameters {p : Parameters} {env : Environment} {l : Log.Logged Settings}
    (h : Settings.ofParameters p env = .ok l) :
    Settings.given env p.apiToken "HCLOUD_TOKEN" = some l.value.apiToken := by
  unfold Settings.ofParameters at h
  split at h
  · cases h
  · cases hgiven : Settings.given env p.apiToken "HCLOUD_TOKEN" with
    | none =>
      rw [hgiven] at h
      cases h
    | some token =>
      rw [hgiven] at h
      cases h
      rfl

section

variable (world : World Answer) (past : List (Exchange Answer))

theorem bears_ofParameters (p : Parameters) (env : Environment) :
    Bears (Settings.given env p.apiToken "HCLOUD_TOKEN" = some ·)
      ((Roster.ofParameters p env).run world past) := by
  unfold Roster.ofParameters
  rw [run_bind, run_orFail]
  cases hsettings : Settings.ofParameters p env with
  | error e => exact bears_nil rfl
  | ok l =>
    have hasks := Client.asksOnly_addresses (Client.ofSettings l.value) Roster.hostnamePath l.value
      world past
    have htoken : ∀ other, Settings.given env p.apiToken "HCLOUD_TOKEN" = some other ↔
        other = (Client.ofSettings l.value).token := by
      intro other
      rw [token_of_ofParameters hsettings, Option.some.injEq]
      exact eq_comm
    refine (bears_of_asksOnly hasks htoken).transport ?_
    simp only [Transcript.andThen, run_bind, run_tell, List.append_nil, List.nil_append]
    rfl

theorem bears_ofTokens (tokens : List String) (env : Environment) (order : Visiting) :
    Bears (EffectiveToken tokens env) ((Roster.ofTokens tokens env order).run world past) := by
  unfold Roster.ofTokens
  rw [run_bind, run_orFail]
  cases hp : Parameters.ofTokens tokens order with
  | error e => exact bears_nil rfl
  | ok p =>
    have htoken : EffectiveToken tokens env =
        (Settings.given env p.apiToken "HCLOUD_TOKEN" = some ·) :=
      funext fun token => propext (effectiveToken_iff hp env token)
    rw [htoken]
    refine (bears_ofParameters world past p env).transport ?_
    simp only [Transcript.andThen, List.append_nil, List.nil_append]

/-- What the command line does: it gets addresses, and reports how that went. -/
theorem run_commandLine (tokens : List String) (env : Environment) (order : Visiting) :
    (CommandLine.run ("addrs" :: tokens) env order).run world past =
      let t := (Roster.ofTokens tokens env order).run world past
      ⟨.ok (CommandLine.conclude t.result).2, t.exchanges,
        t.entries ++ [(CommandLine.conclude t.result).1]⟩ := by
  have hrun : CommandLine.run ("addrs" :: tokens) env order =
      (Roster.ofTokens tokens env order).attempt >>= fun result =>
        say (CommandLine.conclude result).1 >>= fun _ =>
          pure (CommandLine.conclude result).2 := rfl
  rw [hrun, run_bind, run_attempt]
  simp only [Transcript.andThen, run_bind, run_say, Dialogue.pure_def, Dialogue.run,
    List.append_nil]

theorem bears_commandLine (word : String) (tokens : List String) (env : Environment)
    (order : Visiting) :
    Bears (EffectiveToken tokens env)
      ((CommandLine.run (word :: tokens) env order).run world past) := by
  by_cases hword : word = "addrs"
  · subst hword
    exact (bears_ofTokens world past tokens env order).transport
      (congrArg (fun t => requests t.exchanges) (run_commandLine world past tokens env order))
  · rw [commandLine_help hword]
    exact bears_nil rfl

end

/-! ## Headline -/

/-- Two dialogues that should differ in their tokens only do: in a world nothing else shows which
    is which, and the requests of each bear its own token. -/
structure TokenSecret (world : World Answer) (isToken isToken' : String → Prop)
    (d d' : Dialogue Answer α) : Prop where
  indistinct : Indistinct (d.run world []) (d'.run world [])
  bears : Bears isToken (d.run world [])
  bears' : Bears isToken' (d'.run world [])

theorem TokenSecret.silent {world : World Answer} {isToken isToken' : String → Prop}
    {d d' : Dialogue Answer α} (h : TokenSecret world isToken isToken' d d') :
    TokenSecret world isToken isToken' d.silent d'.silent where
  indistinct := by
    rw [run_silent, run_silent]
    exact ⟨h.indistinct.result, rfl, h.indistinct.requested⟩
  bears := h.bears.transport (by rw [run_silent])
  bears' := h.bears'.transport (by rw [run_silent])

/-- **The token shows in the authorization alone.**  Take two callers who give the same but for
    interchangeable tokens, and a server that replies to both by the same rule.  With arguments as
    a list or on a line, with or without a log, with parameters and on the command line, both get
    the same result, the same entries and the same requests but for the authorization, which for
    each request is that caller's own token; and the same goes to the terminal.  The keys are
    visited in the same order, whatever order that is. -/
theorem token_secret {tokens tokens' : List String} {env env' : Environment}
    (htokens : List.Forall₂ SameArgument tokens tokens') (henv : SameEnvironment env env')
    (host : FileContent) (server : List (Url × Option Reply) → Url → Option Reply)
    (order : Visiting) :
    let world := tokenBlind host server
    let isToken := EffectiveToken tokens env
    let isToken' := EffectiveToken tokens' env'
    TokenSecret world isToken isToken' (Roster.ofTokens tokens env order)
      (Roster.ofTokens tokens' env' order) ∧
    TokenSecret world isToken isToken' (Roster.ofTokens tokens env order).silent
      (Roster.ofTokens tokens' env' order).silent ∧
    (∀ line line', Arguments.tokensOfLine line = tokens → Arguments.tokensOfLine line' = tokens' →
      TokenSecret world isToken isToken' (Roster.ofLine line env order)
        (Roster.ofLine line' env' order) ∧
      TokenSecret world isToken isToken' (Roster.ofLine line env order).silent
        (Roster.ofLine line' env' order).silent) ∧
    (∀ p p', SameParameters p p' →
      let isToken := (Settings.given env p.apiToken "HCLOUD_TOKEN" = some ·)
      let isToken' := (Settings.given env' p'.apiToken "HCLOUD_TOKEN" = some ·)
      TokenSecret world isToken isToken' (Roster.ofParameters p env)
        (Roster.ofParameters p' env') ∧
      TokenSecret world isToken isToken' (Roster.ofParameters p env).silent
        (Roster.ofParameters p' env').silent) ∧
    ∀ word,
      let d := CommandLine.run (word :: tokens) env order
      let d' := CommandLine.run (word :: tokens') env' order
      TokenSecret world isToken isToken' d d' ∧
      CommandLine.outcomeOf (d.run world []).result =
        CommandLine.outcomeOf (d'.run world []).result ∧
      CommandLine.terminal env (d.run world []).entries =
        CommandLine.terminal env' (d'.run world []).entries := by
  intro world isToken isToken'
  have hrun : ∀ {α : Type} {d d' : Dialogue Answer α}, Alike d d' →
      Indistinct (d.run world []) (d'.run world []) := fun h => h.run host server rfl
  have hlist : TokenSecret world isToken isToken' (Roster.ofTokens tokens env order)
      (Roster.ofTokens tokens' env' order) :=
    ⟨hrun (alike_ofTokens htokens henv order), bears_ofTokens world [] tokens env order,
      bears_ofTokens world [] tokens' env' order⟩
  refine ⟨hlist, hlist.silent, ?_, ?_, fun word => ?_⟩
  · rintro line line' rfl rfl
    exact ⟨hlist, hlist.silent⟩
  · intro p p' hp
    have hparameters : TokenSecret world (Settings.given env p.apiToken "HCLOUD_TOKEN" = some ·)
        (Settings.given env' p'.apiToken "HCLOUD_TOKEN" = some ·) (Roster.ofParameters p env)
        (Roster.ofParameters p' env') :=
      ⟨hrun (alike_ofParameters hp henv), bears_ofParameters world [] p env,
        bears_ofParameters world [] p' env'⟩
    exact ⟨hparameters, hparameters.silent⟩
  · intro d d'
    have hsame : Indistinct (d.run world []) (d'.run world []) :=
      hrun (alike_commandLine htokens henv order word)
    have hfilter : CommandLine.filter env = CommandLine.filter env' := by
      rw [CommandLine.filter, CommandLine.filter, henv.others "RUST_LOG" (by decide)]
    refine ⟨⟨hsame, bears_commandLine world [] word tokens env order,
      bears_commandLine world [] word tokens' env' order⟩, congrArg _ hsame.result, ?_⟩
    rw [CommandLine.terminal, CommandLine.terminal, hfilter, hsame.entries]

/-- An environment that names an endpoint, and nothing else. -/
def localEnvironment : Environment := fun name =>
  if name = "HCLOUD_ENDPOINT" then some "http://[::1]:8080/v1" else none

/-- The arguments of a caller with this token. -/
def argumentsWith (token : String) : List String :=
  ["provider=hcloud", "api_token=" ++ token, "location=fsn1"]

theorem sameArgument_argumentsWith {a b : String} (h : Interchangeable a b) :
    List.Forall₂ SameArgument (argumentsWith a) (argumentsWith b) :=
  .cons (.same _) (.cons (.exchanged h) (.cons (.same _) .nil))

/-- Both callers ask once, each with its own token, and are told the same. -/
theorem token_secret_local :
    List.Forall₂ SameArgument (argumentsWith "one") (argumentsWith "two") ∧
    SameEnvironment localEnvironment localEnvironment ∧
    let t := (Roster.ofTokens (argumentsWith "one") localEnvironment).run
      (tokenBlind .missing fun _ _ => none) []
    let t' := (Roster.ofTokens (argumentsWith "two") localEnvironment).run
      (tokenBlind .missing fun _ _ => none) []
    Indistinct t t' ∧
    (requests t.exchanges).map (fun x => x.1.authorization) = ["Bearer one"] ∧
    (requests t'.exchanges).map (fun x => x.1.authorization) = ["Bearer two"] := by
  have htokens : Interchangeable "one" "two" := ⟨by decide, by decide, by decide +kernel⟩
  have harguments := sameArgument_argumentsWith htokens
  have henv : SameEnvironment localEnvironment localEnvironment := ⟨.same _, fun _ _ => rfl⟩
  have hsecret := token_secret harguments henv .missing (fun _ _ => none) .given
  exact ⟨harguments, henv, hsecret.1.indistinct, by decide +kernel, by decide +kernel⟩

end CloudRoster
