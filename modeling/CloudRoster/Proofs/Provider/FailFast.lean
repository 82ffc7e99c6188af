/-
  Whatever a client is called for ends with the first answer that is of no use.

  There are three calls: the lookup of a name, the listing of the running servers, and a whole
  discovery that asks for both.  An account of its requests (`Account`) belongs to each of them:

  1. **A lookup** is one request (`account_serverNamed`).
  2. **The running servers** are the pages of servers and then those of floating addresses
     (`Gathering.account`).
  3. **A discovery** asks its questions of the client, and a failure that answers a question is
     failed with at once (`via_serverNamed`, `via_runningServers`): so its requests are those of the
     lookup and then, if there is a location to list or none is needed, those of the listing
     (`account_ownLocation`, `account_addresses`).

  **Headline** (`calls_failFast`): on each of them every answer but the last is of use, what is told
  about a last one that is of none is the result, and there is a value only if all are of use.
-/
import CloudRoster.Proofs.Provider.Gathering
import CloudRoster.Proofs.Provider.Unreadable
import CloudRoster.Proofs.Discovery.Course

namespace CloudRoster.Provider

open Http Dialogue Text

/-- A reply brings a page whose first server cannot be converted, because of this text. -/
def Unconvertible (reply : Option Reply) (v : String) : Prop :=
  ∃ page e, Brings serverPage? reply page ∧ page.items.head? = some e ∧
    firstUnreadable e.texts = some v

namespace Client

variable {α : Type} {c : Client}

/-! ## A lookup -/

/-- The requests of a lookup; a server that cannot be converted is a failure, too. -/
structure LooksUp (c : Client) (name : String) (t : Transcript Answer α) (steps : List Step) :
    Prop where
  account : c.Account t steps
  inquiry : ∀ s ∈ steps, s.inquiry = .lookup name
  length_le : steps.length ≤ 1
  unconvertible : ∀ s ∈ steps, ∀ v, Unconvertible s.reply v →
    t.result = .error (.refused (.badAddress v))

/-- It is a lookup, too, of whatever makes the same requests and fails where it fails. -/
theorem LooksUp.transport {β : Type} {name : String} {t : Transcript Answer α}
    {u : Transcript Answer β} {steps : List Step} (h : c.LooksUp name t steps)
    (hx : requests u.exchanges = requests t.exchanges)
    (hr : ∀ e, t.result = .error e → u.result = .error e) : c.LooksUp name u steps where
  account := h.account.transport hx hr
  inquiry := h.inquiry
  length_le := h.length_le
  unconvertible s hs v hv := hr _ (h.unconvertible s hs v hv)

/-- No request is no lookup, whatever the name. -/
theorem looksUp_nil (name : String) {t : Transcript Answer α} (h : requests t.exchanges = []) :
    c.LooksUp name t [] where
  account := account_nil h
  inquiry _ hs := absurd hs List.not_mem_nil
  length_le := Nat.zero_le _
  unconvertible _ hs := absurd hs List.not_mem_nil

theorem account_serverNamed (c : Client) (name : String) (world : World Answer)
    (past : List (Exchange Answer)) :
    ∃ steps, c.LooksUp name ((c.serverNamed name).run world past) steps := by
  obtain ⟨steps, haccount, hsteps, hlength⟩ := account_get (c := c) (.lookup name) serverPage?
    (fun _ => Iff.rfl) world past
  have hget : c.get (Inquiry.lookup name).path (Inquiry.lookup name).pairs serverPage? =
    c.get "/servers" [("name", name)] serverPage? := rfl
  rw [hget] at haccount hsteps
  unfold serverNamed accept
  rw [run_bind_orFail]
  generalize (c.get "/servers" [("name", name)] serverPage?).run world past = t at haccount hsteps ⊢
  constructor
  constructor
  · refine haccount.transport rfl fun e he => ?_
    show t.result.bind _ = _
    rw [he]
    rfl
  · intro s hs
    exact (hsteps s hs).1
  · exact hlength
  · intro s hs v hv
    obtain ⟨page, e, hbrings, hhead, hfirst⟩ := hv
    have hresult := (hsteps s hs).2 page hbrings
    show t.result.bind _ = _
    rw [hresult, Except.bind, hhead, Option.mapM_some]
    cases converts_toServer [] e with
    | success _ readable =>
      rw [readable] at hfirst
      cases hfirst
    | refusal reason first =>
      obtain rfl := Option.some.inj (first.symm.trans hfirst)
      rw [reason]
      rfl

/-! ## A discovery -/

theorem via_serverNamed (c : Client) (name : String) :
    (Discovery.serverNamed name).via c.answer = c.serverNamed name := by
  unfold Discovery.serverNamed
  simp only [via_bind, via_question, via_orFail]
  exact attempt_bind_orFail _

theorem via_runningServers (c : Client) (selector : String) :
    (Discovery.runningServers selector).via c.answer = c.runningServers selector := by
  unfold Discovery.runningServers
  simp only [via_bind, via_question, via_orFail]
  exact attempt_bind_orFail _

/-- In a location, a discovery requests what the listing requests, and fails where it fails. -/
theorem run_via_addressesIn (c : Client) (settings : Settings) (location : Option String)
    (world : World Answer) (past : List (Exchange Answer)) :
    let listing := (c.runningServers settings.labelSelector).run world past
    let t := ((Discovery.addressesIn settings location).via c.answer).run world past
    t.exchanges = listing.exchanges ∧
      t.result = Discovery.outcome settings location listing.result := by
  dsimp only
  simp only [Discovery.addressesIn, via_bind, via_sayAll, via_runningServers, via_say, via_tell,
    run_bind, run_sayAll, Transcript.andThen, List.append_nil, List.nil_append]
  generalize (c.runningServers settings.labelSelector).run world past = listing
  cases listing.result with
  | error e => exact ⟨rfl, rfl⟩
  | ok servers => simp [Discovery.outcome, Except.map, via, run]

theorem run_via_adopt (c : Client) (own : Option Server) (world : World Answer)
    (past : List (Exchange Answer)) :
    ((Discovery.adopt own).via c.answer).run world past =
      ⟨.ok (own.map Server.location), [], Discovery.adoptEntries own⟩ := by
  cases own <;> rfl

/-- A machine with a name is looked up by it, and no other. -/
theorem run_via_ownLocation_named (c : Client) (path : String) {world : World Answer}
    {past : List (Exchange Answer)} {content : String}
    (h : (world past .hostname).text = .ok content) (hname : trim content ≠ "") :
    let x : Exchange Answer := ⟨.hostname, world past .hostname⟩
    let lookup := (c.serverNamed (trim content)).run world (past ++ [x])
    let t := ((Discovery.ownLocation path).via c.answer).run world past
    t.exchanges = x :: lookup.exchanges ∧
      t.result = lookup.result.map fun own => own.map Server.location := by
  dsimp only
  simp only [Discovery.ownLocation, Discovery.readHostname, Discovery.ownServer, via_bind,
    run_bind, via_question, answer, run_question, Transcript.andThen, h, if_neg hname, via_say,
    run_say, via_serverNamed, List.append_nil, run_via_adopt]
  generalize (c.serverNamed (trim content)).run world
    (past ++ [⟨.hostname, world past .hostname⟩]) = lookup
  cases lookup.result with
  | error e => exact ⟨rfl, rfl⟩
  | ok own => exact ⟨rfl, rfl⟩

/-- The look at this machine: its hostname is looked up, if it has one. -/
theorem account_ownLocation (c : Client) (path : String) (world : World Answer)
    (past : List (Exchange Answer)) :
    ∃ name steps, c.LooksUp name
      (((Discovery.ownLocation path).via c.answer).run world past) steps ∧
      (steps ≠ [] → ∃ content, (world past .hostname).text = .ok content ∧
        name = trim content) := by
  cases ht : (world past .hostname).text with
  | error cause =>
    have hrun : ((Discovery.ownLocation path).via c.answer).run world past =
        ⟨.error (.noHostname path cause), [⟨.hostname, world past .hostname⟩], []⟩ := by
      simp [Discovery.ownLocation, Discovery.readHostname, via_bind, run_bind, answer,
        Transcript.andThen, ht, via, run]
    rw [hrun]
    exact ⟨"", [], looksUp_nil "" rfl, fun h => absurd rfl h⟩
  | ok content =>
    by_cases hblank : trim content = ""
    · have hrun : ((Discovery.ownLocation path).via c.answer).run world past =
          ⟨.ok none, [⟨.hostname, world past .hostname⟩],
            [Discovery.Line.searching "", Discovery.Line.notAServer]⟩ := by
        simp [Discovery.ownLocation, Discovery.readHostname, Discovery.ownServer, Discovery.adopt,
          via_bind, run_bind, answer, Transcript.andThen, ht, hblank, via, run]
      rw [hrun]
      exact ⟨"", [], looksUp_nil "" rfl, fun h => absurd rfl h⟩
    · obtain ⟨steps, hlooks⟩ := account_serverNamed c (trim content) world
        (past ++ [⟨.hostname, world past .hostname⟩])
      obtain ⟨hexchanges, hresult⟩ := run_via_ownLocation_named c path ht hblank
      refine ⟨trim content, steps, ?_, fun _ => ⟨content, rfl, rfl⟩⟩
      have hrequests := (congrArg requests hexchanges).trans (requests_hostname _ _)
      refine hlooks.transport hrequests fun e he => ?_
      rw [hresult, he]
      rfl

/-! ## The running servers -/

/-- The requests for the running servers: pages of servers, then pages of floating addresses. -/
structure Lists (c : Client) (selector : String) (t : Transcript Answer α)
    (servers floating : List Step) : Prop where
  account : c.Account t (servers ++ floating)
  servers_inquiry : ∀ s ∈ servers, ∃ number, s.inquiry = .servers selector number
  floating_inquiry : ∀ s ∈ floating, ∃ number, s.inquiry = .floating number

theorem account_runningServers (c : Client) (selector : String) (world : World Answer)
    (past : List (Exchange Answer)) :
    ∃ servers floating, c.Lists selector ((c.runningServers selector).run world past) servers
      floating := by
  obtain ⟨visits, more, hexchanges, hgathering⟩ := run_runningServers c selector world past
  refine ⟨_, _, hgathering.account hexchanges, ?_, ?_⟩
  · intro s hs
    obtain ⟨v, -, rfl⟩ := List.mem_map.1 hs
    exact ⟨v.number, rfl⟩
  · intro s hs
    obtain ⟨v, -, rfl⟩ := List.mem_map.1 hs
    exact ⟨v.number, rfl⟩

theorem account_addressesIn (c : Client) (settings : Settings) (location : Option String)
    (world : World Answer) (past : List (Exchange Answer)) :
    ∃ servers floating, c.Lists settings.labelSelector
      (((Discovery.addressesIn settings location).via c.answer).run world past) servers
      floating := by
  obtain ⟨servers, floating, hlists⟩ :=
    account_runningServers c settings.labelSelector world past
  obtain ⟨hexchanges, hresult⟩ := run_via_addressesIn c settings location world past
  refine ⟨servers, floating, ?_, hlists.servers_inquiry, hlists.floating_inquiry⟩
  refine hlists.account.transport (congrArg requests hexchanges) fun e he => ?_
  rw [hresult, he]
  rfl

/-! ## The whole discovery -/

/-- The requests of a discovery: those of the lookup of this machine, if there is one, and then
    those for the running servers, unless the lookup failed. -/
structure Discovers (c : Client) (settings : Settings) (host : FileContent)
    (t : Transcript Answer α) (lookup servers floating : List Step) : Prop where
  account : c.Account t (lookup ++ (servers ++ floating))
  lookup_inquiry : ∀ s ∈ lookup, settings.location = none ∧
    ∃ content, host.text = .ok content ∧ s.inquiry = .lookup (trim content)
  length_le : lookup.length ≤ 1
  servers_inquiry : ∀ s ∈ servers, ∃ number, s.inquiry = .servers settings.labelSelector number
  floating_inquiry : ∀ s ∈ floating, ∃ number, s.inquiry = .floating number
  unconvertible : ∀ s ∈ lookup, ∀ v, Unconvertible s.reply v →
    servers = [] ∧ floating = [] ∧ t.result = .error (.refused (.badAddress v))

/-- A lookup and then, unless it failed, a listing. -/
theorem LooksUp.discovers {name : String} {settings : Settings} {host : FileContent}
    {t : Transcript Answer (Option String)} {lookup : List Step} (h : c.LooksUp name t lookup)
    (hasks : ∀ s ∈ lookup, settings.location = none ∧
      ∃ content, host.text = .ok content ∧ s.inquiry = .lookup (trim content))
    {f : Option String → Transcript Answer α}
    (hlists : ∀ location, ∃ servers floating,
      c.Lists settings.labelSelector (f location) servers floating) :
    ∃ servers floating, c.Discovers settings host (t.andThen f) lookup servers floating := by
  cases hr : t.result with
  | error e =>
    -- without a location, nothing is listed
    have hvalue : ∀ location, t.result ≠ .ok location := by
      intro location hlocation
      cases hr.symm.trans hlocation
    have haccount : c.Account (t.andThen f) (lookup ++ []) := by
      refine h.account.andThen (fun location hlocation => ?_) fun _ _ => rfl
      exact absurd hlocation (hvalue location)
    refine ⟨[], [], haccount, hasks, h.length_le, List.forall_mem_nil _, List.forall_mem_nil _, ?_⟩
    intro s hs v hv
    have hresult := h.unconvertible s hs v hv
    rw [Transcript.andThen_error hresult]
    exact ⟨rfl, rfl, rfl⟩
  | ok location =>
    obtain ⟨servers, floating, hlist⟩ := hlists location
    have hfailure : ∀ e, t.result ≠ .error e := by
      intro e he
      cases hr.symm.trans he
    have haccount : c.Account (t.andThen f) (lookup ++ (servers ++ floating)) := by
      refine h.account.andThen (fun location' hlocation => ?_) fun e he => absurd he (hfailure e)
      obtain rfl := Except.ok.inj (hr.symm.trans hlocation)
      exact hlist.account
    refine ⟨servers, floating, haccount, hasks, h.length_le, hlist.servers_inquiry,
      hlist.floating_inquiry, ?_⟩
    intro s hs v hv
    exact absurd (h.unconvertible s hs v hv) (hfailure _)

theorem account_addresses (c : Client) (path : String) (settings : Settings)
    (world : World Answer) (past : List (Exchange Answer)) :
    ∃ lookup servers floating : List Step, c.Discovers settings (world past .hostname)
      (((Discovery.addresses path settings).via c.answer).run world past) lookup servers
      floating := by
  cases hl : settings.location with
  | some location =>
    have hplain : Discovery.addresses path settings =
        Discovery.addressesIn settings (some location) := by
      rw [Discovery.addresses, Discovery.effectiveLocation, hl]
      rfl
    rw [hplain]
    obtain ⟨servers, floating, hlists⟩ :=
      account_addressesIn c settings (some location) world past
    exact ⟨[], servers, floating, hlists.account, List.forall_mem_nil _, Nat.zero_le _,
      hlists.servers_inquiry, hlists.floating_inquiry, List.forall_mem_nil _⟩
  | none =>
    have hbind : Discovery.addresses path settings =
        Discovery.ownLocation path >>= Discovery.addressesIn settings := by
      rw [Discovery.addresses, Discovery.effectiveLocation, hl]
    rw [hbind, via_bind, run_bind]
    obtain ⟨name, lookup, hlooks, hname⟩ := account_ownLocation c path world past
    refine ⟨lookup, hlooks.discovers ?_ fun location => account_addressesIn c settings location _ _⟩
    intro s hs
    obtain ⟨content, hcontent, rfl⟩ := hname (List.ne_nil_of_mem hs)
    exact ⟨hl, content, hcontent, hlooks.inquiry s hs⟩

/-! ## Headline -/

/-- A call that ends with the first answer of no use.  In order: nothing but the steps is requested;
    each request is made for its inquiry; every answer but the last is of use; what is told about a
    last one that is of none is the result; and there is a value only if all are of use. -/
structure FailFast (c : Client) (t : Transcript Answer α) (steps : List Step) : Prop where
  requested : requests t.exchanges = steps.map fun s => (s.request, s.reply)
  made : ∀ s ∈ steps, c.request? s.inquiry = .ok s.request
  useful : ∀ s ∈ steps.dropLast, ∀ e, ¬s.inquiry.Fails s.reply e
  last : ∀ s ∈ steps.getLast?, ∀ e, s.inquiry.Fails s.reply e → t.result = .error (.refused e)
  value : ∀ a, t.result = .ok a → ∀ s ∈ steps, ∀ e, ¬s.inquiry.Fails s.reply e

theorem Account.failFast {t : Transcript Answer α} {steps : List Step} (h : c.Account t steps) :
    c.FailFast t steps where
  requested := h.requested
  made := h.made
  useful s hs e hfails := by
    obtain ⟨before, after, hsplit⟩ := List.append_of_mem hs
    have hne : steps ≠ [] := by
      rintro rfl
      exact absurd hs List.not_mem_nil
    have hsteps : steps = before ++ s :: (after ++ [steps.getLast hne]) := by
      rw [← List.cons_append, ← List.append_assoc, ← hsplit, List.dropLast_concat_getLast]
    exact absurd (h.stops before s _ hsteps e hfails).1 (by simp)
  last s hs e hfails := by
    obtain ⟨before, hsteps⟩ := List.getLast?_eq_some_iff.1 hs
    exact (h.stops before s [] hsteps e hfails).2
  value a ha s hs e hfails := by
    obtain ⟨before, after, hsteps⟩ := List.append_of_mem hs
    have hresult := (h.stops before s after hsteps e hfails).2
    exact nomatch ha.symm.trans hresult

/-- An answer of no use in the first part leaves nothing for the second. -/
theorem Account.eq_nil_of_fails {t : Transcript Answer α} {steps more : List Step}
    (h : c.Account t (steps ++ more)) {s : Step} (hs : s ∈ steps) {e : Refusal}
    (hfails : s.inquiry.Fails s.reply e) : more = [] := by
  obtain ⟨before, after, rfl⟩ := List.append_of_mem hs
  have hsplit : before ++ s :: after ++ more = before ++ s :: (after ++ more) := by simp
  exact (List.append_eq_nil_iff.1 (h.stops before s (after ++ more) hsplit e hfails).1).2

/-- **Every call ends with the first answer of no use**, whatever the server is like: a lookup, the
    listing of the running servers, and a discovery that asks the client.  If a page of servers
    fails no floating address is asked for, and if the lookup of this machine fails, or brings a
    server that cannot be converted, no server is. -/
theorem calls_failFast (c : Client) (world : World Answer) (past : List (Exchange Answer)) :
    (∀ name, ∃ lookup : List Step,
      c.FailFast ((c.serverNamed name).run world past) lookup ∧ lookup.length ≤ 1 ∧
      ∀ s ∈ lookup, s.inquiry = .lookup name) ∧
    (∀ selector, ∃ servers floating : List Step,
      c.FailFast ((c.runningServers selector).run world past) (servers ++ floating) ∧
      (∀ s ∈ servers, ∃ number, s.inquiry = .servers selector number) ∧
      (∀ s ∈ floating, ∃ number, s.inquiry = .floating number) ∧
      ∀ s ∈ servers, ∀ e, s.inquiry.Fails s.reply e → floating = []) ∧
    ∀ path settings, ∃ lookup servers floating : List Step,
      let t := ((Discovery.addresses path settings).via c.answer).run world past
      c.FailFast t (lookup ++ (servers ++ floating)) ∧ lookup.length ≤ 1 ∧
      (∀ s ∈ lookup, ∃ content, (world past .hostname).text = .ok content ∧
        s.inquiry = .lookup (trim content)) ∧
      (∀ s ∈ servers, ∃ number, s.inquiry = .servers settings.labelSelector number) ∧
      (∀ s ∈ floating, ∃ number, s.inquiry = .floating number) ∧
      (∀ s ∈ servers, ∀ e, s.inquiry.Fails s.reply e → floating = []) ∧
      (∀ s ∈ lookup, ∀ e, s.inquiry.Fails s.reply e → servers = [] ∧ floating = []) ∧
      ∀ s ∈ lookup, ∀ v, Unconvertible s.reply v →
        servers = [] ∧ floating = [] ∧ t.result = .error (.refused (.badAddress v)) := by
  refine ⟨?_, ?_, ?_⟩
  · intro name
    obtain ⟨lookup, h⟩ := account_serverNamed c name world past
    exact ⟨lookup, h.account.failFast, h.length_le, h.inquiry⟩
  · intro selector
    obtain ⟨servers, floating, h⟩ := account_runningServers c selector world past
    exact ⟨servers, floating, h.account.failFast, h.servers_inquiry, h.floating_inquiry,
      fun s hs e he => h.account.eq_nil_of_fails hs he⟩
  · intro path settings
    obtain ⟨lookup, servers, floating, h⟩ := account_addresses c path settings world past
    refine ⟨lookup, servers, floating, h.account.failFast, h.length_le,
      fun s hs => (h.lookup_inquiry s hs).2, h.servers_inquiry, h.floating_inquiry, ?_, ?_,
      h.unconvertible⟩
    · intro s hs e he
      have haccount := h.account
      rw [← List.append_assoc] at haccount
      exact haccount.eq_nil_of_fails (List.mem_append_right _ hs) he
    · intro s hs e he
      exact List.append_eq_nil_iff.1 (h.account.eq_nil_of_fails hs he)

end Client

end CloudRoster.Provider
