/-
  The conversion of the running servers is all or nothing.

  Suppose that every request for the running servers succeeds.  Then all pages are fetched first, up
  to the last one (`Fetched`): those of the servers, and those of the floating addresses if a server
  refers to one.  Only then is a text turned into an address, and the first one that cannot be is
  the reason to refuse everything: the first of the floating addresses in the order of their
  listing, whether or not a server refers to it, and if these can all be read, the first of the
  first server that has any (`Judged`).

  **Headline** (`runningServers_allOrNothing`): this for every client, selector and server.
-/
import CloudRoster.Proofs.Provider.FailFast

namespace CloudRoster.Provider

open Http Dialogue

variable {α : Type}

/-- `Fetched inquiry read number steps items`: the steps bring the pages from the one with a number
    on to the last one, and these are their items. -/
inductive Fetched (inquiry : UInt64 → Inquiry) (read : Json → Option (Page α)) :
    UInt64 → List Step → List α → Prop where
  /-- No later page is named. -/
  | last {number : UInt64} {s : Step} {p : Page α} (asks : s.inquiry = inquiry number)
      (brings : Brings read s.reply p) (stop : ∀ next, p.next = some next → next ≤ number) :
      Fetched inquiry read number [s] p.items
  /-- A later page is named, and fetched next. -/
  | next {number next : UInt64} {s : Step} {p : Page α} {steps : List Step} {items : List α}
      (asks : s.inquiry = inquiry number) (brings : Brings read s.reply p)
      (announced : p.next = some next) (later : number < next)
      (rest : Fetched inquiry read next steps items) :
      Fetched inquiry read number (s :: steps) (p.items ++ items)

/-- How the running servers are judged by what the provider lists.  In order: what makes them
    refused at all; the floating addresses come first; then the servers, each with its texts in
    order. -/
structure Judged (entries : List ServerEntry) (floats : List FloatingEntry)
    (result : Except Failure (List Server)) : Prop where
  error_iff : (∃ e, result = .error e) ↔
    ((∃ e ∈ entries, e.floatingIds ≠ []) ∧ ∃ f ∈ floats, isUnreadable f.ip = true) ∨
      ∃ e ∈ entries, ∃ text ∈ e.texts, isUnreadable text = true
  floating : ∀ v, firstUnreadable (floats.map FloatingEntry.ip) = some v →
    result = .error (.refused (.badAddress v))
  servers : firstUnreadable (floats.map FloatingEntry.ip) = none →
    ∀ v, (entries.findSome? fun e => firstUnreadable e.texts) = some v →
      result = .error (.refused (.badAddress v))

/-- A conversion is refused exactly if one of the texts cannot be read. -/
theorem Converts.refused_iff {r : Except Refusal α} {texts : List String} (h : Converts r texts) :
    (∃ e, r.mapError Failure.refused = .error e) ↔ ∃ text ∈ texts, isUnreadable text = true := by
  rw [← isSome_firstUnreadable_iff]
  cases h with
  | success value readable => simp [value, readable, Except.mapError]
  | refusal reason first => simp [reason, first, Except.mapError]

/-- The first of them is the reason. -/
theorem Converts.refused_of_first {r : Except Refusal α} {texts : List String}
    (h : Converts r texts) {v : String} (hv : firstUnreadable texts = some v) :
    r.mapError Failure.refused = .error (.refused (.badAddress v)) := by
  cases h with
  | success _ readable =>
    rw [readable] at hv
    cases hv
  | refusal reason first =>
    obtain rfl := Option.some.inj (first.symm.trans hv)
    rw [reason]
    rfl

/-- A conversion that reads the floating addresses and then the servers judges so, if floating
    addresses are there only where a server refers to one. -/
theorem Converts.judged {entries : List ServerEntry} {floats : List FloatingEntry}
    {r : Except Refusal (List Server)}
    (h : Converts r (floats.map FloatingEntry.ip ++ entries.flatMap ServerEntry.texts))
    (hfloats : floats ≠ [] → ∃ e ∈ entries, e.floatingIds ≠ []) :
    Judged entries floats (r.mapError .refused) := by
  constructor
  · rw [h.refused_iff]
    constructor
    · rintro ⟨text, hmem, htext⟩
      rcases List.mem_append.1 hmem with hmem | hmem
      · obtain ⟨f, hf, rfl⟩ := List.mem_map.1 hmem
        exact .inl ⟨hfloats (List.ne_nil_of_mem hf), f, hf, htext⟩
      · obtain ⟨e, he, hmem⟩ := List.mem_flatMap.1 hmem
        exact .inr ⟨e, he, text, hmem, htext⟩
    · rintro (⟨-, f, hf, hip⟩ | ⟨e, he, text, hmem, htext⟩)
      · exact ⟨f.ip, List.mem_append_left _ (List.mem_map_of_mem hf), hip⟩
      · exact ⟨text, List.mem_append_right _ (List.mem_flatMap.2 ⟨e, he, hmem⟩), htext⟩
  · intro v hv
    apply h.refused_of_first
    rw [firstUnreadable_append, hv, Option.some_or]
  · intro hnone v hv
    apply h.refused_of_first
    rw [firstUnreadable_append, hnone, Option.none_or, firstUnreadable_flatMap, hv]

namespace Client

variable {c : Client} {l : Listing α} {inquiry : UInt64 → Inquiry}

/-! ## Listings of which every page is fetched -/

/-- A course with a value has fetched all pages. -/
theorem Course.fetched {number : UInt64} {visits : List Visit} {result : Except Failure (List α)}
    (h : Course c l number visits result) {items : List α} (hresult : result = .ok items) :
    Fetched inquiry l.readPage number (visits.map (Visit.step inquiry)) items := by
  induction h generalizing items with
  | unsendable => cases hresult
  | failed => cases hresult
  | @last v p make page stop =>
    cases hresult
    refine .last rfl (readReply_eq_ok_iff.1 page) fun next hnext => ?_
    refine UInt64.not_lt.1 fun hlt => ?_
    rw [Page.later_eq_some.2 ⟨hnext, hlt⟩] at stop
    cases stop
  | @next v p number visits result make page announced later rest ih =>
    cases result with
    | error e => cases hresult
    | ok more =>
      cases hresult
      exact .next rfl (readReply_eq_ok_iff.1 page) announced later (ih rfl)

/-- A course fails because a request cannot be sent, or because of an answer of no use. -/
theorem Course.eq_error {number : UInt64} {visits : List Visit} {result : Except Failure (List α)}
    (h : Course c l number visits result) {e : Failure} (hresult : result = .error e) :
    (∃ fault, e = .refused (.unsendable fault)) ∨
      ∃ v ∈ visits, ∃ cause, l.pageOf v = .error cause := by
  induction h with
  | @unsendable number fault make =>
    cases hresult
    exact .inl ⟨fault, rfl⟩
  | @failed v cause make page => exact .inr ⟨v, List.mem_singleton.2 rfl, cause, page⟩
  | last => cases hresult
  | @next v p number visits result make page announced later rest ih =>
    cases result with
    | ok items => cases hresult
    | error e' =>
      cases hresult
      rcases ih rfl with h | ⟨w, hw, h⟩
      · exact .inl h
      · exact .inr ⟨w, List.mem_cons_of_mem v hw, h⟩

/-- If every request succeeds, a course does not fail. -/
theorem Course.ne_error (hl : l.AskedBy inquiry) {number : UInt64} {visits : List Visit}
    {e : Failure} (h : Course c l number visits (.error e))
    (hsent : ∀ fault, e ≠ .refused (.unsendable fault))
    (huseful : ∀ s ∈ visits.map (Visit.step inquiry), ∀ cause, ¬s.inquiry.Fails s.reply cause) :
    False := by
  rcases h.eq_error rfl with ⟨fault, he⟩ | ⟨v, hv, cause, hpage⟩
  · exact hsent fault he
  · exact huseful _ (List.mem_map_of_mem hv) cause (hl.pageOf_eq_error_iff.1 hpage)

/-! ## Headline -/

/-- **The running servers are converted all or not at all.**  If every request succeeds, then all
    pages of servers are fetched, and those of floating addresses if and only if a server refers to
    one; and the result is judged by what they list.  The last clause gives the wording. -/
theorem runningServers_allOrNothing (c : Client) (selector : String) (world : World Answer)
    (past : List (Exchange Answer)) :
    let t := (c.runningServers selector).run world past
    ∃ servers floating : List Step, c.FailFast t (servers ++ floating) ∧
      ((∀ s ∈ servers ++ floating, ∀ cause, ¬s.inquiry.Fails s.reply cause) →
        (∀ fault, t.result ≠ .error (.refused (.unsendable fault))) →
        ∃ (entries : List ServerEntry) (floats : List FloatingEntry),
          Fetched (.servers selector) serverPage? 1 servers entries ∧
          ((∃ e ∈ entries, e.floatingIds ≠ []) →
            Fetched .floating (page? "floating_ips" floatingEntry?) 1 floating floats) ∧
          ((∀ e ∈ entries, e.floatingIds = []) → floating = [] ∧ floats = []) ∧
          Judged entries floats t.result) ∧
      ∀ v, (Refusal.badAddress v).message = s!"Invalid IP address `{v}`" := by
  intro t
  obtain ⟨visits, more, hexchanges, hgathering⟩ := run_runningServers c selector world past
  refine ⟨visits.map (Visit.step (.servers selector)), more.map (Visit.step .floating),
    (hgathering.account hexchanges).failFast, ?_, fun _ => rfl⟩
  intro huseful hsent
  rw [List.forall_mem_append] at huseful
  have ht : (c.runningServers selector).run world past = t := rfl
  rw [ht] at hgathering
  generalize t.result = result at hgathering hsent
  cases hgathering with
  | unlisted servers =>
    exact (servers.ne_error (serverListing_askedBy selector)
      (fun fault he => hsent fault (he ▸ rfl)) huseful.1).elim
  | unresolved servers refers floating =>
    exact (floating.ne_error floatingListing_askedBy
      (fun fault he => hsent fault (he ▸ rfl)) huseful.2).elim
  | @plain entries servers plain =>
    refine ⟨entries, [], servers.fetched rfl, ?_, fun _ => ⟨rfl, rfl⟩, ?_⟩
    · rintro ⟨e, he, hne⟩
      exact absurd (plain e he) hne
    · exact (converts_servers [] entries).judged fun h => absurd rfl h
  | @resolved _ entries floats servers refers floating =>
    refine ⟨entries, floats, servers.fetched rfl, fun _ => floating.fetched rfl, ?_, ?_⟩
    · intro hplain
      obtain ⟨e, he, hne⟩ := refers
      exact absurd (hplain e he) hne
    · have hconverts := (converts_tableOf floats).bind fun table => converts_servers table entries
      exact hconverts.judged fun _ => refers

/-- A world with one server, whose private address is none, and one floating address, which is none
    either and which no server refers to.  Records are written as lists. -/
def unreadableWorld : World Answer
  | _, .hostname => .missing
  | _, .request r =>
    some ⟨200, Text.utf8 (if r.url.path.length = "/servers".length then
        "[[[1,\"a\",[[\"l\"]],[null,null,[7]],[[\"x\"]]]],null]"
      else "[[[9,\"y\",\"ipv4\",false]],null]")⟩

/-- Of two texts that are no addresses, the floating one is told. -/
theorem runningServers_allOrNothing_unreadable :
    let t := (loopback.runningServers "").run unreadableWorld []
    t.result = .error (.refused (.badAddress "y")) ∧
    ∃ (servers : List Step) (entries : List ServerEntry) (floats : List FloatingEntry),
      Fetched (.servers "") serverPage? 1 servers entries ∧ Judged entries floats t.result := by
  have hresult : ((loopback.runningServers "").run unreadableWorld []).result =
      .error (.refused (.badAddress "y")) := by decide +kernel
  intro t
  obtain ⟨servers, floating, hfast, hall, -⟩ :=
    runningServers_allOrNothing loopback "" unreadableWorld []
  have huseful : ∀ s ∈ servers ++ floating, ∀ cause, ¬s.inquiry.Fails s.reply cause := by
    intro s hs cause hfails
    have hne : servers ++ floating ≠ [] := List.ne_nil_of_mem hs
    rw [← List.dropLast_concat_getLast hne, List.mem_append, List.mem_singleton] at hs
    rcases hs with hs | hs
    · exact hfast.useful s hs cause hfails
    · have hlast : s ∈ (servers ++ floating).getLast? := by
        rw [List.getLast?_eq_some_getLast hne, hs]
        rfl
      have htold := hfast.last s hlast cause hfails
      cases hresult.symm.trans htold
      exact Inquiry.not_fails_badAddress hfails
  have hsent : ∀ fault, t.result ≠ .error (.refused (.unsendable fault)) := by
    intro fault hfault
    cases hresult.symm.trans hfault
  obtain ⟨entries, floats, hservers, -, -, hjudged⟩ := hall huseful hsent
  exact ⟨hresult, servers, entries, floats, hservers, hjudged⟩

end Client

end CloudRoster.Provider
