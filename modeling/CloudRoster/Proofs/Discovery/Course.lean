/-
  The course of a discovery: what it asks, what it reports and how it ends.

  A discovery has two parts.  The first settles the location, from the settings or by a look at this
  machine; the second asks for the servers.  Below, each part is played against an arbitrary world,
  one that may answer the same question differently every time, and its transcript is written down
  in full (`run_ownLocation_named`, `run_addressesIn`).

  Together they make five ways through a discovery, one for each constructor of `Way`, and every run
  takes one of them (`way`):

  - the settings name a location: the servers are listed and the machine is not looked at;
  - the hostname file gives no text: nobody is asked anything;
  - the hostname is blank: the servers are listed, of all locations;
  - the server with the hostname cannot be looked up: nothing else is asked;
  - it is looked up: the servers are listed, of its location if there is one.

  **Headline** (`addresses_protocol`): what decides between the ways, which questions are asked on
  each, in which order, and which failure the discovery ends with.
-/
import CloudRoster.Discovery
import CloudRoster.Proofs.Text.Trim

namespace CloudRoster.Discovery

open Dialogue Text

variable (world : World Answer) (past : List (Exchange Answer))

/-! ## The steps -/

@[simp] theorem run_serverNamed (name : String) :
    (serverNamed name).run world past =
      ⟨world past (.serverNamed name),
        [⟨.serverNamed name, world past (.serverNamed name)⟩], []⟩ := by
  simp [serverNamed, run_bind, Transcript.andThen]

@[simp] theorem run_runningServers (selector : String) :
    (runningServers selector).run world past =
      ⟨world past (.runningServers selector),
        [⟨.runningServers selector, world past (.runningServers selector)⟩], []⟩ := by
  simp [runningServers, run_bind, Transcript.andThen]

/-- What the log says about this machine. -/
def adoptEntries : Option Server → List Log.Entry
  | some s => [Line.detected s]
  | none => [Line.notAServer]

@[simp] theorem run_adopt (own : Option Server) :
    (adopt own).run world past = ⟨.ok (own.map Server.location), [], adoptEntries own⟩ := by
  cases own <;> rfl

/-! ## Listing -/

/-- How a discovery in a location ends, given the answer to the listing. -/
def outcome (settings : Settings) (location : Option String)
    (listing : Except Failure (List Server)) : Except Failure (List Address) :=
  listing.map fun servers => (chooseAll settings.family (servers.filter (isIn location))).value

/-- What the log says about a discovery in a location, given the answer to the listing. -/
def listingEntries (settings : Settings) (location : Option String) :
    Except Failure (List Server) → List Log.Entry
  | .error _ => location.toList.map Line.filtering ++ [Line.asking settings location]
  | .ok servers =>
    let choice := chooseAll settings.family (servers.filter (isIn location))
    location.toList.map Line.filtering ++ [Line.asking settings location] ++
      [Line.listed servers] ++ choice.entries ++ [Line.chosen choice.value]

/-- One question is asked, whatever its answer is. -/
theorem run_addressesIn (settings : Settings) (location : Option String) :
    (addressesIn settings location).run world past =
      let listing : Except Failure (List Server) :=
        world past (.runningServers settings.labelSelector)
      ⟨outcome settings location listing, [⟨.runningServers settings.labelSelector, listing⟩],
        listingEntries settings location listing⟩ := by
  simp only [addressesIn, run_bind, run_sayAll, run_runningServers, Transcript.andThen,
    List.append_nil]
  cases world past (.runningServers settings.labelSelector) with
  | error e => simp [outcome, listingEntries, Except.map]
  | ok servers =>
    simp [outcome, listingEntries, Except.map, run]

/-! ## The location of this machine -/

/-- The look at this machine, up to the lookup. -/
theorem run_ownLocation_unreadable {path cause : String}
    (h : (world past .hostname).text = .error cause) :
    (ownLocation path).run world past =
      ⟨.error (.noHostname path cause), [⟨.hostname, world past .hostname⟩], []⟩ := by
  simp [ownLocation, readHostname, run_bind, Transcript.andThen, h, run]

theorem run_ownLocation_blank {path content : String}
    (h : (world past .hostname).text = .ok content) (hblank : trim content = "") :
    (ownLocation path).run world past =
      ⟨.ok none, [⟨.hostname, world past .hostname⟩],
        [Line.searching "", Line.notAServer]⟩ := by
  simp [ownLocation, readHostname, ownServer, run_bind, Transcript.andThen, h, hblank,
    adoptEntries]

theorem run_ownLocation_named {path content : String}
    (h : (world past .hostname).text = .ok content) (hname : trim content ≠ "") :
    (ownLocation path).run world past =
      let x : Exchange Answer := ⟨.hostname, world past .hostname⟩
      let lookup : Except Failure (Option Server) :=
        world (past ++ [x]) (.serverNamed (trim content))
      ⟨lookup.map fun own => own.map Server.location,
        [x, ⟨.serverNamed (trim content), lookup⟩],
        Line.searching (trim content) :: (lookup.toOption.map adoptEntries).getD []⟩ := by
  simp only [ownLocation, readHostname, ownServer, run_bind, run_question, run_say,
    Transcript.andThen, h, if_neg hname, run_serverNamed, List.append_nil]
  cases world (past ++ [⟨.hostname, world past .hostname⟩]) (.serverNamed (trim content)) with
  | error e => simp [Except.map, Except.toOption]
  | ok own => simp [Except.map, Except.toOption]

/-! ## The whole discovery -/

variable {settings : Settings} {path : String}

theorem run_addresses_located {location : String} (h : settings.location = some location) :
    (addresses path settings).run world past =
      let listing : Except Failure (List Server) :=
        world past (.runningServers settings.labelSelector)
      ⟨outcome settings (some location) listing,
        [⟨.runningServers settings.labelSelector, listing⟩],
        listingEntries settings (some location) listing⟩ := by
  simp [addresses, effectiveLocation, h, run_addressesIn]

theorem run_addresses_unreadable {cause : String} (hnone : settings.location = none)
    (h : (world past .hostname).text = .error cause) :
    (addresses path settings).run world past =
      ⟨.error (.noHostname path cause), [⟨.hostname, world past .hostname⟩], []⟩ := by
  simp only [addresses, effectiveLocation, hnone, run_bind, run_ownLocation_unreadable world past h,
    Transcript.andThen]

theorem run_addresses_blank {content : String} (hnone : settings.location = none)
    (h : (world past .hostname).text = .ok content) (hblank : trim content = "") :
    (addresses path settings).run world past =
      let x : Exchange Answer := ⟨.hostname, world past .hostname⟩
      let listing : Except Failure (List Server) :=
        world (past ++ [x]) (.runningServers settings.labelSelector)
      ⟨outcome settings none listing, [x, ⟨.runningServers settings.labelSelector, listing⟩],
        [Line.searching "", Line.notAServer] ++ listingEntries settings none listing⟩ := by
  simp [addresses, effectiveLocation, hnone, run_bind, run_addressesIn,
    run_ownLocation_blank world past h hblank, Transcript.andThen]

theorem run_addresses_lookupFailed {content : String} {e : Failure}
    (hnone : settings.location = none) (h : (world past .hostname).text = .ok content)
    (hname : trim content ≠ "")
    (hlookup : world (past ++ [⟨.hostname, world past .hostname⟩]) (.serverNamed (trim content)) =
      .error e) :
    (addresses path settings).run world past =
      ⟨.error e, [⟨.hostname, world past .hostname⟩, ⟨.serverNamed (trim content), .error e⟩],
        [Line.searching (trim content)]⟩ := by
  simp [addresses, effectiveLocation, hnone, run_bind, run_ownLocation_named world past h hname,
    Transcript.andThen, hlookup, Except.map, Except.toOption]

theorem run_addresses_lookedUp {content : String} {own : Option Server}
    (hnone : settings.location = none) (h : (world past .hostname).text = .ok content)
    (hname : trim content ≠ "")
    (hlookup : world (past ++ [⟨.hostname, world past .hostname⟩]) (.serverNamed (trim content)) =
      .ok own) :
    (addresses path settings).run world past =
      let x : Exchange Answer := ⟨.hostname, world past .hostname⟩
      let y : Exchange Answer := ⟨.serverNamed (trim content), .ok own⟩
      let location := own.map Server.location
      let listing : Except Failure (List Server) :=
        world (past ++ [x, y]) (.runningServers settings.labelSelector)
      ⟨outcome settings location listing,
        [x, y, ⟨.runningServers settings.labelSelector, listing⟩],
        Line.searching (trim content) :: adoptEntries own ++
          listingEntries settings location listing⟩ := by
  simp [addresses, effectiveLocation, hnone, run_bind, run_ownLocation_named world past h hname,
    run_addressesIn, Transcript.andThen, hlookup, Except.map, Except.toOption]

/-! ## The ways through a discovery -/

/-- `Way path settings world past t`: in this world a discovery goes as `t` says. -/
inductive Way (path : String) (settings : Settings) (world : World Answer)
    (past : List (Exchange Answer)) : Transcript Answer (List Address) → Prop where
  /-- The settings name a location. -/
  | located {location : String} {listing : Except Failure (List Server)}
      (named : settings.location = some location)
      (listed : world past (.runningServers settings.labelSelector) = listing) :
      Way path settings world past ⟨outcome settings (some location) listing,
        [⟨.runningServers settings.labelSelector, listing⟩],
        listingEntries settings (some location) listing⟩
  /-- The hostname file gives no text. -/
  | unreadable {cause : String} (unnamed : settings.location = none)
      (unread : (world past .hostname).text = .error cause) :
      Way path settings world past
        ⟨.error (.noHostname path cause), [⟨.hostname, world past .hostname⟩], []⟩
  /-- The hostname is blank. -/
  | blank {content : String} {listing : Except Failure (List Server)}
      (unnamed : settings.location = none) (read : (world past .hostname).text = .ok content)
      (nameless : trim content = "")
      (listed : world (past ++ [⟨.hostname, world past .hostname⟩])
        (.runningServers settings.labelSelector) = listing) :
      Way path settings world past ⟨outcome settings none listing,
        [⟨.hostname, world past .hostname⟩, ⟨.runningServers settings.labelSelector, listing⟩],
        [Line.searching "", Line.notAServer] ++ listingEntries settings none listing⟩
  /-- The server with the hostname cannot be looked up. -/
  | lookupFailed {content : String} {e : Failure} (unnamed : settings.location = none)
      (read : (world past .hostname).text = .ok content) (name : trim content ≠ "")
      (lookup : world (past ++ [⟨.hostname, world past .hostname⟩])
        (.serverNamed (trim content)) = .error e) :
      Way path settings world past ⟨.error e,
        [⟨.hostname, world past .hostname⟩, ⟨.serverNamed (trim content), .error e⟩],
        [Line.searching (trim content)]⟩
  /-- The server with the hostname is looked up, and there may be none. -/
  | lookedUp {content : String} {own : Option Server} {listing : Except Failure (List Server)}
      (unnamed : settings.location = none) (read : (world past .hostname).text = .ok content)
      (name : trim content ≠ "")
      (lookup : world (past ++ [⟨.hostname, world past .hostname⟩])
        (.serverNamed (trim content)) = .ok own)
      (listed : world (past ++ [⟨.hostname, world past .hostname⟩,
        ⟨.serverNamed (trim content), .ok own⟩]) (.runningServers settings.labelSelector) =
          listing) :
      Way path settings world past ⟨outcome settings (own.map Server.location) listing,
        [⟨.hostname, world past .hostname⟩, ⟨.serverNamed (trim content), .ok own⟩,
          ⟨.runningServers settings.labelSelector, listing⟩],
        Line.searching (trim content) :: adoptEntries own ++
          listingEntries settings (own.map Server.location) listing⟩

/-- Every discovery goes one of these ways. -/
theorem way (path : String) (settings : Settings) :
    Way path settings world past ((addresses path settings).run world past) := by
  cases hl : settings.location with
  | some location =>
    rw [run_addresses_located world past hl]
    exact .located hl rfl
  | none =>
    cases ht : (world past .hostname).text with
    | error cause =>
      rw [run_addresses_unreadable world past hl ht]
      exact .unreadable hl ht
    | ok content =>
      by_cases hb : trim content = ""
      · rw [run_addresses_blank world past hl ht hb]
        exact .blank hl ht hb rfl
      · cases hlookup : world (past ++ [⟨.hostname, world past .hostname⟩])
            (.serverNamed (trim content)) with
        | error e =>
          rw [run_addresses_lookupFailed world past hl ht hb hlookup]
          exact .lookupFailed hl ht hb hlookup
        | ok own =>
          rw [run_addresses_lookedUp world past hl ht hb hlookup]
          exact .lookedUp hl ht hb hlookup rfl

section

variable {world past} {t : Transcript Answer (List Address)}

/-- What a discovery asks for. -/
theorem Way.question_of_mem (hway : Way path settings world past t) {x : Exchange Answer}
    (h : x ∈ t.exchanges) :
    x.question = .hostname ∨ x.question = .runningServers settings.labelSelector ∨
      settings.location = none ∧ ∃ content, (world past .hostname).text = .ok content ∧
        trim content ≠ "" ∧ x.question = .serverNamed (trim content) := by
  cases hway with
  | located =>
    simp only [List.mem_singleton] at h
    subst h
    exact .inr (.inl rfl)
  | unreadable =>
    simp only [List.mem_singleton] at h
    subst h
    exact .inl rfl
  | blank =>
    simp only [List.mem_cons, List.not_mem_nil, or_false] at h
    rcases h with rfl | rfl
    · exact .inl rfl
    · exact .inr (.inl rfl)
  | @lookupFailed content _ hnone hread hname =>
    simp only [List.mem_cons, List.not_mem_nil, or_false] at h
    rcases h with rfl | rfl
    · exact .inl rfl
    · exact .inr (.inr ⟨hnone, content, hread, hname, rfl⟩)
  | @lookedUp content _ _ hnone hread hname =>
    simp only [List.mem_cons, List.not_mem_nil, or_false] at h
    rcases h with rfl | rfl | rfl
    · exact .inl rfl
    · exact .inr (.inr ⟨hnone, content, hread, hname, rfl⟩)
    · exact .inr (.inl rfl)

end

/-! ## What of the answers counts -/

/-- Two servers are one machine, by all that a discovery looks at in the machine that it runs on. -/
structure SameMachine (s t : Server) : Prop where
  id : s.id = t.id
  name : s.name = t.name
  location : s.location = t.location

theorem adoptEntries_congr {own own' : Option Server} (h : Option.Rel SameMachine own own') :
    adoptEntries own = adoptEntries own' ∧
      own.map Server.location = own'.map Server.location := by
  cases h with
  | none => exact ⟨rfl, rfl⟩
  | some h =>
    simp only [adoptEntries, Line.detected, h.id, h.name, Option.map_some, h.location, and_self]

/-- The addresses of the machine that a discovery runs on do not count, so that answers which differ
    in nothing else lead to the same result and the same log. -/
theorem run_addresses_congr {answer answer' : (q : Question) → Answer q}
    (hhost : answer .hostname = answer' .hostname)
    (hlisting : answer (.runningServers settings.labelSelector) =
      answer' (.runningServers settings.labelSelector))
    (hlookup : ∀ name, ∃ own own', answer (.serverNamed name) = .ok own ∧
      answer' (.serverNamed name) = .ok own' ∧ Option.Rel SameMachine own own') :
    ((addresses path settings).run (fun _ q => answer q) past).result =
        ((addresses path settings).run (fun _ q => answer' q) past).result ∧
      ((addresses path settings).run (fun _ q => answer q) past).entries =
        ((addresses path settings).run (fun _ q => answer' q) past).entries := by
  have hway := way (fun _ q => answer' q) past path settings
  generalize (addresses path settings).run (fun _ q => answer' q) past = t at hway
  cases hway with
  | located named listed =>
    rw [run_addresses_located _ past named]
    simp only [hlisting.trans listed, and_self]
  | unreadable unnamed unread =>
    have hunread : (answer .hostname).text = .error _ := hhost ▸ unread
    rw [run_addresses_unreadable _ past unnamed hunread]
    exact ⟨rfl, rfl⟩
  | blank unnamed read nameless listed =>
    have hread : (answer .hostname).text = .ok _ := hhost ▸ read
    rw [run_addresses_blank _ past unnamed hread nameless]
    simp only [hlisting.trans listed, and_self]
  | @lookupFailed content e unnamed read name lookup =>
    -- a lookup that fails is excluded
    obtain ⟨own, own', -, hown', -⟩ := hlookup (trim content)
    cases hown'.symm.trans lookup
  | @lookedUp content found _ unnamed read name lookup listed =>
    have hread : (answer .hostname).text = .ok content := hhost ▸ read
    obtain ⟨own, own', hown, hown', hsame⟩ := hlookup (trim content)
    obtain rfl : own' = found := Except.ok.inj (hown'.symm.trans lookup)
    obtain ⟨hentries, hlocation⟩ := adoptEntries_congr hsame
    rw [run_addresses_lookedUp _ past unnamed hread name hown]
    simp only [hlisting.trans listed, hentries, hlocation, and_self]

/-! ## Headline: questions and failures -/

/-- The questions to the inventory among those that were asked. -/
def calls (xs : List (Exchange Answer)) : List Question :=
  (xs.map Exchange.question).filter (· ≠ .hostname)

/-- The failure that an inventory answered with. -/
def failure? : Exchange Answer → Option Failure
  | ⟨.serverNamed _, .error e⟩ => some e
  | ⟨.runningServers _, .error e⟩ => some e
  | _ => none

/-- The world in which an inventory answers on a machine with this hostname file. -/
def onHost (inventory : World Answer) (host : FileContent) : World Answer
  | _, .hostname => host
  | past, .serverNamed name => inventory past (.serverNamed name)
  | past, .runningServers selector => inventory past (.runningServers selector)

@[simp] theorem outcome_eq_error_iff {location : Option String}
    {listing : Except Failure (List Server)} {e : Failure} :
    outcome settings location listing = .error e ↔ listing = .error e := by
  cases listing with
  | error e' => simp [outcome, Except.map]
  | ok servers => simp [outcome, Except.map]

@[simp] theorem failure?_hostname (host : FileContent) : failure? ⟨.hostname, host⟩ = none := rfl

@[simp] theorem failure?_lookup {name : String} {lookup : Except Failure (Option Server)}
    {e : Failure} : failure? ⟨.serverNamed name, lookup⟩ = some e ↔ lookup = .error e := by
  cases lookup <;> simp [failure?]

@[simp] theorem failure?_listing {selector : String} {listing : Except Failure (List Server)}
    {e : Failure} :
    failure? ⟨.runningServers selector, listing⟩ = some e ↔ listing = .error e := by
  cases listing <;> simp [failure?]

/-- A discovery fails for want of a hostname, or with a failure that the inventory answered. -/
theorem Way.result_eq_error_iff {world : World Answer} {past : List (Exchange Answer)}
    {t : Transcript Answer (List Address)} (hway : Way path settings world past t) {e : Failure} :
    t.result = .error e ↔
      (settings.location = none ∧
        ∃ cause, (world past .hostname).text = .error cause ∧ e = .noHostname path cause) ∨
      ∃ x ∈ t.exchanges, failure? x = some e := by
  cases hway with
  | located named => simp [named]
  | unreadable unnamed unread => simp [unnamed, unread, eq_comm]
  | blank unnamed read => simp [unnamed, read]
  | lookupFailed unnamed read => simp [unnamed, read]
  | lookedUp unnamed read => simp [unnamed, read]

/-- **The protocol of a discovery.**  In order: the settings name a location; the hostname file
    gives no text; the hostname is blank; a server is looked up.  The last clause says that there is
    no other failure than an unreadable file and what the inventory answered. -/
theorem addresses_protocol (inventory : World Answer) (host : FileContent)
    (past : List (Exchange Answer)) (path : String) (settings : Settings) :
    let play (file : FileContent) := (addresses path settings).run (onHost inventory file) past
    let selector := settings.labelSelector
    let read : List (Exchange Answer) := past ++ [⟨.hostname, host⟩]
    (∀ location, settings.location = some location →
      calls (play host).exchanges = [.runningServers selector] ∧
      (play host).result =
        outcome settings (some location) (inventory past (.runningServers selector)) ∧
      ∀ file, play file = play host) ∧
    (settings.location = none → ∀ cause, host.text = .error cause →
      calls (play host).exchanges = [] ∧ (play host).result = .error (.noHostname path cause)) ∧
    (settings.location = none → ∀ content, host.text = .ok content → Trimmed content "" →
      calls (play host).exchanges = [.runningServers selector] ∧
      (play host).result = outcome settings none (inventory read (.runningServers selector))) ∧
    (settings.location = none → ∀ content name, host.text = .ok content → Trimmed content name →
      name ≠ "" →
      (∀ e, inventory read (.serverNamed name) = .error e →
        calls (play host).exchanges = [.serverNamed name] ∧ (play host).result = .error e) ∧
      (∀ own, inventory read (.serverNamed name) = .ok own →
        calls (play host).exchanges = [.serverNamed name, .runningServers selector] ∧
        (play host).result = outcome settings (own.map Server.location)
          (inventory (past ++ [⟨.hostname, host⟩, ⟨.serverNamed name, .ok own⟩])
            (.runningServers selector)))) ∧
    ∀ e, (play host).result = .error e ↔
      (settings.location = none ∧ ∃ cause, host.text = .error cause ∧ e = .noHostname path cause) ∨
      ∃ x ∈ (play host).exchanges, failure? x = some e := by
  intro play selector read
  refine ⟨?_, ?_, ?_, ?_, ?_⟩
  · intro location h
    have hplay : ∀ file, play file = _ :=
      fun file => run_addresses_located (onHost inventory file) past h
    refine ⟨?_, ?_, fun file => ?_⟩
    · rw [hplay]; rfl
    · rw [hplay]; rfl
    · rw [hplay, hplay]; rfl
  · intro hnone cause h
    have hplay : play host = _ := run_addresses_unreadable (onHost inventory host) past hnone h
    rw [hplay]
    exact ⟨rfl, rfl⟩
  · intro hnone content h hblank
    have hplay : play host = _ :=
      run_addresses_blank (onHost inventory host) past hnone h (trim_eq_iff.2 hblank)
    rw [hplay]
    exact ⟨rfl, rfl⟩
  · intro hnone content name h hname hne
    obtain rfl := trim_eq_iff.2 hname
    constructor
    · intro e he
      have hplay : play host = _ :=
        run_addresses_lookupFailed (onHost inventory host) past hnone h hne he
      rw [hplay]
      exact ⟨rfl, rfl⟩
    · intro own hown
      have hplay : play host = _ :=
        run_addresses_lookedUp (onHost inventory host) past hnone h hne hown
      rw [hplay]
      exact ⟨rfl, rfl⟩
  · intro e
    have hway : Way path settings (onHost inventory host) past (play host) :=
      way (onHost inventory host) past path settings
    exact hway.result_eq_error_iff

end CloudRoster.Discovery
