/-
  Where the addresses that a discovery tells come from.

  A family names the places that are looked at, and a place is a key of the provider's answer: the
  first of the private networks, the public address under `ipv4` or `ipv6`, and the floating
  addresses whose `type` says so.  What stands at a place is a text, and which version of address it
  spells is not looked at: no place is closed to either version.

  1. **Specification** - `Offers floats e family text`: the provider tells this text of a server, at
     a place that the family looks at.  `Heard c selector listing resolving entries floats`: what
     the pages of a listing of running servers held.
  2. **Back to the text** - whatever is chosen for a server was read out of a text that is offered
     (`offers_of_takes`).
  3. **Back to the answers** - a discovery that ends well has listed servers and chosen among their
     addresses (`exists_choice_of_addresses`), and these servers are joined of what was heard
     (`exists_heard_of_runningServers`).

  **Headline** (`addresses_offered`): every address that is told was offered, and it is of the
  version of the family if the text was.  The condition is needed (`addresses_otherVersion`).
-/
import CloudRoster.Proofs.Address.RoundTrip
import CloudRoster.Proofs.Discovery.Policy
import CloudRoster.Proofs.Discovery.Selection
import CloudRoster.Proofs.Provider.Filtering

namespace CloudRoster

/-- The version that a family is named for. -/
def Family.version : Family → Version
  | .privateV4 => .v4
  | .publicV4 => .v4
  | .publicV6 => .v6

/-- There are two versions only. -/
theorem Version.eq_of_v6_iff {v w : Version} (h : v = .v6 ↔ w = .v6) : v = w := by
  cases v <;> cases w
  · rfl
  · exact h.2 rfl
  · exact (h.1 rfl).symm
  · rfl

namespace Provider

open Http Dialogue Choice

/-! ## Specification -/

/-- The public address of a version, as the provider writes it. -/
def ServerEntry.publicEntry (e : ServerEntry) : Version → Option PublicEntry
  | .v4 => e.publicV4
  | .v6 => e.publicV6

/-- `Offers floats e family text`: the provider tells `text` of the server `e`, at a place that the
    family looks at.  `floats` are the floating addresses that it lists. -/
inductive Offers (floats : List FloatingEntry) (e : ServerEntry) : Family → String → Prop where
  /-- The address in the first private network. -/
  | network {text : String} (first : e.privateIps.head? = some text) :
      Offers floats e .privateV4 text
  /-- The public address under the key of the version, unless it is blocked. -/
  | attached {v : Version} {a : PublicEntry} (present : e.publicEntry v = some a)
      (free : a.blocked = false) : Offers floats e (publicFamily v) a.ip
  /-- A floating address of the server that is said to be of the version, unless it is blocked. -/
  | floating {v : Version} {id : UInt64} {f : FloatingEntry} (refers : id ∈ e.floatingIds)
      (last : LastListed floats id f) (version : f.version = v) (free : f.blocked = false) :
      Offers floats e (publicFamily v) f.ip

/-- The pages of a listing of the running servers held these servers and, where one of them refers
    to a floating address, these floating addresses. -/
structure Heard (c : Client) (selector : String) (listing resolving : List Step)
    (entries : List ServerEntry) (floats : List FloatingEntry) : Prop where
  made : ∀ s ∈ listing ++ resolving, c.request? s.inquiry = .ok s.request
  listed : Fetched (.servers selector) serverPage? 1 listing entries
  resolved : (∃ e ∈ entries, e.floatingIds ≠ []) →
    Fetched .floating (page? "floating_ips" floatingEntry?) 1 resolving floats
  unasked : (∀ e ∈ entries, e.floatingIds = []) → resolving = [] ∧ floats = []

/-! ## Back to the text -/

section

variable {floats : List FloatingEntry} {e : ServerEntry} {s : Server}

/-- Every address in a row of resolved numbers is that of a listed entry. -/
theorem Resolves.origin {ids : List UInt64} {as : List FloatingAddress}
    (h : Resolves floats ids as) {a : FloatingAddress} (ha : a ∈ as) :
    ∃ id ∈ ids, ∃ f, LastListed floats id f ∧ Address.read? f.ip = some a.ip ∧
      f.version = a.version ∧ f.blocked = a.blocked := by
  induction h with
  | done => cases ha
  | listed last reads _ ih =>
    rcases List.mem_cons.1 ha with rfl | ha
    · exact ⟨_, List.mem_cons_self, _, last, reads, rfl, rfl⟩
    · obtain ⟨id, hid, hf⟩ := ih ha
      exact ⟨id, List.mem_cons_of_mem _ hid, hf⟩
  | unlisted _ _ ih =>
    obtain ⟨id, hid, hf⟩ := ih ha
    exact ⟨id, List.mem_cons_of_mem _ hid, hf⟩

/-- The first address is read out of the first text. -/
theorem exists_head?_of_forall₂ {texts : List String} {ips : List Address}
    (h : List.Forall₂ (fun text ip => Address.read? text = some ip) texts ips) {ip : Address}
    (hip : ips.head? = some ip) :
    ∃ text, texts.head? = some text ∧ Address.read? text = some ip := by
  cases h with
  | nil => cases hip
  | cons hread _ =>
    obtain rfl := Option.some.inj hip
    exact ⟨_, rfl, hread⟩

theorem Joined.spelled (h : Joined floats e s) (v : Version) :
    Option.Rel Spelled (e.publicEntry v) (s.publicAddress v) := by
  cases v with
  | v4 => exact h.publicV4
  | v6 => exact h.publicV6

/-- What is chosen for a server was read out of a text that is offered for it. -/
theorem offers_of_takes (h : Joined floats e s) {family : Family} {place : Place} {ip : Address}
    (htakes : Takes s family place ip) :
    ∃ text, Offers floats e family text ∧ Address.read? text = some ip := by
  cases htakes with
  | network first =>
    obtain ⟨text, hfirst, hread⟩ := exists_head?_of_forall₂ h.privateAddresses first
    exact ⟨text, .network hfirst, hread⟩
  | @attached v a present free =>
    have hspelled := h.spelled v
    rw [present] at hspelled
    cases hentry : e.publicEntry v with
    | none =>
      rw [hentry] at hspelled
      cases hspelled
    | some a' =>
      rw [hentry] at hspelled
      cases hspelled with
      | some hspelled =>
        exact ⟨a'.ip, .attached hentry (hspelled.blocked.symm.trans free), hspelled.reads⟩
  | floating _ first =>
    obtain ⟨id, hid, f, hlast, hread, hversion, hblocked⟩ :=
      h.floating.origin (List.mem_of_getElem? first.here)
    exact ⟨f.ip, .floating hid hlast (hversion.trans first.standsIn.1)
      (hblocked.trans first.standsIn.2), hread⟩

end

/-- An address that is told of servers was chosen for one of them. -/
theorem exists_takes_of_mem_chooseAll {family : Family} {servers : List Server} {ip : Address}
    (h : ip ∈ (Discovery.chooseAll family servers).value) :
    ∃ s ∈ servers, ∃ place, Takes s family place ip := by
  simp only [Discovery.chooseAll, List.filterMap_map] at h
  obtain ⟨s, hs, hvalue⟩ := List.mem_filterMap.1 h
  exact ⟨s, hs, value_address_eq_some_iff.1 hvalue⟩

/-! ## Back to the answers -/

namespace Client

/-- Servers that are told are joined of what was heard. -/
theorem exists_heard_of_runningServers {c : Client} {selector : String} {world : World Answer}
    {past : List (Exchange Answer)} {servers : List Server}
    (h : ((c.runningServers selector).run world past).result = .ok servers) :
    ∃ (listing resolving : List Step) (entries : List ServerEntry) (floats : List FloatingEntry),
      requests ((c.runningServers selector).run world past).exchanges =
        (listing ++ resolving).map (fun s => (s.request, s.reply)) ∧
      Heard c selector listing resolving entries floats ∧
      List.Forall₂ (Joined floats) entries servers := by
  obtain ⟨visits, more, hexchanges, hgathering⟩ := run_runningServers c selector world past
  have haccount := hgathering.account hexchanges
  rw [h] at hgathering
  obtain ⟨entries, floats, hlisted, hresolved, hplain, hjoined⟩ := hgathering.joined
  exact ⟨_, _, entries, floats, haccount.requested,
    ⟨haccount.made, hlisted, hresolved, hplain⟩, hjoined⟩

/-- What a client asks to settle the location of a discovery: nothing if the settings name one, and
    else the look at this machine. -/
def settling (path : String) (settings : Settings) : Dialogue Answer (Option String) :=
  (Discovery.effectiveLocation path settings).via (ofSettings settings).answer

/-- A discovery that ends well has settled a location and then listed servers, and tells the
    addresses that are chosen for those in the location. -/
theorem exists_choice_of_addresses {path : String} {settings : Settings} {world : World Answer}
    {past : List (Exchange Answer)} {ips : List Address}
    (h : ((addresses path settings).run world past).result = .ok ips) :
    ∃ (location : Option String) (servers : List Server),
      let look := (settling path settings).run world past
      let listing := ((ofSettings settings).runningServers settings.labelSelector).run world
        (past ++ look.exchanges)
      ((addresses path settings).run world past).exchanges = look.exchanges ++ listing.exchanges ∧
      look.result = .ok location ∧ listing.result = .ok servers ∧
      ips = (Discovery.chooseAll settings.family
        (servers.filter (Discovery.isIn location))).value := by
  have hbind : addresses path settings = settling path settings >>= fun location =>
      (Discovery.addressesIn settings location).via (ofSettings settings).answer := by
    rw [addresses, Discovery.addresses, via_bind]
    rfl
  rw [hbind, run_bind, Transcript.andThen] at h ⊢
  generalize (settling path settings).run world past = look at h ⊢
  cases hlook : look.result with
  | error e =>
    rw [hlook] at h
    cases h
  | ok location =>
    rw [hlook] at h
    obtain ⟨hexchanges, hresult⟩ := run_via_addressesIn (ofSettings settings) settings location
      world (past ++ look.exchanges)
    obtain ⟨servers, hservers, houtcome⟩ := Discovery.outcome_eq_ok (hresult.symm.trans h)
    refine ⟨location, servers, ?_, hlook, hservers, (Except.ok.inj houtcome).symm⟩
    exact congrArg (look.exchanges ++ ·) hexchanges

/-! ## Headline -/

/-- **Every address that is told was offered.**  What a discovery that ends well has asked for last
    are the pages of a listing, and each text that it tells is that of an address which the provider
    offered for the family on these pages.  So it is the text of an address of version six exactly
    if the offered text has a colon, whatever the family; and if all texts that are offered are
    spelled as the version of the family is, then all addresses that are told are of it. -/
theorem addresses_offered {path : String} {settings : Settings} {world : World Answer}
    {past : List (Exchange Answer)} {ips : List Address}
    (h : ((addresses path settings).run world past).result = .ok ips) :
    ∃ (listing resolving : List Step) (entries : List ServerEntry) (floats : List FloatingEntry),
      requests ((addresses path settings).run world past).exchanges =
        requests ((settling path settings).run world past).exchanges ++
          (listing ++ resolving).map (fun s => (s.request, s.reply)) ∧
      Heard (ofSettings settings) settings.labelSelector listing resolving entries floats ∧
      (∀ text ∈ Discovery.texts ips, ∃ e ∈ entries, ∃ offered ip,
        Offers floats e settings.family offered ∧ Address.read? offered = some ip ∧
        text = ip.print ∧ (ip.version = .v6 ↔ ':' ∈ offered.toList)) ∧
      ((∀ e ∈ entries, ∀ offered, Offers floats e settings.family offered →
          (':' ∈ offered.toList ↔ settings.family.version = .v6)) →
        ∀ text ∈ Discovery.texts ips, ∃ ip : Address,
          text = ip.print ∧ ip.version = settings.family.version) := by
  obtain ⟨location, servers, hexchanges, -, hservers, rfl⟩ := exists_choice_of_addresses h
  obtain ⟨listing, resolving, entries, floats, hrequests, hheard, hjoined⟩ :=
    exists_heard_of_runningServers hservers
  have horigin : ∀ text ∈ Discovery.texts (Discovery.chooseAll settings.family
      (servers.filter (Discovery.isIn location))).value, ∃ e ∈ entries, ∃ offered ip,
      Offers floats e settings.family offered ∧ Address.read? offered = some ip ∧
      text = ip.print ∧ (ip.version = .v6 ↔ ':' ∈ offered.toList) := by
    intro text htext
    obtain ⟨ip, hip, rfl⟩ := List.mem_map.1 htext
    obtain ⟨s, hs, place, htakes⟩ := exists_takes_of_mem_chooseAll hip
    obtain ⟨e, he, hjoin⟩ := exists_of_mem_right hjoined (List.mem_filter.1 hs).1
    obtain ⟨offered, hoffers, hread⟩ := offers_of_takes hjoin htakes
    exact ⟨e, he, offered, ip, hoffers, hread, rfl, (Address.colon_mem_iff_of_read? hread).symm⟩
  refine ⟨listing, resolving, entries, floats, ?_, hheard, horigin, ?_⟩
  · rw [hexchanges, requests_append, hrequests]
  · intro hspelled text htext
    obtain ⟨e, he, offered, ip, hoffers, -, htold, hversion⟩ := horigin text htext
    exact ⟨ip, htold, Version.eq_of_v6_iff (hversion.trans (hspelled e he offered hoffers))⟩

/-! ### Each version in the places of the other -/

/-- The address `::1`. -/
def loopbackV6 : Address := .v6 ⟨0, 0, 0, 0, 0, 0, 0, 1⟩

/-- The address `10.0.0.1`. -/
def tenV4 : Address := .v4 ⟨10, 0, 0, 1⟩

/-- A server with an address of the other version at every place of its own, and one with two
    floating addresses that are said to be of the version which they are not. -/
def swappedWorld : World Answer := scripted [
  success ("[[[1,\"\",[[\"x\"]],[[\"::1\",false],[\"10.0.0.1\",false],[]],[[\"::1\"]]]," ++
    "[2,\"\",[[\"x\"]],[null,null,[7,8]],[]]],null]"),
  success "[[[7,\"::1\",\"ipv4\",false],[8,\"10.0.0.1\",\"ipv6\",false]],null]"]

/-- The two servers. -/
def swappedServers : List Server := [
  ⟨1, "", "x", [loopbackV6], some ⟨loopbackV6, false⟩, some ⟨tenV4, false⟩, []⟩,
  ⟨2, "", "x", [], none, none, [⟨loopbackV6, .v4, false⟩, ⟨tenV4, .v6, false⟩]⟩]

theorem run_swappedWorld :
    ((loopback.runningServers "").run swappedWorld []).result = .ok swappedServers := by
  decide +kernel

/-- For every family, all that is told of these servers is of the other version: at none of the
    places is anything kept out. -/
theorem addresses_otherVersion :
    (∀ family, ∃ ip ips,
      ((addresses "hostname" (settingsIn "x" family)).run swappedWorld []).result =
        .ok (ip :: ips) ∧ ∀ ip' ∈ ip :: ips, ip'.version ≠ family.version) ∧
    ¬∀ (path : String) (settings : Settings) (world : World Answer)
      (past : List (Exchange Answer)) (ips : List Address),
      ((addresses path settings).run world past).result = .ok ips →
        ∀ text ∈ Discovery.texts ips, ∃ ip : Address,
          text = ip.print ∧ ip.version = settings.family.version := by
  have hresult (family : Family) := run_addresses_in (s := settingsIn "x" family) "hostname"
    (by rw [ofSettings_settingsIn]; exact run_swappedWorld) "x"
  refine ⟨fun family => ?_, fun hall => ?_⟩
  · cases family with
    | privateV4 => exact ⟨loopbackV6, [], hresult .privateV4, by decide⟩
    | publicV4 => exact ⟨loopbackV6, [loopbackV6], hresult .publicV4, by decide⟩
    | publicV6 => exact ⟨tenV4, [tenV4], hresult .publicV6, by decide⟩
  · obtain ⟨ip, hprint, hversion⟩ :=
      hall "hostname" (settingsIn "x" .privateV4) swappedWorld [] _ (hresult .privateV4) _
        List.mem_cons_self
    rw [← Address.print_injective hprint] at hversion
    cases hversion

/-! ### An address that is told with its network -/

/-- The page of a server in `x` with an address in a private network. -/
def networkReply : Option Reply :=
  success "[[[1,\"\",[[\"x\"]],[null,null,[]],[[\"10.0.0.1/8\"]]]],null]"

/-- What it tells of the server. -/
def networkEntry : ServerEntry := ⟨1, "", "x", none, none, [], ["10.0.0.1/8"]⟩

theorem brings_networkReply : Brings serverPage? networkReply ⟨[networkEntry], none⟩ := by
  apply brings_of_readReply
  decide +kernel

theorem run_networkReply : ((loopback.runningServers "").run (scripted [networkReply]) []).result =
    .ok [⟨1, "", "x", [tenV4], none, none, []⟩] := by
  decide +kernel

theorem result_networkReply :
    ((addresses "hostname" (settingsIn "x" .privateV4)).run (scripted [networkReply]) []).result =
      .ok [tenV4] :=
  run_addresses_in (s := settingsIn "x" .privateV4) "hostname"
    (by rw [ofSettings_settingsIn]; exact run_networkReply) "x"

theorem requests_networkReply : (requests ((loopback.runningServers "").run
    (scripted [networkReply]) []).exchanges).map Prod.snd = [networkReply] := by
  decide +kernel

/-- For this server only the one text is offered. -/
theorem offers_networkEntry {offered : String} (h : Offers [] networkEntry .privateV4 offered) :
    offered = "10.0.0.1/8" := by
  generalize hfamily : Family.privateV4 = family at h
  cases h with
  | network first => exact (Option.some.inj first).symm
  | @attached v => cases v <;> cases hfamily
  | @floating v => cases v <;> cases hfamily

/-- It is told without the network, and it is of version four because the text is. -/
theorem addresses_offered_network :
    ((addresses "hostname" (settingsIn "x" .privateV4)).run (scripted [networkReply]) []).result =
      .ok [tenV4] ∧
    ∀ text ∈ Discovery.texts [tenV4], ∃ ip : Address,
      text = ip.print ∧ ip.version = .v4 := by
  obtain ⟨listing, resolving, entries, floats, hrequests, hheard, -, hall⟩ :=
    addresses_offered result_networkReply
  rw [(run_addresses_of_location "hostname" rfl _ []).1, ofSettings_settingsIn] at hrequests
  have hreplies : (listing ++ resolving).map Step.reply = [networkReply] := by
    have hmapped := congrArg (List.map Prod.snd) hrequests
    rw [List.map_append, List.map_map] at hmapped
    exact hmapped.symm.trans requests_networkReply
  -- there is one request, and the listing has one at least
  obtain ⟨s, hs⟩ := hheard.listed.exists_mem
  obtain rfl : resolving = [] := by
    have hlength := congrArg List.length hreplies
    have hpositive := List.length_pos_of_mem hs
    simp only [List.map_append, List.length_append, List.length_map,
      List.length_singleton] at hlength
    apply List.eq_nil_of_length_eq_zero
    omega
  rw [List.append_nil] at hreplies
  have hlisted : Fetched (.servers "") serverPage? 1
      [localStep [] (.servers "" 1) networkReply] [networkEntry] := .single rfl brings_networkReply
  have hscript : listing.map Step.reply ++ [] = [networkReply] ++ [] := congrArg (· ++ []) hreplies
  obtain rfl := hheard.listed.unique hlisted hscript
  obtain ⟨-, rfl⟩ := hheard.unasked (by decide)
  refine ⟨result_networkReply, hall ?_⟩
  intro e he offered hoffers
  obtain rfl := List.mem_singleton.1 he
  rw [offers_networkEntry hoffers]
  decide

end Client

end Provider

end CloudRoster
