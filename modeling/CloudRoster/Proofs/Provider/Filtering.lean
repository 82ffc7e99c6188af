/-
  A discovery filters what it has fetched, and nothing that it fetches.

  With a location in the settings, what is asked for is settled before a server is looked at: the
  location and the family only pick from the servers that were told.

  1. **Two discoveries** - settings with one token, selector and endpoint ask for the same and fail
     alike, in whatever locations and for whatever families (`run_addresses_of_location`).
  2. **No failure is hidden** - a server with an address that cannot be read fails a discovery in
     any location, because all servers are converted first (`not_ok_of_unreadable`).
  3. **Nothing is lost or told twice** - lists of the servers in different locations, put behind
     each other, are a list of all servers (`flatMap_filter_perm`).

  **Headline** (`addresses_filtered`): the three together.
-/
import CloudRoster.Proofs.Provider.FirstRequest
import CloudRoster.Proofs.Provider.Join

namespace CloudRoster.Provider

open Http Dialogue

/-! ## Lists cut by a key -/

/-- The items with each of the keys, put behind each other, are all items, if no key is there twice
    and each item has one of them. -/
theorem flatMap_filter_perm {α κ : Type} [DecidableEq κ] (key : α → κ) {keys : List κ}
    (hnodup : keys.Nodup) {xs : List α} (hkeys : ∀ x ∈ xs, key x ∈ keys) :
    (keys.flatMap fun k => xs.filter fun x => key x = k).Perm xs := by
  induction keys generalizing xs with
  | nil =>
    have hnil : xs = [] := by
      rw [List.eq_nil_iff_forall_not_mem]
      intro x hx
      exact List.not_mem_nil (hkeys x hx)
    rw [hnil]
    exact .nil
  | cons k keys ih =>
    obtain ⟨hnot, hrest⟩ := List.nodup_cons.1 hnodup
    -- the other keys do not see the items with this one
    have hothers : ∀ k' ∈ keys, (xs.filter fun x => key x = k') =
        (xs.filter fun x => ¬key x = k).filter fun x => key x = k' := by
      intro k' hk'
      rw [List.filter_filter]
      refine List.filter_congr fun x _ => ?_
      by_cases hx : key x = k'
      · have hne : ¬key x = k := by
          rintro rfl
          exact hnot (hx ▸ hk')
        simp [hx]
        exact fun h => hne (hx.trans h)
      · simp [hx]
    have hleft : ∀ x ∈ xs.filter fun x => ¬key x = k, key x ∈ keys := by
      intro x hx
      obtain ⟨hmem, hne⟩ := List.mem_filter.1 hx
      exact (List.mem_cons.1 (hkeys x hmem)).resolve_left (of_decide_eq_true hne)
    have hall : ((xs.filter fun x => key x = k) ++ xs.filter fun x => ¬key x = k).Perm xs := by
      have h := List.filter_append_perm (fun x => decide (key x = k)) xs
      simpa using h
    rw [List.flatMap_cons, List.flatMap_congr hothers]
    exact ((ih hrest hleft).append_left _).trans hall

/-! ## What was fetched -/

/-- An answer brings one thing only. -/
theorem Brings.unique {α : Type} {read : Json → Option α} {reply : Option Reply} {a b : α}
    (ha : Brings read reply a) (hb : Brings read reply b) : a = b := by
  obtain ⟨r, v, rfl, -, hv, hread⟩ := ha
  obtain ⟨r', v', hr', -, hv', hread'⟩ := hb
  obtain rfl := Option.some.inj hr'
  obtain rfl := Option.some.inj (hv.symm.trans hv')
  exact Option.some.inj (hread.symm.trans hread')

/-- The replies settle what is fetched, and with which of them the listing ends. -/
theorem Fetched.unique {α : Type} {inquiry : UInt64 → Inquiry} {read : Json → Option (Page α)}
    {number : UInt64} {steps steps' : List Step} {items items' : List α}
    (h : Fetched inquiry read number steps items) (h' : Fetched inquiry read number steps' items')
    {rest rest' : List (Option Reply)}
    (replies : steps.map Step.reply ++ rest = steps'.map Step.reply ++ rest') : items = items' := by
  induction h generalizing steps' items' with
  | @last number s p asks brings stop =>
    cases h' with
    | last asks' brings' stop' =>
      obtain ⟨hreply, -⟩ := List.cons.inj replies
      rw [← hreply] at brings'
      rw [brings.unique brings']
    | next asks' brings' announced' later' rest' =>
      obtain ⟨hreply, -⟩ := List.cons.inj replies
      rw [← hreply] at brings'
      obtain rfl := brings.unique brings'
      exact absurd later' (UInt64.not_lt.2 (stop _ announced'))
  | @next number next s p steps items asks brings announced later _ ih =>
    cases h' with
    | last asks' brings' stop' =>
      obtain ⟨hreply, -⟩ := List.cons.inj replies
      rw [← hreply] at brings'
      obtain rfl := brings.unique brings'
      exact absurd later (UInt64.not_lt.2 (stop' _ announced))
    | next asks' brings' announced' later' hmore =>
      obtain ⟨hreply, hreplies⟩ := List.cons.inj replies
      rw [← hreply] at brings'
      obtain rfl := brings.unique brings'
      obtain rfl := Option.some.inj (announced.symm.trans announced')
      rw [ih hmore hreplies]

/-- All texts of an entry that a server is made of are addresses. -/
theorem Joined.readable {floats : List FloatingEntry} {e : ServerEntry} {s : Server}
    (h : Joined floats e s) : ∀ text ∈ e.texts, isUnreadable text = false := by
  have hpublic {e : Option PublicEntry} {a : Option PublicAddress} (h : Option.Rel Spelled e a) :
      ∀ text ∈ e.toList.map PublicEntry.ip, isUnreadable text = false := by
    cases h with
    | none => exact List.forall_mem_nil _
    | some hspelled =>
      refine List.forall_mem_singleton.2 ?_
      rw [isUnreadable, hspelled.reads]
      rfl
  intro text htext
  rcases List.mem_append.1 htext with hprivate | htext
  · obtain ⟨ip, -, hread⟩ := exists_of_mem_left h.privateAddresses hprivate
    rw [isUnreadable, hread]
    rfl
  · rcases List.mem_append.1 htext with hv4 | hv6
    · exact hpublic h.publicV4 text hv4
    · exact hpublic h.publicV6 text hv6

/-- Two settings that are asked for in one way: they differ in location and family at most. -/
structure AskedAlike (s s' : Settings) : Prop where
  apiToken : s.apiToken = s'.apiToken
  labelSelector : s.labelSelector = s'.labelSelector
  endpoint : s.endpoint = s'.endpoint

namespace Client

/-- Servers are not told if one of them has an address that cannot be read. -/
theorem not_ok_of_unreadable {c : Client} {selector : String} {world : World Answer}
    {past : List (Exchange Answer)} {listing : List Step} {entries : List ServerEntry}
    {rest : List (Option Reply)}
    (replies : (requests ((c.runningServers selector).run world past).exchanges).map Prod.snd =
      listing.map Step.reply ++ rest)
    (listed : Fetched (.servers selector) serverPage? 1 listing entries)
    (unreadable : ∃ e ∈ entries, ∃ text ∈ e.texts, isUnreadable text = true)
    (servers : List Server) :
    ((c.runningServers selector).run world past).result ≠ .ok servers := by
  intro hresult
  obtain ⟨visits, more, hexchanges, hgathering⟩ := run_runningServers c selector world past
  have haccount := hgathering.account hexchanges
  rw [hresult] at hgathering
  obtain ⟨entries', floats, hlisted, -, -, hjoined⟩ := hgathering.joined
  have hreplies := replies
  rw [haccount.requested, List.map_map, List.map_append] at hreplies
  obtain rfl := hlisted.unique listed hreplies
  obtain ⟨e, he, text, htext, hunreadable⟩ := unreadable
  obtain ⟨s, -, hs⟩ := exists_of_mem_left hjoined he
  rw [hs.readable text htext] at hunreadable
  cases hunreadable

/-! ## Headline -/

/-- What a discovery in a location tells of the servers that were listed. -/
theorem run_addresses_in {s : Settings} {servers : List Server} (path : String)
    {world : World Answer} {past : List (Exchange Answer)}
    (h : (((ofSettings s).runningServers s.labelSelector).run world past).result = .ok servers)
    (location : String) :
    ((addresses path { s with location := some location }).run world past).result =
      .ok ((servers.filter fun x => x.location = location).filterMap fun x =>
        (Choice.address x s.family).value) := by
  have hresult :=
    (run_addresses_of_location (s := { s with location := some location }) path rfl world past).2
  have hlisting : ((ofSettings { s with location := some location }).runningServers
      s.labelSelector).run world past =
        ((ofSettings s).runningServers s.labelSelector).run world past := rfl
  rw [hresult, hlisting, h]
  simp only [Discovery.outcome, Except.map, Discovery.chooseAll, List.filterMap_map]
  rfl

/-- **A discovery filters what it has fetched.**  In order: two discoveries in locations, with
    settings that differ in location and family at most, ask for the same and fail alike; a server
    with an address that cannot be read fails both, wherever it is; and if the servers are listed,
    then what is told in different locations that are those of all servers is, taken together, what
    is to be told of all servers. -/
theorem addresses_filtered {s s' : Settings} {location location' : String} (path path' : String)
    (alike : AskedAlike s s') (located : s.location = some location)
    (located' : s'.location = some location') (world : World Answer)
    (past : List (Exchange Answer)) :
    let t := (addresses path s).run world past
    let t' := (addresses path' s').run world past
    (t.exchanges = t'.exchanges ∧ ∀ e, t.result = .error e ↔ t'.result = .error e) ∧
    (∀ (listing : List Step) (entries : List ServerEntry) (rest : List (Option Reply)),
      (requests t.exchanges).map Prod.snd = listing.map Step.reply ++ rest →
      Fetched (.servers s.labelSelector) serverPage? 1 listing entries →
      (∃ e ∈ entries, ∃ text ∈ e.texts, isUnreadable text = true) →
      ∃ e, t.result = .error e ∧ t'.result = .error e) ∧
    ∀ servers : List Server,
      (((ofSettings s).runningServers s.labelSelector).run world past).result = .ok servers →
      ∀ locations : List String, locations.Nodup → (∀ x ∈ servers, x.location ∈ locations) →
        ∃ told : List (List Address),
          List.Forall₂ (fun location ips =>
            ((addresses path { s with location := some location }).run world past).result = .ok ips)
            locations told ∧
          told.flatten.Perm (servers.filterMap fun x => (Choice.address x s.family).value) := by
  intro t t'
  obtain ⟨hexchanges, hresult⟩ := run_addresses_of_location path located world past
  obtain ⟨hexchanges', hresult'⟩ := run_addresses_of_location path' located' world past
  have hclient : ofSettings s' = ofSettings s := by
    rw [ofSettings, ofSettings, alike.endpoint, alike.apiToken]
  rw [hclient, ← alike.labelSelector] at hexchanges' hresult'
  have herror : ∀ e, t.result = .error e ↔ t'.result = .error e := by
    intro e
    rw [hresult, hresult', Discovery.outcome_eq_error_iff, Discovery.outcome_eq_error_iff]
  refine ⟨⟨hexchanges.trans hexchanges'.symm, herror⟩, ?_, ?_⟩
  · intro listing entries rest replies listed unreadable
    have hreplies := replies
    rw [hexchanges] at hreplies
    cases hlisting : (((ofSettings s).runningServers s.labelSelector).run world past).result with
    | ok servers => exact absurd hlisting (not_ok_of_unreadable hreplies listed unreadable servers)
    | error e =>
      have htold : t.result = .error e :=
        hresult.trans (Discovery.outcome_eq_error_iff.2 hlisting)
      exact ⟨e, htold, (herror e).1 htold⟩
  · intro servers hservers locations hnodup hlocations
    let told (location : String) : List Address :=
      (servers.filter fun x => x.location = location).filterMap fun x =>
        (Choice.address x s.family).value
    refine ⟨locations.map told, ?_, ?_⟩
    · rw [List.forall₂_map_right_iff]
      exact List.forall₂_same.2 fun location _ => run_addresses_in path hservers location
    · have hperm := (flatMap_filter_perm Server.location hnodup hlocations).filterMap
        fun x => (Choice.address x s.family).value
      rw [List.filterMap_flatMap] at hperm
      rw [← List.flatMap_def]
      exact hperm

/-- Settings for a family in a location. -/
def settingsIn (location : String) (family : Family) : Settings :=
  ⟨"t", some location, "", family, "http://[::1]"⟩

theorem ofSettings_settingsIn (location : String) (family : Family) :
    ofSettings (settingsIn location family) = loopback := by
  have hendpoint : String.ofList (Text.stripEnd (· == '/') "http://[::1]".toList) =
      "http://[::1]" := by
    decide
  rw [ofSettings, settingsIn, hendpoint]
  rfl

/-- Two servers with one address, in two places. -/
def placedServers : List Server := [
  ⟨1, "", "x", [.v6 ⟨0, 0, 0, 0, 0, 0, 0, 1⟩], none, none, []⟩,
  ⟨2, "", "y", [.v6 ⟨0, 0, 0, 0, 0, 0, 0, 1⟩], none, none, []⟩]

/-- The page that lists them. -/
def placedWorld : World Answer := scripted [success (
  "[[[1,\"\",[[\"x\"]],[null,null,[]],[[\"::1\"]]]," ++
    "[2,\"\",[[\"y\"]],[null,null,[]],[[\"::1\"]]]],null]")]

theorem run_placedWorld :
    ((loopback.runningServers "").run placedWorld []).result = .ok placedServers := by
  decide +kernel

/-- The page of a server in `x` whose private address is none. -/
def unreadableReply : Option Reply :=
  success "[[[1,\"\",[[\"x\"]],[null,null,[]],[[\"-\"]]]],null]"

theorem brings_unreadableReply :
    Brings serverPage? unreadableReply ⟨[⟨1, "", "x", none, none, [], ["-"]⟩], none⟩ := by
  apply brings_of_readReply
  decide +kernel

theorem run_unreadableReply : (requests ((loopback.runningServers "").run
    (scripted [unreadableReply]) []).exchanges).map Prod.snd = [unreadableReply] := by
  decide +kernel

/-- The address is told once in each place, so it is told twice, as it is without a location; and
    what cannot be read in `x` fails a discovery in `y`. -/
theorem addresses_filtered_placed :
    let s := settingsIn "y" .privateV4
    let s' := settingsIn "z" .publicV6
    (AskedAlike s s' ∧ ((addresses "hostname" s).run placedWorld []).exchanges =
      ((addresses "hostname" s').run placedWorld []).exchanges) ∧
    (∃ e, ((addresses "hostname" s).run (scripted [unreadableReply]) []).result = .error e) ∧
    ∃ told : List (List Address),
      List.Forall₂ (fun location ips => ((addresses "hostname"
        (settingsIn location .privateV4)).run placedWorld []).result = .ok ips) ["y", "x"] told ∧
      told.flatten.Perm
        [.v6 ⟨0, 0, 0, 0, 0, 0, 0, 1⟩, .v6 ⟨0, 0, 0, 0, 0, 0, 0, 1⟩] := by
  intro s s'
  have hclient : ofSettings s = loopback := ofSettings_settingsIn "y" .privateV4
  have alike : AskedAlike s s' := ⟨rfl, rfl, rfl⟩
  obtain ⟨⟨hsame, -⟩, -, hall⟩ :=
    addresses_filtered "hostname" "hostname" alike rfl rfl placedWorld []
  obtain ⟨-, hfails, -⟩ :=
    addresses_filtered "hostname" "hostname" alike rfl rfl (scripted [unreadableReply]) []
  have hservers : (((ofSettings s).runningServers "").run placedWorld []).result =
      .ok placedServers := by
    rw [hclient]
    exact run_placedWorld
  have hreplies : (requests ((addresses "hostname" s).run
      (scripted [unreadableReply]) []).exchanges).map Prod.snd = [unreadableReply] := by
    rw [(run_addresses_of_location "hostname" rfl _ []).1, hclient]
    exact run_unreadableReply
  obtain ⟨e, he, -⟩ := hfails [localStep [] (.servers "" 1) unreadableReply] _ [] hreplies
    (.single rfl brings_unreadableReply) ⟨_, List.mem_cons_self, "-", List.mem_cons_self, by decide⟩
  exact ⟨⟨alike, hsame⟩, ⟨e, he⟩, hall placedServers hservers ["y", "x"] (by decide) (by decide)⟩

end Client

end CloudRoster.Provider
