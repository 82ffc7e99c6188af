/-
  A lookup takes the first server that is listed.

  An inventory is asked for the server with a name.  One that holds its servers compares their
  names; a client writes the name into its request and leaves it to the provider which servers have
  it.  The names in the answer are not looked at, nor is a next page.

  1. **The answer** - the servers on the page are converted without floating addresses
     (`exists_joined_of_readable`).
  2. **The contract** - the first server is the first one with the name exactly if it has the name
     (`head?_eq_find?_iff`).

  **Headline** (`serverNamed_first`): so a lookup agrees with the contract exactly as long as the
  first server that is listed, if there is one, has the name; and this machine adopts the location
  of that server in any case.  It need not have the name (`serverNamed_otherName`).
-/
import CloudRoster.Proofs.Provider.Filtering

namespace CloudRoster.Provider

open Http Dialogue Text

/-! ## Servers without floating addresses -/

/-- Where no floating address is listed, numbers lead nowhere. -/
theorem Resolves.eq_nil {ids : List UInt64} {as : List FloatingAddress} (h : Resolves [] ids as) :
    as = [] := by
  induction h with
  | done => rfl
  | listed last => exact absurd last.mem.1 List.not_mem_nil
  | unlisted _ _ ih => exact ih

/-- If all texts of the entries are addresses, the entries are converted. -/
theorem exists_joined_of_readable {entries : List ServerEntry}
    (readable : ∀ e ∈ entries, ∀ text ∈ e.texts, isUnreadable text = false) :
    ∃ servers, entries.mapM (ServerEntry.toServer []) = .ok servers ∧
      List.Forall₂ (Joined []) entries servers ∧ ∀ s ∈ servers, s.floating = [] := by
  cases converts_servers [] entries with
  | @success servers value =>
    have hjoined : List.Forall₂ (Joined []) entries servers := joined_of_mapM rfl value
    refine ⟨servers, value, hjoined, fun s hs => ?_⟩
    obtain ⟨e, -, hjoin⟩ := exists_of_mem_right hjoined hs
    exact hjoin.floating.eq_nil
  | @refusal text _ first =>
    obtain ⟨e, he, htext⟩ := List.mem_flatMap.1 (List.mem_of_find?_eq_some first)
    have hunreadable : isUnreadable text = true := List.find?_some first
    exact nomatch (readable e he text htext).symm.trans hunreadable

/-! ## The contract -/

/-- The first item is the first that satisfies a condition exactly if it satisfies it. -/
theorem head?_eq_find?_iff {α : Type} {p : α → Bool} {xs : List α} :
    xs.head? = xs.find? p ↔ ∀ x, xs.head? = some x → p x = true := by
  constructor
  · intro h x hx
    exact List.find?_some (h.symm.trans hx)
  · intro h
    cases xs with
    | nil => rfl
    | cons x xs => rw [List.head?_cons, List.find?_cons_of_pos (h x rfl)]

namespace Client

/-! ## Headline -/

/-- **A lookup takes the first server that is listed.**  When the answer is a page of servers whose
    addresses can be read, nothing else is asked, and the result is the first server on the page
    without floating addresses, or none if the page is empty.  An inventory that holds the servers
    of the page gives the same answer exactly if the first one, should there be one, has the name.
    And a machine whose hostname this is adopts the location of the first one. -/
theorem serverNamed_first {c : Client} {name : String} {r : Request}
    (made : c.request? (.lookup name) = .ok r) (world : World Answer)
    (past : List (Exchange Answer)) {page : Page ServerEntry}
    (brings : Brings serverPage? (world past (.request r)) page)
    (readable : ∀ e ∈ page.items, ∀ text ∈ e.texts, isUnreadable text = false) :
    let t := (c.serverNamed name).run world past
    ∃ servers, List.Forall₂ (Joined []) page.items servers ∧ (∀ s ∈ servers, s.floating = []) ∧
      t.exchanges = [⟨.request r, world past (.request r)⟩] ∧
      t.result = .ok servers.head? ∧
      (t.result = (Discovery.Inventory.ofServers servers).serverNamed name ↔
        ∀ s, servers.head? = some s → s.name = name) ∧
      ∀ (path content : String) (before : List (Exchange Answer)),
        past = before ++ [⟨.hostname, world before .hostname⟩] →
        (world before .hostname).text = .ok content → trim content = name → name ≠ "" →
        (((Discovery.ownLocation path).via c.answer).run world before).result =
          .ok (servers.head?.map Server.location) := by
  intro t
  obtain ⟨servers, hmapM, hjoined, hfloating⟩ := exists_joined_of_readable readable
  have hhead : page.items.head?.mapM (ServerEntry.toServer []) = .ok servers.head? := by
    have hall := mapM_eq_ok_iff.1 hmapM
    generalize page.items = entries at hall
    cases hall with
    | nil => rfl
    | cons hentry _ =>
      rw [List.head?_cons, List.head?_cons, Option.mapM_some, hentry]
      rfl
  have ht : t = ⟨.ok servers.head?, [⟨.request r, world past (.request r)⟩], []⟩ := by
    show (c.serverNamed name).run world past = _
    rw [run_serverNamed world past made brings, hhead]
    rfl
  have hcontract : t.result = (Discovery.Inventory.ofServers servers).serverNamed name ↔
      ∀ s, servers.head? = some s → s.name = name := by
    rw [ht]
    show Except.ok servers.head? = Except.ok (servers.find? fun s => s.name = name) ↔ _
    rw [Except.ok.injEq, head?_eq_find?_iff]
    simp only [decide_eq_true_eq]
  refine ⟨servers, hjoined, hfloating, by rw [ht], by rw [ht], hcontract, ?_⟩
  rintro path content before rfl htext rfl hname
  obtain ⟨-, hresult⟩ := run_via_ownLocation_named c path htext hname
  rw [hresult, show (c.serverNamed (trim content)).run world _ = _ from ht]
  rfl

/-! ### A machine that is called `web` -/

/-- The machine's hostname is `web`, and every request has this answer. -/
def webWorld (reply : Option Reply) : World Answer
  | _, .hostname => .octets (utf8 "web\n")
  | _, .request _ => reply

/-- The look at the hostname file. -/
def webLook (reply : Option Reply) : Exchange Answer :=
  ⟨.hostname, webWorld reply [] .hostname⟩

theorem request?_web : loopback.request? (.lookup "web") =
    .ok ⟨inquiryUrl localAuthority [] (.lookup "web"), "t"⟩ := by
  decide +kernel

/-- A page that names another one.  Its first server is called `web` and refers to a floating
    address; the second is called `db`. -/
def webFirstReply : Option Reply :=
  success ("[[[1,\"web\",[[\"x\"]],[null,null,[7]],[[\"10.0.0.1\"]]]," ++
    "[2,\"db\",[[\"y\"]],[null,null,[]],[]]],[[5]]]")

theorem brings_webFirstReply : Brings serverPage? webFirstReply
    ⟨[⟨1, "web", "x", none, none, [7], ["10.0.0.1"]⟩, ⟨2, "db", "y", none, none, [], []⟩],
      some 5⟩ := by
  apply brings_of_readReply
  decide +kernel

/-- The first server is taken and has the name, so its location is the right one to adopt. -/
theorem serverNamed_first_web :
    let t := (loopback.serverNamed "web").run (webWorld webFirstReply) [webLook webFirstReply]
    t.exchanges.length = 1 ∧
    (∃ s, t.result = .ok (some s) ∧ s.id = 1 ∧ s.name = "web" ∧ s.floating = []) ∧
    (((Discovery.ownLocation "hostname").via loopback.answer).run (webWorld webFirstReply)
      []).result = .ok (some "x") := by
  intro t
  obtain ⟨servers, hjoined, hfloating, hexchanges, hresult, -, hadopt⟩ :=
    serverNamed_first request?_web (webWorld webFirstReply) [webLook webFirstReply]
      brings_webFirstReply (by decide)
  have hlocation := hadopt "hostname" "web\n" [] rfl (by decide) (by decide) (by decide)
  cases hjoined with
  | cons hweb _ =>
    refine ⟨by rw [hexchanges]; rfl, ?_, ?_⟩
    · exact ⟨_, hresult, hweb.id, hweb.name, hfloating _ List.mem_cons_self⟩
    · rw [hlocation, List.head?_cons, Option.map_some, hweb.location]

/-- A page with one server, which is called `db`. -/
def otherReply : Option Reply := success "[[[2,\"db\",[[\"y\"]],[null,null,[]],[]]],null]"

/-- That server. -/
def otherServer : Server := ⟨2, "db", "y", [], none, none, []⟩

/-- A server with another name is taken for this machine, and its location adopted, where an
    inventory that holds it knows of no such server. -/
theorem serverNamed_otherName :
    ((loopback.serverNamed "web").run (webWorld otherReply) []).result = .ok (some otherServer) ∧
    (Discovery.Inventory.ofServers [otherServer]).serverNamed "web" = .ok none ∧
    (((Discovery.ownLocation "hostname").via loopback.answer).run (webWorld otherReply) []).result =
      .ok (some "y") := by
  refine ⟨?_, ?_, ?_⟩
  · decide +kernel
  · decide +kernel
  · decide +kernel

end Client

end CloudRoster.Provider
