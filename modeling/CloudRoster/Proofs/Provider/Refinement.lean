/-
  A discovery over HTTP is a discovery over the provider's own lists.

  The provider holds machines and floating addresses (`Project`).  A discovery could be played
  against these lists themselves, or against a server that tells of them page by page in JSON
  documents.  If the server tells the truth, it makes no difference.

  1. **The truth** - `Delivers`, `Serves`, `Faithful`: which replies tell of a project.  How the
     lists are cut into pages (`Paging`), how the documents are written and what else they hold is
     left to the server, and may change from one request to the next.
  2. **Listings** - `run_list_of_serves`: all pages together are read as entries of the whole list,
     by induction on the pages that are left.
  3. **Answers** - each question that a discovery asks is answered out of the project
     (`run_answer`), with one difference: the machine that the discovery runs on comes without its
     floating addresses, which nobody looks at (`run_addresses_congr`).

  **Headline** (`addresses_refines`): result and log are the same.  The one thing that can come
  between is a URL that is too long for a request.
-/
import CloudRoster.Proofs.Discovery.Course
import CloudRoster.Proofs.Provider.Paging
import CloudRoster.Proofs.Provider.Telling

namespace CloudRoster.Provider

open Http Dialogue Text

variable {α β γ : Type}

/-! ## Projects -/

/-- What the provider holds. -/
structure Project where
  machines : List Machine
  floating : FloatingTable
  distinct : (floating.map Prod.fst).Nodup

namespace Project

/-- The server that a machine of the project is. -/
def server (p : Project) (m : Machine) : Server := m.server fun id => p.floating.lookup id

/-- The servers of the project. -/
def servers (p : Project) : List Server := p.machines.map p.server

end Project

/-- A list, cut into pages. -/
structure Paging (xs : List α) where
  pages : List (List α)
  flatten_eq : pages.flatten = xs
  ne_nil : pages ≠ []
  length_lt : pages.length < 2 ^ 64

/-- The number of the page at a place, from one on. -/
def pageNumber (k : Nat) : UInt64 := UInt64.ofNat (k + 1)

/-- The number of the page behind the one at a place, if there is one. -/
def Paging.next {xs : List α} (g : Paging xs) (k : Nat) : Option UInt64 :=
  if k + 1 < g.pages.length then some (pageNumber (k + 1)) else none

/-! ## Replies that tell the truth -/

namespace Client

/-- The world answers a listing with the pages of a list. -/
def Serves (c : Client) (world : World Answer) (l : Listing β) (R : α → Json → Prop)
    {xs : List α} (g : Paging xs) : Prop :=
  ∀ k page, g.pages[k]? = some page → ∀ r, c.ask l (pageNumber k) = .ok r → ∀ past,
    Delivers (DescribesPage l.key R page (g.next k)) (world past (.request r))

/-! ## Listings -/

theorem pageNumber_lt {k : Nat} (h : k + 2 < 2 ^ 64) : pageNumber k < pageNumber (k + 1) := by
  rw [UInt64.lt_iff_toNat_lt, pageNumber, pageNumber, UInt64.toNat_ofNat', UInt64.toNat_ofNat']
  omega

theorem run_listFrom_of_serves {c : Client} {world : World Answer} {l : Listing β}
    {R : α → Json → Prop} {S : α → β → Prop} {xs : List α} {g : Paging xs}
    (hserves : c.Serves world l R g)
    (hmade : ∀ k < g.pages.length, ∃ r, c.ask l (pageNumber k) = .ok r)
    (hread : ∀ a v, R a v → ∃ b, l.item v = some b ∧ S a b) (k : Nat) (hk : k < g.pages.length)
    (past : List (Exchange Answer)) :
    ∃ bs xs, (c.listFrom l (pageNumber k)).run world past = ⟨.ok bs, xs, []⟩ ∧
      List.Forall₂ S (g.pages.drop k).flatten bs := by
  obtain ⟨r, hr⟩ := hmade k hk
  have hpage : g.pages[k]? = some g.pages[k] := List.getElem?_eq_getElem hk
  obtain ⟨p, hp, bs, rfl, hbs⟩ := readReply_of_delivers
    (S := fun p => ∃ bs, p = ⟨bs, g.next k⟩ ∧ List.Forall₂ S g.pages[k] bs) l.path l.readPage
    (hserves k _ hpage r hr past) fun v hv => by
      obtain ⟨bs, hbs, hrel⟩ := page?_of_describes hread hv
      exact ⟨_, hbs, bs, rfl, hrel⟩
  have hbrings : Brings l.readPage (world past (.request r)) ⟨bs, g.next k⟩ :=
    readReply_eq_ok_iff.1 hp
  rw [List.drop_eq_getElem_cons hk, List.flatten_cons]
  by_cases hlast : k + 1 < g.pages.length
  · have hsmall : k + 2 < 2 ^ 64 := by
      have hlength := g.length_lt
      omega
    have hnext : g.next k = some (pageNumber (k + 1)) := if_pos hlast
    have hlater : Page.later ⟨bs, g.next k⟩ (pageNumber k) = some (pageNumber (k + 1)) :=
      Page.later_eq_some.2 ⟨hnext, pageNumber_lt hsmall⟩
    obtain ⟨cs, ys, hrest, hcs⟩ := run_listFrom_of_serves hserves hmade hread (k + 1) hlast
      (past ++ [⟨.request r, world past (.request r)⟩])
    refine ⟨bs ++ cs, ⟨.request r, world past (.request r)⟩ :: ys, ?_,
      List.rel_append hbs hcs⟩
    rw [run_listFrom_next hr hbrings hlater]
    simp only [hrest]
    rfl
  · have hnext : g.next k = none := if_neg hlast
    have hlater : Page.later ⟨bs, g.next k⟩ (pageNumber k) = none := by
      rw [hnext]
      rfl
    have hdone : g.pages.drop (k + 1) = [] := List.drop_of_length_le (by omega)
    refine ⟨bs, _, run_listFrom_last hr hbrings hlater, ?_⟩
    rw [hdone, List.flatten_nil, List.append_nil]
    exact hbs
termination_by g.pages.length - k

/-- A listing whose pages are served is read as entries of the whole list. -/
theorem run_list_of_serves {c : Client} {world : World Answer} {l : Listing β}
    {R : α → Json → Prop} {S : α → β → Prop} {xs : List α} {g : Paging xs}
    (hserves : c.Serves world l R g)
    (hmade : ∀ k < g.pages.length, ∃ r, c.ask l (pageNumber k) = .ok r)
    (hread : ∀ a v, R a v → ∃ b, l.item v = some b ∧ S a b) (past : List (Exchange Answer)) :
    ∃ bs ys, (c.list l).run world past = ⟨.ok bs, ys, []⟩ ∧ List.Forall₂ S xs bs := by
  obtain ⟨bs, ys, hrun, hrel⟩ := run_listFrom_of_serves hserves hmade hread 0
    (List.length_pos_iff.2 g.ne_nil) past
  rw [List.drop_zero, g.flatten_eq] at hrel
  exact ⟨bs, ys, hrun, hrel⟩

/-! ## Answers -/

end Client

/-- Where every number is listed once, the last address of a number is the first. -/
theorem FloatingTable.find?_eq_lookup {table : FloatingTable}
    (h : (table.map Prod.fst).Nodup) (id : UInt64) : table.find? id = table.lookup id := by
  induction table with
  | nil => rfl
  | cons f table ih =>
    obtain ⟨hnot, hrest⟩ := List.nodup_cons.1 h
    rw [find?_cons, ih hrest, List.lookup_cons]
    by_cases hid : id = f.1
    · -- what stands behind the first entry has another number
      have hnone : table.lookup id = none := lookup_eq_none_iff_notMem.2 (hid ▸ hnot)
      rw [hnone, if_pos hid, hid, beq_self_eq_true]
      rfl
    · rw [if_neg hid, beq_false_of_ne hid, Option.or_none]

/-- A machine that refers to no floating address has none, wherever numbers lead. -/
theorem Machine.server_congr {m : Machine} (h : m.floatingIds = [])
    (find find' : UInt64 → Option FloatingAddress) : m.server find = m.server find' := by
  rw [Machine.server, Machine.server, h]
  rfl

/-- The replies tell of a project, and the hostname file is as it is. -/
structure Faithful (c : Client) (p : Project) (selector : String) (host : FileContent)
    (machinePages : Paging p.machines) (floatingPages : Paging p.floating)
    (world : World Answer) : Prop where
  hostname : ∀ past, world past .hostname = host
  /-- The lookup of a name delivers the machines with this name; whether the reply announces a page
      does not matter. -/
  lookup : ∀ content, host.text = .ok content → ∀ r,
    Request.make (c.endpoint ++ "/servers") c.token [("name", trim content)] = .ok r → ∀ past,
    Delivers (fun v => ∃ next, DescribesPage "servers" DescribesMachine
      (p.machines.filter fun m => m.name = trim content) next v) (world past (.request r))
  machines : c.Serves world (Client.serverListing selector) DescribesMachine machinePages
  floating : c.Serves world Client.floatingListing DescribesFloating floatingPages

/-- No URL that a discovery needs is too long. -/
structure Within (c : Client) (p : Project) (s : Settings) (host : FileContent)
    (machinePages : Paging p.machines) (floatingPages : Paging p.floating) : Prop where
  lookup : s.location = none → ∀ content, host.text = .ok content → trim content ≠ "" →
    c.Fits "/servers" [("name", trim content)]
  machines : ∀ k < machinePages.pages.length,
    c.Fits "/servers" ((Client.serverListing s.labelSelector).query (pageNumber k))
  floating : ∀ k < floatingPages.pages.length,
    c.Fits "/floating_ips" (Client.floatingListing.query (pageNumber k))

namespace Client

section

variable {c : Client} {p : Project} {s : Settings} {host : FileContent}
  {machinePages : Paging p.machines} {floatingPages : Paging p.floating} {world : World Answer}

theorem run_serverNamed_of_faithful {selector : String}
    (h : Faithful c p selector host machinePages floatingPages world) {content : String}
    (hcontent : host.text = .ok content) {r : Request}
    (hr : Request.make (c.endpoint ++ "/servers") c.token [("name", trim content)] = .ok r)
    (past : List (Exchange Answer)) :
    ∃ ys, (c.serverNamed (trim content)).run world past =
      ⟨.ok ((p.machines.find? fun m => m.name = trim content).map
        fun m => m.server (FloatingTable.find? [])), ys, []⟩ := by
  obtain ⟨page, hpage, hrel⟩ := readReply_of_delivers
    (S := fun page => List.Forall₂ EntryOf
      (p.machines.filter fun m => m.name = trim content) page.items) "/servers" serverPage?
    (h.lookup content hcontent r hr past) fun v ⟨next, hv⟩ => by
      obtain ⟨es, hes, hrel⟩ := page?_of_describes (fun _ _ h => serverEntry?_of_describes h) hv
      exact ⟨_, hes, hrel⟩
  have hhead : page.items.head?.mapM (ServerEntry.toServer []) =
      .ok ((p.machines.find? fun m => m.name = trim content).map
        fun m => m.server (FloatingTable.find? [])) := by
    rw [← List.head?_filter]
    generalize p.machines.filter _ = ms at hrel ⊢
    generalize page.items = es at hrel ⊢
    cases hrel with
    | nil => rfl
    | cons hentry _ =>
      rw [List.head?_cons, List.head?_cons, Option.mapM_some, toServer_of_entryOf hentry]
      rfl
  refine ⟨[⟨.request r, world past (.request r)⟩], ?_⟩
  rw [run_serverNamed world past hr (readReply_eq_ok_iff.1 hpage), hhead]
  rfl

theorem mapM_toServer {ms : List Machine} {es : List ServerEntry}
    (h : List.Forall₂ EntryOf ms es) (table : FloatingTable) :
    es.mapM (ServerEntry.toServer table) = .ok (ms.map fun m => m.server table.find?) := by
  rw [mapM_eq_ok_iff, List.forall₂_map_right_iff]
  exact List.Forall₂.flip (h.imp fun _ _ he => toServer_of_entryOf he table)

theorem tableOf_of_forall₂ {table : FloatingTable} {es : List FloatingEntry}
    (h : List.Forall₂ FloatingEntryOf table es) : tableOf es = .ok table := by
  rw [tableOf, mapM_eq_ok_iff]
  exact List.Forall₂.flip (h.imp fun _ _ => toAddress_of_floatingEntryOf)

/-- Entries refer to the numbers that their machines refer to. -/
theorem floatingIds_of_forall₂ {ms : List Machine} {es : List ServerEntry}
    (h : List.Forall₂ EntryOf ms es) (hall : (es.all fun e => e.floatingIds.isEmpty) = true) :
    ∀ m ∈ ms, m.floatingIds = [] := by
  induction h with
  | nil =>
    intro _ hm
    exact absurd hm List.not_mem_nil
  | @cons m e ms es he _ ih =>
    rw [List.all_cons, Bool.and_eq_true] at hall
    refine List.forall_mem_cons.2 ⟨?_, ih hall.2⟩
    rw [← he.floatingIds]
    exact List.isEmpty_iff.1 hall.1

/-- The table that servers are looked up in gives each machine the addresses of the project. -/
theorem run_floatingTable_of_faithful (canFloating : c.CanAsk "/floating_ips") {selector : String}
    (h : Faithful c p selector host machinePages floatingPages world)
    (fits : ∀ k < floatingPages.pages.length,
      c.Fits "/floating_ips" (floatingListing.query (pageNumber k)))
    {es : List ServerEntry} (hes : List.Forall₂ EntryOf p.machines es)
    (past : List (Exchange Answer)) :
    ∃ table ys, (c.floatingTable es).run world past = ⟨.ok table, ys, []⟩ ∧
      p.machines.map (fun m => m.server table.find?) = p.servers := by
  rw [floatingTable]
  split
  · next hall =>
    refine ⟨[], [], rfl, List.map_congr_left fun m hm => ?_⟩
    exact Machine.server_congr (floatingIds_of_forall₂ hes hall m hm) _ _
  · obtain ⟨fes, ys, hrun, hfes⟩ := run_list_of_serves h.floating
      (fun k hk => exists_make_of_fits canFloating (fits k hk))
      (fun _ _ => floatingEntry?_of_describes) past
    refine ⟨p.floating, ys, ?_, List.map_congr_left fun m _ => ?_⟩
    · rw [run_bind, hrun]
      simp only [Transcript.andThen, accept, run_orFail, tableOf_of_forall₂ hfes,
        Except.mapError, List.append_nil]
    · exact congrArg m.server (funext (FloatingTable.find?_eq_lookup p.distinct))

theorem run_runningServers_of_faithful (can : c.CanAsk "/servers")
    (canFloating : c.CanAsk "/floating_ips")
    (h : Faithful c p s.labelSelector host machinePages floatingPages world)
    (fits : Within c p s host machinePages floatingPages) (past : List (Exchange Answer)) :
    ∃ ys, (c.runningServers s.labelSelector).run world past = ⟨.ok p.servers, ys, []⟩ := by
  obtain ⟨es, ys, hrun, hes⟩ := run_list_of_serves h.machines
    (fun k hk => exists_make_of_fits can (fits.machines k hk))
    (fun _ _ => serverEntry?_of_describes) past
  obtain ⟨table, zs, htable, hservers⟩ := run_floatingTable_of_faithful canFloating h fits.floating
    hes (past ++ ys)
  refine ⟨ys ++ zs, ?_⟩
  rw [runningServers, run_bind, hrun]
  simp only [Transcript.andThen, run_bind, htable, accept, run_orFail, mapM_toServer hes,
    Except.mapError, hservers, List.append_nil]

end

/-! ## Headline: the same result and the same log -/

/-- What the requests of a discovery answer to its questions. -/
def told (p : Project) (host : FileContent) : (q : Discovery.Question) → Discovery.Answer q
  | .hostname => host
  | .serverNamed name =>
    .ok ((p.machines.find? fun m => m.name = name).map fun m => m.server (FloatingTable.find? []))
  | .runningServers _ => .ok p.servers

/-- The server that is told of is the one in the inventory, apart from its addresses. -/
theorem sameMachine_told (p : Project) (name : String) :
    Option.Rel Discovery.SameMachine
      ((p.machines.find? fun m => m.name = name).map fun m => m.server (FloatingTable.find? []))
      (p.servers.find? fun s => s.name = name) := by
  have hfind : (p.servers.find? fun s => s.name = name) =
      (p.machines.find? fun m => m.name = name).map p.server := by
    rw [Project.servers, List.find?_map]
    rfl
  rw [hfind]
  cases p.machines.find? fun m => m.name = name with
  | none => exact .none
  | some m => exact .some ⟨rfl, rfl, rfl⟩

/-- Each question that a discovery asks is answered by requests as `told` says. -/
theorem run_answer {p : Project} {path : String} {s : Settings} {host : FileContent}
    {machinePages : Paging p.machines} {floatingPages : Paging p.floating} {world : World Answer}
    {c : Client} (can : c.CanAsk "/servers") (canFloating : c.CanAsk "/floating_ips")
    (fits : Within c p s host machinePages floatingPages)
    (faithful : Faithful c p s.labelSelector host machinePages floatingPages world)
    {x : Exchange Discovery.Answer}
    (hx : x ∈ ((Discovery.addresses path s).run (fun _ q => told p host q) []).exchanges)
    (past : List (Exchange Answer)) :
    ∃ ys, (c.answer x.question).run world past = ⟨.ok (told p host x.question), ys, []⟩ := by
  obtain ⟨q, a⟩ := x
  have hway := Discovery.way (fun _ q => told p host q) [] path s
  rcases hway.question_of_mem hx with hq | hq | ⟨hnone, content, hcontent, hname, hq⟩
  · obtain rfl : q = .hostname := hq
    refine ⟨[⟨.hostname, world past .hostname⟩], ?_⟩
    rw [answer, run_question, faithful.hostname, told]
  · obtain rfl : q = .runningServers s.labelSelector := hq
    obtain ⟨ys, hrun⟩ := run_runningServers_of_faithful can canFloating faithful fits past
    refine ⟨ys, ?_⟩
    rw [answer, run_attempt, hrun, told]
  · obtain rfl : q = .serverNamed (trim content) := hq
    obtain ⟨r, hr⟩ := exists_make_of_fits can (fits.lookup hnone content hcontent hname)
    obtain ⟨ys, hrun⟩ := run_serverNamed_of_faithful faithful hcontent hr past
    refine ⟨ys, ?_⟩
    rw [answer, run_attempt, hrun, told]

/-- **A discovery over HTTP is a discovery over the provider's own lists**: if the replies tell of a
    project and no URL is too long, the discovery over requests and the one over the inventory of
    the project's servers have the same result and the same log. -/
theorem addresses_refines (p : Project) (path : String) (s : Settings) (host : FileContent)
    (machinePages : Paging p.machines) (floatingPages : Paging p.floating) (world : World Answer)
    (past : List (Exchange Answer)) (can : (ofSettings s).CanAsk "/servers")
    (canFloating : (ofSettings s).CanAsk "/floating_ips")
    (fits : Within (ofSettings s) p s host machinePages floatingPages)
    (faithful : Faithful (ofSettings s) p s.labelSelector host machinePages floatingPages world) :
    let remote := (Client.addresses path s).run world past
    let stored := (Discovery.addresses path s).run
      (fun _ q => (Discovery.Inventory.ofServers p.servers).answer host q) []
    remote.result = stored.result ∧ remote.entries = stored.entries := by
  intro remote stored
  -- over HTTP, a discovery goes as if its questions were answered by `told`
  have hremote := run_via (ofSettings s).answer (told p host) world (Discovery.addresses path s)
    [] past fun x hx past => run_answer can canFloating fits faithful hx past
  -- and `told` differs from the inventory in what does not count
  let reading := (Discovery.addresses path s).run (fun _ q => told p host q) []
  have hstored : reading.result = stored.result ∧ reading.entries = stored.entries :=
    Discovery.run_addresses_congr [] rfl rfl fun name => ⟨_, _, rfl, rfl, sameMachine_told p name⟩
  exact ⟨hremote.1.trans hstored.1, hremote.2.trans hstored.2⟩

/-! ### A project that is told of -/

def web : Machine where
  id := 1
  name := "web"
  location := "fsn1"
  privateAddresses := [.v4 ⟨10, 0, 0, 2⟩]
  publicV4 := none
  publicV6 := some ⟨.v6 ⟨0x2001, 0xdb8, 0, 0, 0, 0, 0, 1⟩, false⟩
  floatingIds := [7, 8]

def db : Machine where
  id := 2
  name := "db"
  location := "nbg1"
  privateAddresses := []
  publicV4 := some ⟨.v4 ⟨192, 0, 2, 1⟩, false⟩
  publicV6 := none
  floatingIds := []

def sample : Project where
  machines := [web, db]
  floating := [(7, ⟨.v4 ⟨198, 51, 100, 7⟩, .v4, false⟩)]
  distinct := by decide

/-- Three pages, one of them empty. -/
def sampleMachines : Paging sample.machines where
  pages := [[web], [], [db]]
  flatten_eq := rfl
  ne_nil := by decide
  length_lt := by decide

def sampleFloating : Paging sample.floating where
  pages := [sample.floating]
  flatten_eq := rfl
  ne_nil := by decide
  length_lt := by decide

/-- Settings for the public addresses of version four of servers with a label. -/
def settingsFor (location : Option String) (selector : String) : Settings where
  apiToken := "t"
  location := location
  labelSelector := selector
  family := .publicV4
  endpoint := "http://[::1]/"

def sampleHost : FileContent := .octets (utf8 "web\n")

/-- A server that tells of the project, where the label is `a=b`. -/
def sampleWorld : World Answer
  | _, .hostname => sampleHost
  | _, .request r =>
    let query := String.ofList (r.url.query.getD [])
    let machines (k : Nat) : Json := Telling.pageDocument "servers" Telling.machineDocument
      (sampleMachines.pages.getD k []) (sampleMachines.next k)
    some (Telling.reply (
      if query = "name=web" then
        Telling.pageDocument "servers" Telling.machineDocument [web] none
      else if query = "page=1&per_page=50" then
        Telling.pageDocument "floating_ips" Telling.floatingDocument sample.floating none
      else if query = "status=running&label_selector=a%3Db&page=1&per_page=50" then machines 0
      else if query = "status=running&label_selector=a%3Db&page=2&per_page=50" then machines 1
      else machines 2))

theorem ofSettings_settingsFor (location : Option String) (selector : String) :
    ofSettings (settingsFor location selector) = loopback := by
  have hendpoint : String.ofList (stripEnd (· == '/') "http://[::1]/".toList) = "http://[::1]" := by
    decide
  rw [ofSettings, settingsFor, hendpoint]
  rfl

theorem loopback_canAsk_floating : loopback.CanAsk "/floating_ips" :=
  ⟨by decide, _, rfl, rfl, rfl, rfl⟩

theorem query_of_make {path : String} (hpath : path = "/servers" ∨ path = "/floating_ips")
    {query : List (String × String)} {text : String} (htext : Form.encode query = text.toList)
    {r : Request} (h : Request.make (loopback.endpoint ++ path) loopback.token query = .ok r) :
    String.ofList (r.url.query.getD []) = text := by
  have hquery : r.url.query = some (Form.encode query) := by
    rcases hpath with rfl | rfl
    · have hurl := (url?_of_make loopback_canAsk_servers h).1
      obtain ⟨base, hbase, hr⟩ := Option.map_eq_some_iff.1 hurl
      cases hbase
      rw [← hr]
      rfl
    · have hurl := (url?_of_make loopback_canAsk_floating h).1
      obtain ⟨base, hbase, hr⟩ := Option.map_eq_some_iff.1 hurl
      cases hbase
      rw [← hr]
      rfl
  rw [hquery, Option.getD_some, htext, String.ofList_toList]

theorem sample_text {content : String} (h : sampleHost.text = .ok content) :
    trim content = "web" := by
  have hcontent : sampleHost.text = .ok "web\n" := rfl
  rw [hcontent] at h
  cases h
  decide

theorem sample_serves_machines : loopback.Serves sampleWorld (serverListing "a=b")
    DescribesMachine sampleMachines := by
  intro k page hpage r hr past
  have hreply : sampleWorld past (.request r) = some (Telling.reply
      (Telling.pageDocument "servers" Telling.machineDocument page (sampleMachines.next k))) := by
    rcases k with _ | _ | _ | k
    · obtain rfl : [web] = page := Option.some.inj hpage
      have hquery := query_of_make (.inl rfl)
        (show _ = "status=running&label_selector=a%3Db&page=1&per_page=50".toList by
          decide +kernel) hr
      simp only [sampleWorld, hquery]
      rfl
    · obtain rfl : [] = page := Option.some.inj hpage
      have hquery := query_of_make (.inl rfl)
        (show _ = "status=running&label_selector=a%3Db&page=2&per_page=50".toList by
          decide +kernel) hr
      simp only [sampleWorld, hquery]
      rfl
    · obtain rfl : [db] = page := Option.some.inj hpage
      have hquery := query_of_make (.inl rfl)
        (show _ = "status=running&label_selector=a%3Db&page=3&per_page=50".toList by
          decide +kernel) hr
      simp only [sampleWorld, hquery]
      rfl
    · cases hpage
  rw [hreply]
  exact Telling.delivers_machines page (sampleMachines.next k)

theorem sample_serves_floating : loopback.Serves sampleWorld floatingListing
    DescribesFloating sampleFloating := by
  intro k page hpage r hr past
  have hreply : sampleWorld past (.request r) = some (Telling.reply
      (Telling.pageDocument "floating_ips" Telling.floatingDocument page
        (sampleFloating.next k))) := by
    rcases k with _ | k
    · obtain rfl : sample.floating = page := Option.some.inj hpage
      have hquery := query_of_make (.inr rfl)
        (show _ = "page=1&per_page=50".toList by decide +kernel) hr
      simp only [sampleWorld, hquery]
      rfl
    · cases hpage
  rw [hreply]
  exact Telling.delivers_floating page (sampleFloating.next k)

/-- The world tells of the project, if it does so for the servers that are asked for. -/
theorem sample_faithful {selector : String}
    (h : loopback.Serves sampleWorld (serverListing selector) DescribesMachine sampleMachines) :
    Faithful loopback sample selector sampleHost sampleMachines sampleFloating sampleWorld where
  hostname _ := rfl
  lookup content hcontent r hr past := by
    rw [sample_text hcontent] at hr ⊢
    have hquery := query_of_make (.inl rfl) (show _ = "name=web".toList by decide +kernel) hr
    have hreply : sampleWorld past (.request r) = some (Telling.reply
        (Telling.pageDocument "servers" Telling.machineDocument [web] none)) := by
      simp only [sampleWorld, hquery]
      rfl
    obtain ⟨reply, v, hv, hstatus, hspells, hdescribes⟩ := Telling.delivers_machines [web] none
    exact ⟨reply, v, hreply.trans hv, hstatus, hspells, none, hdescribes⟩
  machines := h
  floating := sample_serves_floating

theorem sample_within : Within loopback sample (settingsFor none "a=b") sampleHost sampleMachines
    sampleFloating where
  lookup _ content hcontent _ := by
    rw [sample_text hcontent]
    rintro u ⟨⟩
    decide
  machines k hk := by
    rcases k with _ | _ | _ | k
    · rintro u ⟨⟩; decide
    · rintro u ⟨⟩; decide
    · rintro u ⟨⟩; decide
    · exact absurd hk (by simp [sampleMachines])
  floating k hk := by
    rcases k with _ | k
    · rintro u ⟨⟩; decide
    · exact absurd hk (by simp [sampleFloating])

/-- This machine is `web`, which is reached by the one of its floating addresses that is listed. -/
theorem addresses_refines_sample :
    let remote := (Client.addresses "hostname" (settingsFor none "a=b")).run sampleWorld []
    remote.result = .ok [.v4 ⟨198, 51, 100, 7⟩] ∧ remote.entries.length = 8 := by
  have hclient := ofSettings_settingsFor none "a=b"
  obtain ⟨hresult, hentries⟩ := addresses_refines sample "hostname" (settingsFor none "a=b")
    sampleHost sampleMachines sampleFloating sampleWorld []
    (hclient ▸ loopback_canAsk_servers) (hclient ▸ loopback_canAsk_floating)
    (hclient ▸ sample_within) (hclient ▸ sample_faithful sample_serves_machines)
  refine ⟨hresult.trans ?_, (congrArg List.length hentries).trans ?_⟩
  · rfl
  · rfl

/-! ### Where a URL is too long -/

/-- With a location and a label selector that is longer than any URL, a discovery fails before
    anything is asked, whatever the world is like. -/
theorem addresses_of_overlong_selector {path : String} {s : Settings} {location : String}
    (can : (ofSettings s).CanAsk "/servers") (hlocation : s.location = some location)
    (hlong : Url.mostCharacters < s.labelSelector.length) :
    ∃ u, ∀ (world : World Answer) (past : List (Exchange Answer)),
      ((Client.addresses path s).run world past).result =
        .error (.refused (.unsendable (.illegal u))) := by
  obtain ⟨u, hlist⟩ := run_list_of_overlong_selector can hlong
  refine ⟨u, fun world past => ?_⟩
  let refused : (q : Discovery.Question) → Discovery.Answer q
    | .hostname => .missing
    | .serverNamed _ => .ok none
    | .runningServers _ => .error (.refused (.unsendable (.illegal u)))
  have hservers (past : List (Exchange Answer)) :
      ((ofSettings s).runningServers s.labelSelector).run world past =
        ⟨.error (.refused (.unsendable (.illegal u))), [], []⟩ := by
    rw [runningServers, run_bind, hlist]
    rfl
  have hvia := run_via (ofSettings s).answer refused world (Discovery.addresses path s) [] past
    fun x hx past => by
      rw [Discovery.run_addresses_located _ [] hlocation] at hx
      rw [List.mem_singleton.1 hx, answer, run_attempt, hservers]
      exact ⟨[], rfl⟩
  rw [Discovery.run_addresses_located _ [] hlocation] at hvia
  exact hvia.1

/-- The project's own lists lead to a result for the same settings: for such a selector there is
    none over HTTP, although all replies tell of the project. -/
theorem addresses_overlongSelector :
    let s := settingsFor (some "fsn1") overlongSelector
    ((ofSettings s).CanAsk "/servers" ∧ (ofSettings s).CanAsk "/floating_ips") ∧
      Faithful (ofSettings s) sample s.labelSelector sampleHost sampleMachines sampleFloating
        sampleWorld ∧
      ((Client.addresses "hostname" s).run sampleWorld []).result ≠
        ((Discovery.addresses "hostname" s).run (fun _ q =>
          (Discovery.Inventory.ofServers sample.servers).answer sampleHost q) []).result := by
  intro s
  have hclient : ofSettings s = loopback := ofSettings_settingsFor (some "fsn1") overlongSelector
  have can : (ofSettings s).CanAsk "/servers" := hclient ▸ loopback_canAsk_servers
  refine ⟨⟨can, hclient ▸ loopback_canAsk_floating⟩, ?_, ?_⟩
  · rw [hclient]
    refine sample_faithful fun k page _ r hr => ?_
    obtain ⟨u, hurl, hmake⟩ :=
      make_eq loopback_canAsk_servers ((serverListing overlongSelector).query (pageNumber k))
    have hlong := overlong_of_selector lt_length_overlongSelector hurl
    have hnone : loopback.ask (serverListing overlongSelector) (pageNumber k) =
        .error (.illegal u) := hmake.trans (if_neg (Nat.not_le.2 hlong))
    cases hnone.symm.trans hr
  · have hlocation : s.location = some "fsn1" := rfl
    obtain ⟨u, hremote⟩ := addresses_of_overlong_selector can hlocation lt_length_overlongSelector
    rw [hremote, Discovery.run_addresses_located _ [] hlocation]
    intro h
    cases h

end Client

end CloudRoster.Provider
