/-
  The servers that are told are the listed ones, joined with the listed floating addresses.

  1. **Specification** - `Resolves floats ids as`: what a row of numbers leads to in a listing of
     floating addresses.  Where a number is listed more than once the last entry counts, and a
     number that is not listed leads nowhere.  `Joined floats e s`: the server is what an entry
     says, with the floating addresses that its numbers lead to.
  2. **The join** - a server that is made of an entry is joined with the listing from which the
     table was made (`joined_of_toServer`).
  3. **The order of the listing** - if no number is listed twice, the table leads a number to the
     same address however the listing is ordered (`find?_eq_of_perm`).

  **Headline** (`runningServers_joins`): the running servers are the listed ones, in their order and
  joined; and the order and the paging of the floating addresses make no difference.  The one thing
  that can come between is a page whose URL is too long for a request, as `recut_unsendable` shows.
-/
import CloudRoster.Proofs.Provider.Script
import CloudRoster.Proofs.Provider.Target
import Mathlib.Data.List.Nodup

namespace CloudRoster.Provider

open Http Dialogue

/-! ## Specification -/

/-- `f` is the last entry of a listing with a number. -/
def LastListed (floats : List FloatingEntry) (id : UInt64) (f : FloatingEntry) : Prop :=
  ∃ before after, floats = before ++ f :: after ∧ f.id = id ∧ ∀ g ∈ after, g.id ≠ id

/-- `Resolves floats ids as`: the numbers lead to these addresses, in the order of the numbers and
    with repetitions. -/
inductive Resolves (floats : List FloatingEntry) : List UInt64 → List FloatingAddress → Prop where
  | done : Resolves floats [] []
  | listed {id : UInt64} {f : FloatingEntry} {ip : Address} {ids : List UInt64}
      {as : List FloatingAddress} (last : LastListed floats id f)
      (reads : Address.read? f.ip = some ip) (rest : Resolves floats ids as) :
      Resolves floats (id :: ids) (⟨ip, f.version, f.blocked⟩ :: as)
  | unlisted {id : UInt64} {ids : List UInt64} {as : List FloatingAddress}
      (absent : ∀ f ∈ floats, f.id ≠ id) (rest : Resolves floats ids as) :
      Resolves floats (id :: ids) as

/-- The public address that an entry spells. -/
structure Spelled (e : PublicEntry) (a : PublicAddress) : Prop where
  reads : Address.read? e.ip = some a.ip
  blocked : a.blocked = e.blocked

/-- The server is what the entry says, with the floating addresses that its numbers lead to. -/
structure Joined (floats : List FloatingEntry) (e : ServerEntry) (s : Server) : Prop where
  id : s.id = e.id
  name : s.name = e.name
  location : s.location = e.location
  privateAddresses :
    List.Forall₂ (fun text ip => Address.read? text = some ip) e.privateIps s.privateAddresses
  publicV4 : Option.Rel Spelled e.publicV4 s.publicV4
  publicV6 : Option.Rel Spelled e.publicV6 s.publicV6
  floating : Resolves floats e.floatingIds s.floating

/-! ## The join -/

theorem readAddress_eq_ok_iff {text : String} {ip : Address} :
    readAddress text = .ok ip ↔ Address.read? text = some ip := by
  rw [readAddress]
  cases Address.read? text with
  | none => simp
  | some a => simp

theorem spelled_of_toAddress {e : PublicEntry} {a : PublicAddress} (h : e.toAddress = .ok a) :
    Spelled e a := by
  obtain ⟨ip, hread, hpure⟩ := bind_eq_ok_iff.1 h
  cases hpure
  exact ⟨readAddress_eq_ok_iff.1 hread, rfl⟩

theorem spelled_of_mapM {e : Option PublicEntry} {a : Option PublicAddress}
    (h : e.mapM PublicEntry.toAddress = .ok a) : Option.Rel Spelled e a := by
  cases e with
  | none =>
    cases h
    exact .none
  | some e =>
    rw [Option.mapM_some] at h
    obtain ⟨a', hread, hpure⟩ := bind_eq_ok_iff.1 h
    cases hpure
    exact .some (spelled_of_toAddress hread)

/-- The row of a table that an entry makes. -/
theorem FloatingEntry.toAddress_eq_ok_iff {f : FloatingEntry} {row : UInt64 × FloatingAddress} :
    f.toAddress = .ok row ↔
      ∃ ip, Address.read? f.ip = some ip ∧ row = (f.id, ⟨ip, f.version, f.blocked⟩) := by
  rw [FloatingEntry.toAddress, readAddress]
  cases Address.read? f.ip with
  | none => simp [bind, Except.bind]
  | some ip => simp [bind, Except.bind, pure, Except.pure, eq_comm]

theorem LastListed.cons {floats : List FloatingEntry} {id : UInt64} {f : FloatingEntry}
    (h : LastListed floats id f) (g : FloatingEntry) : LastListed (g :: floats) id f := by
  obtain ⟨before, after, rfl, hid, hafter⟩ := h
  exact ⟨g :: before, after, rfl, hid, hafter⟩

/-- A table leads a number to the address of the last entry that has it, if there is one. -/
theorem find?_of_table {floats : List FloatingEntry} {table : FloatingTable}
    (h : List.Forall₂ (fun f row => f.toAddress = .ok row) floats table) (id : UInt64) :
    (∃ f ip, LastListed floats id f ∧ Address.read? f.ip = some ip ∧
      table.find? id = some ⟨ip, f.version, f.blocked⟩) ∨
    (∀ f ∈ floats, f.id ≠ id) ∧ table.find? id = none := by
  induction h with
  | nil => exact .inr ⟨List.forall_mem_nil _, rfl⟩
  | @cons f row floats table hrow _ ih =>
    rw [FloatingTable.find?_cons]
    rcases ih with ⟨g, ip, hlast, hread, hfind⟩ | ⟨habsent, hfind⟩
    · rw [hfind]
      exact .inl ⟨g, ip, hlast.cons f, hread, rfl⟩
    · obtain ⟨ip, hread, rfl⟩ := FloatingEntry.toAddress_eq_ok_iff.1 hrow
      rw [hfind]
      by_cases hid : id = f.id
      · -- no entry behind this one has the number
        rw [if_pos hid]
        exact .inl ⟨f, ip, ⟨[], floats, rfl, hid.symm, habsent⟩, hread, rfl⟩
      · rw [if_neg hid]
        exact .inr ⟨List.forall_mem_cons.2 ⟨Ne.symm hid, habsent⟩, rfl⟩

theorem resolves_filterMap {floats : List FloatingEntry} {table : FloatingTable}
    (h : List.Forall₂ (fun f row => f.toAddress = .ok row) floats table) (ids : List UInt64) :
    Resolves floats ids (ids.filterMap table.find?) := by
  induction ids with
  | nil => exact .done
  | cons id ids ih =>
    rcases find?_of_table h id with ⟨f, ip, hlast, hread, hfind⟩ | ⟨habsent, hfind⟩
    · rw [List.filterMap_cons_some hfind]
      exact .listed hlast hread ih
    · rw [List.filterMap_cons_none hfind]
      exact .unlisted habsent ih

theorem joined_of_toServer {floats : List FloatingEntry} {table : FloatingTable}
    (h : List.Forall₂ (fun f row => f.toAddress = .ok row) floats table) {e : ServerEntry}
    {s : Server} (hs : e.toServer table = .ok s) : Joined floats e s := by
  obtain ⟨ips, hprivate, hs⟩ := bind_eq_ok_iff.1 hs
  obtain ⟨v4, hv4, hs⟩ := bind_eq_ok_iff.1 hs
  obtain ⟨v6, hv6, hs⟩ := bind_eq_ok_iff.1 hs
  cases hs
  constructor
  · rfl
  · rfl
  · rfl
  · exact (mapM_eq_ok_iff.1 hprivate).imp fun _ _ => readAddress_eq_ok_iff.1
  · exact spelled_of_mapM hv4
  · exact spelled_of_mapM hv6
  · exact resolves_filterMap h e.floatingIds

/-- Servers that are made of entries stand in their order. -/
theorem joined_of_mapM {floats : List FloatingEntry} {table : FloatingTable}
    (htable : tableOf floats = .ok table) {entries : List ServerEntry} {servers : List Server}
    (h : entries.mapM (ServerEntry.toServer table) = .ok servers) :
    List.Forall₂ (Joined floats) entries servers :=
  (mapM_eq_ok_iff.1 h).imp fun _ _ => joined_of_toServer (mapM_eq_ok_iff.1 htable)

/-! ## The order of the listing -/

/-- A number that is listed is listed in every order. -/
theorem LastListed.mem {floats : List FloatingEntry} {id : UInt64} {f : FloatingEntry}
    (h : LastListed floats id f) : f ∈ floats ∧ f.id = id := by
  obtain ⟨before, after, rfl, hid, -⟩ := h
  exact ⟨List.mem_append_right _ List.mem_cons_self, hid⟩

theorem find?_eq_of_perm {floats floats' : List FloatingEntry} {table table' : FloatingTable}
    (htable : tableOf floats = .ok table) (htable' : tableOf floats' = .ok table')
    (hperm : floats.Perm floats') (hnodup : (floats.map FloatingEntry.id).Nodup) :
    table.find? = table'.find? := by
  funext id
  rcases find?_of_table (mapM_eq_ok_iff.1 htable) id with
    ⟨f, ip, hlast, hread, hfind⟩ | ⟨habsent, hfind⟩ <;>
  rcases find?_of_table (mapM_eq_ok_iff.1 htable') id with
    ⟨f', ip', hlast', hread', hfind'⟩ | ⟨habsent', hfind'⟩
  · -- there is one entry with the number, so both tables have found it
    obtain ⟨hmem, hid⟩ := hlast.mem
    obtain ⟨hmem', hid'⟩ := hlast'.mem
    obtain rfl : f = f' :=
      List.inj_on_of_nodup_map hnodup hmem (hperm.mem_iff.2 hmem') (hid.trans hid'.symm)
    obtain rfl : ip = ip' := Option.some.inj (hread.symm.trans hread')
    rw [hfind, hfind']
  · obtain ⟨hmem, hid⟩ := hlast.mem
    exact absurd hid (habsent' f (hperm.mem_iff.1 hmem))
  · obtain ⟨hmem', hid'⟩ := hlast'.mem
    exact absurd hid' (habsent f' (hperm.mem_iff.2 hmem'))
  · rw [hfind, hfind']

/-- Of a table, only where it leads counts. -/
theorem toServer_congr {table table' : FloatingTable} (h : table.find? = table'.find?) :
    ServerEntry.toServer table = ServerEntry.toServer table' := by
  funext e
  rw [ServerEntry.toServer, ServerEntry.toServer, h]

theorem exists_tableOf {floats : List FloatingEntry}
    (h : ∀ f ∈ floats, (Address.read? f.ip).isSome = true) :
    ∃ table, tableOf floats = .ok table := by
  cases converts_tableOf floats with
  | success value => exact ⟨_, value⟩
  | @refusal v _ first =>
    obtain ⟨f, hf, rfl⟩ := List.mem_map.1 (List.mem_of_find?_eq_some first)
    have hunreadable : isUnreadable f.ip = true := List.find?_some first
    rw [isUnreadable, Option.isNone_iff_eq_none] at hunreadable
    have hsome := h f hf
    rw [hunreadable] at hsome
    cases hsome

/-- If no number is listed twice and all addresses can be read, the order of a listing does not
    count. -/
theorem tableOf_bind_perm {floats floats' : List FloatingEntry}
    (readable : ∀ f ∈ floats, (Address.read? f.ip).isSome = true) (hperm : floats.Perm floats')
    (hnodup : (floats.map FloatingEntry.id).Nodup) (entries : List ServerEntry) :
    (tableOf floats >>= fun table => entries.mapM (ServerEntry.toServer table)) =
      tableOf floats' >>= fun table => entries.mapM (ServerEntry.toServer table) := by
  obtain ⟨table, htable⟩ := exists_tableOf readable
  obtain ⟨table', htable'⟩ := exists_tableOf fun f hf => readable f (hperm.mem_iff.2 hf)
  rw [htable, htable']
  show entries.mapM (ServerEntry.toServer table) = entries.mapM (ServerEntry.toServer table')
  rw [toServer_congr (find?_eq_of_perm htable htable' hperm hnodup)]

/-! ## Pages that can be asked for -/

/-- All pages of a listing are asked for by its inquiries. -/
theorem Fetched.inquiry_of_mem {α : Type} {inquiry : UInt64 → Inquiry}
    {read : Json → Option (Page α)}
    {number : UInt64} {steps : List Step} {items : List α}
    (h : Fetched inquiry read number steps items) :
    ∀ s ∈ steps, ∃ n, s.inquiry = inquiry n := by
  induction h with
  | last asks => exact List.forall_mem_singleton.2 ⟨_, asks⟩
  | next asks _ _ _ _ ih => exact List.forall_mem_cons.2 ⟨⟨_, asks⟩, ih⟩

/-- There is a first page. -/
theorem Fetched.exists_mem {α : Type} {inquiry : UInt64 → Inquiry} {read : Json → Option (Page α)}
    {number : UInt64} {steps : List Step} {items : List α}
    (h : Fetched inquiry read number steps items) : ∃ s, s ∈ steps := by
  cases h with
  | last => exact ⟨_, List.mem_cons_self⟩
  | next => exact ⟨_, List.mem_cons_self⟩

/-- A page that names no other is the only one. -/
theorem Fetched.single {α : Type} {inquiry : UInt64 → Inquiry} {read : Json → Option (Page α)}
    {number : UInt64} {s : Step} {items : List α} (asks : s.inquiry = inquiry number)
    (brings : Brings read s.reply ⟨items, none⟩) : Fetched inquiry read number [s] items := by
  apply Fetched.last asks brings
  intro next hnext
  cases hnext

namespace Client

variable {c : Client}

/-- A client that has asked for the pages of one listing of floating addresses can ask for those of
    another, unless a URL is too long. -/
theorem request?_of_fits {read : Json → Option (Page FloatingEntry)} {steps steps' : List Step}
    {items items' : List FloatingEntry} (h : Fetched .floating read 1 steps items)
    (h' : Fetched .floating read 1 steps' items')
    (made : ∀ s ∈ steps, ∃ r, c.request? s.inquiry = .ok r)
    (fits : ∀ s ∈ steps', c.Fits s.inquiry.path s.inquiry.pairs) :
    ∀ s ∈ steps', ∃ r, c.request? s.inquiry = .ok r := by
  obtain ⟨s₀, hs₀⟩ := h.exists_mem
  obtain ⟨n₀, hn₀⟩ := h.inquiry_of_mem s₀ hs₀
  obtain ⟨r₀, hr₀⟩ := made s₀ hs₀
  rw [hn₀] at hr₀
  have can : c.CanAsk "/floating_ips" := canAsk_of_make hr₀
  intro s hs
  obtain ⟨n, hn⟩ := h'.inquiry_of_mem s hs
  have hfits := fits s hs
  rw [hn] at hfits ⊢
  exact exists_make_of_fits can hfits

/-! ## Headline -/

/-- A way that ends well has listed the servers and, where it had to, the floating addresses. -/
theorem Gathering.joined {selector : String} {visits more : List Visit} {servers : List Server}
    (h : Gathering c selector visits more (.ok servers)) :
    ∃ (entries : List ServerEntry) (floats : List FloatingEntry),
      Fetched (.servers selector) serverPage? 1 (visits.map (Visit.step (.servers selector)))
        entries ∧
      ((∃ e ∈ entries, e.floatingIds ≠ []) → Fetched .floating (page? "floating_ips" floatingEntry?)
        1 (more.map (Visit.step .floating)) floats) ∧
      ((∀ e ∈ entries, e.floatingIds = []) → more.map (Visit.step .floating) = [] ∧ floats = []) ∧
      List.Forall₂ (Joined floats) entries servers := by
  generalize hresult : Except.ok servers = result at h
  cases h with
  | unlisted => cases hresult
  | unresolved => cases hresult
  | @plain entries hservers plain =>
    refine ⟨entries, [], hservers.fetched rfl, ?_, fun _ => ⟨rfl, rfl⟩, ?_⟩
    · rintro ⟨e, he, hne⟩
      exact absurd (plain e he) hne
    · exact joined_of_mapM rfl (mapError_eq_ok_iff.1 hresult.symm)
  | @resolved _ entries floats hservers refers hfloating =>
    obtain ⟨table, htable, hmade⟩ := bind_eq_ok_iff.1 (mapError_eq_ok_iff.1 hresult.symm)
    refine ⟨entries, floats, hservers.fetched rfl, fun _ => hfloating.fetched rfl, ?_, ?_⟩
    · intro hplain
      obtain ⟨e, he, hne⟩ := refers
      exact absurd (hplain e he) hne
    · exact joined_of_mapM htable hmade

/-- Two cuttings of the floating addresses, of which the first one can be asked for: the same
    entries, in any order and on any pages.  Their numbers are different and they can be read. -/
structure Recut (c : Client) (selector : String) (listing resolving resolving' : List Step)
    (entries : List ServerEntry) (floats floats' : List FloatingEntry) : Prop where
  listed : Fetched (.servers selector) serverPage? 1 listing entries
  resolved : Fetched .floating (page? "floating_ips" floatingEntry?) 1 resolving floats
  made : ∀ s ∈ listing ++ resolving, ∃ r, c.request? s.inquiry = .ok r
  resolved' : Fetched .floating (page? "floating_ips" floatingEntry?) 1 resolving' floats'
  perm : floats.Perm floats'
  distinct : (floats.map FloatingEntry.id).Nodup
  readable : ∀ f ∈ floats, (Address.read? f.ip).isSome = true

/-- The running servers are the same by both cuttings, whatever else is in the scripts. -/
theorem Recut.run_eq {selector : String} {listing resolving resolving' : List Step}
    {entries : List ServerEntry} {floats floats' : List FloatingEntry}
    (h : Recut c selector listing resolving resolving' entries floats floats')
    (fits : ∀ s ∈ resolving', c.Fits s.inquiry.path s.inquiry.pairs)
    (rest rest' : List (Option Reply)) :
    ((c.runningServers selector).run
        (scripted ((listing ++ resolving).map Step.reply ++ rest)) []).result =
      ((c.runningServers selector).run
        (scripted ((listing ++ resolving').map Step.reply ++ rest')) []).result := by
  obtain ⟨madeListing, madeResolving⟩ := List.forall_mem_append.1 h.made
  by_cases hplain : ∀ e ∈ entries, e.floatingIds = []
  · -- nobody asks for floating addresses, so their pages are part of what is not played
    have hlisting (more : List Step) (rest : List (Option Reply)) :
        ((c.runningServers selector).run
          (scripted ((listing ++ more).map Step.reply ++ rest)) []).result =
            (entries.mapM (ServerEntry.toServer [])).mapError .refused := by
      apply run_runningServers_plain h.listed hplain madeListing
      rw [List.map_append, List.append_assoc]
      exact repliesFrom_scripted _ _
    rw [hlisting, hlisting]
  · have refers : ∃ e ∈ entries, e.floatingIds ≠ [] := by
      simpa using hplain
    have made' : ∀ s ∈ listing ++ resolving', ∃ r, c.request? s.inquiry = .ok r :=
      List.forall_mem_append.2
        ⟨madeListing, request?_of_fits h.resolved h.resolved' madeResolving fits⟩
    rw [run_runningServers_refers h.listed refers h.resolved h.made (repliesFrom_scripted _ rest),
      run_runningServers_refers h.listed refers h.resolved' made' (repliesFrom_scripted _ rest'),
      tableOf_bind_perm h.readable h.perm h.distinct entries]

/-- **The running servers are the listed ones, joined with the listed floating addresses.**  First,
    where they are told at all: they are what the pages of servers list, in that order, each joined
    with what the pages of floating addresses list; these are asked for exactly if a server refers
    to one.  Second, whatever is told: the order of the floating addresses and the way in which they
    are cut into pages make no difference, as long as no URL of a page is too long. -/
theorem runningServers_joins (c : Client) (selector : String) :
    (∀ (world : World Answer) (past : List (Exchange Answer)) (servers : List Server),
      ((c.runningServers selector).run world past).result = .ok servers →
      ∃ (listing resolving : List Step) (entries : List ServerEntry) (floats : List FloatingEntry),
        c.Account ((c.runningServers selector).run world past) (listing ++ resolving) ∧
        Fetched (.servers selector) serverPage? 1 listing entries ∧
        ((∃ e ∈ entries, e.floatingIds ≠ []) →
          Fetched .floating (page? "floating_ips" floatingEntry?) 1 resolving floats) ∧
        ((∀ e ∈ entries, e.floatingIds = []) → resolving = [] ∧ floats = []) ∧
        List.Forall₂ (Joined floats) entries servers) ∧
    ∀ (listing resolving resolving' : List Step) (entries : List ServerEntry)
      (floats floats' : List FloatingEntry),
      Recut c selector listing resolving resolving' entries floats floats' →
      (∀ s ∈ resolving', c.Fits s.inquiry.path s.inquiry.pairs) →
      ∀ rest rest' : List (Option Reply),
        ((c.runningServers selector).run
            (scripted ((listing ++ resolving).map Step.reply ++ rest)) []).result =
          ((c.runningServers selector).run
            (scripted ((listing ++ resolving').map Step.reply ++ rest')) []).result := by
  constructor
  · intro world past servers h
    obtain ⟨visits, more, hexchanges, hgathering⟩ := run_runningServers c selector world past
    have haccount := hgathering.account hexchanges
    rw [h] at hgathering
    obtain ⟨entries, floats, hlisted, hresolved, hplain, hjoined⟩ := hgathering.joined
    exact ⟨_, _, entries, floats, haccount, hlisted, hresolved, hplain, hjoined⟩
  · intro listing resolving resolving' entries floats floats' hrecut hfits rest rest'
    exact hrecut.run_eq hfits rest rest'

/-! ### A server of this machine -/

/-- The host `[::1]`. -/
def localAuthority : Authority := ⟨[], none, some (.address (.v6 ⟨0, 0, 0, 0, 0, 0, 0, 1⟩)), none⟩

/-- A client of a server on this machine, with a path of these segments. -/
def localClient (segments : List (List Char)) : Client :=
  ⟨String.ofList (['h', 't', 't', 'p', ':', '/', '/'] ++
    (['[', ':', ':', '1', ']'] ++ slashed segments)), "t"⟩

variable {segments : List (List Char)}

theorem localClient_isPlain (h : ∀ s ∈ segments, IsSegment s) :
    (localClient segments).IsPlain ['[', ':', ':', '1', ']'] segments where
  endpoint := rfl
  isAuthority := ⟨List.cons_ne_nil _ _, by simp [Text.isBreak]⟩
  isSegment := h

theorem base?_localClient (h : ∀ s ∈ segments, IsSegment s) (i : Inquiry) :
    (localClient segments).base? i.path =
      some ⟨localAuthority, .http, false, slashed (segments ++ [i.resource]), none, none⟩ := by
  have hread : Authority.read .http ['[', ':', ':', '1', ']'] = .ok (localAuthority, []) := by
    decide
  rw [base?, (localClient_isPlain h).parse i, hread]
  rfl

theorem url?_localClient (h : ∀ s ∈ segments, IsSegment s) (i : Inquiry) :
    (localClient segments).url? i.path i.pairs = some (inquiryUrl localAuthority segments i) := by
  rw [url?, base?_localClient h]
  rfl

theorem localClient_canAsk (h : ∀ s ∈ segments, IsSegment s) (i : Inquiry) :
    (localClient segments).CanAsk i.path := by
  have htoken : isHeaderText "t" = true := by decide
  exact ⟨htoken, _, base?_localClient h i, rfl, rfl, rfl⟩

/-- An inquiry can be requested unless its URL is too long. -/
theorem request?_localClient (h : ∀ s ∈ segments, IsSegment s) (i : Inquiry) :
    (localClient segments).request? i =
      if (inquiryUrl localAuthority segments i).text.length ≤ Url.mostCharacters then
        .ok ⟨inquiryUrl localAuthority segments i, "t"⟩
      else .error (.illegal (inquiryUrl localAuthority segments i)) := by
  obtain ⟨u, hurl, hmake⟩ := make_eq (localClient_canAsk h i) i.pairs
  obtain rfl := Option.some.inj (hurl.symm.trans (url?_localClient h i))
  exact hmake

theorem length_localUrl (segments : List (List Char)) (i : Inquiry) :
    (inquiryUrl localAuthority segments i).text.length =
      (slashed segments).length + i.resource.length + (Form.encode i.pairs).length + 14 := by
  have hplace : localAuthority.text.length = 5 := by decide
  have hresource : (slashed [i.resource]).length = i.resource.length + 1 := by simp [slashed]
  simp only [inquiryUrl, Url.text, Url.target, slashed_append, Authority.behind, List.length_append,
    List.length_cons, hplace, hresource, Scheme.name, List.length_nil]
  omega

/-! ### Two floating addresses on one page, and on two -/

def webEntry : ServerEntry := ⟨1, "web", "fsn1", none, none, [8, 9, 7, 8], []⟩
def sevenEntry : FloatingEntry := ⟨7, "192.0.2.7", .v4, false⟩
def eightEntry : FloatingEntry := ⟨8, "192.0.2.8", .v4, true⟩

/-- The number nine is not listed, and the number eight leads to the same address twice. -/
def webServer : Server where
  id := 1
  name := "web"
  location := "fsn1"
  privateAddresses := []
  publicV4 := none
  publicV6 := none
  floating := [
    ⟨.v4 ⟨192, 0, 2, 8⟩, .v4, true⟩,
    ⟨.v4 ⟨192, 0, 2, 7⟩, .v4, false⟩,
    ⟨.v4 ⟨192, 0, 2, 8⟩, .v4, true⟩]

/-- A success with this body. -/
def success (body : String) : Option Reply := some ⟨200, Text.utf8 body⟩

/-- The request for an inquiry and its answer. -/
def localStep (segments : List (List Char)) (i : Inquiry) (reply : Option Reply) : Step :=
  ⟨i, ⟨inquiryUrl localAuthority segments i, "t"⟩, reply⟩

/-- The server, on a page that is written as a list. -/
def webReply : Option Reply :=
  success "[[[1,\"web\",[[\"fsn1\"]],[null,null,[8,9,7,8]],[]]],null]"

/-- Both floating addresses. -/
def bothReply : Option Reply :=
  success "[[[7,\"192.0.2.7\",\"ipv4\",false],[8,\"192.0.2.8\",\"ipv4\",true]],null]"

/-- The second one, with a page that follows. -/
def eightReply (next : String) : Option Reply :=
  success ("[[[8,\"192.0.2.8\",\"ipv4\",true]],[[" ++ next ++ "]]]")

/-- The first one. -/
def sevenReply : Option Reply := success "[[[7,\"192.0.2.7\",\"ipv4\",false]],null]"

/-- What a reply brings does not depend on what was asked for. -/
theorem brings_of_readReply {α : Type} {read : Json → Option α} {reply : Option Reply} {a : α}
    (h : readReply "" read reply = .ok a) : Brings read reply a :=
  readReply_eq_ok_iff.1 h

theorem brings_webReply : Brings serverPage? webReply ⟨[webEntry], none⟩ := by
  apply brings_of_readReply
  decide +kernel

theorem brings_bothReply :
    Brings (page? "floating_ips" floatingEntry?) bothReply ⟨[sevenEntry, eightEntry], none⟩ := by
  apply brings_of_readReply
  decide +kernel

theorem brings_sevenReply :
    Brings (page? "floating_ips" floatingEntry?) sevenReply ⟨[sevenEntry], none⟩ := by
  apply brings_of_readReply
  decide +kernel

theorem recut_eight_seven (h : ∀ s ∈ segments, IsSegment s)
    (hlong : (slashed segments).length ≤ 65479) {next : UInt64} (hnext : 1 < next) {text : String}
    (height : Brings (page? "floating_ips" floatingEntry?) (eightReply text)
      ⟨[eightEntry], some next⟩) :
    (localClient segments).Recut "" [localStep segments (.servers "" 1) webReply]
      [localStep segments (.floating 1) bothReply]
      [localStep segments (.floating 1) (eightReply text),
        localStep segments (.floating next) sevenReply]
      [webEntry] [sevenEntry, eightEntry] [eightEntry, sevenEntry] where
  listed := .single rfl brings_webReply
  resolved := .single rfl brings_bothReply
  made := by
    have hservers : (Form.encode (Inquiry.servers "" 1).pairs).length = 33 := by decide +kernel
    have hfloating : (Form.encode (Inquiry.floating 1).pairs).length = 18 := by decide +kernel
    intro s hs
    rcases List.mem_cons.1 hs with rfl | hs
    · refine ⟨_, (request?_localClient h _).trans (if_pos ?_)⟩
      rw [length_localUrl]
      show (slashed segments).length + 7 + (Form.encode (Inquiry.servers "" 1).pairs).length + 14 ≤
        65534
      omega
    · obtain rfl := List.mem_singleton.1 hs
      refine ⟨_, (request?_localClient h _).trans (if_pos ?_)⟩
      rw [length_localUrl]
      show (slashed segments).length + 12 + (Form.encode (Inquiry.floating 1).pairs).length + 14 ≤
        65534
      omega
  resolved' := .next (p := ⟨[eightEntry], some next⟩) rfl height rfl hnext
    (.single rfl brings_sevenReply)
  perm := .swap _ _ _
  distinct := by decide
  readable := by decide

theorem brings_eightReply_two : Brings (page? "floating_ips" floatingEntry?) (eightReply "2")
    ⟨[eightEntry], some 2⟩ := by
  apply brings_of_readReply
  decide +kernel

theorem run_webReply_bothReply (h : ∀ s ∈ segments, IsSegment s)
    (hlong : (slashed segments).length ≤ 65479) :
    (((localClient segments).runningServers "").run (scripted [webReply, bothReply]) []).result =
      .ok [webServer] := by
  have hrecut := recut_eight_seven h hlong (by decide) brings_eightReply_two
  have hrefers : ∃ e ∈ [webEntry], e.floatingIds ≠ [] := ⟨_, List.mem_cons_self, by decide⟩
  refine Eq.trans (run_runningServers_refers hrecut.listed hrefers hrecut.resolved hrecut.made
    (repliesFrom_scripted _ [])) ?_
  decide +kernel

/-- The server is told with three floating addresses, and so it is by the other cutting. -/
theorem runningServers_joins_eight_seven :
    let c := localClient [['v', '1']]
    ((c.runningServers "").run (scripted [webReply, bothReply]) []).result = .ok [webServer] ∧
    (∃ listing entries floats, Fetched (.servers "") serverPage? 1 listing entries ∧
      List.Forall₂ (Joined floats) entries [webServer]) ∧
    ((c.runningServers "").run (scripted [webReply, eightReply "2", sevenReply]) []).result =
      .ok [webServer] := by
  intro c
  have hsegments : ∀ s ∈ [['v', '1']], IsSegment s :=
    List.forall_mem_singleton.2 ⟨List.cons_ne_nil _ _, List.all_eq_true.1 rfl⟩
  have hresult := run_webReply_bothReply hsegments (by decide)
  have hrecut := recut_eight_seven hsegments (by decide) (by decide) brings_eightReply_two
  have hfits (n : UInt64) (hn : (Form.encode (Inquiry.floating n).pairs).length ≤ 37) :
      c.Fits (Inquiry.floating n).path (Inquiry.floating n).pairs := by
    intro u hu
    obtain rfl := Option.some.inj ((url?_localClient hsegments _).symm.trans hu)
    rw [length_localUrl]
    show 3 + 12 + (Form.encode (Inquiry.floating n).pairs).length + 14 ≤ 65534
    omega
  obtain ⟨hjoins, hrecuts⟩ := runningServers_joins c ""
  refine ⟨hresult, ?_, ?_⟩
  · obtain ⟨listing, -, entries, floats, -, hlisted, -, -, hjoined⟩ := hjoins _ [] _ hresult
    exact ⟨listing, entries, floats, hlisted, hjoined⟩
  · have hboth := hrecuts _ _ _ _ _ _ hrecut
      (List.forall_mem_cons.2
        ⟨hfits 1 (by decide), List.forall_mem_singleton.2 (hfits 2 (by decide))⟩)
      [] []
    exact hboth.symm.trans hresult

/-- The greatest number that a page can have. -/
def lastNumber : UInt64 := 18446744073709551615

theorem brings_eightReply_last : Brings (page? "floating_ips" floatingEntry?)
    (eightReply "18446744073709551615") ⟨[eightEntry], some lastNumber⟩ := by
  apply brings_of_readReply
  decide +kernel

/-- Where the URL of page one is just short enough, that of the last page there can be is not. -/
theorem run_eightReply_last (h : ∀ s ∈ segments, IsSegment s)
    (hlong : (slashed segments).length ≤ 65479) (hlonger : 65471 < (slashed segments).length) :
    (((localClient segments).runningServers "").run
      (scripted [webReply, eightReply "18446744073709551615", sevenReply]) []).result =
        .error (.refused (.unsendable
          (.illegal (inquiryUrl localAuthority segments (.floating lastNumber))))) := by
  have hrecut := recut_eight_seven h hlong (by decide) brings_eightReply_last
  obtain ⟨madeListing, madeResolving⟩ := List.forall_mem_append.1 hrecut.made
  have hlast : (localClient segments).ask floatingListing lastNumber =
      .error (.illegal (inquiryUrl localAuthority segments (.floating lastNumber))) := by
    have hpairs : (Form.encode (Inquiry.floating lastNumber).pairs).length = 37 := by decide +kernel
    refine (floatingListing_askedBy.request? _ lastNumber).symm.trans
      ((request?_localClient h _).trans (if_neg ?_))
    rw [length_localUrl, hpairs]
    show ¬(slashed segments).length + 12 + 37 + 14 ≤ 65534
    omega
  have replies : RepliesFrom (scripted [webReply, eightReply "18446744073709551615", sevenReply]) 0
      ([webReply] ++ [eightReply "18446744073709551615", sevenReply]) := repliesFrom_scripted _ []
  apply run_runningServers_unresolved hrecut.listed ⟨webEntry, List.mem_cons_self, by decide⟩
    madeListing
  · exact replies.left
  · intro past hpast
    obtain ⟨r, hr⟩ := madeResolving _ List.mem_cons_self
    have hask : (localClient segments).ask floatingListing 1 = .ok r :=
      (floatingListing_askedBy.request? _ 1).symm.trans hr
    have hreply : scripted [webReply, eightReply "18446744073709551615", sevenReply] past
        (.request r) = eightReply "18446744073709551615" := replies.tail.head hpast r
    have hbrings := brings_eightReply_last
    rw [← hreply] at hbrings
    rw [list, run_listFrom_next (l := floatingListing) hask hbrings rfl]
    simp only [run_listFrom_unsendable hlast]
    rfl

theorem isSegment_replicate {n : Nat} (hn : n ≠ 0) :
    ∀ s ∈ [List.replicate n 'a'], IsSegment s := by
  intro s hs
  obtain rfl := List.mem_singleton.1 hs
  refine ⟨mt (List.replicate_eq_nil_iff _).1 hn, fun c hc => ?_⟩
  rw [List.eq_of_mem_replicate hc]
  decide

theorem length_slashed_replicate (n : Nat) : (slashed [List.replicate n 'a']).length = n + 1 := by
  rw [slashed, List.flatMap_singleton, List.length_cons, List.length_replicate]

/-- With a long endpoint, the same floating addresses on two pages are not told if the second page
    has the greatest number there is. -/
theorem recut_unsendable :
    let segments := [List.replicate 65475 'a']
    let c := localClient segments
    c.Recut "" [localStep segments (.servers "" 1) webReply]
      [localStep segments (.floating 1) bothReply]
      [localStep segments (.floating 1) (eightReply "18446744073709551615"),
        localStep segments (.floating lastNumber) sevenReply]
      [webEntry] [sevenEntry, eightEntry] [eightEntry, sevenEntry] ∧
    ((c.runningServers "").run (scripted [webReply, bothReply]) []).result = .ok [webServer] ∧
    ((c.runningServers "").run
      (scripted [webReply, eightReply "18446744073709551615", sevenReply]) []).result =
        .error (.refused (.unsendable
          (.illegal (inquiryUrl localAuthority segments (.floating lastNumber))))) := by
  have hlength := length_slashed_replicate 65475
  have hsegments := isSegment_replicate (n := 65475) (by decide)
  generalize [List.replicate 65475 'a'] = segments at hlength hsegments
  have hlong : (slashed segments).length ≤ 65479 := by omega
  exact ⟨recut_eight_seven hsegments hlong (by decide) brings_eightReply_last,
    run_webReply_bothReply hsegments hlong, run_eightReply_last hsegments hlong (by omega)⟩

end Client

end CloudRoster.Provider
