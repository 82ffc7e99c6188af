/-
  The first request of a discovery in a location.

  An endpoint names a place - a host with a port number - and a path (`NamesPlace`).  Any path will
  do: whatever has to be resolved or encoded in it, what stands behind it is asked for.

  1. **Its URL** - the place, the path with `/servers` behind it, and the query for the first page
     of the servers that match a selector (`firstPage`, `asksFirstPage`).
  2. **When it is made** - if a header may hold the token, the URL decides (`request?_firstPage`).
  3. **What comes first** - in a location, a discovery begins with that request, or fails before it
     asks anything if there is none (`run_addresses_asked`, `run_addresses_unsendable`).
-/
import CloudRoster.Proofs.Provider.Target

namespace CloudRoster.Provider

open Http Dialogue Text

/-! ## Its URL -/

/-- An endpoint is `http://`, a place without a user, and a path without a question mark and a
    number sign. -/
structure NamesPlace (endpoint : String) (place : Authority) (path : List Char) : Prop where
  text : ∃ authority, IsAuthority authority ∧ '@' ∉ authority ∧
    Authority.read .http authority = .ok (place, []) ∧
    endpoint.toList = ['h', 't', 't', 'p', ':', '/', '/'] ++ (authority ++ path)
  slash : path = [] ∨ path.head? = some '/'
  plain : ∀ c ∈ path, c ∉ ['?', '#']

/-- The URL of the first page of servers; slashes at the end of the path do not count. -/
def firstPage (place : Authority) (path : List Char) (selector : String) : Url :=
  ⟨place, .http, false, pathOf .http (unbroken (stripEnd (· == '/') path) ++ "/servers".toList),
    some (Form.encode (Inquiry.servers selector 1).pairs), none⟩

/-- A request in the name of a token for the first page of the running servers that match a
    selector, if there is one. -/
structure AsksFirstPage (r : Request) (token selector : String) : Prop where
  line : ∃ directory query, r.line =
      "GET " ++ String.ofList (directory ++ "/servers".toList ++ '?' :: query) ∧
    Form.decode? query = some
      (("status", "running") :: (if selector = "" then [] else [("label_selector", selector)]) ++
        [("page", "1"), ("per_page", "50")])
  authorization : r.authorization = "Bearer " ++ token

theorem asksFirstPage (place : Authority) (path : List Char) (token selector : String) :
    AsksFirstPage ⟨firstPage place path selector, token⟩ token selector where
  line := by
    have hservers : "/servers".toList = '/' :: (Inquiry.servers selector 1).resource :=
      (Inquiry.servers selector 1).toList_path.trans (List.append_nil _)
    obtain ⟨directory, hdirectory⟩ := pathOf_append_segment
      (Inquiry.servers selector 1).isSegment_resource (unbroken (stripEnd (· == '/') path))
    refine ⟨directory, Form.encode (Inquiry.servers selector 1).pairs, ?_, Form.decode?_encode _⟩
    rw [Request.line, Url.target, firstPage, hservers, hdirectory]
    rfl
  authorization := rfl

/-- It is no shorter than the selector. -/
theorem length_le_text_firstPage (place : Authority) (path : List Char) {selector : String}
    (hne : selector ≠ "") :
    selector.length ≤ (firstPage place path selector).text.length := by
  have hmem : ("label_selector", selector) ∈ (Inquiry.servers selector 1).pairs := by
    simp [Inquiry.pairs, hne]
  exact Url.length_le_text_of_mem { firstPage place path selector with query := none } hmem

/-! ## When it is made -/

/-- Of an authority without an at sign nobody is the user; and with `http` there is a host. -/
theorem read_http_spec {cs : List Char} (hat : '@' ∉ cs) {a : Authority} {rest : List Char}
    (h : Authority.read .http cs = .ok (a, rest)) :
    a.user = [] ∧ a.password = none ∧ a.host.isSome = true := by
  have huser : Authority.userAndPlace cs = (none, cs) := by
    rw [Authority.userAndPlace, pieces_eq_singleton hat]
    rfl
  simp only [Authority.read, huser] at h
  rcases hnumber : Authority.hostAndNumber cs with ⟨text, number⟩
  simp only [hnumber] at h
  cases hhost : Http.Host.parse text with
  | error fault =>
    simp [Authority.readHost, Scheme.isKnown, hhost, Except.map, bind, Except.bind] at h
  | ok host =>
    cases hdigits : Authority.readNumber (number.map fun cs => cs.takeWhile (· != '\\')) with
    | error fault =>
      simp [Authority.readHost, Scheme.isKnown, hhost, hdigits, Except.map, bind, Except.bind] at h
    | ok digits =>
      simp only [Authority.readHost, Scheme.isKnown, if_true, hhost, hdigits, Except.map, bind,
        Except.bind] at h
      cases h
      exact ⟨rfl, rfl, rfl⟩

theorem withoutUser_of_nobody {a : Authority} (huser : a.user = [])
    (hpassword : a.password = none) :
    a.withoutUser = a := by
  rw [Authority.withoutUser, huser, hpassword]
  simp

/-- Its path is still one without the slashes at the end. -/
theorem NamesPlace.stripped {endpoint : String} {place : Authority} {path : List Char}
    (h : NamesPlace endpoint place path) :
    (stripEnd (· == '/') path = [] ∨ (stripEnd (· == '/') path).head? = some '/') ∧
      ∀ c ∈ stripEnd (· == '/') path, c ∉ ['?', '#'] := by
  have hpath := stripEnd_append (· == '/') path
  constructor
  · cases hstripped : stripEnd (· == '/') path with
    | nil => exact .inl rfl
    | cons c rest =>
      rw [hstripped] at hpath
      rcases h.slash with hnil | hhead
      · rw [hnil] at hpath
        cases hpath
      · rw [← hpath] at hhead
        exact .inr hhead
  · intro c hc
    rw [← hpath] at h
    exact h.plain c (List.mem_append_left _ hc)

/-- A header may hold any text of visible ASCII. -/
theorem isHeaderText_of_visible {s : String} (h : ∀ c ∈ s.toList, 0x20 ≤ c.toNat ∧ c.toNat < 0x7F) :
    isHeaderText s = true := by
  rw [isHeaderText, List.all_eq_true, utf8_eq_flatMap]
  intro b hb
  obtain ⟨c, hc, hb⟩ := List.mem_flatMap.1 hb
  obtain ⟨hlow, hhigh⟩ := h c hc
  rw [utf8EncodeChar_of_ascii (by omega), List.mem_singleton] at hb
  subst hb
  have hoctet : (octet c).toNat = c.toNat := by
    rw [octet, UInt8.toNat_ofNat']
    omega
  have hlow' : (0x20 : UInt8) ≤ octet c := by
    rw [UInt8.le_iff_toNat_le, hoctet]
    exact hlow
  have hne : octet c ≠ 0x7F := by
    intro heq
    rw [heq] at hoctet
    exact absurd hoctet (Nat.ne_of_gt hhigh)
  simp [hlow', hne]

namespace Client

variable {s : Settings} {place : Authority} {path : List Char}

/-- The first page is asked for at its URL, unless no request line can name it. -/
theorem request?_firstPage (hplace : NamesPlace s.endpoint place path)
    (htoken : isHeaderText s.apiToken = true) (selector : String) :
    (ofSettings s).request? (.servers selector 1) =
      if (firstPage place path selector).isLegal then
        .ok ⟨firstPage place path selector, s.apiToken⟩
      else .error (.illegal (firstPage place path selector)) := by
  obtain ⟨authority, hauthority, hat, hread, htext⟩ := hplace.text
  obtain ⟨huser, hpassword, hhost⟩ := read_http_spec hat hread
  have hservers : "/servers".toList = slashed [(Inquiry.servers selector 1).resource] :=
    (Inquiry.servers selector 1).toList_path
  have hurl : ((ofSettings s).endpoint ++ "/servers").toList =
      ['h', 't', 't', 'p', ':', '/', '/'] ++ (authority ++ (stripEnd (· == '/') path ++
        slashed [(Inquiry.servers selector 1).resource])) := by
    rw [String.toList_append, endpoint_ofSettings hauthority htext, String.toList_ofList, hservers]
    simp only [List.append_assoc]
  obtain ⟨hslash, hchars⟩ := hplace.stripped
  have hparse := parse_http hurl hauthority hslash hchars
    (List.forall_mem_singleton.2 (Inquiry.servers selector 1).isSegment_resource)
    (List.cons_ne_nil _ _)
  rw [hread] at hparse
  have hnobody := withoutUser_of_nobody huser hpassword
  show Request.make ((ofSettings s).endpoint ++ "/servers") s.apiToken _ = _
  rw [Request.make, hparse]
  simp only [Except.map, Option.isNone_eq_false_iff.2 hhost, htoken, hnobody, Bool.not_true,
    Bool.false_eq_true, if_false]
  rfl

/-! ## What comes first -/

variable {location : String} {r : Request} {fault : RequestFault}

/-- In a location, a discovery requests what the listing requests, and fails where it fails. -/
theorem run_addresses_of_location (hostnamePath : String) (hlocation : s.location = some location)
    (world : World Answer) (past : List (Exchange Answer)) :
    let listing := ((ofSettings s).runningServers s.labelSelector).run world past
    let t := (addresses hostnamePath s).run world past
    t.exchanges = listing.exchanges ∧
      t.result = Discovery.outcome s (some location) listing.result := by
  have haddresses : addresses hostnamePath s =
      (Discovery.addressesIn s (some location)).via (ofSettings s).answer := by
    unfold addresses Discovery.addresses Discovery.effectiveLocation
    rw [hlocation]
    rfl
  rw [haddresses]
  exact run_via_addressesIn (ofSettings s) s (some location) world past

/-- The first page is what a discovery in a location asks for first. -/
theorem run_addresses_asked (hostnamePath : String) (hlocation : s.location = some location)
    (hr : (ofSettings s).request? (.servers s.labelSelector 1) = .ok r)
    (world : World Answer) (past : List (Exchange Answer)) :
    ∃ more, ((addresses hostnamePath s).run world past).exchanges =
      ⟨.request r, world past (.request r)⟩ :: more := by
  have hmake : (ofSettings s).ask (serverListing s.labelSelector) 1 = .ok r :=
    ((serverListing_askedBy s.labelSelector).request? _ 1).symm.trans hr
  obtain ⟨more, hservers⟩ := exists_exchanges_bind world past
    ((ofSettings s).list (serverListing s.labelSelector)) fun servers => do
      let table ← (ofSettings s).floatingTable servers
      accept (servers.mapM (ServerEntry.toServer table))
  obtain ⟨more', hlist⟩ := exists_exchanges_bind world past
    ((ofSettings s).get (serverListing s.labelSelector).path
      ((serverListing s.labelSelector).query 1) (serverListing s.labelSelector).readPage) _
  rw [(run_addresses_of_location hostnamePath hlocation world past).1, runningServers, hservers,
    list, listFrom_eq, hlist, run_get_made world past _ hmake]
  exact ⟨more' ++ more, rfl⟩

/-- A discovery in a location fails at once if no request can be made for the first page. -/
theorem run_addresses_unsendable (hostnamePath : String) (hlocation : s.location = some location)
    (hr : (ofSettings s).request? (.servers s.labelSelector 1) = .error fault)
    (world : World Answer) (past : List (Exchange Answer)) :
    ((addresses hostnamePath s).run world past).exchanges = [] ∧
      ((addresses hostnamePath s).run world past).result =
        .error (.refused (.unsendable fault)) := by
  have hmake : (ofSettings s).ask (serverListing s.labelSelector) 1 = .error fault :=
    ((serverListing_askedBy s.labelSelector).request? _ 1).symm.trans hr
  obtain ⟨hexchanges, hresult⟩ := run_addresses_of_location hostnamePath hlocation world past
  have hlisting : ((ofSettings s).runningServers s.labelSelector).run world past =
      ⟨.error (.refused (.unsendable fault)), [], []⟩ := by
    rw [runningServers, run_bind, list, listFrom_eq, run_bind,
      run_get_unsendable world past _ hmake]
    rfl
  rw [hlisting] at hexchanges hresult
  exact ⟨hexchanges, hresult⟩

end Client

end CloudRoster.Provider
