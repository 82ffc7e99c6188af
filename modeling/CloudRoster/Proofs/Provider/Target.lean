/-
  What a request asks for is what the caller meant, whatever text the caller gives.

  A caller chooses names, label selectors, page numbers and the endpoint.  A plain endpoint is
  `http://`, an authority, segments of letters and digits and any number of slashes (`IsEndpoint`).

  1. **Inquiries** - the pairs of an inquiry say which one it is (`Inquiry.pairs_injective`).
  2. **Endpoints** - slashes at the end do not count (`IsEndpoint.endpoint_ofSettings`).
  3. **Targets** - `Targets segments i r` says that a request line names the segments, the resource
     and, after its only question mark, a query that decodes to the pairs of the inquiry.  For a
     plain endpoint every request is of this kind (`request?_targets`), because its URL is read as
     it is written (`request?_plain`).
  4. **Calls** - a call of the client asks for nothing but its own inquiries (`AsksOnly`).

  **Headline** (`requests_unbent`): every request of every call has the target of its inquiry, so
  different inquiries have different request lines, and slashes at the end make no difference.
-/
import CloudRoster.Proofs.Http.Endpoint
import CloudRoster.Proofs.Provider.FailFast

namespace CloudRoster.Provider

open Http Dialogue Text

/-! ## Inquiries -/

namespace Inquiry

theorem toString_number_injective {m n : UInt64} (h : toString m = toString n) : m = n := by
  have hdigits : decimal m.toNat = decimal n.toNat := String.ofList_injective h
  have hnatural := natural?_decimal m.toNat
  rw [hdigits, natural?_decimal] at hnatural
  exact UInt64.toNat_inj.1 (Option.some.inj hnatural).symm

/-- The pairs say which inquiry it is. -/
theorem pairs_injective : Function.Injective pairs := by
  intro i j h
  cases i with
  | lookup name =>
    cases j with
    | lookup name' => simpa [pairs] using h
    | servers => simp [pairs] at h
    | floating => simp [pairs] at h
  | floating number =>
    cases j with
    | lookup => simp [pairs] at h
    | servers => simp [pairs] at h
    | floating number' =>
      simp only [pairs, List.cons.injEq, Prod.mk.injEq, true_and, and_true] at h
      rw [toString_number_injective h]
  | servers selector number =>
    cases j with
    | lookup => simp [pairs] at h
    | floating => simp [pairs] at h
    | servers selector' number' =>
      simp only [pairs] at h
      by_cases hempty : selector = ""
      · by_cases hempty' : selector' = ""
        · simp only [hempty, hempty', if_true, List.nil_append, List.cons_append, List.cons.injEq,
            Prod.mk.injEq, true_and, and_true] at h
          rw [hempty, hempty', toString_number_injective h]
        · simp [hempty, hempty'] at h
      · by_cases hempty' : selector' = ""
        · simp [hempty, hempty'] at h
        · simp only [hempty, hempty', if_false, List.nil_append, List.cons_append, List.cons.injEq,
            Prod.mk.injEq, true_and, and_true] at h
          rw [h.1, toString_number_injective h.2]

/-- What is asked for, without the slash before it. -/
def resource : Inquiry → List Char
  | lookup _ => ['s', 'e', 'r', 'v', 'e', 'r', 's']
  | servers _ _ => ['s', 'e', 'r', 'v', 'e', 'r', 's']
  | floating _ => ['f', 'l', 'o', 'a', 't', 'i', 'n', 'g', '_', 'i', 'p', 's']

theorem toList_path (i : Inquiry) : i.path.toList = slashed [i.resource] := by
  have servers : "/servers".toList = slashed [['s', 'e', 'r', 'v', 'e', 'r', 's']] := by
    decide +kernel
  have floating : "/floating_ips".toList =
      slashed [['f', 'l', 'o', 'a', 't', 'i', 'n', 'g', '_', 'i', 'p', 's']] := by
    decide +kernel
  cases i with
  | lookup => exact servers
  | servers => exact servers
  | floating => exact floating

theorem isSegment_resource (i : Inquiry) : IsSegment i.resource := by
  have servers : IsSegment ['s', 'e', 'r', 'v', 'e', 'r', 's'] :=
    ⟨List.cons_ne_nil _ _, List.all_eq_true.1 rfl⟩
  have floating : IsSegment ['f', 'l', 'o', 'a', 't', 'i', 'n', 'g', '_', 'i', 'p', 's'] :=
    ⟨List.cons_ne_nil _ _, List.all_eq_true.1 rfl⟩
  cases i with
  | lookup => exact servers
  | servers => exact servers
  | floating => exact floating

theorem isSegment_append_resource {segments : List (List Char)}
    (h : ∀ s ∈ segments, IsSegment s) (i : Inquiry) :
    ∀ s ∈ segments ++ [i.resource], IsSegment s := by
  intro s hs
  rcases List.mem_append.1 hs with hs | hs
  · exact h s hs
  · rw [List.mem_singleton.1 hs]
    exact i.isSegment_resource

end Inquiry

/-! ## Endpoints -/

/-- An endpoint: `http://`, an authority such as a host with a port number, segments of letters and
    digits, and any number of slashes. -/
structure IsEndpoint (endpoint : String) (authority : List Char) (segments : List (List Char)) :
    Prop where
  isAuthority : IsAuthority authority
  plain : ∀ s ∈ segments, s ≠ [] ∧ ∀ c ∈ s, c.isAlphanum = true
  text : ∃ n, endpoint.toList = ['h', 't', 't', 'p', ':', '/', '/'] ++
    (authority ++ slashed segments) ++ List.replicate n '/'

section

variable {endpoint : String} {authority : List Char} {segments : List (List Char)}

theorem IsEndpoint.isSegment (h : IsEndpoint endpoint authority segments) :
    ∀ s ∈ segments, IsSegment s := by
  intro s hs
  obtain ⟨hne, hchars⟩ := h.plain s hs
  refine ⟨hne, fun c hc => ?_⟩
  rw [isSegmentChar, hchars c hc]
  rfl

/-- Slashes behind segments are stripped, and nothing else is. -/
theorem stripEnd_slashed (h : ∀ s ∈ segments, IsSegment s) (n : Nat) :
    stripEnd (· == '/') (slashed segments ++ List.replicate n '/') = slashed segments := by
  refine stripEnd_append_of_all (fun c hc => ?_) fun c hc => ?_
  · rw [List.eq_of_mem_replicate hc]
    rfl
  · rcases List.eq_nil_or_concat segments with rfl | ⟨init, s, rfl⟩
    · cases hc
    · have hs := h s (by simp)
      rw [List.concat_eq_append, slashed_append, slashed, slashed, List.flatMap_singleton,
        List.getLast?_append_of_ne_nil _ (List.cons_ne_nil _ _), ← List.singleton_append,
        List.getLast?_append_of_ne_nil _ hs.1] at hc
      have hnot := (isSegmentChar_spec (hs.2 c (List.mem_of_getLast? hc))).2.1
      exact beq_false_of_ne fun hslash => hnot (hslash ▸ List.mem_cons_self)

/-- A client has an endpoint without the slashes at the end. -/
theorem endpoint_ofSettings {settings : Settings} {path : List Char}
    (hauthority : IsAuthority authority)
    (htext : settings.endpoint.toList =
      ['h', 't', 't', 'p', ':', '/', '/'] ++ (authority ++ path)) :
    (Client.ofSettings settings).endpoint = String.ofList
      (['h', 't', 't', 'p', ':', '/', '/'] ++ (authority ++ stripEnd (· == '/') path)) := by
  have hlast : ∀ c, (['h', 't', 't', 'p', ':', '/', '/'] ++ authority).getLast? = some c →
      (c == '/') = false := by
    intro c hc
    rw [List.getLast?_append_of_ne_nil _ hauthority.ne_nil] at hc
    have hnot := (hauthority.chars c (List.mem_of_getLast? hc)).1
    exact beq_false_of_ne fun hslash => hnot (hslash ▸ List.mem_cons_self)
  rw [Client.ofSettings, htext, ← List.append_assoc, stripEnd_append_of_last hlast,
    List.append_assoc]

theorem IsEndpoint.endpoint_ofSettings {settings : Settings}
    (h : IsEndpoint settings.endpoint authority segments) :
    (Client.ofSettings settings).endpoint =
      String.ofList (['h', 't', 't', 'p', ':', '/', '/'] ++ (authority ++ slashed segments)) := by
  obtain ⟨n, htext⟩ := h.text
  rw [List.append_assoc, List.append_assoc] at htext
  rw [Provider.endpoint_ofSettings h.isAuthority htext, stripEnd_slashed h.isSegment]

end

/-! ## Targets -/

/-- The line of a request names the segments, the resource of an inquiry and, after the only
    question mark, a query in ASCII that decodes to the pairs of the inquiry. -/
def Targets (segments : List (List Char)) (i : Inquiry) (r : Request) : Prop :=
  ∃ query : List Char,
    r.line = "GET " ++ String.ofList (slashed segments ++ i.path.toList ++ '?' :: query) ∧
    (∀ c ∈ query, c.toNat < 0x80 ∧ c ≠ '?') ∧ Form.decode? query = some i.pairs

/-- The URL of an inquiry. -/
def inquiryUrl (a : Authority) (segments : List (List Char)) (i : Inquiry) : Url :=
  ⟨a, .http, false, slashed (segments ++ [i.resource]), some (Form.encode i.pairs), none⟩

namespace Client

/-- A client whose endpoint is plain and ends in no slash. -/
structure IsPlain (c : Client) (authority : List Char) (segments : List (List Char)) : Prop where
  endpoint : c.endpoint =
    String.ofList (['h', 't', 't', 'p', ':', '/', '/'] ++ (authority ++ slashed segments))
  isAuthority : IsAuthority authority
  isSegment : ∀ s ∈ segments, IsSegment s

variable {c : Client} {authority : List Char} {segments : List (List Char)}

/-- The URL for an inquiry is read as it is written. -/
theorem IsPlain.parse (h : c.IsPlain authority segments) (i : Inquiry) :
    Url.parse (c.endpoint ++ i.path) = (Authority.read .http authority).map fun p =>
      ⟨p.1, .http, false, slashed (segments ++ [i.resource]), none, none⟩ := by
  have htext : (c.endpoint ++ i.path).toList = ['h', 't', 't', 'p', ':', '/', '/'] ++
      (authority ++ slashed (segments ++ [i.resource])) := by
    rw [String.toList_append, h.endpoint, String.toList_ofList, i.toList_path, slashed_append,
      List.append_assoc, List.append_assoc]
  exact parse_plain htext h.isAuthority (i.isSegment_append_resource h.isSegment) (by simp)

/-- Of the URL of an inquiry the authority has to be legal, and the rest short enough. -/
theorem isLegal_inquiryUrl (a : Authority) (segments : List (List Char)) (i : Inquiry) :
    (inquiryUrl a segments i).isLegal =
      (!a.text.any Url.isIllegal &&
        decide ((inquiryUrl a segments i).text.length ≤ Url.mostCharacters)) :=
  rfl

/-- Once the authority is read, a request is made of the parts of its URL. -/
theorem IsPlain.request?_eq (h : c.IsPlain authority segments) {a : Authority}
    {rest : List Char} (hread : Authority.read .http authority = .ok (a, rest)) (i : Inquiry) :
    c.request? i =
      if a.host.isNone then .error (.foreign
        ⟨a, .http, false, slashed (segments ++ [i.resource]), none, none⟩)
      else if !isHeaderText c.token then .error .header
      else if (inquiryUrl a.withoutUser segments i).isLegal then
        .ok ⟨inquiryUrl a.withoutUser segments i, c.token⟩
      else .error (.illegal (inquiryUrl a.withoutUser segments i)) := by
  rw [request?, Request.make, h.parse, hread]
  rfl

/-- The URL of a request is that of its inquiry.  Only its length can keep one inquiry from being
    made and not another. -/
theorem request?_plain (h : c.IsPlain authority segments) :
    (∀ i, ∃ fault, c.request? i = .error fault) ∨
      ∃ a, ∀ i, c.request? i =
        if (inquiryUrl a segments i).text.length ≤ Url.mostCharacters then
          .ok ⟨inquiryUrl a segments i, c.token⟩
        else .error (.illegal (inquiryUrl a segments i)) := by
  cases hread : Authority.read .http authority with
  | error fault =>
    refine .inl fun i => ⟨.url fault, ?_⟩
    rw [request?, Request.make, h.parse, hread]
    rfl
  | ok p =>
    obtain ⟨a, rest⟩ := p
    have hmake := h.request?_eq hread
    by_cases hhost : a.host.isNone = true
    · exact .inl fun i => ⟨_, (hmake i).trans (if_pos hhost)⟩
    · by_cases htoken : (!isHeaderText c.token) = true
      · refine .inl fun i => ⟨.header, ?_⟩
        rw [hmake, if_neg hhost, if_pos htoken]
      · by_cases hname : a.withoutUser.text.any Url.isIllegal = true
        · -- a name that no request line may hold is in every URL
          refine .inl fun i => ⟨.illegal (inquiryUrl a.withoutUser segments i), ?_⟩
          have hillegal : ¬(inquiryUrl a.withoutUser segments i).isLegal = true := by
            rw [isLegal_inquiryUrl, hname]
            exact Bool.false_ne_true
          rw [hmake, if_neg hhost, if_neg htoken, if_neg hillegal]
        · refine .inr ⟨a.withoutUser, fun i => ?_⟩
          have hname' : a.withoutUser.text.any Url.isIllegal = false := Bool.eq_false_iff.2 hname
          rw [hmake, if_neg hhost, if_neg htoken, isLegal_inquiryUrl, hname', Bool.not_false,
            Bool.true_and]
          simp only [decide_eq_true_eq]

theorem targets_inquiryUrl (a : Authority) (segments : List (List Char)) (i : Inquiry)
    (token : String) : Targets segments i ⟨inquiryUrl a segments i, token⟩ := by
  refine ⟨Form.encode i.pairs, ?_, ?_, Form.decode?_encode i.pairs⟩
  · rw [Request.line, Url.target, inquiryUrl, slashed_append, i.toList_path]
    rfl
  · intro ch hch
    refine ⟨Form.encode_ascii i.pairs ch hch, ?_⟩
    rintro rfl
    exact Form.notMem_encode (by decide) (by decide) (by decide) i.pairs hch

theorem request?_targets (h : c.IsPlain authority segments) {i : Inquiry} {r : Request}
    (hr : c.request? i = .ok r) : Targets segments i r := by
  rcases request?_plain h with hnone | ⟨a, hall⟩
  · obtain ⟨fault, hfault⟩ := hnone i
    exact nomatch hfault.symm.trans hr
  · rw [hall i] at hr
    split at hr
    · cases hr
      exact targets_inquiryUrl a segments i c.token
    · cases hr

end Client

/-- A request line says which inquiry it is for: there is one question mark in it. -/
theorem Targets.inquiry_eq {segments segments' : List (List Char)} {i j : Inquiry} {r r' : Request}
    (hsegments : ∀ s ∈ segments, IsSegment s) (hsegments' : ∀ s ∈ segments', IsSegment s)
    (h : Targets segments i r) (h' : Targets segments' j r') (hline : r.line = r'.line) :
    i = j := by
  have hnot : ∀ {segments : List (List Char)} {i : Inquiry}, (∀ s ∈ segments, IsSegment s) →
      '?' ∉ slashed segments ++ i.path.toList := by
    intro segments i hsegments hmem
    rw [i.toList_path, ← slashed_append] at hmem
    rcases mem_slashed (i.isSegment_append_resource hsegments) hmem with hslash | hchar
    · exact absurd hslash (by decide)
    · exact absurd hchar (by decide)
  obtain ⟨query, htarget, -, hquery⟩ := h
  obtain ⟨query', htarget', -, hquery'⟩ := h'
  rw [htarget, htarget', String.append_right_inj, String.ofList_inj] at hline
  have hcut := congrArg (cut '?') hline
  rw [cut_append (hnot hsegments), cut_append (hnot hsegments')] at hcut
  obtain ⟨-, hsame⟩ := Prod.mk.inj hcut
  obtain rfl := Option.some.inj hsame
  exact Inquiry.pairs_injective (Option.some.inj (hquery.symm.trans hquery'))

/-! ## Calls -/

/-- What a listing of the running servers asks. -/
def Inquiry.OfListing (selector : String) : Inquiry → Prop
  | lookup _ => False
  | servers selector' _ => selector' = selector
  | floating _ => True

/-- What a discovery asks: first for this machine, if the settings name no location. -/
def Inquiry.OfDiscovery (settings : Settings) (host : FileContent) : Inquiry → Prop
  | lookup name =>
    settings.location = none ∧ ∃ content, host.text = .ok content ∧ name = trim content
  | servers selector _ => selector = settings.labelSelector
  | floating _ => True

namespace Client

variable {α : Type} {c : Client}

/-- Every request of a transcript is made for an inquiry of some kind. -/
def AsksOnly (c : Client) (t : Transcript Answer α) (kind : Inquiry → Prop) : Prop :=
  ∀ x ∈ requests t.exchanges, ∃ i, kind i ∧ c.request? i = .ok x.1

theorem Account.asksOnly {t : Transcript Answer α} {steps : List Step} (h : c.Account t steps)
    {kind : Inquiry → Prop} (hkind : ∀ s ∈ steps, kind s.inquiry) : c.AsksOnly t kind := by
  intro x hx
  rw [h.requested] at hx
  obtain ⟨s, hs, rfl⟩ := List.mem_map.1 hx
  exact ⟨s.inquiry, hkind s hs, h.made s hs⟩

theorem asksOnly_serverNamed (c : Client) (name : String) (world : World Answer)
    (past : List (Exchange Answer)) :
    c.AsksOnly ((c.serverNamed name).run world past) (· = .lookup name) := by
  obtain ⟨steps, h⟩ := account_serverNamed c name world past
  exact h.account.asksOnly h.inquiry

theorem asksOnly_runningServers (c : Client) (selector : String) (world : World Answer)
    (past : List (Exchange Answer)) :
    c.AsksOnly ((c.runningServers selector).run world past) (Inquiry.OfListing selector) := by
  obtain ⟨servers, floating, h⟩ := account_runningServers c selector world past
  refine h.account.asksOnly fun s hs => ?_
  rcases List.mem_append.1 hs with hs | hs
  · obtain ⟨number, hi⟩ := h.servers_inquiry s hs
    rw [hi]
    rfl
  · obtain ⟨number, hi⟩ := h.floating_inquiry s hs
    rw [hi]
    trivial

theorem asksOnly_addresses (c : Client) (path : String) (settings : Settings)
    (world : World Answer) (past : List (Exchange Answer)) :
    c.AsksOnly (((Discovery.addresses path settings).via c.answer).run world past)
      (Inquiry.OfDiscovery settings (world past .hostname)) := by
  obtain ⟨lookup, servers, floating, h⟩ := account_addresses c path settings world past
  refine h.account.asksOnly fun s hs => ?_
  rcases List.mem_append.1 hs with hs | hs
  · obtain ⟨hlocation, content, hcontent, hi⟩ := h.lookup_inquiry s hs
    rw [hi]
    exact ⟨hlocation, content, hcontent, rfl⟩
  · rcases List.mem_append.1 hs with hs | hs
    · obtain ⟨number, hi⟩ := h.servers_inquiry s hs
      rw [hi]
      rfl
    · obtain ⟨number, hi⟩ := h.floating_inquiry s hs
      rw [hi]
      trivial

/-! ## Headline -/

/-- **No text bends a request.**  With a plain endpoint, in order: every request that can be made
    has the target of its inquiry; equal request lines are for equal inquiries; unless no request
    can be made at all, only its length keeps one from being made; slashes at the end of the
    endpoint make no difference to a client or a discovery; and every request of a lookup, of a
    listing of the running servers and of a discovery has the target of one of their inquiries. -/
theorem requests_unbent {settings : Settings} {authority : List Char}
    {segments : List (List Char)} (h : IsEndpoint settings.endpoint authority segments) :
    let c := ofSettings settings
    (∀ i r, c.request? i = .ok r → Targets segments i r) ∧
    (∀ i j r r', c.request? i = .ok r → c.request? j = .ok r' → r.line = r'.line → i = j) ∧
    ((∀ i, ∃ fault, c.request? i = .error fault) ∨
      ∀ i, (∃ r, c.request? i = .ok r) ∨
        ∃ u, c.request? i = .error (.illegal u) ∧ Url.mostCharacters < u.text.length) ∧
    (∀ endpoint, IsEndpoint endpoint authority segments →
      ofSettings { settings with endpoint } = c ∧
      ∀ path, addresses path { settings with endpoint } = addresses path settings) ∧
    ∀ world past,
      (∀ name, ∀ x ∈ requests ((c.serverNamed name).run world past).exchanges,
        Targets segments (.lookup name) x.1) ∧
      (∀ selector, ∀ x ∈ requests ((c.runningServers selector).run world past).exchanges,
        ∃ i, Inquiry.OfListing selector i ∧ Targets segments i x.1) ∧
      ∀ path, ∀ x ∈ requests ((addresses path settings).run world past).exchanges,
        ∃ i, Inquiry.OfDiscovery settings (world past .hostname) i ∧ Targets segments i x.1 := by
  intro c
  have hplain : c.IsPlain authority segments := ⟨h.endpoint_ofSettings, h.isAuthority, h.isSegment⟩
  have htargets : ∀ i r, c.request? i = .ok r → Targets segments i r :=
    fun i r hr => request?_targets hplain hr
  refine ⟨htargets, ?_, ?_, ?_, fun world past => ⟨?_, ?_, ?_⟩⟩
  · intro i j r r' hr hr' hline
    exact (htargets i r hr).inquiry_eq h.isSegment h.isSegment (htargets j r' hr') hline
  · rcases request?_plain hplain with hnone | ⟨a, hall⟩
    · exact .inl hnone
    · refine .inr fun i => ?_
      rw [hall i]
      by_cases hlength : (inquiryUrl a segments i).text.length ≤ Url.mostCharacters
      · exact .inl ⟨_, if_pos hlength⟩
      · exact .inr ⟨_, if_neg hlength, Nat.lt_of_not_le hlength⟩
  · intro endpoint hendpoint
    have hother : IsEndpoint { settings with endpoint }.endpoint authority segments := hendpoint
    have hclient : ofSettings { settings with endpoint } = c := by
      have hsame : (ofSettings { settings with endpoint }).endpoint = c.endpoint :=
        hother.endpoint_ofSettings.trans h.endpoint_ofSettings.symm
      exact congrArg (Client.mk · settings.apiToken) hsame
    refine ⟨hclient, fun path => ?_⟩
    unfold addresses
    rw [hclient]
    rfl
  · intro name x hx
    obtain ⟨i, rfl, hr⟩ := asksOnly_serverNamed c name world past x hx
    exact htargets _ _ hr
  · intro selector x hx
    obtain ⟨i, hi, hr⟩ := asksOnly_runningServers c selector world past x hx
    exact ⟨i, hi, htargets _ _ hr⟩
  · intro path x hx
    obtain ⟨i, hi, hr⟩ := asksOnly_addresses c path settings world past x hx
    exact ⟨i, hi, htargets _ _ hr⟩

/-- Settings whose endpoint ends in slashes. -/
def slashedSettings : Settings := ⟨"t", none, "", .publicV4, "http://[::1]:8080/v1//"⟩

theorem slashedSettings_isEndpoint : IsEndpoint slashedSettings.endpoint
    ['[', ':', ':', '1', ']', ':', '8', '0', '8', '0'] [['v', '1']] where
  isAuthority := ⟨List.cons_ne_nil _ _, by simp [isBreak]⟩
  plain := List.forall_mem_singleton.2 ⟨List.cons_ne_nil _ _, List.all_eq_true.1 rfl⟩
  text := ⟨2, by decide +kernel⟩

/-- A label selector that looks like a parameter is a value all the same. -/
theorem requests_unbent_slashed :
    IsEndpoint slashedSettings.endpoint ['[', ':', ':', '1', ']', ':', '8', '0', '8', '0']
      [['v', '1']] ∧
    ∃ r, (ofSettings slashedSettings).request? (.servers "a&page=2" 1) = .ok r ∧
      r.line = "GET /v1/servers?status=running&label_selector=a%26page%3D2&page=1&per_page=50" ∧
      Targets [['v', '1']] (.servers "a&page=2" 1) r := by
  refine ⟨slashedSettings_isEndpoint, ?_⟩
  have hline : (((ofSettings slashedSettings).request? (.servers "a&page=2" 1)).map Request.line) =
      .ok "GET /v1/servers?status=running&label_selector=a%26page%3D2&page=1&per_page=50" := by
    decide +kernel
  cases hr : (ofSettings slashedSettings).request? (.servers "a&page=2" 1) with
  | error fault =>
    rw [hr] at hline
    cases hline
  | ok r =>
    rw [hr] at hline
    exact ⟨r, rfl, Except.ok.inj hline,
      (requests_unbent slashedSettings_isEndpoint).1 _ _ hr⟩

end Client

end CloudRoster.Provider
