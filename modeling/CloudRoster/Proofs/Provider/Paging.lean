/-
  The course of a listing against any server.

  The server decides how long a listing is: each answer may announce a next page, or none, or a page
  that was there before.  What keeps the listing finite is one comparison, a page is followed only
  by one with a greater number, and what it returns is settled by where the answers stop.

  1. **One request** - `run_get_made` and `run_get_unsendable`: what `Client.get` asks and returns.
     A listing that has come to a page ends there or goes on to a later one (`run_listFrom_last`,
     `run_listFrom_next`).
  2. **All of them** - `Course c l number visits result`: a listing that is at page `number` makes
     the requests `visits` and ends with `result`.  There are four ways on from a page, one for each
     constructor, and every run takes one of them (`run_listFrom`).
  3. **What a course looks like** - by induction on it: the numbers, the announcements, the end.
  4. **What announces a page** - the place in the answer that `Page.next` is read from
     (`page?_next`).

  **Headline** (`list_visits`): all of this for a listing from its first page on.
-/
import Mathlib.Data.List.Chain
import Mathlib.Data.String.Basic
import CloudRoster.Proofs.Json.Record
import CloudRoster.Proofs.Provider.Writing

namespace CloudRoster.Provider

open Http Dialogue

variable {α : Type}

/-! ## What announces a page -/

/-- The next page that a page's metadata name, unless one of the places on the way to it is absent
    or null. -/
def announced? (v : Json) : Option Json :=
  (((v.member? "meta" 1).bind (Json.member? "pagination" 0)).bind
    (Json.member? "next_page" 0)).bind Json.present?

theorem pagination?_next {v : Json} {next : Option UInt64} (h : pagination? v = some next) :
    ((v.member? "next_page" 0).bind Json.present?).map Json.word? = next.map some := by
  simp only [pagination?, Option.bind_eq_bind, Option.bind_eq_some_iff] at h
  obtain ⟨fs, hfs, hnext⟩ := h
  have hlookup : fs.lookup "next_page" = v.member? "next_page" 0 :=
    Json.record?_lookup hfs (List.mem_singleton.2 rfl)
  rw [← hlookup]
  exact Json.map_present?_of_optional? hnext

theorem meta?_next {v : Json} {next : Option UInt64} (h : meta? v = some next) :
    (((v.member? "pagination" 0).bind (Json.member? "next_page" 0)).bind Json.present?).map
      Json.word? = next.map some := by
  simp only [meta?, Option.bind_eq_bind, Option.bind_eq_some_iff, Option.pure_def,
    Option.some.injEq] at h
  obtain ⟨fs, hfs, inner, hinner, rfl⟩ := h
  have hlookup : fs.lookup "pagination" = v.member? "pagination" 0 :=
    Json.record?_lookup hfs (List.mem_singleton.2 rfl)
  have hread := Json.map_present?_of_optional? hinner
  rw [← Json.bind_present?_member?, ← hlookup]
  cases hw : (fs.lookup "pagination").bind Json.present? with
  | none => rw [hw] at hread; cases inner <;> cases hread; rfl
  | some w =>
    rw [hw] at hread
    cases inner with
    | none => cases hread
    | some inner => exact pagination?_next (Option.some.inj hread)

/-- A page that reads names as the next one what its metadata announce, and announces nothing but
    numbers. -/
theorem page?_next {key : String} (hkey : key ≠ "meta") {item : Json → Option α} {v : Json}
    {p : Page α} (h : page? key item v = some p) :
    (announced? v).map Json.word? = p.next.map some := by
  simp only [page?, Option.bind_eq_bind, Option.bind_eq_some_iff, Option.pure_def,
    Option.some.injEq] at h
  obtain ⟨fs, hfs, items, -, inner, hinner, rfl⟩ := h
  have hplace : [key, "meta"].idxOf "meta" = 1 := by
    rw [List.idxOf_cons_ne _ hkey, List.idxOf_cons_self]
  have hlookup : fs.lookup "meta" = v.member? "meta" 1 := by
    rw [← hplace]
    exact Json.record?_lookup hfs (by simp)
  have hread := Json.map_present?_of_optional? hinner
  rw [announced?, ← Json.bind_present?_member? (v.member? "meta" 1), ← hlookup]
  cases hw : (fs.lookup "meta").bind Json.present? with
  | none => rw [hw] at hread; cases inner <;> cases hread; rfl
  | some w =>
    rw [hw] at hread
    cases inner with
    | none => cases hread
    | some inner => exact meta?_next (Option.some.inj hread)

/-- The page that follows a page with a number, if the one that it names is later. -/
def Page.later (p : Page α) (number : UInt64) : Option UInt64 := p.next.filter (number < ·)

theorem Page.later_eq_some {p : Page α} {number next : UInt64} :
    p.later number = some next ↔ p.next = some next ∧ number < next := by
  simp [Page.later, Option.filter_eq_some_iff]

/-! ## Replies -/

/-- An answer brings what was asked for: a success whose body is a document that reads. -/
def Brings (read : Json → Option α) (reply : Option Reply) (a : α) : Prop :=
  ∃ r v, reply = some r ∧ (200 ≤ r.status ∧ r.status ≤ 299) ∧ Json.ofBytes? r.body = some v ∧
    read v = some a

theorem isSuccess_iff {status : Status} :
    status.isSuccess = true ↔ 200 ≤ status ∧ status ≤ 299 := by
  unfold Status.isSuccess
  rw [Bool.and_eq_true, decide_eq_true_eq, decide_eq_true_eq]
  exact and_congr_right fun _ => Nat.lt_succ_iff

theorem readReply_eq_ok_iff {path : String} {read : Json → Option α} {reply : Option Reply}
    {a : α} :
    readReply path read reply = .ok a ↔ Brings read reply a := by
  constructor
  · intro h
    cases reply with
    | none => cases h
    | some r =>
      simp only [readReply] at h
      split at h
      · next hstatus =>
        split at h
        · next b hb =>
          cases h
          obtain ⟨v, hv, hread⟩ := Option.bind_eq_some_iff.1 hb
          exact ⟨r, v, rfl, isSuccess_iff.1 hstatus, hv, hread⟩
        · cases h
      · cases h
  · rintro ⟨r, v, rfl, hstatus, hv, hread⟩
    simp only [readReply, isSuccess_iff.2 hstatus, if_true, hv, Option.bind_some, hread]

namespace Client

/-! ## One request -/

section

variable {c : Client} {path : String} {query : List (String × String)}
  (world : World Answer) (past : List (Exchange Answer))

theorem run_get_unsendable {fault : RequestFault} (read : Json → Option α)
    (h : Request.make (c.endpoint ++ path) c.token query = .error fault) :
    (c.get path query read).run world past = ⟨.error (.refused (.unsendable fault)), [], []⟩ := by
  rw [get, h]
  rfl

/-- Data come from a success alone, whose body is a document that reads. -/
theorem readReply_eq_ok {read : Json → Option α} {reply : Option Reply} {a : α}
    (h : readReply path read reply = .ok a) :
    ∃ r json, reply = some r ∧ Json.ofBytes? r.body = some json ∧ read json = some a := by
  obtain ⟨r, json, hreply, -, hjson, hread⟩ := readReply_eq_ok_iff.1 h
  exact ⟨r, json, hreply, hjson, hread⟩

theorem run_get_made {r : Request} (read : Json → Option α)
    (h : Request.make (c.endpoint ++ path) c.token query = .ok r) :
    (c.get path query read).run world past =
      ⟨(readReply path read (world past (.request r))).mapError .refused,
        [⟨.request r, world past (.request r)⟩], []⟩ := by
  simp only [get, h, send, accept, run_bind, run_question, Transcript.andThen, run_orFail,
    List.append_nil]

/-- A lookup is one request, and converts the first server of the page that this brings. -/
theorem run_serverNamed {name : String} {r : Request} {page : Page ServerEntry}
    (h : Request.make (c.endpoint ++ "/servers") c.token [("name", name)] = .ok r)
    (brings : Brings serverPage? (world past (.request r)) page) :
    (c.serverNamed name).run world past =
      ⟨(page.items.head?.mapM (ServerEntry.toServer [])).mapError .refused,
        [⟨.request r, world past (.request r)⟩], []⟩ := by
  rw [serverNamed, run_bind, run_get_made world past serverPage? h, readReply_eq_ok_iff.2 brings]
  simp only [Transcript.andThen, Except.mapError, accept, run_orFail, List.append_nil]

end

/-! ## All requests of a listing -/

/-- One page that a listing asks for. -/
structure Visit where
  number : UInt64
  request : Request
  reply : Option Reply

/-- The question and its answer. -/
def Visit.exchange (v : Visit) : Exchange Answer := ⟨.request v.request, v.reply⟩

/-- What a visit brings back. -/
def Listing.pageOf (l : Listing α) (v : Visit) : Except Refusal (Page α) :=
  readReply l.path l.readPage v.reply

/-- The request for a page of a listing. -/
def ask (c : Client) (l : Listing α) (number : UInt64) : Except RequestFault Request :=
  Request.make (c.endpoint ++ l.path) c.token (l.query number)

/-- `Course c l number visits result`: a listing that has come to the page with a number makes the
    visits and has the result. -/
inductive Course (c : Client) (l : Listing α) :
    UInt64 → List Visit → Except Failure (List α) → Prop where
  /-- The page cannot be asked for. -/
  | unsendable {number : UInt64} {fault : RequestFault} (make : c.ask l number = .error fault) :
      Course c l number [] (.error (.refused (.unsendable fault)))
  /-- The answer is of no use. -/
  | failed {v : Visit} {e : Refusal} (make : c.ask l v.number = .ok v.request)
      (page : l.pageOf v = .error e) : Course c l v.number [v] (.error (.refused e))
  /-- No page follows. -/
  | last {v : Visit} {p : Page α} (make : c.ask l v.number = .ok v.request)
      (page : l.pageOf v = .ok p) (stop : p.later v.number = none) :
      Course c l v.number [v] (.ok p.items)
  /-- Another page follows. -/
  | next {v : Visit} {p : Page α} {number : UInt64} {visits : List Visit}
      {result : Except Failure (List α)} (make : c.ask l v.number = .ok v.request)
      (page : l.pageOf v = .ok p) (announced : p.next = some number) (later : v.number < number)
      (rest : Course c l number visits result) :
      Course c l v.number (v :: visits) (result.map (p.items ++ ·))

theorem listFrom_eq (c : Client) (l : Listing α) (number : UInt64) :
    c.listFrom l number = (do
      let page ← c.get l.path (l.query number) l.readPage
      match page.later number with
      | none => return page.items
      | some next => return page.items ++ (← c.listFrom l next)) := by
  rw [listFrom]
  refine bind_congr fun page => ?_
  cases hnext : page.next with
  | none => simp only [Page.later, hnext, Option.filter_none]
  | some next =>
    by_cases hlt : number < next
    · simp only [Page.later, hnext, Option.filter_some, hlt, decide_true, if_true, dif_pos]
    · simp only [Page.later, hnext, Option.filter_some, hlt, decide_false, Bool.false_eq_true,
        if_false, dif_neg, not_false_eq_true]

/-! ### One page -/

section

variable {c : Client} {l : Listing α} {number : UInt64} {r : Request} {p : Page α}
  {world : World Answer} {past : List (Exchange Answer)}

/-- A page that cannot be asked for ends the listing. -/
theorem run_listFrom_unsendable {fault : RequestFault} (make : c.ask l number = .error fault) :
    (c.listFrom l number).run world past = ⟨.error (.refused (.unsendable fault)), [], []⟩ := by
  rw [listFrom_eq, run_bind, run_get_unsendable world past l.readPage make]
  rfl

/-- A page that names no later one is all that is asked for. -/
theorem run_listFrom_last (make : c.ask l number = .ok r)
    (brings : Brings l.readPage (world past (.request r)) p) (stop : p.later number = none) :
    (c.listFrom l number).run world past =
      ⟨.ok p.items, [⟨.request r, world past (.request r)⟩], []⟩ := by
  have hread : readReply l.path l.readPage (world past (.request r)) = .ok p :=
    readReply_eq_ok_iff.2 brings
  rw [listFrom_eq, run_bind, run_get_made world past l.readPage make, hread]
  simp [Transcript.andThen, Except.mapError, stop, run]

/-- A page that names a later one is followed by what is asked for from there on. -/
theorem run_listFrom_next {next : UInt64} (make : c.ask l number = .ok r)
    (brings : Brings l.readPage (world past (.request r)) p) (later : p.later number = some next) :
    (c.listFrom l number).run world past =
      let x : Exchange Answer := ⟨.request r, world past (.request r)⟩
      let rest := (c.listFrom l next).run world (past ++ [x])
      ⟨rest.result.map (p.items ++ ·), x :: rest.exchanges, rest.entries⟩ := by
  have hread : readReply l.path l.readPage (world past (.request r)) = .ok p :=
    readReply_eq_ok_iff.2 brings
  rw [listFrom_eq, run_bind, run_get_made world past l.readPage make, hread]
  simp only [Transcript.andThen, Except.mapError, later, run_bind_pure]
  rfl

end

/-! ### All pages -/

/-- Every run of a listing is a course. -/
theorem run_listFrom (c : Client) (l : Listing α) (world : World Answer) (number : UInt64)
    (past : List (Exchange Answer)) : ∃ visits : List Visit,
      ((c.listFrom l number).run world past).exchanges = visits.map Visit.exchange ∧
      Course c l number visits ((c.listFrom l number).run world past).result := by
  cases hmake : c.ask l number with
  | error fault =>
    rw [run_listFrom_unsendable hmake]
    exact ⟨[], rfl, .unsendable hmake⟩
  | ok r =>
    let v : Visit := ⟨number, r, world past (.request r)⟩
    cases hpage : l.pageOf v with
    | error e =>
      have hread : readReply l.path l.readPage (world past (.request r)) = .error e := hpage
      rw [listFrom_eq, run_bind, run_get_made world past l.readPage hmake, hread]
      exact ⟨[v], rfl, .failed (v := v) hmake hpage⟩
    | ok p =>
      have hbrings : Brings l.readPage (world past (.request r)) p := readReply_eq_ok_iff.1 hpage
      cases hlater : p.later number with
      | none =>
        rw [run_listFrom_last hmake hbrings hlater]
        exact ⟨[v], rfl, .last (v := v) hmake hpage hlater⟩
      | some next =>
        obtain ⟨hnext, hlt⟩ := Page.later_eq_some.1 hlater
        -- less numbers are above the page that follows, and this is what ends the recursion
        have hleft := left_lt_left hlt
        obtain ⟨visits, hexchanges, hcourse⟩ :=
          run_listFrom c l world next (past ++ [v.exchange])
        rw [run_listFrom_next hmake hbrings hlater]
        exact ⟨v :: visits, congrArg (v.exchange :: ·) hexchanges,
          .next (v := v) hmake hpage hnext hlt hcourse⟩
termination_by UInt64.size - number.toNat

/-! ## What a course looks like -/

section

variable {c : Client} {l : Listing α} {number : UInt64} {visits : List Visit}
  {result : Except Failure (List α)}

namespace Course

theorem made (h : Course c l number visits result) :
    ∀ v ∈ visits, c.ask l v.number = .ok v.request := by
  induction h with
  | unsendable =>
    intro _ hv
    exact absurd hv List.not_mem_nil
  | failed make =>
    intro _ hv
    exact List.mem_singleton.1 hv ▸ make
  | last make =>
    intro _ hv
    exact List.mem_singleton.1 hv ▸ make
  | next make _ _ _ _ ih =>
    intro w hw
    rcases List.mem_cons.1 hw with rfl | hw
    · exact make
    · exact ih w hw

/-- The first page that is asked for is the one that the listing has come to. -/
theorem head (h : Course c l number visits result) : ∀ v ∈ visits.head?, v.number = number := by
  cases h with
  | unsendable =>
    intro _ hv
    cases hv
  | failed => rintro _ ⟨⟩; rfl
  | last => rintro _ ⟨⟩; rfl
  | next => rintro _ ⟨⟩; rfl

theorem le (h : Course c l number visits result) : ∀ v ∈ visits, number ≤ v.number := by
  induction h with
  | unsendable =>
    intro _ hv
    exact absurd hv List.not_mem_nil
  | failed =>
    intro _ hv
    exact List.mem_singleton.1 hv ▸ UInt64.le_refl _
  | last =>
    intro _ hv
    exact List.mem_singleton.1 hv ▸ UInt64.le_refl _
  | next _ _ _ later _ ih =>
    intro w hw
    rcases List.mem_cons.1 hw with rfl | hw
    · exact UInt64.le_refl _
    · exact UInt64.le_of_lt (UInt64.lt_of_lt_of_le later (ih w hw))

theorem pairwise (h : Course c l number visits result) :
    (visits.map Visit.number).Pairwise (· < ·) := by
  induction h with
  | unsendable => exact .nil
  | failed => exact List.pairwise_singleton _ _
  | last => exact List.pairwise_singleton _ _
  | @next v _ number visits _ _ _ _ later rest ih =>
    -- all that follow are at least the next number, not only the next one itself
    have hfirst : ∀ n ∈ visits.map Visit.number, v.number < n := by
      intro n hn
      obtain ⟨w, hw, rfl⟩ := List.mem_map.1 hn
      exact UInt64.lt_of_lt_of_le later (rest.le w hw)
    exact List.pairwise_cons.2 ⟨hfirst, ih⟩

/-- There are not more pages than numbers from the first one on. -/
theorem length_le (h : Course c l number visits result) :
    visits.length + number.toNat ≤ UInt64.size := by
  induction h with
  | @unsendable number =>
    have hnumber := number.toNat_lt
    simp only [List.length_nil, UInt64.size]
    omega
  | @failed v =>
    have hnumber := v.number.toNat_lt
    simp only [List.length_singleton, UInt64.size]
    omega
  | @last v =>
    have hnumber := v.number.toNat_lt
    simp only [List.length_singleton, UInt64.size]
    omega
  | next _ _ _ later _ ih =>
    have hlater := UInt64.lt_iff_toNat_lt.1 later
    rw [List.length_cons]
    omega

/-- Each page is followed by the one that it names. -/
theorem follows (h : Course c l number visits result) :
    visits.IsChain fun v w => ∃ p, l.pageOf v = .ok p ∧ p.next = some w.number := by
  induction h with
  | unsendable => exact .nil
  | failed => exact .singleton _
  | last => exact .singleton _
  | @next v p number visits result _ page announced _ rest ih =>
    have hfirst : ∀ w ∈ visits.head?, ∃ p, l.pageOf v = .ok p ∧ p.next = some w.number := by
      intro w hw
      rw [rest.head w hw]
      exact ⟨p, page, announced⟩
    exact List.isChain_cons.2 ⟨hfirst, ih⟩

end Course

/-- How a listing that began at page `first` ends, after the visits. -/
inductive Ending (c : Client) (l : Listing α) (first : UInt64) (visits : List Visit) :
    Except Failure (List α) → Prop where
  /-- The last answer is of no use. -/
  | failed {before : List Visit} {v : Visit} {e : Refusal} (last : visits = before ++ [v])
      (page : l.pageOf v = .error e) : Ending c l first visits (.error (.refused e))
  /-- The last answer names no later page. -/
  | complete {pages : List (Page α)} {v : Visit} {p : Page α}
      (answers : visits.map l.pageOf = pages.map .ok) (last : visits.getLast? = some v)
      (page : l.pageOf v = .ok p) (stop : ∀ next, p.next = some next → next ≤ v.number) :
      Ending c l first visits (.ok (pages.flatMap Page.items))
  /-- The URL of the page whose turn it is would be too long. -/
  | overlong {number : UInt64} {u : Url}
      (turn : (visits = [] ∧ number = first) ∨ ∃ before v p, visits = before ++ [v] ∧
        l.pageOf v = .ok p ∧ p.next = some number ∧ v.number < number)
      (url : c.url? l.path (l.query number) = some u)
      (long : Url.mostCharacters < u.text.length) :
      Ending c l first visits (.error (.refused (.unsendable (.illegal u))))

theorem Course.ending (hc : c.CanAsk l.path) (h : Course c l number visits result) :
    Ending c l number visits result := by
  induction h with
  | @unsendable number fault make =>
    obtain ⟨u, hurl, hmake⟩ := make_eq hc (l.query number)
    rw [ask, hmake] at make
    split at make
    · cases make
    · next hlong =>
      cases make
      exact .overlong (.inl ⟨rfl, rfl⟩) hurl (Nat.not_le.1 hlong)
  | @failed v e make page => exact .failed (List.nil_append [v]).symm page
  | @last v p make page stop =>
    have hstop : ∀ next, p.next = some next → next ≤ v.number := by
      intro next hnext
      refine UInt64.not_lt.1 fun hlt => ?_
      rw [Page.later_eq_some.2 ⟨hnext, hlt⟩] at stop
      cases stop
    have hitems : p.items = [p].flatMap Page.items := by simp
    rw [hitems]
    exact .complete (by simp [page]) rfl page hstop
  | @next v p number visits result make page announced later rest ih =>
    -- the whole ends as what follows this visit does
    cases ih with
    | @failed before w e last hw =>
      have hlast : v :: visits = (v :: before) ++ [w] := by rw [last]; rfl
      exact .failed hlast hw
    | @complete pages w q answers last hw stop =>
      have hlast : (v :: visits).getLast? = some w := by
        rw [List.getLast?_cons, last]; rfl
      have hanswers : (v :: visits).map l.pageOf = (p :: pages).map .ok := by
        rw [List.map_cons, List.map_cons, page, answers]
      exact .complete hanswers hlast hw stop
    | @overlong turn u hturn hurl hlong =>
      refine .overlong (.inr ?_) hurl hlong
      rcases hturn with ⟨rfl, rfl⟩ | ⟨before, w, q, rfl, hw, hnext, hlt⟩
      · exact ⟨[], v, p, rfl, page, announced, later⟩
      · exact ⟨v :: before, w, q, rfl, hw, hnext, hlt⟩

end

/-! ## Headline: a listing from its first page on -/

/-- **The course of a listing**, for a client that can ask, against any world.  In order: nothing
    but the visits is asked; each visit is the request for its page; the first page is number one;
    the numbers grow, so no page is asked for twice; there are less than 2^64 requests; each page
    after the first is the one that the page before it named; what a page names is what its
    metadata announce; and the listing ends with the first answer that is of no use or names no
    later page, unless the next URL would be too long. -/
theorem list_visits {c : Client} {l : Listing α} (hc : c.CanAsk l.path) (world : World Answer)
    (past : List (Exchange Answer)) :
    ∃ visits : List Visit,
      ((c.list l).run world past).exchanges = visits.map Visit.exchange ∧
      (∀ v ∈ visits, c.url? l.path (l.query v.number) = some v.request.url ∧
        v.request.token = c.token) ∧
      (∀ v ∈ visits.head?, v.number = 1) ∧
      (visits.map Visit.number).Pairwise (· < ·) ∧
      visits.length ≤ 2 ^ 64 - 1 ∧
      visits.IsChain (fun v w => ∃ p, l.pageOf v = .ok p ∧ p.next = some w.number) ∧
      (∀ v ∈ visits, ∀ p, l.pageOf v = .ok p → ∃ reply json, v.reply = some reply ∧
        Json.ofBytes? reply.body = some json ∧
        (announced? json).map Json.word? = p.next.map some) ∧
      Ending c l 1 visits ((c.list l).run world past).result := by
  obtain ⟨visits, hexchanges, hcourse⟩ := run_listFrom c l world 1 past
  have hlength : visits.length ≤ 2 ^ 64 - 1 := by
    have hle := hcourse.length_le
    simp only [UInt64.size, UInt64.toNat_one] at hle
    omega
  refine ⟨visits, hexchanges, fun v hv => url?_of_make hc (hcourse.made v hv), hcourse.head,
    hcourse.pairwise, hlength, hcourse.follows, ?_, hcourse.ending hc⟩
  intro v _ p hp
  obtain ⟨reply, json, hreply, hjson, hpage⟩ := readReply_eq_ok hp
  exact ⟨reply, json, hreply, hjson, page?_next l.key_ne_meta hpage⟩

/-- A client of a server on this machine. -/
def loopback : Client := ⟨"http://[::1]", "t"⟩

theorem loopback_canAsk_servers : loopback.CanAsk "/servers" := ⟨by decide, _, rfl, rfl, rfl, rfl⟩

/-- A world whose pages hold nothing; the first names the third, every other names the second. -/
def backward : World Answer
  | _, .hostname => .missing
  | past, .request _ =>
    let next := if past.isEmpty then "3" else "2"
    let pagination := "\x7b\"pagination\":\x7b\"next_page\":" ++ next ++ "\x7d\x7d"
    some ⟨200, Text.utf8 ("\x7b\"servers\":[],\"meta\":" ++ pagination ++ "\x7d")⟩

/-- Two pages are visited, because the second one names a page that is not later. -/
theorem list_visits_backward :
    loopback.CanAsk (serverListing "").path ∧ ∃ visits : List Visit,
      ((loopback.list (serverListing "")).run backward []).exchanges = visits.map Visit.exchange ∧
      (visits.map Visit.number).Pairwise (· < ·) ∧ visits.length = 2 := by
  refine ⟨loopback_canAsk_servers, ?_⟩
  obtain ⟨visits, hexchanges, -, -, hpairwise, -⟩ :=
    list_visits (l := serverListing "") loopback_canAsk_servers backward []
  refine ⟨visits, hexchanges, hpairwise, ?_⟩
  have hlength : ((loopback.list (serverListing "")).run backward []).exchanges.length = 2 := by
    decide +kernel
  rw [hexchanges, List.length_map] at hlength
  exact hlength

/-! ## Listings that cannot be asked for -/

/-- A listing does not begin if its first URL is too long. -/
theorem run_list_of_overlong {c : Client} {l : Listing α} (hc : c.CanAsk l.path) {u : Url}
    (hurl : c.url? l.path (l.query 1) = some u) (hlong : Url.mostCharacters < u.text.length)
    (world : World Answer) (past : List (Exchange Answer)) :
    (c.list l).run world past = ⟨.error (.refused (.unsendable (.illegal u))), [], []⟩ := by
  obtain ⟨u', hurl', hmake⟩ := make_eq hc (l.query 1)
  obtain rfl : u = u' := Option.some.inj (hurl.symm.trans hurl')
  rw [if_neg (Nat.not_le.2 hlong)] at hmake
  rw [list, run_listFrom_unsendable hmake]

/-- With a label selector that is longer than any URL, every page's URL is too long. -/
theorem overlong_of_selector {c : Client} {selector : String}
    (h : Url.mostCharacters < selector.length) {number : UInt64} {u : Url}
    (hurl : c.url? "/servers" ((serverListing selector).query number) = some u) :
    Url.mostCharacters < u.text.length := by
  have hne : selector ≠ "" := by
    rintro rfl
    exact absurd h (Nat.not_lt_zero _)
  have hmem : ("label_selector", selector) ∈ (serverListing selector).query number :=
    List.mem_append_left _ (by simp [serverListing, hne])
  exact Nat.lt_of_lt_of_le h (length_le_of_url? hurl hmem)

/-- Such a selector stops the listing of servers. -/
theorem run_list_of_overlong_selector {c : Client} (hc : c.CanAsk "/servers") {selector : String}
    (h : Url.mostCharacters < selector.length) :
    ∃ u, ∀ (world : World Answer) (past : List (Exchange Answer)),
      (c.list (serverListing selector)).run world past =
        ⟨.error (.refused (.unsendable (.illegal u))), [], []⟩ := by
  obtain ⟨u, hurl, -⟩ := make_eq hc ((serverListing selector).query 1)
  exact ⟨u, run_list_of_overlong (l := serverListing selector) hc hurl
    (overlong_of_selector h hurl)⟩

/-- A selector longer than any URL. -/
def overlongSelector : String := String.ofList (List.replicate (Url.mostCharacters + 1) 'a')

theorem lt_length_overlongSelector : Url.mostCharacters < overlongSelector.length := by
  rw [overlongSelector, String.length_ofList, List.length_replicate]
  exact Nat.lt_succ_self _

/-- Nothing is asked for with such a selector, and the listing fails although no answer failed. -/
theorem list_overlongSelector :
    loopback.CanAsk (serverListing overlongSelector).path ∧
      ((loopback.list (serverListing overlongSelector)).run backward []).exchanges = [] ∧
      ∃ e,
        ((loopback.list (serverListing overlongSelector)).run backward []).result = .error e := by
  obtain ⟨u, hrun⟩ :=
    run_list_of_overlong_selector loopback_canAsk_servers lt_length_overlongSelector
  rw [hrun]
  exact ⟨loopback_canAsk_servers, rfl, _, rfl⟩

end Client

end CloudRoster.Provider
