/-
  What a client asks of its server, and the account of its requests.

  A client asks three kinds of questions (`Inquiry`): for the servers with a name, for a page of the
  running servers, and for a page of the floating addresses.  The inquiry decides the path and the
  pairs of the request and what the answer should hold, so it also decides which answers are of no
  use, and what is told about each of them (`Inquiry.Fails`).

  `Account c t steps` says that the steps are all the requests of a transcript, that each was made
  for its inquiry, and that a step with an answer of no use is the last one, with what is told about
  the answer as the result.  Accounts of dialogues that follow each other are put together by
  `Account.andThen`; a single request has one (`account_get`), and so has a listing, by induction on
  its course (`Course.account`).
-/
import CloudRoster.Proofs.Provider.Paging

namespace CloudRoster.Provider

open Http Dialogue

variable {α β : Type}

/-! ## Inquiries -/

/-- What a client asks its server for. -/
inductive Inquiry where
  /-- The servers with a name. -/
  | lookup (name : String)
  /-- A page of the servers that run and match a label selector. -/
  | servers (selector : String) (number : UInt64)
  /-- A page of all floating addresses. -/
  | floating (number : UInt64)
deriving DecidableEq, Repr

namespace Inquiry

/-- What stands behind the endpoint. -/
def path : Inquiry → String
  | lookup _ => "/servers"
  | servers _ _ => "/servers"
  | floating _ => "/floating_ips"

/-- What is asked with.  Without a label selector there is no pair for one. -/
def pairs : Inquiry → List (String × String)
  | lookup name => [("name", name)]
  | servers selector number =>
    ("status", "running") :: (if selector = "" then [] else [("label_selector", selector)]) ++
      [("page", toString number), ("per_page", "50")]
  | floating number => [("page", toString number), ("per_page", "50")]

/-- Whether a document is what was asked for. -/
def Decodes : Inquiry → Json → Prop
  | lookup _, v => (serverPage? v).isSome
  | servers _ _, v => (serverPage? v).isSome
  | floating _, v => (page? "floating_ips" floatingEntry? v).isSome

/-- What the provider says about a request that it rejects, as far as it can be read. -/
def details (reply : Reply) : Option (String × String) :=
  ((Json.ofBytes? reply.body).bind errorDetails?).map fun d => (d.code, d.message)

/-- An answer that is of no use, and what is told about it. -/
inductive Fails (i : Inquiry) : Option Reply → Refusal → Prop where
  /-- The connection ended without an answer. -/
  | closed : Fails i none .unanswered
  /-- The answer is no success, whatever its body holds. -/
  | rejected {reply : Reply} (status : ¬(200 ≤ reply.status ∧ reply.status ≤ 299)) :
      Fails i (some reply) (.rejected i.path reply.status (details reply))
  /-- The answer is a success, but its body is not what was asked for. -/
  | undecodable {reply : Reply} (status : 200 ≤ reply.status ∧ reply.status ≤ 299)
      (body : ∀ v, Json.ofBytes? reply.body = some v → ¬i.Decodes v) :
      Fails i (some reply) .undecodable

/-- What is told about an answer of no use is not about an address. -/
theorem not_fails_badAddress {i : Inquiry} {reply : Option Reply} {v : String} :
    ¬i.Fails reply (.badAddress v) := by
  intro h
  cases h

end Inquiry

/-- What is told about an answer is what the inquiry says, if it is read for the inquiry. -/
theorem readReply_eq_error_iff {i : Inquiry} {read : Json → Option α} {reply : Option Reply}
    {e : Refusal} (hdecodes : ∀ v, i.Decodes v ↔ (read v).isSome = true) :
    readReply i.path read reply = .error e ↔ i.Fails reply e := by
  constructor
  · intro h
    cases reply with
    | none =>
      cases h
      exact .closed
    | some r =>
      simp only [readReply] at h
      split at h
      · next hstatus =>
        split at h
        · cases h
        · next hb =>
          cases h
          refine .undecodable (isSuccess_iff.1 hstatus) fun v hv => ?_
          rw [hv, Option.bind_some] at hb
          rw [hdecodes, hb]
          exact Bool.false_ne_true
      · next hstatus =>
        cases h
        exact .rejected fun hs => hstatus (isSuccess_iff.2 hs)
  · intro h
    cases h with
    | closed => rfl
    | rejected status =>
      have hstatus := mt isSuccess_iff.1 status
      simp only [readReply, hstatus, Bool.false_eq_true, if_false, Inquiry.details]
    | @undecodable r status body =>
      have hnone : (Json.ofBytes? r.body).bind read = none := by
        rw [Option.bind_eq_none_iff]
        intro v hv
        exact Option.not_isSome_iff_eq_none.1 fun hs => body v hv ((hdecodes v).2 hs)
      simp only [readReply, isSuccess_iff.2 status, if_true, hnone]

/-! ## Accounts -/

/-- The requests among what was asked, each with its answer. -/
def requests (xs : List (Exchange Answer)) : List (Request × Option Reply) :=
  xs.filterMap fun
    | ⟨.hostname, _⟩ => none
    | ⟨.request r, reply⟩ => some (r, reply)

/-- A look at the hostname file is no request. -/
theorem requests_hostname (content : FileContent) (xs : List (Exchange Answer)) :
    requests (⟨.hostname, content⟩ :: xs) = requests xs := rfl

@[simp] theorem requests_append (xs ys : List (Exchange Answer)) :
    requests (xs ++ ys) = requests xs ++ requests ys :=
  List.filterMap_append

/-- One request, what it was made for, and what came back. -/
structure Step where
  inquiry : Inquiry
  request : Request
  reply : Option Reply

namespace Client

/-- The request for an inquiry. -/
def request? (c : Client) (i : Inquiry) : Except RequestFault Request :=
  Request.make (c.endpoint ++ i.path) c.token i.pairs

/-- `Account c t steps`: the steps are what a client requested in a transcript, up to the first
    answer of no use. -/
structure Account (c : Client) (t : Transcript Answer α) (steps : List Step) : Prop where
  requested : requests t.exchanges = steps.map fun s => (s.request, s.reply)
  made : ∀ s ∈ steps, c.request? s.inquiry = .ok s.request
  stops : ∀ before s after, steps = before ++ s :: after → ∀ e, s.inquiry.Fails s.reply e →
    after = [] ∧ t.result = .error (.refused e)

section

variable {c : Client}

/-- Where nothing is requested there is nothing to account for. -/
theorem account_nil {t : Transcript Answer α} (h : requests t.exchanges = []) :
    c.Account t [] where
  requested := h
  made _ hs := absurd hs List.not_mem_nil
  stops before s after h := absurd h.symm (by simp)

/-- An account is one of all that makes the same requests and fails where these failed. -/
theorem Account.transport {t : Transcript Answer α} {u : Transcript Answer β} {steps : List Step}
    (h : c.Account t steps) (hx : requests u.exchanges = requests t.exchanges)
    (hr : ∀ e, t.result = .error e → u.result = .error e) : c.Account u steps where
  requested := hx.trans h.requested
  made := h.made
  stops before s after hsteps e hfails := by
    obtain ⟨hafter, hresult⟩ := h.stops before s after hsteps e hfails
    exact ⟨hafter, hr _ hresult⟩

/-- A dialogue that has a value got no answer of no use. -/
theorem Account.not_fails {t : Transcript Answer α} {steps : List Step} (h : c.Account t steps)
    {a : α} (hr : t.result = .ok a) {s : Step} (hs : s ∈ steps) (e : Refusal) :
    ¬s.inquiry.Fails s.reply e := by
  intro hfails
  obtain ⟨before, after, hsteps⟩ := List.append_of_mem hs
  have hresult := (h.stops before s after hsteps e hfails).2
  rw [hr] at hresult
  cases hresult

/-- First the one dialogue and then, if that has a value, the other. -/
theorem Account.andThen {t : Transcript Answer α} {f : α → Transcript Answer β}
    {steps more : List Step} (h : c.Account t steps)
    (hmore : ∀ a, t.result = .ok a → c.Account (f a) more)
    (hnone : ∀ e, t.result = .error e → more = []) :
    c.Account (t.andThen f) (steps ++ more) := by
  cases hr : t.result with
  | error e =>
    rw [hnone e hr, List.append_nil, Transcript.andThen_error hr]
    refine h.transport rfl fun e' he' => ?_
    obtain rfl : e = e' := Except.error.inj (hr.symm.trans he')
    rfl
  | ok a =>
    have hthen := hmore a hr
    constructor
    · rw [Transcript.andThen, hr, requests_append, h.requested, hthen.requested, List.map_append]
    · intro s hs
      rcases List.mem_append.1 hs with hs | hs
      · exact h.made s hs
      · exact hthen.made s hs
    · intro before s after hsteps e hfails
      -- the step is none of the first ones, so the second dialogue stops with it
      have hsecond : ∃ rest, more = rest ++ s :: after := by
        rcases List.append_eq_append_iff.1 hsteps with ⟨rest, -, hrest⟩ | ⟨rest, hfirst, hrest⟩
        · exact ⟨rest, hrest⟩
        · cases rest with
          | nil => exact ⟨[], hrest.symm⟩
          | cons s' rest =>
            obtain ⟨rfl, -⟩ := List.cons.inj hrest
            have hs : s ∈ steps := by
              rw [hfirst]
              exact List.mem_append_right before List.mem_cons_self
            exact absurd hfails (h.not_fails hr hs e)
      obtain ⟨rest, hrest⟩ := hsecond
      obtain ⟨hafter, hresult⟩ := hthen.stops rest s after hrest e hfails
      refine ⟨hafter, ?_⟩
      rw [Transcript.andThen, hr]
      exact hresult

/-! ## Single requests -/

/-- A request is made for its inquiry, or not at all. -/
theorem account_get (i : Inquiry) (read : Json → Option α)
    (hdecodes : ∀ v, i.Decodes v ↔ (read v).isSome = true) (world : World Answer)
    (past : List (Exchange Answer)) :
    ∃ steps : List Step, c.Account ((c.get i.path i.pairs read).run world past) steps ∧
      (∀ s ∈ steps, s.inquiry = i ∧ ∀ a, Brings read s.reply a →
        ((c.get i.path i.pairs read).run world past).result = .ok a) ∧ steps.length ≤ 1 := by
  cases hmake : c.request? i with
  | error fault =>
    rw [run_get_unsendable world past read hmake]
    exact ⟨[], account_nil rfl, List.forall_mem_nil _, Nat.zero_le _⟩
  | ok r =>
    rw [run_get_made world past read hmake]
    let s : Step := ⟨i, r, world past (.request r)⟩
    refine ⟨[s], ⟨rfl, ?_, ?_⟩, ?_, Nat.le_refl _⟩
    · intro _ hs
      rw [List.mem_singleton.1 hs]
      exact hmake
    · intro before s' after hsteps e hfails
      obtain ⟨rfl, rfl, rfl⟩ := singleton_eq_append_cons hsteps
      refine ⟨rfl, ?_⟩
      have hread := (readReply_eq_error_iff hdecodes).2 hfails
      exact congrArg (Except.mapError Failure.refused) hread
    · intro s' hs
      obtain rfl := List.mem_singleton.1 hs
      refine ⟨rfl, fun a hbrings => ?_⟩
      have hread : readReply i.path read (world past (.request r)) = .ok a :=
        readReply_eq_ok_iff.2 hbrings
      exact congrArg (Except.mapError Failure.refused) hread

/-! ## Listings -/

/-- The pages of a listing are what these inquiries ask for. -/
structure Listing.AskedBy (l : Listing α) (inquiry : UInt64 → Inquiry) : Prop where
  path : ∀ number, (inquiry number).path = l.path
  pairs : ∀ number, (inquiry number).pairs = l.query number
  decodes : ∀ number v, (inquiry number).Decodes v ↔ (l.readPage v).isSome = true

theorem serverListing_askedBy (selector : String) :
    (serverListing selector).AskedBy (.servers selector) :=
  ⟨fun _ => rfl, fun _ => rfl, fun _ _ => Iff.rfl⟩

theorem floatingListing_askedBy : floatingListing.AskedBy .floating :=
  ⟨fun _ => rfl, fun _ => rfl, fun _ _ => Iff.rfl⟩

/-- The step that a visit is. -/
def Visit.step (inquiry : UInt64 → Inquiry) (v : Visit) : Step :=
  ⟨inquiry v.number, v.request, v.reply⟩

theorem requests_visits (inquiry : UInt64 → Inquiry) (visits : List Visit) :
    requests (visits.map Visit.exchange) =
      (visits.map (Visit.step inquiry)).map fun s => (s.request, s.reply) := by
  induction visits with
  | nil => rfl
  | cons v visits ih => exact congrArg ((v.request, v.reply) :: ·) ih

theorem Listing.AskedBy.request? {l : Listing α} {inquiry : UInt64 → Inquiry}
    (h : l.AskedBy inquiry) (c : Client) (number : UInt64) :
    c.request? (inquiry number) = c.ask l number := by
  unfold Client.request? Client.ask
  rw [h.path, h.pairs]

theorem Listing.AskedBy.pageOf_eq_error_iff {l : Listing α} {inquiry : UInt64 → Inquiry}
    (h : l.AskedBy inquiry) {v : Visit} {e : Refusal} :
    l.pageOf v = .error e ↔ (inquiry v.number).Fails v.reply e := by
  unfold Listing.pageOf
  rw [← h.path v.number]
  exact readReply_eq_error_iff (h.decodes v.number)

/-- In a course, a visit whose answer is of no use is the last one, and the course ends so. -/
theorem Course.stops {l : Listing α} {number : UInt64} {visits : List Visit}
    {result : Except Failure (List α)} (h : Course c l number visits result) {before : List Visit}
    {v : Visit} {after : List Visit} (hvisits : visits = before ++ v :: after) {e : Refusal}
    (hfails : l.pageOf v = .error e) : after = [] ∧ result = .error (.refused e) := by
  induction h generalizing before with
  | unsendable => exact absurd hvisits.symm (by simp)
  | failed make page =>
    obtain ⟨-, rfl, rfl⟩ := singleton_eq_append_cons hvisits
    rw [page] at hfails
    cases hfails
    exact ⟨rfl, rfl⟩
  | last make page stop =>
    obtain ⟨-, rfl, -⟩ := singleton_eq_append_cons hvisits
    rw [page] at hfails
    cases hfails
  | next make page _ _ rest ih =>
    cases before with
    | nil =>
      obtain ⟨rfl, -⟩ := List.cons.inj hvisits
      rw [page] at hfails
      cases hfails
    | cons b before =>
      obtain ⟨-, hrest⟩ := List.cons.inj hvisits
      obtain ⟨hafter, hresult⟩ := ih hrest
      refine ⟨hafter, ?_⟩
      rw [hresult]
      rfl

theorem Course.account {l : Listing α} {inquiry : UInt64 → Inquiry} (hl : l.AskedBy inquiry)
    {number : UInt64} {visits : List Visit} {t : Transcript Answer (List α)}
    (h : Course c l number visits t.result) (hx : t.exchanges = visits.map Visit.exchange) :
    c.Account t (visits.map (Visit.step inquiry)) := by
  constructor
  · rw [hx]
    exact requests_visits inquiry visits
  · intro s hs
    obtain ⟨v, hv, rfl⟩ := List.mem_map.1 hs
    exact (hl.request? c v.number).trans (h.made v hv)
  · intro before s after hsteps e hfails
    obtain ⟨before', rest, hvisits, rfl, hrest⟩ := List.map_eq_append_iff.1 hsteps
    obtain ⟨v, after', rfl, rfl, rfl⟩ := List.map_eq_cons_iff.1 hrest
    obtain ⟨rfl, hresult⟩ := h.stops hvisits (hl.pageOf_eq_error_iff.2 hfails)
    exact ⟨rfl, hresult⟩

end

end Client

end CloudRoster.Provider
