/-
  How an answer is classified.

  The status decides which of two readers looks at the body: that of what was asked for, or that of
  the provider's words about a rejection.  Neither of them can turn one class into the other.

  1. **Error documents** - `IsErrorDocument d`: the values that tell of a code and a message, and no
     others are read as one (`reads_errorDocument`).
  2. **Rejections** - `Explains body details`: what a body says about a rejection, which is one
     thing always (`details_eq_iff_explains`), and the wording for it (`message_rejected`).
  3. **Successes** - data are what the body holds, and a body without octets holds nothing
     (`not_holds_nil`).

  **Headline** (`get_classifies`): for every status and every body, one request has the outcome that
  these say, and no other.
-/
import CloudRoster.Proofs.Provider.Conformity
import CloudRoster.Proofs.Provider.Join

namespace CloudRoster.Provider

open Http Json Dialogue

variable {α : Type}

/-- A value is written with one octet at least. -/
theorem not_holds_nil {R : α → Json → Prop} {a : α} : ¬Holds R a [] := by
  rintro ⟨v, hv, -⟩
  have hread : Json.ofBytes? [] = some v := ofBytes?_eq_some_iff.2 hv
  have hnone : Json.ofBytes? [] = none := by decide +kernel
  rw [hnone] at hread
  cases hread

/-! ## Rejections -/

/-- A code and a message. -/
def IsErrorDetails (d : ErrorDetails) : Json → Prop :=
  IsRecord ["code", "message"] 2 fun field =>
    Once (IsText d.code) (field "code") ∧ Once (IsText d.message) (field "message")

/-- One error, with a code and a message. -/
def IsErrorDocument (d : ErrorDetails) : Json → Prop :=
  IsRecord ["error"] 1 fun field => Once (IsErrorDetails d) (field "error")

theorem reads_errorDetails : Reads (fun v => do
    let fs ← v.record? ["code", "message"] 2
    return ⟨← fs.required? "code" text?, ← fs.required? "message" text?⟩) IsErrorDetails := by
  refine reads_record (fun fs field hgives d => ?_) fun d field h => ?_
  · simp only [Option.bind_eq_bind, Option.pure_def, Option.bind_eq_some_iff,
      hgives.required?_iff "code" (by simp) reads_text,
      hgives.required?_iff "message" (by simp) reads_text]
    constructor
    · rintro ⟨code, hcode, message, hmessage, h⟩
      cases h
      exact ⟨hcode, hmessage⟩
    · rintro ⟨hcode, hmessage⟩
      exact ⟨_, hcode, _, hmessage, rfl⟩
  · simp only [List.forall_mem_cons]
    exact ⟨h.1.length_le, h.2.length_le, List.forall_mem_nil _⟩

theorem reads_errorDocument : Reads errorDetails? IsErrorDocument :=
  reads_record (fun _ _ hgives _ => hgives.required?_iff "error" (by simp) reads_errorDetails)
    fun _ _ h => List.forall_mem_singleton.2 h.length_le

/-- `Explains body details`: what a body says about a rejection. -/
inductive Explains (body : List UInt8) : Option (String × String) → Prop where
  /-- The body tells a code and a message. -/
  | told {d : ErrorDetails} (holds : Holds IsErrorDocument d body) :
      Explains body (some (d.code, d.message))
  /-- It tells none, whatever else it holds. -/
  | untold (silent : ∀ d, ¬Holds IsErrorDocument d body) : Explains body none

theorem details_eq_iff_explains {reply : Reply} {details : Option (String × String)} :
    Inquiry.details reply = details ↔ Explains reply.body details := by
  constructor
  · rintro rfl
    cases h : (Json.ofBytes? reply.body).bind errorDetails? with
    | none =>
      rw [Inquiry.details, h]
      exact .untold ((read_eq_none_iff reads_errorDocument).1 h)
    | some d =>
      rw [Inquiry.details, h]
      exact .told ((read_iff_holds reads_errorDocument).1 h)
  · intro h
    cases h with
    | told holds => rw [Inquiry.details, (read_iff_holds reads_errorDocument).2 holds]; rfl
    | untold silent => rw [Inquiry.details, (read_eq_none_iff reads_errorDocument).2 silent]; rfl

/-- The wording for what is said about a rejection. -/
def detailsText : Option (String × String) → String
  | some (code, message) => message ++ " (" ++ code ++ ")"
  | none => "no error details"

theorem message_rejected (path : String) (status : Status) (details : Option (String × String)) :
    (Refusal.rejected path status details).message =
      path ++ " returned " ++ status.text ++ ": " ++ detailsText details := by
  cases details with
  | none =>
    have hwords : ": no error details" = ": " ++ "no error details" := by decide
    show path ++ " returned " ++ status.text ++ ": no error details" =
      path ++ " returned " ++ status.text ++ ": " ++ "no error details"
    rw [hwords]
    simp only [String.append_assoc]
  | some d =>
    show path ++ " returned " ++ status.text ++ ": " ++ d.2 ++ " (" ++ d.1 ++ ")" =
      path ++ " returned " ++ status.text ++ ": " ++ (d.2 ++ " (" ++ d.1 ++ ")")
    simp only [String.append_assoc]

/-- What is no success is told with what its body says, and in no other way. -/
theorem readReply_eq_rejected_iff {path : String} {read : Json → Option α} {reply : Reply}
    {details : Option (String × String)} :
    readReply path read (some reply) = .error (.rejected path reply.status details) ↔
      ¬(200 ≤ reply.status ∧ reply.status ≤ 299) ∧ Explains reply.body details := by
  by_cases hstatus : 200 ≤ reply.status ∧ reply.status ≤ 299
  · rw [readReply_of_success hstatus]
    cases (Json.ofBytes? reply.body).bind read <;> simp [hstatus]
  · rw [readReply_of_rejection hstatus, ← details_eq_iff_explains, Inquiry.details]
    simp [hstatus]

theorem mapError_refused_eq_error_iff {r : Except Refusal α} {e : Refusal} :
    r.mapError Failure.refused = .error (.refused e) ↔ r = .error e := by
  cases r <;> simp [Except.mapError]

/-! ## Headline -/

namespace Client

/-- **The class of an answer is decided by its status, and the rest by its body.**  When a request
    is answered nothing else is asked.  Data come exactly from a success whose body holds them; any
    other success is unreadable, one without octets included.  What is no success is a rejection,
    whatever its body holds, and it is told with a code and a message exactly if the body is an
    error document, which tells these. -/
theorem get_classifies {c : Client} {path : String} {query : List (String × String)} {r : Request}
    (made : Request.make (c.endpoint ++ path) c.token query = .ok r) {read : Json → Option α}
    {R : α → Json → Prop} (reads : Reads read R) (world : World Answer)
    (past : List (Exchange Answer)) {reply : Reply}
    (answered : world past (.request r) = some reply) :
    let t := (c.get path query read).run world past
    let success := 200 ≤ reply.status ∧ reply.status ≤ 299
    t.exchanges = [⟨.request r, some reply⟩] ∧
    (∀ a, t.result = .ok a ↔ success ∧ Holds R a reply.body) ∧
    (t.result = .error (.refused .undecodable) ↔ success ∧ ∀ a, ¬Holds R a reply.body) ∧
    (success → reply.body = [] → t.result = .error (.refused .undecodable)) ∧
    (∀ details, t.result = .error (.refused (.rejected path reply.status details)) ↔
      ¬success ∧ Explains reply.body details) ∧
    (¬success → ∃ details, Explains reply.body details ∧
      t.result = .error (.refused (.rejected path reply.status details)) ∧
      (Refusal.rejected path reply.status details).message =
        path ++ " returned " ++ reply.status.text ++ ": " ++ detailsText details) := by
  intro t success
  have ht : t = ⟨(readReply path read (some reply)).mapError .refused,
      [⟨.request r, some reply⟩], []⟩ := by
    rw [← answered]
    exact run_get_made world past read made
  have hundecodable : t.result = .error (.refused .undecodable) ↔
      success ∧ ∀ a, ¬Holds R a reply.body := by
    rw [ht]
    exact mapError_refused_eq_error_iff.trans (readReply_eq_undecodable_iff reads)
  have hrejected (details : Option (String × String)) :
      t.result = .error (.refused (.rejected path reply.status details)) ↔
        ¬success ∧ Explains reply.body details := by
    rw [ht]
    exact mapError_refused_eq_error_iff.trans readReply_eq_rejected_iff
  refine ⟨by rw [ht], fun a => ?_, hundecodable, ?_, hrejected, ?_⟩
  · rw [ht]
    exact mapError_eq_ok_iff.trans (readReply_eq_ok_iff_holds reads)
  · intro hsuccess hempty
    refine hundecodable.2 ⟨hsuccess, fun a => ?_⟩
    rw [hempty]
    exact not_holds_nil
  · intro hstatus
    have hexplains : Explains reply.body (Inquiry.details reply) := details_eq_iff_explains.1 rfl
    exact ⟨_, hexplains, (hrejected _).2 ⟨hstatus, hexplains⟩, message_rejected _ _ _⟩

/-! ### Four answers to one request -/

/-- A lookup that is answered in this way. -/
def lookupAnswered (status : Status) (body : String) : Transcript Answer (Page ServerEntry) :=
  (loopback.get "/servers" [("name", "web")] serverPage?).run
    (scripted [some ⟨status, Text.utf8 body⟩]) []

theorem make_lookup : Request.make (loopback.endpoint ++ "/servers") loopback.token
    [("name", "web")] = .ok ⟨inquiryUrl localAuthority [] (.lookup "web"), "t"⟩ := by
  decide +kernel

theorem reads_serverPage : Reads serverPage? (IsPage "servers" IsServerEntry) :=
  reads_page reads_serverEntry

theorem holds_emptyPage :
    Holds (IsPage "servers" IsServerEntry) ⟨[], none⟩ (Text.utf8 "[[],null]") :=
  (read_iff_holds reads_serverPage).1 (by decide +kernel)

theorem explains_emptyPage : Explains (Text.utf8 "[[],null]") none :=
  .untold ((read_eq_none_iff reads_errorDocument).1 (by decide +kernel))

theorem explains_missing :
    Explains (Text.utf8 "[[\"not_found\",\"no such server\"]]")
      (some ("not_found", "no such server")) :=
  .told ((read_iff_holds (a := ⟨"not_found", "no such server"⟩) reads_errorDocument).1
    (by decide +kernel))

/-- A page without servers is data of a success and no excuse for a rejection; an error document in
    list form is read out; and a success without a body is no page at all. -/
theorem get_classifies_four :
    (lookupAnswered 200 "[[],null]").result = .ok ⟨[], none⟩ ∧
    (∃ e, (lookupAnswered 503 "[[],null]").result = .error (.refused e) ∧
      e.message = "/servers returned 503 Service Unavailable: no error details") ∧
    (∃ e, (lookupAnswered 404 "[[\"not_found\",\"no such server\"]]").result =
        .error (.refused e) ∧
      e.message = "/servers returned 404 Not Found: no such server (not_found)") ∧
    (lookupAnswered 204 "").result = .error (.refused .undecodable) := by
  have classified (status : Status) (body : String) :=
    get_classifies make_lookup reads_serverPage (scripted [some ⟨status, Text.utf8 body⟩]) [] rfl
  refine ⟨?_, ⟨.rejected "/servers" 503 none, ?_, by decide⟩,
    ⟨.rejected "/servers" 404 (some ("not_found", "no such server")), ?_, by decide⟩, ?_⟩
  · obtain ⟨-, hdata, -⟩ := classified 200 "[[],null]"
    exact (hdata _).2 ⟨by decide, holds_emptyPage⟩
  · obtain ⟨-, -, -, -, hrejected, -⟩ := classified 503 "[[],null]"
    exact (hrejected none).2 ⟨by decide, explains_emptyPage⟩
  · obtain ⟨-, -, -, -, hrejected, -⟩ :=
      classified 404 "[[\"not_found\",\"no such server\"]]"
    exact (hrejected _).2 ⟨by decide, explains_missing⟩
  · obtain ⟨-, -, -, hempty, -⟩ := classified 204 ""
    exact hempty (by decide) (by decide)

end Client

end CloudRoster.Provider
