/-
  Dialogues that differ in tokens only.

  1. **Dialogues** - `Alike d d'` says that two dialogues are the same tree but for the tokens of
     their requests.  Whatever puts dialogues together keeps them alike.
  2. **Runs** - a world that is not shown tokens (`tokenBlind`) cannot tell alike dialogues apart:
     they have the same result, the same entries and the same URLs in their requests (`Alike.run`).
  3. **Clients** - of its token a request takes over whether a header may hold it, and then the
     token itself (`Request.make_token`).  So clients with one endpoint, whose tokens a header may
     both hold or not, make alike calls (`Client.Twins`).
-/
import CloudRoster.Proofs.Provider.Inquiry

namespace CloudRoster.Provider

open Http Dialogue

variable {α β : Type}

/-! ## Dialogues -/

/-- Two dialogues that differ in nothing but the tokens of their requests. -/
inductive Alike : Dialogue Answer α → Dialogue Answer α → Prop where
  | done (a : α) : Alike (.done a) (.done a)
  | fail (e : Failure) : Alike (.fail e) (.fail e)
  | report (e : Log.Entry) {next next' : Dialogue Answer α} (h : Alike next next') :
      Alike (.report e next) (.report e next')
  | hostname {next next' : FileContent → Dialogue Answer α}
      (h : ∀ content, Alike (next content) (next' content)) :
      Alike (.ask .hostname next) (.ask .hostname next')
  | request (url : Url) (token token' : String) {next next' : Option Reply → Dialogue Answer α}
      (h : ∀ reply, Alike (next reply) (next' reply)) :
      Alike (.ask (.request ⟨url, token⟩) next) (.ask (.request ⟨url, token'⟩) next')

namespace Alike

theorem refl (d : Dialogue Answer α) : Alike d d := by
  induction d with
  | done a => exact done a
  | fail e => exact fail e
  | report e next ih => exact report e ih
  | ask q next ih =>
    cases q with
    | hostname => exact hostname ih
    | request r => exact request r.url r.token r.token ih

variable {d d' : Dialogue Answer α}

theorem bind (h : Alike d d') {f f' : α → Dialogue Answer β} (hf : ∀ a, Alike (f a) (f' a)) :
    Alike (d >>= f) (d' >>= f') := by
  induction h with
  | done a => exact hf a
  | fail e => exact fail e
  | report e _ ih => exact report e ih
  | hostname _ ih => exact hostname ih
  | request url token token' _ ih => exact request url token token' ih

theorem attempt (h : Alike d d') : Alike d.attempt d'.attempt := by
  induction h with
  | done a => exact done (Except.ok a)
  | fail e => exact done (Except.error e)
  | report e _ ih => exact report e ih
  | hostname _ ih => exact hostname ih
  | request url token token' _ ih => exact request url token token' ih

/-- Questions may be answered by dialogues that are alike. -/
theorem via {Q : Type} {A : Q → Type} {h h' : (q : Q) → Dialogue Answer (A q)}
    (hh : ∀ q, Alike (h q) (h' q)) (d : Dialogue A α) : Alike (d.via h) (d.via h') := by
  induction d with
  | done a => exact done a
  | fail e => exact fail e
  | report e next ih => exact report e ih
  | ask q next ih => exact (hh q).bind ih

end Alike

/-! ## Runs -/

/-- What is seen of exchanges if tokens are not: the URLs that were requested, and the replies. -/
def shown (xs : List (Exchange Answer)) : List (Url × Option Reply) :=
  (requests xs).map fun x => (x.1.url, x.2)

theorem shown_append (xs ys : List (Exchange Answer)) :
    shown (xs ++ ys) = shown xs ++ shown ys := by
  rw [shown, requests_append, List.map_append]
  rfl

/-- A world with this hostname file, and a server that replies by all that was asked and answered
    so far, tokens apart.  One that replies by a script, whatever is asked, is of this kind. -/
def tokenBlind (host : FileContent) (server : List (Url × Option Reply) → Url → Option Reply) :
    World Answer
  | _, .hostname => host
  | past, .request r => server (shown past) r.url

/-- Two transcripts between which only tokens make a difference. -/
structure Indistinct (t t' : Transcript Answer α) : Prop where
  result : t.result = t'.result
  entries : t.entries = t'.entries
  requested : shown t.exchanges = shown t'.exchanges

/-- Who does not see tokens cannot tell alike dialogues apart. -/
theorem Alike.run {d d' : Dialogue Answer α} (h : Alike d d') (host : FileContent)
    (server : List (Url × Option Reply) → Url → Option Reply) {past past' : List (Exchange Answer)}
    (hpast : shown past = shown past') :
    Indistinct (d.run (tokenBlind host server) past) (d'.run (tokenBlind host server) past') := by
  induction h generalizing past past' with
  | done a => exact ⟨rfl, rfl, rfl⟩
  | fail e => exact ⟨rfl, rfl, rfl⟩
  | report e _ ih =>
    obtain ⟨hresult, hentries, hrequested⟩ := ih hpast
    exact ⟨hresult, congrArg (e :: ·) hentries, hrequested⟩
  | hostname _ ih =>
    let x : Exchange Answer := ⟨.hostname, host⟩
    have hmore : shown (past ++ [x]) = shown (past' ++ [x]) := by
      rw [shown_append, shown_append, hpast]
    obtain ⟨hresult, hentries, hrequested⟩ := ih host hmore
    exact ⟨hresult, hentries, hrequested⟩
  | @request url token token' next next' _ ih =>
    let world := tokenBlind host server
    let reply := server (shown past) url
    -- the server replies the same, because it is shown the same
    have hreply : server (shown past') url = reply := by rw [← hpast]
    let x : Exchange Answer := ⟨.request ⟨url, token⟩, reply⟩
    let x' : Exchange Answer := ⟨.request ⟨url, token'⟩, reply⟩
    have hmore : shown (past ++ [x]) = shown (past' ++ [x']) := by
      rw [shown_append, shown_append, hpast]
      rfl
    have hrun' : (Dialogue.ask (.request ⟨url, token'⟩) next').run world past' =
        let t := (next' reply).run world (past' ++ [x'])
        ⟨t.result, x' :: t.exchanges, t.entries⟩ := by
      have hanswer : world past' (.request ⟨url, token'⟩) = reply := hreply
      rw [Dialogue.run, hanswer]
    obtain ⟨hresult, hentries, hrequested⟩ := ih reply hmore
    rw [hrun']
    exact ⟨hresult, hentries, congrArg ((url, reply) :: ·) hrequested⟩

end CloudRoster.Provider

/-! ## Clients -/

namespace CloudRoster.Http

/-- A token that a header may hold, or not, is as good as any other of which that holds. -/
theorem Request.make_token {token token' : String} (h : isHeaderText token = isHeaderText token')
    (url : String) (query : List (String × String)) :
    make url token' query = (make url token query).map fun r => ⟨r.url, token'⟩ := by
  unfold make
  rw [← h]
  cases Url.parse url with
  | error fault => rfl
  | ok u =>
    dsimp only
    split
    · rfl
    · split
      · rfl
      · split
        · rfl
        · split <;> rfl

/-- A request carries the token that it is made with, and a header may hold that. -/
theorem Request.token_of_make {url token : String} {query : List (String × String)} {r : Request}
    (h : make url token query = .ok r) : r.token = token ∧ isHeaderText token = true := by
  unfold make at h
  cases hparse : Url.parse url with
  | error fault =>
    rw [hparse] at h
    cases h
  | ok u =>
    rw [hparse] at h
    dsimp only at h
    split at h
    · cases h
    · split at h
      · cases h
      · next htoken =>
        split at h
        · cases h
        · split at h
          · cases h
            exact ⟨rfl, by simpa using htoken⟩
          · cases h

end CloudRoster.Http

namespace CloudRoster.Provider.Client

open Http Dialogue

/-- Clients with the same endpoint, whose tokens a header may both hold or not. -/
structure Twins (c c' : Client) : Prop where
  endpoint : c.endpoint = c'.endpoint
  token : isHeaderText c.token = isHeaderText c'.token

variable {α : Type} {c c' : Client}

theorem Twins.get (h : c.Twins c') (path : String) (query : List (String × String))
    (read : Json → Option α) : Alike (c.get path query read) (c'.get path query read) := by
  have hmake := Request.make_token h.token (c.endpoint ++ path) query
  unfold Client.get
  rw [← h.endpoint, hmake]
  cases Request.make (c.endpoint ++ path) c.token query with
  | error fault => exact .fail _
  | ok r =>
    refine Alike.bind (.request r.url r.token c'.token fun reply => .done reply) fun reply => ?_
    exact .refl _

theorem Twins.listFrom (h : c.Twins c') (l : Listing α) (number : UInt64) :
    Alike (c.listFrom l number) (c'.listFrom l number) := by
  rw [Client.listFrom, Client.listFrom]
  refine (h.get l.path (l.query number) l.readPage).bind fun page => ?_
  cases page.next with
  | none => exact .refl _
  | some next =>
    by_cases hlater : number < next
    · have := left_lt_left hlater
      simp only [dif_pos hlater]
      exact (h.listFrom l next).bind fun _ => .refl _
    · simp only [dif_neg hlater]
      exact .refl _
termination_by UInt64.size - number.toNat

theorem Twins.floatingTable (h : c.Twins c') (servers : List ServerEntry) :
    Alike (c.floatingTable servers) (c'.floatingTable servers) := by
  unfold Client.floatingTable
  split
  · exact .refl _
  · exact (h.listFrom floatingListing 1).bind fun _ => .refl _

theorem Twins.runningServers (h : c.Twins c') (selector : String) :
    Alike (c.runningServers selector) (c'.runningServers selector) := by
  refine (h.listFrom (serverListing selector) 1).bind fun servers => ?_
  exact (h.floatingTable servers).bind fun _ => .refl _

theorem Twins.serverNamed (h : c.Twins c') (name : String) :
    Alike (c.serverNamed name) (c'.serverNamed name) :=
  (h.get "/servers" [("name", name)] serverPage?).bind fun _ => .refl _

theorem Twins.answer (h : c.Twins c') (q : Discovery.Question) :
    Alike (c.answer q) (c'.answer q) := by
  cases q with
  | hostname => exact .refl _
  | serverNamed name => exact (h.serverNamed name).attempt
  | runningServers selector => exact (h.runningServers selector).attempt

/-- Settings that differ in the token only, and in that a header may hold both tokens or neither,
    make alike discoveries. -/
theorem alike_addresses (path : String) (settings : Settings) {token : String}
    (h : isHeaderText settings.apiToken = isHeaderText token) :
    Alike (addresses path settings) (addresses path { settings with apiToken := token }) := by
  have htwins : (ofSettings settings).Twins (ofSettings { settings with apiToken := token }) :=
    ⟨rfl, h⟩
  exact Alike.via htwins.answer (Discovery.addresses path settings)

end CloudRoster.Provider.Client
