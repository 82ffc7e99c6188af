/-
  The ways through asking for the running servers.

  The servers are listed first.  If one of them refers to floating addresses these are listed, too,
  and when all pages are there the texts are turned into addresses.  So there are four ways through
  it, one for each constructor of `Gathering`, and every run takes one of them
  (`run_runningServers`):

  - the listing of the servers fails, and so does everything;
  - no server refers to a floating address, and the servers are converted;
  - a server does, and the listing of the floating addresses fails;
  - it does not fail, and first they are converted and then the servers.

  What is requested, and up to which answer, is the same on all of them (`Gathering.account`).
-/
import CloudRoster.Proofs.Provider.Inquiry

namespace CloudRoster.Provider.Client

open Http Dialogue

variable {α : Type}

theorem run_accept (world : World Answer) (past : List (Exchange Answer)) (r : Except Refusal α) :
    (accept r).run world past = ⟨r.mapError .refused, [], []⟩ :=
  run_orFail world past _

/-- `Gathering c selector visits more result`: to ask for the running servers, the pages of servers
    and then those of floating addresses are visited, and this is the result. -/
inductive Gathering (c : Client) (selector : String) :
    List Visit → List Visit → Except Failure (List Server) → Prop where
  /-- The servers cannot be listed. -/
  | unlisted {visits : List Visit} {e : Failure}
      (servers : Course c (serverListing selector) 1 visits (.error e)) :
      Gathering c selector visits [] (.error e)
  /-- No server refers to a floating address. -/
  | plain {visits : List Visit} {entries : List ServerEntry}
      (servers : Course c (serverListing selector) 1 visits (.ok entries))
      (plain : ∀ e ∈ entries, e.floatingIds = []) :
      Gathering c selector visits []
        ((entries.mapM (ServerEntry.toServer [])).mapError .refused)
  /-- The floating addresses cannot be listed. -/
  | unresolved {visits more : List Visit} {entries : List ServerEntry} {e : Failure}
      (servers : Course c (serverListing selector) 1 visits (.ok entries))
      (refers : ∃ e ∈ entries, e.floatingIds ≠ [])
      (floating : Course c floatingListing 1 more (.error e)) :
      Gathering c selector visits more (.error e)
  /-- The floating addresses are listed. -/
  | resolved {visits more : List Visit} {entries : List ServerEntry} {floats : List FloatingEntry}
      (servers : Course c (serverListing selector) 1 visits (.ok entries))
      (refers : ∃ e ∈ entries, e.floatingIds ≠ [])
      (floating : Course c floatingListing 1 more (.ok floats)) :
      Gathering c selector visits more
        ((tableOf floats >>= fun table => entries.mapM (ServerEntry.toServer table)).mapError
          .refused)

theorem run_list (c : Client) (l : Listing α) (world : World Answer)
    (past : List (Exchange Answer)) : ∃ visits : List Visit,
      ((c.list l).run world past).exchanges = visits.map Visit.exchange ∧
      Course c l 1 visits ((c.list l).run world past).result :=
  run_listFrom c l world 1 past

/-- The table of floating addresses, when no server refers to any. -/
theorem run_floatingTable_plain {c : Client} {entries : List ServerEntry}
    (h : ∀ e ∈ entries, e.floatingIds = []) (world : World Answer)
    (past : List (Exchange Answer)) :
    (c.floatingTable entries).run world past = ⟨.ok [], [], []⟩ := by
  have hall : (entries.all fun s => s.floatingIds.isEmpty) = true := by
    rw [List.all_eq_true]
    intro e he
    rw [h e he]
    rfl
  unfold floatingTable
  rw [if_pos hall]
  rfl

/-- The table of floating addresses, when there is a server that refers to one. -/
theorem run_floatingTable_refers {c : Client} {entries : List ServerEntry}
    (h : ∃ e ∈ entries, e.floatingIds ≠ []) (world : World Answer)
    (past : List (Exchange Answer)) :
    (c.floatingTable entries).run world past =
      ⟨((c.list floatingListing).run world past).result.bind fun floats =>
          (tableOf floats).mapError .refused,
        ((c.list floatingListing).run world past).exchanges,
        ((c.list floatingListing).run world past).entries⟩ := by
  have hall : ¬(entries.all fun s => s.floatingIds.isEmpty) = true := by
    obtain ⟨e, he, hne⟩ := h
    intro hall
    exact hne (List.isEmpty_iff.1 (List.all_eq_true.1 hall e he))
  unfold floatingTable accept
  rw [if_neg hall, run_bind_orFail]

/-- What is left to do with listed servers, when none of them refers to a floating address. -/
theorem run_floatingTable_bind_plain {c : Client} {entries : List ServerEntry}
    (h : ∀ e ∈ entries, e.floatingIds = []) (world : World Answer)
    (past : List (Exchange Answer)) :
    (c.floatingTable entries >>= fun table =>
        accept (entries.mapM (ServerEntry.toServer table))).run world past =
      ⟨(entries.mapM (ServerEntry.toServer [])).mapError .refused, [], []⟩ := by
  rw [run_bind, run_floatingTable_plain h]
  simp only [Transcript.andThen, run_accept, List.append_nil]

/-- What is left to do with them, when there is a server that refers to one. -/
theorem run_floatingTable_bind_refers {c : Client} {entries : List ServerEntry}
    (h : ∃ e ∈ entries, e.floatingIds ≠ []) (world : World Answer)
    (past : List (Exchange Answer)) :
    (c.floatingTable entries >>= fun table =>
        accept (entries.mapM (ServerEntry.toServer table))).run world past =
      ⟨((c.list floatingListing).run world past).result.bind fun floats =>
          (tableOf floats >>= fun table =>
            entries.mapM (ServerEntry.toServer table)).mapError .refused,
        ((c.list floatingListing).run world past).exchanges,
        ((c.list floatingListing).run world past).entries⟩ := by
  rw [run_bind, run_floatingTable_refers h]
  generalize (c.list floatingListing).run world past = u
  obtain ⟨result, exchanges, told⟩ := u
  cases result with
  | error e => rfl
  | ok floats =>
    simp only [Transcript.andThen, Except.bind, run_accept]
    cases tableOf floats with
    | error e => rfl
    | ok table =>
      simp only [Except.mapError, List.append_nil]
      rfl

/-- Every run goes one of these ways. -/
theorem run_runningServers (c : Client) (selector : String) (world : World Answer)
    (past : List (Exchange Answer)) : ∃ visits more : List Visit,
      ((c.runningServers selector).run world past).exchanges =
        (visits ++ more).map Visit.exchange ∧
      Gathering c selector visits more ((c.runningServers selector).run world past).result := by
  obtain ⟨visits, hvisits, hservers⟩ := run_list c (serverListing selector) world past
  rw [runningServers, run_bind]
  cases hlist : ((c.list (serverListing selector)).run world past).result with
  | error e =>
    rw [hlist] at hservers
    rw [Transcript.andThen_error hlist]
    refine ⟨visits, [], ?_, .unlisted hservers⟩
    rw [List.append_nil]
    exact hvisits
  | ok entries =>
    rw [hlist] at hservers
    simp only [Transcript.andThen, hlist]
    by_cases hplain : ∀ e ∈ entries, e.floatingIds = []
    · rw [run_floatingTable_bind_plain hplain]
      refine ⟨visits, [], ?_, .plain hservers hplain⟩
      rw [List.append_nil, List.append_nil]
      exact hvisits
    · have hrefers : ∃ e ∈ entries, e.floatingIds ≠ [] := by
        by_contra hnone
        exact hplain fun e he => by_contra fun hne => hnone ⟨e, he, hne⟩
      obtain ⟨more, hmore, hfloating⟩ := run_list c floatingListing world
        (past ++ ((c.list (serverListing selector)).run world past).exchanges)
      rw [run_floatingTable_bind_refers hrefers]
      generalize (c.list floatingListing).run world
        (past ++ ((c.list (serverListing selector)).run world past).exchanges) = u
        at hmore hfloating
      refine ⟨visits, more, ?_, ?_⟩
      · rw [List.map_append, ← hvisits, ← hmore]
      · cases hu : u.result with
        | error e =>
          rw [hu] at hfloating
          exact .unresolved hservers hrefers hfloating
        | ok floats =>
          rw [hu] at hfloating
          exact .resolved hservers hrefers hfloating

/-! ## What is requested -/

/-- The requests of one course, and no more. -/
theorem account_course {c : Client} {β : Type} {l : Listing α} {inquiry : UInt64 → Inquiry}
    (hl : l.AskedBy inquiry) (inquiry' : UInt64 → Inquiry) {visits : List Visit}
    {r : Except Failure (List α)} {t : Transcript Answer β} (first : Course c l 1 visits r)
    (hx : t.exchanges = (visits ++ []).map Visit.exchange)
    (hr : ∀ e, r = .error e → t.result = .error e) :
    c.Account t (visits.map (Visit.step inquiry) ++ [].map (Visit.step inquiry')) := by
  rw [List.append_nil] at hx
  rw [List.map_nil, List.append_nil]
  have haccount := Course.account (t := ⟨r, visits.map Visit.exchange, []⟩) hl first rfl
  exact haccount.transport (congrArg requests hx) hr

/-- The requests of one course and, if it has a value, of another. -/
theorem account_courses {c : Client} {β γ : Type} {l : Listing α} {m : Listing β}
    {inquiry inquiry' : UInt64 → Inquiry} (hl : l.AskedBy inquiry) (hm : m.AskedBy inquiry')
    {visits more : List Visit} {items : List α} {r : Except Failure (List β)}
    {t : Transcript Answer γ} (first : Course c l 1 visits (.ok items))
    (second : Course c m 1 more r)
    (hx : t.exchanges = (visits ++ more).map Visit.exchange)
    (hr : ∀ e, r = .error e → t.result = .error e) :
    c.Account t (visits.map (Visit.step inquiry) ++ more.map (Visit.step inquiry')) := by
  have hfirst := Course.account (t := ⟨.ok items, visits.map Visit.exchange, []⟩) hl first rfl
  have hsecond := Course.account (t := ⟨r, more.map Visit.exchange, []⟩) hm second rfl
  have hboth := hfirst.andThen (fun _ _ => hsecond) fun e he => nomatch he
  refine hboth.transport ?_ hr
  rw [hx, List.map_append]
  rfl

/-- All that is requested, up to the first answer of no use. -/
theorem Gathering.account {c : Client} {selector : String} {visits more : List Visit}
    {t : Transcript Answer (List Server)} (h : Gathering c selector visits more t.result)
    (hx : t.exchanges = (visits ++ more).map Visit.exchange) :
    c.Account t (visits.map (Visit.step (.servers selector)) ++
      more.map (Visit.step .floating)) := by
  have hservers := serverListing_askedBy selector
  generalize hr : t.result = result at h
  cases h with
  | unlisted servers =>
    refine account_course hservers _ servers hx ?_
    rintro e ⟨⟩
    exact hr
  | plain servers =>
    refine account_course hservers _ servers hx ?_
    rintro e ⟨⟩
  | unresolved servers _ floating =>
    refine account_courses hservers floatingListing_askedBy servers floating hx ?_
    rintro e ⟨⟩
    exact hr
  | resolved servers _ floating =>
    refine account_courses hservers floatingListing_askedBy servers floating hx ?_
    rintro e ⟨⟩

end CloudRoster.Provider.Client
