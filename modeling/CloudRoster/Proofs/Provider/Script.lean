/-
  Listings that are played against a script.

  A script is a row of replies: the first request gets the first one, whatever it asks for, the
  second request the second one, and so on (`scripted`).  What counts is the number of requests that
  were made before, so a part of a script is played in the same way by any world that has come to it
  (`RepliesFrom`).

  A listing whose pages a script brings is played to its end (`run_listFrom_of_fetched`, by
  induction on the pages), and so are the running servers, with the floating addresses if a server
  refers to one (`run_runningServers_refers`, `run_runningServers_plain`).
-/
import CloudRoster.Proofs.Provider.AllOrNothing

namespace CloudRoster.Provider

open Http Dialogue

variable {α : Type}

/-! ## Scripts -/

/-- The world that gives the replies of a script, and no reply when the script is over. -/
def scripted (script : List (Option Reply)) : World Answer
  | _, .hostname => .missing
  | past, .request _ => script.getD (requests past).length none

/-- From the request on that `n` others came before, the world gives these replies. -/
def RepliesFrom (world : World Answer) (n : Nat) (replies : List (Option Reply)) : Prop :=
  ∀ past k reply, (requests past).length = n + k → replies[k]? = some reply →
    ∀ r, world past (.request r) = reply

section

variable {world : World Answer} {n : Nat}

theorem RepliesFrom.head {reply : Option Reply} {replies : List (Option Reply)}
    (h : RepliesFrom world n (reply :: replies)) {past : List (Exchange Answer)}
    (hpast : (requests past).length = n) (r : Request) : world past (.request r) = reply :=
  h past 0 reply hpast rfl r

theorem RepliesFrom.tail {reply : Option Reply} {replies : List (Option Reply)}
    (h : RepliesFrom world n (reply :: replies)) : RepliesFrom world (n + 1) replies := by
  intro past k reply' hpast hreply r
  refine h past (k + 1) reply' ?_ hreply r
  rw [hpast, Nat.add_assoc, Nat.add_comm 1 k]

theorem RepliesFrom.left {xs ys : List (Option Reply)} (h : RepliesFrom world n (xs ++ ys)) :
    RepliesFrom world n xs := by
  intro past k reply hpast hreply r
  obtain ⟨hk, -⟩ := List.getElem?_eq_some_iff.1 hreply
  exact h past k reply hpast ((List.getElem?_append_left hk).trans hreply) r

theorem RepliesFrom.right {xs ys : List (Option Reply)} (h : RepliesFrom world n (xs ++ ys)) :
    RepliesFrom world (n + xs.length) ys := by
  intro past k reply hpast hreply r
  refine h past (xs.length + k) reply (hpast.trans (Nat.add_assoc ..)) ?_ r
  rw [List.getElem?_append_right (Nat.le_add_right ..), Nat.add_sub_cancel_left]
  exact hreply

theorem repliesFrom_scripted (replies rest : List (Option Reply)) :
    RepliesFrom (scripted (replies ++ rest)) 0 replies := by
  intro past k reply hpast hreply r
  obtain ⟨hk, -⟩ := List.getElem?_eq_some_iff.1 hreply
  show (replies ++ rest).getD (requests past).length none = reply
  rw [hpast, Nat.zero_add, List.getD_eq_getElem?_getD, List.getElem?_append_left hk, hreply,
    Option.getD_some]

end

namespace Client

variable {c : Client} {l : Listing α} {number : UInt64} {world : World Answer}
  {past : List (Exchange Answer)}

/-! ## Pages -/

/-- A listing whose pages come one after the other is played to its end. -/
theorem run_listFrom_of_fetched {inquiry : UInt64 → Inquiry} (hl : l.AskedBy inquiry)
    {steps : List Step} {items : List α} (h : Fetched inquiry l.readPage number steps items)
    (made : ∀ s ∈ steps, ∃ r, c.request? s.inquiry = .ok r)
    (replies : RepliesFrom world (requests past).length (steps.map Step.reply)) :
    ∃ xs, (c.listFrom l number).run world past = ⟨.ok items, xs, []⟩ ∧
      (requests xs).length = steps.length := by
  induction h generalizing past with
  | @last number s p asks brings stop =>
    obtain ⟨r, hr⟩ := made s List.mem_cons_self
    rw [asks, hl.request? c number] at hr
    have hreply : world past (.request r) = s.reply := replies.head rfl r
    have hstop : p.later number = none := by
      rw [Option.eq_none_iff_forall_ne_some]
      intro next hlater
      obtain ⟨hnext, hlt⟩ := Page.later_eq_some.1 hlater
      exact UInt64.not_lt.2 (stop next hnext) hlt
    rw [← hreply] at brings
    exact ⟨_, run_listFrom_last hr brings hstop, rfl⟩
  | @next number next s p steps items asks brings announced later rest ih =>
    obtain ⟨r, hr⟩ := made s List.mem_cons_self
    rw [asks, hl.request? c number] at hr
    have hreply : world past (.request r) = s.reply := replies.head rfl r
    rw [← hreply] at brings
    have hlater : p.later number = some next := Page.later_eq_some.2 ⟨announced, later⟩
    have hmore : ∀ s' ∈ steps, ∃ r', c.request? s'.inquiry = .ok r' :=
      fun s' hs' => made s' (List.mem_cons_of_mem _ hs')
    -- one more request was made when the rest of the script is played
    have htail : RepliesFrom world
        (requests (past ++ [⟨.request r, world past (.request r)⟩])).length
        (steps.map Step.reply) := by
      rw [requests_append, List.length_append]
      exact replies.tail
    obtain ⟨xs, hrest, hlength⟩ := ih hmore htail
    refine ⟨⟨.request r, world past (.request r)⟩ :: xs, ?_, congrArg (· + 1) hlength⟩
    rw [run_listFrom_next hr brings hlater]
    simp only [hrest]
    rfl

/-! ## The running servers -/

variable {selector : String} {servers floating : List Step} {entries : List ServerEntry}
  {floats : List FloatingEntry}

/-- If a server refers to a floating address, the pages of both listings are played. -/
theorem run_runningServers_refers
    (fetched : Fetched (.servers selector) serverPage? 1 servers entries)
    (refers : ∃ e ∈ entries, e.floatingIds ≠ [])
    (resolved : Fetched .floating (page? "floating_ips" floatingEntry?) 1 floating floats)
    (made : ∀ s ∈ servers ++ floating, ∃ r, c.request? s.inquiry = .ok r)
    (replies : RepliesFrom world (requests past).length ((servers ++ floating).map Step.reply)) :
    ((c.runningServers selector).run world past).result =
      (tableOf floats >>= fun table =>
        entries.mapM (ServerEntry.toServer table)).mapError .refused := by
  rw [List.forall_mem_append] at made
  rw [List.map_append] at replies
  obtain ⟨xs, hservers, hlength⟩ :=
    run_listFrom_of_fetched (serverListing_askedBy selector) fetched made.1 replies.left
  have hright : RepliesFrom world (requests (past ++ xs)).length (floating.map Step.reply) := by
    have hall := replies.right
    rw [List.length_map, ← hlength, ← List.length_append, ← requests_append] at hall
    exact hall
  obtain ⟨ys, hfloating, -⟩ :=
    run_listFrom_of_fetched floatingListing_askedBy resolved made.2 hright
  rw [runningServers, run_bind, list, hservers]
  simp only [Transcript.andThen, run_floatingTable_bind_refers refers, list, hfloating, Except.bind]

/-- If one does and the floating addresses cannot be listed, nothing can. -/
theorem run_runningServers_unresolved {e : Failure}
    (fetched : Fetched (.servers selector) serverPage? 1 servers entries)
    (refers : ∃ e ∈ entries, e.floatingIds ≠ [])
    (made : ∀ s ∈ servers, ∃ r, c.request? s.inquiry = .ok r)
    (replies : RepliesFrom world (requests past).length (servers.map Step.reply))
    (failed : ∀ past', (requests past').length = (requests past).length + servers.length →
      ((c.list floatingListing).run world past').result = .error e) :
    ((c.runningServers selector).run world past).result = .error e := by
  obtain ⟨xs, hservers, hlength⟩ :=
    run_listFrom_of_fetched (serverListing_askedBy selector) fetched made replies
  have hfailed := failed (past ++ xs) (by rw [requests_append, List.length_append, hlength])
  rw [runningServers, run_bind, list, hservers]
  simp only [Transcript.andThen, run_floatingTable_bind_refers refers, hfailed, Except.bind]

/-- If no server does, those of the servers are. -/
theorem run_runningServers_plain
    (fetched : Fetched (.servers selector) serverPage? 1 servers entries)
    (plain : ∀ e ∈ entries, e.floatingIds = [])
    (made : ∀ s ∈ servers, ∃ r, c.request? s.inquiry = .ok r)
    (replies : RepliesFrom world (requests past).length (servers.map Step.reply)) :
    ((c.runningServers selector).run world past).result =
      (entries.mapM (ServerEntry.toServer [])).mapError .refused := by
  obtain ⟨xs, hservers, -⟩ :=
    run_listFrom_of_fetched (serverListing_askedBy selector) fetched made replies
  rw [runningServers, run_bind, list, hservers]
  simp only [Transcript.andThen, run_floatingTable_bind_plain plain]

end Client

end CloudRoster.Provider
