/-
  What every call of a client has.

  A client's calls are put together from requests by sequencing.  So a property of dialogues that
  its requests have, and that sequencing keeps, is one of all its calls: `Client.Carried` says what
  has to be shown of the property, and from it follow the listings, by induction on the pages that
  are left, and the calls (`Carried.serverNamed`, `Carried.runningServers`, `Carried.answer`).
-/
import CloudRoster.Provider.Client

namespace CloudRoster.Provider.Client

open Dialogue

variable {α β : Type} {c : Client}

/-- A property of dialogues that a client's requests have and that sequencing keeps. -/
structure Carried (c : Client) (P : (α : Type) → Dialogue Answer α → Prop) : Prop where
  done : ∀ {α : Type} (a : α), P α (.done a)
  fail : ∀ {α : Type} (e : Failure), P α (.fail e)
  bind : ∀ {α β : Type} {d : Dialogue Answer α} {f : α → Dialogue Answer β},
    P α d → (∀ a, P β (f a)) → P β (d >>= f)
  lookup : ∀ name, P _ (c.get "/servers" [("name", name)] serverPage?)
  servers : ∀ selector number,
    P _ (c.get "/servers" ((serverListing selector).query number) (serverListing selector).readPage)
  floating : ∀ number,
    P _ (c.get "/floating_ips" (floatingListing.query number) floatingListing.readPage)

namespace Carried

variable {P : (α : Type) → Dialogue Answer α → Prop}

theorem accept (h : c.Carried P) (r : Except Refusal α) : P α (Provider.accept r) := by
  cases r with
  | ok a => exact h.done a
  | error e => exact h.fail (.refused e)

theorem listFrom (h : c.Carried P) {l : Listing α}
    (hget : ∀ number, P _ (c.get l.path (l.query number) l.readPage)) (number : UInt64) :
    P _ (c.listFrom l number) := by
  rw [Client.listFrom]
  refine h.bind (hget number) fun page => ?_
  cases page.next with
  | none => exact h.done _
  | some next =>
    by_cases hlater : number < next
    · have := left_lt_left hlater
      simp only [dif_pos hlater]
      exact h.bind (h.listFrom hget next) fun _ => h.done _
    · simp only [dif_neg hlater]
      exact h.done _
termination_by UInt64.size - number.toNat

theorem floatingTable (h : c.Carried P) (servers : List ServerEntry) :
    P _ (c.floatingTable servers) := by
  unfold Client.floatingTable
  split
  · exact h.done _
  · exact h.bind (h.listFrom (l := floatingListing) h.floating 1) fun _ => h.accept _

theorem runningServers (h : c.Carried P) (selector : String) : P _ (c.runningServers selector) := by
  unfold Client.runningServers
  have hservers : P _ (c.list (serverListing selector)) :=
    h.listFrom (l := serverListing selector) (h.servers selector) 1
  refine h.bind hservers fun servers => ?_
  refine h.bind (h.floatingTable servers) fun table => ?_
  exact h.accept (servers.mapM (ServerEntry.toServer table))

theorem serverNamed (h : c.Carried P) (name : String) : P _ (c.serverNamed name) := by
  unfold Client.serverNamed
  refine h.bind (h.lookup name) fun page => ?_
  exact h.accept (page.items.head?.mapM (ServerEntry.toServer []))

end Carried

end CloudRoster.Provider.Client
