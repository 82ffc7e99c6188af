/-
  The result of a discovery: which servers it tells an address of.

  A discovery that ends well has listed servers once and tells the texts of addresses.  Each text
  belongs to a server: there is a strictly ascending map from the places of the texts to the places
  of the servers, so no order is changed and equal addresses of two servers are told twice.  The map
  meets exactly the servers that are in the location and have an address to choose.

  1. **Specification** - the location is read off the settings and what was answered (`locationOf`),
     the listing off what was answered (`listings`), and the choice for a server is
     `Choice.address`.
  2. **Bridge** - `filterMap` keeps places in order (`isSelection_filterMap`).
  3. **Headline** - `addresses_selects`.
-/
import CloudRoster.Proofs.Discovery.Course
import Mathlib.Order.Monotone.Basic
import Mathlib.Order.Fin.Basic

namespace CloudRoster.Discovery

open Dialogue Text

/-! ## Places in a list that is filtered -/

/-- `ys` are what `p` gives at the ascending places of `xs` where it gives something, all of
    them. -/
def IsSelection {α β : Type} (p : α → Option β) (xs : List α) (ys : List β) : Prop :=
  ∃ place : Fin ys.length → Fin xs.length, StrictMono place ∧
    (∀ i, i ∈ Set.range place ↔ ∃ b, p xs[i] = some b) ∧ ∀ k, p xs[place k] = some ys[k]

theorem IsSelection.skip {α β : Type} {p : α → Option β} {x : α} {xs : List α} {ys : List β}
    (hx : p x = none) (h : IsSelection p xs ys) : IsSelection p (x :: xs) ys := by
  obtain ⟨place, hmono, hrange, hvalue⟩ := h
  refine ⟨fun k => (place k).succ, ?_, ?_, hvalue⟩
  · intro j k hjk
    exact Fin.succ_lt_succ_iff.2 (hmono hjk)
  · intro i
    refine Fin.cases ?_ (fun i => ?_) i
    · simp [hx, Fin.succ_ne_zero]
    · simpa using hrange i

theorem IsSelection.keep {α β : Type} {p : α → Option β} {x : α} {xs : List α} {b : β}
    {ys : List β} (hx : p x = some b) (h : IsSelection p xs ys) :
    IsSelection p (x :: xs) (b :: ys) := by
  obtain ⟨place, hmono, hrange, hvalue⟩ := h
  -- the new text comes from the new place in front, all others move up by one
  refine ⟨Fin.cases 0 fun k => (place k).succ, ?_, ?_, ?_⟩
  · intro j k hjk
    induction k using Fin.cases with
    | zero => exact absurd hjk (Fin.not_lt_zero j)
    | succ k =>
      induction j using Fin.cases with
      | zero => exact Fin.succ_pos (place k)
      | succ j => exact Fin.succ_lt_succ_iff.2 (hmono (Fin.succ_lt_succ_iff.1 hjk))
  · intro i
    induction i using Fin.cases with
    | zero => exact ⟨fun _ => ⟨b, hx⟩, fun _ => ⟨0, rfl⟩⟩
    | succ i =>
      constructor
      · rintro ⟨k, hk⟩
        induction k using Fin.cases with
        | zero => exact absurd hk.symm (Fin.succ_ne_zero i)
        | succ k => exact (hrange i).1 ⟨k, Fin.succ_injective _ hk⟩
      · intro hi
        obtain ⟨k, hk⟩ := (hrange i).2 hi
        exact ⟨k.succ, congrArg Fin.succ hk⟩
  · intro k
    induction k using Fin.cases with
    | zero => exact hx
    | succ k => exact hvalue k

theorem isSelection_filterMap {α β : Type} (p : α → Option β) (xs : List α) :
    IsSelection p xs (xs.filterMap p) := by
  induction xs with
  | nil => exact ⟨Fin.elim0, fun k => k.elim0, fun i => i.elim0, fun k => k.elim0⟩
  | cons x xs ih =>
    cases hx : p x with
    | none => rw [List.filterMap_cons_none hx]; exact ih.skip hx
    | some b => rw [List.filterMap_cons_some hx]; exact ih.keep hx

/-! ## What a transcript tells of location and listing -/

/-- The location of the server that was found for this machine. -/
def detected? (xs : List (Exchange Answer)) : Option String :=
  xs.findSome? fun
    | ⟨.serverNamed _, .ok (some s)⟩ => some s.location
    | _ => none

/-- The location that servers had to be in: that of the settings or, where they name none, that of
    this machine. -/
def locationOf (settings : Settings) (xs : List (Exchange Answer)) : Option String :=
  settings.location.or (detected? xs)

/-- The servers that were listed, listing by listing. -/
def listings (xs : List (Exchange Answer)) : List (List Server) :=
  xs.filterMap fun
    | ⟨.runningServers _, .ok servers⟩ => some servers
    | _ => none

variable {world : World Answer} {past : List (Exchange Answer)} {settings : Settings}
  {path : String}

theorem outcome_eq_ok {location : Option String} {listing : Except Failure (List Server)}
    {ips : List Address} (h : outcome settings location listing = .ok ips) :
    ∃ servers, listing = .ok servers ∧ outcome settings location (.ok servers) = .ok ips := by
  cases listing with
  | error e => cases h
  | ok servers => exact ⟨servers, rfl, h⟩

/-- A discovery that ends well has listed servers once, and ends as one in the location does. -/
theorem Way.listings_of_result_ok {t : Transcript Answer (List Address)}
    (hway : Way path settings world past t) {ips : List Address} (h : t.result = .ok ips) :
    ∃ servers, listings t.exchanges = [servers] ∧
      outcome settings (locationOf settings t.exchanges) (.ok servers) = .ok ips := by
  cases hway with
  | located named =>
    obtain ⟨servers, rfl, hips⟩ := outcome_eq_ok h
    refine ⟨servers, rfl, ?_⟩
    rw [locationOf, named]
    exact hips
  | unreadable => cases h
  | blank unnamed =>
    obtain ⟨servers, rfl, hips⟩ := outcome_eq_ok h
    refine ⟨servers, rfl, ?_⟩
    rw [locationOf, unnamed]
    exact hips
  | lookupFailed => cases h
  | @lookedUp _ own _ unnamed =>
    obtain ⟨servers, rfl, hips⟩ := outcome_eq_ok h
    refine ⟨servers, rfl, ?_⟩
    rw [locationOf, unnamed]
    cases own with
    | none => exact hips
    | some s => exact hips

/-! ## Headline: who is told -/

/-- The texts of addresses. -/
def texts (ips : List Address) : List String := ips.map Address.print

/-- What is told of a server: the text of its address, if it is in the location and has one. -/
def told (settings : Settings) (location : Option String) (s : Server) : Option String :=
  if isIn location s then (Choice.address s settings.family).value.map Address.print else none

theorem isIn_iff {location : Option String} {s : Server} :
    isIn location s = true ↔ location = none ∨ location = some s.location := by
  cases location with
  | none => simp [isIn]
  | some l => simp [isIn, eq_comm]

theorem told_eq_some_iff {location : Option String} {s : Server} {text : String} :
    told settings location s = some text ↔
      (location = none ∨ location = some s.location) ∧
        ∃ ip, (Choice.address s settings.family).value = some ip ∧ text = ip.print := by
  rw [← isIn_iff, told]
  split
  · next h => simp [h, eq_comm]
  · next h => simp [h]

/-- A discovery in a location tells what there is to tell of the servers. -/
theorem texts_of_outcome {location : Option String} {servers : List Server} {ips : List Address}
    (h : outcome settings location (.ok servers) = .ok ips) :
    texts ips = servers.filterMap (told settings location) := by
  simp only [outcome, Except.map, chooseAll, Except.ok.injEq] at h
  rw [texts, ← h, List.filterMap_map, List.map_filterMap, List.filterMap_filter]
  rfl

/-- **The result of a discovery.**  One listing was answered, and the places of the texts go
    strictly upwards into the places of its servers.  They meet exactly the servers in the location
    that have an address to choose, and each text is that of the address chosen. -/
theorem addresses_selects (world : World Answer) (past : List (Exchange Answer))
    {ips : List Address} (h : ((addresses path settings).run world past).result = .ok ips) :
    let t := (addresses path settings).run world past
    let location := locationOf settings t.exchanges
    ∃ servers, listings t.exchanges = [servers] ∧
      ∃ place : Fin (texts ips).length → Fin servers.length, StrictMono place ∧
        (∀ i, i ∈ Set.range place ↔
          (location = none ∨ location = some servers[i].location) ∧
            ∃ ip, (Choice.address servers[i] settings.family).value = some ip) ∧
        ∀ k, ∃ ip, (Choice.address servers[place k] settings.family).value = some ip ∧
          (texts ips)[k] = ip.print := by
  intro t location
  have hway : Way path settings world past t := way world past path settings
  obtain ⟨servers, hlistings, houtcome⟩ := hway.listings_of_result_ok h
  have hsel : IsSelection (told settings location) servers (texts ips) := by
    rw [texts_of_outcome houtcome]
    exact isSelection_filterMap (told settings location) servers
  obtain ⟨place, hmono, hrange, hvalue⟩ := hsel
  refine ⟨servers, hlistings, place, hmono, fun i => ?_, fun k => ?_⟩
  · rw [hrange]
    simp [told_eq_some_iff]
  · exact (told_eq_some_iff.1 (hvalue k)).2

/-- Four servers, of which the first, without a location, is the machine itself.  The second is
    somewhere, the third has no address and the fourth shares the first one's. -/
def nowhereServers : List Server := [
  ⟨1, "web-1", "", [.v4 ⟨10, 0, 0, 1⟩], none, none, []⟩,
  ⟨2, "web-2", "fsn1", [.v4 ⟨10, 0, 0, 2⟩], none, none, []⟩,
  ⟨3, "web-3", "", [], none, none, []⟩,
  ⟨4, "web-4", "", [.v4 ⟨10, 0, 0, 1⟩], none, none, []⟩]

def nowhereWorld : World Answer := fun _ q =>
  (Inventory.ofServers nowhereServers).answer (.octets (utf8 "web-1\n")) q

def nowhereSettings : Settings := ⟨"token", none, "", .privateV4, "http://localhost"⟩

/-- The empty location of the machine counts: the second server is not told. -/
theorem addresses_selects_nowhere :
    ((addresses "/etc/hostname" nowhereSettings).run nowhereWorld []).result =
      .ok [.v4 ⟨10, 0, 0, 1⟩, .v4 ⟨10, 0, 0, 1⟩] ∧
    ∃ place : Fin 2 → Fin 4, StrictMono place ∧ ∀ i, i ∈ Set.range place ↔ i = 0 ∨ i = 3 := by
  have hresult : ((addresses "/etc/hostname" nowhereSettings).run nowhereWorld []).result =
      .ok [.v4 ⟨10, 0, 0, 1⟩, .v4 ⟨10, 0, 0, 1⟩] := by decide
  obtain ⟨servers, hlistings, place, hmono, hrange, -⟩ :=
    addresses_selects nowhereWorld [] hresult
  obtain rfl : nowhereServers = servers := by
    have hone : [nowhereServers] = [servers] := hlistings
    simpa using hone
  refine ⟨hresult, place, hmono, fun i => (hrange i).trans ?_⟩
  have hlocation : locationOf nowhereSettings
      ((addresses "/etc/hostname" nowhereSettings).run nowhereWorld []).exchanges = some "" := by
    decide
  rw [hlocation]
  have hall : ∀ i : Fin 4, ((some "" = none ∨ some "" = some nowhereServers[i].location) ∧
      (Choice.address nowhereServers[i] .privateV4).value.isSome = true) ↔ i = 0 ∨ i = 3 := by
    decide
  rw [← hall i, Option.isSome_iff_exists]
  rfl

end CloudRoster.Discovery
