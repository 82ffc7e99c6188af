/-
  What becomes of arguments, in whatever order they are visited.

  1. **Visits** - arguments are visited pair by pair.  An order of the keys puts all pairs in some
     order (`visited_perm`), and there is no order of the pairs that does not come up
     (`exists_visited`).
  2. **Fields** - `Parameters.field?`: parameters by key.  They are their fields (`eq_of_field?`).
  3. **The loop** - what one argument does to the fields is `enter_of_known` and
     `enter_of_unknown`.  Where no key is repeated, the whole loop comes to looking each field up
     (`fill_eq_lookedUp`).
-/
import CloudRoster.Proofs.Collect
import CloudRoster.Settings
import Mathlib.Data.List.Nodup
import Mathlib.Data.List.Perm.Basic

namespace CloudRoster

/-! ## Visits -/

/-- Where no key is repeated, a key has the value that stands beside it. -/
theorem lookup_eq_some_iff_of_nodup {pairs : List (String × String)}
    (h : (pairs.map Prod.fst).Nodup) {key value : String} :
    pairs.lookup key = some value ↔ (key, value) ∈ pairs := by
  constructor
  · intro hlookup
    obtain ⟨before, after, rfl, -⟩ := List.lookup_eq_some_iff.1 hlookup
    exact List.mem_append_right _ List.mem_cons_self
  · intro hmem
    obtain ⟨before, after, rfl⟩ := List.append_of_mem hmem
    refine List.lookup_eq_some_iff.2 ⟨before, after, rfl, fun pair hpair => ?_⟩
    rw [List.map_append, List.nodup_append] at h
    have hne := h.2.2 pair.1 (List.mem_map_of_mem hpair) key (by simp)
    exact bne_iff_ne.2 hne.symm

/-- Where no key is repeated, looking up the keys of some pairs gives these pairs back. -/
theorem filterMap_lookup {pairs part : List (String × String)} (h : (pairs.map Prod.fst).Nodup)
    (hpart : ∀ pair ∈ part, pair ∈ pairs) :
    (part.map Prod.fst).filterMap (fun key => (pairs.lookup key).map fun value => (key, value)) =
      part := by
  induction part with
  | nil => rfl
  | cons pair part ih =>
    obtain ⟨hpair, hpart⟩ := List.forall_mem_cons.1 hpart
    have hlookup : pairs.lookup pair.1 = some pair.2 := (lookup_eq_some_iff_of_nodup h).2 hpair
    rw [List.map_cons, List.filterMap_cons, hlookup, Option.map_some]
    exact congrArg (pair :: ·) (ih hpart)

namespace Arguments

variable {args : Arguments}

/-- Visiting passes no pair over and comes to none twice. -/
theorem visited_perm (h : (args.pairs.map Prod.fst).Nodup) (order : Visiting) :
    (args.visited order).Perm args.pairs := by
  have hperm := (order.perm (args.pairs.map Prod.fst)).filterMap fun key =>
    (args.value? key).map fun value => (key, value)
  have hgiven := filterMap_lookup h fun _ hpair => hpair
  exact hperm.trans (.of_eq hgiven)

/-- The keys come up as the order has them. -/
theorem map_fst_visited (order : Visiting) :
    (args.visited order).map Prod.fst = order.arrange (args.pairs.map Prod.fst) := by
  rw [visited, List.map_filterMap]
  refine (List.filterMap_congr fun key hkey => ?_).trans List.filterMap_some
  have hvalue : args.value? key ≠ none := by
    rw [value?, Ne, lookup_eq_none_iff_notMem, not_not]
    exact (order.perm _).mem_iff.1 hkey
  obtain ⟨value, hsome⟩ := Option.ne_none_iff_exists'.1 hvalue
  rw [hsome]
  rfl

theorem nodup_visited (h : (args.pairs.map Prod.fst).Nodup) (order : Visiting) :
    ((args.visited order).map Prod.fst).Nodup :=
  ((visited_perm h order).map Prod.fst).nodup_iff.2 h

/-- A key has the same value wherever its pair is visited. -/
theorem lookup_visited (h : (args.pairs.map Prod.fst).Nodup) (order : Visiting) (key : String) :
    (args.visited order).lookup key = args.value? key := by
  refine Option.ext fun value => ?_
  rw [value?, lookup_eq_some_iff_of_nodup (nodup_visited h order), lookup_eq_some_iff_of_nodup h,
    (visited_perm h order).mem_iff]

/-- A map with these keys may be visited in any order. -/
theorem exists_visited (h : (args.pairs.map Prod.fst).Nodup) {pairs : List (String × String)}
    (hperm : pairs.Perm args.pairs) : ∃ order, args.visited order = pairs := by
  let order : Visiting :=
    { arrange := fun keys =>
        if keys = args.pairs.map Prod.fst then pairs.map Prod.fst else keys
      perm := by
        intro keys
        split
        · next hkeys => exact hkeys ▸ hperm.map Prod.fst
        · exact .refl _ }
  have harrange : order.arrange (args.pairs.map Prod.fst) = pairs.map Prod.fst := if_pos rfl
  refine ⟨order, ?_⟩
  rw [visited, harrange]
  exact filterMap_lookup h fun pair hpair => hperm.mem_iff.1 hpair

end Arguments

namespace Parameters

/-! ## Fields -/

/-- The keys that have a meaning. -/
def keys : List String :=
  ["provider", "api_token", "location", "label_selector", "address_type"]

/-- The field that belongs to a key, if it is there. -/
def field? (p : Parameters) : String → Option String
  | "provider" => some p.provider
  | "api_token" => p.apiToken
  | "location" => p.location
  | "label_selector" => p.labelSelector
  | "address_type" => p.addressType
  | _ => none

theorem forall_mem_keys {P : String → Prop} :
    (∀ key ∈ keys, P key) ↔ P "provider" ∧ P "api_token" ∧ P "location" ∧ P "label_selector" ∧
      P "address_type" := by
  simp [keys]

theorem notMem_keys {key : String} :
    key ∉ keys ↔ key ≠ "provider" ∧ key ≠ "api_token" ∧ key ≠ "location" ∧
      key ≠ "label_selector" ∧ key ≠ "address_type" := by
  simp [keys]

theorem field?_of_unknown (p : Parameters) {key : String} (h : key ∉ keys) :
    p.field? key = none := by
  obtain ⟨hprovider, htoken, hlocation, hselector, htype⟩ := notMem_keys.1 h
  unfold field?
  split <;> first | contradiction | rfl

/-- Parameters are their fields. -/
theorem eq_of_field? {p q : Parameters} (h : ∀ key ∈ keys, p.field? key = q.field? key) :
    p = q := by
  obtain ⟨hprovider, htoken, hlocation, hselector, htype⟩ := forall_mem_keys.1 h
  cases p
  cases q
  cases hprovider
  cases htoken
  cases hlocation
  cases hselector
  cases htype
  rfl

/-! ## The loop -/

theorem enter_of_unknown (p : Parameters) {pair : String × String} (h : pair.1 ∉ keys) :
    p.enter pair = .error (.unknown pair.1) := by
  obtain ⟨hprovider, htoken, hlocation, hselector, htype⟩ := notMem_keys.1 h
  unfold enter
  split <;> first | contradiction | rfl

/-- An argument with a meaning sets the field of its key and no other. -/
theorem enter_of_known (p : Parameters) {pair : String × String} (h : pair.1 ∈ keys) :
    ∃ q, p.enter pair = .ok q ∧ ∀ key ∈ keys, q.field? key =
      if key = pair.1 ∧ key ≠ "provider" then some pair.2 else p.field? key := by
  obtain ⟨k, v⟩ := pair
  revert k
  refine forall_mem_keys.2 ⟨?_, ?_, ?_, ?_, ?_⟩
  all_goals exact ⟨_, rfl, forall_mem_keys.2 ⟨rfl, rfl, rfl, rfl, rfl⟩⟩

/-- If all have a meaning and no key is repeated, each field holds what its argument says, or what
    it held before. -/
theorem foldlM_enter_of_known {pairs : List (String × String)}
    (hknown : ∀ pair ∈ pairs, pair.1 ∈ keys) (hnodup : (pairs.map Prod.fst).Nodup)
    (p : Parameters) :
    ∃ q, pairs.foldlM enter p = .ok q ∧ ∀ key ∈ keys, q.field? key =
      if key = "provider" then p.field? key else (pairs.lookup key).or (p.field? key) := by
  induction pairs generalizing p with
  | nil =>
    refine ⟨p, rfl, fun key _ => ?_⟩
    rw [List.lookup_nil, Option.none_or, ite_self]
  | cons pair pairs ih =>
    obtain ⟨k, v⟩ := pair
    rw [List.forall_mem_cons] at hknown
    rw [List.map_cons, List.nodup_cons] at hnodup
    obtain ⟨p', hp', hfields'⟩ := p.enter_of_known hknown.1
    obtain ⟨q, hq, hfields⟩ := ih hknown.2 hnodup.2 p'
    refine ⟨q, ?_, fun key hkey => ?_⟩
    · rw [List.foldlM_cons, hp']
      exact hq
    · rw [hfields key hkey, hfields' key hkey]
      rcases eq_or_ne key "provider" with rfl | hprovider
      · simp
      · rcases eq_or_ne key k with rfl | hother
        · -- the key of this argument is none of those that follow
          have hnone : pairs.lookup key = none := lookup_eq_none_iff_notMem.2 hnodup.1
          simp [hprovider, hnone]
        · simp [List.lookup_cons, hprovider, hother, beq_eq_false_iff_ne.2 hother]

/-- Each field looked up by its key, unless some key has no meaning; then the first such key is
    told. -/
def lookedUp (provider : String) (pairs : List (String × String)) : Except Failure Parameters :=
  match pairs.find? fun pair => !keys.contains pair.1 with
  | some pair => .error (.unknown pair.1)
  | none => .ok {
      provider
      apiToken := pairs.lookup "api_token"
      location := pairs.lookup "location"
      labelSelector := pairs.lookup "label_selector"
      addressType := pairs.lookup "address_type" }

/-- Where no key is repeated, the loop comes to looking each field up. -/
theorem fill_eq_lookedUp {pairs : List (String × String)} (hnodup : (pairs.map Prod.fst).Nodup)
    (provider : String) : fill provider pairs = lookedUp provider pairs := by
  rw [lookedUp]
  cases hfind : pairs.find? fun pair => !keys.contains pair.1 with
  | some pair =>
    obtain ⟨hunknown, before, after, rfl, hbefore⟩ := List.find?_eq_some_iff_append.1 hfind
    have hknown : ∀ old ∈ before, old.1 ∈ keys := by
      intro old hold
      simpa using hbefore old hold
    rw [List.map_append, List.nodup_append] at hnodup
    obtain ⟨q, hq, -⟩ := foldlM_enter_of_known hknown hnodup.1 ⟨provider, none, none, none, none⟩
    rw [fill, List.foldlM_append, hq]
    show (after.foldlM enter =<< q.enter pair) = _
    rw [enter_of_unknown q (by simpa using hunknown)]
    rfl
  | none =>
    have hknown : ∀ pair ∈ pairs, pair.1 ∈ keys := by
      intro pair hpair
      simpa using List.find?_eq_none.1 hfind pair hpair
    obtain ⟨q, hq, hfields⟩ :=
      foldlM_enter_of_known hknown hnodup ⟨provider, none, none, none, none⟩
    rw [fill, hq]
    refine congrArg Except.ok (eq_of_field? fun key hkey => (hfields key hkey).trans ?_)
    revert key
    exact forall_mem_keys.2 ⟨rfl, Option.or_none, Option.or_none, Option.or_none, Option.or_none⟩

section

variable {pairs : List (String × String)} {provider : String}

/-- A key is told exactly if it is the first without a meaning. -/
theorem lookedUp_eq_unknown_iff {key : String} :
    lookedUp provider pairs = .error (.unknown key) ↔ key ∉ keys ∧ ∃ before after,
      pairs.map Prod.fst = before ++ key :: after ∧ ∀ other ∈ before, other ∈ keys := by
  have hfirst : ∀ given : List String, given.find? (fun key => !keys.contains key) = some key ↔
      key ∉ keys ∧ ∃ before after,
        given = before ++ key :: after ∧ ∀ other ∈ before, other ∈ keys := by
    intro given
    simp [List.find?_eq_some_iff_append]
  rw [← hfirst, List.find?_map, lookedUp]
  show _ ↔ (pairs.find? fun pair => !keys.contains pair.1).map Prod.fst = some key
  cases pairs.find? fun pair => !keys.contains pair.1 with
  | none => exact ⟨nofun, nofun⟩
  | some pair => simp

/-- If all arguments have a meaning, the fields are what is looked up. -/
theorem fill_of_known (hnodup : (pairs.map Prod.fst).Nodup)
    (hknown : ∀ pair ∈ pairs, pair.1 ∈ keys) :
    fill provider pairs = .ok ⟨provider, pairs.lookup "api_token", pairs.lookup "location",
      pairs.lookup "label_selector", pairs.lookup "address_type"⟩ := by
  have hnone : (pairs.find? fun pair => !keys.contains pair.1) = none := by
    rw [List.find?_eq_none]
    intro pair hpair
    simpa using hknown pair hpair
  rw [fill_eq_lookedUp hnodup, lookedUp, hnone]

/-- Arguments that give parameters all have a meaning. -/
theorem known_of_fill (hnodup : (pairs.map Prod.fst).Nodup) {p : Parameters}
    (h : fill provider pairs = .ok p) : ∀ pair ∈ pairs, pair.1 ∈ keys := by
  rw [fill_eq_lookedUp hnodup, lookedUp] at h
  split at h
  · cases h
  · next hfind =>
    intro pair hpair
    simpa using List.find?_eq_none.1 hfind pair hpair

/-- Those that give none have one without a meaning among them, and this is told. -/
theorem unknown_of_fill (hnodup : (pairs.map Prod.fst).Nodup) {e : Failure}
    (h : fill provider pairs = .error e) :
    ∃ pair ∈ pairs, pair.1 ∉ keys ∧ e = .unknown pair.1 := by
  rw [fill_eq_lookedUp hnodup, lookedUp] at h
  split at h
  · next pair hfind =>
    cases h
    exact ⟨pair, List.mem_of_find?_eq_some hfind, by simpa using List.find?_some hfind, rfl⟩
  · cases h

end

/-- Tokens that are arguments give what the loop makes of a visit. -/
theorem ofTokens_of_arguments {tokens : List String} {args : Arguments}
    (h : Arguments.ofTokens tokens = .ok args) (order : Visiting) :
    ofTokens tokens order = fill args.provider (args.visited order) := by
  rw [ofTokens, h]
  rfl

/-- Tokens that are none give what is wrong with them, and nothing is visited. -/
theorem ofTokens_of_refused {tokens : List String} {e : Failure}
    (h : Arguments.ofTokens tokens = .error e) (order : Visiting) :
    ofTokens tokens order = .error e := by
  rw [ofTokens, h]
  rfl

end Parameters

end CloudRoster
