/-
  The order of arguments does not matter.

  Two orders are behind parameters: that in which the tokens are given, and that in which the
  arguments are visited once they are gathered by key, which nobody knows.

  1. **Fields as pairs** - `Parameters.pairs` are the fields that are there, each with its key.
     Arguments give these parameters exactly if they are these pairs in any order
     (`fill_eq_ok_iff`).
  2. **Fields as tokens** - `Parameters.tokens` are the pairs with equals signs between them.
     Tokens give these parameters exactly if they are these tokens in any order (`reads_ok_iff`).
  3. **Two orders** - `Reads tokens result`: this can come of the tokens, in some order of the
     arguments (`reads_iff_exists_visiting`).  What comes of them in two orders can only differ in
     which of several keys without a meaning is told (`Agree`, `agree_ofTokens`): it is the first
     one that is visited (`ofTokens_eq_unknown_iff`).

  **Headline** (`ofTokens_orderless`): in one order or another, the same parameters come of tokens,
  they are read back from their own tokens, and which keys have no meaning does not depend on it.
-/
import CloudRoster.Proofs.Arguments.Acceptance
import CloudRoster.Proofs.Arguments.Visit

namespace CloudRoster

namespace Parameters

/-! ## Fields as pairs -/

/-- The fields that are there, with their keys. -/
def pairs (p : Parameters) : List (String × String) :=
  keys.filterMap fun key => (p.field? key).map fun value => (key, value)

theorem mem_pairs {p : Parameters} {key value : String} :
    (key, value) ∈ p.pairs ↔ p.field? key = some value := by
  simp only [pairs, List.mem_filterMap, Option.map_eq_some_iff, Prod.mk.injEq]
  constructor
  · rintro ⟨_, -, _, hfield, rfl, rfl⟩
    exact hfield
  · intro hfield
    refine ⟨key, ?_, value, hfield, rfl, rfl⟩
    by_contra hunknown
    rw [field?_of_unknown p hunknown] at hfield
    cases hfield

theorem mem_keys_of_mem_pairs {p : Parameters} {pair : String × String} (h : pair ∈ p.pairs) :
    pair.1 ∈ keys := by
  obtain ⟨key, hkey, hpair⟩ := List.mem_filterMap.1 h
  obtain ⟨value, -, rfl⟩ := Option.map_eq_some_iff.1 hpair
  exact hkey

theorem nodup_keys_pairs (p : Parameters) : (p.pairs.map Prod.fst).Nodup := by
  have hkeys : keys.Nodup := by decide
  rw [pairs, List.map_filterMap]
  refine hkeys.filterMap fun key key' k hk hk' => ?_
  simp only [Option.map_map, Option.mem_def, Option.map_eq_some_iff, Function.comp] at hk hk'
  obtain ⟨_, -, rfl⟩ := hk
  obtain ⟨_, -, rfl⟩ := hk'
  rfl

section

variable {order : List (String × String)} {provider : String}

/-- Arguments in some order give parameters exactly if they are the pairs of these. -/
theorem fill_eq_ok_iff (hnodup : (order.map Prod.fst).Nodup)
    (hprovider : ("provider", provider) ∈ order) {p : Parameters} :
    fill provider order = .ok p ↔ order.Perm p.pairs := by
  have hlookup := @lookup_eq_some_iff_of_nodup order hnodup
  rw [← hlookup] at hprovider
  -- parameters with these fields are the only ones there can be
  have hfields : ∀ {p : Parameters}, (∀ pair ∈ order, pair.1 ∈ keys) →
      (fill provider order = .ok p ↔ ∀ key ∈ keys, p.field? key = order.lookup key) := by
    intro p hknown
    rw [fill_of_known hnodup hknown]
    constructor
    · intro h
      rw [← Except.ok.inj h]
      exact forall_mem_keys.2 ⟨hprovider.symm, rfl, rfl, rfl, rfl⟩
    · intro h
      refine congrArg Except.ok (eq_of_field? fun key hkey => (Eq.trans ?_ (h key hkey).symm))
      revert key
      exact forall_mem_keys.2 ⟨hprovider.symm, rfl, rfl, rfl, rfl⟩
  constructor
  · intro h
    have hknown := known_of_fill hnodup h
    have hsame := (hfields hknown).1 h
    rw [List.perm_ext_iff_of_nodup hnodup.of_map (nodup_keys_pairs p).of_map]
    rintro ⟨key, value⟩
    rw [mem_pairs]
    constructor
    · intro hmem
      rw [hsame key (hknown _ hmem)]
      exact hlookup.2 hmem
    · intro hfield
      rw [hsame key (mem_keys_of_mem_pairs (mem_pairs.2 hfield))] at hfield
      exact hlookup.1 hfield
  · intro h
    have hknown : ∀ pair ∈ order, pair.1 ∈ keys :=
      fun pair hpair => mem_keys_of_mem_pairs (h.mem_iff.1 hpair)
    rw [hfields hknown]
    intro key _
    refine Option.ext fun value => ?_
    rw [hlookup, h.mem_iff, mem_pairs]

end

/-! ## Fields as tokens -/

/-- The fields that are there, written as arguments. -/
def tokens (p : Parameters) : List String := p.pairs.map Argument.write

/-- No field is there and empty. -/
def Filled (p : Parameters) : Prop := ∀ key, p.field? key ≠ some ""

theorem sign_notMem_of_mem_pairs {p : Parameters} {pair : String × String} (h : pair ∈ p.pairs) :
    '=' ∉ pair.1.toList := by
  have hsigns : ∀ key ∈ keys, '=' ∉ key.toList := by decide +kernel
  exact hsigns _ (mem_keys_of_mem_pairs h)

theorem map_pair_tokens (p : Parameters) : p.tokens.map Argument.pair = p.pairs := by
  rw [tokens, List.map_map]
  refine (List.map_congr_left fun pair hpair => ?_).trans (List.map_id _)
  exact Argument.pair_write (sign_notMem_of_mem_pairs hpair)

/-- Parameters are filled exactly if nothing is wrong with their tokens. -/
theorem filled_iff_faultless {p : Parameters} : p.Filled ↔ Arguments.Faultless p.tokens := by
  have hvalue : ∀ pair ∈ p.pairs, Argument.value (Argument.write pair) = some pair.2 :=
    fun pair hpair => Argument.value_write (sign_notMem_of_mem_pairs hpair)
  constructor
  · intro h
    constructor
    · rw [tokens, List.forall_mem_map]
      rintro pair hpair (hnone | hempty)
      · rw [hvalue pair hpair] at hnone
        cases hnone
      · have hfield := mem_pairs.1 hpair
        rw [← hvalue pair hpair, hempty] at hfield
        exact h pair.1 hfield
    · rw [← Arguments.map_fst_map_pair, map_pair_tokens]
      exact nodup_keys_pairs p
  · rintro ⟨hformed, -⟩ key hempty
    have hpair := mem_pairs.2 hempty
    exact hformed _ (List.mem_map_of_mem hpair) (.inr (hvalue _ hpair))

/-! ## Reading -/

/-- What can come of tokens, if nobody knows in which order the arguments are visited. -/
inductive Reads (tokens : List String) (result : Except Failure Parameters) : Prop where
  | refused {e : Failure} (h : Arguments.ofTokens tokens = .error e) (he : result = .error e) :
      Reads tokens result
  | visited {args : Arguments} {order : List (String × String)}
      (h : Arguments.ofTokens tokens = .ok args) (perm : order.Perm args.pairs)
      (hresult : fill args.provider order = result) : Reads tokens result

section

variable {tokens : List String} {args : Arguments} {order : List (String × String)}

theorem nodup_keys_of_perm (h : Arguments.ofTokens tokens = .ok args)
    (perm : order.Perm args.pairs) : (order.map Prod.fst).Nodup := by
  obtain ⟨hfaultless, hpairs, -⟩ := Arguments.ofTokens_eq_ok_iff_faultless.1 h
  rw [(perm.map Prod.fst).nodup_iff, hpairs, Arguments.map_fst_map_pair]
  exact hfaultless.distinct

/-- Arguments are the pairs of parameters exactly if their tokens are the tokens of these. -/
theorem perm_pairs_iff (h : Arguments.ofTokens tokens = .ok args) {p : Parameters} :
    args.pairs.Perm p.pairs ↔ tokens.Perm p.tokens := by
  obtain ⟨hfaultless, hpairs, -⟩ := Arguments.ofTokens_eq_ok_iff_faultless.1 h
  constructor
  · intro perm
    have htokens : args.pairs.map Argument.write = tokens := by
      rw [hpairs, List.map_map]
      refine (List.map_congr_left fun token htoken => ?_).trans (List.map_id _)
      exact Argument.write_pair (hfaultless.formed token htoken)
    rw [← htokens]
    exact perm.map Argument.write
  · intro perm
    rw [hpairs, ← map_pair_tokens]
    exact perm.map Argument.pair

/-- Whatever the order, the result is the parameters whose tokens these are. -/
theorem fill_visited_iff (h : Arguments.ofTokens tokens = .ok args)
    (perm : order.Perm args.pairs) {p : Parameters} :
    fill args.provider order = .ok p ↔ tokens.Perm p.tokens := by
  obtain ⟨-, -, hprovider⟩ := Arguments.ofTokens_eq_ok_iff_faultless.1 h
  rw [fill_eq_ok_iff (nodup_keys_of_perm h perm) (perm.mem_iff.2 hprovider),
    ← perm_pairs_iff h]
  exact ⟨perm.symm.trans, perm.trans⟩

end

/-- Tokens give parameters exactly if they are the tokens of these, in any order. -/
theorem reads_ok_iff {tokens : List String} {p : Parameters} :
    Reads tokens (.ok p) ↔ p.Filled ∧ tokens.Perm p.tokens := by
  constructor
  · intro h
    cases h with
    | refused h he => cases he
    | visited h perm hresult =>
      have htokens := (fill_visited_iff h perm).1 hresult
      obtain ⟨hfaultless, -, -⟩ := Arguments.ofTokens_eq_ok_iff_faultless.1 h
      exact ⟨filled_iff_faultless.2 (hfaultless.perm htokens.symm), htokens⟩
  · rintro ⟨hfilled, htokens⟩
    have hprovider : "provider" ∈ tokens.map Argument.key := by
      rw [(htokens.map Argument.key).mem_iff, ← Arguments.map_fst_map_pair, map_pair_tokens]
      exact List.mem_map_of_mem (mem_pairs.2 rfl : ("provider", p.provider) ∈ p.pairs)
    have hfaultless := (filled_iff_faultless.1 hfilled).perm htokens
    obtain ⟨args, hargs⟩ := Arguments.exists_ofTokens_iff.2 ⟨hfaultless, hprovider⟩
    exact .visited hargs (.refl _) ((fill_visited_iff hargs (.refl _)).2 htokens)

/-- Once parameters come of tokens, nothing else does. -/
theorem Reads.eq_ok {tokens : List String} {p : Parameters} (h : Reads tokens (.ok p))
    {result : Except Failure Parameters} (hresult : Reads tokens result) : result = .ok p := by
  obtain ⟨-, htokens⟩ := reads_ok_iff.1 h
  cases h with
  | refused _ he => cases he
  | visited hargs _ _ =>
    cases hresult with
    | refused hrefused =>
      rw [hargs] at hrefused
      cases hrefused
    | visited hargs' perm' hresult' =>
      rw [← hresult']
      exact (fill_visited_iff hargs' perm').2 htokens

/-- Of tokens that are arguments comes a failure exactly for a key without a meaning, whichever of
    those is visited first. -/
theorem reads_error_iff {tokens : List String} {args : Arguments}
    (h : Arguments.ofTokens tokens = .ok args) {e : Failure} :
    Reads tokens (.error e) ↔
      ∃ key ∈ tokens.map Argument.key, key ∉ keys ∧ e = .unknown key := by
  have hkeys := (Arguments.holds_of_ofTokens h).keys
  constructor
  · intro hreads
    cases hreads with
    | refused hrefused =>
      rw [h] at hrefused
      cases hrefused
    | visited hargs perm hresult =>
      obtain rfl := Except.ok.inj (h.symm.trans hargs)
      obtain ⟨pair, hpair, hunknown, rfl⟩ := unknown_of_fill (nodup_keys_of_perm h perm) hresult
      refine ⟨pair.1, ?_, hunknown, rfl⟩
      rw [← hkeys]
      exact List.mem_map_of_mem (perm.mem_iff.1 hpair)
  · rintro ⟨key, hkey, hunknown, rfl⟩
    rw [← hkeys] at hkey
    obtain ⟨pair, hpair, rfl⟩ := List.mem_map.1 hkey
    -- the order in which this argument is the first
    refine .visited h (List.perm_cons_erase hpair).symm ?_
    rw [fill, List.foldlM_cons, enter_of_unknown _ hunknown]
    rfl

/-- Tokens that are arguments come to a failure exactly if one of their keys has no meaning. -/
theorem Reads.isError_iff {tokens : List String} {args : Arguments}
    (h : Arguments.ofTokens tokens = .ok args) {result : Except Failure Parameters}
    (hresult : Reads tokens result) :
    (∃ e, result = .error e) ↔ ∃ key ∈ tokens.map Argument.key, key ∉ keys := by
  constructor
  · rintro ⟨e, rfl⟩
    obtain ⟨key, hkey, hunknown, -⟩ := (reads_error_iff h).1 hresult
    exact ⟨key, hkey, hunknown⟩
  · rintro ⟨key, hkey, hunknown⟩
    have herror := (reads_error_iff h).2 ⟨key, hkey, hunknown, rfl⟩
    cases result with
    | error e => exact ⟨e, rfl⟩
    | ok p => exact absurd (hresult.eq_ok herror) nofun

/-- Two results that can come of tokens are the same, or tell two keys. -/
theorem Reads.either {tokens : List String} {args : Arguments}
    (h : Arguments.ofTokens tokens = .ok args) {r r' : Except Failure Parameters}
    (hreads : Reads tokens r) (hreads' : Reads tokens r') :
    r = r' ∨ ∃ key key', key ≠ key' ∧ r = .error (.unknown key) ∧ r' = .error (.unknown key') := by
  cases r with
  | ok p => exact .inl (hreads.eq_ok hreads').symm
  | error e =>
    obtain ⟨key, -, -, rfl⟩ := (reads_error_iff h).1 hreads
    cases r' with
    | ok p => exact .inl (hreads'.eq_ok hreads)
    | error e' =>
      obtain ⟨key', -, -, rfl⟩ := (reads_error_iff h).1 hreads'
      rcases eq_or_ne key key' with rfl | hne
      · exact .inl rfl
      · exact .inr ⟨key, key', hne, rfl, rfl⟩

/-- What can come of tokens is what comes of them in some order of the keys. -/
theorem reads_iff_exists_visiting {tokens : List String} {result : Except Failure Parameters} :
    Reads tokens result ↔ ∃ order : Visiting, ofTokens tokens order = result := by
  constructor
  · intro h
    cases h with
    | refused h he => exact ⟨.given, (ofTokens_of_refused h .given).trans he.symm⟩
    | visited h perm hresult =>
      obtain ⟨order, rfl⟩ := Arguments.exists_visited (nodup_keys_of_perm h (.refl _)) perm
      exact ⟨order, (ofTokens_of_arguments h order).trans hresult⟩
  · rintro ⟨order, rfl⟩
    cases h : Arguments.ofTokens tokens with
    | error e => exact .refused h (ofTokens_of_refused h order)
    | ok args =>
      have perm := Arguments.visited_perm (nodup_keys_of_perm h (.refl _)) order
      exact .visited h perm (ofTokens_of_arguments h order).symm

theorem reads_ofTokens (tokens : List String) (order : Visiting) :
    Reads tokens (ofTokens tokens order) :=
  reads_iff_exists_visiting.2 ⟨order, rfl⟩

/-! ## Two orders -/

/-- `FirstUnknown order given key`: of the keys that are given, visited in this order, this is the
    first without a meaning. -/
structure FirstUnknown (order : Visiting) (given : List String) (key : String) : Prop where
  unknown : key ∉ keys
  first : ∃ before after, order.arrange given = before ++ key :: after ∧
    ∀ other ∈ before, other ∈ keys

/-- A key is told exactly if it is the first without a meaning. -/
theorem ofTokens_eq_unknown_iff {tokens : List String} {args : Arguments}
    (h : Arguments.ofTokens tokens = .ok args) {order : Visiting} {key : String} :
    ofTokens tokens order = .error (.unknown key) ↔
      FirstUnknown order (tokens.map Argument.key) key := by
  have hnodup := Arguments.nodup_visited (nodup_keys_of_perm h (.refl _)) order
  rw [ofTokens_of_arguments h, fill_eq_lookedUp hnodup, lookedUp_eq_unknown_iff,
    Arguments.map_fst_visited, (Arguments.holds_of_ofTokens h).keys]
  exact ⟨fun ⟨hunknown, hfirst⟩ => ⟨hunknown, hfirst⟩, fun hfirst => ⟨hfirst.1, hfirst.2⟩⟩

/-- Of arguments with a key that has no meaning, the first such key is told. -/
def TellsFirst {α : Type} (tokens : List String) (order : Visiting) (r : Except Failure α) : Prop :=
  ∀ args, Arguments.ofTokens tokens = .ok args →
    ∀ key, FirstUnknown order (tokens.map Argument.key) key → r = .error (.unknown key)

theorem tellsFirst_ofTokens (tokens : List String) (order : Visiting) :
    TellsFirst tokens order (ofTokens tokens order) :=
  fun _ hargs _ hfirst => (ofTokens_eq_unknown_iff hargs).2 hfirst

/-- `Agree tokens order order' r r'`: what becomes of the tokens in one order and in another. -/
structure Agree {α : Type} (tokens : List String) (order order' : Visiting)
    (r r' : Except Failure α) : Prop where
  /-- If the keys are visited alike, it is the same. -/
  alike : order.arrange (tokens.map Argument.key) = order'.arrange (tokens.map Argument.key) →
    r = r'
  /-- If they are not, it is the same, or in each order another key is the first without a meaning,
      and is told. -/
  either : r = r' ∨ ∃ key key', FirstUnknown order (tokens.map Argument.key) key ∧
    FirstUnknown order' (tokens.map Argument.key) key' ∧ key ≠ key' ∧
      r = .error (.unknown key) ∧ r' = .error (.unknown key')
  first : TellsFirst tokens order r
  first' : TellsFirst tokens order' r'

/-- Nobody tells a failure where the other order comes to a result. -/
theorem Agree.eq_ok {α : Type} {tokens : List String} {order order' : Visiting}
    {r : Except Failure α} {a : α} (h : Agree tokens order order' r (.ok a)) : r = .ok a := by
  rcases h.either with h | ⟨_, _, -, -, -, -, h⟩
  · exact h
  · cases h

theorem agree_ofTokens (tokens : List String) (order order' : Visiting) :
    Agree tokens order order' (ofTokens tokens order) (ofTokens tokens order') := by
  cases hargs : Arguments.ofTokens tokens with
  | error e =>
    have hsame : ofTokens tokens order = ofTokens tokens order' := by
      rw [ofTokens_of_refused hargs, ofTokens_of_refused hargs]
    exact ⟨fun _ => hsame, .inl hsame, tellsFirst_ofTokens tokens order,
      tellsFirst_ofTokens tokens order'⟩
  | ok args =>
    refine ⟨?_, ?_, tellsFirst_ofTokens tokens order, tellsFirst_ofTokens tokens order'⟩
    · intro halike
      rw [← (Arguments.holds_of_ofTokens hargs).keys] at halike
      rw [ofTokens_of_arguments hargs, ofTokens_of_arguments hargs, Arguments.visited,
        Arguments.visited, halike]
    · have hreads := reads_ofTokens tokens order
      rcases hreads.either hargs (reads_ofTokens tokens order') with h | ⟨key, key', hne, h, h'⟩
      · exact .inl h
      · exact .inr ⟨key, key', (ofTokens_eq_unknown_iff hargs).1 h,
          (ofTokens_eq_unknown_iff hargs).1 h', hne, h, h'⟩

/-! ## Headline -/

/-- **Neither order matters.**  In order:

    * In whatever order the arguments are visited, the loop comes to looking each field up, unless
      a key has no meaning.
    * What can come of tokens is what does in some order of their keys.
    * If parameters come of tokens, nothing else comes of these tokens, however they are arranged.
    * Filled parameters come of their own tokens, and nothing else does, however they are arranged.
    * If tokens are arguments, what comes of them is a failure exactly if some key has no meaning;
      what is told is such a key, and it can be any of them. -/
theorem ofTokens_orderless :
    (∀ tokens args order, Arguments.ofTokens tokens = .ok args → order.Perm args.pairs →
      fill args.provider order = lookedUp args.provider order) ∧
    (∀ tokens result, Reads tokens result ↔ ∃ order : Visiting, ofTokens tokens order = result) ∧
    (∀ tokens p, Reads tokens (.ok p) → ∀ others, others.Perm tokens →
      ∀ result, Reads others result ↔ result = .ok p) ∧
    (∀ p : Parameters, p.Filled → ∀ tokens, tokens.Perm p.tokens →
      ∀ result, Reads tokens result ↔ result = .ok p) ∧
    (∀ tokens args, Arguments.ofTokens tokens = .ok args →
      (∀ result, Reads tokens result →
        ((∃ e, result = .error e) ↔ ∃ key ∈ tokens.map Argument.key, key ∉ keys)) ∧
      ∀ e, Reads tokens (.error e) ↔
        ∃ key ∈ tokens.map Argument.key, key ∉ keys ∧ e = .unknown key) := by
  have honly : ∀ {tokens : List String} {p : Parameters}, Reads tokens (.ok p) →
      ∀ result, Reads tokens result ↔ result = .ok p := by
    intro tokens p h result
    exact ⟨h.eq_ok, fun hresult => hresult ▸ h⟩
  refine ⟨?_, fun _ _ => reads_iff_exists_visiting, ?_, ?_, ?_⟩
  · intro tokens args order h perm
    exact fill_eq_lookedUp (nodup_keys_of_perm h perm) args.provider
  · intro tokens p h others perm
    obtain ⟨hfilled, htokens⟩ := reads_ok_iff.1 h
    exact honly (reads_ok_iff.2 ⟨hfilled, perm.trans htokens⟩)
  · intro p hfilled tokens htokens
    exact honly (reads_ok_iff.2 ⟨hfilled, htokens⟩)
  · intro tokens args h
    exact ⟨fun result hresult => hresult.isError_iff h, fun e => reads_error_iff h⟩

/-- Parameters with a value that holds equals signs come of their tokens in another order; and of
    two keys without a meaning either one may be told. -/
theorem ofTokens_orderless_reversed :
    let p : Parameters := ⟨"hcloud", none, none, some "role=db", none⟩
    p.Filled ∧ ofTokens ["label_selector=role=db", "provider=hcloud"] = .ok p ∧
    Reads ["provider=hcloud", "zone=1", "a=b"] (.error (.unknown "zone")) ∧
    Reads ["provider=hcloud", "zone=1", "a=b"] (.error (.unknown "a")) := by
  intro p
  obtain ⟨-, hreads, -, hround, hunknown⟩ := ofTokens_orderless
  have hfilled : p.Filled := filled_iff_faultless.2 ⟨by decide +kernel, by decide +kernel⟩
  have htokens : ["label_selector=role=db", "provider=hcloud"].Perm p.tokens := by decide +kernel
  obtain ⟨args, hargs⟩ :
      ∃ args, Arguments.ofTokens ["provider=hcloud", "zone=1", "a=b"] = .ok args :=
    ⟨⟨[("provider", "hcloud"), ("zone", "1"), ("a", "b")], "hcloud"⟩, by decide +kernel⟩
  refine ⟨hfilled, (hround p hfilled _ htokens _).1 ((hreads _ _).2 ⟨.given, rfl⟩), ?_, ?_⟩
  · exact ((hunknown _ _ hargs).2 _).2 ⟨"zone", by decide +kernel, by decide +kernel, rfl⟩
  · exact ((hunknown _ _ hargs).2 _).2 ⟨"a", by decide +kernel, by decide +kernel, rfl⟩

end Parameters

end CloudRoster
