/-
  Which token a caller acts with.

  A caller gives the token as the value of an argument `api_token=`, or else in the environment; an
  empty one counts as not given (`EffectiveToken`).  The program comes to the same by another way:
  it cuts each argument at its first equals sign, gathers the pairs by key, and enters them as
  parameters in some order.

  1. **One argument** - it reads as key and value if it is both with an equals sign between them
     (`Argument.parse_eq_ok_iff`).
  2. **All arguments** - they are read one by one, and no key is repeated
     (`Arguments.ofTokens_eq_ok_iff`); so a key has the value that some argument gives it
     (`Arguments.value?_eq_some_iff`).

  **Main statement** (`effectiveToken_iff`): if there are parameters at all, the effective token is
  the one that the settings are made with, whatever the order.
-/
import CloudRoster.Proofs.Arguments.Visit

namespace CloudRoster

open Text

/-- A pair repeats no key if its own is not there yet. -/
theorem nodup_keys_concat_iff {pairs : List (String × String)} {pair : String × String} :
    ((pairs ++ [pair]).map Prod.fst).Nodup ↔
      (pairs.map Prod.fst).Nodup ∧ ¬(pairs.lookup pair.1).isSome = true := by
  rw [Bool.not_eq_true, Option.isSome_eq_false_iff, Option.isNone_iff_eq_none,
    lookup_eq_none_iff_notMem, List.map_append, List.map_singleton, ← List.concat_eq_append,
    List.nodup_concat, and_comm]

/-! ## One argument -/

/-- An argument that reads is key and value with an equals sign between them; the key holds no
    other, and the value is not empty. -/
theorem Argument.parse_eq_ok_iff {token key value : String} :
    parse token = .ok (key, value) ↔
      token = key ++ "=" ++ value ∧ '=' ∉ key.toList ∧ value ≠ "" := by
  constructor
  · intro h
    obtain ⟨hkey, htoken⟩ := cut_spec '=' token.toList
    rw [parse] at h
    rcases hcut : cut '=' token.toList with ⟨cs, rest⟩
    rw [hcut] at h hkey htoken
    cases rest with
    | none => cases h
    | some rest =>
      dsimp only at h
      split at h
      · cases h
      · next hne =>
        cases h
        refine ⟨?_, by simpa using hkey, by simpa using hne⟩
        rw [← String.toList_inj, htoken]
        simp
  · rintro ⟨rfl, hkey, hvalue⟩
    have htext : (key ++ "=" ++ value).toList = key.toList ++ '=' :: value.toList := by simp
    have hne : value.toList.isEmpty = false := by
      rw [List.isEmpty_eq_false_iff, ← String.toList_empty, Ne, String.toList_inj]
      exact hvalue
    rw [parse, htext, cut_append hkey]
    simp [hne]

/-! ## All arguments -/

namespace Arguments

theorem gather_cons {seen : List (String × String)} {token : String} {tokens : List String}
    {pair : String × String} (h : Argument.parse token = .ok pair) :
    gather seen (token :: tokens) =
      if (seen.lookup pair.1).isSome then .error (.repeated pair.1)
      else gather (seen ++ [pair]) tokens := by
  rw [gather, h]
  rfl

/-- What is gathered are the pairs of the arguments, one by one, if no key is repeated. -/
theorem gather_eq_ok_iff {seen pairs : List (String × String)} {tokens : List String}
    (hseen : (seen.map Prod.fst).Nodup) :
    gather seen tokens = .ok pairs ↔
      ∃ more, pairs = seen ++ more ∧
        List.Forall₂ (fun token pair => Argument.parse token = .ok pair) tokens more ∧
        (pairs.map Prod.fst).Nodup := by
  induction tokens generalizing seen pairs with
  | nil =>
    constructor
    · intro h
      cases h
      exact ⟨[], (List.append_nil _).symm, .nil, hseen⟩
    · rintro ⟨more, rfl, hmore, -⟩
      cases hmore
      rw [List.append_nil]
      rfl
  | cons token tokens ih =>
    constructor
    · intro h
      cases hparse : Argument.parse token with
      | error e =>
        rw [gather, hparse] at h
        cases h
      | ok first =>
        rw [gather_cons hparse] at h
        split at h
        · cases h
        · next hnew =>
          obtain ⟨more, rfl, hmore, hkeys⟩ := (ih (nodup_keys_concat_iff.2 ⟨hseen, hnew⟩)).1 h
          exact ⟨first :: more, List.append_assoc _ _ _, .cons hparse hmore, hkeys⟩
    · rintro ⟨more, rfl, hmore, hkeys⟩
      cases hmore with
      | @cons _ first _ more hparse hmore =>
        rw [List.append_cons] at hkeys ⊢
        have hfirst : ((seen ++ [first]).map Prod.fst).Nodup := by
          rw [List.map_append] at hkeys
          exact hkeys.of_append_left
        rw [gather_cons hparse, if_neg (nodup_keys_concat_iff.1 hfirst).2, ih hfirst]
        exact ⟨more, rfl, hmore, hkeys⟩

/-- Tokens give arguments if all read, no key is repeated and a provider is named. -/
theorem ofTokens_eq_ok_iff {tokens : List String} {args : Arguments} :
    ofTokens tokens = .ok args ↔
      List.Forall₂ (fun token pair => Argument.parse token = .ok pair) tokens args.pairs ∧
      (args.pairs.map Prod.fst).Nodup ∧ ("provider", args.provider) ∈ args.pairs := by
  have hgather : ∀ pairs, gather [] tokens = .ok pairs ↔
      List.Forall₂ (fun token pair => Argument.parse token = .ok pair) tokens pairs ∧
      (pairs.map Prod.fst).Nodup := by
    intro pairs
    have hnil : (([] : List (String × String)).map Prod.fst).Nodup := List.nodup_nil
    rw [gather_eq_ok_iff hnil]
    simp only [List.nil_append, exists_eq_left']
  constructor
  · intro h
    rw [ofTokens] at h
    cases hpairs : gather [] tokens with
    | error e =>
      rw [hpairs] at h
      cases h
    | ok pairs =>
      rw [hpairs] at h
      obtain ⟨hparse, hnodup⟩ := (hgather pairs).1 hpairs
      cases hprovider : pairs.lookup "provider" with
      | none => simp [hprovider, bind, Except.bind] at h
      | some provider =>
        simp only [bind, Except.bind, hprovider, Except.ok.injEq] at h
        subst h
        exact ⟨hparse, hnodup, (lookup_eq_some_iff_of_nodup hnodup).1 hprovider⟩
  · rintro ⟨hparse, hnodup, hprovider⟩
    rw [ofTokens, (hgather args.pairs).2 ⟨hparse, hnodup⟩]
    simp only [bind, Except.bind, (lookup_eq_some_iff_of_nodup hnodup).2 hprovider]

/-- A key has the value that some argument gives it. -/
theorem value?_eq_some_iff {tokens : List String} {args : Arguments}
    (h : ofTokens tokens = .ok args) {key value : String} (hkey : '=' ∉ key.toList) :
    args.value? key = some value ↔ key ++ "=" ++ value ∈ tokens ∧ value ≠ "" := by
  obtain ⟨hparse, hnodup, -⟩ := ofTokens_eq_ok_iff.1 h
  rw [value?, lookup_eq_some_iff_of_nodup hnodup]
  constructor
  · intro hmem
    obtain ⟨token, htoken, hpair⟩ := exists_of_mem_right hparse hmem
    obtain ⟨rfl, -, hvalue⟩ := Argument.parse_eq_ok_iff.1 hpair
    exact ⟨htoken, hvalue⟩
  · rintro ⟨htoken, hvalue⟩
    obtain ⟨pair, hpair, hsame⟩ := exists_of_mem_left hparse htoken
    rw [Argument.parse_eq_ok_iff.2 ⟨rfl, hkey, hvalue⟩] at hsame
    cases hsame
    exact hpair

end Arguments

theorem Parameters.apiToken_of_ofTokens {tokens : List String} {order : Visiting}
    {p : Parameters} (h : ofTokens tokens order = .ok p) (token : String) :
    p.apiToken = some token ↔ "api_token=" ++ token ∈ tokens ∧ token ≠ "" := by
  cases hargs : Arguments.ofTokens tokens with
  | error e =>
    rw [ofTokens_of_refused hargs] at h
    cases h
  | ok args =>
    obtain ⟨-, hnodup, -⟩ := Arguments.ofTokens_eq_ok_iff.1 hargs
    have hvisited := Arguments.nodup_visited hnodup order
    rw [ofTokens_of_arguments hargs] at h
    have hp := h.symm.trans (fill_of_known hvisited (known_of_fill hvisited h))
    have htoken : p.apiToken = args.value? "api_token" := by
      rw [Except.ok.inj hp, ← Arguments.lookup_visited hnodup order]
    have happend : "api_token" ++ "=" ++ token = "api_token=" ++ token := rfl
    rw [htoken, Arguments.value?_eq_some_iff hargs (by decide +kernel), happend]

/-! ## The effective token -/

/-- The token that arguments give or, if they give none, the environment. -/
inductive EffectiveToken (tokens : List String) (env : Environment) : String → Prop where
  | argument {token : String} (given : "api_token=" ++ token ∈ tokens) (ne : token ≠ "") :
      EffectiveToken tokens env token
  | environment {token : String}
      (absent : ∀ other, other ≠ "" → "api_token=" ++ other ∉ tokens)
      (given : env "HCLOUD_TOKEN" = some token) (ne : token ≠ "") : EffectiveToken tokens env token

theorem Settings.nonEmpty_eq_some_iff {o : Option String} {s : String} :
    nonEmpty o = some s ↔ o = some s ∧ s ≠ "" := by
  rw [nonEmpty, Option.filter_eq_some_iff]
  simp

/-- It is the one that settings are made with. -/
theorem effectiveToken_iff {tokens : List String} {order : Visiting} {p : Parameters}
    (h : Parameters.ofTokens tokens order = .ok p) (env : Environment) (token : String) :
    EffectiveToken tokens env token ↔
      Settings.given env p.apiToken "HCLOUD_TOKEN" = some token := by
  have hargument := Parameters.apiToken_of_ofTokens h
  have hnone : Settings.nonEmpty p.apiToken = none ↔
      ∀ other, other ≠ "" → "api_token=" ++ other ∉ tokens := by
    rw [Option.eq_none_iff_forall_ne_some]
    constructor
    · intro hnone other hne hmem
      exact hnone other (Settings.nonEmpty_eq_some_iff.2 ⟨(hargument other).2 ⟨hmem, hne⟩, hne⟩)
    · intro hall other hother
      obtain ⟨hsome, hne⟩ := Settings.nonEmpty_eq_some_iff.1 hother
      exact hall other hne ((hargument other).1 hsome).1
  rw [Settings.given, Option.or_eq_some_iff, Settings.nonEmpty_eq_some_iff,
    Settings.nonEmpty_eq_some_iff, hargument, hnone]
  constructor
  · rintro (⟨hmem, hne⟩ | ⟨habsent, hgiven, hne⟩)
    · exact .inl ⟨⟨hmem, hne⟩, hne⟩
    · exact .inr ⟨habsent, hgiven, hne⟩
  · rintro (⟨⟨hmem, hne⟩, -⟩ | ⟨habsent, hgiven, hne⟩)
    · exact .argument hmem hne
    · exact .environment habsent hgiven hne

end CloudRoster
