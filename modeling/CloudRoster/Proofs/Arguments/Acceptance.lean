/-
  Which tokens are arguments, and what is told about those that are not.

  1. **Key and value** - the key of a token is the text before its first equals sign, or all of it;
     the value is the text after that sign, if there is one (`Argument.key`, `Argument.value`).
     Reading a token is a look at its value (`parse_of_malformed`, `parse_of_not_malformed`).
  2. **Faults** - `Fault earlier token e`: what is wrong with a token behind others.  It is
     malformed, or else its key is there already.  `FirstFault tokens e`: this is what is wrong with
     the first token with which anything is.
  3. **The loop** - from `Faultless` tokens their keys and values are gathered, and what is gathered
     up to some token decides how the rest is read (`gather_append`).  So the loop stops at the
     first fault (`gather_of_firstFault`), and tokens without one are faultless
     (`faultless_or_firstFault`).

  **Headline** (`ofTokens_exact`): exactly which tokens are accepted, what is then known of which
  key, and which failure is told otherwise.
-/
import CloudRoster.Proofs.Roster.Credential
import Mathlib.Data.List.Induction

namespace CloudRoster

open Text

/-! ## Key and value -/

namespace Argument

/-- The text before the first equals sign of a token, or the whole token. -/
def key (token : String) : String := String.ofList (token.toList.takeWhile (· ≠ '='))

/-- The text after the first equals sign of a token, if it has one. -/
def value (token : String) : Option String :=
  (token.toList.dropWhile (· ≠ '=')).tail?.map String.ofList

/-- There is no equals sign in a token, or nothing after it. -/
def Malformed (token : String) : Prop := value token = none ∨ value token = some ""

instance (token : String) : Decidable (Malformed token) := inferInstanceAs (Decidable (_ ∨ _))

/-- Key and value of a token that has a value. -/
def pair (token : String) : String × String := (key token, (value token).getD "")

@[simp] theorem pair_fst (token : String) : (pair token).1 = key token := rfl

/-- A token with a value is its key and its value with an equals sign between them. -/
theorem key_value_iff {token k v : String} :
    (key token = k ∧ value token = some v) ↔ token = k ++ "=" ++ v ∧ '=' ∉ k.toList := by
  constructor
  · rintro ⟨rfl, hvalue⟩
    obtain ⟨cs, hcs, rfl⟩ := Option.map_eq_some_iff.1 hvalue
    obtain ⟨hkey, htoken⟩ := cut_spec '=' token.toList
    rw [cut_eq, hcs] at htoken
    rw [cut_eq] at hkey
    refine ⟨?_, by simpa [key] using hkey⟩
    rw [← String.toList_inj, htoken]
    simp [key]
  · rintro ⟨rfl, hkey⟩
    have htext : (k ++ "=" ++ v).toList = k.toList ++ '=' :: v.toList := by simp
    have hcut := cut_append hkey v.toList
    rw [cut_eq, Prod.mk.injEq] at hcut
    rw [key, value, htext, hcut.1, hcut.2]
    simp

theorem value_of_not_malformed {token : String} (h : ¬Malformed token) :
    value token = some (pair token).2 ∧ (pair token).2 ≠ "" := by
  simp only [Malformed, not_or] at h
  obtain ⟨v, hv⟩ := Option.ne_none_iff_exists'.1 h.1
  have hpair : (pair token).2 = v := by rw [pair, hv, Option.getD_some]
  rw [hpair]
  exact ⟨hv, fun hempty => h.2 (hempty ▸ hv)⟩

/-- A key and a value, written as an argument. -/
def write (pair : String × String) : String := pair.1 ++ "=" ++ pair.2

theorem value_write {kv : String × String} (h : '=' ∉ kv.1.toList) :
    value (write kv) = some kv.2 :=
  (key_value_iff.2 ⟨rfl, h⟩).2

theorem pair_write {kv : String × String} (h : '=' ∉ kv.1.toList) : pair (write kv) = kv := by
  obtain ⟨hkey, hvalue⟩ := key_value_iff.2 ⟨rfl, h⟩
  rw [pair, write, hkey, hvalue, Option.getD_some]

theorem write_pair {token : String} (h : ¬Malformed token) : write (pair token) = token :=
  (key_value_iff.1 ⟨rfl, (value_of_not_malformed h).1⟩).1.symm

theorem parse_of_malformed {token : String} (h : Malformed token) :
    parse token = .error (.malformed (key token) expectedForm) := by
  rw [parse, cut_eq]
  rcases h with h | h
  · rw [Option.map_eq_none_iff.1 h]
    rfl
  · obtain ⟨cs, hcs, hempty⟩ := Option.map_eq_some_iff.1 h
    obtain rfl : cs = [] := by simpa using hempty
    rw [hcs]
    rfl

theorem parse_of_not_malformed {token : String} (h : ¬Malformed token) :
    parse token = .ok (pair token) := by
  obtain ⟨hvalue, hne⟩ := value_of_not_malformed h
  obtain ⟨htoken, hkey⟩ := key_value_iff.1 ⟨rfl, hvalue⟩
  exact parse_eq_ok_iff.2 ⟨htoken, hkey, hne⟩

end Argument

namespace Arguments

open Argument

/-! ## Faults -/

/-- No token is malformed, and no two have the same key. -/
structure Faultless (tokens : List String) : Prop where
  formed : ∀ token ∈ tokens, ¬Malformed token
  distinct : (tokens.map key).Nodup

/-- What is wrong with a token that follows `earlier`.  Being malformed comes first. -/
inductive Fault (earlier : List String) (token : String) : Failure → Prop where
  | malformed (h : Malformed token) : Fault earlier token (.malformed (key token) expectedForm)
  | repeated (h : ¬Malformed token) (again : key token ∈ earlier.map key) :
      Fault earlier token (.repeated (key token))

/-- What is wrong with the first token with which anything is wrong. -/
def FirstFault (tokens : List String) (e : Failure) : Prop :=
  ∃ before token after, tokens = before ++ token :: after ∧ Faultless before ∧
    Fault before token e

theorem faultless_nil : Faultless [] := ⟨List.forall_mem_nil _, List.nodup_nil⟩

theorem Faultless.concat {tokens : List String} {token : String} (h : Faultless tokens)
    (formed : ¬Malformed token) (new : key token ∉ tokens.map key) :
    Faultless (tokens ++ [token]) where
  formed := List.forall_mem_append.2 ⟨h.formed, List.forall_mem_singleton.2 formed⟩
  distinct := by
    rw [List.map_append, List.map_singleton, ← List.concat_eq_append]
    exact h.distinct.concat new

/-- Whether anything is wrong does not depend on the order. -/
theorem Faultless.perm {tokens others : List String} (h : Faultless tokens)
    (perm : others.Perm tokens) : Faultless others where
  formed token htoken := h.formed token (perm.mem_iff.1 htoken)
  distinct := (perm.map key).nodup_iff.2 h.distinct

/-- Tokens behind the first fault do not count. -/
theorem FirstFault.append {tokens : List String} {e : Failure} (h : FirstFault tokens e)
    (more : List String) : FirstFault (tokens ++ more) e := by
  obtain ⟨before, token, after, rfl, hbefore, hfault⟩ := h
  exact ⟨before, token, after ++ more, by simp, hbefore, hfault⟩

/-- Where nothing is wrong up to the last token, it can only be wrong with that one. -/
theorem faultless_or_firstFault (tokens : List String) :
    Faultless tokens ∨ ∃ e, FirstFault tokens e := by
  induction tokens using List.reverseRecOn with
  | nil => exact .inl faultless_nil
  | append_singleton tokens token ih =>
    rcases ih with h | ⟨e, h⟩
    · by_cases hmalformed : Malformed token
      · exact .inr ⟨_, tokens, token, [], rfl, h, .malformed hmalformed⟩
      · by_cases hagain : key token ∈ tokens.map key
        · exact .inr ⟨_, tokens, token, [], rfl, h, .repeated hmalformed hagain⟩
        · exact .inl (h.concat hmalformed hagain)
    · exact .inr ⟨e, h.append [token]⟩

/-- Tokens are gathered onto what those before them gave. -/
theorem gather_append (seen : List (String × String)) (tokens more : List String) :
    gather seen (tokens ++ more) = gather seen tokens >>= fun pairs => gather pairs more := by
  induction tokens generalizing seen with
  | nil => rfl
  | cons token tokens ih =>
    rw [List.cons_append, gather, gather]
    cases parse token with
    | error e => rfl
    | ok pair =>
      simp only [bind, Except.bind]
      split
      · rfl
      · exact ih _

theorem map_fst_map_pair (tokens : List String) :
    (tokens.map pair).map Prod.fst = tokens.map key := by
  rw [List.map_map]
  rfl

/-- All tokens read exactly if none is malformed, and then they read as their keys and values. -/
theorem forall₂_parse_iff {tokens : List String} {pairs : List (String × String)} :
    List.Forall₂ (fun token pair => parse token = .ok pair) tokens pairs ↔
      (∀ token ∈ tokens, ¬Malformed token) ∧ pairs = tokens.map pair := by
  constructor
  · intro h
    induction h with
    | nil => exact ⟨List.forall_mem_nil _, rfl⟩
    | @cons token kv tokens pairs hparse _ ih =>
      have hformed : ¬Malformed token := by
        intro hmalformed
        rw [parse_of_malformed hmalformed] at hparse
        cases hparse
      rw [parse_of_not_malformed hformed] at hparse
      obtain rfl := Except.ok.inj hparse
      exact ⟨List.forall_mem_cons.2 ⟨hformed, ih.1⟩, congrArg (pair token :: ·) ih.2⟩
  · rintro ⟨hformed, rfl⟩
    rw [List.forall₂_map_right_iff, List.forall₂_same]
    exact fun token htoken => parse_of_not_malformed (hformed token htoken)

theorem gather_of_faultless {tokens : List String} (h : Faultless tokens) :
    gather [] tokens = .ok (tokens.map pair) := by
  have hnil : (([] : List (String × String)).map Prod.fst).Nodup := List.nodup_nil
  rw [gather_eq_ok_iff hnil]
  refine ⟨tokens.map pair, rfl, forall₂_parse_iff.2 ⟨h.formed, rfl⟩, ?_⟩
  rw [map_fst_map_pair]
  exact h.distinct

theorem gather_of_firstFault {tokens : List String} {e : Failure} (h : FirstFault tokens e) :
    gather [] tokens = .error e := by
  obtain ⟨before, token, after, rfl, hbefore, hfault⟩ := h
  rw [gather_append, gather_of_faultless hbefore]
  show gather (before.map pair) (token :: after) = .error e
  cases hfault with
  | malformed h =>
    rw [gather, parse_of_malformed h]
    rfl
  | repeated h again =>
    have hseen : ((before.map pair).lookup (key token)).isSome = true := by
      rw [Option.isSome_iff_ne_none, Ne, lookup_eq_none_iff_notMem, map_fst_map_pair, not_not]
      exact again
    rw [gather_cons (parse_of_not_malformed h), pair_fst, if_pos hseen]

/-! ## Outcomes -/

theorem ofTokens_of_firstFault {tokens : List String} {e : Failure} (h : FirstFault tokens e) :
    ofTokens tokens = .error e := by
  rw [ofTokens, gather_of_firstFault h]
  rfl

/-- Arguments are the keys and values of faultless tokens, with a provider among them. -/
theorem ofTokens_eq_ok_iff_faultless {tokens : List String} {args : Arguments} :
    ofTokens tokens = .ok args ↔
      Faultless tokens ∧ args.pairs = tokens.map pair ∧
        ("provider", args.provider) ∈ args.pairs := by
  rw [ofTokens_eq_ok_iff, forall₂_parse_iff]
  constructor
  · rintro ⟨⟨hformed, hpairs⟩, hdistinct, hprovider⟩
    rw [hpairs, map_fst_map_pair] at hdistinct
    exact ⟨⟨hformed, hdistinct⟩, hpairs, hprovider⟩
  · rintro ⟨hfaultless, hpairs, hprovider⟩
    refine ⟨⟨hfaultless.formed, hpairs⟩, ?_, hprovider⟩
    rw [hpairs, map_fst_map_pair]
    exact hfaultless.distinct

/-- There are arguments exactly for faultless tokens with a provider among them. -/
theorem exists_ofTokens_iff {tokens : List String} :
    (∃ args, ofTokens tokens = .ok args) ↔ Faultless tokens ∧ "provider" ∈ tokens.map key := by
  constructor
  · rintro ⟨args, hargs⟩
    obtain ⟨hfaultless, hpairs, hprovider⟩ := ofTokens_eq_ok_iff_faultless.1 hargs
    rw [← map_fst_map_pair, ← hpairs]
    exact ⟨hfaultless, List.mem_map_of_mem hprovider⟩
  · rintro ⟨hfaultless, hkey⟩
    obtain ⟨token, htoken, hkey⟩ := List.mem_map.1 hkey
    refine ⟨⟨tokens.map pair, (pair token).2⟩, ofTokens_eq_ok_iff_faultless.2 ⟨hfaultless, rfl, ?_⟩⟩
    rw [← hkey]
    exact List.mem_map_of_mem htoken

/-- What arguments hold of the tokens that they come from: their keys, each with the value of its
    token. -/
structure Holds (args : Arguments) (tokens : List String) : Prop where
  keys : args.pairs.map Prod.fst = tokens.map key
  values : ∀ k v, args.value? k = some v ↔
    ∃ token ∈ tokens, key token = k ∧ value token = some v
  provider : args.value? "provider" = some args.provider

theorem holds_of_ofTokens {tokens : List String} {args : Arguments}
    (h : ofTokens tokens = .ok args) : args.Holds tokens := by
  obtain ⟨hfaultless, hpairs, hprovider⟩ := ofTokens_eq_ok_iff_faultless.1 h
  have hkeys : args.pairs.map Prod.fst = tokens.map key := by rw [hpairs, map_fst_map_pair]
  have hlookup := @lookup_eq_some_iff_of_nodup args.pairs (hkeys ▸ hfaultless.distinct)
  refine ⟨hkeys, fun k v => ?_, hlookup.2 hprovider⟩
  rw [value?, hlookup, hpairs, List.mem_map]
  refine exists_congr fun token => and_congr_right fun htoken => ?_
  rw [(value_of_not_malformed (hfaultless.formed token htoken)).1, Option.some.injEq]
  exact Prod.ext_iff

theorem ofTokens_of_absent {tokens : List String} (h : Faultless tokens)
    (habsent : "provider" ∉ tokens.map key) :
    ofTokens tokens = .error (.absent "provider") := by
  rw [← map_fst_map_pair, ← lookup_eq_none_iff_notMem] at habsent
  rw [ofTokens, gather_of_faultless h]
  simp only [bind, Except.bind, habsent]

/-- What is told is the first fault or, if there is none, that there is no provider. -/
theorem ofTokens_eq_error_iff {tokens : List String} {e : Failure} :
    ofTokens tokens = .error e ↔
      FirstFault tokens e ∨
        e = .absent "provider" ∧ Faultless tokens ∧ "provider" ∉ tokens.map key := by
  constructor
  · intro h
    rcases faultless_or_firstFault tokens with hfaultless | ⟨e', hfirst⟩
    · have habsent : "provider" ∉ tokens.map key := by
        intro hkey
        obtain ⟨args, hargs⟩ := exists_ofTokens_iff.2 ⟨hfaultless, hkey⟩
        rw [hargs] at h
        cases h
      rw [ofTokens_of_absent hfaultless habsent] at h
      exact .inr ⟨(Except.error.inj h).symm, hfaultless, habsent⟩
    · rw [ofTokens_of_firstFault hfirst] at h
      exact .inl (Except.error.inj h ▸ hfirst)
  · rintro (hfirst | ⟨rfl, hfaultless, habsent⟩)
    · exact ofTokens_of_firstFault hfirst
    · exact ofTokens_of_absent hfaultless habsent

end Arguments

end CloudRoster
