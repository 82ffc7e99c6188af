/-
  From parameters and an environment to settings.

  1. **Specification** - `Effective param value o`: of a parameter and the value of the variable of
     the same meaning, this is what counts.  `Chosen requested family entries`: the family that is
     asked for, and what is said about it.  `Resolution p env result entries`: the settings or the
     failure for parameters in an environment, and the log.
  2. **Nothing else** - each of the three is met by exactly one outcome, which is the one that is
     computed (`effective_iff`, `chosen_iff`, `resolution_ok_iff`, `resolution_error_iff`).
  3. **Running** - `resolving p env` is where a run begins (`ofParameters_eq_resolving`).

  **Headline** (`resolving_exact`): how this part of a run goes, and what follows for settings, for
  other environments and for the log.
-/
import CloudRoster.Proofs.Roster.Credential
import CloudRoster.Roster

namespace CloudRoster

open Dialogue Provider

/-! ## Specification -/

/-- A text that is not there or empty. -/
def Missing (o : Option String) : Prop := o = none ∨ o = some ""

namespace Settings

/-- What counts of a parameter and the value of the environment variable of the same meaning. -/
inductive Effective (param value : Option String) : Option String → Prop where
  | parameter {s : String} (given : param = some s) (ne : s ≠ "") : Effective param value (some s)
  | environment {s : String} (missing : Missing param) (set : value = some s) (ne : s ≠ "") :
      Effective param value (some s)
  | nothing (missing : Missing param) (unset : Missing value) : Effective param value none

/-- The family that is asked for, and what is said about it.  A name is told again only if it is no
    family's. -/
inductive Chosen (requested : Option String) : Family → List Log.Entry → Prop where
  | named {family : Family} (h : requested = some family.name) : Chosen requested family []
  | unnamed (h : Missing requested) :
      Chosen requested .privateV4 [.info "address type not provided, using 'private_v4'"]
  | wrong {s : String} (h : requested = some s) (ne : s ≠ "")
      (other : ∀ family : Family, s ≠ family.name) :
      Chosen requested .privateV4
        [.warn (s!"address_type {s} is invalid, falling back to 'private_v4'. "
          ++ "valid values are: private_v4, public_v4, public_v6")]

/-- The settings or the failure for parameters in an environment, and the log. -/
inductive Resolution (p : Parameters) (env : Environment) :
    Except Failure Settings → List Log.Entry → Prop where
  | foreign (h : p.provider ≠ "hcloud") :
      Resolution p env (.error (.foreignProvider p.provider)) []
  | noToken (served : p.provider = "hcloud")
      (token : Effective p.apiToken (env "HCLOUD_TOKEN") none) :
      Resolution p env (.error .noToken) []
  | resolved {settings : Settings} {entries : List Log.Entry} (served : p.provider = "hcloud")
      (token : Effective p.apiToken (env "HCLOUD_TOKEN") (some settings.apiToken))
      (location : Effective p.location (env "HCLOUD_LOCATION") settings.location)
      (selector : settings.labelSelector = p.labelSelector.getD "")
      (endpoint : env "HCLOUD_ENDPOINT" = some settings.endpoint ∧ settings.endpoint ≠ "" ∨
        Missing (env "HCLOUD_ENDPOINT") ∧ settings.endpoint = "https://api.hetzner.cloud/v1")
      (family : Chosen p.addressType settings.family entries) :
      Resolution p env (.ok settings) entries

/-! ## Nothing else -/

theorem nonEmpty_eq_none_iff {o : Option String} : nonEmpty o = none ↔ Missing o := by
  cases o with
  | none => exact ⟨fun _ => .inl rfl, fun _ => rfl⟩
  | some s => simp [nonEmpty, Missing]

/-- What counts is what is computed. -/
theorem effective_iff {env : Environment} {param o : Option String} {variableName : String} :
    Effective param (env variableName) o ↔ given env param variableName = o := by
  rw [given]
  constructor
  · intro h
    cases h with
    | parameter given ne => rw [nonEmpty_eq_some_iff.2 ⟨given, ne⟩, Option.some_or]
    | environment missing set ne =>
      rw [nonEmpty_eq_none_iff.2 missing, Option.none_or, nonEmpty_eq_some_iff.2 ⟨set, ne⟩]
    | nothing missing unset =>
      rw [nonEmpty_eq_none_iff.2 missing, Option.none_or, nonEmpty_eq_none_iff.2 unset]
  · rintro rfl
    cases hparam : nonEmpty param with
    | some s =>
      obtain ⟨hgiven, hne⟩ := nonEmpty_eq_some_iff.1 hparam
      exact .parameter hgiven hne
    | none =>
      have hmissing := nonEmpty_eq_none_iff.1 hparam
      rw [Option.none_or]
      cases hvariable : nonEmpty (env variableName) with
      | some s =>
        obtain ⟨hset, hne⟩ := nonEmpty_eq_some_iff.1 hvariable
        exact .environment hmissing hset hne
      | none => exact .nothing hmissing (nonEmpty_eq_none_iff.1 hvariable)

/-- The family is the one that is computed, and so is the log. -/
theorem chosen_iff {requested : Option String} {family : Family} {entries : List Log.Entry} :
    Chosen requested family entries ↔ Family.choose requested = ⟨family, entries⟩ := by
  have hrequested : requested.filter (· ≠ "") = nonEmpty requested := rfl
  rw [Family.choose, hrequested]
  constructor
  · intro h
    cases h with
    | named h =>
      have hne : family.name ≠ "" := by cases family <;> decide
      rw [nonEmpty_eq_some_iff.2 ⟨h, hne⟩]
      simp only [Family.ofName?_name]
    | unnamed h => rw [nonEmpty_eq_none_iff.2 h]
    | @wrong s h ne other =>
      have hnone : Family.ofName? s = none := by
        rw [Option.eq_none_iff_forall_ne_some]
        exact fun f hf => other f (Family.ofName?_eq_some_iff.1 hf)
      rw [nonEmpty_eq_some_iff.2 ⟨h, ne⟩]
      simp only [hnone]
  · intro h
    cases hname : nonEmpty requested with
    | none =>
      rw [hname] at h
      cases h
      exact .unnamed (nonEmpty_eq_none_iff.1 hname)
    | some s =>
      obtain ⟨hs, hne⟩ := nonEmpty_eq_some_iff.1 hname
      rw [hname] at h
      cases hfamily : Family.ofName? s with
      | some f =>
        simp only [hfamily] at h
        cases h
        exact .named (hs.trans (congrArg some (Family.ofName?_eq_some_iff.1 hfamily)))
      | none =>
        simp only [hfamily] at h
        cases h
        refine .wrong hs hne fun f hf => ?_
        rw [Family.ofName?_eq_some_iff.2 hf] at hfamily
        cases hfamily

theorem endpoint_iff {o : Option String} {endpoint : String} :
    (o = some endpoint ∧ endpoint ≠ "" ∨ Missing o ∧ endpoint = "https://api.hetzner.cloud/v1") ↔
      (nonEmpty o).getD defaultEndpoint = endpoint := by
  rw [← nonEmpty_eq_some_iff, ← nonEmpty_eq_none_iff]
  cases nonEmpty o with
  | none => exact ⟨fun h => (h.resolve_left nofun).2.symm, fun h => .inr ⟨rfl, h.symm⟩⟩
  | some s =>
    exact ⟨fun h => Option.some.inj (h.resolve_right nofun), fun h => .inl (congrArg some h)⟩

section

variable {p : Parameters} {env : Environment} {entries : List Log.Entry}

theorem resolution_ok_iff {settings : Settings} :
    Resolution p env (.ok settings) entries ↔ ofParameters p env = .ok ⟨settings, entries⟩ := by
  constructor
  · intro h
    cases h with
    | resolved served token location selector endpoint family =>
      have hserved : ¬p.provider ≠ providerName := not_not.2 served
      rw [ofParameters, if_neg hserved, effective_iff.1 token, chosen_iff.1 family,
        effective_iff.1 location, endpoint_iff.1 endpoint, ← selector]
  · intro h
    rw [ofParameters] at h
    split at h
    · cases h
    · next hserved =>
      split at h
      · cases h
      · next token htoken =>
        cases h
        exact .resolved (not_not.1 hserved) (effective_iff.2 htoken) (effective_iff.2 rfl) rfl
          (endpoint_iff.2 rfl) (chosen_iff.2 rfl)

theorem resolution_error_iff {e : Failure} :
    Resolution p env (.error e) entries ↔ ofParameters p env = .error e ∧ entries = [] := by
  constructor
  · intro h
    cases h with
    | foreign h =>
      have hforeign : p.provider ≠ providerName := h
      exact ⟨by rw [ofParameters, if_pos hforeign], rfl⟩
    | noToken served token =>
      have hserved : ¬p.provider ≠ providerName := not_not.2 served
      exact ⟨by rw [ofParameters, if_neg hserved, effective_iff.1 token], rfl⟩
  · rintro ⟨h, rfl⟩
    rw [ofParameters] at h
    split at h
    · next hforeign =>
      cases h
      exact .foreign hforeign
    · next hserved =>
      split at h
      · next htoken =>
        cases h
        exact .noToken (not_not.1 hserved) (effective_iff.2 htoken)
      · cases h

end

/-! ## Running -/

/-- The part of a run in which parameters become settings. -/
def resolving (p : Parameters) (env : Environment) : Dialogue Answer Settings := do
  let resolved ← Dialogue.orFail (ofParameters p env)
  Dialogue.tell resolved

/-- With this part a run begins. -/
theorem ofParameters_eq_resolving (p : Parameters) (env : Environment) :
    Roster.ofParameters p env = resolving p env >>= Client.addresses Roster.hostnamePath :=
  (bind_assoc _ _ _).symm

theorem run_resolving (p : Parameters) (env : Environment) (world : World Answer)
    (past : List (Exchange Answer)) :
    (resolving p env).run world past =
      match ofParameters p env with
      | .error e => ⟨.error e, [], []⟩
      | .ok l => ⟨.ok l.value, [], l.entries⟩ := by
  rw [resolving, run_bind, run_orFail]
  cases ofParameters p env with
  | error e => rfl
  | ok l => simp only [Transcript.andThen, run_tell, List.append_nil, List.nil_append]

/-- Nothing is asked in it, and it ends in the one way that there is. -/
theorem run_resolving_iff {p : Parameters} {env : Environment} {world : World Answer}
    {past : List (Exchange Answer)} {result : Except Failure Settings} {entries : List Log.Entry} :
    (resolving p env).run world past = ⟨result, [], entries⟩ ↔ Resolution p env result entries := by
  rw [run_resolving]
  cases result with
  | error e =>
    rw [resolution_error_iff]
    cases ofParameters p env with
    | error e' => simp [eq_comm]
    | ok l => simp
  | ok settings =>
    rw [resolution_ok_iff]
    cases ofParameters p env with
    | error e => simp
    | ok l =>
      obtain ⟨value, log⟩ := l
      simp

theorem exchanges_resolving (p : Parameters) (env : Environment) (world : World Answer)
    (past : List (Exchange Answer)) : ((resolving p env).run world past).exchanges = [] := by
  rw [run_resolving]
  cases ofParameters p env <;> rfl

/-- The run ends in a resolution. -/
theorem resolution_run (p : Parameters) (env : Environment) (world : World Answer)
    (past : List (Exchange Answer)) :
    Resolution p env ((resolving p env).run world past).result
      ((resolving p env).run world past).entries := by
  rw [← run_resolving_iff, ← exchanges_resolving p env world past]

/-! ## What follows -/

/-- What counts is never empty. -/
theorem Effective.ne_empty {param value o : Option String} (h : Effective param value o) :
    o ≠ some "" := by
  cases h with
  | parameter _ ne => exact fun h => ne (Option.some.inj h)
  | environment _ _ ne => exact fun h => ne (Option.some.inj h)
  | nothing => nofun

/-- The variable counts only where the parameter is missing. -/
theorem Effective.congr {param value value' o : Option String} (h : Effective param value o)
    (same : Missing param → value = value') : Effective param value' o := by
  cases h with
  | parameter given ne => exact .parameter given ne
  | environment missing set ne => exact .environment missing (same missing ▸ set) ne
  | nothing missing unset => exact .nothing missing (same missing ▸ unset)

/-- There is one family, and one thing to say about it. -/
theorem Chosen.unique {requested : Option String} {family family' : Family}
    {entries entries' : List Log.Entry} (h : Chosen requested family entries)
    (h' : Chosen requested family' entries') : family = family' ∧ entries = entries' := by
  have hsame := (chosen_iff.1 h).symm.trans (chosen_iff.1 h')
  exact ⟨congrArg Log.Logged.value hsame, congrArg Log.Logged.entries hsame⟩

/-- Two environments that are the same where these parameters make a run look at them. -/
structure SameWhereRead (p : Parameters) (env env' : Environment) : Prop where
  endpoint : env "HCLOUD_ENDPOINT" = env' "HCLOUD_ENDPOINT"
  token : Missing p.apiToken → env "HCLOUD_TOKEN" = env' "HCLOUD_TOKEN"
  location : Missing p.location → env "HCLOUD_LOCATION" = env' "HCLOUD_LOCATION"

theorem Resolution.congr {p : Parameters} {env env' : Environment}
    {result : Except Failure Settings} {entries : List Log.Entry}
    (h : Resolution p env result entries) (same : SameWhereRead p env env') :
    Resolution p env' result entries := by
  cases h with
  | foreign h => exact .foreign h
  | noToken served token => exact .noToken served (token.congr same.token)
  | resolved served token location selector endpoint family =>
    exact .resolved served (token.congr same.token) (location.congr same.location) selector
      (same.endpoint ▸ endpoint) family

theorem Resolution.settings_ne_empty {p : Parameters} {env : Environment} {settings : Settings}
    {entries : List Log.Entry} (h : Resolution p env (.ok settings) entries) :
    settings.apiToken ≠ "" ∧ settings.endpoint ≠ "" ∧ settings.location ≠ some "" := by
  cases h with
  | resolved served token location selector endpoint family =>
    refine ⟨fun h => token.ne_empty (congrArg some h), ?_, location.ne_empty⟩
    rcases endpoint with ⟨-, hne⟩ | ⟨-, hdefault⟩
    · exact hne
    · rw [hdefault]
      decide

theorem Resolution.entries_of_error {p : Parameters} {env : Environment} {e : Failure}
    {entries : List Log.Entry} (h : Resolution p env (.error e) entries) : entries = [] := by
  cases h <;> rfl

/-- What is said when there are settings is what there is to say about the family. -/
theorem Resolution.chosen {p : Parameters} {env : Environment} {settings : Settings}
    {entries : List Log.Entry} (h : Resolution p env (.ok settings) entries) :
    Chosen p.addressType settings.family entries := by
  cases h with
  | resolved _ _ _ _ _ family => exact family

/-! ## Headline -/

/-- **Parameters and an environment become settings.**  A run begins with this part, and in it:

    * Nothing is asked.  A provider that is not served is told; or else that there is no token,
      neither as a parameter nor in the environment; or else there are settings as specified.
    * Settings have a token, an endpoint and, if any, a location that are not empty.
    * An environment that is the same where it is looked at gives the same result and the same log.
    * Nothing is said of a failure.
    * Where there are settings, nothing is said of a family that exists; one line of information if
      none is asked for; and one warning if there is none of that name. -/
theorem resolving_exact (p : Parameters) (env : Environment) (world : World Answer)
    (past : List (Exchange Answer)) :
    let t := (resolving p env).run world past
    Roster.ofParameters p env = resolving p env >>= Client.addresses Roster.hostnamePath ∧
    t.exchanges = [] ∧
    (∀ result entries, t = ⟨result, [], entries⟩ ↔ Resolution p env result entries) ∧
    (∀ settings, t.result = .ok settings →
      settings.apiToken ≠ "" ∧ settings.endpoint ≠ "" ∧ settings.location ≠ some "") ∧
    (∀ env', SameWhereRead p env env' → (resolving p env').run world past = t) ∧
    (∀ e, t.result = .error e → t.entries = []) ∧
    ∀ settings, t.result = .ok settings →
      ((∃ family : Family, p.addressType = some family.name) → t.entries = []) ∧
      (Missing p.addressType → ∃ message, t.entries = [.info message]) ∧
      (¬Missing p.addressType → (∀ family : Family, p.addressType ≠ some family.name) →
        ∃ message, t.entries = [.warn message]) := by
  intro t
  have hexchanges : t.exchanges = [] := exchanges_resolving p env world past
  have hresolution : Resolution p env t.result t.entries := resolution_run p env world past
  refine ⟨ofParameters_eq_resolving p env, hexchanges, fun _ _ => run_resolving_iff, ?_, ?_, ?_, ?_⟩
  · intro settings hsettings
    rw [hsettings] at hresolution
    exact hresolution.settings_ne_empty
  · intro env' same
    rw [run_resolving_iff.2 (hresolution.congr same), ← hexchanges]
  · intro e he
    rw [he] at hresolution
    exact hresolution.entries_of_error
  · intro settings hsettings
    rw [hsettings] at hresolution
    have hchosen := hresolution.chosen
    refine ⟨?_, fun hmissing => ?_, fun hgiven hother => ?_⟩
    · rintro ⟨family, hfamily⟩
      exact (hchosen.unique (.named hfamily)).2
    · exact ⟨_, (hchosen.unique (.unnamed hmissing)).2⟩
    · simp only [Missing, not_or] at hgiven
      obtain ⟨s, hs⟩ := Option.ne_none_iff_exists'.1 hgiven.1
      have hne : s ≠ "" := fun h => hgiven.2 (h ▸ hs)
      have hwrong : ∀ family : Family, s ≠ family.name := fun f h => hother f (h ▸ hs)
      exact ⟨_, (hchosen.unique (.wrong hs hne hwrong)).2⟩

/-- The token in the environment does not count beside a parameter, an empty location is none, and
    a family that does not exist is corrected with a warning. -/
theorem resolving_exact_corrected :
    let p : Parameters := ⟨"hcloud", some "a", some "", none, some "ipv9"⟩
    let env : Environment := fun name => if name = "HCLOUD_TOKEN" then some "b" else none
    let settings : Settings := ⟨"a", none, "", .privateV4, "https://api.hetzner.cloud/v1"⟩
    let warning : Log.Entry := .warn ("address_type ipv9 is invalid, falling back to " ++
      "'private_v4'. valid values are: private_v4, public_v4, public_v6")
    SameWhereRead p env (fun _ => none) ∧ ∀ world past,
      (resolving p env).run world past = ⟨.ok settings, [], [warning]⟩ ∧
      (resolving p fun _ => none).run world past = ⟨.ok settings, [], [warning]⟩ := by
  intro p env settings warning
  have hsame : SameWhereRead p env (fun _ => none) := by
    refine ⟨rfl, fun hmissing => ?_, fun _ => rfl⟩
    rcases hmissing with h | h <;> exact absurd h (by decide)
  have hfamily : Chosen p.addressType settings.family [warning] :=
    @Chosen.wrong (some "ipv9") "ipv9" rfl (by decide) (by rintro (_ | _ | _) <;> decide)
  have hresolution : Resolution p env (.ok settings) [warning] :=
    .resolved rfl (.parameter rfl (by decide)) (.nothing (.inr rfl) (.inl rfl)) rfl
      (.inr ⟨.inl rfl, rfl⟩) hfamily
  refine ⟨hsame, fun world past => ?_⟩
  obtain ⟨-, -, hiff, -, hcongr, -⟩ := resolving_exact p env world past
  have hrun := (hiff _ _).2 hresolution
  exact ⟨hrun, (hcongr _ hsame).trans hrun⟩

end Settings

end CloudRoster
