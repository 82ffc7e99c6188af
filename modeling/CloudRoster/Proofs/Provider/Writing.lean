/-
  Which requests can be written down.

  Four things can stop a request: an endpoint that is no URL of a server, a token that no header may
  hold, a name of the server that no request line may hold, and a URL that is too long.  The first
  three are properties of the client (`Client.CanAsk`), whatever it asks for.  Only the length
  depends on the question, because the query repeats label selectors and hostnames, and it is the
  one fault that is left then (`make_eq`).

  A value is never shorter in a query than it is by itself (`length_le_of_url?`), so every client
  has questions that it cannot ask.
-/
import CloudRoster.Provider.Client

namespace CloudRoster.Http

open Text

@[simp] theorem Authority.withoutUser_host (a : Authority) : a.withoutUser.host = a.host := by
  rw [Authority.withoutUser]
  split <;> rfl

/-! ## What a query takes up -/

theorem Form.encodeChar_ne_nil (c : Char) : Form.encodeChar c ≠ [] := by
  rw [Form.encodeChar]
  split
  · exact List.cons_ne_nil _ _
  · rw [Http.encodeChar]
    split
    · exact List.cons_ne_nil _ _
    · -- a character has at least one octet, and each octet is written out
      intro h
      obtain ⟨b, bs, hb⟩ := List.exists_cons_of_ne_nil (String.utf8EncodeChar_ne_nil (c := c))
      rw [hb] at h
      cases h

theorem Form.length_le_encodeText (s : String) : s.length ≤ (Form.encodeText s).length := by
  rw [Form.encodeText, ← String.length_toList]
  induction s.toList with
  | nil => exact Nat.zero_le _
  | cons c cs ih =>
    have hc : 0 < (Form.encodeChar c).length :=
      List.length_pos_iff.2 (Form.encodeChar_ne_nil c)
    rw [List.flatMap_cons, List.length_append, List.length_cons]
    omega

theorem Form.length_le_encode {name value : String} {ps : List (String × String)}
    (h : (name, value) ∈ ps) : value.length ≤ (Form.encode ps).length := by
  have hpair : value.length ≤ (Form.encodePair (name, value)).length := by
    have : value.length ≤ (Form.encodeText (name, value).2).length :=
      Form.length_le_encodeText value
    rw [Form.encodePair, List.length_append, List.length_cons]
    omega
  exact Nat.le_trans hpair (length_le_joined (List.mem_map_of_mem h))

/-- The value of a pair is no longer than the URL to which the pair is added. -/
theorem Url.length_le_text_of_mem (u : Url) {name value : String} {ps : List (String × String)}
    (h : (name, value) ∈ ps) : value.length ≤ (u.withPairs ps).text.length := by
  have hquery : value.length ≤ (Authority.behind '?' (u.withPairs ps).query).length := by
    have := Form.length_le_encode h
    rw [Url.withPairs]
    dsimp only
    split
    · rw [Authority.behind, List.length_cons]; omega
    · rw [Authority.behind, List.length_cons]; omega
    · rw [Authority.behind, List.length_cons, List.length_append, List.length_cons]; omega
  have htarget : value.length ≤ (u.withPairs ps).target.length := by
    rw [Url.target, List.length_append]
    omega
  rw [Url.text, List.length_append, List.length_append]
  omega

end CloudRoster.Http

namespace CloudRoster.Provider

open Http Text

namespace Client

/-! ## Clients that can ask -/

/-- The URL for `path` before there is a query. -/
def base? (c : Client) (path : String) : Option Url :=
  match Url.parse (c.endpoint ++ path) with
  | .ok u => some { u with toAuthority := u.toAuthority.withoutUser }
  | .error _ => none

/-- The URL that a request for `path` with a query names. -/
def url? (c : Client) (path : String) (query : List (String × String)) : Option Url :=
  (c.base? path).map fun u => u.withPairs query

/-- No URL is shorter than a value that it asks with. -/
theorem length_le_of_url? {c : Client} {path name value : String} {query : List (String × String)}
    {u : Url} (h : c.url? path query = some u) (hmem : (name, value) ∈ query) :
    value.length ≤ u.text.length := by
  obtain ⟨base, -, rfl⟩ := Option.map_eq_some_iff.1 h
  exact Url.length_le_text_of_mem base hmem

/-- The token is legal, and the endpoint with `path` behind it is a URL of a server, by a scheme
    that requests are sent by, whose name can stand in a request. -/
structure CanAsk (c : Client) (path : String) : Prop where
  token : isHeaderText c.token = true
  endpoint : ∃ u, c.base? path = some u ∧ u.host.isSome = true ∧ u.scheme.isAsked = true ∧
    u.toAuthority.text.any Url.isIllegal = false

/-- A URL is not too long for a request. -/
def Fits (c : Client) (path : String) (query : List (String × String)) : Prop :=
  ∀ u, c.url? path query = some u → u.text.length ≤ Url.mostCharacters

/-- Such a client writes a request, unless its URL is too long. -/
theorem make_eq {c : Client} {path : String} (h : c.CanAsk path)
    (query : List (String × String)) :
    ∃ u, c.url? path query = some u ∧
      Request.make (c.endpoint ++ path) c.token query =
        if u.text.length ≤ Url.mostCharacters then .ok ⟨u, c.token⟩ else .error (.illegal u) := by
  obtain ⟨base, hbase, hhost, hscheme, hlegal⟩ := h.endpoint
  refine ⟨base.withPairs query, by rw [url?, hbase]; rfl, ?_⟩
  rw [base?] at hbase
  cases hparse : Url.parse (c.endpoint ++ path) with
  | error fault => rw [hparse] at hbase; cases hbase
  | ok u =>
    rw [hparse] at hbase
    obtain rfl := Option.some.inj hbase
    have hsome : u.host.isNone = false := by
      have : u.toAuthority.withoutUser.host.isSome = true := hhost
      rw [Authority.withoutUser_host] at this
      rw [Option.isNone_eq_false_iff]
      exact this
    have hasked : (Url.withPairs { u with toAuthority := u.toAuthority.withoutUser }
        query).scheme.isAsked = true := hscheme
    have hname : (Url.withPairs { u with toAuthority := u.toAuthority.withoutUser }
        query).toAuthority.text.any Url.isIllegal = false := hlegal
    simp only [Request.make, hparse, hsome, h.token, hasked, Url.isLegal, hname, Bool.not_true,
      Bool.not_false, Bool.true_and, decide_eq_true_eq, Bool.false_eq_true, if_false]

/-- A request that is written names its URL and carries the token. -/
theorem url?_of_make {c : Client} {path : String} (h : c.CanAsk path)
    {query : List (String × String)} {r : Request}
    (hmake : Request.make (c.endpoint ++ path) c.token query = .ok r) :
    c.url? path query = some r.url ∧ r.token = c.token := by
  obtain ⟨u, hurl, hall⟩ := make_eq h query
  rw [hall] at hmake
  split at hmake
  · cases hmake; exact ⟨hurl, rfl⟩
  · cases hmake

/-- A client that has written a request for a path can ask there. -/
theorem canAsk_of_make {c : Client} {path : String} {query : List (String × String)} {r : Request}
    (h : Request.make (c.endpoint ++ path) c.token query = .ok r) : c.CanAsk path := by
  rw [Request.make] at h
  cases hparse : Url.parse (c.endpoint ++ path) with
  | error fault =>
    rw [hparse] at h
    cases h
  | ok u =>
    simp only [hparse] at h
    split at h
    · cases h
    · next hhost =>
      split at h
      · cases h
      · next htoken =>
        split at h
        · cases h
        · next hasked =>
          split at h
          · next hlegal =>
            have hsome : u.toAuthority.withoutUser.host.isSome = true := by
              rw [Authority.withoutUser_host]
              simpa [Option.isSome_iff_ne_none] using hhost
            have hscheme : ¬(!u.scheme.isAsked) = true := hasked
            have hname : (!u.toAuthority.withoutUser.text.any Url.isIllegal) = true :=
              (Bool.and_eq_true_iff.1 hlegal).1
            refine ⟨by simpa using htoken, { u with toAuthority := u.toAuthority.withoutUser },
              ?_, hsome, by simpa using hscheme, ?_⟩
            · rw [base?, hparse]
            · rw [Bool.not_eq_true'] at hname
              exact hname
          · cases h

theorem exists_make_of_fits {c : Client} {path : String} (h : c.CanAsk path)
    {query : List (String × String)} (hfits : c.Fits path query) :
    ∃ r, Request.make (c.endpoint ++ path) c.token query = .ok r := by
  obtain ⟨u, hurl, hmake⟩ := make_eq h query
  exact ⟨⟨u, c.token⟩, hmake.trans (if_pos (hfits u hurl))⟩

end Client

end CloudRoster.Provider
