/-
  A line of arguments and the list of its tokens.

  1. **Specification** - `Spaced line tokens`: without the blanks at its ends the line is these
     tokens with single spaces between them, and no token holds a space.
  2. **Cutting** - each line has one such list, which is the one that cutting finds
     (`tokensOfLine_eq_iff`).
  3. **Writing** - tokens without spaces may be written as a line if no blank stands at either end
     (`Writable`); blanks around the line do not count (`Writable.spaced`).
  4. **Two spaces in a row** - between them is an empty token, and this is malformed
     (`spaced_of_doubled`, `firstFault_of_empty`).

  **Headline** (`ofLine_agrees`): a line gives what its tokens give, arguments or failure.
-/
import CloudRoster.Proofs.Arguments.Acceptance
import CloudRoster.Proofs.Text.Trim

namespace CloudRoster

open Text

namespace Arguments

/-! ## Cutting -/

/-- Without the blanks at its ends a line is these tokens with single spaces between them. -/
structure Spaced (line : String) (tokens : List String) : Prop where
  ne_nil : tokens ≠ []
  solid : ∀ token ∈ tokens, ' ' ∉ token.toList
  trimmed : Trimmed line (" ".intercalate tokens)

theorem toList_intercalate_space (tokens : List String) :
    (" ".intercalate tokens).toList = joined ' ' (tokens.map String.toList) :=
  String.toList_intercalate

/-- Cutting a line finds the tokens of which it is made. -/
theorem tokensOfLine_eq_iff {line : String} {tokens : List String} :
    tokensOfLine line = tokens ↔ Spaced line tokens := by
  constructor
  · rintro rfl
    refine ⟨?_, ?_, ?_⟩
    · rw [tokensOfLine, Ne, List.map_eq_nil_iff]
      exact pieces_ne_nil _ _
    · rw [tokensOfLine, List.forall_mem_map]
      intro p hp
      rw [String.toList_ofList]
      exact sep_notMem_of_mem_pieces hp
    · rw [tokensOfLine, intercalate_pieces rfl]
      exact trim_eq_iff.1 rfl
  · intro h
    rw [tokensOfLine, trim_eq_iff.2 h.trimmed]
    exact pieces_intercalate rfl h.ne_nil h.solid

theorem Spaced.ofLine_eq {line : String} {tokens : List String} (h : Spaced line tokens) :
    ofLine line = ofTokens tokens := by
  rw [ofLine, tokensOfLine_eq_iff.2 h]

/-! ## Writing -/

/-- Tokens that can be written as a line: no token holds a space, the first one does not begin and
    the last one does not end with a blank, and neither is empty. -/
structure Writable (tokens : List String) : Prop where
  solid : ∀ token ∈ tokens, ' ' ∉ token.toList
  first : ∃ token c, tokens.head? = some token ∧ token.toList.head? = some c ∧ isBlank c = false
  last : ∃ token c, tokens.getLast? = some token ∧ token.toList.getLast? = some c ∧
    isBlank c = false

/-- Blanks around the line do not count. -/
theorem Writable.spaced {tokens : List String} (h : Writable tokens) {before after : String}
    (hbefore : ∀ c ∈ before.toList, isBlank c = true)
    (hafter : ∀ c ∈ after.toList, isBlank c = true) :
    Spaced (before ++ " ".intercalate tokens ++ after) tokens where
  ne_nil := by
    obtain ⟨token, _, hhead, -⟩ := h.first
    rintro rfl
    cases hhead
  solid := h.solid
  trimmed := by
    refine ⟨before.toList, after.toList, by simp, hbefore, hafter, ?_, ?_⟩
    · obtain ⟨token, c, hhead, hc, hblank⟩ := h.first
      have hprefix : token.toList <+: joined ' ' (tokens.map String.toList) :=
        prefix_joined (by rw [List.head?_map, hhead]; rfl)
      obtain ⟨rest, hrest⟩ := hprefix
      intro c' hc'
      rw [toList_intercalate_space, ← hrest, List.head?_append, hc] at hc'
      obtain rfl := Option.some.inj hc'
      exact hblank
    · obtain ⟨token, c, hlast, hc, hblank⟩ := h.last
      have hsuffix : token.toList <:+ joined ' ' (tokens.map String.toList) :=
        suffix_joined (by rw [List.getLast?_map, hlast]; rfl)
      obtain ⟨rest, hrest⟩ := hsuffix
      intro c' hc'
      rw [toList_intercalate_space, ← hrest, List.getLast?_append, hc] at hc'
      obtain rfl := Option.some.inj hc'
      exact hblank

/-! ## Two spaces in a row -/

/-- Between two spaces in a row is an empty token. -/
theorem spaced_of_doubled {line x y : String} (h : Trimmed line (x ++ "  " ++ y)) :
    ∃ earlier later, " ".intercalate earlier = x ∧ " ".intercalate later = y ∧
      Spaced line (earlier ++ "" :: later) := by
  refine ⟨(pieces ' ' x.toList).map String.ofList, (pieces ' ' y.toList).map String.ofList,
    intercalate_pieces rfl x, intercalate_pieces rfl y, tokensOfLine_eq_iff.1 ?_⟩
  have htext : (x ++ "  " ++ y).toList = x.toList ++ ' ' :: ([] ++ ' ' :: y.toList) := by simp
  rw [tokensOfLine, trim_eq_iff.2 h, htext, pieces_append_cons,
    pieces_append List.not_mem_nil, List.map_append]
  rfl

/-- An empty token is malformed, with an empty key. -/
theorem firstFault_of_empty {earlier : List String} (h : Faultless earlier) (later : List String) :
    FirstFault (earlier ++ "" :: later) (.malformed "" Argument.expectedForm) :=
  ⟨earlier, "", later, rfl, h, .malformed (.inl rfl)⟩

/-! ## Headline -/

/-- **A line gives what its tokens give.**  In order:

    * Writing tokens as a line, with any blanks around it, and reading the line is reading the
      tokens: the same arguments or the same failure.
    * Each line is made of tokens in one way only, and reading the line is reading those.
    * Two spaces in a row have an empty token between them.
    * An empty token is malformed, which is told unless there is an earlier fault, and then that is
      told. -/
theorem ofLine_agrees :
    (∀ tokens, Writable tokens → ∀ before after : String,
      (∀ c ∈ before.toList, isBlank c = true) → (∀ c ∈ after.toList, isBlank c = true) →
      ofLine (before ++ " ".intercalate tokens ++ after) = ofTokens tokens) ∧
    (∀ line, ∃ tokens, Spaced line tokens ∧ (∀ others, Spaced line others → others = tokens) ∧
      ofLine line = ofTokens tokens) ∧
    (∀ line x y, Trimmed line (x ++ "  " ++ y) → ∃ earlier later,
      " ".intercalate earlier = x ∧ " ".intercalate later = y ∧
        Spaced line (earlier ++ "" :: later)) ∧
    ∀ line earlier later, Spaced line (earlier ++ "" :: later) →
      (Faultless earlier → ofLine line = .error (.malformed "" Argument.expectedForm)) ∧
      ∀ e, FirstFault earlier e → ofLine line = .error e := by
  refine ⟨?_, ?_, fun line x y => spaced_of_doubled, ?_⟩
  · intro tokens h before after hbefore hafter
    exact (h.spaced hbefore hafter).ofLine_eq
  · intro line
    have hspaced : Spaced line (tokensOfLine line) := tokensOfLine_eq_iff.1 rfl
    exact ⟨_, hspaced, fun others h => (tokensOfLine_eq_iff.2 h).symm, hspaced.ofLine_eq⟩
  · intro line earlier later hspaced
    rw [hspaced.ofLine_eq]
    constructor
    · exact fun h => ofTokens_of_firstFault (firstFault_of_empty h later)
    · exact fun e h => ofTokens_of_firstFault (h.append _)

/-- Blanks around a line do not count and a tab inside it does not separate; of two spaces in a row
    the empty token is told, and not what is wrong behind it. -/
theorem ofLine_agrees_tabbed :
    Writable ["provider=hcloud", "location=\tfsn1"] ∧
    ofLine "\n\u3000provider=hcloud location=\tfsn1 \r" =
      ofTokens ["provider=hcloud", "location=\tfsn1"] ∧
    Spaced "provider=hcloud  zone" ["provider=hcloud", "", "zone"] ∧
    ofLine "provider=hcloud  zone" = .error (.malformed "" Argument.expectedForm) := by
  obtain ⟨hwritten, -, -, hempty⟩ := ofLine_agrees
  have hwritable : Writable ["provider=hcloud", "location=\tfsn1"] :=
    ⟨by decide +kernel, ⟨"provider=hcloud", 'p', by decide +kernel⟩,
      ⟨"location=\tfsn1", '1', by decide +kernel⟩⟩
  have hspaced : Spaced "provider=hcloud  zone" ["provider=hcloud", "", "zone"] :=
    tokensOfLine_eq_iff.1 (by decide +kernel)
  have hearlier : Faultless ["provider=hcloud"] := ⟨by decide +kernel, by decide +kernel⟩
  have hbefore : ∀ c ∈ "\n\u3000".toList, isBlank c = true :=
    List.all_eq_true.1 (by decide +kernel)
  have hafter : ∀ c ∈ " \r".toList, isBlank c = true := List.all_eq_true.1 (by decide +kernel)
  refine ⟨hwritable, ?_, hspaced, (hempty _ ["provider=hcloud"] ["zone"] hspaced).1 hearlier⟩
  exact hwritten _ hwritable "\n\u3000" " \r" hbefore hafter

end Arguments

end CloudRoster
