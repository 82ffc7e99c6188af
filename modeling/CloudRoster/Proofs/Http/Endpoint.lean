/-
  URLs of endpoints.

  An endpoint is `http://`, an authority and a path, and a request is for a segment behind that
  path.  Reading the URL finds these parts: the authority ends at the first slash, without a
  question mark and a number sign there is no query and no fragment, and the segment at the end
  stays where it is, whatever dots come before it.

  If the path is made of segments of letters and digits, each behind a slash, it is also read as it
  is written: no segment looks like dots, and no character has to be encoded.

  **Main statements** (`parse_http`, `parse_plain`): the URL has the authority that its text spells,
  the path of its text and neither query nor fragment.
-/
import CloudRoster.Proofs.Http.Form
import CloudRoster.Proofs.Text.Trim
import CloudRoster.Http.Url

namespace CloudRoster.Http

open Text

/-! ## Segments -/

/-- The characters of plain segments. -/
def isSegmentChar (c : Char) : Bool := c.isAlphanum || c == '_'

/-- A segment that is written as it is. -/
def IsSegment (cs : List Char) : Prop := cs ≠ [] ∧ ∀ c ∈ cs, isSegmentChar c = true

/-- Segments, each behind a slash. -/
def slashed (segments : List (List Char)) : List Char := segments.flatMap ('/' :: ·)

theorem slashed_append (segments more : List (List Char)) :
    slashed (segments ++ more) = slashed segments ++ slashed more :=
  List.flatMap_append

theorem slashed_eq_cons {segments : List (List Char)} (h : segments ≠ []) :
    slashed segments = '/' :: joined '/' segments := by
  induction segments with
  | nil => exact absurd rfl h
  | cons s segments ih =>
    by_cases hs : segments = []
    · subst hs
      rw [joined_singleton]
      exact List.append_nil _
    · rw [joined_cons _ _ hs, ← ih hs]
      rfl

/-- What no character of a plain segment is. -/
theorem isSegmentChar_spec {c : Char} (h : isSegmentChar c = true) :
    c.toNat < 0x80 ∧ c ∉ ['/', '\\', '?', '#'] ∧ isBreak c = false ∧
      decide (c.toNat ≤ 0x20) = false ∧ pathSpecial c = false ∧ c.toLower ≠ '.' ∧
      c.toLower ≠ '%' := by
  have all : ∀ n < 0x80, isSegmentChar (Char.ofNat n) = true →
      Char.ofNat n ∉ ['/', '\\', '?', '#'] ∧ isBreak (Char.ofNat n) = false ∧
      decide ((Char.ofNat n).toNat ≤ 0x20) = false ∧ pathSpecial (Char.ofNat n) = false ∧
      (Char.ofNat n).toLower ≠ '.' ∧ (Char.ofNat n).toLower ≠ '%' := by decide
  have hlt : c.toNat < 0x80 := by
    rcases Bool.or_eq_true_iff.1 h with h | h
    · exact lt_of_isAlphanum h
    · rw [beq_iff_eq.1 h]
      decide
  have hall := all c.toNat hlt
  rw [Char.ofNat_toNat] at hall
  exact ⟨hlt, hall h⟩

theorem unbroken_of_all {cs : List Char} (h : ∀ c ∈ cs, isBreak c = false) : unbroken cs = cs := by
  refine List.filter_eq_self.2 fun c hc => ?_
  rw [h c hc]
  rfl

theorem IsSegment.unbroken {cs : List Char} (h : IsSegment cs) : unbroken cs = cs :=
  unbroken_of_all fun c hc => (isSegmentChar_spec (h.2 c hc)).2.2.1

/-- Dots, and what stands for them, are no segment of this kind. -/
theorem IsSegment.not_dots {cs : List Char} (h : IsSegment cs) :
    isSingleDot cs = false ∧ isDoubleDot cs = false := by
  obtain ⟨hne, hchars⟩ := h
  cases cs with
  | nil => exact absurd rfl hne
  | cons c cs =>
    obtain ⟨-, -, -, -, -, hdot, hpercent⟩ := isSegmentChar_spec (hchars c List.mem_cons_self)
    constructor
    · simp [isSingleDot, hdot, hpercent]
    · simp [isDoubleDot, hdot, hpercent]

theorem IsSegment.ofText {cs : List Char} (h : IsSegment cs) : Segment.ofText cs = .name cs := by
  have hencode : encode pathSpecial cs = cs := by
    have hself : ∀ c ∈ cs, encodeChar pathSpecial c = [c] := by
      intro c hc
      obtain ⟨hlt, -, -, -, hspecial, -⟩ := isSegmentChar_spec (h.2 c hc)
      exact if_pos ⟨hlt, hspecial⟩
    rw [encode, List.flatMap_congr hself, List.flatMap_singleton']
  rw [Segment.ofText, hencode]

/-- Segments are resolved to themselves. -/
theorem resolve_segments {segments : List (List Char)} (h : ∀ s ∈ segments, IsSegment s)
    (done : List Segment) :
    resolve .http done segments = done.reverse ++ segments.map .name := by
  induction segments generalizing done with
  | nil => exact (List.append_nil _).symm
  | cons s segments ih =>
    have hs := h s List.mem_cons_self
    have hrest : ∀ s ∈ segments, IsSegment s := fun s hs => h s (List.mem_cons_of_mem _ hs)
    rw [resolve]
    simp only [hs.unbroken, hs.not_dots.1, hs.not_dots.2, hs.ofText, Bool.false_eq_true, if_false,
      reduceCtorEq, false_and]
    rw [ih hrest, List.reverse_cons, List.append_assoc, List.map_cons]
    rfl

theorem mem_slashed {segments : List (List Char)} (h : ∀ s ∈ segments, IsSegment s) {c : Char}
    (hc : c ∈ slashed segments) : c = '/' ∨ isSegmentChar c = true := by
  obtain ⟨s, hs, hc⟩ := List.mem_flatMap.1 hc
  rcases List.mem_cons.1 hc with rfl | hc
  · exact .inl rfl
  · exact .inr ((h s hs).2 c hc)

/-- What divides a URL, and what is left out of it, stands in no segment. -/
theorem mem_slashed_spec {segments : List (List Char)} (h : ∀ s ∈ segments, IsSegment s) {c : Char}
    (hc : c ∈ slashed segments) :
    c ∉ ['?', '#'] ∧ isBreak c = false ∧ decide (c.toNat ≤ 0x20) = false := by
  rcases mem_slashed h hc with rfl | hc
  · decide
  · obtain ⟨-, hnot, hbreak, hcontrol, -⟩ := isSegmentChar_spec hc
    exact ⟨fun hmem => hnot (List.mem_cons_of_mem _ (List.mem_cons_of_mem _ hmem)), hbreak,
      hcontrol⟩

theorem map_slash_slashed {segments : List (List Char)} (h : ∀ s ∈ segments, IsSegment s) :
    (slashed segments).map (fun c => if Scheme.isSlash .http c then '/' else c) =
      slashed segments := by
  have hself : ∀ c ∈ slashed segments, (if Scheme.isSlash .http c then '/' else c) = id c := by
    intro c hc
    rcases mem_slashed h hc with rfl | hc
    · rfl
    · have hnot := (isSegmentChar_spec hc).2.1
      simp only [List.mem_cons, not_or] at hnot
      have hslash : Scheme.isSlash .http c = false := by simp [Scheme.isSlash, hnot.1, hnot.2.1]
      rw [hslash]
      rfl
  rw [List.map_congr_left hself, List.map_id]

/-- Their path is written as they are. -/
theorem pathOf_slashed {segments : List (List Char)} (h : ∀ s ∈ segments, IsSegment s)
    (hne : segments ≠ []) : pathOf .http (slashed segments) = slashed segments := by
  have hslash : ∀ s ∈ segments, '/' ∉ s := by
    intro s hs hmem
    have hnot := (isSegmentChar_spec ((h s hs).2 '/' hmem)).2.1
    exact hnot List.mem_cons_self
  have hpieces : pieces '/' (joined '/' segments) = segments := pieces_joined hne hslash
  have hcons := slashed_eq_cons hne
  unfold pathOf
  rw [if_neg (by simp [Scheme.isKnown])]
  simp only [map_slash_slashed h]
  rw [hcons, List.head?_cons, if_pos rfl, List.drop_one, List.tail_cons, hpieces,
    resolve_segments h, segmentsText, List.reverse_nil, List.nil_append, List.map_map]
  simp [Function.comp_def, Segment.text]

/-! ## A segment at the end -/

/-- A segment at the end stays there, whatever is before it. -/
theorem resolve_append_segment {s : List Char} (h : IsSegment s) (texts : List (List Char))
    (done : List Segment) :
    ∃ before, resolve .http done (texts ++ [s]) = before ++ [.name s] := by
  induction texts generalizing done with
  | nil => exact ⟨done.reverse, resolve_segments (List.forall_mem_singleton.2 h) done⟩
  | cons text texts ih =>
    rw [List.cons_append, resolve]
    simp only [reduceCtorEq, false_and, if_false]
    split
    · exact ih _
    · split
      · exact ih _
      · exact ih _

/-- The path of a URL with a segment at the end is that of some directory and the segment. -/
theorem pathOf_append_segment {s : List Char} (h : IsSegment s) (path : List Char) :
    ∃ directory, pathOf .http (path ++ '/' :: s) = directory ++ '/' :: s := by
  have hself : ('/' :: s).map (fun c => if Scheme.isSlash .http c then '/' else c) = '/' :: s := by
    simpa [slashed] using map_slash_slashed (List.forall_mem_singleton.2 h)
  have hnot : '/' ∉ s := fun hmem => (isSegmentChar_spec (h.2 '/' hmem)).2.1 List.mem_cons_self
  unfold pathOf
  rw [if_neg (by simp [Scheme.isKnown])]
  simp only [List.map_append, hself]
  generalize path.map (fun c => if Scheme.isSlash .http c then '/' else c) = cs
  -- without the slash at its front, too, the text ends in the segment
  have hpieces : ∃ texts, pieces '/' (if (cs ++ '/' :: s).head? = some '/' then
      (cs ++ '/' :: s).drop 1 else cs ++ '/' :: s) = texts ++ [s] := by
    have hlast : ∀ cs : List Char, pieces '/' (cs ++ '/' :: s) = pieces '/' cs ++ [s] := by
      intro cs
      rw [pieces_append_cons, pieces_eq_singleton hnot]
    split
    · cases cs with
      | nil => exact ⟨[], pieces_eq_singleton hnot⟩
      | cons c cs => exact ⟨pieces '/' cs, hlast cs⟩
    · exact ⟨pieces '/' cs, hlast cs⟩
  obtain ⟨texts, htexts⟩ := hpieces
  obtain ⟨before, hbefore⟩ := resolve_append_segment h texts []
  refine ⟨slashed (before.map Segment.text), ?_⟩
  have hslashed : '/' :: segmentsText (before ++ [.name s]) =
      slashed (before.map Segment.text ++ [s]) := by
    rw [slashed_eq_cons (by simp), segmentsText, List.map_append]
    rfl
  rw [htexts, hbefore, hslashed, slashed_append]
  simp [slashed]

/-! ## The authority -/

/-- A text that can stand before the path, as a host with a port number can: nothing in it ends
    it. -/
structure IsAuthority (cs : List Char) : Prop where
  ne_nil : cs ≠ []
  chars : ∀ c ∈ cs, c ∉ ['/', '\\', '?', '#'] ∧ isBreak c = false

theorem mem_of_mem_userAndPlace {cs : List Char} {c : Char}
    (h : c ∈ (Authority.userAndPlace cs).2) : c ∈ cs := by
  unfold Authority.userAndPlace at h
  have hmem : ∀ place ∈ (pieces '@' cs).reverse, c ∈ place → c ∈ cs :=
    fun place hplace hc => mem_of_mem_pieces (List.mem_reverse.1 hplace) hc
  generalize (pieces '@' cs).reverse = ps at h hmem
  match ps with
  | [] => exact absurd h List.not_mem_nil
  | [place] => exact hmem place List.mem_cons_self h
  | place :: _ :: _ => exact hmem place List.mem_cons_self h

/-- Nothing of such a text is left for the path. -/
theorem IsAuthority.read {cs : List Char} (h : IsAuthority cs) {a : Authority} {rest : List Char}
    (hread : Authority.read .http cs = .ok (a, rest)) : rest = [] := by
  have hdrop : (Authority.userAndPlace cs).2.dropWhile (· != '\\') = [] := by
    rw [List.dropWhile_eq_nil_iff]
    intro c hc
    have hnot := (h.chars c (mem_of_mem_userAndPlace hc)).1
    simp only [List.mem_cons, not_or] at hnot
    exact bne_iff_ne.2 hnot.2.1
  rcases hplace : Authority.userAndPlace cs with ⟨user, place⟩
  rcases hnumber : Authority.hostAndNumber place with ⟨text, number⟩
  rw [hplace] at hdrop
  simp only [Authority.read, hplace, hnumber] at hread
  cases hhost : Authority.readHost .http user text number with
  | error fault =>
    rw [hhost] at hread
    cases hread
  | ok host =>
    rw [hhost] at hread
    cases hdigits : Authority.readNumber (number.map fun cs => cs.takeWhile (· != '\\')) with
    | error fault =>
      rw [hdigits] at hread
      cases hread
    | ok digits =>
      rw [hdigits] at hread
      cases hread
      exact hdrop

/-! ## The whole URL -/

theorem read?_http (rest : List Char) :
    Scheme.read? ('h' :: 't' :: 't' :: 'p' :: ':' :: rest) = some (.http, rest) := by
  have hcut : cut ':' ('h' :: 't' :: 't' :: 'p' :: ':' :: rest) =
      (['h', 't', 't', 'p'], some rest) := by
    show cut ':' (['h', 't', 't', 'p'] ++ ':' :: rest) = _
    exact cut_append (by decide) rest
  rw [Scheme.read?, hcut]
  rfl

/-- The authority ends at the first slash. -/
theorem readPlace_http {u : Url} (hscheme : u.scheme = .http) {authority path : List Char}
    (hauthority : IsAuthority authority) (hpath : path.head? = some '/') :
    u.readPlace (authority ++ path) = (Authority.read .http authority).map fun p =>
      { u with toAuthority := p.1, path := pathOf .http path } := by
  have hnoSlash : ∀ c ∈ authority, (!Scheme.isSlash .http c) = true := by
    intro c hc
    have hnot := (hauthority.chars c hc).1
    simp only [List.mem_cons, not_or] at hnot
    simp [Scheme.isSlash, hnot.1, hnot.2.1]
  obtain ⟨rest, rfl⟩ : ∃ rest, path = '/' :: rest := List.head?_eq_some_iff.1 hpath
  let p (c : Char) : Bool := !Scheme.isSlash .http c
  have hslash : ¬p '/' = true := by decide
  have htake : (authority ++ '/' :: rest).takeWhile (fun c => !Scheme.isSlash .http c) =
      authority := by
    rw [List.takeWhile_append_of_pos hnoSlash, List.takeWhile_cons_of_neg (p := p) hslash,
      List.append_nil]
  have hdrop : (authority ++ '/' :: rest).dropWhile (fun c => !Scheme.isSlash .http c) =
      '/' :: rest := by
    rw [List.dropWhile_append_of_pos hnoSlash, List.dropWhile_cons_of_neg (p := p) hslash]
  unfold Url.readPlace
  rw [hscheme, htake, hdrop]
  cases hread : Authority.read .http authority with
  | error fault => rfl
  | ok p =>
    obtain ⟨a, rest⟩ := p
    obtain rfl := hauthority.read hread
    rfl

section

variable {authority path : List Char} {segments : List (List Char)}

/-- Between a letter and a segment there is nothing to strip. -/
theorem strip_http (front : List Char) (hsegments : ∀ s ∈ segments, IsSegment s)
    (hne : segments ≠ []) :
    strip (fun c => c.toNat ≤ 0x20) ('h' :: (front ++ slashed segments)) =
      'h' :: (front ++ slashed segments) := by
  refine strip_of_isCore ⟨[], [], by simp, List.forall_mem_nil _, List.forall_mem_nil _, ?_, ?_⟩
  · rintro c ⟨⟩
    decide
  · intro c hc
    have hslashed : slashed segments ≠ [] := by
      rw [slashed_eq_cons hne]
      exact List.cons_ne_nil _ _
    rw [← List.cons_append, List.getLast?_append_of_ne_nil _ hslashed] at hc
    exact (mem_slashed_spec hsegments (List.mem_of_getLast? hc)).2.2

/-- A sign that neither the authority nor the path has cuts nothing off. -/
theorem cut_http (hauthority : IsAuthority authority) (hchars : ∀ c ∈ path, c ∉ ['?', '#'])
    (hsegments : ∀ s ∈ segments, IsSegment s) (sign : Char) (hsign : sign ∈ ['?', '#']) :
    cut sign (['/', '/'] ++ (authority ++ (path ++ slashed segments))) =
      (['/', '/'] ++ (authority ++ (path ++ slashed segments)), none) := by
  refine cut_of_notMem fun hmem => ?_
  simp only [List.mem_append] at hmem
  rcases hmem with hmem | hmem | hmem | hmem
  · have hslashes : ∀ sign ∈ ['?', '#'], sign ∉ ['/', '/'] := by simp
    exact hslashes sign hsign hmem
  · exact (hauthority.chars sign hmem).1 (List.mem_cons_of_mem _ (List.mem_cons_of_mem _ hsign))
  · exact hchars sign hmem hsign
  · exact (mem_slashed_spec hsegments hmem).1 hsign

/-- Breaks can only be left out of the path before the segments. -/
theorem unbroken_http (hauthority : IsAuthority authority)
    (hsegments : ∀ s ∈ segments, IsSegment s) :
    unbroken (['/', '/'] ++ (authority ++ (path ++ slashed segments))) =
      ['/', '/'] ++ (authority ++ (unbroken path ++ slashed segments)) := by
  have hauthority' : unbroken authority = authority :=
    unbroken_of_all fun c hc => (hauthority.chars c hc).2
  have hslashed : unbroken (slashed segments) = slashed segments :=
    unbroken_of_all fun c hc => (mem_slashed_spec hsegments hc).2.1
  simp only [unbroken, List.filter_append] at hauthority' hslashed ⊢
  rw [hauthority', hslashed]
  rfl

/-- The two slashes, and no more, are dropped before an authority. -/
theorem dropWhile_isSlash_http (hauthority : IsAuthority authority) (rest : List Char) :
    (['/', '/'] ++ (authority ++ rest)).dropWhile (Scheme.isSlash .http) = authority ++ rest := by
  rw [List.dropWhile_append_of_pos (by simp [Scheme.isSlash])]
  refine dropWhile_of_head fun c hc => ?_
  rw [List.head?_append_of_ne_nil _ hauthority.ne_nil] at hc
  have hnot := (hauthority.chars c (List.mem_of_head? hc)).1
  simp only [List.mem_cons, not_or] at hnot
  simp [Scheme.isSlash, hnot.1, hnot.2.1]

/-- A URL without a question mark and a number sign is its authority and its path. -/
theorem parse_http {s : String}
    (hs : s.toList =
      ['h', 't', 't', 'p', ':', '/', '/'] ++ (authority ++ (path ++ slashed segments)))
    (hauthority : IsAuthority authority) (hslash : path = [] ∨ path.head? = some '/')
    (hchars : ∀ c ∈ path, c ∉ ['?', '#']) (hsegments : ∀ s ∈ segments, IsSegment s)
    (hne : segments ≠ []) :
    Url.parse s = (Authority.read .http authority).map fun p =>
      ⟨p.1, .http, false, pathOf .http (unbroken path ++ slashed segments), none, none⟩ := by
  have hread : Scheme.read? (strip (fun c => c.toNat ≤ 0x20) s.toList) =
      some (.http, ['/', '/'] ++ (authority ++ (path ++ slashed segments))) := by
    have hstrip := strip_http (['t', 't', 'p', ':', '/', '/'] ++ (authority ++ path)) hsegments hne
    simp only [List.append_assoc] at hstrip
    rw [hs]
    exact (congrArg Scheme.read? hstrip).trans (read?_http _)
  have hcut := cut_http hauthority hchars hsegments
  have hslash' : (unbroken path ++ slashed segments).head? = some '/' := by
    rcases hslash with rfl | hslash
    · rw [slashed_eq_cons hne]
      rfl
    · obtain ⟨rest, rfl⟩ : ∃ rest, path = '/' :: rest := List.head?_eq_some_iff.1 hslash
      rfl
  unfold Url.parse
  simp only [hread, hcut '#' (by decide), hcut '?' (by decide), Option.map_none, Url.readRest,
    unbroken_http hauthority hsegments, dropWhile_isSlash_http hauthority]
  exact readPlace_http rfl hauthority hslash'

end

/-- A URL of segments is read as it is written. -/
theorem parse_plain {s : String} {authority : List Char} {segments : List (List Char)}
    (hs : s.toList = ['h', 't', 't', 'p', ':', '/', '/'] ++ (authority ++ slashed segments))
    (hauthority : IsAuthority authority) (hsegments : ∀ s ∈ segments, IsSegment s)
    (hne : segments ≠ []) :
    Url.parse s = (Authority.read .http authority).map fun p =>
      ⟨p.1, .http, false, slashed segments, none, none⟩ := by
  have hpath : pathOf .http (unbroken [] ++ slashed segments) = slashed segments :=
    pathOf_slashed hsegments hne
  have hparse := @parse_http authority [] segments s hs hauthority (.inl rfl)
    (List.forall_mem_nil _) hsegments hne
  rw [hpath] at hparse
  exact hparse

end CloudRoster.Http
