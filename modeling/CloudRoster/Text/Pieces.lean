/-
  Cutting a text at a separator, and joining the pieces again.

  `pieces sep cs` lists the texts between the separators, so a text with `n` separators has `n + 1`
  pieces and the empty text has one.  Joining undoes cutting always (`joined_pieces`), and cutting
  undoes joining whenever no piece holds the separator (`pieces_joined`).
-/

namespace CloudRoster.Text

/-- Puts `c` in front of the first text of a list. -/
def consHead (c : Char) : List (List Char) → List (List Char)
  | [] => [[c]]
  | p :: ps => (c :: p) :: ps

/-- The texts between the separators. -/
def pieces (sep : Char) : List Char → List (List Char)
  | [] => [[]]
  | c :: cs => if c = sep then [] :: pieces sep cs else consHead c (pieces sep cs)

/-- The texts with one separator between each two of them. -/
def joined (sep : Char) (ps : List (List Char)) : List Char := [sep].intercalate ps

/-- The text before the first `sep` and, when there is one, the text after it. -/
def cut (sep : Char) : List Char → List Char × Option (List Char)
  | [] => ([], none)
  | c :: cs => if c = sep then ([], some cs) else (c :: (cut sep cs).1, (cut sep cs).2)

/-! ## Joining undoes cutting -/

theorem pieces_ne_nil (sep : Char) (cs : List Char) : pieces sep cs ≠ [] := by
  cases cs with
  | nil => simp [pieces]
  | cons c cs =>
    rw [pieces]
    split
    · simp
    · cases pieces sep cs <;> simp [consHead]

@[simp] theorem joined_singleton (sep : Char) (p : List Char) : joined sep [p] = p := by
  simp [joined]

theorem joined_cons (sep : Char) (p : List Char) {ps : List (List Char)} (h : ps ≠ []) :
    joined sep (p :: ps) = p ++ sep :: joined sep ps := by
  cases ps with
  | nil => exact absurd rfl h
  | cons q qs => simp [joined]

theorem joined_consHead (sep c : Char) (ps : List (List Char)) :
    joined sep (consHead c ps) = c :: joined sep ps := by
  cases ps with
  | nil => rfl
  | cons p ps => cases ps <;> simp [consHead, joined]

theorem joined_pieces (sep : Char) (cs : List Char) : joined sep (pieces sep cs) = cs := by
  induction cs with
  | nil => rfl
  | cons c cs ih =>
    rw [pieces]
    split
    · next h => rw [joined_cons _ _ (pieces_ne_nil _ _), ih, h]; rfl
    · rw [joined_consHead, ih]

theorem mem_of_mem_pieces {sep c : Char} {cs l : List Char} (hl : l ∈ pieces sep cs) (hc : c ∈ l) :
    c ∈ cs := by
  rw [← joined_pieces sep cs]
  generalize pieces sep cs = ps at hl
  induction ps with
  | nil => cases hl
  | cons p ps ih =>
    rcases List.mem_cons.1 hl with rfl | hl
    · cases ps with
      | nil => simpa using hc
      | cons q qs => rw [joined_cons _ _ (by simp)]; exact List.mem_append_left _ hc
    · rw [joined_cons _ _ (List.ne_nil_of_mem hl)]
      exact List.mem_append_right _ (List.mem_cons_of_mem _ (ih hl))

/-- No piece holds the separator. -/
theorem sep_notMem_of_mem_pieces {sep : Char} {cs p : List Char} (h : p ∈ pieces sep cs) :
    sep ∉ p := by
  induction cs generalizing p with
  | nil =>
    rw [pieces, List.mem_singleton] at h
    exact h ▸ List.not_mem_nil
  | cons c cs ih =>
    rw [pieces] at h
    split at h
    · rcases List.mem_cons.1 h with rfl | h
      · exact List.not_mem_nil
      · exact ih h
    · next hc =>
      cases hcs : pieces sep cs with
      | nil => exact absurd hcs (pieces_ne_nil sep cs)
      | cons q qs =>
        rw [hcs] at h ih
        rcases List.mem_cons.1 h with rfl | h
        · rw [List.mem_cons, not_or]
          exact ⟨fun heq => hc heq.symm, ih List.mem_cons_self⟩
        · exact ih (List.mem_cons_of_mem _ h)

/-! ## Cutting undoes joining -/

theorem pieces_eq_singleton {sep : Char} {p : List Char} (h : sep ∉ p) : pieces sep p = [p] := by
  induction p with
  | nil => rfl
  | cons c p ih =>
    simp only [List.mem_cons, not_or] at h
    rw [pieces, if_neg (Ne.symm h.1), ih h.2, consHead]

/-- A separator divides the pieces before it from those behind it. -/
theorem pieces_append_cons (sep : Char) (cs ds : List Char) :
    pieces sep (cs ++ sep :: ds) = pieces sep cs ++ pieces sep ds := by
  induction cs with
  | nil => simp [pieces]
  | cons c cs ih =>
    rw [List.cons_append, pieces, pieces, ih]
    split
    · rfl
    · cases hcs : pieces sep cs with
      | nil => exact absurd hcs (pieces_ne_nil sep cs)
      | cons p ps => rfl

theorem pieces_append {sep : Char} {p : List Char} (h : sep ∉ p) (cs : List Char) :
    pieces sep (p ++ sep :: cs) = p :: pieces sep cs := by
  rw [pieces_append_cons, pieces_eq_singleton h, List.singleton_append]

/-- What is put in front of a text belongs to its first piece, if it holds no separator. -/
theorem pieces_append_of_notMem {sep : Char} {p cs q : List Char} {qs : List (List Char)}
    (h : sep ∉ p) (hcs : pieces sep cs = q :: qs) : pieces sep (p ++ cs) = (p ++ q) :: qs := by
  induction p with
  | nil => exact hcs
  | cons c p ih =>
    simp only [List.mem_cons, not_or] at h
    rw [List.cons_append, pieces, if_neg (Ne.symm h.1), ih h.2]
    rfl

theorem pieces_joined {sep : Char} {ps : List (List Char)} (hne : ps ≠ [])
    (h : ∀ p ∈ ps, sep ∉ p) : pieces sep (joined sep ps) = ps := by
  induction ps with
  | nil => exact absurd rfl hne
  | cons p ps ih =>
    cases ps with
    | nil => rw [joined_singleton, pieces_eq_singleton (h p (by simp))]
    | cons q qs =>
      rw [joined_cons _ _ (by simp), pieces_append (h p (by simp)),
        ih (by simp) (fun x hx => h x (List.mem_cons_of_mem _ hx))]

/-! ## What a joined text is made of -/

/-- What is joined is made of separators and pieces. -/
theorem mem_joined {sep c : Char} {ps : List (List Char)} (h : c ∈ joined sep ps) :
    c = sep ∨ ∃ p ∈ ps, c ∈ p := by
  induction ps with
  | nil => cases h
  | cons p ps ih =>
    by_cases hps : ps = []
    · subst hps
      exact .inr ⟨p, List.mem_singleton.2 rfl, by simpa using h⟩
    · rw [joined_cons _ _ hps, List.mem_append, List.mem_cons] at h
      rcases h with h | h | h
      · exact .inr ⟨p, List.mem_cons_self, h⟩
      · exact .inl h
      · rcases ih h with rfl | ⟨q, hq, hc⟩
        · exact .inl rfl
        · exact .inr ⟨q, List.mem_cons_of_mem _ hq, hc⟩

/-- Every character but the separator stands in some piece. -/
theorem exists_mem_pieces {sep c : Char} {cs : List Char} (h : c ∈ cs) (hne : c ≠ sep) :
    ∃ p ∈ pieces sep cs, c ∈ p := by
  rw [← joined_pieces sep cs] at h
  exact (mem_joined h).resolve_left hne

/-- A piece is no longer than what it is joined into. -/
theorem length_le_joined {sep : Char} {p : List Char} {ps : List (List Char)} (h : p ∈ ps) :
    p.length ≤ (joined sep ps).length := by
  induction ps with
  | nil => cases h
  | cons q qs ih =>
    by_cases hqs : qs = []
    · subst hqs
      exact Nat.le_of_eq (by rw [List.mem_singleton.1 h, joined_singleton])
    · rw [joined_cons _ _ hqs, List.length_append, List.length_cons]
      rcases List.mem_cons.1 h with rfl | h
      · omega
      · have := ih h
        omega

/-- A joined text begins with its first piece. -/
theorem prefix_joined {sep : Char} {p : List Char} {ps : List (List Char)}
    (h : ps.head? = some p) : p <+: joined sep ps := by
  cases ps with
  | nil => cases h
  | cons q qs =>
    obtain rfl := Option.some.inj h
    by_cases hqs : qs = []
    · exact ⟨[], by rw [hqs, joined_singleton, List.append_nil]⟩
    · rw [joined_cons sep q hqs]
      exact List.prefix_append q _

/-- It ends with its last piece. -/
theorem suffix_joined {sep : Char} {p : List Char} {ps : List (List Char)}
    (h : ps.getLast? = some p) : p <:+ joined sep ps := by
  induction ps with
  | nil => cases h
  | cons q qs ih =>
    by_cases hqs : qs = []
    · subst hqs
      obtain rfl : q = p := by simpa using h
      exact ⟨[], by rw [joined_singleton, List.nil_append]⟩
    · have hlast : qs.getLast? = some p := by
        obtain ⟨r, rs, rfl⟩ := List.exists_cons_of_ne_nil hqs
        rwa [List.getLast?_cons_cons] at h
      rw [joined_cons sep q hqs]
      exact (ih hlast).trans ((List.suffix_cons sep _).trans (List.suffix_append q _))

/-! ## Strings -/

section

variable {sep : String} {c : Char}

/-- Cutting a text, and putting separators between the pieces again. -/
theorem intercalate_pieces (hsep : sep.toList = [c]) (s : String) :
    sep.intercalate ((pieces c s.toList).map String.ofList) = s := by
  have hid : (String.toList ∘ String.ofList) = id := funext fun _ => String.toList_ofList
  rw [← String.toList_inj, String.toList_intercalate, List.map_map, hid, List.map_id, hsep]
  exact joined_pieces c s.toList

/-- Putting separators between texts that hold none, and cutting there again. -/
theorem pieces_intercalate (hsep : sep.toList = [c]) {ss : List String} (hne : ss ≠ [])
    (hss : ∀ s ∈ ss, c ∉ s.toList) :
    (pieces c (sep.intercalate ss).toList).map String.ofList = ss := by
  have hid : (String.ofList ∘ String.toList) = id := funext fun _ => String.ofList_toList
  have hpieces : pieces c (joined c (ss.map String.toList)) = ss.map String.toList :=
    pieces_joined (by simpa using hne) (by simpa using hss)
  have htext : (sep.intercalate ss).toList = joined c (ss.map String.toList) := by
    rw [String.toList_intercalate, hsep, joined]
  rw [htext, hpieces, List.map_map, hid, List.map_id]

end

/-! ## Cutting once -/

/-- Nothing is lost, and the part before the cut holds no separator. -/
theorem cut_spec (sep : Char) (cs : List Char) :
    sep ∉ (cut sep cs).1 ∧
      cs = (cut sep cs).1 ++ (match (cut sep cs).2 with | none => [] | some r => sep :: r) := by
  induction cs with
  | nil => simp [cut]
  | cons c cs ih =>
    rw [cut]
    split
    · next h => simp [h]
    · next h =>
      constructor
      · simp only [List.mem_cons, not_or]
        exact ⟨fun e => h e.symm, ih.1⟩
      · rw [List.cons_append, ← ih.2]

/-- Cutting at the first `sep`, in terms of what is before it. -/
theorem cut_eq (sep : Char) (cs : List Char) :
    cut sep cs = (cs.takeWhile (· ≠ sep), (cs.dropWhile (· ≠ sep)).tail?) := by
  induction cs with
  | nil => rfl
  | cons c cs ih =>
    rw [cut, List.takeWhile_cons, List.dropWhile_cons]
    by_cases h : c = sep
    · simp [h]
    · simp [h, ih]

theorem cut_of_notMem {sep : Char} {cs : List Char} (h : sep ∉ cs) : cut sep cs = (cs, none) := by
  induction cs with
  | nil => rfl
  | cons c cs ih =>
    simp only [List.mem_cons, not_or] at h
    rw [cut, if_neg (Ne.symm h.1), ih h.2]

theorem cut_append {sep : Char} {p : List Char} (h : sep ∉ p) (cs : List Char) :
    cut sep (p ++ sep :: cs) = (p, some cs) := by
  induction p with
  | nil => simp [cut]
  | cons c p ih =>
    simp only [List.mem_cons, not_or] at h
    rw [List.cons_append, cut, if_neg (Ne.symm h.1), ih h.2]

end CloudRoster.Text
