/-
  JSON is read exactly: which documents are accepted, and as what value.

  `Token.Written` says how tokens are written whose strings are texts.  A document may hold more: a
  string that spells no text, because a surrogate stands alone in it or its octets are not UTF-8.
  Such a string is a token as well, as long as it is a literal at all.

  1. **Literals** - `WritesPiece p w` is one octet or escape of a string, `IsLiteral w` a string of
     them between quotation marks.  A literal spells a text exactly if it is one of the ways to
     write that text (`content?_eq_some_iff`).  This has to be seen octet by octet: a character may
     be written by several pieces (octets that continue it, or two halves of a pair), and only
     together.
  2. **Numbers** - what the reader of a number takes is the literal of a number (`number?_sound`).
  3. **Documents** - `Token.Rendered`, `Rendered` and `Json.Renders v s`: the well-formed documents
     that hold a value, with blanks anywhere between tokens.

  A number has no end of its own, so what stands behind it must not go on with it; in a value that
  is always a bracket or a comma (`isChain_tokens`).

  **Headline** (`ofBytes?_eq_some_iff`): the reader accepts the renderings of a value and nothing
  else.
-/
import Mathlib.Data.List.Chain
import CloudRoster.Proofs.Json.Spelling

namespace CloudRoster

open Text

namespace Json

/-! ## Literals of strings -/

/-- The ways to write a piece of a string: an octet that stands for itself, a letter behind a
    backslash, or the four digits of a unit. -/
inductive WritesPiece : Piece → List UInt8 → Prop where
  | itself {b : UInt8} (noQuote : b ≠ octet '"') (noBackslash : b ≠ octet '\\')
      (printable : ¬b < 0x20) : WritesPiece (.octet b) [b]
  | letter {l c : Char} (h : (l, c) ∈ letters) :
      WritesPiece (.octet (octet c)) [octet '\\', octet l]
  | unit {u : Nat} {w : List UInt8} (h : WritesUnit u w) : WritesPiece (.unit u) w

/-- The literals of strings, whether or not they spell a text. -/
def IsLiteral (w : List UInt8) : Prop :=
  ∃ ps ws, List.Forall₂ WritesPiece ps ws ∧ w = octet '"' :: (ws.flatten ++ [octet '"'])

/-! ### Pieces are found -/

theorem octet_character (b : UInt8) : octet (character b) = b := by
  have hlt := b.toNat_lt
  have hvalid : b.toNat.isValidChar := .inl (by omega)
  rw [octet, character, Char.ofNat, dif_pos hvalid]
  exact UInt8.ofNat_toNat

theorem exists_letter_of_escaped? {e o : UInt8} (h : escaped? e = some o) :
    ∃ l c, (l, c) ∈ letters ∧ e = octet l ∧ o = octet c := by
  rw [escaped?] at h
  split at h
  · next he =>
    cases h
    rcases he with rfl | rfl | rfl
    · exact ⟨'"', '"', by decide, rfl, rfl⟩
    · exact ⟨'\\', '\\', by decide, rfl, rfl⟩
    · exact ⟨'/', '/', by decide, rfl, rfl⟩
  split at h
  · next he => cases h; exact ⟨'b', '\x08', by decide, he, rfl⟩
  split at h
  · next he => cases h; exact ⟨'f', '\x0C', by decide, he, rfl⟩
  split at h
  · next he => cases h; exact ⟨'n', '\n', by decide, he, rfl⟩
  split at h
  · next he => cases h; exact ⟨'r', '\r', by decide, he, rfl⟩
  split at h
  · next he => cases h; exact ⟨'t', '\t', by decide, he, rfl⟩
  · cases h

theorem writesUnit_of_unit? {a b c d : UInt8} {u : Nat} (h : unit? a b c d = some u) :
    WritesUnit u [octet '\\', octet 'u', a, b, c, d] := by
  refine ⟨character a, character b, character c, character d, h, ?_⟩
  simp only [List.map_cons, List.map_nil, octet_character]

/-- What the reader of a string takes is made of pieces and ends with a quotation mark. -/
theorem pieces?_sound {s : List UInt8} {ps : List Piece} {rest : List UInt8}
    (h : pieces? s = some (ps, rest)) :
    ∃ ws, List.Forall₂ WritesPiece ps ws ∧ s = ws.flatten ++ octet '"' :: rest := by
  fun_induction pieces? s generalizing ps rest with
  | case1 => cases h
  | case2 r => cases h; exact ⟨[], .nil, rfl⟩
  | case3 => cases h
  | case4 a b c d r _ ih =>
    simp only [Option.bind_eq_some_iff, Option.map_eq_some_iff, Prod.mk.injEq, Prod.exists] at h
    obtain ⟨u, hu, ps', rest', h, rfl, rfl⟩ := h
    obtain ⟨ws, hws, rfl⟩ := ih h
    exact ⟨_ :: ws, .cons (.unit (writesUnit_of_unit? hu)) hws, rfl⟩
  | case5 => cases h
  | case6 e r _ he ih =>
    simp only [Option.bind_eq_some_iff, Option.map_eq_some_iff, Prod.mk.injEq, Prod.exists] at h
    obtain ⟨o, ho, ps', rest', h, rfl, rfl⟩ := h
    obtain ⟨ws, hws, rfl⟩ := ih h
    obtain ⟨l, c, hl, rfl, rfl⟩ := exists_letter_of_escaped? ho
    exact ⟨_ :: ws, .cons (.letter hl) hws, rfl⟩
  | case7 => cases h
  | case8 b r hquote hslash hlow ih =>
    simp only [Option.map_eq_some_iff, Prod.mk.injEq, Prod.exists] at h
    obtain ⟨ps', rest', h, rfl, rfl⟩ := h
    obtain ⟨ws, hws, rfl⟩ := ih h
    exact ⟨[b] :: ws, .cons (.itself hquote hslash hlow) hws, rfl⟩

theorem pieces?_writesPiece {p : Piece} {w : List UInt8} (h : WritesPiece p w)
    (rest : List UInt8) : pieces? (w ++ rest) = (pieces? rest).map fun (qs, r) => (p :: qs, r) := by
  cases h with
  | itself noQuote noBackslash printable =>
    exact (readsAs_octet noQuote noBackslash printable).1 rest
  | letter h => exact (readsAs_letter h).1 rest
  | unit h => exact pieces?_unit h rest

theorem pieces?_written {ps : List Piece} {ws : List (List UInt8)}
    (h : List.Forall₂ WritesPiece ps ws) (rest : List UInt8) :
    pieces? (ws.flatten ++ octet '"' :: rest) = some (ps, rest) := by
  induction h with
  | nil => rw [List.flatten_nil, List.nil_append, pieces?.eq_def]; simp only [if_true]
  | cons hp _ ih =>
    rw [List.flatten_cons, List.append_assoc, pieces?_writesPiece hp, ih, Option.map_some]

/-! ### Pieces that spell a text are its characters -/

/-- Two texts that are written alike begin with the same character. -/
theorem utf8EncodeChar_append_inj {c d : Char} {s t : List UInt8}
    (h : String.utf8EncodeChar c ++ s = String.utf8EncodeChar d ++ t) : c = d ∧ s = t := by
  have hc := ByteArray.utf8DecodeChar?_utf8EncodeChar_append (b := s.toByteArray) (c := c)
  have hd := ByteArray.utf8DecodeChar?_utf8EncodeChar_append (b := t.toByteArray) (c := d)
  rw [← List.toByteArray_append] at hc hd
  rw [h, hd] at hc
  obtain rfl : d = c := Option.some.inj hc
  exact ⟨rfl, List.append_cancel_left h⟩

/-- An octet that goes on with a character and does not begin one. -/
def IsTail (b : UInt8) : Prop := ¬b.IsUTF8FirstByte

theorem exists_utf8EncodeChar (c : Char) :
    ∃ b bs, String.utf8EncodeChar c = b :: bs ∧ ¬IsTail b ∧ ∀ x ∈ bs, IsTail x := by
  obtain ⟨b, bs, h⟩ := List.exists_cons_of_ne_nil (String.utf8EncodeChar_ne_nil (c := c))
  refine ⟨b, bs, h, ?_, fun x hx => ?_⟩
  · have hfirst := (@UInt8.isUTF8FirstByte_getElem_utf8EncodeChar c 0 (by simp [h])).2 rfl
    simp only [h, List.getElem_cons_zero] at hfirst
    exact not_not_intro hfirst
  · obtain ⟨i, hi, rfl⟩ := List.mem_iff_getElem.1 hx
    intro hfirst
    have := (@UInt8.isUTF8FirstByte_getElem_utf8EncodeChar c (i + 1) (by simp [h, hi])).1
      (by simpa only [h, List.getElem_cons_succ] using hfirst)
    omega

theorem lt_of_writesUnit {u : Nat} {w : List UInt8} (h : WritesUnit u w) : u < 0x10000 := by
  obtain ⟨a, b, c, d, hu, -⟩ := h
  have bound {x : Char} {n : Nat} (hx : digit? 16 x = some n) : n < 16 :=
    of_decide_eq_true (Option.filter_eq_some_iff.1 hx).2
  simp only [natural?, List.isEmpty_cons, Bool.false_eq_true, if_false, readDigits?,
    Option.bind_eq_some_iff, Option.some.injEq] at hu
  obtain ⟨i, hi, j, hj, k, hk, l, hl, rfl⟩ := hu
  have := bound hi
  have := bound hj
  have := bound hk
  have := bound hl
  omega

theorem toNat_ofNat {n : Nat} (h : n.isValidChar) : (Char.ofNat n).toNat = n := by
  rw [Char.ofNat, dif_pos h]
  exact UInt32.toNat_ofNatLT

/-- A unit at the front of what spells a text is a character, or half of one with the next. -/
theorem spelled?_unit {u : Nat} {ps : List Piece} {bs : List UInt8} (hu : u < 0x10000)
    (h : spelled? (.unit u :: ps) = some bs) :
    ∃ c rest qs, bs = String.utf8EncodeChar c ++ rest ∧ spelled? qs = some rest ∧
      (c.toNat = u ∧ qs = ps ∨
        ∃ v, ps = .unit v :: qs ∧ (0xD800 ≤ u ∧ u < 0xDC00) ∧ (0xDC00 ≤ v ∧ v < 0xE000) ∧
          c.toNat = 0x10000 + (u - 0xD800) * 0x400 + (v - 0xDC00)) := by
  rw [spelled?.eq_def] at h
  simp only [isHighSurrogate, isLowSurrogate, Bool.and_eq_true, decide_eq_true_eq] at h
  split at h
  · next hhigh =>
    split at h
    · next v qs =>
      split at h
      · next hlow =>
        obtain ⟨rest, hrest, rfl⟩ := Option.map_eq_some_iff.1 h
        refine ⟨_, rest, qs, rfl, hrest, .inr ⟨v, rfl, hhigh, hlow, toNat_ofNat (.inr ?_)⟩⟩
        omega
      · cases h
    · cases h
  · next hhigh =>
    split at h
    · cases h
    · next hlow =>
      obtain ⟨rest, hrest, rfl⟩ := Option.map_eq_some_iff.1 h
      refine ⟨_, rest, ps, rfl, hrest, .inl ⟨toNat_ofNat ?_, rfl⟩⟩
      simp only [Nat.isValidChar]
      omega

theorem octet_isFirst {c : Char} (h : c.toNat < 0x80) : ¬IsTail (octet c) := by
  obtain ⟨b, bs, hb, hfirst, -⟩ := exists_utf8EncodeChar c
  rw [utf8EncodeChar_of_ascii h] at hb
  obtain ⟨rfl, -⟩ := List.cons.inj hb
  exact hfirst

theorem ascii_of_mem_letters {l c : Char} (h : (l, c) ∈ letters) : c.toNat < 0x80 := by
  revert h
  simp only [letters, List.mem_cons, List.not_mem_nil, or_false, Prod.mk.injEq]
  rintro (⟨rfl, rfl⟩ | ⟨rfl, rfl⟩ | ⟨rfl, rfl⟩ | ⟨rfl, rfl⟩ | ⟨rfl, rfl⟩ | ⟨rfl, rfl⟩ |
    ⟨rfl, rfl⟩ | ⟨rfl, rfl⟩) <;> decide

/-- Only octets that stand for themselves go on with a character. -/
theorem exists_of_tails {bs rest : List UInt8} {ps : List Piece} {ws : List (List UInt8)}
    (htails : ∀ x ∈ bs, IsTail x) (hps : List.Forall₂ WritesPiece ps ws)
    (h : spelled? ps = some (bs ++ rest)) :
    ∃ qs vs, List.Forall₂ WritesPiece qs vs ∧ spelled? qs = some rest ∧
      ws.flatten = bs ++ vs.flatten := by
  induction bs generalizing ps ws with
  | nil => exact ⟨ps, ws, hps, h, rfl⟩
  | cons x bs ih =>
    obtain ⟨hx, hbs⟩ := List.forall_mem_cons.1 htails
    cases hps with
    | nil => cases h
    | @cons p w ps ws hp hps =>
      cases hp with
      | itself =>
        obtain ⟨cs, hcs, heq⟩ := Option.map_eq_some_iff.1 h
        obtain ⟨rfl, rfl⟩ := List.cons.inj heq
        obtain ⟨qs, vs, hqs, hrest, hflat⟩ := ih hbs hps hcs
        exact ⟨qs, vs, hqs, hrest, by rw [List.flatten_cons, hflat]; rfl⟩
      | letter hl =>
        obtain ⟨cs, hcs, heq⟩ := Option.map_eq_some_iff.1 h
        obtain ⟨rfl, -⟩ := List.cons.inj heq
        exact absurd hx (octet_isFirst (ascii_of_mem_letters hl))
      | unit hu =>
        obtain ⟨c, cs, qs, heq, -⟩ := spelled?_unit (lt_of_writesUnit hu) h
        obtain ⟨b, tail, hb, hfirst, -⟩ := exists_utf8EncodeChar c
        rw [hb] at heq
        obtain ⟨rfl, -⟩ := List.cons.inj heq
        exact absurd hx hfirst

/-- A character whose first octet can stand for itself is written by its octets. -/
theorem writesChar_utf8EncodeChar {c : Char} {b : UInt8} {bs : List UInt8}
    (h : String.utf8EncodeChar c = b :: bs) (noQuote : b ≠ octet '"')
    (noBackslash : b ≠ octet '\\') (printable : ¬b < 0x20) :
    WritesChar c (String.utf8EncodeChar c) := by
  -- a sign of the string's own would be the octet that stands here
  have hoctet (hascii : c.toNat < 0x80) : b = octet c := by
    rw [utf8EncodeChar_of_ascii hascii] at h
    exact (List.cons.inj h).1.symm
  refine .itself (Nat.not_lt.1 fun hlow => printable ?_) ?_ ?_
  · rw [hoctet (by omega), UInt8.lt_iff_toNat_lt, octet, UInt8.toNat_ofNat']
    have : (0x20 : UInt8).toNat = 0x20 := rfl
    omega
  · rintro rfl
    exact noQuote (hoctet (by decide))
  · rintro rfl
    exact noBackslash (hoctet (by decide))

/-- The pieces at the front of what spells a text are one of the ways to write its first
    character. -/
theorem exists_writesChar {c : Char} {rest : List UInt8} {ps : List Piece} {ws : List (List UInt8)}
    (hps : List.Forall₂ WritesPiece ps ws)
    (h : spelled? ps = some (String.utf8EncodeChar c ++ rest)) :
    ∃ w qs vs, WritesChar c w ∧ List.Forall₂ WritesPiece qs vs ∧ spelled? qs = some rest ∧
      ws.flatten = w ++ vs.flatten := by
  cases hps with
  | nil =>
    obtain ⟨b, bs, hb, -⟩ := exists_utf8EncodeChar c
    rw [hb] at h
    cases h
  | @cons p w ps ws hp hps =>
    cases hp with
    | @itself b noQuote noBackslash printable =>
      obtain ⟨cs, hcs, heq⟩ := Option.map_eq_some_iff.1 h
      obtain ⟨b', bs, hb, -, htails⟩ := exists_utf8EncodeChar c
      rw [hb] at heq
      obtain ⟨rfl, rfl⟩ := List.cons.inj heq
      obtain ⟨qs, vs, hqs, hrest, hflat⟩ := exists_of_tails htails hps hcs
      have hchar := writesChar_utf8EncodeChar hb noQuote noBackslash printable
      refine ⟨_, qs, vs, hchar, hqs, hrest, ?_⟩
      rw [List.flatten_cons, hflat, hb]
      rfl
    | @letter l d hl =>
      obtain ⟨cs, hcs, heq⟩ := Option.map_eq_some_iff.1 h
      have hd : String.utf8EncodeChar d = [octet d] :=
        utf8EncodeChar_of_ascii (ascii_of_mem_letters hl)
      have heq : String.utf8EncodeChar d ++ cs = String.utf8EncodeChar c ++ rest := by
        rw [hd]
        exact heq
      obtain ⟨rfl, rfl⟩ := utf8EncodeChar_append_inj heq
      exact ⟨_, ps, ws, .letter hl, hps, hcs, rfl⟩
    | @unit u w hu =>
      obtain ⟨d, cs, qs, heq, hqs, hunit⟩ := spelled?_unit (lt_of_writesUnit hu) h
      obtain ⟨rfl, rfl⟩ := utf8EncodeChar_append_inj heq
      rcases hunit with ⟨rfl, rfl⟩ | ⟨v, rfl, hhigh, hlow, hpair⟩
      · exact ⟨w, qs, ws, .unit hu, hps, hqs, rfl⟩
      · cases hps with
        | @cons _ w' _ ws hv hps =>
          cases hv with
          | unit hv =>
            refine ⟨w ++ w', qs, ws, .pair hhigh hlow hpair hu hv, hps, hqs, ?_⟩
            rw [List.flatten_cons, List.flatten_cons, List.append_assoc]

theorem forall₂_writesChar {cs : List Char} {ps : List Piece} {ws : List (List UInt8)}
    (hps : List.Forall₂ WritesPiece ps ws)
    (h : spelled? ps = some (cs.flatMap String.utf8EncodeChar)) :
    ∃ vs, List.Forall₂ WritesChar cs vs ∧ ws.flatten = vs.flatten := by
  induction cs generalizing ps ws with
  | nil =>
    obtain ⟨⟩ | ⟨hp, hps⟩ := hps
    · exact ⟨[], .nil, rfl⟩
    -- every piece spells something
    · cases hp with
      | itself => obtain ⟨cs, -, heq⟩ := Option.map_eq_some_iff.1 h; cases heq
      | letter => obtain ⟨cs, -, heq⟩ := Option.map_eq_some_iff.1 h; cases heq
      | unit hu =>
        obtain ⟨c, cs, qs, heq, -⟩ := spelled?_unit (lt_of_writesUnit hu) h
        obtain ⟨b, bs, hb, -⟩ := exists_utf8EncodeChar c
        rw [hb] at heq
        cases heq
  | cons c cs ih =>
    obtain ⟨w, qs, vs, hw, hqs, hrest, hflat⟩ := exists_writesChar hps h
    obtain ⟨us, hus, hflat'⟩ := ih hqs hrest
    exact ⟨w :: us, .cons hw hus, by rw [hflat, hflat', List.flatten_cons]⟩

/-- A literal is a text exactly if it is one of the ways to write it. -/
theorem content?_eq_some_iff {ps : List Piece} {ws : List (List UInt8)}
    (hps : List.Forall₂ WritesPiece ps ws) (s : String) :
    content? ps = some s ↔ WritesText s (octet '"' :: (ws.flatten ++ [octet '"'])) := by
  constructor
  · intro h
    rw [content?, Option.bind_eq_some_iff] at h
    obtain ⟨bs, hbs, hs⟩ := h
    rw [ofUtf8?_eq_some_iff.1 hs, utf8_eq_flatMap] at hbs
    obtain ⟨vs, hvs, hflat⟩ := forall₂_writesChar hps hbs
    exact ⟨vs, hvs, by rw [hflat]⟩
  · intro h
    obtain ⟨v, hv, hread⟩ := pieces?_of_writesText h
    obtain ⟨qs, hqs, hcontent⟩ := hread []
    obtain rfl := (List.cons.inj hv).2
    rw [List.append_assoc, List.singleton_append, pieces?_written hps] at hqs
    cases hqs
    exact hcontent

/-! ## Numbers -/

theorem isDigit_character {b : UInt8} (h : isDigit b = true) : (character b).isDigit = true := by
  rw [isDigit, Bool.and_eq_true, decide_eq_true_eq, decide_eq_true_eq, UInt8.le_iff_toNat_le,
    UInt8.le_iff_toNat_le] at h
  have hlt : b.toNat < 0x100 := b.toNat_lt
  have hnumber : (character b).toNat = b.toNat := toNat_ofNat (.inl (by omega))
  rw [Char.isDigit_iff_toNat, hnumber]
  exact h

theorem digits?_sound {s ds rest : List UInt8} (h : digits? s = some (ds, rest)) :
    AreDigits (ds.map character) ∧ s = ds ++ rest := by
  rw [digits?] at h
  split at h
  · cases h
  · next hne =>
    cases h
    refine ⟨⟨?_, ?_⟩, List.takeWhile_append_dropWhile.symm⟩
    · rw [List.isEmpty_iff] at hne
      exact fun he => hne (List.map_eq_nil_iff.1 he)
    · exact List.forall_mem_map.2 fun b hb =>
        isDigit_character (List.all_eq_true.1 List.all_takeWhile b hb)

theorem whole?_sound {s ds rest : List UInt8} (h : whole? s = some (ds, rest)) :
    IsWhole (ds.map character) ∧ s = ds ++ rest := by
  cases s with
  | nil => cases h
  | cons b r =>
    rw [whole?] at h
    split at h
    · next hb => cases h; subst hb; exact ⟨.inl rfl, rfl⟩
    · next hb =>
      obtain ⟨hdigits, hs⟩ := digits?_sound h
      refine ⟨.inr ⟨hdigits, ?_⟩, hs⟩
      cases ds with
      | nil => exact absurd rfl hdigits.1
      | cons d ds =>
        obtain ⟨rfl, -⟩ := List.cons.inj hs
        intro hzero
        exact hb (by rw [← octet_character b, Option.some.inj hzero])

theorem fraction?_sound {s ds rest : List UInt8} (h : fraction? s = some (ds, rest)) :
    IsFraction (ds.map character) ∧ s = ds ++ rest := by
  cases s with
  | nil => cases h; exact ⟨.inl rfl, rfl⟩
  | cons b r =>
    rw [fraction?] at h
    split at h
    · next hb =>
      simp only [Option.map_eq_some_iff, Prod.mk.injEq, Prod.exists] at h
      obtain ⟨ds, rest, h, rfl, rfl⟩ := h
      obtain ⟨hdigits, rfl⟩ := digits?_sound h
      subst hb
      exact ⟨.inr ⟨_, hdigits, rfl⟩, rfl⟩
    · cases h; exact ⟨.inl rfl, rfl⟩

theorem signedDigits?_sound {s ds rest : List UInt8} (h : signedDigits? s = some (ds, rest)) :
    (∃ sign digits, sign ∈ [[], ['+'], ['-']] ∧ AreDigits digits ∧
      ds.map character = sign ++ digits) ∧ s = ds ++ rest := by
  cases s with
  | nil => cases h
  | cons b r =>
    rw [signedDigits?] at h
    split at h
    · next hb =>
      simp only [Option.map_eq_some_iff, Prod.mk.injEq, Prod.exists] at h
      obtain ⟨ds, rest, h, rfl, rfl⟩ := h
      obtain ⟨hdigits, rfl⟩ := digits?_sound h
      refine ⟨?_, rfl⟩
      rcases hb with rfl | rfl
      · exact ⟨['+'], _, by simp, hdigits, rfl⟩
      · exact ⟨['-'], _, by simp, hdigits, rfl⟩
    · obtain ⟨hdigits, hs⟩ := digits?_sound h
      exact ⟨⟨[], _, by simp, hdigits, rfl⟩, hs⟩

theorem exponent?_sound {s ds rest : List UInt8} (h : exponent? s = some (ds, rest)) :
    IsExponent (ds.map character) ∧ s = ds ++ rest := by
  cases s with
  | nil => cases h; exact ⟨.inl rfl, rfl⟩
  | cons b r =>
    rw [exponent?] at h
    split at h
    · next hb =>
      simp only [Option.map_eq_some_iff, Prod.mk.injEq, Prod.exists] at h
      obtain ⟨ds, rest, h, rfl, rfl⟩ := h
      obtain ⟨⟨sign, digits, hsign, hdigits, hds⟩, rfl⟩ := signedDigits?_sound h
      refine ⟨.inr ⟨character b, sign, digits, ?_, hsign, hdigits, by rw [List.map_cons, hds]⟩, rfl⟩
      rcases hb with rfl | rfl <;> decide
    · cases h; exact ⟨.inl rfl, rfl⟩

theorem unsigned?_sound {s ds rest : List UInt8} (h : unsigned? s = some (ds, rest)) :
    (∃ whole fraction exponent, IsWhole whole ∧ IsFraction fraction ∧ IsExponent exponent ∧
      ds.map character = whole ++ fraction ++ exponent) ∧ s = ds ++ rest := by
  simp only [unsigned?, Option.bind_eq_bind, Option.bind_eq_some_iff, Prod.exists] at h
  obtain ⟨w, s₁, h₁, f, s₂, h₂, e, s₃, h₃, h⟩ := h
  cases h
  obtain ⟨hw, rfl⟩ := whole?_sound h₁
  obtain ⟨hf, rfl⟩ := fraction?_sound h₂
  obtain ⟨he, rfl⟩ := exponent?_sound h₃
  refine ⟨⟨_, _, _, hw, hf, he, ?_⟩, ?_⟩
  · rw [List.map_append, List.map_append]
  · simp only [List.append_assoc]

/-- What the reader of a number takes is the literal of a number. -/
theorem number?_sound {s ds rest : List UInt8} (h : number? s = some (ds, rest)) :
    IsNumber (ds.map character) ∧ s = ds ++ rest := by
  cases s with
  | nil => cases h
  | cons b r =>
    rw [number?] at h
    split at h
    · next hb =>
      simp only [Option.map_eq_some_iff, Prod.mk.injEq, Prod.exists] at h
      obtain ⟨ds, rest, h, rfl, rfl⟩ := h
      obtain ⟨⟨w, f, e, hw, hf, he, hds⟩, rfl⟩ := unsigned?_sound h
      subst hb
      refine ⟨⟨['-'], w, f, e, by simp, hw, hf, he, ?_⟩, rfl⟩
      rw [List.map_cons, hds]
      simp only [List.append_assoc, List.singleton_append]
      rfl
    · obtain ⟨⟨w, f, e, hw, hf, he, hds⟩, hs⟩ := unsigned?_sound h
      exact ⟨⟨[], w, f, e, by simp, hw, hf, he, hds⟩, hs⟩

/-! ## Documents -/

/-- The renderings of a token: the ways to write it, and for a string that is no text the literals
    that spell none. -/
def Token.Rendered (t : Token) (w : List UInt8) : Prop :=
  t.Written w ∨ t = .text none ∧ IsLiteral w ∧ ∀ s, ¬WritesText s w

/-- The renderings of tokens one after the other, with blanks anywhere between them. -/
inductive Rendered : List Token → List UInt8 → Prop where
  | nil {ws : List UInt8} (blank : ∀ b ∈ ws, isSpace b = true) : Rendered [] ws
  | cons {ws w s : List UInt8} {t : Token} {ts : List Token}
      (blank : ∀ b ∈ ws, isSpace b = true) (first : t.Rendered w) (rest : Rendered ts s) :
      Rendered (t :: ts) (ws ++ w ++ s)

/-- The well-formed documents that hold a value. -/
def Renders (v : Json) (s : List UInt8) : Prop := Rendered v.tokens s

namespace Token

/-- A token that is rendered is read, if nothing goes on with it; and it begins with no blank. -/
theorem first?_rendered {t : Token} {w : List UInt8} (h : t.Rendered w) {rest : List UInt8}
    (hrest : ∀ l, t = .number l → Stops rest) :
    first? (w ++ rest) = some (t, rest) ∧ ∃ b bs, w = b :: bs ∧ isSpace b = false := by
  rcases h with h | ⟨rfl, ⟨ps, ws, hps, rfl⟩, hno⟩
  · exact first?_written h hrest
  · have hcontent : content? ps = none := by
      rw [Option.eq_none_iff_forall_ne_some]
      exact fun s hs => hno s ((content?_eq_some_iff hps s).1 hs)
    have hfirst (r : List UInt8) : first? (octet '"' :: r) =
        (pieces? r).map fun (ps, rest) => (.text (content? ps), rest) := rfl
    refine ⟨?_, _, _, rfl, rfl⟩
    rw [List.cons_append, List.append_assoc, List.singleton_append, hfirst, pieces?_written hps,
      Option.map_some]
    simp only [hcontent]

/-- The literal of a string is a rendering of what it spells. -/
theorem rendered_literal {ps : List Piece} {ws : List (List UInt8)}
    (h : List.Forall₂ WritesPiece ps ws) :
    (text (content? ps)).Rendered (octet '"' :: (ws.flatten ++ [octet '"'])) := by
  cases hcontent : content? ps with
  | some s => exact .inl ⟨s, rfl, (content?_eq_some_iff h s).1 hcontent⟩
  | none =>
    refine .inr ⟨rfl, ⟨ps, ws, h, rfl⟩, fun s hs => ?_⟩
    rw [(content?_eq_some_iff h s).2 hs] at hcontent
    cases hcontent

theorem after?_sound {w : List Char} {s rest : List UInt8} (h : after? w s = some rest) :
    s = w.map octet ++ rest := by
  fun_induction after? w s with
  | case1 => cases h; rfl
  | case2 => cases h
  | case3 c w s ih => rw [ih h]; rfl
  | case4 => cases h

/-- A token is read from a rendering of it. -/
theorem first?_sound {s rest : List UInt8} {t : Token} (h : first? s = some (t, rest)) :
    ∃ w, t.Rendered w ∧ s = w ++ rest := by
  cases s with
  | nil => cases h
  | cons b r =>
    rw [first?] at h
    iterate 6
      split at h
      · next hb => subst hb; cases h; exact ⟨_, .inl rfl, rfl⟩
    split at h
    · next hb =>
      subst hb
      simp only [Option.map_eq_some_iff, Prod.mk.injEq, Prod.exists] at h
      obtain ⟨ps, rest, h, rfl, rfl⟩ := h
      obtain ⟨ws, hps, rfl⟩ := pieces?_sound h
      exact ⟨_, rendered_literal hps, by simp⟩
    iterate 3
      split at h
      · next hb =>
        subst hb
        simp only [Option.map_eq_some_iff, Prod.mk.injEq] at h
        obtain ⟨_, h, rfl, rfl⟩ := h
        exact ⟨_, .inl rfl, by rw [after?_sound h]; rfl⟩
    simp only [Option.map_eq_some_iff, Prod.mk.injEq, Prod.exists] at h
    obtain ⟨ds, rest, h, rfl, rfl⟩ := h
    obtain ⟨hnumber, hs⟩ := number?_sound h
    refine ⟨ds, .inl ⟨hnumber, ?_⟩, hs⟩
    rw [List.map_map]
    exact ((List.map_congr_left fun b _ => octet_character b).trans (List.map_id ds)).symm

/-- Nothing that can stand behind a value, and no blank, goes on with a number. -/
theorem stops_rendered {ts : List Token} {s : List UInt8} (h : Json.Rendered ts s)
    (hend : ∀ t ∈ ts.head?, t.IsEnd) : Stops s := by
  have hspace {b : UInt8} (hb : isSpace b = true) :
      isDigit b = false ∧ b ≠ octet '.' ∧ b ≠ octet 'e' ∧ b ≠ octet 'E' := by
    simp only [isSpace, Bool.or_eq_true, beq_iff_eq] at hb
    rcases hb with ((rfl | rfl) | rfl) | rfl <;> decide
  cases h with
  | nil blank =>
    intro b hb
    exact hspace (blank b (List.mem_of_mem_head? hb))
  | @cons ws w s t ts blank first rest =>
    cases ws with
    | cons b ws =>
      rintro b ⟨⟩
      exact hspace (blank b List.mem_cons_self)
    | nil =>
      have hend := hend t rfl
      have hwritten : t.Written w := by
        rcases first with first | ⟨rfl, -⟩
        · exact first
        · rcases hend with h | h | h <;> cases h
      rcases hend with rfl | rfl | rfl
      · obtain rfl : w = [octet ','] := hwritten
        rintro b ⟨⟩; decide
      · obtain rfl : w = [octet ']'] := hwritten
        rintro b ⟨⟩; decide
      · obtain rfl : w = [octet '\x7d'] := hwritten
        rintro b ⟨⟩; decide

theorem lex_nil {ws : List UInt8} (h : ∀ b ∈ ws, isSpace b = true) : lex ws = some [] := by
  have hblank : (ws.dropWhile isSpace).isEmpty = true := by
    rw [← List.append_nil ws, List.dropWhile_append_of_pos h]
    rfl
  rw [lex, if_pos hblank]

theorem lex_cons {s rest : List UInt8} {t : Token}
    (h : first? (s.dropWhile isSpace) = some (t, rest)) :
    lex s = (lex rest).map (t :: ·) := by
  have hne : ¬(s.dropWhile isSpace).isEmpty = true := by
    intro hempty
    rw [List.isEmpty_iff.1 hempty] at h
    cases h
  rw [lex, if_neg hne]
  split
  · next hnone => rw [h] at hnone; cases hnone
  · next hsome =>
    rw [h] at hsome
    cases hsome
    rfl

/-- Tokens that are rendered are read. -/
theorem lex_rendered {ts : List Token} {s : List UInt8} (h : Json.Rendered ts s)
    (hbeside : ts.IsChain Beside) : lex s = some ts := by
  induction h with
  | nil blank => exact lex_nil blank
  | @cons ws w s t ts blank first rest ih =>
    obtain ⟨hhead, htail⟩ := List.isChain_cons.1 hbeside
    -- what stands next to a number is the end of a value, so the number stops there
    have hstops : ∀ l, t = .number l → Stops s := by
      intro l hl
      exact stops_rendered rest fun u hu => hhead u hu l hl
    obtain ⟨hfirst, b, bs, rfl, hb⟩ := first?_rendered first hstops
    have hdrop : (ws ++ b :: bs ++ s).dropWhile isSpace = b :: bs ++ s := by
      rw [List.append_assoc, List.dropWhile_append_of_pos blank, List.cons_append,
        List.dropWhile_cons, hb]
      rfl
    rw [lex_cons (hdrop ▸ hfirst), ih htail]
    rfl

/-- Tokens are read from a rendering of them. -/
theorem lex_sound {s : List UInt8} {ts : List Token} (h : lex s = some ts) :
    Json.Rendered ts s := by
  have hblank (s : List UInt8) : ∀ b ∈ s.takeWhile isSpace, isSpace b = true :=
    List.all_eq_true.1 List.all_takeWhile
  fun_induction lex s generalizing ts with
  | case1 s hempty =>
    cases h
    have hs := List.takeWhile_append_dropWhile (p := isSpace) (l := s)
    rw [List.isEmpty_iff.1 hempty, List.append_nil] at hs
    exact .nil (hs ▸ hblank s)
  | case2 => cases h
  | case3 s _ t rest hfirst _ ih =>
    obtain ⟨ts, hts, rfl⟩ := Option.map_eq_some_iff.1 h
    obtain ⟨w, hw, hdrop⟩ := first?_sound hfirst
    have hs := List.takeWhile_append_dropWhile (p := isSpace) (l := s)
    rw [hdrop, ← List.append_assoc] at hs
    exact hs ▸ .cons (hblank s) hw (ih hts)

end Token

/-! ## Values are read -/

open Token

theorem beside_of_end {t u : Token} (h : u.IsEnd) : t.Beside u := fun _ _ => h

theorem beside_of_ne {t u : Token} (h : ∀ l, t ≠ .number l) : t.Beside u :=
  fun l hl => absurd hl (h l)

theorem head?_moreItems (vs : List Json) : ∀ t ∈ (moreItems vs).head?, t.IsEnd := by
  cases vs with
  | nil => rintro t ⟨⟩; exact .inr (.inl rfl)
  | cons v vs => rintro t ⟨⟩; exact .inl rfl

theorem head?_moreFields (fs : List (Option String × Json)) :
    ∀ t ∈ (moreFields fs).head?, t.IsEnd := by
  cases fs with
  | nil => rintro t ⟨⟩; exact .inr (.inr rfl)
  | cons f fs => rintro t ⟨⟩; exact .inl rfl

mutual

/-- In a value, a number is followed by what can stand behind a value. -/
theorem isChain_tokens (v : Json) : (tokens v).IsChain Beside := by
  match v with
  | .null => exact .singleton _
  | .bool b => exact .singleton _
  | .number l => exact .singleton _
  | .text t => exact .singleton _
  | .array [] => exact List.isChain_pair.2 (beside_of_ne fun _ => nofun)
  | .array (v :: vs) =>
    rw [tokens]
    refine List.isChain_cons.2 ⟨fun _ _ => beside_of_ne fun _ => nofun, ?_⟩
    exact List.isChain_append.2 ⟨isChain_tokens v, isChain_moreItems vs,
      fun _ _ u hu => beside_of_end (head?_moreItems vs u hu)⟩
  | .object [] => exact List.isChain_pair.2 (beside_of_ne fun _ => nofun)
  | .object ((k, v) :: fs) =>
    rw [tokens]
    refine List.isChain_cons.2 ⟨fun _ _ => beside_of_ne fun _ => nofun, ?_⟩
    refine List.isChain_cons.2 ⟨fun _ _ => beside_of_ne fun _ => nofun, ?_⟩
    refine List.isChain_cons.2 ⟨fun _ _ => beside_of_ne fun _ => nofun, ?_⟩
    exact List.isChain_append.2 ⟨isChain_tokens v, isChain_moreFields fs,
      fun _ _ u hu => beside_of_end (head?_moreFields fs u hu)⟩

theorem isChain_moreItems (vs : List Json) : (moreItems vs).IsChain Beside := by
  match vs with
  | [] => exact .singleton _
  | v :: vs =>
    rw [moreItems]
    refine List.isChain_cons.2 ⟨fun _ _ => beside_of_ne fun _ => nofun, ?_⟩
    exact List.isChain_append.2 ⟨isChain_tokens v, isChain_moreItems vs,
      fun _ _ u hu => beside_of_end (head?_moreItems vs u hu)⟩

theorem isChain_moreFields (fs : List (Option String × Json)) :
    (moreFields fs).IsChain Beside := by
  match fs with
  | [] => exact .singleton _
  | (k, v) :: fs =>
    rw [moreFields]
    refine List.isChain_cons.2 ⟨fun _ _ => beside_of_ne fun _ => nofun, ?_⟩
    refine List.isChain_cons.2 ⟨fun _ _ => beside_of_ne fun _ => nofun, ?_⟩
    refine List.isChain_cons.2 ⟨fun _ _ => beside_of_ne fun _ => nofun, ?_⟩
    exact List.isChain_append.2 ⟨isChain_tokens v, isChain_moreFields fs,
      fun _ _ u hu => beside_of_end (head?_moreFields fs u hu)⟩

end

/-- **The reader accepts the renderings of a value and nothing else.** -/
theorem ofBytes?_eq_some_iff {s : List UInt8} {v : Json} : ofBytes? s = some v ↔ v.Renders s := by
  constructor
  · intro h
    rw [ofBytes?, Option.bind_eq_some_iff] at h
    obtain ⟨ts, hts, hv⟩ := h
    exact Token.lex_sound (ofTokens?_eq_some_iff.1 hv ▸ hts)
  · intro h
    rw [ofBytes?, Token.lex_rendered h (isChain_tokens v), Option.bind_some, ofTokens?_tokens]

theorem rendered_of_written {ts : List Token} {s : List UInt8} (h : Written ts s) :
    Rendered ts s := by
  induction h with
  | nil blank => exact .nil blank
  | cons blank first _ ih => exact .cons blank (.inl first) ih

/-- Whatever spells a value is read as it. -/
theorem ofBytes?_of_spells {v : Json} {s : List UInt8} (h : v.Spells s) : ofBytes? s = some v :=
  ofBytes?_eq_some_iff.2 (rendered_of_written h)

end Json

end CloudRoster
