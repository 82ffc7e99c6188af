/-
  A form text is read back as the pairs that it was written from.

  One layer at a time: an octet in percent encoding (`decodeOctets_encodeOctet`), a character
  (`decodeOctets_encodeChar`), a name or value (`decodeText?_encodeText`), a pair
  (`decodePair?_encodePair`).  The signs between names, values and pairs are no code
  (`isCode_encodeText`), so cutting at them finds what was joined.

  **Headline** (`decode?_encode`): decoding undoes encoding, whatever characters names and values
  have.  Hence no two lists of pairs are written alike, and no value can hold a sign that ends it.
-/
import Mathlib.Data.List.Forall2
import CloudRoster.Http.Form
import CloudRoster.Proofs.Collect

namespace CloudRoster.Text

/-- Letters and digits are ASCII. -/
theorem lt_of_isAlphanum {c : Char} (h : c.isAlphanum = true) : c.toNat < 0x80 := by
  delta Char.isAlphanum Char.isAlpha Char.isUpper Char.isLower Char.isDigit at h
  simp only [Bool.or_eq_true, Bool.and_eq_true, decide_eq_true_eq, UInt32.le_iff_toNat_le,
    ge_iff_le] at h
  have hvalue : c.toNat = c.val.toNat := rfl
  have hZ : 'Z'.val.toNat = 90 := rfl
  have hz : 'z'.val.toNat = 122 := rfl
  have h9 : '9'.val.toNat = 57 := rfl
  omega

end CloudRoster.Text

namespace CloudRoster.Http

open Text

/-! ## Percent encoding -/

theorem digit?_hexDigit : ∀ n < 16, digit? 16 (hexDigit n) = some n := by decide

theorem hexDigit_ne_plus : ∀ n < 16, hexDigit n ≠ '+' := by decide

theorem decodeOctets_encodeOctet (b : UInt8) (cs : List Char) :
    decodeOctets (encodeOctet b ++ cs) = b :: decodeOctets cs := by
  have hb : b.toNat < 256 := b.toNat_lt
  have hhigh : digit? 16 (hexDigit (b.toNat / 16)) = some (b.toNat / 16) :=
    digit?_hexDigit _ (by omega)
  have hlow : digit? 16 (hexDigit (b.toNat % 16)) = some (b.toNat % 16) :=
    digit?_hexDigit _ (by omega)
  have hvalue : UInt8.ofNat (b.toNat / 16 * 16 + b.toNat % 16) = b := by
    rw [Nat.div_add_mod', UInt8.ofNat_toNat]
  simp only [encodeOctet, List.cons_append, List.nil_append, decodeOctets, hhigh, hlow, hvalue]

theorem decodeOctets_encodeOctets (bs : List UInt8) (cs : List Char) :
    decodeOctets (bs.flatMap encodeOctet ++ cs) = bs ++ decodeOctets cs := by
  induction bs with
  | nil => rfl
  | cons b bs ih =>
    rw [List.flatMap_cons, List.append_assoc, decodeOctets_encodeOctet, ih, List.cons_append]

/-- Any other character stands for its own octets. -/
theorem decodeOctets_cons {c : Char} (h : c ≠ '%') (cs : List Char) :
    decodeOctets (c :: cs) = String.utf8EncodeChar c ++ decodeOctets cs := by
  rw [decodeOctets.eq_def]
  split
  · next heq => cases heq
  · next heq => exact absurd (List.cons.inj heq).1 h
  · next heq =>
    obtain ⟨rfl, rfl⟩ := List.cons.inj heq
    rfl

namespace Form

/-! ## Names and values -/

/-- A plus sign stands for a space. -/
def spaced (c : Char) : Char := if c = '+' then ' ' else c

theorem map_spaced_encodeOctets (bs : List UInt8) :
    (bs.flatMap encodeOctet).map spaced = bs.flatMap encodeOctet := by
  have hkept : ∀ c ∈ bs.flatMap encodeOctet, spaced c = id c := by
    intro c hc
    obtain ⟨b, -, hc⟩ := List.mem_flatMap.1 hc
    have hb : b.toNat < 256 := b.toNat_lt
    have hne : c ≠ '+' := by
      simp only [encodeOctet, List.mem_cons, List.not_mem_nil, or_false] at hc
      rcases hc with rfl | rfl | rfl
      · decide
      · exact hexDigit_ne_plus _ (by omega)
      · exact hexDigit_ne_plus _ (by omega)
    exact if_neg hne
  rw [List.map_congr_left hkept, List.map_id]

theorem ne_of_isPlain {c d : Char} (h : isPlain c = true) (hd : isPlain d = false) : c ≠ d := by
  rintro rfl
  rw [hd] at h
  cases h

theorem decodeOctets_encodeChar (c : Char) (cs : List Char) :
    decodeOctets ((encodeChar c).map spaced ++ cs) =
      String.utf8EncodeChar c ++ decodeOctets cs := by
  unfold encodeChar
  split
  · next hspace =>
    subst hspace
    exact decodeOctets_cons (by decide) cs
  · unfold Http.encodeChar
    split
    · next hplain =>
      have hc : isPlain c = true := by simpa using hplain.2
      have hspaced : spaced c = c := if_neg (ne_of_isPlain hc (by decide))
      rw [List.map_singleton, hspaced]
      exact decodeOctets_cons (ne_of_isPlain hc (by decide)) cs
    · rw [map_spaced_encodeOctets, decodeOctets_encodeOctets]

theorem decodeOctets_encodeText (s : String) :
    decodeOctets ((encodeText s).map spaced) = utf8 s := by
  rw [utf8_eq_flatMap, encodeText]
  induction s.toList with
  | nil => rfl
  | cons c cs ih =>
    rw [List.flatMap_cons, List.flatMap_cons, List.map_append, decodeOctets_encodeChar, ih]

theorem decodeText?_encodeText (s : String) : decodeText? (encodeText s) = some s := by
  have h : decodeText? (encodeText s) = ofUtf8? (decodeOctets ((encodeText s).map spaced)) := rfl
  rw [h, decodeOctets_encodeText, ofUtf8?_utf8]

/-! ## Pairs -/

theorem notMem_encodeText {c : Char} (h : isCode c = false) (s : String) : c ∉ encodeText s := by
  intro hc
  have hcode := isCode_encodeText s c hc
  rw [h] at hcode
  cases hcode

theorem decodePair?_encodePair (p : String × String) : decodePair? (encodePair p) = some p := by
  have hcut : cut '=' (encodePair p) = (encodeText p.1, some (encodeText p.2)) :=
    cut_append (notMem_encodeText (by decide) p.1) _
  rw [decodePair?, hcut]
  simp only [Option.getD_some, decodeText?_encodeText]
  rfl

theorem notMem_encodePair {c : Char} (h : isCode c = false) (hne : c ≠ '=')
    (p : String × String) : c ∉ encodePair p := by
  intro hc
  rcases List.mem_append.1 hc with hc | hc
  · exact notMem_encodeText h p.1 hc
  · rcases List.mem_cons.1 hc with hc | hc
    · exact hne hc
    · exact notMem_encodeText h p.2 hc

/-- What a form text is made of: code, and the signs between names, values and pairs. -/
theorem notMem_encode {c : Char} (h : isCode c = false) (hne : c ≠ '=') (hne' : c ≠ '&')
    (ps : List (String × String)) : c ∉ encode ps := by
  intro hc
  rcases mem_joined hc with hc | ⟨q, hq, hc⟩
  · exact hne' hc
  · obtain ⟨p, -, rfl⟩ := List.mem_map.1 hq
    exact notMem_encodePair h hne p hc

theorem lt_of_isCode {c : Char} (h : isCode c = true) : c.toNat < 0x80 := by
  simp only [isCode, isPlain, Bool.or_eq_true, beq_iff_eq, List.contains_eq_mem,
    decide_eq_true_eq, List.mem_cons, List.not_mem_nil, or_false] at h
  rcases h with ((h | h) | rfl) | rfl
  · exact lt_of_isAlphanum h
  · rcases h with rfl | rfl | rfl | rfl <;> decide
  · decide
  · decide

theorem encode_ascii (ps : List (String × String)) : ∀ c ∈ encode ps, c.toNat < 0x80 := by
  intro c hc
  by_contra hge
  refine notMem_encode (c := c) ?_ ?_ ?_ ps hc
  · by_contra hcode
    exact hge (lt_of_isCode (by simpa using hcode))
  · rintro rfl
    exact hge (by decide)
  · rintro rfl
    exact hge (by decide)

/-! ## Headline -/

theorem encode_ne_nil {p : String × String} {ps : List (String × String)} :
    encode (p :: ps) ≠ [] := by
  intro h
  have hlength : (encodePair p).length ≤ (encode (p :: ps)).length :=
    length_le_joined (List.mem_map_of_mem List.mem_cons_self)
  rw [h, encodePair, List.length_append, List.length_cons] at hlength
  simp at hlength

/-- **Decoding undoes encoding.** -/
theorem decode?_encode (ps : List (String × String)) : decode? (encode ps) = some ps := by
  cases ps with
  | nil => rfl
  | cons p ps =>
    have hempty : ¬(encode (p :: ps)).isEmpty = true := fun h =>
      encode_ne_nil (List.isEmpty_iff.1 h)
    have hpieces : pieces '&' (encode (p :: ps)) = (p :: ps).map encodePair := by
      refine pieces_joined (by simp) fun q hq => ?_
      obtain ⟨p', -, rfl⟩ := List.mem_map.1 hq
      exact notMem_encodePair (by decide) (by decide) p'
    rw [decode?, if_neg hempty, hpieces, mapM_eq_some_iff, List.forall₂_map_left_iff,
      List.forall₂_same]
    exact fun p' _ => decodePair?_encodePair p'

end Form

end CloudRoster.Http
