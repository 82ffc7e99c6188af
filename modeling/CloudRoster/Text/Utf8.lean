/-
  Texts as octets.

  `utf8 s` writes a text in UTF-8 and `ofUtf8? bs` reads it back, refusing octets that are not
  UTF-8 (a stray continuation, an overlong form, a surrogate, a value above U+10FFFF).  Reading
  accepts exactly what writing produces: `ofUtf8?_eq_some_iff`.
-/

namespace CloudRoster.Text

/-- The octets of `s` in UTF-8. -/
def utf8 (s : String) : List UInt8 := s.toUTF8.data.toList

/-- The text that the octets spell in UTF-8. -/
def ofUtf8? (bs : List UInt8) : Option String := String.fromUTF8? ⟨bs.toArray⟩

/-- The octet of an ASCII character. -/
def octet (c : Char) : UInt8 := UInt8.ofNat c.toNat

/-- An octet as the character of the same number. -/
def character (b : UInt8) : Char := Char.ofNat b.toNat

theorem ofUtf8?_utf8 (s : String) : ofUtf8? (utf8 s) = some s := by
  have h : (⟨(utf8 s).toArray⟩ : ByteArray) = s.toByteArray := by simp [utf8]
  rw [ofUtf8?, h, String.fromUTF8?, dif_pos s.isValidUTF8]
  rfl

theorem ofUtf8?_eq_some_iff {bs : List UInt8} {s : String} : ofUtf8? bs = some s ↔ bs = utf8 s := by
  constructor
  · intro h
    rw [ofUtf8?, String.fromUTF8?] at h
    split at h
    · cases h; rfl
    · cases h
  · rintro rfl
    exact ofUtf8?_utf8 s

/-! ## Characters -/

/-- A text is written character by character. -/
theorem utf8_eq_flatMap (s : String) : utf8 s = s.toList.flatMap String.utf8EncodeChar := by
  have h : s.toByteArray = (s.toList.flatMap String.utf8EncodeChar).toByteArray :=
    String.utf8Encode_toList.symm
  rw [utf8, String.toUTF8, h, List.data_toByteArray]

theorem utf8EncodeChar_of_ascii {c : Char} (h : c.toNat < 0x80) :
    String.utf8EncodeChar c = [octet c] := by
  have hle : c.val.toNat ≤ 0x7f := Nat.le_of_lt_succ h
  rw [String.utf8EncodeChar, if_pos hle]
  rfl

/-- Characters outside ASCII have no octet of ASCII. -/
theorem le_of_mem_utf8EncodeChar {c : Char} (h : 0x80 ≤ c.toNat) :
    ∀ b ∈ String.utf8EncodeChar c, 0x80 ≤ b := by
  have high {n : Nat} (hn : 0x80 ≤ n % 256) : 0x80 ≤ UInt8.ofNat n := by
    rw [UInt8.le_iff_toNat_le, UInt8.toNat_ofNat']
    exact hn
  have hv : 0x80 ≤ c.val.toNat := h
  rw [String.utf8EncodeChar]
  split
  · omega
  · split
    · simp only [List.mem_cons, List.not_mem_nil, or_false]
      rintro b (rfl | rfl) <;> exact high (by omega)
    · split
      · simp only [List.mem_cons, List.not_mem_nil, or_false]
        rintro b (rfl | rfl | rfl) <;> exact high (by omega)
      · simp only [List.mem_cons, List.not_mem_nil, or_false]
        rintro b (rfl | rfl | rfl | rfl) <;> exact high (by omega)

theorem character_octet {c : Char} (h : c.toNat < 0x100) : character (octet c) = c := by
  rw [character, octet, UInt8.toNat_ofNat', Nat.mod_eq_of_lt h, Char.ofNat_toNat]

theorem octet_ne {c d : Char} (hc : c.toNat < 0x100) (hd : d.toNat < 0x100) (h : c ≠ d) :
    octet c ≠ octet d := by
  intro he
  exact h (by rw [← character_octet hc, he, character_octet hd])

end CloudRoster.Text
