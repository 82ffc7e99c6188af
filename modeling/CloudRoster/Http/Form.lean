/-
  Form encoding: lists of name and value as the text of a query.

  Letters, digits and the four characters `*-._` stand for themselves, a space is written as a plus
  sign and every other octet in percent encoding; an equals sign stands between name and value and
  an ampersand between pairs.  `decode` reads such a text back: it cuts at ampersands, each piece at
  its first equals sign, turns plus signs into spaces and undoes the percent encoding.
-/
import CloudRoster.Http.Percent
import CloudRoster.Text.Pieces

namespace CloudRoster.Http.Form

open Text

/-- The characters that stand for themselves. -/
def isPlain (c : Char) : Bool := c.isAlphanum || ['*', '-', '.', '_'].contains c

/-- One character of a name or value. -/
def encodeChar (c : Char) : List Char :=
  if c = ' ' then ['+'] else Http.encodeChar (fun c => !isPlain c) c

/-- A name or value. -/
def encodeText (s : String) : List Char := s.toList.flatMap encodeChar

/-- A name and its value. -/
def encodePair (p : String × String) : List Char := encodeText p.1 ++ '=' :: encodeText p.2

/-- The text of a list of pairs. -/
def encode (ps : List (String × String)) : List Char := joined '&' (ps.map encodePair)

/-- The text that a name or value spells, if its octets are UTF-8. -/
def decodeText? (cs : List Char) : Option String :=
  ofUtf8? (decodeOctets (cs.map fun c => if c = '+' then ' ' else c))

/-- The name and value that a piece spells; without an equals sign the value is empty. -/
def decodePair? (cs : List Char) : Option (String × String) := do
  let (name, value) := cut '=' cs
  return (← decodeText? name, ← decodeText? (value.getD []))

/-- The pairs that a text spells. -/
def decode? (cs : List Char) : Option (List (String × String)) :=
  if cs.isEmpty then some [] else (pieces '&' cs).mapM decodePair?

/-! ## What encoding writes -/

/-- The characters that the code of a name or value consists of. -/
def isCode (c : Char) : Bool := isPlain c || c == '+' || c == '%'

theorem isCode_encodeOctet (b : UInt8) : ∀ c ∈ encodeOctet b, isCode c = true := by
  have digits : ∀ n < 16, isCode (hexDigit n) = true := by decide
  have hb : b.toNat < 256 := b.toNat_lt
  simp only [encodeOctet, List.mem_cons, List.not_mem_nil, or_false]
  rintro c (rfl | rfl | rfl)
  · decide
  · exact digits _ (by omega)
  · exact digits _ (by omega)

theorem isCode_encodeText (s : String) : ∀ c ∈ encodeText s, isCode c = true := by
  intro c h
  simp only [encodeText, List.mem_flatMap] at h
  obtain ⟨x, _, h⟩ := h
  rw [encodeChar] at h
  split at h
  · rw [List.mem_singleton.1 h]; decide
  · rw [Http.encodeChar] at h
    split at h
    · next hx =>
      rw [List.mem_singleton.1 h]
      simp only [isCode, Bool.or_eq_true]
      exact Or.inl (Or.inl (by simpa using hx.2))
    · simp only [List.mem_flatMap] at h
      obtain ⟨b, _, h⟩ := h
      exact isCode_encodeOctet b c h

end CloudRoster.Http.Form
