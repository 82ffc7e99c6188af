/-
  Every way to write the tokens of JSON is read as those tokens.

  The grammar of JSON leaves its writer free in three places: blanks between tokens, the ways to
  write a character of a string, and the spelling of a number.  It is set out here from the writer's
  side, so that nothing of the reader is in it.

  1. **Characters** - `WritesChar c w`: a character stands for itself, behind a backslash by a
     letter, or by the digits of its one or two sixteen-bit units.
  2. **Numbers** - `IsNumber l`: sign, whole part, fraction, exponent.
  3. **Tokens and documents** - `Token.Written t w`, `Written ts s` with blanks between any two, and
     `Json.Spells v s` for a document `s` that holds the value `v`.

  One thing has to be seen.  Two escapes in a row may be one character, so a character's escapes
  must not be taken for half of a pair: the halves are no characters (`not_isSurrogate`).

  **Headline** (`Token.first?_written`): whatever writes a token is read as it, as long as nothing
  stands behind a number that goes on with it.  And there is always something to read: `Json.write`
  writes every value whose strings are texts (`spells_write`).
-/
import Mathlib.Data.List.Forall2
import CloudRoster.Json.Value

namespace CloudRoster

open Text

namespace Json

/-! ## Characters of a string -/

/-- The letters that stand for a character behind a backslash. -/
def letters : List (Char × Char) :=
  [('"', '"'), ('\\', '\\'), ('/', '/'), ('b', '\x08'), ('f', '\x0C'), ('n', '\n'), ('r', '\r'),
    ('t', '\t')]

/-- Four hexadecimal digits behind a backslash and the letter `u`. -/
def WritesUnit (u : Nat) (w : List UInt8) : Prop :=
  ∃ a b c d, natural? 16 [a, b, c, d] = some u ∧ w = ['\\', 'u', a, b, c, d].map octet

/-- The ways to write a character of a string. -/
inductive WritesChar : Char → List UInt8 → Prop where
  | itself {c : Char} (printable : 0x20 ≤ c.toNat) (noQuote : c ≠ '"') (noBackslash : c ≠ '\\') :
      WritesChar c (String.utf8EncodeChar c)
  | letter {l c : Char} (h : (l, c) ∈ letters) : WritesChar c [octet '\\', octet l]
  | unit {c : Char} {w : List UInt8} (h : WritesUnit c.toNat w) : WritesChar c w
  | pair {c : Char} {high low : Nat} {v w : List UInt8} (hhigh : 0xD800 ≤ high ∧ high < 0xDC00)
      (hlow : 0xDC00 ≤ low ∧ low < 0xE000)
      (hc : c.toNat = 0x10000 + (high - 0xD800) * 0x400 + (low - 0xDC00))
      (hv : WritesUnit high v) (hw : WritesUnit low w) : WritesChar c (v ++ w)

/-- The ways to write a string: its characters between quotation marks. -/
def WritesText (s : String) (w : List UInt8) : Prop :=
  ∃ ws, List.Forall₂ WritesChar s.toList ws ∧ w = octet '"' :: (ws.flatten ++ [octet '"'])

/-! ## Numbers -/

/-- One digit or more. -/
def AreDigits (cs : List Char) : Prop := cs ≠ [] ∧ ∀ c ∈ cs, c.isDigit = true

/-- A whole number without leading zeros. -/
def IsWhole (cs : List Char) : Prop := cs = ['0'] ∨ AreDigits cs ∧ cs.head? ≠ some '0'

/-- A point and digits, or nothing. -/
def IsFraction (cs : List Char) : Prop := cs = [] ∨ ∃ ds, AreDigits ds ∧ cs = '.' :: ds

/-- A power of ten, or nothing. -/
def IsExponent (cs : List Char) : Prop :=
  cs = [] ∨ ∃ e sign ds, e ∈ ['e', 'E'] ∧ sign ∈ [[], ['+'], ['-']] ∧ AreDigits ds ∧
    cs = e :: (sign ++ ds)

/-- The literals of numbers. -/
def IsNumber (cs : List Char) : Prop :=
  ∃ sign whole fraction exponent, sign ∈ [[], ['-']] ∧ IsWhole whole ∧ IsFraction fraction ∧
    IsExponent exponent ∧ cs = sign ++ whole ++ fraction ++ exponent

/-! ## Tokens and documents -/

/-- The ways to write a token. -/
def Token.Written : Token → List UInt8 → Prop
  | .beginObject, w => w = [octet '\x7b']
  | .endObject, w => w = [octet '\x7d']
  | .beginArray, w => w = [octet '[']
  | .endArray, w => w = [octet ']']
  | .colon, w => w = [octet ':']
  | .comma, w => w = [octet ',']
  | .null, w => w = ['n', 'u', 'l', 'l'].map octet
  | .bool true, w => w = ['t', 'r', 'u', 'e'].map octet
  | .bool false, w => w = ['f', 'a', 'l', 's', 'e'].map octet
  | .number l, w => IsNumber l ∧ w = l.map octet
  | .text t, w => ∃ s, t = some s ∧ WritesText s w

/-- The ways to write tokens one after the other, with blanks anywhere between them. -/
inductive Written : List Token → List UInt8 → Prop where
  | nil {ws : List UInt8} (blank : ∀ b ∈ ws, isSpace b = true) : Written [] ws
  | cons {ws w s : List UInt8} {t : Token} {ts : List Token}
      (blank : ∀ b ∈ ws, isSpace b = true) (first : t.Written w) (rest : Written ts s) :
      Written (t :: ts) (ws ++ w ++ s)

/-- The documents that hold a value. -/
def Spells (v : Json) (s : List UInt8) : Prop := Written v.tokens s

/-! ## Strings are read -/

/-- The reader finds the pieces `ps` in `w`, whatever follows, and `ps` spell `bs`, whatever pieces
    follow. -/
def ReadsAs (w : List UInt8) (ps : List Piece) (bs : List UInt8) : Prop :=
  (∀ rest, pieces? (w ++ rest) = (pieces? rest).map fun (qs, r) => (ps ++ qs, r)) ∧
    ∀ qs, spelled? (ps ++ qs) = (spelled? qs).map (bs ++ ·)

theorem ReadsAs.append {v w : List UInt8} {ps qs : List Piece} {bs cs : List UInt8}
    (hv : ReadsAs v ps bs) (hw : ReadsAs w qs cs) : ReadsAs (v ++ w) (ps ++ qs) (bs ++ cs) := by
  constructor
  · intro rest
    rw [List.append_assoc, hv.1, hw.1, Option.map_map]
    refine congrArg (Option.map · _) (funext fun x => ?_)
    simp
  · intro rs
    rw [List.append_assoc, hv.2, hw.2, Option.map_map]
    refine congrArg (Option.map · _) (funext fun x => ?_)
    simp

theorem readsAs_nil : ReadsAs [] [] [] := by
  constructor
  · intro rest
    cases h : pieces? rest <;> simp [h]
  · intro qs
    cases h : spelled? qs <;> simp [h]

/-- An octet that is no sign of the string's own stands for itself. -/
theorem readsAs_octet {b : UInt8} (hquote : b ≠ octet '"') (hslash : b ≠ octet '\\')
    (hlow : ¬b < 0x20) : ReadsAs [b] [.octet b] [b] := by
  refine ⟨fun rest => ?_, fun qs => rfl⟩
  rw [List.singleton_append, pieces?.eq_def]
  simp only [if_neg hquote, if_neg hslash, if_neg hlow]
  rfl

theorem readsAs_octets {bs : List UInt8}
    (h : ∀ b ∈ bs, b ≠ octet '"' ∧ b ≠ octet '\\' ∧ ¬b < 0x20) :
    ReadsAs bs (bs.map .octet) bs := by
  induction bs with
  | nil => exact readsAs_nil
  | cons b bs ih =>
    obtain ⟨hquote, hslash, hlow⟩ := h b List.mem_cons_self
    exact (readsAs_octet hquote hslash hlow).append
      (ih fun b hb => h b (List.mem_cons_of_mem _ hb))

theorem readsAs_letter {l c : Char} (h : (l, c) ∈ letters) :
    ReadsAs [octet '\\', octet l] [.octet (octet c)] (String.utf8EncodeChar c) := by
  have hletter : octet l ≠ octet 'u' ∧ escaped? (octet l) = some (octet c) ∧ c.toNat < 0x80 := by
    revert h
    simp only [letters, List.mem_cons, List.not_mem_nil, or_false, Prod.mk.injEq]
    rintro (⟨rfl, rfl⟩ | ⟨rfl, rfl⟩ | ⟨rfl, rfl⟩ | ⟨rfl, rfl⟩ | ⟨rfl, rfl⟩ | ⟨rfl, rfl⟩ |
      ⟨rfl, rfl⟩ | ⟨rfl, rfl⟩) <;> decide
  obtain ⟨hu, hescaped, hascii⟩ := hletter
  constructor
  · intro rest
    have hslash : octet '\\' ≠ octet '"' := by decide
    simp only [List.cons_append, List.nil_append]
    rw [pieces?.eq_def]
    simp only [if_neg hslash, if_true, if_neg hu, hescaped, Option.bind_some]
  · intro qs
    rw [utf8EncodeChar_of_ascii hascii]
    rfl

/-- The reader finds a unit in its digits. -/
theorem pieces?_unit {u : Nat} {w : List UInt8} (h : WritesUnit u w) (rest : List UInt8) :
    pieces? (w ++ rest) = (pieces? rest).map fun (qs, r) => (.unit u :: qs, r) := by
  obtain ⟨a, b, c, d, hu, rfl⟩ := h
  have hdigit : ∀ x ∈ [a, b, c, d], character (octet x) = x := fun x hx =>
    character_octet (Nat.lt_trans (lt_of_digit? ((digits_of_natural? hu).2 x hx)) (by decide))
  have hunit : unit? (octet a) (octet b) (octet c) (octet d) = some u := by
    rw [unit?, hdigit a (by simp), hdigit b (by simp), hdigit c (by simp), hdigit d (by simp), hu]
  simp only [List.map_cons, List.map_nil, List.cons_append, List.nil_append]
  rw [pieces?, if_neg (by decide), if_pos rfl]
  simp only [if_true, hunit, Option.bind_some]

/-- A character's number is no half of a pair. -/
theorem not_isSurrogate (c : Char) :
    isHighSurrogate c.toNat = false ∧ isLowSurrogate c.toNat = false := by
  have hvalid : c.toNat < 0xD800 ∨ 0xDFFF < c.toNat ∧ c.toNat < 0x110000 := c.valid
  simp only [isHighSurrogate, isLowSurrogate, Bool.and_eq_false_iff, decide_eq_false_iff_not]
  omega

theorem readsAs_unit {c : Char} {w : List UInt8} (h : WritesUnit c.toNat w) :
    ReadsAs w [.unit c.toNat] (String.utf8EncodeChar c) := by
  refine ⟨pieces?_unit h, fun qs => ?_⟩
  obtain ⟨hhigh, hlow⟩ := not_isSurrogate c
  rw [List.singleton_append, spelled?.eq_def]
  simp only [hhigh, hlow, Bool.false_eq_true, if_false, Char.ofNat_toNat]

theorem readsAs_pair {c : Char} {high low : Nat} {v w : List UInt8}
    (hhigh : 0xD800 ≤ high ∧ high < 0xDC00) (hlow : 0xDC00 ≤ low ∧ low < 0xE000)
    (hc : c.toNat = 0x10000 + (high - 0xD800) * 0x400 + (low - 0xDC00))
    (hv : WritesUnit high v) (hw : WritesUnit low w) :
    ReadsAs (v ++ w) [.unit high, .unit low] (String.utf8EncodeChar c) := by
  constructor
  · intro rest
    rw [List.append_assoc, pieces?_unit hv, pieces?_unit hw, Option.map_map]
    rfl
  · intro qs
    have hfirst : isHighSurrogate high = true := by simp [isHighSurrogate, hhigh]
    have hsecond : isLowSurrogate low = true := by simp [isLowSurrogate, hlow]
    have hpair : pairCharacter high low = c := by
      rw [pairCharacter, ← hc, Char.ofNat_toNat]
    simp only [List.cons_append, List.nil_append]
    rw [spelled?, if_pos hfirst]
    simp only [hsecond, if_true, hpair]

/-- A character that is written is read, whatever way it is written. -/
theorem WritesChar.readsAs {c : Char} {w : List UInt8} (h : WritesChar c w) :
    ∃ ps, ReadsAs w ps (String.utf8EncodeChar c) := by
  cases h with
  | itself printable noQuote noBackslash =>
    refine ⟨_, readsAs_octets fun b hb => ?_⟩
    by_cases hc : c.toNat < 0x80
    · rw [utf8EncodeChar_of_ascii hc, List.mem_singleton] at hb
      subst hb
      have hchar := character_octet (c := c) (by omega)
      refine ⟨fun he => noQuote ?_, fun he => noBackslash ?_, fun hlt => ?_⟩
      · rw [← hchar, he]; rfl
      · rw [← hchar, he]; rfl
      · have hlt := UInt8.lt_iff_toNat_lt.1 hlt
        rw [octet, UInt8.toNat_ofNat'] at hlt
        have : (0x20 : UInt8).toNat = 0x20 := rfl
        omega
    · have hle := UInt8.le_iff_toNat_le.1 (le_of_mem_utf8EncodeChar (Nat.not_lt.1 hc) b hb)
      refine ⟨?_, ?_, fun hlt => ?_⟩
      · rintro rfl
        exact absurd hle (by decide)
      · rintro rfl
        exact absurd hle (by decide)
      · have hlt := UInt8.lt_iff_toNat_lt.1 hlt
        have : (0x20 : UInt8).toNat = 0x20 := rfl
        have : (0x80 : UInt8).toNat = 0x80 := rfl
        omega
  | letter h => exact ⟨_, readsAs_letter h⟩
  | unit h => exact ⟨_, readsAs_unit h⟩
  | pair hhigh hlow hc hv hw => exact ⟨_, readsAs_pair hhigh hlow hc hv hw⟩

theorem readsAs_of_forall₂ {cs : List Char} {ws : List (List UInt8)}
    (h : List.Forall₂ WritesChar cs ws) :
    ∃ ps, ReadsAs ws.flatten ps (cs.flatMap String.utf8EncodeChar) := by
  induction h with
  | nil => exact ⟨[], readsAs_nil⟩
  | cons hc _ ih =>
    obtain ⟨ps, hps⟩ := hc.readsAs
    obtain ⟨qs, hqs⟩ := ih
    exact ⟨ps ++ qs, hps.append hqs⟩

/-- A string that is written is read. -/
theorem pieces?_of_writesText {s : String} {w : List UInt8} (h : WritesText s w) :
    ∃ v, w = octet '"' :: v ∧
      ∀ rest, ∃ ps, pieces? (v ++ rest) = some (ps, rest) ∧ content? ps = some s := by
  obtain ⟨ws, hws, rfl⟩ := h
  obtain ⟨ps, hpieces, hspelled⟩ := readsAs_of_forall₂ hws
  refine ⟨_, rfl, fun rest => ⟨ps, ?_, ?_⟩⟩
  · have hend : pieces? (octet '"' :: rest) = some ([], rest) := by
      rw [pieces?.eq_def]
      simp only [if_true]
    rw [List.append_assoc, hpieces, List.singleton_append, hend, Option.map_some]
    simp only [List.append_nil]
  · have hall := hspelled []
    rw [List.append_nil, spelled?, Option.map_some, List.append_nil] at hall
    rw [content?, hall, Option.bind_some, ← utf8_eq_flatMap]
    exact ofUtf8?_utf8 s

/-! ## Numbers are read -/

/-- No digit stands next. -/
def NoDigit (rest : List UInt8) : Prop := ∀ b ∈ rest.head?, isDigit b = false

/-- Nothing stands next that would go on with a number. -/
def Stops (rest : List UInt8) : Prop :=
  ∀ b ∈ rest.head?, isDigit b = false ∧ b ≠ octet '.' ∧ b ≠ octet 'e' ∧ b ≠ octet 'E'

theorem isDigit_octet {c : Char} (h : c.isDigit = true) : isDigit (octet c) = true := by
  have hc := Char.isDigit_iff_toNat.1 h
  have hlow : '0'.toNat = 48 := rfl
  have hhigh : '9'.toNat = 57 := rfl
  rw [isDigit, octet, octet, octet, Bool.and_eq_true, decide_eq_true_eq, decide_eq_true_eq,
    UInt8.le_iff_toNat_le, UInt8.le_iff_toNat_le]
  simp only [UInt8.toNat_ofNat', hlow, hhigh]
  omega

theorem digits?_written {ds : List Char} (h : AreDigits ds) {rest : List UInt8}
    (hrest : NoDigit rest) : digits? (ds.map octet ++ rest) = some (ds.map octet, rest) := by
  have hall : ∀ b ∈ ds.map octet, isDigit b = true := by
    intro b hb
    obtain ⟨c, hc, rfl⟩ := List.mem_map.1 hb
    exact isDigit_octet (h.2 c hc)
  have hstop : rest.takeWhile isDigit = [] ∧ rest.dropWhile isDigit = rest := by
    cases rest with
    | nil => exact ⟨rfl, rfl⟩
    | cons b rest =>
      have hb : isDigit b = false := hrest b rfl
      rw [List.takeWhile_cons, List.dropWhile_cons, hb]
      exact ⟨rfl, rfl⟩
  have hne : (ds.map octet).isEmpty = false := by simpa using h.1
  rw [digits?, List.takeWhile_append_of_pos hall, List.dropWhile_append_of_pos hall, hstop.1,
    hstop.2, List.append_nil, if_neg (by rw [hne]; exact Bool.false_ne_true)]

theorem lt_of_isDigit {c : Char} (h : c.isDigit = true) : c.toNat < 0x100 := by
  have := (Char.isDigit_iff_toNat.1 h).2
  have : '9'.toNat = 57 := rfl
  omega

theorem whole?_written {ws : List Char} (h : IsWhole ws) {rest : List UInt8}
    (hrest : NoDigit rest) : whole? (ws.map octet ++ rest) = some (ws.map octet, rest) := by
  rcases h with rfl | ⟨hdigits, hzero⟩
  · rfl
  · obtain ⟨c, cs, rfl⟩ := List.exists_cons_of_ne_nil hdigits.1
    have hc : octet c ≠ octet '0' :=
      octet_ne (lt_of_isDigit (hdigits.2 c List.mem_cons_self)) (by decide)
        fun he => hzero (he ▸ rfl)
    rw [List.map_cons, List.cons_append, whole?, if_neg hc]
    exact digits?_written hdigits hrest

theorem fraction?_written {fs : List Char} (h : IsFraction fs) {rest : List UInt8}
    (hrest : ∀ b ∈ rest.head?, isDigit b = false ∧ b ≠ octet '.') :
    fraction? (fs.map octet ++ rest) = some (fs.map octet, rest) := by
  rcases h with rfl | ⟨ds, hds, rfl⟩
  · cases rest with
    | nil => rfl
    | cons b rest =>
      rw [List.map_nil, List.nil_append, fraction?, if_neg (hrest b rfl).2]
  · rw [List.map_cons, List.cons_append, fraction?, if_pos rfl,
      digits?_written hds fun b hb => (hrest b hb).1]
    rfl

theorem exponent?_written {es : List Char} (h : IsExponent es) {rest : List UInt8}
    (hrest : Stops rest) : exponent? (es.map octet ++ rest) = some (es.map octet, rest) := by
  rcases h with rfl | ⟨e, sign, ds, he, hsign, hds, rfl⟩
  · cases rest with
    | nil => rfl
    | cons b rest =>
      have hb := hrest b rfl
      rw [List.map_nil, List.nil_append, exponent?, if_neg (not_or.2 hb.2.2)]
  · have hletter : octet e = octet 'e' ∨ octet e = octet 'E' := by
      rcases List.mem_cons.1 he with rfl | he
      · exact .inl rfl
      · exact .inr (congrArg octet (List.mem_singleton.1 he))
    have hdigits := digits?_written hds fun b hb => (hrest b hb).1
    have hsigned : signedDigits? ((sign ++ ds).map octet ++ rest) =
        some ((sign ++ ds).map octet, rest) := by
      simp only [List.mem_cons, List.not_mem_nil, or_false] at hsign
      rcases hsign with rfl | rfl | rfl
      · obtain ⟨c, cs, rfl⟩ := List.exists_cons_of_ne_nil hds.1
        have hc := hds.2 c List.mem_cons_self
        have hplus : octet c ≠ octet '+' :=
          octet_ne (lt_of_isDigit hc) (by decide) (by rintro rfl; exact absurd hc (by decide))
        have hminus : octet c ≠ octet '-' :=
          octet_ne (lt_of_isDigit hc) (by decide) (by rintro rfl; exact absurd hc (by decide))
        rw [List.nil_append, List.map_cons, List.cons_append, signedDigits?,
          if_neg (not_or.2 ⟨hplus, hminus⟩)]
        exact hdigits
      · rw [List.map_append, List.append_assoc, List.map_singleton, List.singleton_append,
          signedDigits?, if_pos (.inl rfl), hdigits]
        rfl
      · rw [List.map_append, List.append_assoc, List.map_singleton, List.singleton_append,
          signedDigits?, if_pos (.inr rfl), hdigits]
        rfl
    rw [List.map_cons, List.cons_append, exponent?, if_pos hletter, hsigned]
    rfl

/-- Neither digits nor a fraction go on with an exponent. -/
theorem head?_exponent {es : List Char} (h : IsExponent es) {rest : List UInt8}
    (hrest : Stops rest) :
    ∀ b ∈ (es.map octet ++ rest).head?, isDigit b = false ∧ b ≠ octet '.' := by
  rcases h with rfl | ⟨e, sign, ds, he, -, -, rfl⟩
  · intro b hb
    exact ⟨(hrest b hb).1, (hrest b hb).2.1⟩
  · rintro b ⟨⟩
    simp only [List.mem_cons, List.not_mem_nil, or_false] at he
    rcases he with rfl | rfl <;> decide

/-- No digits go on with a fraction. -/
theorem head?_fraction {fs : List Char} (h : IsFraction fs) {rest : List UInt8}
    (hrest : NoDigit rest) : NoDigit (fs.map octet ++ rest) := by
  rcases h with rfl | ⟨ds, -, rfl⟩
  · exact hrest
  · rintro b ⟨⟩
    decide

theorem unsigned?_written {ws fs es : List Char} (hw : IsWhole ws) (hf : IsFraction fs)
    (he : IsExponent es) {rest : List UInt8} (hrest : Stops rest) :
    unsigned? ((ws ++ fs ++ es).map octet ++ rest) = some ((ws ++ fs ++ es).map octet, rest) := by
  have hexponent := head?_exponent he hrest
  have hfraction : NoDigit (fs.map octet ++ (es.map octet ++ rest)) :=
    head?_fraction hf fun b hb => (hexponent b hb).1
  simp only [unsigned?, List.map_append, List.append_assoc, whole?_written hw hfraction,
    fraction?_written hf hexponent, exponent?_written he hrest, Option.bind_eq_bind,
    Option.bind_some, Option.pure_def]

/-- A number that is written is read, if nothing goes on with it. -/
theorem number?_written {l : List Char} (h : IsNumber l) {rest : List UInt8} (hrest : Stops rest) :
    number? (l.map octet ++ rest) = some (l.map octet, rest) := by
  obtain ⟨sign, ws, fs, es, hsign, hw, hf, he, rfl⟩ := h
  have hunsigned := unsigned?_written hw hf he hrest
  simp only [List.mem_cons, List.not_mem_nil, or_false] at hsign
  rcases hsign with rfl | rfl
  · obtain ⟨c, cs, hcs, hc⟩ : ∃ c cs, ws = c :: cs ∧ c.isDigit = true := by
      rcases hw with rfl | ⟨hdigits, -⟩
      · exact ⟨'0', [], rfl, rfl⟩
      · obtain ⟨c, cs, rfl⟩ := List.exists_cons_of_ne_nil hdigits.1
        exact ⟨c, cs, rfl, hdigits.2 c List.mem_cons_self⟩
    have hminus : octet c ≠ octet '-' :=
      octet_ne (lt_of_isDigit hc) (by decide) (by rintro rfl; exact absurd hc (by decide))
    subst hcs
    simp only [List.nil_append, List.cons_append, List.map_cons] at hunsigned ⊢
    rw [number?, if_neg hminus]
    exact hunsigned
  · simp only [List.cons_append, List.nil_append, List.map_cons] at hunsigned ⊢
    rw [number?, if_pos rfl, hunsigned]
    rfl

/-- The characters of a number are ASCII. -/
theorem lt_of_mem_number {l : List Char} (h : IsNumber l) : ∀ c ∈ l, c.toNat < 0x100 := by
  obtain ⟨sign, ws, fs, es, hsign, hw, hf, he, rfl⟩ := h
  have digits {ds : List Char} (h : AreDigits ds) : ∀ c ∈ ds, c.toNat < 0x100 :=
    fun c hc => lt_of_isDigit (h.2 c hc)
  have minus : ∀ c ∈ ['-'], c.toNat < 0x100 := List.forall_mem_singleton.2 (by decide)
  have hsign : ∀ c ∈ sign, c.toNat < 0x100 := by
    simp only [List.mem_cons, List.not_mem_nil, or_false] at hsign
    rcases hsign with rfl | rfl
    · exact List.forall_mem_nil _
    · exact minus
  have hw : ∀ c ∈ ws, c.toNat < 0x100 := by
    rcases hw with rfl | ⟨hds, -⟩
    · exact List.forall_mem_singleton.2 (by decide)
    · exact digits hds
  have hf : ∀ c ∈ fs, c.toNat < 0x100 := by
    rcases hf with rfl | ⟨ds, hds, rfl⟩
    · exact List.forall_mem_nil _
    · exact List.forall_mem_cons.2 ⟨by decide, digits hds⟩
  have he : ∀ c ∈ es, c.toNat < 0x100 := by
    rcases he with rfl | ⟨e, s, ds, he, hs, hds, rfl⟩
    · exact List.forall_mem_nil _
    · refine List.forall_mem_cons.2 ⟨?_, List.forall_mem_append.2 ⟨?_, digits hds⟩⟩
      · simp only [List.mem_cons, List.not_mem_nil, or_false] at he
        rcases he with rfl | rfl <;> decide
      · simp only [List.mem_cons, List.not_mem_nil, or_false] at hs
        rcases hs with rfl | rfl | rfl
        · exact List.forall_mem_nil _
        · exact List.forall_mem_singleton.2 (by decide)
        · exact minus
  exact List.forall_mem_append.2
    ⟨List.forall_mem_append.2 ⟨List.forall_mem_append.2 ⟨hsign, hw⟩, hf⟩, he⟩

/-! ## Tokens are read -/

namespace Token

/-- Brackets that close, and commas: what can stand behind a value. -/
def IsEnd (t : Token) : Prop := t = .comma ∨ t = .endArray ∨ t = .endObject

/-- What may stand next to each other: behind a number only what can stand behind a value. -/
def Beside (t u : Token) : Prop := ∀ l, t = .number l → u.IsEnd

/-- A number begins with a digit or its sign. -/
theorem head_number {l : List Char} (h : IsNumber l) :
    ∃ c cs, l = c :: cs ∧ (c.isDigit = true ∨ c = '-') := by
  obtain ⟨sign, ws, fs, es, hsign, hw, -, -, rfl⟩ := h
  simp only [List.mem_cons, List.not_mem_nil, or_false] at hsign
  rcases hsign with rfl | rfl
  · rcases hw with rfl | ⟨hdigits, -⟩
    · exact ⟨'0', _, rfl, .inl rfl⟩
    · obtain ⟨c, cs, rfl⟩ := List.exists_cons_of_ne_nil hdigits.1
      exact ⟨c, _, rfl, .inl (hdigits.2 c List.mem_cons_self)⟩
  · exact ⟨'-', _, rfl, .inr rfl⟩

theorem first?_number {c : Char} (h : c.isDigit = true ∨ c = '-') (rest : List UInt8) :
    first? (octet c :: rest) =
      (number? (octet c :: rest)).map fun (ds, r) => (.number (ds.map character), r) := by
  rcases h with h | rfl
  · have hne {x : Char} (hx : isDigit (octet x) = false) : octet c ≠ octet x := by
      intro he
      rw [← he, isDigit_octet h] at hx
      cases hx
    rw [first?, if_neg (hne rfl), if_neg (hne rfl), if_neg (hne rfl), if_neg (hne rfl),
      if_neg (hne rfl), if_neg (hne rfl), if_neg (hne rfl), if_neg (hne rfl), if_neg (hne rfl),
      if_neg (hne rfl)]
  · rfl

theorem isSpace_octet {c : Char} (h : c.isDigit = true ∨ c = '-') :
    isSpace (octet c) = false := by
  rcases h with h | rfl
  · have hne {b : UInt8} (hb : isDigit b = false) : (octet c == b) = false := by
      refine beq_false_of_ne fun he => ?_
      rw [← he, isDigit_octet h] at hb
      cases hb
    rw [isSpace, hne rfl, hne rfl, hne rfl, hne rfl]
    rfl
  · rfl

/-- A token that is written is read, if nothing goes on with it; and it begins with no blank. -/
theorem first?_written {t : Token} {w : List UInt8} (h : t.Written w) {rest : List UInt8}
    (hrest : ∀ l, t = .number l → Stops rest) :
    first? (w ++ rest) = some (t, rest) ∧ ∃ b bs, w = b :: bs ∧ isSpace b = false := by
  cases t with
  | beginObject => subst h; exact ⟨rfl, _, _, rfl, rfl⟩
  | endObject => subst h; exact ⟨rfl, _, _, rfl, rfl⟩
  | beginArray => subst h; exact ⟨rfl, _, _, rfl, rfl⟩
  | endArray => subst h; exact ⟨rfl, _, _, rfl, rfl⟩
  | colon => subst h; exact ⟨rfl, _, _, rfl, rfl⟩
  | comma => subst h; exact ⟨rfl, _, _, rfl, rfl⟩
  | null => subst h; exact ⟨rfl, _, _, rfl, rfl⟩
  | bool b =>
    cases b with
    | true => subst h; exact ⟨rfl, _, _, rfl, rfl⟩
    | false => subst h; exact ⟨rfl, _, _, rfl, rfl⟩
  | number l =>
    obtain ⟨hl, rfl⟩ := h
    have hread := number?_written hl (hrest l rfl)
    have hback : (l.map octet).map character = l := by
      rw [List.map_map]
      refine Eq.trans (List.map_congr_left fun c hc => ?_) (List.map_id l)
      exact character_octet (lt_of_mem_number hl c hc)
    obtain ⟨c, cs, hcs, hc⟩ := head_number hl
    rw [hcs, List.map_cons] at hread
    refine ⟨?_, octet c, cs.map octet, by rw [hcs, List.map_cons], isSpace_octet hc⟩
    rw [hcs, List.map_cons, List.cons_append, first?_number hc, ← List.cons_append, hread,
      Option.map_some]
    rw [hcs, List.map_cons] at hback
    simp only [hback]
  | text t =>
    obtain ⟨s, rfl, hs⟩ := h
    obtain ⟨v, rfl, hv⟩ := pieces?_of_writesText hs
    obtain ⟨ps, hps, hcontent⟩ := hv rest
    refine ⟨?_, _, _, rfl, rfl⟩
    have hread : first? (octet '"' :: (v ++ rest)) =
        (pieces? (v ++ rest)).map fun (ps, rest) => (.text (content? ps), rest) := rfl
    rw [List.cons_append, hread, hps, Option.map_some]
    simp only [hcontent]

end Token

/-! ## Every value has a document -/

/-- A character of a string behind a backslash if need be, as a letter or as a unit. -/
def writeChar (c : Char) : List UInt8 :=
  if c = '"' ∨ c = '\\' then [octet '\\', octet c]
  else if c.toNat < 0x20 then
    ['\\', 'u', '0', '0', (c.toNat / 16).digitChar, (c.toNat % 16).digitChar].map octet
  else String.utf8EncodeChar c

theorem writesChar_writeChar (c : Char) : WritesChar c (writeChar c) := by
  rw [writeChar]
  split
  · next h =>
    rcases h with rfl | rfl
    · exact .letter (by decide)
    · exact .letter (by decide)
  · next hsign =>
    rw [not_or] at hsign
    split
    · next hlow =>
      refine .unit ⟨_, _, _, _, ?_, rfl⟩
      have all : ∀ n < 0x20, natural? 16 ['0', '0', (n / 16).digitChar, (n % 16).digitChar] =
          some n := by decide
      exact all c.toNat hlow
    · next hhigh => exact .itself (Nat.not_lt.1 hhigh) hsign.1 hsign.2

namespace Token

/-- Tokens that can be written: literals of numbers, and strings that are texts. -/
def IsPlain : Token → Prop
  | .number l => IsNumber l
  | .text t => t.isSome = true
  | _ => True

/-- One of the ways to write a token. -/
def write : Token → List UInt8
  | .beginObject => [octet '\x7b']
  | .endObject => [octet '\x7d']
  | .beginArray => [octet '[']
  | .endArray => [octet ']']
  | .colon => [octet ':']
  | .comma => [octet ',']
  | .null => ['n', 'u', 'l', 'l'].map octet
  | .bool true => ['t', 'r', 'u', 'e'].map octet
  | .bool false => ['f', 'a', 'l', 's', 'e'].map octet
  | .number l => l.map octet
  | .text t => octet '"' :: (((t.getD "").toList.map writeChar).flatten ++ [octet '"'])

theorem written_write {t : Token} (h : t.IsPlain) : t.Written t.write := by
  cases t with
  | number l => exact ⟨h, rfl⟩
  | text t =>
    obtain ⟨s, rfl⟩ := Option.isSome_iff_exists.1 h
    refine ⟨s, rfl, s.toList.map writeChar, ?_, rfl⟩
    rw [List.forall₂_map_right_iff]
    exact List.forall₂_same.2 fun c _ => writesChar_writeChar c
  | bool b => cases b <;> rfl
  | _ => rfl

end Token

/-- Values that can be written. -/
def IsPlain (v : Json) : Prop := ∀ t ∈ v.tokens, t.IsPlain

/-- A document without blanks. -/
def write (v : Json) : List UInt8 := v.tokens.flatMap Token.write

theorem written_flatMap {ts : List Token} (h : ∀ t ∈ ts, t.IsPlain) :
    Written ts (ts.flatMap Token.write) := by
  induction ts with
  | nil => exact .nil fun _ hb => absurd hb List.not_mem_nil
  | cons t ts ih =>
    obtain ⟨ht, hts⟩ := List.forall_mem_cons.1 h
    exact @Written.cons [] _ _ _ _ (fun _ hb => absurd hb List.not_mem_nil) (Token.written_write ht)
      (ih hts)

theorem spells_write {v : Json} (h : v.IsPlain) : v.Spells v.write := written_flatMap h

/-! ### Values that can be written -/

theorem isNumber_decimal (n : Nat) : IsNumber (decimal n) := by
  have hdigits : AreDigits (decimal n) :=
    ⟨Nat.toDigits_ne_nil, fun c hc => Nat.isDigit_of_mem_toDigits (by omega) (by omega) hc⟩
  have hwhole : IsWhole (decimal n) := by
    rcases Nat.eq_zero_or_pos n with rfl | h
    · exact .inl rfl
    · exact .inr ⟨hdigits, head?_decimal h⟩
  exact ⟨[], decimal n, [], [], List.mem_cons_self, hwhole, .inl rfl, .inl rfl, by simp⟩

theorem isPlain_number (n : Nat) : IsPlain (.number (decimal n)) :=
  List.forall_mem_singleton.2 (isNumber_decimal n)

theorem isPlain_text (s : String) : IsPlain (.text (some s)) := List.forall_mem_singleton.2 rfl

theorem isPlain_bool (b : Bool) : IsPlain (.bool b) := List.forall_mem_singleton.2 trivial

theorem isPlain_null : IsPlain .null := List.forall_mem_singleton.2 trivial

theorem isPlain_moreItems {vs : List Json} (h : ∀ v ∈ vs, IsPlain v) :
    ∀ t ∈ moreItems vs, t.IsPlain := by
  induction vs with
  | nil => exact List.forall_mem_singleton.2 trivial
  | cons v vs ih =>
    obtain ⟨hv, hvs⟩ := List.forall_mem_cons.1 h
    exact List.forall_mem_cons.2 ⟨trivial, List.forall_mem_append.2 ⟨hv, ih hvs⟩⟩

theorem isPlain_array {vs : List Json} (h : ∀ v ∈ vs, IsPlain v) : IsPlain (.array vs) := by
  cases vs with
  | nil => exact List.forall_mem_cons.2 ⟨trivial, List.forall_mem_singleton.2 trivial⟩
  | cons v vs =>
    obtain ⟨hv, hvs⟩ := List.forall_mem_cons.1 h
    exact List.forall_mem_cons.2
      ⟨trivial, List.forall_mem_append.2 ⟨hv, isPlain_moreItems hvs⟩⟩

/-- Fields by texts, with values that can be written. -/
theorem isPlain_moreFields {fs : List (String × Json)} (h : ∀ f ∈ fs, IsPlain f.2) :
    ∀ t ∈ moreFields (fs.map fun f => (some f.1, f.2)), t.IsPlain := by
  induction fs with
  | nil => exact List.forall_mem_singleton.2 trivial
  | cons f fs ih =>
    obtain ⟨hf, hfs⟩ := List.forall_mem_cons.1 h
    refine List.forall_mem_cons.2 ⟨trivial, List.forall_mem_cons.2 ⟨rfl, ?_⟩⟩
    exact List.forall_mem_cons.2 ⟨trivial, List.forall_mem_append.2 ⟨hf, ih hfs⟩⟩

theorem isPlain_object {fs : List (String × Json)} (h : ∀ f ∈ fs, IsPlain f.2) :
    IsPlain (.object (fs.map fun f => (some f.1, f.2))) := by
  cases fs with
  | nil => exact List.forall_mem_cons.2 ⟨trivial, List.forall_mem_singleton.2 trivial⟩
  | cons f fs =>
    obtain ⟨hf, hfs⟩ := List.forall_mem_cons.1 h
    refine List.forall_mem_cons.2 ⟨trivial, List.forall_mem_cons.2 ⟨rfl, ?_⟩⟩
    exact List.forall_mem_cons.2
      ⟨trivial, List.forall_mem_append.2 ⟨hf, isPlain_moreFields hfs⟩⟩

end Json

end CloudRoster
