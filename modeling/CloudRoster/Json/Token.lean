/-
  The tokens of a JSON document, read from its octets.

  Reading is two steps: `Token.lex` cuts the octets into tokens, here, and `Json.ofTokens?` builds
  the tree.  Blanks end at this step, so two documents that differ in blanks alone have the same
  tokens.

  Three rules are settled here.

  1. A string is text only if its octets are UTF-8 and its escapes spell whole characters.  One that
     is not (a lone surrogate, a stray octet) is still a token, `text none`: whoever needs its
     content refuses it, whoever skips it does not.
  2. A number is kept as it is written.  Its magnitude is nobody's concern until it is read.
  3. An octet below 0x20 inside a string is an error wherever the string stands.
-/
import CloudRoster.Text.Numeral
import CloudRoster.Text.Utf8

namespace CloudRoster.Json

open Text

/-- A token; a string that spells no text is `text none`. -/
inductive Token where
  | beginObject
  | endObject
  | beginArray
  | endArray
  | colon
  | comma
  | null
  | bool (b : Bool)
  | number (literal : List Char)
  | text (content : Option String)
deriving DecidableEq, Repr

/-! ## Octet classes -/

/-- Space, tab, line feed and carriage return. -/
def isSpace (b : UInt8) : Bool := b == 0x20 || b == 0x09 || b == 0x0A || b == 0x0D

/-- The digits `0` to `9`. -/
def isDigit (b : UInt8) : Bool := octet '0' ≤ b && b ≤ octet '9'

/-! ## Strings -/

/-- What a string literal is made of: octets that stand for themselves, and sixteen-bit units that
    are written as escapes. -/
inductive Piece where
  | octet (b : UInt8)
  | unit (u : Nat)
deriving DecidableEq, Repr

/-- The octet that a one-letter escape stands for. -/
def escaped? (b : UInt8) : Option UInt8 :=
  if b = octet '"' ∨ b = octet '\\' ∨ b = octet '/' then some b
  else if b = octet 'b' then some 0x08
  else if b = octet 'f' then some 0x0C
  else if b = octet 'n' then some 0x0A
  else if b = octet 'r' then some 0x0D
  else if b = octet 't' then some 0x09
  else none

/-- The unit that four hexadecimal digits spell. -/
def unit? (a b c d : UInt8) : Option Nat :=
  natural? 16 [character a, character b, character c, character d]

/-- The pieces up to the closing quote, and what follows it. -/
def pieces? : List UInt8 → Option (List Piece × List UInt8)
  | [] => none
  | b :: r =>
    if b = octet '"' then some ([], r)
    else if b = octet '\\' then
      match r with
      | [] => none
      | e :: r =>
        if e = octet 'u' then
          match r with
          | a :: b :: c :: d :: r =>
            (unit? a b c d).bind fun u => (pieces? r).map fun (ps, rest) => (.unit u :: ps, rest)
          | _ => none
        else
          (escaped? e).bind fun o => (pieces? r).map fun (ps, rest) => (.octet o :: ps, rest)
    else if b < 0x20 then none
    else (pieces? r).map fun (ps, rest) => (.octet b :: ps, rest)

/-- The first halves of surrogate pairs. -/
def isHighSurrogate (u : Nat) : Bool := 0xD800 ≤ u && u < 0xDC00

/-- The second halves of surrogate pairs. -/
def isLowSurrogate (u : Nat) : Bool := 0xDC00 ≤ u && u < 0xE000

/-- The character that a pair of surrogates stands for. -/
def pairCharacter (high low : Nat) : Char :=
  Char.ofNat (0x10000 + (high - 0xD800) * 0x400 + (low - 0xDC00))

/-- The octets that the pieces spell, if no surrogate stands alone.  Only two escapes in a row make
    a pair: an octet between them leaves both alone. -/
def spelled? : List Piece → Option (List UInt8)
  | [] => some []
  | .octet b :: ps => (spelled? ps).map (b :: ·)
  | .unit u :: ps =>
    if isHighSurrogate u then
      match ps with
      | .unit v :: ps =>
        if isLowSurrogate v then
          (spelled? ps).map (String.utf8EncodeChar (pairCharacter u v) ++ ·)
        else none
      | _ => none
    else if isLowSurrogate u then none
    else (spelled? ps).map (String.utf8EncodeChar (Char.ofNat u) ++ ·)

/-- The text that the pieces spell. -/
def content? (ps : List Piece) : Option String := (spelled? ps).bind ofUtf8?

/-! ## Numbers and words -/

/-- One digit or more, and what follows. -/
def digits? (s : List UInt8) : Option (List UInt8 × List UInt8) :=
  if (s.takeWhile isDigit).isEmpty then none
  else some (s.takeWhile isDigit, s.dropWhile isDigit)

/-- The whole part of a number: `0`, or digits that do not start with it. -/
def whole? : List UInt8 → Option (List UInt8 × List UInt8)
  | [] => none
  | b :: r => if b = octet '0' then some ([b], r) else digits? (b :: r)

/-- The fraction of a number, which may be absent. -/
def fraction? : List UInt8 → Option (List UInt8 × List UInt8)
  | [] => some ([], [])
  | b :: r =>
    if b = octet '.' then (digits? r).map fun (ds, rest) => (b :: ds, rest)
    else some ([], b :: r)

/-- The digits of an exponent after an optional sign. -/
def signedDigits? : List UInt8 → Option (List UInt8 × List UInt8)
  | [] => none
  | b :: r =>
    if b = octet '+' ∨ b = octet '-' then (digits? r).map fun (ds, rest) => (b :: ds, rest)
    else digits? (b :: r)

/-- The exponent of a number, which may be absent. -/
def exponent? : List UInt8 → Option (List UInt8 × List UInt8)
  | [] => some ([], [])
  | b :: r =>
    if b = octet 'e' ∨ b = octet 'E' then
      (signedDigits? r).map fun (ds, rest) => (b :: ds, rest)
    else some ([], b :: r)

/-- A number without its sign. -/
def unsigned? (s : List UInt8) : Option (List UInt8 × List UInt8) := do
  let (w, s) ← whole? s
  let (f, s) ← fraction? s
  let (e, s) ← exponent? s
  return (w ++ f ++ e, s)

/-- A number, as it is written, and what follows. -/
def number? : List UInt8 → Option (List UInt8 × List UInt8)
  | [] => none
  | b :: r =>
    if b = octet '-' then (unsigned? r).map fun (ds, rest) => (b :: ds, rest)
    else unsigned? (b :: r)

/-- What follows the word `w` in `s`. -/
def after? : List Char → List UInt8 → Option (List UInt8)
  | [], s => some s
  | _ :: _, [] => none
  | c :: w, b :: s => if b = octet c then after? w s else none

/-! ## Tokens -/

/-- The token at the front of `s`, which starts with no blank, and what follows it. -/
def Token.first? : List UInt8 → Option (Token × List UInt8)
  | [] => none
  | b :: r =>
    if b = octet '\x7b' then some (.beginObject, r)
    else if b = octet '\x7d' then some (.endObject, r)
    else if b = octet '[' then some (.beginArray, r)
    else if b = octet ']' then some (.endArray, r)
    else if b = octet ':' then some (.colon, r)
    else if b = octet ',' then some (.comma, r)
    else if b = octet '"' then (pieces? r).map fun (ps, rest) => (.text (content? ps), rest)
    else if b = octet 'n' then (after? ['u', 'l', 'l'] r).map (.null, ·)
    else if b = octet 't' then (after? ['r', 'u', 'e'] r).map (.bool true, ·)
    else if b = octet 'f' then (after? ['a', 'l', 's', 'e'] r).map (.bool false, ·)
    else (number? (b :: r)).map fun (ds, rest) => (.number (ds.map character), rest)

/-! ## Each token takes at least one octet -/

theorem pieces?_length {s : List UInt8} {ps : List Piece} {rest : List UInt8}
    (h : pieces? s = some (ps, rest)) : rest.length < s.length := by
  fun_induction pieces? s generalizing ps rest with
  | case1 => cases h
  | case2 r => cases h; simp
  | case3 => cases h
  | case4 a b c d r _ ih =>
    simp only [Option.bind_eq_some_iff, Option.map_eq_some_iff, Prod.mk.injEq, Prod.exists] at h
    obtain ⟨u, _, ps', rest', h, _, rfl⟩ := h
    have := ih h
    simp only [List.length_cons]; omega
  | case5 => cases h
  | case6 e r _ he ih =>
    simp only [Option.bind_eq_some_iff, Option.map_eq_some_iff, Prod.mk.injEq, Prod.exists] at h
    obtain ⟨u, _, ps', rest', h, _, rfl⟩ := h
    have := ih h
    simp only [List.length_cons]; omega
  | case7 => cases h
  | case8 b r _ _ _ ih =>
    simp only [Option.map_eq_some_iff, Prod.mk.injEq, Prod.exists] at h
    obtain ⟨ps', rest', h, _, rfl⟩ := h
    have := ih h
    simp only [List.length_cons]; omega

theorem digits?_length {s ds rest : List UInt8} (h : digits? s = some (ds, rest)) :
    rest.length < s.length := by
  rw [digits?] at h
  split at h
  · cases h
  · next hne =>
    cases h
    have := congrArg List.length (List.takeWhile_append_dropWhile (p := isDigit) (l := s))
    rw [List.length_append] at this
    have : (s.takeWhile isDigit).length ≠ 0 := by simpa using hne
    omega

theorem whole?_length {s ds rest : List UInt8} (h : whole? s = some (ds, rest)) :
    rest.length < s.length := by
  cases s with
  | nil => cases h
  | cons b r =>
    rw [whole?] at h
    split at h
    · cases h; simp
    · exact digits?_length h

theorem fraction?_length {s ds rest : List UInt8} (h : fraction? s = some (ds, rest)) :
    rest.length ≤ s.length := by
  cases s with
  | nil => cases h; simp
  | cons b r =>
    rw [fraction?] at h
    split at h
    · simp only [Option.map_eq_some_iff, Prod.mk.injEq, Prod.exists] at h
      obtain ⟨_, _, h, _, rfl⟩ := h
      have := digits?_length h
      simp only [List.length_cons]; omega
    · cases h; simp

theorem exponent?_length {s ds rest : List UInt8} (h : exponent? s = some (ds, rest)) :
    rest.length ≤ s.length := by
  cases s with
  | nil => cases h; simp
  | cons b r =>
    rw [exponent?] at h
    split at h
    · simp only [Option.map_eq_some_iff, Prod.mk.injEq, Prod.exists] at h
      obtain ⟨_, _, h, _, rfl⟩ := h
      cases r with
      | nil => cases h
      | cons c r =>
        rw [signedDigits?] at h
        split at h
        · simp only [Option.map_eq_some_iff, Prod.mk.injEq, Prod.exists] at h
          obtain ⟨_, _, h, _, rfl⟩ := h
          have := digits?_length h
          simp only [List.length_cons]; omega
        · have := digits?_length h
          simp only [List.length_cons] at this ⊢; omega
    · cases h; simp

theorem unsigned?_length {s ds rest : List UInt8} (h : unsigned? s = some (ds, rest)) :
    rest.length < s.length := by
  simp only [unsigned?, Option.bind_eq_bind, Option.bind_eq_some_iff, Prod.exists] at h
  obtain ⟨w, s₁, h₁, f, s₂, h₂, e, s₃, h₃, h⟩ := h
  cases h
  have := whole?_length h₁
  have := fraction?_length h₂
  have := exponent?_length h₃
  omega

theorem number?_length {s ds rest : List UInt8} (h : number? s = some (ds, rest)) :
    rest.length < s.length := by
  cases s with
  | nil => cases h
  | cons b r =>
    rw [number?] at h
    split at h
    · simp only [Option.map_eq_some_iff, Prod.mk.injEq, Prod.exists] at h
      obtain ⟨_, _, h, _, rfl⟩ := h
      have := unsigned?_length h
      simp only [List.length_cons]; omega
    · exact unsigned?_length h

theorem after?_length {w : List Char} {s rest : List UInt8} (h : after? w s = some rest) :
    rest.length ≤ s.length := by
  fun_induction after? w s with
  | case1 => cases h; simp
  | case2 => cases h
  | case3 c w s ih => have := ih h; simp only [List.length_cons]; omega
  | case4 => cases h

theorem Token.first?_length {s : List UInt8} {t : Token} {rest : List UInt8}
    (h : Token.first? s = some (t, rest)) : rest.length < s.length := by
  cases s with
  | nil => cases h
  | cons b r =>
    rw [Token.first?] at h
    iterate 6
      split at h
      · cases h; simp
    split at h
    · simp only [Option.map_eq_some_iff, Prod.mk.injEq, Prod.exists] at h
      obtain ⟨_, _, h, _, rfl⟩ := h
      have := pieces?_length h
      simp only [List.length_cons]; omega
    iterate 3
      split at h
      · simp only [Option.map_eq_some_iff, Prod.mk.injEq] at h
        obtain ⟨_, h, _, rfl⟩ := h
        have := after?_length h
        simp only [List.length_cons]; omega
    simp only [Option.map_eq_some_iff, Prod.mk.injEq, Prod.exists] at h
    obtain ⟨_, _, h, _, rfl⟩ := h
    exact number?_length h

/-! ## Documents -/

/-- The tokens of a document.  It is read from front to end, and every token takes at least one
    octet, so the rest gets shorter. -/
def Token.lex (s : List UInt8) : Option (List Token) :=
  if (s.dropWhile isSpace).isEmpty then some []
  else
    match h : Token.first? (s.dropWhile isSpace) with
    | none => none
    | some (t, rest) =>
      have : rest.length < s.length :=
        Nat.lt_of_lt_of_le (Token.first?_length h) (List.dropWhile_sublist _).length_le
      (Token.lex rest).map (t :: ·)
termination_by s.length

end CloudRoster.Json
