/-
  Texts of any characters, written in ASCII.

  `encode` writes the ASCII characters of a text and, after a hyphen, one number for each of the
  others.  A text grows by inserting those in ascending order, equal ones from left to right.  Each
  could be inserted at any place; the number counts the insertions that are passed over since the
  last one that is made, so it tells both character and place.

  Numbers are written in base-36 digits, smallest place first.  A digit below the threshold of its
  place ends a number, and the thresholds follow the size of the number before, by a bias.
-/
import CloudRoster.Domain.Permitted
import CloudRoster.Text.Pieces

namespace CloudRoster.Domain.Punycode

open Text

/-! ## Numbers -/

/-- A digit: letters, then decimal digits. -/
def digit (n : Nat) : Char :=
  if n < 26 then Char.ofNat ('a'.toNat + n) else Char.ofNat ('0'.toNat + (n - 26))

/-- The value of a digit, letters of either case. -/
def valueOf? (c : Char) : Option Nat :=
  if c.isLower then some (c.toNat - 'a'.toNat)
  else if c.isUpper then some (c.toNat - 'A'.toNat)
  else if c.isDigit then some (c.toNat - '0'.toNat + 26)
  else none

/-- The least digit after which a number goes on.  Places are counted in steps of 36. -/
def threshold (bias place : Nat) : Nat := max 1 (min 26 (place - bias))

theorem threshold_pos (bias place : Nat) : 1 ≤ threshold bias place := Nat.le_max_left _ _

/-- The places that a number of a size takes, and for what is left of it a share of one. -/
def places (size place : Nat) : Nat :=
  if 455 < size then places (size / 35) (place + 36) else place + 36 * size / (size + 38)
termination_by size
decreasing_by exact Nat.div_lt_self (by omega) (by omega)

/-- The bias after a number, the first of all or a later one, for a text of `count` characters. -/
def adapt (number count : Nat) (isFirst : Bool) : Nat :=
  let size := if isFirst then number / 700 else number / 2
  places (size + size / count) 0

/-- The digits of a number from a place on. -/
def writeNumber (bias place n : Nat) : List Char :=
  let t := threshold bias place
  if n < t then [digit n]
  else digit (t + (n - t) % (36 - t)) :: writeNumber bias (place + 36) ((n - t) / (36 - t))
termination_by n
decreasing_by
  have := threshold_pos bias place
  exact Nat.lt_of_le_of_lt (Nat.div_le_self _ _) (by omega)

/-- The number that digits from a place on spell, in units of `weight`, and what follows it. -/
def readNumber? (bias place weight : Nat) : List Char → Option (Nat × List Char)
  | [] => none
  | c :: cs =>
    match valueOf? c with
    | none => none
    | some d =>
      let t := threshold bias place
      if d < t then some (d * weight, cs)
      else (readNumber? bias (place + 36) (weight * (36 - t)) cs).map fun (n, rest) =>
        (d * weight + n, rest)

theorem readNumber?_length {bias place weight n : Nat} {cs rest : List Char}
    (h : readNumber? bias place weight cs = some (n, rest)) : rest.length < cs.length := by
  induction cs generalizing place weight n with
  | nil => cases h
  | cons c cs ih =>
    simp only [readNumber?] at h
    split at h
    · cases h
    · split at h
      · cases h; simp
      · simp only [Option.map_eq_some_iff, Prod.mk.injEq, Prod.exists] at h
        obtain ⟨_, _, h, _, rfl⟩ := h
        exact Nat.lt_trans (ih h) (by simp)

/-! ## Reading -/

/-- `text` with the characters inserted that `cs` spells, from the code point `code` and the place
    `start` on. -/
def insert? (text : List Char) (code start bias : Nat) (cs : List Char) : Option (List Char) :=
  if cs.isEmpty then some text
  else
    match h : readNumber? bias 36 1 cs with
    | none => none
    | some (n, rest) =>
      have := readNumber?_length h
      let count := text.length + 1
      let next := code + (start + n) / count
      let place := (start + n) % count
      if next.isValidChar then
        insert? (text.insertIdx place (Char.ofNat next)) next (place + 1)
          (adapt n count (start = 0)) rest
      else none
termination_by cs.length

/-- The text that ASCII characters spell. -/
def decode? (cs : List Char) : Option (List Char) :=
  match cut '-' cs.reverse with
  | (_, none) => insert? [] 0x80 0 72 cs
  | (numbers, some text) =>
    if text.isEmpty then none else insert? text.reverse 0x80 0 72 numbers.reverse

/-! ## Writing -/

/-- Where the writing of a text stands. -/
structure Progress where
  /-- How many characters are written. -/
  count : Nat
  /-- How many insertions have come since the last that was made. -/
  passed : Nat
  bias : Nat
  written : List Char

/-- Looks at one character of the text while those of the code point `code` are written: a place
    before or behind a smaller one is passed. -/
def Progress.see (code : Nat) (isFirst : Nat → Bool) (p : Progress) (c : Char) : Progress :=
  if c.toNat < code then { p with passed := p.passed + 1 }
  else if c.toNat = code then
    { count := p.count + 1
      passed := 0
      bias := adapt p.passed (p.count + 1) (isFirst p.count)
      written := p.written ++ writeNumber p.bias 36 p.passed }
  else p

/-- The numbers for the characters with the code points `codes` of a text, once all insertions of
    characters before `next` are passed. -/
def Progress.writeAll (cs : List Char) (isFirst : Nat → Bool) (next : Nat) (p : Progress) :
    List Nat → List Char
  | [] => p.written
  | code :: codes =>
    let p := { p with passed := p.passed + (code - next) * (p.count + 1) }
    let p := cs.foldl (see code isFirst) p
    writeAll cs isFirst (code + 1) { p with passed := p.passed + 1 } codes

/-- The ASCII characters that spell a text. -/
def encode (cs : List Char) : List Char :=
  let plain := cs.filter isAscii
  let codes := (((cs.filter (!isAscii ·)).map Char.toNat).mergeSort).eraseReps
  let start := if plain.isEmpty then [] else plain ++ ['-']
  Progress.writeAll cs (· == plain.length) 0x80 ⟨plain.length, 0, 72, start⟩ codes

end CloudRoster.Domain.Punycode
