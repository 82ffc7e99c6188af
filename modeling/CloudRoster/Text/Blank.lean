/-
  Blanks, and cutting them off the ends of a text.

  A blank is a character with the Unicode property White_Space: twenty-five characters, more than
  the ASCII blanks and fewer than what looks empty (a zero-width space and the byte order mark are
  not blanks).  `strip p` removes the characters satisfying `p` from both ends and leaves those
  inside alone; `trim` is `strip isBlank` on strings.

  Three of the blanks, the tab and the ends of lines, are breaks; `unbroken` leaves them out
  wherever they stand.
-/

namespace CloudRoster.Text

/-- The characters with the property White_Space. -/
def isBlank (c : Char) : Bool :=
  let n := c.toNat
  (0x09 ≤ n && n ≤ 0x0D) || n == 0x20 || n == 0x85 || n == 0xA0 || n == 0x1680
    || (0x2000 ≤ n && n ≤ 0x200A) || n == 0x2028 || n == 0x2029 || n == 0x202F
    || n == 0x205F || n == 0x3000

/-! ## Breaks -/

/-- The tab, the line feed and the carriage return. -/
def isBreak (c : Char) : Bool := c == '\t' || c == '\n' || c == '\r'

/-- `cs` without its breaks. -/
def unbroken (cs : List Char) : List Char := cs.filter (!isBreak ·)

/-! ## Cutting at the ends -/

/-- `cs` without the characters at its end that satisfy `p`. -/
def stripEnd (p : Char → Bool) (cs : List Char) : List Char :=
  (cs.reverse.dropWhile p).reverse

/-- `cs` without the characters at either end that satisfy `p`. -/
def strip (p : Char → Bool) (cs : List Char) : List Char :=
  stripEnd p (cs.dropWhile p)

/-- `s` without the blanks at its ends. -/
def trim (s : String) : String := String.ofList (strip isBlank s.toList)

@[simp] theorem toList_trim (s : String) : (trim s).toList = strip isBlank s.toList := by
  simp [trim]

/-- What is cut off the end satisfies `p`, and nothing else is lost. -/
theorem stripEnd_append (p : Char → Bool) (cs : List Char) :
    stripEnd p cs ++ (cs.reverse.takeWhile p).reverse = cs := by
  rw [stripEnd, ← List.reverse_append, List.takeWhile_append_dropWhile, List.reverse_reverse]

@[simp] theorem stripEnd_nil (p : Char → Bool) : stripEnd p [] = [] := rfl

/-- A text whose last character does not satisfy `p` keeps its end. -/
theorem stripEnd_eq_self {p : Char → Bool} {cs : List Char}
    (h : ∀ c, cs.getLast? = some c → p c = false) : stripEnd p cs = cs := by
  rw [stripEnd, List.reverse_eq_iff]
  rw [← List.head?_reverse] at h
  cases hr : cs.reverse with
  | nil => rfl
  | cons c r => simp [h c (by simp [hr])]

end CloudRoster.Text
