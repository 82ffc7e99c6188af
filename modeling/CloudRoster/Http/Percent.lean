/-
  Percent encoding: octets as `%XX` with two upper-case hexadecimal digits.

  Which characters are encoded depends on where they stand, so `encode` takes the set as a
  predicate; what it decides is the same everywhere: a character outside ASCII is always encoded,
  octet by octet of its UTF-8 form.  `decodeOctets` reads any text, and a percent sign that two
  digits do not follow stands for itself.
-/
import CloudRoster.Text.Numeral
import CloudRoster.Text.Utf8

namespace CloudRoster.Http

open Text

/-- An upper-case hexadecimal digit. -/
def hexDigit (n : Nat) : Char := (n.digitChar).toUpper

/-- One octet, encoded. -/
def encodeOctet (b : UInt8) : List Char := ['%', hexDigit (b.toNat / 16), hexDigit (b.toNat % 16)]

/-- One character, encoded if it is outside ASCII or `special` holds. -/
def encodeChar (special : Char → Bool) (c : Char) : List Char :=
  if c.toNat < 0x80 ∧ special c = false then [c]
  else (String.utf8EncodeChar c).flatMap encodeOctet

/-- A text with the characters satisfying `special` and those outside ASCII encoded. -/
def encode (special : Char → Bool) (cs : List Char) : List Char := cs.flatMap (encodeChar special)

/-- The octets that an encoded text stands for. -/
def decodeOctets : List Char → List UInt8
  | [] => []
  | '%' :: h :: l :: cs =>
    match digit? 16 h, digit? 16 l with
    | some x, some y => UInt8.ofNat (x * 16 + y) :: decodeOctets cs
    | _, _ => UInt8.ofNat '%'.toNat :: decodeOctets (h :: l :: cs)
  | c :: cs => String.utf8EncodeChar c ++ decodeOctets cs

/-! ## Sets -/

/-- Controls, which are encoded everywhere. -/
def isControl (c : Char) : Bool := c.toNat < 0x20 || c.toNat == 0x7F

/-- What is encoded in a path. -/
def pathSpecial (c : Char) : Bool :=
  isControl c || [' ', '"', '#', '<', '>', '?', '\u0060', '\x7b', '\x7d'].contains c

/-- What is encoded in a query that is written by hand. -/
def querySpecial (c : Char) : Bool := isControl c || [' ', '"', '#', '<', '>'].contains c

/-- What is encoded in the name and the password of a user. -/
def userSpecial (c : Char) : Bool :=
  pathSpecial c || ['/', ':', ';', '=', '@', '[', '\\', ']', '^', '|'].contains c

/-- What is encoded in a fragment. -/
def fragmentSpecial (c : Char) : Bool :=
  isControl c || [' ', '"', '<', '>', '\u0060'].contains c

end CloudRoster.Http
