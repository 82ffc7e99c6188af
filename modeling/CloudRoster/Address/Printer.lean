/-
  The text of an address.

  IPv4 is four decimal octets with points.  IPv6 is hexadecimal groups with colons, in lower case
  and without leading zeros, where the longest run of two or more zero groups (the first of several)
  is left out between two colons; an address that carries an IPv4 address keeps the points for it.
-/
import CloudRoster.Address.Basic
import CloudRoster.Text.Numeral
import CloudRoster.Text.Pieces

namespace CloudRoster

open Text

namespace IPv4

/-- Four decimal octets with points. -/
def print (ip : IPv4) : List Char := joined '.' (ip.octets.map fun o => decimal o.toNat)

end IPv4

namespace IPv6

/-- How many zero groups stand at the front. -/
def leadingZeros (gs : List UInt16) : Nat := (gs.takeWhile (· == 0)).length

/-- Start and length of the longest run of zero groups, the first of equals: a run at the front wins
    over a later one that is not longer. -/
def longestRun : List UInt16 → Nat × Nat
  | [] => (0, 0)
  | g :: gs =>
    if (longestRun gs).2 ≤ leadingZeros (g :: gs) then (0, leadingZeros (g :: gs))
    else ((longestRun gs).1 + 1, (longestRun gs).2)

/-- Hexadecimal groups with colons. -/
def printGroups (gs : List UInt16) : List Char :=
  joined ':' (gs.map fun g => hexadecimal g.toNat)

/-- Groups with the run of `n` groups from position `i` left out. -/
def printGap (gs : List UInt16) (i n : Nat) : List Char :=
  printGroups (gs.take i) ++ ':' :: ':' :: printGroups (gs.drop (i + n))

/-- The text of an address without points. -/
def printHexadecimal (ip : IPv6) : List Char :=
  if 2 ≤ (longestRun ip.groups).2 then
    printGap ip.groups (longestRun ip.groups).1 (longestRun ip.groups).2
  else printGroups ip.groups

/-- The text of an address. -/
def print (ip : IPv6) : List Char :=
  match ip.mapped? with
  | some v4 => [':', ':', 'f', 'f', 'f', 'f', ':'] ++ v4.print
  | none => ip.printHexadecimal

/-! ## The run that is left out -/

theorem take_leadingZeros (gs : List UInt16) :
    gs = List.replicate (leadingZeros gs) 0 ++ gs.drop (leadingZeros gs) := by
  induction gs with
  | nil => rfl
  | cons g gs ih =>
    by_cases h : g = 0
    · subst h
      simp only [leadingZeros, List.takeWhile_cons, beq_self_eq_true, if_true, List.length_cons,
        List.replicate_succ, List.drop_succ_cons, List.cons_append]
      exact congrArg _ ih
    · simp [leadingZeros, h]

/-- The run holds zeros only. -/
theorem longestRun_zeros (gs : List UInt16) :
    gs = gs.take (longestRun gs).1 ++ List.replicate (longestRun gs).2 0
      ++ gs.drop ((longestRun gs).1 + (longestRun gs).2) := by
  induction gs with
  | nil => rfl
  | cons g gs ih =>
    rw [longestRun]
    split
    · simpa using take_leadingZeros (g :: gs)
    · rw [List.take_succ_cons, Nat.add_right_comm, List.drop_succ_cons, List.cons_append,
        List.cons_append, ← ih]

end IPv6

/-- The text of an address of either version. -/
def Address.print : Address → String
  | .v4 ip => String.ofList ip.print
  | .v6 ip => String.ofList ip.print

instance : ToString Address := ⟨Address.print⟩

end CloudRoster
