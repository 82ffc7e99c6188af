/-
  What is left of a text without the blanks at its ends.

  A text is blanks, its core and blanks again, and the core neither begins nor ends with a blank.
  There is one such core, so cutting finds it: `trim_eq_iff`.
-/
import CloudRoster.Text.Blank
import Mathlib.Data.List.TakeWhile

namespace CloudRoster.Text

/-- `m` is `cs` without what satisfies `p` at its ends. -/
def IsCore (p : Char → Bool) (cs m : List Char) : Prop :=
  ∃ before after, cs = before ++ (m ++ after) ∧ (∀ c ∈ before, p c = true) ∧
    (∀ c ∈ after, p c = true) ∧ (∀ c, m.head? = some c → p c = false) ∧
    (∀ c, m.getLast? = some c → p c = false)

theorem dropWhile_of_head {p : Char → Bool} {m : List Char}
    (h : ∀ c, m.head? = some c → p c = false) : m.dropWhile p = m := by
  cases m with
  | nil => rfl
  | cons c m =>
    have hc : ¬ p c = true := by simp [h c rfl]
    exact List.dropWhile_cons_of_neg hc

/-- Cutting at the end does not go past a character that stays. -/
theorem stripEnd_append_of_last {p : Char → Bool} {m : List Char}
    (hm : ∀ c, m.getLast? = some c → p c = false) (b : List Char) :
    stripEnd p (m ++ b) = m ++ stripEnd p b := by
  have hkept : m.reverse.dropWhile p = m.reverse := List.reverse_eq_iff.1 (stripEnd_eq_self hm)
  rw [stripEnd, stripEnd, List.reverse_append, List.dropWhile_append, hkept]
  split
  · next hb => rw [List.isEmpty_iff.1 hb, List.reverse_reverse, List.reverse_nil, List.append_nil]
  · rw [List.reverse_append, List.reverse_reverse]

theorem stripEnd_append_of_all {p : Char → Bool} {m b : List Char} (hb : ∀ c ∈ b, p c = true)
    (hm : ∀ c, m.getLast? = some c → p c = false) : stripEnd p (m ++ b) = m := by
  have hnil : stripEnd p b = [] := by
    rw [stripEnd, List.reverse_eq_nil_iff, List.dropWhile_eq_nil_iff]
    exact fun c hc => hb c (List.mem_reverse.1 hc)
  rw [stripEnd_append_of_last hm, hnil, List.append_nil]

/-- There is one core only: it is what cutting leaves. -/
theorem strip_of_isCore {p : Char → Bool} {cs m : List Char} (h : IsCore p cs m) :
    strip p cs = m := by
  obtain ⟨a, b, rfl, ha, hb, hhead, hlast⟩ := h
  rw [strip, List.dropWhile_append_of_pos ha]
  cases m with
  | nil =>
    have hnil : ([] ++ b).dropWhile p = [] := List.dropWhile_eq_nil_iff.2 hb
    rw [hnil, stripEnd_nil]
  | cons c m =>
    have hkept : (c :: m ++ b).dropWhile p = c :: m ++ b := dropWhile_of_head hhead
    rw [hkept, stripEnd_append_of_all hb hlast]

/-- Cutting leaves nothing behind that should go. -/
theorem isCore_strip (p : Char → Bool) (cs : List Char) : IsCore p cs (strip p cs) := by
  have hwhole := stripEnd_append p (cs.dropWhile p)
  refine ⟨cs.takeWhile p, ((cs.dropWhile p).reverse.takeWhile p).reverse, ?_, ?_, ?_, ?_, ?_⟩
  · rw [strip, hwhole, List.takeWhile_append_dropWhile]
  · intro c hc
    exact List.mem_takeWhile_imp hc
  · intro c hc
    exact List.mem_takeWhile_imp (List.mem_reverse.1 hc)
  · intro c hc
    -- what is left begins as it did before the end was cut off
    have hhead : (cs.dropWhile p).head? = some c := by
      rw [← hwhole, List.head?_append, ← strip, hc]
      rfl
    have hnot := List.head?_dropWhile_not p cs
    rw [hhead] at hnot
    simpa using hnot
  · intro c hc
    rw [strip, stripEnd, List.getLast?_reverse] at hc
    have hnot := List.head?_dropWhile_not p (cs.dropWhile p).reverse
    rw [hc] at hnot
    simpa using hnot

/-- `name` is `content` without the blanks at its ends. -/
def Trimmed (content name : String) : Prop := IsCore isBlank content.toList name.toList

theorem trim_eq_iff {content name : String} : trim content = name ↔ Trimmed content name := by
  constructor
  · rintro rfl
    rw [Trimmed, toList_trim]
    exact isCore_strip isBlank content.toList
  · intro h
    rw [trim, strip_of_isCore h, String.ofList_toList]

end CloudRoster.Text
