/-
  Lists that are read item by item.

  `List.mapM` reads all items or nothing.  It succeeds exactly when each item reads, and then the
  results stand in the order of the items: `List.Forall₂` says both at once.  What is read in steps
  is taken apart by `bind_eq_ok_iff`.  Where a list is read by key, `lookup_eq_none_iff_notMem` says
  when there is nothing.
-/
import Mathlib.Data.List.Forall2

namespace CloudRoster

variable {α β γ ε : Type}

theorem mapM_eq_some_iff {f : α → Option β} {xs : List α} {ys : List β} :
    xs.mapM f = some ys ↔ List.Forall₂ (fun x y => f x = some y) xs ys := by
  induction xs generalizing ys with
  | nil => simp [eq_comm]
  | cons x xs ih =>
    rw [List.mapM_cons, List.forall₂_cons_left_iff]
    simp only [Option.pure_def, Option.bind_eq_bind, Option.bind_eq_some_iff, Option.some.injEq, ih]
    constructor
    · rintro ⟨y, hy, ys, hys, rfl⟩
      exact ⟨y, ys, hy, hys, rfl⟩
    · rintro ⟨y, ys, hy, hys, rfl⟩
      exact ⟨y, hy, ys, hys, rfl⟩

theorem mapM_eq_ok_iff {f : α → Except ε β} {xs : List α} {ys : List β} :
    xs.mapM f = .ok ys ↔ List.Forall₂ (fun x y => f x = .ok y) xs ys := by
  induction xs generalizing ys with
  | nil => simp [pure, Except.pure, eq_comm]
  | cons x xs ih =>
    rw [List.mapM_cons, List.forall₂_cons_left_iff]
    constructor
    · intro h
      cases hx : f x with
      | error e => rw [hx] at h; cases h
      | ok y =>
        cases hxs : xs.mapM f with
        | error e => rw [hx, hxs] at h; cases h
        | ok ys' =>
          rw [hx, hxs] at h
          cases h
          exact ⟨y, ys', rfl, ih.1 hxs, rfl⟩
    · rintro ⟨y, ys', hy, hys, rfl⟩
      rw [hy, ih.2 hys]
      rfl

/-- What follows a computation has a value of the computation to go on with. -/
theorem bind_eq_ok_iff {x : Except ε α} {f : α → Except ε β} {b : β} :
    (x >>= f) = .ok b ↔ ∃ a, x = .ok a ∧ f a = .ok b := by
  cases x with
  | error e => simp [bind, Except.bind]
  | ok a => simp [bind, Except.bind]

theorem mapError_eq_ok_iff {f : ε → γ} {x : Except ε α} {a : α} :
    x.mapError f = .ok a ↔ x = .ok a := by
  cases x with
  | error e => simp [Except.mapError]
  | ok a' => simp [Except.mapError]

/-- Items that all read as something of their own kind are read together. -/
theorem exists_mapM_of_forall₂ {f : α → Option β} {R : γ → α → Prop} {S : γ → β → Prop}
    (read : ∀ c x, R c x → ∃ y, f x = some y ∧ S c y) {cs : List γ} {xs : List α}
    (h : List.Forall₂ R cs xs) : ∃ ys, xs.mapM f = some ys ∧ List.Forall₂ S cs ys := by
  induction h with
  | nil => exact ⟨[], rfl, .nil⟩
  | @cons c x cs xs hx _ ih =>
    obtain ⟨y, hy, hs⟩ := read c x hx
    obtain ⟨ys, hys, hss⟩ := ih
    refine ⟨y :: ys, ?_, .cons hs hss⟩
    rw [List.mapM_cons, hy, hys]
    rfl

/-- An item of one list has a partner in the other. -/
theorem exists_of_mem_left {R : α → β → Prop} {xs : List α} {ys : List β}
    (h : List.Forall₂ R xs ys) {x : α} (hx : x ∈ xs) : ∃ y ∈ ys, R x y := by
  induction h with
  | nil => cases hx
  | cons hr _ ih =>
    rcases List.mem_cons.1 hx with rfl | hx
    · exact ⟨_, List.mem_cons_self, hr⟩
    · obtain ⟨y, hy, hr⟩ := ih hx
      exact ⟨y, List.mem_cons_of_mem _ hy, hr⟩

theorem exists_of_mem_right {R : α → β → Prop} {xs : List α} {ys : List β}
    (h : List.Forall₂ R xs ys) {y : β} (hy : y ∈ ys) : ∃ x ∈ xs, R x y :=
  exists_of_mem_left h.flip hy

/-- An item of a list that reads has read. -/
theorem exists_of_mapM {f : α → Option β} {xs : List α} {ys : List β} (h : xs.mapM f = some ys)
    {x : α} (hx : x ∈ xs) : ∃ y, f x = some y := by
  obtain ⟨y, -, hy⟩ := exists_of_mem_left (mapM_eq_some_iff.1 h) hx
  exact ⟨y, hy⟩

/-- A key leads nowhere exactly if it is none of the keys. -/
theorem lookup_eq_none_iff_notMem [BEq α] [LawfulBEq α] {pairs : List (α × β)} {key : α} :
    pairs.lookup key = none ↔ key ∉ pairs.map Prod.fst := by
  rw [List.lookup_eq_none_iff]
  constructor
  · intro h hkey
    obtain ⟨pair, hpair, rfl⟩ := List.mem_map.1 hkey
    exact bne_iff_ne.1 (h pair hpair) rfl
  · intro h pair hpair
    exact bne_iff_ne.2 fun heq => h (heq ▸ List.mem_map_of_mem hpair)

/-- A list of one item has one place only. -/
theorem singleton_eq_append_cons {x y : α} {before after : List α}
    (h : [x] = before ++ y :: after) : before = [] ∧ y = x ∧ after = [] := by
  cases before with
  | nil =>
    obtain ⟨hhead, htail⟩ := List.cons.inj h
    exact ⟨rfl, hhead.symm, htail.symm⟩
  | cons z before => exact absurd (List.cons.inj h).2 (by simp)

end CloudRoster
