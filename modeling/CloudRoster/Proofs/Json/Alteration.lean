/-
  Alterations of a value that its readers do not see.

  A reader looks for records in a value, and in these for declared fields.  Where it looks is a
  `Shape`.  `Alters shape v v'` says that `v'` is `v` but for one alteration: an object that is read
  as a record has one more field of a name that is not declared, or its fields in another order; and
  this at any depth, as long as the way there leads through records and lists of the shape.

  A field's condition is about the values that stand under its name, and of these an alteration
  changes the order, or alters one of them (`Shifts`).  So each condition is as good of the altered
  values as of the others, if what it says of a single value is (`Kept`); and a record is kept if
  its conditions are (`Kept.record`).
-/
import Mathlib.Logic.Relation
import CloudRoster.Proofs.Json.Occurrence

namespace CloudRoster.Json

variable {α : Type}

/-! ## Alterations -/

/-- Where a reader looks for records. -/
inductive Shape where
  /-- Nowhere: the value is read as a whole, or not at all. -/
  | leaf
  /-- In the items of an array. -/
  | list (item : Shape)
  /-- The value itself is a record, and more may be found in its declared fields. -/
  | record (fields : List (String × Shape))

/-- One alteration of a value where it is read as a record. -/
inductive Alters : Shape → Json → Json → Prop where
  /-- A field of a name that is not declared is inserted, with any value. -/
  | insert {fields : List (String × Shape)} {before after : List (Option String × Json)}
      {name : String} (unknown : name ∉ fields.map Prod.fst) (v : Json) :
      Alters (.record fields) (.object (before ++ after))
        (.object (before ++ (some name, v) :: after))
  /-- The fields change their order. -/
  | reorder {fields : List (String × Shape)} {fs gs : List (Option String × Json)}
      (h : fs.Perm gs) : Alters (.record fields) (.object fs) (.object gs)
  /-- A declared field of an object is altered. -/
  | member {fields : List (String × Shape)} {before after : List (Option String × Json)}
      {name : String} {s : Shape} {v w : Json} (declared : fields.lookup name = some s)
      (h : Alters s v w) :
      Alters (.record fields) (.object (before ++ (some name, v) :: after))
        (.object (before ++ (some name, w) :: after))
  /-- A declared field of an array is altered. -/
  | place {fields : List (String × Shape)} {before after : List Json} {name : String} {s : Shape}
      {v w : Json} (declared : fields.lookup name = some s)
      (stands : (fields.map Prod.fst).idxOf name = before.length) (h : Alters s v w) :
      Alters (.record fields) (.array (before ++ v :: after)) (.array (before ++ w :: after))
  /-- An item of a list is altered. -/
  | item {s : Shape} {before after : List Json} {v w : Json} (h : Alters s v w) :
      Alters (.list s) (.array (before ++ v :: after)) (.array (before ++ w :: after))

theorem Alters.ne_null {s : Shape} {v w : Json} (h : Alters s v w) : v ≠ .null ∧ w ≠ .null := by
  cases h <;> exact ⟨nofun, nofun⟩

/-- What a relation says of values is true of the altered ones as of the others. -/
def Kept (s : Shape) (R : α → Json → Prop) : Prop :=
  ∀ v w, Alters s v w → ∀ a, R a v ↔ R a w

theorem kept_leaf {R : α → Json → Prop} : Kept .leaf R := by
  intro v w h
  cases h

/-! ## What stands under a name -/

/-- The values change their order, or one of them is replaced as `E` says. -/
inductive Shifts (E : Json → Json → Prop) : List Json → List Json → Prop where
  | reorder {vs ws : List Json} (h : vs.Perm ws) : Shifts E vs ws
  | replace {before after : List Json} {v w : Json} (h : E v w) :
      Shifts E (before ++ v :: after) (before ++ w :: after)

namespace Shifts

variable {E : Json → Json → Prop} {vs ws : List Json} {v : Json} {R : α → Json → Prop}

theorem flip (h : Shifts E vs ws) : Shifts (flip E) ws vs := by
  cases h with
  | reorder h => exact .reorder h.symm
  | replace h => exact .replace h

theorem eq_nil (h : Shifts E [] ws) : ws = [] := by
  generalize hvs : ([] : List Json) = vs at h
  cases h with
  | reorder h => subst hvs; exact h.nil_eq.symm
  | replace h => exact absurd hvs.symm (by simp)

theorem eq_singleton (h : Shifts E [v] ws) : ∃ w, ws = [w] ∧ (w = v ∨ E v w) := by
  generalize hvs : [v] = vs at h
  cases h with
  | reorder h => subst hvs; exact ⟨v, List.perm_singleton.1 h.symm, .inl rfl⟩
  | @replace before after x w h =>
    obtain ⟨rfl, rfl, rfl⟩ := singleton_eq_append_cons hvs
    exact ⟨w, rfl, .inr h⟩

theorem once (h : Shifts E vs ws) {R : Json → Prop} (hR : ∀ v w, E v w → R v → R w)
    (honce : Once R vs) : Once R ws := by
  obtain ⟨v, rfl, hv⟩ := honce
  obtain ⟨w, rfl, rfl | hw⟩ := h.eq_singleton
  · exact ⟨w, rfl, hv⟩
  · exact ⟨w, rfl, hR v w hw hv⟩

theorem atMostOnce (h : Shifts E vs ws) (hR : ∀ v w, E v w → ∀ a, R a v → R a w)
    (hnull : ∀ v w, E v w → v ≠ .null ∧ w ≠ .null) {a : Option α} (honce : AtMostOnce R a vs) :
    AtMostOnce R a ws := by
  cases a with
  | none =>
    rcases honce with rfl | rfl
    · exact .inl h.eq_nil
    · obtain ⟨w, rfl, rfl | hw⟩ := h.eq_singleton
      · exact .inr rfl
      · exact absurd rfl (hnull _ w hw).1
  | some a =>
    obtain ⟨v, rfl, hv, hRv⟩ := honce
    obtain ⟨w, rfl, rfl | hw⟩ := h.eq_singleton
    · exact ⟨w, rfl, hv, hRv⟩
    · exact ⟨w, rfl, (hnull v w hw).2, hR v w hw a hRv⟩

theorem listAtMostOnce (h : Shifts E vs ws)
    (hR : ∀ v w, E v w → ∀ as, IsArray R as v → IsArray R as w) {as : List α}
    (honce : ListAtMostOnce R as vs) : ListAtMostOnce R as ws := by
  rcases honce with ⟨rfl, rfl⟩ | ⟨v, rfl, hv⟩
  · exact .inl ⟨rfl, h.eq_nil⟩
  · obtain ⟨w, rfl, rfl | hw⟩ := h.eq_singleton
    · exact .inr ⟨w, rfl, hv⟩
    · exact .inr ⟨w, rfl, hR v w hw as hv⟩

end Shifts

namespace Kept

variable {s : Shape} {R : α → Json → Prop} {vs ws : List Json}

theorem once (h : Kept s R) (hs : Shifts (Alters s) vs ws) (a : α) :
    Once (R a) vs ↔ Once (R a) ws := by
  constructor
  · exact hs.once fun v w hvw => (h v w hvw a).1
  · exact hs.flip.once fun w v hvw => (h v w hvw a).2

theorem atMostOnce (h : Kept s R) (hs : Shifts (Alters s) vs ws) (a : Option α) :
    AtMostOnce R a vs ↔ AtMostOnce R a ws := by
  constructor
  · exact hs.atMostOnce (fun v w hvw a => (h v w hvw a).1) fun _ _ hvw => hvw.ne_null
  · exact hs.flip.atMostOnce (fun w v hvw a => (h v w hvw a).2) fun _ _ hvw =>
      ⟨(Alters.ne_null hvw).2, (Alters.ne_null hvw).1⟩

/-- An array of things that are kept is kept. -/
theorem list (h : Kept s R) : Kept (.list s) (IsArray R) := by
  intro v w hvw as
  cases hvw with
  | @item _ before after x y hxy =>
    have hitems : List.Forall₂ R as (before ++ x :: after) ↔
        List.Forall₂ R as (before ++ y :: after) := by
      induction before generalizing as with
      | nil =>
        rw [List.nil_append, List.nil_append, List.forall₂_cons_right_iff,
          List.forall₂_cons_right_iff]
        simp only [h x y hxy]
      | cons z before ih =>
        rw [List.cons_append, List.cons_append, List.forall₂_cons_right_iff,
          List.forall₂_cons_right_iff]
        simp only [ih]
    constructor
    · rintro ⟨vs, hvs, hall⟩
      cases hvs
      exact ⟨_, rfl, hitems.1 hall⟩
    · rintro ⟨vs, hvs, hall⟩
      cases hvs
      exact ⟨_, rfl, hitems.2 hall⟩

theorem listAtMostOnce (h : Kept s R) (hs : Shifts (Alters (.list s)) vs ws) (as : List α) :
    ListAtMostOnce R as vs ↔ ListAtMostOnce R as ws := by
  constructor
  · exact hs.listAtMostOnce fun v w hvw as => (h.list v w hvw as).1
  · exact hs.flip.listAtMostOnce fun w v hvw as => (h.list v w hvw as).2

end Kept

/-! ## Records -/

theorem Alters.isRecordForm_iff {fields : List (String × Shape)} {v w : Json}
    (h : Alters (.record fields) v w) (least : Nat) :
    IsRecordForm (fields.map Prod.fst) least v ↔ IsRecordForm (fields.map Prod.fst) least w := by
  cases h with
  | insert => simp [IsRecordForm, or_imp, forall_and]
  | reorder h => exact forall_congr' fun f => imp_congr_left h.mem_iff
  | member => simp [IsRecordForm, or_imp, forall_and]
  | place => simp [IsRecordForm]

/-- Under a declared name, an alteration of a record changes the order of the values, or alters one
    of them as its shape has it. -/
theorem Alters.shifts {fields : List (String × Shape)} {v w : Json}
    (h : Alters (.record fields) v w) {name : String} {s : Shape}
    (hname : fields.lookup name = some s) :
    Shifts (Alters s) (occurrences (fields.map Prod.fst) v name)
      (occurrences (fields.map Prod.fst) w name) := by
  have hmem : name ∈ fields.map Prod.fst := by
    obtain ⟨l₁, l₂, rfl, -⟩ := List.lookup_eq_some_iff.1 hname
    simp
  cases h with
  | @insert _ before after unknownName unknown x =>
    refine .reorder (List.Perm.of_eq ?_)
    have hne : unknownName ≠ name := by
      rintro rfl
      exact unknown hmem
    simp [occurrences, List.filterMap_append, hne]
  | reorder h => exact .reorder (h.filterMap _)
  | @member _ before after altered s' x y declared h =>
    by_cases hne : altered = name
    · subst hne
      obtain rfl : s' = s := Option.some.inj (declared.symm.trans hname)
      simp only [occurrences, List.filterMap_append, List.filterMap_cons, if_true]
      exact .replace h
    · refine .reorder (List.Perm.of_eq ?_)
      simp [occurrences, List.filterMap_append, hne]
  | @place _ before after altered s' x y declared stands h =>
    by_cases hne : altered = name
    · subst hne
      obtain rfl : s' = s := Option.some.inj (declared.symm.trans hname)
      have hat (z : Json) : (before ++ z :: after)[before.length]? = some z := by simp
      simp only [occurrences, stands, hat, Option.toList_some]
      exact @Shifts.replace _ [] [] x y h
    · refine .reorder (List.Perm.of_eq ?_)
      -- another name has another place
      have hplace : (fields.map Prod.fst).idxOf name ≠ before.length := by
        rw [← stands]
        exact fun he => hne ((List.idxOf_inj hmem).1 he).symm
      simp only [occurrences]
      rw [List.getElem?_append, List.getElem?_append]
      split
      · rfl
      · obtain ⟨i, hi⟩ : ∃ i, (fields.map Prod.fst).idxOf name - before.length = i + 1 :=
          ⟨_, (Nat.succ_pred_eq_of_pos (by omega)).symm⟩
        rw [hi, List.getElem?_cons_succ, List.getElem?_cons_succ]

/-- A record is kept if its condition holds of what stands under the declared names before an
    alteration exactly if it does after it. -/
theorem Kept.record {fields : List (String × Shape)} {least : Nat}
    {P : α → (String → List Json) → Prop}
    (hP : ∀ a field field',
      (∀ name s, fields.lookup name = some s → Shifts (Alters s) (field name) (field' name)) →
      (P a field ↔ P a field')) :
    Kept (.record fields) fun a => IsRecord (fields.map Prod.fst) least (P a) := by
  intro v w h a
  exact and_congr (h.isRecordForm_iff least) (hP a _ _ fun _ _ hname => h.shifts hname)

end CloudRoster.Json
