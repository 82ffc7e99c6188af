/-
  What a record asks of a value, and that nothing else is read as one.

  `Json.record?` brings both written forms of a record to one list of fields.  Here the same is said
  from the side of the value, as it is written: `occurrences names v name` are the values that stand
  in `v` under a declared name, and `IsRecord names least P v` says that `v` has one of the two
  forms and that what stands under the names is as `P` says.  A field's own rule is a condition on
  its occurrences: exactly one (`Once`), at most one and possibly null (`AtMostOnce`), at most one
  list (`ListAtMostOnce`).

  **Headline** (`reads_record`): a record is read from a value exactly if the value is one, as long
  as its numbers are spelled as numbers are (`IsProper`, which holds of whatever a document holds).
-/
import Mathlib.Data.List.Nodup
import CloudRoster.Proofs.Json.Grammar
import CloudRoster.Proofs.Json.Record

namespace CloudRoster.Json

variable {α β : Type}

/-! ## What stands under a name -/

/-- The values under a declared name: in an object those of all fields of that name, in an array the
    item at the name's place in the declaration. -/
def occurrences (names : List String) : Json → String → List Json
  | .object fs, name => fs.filterMap fun f => if f.1 = some name then some f.2 else none
  | .array vs, name => (vs[names.idxOf name]?).toList
  | _, _ => []

/-- An object whose keys are all texts, or an array that leaves out only fields with a default, at
    the end, and has no more items than there are fields. -/
def IsRecordForm (names : List String) (least : Nat) : Json → Prop
  | .object fs => ∀ f ∈ fs, f.1 ≠ none
  | .array vs => least ≤ vs.length ∧ vs.length ≤ names.length
  | _ => False

/-- A value is a record, and what stands under each name is as `P` says. -/
def IsRecord (names : List String) (least : Nat) (P : (String → List Json) → Prop) (v : Json) :
    Prop :=
  IsRecordForm names least v ∧ P (occurrences names v)

/-! ## What may stand under a name -/

/-- Exactly one value, and it is as `R` says. -/
def Once (R : Json → Prop) (vs : List Json) : Prop := ∃ v, vs = [v] ∧ R v

/-- At most one value: null tells nothing, and any other is as `R` says. -/
def AtMostOnce (R : α → Json → Prop) : Option α → List Json → Prop
  | none, vs => vs = [] ∨ vs = [.null]
  | some a, vs => ∃ v, vs = [v] ∧ v ≠ .null ∧ R a v

/-- At most one value, and it is an array, never null. -/
def ListAtMostOnce (R : α → Json → Prop) (as : List α) (vs : List Json) : Prop :=
  as = [] ∧ vs = [] ∨ ∃ v, vs = [v] ∧ IsArray R as v

theorem Once.length_le {R : Json → Prop} {vs : List Json} (h : Once R vs) : vs.length ≤ 1 := by
  obtain ⟨v, rfl, -⟩ := h
  exact Nat.le_refl 1

theorem AtMostOnce.length_le {R : α → Json → Prop} {a : Option α} {vs : List Json}
    (h : AtMostOnce R a vs) : vs.length ≤ 1 := by
  cases a with
  | none => rcases h with rfl | rfl <;> simp
  | some a => obtain ⟨v, rfl, -⟩ := h; exact Nat.le_refl 1

theorem ListAtMostOnce.length_le {R : α → Json → Prop} {as : List α} {vs : List Json}
    (h : ListAtMostOnce R as vs) : vs.length ≤ 1 := by
  rcases h with ⟨-, rfl⟩ | ⟨v, rfl, -⟩
  · exact Nat.zero_le 1
  · exact Nat.le_refl 1

/-! ## Values whose numbers are numbers -/

/-- Every number in a value is spelled as a number is. -/
def IsProper (v : Json) : Prop := ∀ l, Token.number l ∈ v.tokens → IsNumber l

theorem tokens_subset_moreItems {v : Json} {vs : List Json} (h : v ∈ vs) :
    v.tokens ⊆ moreItems vs := by
  induction vs with
  | nil => cases h
  | cons w vs ih =>
    intro t ht
    rw [moreItems]
    refine List.mem_cons_of_mem _ (List.mem_append.2 ?_)
    rcases List.mem_cons.1 h with rfl | h
    · exact .inl ht
    · exact .inr (ih h ht)

theorem tokens_subset_moreFields {f : Option String × Json} {fs : List (Option String × Json)}
    (h : f ∈ fs) : f.2.tokens ⊆ moreFields fs := by
  induction fs with
  | nil => cases h
  | cons g fs ih =>
    intro t ht
    rw [moreFields]
    refine List.mem_cons_of_mem _ (List.mem_cons_of_mem _ (List.mem_cons_of_mem _ ?_))
    rw [List.mem_append]
    rcases List.mem_cons.1 h with rfl | h
    · exact .inl ht
    · exact .inr (ih h ht)

theorem tokens_subset_array {v : Json} {vs : List Json} (h : v ∈ vs) :
    v.tokens ⊆ tokens (.array vs) := by
  intro t ht
  cases vs with
  | nil => cases h
  | cons w vs =>
    rw [tokens]
    refine List.mem_cons_of_mem _ (List.mem_append.2 ?_)
    rcases List.mem_cons.1 h with rfl | h
    · exact .inl ht
    · exact .inr (tokens_subset_moreItems h ht)

theorem tokens_subset_object {f : Option String × Json} {fs : List (Option String × Json)}
    (h : f ∈ fs) : f.2.tokens ⊆ tokens (.object fs) := by
  intro t ht
  cases fs with
  | nil => cases h
  | cons g fs =>
    obtain ⟨k, w⟩ := g
    rw [tokens]
    refine List.mem_cons_of_mem _ (List.mem_cons_of_mem _ (List.mem_cons_of_mem _ ?_))
    rw [List.mem_append]
    rcases List.mem_cons.1 h with rfl | h
    · exact .inl ht
    · exact .inr (tokens_subset_moreFields h ht)

theorem IsProper.item {vs : List Json} (h : IsProper (.array vs)) {v : Json} (hv : v ∈ vs) :
    v.IsProper := fun l hl => h l (tokens_subset_array hv hl)

theorem IsProper.occurrence {names : List String} {v : Json} (h : v.IsProper) {name : String}
    {x : Json} (hx : x ∈ v.occurrences names name) : x.IsProper := by
  cases v with
  | object fs =>
    obtain ⟨f, hf, hfx⟩ := List.mem_filterMap.1 hx
    split at hfx
    · cases hfx
      exact fun l hl => h l (tokens_subset_object hf hl)
    · cases hfx
  | array vs =>
    have hx : vs[names.idxOf name]? = some x := Option.mem_toList.1 hx
    exact h.item (List.mem_of_getElem? hx)
  | _ => exact absurd hx List.not_mem_nil

/-- The numbers of a document are spelled as numbers are. -/
theorem Renders.isProper {v : Json} {s : List UInt8} (h : v.Renders s) : v.IsProper := by
  have hall {ts : List Token} {s : List UInt8} (h : Rendered ts s) :
      ∀ l, Token.number l ∈ ts → IsNumber l := by
    induction h with
    | nil => exact fun l hl => absurd hl List.not_mem_nil
    | cons _ first _ ih =>
      intro l hl
      rcases List.mem_cons.1 hl with rfl | hl
      · rcases first with first | ⟨hno, -⟩
        · exact first.1
        · cases hno
      · exact ih l hl
  exact hall h

/-- Values are read by `value` exactly as `R` describes them. -/
def Reads (value : Json → Option α) (R : α → Json → Prop) : Prop :=
  ∀ v : Json, v.IsProper → ∀ a, value v = some a ↔ R a v

/-! ## Records are read -/

/-- Keys that are all text, as they stand. -/
theorem eq_map_of_mapM {fs : List (Option String × Json)} {named : Fields}
    (h : fs.mapM (fun f => f.1.map fun name => (name, f.2)) = some named) :
    fs = named.map fun f => (some f.1, f.2) := by
  have hall := mapM_eq_some_iff.1 h
  clear h
  induction hall with
  | nil => rfl
  | @cons f g fs named hf _ ih =>
    obtain ⟨name, hname, rfl⟩ := Option.map_eq_some_iff.1 hf
    rw [List.map_cons, ← ih, ← hname]

theorem exists_named {fs : List (Option String × Json)} (h : ∀ f ∈ fs, f.1 ≠ none) :
    ∃ named : Fields, fs = named.map fun f => (some f.1, f.2) := by
  induction fs with
  | nil => exact ⟨[], rfl⟩
  | cons f fs ih =>
    obtain ⟨hf, hfs⟩ := List.forall_mem_cons.1 h
    obtain ⟨named, rfl⟩ := ih hfs
    obtain ⟨name, hname⟩ := Option.ne_none_iff_exists'.1 hf
    exact ⟨(name, f.2) :: named, by rw [List.map_cons, ← hname]⟩

/-- As often as a name is among the keys, a value stands under it. -/
theorem length_occurrences (names : List String) (named : Fields) (name : String) :
    (occurrences names (.object (named.map fun f => (some f.1, f.2))) name).length =
      (named.map Prod.fst).count name := by
  rw [occurrences]
  induction named with
  | nil => rfl
  | cons f named ih =>
    rw [List.map_cons, List.filterMap_cons, List.map_cons, List.count_cons, ← ih]
    by_cases hf : f.1 = name
    · simp [hf]
    · simp [hf]

/-- The known fields of an object differ in name if each name stands there at most once. -/
theorem nodup_known_iff (names : List String) (named : Fields) :
    ((named.filter fun f => names.contains f.1).map Prod.fst).Nodup ↔
      ∀ name ∈ names,
        (occurrences names (.object (named.map fun f => (some f.1, f.2))) name).length ≤ 1 := by
  have hkeys : (named.filter fun f => names.contains f.1).map Prod.fst =
      (named.map Prod.fst).filter names.contains := by
    rw [List.filter_map]
    rfl
  rw [hkeys, List.nodup_iff_count_le_one]
  constructor
  · intro h name hname
    have hcount := h name
    rw [List.count_filter (List.contains_iff_mem.2 hname)] at hcount
    rw [length_occurrences]
    exact hcount
  · intro h name
    by_cases hname : name ∈ names
    · rw [List.count_filter (List.contains_iff_mem.2 hname), ← length_occurrences names]
      exact h name hname
    -- a name that is not declared is no known one
    · have hno : name ∉ (named.map Prod.fst).filter names.contains := fun hmem =>
        hname (List.contains_iff_mem.1 (List.mem_filter.1 hmem).2)
      rw [List.count_eq_zero_of_not_mem hno]
      exact Nat.zero_le 1

/-- There is a record to read if the value has the form of one, and no name stands there twice. -/
theorem exists_record?_iff {names : List String} {least : Nat} {v : Json} :
    (∃ fs, v.record? names least = some fs) ↔
      IsRecordForm names least v ∧ ∀ name ∈ names, (v.occurrences names name).length ≤ 1 := by
  cases v with
  | object fs =>
    constructor
    · rintro ⟨known, h⟩
      simp only [record?, Option.bind_eq_bind, Option.bind_eq_some_iff] at h
      obtain ⟨named, hnamed, h⟩ := h
      obtain rfl := eq_map_of_mapM hnamed
      split at h
      · next hnodup =>
        refine ⟨?_, (nodup_known_iff names named).1 hnodup⟩
        exact List.forall_mem_map.2 fun f _ => Option.some_ne_none f.1
      · cases h
    · rintro ⟨hkeys, honce⟩
      obtain ⟨named, rfl⟩ := exists_named hkeys
      have hnodup := (nodup_known_iff names named).2 honce
      refine ⟨named.filter fun f => names.contains f.1, ?_⟩
      simp only [record?, mapM_named, Option.bind_eq_bind, Option.bind_some, if_pos hnodup]
  | array vs =>
    constructor
    · rintro ⟨known, h⟩
      simp only [record?] at h
      split at h
      · next hform =>
        refine ⟨hform, fun name _ => ?_⟩
        rw [occurrences]
        cases vs[names.idxOf name]? <;> simp
      · cases h
    · rintro ⟨hform, -⟩
      exact ⟨_, if_pos hform⟩
  | _ =>
    constructor
    · rintro ⟨known, h⟩
      cases h
    · rintro ⟨hform, -⟩
      exact hform.elim

/-- A field of a record is the first value that stands under its name. -/
theorem lookup_record? {names : List String} {least : Nat} {v : Json} {fs : Fields} {name : String}
    (h : v.record? names least = some fs) (hname : name ∈ names) :
    fs.lookup name = (v.occurrences names name).head? := by
  rw [record?_lookup h hname]
  cases v with
  | object members =>
    show members.lookup (some name) = (List.filterMap _ members).head?
    clear h
    induction members with
    | nil => rfl
    | cons f members ih =>
      rw [List.lookup_cons, List.filterMap_cons]
      by_cases hf : f.1 = some name
      · rw [hf]; simp
      · rw [if_neg hf, beq_false_of_ne (Ne.symm hf)]
        exact ih
  | array vs =>
    show vs[names.idxOf name]? = (vs[names.idxOf name]?).toList.head?
    cases vs[names.idxOf name]? <;> rfl
  | _ => rfl

/-- Fields that a record has read, beside what stands under the names. -/
structure Gives (names : List String) (fs : Fields) (field : String → List Json) : Prop where
  lookup : ∀ name ∈ names, fs.lookup name = (field name).head?
  length_le : ∀ name ∈ names, (field name).length ≤ 1
  proper : ∀ name ∈ names, ∀ x ∈ field name, IsProper x

namespace Gives

variable {names : List String} {fs : Fields} {field : String → List Json}
  {value : Json → Option α} {R : α → Json → Prop}

/-- At most one value stands under a name. -/
theorem none_or_one (h : Gives names fs field) {name : String} (hname : name ∈ names) :
    field name = [] ∧ fs.lookup name = none ∨
      ∃ v : Json, field name = [v] ∧ fs.lookup name = some v ∧ v.IsProper := by
  have hlookup := h.lookup name hname
  have hlength := h.length_le name hname
  have hproper := h.proper name hname
  match hvs : field name with
  | [] => rw [hvs] at hlookup; exact .inl ⟨rfl, hlookup⟩
  | [v] =>
    rw [hvs] at hlookup hproper
    exact .inr ⟨v, rfl, hlookup, hproper v List.mem_cons_self⟩
  | _ :: _ :: _ => rw [hvs] at hlength; simp at hlength

theorem required?_iff (h : Gives names fs field) (name : String) (hname : name ∈ names)
    (hread : Reads value R) {a : α} :
    fs.required? name value = some a ↔ Once (R a) (field name) := by
  rw [Fields.required?]
  rcases h.none_or_one hname with ⟨hfield, hlookup⟩ | ⟨v, hfield, hlookup, hv⟩
  · rw [hfield, hlookup]
    constructor
    · intro h; cases h
    · rintro ⟨v, h, -⟩; cases h
  · rw [hfield, hlookup, Option.bind_some, hread v hv]
    constructor
    · exact fun h => ⟨v, rfl, h⟩
    · rintro ⟨w, hw, h⟩
      obtain ⟨rfl, -⟩ := List.cons.inj hw
      exact h

theorem optional?_iff (h : Gives names fs field) (name : String) (hname : name ∈ names)
    (hread : Reads value R) {a : Option α} :
    fs.optional? name value = some a ↔ AtMostOnce R a (field name) := by
  rw [Fields.optional?]
  rcases h.none_or_one hname with ⟨hfield, hlookup⟩ | ⟨v, hfield, hlookup, hv⟩
  · rw [hfield, hlookup]
    cases a with
    | none => exact ⟨fun _ => .inl rfl, fun _ => rfl⟩
    | some a =>
      constructor
      · intro h; cases h
      · rintro ⟨v, h, -⟩; cases h
  · rw [hfield, hlookup]
    show nullable? value v = some a ↔ _
    by_cases hnull : v = .null
    · subst hnull
      cases a with
      | none => exact ⟨fun _ => .inr rfl, fun _ => rfl⟩
      | some a =>
        constructor
        · intro h; cases h
        · rintro ⟨w, hw, hne, -⟩
          obtain ⟨rfl, -⟩ := List.cons.inj hw
          exact absurd rfl hne
    · rw [nullable?_of_ne hnull, Option.map_eq_some_iff]
      cases a with
      | none =>
        constructor
        · rintro ⟨b, -, h⟩; cases h
        · rintro (h | h)
          · cases h
          · exact absurd (List.cons.inj h).1 hnull
      | some a =>
        constructor
        · rintro ⟨b, hb, h⟩
          cases h
          exact ⟨v, rfl, hnull, (hread v hv _).1 hb⟩
        · rintro ⟨w, hw, -, h⟩
          obtain ⟨rfl, -⟩ := List.cons.inj hw
          exact ⟨a, (hread v hv a).2 h, rfl⟩

end Gives

theorem Reads.list {item : Json → Option α} {R : α → Json → Prop} (hread : Reads item R) :
    Reads (list? item) (IsArray R) := by
  have hitems {vs : List Json} {as : List α} (hvs : ∀ v ∈ vs, IsProper v) :
      List.Forall₂ (fun v a => item v = some a) vs as ↔ List.Forall₂ R as vs := by
    induction vs generalizing as with
    | nil => simp
    | cons v vs ih =>
      obtain ⟨hv, hvs⟩ := List.forall_mem_cons.1 hvs
      rw [List.forall₂_cons_left_iff, List.forall₂_cons_right_iff]
      constructor
      · rintro ⟨a, as, ha, has, rfl⟩
        exact ⟨a, as, (hread v hv a).1 ha, (ih hvs).1 has, rfl⟩
      · rintro ⟨a, as, ha, has, rfl⟩
        exact ⟨a, as, (hread v hv a).2 ha, (ih hvs).2 has, rfl⟩
  intro v hv as
  cases v with
  | array vs =>
    rw [list?, mapM_eq_some_iff, hitems fun w hw => hv.item hw]
    constructor
    · exact fun h => ⟨vs, rfl, h⟩
    · rintro ⟨ws, hws, h⟩
      cases hws
      exact h
  | _ =>
    constructor
    · intro h; cases h
    · rintro ⟨vs, h, -⟩; cases h

theorem Gives.listOrEmpty?_iff {names : List String} {fs : Fields} {field : String → List Json}
    {item : Json → Option α} {R : α → Json → Prop} (h : Gives names fs field) (name : String)
    (hname : name ∈ names) (hread : Reads item R) {as : List α} :
    fs.listOrEmpty? name item = some as ↔ ListAtMostOnce R as (field name) := by
  rw [Fields.listOrEmpty?]
  rcases h.none_or_one hname with ⟨hfield, hlookup⟩ | ⟨v, hfield, hlookup, hv⟩
  · rw [hfield, hlookup]
    constructor
    · intro h
      cases h
      exact .inl ⟨rfl, rfl⟩
    · rintro (⟨rfl, -⟩ | ⟨v, h, -⟩)
      · rfl
      · cases h
  · rw [hfield, hlookup]
    show list? item v = some as ↔ _
    rw [hread.list v hv]
    constructor
    · exact fun h => .inr ⟨v, rfl, h⟩
    · rintro (⟨-, h⟩ | ⟨w, hw, h⟩)
      · cases h
      · obtain ⟨rfl, -⟩ := List.cons.inj hw
        exact h

/-- **A record is read from the values that are one, and from no others.** -/
theorem reads_record {names : List String} {least : Nat} {f : Fields → Option β}
    {P : β → (String → List Json) → Prop}
    (hread : ∀ fs field, Gives names fs field → ∀ b, f fs = some b ↔ P b field)
    (honce : ∀ b field, P b field → ∀ name ∈ names, (field name).length ≤ 1) :
    Reads (fun v => (v.record? names least).bind f) fun b => IsRecord names least (P b) := by
  intro v hv b
  have hgives {fs : Fields} (h : v.record? names least = some fs) :
      Gives names fs (v.occurrences names) :=
    { lookup := fun name hname => lookup_record? h hname
      length_le := (exists_record?_iff.1 ⟨fs, h⟩).2
      proper := fun _ _ _ hx => hv.occurrence hx }
  show (v.record? names least).bind f = some b ↔ _
  rw [Option.bind_eq_some_iff]
  constructor
  · rintro ⟨fs, hfs, hb⟩
    exact ⟨(exists_record?_iff.1 ⟨fs, hfs⟩).1, (hread fs _ (hgives hfs) b).1 hb⟩
  · rintro ⟨hform, hP⟩
    obtain ⟨fs, hfs⟩ := exists_record?_iff.2 ⟨hform, honce b _ hP⟩
    exact ⟨fs, hfs, (hread fs _ (hgives hfs) b).2 hP⟩

end CloudRoster.Json
