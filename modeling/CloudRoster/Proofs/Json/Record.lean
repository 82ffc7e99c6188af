/-
  Where a record's fields stand in a JSON value.

  A record has two written forms, and `Json.record?` brings both to one list of named values.  Going
  the other way, a field of that list is the object's first member of its name, or the array's item
  at its place in the declaration: `Json.member?`, which looks at the value as it is written
  (`record?_lookup`).  So what a reader of records says of a field can be said of the document.

  The second half says what a document tells by its fields, whatever else it holds: an object whose
  keys differ (`IsObject`), with a field that has to be there (`Has`), one that is absent or null
  (`Lacks`), or a list (`HasList`).  A record reads such an object in any order of its fields and
  with any further ones (`exists_record?`).
-/
import CloudRoster.Json.Record
import CloudRoster.Proofs.Collect

namespace CloudRoster.Json

variable {α : Type}

/-! ## Members -/

/-- The member of an object with a name, or the item of an array at a place. -/
def member? (name : String) (place : Nat) : Json → Option Json
  | .object fs => fs.lookup (some name)
  | .array vs => vs[place]?
  | _ => none

/-- A value that is not null. -/
def present? : Json → Option Json
  | .null => none
  | v => some v

theorem bind_present?_member? (v : Option Json) (name : String) (place : Nat) :
    (v.bind present?).bind (member? name place) = v.bind (member? name place) := by
  rcases v with _ | v
  · rfl
  · cases v <;> rfl

/-! ## Fields -/

theorem lookup_zip {names : List String} {name : String} (h : name ∈ names) (vs : List Json) :
    (names.zip vs).lookup name = vs[names.idxOf name]? := by
  induction names generalizing vs with
  | nil => cases h
  | cons n names ih =>
    cases vs with
    | nil => rw [List.zip_nil_right, List.lookup_nil, List.getElem?_nil]
    | cons v vs =>
      rw [List.zip_cons_cons, List.lookup_cons, List.idxOf_cons]
      by_cases hn : name = n
      · subst hn; simp
      · have hmem : name ∈ names := (List.mem_cons.1 h).resolve_left hn
        rw [beq_false_of_ne hn, beq_false_of_ne (Ne.symm hn)]
        simpa using ih hmem vs

/-- Keys that are all text can be looked up as texts. -/
theorem lookup_of_mapM {fs : List (Option String × Json)} {named : Fields}
    (h : fs.mapM (fun f => f.1.map fun name => (name, f.2)) = some named) (name : String) :
    named.lookup name = fs.lookup (some name) := by
  induction fs generalizing named with
  | nil => cases h; rfl
  | cons f fs ih =>
    obtain ⟨key, v⟩ := f
    cases key with
    | none => simp at h
    | some key =>
      simp only [List.mapM_cons, Option.map_some, Option.pure_def, Option.bind_eq_bind,
        Option.bind_some, Option.bind_eq_some_iff, Option.some.injEq] at h
      obtain ⟨rest, hrest, rfl⟩ := h
      rw [List.lookup_cons, List.lookup_cons, ih hrest]
      rfl

theorem lookup_filter {names : List String} {name : String} (h : name ∈ names) (fs : Fields) :
    (fs.filter fun f => names.contains f.1).lookup name = fs.lookup name := by
  induction fs with
  | nil => rfl
  | cons f fs ih =>
    by_cases hf : names.contains f.1 = true
    · rw [List.filter_cons, if_pos hf, List.lookup_cons, List.lookup_cons, ih]
    · rw [List.filter_cons, if_neg hf, List.lookup_cons, ih]
      have hne : name ≠ f.1 := by
        rintro rfl
        exact hf (List.contains_iff_mem.2 h)
      rw [beq_false_of_ne hne]

/-- A field of a record stands under its name, or at its place. -/
theorem record?_lookup {names : List String} {least : Nat} {v : Json} {fs : Fields} {name : String}
    (h : v.record? names least = some fs) (hname : name ∈ names) :
    fs.lookup name = v.member? name (names.idxOf name) := by
  cases v with
  | object members =>
    simp only [record?, Option.bind_eq_bind, Option.bind_eq_some_iff] at h
    obtain ⟨named, hnamed, h⟩ := h
    split at h
    · cases h
      rw [lookup_filter hname, lookup_of_mapM hnamed]
      rfl
    · cases h
  | array vs =>
    simp only [record?] at h
    split at h
    · cases h
      exact lookup_zip hname vs
    · cases h
  | null => cases h
  | bool b => cases h
  | number l => cases h
  | text t => cases h

/-- A field that may be absent or null is read wherever it is neither. -/
theorem map_present?_of_optional? {fs : Fields} {name : String} {value : Json → Option α}
    {a : Option α} (h : fs.optional? name value = some a) :
    ((fs.lookup name).bind present?).map value = a.map some := by
  rw [Fields.optional?] at h
  cases hv : fs.lookup name with
  | none => rw [hv] at h; cases h; rfl
  | some v =>
    rw [hv] at h
    cases v with
    | null => cases h; rfl
    | _ =>
      obtain ⟨b, hb, rfl⟩ := Option.map_eq_some_iff.1 h
      exact congrArg some hb

theorem nullable?_of_ne {value : Json → Option α} {v : Json} (h : v ≠ .null) :
    nullable? value v = (value v).map some := by
  cases v with
  | null => exact absurd rfl h
  | _ => rfl

/-! ## Objects that tell something by their fields -/

/-- A field with a name is there, and its value is as `R` says. -/
def Has (fs : Fields) (name : String) (R : Json → Prop) : Prop :=
  ∃ v, fs.lookup name = some v ∧ R v

/-- A field is absent or null. -/
def Lacks (fs : Fields) (name : String) : Prop :=
  fs.lookup name = none ∨ fs.lookup name = some .null

/-- A field tells what need not be there. -/
def MayHave (fs : Fields) (name : String) (R : α → Json → Prop) : Option α → Prop
  | none => Lacks fs name
  | some a => Has fs name (R a)

/-- A value is an array with one item for each of a list. -/
def IsArray (R : α → Json → Prop) (as : List α) (v : Json) : Prop :=
  ∃ vs, v = .array vs ∧ List.Forall₂ R as vs

/-- A field tells a list, which may be left out if it is empty. -/
def HasList (fs : Fields) (name : String) (R : α → Json → Prop) (as : List α) : Prop :=
  Has fs name (IsArray R as) ∨ as = [] ∧ fs.lookup name = none

/-- A value is an object with keys that differ, and its fields are as `P` says. -/
def IsObject (P : Fields → Prop) (v : Json) : Prop :=
  ∃ fs : Fields, v = .object (fs.map fun f => (some f.1, f.2)) ∧ (fs.map Prod.fst).Nodup ∧ P fs

theorem mapM_named (fs : Fields) :
    (fs.map fun f => (some f.1, f.2)).mapM
      (fun f : Option String × Json => f.1.map fun name => (name, f.2)) = some fs := by
  rw [mapM_eq_some_iff, List.forall₂_map_left_iff]
  exact List.forall₂_same.2 fun f _ => rfl

/-- A record reads an object, and finds in it what stands there. -/
theorem exists_record? {P : Fields → Prop} {v : Json} (h : IsObject P v) (names : List String)
    (least : Nat) :
    ∃ fs known, P fs ∧ v.record? names least = some known ∧
      ∀ name ∈ names, known.lookup name = fs.lookup name := by
  obtain ⟨fs, rfl, hnodup, hfs⟩ := h
  refine ⟨fs, fs.filter fun f => names.contains f.1, hfs, ?_, fun name hname =>
    lookup_filter hname fs⟩
  have hknown : ((fs.filter fun f => names.contains f.1).map Prod.fst).Nodup :=
    hnodup.sublist ((List.filter_sublist).map _)
  simp only [record?, mapM_named, Option.bind_eq_bind, Option.bind_some, if_pos hknown]

section

variable {fs known : Fields} {name : String} {β : Type} {value : Json → Option β}

theorem required?_of_has {R : Json → Prop} {S : β → Prop} (h : Has fs name R)
    (hlookup : known.lookup name = fs.lookup name) (read : ∀ v, R v → ∃ b, value v = some b ∧ S b) :
    ∃ b, known.required? name value = some b ∧ S b := by
  obtain ⟨v, hv, hR⟩ := h
  obtain ⟨b, hb, hS⟩ := read v hR
  refine ⟨b, ?_, hS⟩
  rw [Fields.required?, hlookup, hv, Option.bind_some, hb]

theorem required?_eq_of_has {R : Json → Prop} {b : β} (h : Has fs name R)
    (hlookup : known.lookup name = fs.lookup name) (read : ∀ v, R v → value v = some b) :
    known.required? name value = some b := by
  obtain ⟨v, hv, hR⟩ := h
  rw [Fields.required?, hlookup, hv, Option.bind_some, read v hR]

theorem optional?_of_lacks (h : Lacks fs name) (hlookup : known.lookup name = fs.lookup name) :
    known.optional? name value = some none := by
  rw [Fields.optional?, hlookup]
  rcases h with h | h
  · rw [h]
  · rw [h]
    rfl

theorem optional?_of_has {R : Json → Prop} {S : β → Prop} (h : Has fs name R)
    (hlookup : known.lookup name = fs.lookup name) (hnull : ¬R .null)
    (read : ∀ v, R v → ∃ b, value v = some b ∧ S b) :
    ∃ b, known.optional? name value = some (some b) ∧ S b := by
  obtain ⟨v, hv, hR⟩ := h
  obtain ⟨b, hb, hS⟩ := read v hR
  refine ⟨b, ?_, hS⟩
  have hne : v ≠ .null := fun he => hnull (he ▸ hR)
  have hread : nullable? value v = (value v).map some := nullable?_of_ne hne
  rw [Fields.optional?, hlookup, hv]
  exact hread.trans (congrArg (Option.map some) hb)

theorem optional?_of_mayHave {R : α → Json → Prop} {S : α → β → Prop} {a : Option α}
    (h : MayHave fs name R a) (hlookup : known.lookup name = fs.lookup name)
    (hnull : ∀ a, ¬R a .null) (read : ∀ a v, R a v → ∃ b, value v = some b ∧ S a b) :
    ∃ b, known.optional? name value = some b ∧ Option.Rel S a b := by
  cases a with
  | none => exact ⟨none, optional?_of_lacks h hlookup, .none⟩
  | some a =>
    obtain ⟨b, hb, hS⟩ := optional?_of_has h hlookup (hnull a) (read a)
    exact ⟨some b, hb, .some hS⟩

theorem list?_of_isArray {R : α → Json → Prop} {S : α → β → Prop} {as : List α} {v : Json}
    (h : IsArray R as v) (read : ∀ a v, R a v → ∃ b, value v = some b ∧ S a b) :
    ∃ bs, list? value v = some bs ∧ List.Forall₂ S as bs := by
  obtain ⟨vs, rfl, hvs⟩ := h
  exact exists_mapM_of_forall₂ read hvs

theorem listOrEmpty?_of_hasList {R : α → Json → Prop} {S : α → β → Prop} {as : List α}
    (h : HasList fs name R as) (hlookup : known.lookup name = fs.lookup name)
    (read : ∀ a v, R a v → ∃ b, value v = some b ∧ S a b) :
    ∃ bs, known.listOrEmpty? name value = some bs ∧ List.Forall₂ S as bs := by
  rw [Fields.listOrEmpty?, hlookup]
  rcases h with ⟨v, hv, hR⟩ | ⟨rfl, hnone⟩
  · rw [hv]
    exact list?_of_isArray hR read
  · rw [hnone]
    exact ⟨[], rfl, .nil⟩

end

end CloudRoster.Json
