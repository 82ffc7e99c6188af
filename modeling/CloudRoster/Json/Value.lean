/-
  JSON values, and building them from tokens.

  A value keeps what a document says, in its order: the fields of an object are a list, so a
  repeated key is there twice, and a string or key that spells no text is `none`.

  1. **Program** - `Json.ofTokens?` descends into the tokens; the count of tokens bounds the
     recursion, because every value takes at least one.
  2. **Specification** - `Json.tokens v` writes a value down.  Tokens leave no freedom of spelling,
     so reading accepts exactly what writing produces: `ofTokens?_eq_some_iff`.
-/
import CloudRoster.Json.Token

namespace CloudRoster

/-- A JSON value.  A number is kept as it is written. -/
inductive Json where
  | null
  | bool (b : Bool)
  | number (literal : List Char)
  | text (content : Option String)
  | array (items : List Json)
  | object (fields : List (Option String × Json))

namespace Json

/-! ## Writing -/

mutual

/-- The tokens of a value. -/
def tokens : Json → List Token
  | .null => [.null]
  | .bool b => [.bool b]
  | .number l => [.number l]
  | .text t => [.text t]
  | .array [] => [.beginArray, .endArray]
  | .array (v :: vs) => .beginArray :: (tokens v ++ moreItems vs)
  | .object [] => [.beginObject, .endObject]
  | .object ((k, v) :: fs) => .beginObject :: .text k :: .colon :: (tokens v ++ moreFields fs)

/-- The tokens after the first item of an array, to its end. -/
def moreItems : List Json → List Token
  | [] => [.endArray]
  | v :: vs => .comma :: (tokens v ++ moreItems vs)

/-- The tokens after the first field of an object, to its end. -/
def moreFields : List (Option String × Json) → List Token
  | [] => [.endObject]
  | (k, v) :: fs => .comma :: .text k :: .colon :: (tokens v ++ moreFields fs)

end

/-! ## Reading -/

mutual

/-- The value at the front of the tokens, and what follows it.  The number bounds the depth of the
    recursion, and the count of the tokens is always enough (`value?_tokens`). -/
def value? : Nat → List Token → Option (Json × List Token)
  | 0, _ => none
  | n + 1, ts =>
    match ts with
    | .null :: r => some (.null, r)
    | .bool b :: r => some (.bool b, r)
    | .number l :: r => some (.number l, r)
    | .text t :: r => some (.text t, r)
    | .beginArray :: .endArray :: r => some (.array [], r)
    | .beginArray :: r => (items? n r).map fun (vs, r) => (.array vs, r)
    | .beginObject :: .endObject :: r => some (.object [], r)
    | .beginObject :: r => (fields? n r).map fun (fs, r) => (.object fs, r)
    | _ => none

/-- The items up to the end of an array that has at least one, and what follows. -/
def items? : Nat → List Token → Option (List Json × List Token)
  | 0, _ => none
  | n + 1, ts =>
    (value? n ts).bind fun (v, r) =>
      match r with
      | .endArray :: r => some ([v], r)
      | .comma :: r => (items? n r).map fun (vs, r) => (v :: vs, r)
      | _ => none

/-- The fields up to the end of an object that has at least one, and what follows. -/
def fields? : Nat → List Token → Option (List (Option String × Json) × List Token)
  | 0, _ => none
  | n + 1, ts =>
    match ts with
    | .text k :: .colon :: r =>
      (value? n r).bind fun (v, r) =>
        match r with
        | .endObject :: r => some ([(k, v)], r)
        | .comma :: r => (fields? n r).map fun (fs, r) => ((k, v) :: fs, r)
        | _ => none
    | _ => none

end

/-- The value that the tokens are, to the last of them. -/
def ofTokens? (ts : List Token) : Option Json :=
  match value? ts.length ts with
  | some (v, []) => some v
  | _ => none

/-- The value that a document holds. -/
def ofBytes? (s : List UInt8) : Option Json := (Token.lex s).bind ofTokens?

/-! ## Reading accepts only what writing produces -/

/-- The tokens of items and fields that stand between their brackets. -/
theorem sound (n : Nat) :
    (∀ ts v r, value? n ts = some (v, r) → ts = tokens v ++ r) ∧
    (∀ ts vs r, items? n ts = some (vs, r) →
      ∃ v vs', vs = v :: vs' ∧ ts = tokens v ++ moreItems vs' ++ r) ∧
    (∀ ts fs r, fields? n ts = some (fs, r) →
      ∃ k v fs', fs = (k, v) :: fs' ∧
        ts = .text k :: .colon :: (tokens v ++ moreFields fs' ++ r)) := by
  induction n with
  | zero => simp [value?, items?, fields?]
  | succ n ih =>
    obtain ⟨ihv, ihi, ihf⟩ := ih
    refine ⟨?_, ?_, ?_⟩
    · intro ts v r h
      unfold value? at h
      split at h
      · cases h; simp [tokens]
      · cases h; simp [tokens]
      · cases h; simp [tokens]
      · cases h; simp [tokens]
      · cases h; simp [tokens]
      · simp only [Option.map_eq_some_iff, Prod.mk.injEq, Prod.exists] at h
        obtain ⟨vs, r', h, rfl, rfl⟩ := h
        obtain ⟨v, vs', rfl, rfl⟩ := ihi _ _ _ h
        simp [tokens]
      · cases h; simp [tokens]
      · simp only [Option.map_eq_some_iff, Prod.mk.injEq, Prod.exists] at h
        obtain ⟨fs, r', h, rfl, rfl⟩ := h
        obtain ⟨k, v, fs', rfl, rfl⟩ := ihf _ _ _ h
        simp [tokens]
      · cases h
    · intro ts vs r h
      unfold items? at h
      simp only [Option.bind_eq_some_iff, Prod.exists] at h
      obtain ⟨v, r', hv, h⟩ := h
      have := ihv _ _ _ hv
      subst this
      split at h
      -- the array ends after this item
      · cases h; exact ⟨v, [], rfl, by simp [moreItems]⟩
      -- or a comma promises another one
      · simp only [Option.map_eq_some_iff, Prod.mk.injEq, Prod.exists] at h
        obtain ⟨vs', r', h, rfl, rfl⟩ := h
        obtain ⟨w, ws, rfl, rfl⟩ := ihi _ _ _ h
        exact ⟨v, w :: ws, rfl, by simp [moreItems]⟩
      · cases h
    · intro ts fs r h
      unfold fields? at h
      split at h
      · next k r₀ =>
        simp only [Option.bind_eq_some_iff, Prod.exists] at h
        obtain ⟨v, r', hv, h⟩ := h
        have := ihv _ _ _ hv
        subst this
        split at h
        -- the object ends after this field
        · cases h; exact ⟨k, v, [], rfl, by simp [moreFields]⟩
        -- or a comma promises another one
        · simp only [Option.map_eq_some_iff, Prod.mk.injEq, Prod.exists] at h
          obtain ⟨fs', r', h, rfl, rfl⟩ := h
          obtain ⟨k', w, ws, rfl, rfl⟩ := ihf _ _ _ h
          exact ⟨k, v, (k', w) :: ws, rfl, by simp [moreFields]⟩
        · cases h
      · cases h

/-! ## Reading accepts all that writing produces -/

/-- No value starts with a closing bracket. -/
theorem tokens_eq_cons (v : Json) :
    ∃ t ts, tokens v = t :: ts ∧ t ≠ .endArray ∧ t ≠ .endObject := by
  cases v with
  | array vs => cases vs <;> simp [tokens]
  | object fs =>
    cases fs with
    | nil => simp [tokens]
    | cons f fs => obtain ⟨k, v⟩ := f; simp [tokens]
  | _ => simp [tokens]

mutual

theorem value?_tokens (v : Json) (n : Nat) (r : List Token) (h : (tokens v).length ≤ n) :
    value? n (tokens v ++ r) = some (v, r) := by
  match n, v with
  | 0, v =>
    obtain ⟨t, ts, hv, _⟩ := tokens_eq_cons v
    simp [hv] at h
  | n + 1, .null => simp [tokens, value?]
  | n + 1, .bool b => simp [tokens, value?]
  | n + 1, .number l => simp [tokens, value?]
  | n + 1, .text t => simp [tokens, value?]
  | n + 1, .array [] => simp [tokens, value?]
  | n + 1, .array (v :: vs) =>
    simp only [tokens, List.length_cons, List.length_append] at h
    have hi := items?_tokens v vs n r (by simp only [List.length_append]; omega)
    -- the first item does not start with a closing bracket, so the array is not taken for empty
    obtain ⟨t, ts, hv, hne, _⟩ := tokens_eq_cons v
    simp only [hv, List.cons_append] at hi
    simp only [tokens, hv, List.cons_append, List.append_assoc, value?] at hi ⊢
    cases t <;> simp_all
  | n + 1, .object [] => simp [tokens, value?]
  | n + 1, .object ((k, v) :: fs) =>
    simp only [tokens, List.length_cons, List.length_append] at h
    have hf := fields?_tokens k v fs n r
      (by simp only [List.length_cons, List.length_append]; omega)
    simp only [List.cons_append, List.append_assoc] at hf
    simp [tokens, value?, hf]

theorem items?_tokens (v : Json) (vs : List Json) (n : Nat) (r : List Token)
    (h : (tokens v ++ moreItems vs).length ≤ n) :
    items? n (tokens v ++ moreItems vs ++ r) = some (v :: vs, r) := by
  match n with
  | 0 =>
    obtain ⟨t, ts, hv, _⟩ := tokens_eq_cons v
    simp [hv] at h
  | n + 1 =>
    match vs with
    | [] =>
      simp only [moreItems, List.length_append, List.length_cons, List.length_nil] at h
      have hv := value?_tokens v n (.endArray :: r) (by omega)
      simp only [items?, moreItems, List.cons_append, List.nil_append, List.append_assoc, hv]
      rfl
    | w :: ws =>
      simp only [moreItems, List.length_append, List.length_cons] at h
      have hv := value?_tokens v n (.comma :: (tokens w ++ moreItems ws ++ r)) (by omega)
      have hi := items?_tokens w ws n r (by simp only [List.length_append]; omega)
      simp only [List.append_assoc] at hv hi
      simp only [items?, moreItems, List.append_assoc, List.cons_append, hv, Option.bind_some, hi]
      rfl

theorem fields?_tokens (k : Option String) (v : Json) (fs : List (Option String × Json)) (n : Nat)
    (r : List Token)
    (h : (.text k :: .colon :: (tokens v ++ moreFields fs) : List Token).length ≤ n) :
    fields? n (.text k :: .colon :: (tokens v ++ moreFields fs) ++ r) = some ((k, v) :: fs, r) := by
  match n with
  | 0 => simp at h
  | n + 1 =>
    match fs with
    | [] =>
      simp only [moreFields, List.length_append, List.length_cons, List.length_nil] at h
      have hv := value?_tokens v n (.endObject :: r) (by omega)
      simp only [fields?, moreFields, List.cons_append, List.nil_append, List.append_assoc, hv]
      rfl
    | (k', w) :: ws =>
      simp only [moreFields, List.length_append, List.length_cons] at h
      have hv := value?_tokens v n
        (.comma :: .text k' :: .colon :: (tokens w ++ moreFields ws ++ r)) (by omega)
      have hf := fields?_tokens k' w ws n r
        (by simp only [List.length_append, List.length_cons]; omega)
      simp only [List.append_assoc, List.cons_append] at hv hf
      simp only [fields?, moreFields, List.append_assoc, List.cons_append, hv, Option.bind_some, hf]
      rfl

end

theorem ofTokens?_tokens (v : Json) : ofTokens? (tokens v) = some v := by
  have h := value?_tokens v (tokens v).length [] (Nat.le_refl _)
  rw [List.append_nil] at h
  rw [ofTokens?, h]

/-- Reading accepts exactly what writing produces. -/
theorem ofTokens?_eq_some_iff {ts : List Token} {v : Json} :
    ofTokens? ts = some v ↔ ts = tokens v := by
  constructor
  · intro h
    rw [ofTokens?] at h
    split at h
    · next w hw =>
      cases h
      simpa using (sound _).1 _ _ _ hw
    · cases h
  · rintro rfl
    exact ofTokens?_tokens v

end Json

end CloudRoster
