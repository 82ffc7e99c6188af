/-
  Reading typed data out of JSON values.

  A record is a value with a fixed list of named fields.  It has two written forms, an object and
  an array of the fields in their declared order, and `Json.record?` brings both to one list of
  named values, or refuses:

  - an object may hold fields of other names, which are dropped whatever they are, but it may not
    give a declared field twice and every key has to be text;
  - an array may end early, after the fields that have no default, but may not be longer than the
    declaration.

  What a field holds is read by the readers below, `Json → Option α` each.
-/
import CloudRoster.Json.Value

namespace CloudRoster.Json

/-! ## Readers of single values -/

/-- A string that spells a text. -/
def text? : Json → Option String
  | .text t => t
  | _ => none

def bool? : Json → Option Bool
  | .bool b => some b
  | _ => none

/-- A natural number below 2^64, written in digits alone. -/
def word? : Json → Option UInt64
  | .number l => ((Text.natural? 10 l).filter (· < UInt64.size)).map UInt64.ofNat
  | _ => none

/-- An array whose items all read. -/
def list? {α : Type} (item : Json → Option α) : Json → Option (List α)
  | .array vs => vs.mapM item
  | _ => none

/-- Null, or a value that reads. -/
def nullable? {α : Type} (value : Json → Option α) : Json → Option (Option α)
  | .null => some none
  | v => (value v).map some

/-! ## Records -/

/-- The values of a record's fields, by name. -/
abbrev Fields := List (String × Json)

/-- The fields of a record that declares `names`, of which the first `least` have no default. -/
def record? (names : List String) (least : Nat) : Json → Option Fields
  | .object fs => do
    -- a key that spells no text might be any name, so it is refused before names are compared
    let named ← fs.mapM fun (k, v) => k.map fun name => (name, v)
    let known := named.filter fun f => names.contains f.1
    if (known.map Prod.fst).Nodup then some known else none
  | .array vs =>
    -- no field can be skipped, so those without a default come first
    if least ≤ vs.length ∧ vs.length ≤ names.length then some (names.zip vs) else none
  | _ => none

/-- A field that has to be there. -/
def Fields.required? {α : Type} (fs : Fields) (name : String) (value : Json → Option α) :
    Option α :=
  (fs.lookup name).bind value

/-- A field that may be absent or null. -/
def Fields.optional? {α : Type} (fs : Fields) (name : String) (value : Json → Option α) :
    Option (Option α) :=
  match fs.lookup name with
  | none => some none
  | some v => nullable? value v

/-- A list that is empty when the field is absent; null is no list. -/
def Fields.listOrEmpty? {α : Type} (fs : Fields) (name : String) (item : Json → Option α) :
    Option (List α) :=
  match fs.lookup name with
  | none => some []
  | some v => list? item v

end CloudRoster.Json
