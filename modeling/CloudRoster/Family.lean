/-
  Which of a server's addresses is asked for.

  A request that names no family, or none that exists, gets private addresses; the log says so.
-/
import CloudRoster.Failure
import CloudRoster.Log.Basic

namespace CloudRoster

/-- A family of addresses. -/
inductive Family where
  | privateV4
  | publicV4
  | publicV6
deriving DecidableEq, Repr

namespace Family

/-- The name under which a family is asked for. -/
def name : Family → String
  | .privateV4 => "private_v4"
  | .publicV4 => "public_v4"
  | .publicV6 => "public_v6"

def all : List Family := [.privateV4, .publicV4, .publicV6]

/-- The family with exactly this name. -/
def ofName? (s : String) : Option Family := all.find? fun f => f.name == s

/-- The family with exactly this name, or what is wrong with the argument. -/
def parse (s : String) : Except Failure Family :=
  match ofName? s with
  | some f => .ok f
  | none => .error (.malformed s!"address_type={s}" "Invalid address_type")

@[simp] theorem ofName?_name (f : Family) : ofName? f.name = some f := by
  cases f <;> decide

theorem ofName?_eq_some_iff {s : String} {f : Family} : ofName? s = some f ↔ s = f.name := by
  constructor
  · intro h
    have := List.find?_some h
    exact (by simpa using this : f.name = s).symm
  · rintro rfl
    exact ofName?_name f

/-- The family of a request, private addresses where it names none.  A wrong name is worth a
    warning, a missing one is not. -/
def choose (requested : Option String) : Log.Logged Family :=
  match requested.filter (· ≠ "") with
  | none => ⟨.privateV4, [.info "address type not provided, using 'private_v4'"]⟩
  | some r =>
    match ofName? r with
    | some f => ⟨f, []⟩
    | none =>
      ⟨.privateV4, [.warn (s!"address_type {r} is invalid, falling back to 'private_v4'. "
        ++ "valid values are: private_v4, public_v4, public_v6")]⟩

end Family

end CloudRoster
