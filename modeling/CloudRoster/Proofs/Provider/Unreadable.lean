/-
  Which text is told when an address cannot be read.

  A conversion reads one text after the other and stops at the first that is no address.  So its
  outcome is settled by the texts that it reads, in the order in which it reads them: all of them
  are addresses and it succeeds, or the first that is none is the reason to refuse.  `Converts` says
  so.

  The law is kept where conversions follow each other (`Converts.bind`) and where a list is
  converted (`converts_mapM`), and from these it holds of everything that is converted: floating
  addresses in the order of their listing (`converts_tableOf`), and a server's private addresses,
  then its public one of version four, then that of version six (`converts_toServer`).
-/
import CloudRoster.Provider.Conversion

namespace CloudRoster.Provider

variable {α β γ : Type}

/-- Whether a text is no address. -/
def isUnreadable (text : String) : Bool := (Address.read? text).isNone

/-- The first of the texts that is no address. -/
def firstUnreadable (texts : List String) : Option String := texts.find? isUnreadable

theorem firstUnreadable_append (xs ys : List String) :
    firstUnreadable (xs ++ ys) = (firstUnreadable xs).or (firstUnreadable ys) :=
  List.find?_append

theorem firstUnreadable_flatMap (texts : γ → List String) (xs : List γ) :
    firstUnreadable (xs.flatMap texts) = xs.findSome? fun x => firstUnreadable (texts x) :=
  List.find?_flatMap

theorem isSome_firstUnreadable_iff {texts : List String} :
    (firstUnreadable texts).isSome = true ↔ ∃ text ∈ texts, isUnreadable text = true :=
  List.find?_isSome

/-- A conversion reads the texts in order: it succeeds if all of them are addresses, and otherwise
    the first that is none is its reason to refuse. -/
inductive Converts (r : Except Refusal α) (texts : List String) : Prop where
  | success {a : α} (value : r = .ok a) (readable : firstUnreadable texts = none)
  | refusal {v : String} (reason : r = .error (.badAddress v))
      (first : firstUnreadable texts = some v)

/-! ## Conversions that follow each other -/

theorem converts_readAddress (text : String) : Converts (readAddress text) [text] := by
  unfold readAddress
  cases h : Address.read? text with
  | some ip =>
    have hreadable : isUnreadable text = false := by simp [isUnreadable, h]
    exact .success rfl (by simp [firstUnreadable, hreadable])
  | none =>
    have hunreadable : isUnreadable text = true := by simp [isUnreadable, h]
    exact .refusal rfl (by simp [firstUnreadable, hunreadable])

theorem converts_pure (a : α) : Converts (pure a) [] := .success rfl rfl

theorem Converts.bind {r : Except Refusal α} {f : α → Except Refusal β} {xs ys : List String}
    (hr : Converts r xs) (hf : ∀ a, Converts (f a) ys) : Converts (r >>= f) (xs ++ ys) := by
  cases hr with
  | refusal reason first =>
    subst reason
    refine .refusal rfl ?_
    rw [firstUnreadable_append, first, Option.some_or]
  | @success a value readable =>
    subst value
    have happend : firstUnreadable (xs ++ ys) = firstUnreadable ys := by
      rw [firstUnreadable_append, readable, Option.none_or]
    cases hf a with
    | success value' readable' => exact .success value' (happend.trans readable')
    | refusal reason' first' => exact .refusal reason' (happend.trans first')

/-- What is made of the value at last reads no more texts. -/
theorem Converts.map {r : Except Refusal α} {xs : List String} (hr : Converts r xs) (f : α → β) :
    Converts (r >>= fun a => pure (f a)) xs := by
  have h := hr.bind fun a => converts_pure (f a)
  rwa [List.append_nil] at h

theorem converts_mapM {f : γ → Except Refusal α} {texts : γ → List String}
    (hf : ∀ x, Converts (f x) (texts x)) (xs : List γ) :
    Converts (xs.mapM f) (xs.flatMap texts) := by
  induction xs with
  | nil => exact converts_pure []
  | cons x xs ih =>
    rw [List.mapM_cons, List.flatMap_cons]
    exact (hf x).bind fun y => ih.map (y :: ·)

theorem converts_optional {f : γ → Except Refusal α} {texts : γ → List String}
    (hf : ∀ x, Converts (f x) (texts x)) (x : Option γ) :
    Converts (x.mapM f) (x.toList.flatMap texts) := by
  cases x with
  | none => exact converts_pure none
  | some x =>
    rw [Option.mapM_some, Option.toList_some, List.flatMap_singleton]
    exact (hf x).map some

/-! ## What the provider writes -/

/-- The texts of a server that have to be addresses, in the order in which they are read. -/
def ServerEntry.texts (e : ServerEntry) : List String :=
  e.privateIps ++ (e.publicV4.toList.map PublicEntry.ip ++ e.publicV6.toList.map PublicEntry.ip)

theorem converts_publicEntry (e : PublicEntry) : Converts e.toAddress [e.ip] :=
  (converts_readAddress e.ip).map _

theorem converts_floatingEntry (e : FloatingEntry) : Converts e.toAddress [e.ip] :=
  (converts_readAddress e.ip).map _

theorem converts_tableOf (es : List FloatingEntry) :
    Converts (tableOf es) (es.map FloatingEntry.ip) := by
  have h := converts_mapM converts_floatingEntry es
  rwa [← List.map_eq_flatMap] at h

theorem converts_toServer (table : FloatingTable) (e : ServerEntry) :
    Converts (e.toServer table) e.texts := by
  have hprivate : Converts (e.privateIps.mapM readAddress) e.privateIps := by
    have h := converts_mapM converts_readAddress e.privateIps
    rwa [List.flatMap_singleton'] at h
  have hpublic (p : Option PublicEntry) :
      Converts (p.mapM PublicEntry.toAddress) (p.toList.map PublicEntry.ip) := by
    have h := converts_optional converts_publicEntry p
    rwa [← List.map_eq_flatMap] at h
  unfold ServerEntry.toServer ServerEntry.texts
  refine hprivate.bind fun _ => ?_
  exact (hpublic e.publicV4).bind fun _ => (hpublic e.publicV6).map _

theorem converts_servers (table : FloatingTable) (es : List ServerEntry) :
    Converts (es.mapM (ServerEntry.toServer table)) (es.flatMap ServerEntry.texts) :=
  converts_mapM (converts_toServer table) es

end CloudRoster.Provider
