/-
  Which of a server's addresses is chosen.

  A server has addresses at places: in its private networks, attached to it, and in a row of
  floating ones.  The family that is asked for decides which places count.

  1. **Specification** - `Takes s family place ip`: for this family the server is told under the
     address at this place.  `Lacks s family`: no place counts.  A private address is the first one
     or none.  A public one is the attached address of the version unless that is absent or blocked;
     then it is the floating address at the least place that was made for the version and is not
     blocked.
  2. **The choice** - of every server one of the two holds (`exists_takes_or_lacks`), and then it
     says what is chosen and what stands in the log (`address_of_takes`, `address_of_lacks`).
  3. **What does not count** - `Beside family s t`: an edit of the server that a family does not
     look at.  One edit leaves the choice as it is (`Beside.value_address`), and so do many.

  **Headline** (`address_policy`): the choice is what the specification says, never from a blocked
  place, and no number of edits beside it changes it.
-/
import CloudRoster.Choice
import Mathlib.Logic.Relation

namespace CloudRoster

/-- The server with another public address of a version, or with none. -/
def Server.withPublic (s : Server) (v : Version) (a : Option PublicAddress) : Server :=
  match v with
  | .v4 => { s with publicV4 := a }
  | .v6 => { s with publicV6 := a }

namespace Server

theorem withPublic_publicAddress_of_ne (s : Server) {v w : Version} (h : w ≠ v)
    (a : Option PublicAddress) : (s.withPublic w a).publicAddress v = s.publicAddress v := by
  cases v <;> cases w
  · exact absurd rfl h
  · rfl
  · rfl
  · exact absurd rfl h

@[simp] theorem withPublic_floating (s : Server) (v : Version) (a : Option PublicAddress) :
    (s.withPublic v a).floating = s.floating := by
  cases v <;> rfl

end Server

namespace Choice

/-! ## Specification -/

/-- The family of the public addresses of a version. -/
def publicFamily : Version → Family
  | .v4 => .publicV4
  | .v6 => .publicV6

/-- Where a server has an address; networks and floating addresses are counted from zero. -/
inductive Place where
  | network (i : Nat)
  | attached (v : Version)
  | floating (i : Nat)
deriving DecidableEq, Repr

/-- The entry at this place is blocked.  There is nothing that could block a private network. -/
def BlockedAt (s : Server) : Place → Prop
  | .network _ => False
  | .attached v => ∃ a, s.publicAddress v = some a ∧ a.blocked = true
  | .floating i => ∃ f, s.floating[i]? = some f ∧ f.blocked = true

/-- There is no attached address of the version, or it is blocked. -/
def Unattached (s : Server) (v : Version) : Prop :=
  ∀ a, s.publicAddress v = some a → a.blocked = true

/-- A floating address that can stand in for the attached one of a version. -/
def StandsIn (v : Version) (f : FloatingAddress) : Prop := f.version = v ∧ f.blocked = false

instance (v : Version) (f : FloatingAddress) : Decidable (StandsIn v f) :=
  inferInstanceAs (Decidable (f.version = v ∧ f.blocked = false))

/-- The floating address at place `i` is the first that can stand in. -/
structure FirstStandIn (s : Server) (v : Version) (i : Nat) (f : FloatingAddress) : Prop where
  here : s.floating[i]? = some f
  standsIn : StandsIn v f
  least : ∀ j < i, ∀ g, s.floating[j]? = some g → ¬StandsIn v g

/-- `Takes s family place ip`: for the family, the server is told under the address `ip` at this
    place. -/
inductive Takes (s : Server) : Family → Place → Address → Prop where
  /-- The first private address. -/
  | network {ip : Address} (first : s.privateAddresses.head? = some ip) :
      Takes s .privateV4 (.network 0) ip
  /-- The attached address, unless it is blocked. -/
  | attached {v : Version} {a : PublicAddress} (present : s.publicAddress v = some a)
      (free : a.blocked = false) : Takes s (publicFamily v) (.attached v) a.ip
  /-- The first floating address that can stand in for it. -/
  | floating {v : Version} {i : Nat} {f : FloatingAddress} (unattached : Unattached s v)
      (first : FirstStandIn s v i f) : Takes s (publicFamily v) (.floating i) f.ip

/-- `Lacks s family`: the server has no address that could be told for the family. -/
inductive Lacks (s : Server) : Family → Prop where
  | networkless (none : s.privateAddresses = []) : Lacks s .privateV4
  | unreached {v : Version} (unattached : Unattached s v)
      (none : ∀ f ∈ s.floating, ¬StandsIn v f) : Lacks s (publicFamily v)

/-- No address is taken from a blocked place. -/
theorem Takes.not_blockedAt {s : Server} {family : Family} {place : Place} {ip : Address}
    (h : Takes s family place ip) : ¬BlockedAt s place := by
  intro hblocked
  cases h with
  | network => exact hblocked
  | attached present free =>
    obtain ⟨a, ha, hb⟩ := hblocked
    obtain rfl := Option.some.inj (present.symm.trans ha)
    rw [free] at hb
    cases hb
  | floating _ first =>
    obtain ⟨f, hf, hb⟩ := hblocked
    obtain rfl := Option.some.inj (first.here.symm.trans hf)
    rw [first.standsIn.2] at hb
    cases hb

theorem not_unattached_iff {s : Server} {v : Version} :
    ¬Unattached s v ↔ ∃ a, s.publicAddress v = some a ∧ a.blocked = false := by
  simp [Unattached]

theorem head?_usableFloating_eq_some_iff {s : Server} {v : Version} {f : FloatingAddress} :
    (s.usableFloating v).head? = some f ↔ ∃ i, FirstStandIn s v i f := by
  rw [Server.usableFloating, List.head?_filter, List.find?_eq_some_iff_getElem]
  constructor
  · rintro ⟨hf, i, hi, rfl, hleast⟩
    refine ⟨i, List.getElem?_eq_getElem hi, of_decide_eq_true hf, ?_⟩
    intro j hj g hg hstands
    obtain ⟨hlt, rfl⟩ := List.getElem?_eq_some_iff.1 hg
    have hnot : (!decide (StandsIn v s.floating[j])) = true := hleast j hj
    rw [decide_eq_true hstands] at hnot
    cases hnot
  · rintro ⟨i, hhere, hstands, hleast⟩
    obtain ⟨hi, hf⟩ := List.getElem?_eq_some_iff.1 hhere
    refine ⟨decide_eq_true hstands, i, hi, hf, ?_⟩
    intro j hj
    have hlt : j < s.floating.length := Nat.lt_trans hj hi
    have hnot := hleast j hj _ (List.getElem?_eq_getElem hlt)
    show (!decide (StandsIn v s.floating[j])) = true
    rw [decide_eq_false hnot]
    rfl

theorem head?_usableFloating_eq_none_iff {s : Server} {v : Version} :
    (s.usableFloating v).head? = none ↔ ∀ f ∈ s.floating, ¬StandsIn v f := by
  rw [Server.usableFloating, List.head?_filter, List.find?_eq_none]
  refine forall₂_congr fun f _ => ?_
  rw [decide_eq_true_eq]
  rfl

/-- Every server has an address to be told for a family, or lacks one. -/
theorem exists_takes_or_lacks (s : Server) (family : Family) :
    (∃ place ip, Takes s family place ip) ∨ Lacks s family := by
  have hpublic (v : Version) :
      (∃ place ip, Takes s (publicFamily v) place ip) ∨ Lacks s (publicFamily v) := by
    by_cases hunattached : Unattached s v
    · cases hhead : (s.usableFloating v).head? with
      | some f =>
        obtain ⟨i, hfirst⟩ := head?_usableFloating_eq_some_iff.1 hhead
        exact .inl ⟨_, _, .floating hunattached hfirst⟩
      | none => exact .inr (.unreached hunattached (head?_usableFloating_eq_none_iff.1 hhead))
    · obtain ⟨a, present, free⟩ := not_unattached_iff.1 hunattached
      exact .inl ⟨_, _, .attached present free⟩
  cases family with
  | publicV4 => exact hpublic .v4
  | publicV6 => exact hpublic .v6
  | privateV4 =>
    cases hhead : s.privateAddresses.head? with
    | some ip => exact .inl ⟨_, _, .network hhead⟩
    | none => exact .inr (.networkless (List.head?_eq_none_iff.1 hhead))

/-! ## What the log says about a server -/

namespace Line

def noPrivate (s : Server) : Log.Entry :=
  ⟨"discover-hcloud", .info, s!"instance {s.name} ({s.id}) has no private IP"⟩

def noPublic (s : Server) : Version → Log.Entry
  | .v4 => ⟨"discover-hcloud", .debug, s!"instance {s.name} ({s.id}) has no public IPv4, "
      ++ "checking associated floating IPs"⟩
  | .v6 => ⟨"discover-hcloud", .debug, s!"instance {s.name} ({s.id}) has no public IPv6, "
      ++ "checking associated floating IPs"⟩

def blocked (s : Server) : Version → Log.Entry
  | .v4 => ⟨"discover-hcloud", .info, s!"public IPv4 for instance {s.name} ({s.id}) is blocked, "
      ++ "checking associated floating IPs"⟩
  | .v6 => ⟨"discover-hcloud", .info, s!"public IPv6 for instance {s.name} ({s.id}) is blocked, "
      ++ "checking associated floating IPs"⟩

def found (s : Server) (ip : Address) : Place → Log.Entry
  | .network _ =>
    ⟨"discover-hcloud", .info, s!"instance {s.name} ({s.id}) has private IP {ip.print}"⟩
  | .attached _ =>
    ⟨"discover-hcloud", .info, s!"instance {s.name} ({s.id}) has public IP {ip.print}"⟩
  | .floating _ =>
    ⟨"discover-hcloud", .info, s!"instance {s.name} ({s.id}) has floating IP {ip.print}"⟩

def nothing (s : Server) : Log.Entry :=
  ⟨"discover-hcloud", .debug,
    s!"instance {s.name} ({s.id}) has no valid associated IP address"⟩

end Line

/-- The notice about the attached address of a version: that it is absent or, if the server has any
    floating address, of whatever version, that it is blocked. -/
def publicNotice (s : Server) (v : Version) : Option Log.Entry :=
  match s.publicAddress v with
  | none => some (Line.noPublic s v)
  | some a => if a.blocked = true ∧ s.floating ≠ [] then some (Line.blocked s v) else none

/-- The notice that comes before what was found, if there is one. -/
def notice (s : Server) : Family → Option Log.Entry
  | .privateV4 => if s.privateAddresses = [] then some (Line.noPrivate s) else none
  | .publicV4 => publicNotice s .v4
  | .publicV6 => publicNotice s .v6

theorem notice_publicFamily (s : Server) (v : Version) :
    notice s (publicFamily v) = publicNotice s v := by
  cases v <;> rfl

/-! ### What the choice says -/

/-- What is said about a server begins with its name and its number. -/
theorem instanceText_append (s : Server) {rest whole : String} (h : ")" ++ rest = whole) :
    instanceText s ++ rest = "instance " ++ s.name ++ " (" ++ toString s.id ++ whole := by
  rw [instanceText, ← h]
  exact String.append_assoc

theorem noPrivate_eq (s : Server) :
    Log.Entry.info s!"{instanceText s} has no private IP" = Line.noPrivate s :=
  congrArg Log.Entry.info (instanceText_append s (by decide +kernel))

theorem noPublic_eq (s : Server) (v : Version) :
    Log.Entry.debug (s!"{instanceText s} has no public {v.label}, "
      ++ "checking associated floating IPs") = Line.noPublic s v := by
  have htext : ∀ whole, ")" ++ (" has no public " ++ (v.label ++ ", ")) = whole →
      s!"{instanceText s} has no public {v.label}, " =
        "instance " ++ s.name ++ " (" ++ toString s.id ++ whole := by
    intro whole h
    rw [← instanceText_append s h, ← String.append_assoc, ← String.append_assoc]
    rfl
  cases v with
  | v4 => exact congrArg (fun text => Log.Entry.debug (text ++ _)) (htext _ (by decide +kernel))
  | v6 => exact congrArg (fun text => Log.Entry.debug (text ++ _)) (htext _ (by decide +kernel))

theorem blocked_eq (s : Server) (v : Version) :
    Log.Entry.info (s!"public {v.label} for {instanceText s} is blocked, "
      ++ "checking associated floating IPs") = Line.blocked s v := by
  have htext : ∀ start, "public " ++ v.label ++ " for " ++ "instance " = start →
      s!"public {v.label} for {instanceText s} is blocked, " =
        start ++ s.name ++ " (" ++ toString s.id ++ ") is blocked, " := by
    intro start h
    have hname : instanceText s ++ " is blocked, " =
        "instance " ++ s.name ++ " (" ++ toString s.id ++ ") is blocked, " :=
      instanceText_append s (by decide +kernel)
    have hwhole : s!"public {v.label} for {instanceText s} is blocked, " =
        "public " ++ v.label ++ " for " ++ (instanceText s ++ " is blocked, ") :=
      String.append_assoc
    rw [hwhole, hname, ← h]
    simp only [String.append_assoc]
  cases v with
  | v4 => exact congrArg (fun text => Log.Entry.info (text ++ _)) (htext _ (by decide +kernel))
  | v6 => exact congrArg (fun text => Log.Entry.info (text ++ _)) (htext _ (by decide +kernel))

theorem nothing_eq (s : Server) :
    Log.Entry.debug s!"{instanceText s} has no valid associated IP address" = Line.nothing s :=
  congrArg Log.Entry.debug (instanceText_append s (by decide +kernel))

/-- What a source says of the address that it yields. -/
theorem found_eq (s : Server) (ip : Address) {kind whole : String} (h : ")" ++ kind = whole) :
    Log.Entry.info (instanceText s ++ kind ++ ip.print) =
      ⟨"discover-hcloud", .info,
        "instance " ++ s.name ++ " (" ++ toString s.id ++ whole ++ ip.print⟩ :=
  congrArg (fun text => Log.Entry.info (text ++ ip.print)) (instanceText_append s h)

/-! ## The choice -/

theorem address_publicFamily (s : Server) (v : Version) :
    address s (publicFamily v) = firstOf s [.attached v, .floating v] := by
  cases v <;> rfl

/-- Without an attached address that could be told, there is a notice and nothing else yet. -/
theorem offer_attached_of_unattached {s : Server} {v : Version} (h : Unattached s v) :
    Source.offer s (.attached v) = ⟨none, (notice s (publicFamily v)).toList⟩ := by
  rw [notice_publicFamily]
  cases ha : s.publicAddress v with
  | none =>
    simp only [Source.offer, publicNotice, ha, noPublic_eq]
    rfl
  | some a =>
    obtain ⟨ip, b⟩ := a
    obtain rfl : b = true := h _ ha
    cases hfloating : s.floating with
    | nil => simp [Source.offer, publicNotice, ha, hfloating]
    | cons f fs => simp [Source.offer, publicNotice, ha, hfloating, ← blocked_eq]

/-- What is taken is chosen, and reported after the notice. -/
theorem address_of_takes {s : Server} {family : Family} {place : Place} {ip : Address}
    (h : Takes s family place ip) :
    address s family = ⟨some ip, (notice s family).toList ++ [Line.found s ip place]⟩ := by
  cases h with
  | network first =>
    have hne : s.privateAddresses ≠ [] := by
      intro hnil
      rw [hnil] at first
      cases first
    have hfound : Log.Entry.info s!"{instanceText s} has private IP {ip}" =
        Line.found s ip (.network 0) := found_eq s ip (by decide +kernel)
    simp only [address, sources, firstOf, Source.offer, first, notice, if_neg hne, hfound]
    rfl
  | @attached v a present free =>
    obtain ⟨ip, b⟩ := a
    obtain rfl : b = false := free
    have hnotice : publicNotice s v = none := by simp [publicNotice, present]
    have hfound : Log.Entry.info s!"{instanceText s} has public IP {ip}" =
        Line.found s ip (.attached v) := found_eq s ip (by decide +kernel)
    simp only [address_publicFamily, firstOf, Source.offer, present, notice_publicFamily, hnotice,
      hfound]
    rfl
  | @floating v i f unattached first =>
    have hhead := head?_usableFloating_eq_some_iff.2 ⟨i, first⟩
    have hfound : Log.Entry.info s!"{instanceText s} has floating IP {f.ip}" =
        Line.found s f.ip (.floating i) := found_eq s f.ip (by decide +kernel)
    rw [address_publicFamily, firstOf, offer_attached_of_unattached unattached]
    simp only [firstOf, Source.offer, hhead, hfound]

/-- Where nothing can be told the log says so, after the notice. -/
theorem address_of_lacks {s : Server} {family : Family} (h : Lacks s family) :
    address s family = ⟨none, (notice s family).toList ++ [Line.nothing s]⟩ := by
  cases h with
  | networkless none =>
    simp only [address, sources, firstOf, Source.offer, none, List.head?_nil, notice, if_true,
      noPrivate_eq, nothing_eq]
    rfl
  | @unreached v unattached none =>
    have hhead := head?_usableFloating_eq_none_iff.2 none
    rw [address_publicFamily, firstOf, offer_attached_of_unattached unattached]
    simp only [firstOf, Source.offer, hhead, nothing_eq]
    rfl

theorem value_address_eq_some_iff {s : Server} {family : Family} {ip : Address} :
    (address s family).value = some ip ↔ ∃ place, Takes s family place ip := by
  constructor
  · intro h
    rcases exists_takes_or_lacks s family with ⟨place, ip', htakes⟩ | hlacks
    · rw [address_of_takes htakes] at h
      obtain rfl : ip' = ip := Option.some.inj h
      exact ⟨place, htakes⟩
    · rw [address_of_lacks hlacks] at h
      cases h
  · rintro ⟨place, htakes⟩
    rw [address_of_takes htakes]

theorem value_address_eq_none_iff {s : Server} {family : Family} :
    (address s family).value = none ↔ Lacks s family := by
  constructor
  · intro h
    rcases exists_takes_or_lacks s family with ⟨place, ip, htakes⟩ | hlacks
    · rw [address_of_takes htakes] at h
      cases h
    · exact hlacks
  · intro hlacks
    rw [address_of_lacks hlacks]

/-! ## What does not count -/

/-- `Beside family s t`: the server `t` is `s` after one edit that the family does not look at. -/
inductive Beside : Family → Server → Server → Prop where
  /-- For private addresses, any public and floating ones. -/
  | reach (s : Server) (a b : Option PublicAddress) (floating : List FloatingAddress) :
      Beside .privateV4 s { s with publicV4 := a, publicV6 := b, floating := floating }
  /-- For public addresses, any private ones. -/
  | networks (v : Version) (s : Server) (ips : List Address) :
      Beside (publicFamily v) s { s with privateAddresses := ips }
  /-- Any attached address of the other version. -/
  | other {v w : Version} (differ : w ≠ v) (s : Server) (a : Option PublicAddress) :
      Beside (publicFamily v) s (s.withPublic w a)
  /-- Another blocked address in the place of a blocked one, or none on either side. -/
  | blocked {v : Version} {s : Server} {a : Option PublicAddress} (unattached : Unattached s v)
      (unattached' : Unattached (s.withPublic v a) v) : Beside (publicFamily v) s (s.withPublic v a)
  /-- At any position, floating addresses that are blocked or made for the other version: they can
      be put in (`old` is empty), taken out (`new` is empty) or changed. -/
  | floating {v : Version} {s : Server} {before old new after : List FloatingAddress}
      (split : s.floating = before ++ old ++ after) (outgoing : ∀ f ∈ old, ¬StandsIn v f)
      (incoming : ∀ f ∈ new, ¬StandsIn v f) :
      Beside (publicFamily v) s { s with floating := before ++ new ++ after }

theorem filter_free_of_unattached {s : Server} {v : Version} (h : Unattached s v) :
    ((s.publicAddress v).filter fun a => !a.blocked) = none := by
  rw [Option.filter_eq_none_iff]
  intro a ha
  rw [h a ha]
  decide

/-- What a public choice looks at: the attached address if it is free, and else the first floating
    one that is usable. -/
theorem value_address_publicFamily (s : Server) (v : Version) :
    (address s (publicFamily v)).value =
      (((s.publicAddress v).filter fun a => !a.blocked).map PublicAddress.ip).or
        ((s.usableFloating v).head?.map FloatingAddress.ip) := by
  by_cases hunattached : Unattached s v
  · rw [filter_free_of_unattached hunattached, address_publicFamily, firstOf,
      offer_attached_of_unattached hunattached]
    simp only [firstOf, Source.offer]
    cases (s.usableFloating v).head? with
    | none => rfl
    | some f => rfl
  · obtain ⟨a, present, free⟩ := not_unattached_iff.1 hunattached
    have hfree : ((some a).filter fun a => !a.blocked) = some a := by
      rw [Option.filter_some, free]
      rfl
    rw [address_of_takes (.attached present free), present, hfree]
    rfl

/-- Floating addresses that cannot stand in are not among the usable ones, wherever they are. -/
theorem filter_standsIn_between {v : Version} {fs : List FloatingAddress}
    (h : ∀ f ∈ fs, ¬StandsIn v f) (before after : List FloatingAddress) :
    ((before ++ fs ++ after).filter fun f => f.version = v ∧ f.blocked = false) =
      (before ++ after).filter fun f => f.version = v ∧ f.blocked = false := by
  have hnil : (fs.filter fun f => f.version = v ∧ f.blocked = false) = [] := by
    rw [List.filter_eq_nil_iff]
    intro f hf
    rw [decide_eq_true_eq]
    exact h f hf
  rw [List.filter_append, List.filter_append, hnil, List.append_nil, List.filter_append]

/-- One edit beside a family leaves the choice as it is. -/
theorem Beside.value_address {family : Family} {s t : Server} (h : Beside family s t) :
    (address t family).value = (address s family).value := by
  cases h with
  | reach => rfl
  | networks v =>
    rw [value_address_publicFamily, value_address_publicFamily]
    cases v <;> rfl
  | other differ =>
    rw [value_address_publicFamily, value_address_publicFamily,
      Server.withPublic_publicAddress_of_ne s differ, Server.usableFloating,
      Server.withPublic_floating]
    rfl
  | blocked unattached unattached' =>
    rw [value_address_publicFamily, value_address_publicFamily,
      filter_free_of_unattached unattached, filter_free_of_unattached unattached',
      Server.usableFloating, Server.withPublic_floating]
    rfl
  | @floating v s before old new after split outgoing incoming =>
    rw [value_address_publicFamily, value_address_publicFamily]
    have husable : ({ s with floating := before ++ new ++ after } : Server).usableFloating v =
        s.usableFloating v := by
      rw [Server.usableFloating, Server.usableFloating, split,
        filter_standsIn_between outgoing before after]
      exact filter_standsIn_between incoming before after
    rw [husable]
    cases v <;> rfl

/-- So do any number of edits. -/
theorem value_address_of_beside {family : Family} {s t : Server}
    (h : Relation.ReflTransGen (Beside family) s t) :
    (address t family).value = (address s family).value := by
  induction h with
  | refl => rfl
  | tail _ edit ih => exact edit.value_address.trans ih

/-! ## Headline -/

/-- **The policy of choosing an address.**  In order: an address is chosen exactly if it is taken
    from a place; none is chosen exactly if the server lacks one; no place that is taken from is
    blocked; and edits that the family does not look at, however many, do not change the choice. -/
theorem address_policy (s : Server) (family : Family) :
    (∀ ip, (address s family).value = some ip ↔ ∃ place, Takes s family place ip) ∧
    ((address s family).value = none ↔ Lacks s family) ∧
    (∀ place ip, Takes s family place ip → ¬BlockedAt s place) ∧
    ∀ t, Relation.ReflTransGen (Beside family) s t →
      (address t family).value = (address s family).value :=
  ⟨fun _ => value_address_eq_some_iff, value_address_eq_none_iff, fun _ _ h => h.not_blockedAt,
    fun _ h => value_address_of_beside h⟩

/-- A server whose attached address of version four is blocked, and whose first two floating
    addresses cannot stand in for it. -/
def mixedServer : Server where
  id := 1
  name := "web"
  location := "fsn1"
  privateAddresses := [.v4 ⟨10, 0, 0, 1⟩]
  publicV4 := some ⟨.v4 ⟨192, 0, 2, 1⟩, true⟩
  publicV6 := some ⟨.v6 ⟨0x2001, 0xdb8, 0, 0, 0, 0, 0, 1⟩, false⟩
  floating := [
    ⟨.v6 ⟨0x2001, 0xdb8, 0, 0, 0, 0, 0, 2⟩, .v6, false⟩,
    ⟨.v4 ⟨198, 51, 100, 7⟩, .v4, true⟩,
    ⟨.v4 ⟨198, 51, 100, 8⟩, .v4, false⟩]

/-- The same server without private and blocked floating addresses. -/
def strippedServer : Server where
  id := 1
  name := "web"
  location := "fsn1"
  privateAddresses := []
  publicV4 := some ⟨.v4 ⟨192, 0, 2, 1⟩, true⟩
  publicV6 := some ⟨.v6 ⟨0x2001, 0xdb8, 0, 0, 0, 0, 0, 1⟩, false⟩
  floating := [
    ⟨.v6 ⟨0x2001, 0xdb8, 0, 0, 0, 0, 0, 2⟩, .v6, false⟩,
    ⟨.v4 ⟨198, 51, 100, 8⟩, .v4, false⟩]

/-- The third floating address is chosen, and still is where it is the second. -/
theorem address_policy_mixed :
    (Takes mixedServer .publicV4 (.floating 2) (.v4 ⟨198, 51, 100, 8⟩) ∧
      ¬BlockedAt mixedServer (.floating 2)) ∧
    Relation.ReflTransGen (Beside .publicV4) mixedServer strippedServer ∧
    (address strippedServer .publicV4).value = some (.v4 ⟨198, 51, 100, 8⟩) := by
  have hunattached : Unattached mixedServer .v4 := by
    rintro a ⟨⟩
    rfl
  have htakes : Takes mixedServer .publicV4 (.floating 2) (.v4 ⟨198, 51, 100, 8⟩) := by
    have hleast : ∀ j < 2, ∀ g, mixedServer.floating[j]? = some g → ¬StandsIn .v4 g := by
      intro j hj g hg
      match j, hj with
      | 0, _ => cases hg; decide
      | 1, _ => cases hg; decide
    exact @Takes.floating mixedServer .v4 2 ⟨.v4 ⟨198, 51, 100, 8⟩, .v4, false⟩ hunattached
      ⟨rfl, by decide, hleast⟩
  have hedits : Relation.ReflTransGen (Beside .publicV4) mixedServer strippedServer := by
    have hfirst : Beside .publicV4 mixedServer { mixedServer with privateAddresses := [] } :=
      .networks .v4 mixedServer []
    have hsecond : Beside .publicV4 { mixedServer with privateAddresses := [] } strippedServer :=
      @Beside.floating .v4 _ [⟨.v6 ⟨0x2001, 0xdb8, 0, 0, 0, 0, 0, 2⟩, .v6, false⟩]
        [⟨.v4 ⟨198, 51, 100, 7⟩, .v4, true⟩] [] [⟨.v4 ⟨198, 51, 100, 8⟩, .v4, false⟩] rfl
        (by decide) (by decide)
    exact (Relation.ReflTransGen.single hfirst).tail hsecond
  obtain ⟨hchosen, -, hfree, hsame⟩ := address_policy mixedServer .publicV4
  refine ⟨⟨htakes, hfree _ _ htakes⟩, hedits, ?_⟩
  rw [hsame strippedServer hedits]
  exact (hchosen _).2 ⟨_, htakes⟩

end Choice

end CloudRoster
