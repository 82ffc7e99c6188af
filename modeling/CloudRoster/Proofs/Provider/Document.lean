/-
  Documents that describe servers and floating addresses.

  The provider has a `Machine` for each server, which refers to floating addresses by number, and it
  tells of it in a document of its own choice: fields in any order, further fields, an address alone
  or with the length of a network, a list left out if it is empty.  `Describes...` says what all
  these documents have in common.

  1. **Documents** - `DescribesMachine`, `DescribesFloating`, `DescribesPage`.
  2. **Entries** - a document that describes a machine is read as an entry of it, one that says the
     same and writes the same addresses (`serverEntry?_of_describes`, `page?_of_describes`).
  3. **Servers** - an entry of a machine becomes that machine's server, whatever way its addresses
     are written (`toServer_of_entryOf`).
-/
import CloudRoster.Proofs.Address.RoundTrip
import CloudRoster.Proofs.Json.Record
import CloudRoster.Provider.Conversion

namespace CloudRoster.Provider

open Json Text

/-- A server as the provider has it: floating addresses by number only. -/
structure Machine where
  id : UInt64
  name : String
  location : String
  privateAddresses : List Address
  publicV4 : Option PublicAddress
  publicV6 : Option PublicAddress
  floatingIds : List UInt64
deriving DecidableEq, Repr

/-- The server that a machine is, given where its numbers lead. -/
def Machine.server (m : Machine) (find : UInt64 → Option FloatingAddress) : Server where
  id := m.id
  name := m.name
  location := m.location
  privateAddresses := m.privateAddresses
  publicV4 := m.publicV4
  publicV6 := m.publicV6
  floating := m.floatingIds.filterMap find

/-! ## Documents -/

def IsWord (n : UInt64) (v : Json) : Prop := v = .number (decimal n.toNat)

def IsText (s : String) (v : Json) : Prop := v = .text (some s)

def IsBool (b : Bool) (v : Json) : Prop := v = .bool b

/-- The value writes an address, alone or as that of a network. -/
def IsAddress (ip : Address) (v : Json) : Prop := ∃ text, ip.Spells text ∧ IsText text v

/-- The name of a version. -/
def versionName : Version → String
  | .v4 => "ipv4"
  | .v6 => "ipv6"

def DescribesPublic (a : PublicAddress) : Json → Prop :=
  IsObject fun fs => Has fs "ip" (IsAddress a.ip) ∧ Has fs "blocked" (IsBool a.blocked)

def DescribesPrivate (ip : Address) : Json → Prop := IsObject fun fs => Has fs "ip" (IsAddress ip)

def DescribesLocation (name : String) : Json → Prop :=
  IsObject fun fs => Has fs "name" (IsText name)

def DescribesDatacenter (location : String) : Json → Prop :=
  IsObject fun fs => Has fs "location" (DescribesLocation location)

def DescribesNet (m : Machine) : Json → Prop :=
  IsObject fun fs => MayHave fs "ipv4" DescribesPublic m.publicV4 ∧
    MayHave fs "ipv6" DescribesPublic m.publicV6 ∧ HasList fs "floating_ips" IsWord m.floatingIds

def DescribesMachine (m : Machine) : Json → Prop :=
  IsObject fun fs => Has fs "id" (IsWord m.id) ∧ Has fs "name" (IsText m.name) ∧
    Has fs "datacenter" (DescribesDatacenter m.location) ∧ Has fs "public_net" (DescribesNet m) ∧
    HasList fs "private_net" DescribesPrivate m.privateAddresses

def DescribesFloating (f : UInt64 × FloatingAddress) : Json → Prop :=
  IsObject fun fs => Has fs "id" (IsWord f.1) ∧ Has fs "ip" (IsAddress f.2.ip) ∧
    Has fs "type" (IsText (versionName f.2.version)) ∧ Has fs "blocked" (IsBool f.2.blocked)

def DescribesPagination (next : Option UInt64) : Json → Prop :=
  IsObject fun fs => MayHave fs "next_page" IsWord next

def DescribesMeta (next : Option UInt64) : Json → Prop :=
  IsObject fun fs => Has fs "pagination" (DescribesPagination next) ∨
    next = none ∧ Lacks fs "pagination"

/-- The metadata name the next page; they may be silent if there is none. -/
def Announces (fs : Fields) (next : Option UInt64) : Prop :=
  Has fs "meta" (DescribesMeta next) ∨ next = none ∧ Lacks fs "meta"

/-- A page of things, each in a document as `R` says, and the number of the page that follows. -/
def DescribesPage {α : Type} (key : String) (R : α → Json → Prop) (items : List α)
    (next : Option UInt64) : Json → Prop :=
  IsObject fun fs => Has fs key (IsArray R items) ∧ Announces fs next

/-! ## Entries -/

/-- The entry says the same as the public address. -/
structure PublicEntryOf (a : PublicAddress) (e : PublicEntry) : Prop where
  ip : a.ip.Spells e.ip
  blocked : e.blocked = a.blocked

/-- The entry says the same as the machine. -/
structure EntryOf (m : Machine) (e : ServerEntry) : Prop where
  id : e.id = m.id
  name : e.name = m.name
  location : e.location = m.location
  publicV4 : Option.Rel PublicEntryOf m.publicV4 e.publicV4
  publicV6 : Option.Rel PublicEntryOf m.publicV6 e.publicV6
  floatingIds : e.floatingIds = m.floatingIds
  privateIps : List.Forall₂ Address.Spells m.privateAddresses e.privateIps

/-- The entry says the same as the floating address. -/
structure FloatingEntryOf (f : UInt64 × FloatingAddress) (e : FloatingEntry) : Prop where
  id : e.id = f.1
  ip : f.2.ip.Spells e.ip
  version : e.version = f.2.version
  blocked : e.blocked = f.2.blocked

/-! ### Values -/

theorem word?_of_isWord {n : UInt64} {v : Json} (h : IsWord n v) : word? v = some n := by
  rw [h, word?, natural?_decimal]
  simp [Option.filter, UInt64.size, n.toNat_lt]

theorem text?_of_isText {s : String} {v : Json} (h : IsText s v) : text? v = some s := by
  rw [h, text?]

theorem bool?_of_isBool {b : Bool} {v : Json} (h : IsBool b v) : bool? v = some b := by
  rw [h, bool?]

theorem version?_of_isText {version : Version} {v : Json} (h : IsText (versionName version) v) :
    version? v = some version := by
  cases version <;> (rw [h]; rfl)

theorem text?_of_isAddress {ip : Address} {v : Json} (h : IsAddress ip v) :
    ∃ text, text? v = some text ∧ ip.Spells text := by
  obtain ⟨text, hspells, htext⟩ := h
  exact ⟨text, text?_of_isText htext, hspells⟩

theorem IsObject.ne_null {P : Fields → Prop} : ¬IsObject P .null := by
  rintro ⟨fs, h, -⟩
  cases h

/-! ### Records -/

theorem publicEntry?_of_describes {a : PublicAddress} {v : Json} (h : DescribesPublic a v) :
    ∃ e, publicEntry? v = some e ∧ PublicEntryOf a e := by
  obtain ⟨fs, known, ⟨hip, hblocked⟩, hknown, hlookup⟩ := exists_record? h ["ip", "blocked"] 2
  obtain ⟨text, htext, hspells⟩ :=
    required?_of_has hip (hlookup _ (by simp)) fun v => text?_of_isAddress
  have hb := required?_eq_of_has hblocked (hlookup _ (by simp)) fun v => bool?_of_isBool
  refine ⟨⟨text, a.blocked⟩, ?_, hspells, rfl⟩
  simp only [ publicEntry?, hknown, htext, hb, Option.bind_eq_bind, Option.bind_some,
    Option.pure_def]

theorem privateIp?_of_describes {ip : Address} {v : Json} (h : DescribesPrivate ip v) :
    ∃ text, privateIp? v = some text ∧ ip.Spells text := by
  obtain ⟨fs, known, hip, hknown, hlookup⟩ := exists_record? h ["ip"] 1
  obtain ⟨text, htext, hspells⟩ :=
    required?_of_has hip (hlookup _ (by simp)) fun v => text?_of_isAddress
  refine ⟨text, ?_, hspells⟩
  simp only [privateIp?, hknown, htext, Option.bind_eq_bind, Option.bind_some]

theorem location?_of_describes {name : String} {v : Json} (h : DescribesLocation name v) :
    location? v = some name := by
  obtain ⟨fs, known, hname, hknown, hlookup⟩ := exists_record? h ["name"] 1
  have htext := required?_eq_of_has hname (hlookup _ (by simp)) fun v => text?_of_isText
  simp only [location?, hknown, htext, Option.bind_eq_bind, Option.bind_some]

theorem datacenter?_of_describes {location : String} {v : Json}
    (h : DescribesDatacenter location v) : datacenter? v = some location := by
  obtain ⟨fs, known, hlocation, hknown, hlookup⟩ := exists_record? h ["location"] 1
  have hread := required?_eq_of_has hlocation (hlookup _ (by simp)) fun v => location?_of_describes
  simp only [datacenter?, hknown, hread, Option.bind_eq_bind, Option.bind_some]

theorem publicNet?_of_describes {m : Machine} {v : Json} (h : DescribesNet m v) :
    ∃ v4 v6, publicNet? v = some (v4, v6, m.floatingIds) ∧
      Option.Rel PublicEntryOf m.publicV4 v4 ∧ Option.Rel PublicEntryOf m.publicV6 v6 := by
  obtain ⟨fs, known, ⟨hv4, hv6, hids⟩, hknown, hlookup⟩ :=
    exists_record? h ["ipv4", "ipv6", "floating_ips"] 2
  obtain ⟨v4, hread4, hrel4⟩ := optional?_of_mayHave hv4 (hlookup _ (by simp))
    (fun _ => IsObject.ne_null) fun _ _ => publicEntry?_of_describes
  obtain ⟨v6, hread6, hrel6⟩ := optional?_of_mayHave hv6 (hlookup _ (by simp))
    (fun _ => IsObject.ne_null) fun _ _ => publicEntry?_of_describes
  obtain ⟨ids, hreadIds, hrelIds⟩ := listOrEmpty?_of_hasList (S := (· = ·)) hids
    (hlookup _ (by simp)) fun _ _ hv => ⟨_, word?_of_isWord hv, rfl⟩
  rw [List.forall₂_eq_eq_eq] at hrelIds
  subst hrelIds
  refine ⟨v4, v6, ?_, hrel4, hrel6⟩
  simp only [publicNet?, hknown, hread4, hread6, hreadIds, Option.bind_eq_bind, Option.bind_some,
    Option.pure_def]

/-- A document of a machine is read as an entry of it. -/
theorem serverEntry?_of_describes {m : Machine} {v : Json} (h : DescribesMachine m v) :
    ∃ e, serverEntry? v = some e ∧ EntryOf m e := by
  obtain ⟨fs, known, ⟨hid, hname, hcenter, hnet, hprivate⟩, hknown, hlookup⟩ :=
    exists_record? h ["id", "name", "datacenter", "public_net", "private_net"] 4
  have hid := required?_eq_of_has hid (hlookup _ (by simp)) fun v => word?_of_isWord
  have hname := required?_eq_of_has hname (hlookup _ (by simp)) fun v => text?_of_isText
  have hcenter :=
    required?_eq_of_has hcenter (hlookup _ (by simp)) fun v => datacenter?_of_describes
  obtain ⟨net, hnet, v4, v6, rfl, hrel4, hrel6⟩ := required?_of_has
    (S := fun net => ∃ v4 v6, net = (v4, v6, m.floatingIds) ∧
      Option.Rel PublicEntryOf m.publicV4 v4 ∧ Option.Rel PublicEntryOf m.publicV6 v6)
    hnet (hlookup _ (by simp)) fun v hv => by
      obtain ⟨v4, v6, hread, hrel⟩ := publicNet?_of_describes hv
      exact ⟨_, hread, v4, v6, rfl, hrel⟩
  obtain ⟨texts, htexts, hspells⟩ := listOrEmpty?_of_hasList hprivate (hlookup _ (by simp))
    fun _ _ => privateIp?_of_describes
  refine ⟨⟨m.id, m.name, m.location, v4, v6, m.floatingIds, texts⟩, ?_,
    rfl, rfl, rfl, hrel4, hrel6, rfl, hspells⟩
  simp only [ serverEntry?, hknown, hnet, hid, hname, hcenter, htexts, Option.bind_eq_bind,
    Option.bind_some, Option.pure_def]

theorem floatingEntry?_of_describes {f : UInt64 × FloatingAddress} {v : Json}
    (h : DescribesFloating f v) : ∃ e, floatingEntry? v = some e ∧ FloatingEntryOf f e := by
  obtain ⟨fs, known, ⟨hid, hip, hversion, hblocked⟩, hknown, hlookup⟩ :=
    exists_record? h ["id", "ip", "type", "blocked"] 4
  have hid := required?_eq_of_has hid (hlookup _ (by simp)) fun v => word?_of_isWord
  obtain ⟨text, htext, hspells⟩ :=
    required?_of_has hip (hlookup _ (by simp)) fun v => text?_of_isAddress
  have hversion := required?_eq_of_has hversion (hlookup _ (by simp)) fun v => version?_of_isText
  have hblocked := required?_eq_of_has hblocked (hlookup _ (by simp)) fun v => bool?_of_isBool
  refine ⟨⟨f.1, text, f.2.version, f.2.blocked⟩, ?_, rfl, hspells, rfl, rfl⟩
  simp only [ floatingEntry?, hknown, hid, htext, hversion, hblocked, Option.bind_eq_bind,
    Option.bind_some, Option.pure_def]

/-! ### Pages -/

theorem IsWord.ne_null (n : UInt64) : ¬IsWord n .null := nofun

theorem pagination?_of_describes {next : Option UInt64} {v : Json}
    (h : DescribesPagination next v) : pagination? v = some next := by
  obtain ⟨fs, known, hnext, hknown, hlookup⟩ := exists_record? h ["next_page"] 1
  obtain ⟨next', hread, hrel⟩ := optional?_of_mayHave (S := (· = ·)) hnext (hlookup _ (by simp))
    IsWord.ne_null fun _ _ hv => ⟨_, word?_of_isWord hv, rfl⟩
  have heq : next = next' := by
    cases hrel with
    | none => rfl
    | some heq => exact congrArg some heq
  rw [pagination?, hknown, Option.bind_eq_bind, Option.bind_some, hread, heq]

theorem meta?_of_describes {next : Option UInt64} {v : Json} (h : DescribesMeta next v) :
    meta? v = some next := by
  obtain ⟨fs, known, hpagination, hknown, hlookup⟩ := exists_record? h ["pagination"] 1
  rcases hpagination with hpagination | ⟨rfl, hlacks⟩
  · obtain ⟨inner, hread, rfl⟩ := optional?_of_has (S := (· = next)) hpagination
      (hlookup _ (by simp)) IsObject.ne_null fun _ hv => ⟨_, pagination?_of_describes hv, rfl⟩
    simp only [meta?, hknown, hread, Option.bind_eq_bind, Option.bind_some, Option.join_some,
      Option.pure_def]
  · have hread : known.optional? "pagination" pagination? = some none :=
      optional?_of_lacks hlacks (hlookup _ (by simp))
    simp only [meta?, hknown, hread, Option.bind_eq_bind, Option.bind_some, Option.join_none,
      Option.pure_def]

/-- Metadata are read as naming the page that they announce. -/
theorem optional?_meta_of_announces {fs known : Fields} {next : Option UInt64}
    (h : Announces fs next) (hlookup : known.lookup "meta" = fs.lookup "meta") :
    (known.optional? "meta" meta?).map Option.join = some next := by
  rcases h with hmeta | ⟨rfl, hlacks⟩
  · obtain ⟨inner, hread, rfl⟩ := optional?_of_has (S := (· = next)) hmeta hlookup
      IsObject.ne_null fun _ hv => ⟨_, meta?_of_describes hv, rfl⟩
    rw [hread]
    rfl
  · rw [optional?_of_lacks hlacks hlookup]
    rfl

/-- A document of a page is read as a page of entries. -/
theorem page?_of_describes {α β : Type} {key : String} {R : α → Json → Prop} {S : α → β → Prop}
    {item : Json → Option β} (read : ∀ a v, R a v → ∃ b, item v = some b ∧ S a b)
    {items : List α} {next : Option UInt64} {v : Json} (h : DescribesPage key R items next v) :
    ∃ entries, page? key item v = some ⟨entries, next⟩ ∧ List.Forall₂ S items entries := by
  obtain ⟨fs, known, ⟨hitems, hmeta⟩, hknown, hlookup⟩ := exists_record? h [key, "meta"] 2
  obtain ⟨entries, hentries, hrel⟩ := required?_of_has hitems (hlookup _ (by simp))
    fun v hv => list?_of_isArray hv read
  obtain ⟨inner, hinner, hnext⟩ :=
    Option.map_eq_some_iff.1 (optional?_meta_of_announces hmeta (hlookup _ (by simp)))
  refine ⟨entries, ?_, hrel⟩
  simp only [page?, hknown, hentries, hinner, hnext, Option.bind_eq_bind, Option.bind_some,
    Option.pure_def]

/-! ## Servers -/

theorem readAddress_of_spells {ip : Address} {text : String} (h : ip.Spells text) :
    readAddress text = .ok ip := by
  rw [readAddress, Address.read?_of_spells h]

theorem toAddress_of_publicEntryOf {a : Option PublicAddress} {e : Option PublicEntry}
    (h : Option.Rel PublicEntryOf a e) : e.mapM PublicEntry.toAddress = .ok a := by
  cases h with
  | none => rfl
  | @some a e h =>
    rw [Option.mapM_some, PublicEntry.toAddress, readAddress_of_spells h.ip, h.blocked]
    rfl

/-- An entry of a machine becomes the machine's server. -/
theorem toServer_of_entryOf {m : Machine} {e : ServerEntry} (h : EntryOf m e)
    (table : FloatingTable) : e.toServer table = .ok (m.server table.find?) := by
  have hprivate : e.privateIps.mapM readAddress = .ok m.privateAddresses := by
    rw [mapM_eq_ok_iff]
    exact List.Forall₂.flip (h.privateIps.imp fun _ _ => readAddress_of_spells)
  rw [ServerEntry.toServer, hprivate, toAddress_of_publicEntryOf h.publicV4,
    toAddress_of_publicEntryOf h.publicV6, h.id, h.name, h.location, h.floatingIds]
  rfl

theorem toAddress_of_floatingEntryOf {f : UInt64 × FloatingAddress} {e : FloatingEntry}
    (h : FloatingEntryOf f e) : e.toAddress = .ok f := by
  rw [FloatingEntry.toAddress, readAddress_of_spells h.ip, h.id, h.version, h.blocked]
  rfl

end CloudRoster.Provider
