/-
  Every page of machines or floating addresses can be told of.

  `Describes...` lets a server choose among many documents.  Here is one choice for each thing: all
  fields in the order of the schema, no further ones, addresses without the length of a network.  So
  there is always a reply that tells the truth (`delivers_machines`, `delivers_floating`), whatever
  names, numbers and addresses there are.
-/
import CloudRoster.Proofs.Json.Grammar
import CloudRoster.Proofs.Provider.Document
import CloudRoster.Provider.Client

namespace CloudRoster.Provider

open Http Json Text

variable {α : Type}

/-! ## Replies -/

/-- The reply is a success, and its body a document as `D` says. -/
def Delivers (D : Json → Prop) (reply : Option Reply) : Prop :=
  ∃ r v, reply = some r ∧ r.status.isSuccess = true ∧ v.Spells r.body ∧ D v

theorem readReply_of_delivers {D : Json → Prop} {S : α → Prop} (path : String)
    (read : Json → Option α) {reply : Option Reply} (h : Delivers D reply)
    (hread : ∀ v, D v → ∃ a, read v = some a ∧ S a) :
    ∃ a, readReply path read reply = .ok a ∧ S a := by
  obtain ⟨r, v, rfl, hstatus, hspells, hv⟩ := h
  obtain ⟨a, ha, hS⟩ := hread v hv
  refine ⟨a, ?_, hS⟩
  simp only [readReply, hstatus, if_true, ofBytes?_of_spells hspells, Option.bind_some, ha]

namespace Telling

/-- A success with a document. -/
def reply (v : Json) : Reply := ⟨200, v.write⟩

theorem delivers_reply {D : Json → Prop} {v : Json} (h : D v) (hplain : v.IsPlain) :
    Delivers D (some (reply v)) :=
  ⟨reply v, v, rfl, rfl, spells_write hplain, h⟩

/-! ## Documents -/

/-- The object of named fields. -/
def record (fs : Fields) : Json := .object (fs.map fun f => (some f.1, f.2))

def word (n : UInt64) : Json := .number (decimal n.toNat)

def orNull (document : α → Json) (a : Option α) : Json := (a.map document).getD .null

def publicDocument (a : PublicAddress) : Json :=
  record [("ip", .text (some a.ip.print)), ("blocked", .bool a.blocked)]

def machineDocument (m : Machine) : Json :=
  record [
    ("id", word m.id),
    ("name", .text (some m.name)),
    ("datacenter", record [("location", record [("name", .text (some m.location))])]),
    ("public_net", record [
      ("ipv4", orNull publicDocument m.publicV4),
      ("ipv6", orNull publicDocument m.publicV6),
      ("floating_ips", .array (m.floatingIds.map word))]),
    ("private_net",
      .array (m.privateAddresses.map fun ip => record [("ip", .text (some ip.print))]))]

def floatingDocument (f : UInt64 × FloatingAddress) : Json :=
  record [
    ("id", word f.1),
    ("ip", .text (some f.2.ip.print)),
    ("type", .text (some (versionName f.2.version))),
    ("blocked", .bool f.2.blocked)]

def pageDocument (key : String) (document : α → Json) (items : List α) (next : Option UInt64) :
    Json :=
  record [(key, .array (items.map document)),
    ("meta", record [("pagination", record [("next_page", orNull word next)])])]

/-! ## Documents describe what they are of -/

theorem isObject_record {P : Fields → Prop} {fs : Fields} (hnodup : (fs.map Prod.fst).Nodup)
    (h : P fs) : IsObject P (record fs) := ⟨fs, rfl, hnodup, h⟩

theorem isArray_map {R : α → Json → Prop} {document : α → Json} (h : ∀ a, R a (document a))
    (as : List α) : IsArray R as (.array (as.map document)) := by
  refine ⟨_, rfl, ?_⟩
  rw [List.forall₂_map_right_iff]
  exact List.forall₂_same.2 fun a _ => h a

theorem mayHave_orNull {R : α → Json → Prop} {document : α → Json} (h : ∀ a, R a (document a))
    {fs : Fields} {name : String} {a : Option α}
    (hlookup : fs.lookup name = some (orNull document a)) : MayHave fs name R a := by
  cases a with
  | none => exact .inr hlookup
  | some a => exact ⟨document a, hlookup, h a⟩

theorem isWord_word (n : UInt64) : IsWord n (word n) := rfl

theorem isAddress_print (ip : Address) : IsAddress ip (.text (some ip.print)) := ⟨_, .inl rfl, rfl⟩

theorem describes_publicDocument (a : PublicAddress) : DescribesPublic a (publicDocument a) :=
  isObject_record (by simp) ⟨⟨_, rfl, isAddress_print a.ip⟩, _, rfl, rfl⟩

theorem describes_machineDocument (m : Machine) : DescribesMachine m (machineDocument m) := by
  refine isObject_record (by simp) ⟨⟨_, rfl, rfl⟩, ⟨_, rfl, rfl⟩, ⟨_, rfl, ?_⟩, ⟨_, rfl, ?_⟩, ?_⟩
  · refine isObject_record (by simp) ⟨_, rfl, ?_⟩
    exact isObject_record (by simp) ⟨_, rfl, rfl⟩
  · refine isObject_record (by simp) ⟨?_, ?_, .inl ⟨_, rfl, isArray_map isWord_word _⟩⟩
    · exact mayHave_orNull describes_publicDocument rfl
    · exact mayHave_orNull describes_publicDocument rfl
  · refine .inl ⟨_, rfl, isArray_map (fun ip => ?_) _⟩
    exact isObject_record (by simp) ⟨_, rfl, isAddress_print ip⟩

theorem describes_floatingDocument (f : UInt64 × FloatingAddress) :
    DescribesFloating f (floatingDocument f) :=
  isObject_record (by simp)
    ⟨⟨_, rfl, rfl⟩, ⟨_, rfl, isAddress_print f.2.ip⟩, ⟨_, rfl, rfl⟩, _, rfl, rfl⟩

theorem describes_pageDocument {key : String} (hkey : key ≠ "meta") {R : α → Json → Prop}
    {document : α → Json} (h : ∀ a, R a (document a)) (items : List α) (next : Option UInt64) :
    DescribesPage key R items next (pageDocument key document items next) := by
  refine isObject_record (by simpa using hkey) ⟨⟨_, List.lookup_cons_self, isArray_map h items⟩, ?_⟩
  refine .inl ⟨record [("pagination", record [("next_page", orNull word next)])], ?_, ?_⟩
  · rw [List.lookup_cons, beq_false_of_ne (Ne.symm hkey)]
    rfl
  · refine isObject_record (by simp) (.inl ⟨_, rfl, ?_⟩)
    exact isObject_record (by simp) (mayHave_orNull isWord_word rfl)

/-! ## Documents can be written -/

theorem isPlain_record {fs : Fields} (h : ∀ f ∈ fs, IsPlain f.2) : IsPlain (record fs) :=
  isPlain_object h

theorem isPlain_orNull {document : α → Json} (h : ∀ a, IsPlain (document a)) (a : Option α) :
    IsPlain (orNull document a) := by
  cases a with
  | none => exact isPlain_null
  | some a => exact h a

theorem isPlain_map {document : α → Json} (h : ∀ a, IsPlain (document a)) (as : List α) :
    IsPlain (.array (as.map document)) :=
  isPlain_array (List.forall_mem_map.2 fun a _ => h a)

theorem isPlain_publicDocument (a : PublicAddress) : IsPlain (publicDocument a) := by
  refine isPlain_record ?_
  simp only [List.forall_mem_cons, isPlain_bool, isPlain_text, List.not_mem_nil,
    false_implies, implies_true, and_self]

theorem isPlain_word (n : UInt64) : IsPlain (word n) := isPlain_number n.toNat

theorem isPlain_machineDocument (m : Machine) : IsPlain (machineDocument m) := by
  have hprivate : ∀ ip : Address, IsPlain (record [("ip", .text (some ip.print))]) :=
    fun ip => isPlain_record (List.forall_mem_singleton.2 (isPlain_text _))
  have hcenter : IsPlain (record [("location", record [("name", .text (some m.location))])]) :=
    isPlain_record (List.forall_mem_singleton.2
      (isPlain_record (List.forall_mem_singleton.2 (isPlain_text _))))
  have hnet : IsPlain (record [
      ("ipv4", orNull publicDocument m.publicV4),
      ("ipv6", orNull publicDocument m.publicV6),
      ("floating_ips", .array (m.floatingIds.map word))]) := by
    refine isPlain_record ?_
    simp only [List.forall_mem_cons, isPlain_orNull isPlain_publicDocument,
      isPlain_map isPlain_word, List.not_mem_nil, false_implies, implies_true, and_self]
  refine isPlain_record ?_
  simp only [List.forall_mem_cons, isPlain_word, isPlain_text, hcenter, hnet,
    isPlain_map hprivate, List.not_mem_nil, false_implies, implies_true, and_self]

theorem isPlain_floatingDocument (f : UInt64 × FloatingAddress) : IsPlain (floatingDocument f) := by
  refine isPlain_record ?_
  simp only [List.forall_mem_cons, isPlain_word, isPlain_text, isPlain_bool,
    List.not_mem_nil, false_implies, implies_true, and_self]

theorem isPlain_pageDocument (key : String) {document : α → Json} (h : ∀ a, IsPlain (document a))
    (items : List α) (next : Option UInt64) : IsPlain (pageDocument key document items next) := by
  have hmeta : IsPlain (record [("pagination", record [("next_page", orNull word next)])]) :=
    isPlain_record (List.forall_mem_singleton.2
      (isPlain_record (List.forall_mem_singleton.2 (isPlain_orNull isPlain_word next))))
  refine isPlain_record ?_
  simp only [List.forall_mem_cons, isPlain_map h, hmeta, List.not_mem_nil, false_implies,
    implies_true, and_self]

/-! ## There is always a reply -/

theorem delivers_machines (ms : List Machine) (next : Option UInt64) :
    Delivers (DescribesPage "servers" DescribesMachine ms next)
      (some (reply (pageDocument "servers" machineDocument ms next))) :=
  delivers_reply (describes_pageDocument (by decide) describes_machineDocument ms next)
    (isPlain_pageDocument "servers" isPlain_machineDocument ms next)

theorem delivers_floating (fs : FloatingTable) (next : Option UInt64) :
    Delivers (DescribesPage "floating_ips" DescribesFloating fs next)
      (some (reply (pageDocument "floating_ips" floatingDocument fs next))) :=
  delivers_reply (describes_pageDocument (by decide) describes_floatingDocument fs next)
    (isPlain_pageDocument "floating_ips" isPlain_floatingDocument fs next)

end Telling

end CloudRoster.Provider
