/-
  The schema of the provider's answers, and that it is accepted exactly.

  `Is...` describes the values that tell of an entry, field by field, in either written form of a
  record: which fields have to be there and which may be absent or null, that no declared field
  stands there twice, and what each holds.  All other fields of an object are of no account.
  Nothing of the readers is in these descriptions.

  1. **Values** - words are integers below 2^64 in plain digits, versions have two spellings.
  2. **Records** - one description for each record of the schema, and each is read exactly
     (`Reads`).
  3. **Pages** - `IsPage key R page v`: the value tells of this page, with items as `R` says.
  4. **Bodies** - `Holds R a body`: the body renders a value that tells of `a`.  A success has data
     exactly if its body holds them (`readReply_eq_ok_iff_holds`).

  **Headline** (`readReply_conforms`): a success is read as a page exactly if its document tells of
  that page, and refused as unreadable exactly if it tells of none.
-/
import CloudRoster.Proofs.Json.Occurrence
import CloudRoster.Proofs.Provider.Document
import CloudRoster.Proofs.Provider.Paging

namespace CloudRoster.Provider

open Http Json Text

variable {α : Type}

/-! ## Values -/

/-- A version by its name, alone or as the only key of an object that holds null. -/
def IsVersion (version : Version) (v : Json) : Prop :=
  v = .text (some (versionName version)) ∨ v = .object [(some (versionName version), .null)]

/-- The literal of a number that is all digits is the numeral of what they make. -/
theorem eq_decimal_of_isNumber {l : List Char} {n : Nat} (h : IsNumber l)
    (hn : natural? 10 l = some n) : l = decimal n := by
  obtain ⟨sign, whole, fraction, exponent, hsign, hwhole, hfraction, hexponent, rfl⟩ := h
  have hdigits {c : Char} (hc : digit? 10 c = none) :
      c ∉ sign ++ whole ++ fraction ++ exponent := notMem_of_natural? hn hc
  have hsign : sign = [] := by
    simp only [List.mem_cons, List.not_mem_nil, or_false] at hsign
    rcases hsign with rfl | rfl
    · rfl
    · exact absurd (by simp) (hdigits (c := '-') (by decide))
  have hfraction : fraction = [] := by
    rcases hfraction with rfl | ⟨ds, -, rfl⟩
    · rfl
    · exact absurd (by simp) (hdigits (c := '.') (by decide))
  have hexponent : exponent = [] := by
    rcases hexponent with rfl | ⟨e, s, ds, he, -, -, rfl⟩
    · rfl
    · have hletter : digit? 10 e = none := by
        simp only [List.mem_cons, List.not_mem_nil, or_false] at he
        rcases he with rfl | rfl <;> decide
      exact absurd (by simp) (hdigits hletter)
  subst hsign hfraction hexponent
  simp only [List.nil_append, List.append_nil] at hn ⊢
  refine eq_decimal_of_natural? hn fun hzero => ?_
  rcases hwhole with rfl | ⟨-, hhead⟩
  · rfl
  · exact absurd hzero hhead

theorem reads_word : Reads word? IsWord := by
  intro v hv n
  constructor
  · intro h
    cases v with
    | number l =>
      obtain ⟨m, hm, rfl⟩ := Option.map_eq_some_iff.1 h
      obtain ⟨hm, hlt⟩ := Option.filter_eq_some_iff.1 hm
      have hlt : m < UInt64.size := of_decide_eq_true hlt
      have hl := eq_decimal_of_isNumber (hv l List.mem_cons_self) hm
      show Json.number l = .number (decimal (UInt64.ofNat m).toNat)
      rw [UInt64.toNat_ofNat_of_lt' hlt, hl]
    | _ => cases h
  · exact word?_of_isWord

theorem reads_text : Reads text? IsText := by
  intro v _ s
  constructor
  · intro h
    cases v with
    | text t => exact congrArg Json.text h
    | _ => cases h
  · exact text?_of_isText

theorem reads_bool : Reads bool? IsBool := by
  intro v _ b
  constructor
  · intro h
    cases v with
    | bool b => exact congrArg Json.bool (Option.some.inj h)
    | _ => cases h
  · exact bool?_of_isBool

theorem reads_version : Reads version? IsVersion := by
  intro v _ version
  constructor
  · intro h
    unfold version? at h
    split at h
    all_goals cases h
    · exact .inl rfl
    · exact .inl rfl
    · exact .inr rfl
    · exact .inr rfl
  · rintro (rfl | rfl) <;> cases version <;> rfl

/-! ## Records -/

def IsPublicEntry (e : PublicEntry) : Json → Prop :=
  IsRecord ["ip", "blocked"] 2 fun field =>
    Once (IsText e.ip) (field "ip") ∧ Once (IsBool e.blocked) (field "blocked")

def IsLocation (name : String) : Json → Prop :=
  IsRecord ["name"] 1 fun field => Once (IsText name) (field "name")

def IsDatacenter (location : String) : Json → Prop :=
  IsRecord ["location"] 1 fun field => Once (IsLocation location) (field "location")

def IsPrivateEntry (ip : String) : Json → Prop :=
  IsRecord ["ip"] 1 fun field => Once (IsText ip) (field "ip")

/-- The public addresses of a server, and the numbers of its floating ones. -/
def IsNet (v4 v6 : Option PublicEntry) (floatingIds : List UInt64) : Json → Prop :=
  IsRecord ["ipv4", "ipv6", "floating_ips"] 2 fun field =>
    AtMostOnce IsPublicEntry v4 (field "ipv4") ∧ AtMostOnce IsPublicEntry v6 (field "ipv6") ∧
      ListAtMostOnce IsWord floatingIds (field "floating_ips")

def IsServerEntry (e : ServerEntry) : Json → Prop :=
  IsRecord ["id", "name", "datacenter", "public_net", "private_net"] 4 fun field =>
    Once (IsWord e.id) (field "id") ∧ Once (IsText e.name) (field "name") ∧
      Once (IsDatacenter e.location) (field "datacenter") ∧
      Once (IsNet e.publicV4 e.publicV6 e.floatingIds) (field "public_net") ∧
      ListAtMostOnce IsPrivateEntry e.privateIps (field "private_net")

def IsFloatingEntry (e : FloatingEntry) : Json → Prop :=
  IsRecord ["id", "ip", "type", "blocked"] 4 fun field =>
    Once (IsWord e.id) (field "id") ∧ Once (IsText e.ip) (field "ip") ∧
      Once (IsVersion e.version) (field "type") ∧ Once (IsBool e.blocked) (field "blocked")

theorem reads_publicEntry : Reads publicEntry? IsPublicEntry := by
  refine reads_record (fun fs field hgives e => ?_) fun e field h => ?_
  · simp only [Option.bind_eq_bind, Option.pure_def, Option.bind_eq_some_iff,
      hgives.required?_iff "ip" (by simp) reads_text,
      hgives.required?_iff "blocked" (by simp) reads_bool]
    constructor
    · rintro ⟨ip, hip, blocked, hblocked, h⟩
      cases h
      exact ⟨hip, hblocked⟩
    · rintro ⟨hip, hblocked⟩
      exact ⟨_, hip, _, hblocked, rfl⟩
  · simp only [List.forall_mem_cons]
    exact ⟨h.1.length_le, h.2.length_le, List.forall_mem_nil _⟩

theorem reads_location : Reads location? IsLocation :=
  reads_record (fun _ _ hgives _ => hgives.required?_iff "name" (by simp) reads_text)
    fun _ _ h => List.forall_mem_singleton.2 h.length_le

theorem reads_datacenter : Reads datacenter? IsDatacenter :=
  reads_record (fun _ _ hgives _ => hgives.required?_iff "location" (by simp) reads_location)
    fun _ _ h => List.forall_mem_singleton.2 h.length_le

theorem reads_privateEntry : Reads privateIp? IsPrivateEntry :=
  reads_record (fun _ _ hgives _ => hgives.required?_iff "ip" (by simp) reads_text)
    fun _ _ h => List.forall_mem_singleton.2 h.length_le

theorem reads_net : Reads publicNet? fun net => IsNet net.1 net.2.1 net.2.2 := by
  refine reads_record (fun fs field hgives net => ?_) fun net field h => ?_
  · simp only [Option.bind_eq_bind, Option.pure_def, Option.bind_eq_some_iff,
      hgives.optional?_iff "ipv4" (by simp) reads_publicEntry,
      hgives.optional?_iff "ipv6" (by simp) reads_publicEntry,
      hgives.listOrEmpty?_iff "floating_ips" (by simp) reads_word]
    constructor
    · rintro ⟨v4, hv4, v6, hv6, ids, hids, h⟩
      cases h
      exact ⟨hv4, hv6, hids⟩
    · rintro ⟨hv4, hv6, hids⟩
      exact ⟨_, hv4, _, hv6, _, hids, rfl⟩
  · simp only [List.forall_mem_cons]
    exact ⟨h.1.length_le, h.2.1.length_le, h.2.2.length_le, List.forall_mem_nil _⟩

theorem reads_serverEntry : Reads serverEntry? IsServerEntry := by
  refine reads_record (fun fs field hgives e => ?_) fun e field h => ?_
  · simp only [Option.bind_eq_bind, Option.pure_def, Option.bind_eq_some_iff,
      hgives.required?_iff "id" (by simp) reads_word,
      hgives.required?_iff "name" (by simp) reads_text,
      hgives.required?_iff "datacenter" (by simp) reads_datacenter,
      hgives.required?_iff "public_net" (by simp) reads_net,
      hgives.listOrEmpty?_iff "private_net" (by simp) reads_privateEntry]
    constructor
    · rintro ⟨net, hnet, id, hid, name, hname, location, hlocation, ips, hips, h⟩
      cases h
      exact ⟨hid, hname, hlocation, hnet, hips⟩
    · rintro ⟨hid, hname, hlocation, hnet, hips⟩
      exact ⟨(_, _, _), hnet, _, hid, _, hname, _, hlocation, _, hips, rfl⟩
  · simp only [List.forall_mem_cons]
    exact ⟨h.1.length_le, h.2.1.length_le, h.2.2.1.length_le, h.2.2.2.1.length_le,
      h.2.2.2.2.length_le, List.forall_mem_nil _⟩

theorem reads_floatingEntry : Reads floatingEntry? IsFloatingEntry := by
  refine reads_record (fun fs field hgives e => ?_) fun e field h => ?_
  · simp only [Option.bind_eq_bind, Option.pure_def, Option.bind_eq_some_iff,
      hgives.required?_iff "id" (by simp) reads_word,
      hgives.required?_iff "ip" (by simp) reads_text,
      hgives.required?_iff "type" (by simp) reads_version,
      hgives.required?_iff "blocked" (by simp) reads_bool]
    constructor
    · rintro ⟨id, hid, ip, hip, version, hversion, blocked, hblocked, h⟩
      cases h
      exact ⟨hid, hip, hversion, hblocked⟩
    · rintro ⟨hid, hip, hversion, hblocked⟩
      exact ⟨_, hid, _, hip, _, hversion, _, hblocked, rfl⟩
  · simp only [List.forall_mem_cons]
    exact ⟨h.1.length_le, h.2.1.length_le, h.2.2.1.length_le, h.2.2.2.length_le,
      List.forall_mem_nil _⟩

/-! ## Pages -/

def IsPagination (next : Option UInt64) : Json → Prop :=
  IsRecord ["next_page"] 1 fun field => AtMostOnce IsWord next (field "next_page")

/-- Metadata without pagination name no page, as do those with one that names none. -/
def IsMeta (next : Option UInt64) : Json → Prop :=
  IsRecord ["pagination"] 1 fun field =>
    ∃ pagination, AtMostOnce IsPagination pagination (field "pagination") ∧
      next = pagination.join

/-- A page with items as `R` says under `key`. -/
def IsPage (key : String) (R : α → Json → Prop) (page : Page α) : Json → Prop :=
  IsRecord [key, "meta"] 2 fun field =>
    Once (IsArray R page.items) (field key) ∧
      ∃ metadata, AtMostOnce IsMeta metadata (field "meta") ∧ page.next = metadata.join

theorem reads_pagination : Reads pagination? IsPagination :=
  reads_record (fun _ _ hgives _ => hgives.optional?_iff "next_page" (by simp) reads_word)
    fun _ _ h => List.forall_mem_singleton.2 h.length_le

theorem reads_meta : Reads meta? IsMeta := by
  refine reads_record (fun fs field hgives next => ?_) fun next field h => ?_
  · simp only [Option.bind_eq_bind, Option.pure_def, Option.bind_eq_some_iff,
      hgives.optional?_iff "pagination" (by simp) reads_pagination]
    constructor
    · rintro ⟨pagination, hpagination, h⟩
      cases h
      exact ⟨pagination, hpagination, rfl⟩
    · rintro ⟨pagination, hpagination, rfl⟩
      exact ⟨pagination, hpagination, rfl⟩
  · obtain ⟨pagination, h, -⟩ := h
    exact List.forall_mem_singleton.2 h.length_le

theorem reads_page {key : String} {item : Json → Option α} {R : α → Json → Prop}
    (hread : Reads item R) : Reads (page? key item) (IsPage key R) := by
  refine reads_record (fun fs field hgives page => ?_) fun page field h => ?_
  · simp only [Option.bind_eq_bind, Option.pure_def, Option.bind_eq_some_iff,
      hgives.required?_iff key (by simp) hread.list,
      hgives.optional?_iff "meta" (by simp) reads_meta]
    constructor
    · rintro ⟨items, hitems, metadata, hmeta, h⟩
      cases h
      exact ⟨hitems, metadata, hmeta, rfl⟩
    · rintro ⟨hitems, metadata, hmeta, hnext⟩
      exact ⟨_, hitems, metadata, hmeta, by rw [← hnext]⟩
  · obtain ⟨hitems, metadata, hmeta, -⟩ := h
    simp only [List.forall_mem_cons]
    exact ⟨hitems.length_le, hmeta.length_le, List.forall_mem_nil _⟩

/-! ## Replies -/

/-- The body is a rendering of a value that tells of `a`, as `R` says. -/
def Holds (R : α → Json → Prop) (a : α) (body : List UInt8) : Prop := ∃ v, v.Renders body ∧ R a v

section

variable {read : Json → Option α} {R : α → Json → Prop} {path : String} {reply : Reply}

theorem holds_iff {body : List UInt8} {v : Json} (hbody : v.Renders body) {a : α} :
    Holds R a body ↔ R a v := by
  constructor
  · rintro ⟨w, hw, ha⟩
    -- a body renders one value only
    obtain rfl : w = v :=
      Option.some.inj ((ofBytes?_eq_some_iff.2 hw).symm.trans (ofBytes?_eq_some_iff.2 hbody))
    exact ha
  · exact fun ha => ⟨v, hbody, ha⟩

/-- A reader that accepts a schema exactly reads out of a body what it holds. -/
theorem read_iff_holds (hread : Reads read R) {body : List UInt8} {a : α} :
    (Json.ofBytes? body).bind read = some a ↔ Holds R a body := by
  rw [Option.bind_eq_some_iff]
  refine exists_congr fun v => ?_
  rw [ofBytes?_eq_some_iff]
  exact and_congr_right fun hbody => hread v hbody.isProper a

theorem read_eq_none_iff (hread : Reads read R) {body : List UInt8} :
    (Json.ofBytes? body).bind read = none ↔ ∀ a, ¬Holds R a body := by
  rw [Option.eq_none_iff_forall_ne_some]
  exact forall_congr' fun a => not_congr (read_iff_holds hread)

theorem readReply_of_success (h : 200 ≤ reply.status ∧ reply.status ≤ 299) :
    readReply path read (some reply) =
      ((Json.ofBytes? reply.body).bind read).elim (.error .undecodable) .ok := by
  rw [readReply, if_pos (isSuccess_iff.2 h)]
  cases (Json.ofBytes? reply.body).bind read with
  | none => rfl
  | some a => rfl

theorem readReply_of_rejection (h : ¬(200 ≤ reply.status ∧ reply.status ≤ 299)) :
    readReply path read (some reply) =
      .error (.rejected path reply.status
        (((Json.ofBytes? reply.body).bind errorDetails?).map fun d => (d.code, d.message))) := by
  rw [readReply, if_neg (mt isSuccess_iff.1 h)]

/-- Data are what the body of a success holds. -/
theorem readReply_eq_ok_iff_holds (hread : Reads read R) {a : α} :
    readReply path read (some reply) = .ok a ↔
      (200 ≤ reply.status ∧ reply.status ≤ 299) ∧ Holds R a reply.body := by
  by_cases hstatus : 200 ≤ reply.status ∧ reply.status ≤ 299
  · rw [readReply_of_success hstatus, ← read_iff_holds hread]
    cases (Json.ofBytes? reply.body).bind read <;> simp [hstatus]
  · rw [readReply_of_rejection hstatus]
    simp [hstatus]

/-- A success is unreadable if its body holds nothing of the kind. -/
theorem readReply_eq_undecodable_iff (hread : Reads read R) :
    readReply path read (some reply) = .error .undecodable ↔
      (200 ≤ reply.status ∧ reply.status ≤ 299) ∧ ∀ a, ¬Holds R a reply.body := by
  by_cases hstatus : 200 ≤ reply.status ∧ reply.status ≤ 299
  · rw [readReply_of_success hstatus, ← read_eq_none_iff hread]
    cases (Json.ofBytes? reply.body).bind read <;> simp [hstatus]
  · rw [readReply_of_rejection hstatus]
    simp [hstatus]

end

/-- A success is read as what its document tells, or else it is unreadable. -/
theorem readReply_of_reads {read : Json → Option α} {R : α → Json → Prop} (hread : Reads read R)
    (path : String) {r : Reply} {v : Json} (hstatus : r.status.isSuccess = true)
    (hbody : v.Renders r.body) :
    (∀ a, readReply path read (some r) = .ok a ↔ R a v) ∧
      ((∀ a, ¬R a v) → readReply path read (some r) = .error .undecodable) := by
  have hsuccess := isSuccess_iff.1 hstatus
  constructor
  · intro a
    rw [readReply_eq_ok_iff_holds hread, holds_iff hbody]
    exact and_iff_right hsuccess
  · intro hno
    exact (readReply_eq_undecodable_iff hread).2
      ⟨hsuccess, fun a => mt (holds_iff hbody).1 (hno a)⟩

/-- **The schema is accepted exactly.**  Whatever value the body of a success holds, and however it
    is rendered, the body is read as a page of servers if and only if the value tells of that page,
    so that everything read stands in it; and it is unreadable if the value tells of no page.  The
    same holds of pages of floating addresses. -/
theorem readReply_conforms (path : String) {r : Reply} {v : Json}
    (hstatus : 200 ≤ r.status ∧ r.status ≤ 299) (hbody : v.Renders r.body) :
    ((∀ page, readReply path serverPage? (some r) = .ok page ↔
        IsPage "servers" IsServerEntry page v) ∧
      ((∀ page, ¬IsPage "servers" IsServerEntry page v) →
        readReply path serverPage? (some r) = .error .undecodable)) ∧
    ((∀ page, readReply path Client.floatingListing.readPage (some r) = .ok page ↔
        IsPage "floating_ips" IsFloatingEntry page v) ∧
      ((∀ page, ¬IsPage "floating_ips" IsFloatingEntry page v) →
        readReply path Client.floatingListing.readPage (some r) = .error .undecodable)) := by
  have hsuccess := isSuccess_iff.2 hstatus
  constructor
  · exact readReply_of_reads (reads_page reads_serverEntry) path hsuccess hbody
  · exact readReply_of_reads (reads_page reads_floatingEntry) path hsuccess hbody

/-! ### A page in mixed spelling -/

/-- A server with the largest number there is, further fields, one of them twice, and records
    written as lists. -/
def mixedServer : Json := .object [
  (some "name", .text (some "web")),
  (some "id", .number (decimal 18446744073709551615)),
  (some "datacenter", .array [.array [.text (some "fsn1")]]),
  (some "extra", .number ['1', 'e', '9', '9', '9']),
  (some "extra", .array []),
  (some "public_net", .object [
    (some "ipv6", .array [.text (some "::1"), .bool true]), (some "ipv4", .null)]),
  (some "private_net", .array [.array [.text (some "10.0.0.1")]])]

/-- A page with that server, with metadata first and a string that is no text. -/
def mixedPage : Json := .object [
  (some "extra", .text none),
  (some "meta", .object [(some "pagination", .array [.number ['2']])]),
  (some "servers", .array [mixedServer])]

def mixedBody : List UInt8 := utf8
  ("\x7b\"extra\":\"\\ud800\",\n\t\"meta\":\x7b\"pagination\":[ 2 ]\x7d,\"servers\":[\x7b" ++
    "\"n\\u0061me\":\"web\",\"id\":18446744073709551615,\"datacenter\":[[\"fsn1\"]]," ++
    "\"extra\":1e999,\"extra\":[],\"public_net\":\x7b\"ipv6\":[\"::1\",true],\"ipv4\":null\x7d," ++
    "\"private_net\":[[\"10.0.0.1\"]]\x7d]\x7d")

def mixedEntry : ServerEntry where
  id := 18446744073709551615
  name := "web"
  location := "fsn1"
  publicV4 := none
  publicV6 := some ⟨"::1", true⟩
  floatingIds := []
  privateIps := ["10.0.0.1"]

/-- It is read as that server, and as no page of floating addresses. -/
theorem readReply_conforms_mixed :
    mixedPage.Renders mixedBody ∧
    IsPage "servers" IsServerEntry ⟨[mixedEntry], some 2⟩ mixedPage ∧
    readReply "/servers" serverPage? (some ⟨200, mixedBody⟩) = .ok ⟨[mixedEntry], some 2⟩ ∧
    readReply "/floating_ips" Client.floatingListing.readPage (some ⟨200, mixedBody⟩) =
      .error .undecodable := by
  have hbody : mixedPage.Renders mixedBody := Token.lex_sound (by decide +kernel)
  have hpage : serverPage? mixedPage = some ⟨[mixedEntry], some 2⟩ := by decide +kernel
  have hconforms : IsPage "servers" IsServerEntry ⟨[mixedEntry], some 2⟩ mixedPage :=
    (reads_page reads_serverEntry mixedPage hbody.isProper _).1 hpage
  obtain ⟨⟨hservers, -⟩, -, hfloating⟩ :=
    readReply_conforms "/servers" (r := ⟨200, mixedBody⟩) (by decide) hbody
  refine ⟨hbody, hconforms, (hservers _).2 hconforms, hfloating ?_⟩
  -- nothing stands under the name that such a page has to have
  rintro page ⟨-, ⟨v, hv, -⟩, -⟩
  cases hv

end CloudRoster.Provider
