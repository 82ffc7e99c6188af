/-
  Later versions of the provider's answers.

  The provider may say more in its answers than it did: further fields, in any record, with values
  of any kind, in any place among the others; and it may lay out its documents as it likes.  None of
  this is noticed.

  1. **Shapes** - where the schema looks for records, and that each description of the schema is
     kept by alterations of its shape (`kept_serverEntry`, `kept_page`).
  2. **Documents** - `Revises s body body'`: the one holds a value, the other the same but for
     alterations, and both are rendered in any way.  A reader of the schema reads the same from
    both.
  3. **Dialogues** - `Overlooks R d`: answers that are as `R` says make no difference to the
     dialogue.  In worlds whose answers are so, it runs the same way (`Overlooks.run`).

  **Headline** (`Client.revisions_overlooked`): what decodes decodes to the same after any
  alterations, and calls against a server that revises its documents have the same result and make
  the same requests.
-/
import CloudRoster.Proofs.Json.Alteration
import CloudRoster.Proofs.Provider.Call
import CloudRoster.Proofs.Provider.Conformity
import CloudRoster.Proofs.Provider.Inquiry

namespace CloudRoster

open Json

/-! ## Dialogues -/

namespace Dialogue

variable {Q : Type} {A : Q → Type} {R : (q : Q) → A q → A q → Prop} {α β : Type}

/-- Answers that are as `R` says make no difference to the dialogue. -/
inductive Overlooks (R : (q : Q) → A q → A q → Prop) : Dialogue A α → Prop where
  | done (a : α) : Overlooks R (.done a)
  | fail (e : Failure) : Overlooks R (.fail e)
  | report (e : Log.Entry) {next : Dialogue A α} (h : Overlooks R next) :
      Overlooks R (.report e next)
  | ask {q : Q} {next : A q → Dialogue A α} (same : ∀ a b, R q a b → next a = next b)
      (h : ∀ a, Overlooks R (next a)) : Overlooks R (.ask q next)

theorem Overlooks.bind {d : Dialogue A α} {f : α → Dialogue A β} (h : Overlooks R d)
    (hf : ∀ a, Overlooks R (f a)) : Overlooks R (d >>= f) := by
  induction h with
  | done a => exact hf a
  | fail e => exact .fail e
  | report e _ ih => exact .report e ih
  | ask same _ ih =>
    refine .ask (fun a b hab => ?_) ih
    show _ >>= f = _ >>= f
    rw [same a b hab]

/-- The same question, with answers that are as `R` says. -/
inductive SameExchange (R : (q : Q) → A q → A q → Prop) : Exchange A → Exchange A → Prop where
  | mk {q : Q} {a b : A q} (h : R q a b) : SameExchange R ⟨q, a⟩ ⟨q, b⟩

/-- To the same question after the same questions, and answers that are as `R` says, the worlds have
    answers that are so too. -/
def SameWorld (R : (q : Q) → A q → A q → Prop) (world world' : World A) : Prop :=
  ∀ past past', List.Forall₂ (SameExchange R) past past' → ∀ q, R q (world past q) (world' past' q)

/-- Transcripts between which only such answers make a difference. -/
structure SameTranscript (R : (q : Q) → A q → A q → Prop) (t t' : Transcript A α) : Prop where
  result : t.result = t'.result
  entries : t.entries = t'.entries
  exchanges : List.Forall₂ (SameExchange R) t.exchanges t'.exchanges

theorem Overlooks.run {d : Dialogue A α} (h : Overlooks R d) {world world' : World A}
    (hworld : SameWorld R world world') {past past' : List (Exchange A)}
    (hpast : List.Forall₂ (SameExchange R) past past') :
    SameTranscript R (d.run world past) (d.run world' past') := by
  induction h generalizing past past' with
  | done a => exact ⟨rfl, rfl, .nil⟩
  | fail e => exact ⟨rfl, rfl, .nil⟩
  | report e _ ih =>
    obtain ⟨hresult, hentries, hexchanges⟩ := ih hpast
    exact ⟨hresult, congrArg (e :: ·) hentries, hexchanges⟩
  | @ask q next same _ ih =>
    have hanswer : R q (world past q) (world' past' q) := hworld past past' hpast q
    have hx : SameExchange R ⟨q, world past q⟩ ⟨q, world' past' q⟩ := .mk hanswer
    have hmore := ih (world past q) (List.rel_append hpast (.cons hx .nil))
    rw [Dialogue.run, Dialogue.run, ← same _ _ hanswer]
    exact ⟨hmore.result, hmore.entries, .cons hx hmore.exchanges⟩

end Dialogue

namespace Provider

open Http Text Dialogue

variable {α : Type}

/-! ## Shapes of the schema -/

def publicShape : Shape := .record [("ip", .leaf), ("blocked", .leaf)]

def locationShape : Shape := .record [("name", .leaf)]

def datacenterShape : Shape := .record [("location", locationShape)]

def privateShape : Shape := .record [("ip", .leaf)]

def netShape : Shape :=
  .record [("ipv4", publicShape), ("ipv6", publicShape), ("floating_ips", .list .leaf)]

def serverShape : Shape :=
  .record [("id", .leaf), ("name", .leaf), ("datacenter", datacenterShape),
    ("public_net", netShape), ("private_net", .list privateShape)]

def floatingShape : Shape :=
  .record [("id", .leaf), ("ip", .leaf), ("type", .leaf), ("blocked", .leaf)]

def metaShape : Shape := .record [("pagination", .record [("next_page", .leaf)])]

def pageShape (key : String) (item : Shape) : Shape :=
  .record [(key, .list item), ("meta", metaShape)]

theorem kept_publicEntry : Kept publicShape IsPublicEntry :=
  Kept.record fun e _ _ h => and_congr (kept_leaf.once (h "ip" _ rfl) e.ip)
    (kept_leaf.once (h "blocked" _ rfl) e.blocked)

theorem kept_location : Kept locationShape IsLocation :=
  Kept.record fun name _ _ h => kept_leaf.once (h "name" _ rfl) name

theorem kept_datacenter : Kept datacenterShape IsDatacenter :=
  Kept.record fun location _ _ h => kept_location.once (h "location" _ rfl) location

theorem kept_privateEntry : Kept privateShape IsPrivateEntry :=
  Kept.record fun ip _ _ h => kept_leaf.once (h "ip" _ rfl) ip

theorem kept_net : Kept netShape fun net : Option PublicEntry × Option PublicEntry × List UInt64 =>
    IsNet net.1 net.2.1 net.2.2 :=
  Kept.record fun net _ _ h => and_congr (kept_publicEntry.atMostOnce (h "ipv4" _ rfl) net.1)
    (and_congr (kept_publicEntry.atMostOnce (h "ipv6" _ rfl) net.2.1)
      (kept_leaf.listAtMostOnce (h "floating_ips" _ rfl) net.2.2))

theorem kept_serverEntry : Kept serverShape IsServerEntry :=
  Kept.record fun e _ _ h => and_congr (kept_leaf.once (h "id" _ rfl) e.id)
    (and_congr (kept_leaf.once (h "name" _ rfl) e.name)
      (and_congr (kept_datacenter.once (h "datacenter" _ rfl) e.location)
        (and_congr
          (kept_net.once (h "public_net" _ rfl) (e.publicV4, e.publicV6, e.floatingIds))
          (kept_privateEntry.listAtMostOnce (h "private_net" _ rfl) e.privateIps))))

theorem kept_floatingEntry : Kept floatingShape IsFloatingEntry :=
  Kept.record fun e _ _ h => and_congr (kept_leaf.once (h "id" _ rfl) e.id)
    (and_congr (kept_leaf.once (h "ip" _ rfl) e.ip)
      (and_congr (kept_leaf.once (h "type" _ rfl) e.version)
        (kept_leaf.once (h "blocked" _ rfl) e.blocked)))

theorem kept_meta : Kept metaShape IsMeta := by
  have hpagination : Kept (.record [("next_page", .leaf)]) IsPagination :=
    Kept.record fun next _ _ h => kept_leaf.atMostOnce (h "next_page" _ rfl) next
  exact Kept.record fun next _ _ h => exists_congr fun pagination =>
    and_congr_left' (hpagination.atMostOnce (h "pagination" _ rfl) pagination)

theorem kept_page {key : String} (hkey : key ≠ "meta") {item : Shape} {R : α → Json → Prop}
    (hitem : Kept item R) : Kept (pageShape key item) (IsPage key R) := by
  refine Kept.record fun page field field' h => and_congr ?_ (exists_congr fun metadata => ?_)
  · exact hitem.list.once (h key _ List.lookup_cons_self) page.items
  · refine and_congr_left' (kept_meta.atMostOnce (h "meta" _ ?_) metadata)
    rw [List.lookup_cons, beq_false_of_ne (Ne.symm hkey)]
    rfl

/-! ## Documents -/

/-- The first document holds a value, and the second the same but for alterations that the shape
    allows.  Both are rendered in any way. -/
def Revises (s : Shape) (body body' : List UInt8) : Prop :=
  ∃ v w : Json, v.Renders body ∧ w.Renders body' ∧ Relation.ReflTransGen (Alters s) v w

/-- A reader that sees nothing but what is kept reads the same after any alterations. -/
theorem read_altered {s : Shape} {read : Json → Option α} {R : α → Json → Prop}
    (hread : Reads read R) (hkept : Kept s R) {v w : Json} (hv : v.IsProper) (hw : w.IsProper)
    (h : Relation.ReflTransGen (Alters s) v w) : read v = read w := by
  have hR (a : α) : R a v ↔ R a w := by
    clear hv hw
    induction h with
    | refl => exact Iff.rfl
    | tail _ hstep ih => exact ih.trans (hkept _ _ hstep a)
  refine Option.ext fun a => ?_
  rw [hread v hv a, hread w hw a]
  exact hR a

/-- What decodes is the document of a value, and decodes to the same after any alterations of that,
    rendered in any way. -/
theorem decodes_altered {s : Shape} {read : Json → Option α} {R : α → Json → Prop}
    (hread : Reads read R) (hkept : Kept s R) {body : List UInt8} {a : α}
    (h : (ofBytes? body).bind read = some a) :
    ∃ v : Json, v.Renders body ∧ ∀ w body', Relation.ReflTransGen (Alters s) v w →
      w.Renders body' → (ofBytes? body').bind read = some a := by
  obtain ⟨v, hv, ha⟩ := Option.bind_eq_some_iff.1 h
  have hv := ofBytes?_eq_some_iff.1 hv
  refine ⟨v, hv, fun w body' halters hw => ?_⟩
  rw [ofBytes?_eq_some_iff.2 hw, Option.bind_some,
    ← read_altered hread hkept hv.isProper hw.isProper halters, ha]

/-- The same reply, or two successes of which one revises the other's document. -/
inductive Retells (s : Shape) : Option Reply → Option Reply → Prop where
  | same (reply : Option Reply) : Retells s reply reply
  | revised {r r' : Reply} (status : 200 ≤ r.status ∧ r.status ≤ 299)
      (status' : 200 ≤ r'.status ∧ r'.status ≤ 299) (body : Revises s r.body r'.body) :
      Retells s (some r) (some r')

theorem readReply_retold {s : Shape} {read : Json → Option α} {R : α → Json → Prop}
    (hread : Reads read R) (hkept : Kept s R) (path : String) {reply reply' : Option Reply}
    (h : Retells s reply reply') : readReply path read reply = readReply path read reply' := by
  cases h with
  | same => rfl
  | revised status status' body =>
    obtain ⟨v, w, hv, hw, halters⟩ := body
    have hsame := read_altered hread hkept hv.isProper hw.isProper halters
    simp only [readReply, isSuccess_iff.2 status, isSuccess_iff.2 status', if_true,
      ofBytes?_eq_some_iff.2 hv, ofBytes?_eq_some_iff.2 hw, Option.bind_some, hsame]

/-! ## Calls -/

/-- The shape of what is asked for. -/
def Inquiry.shape : Inquiry → Shape
  | lookup _ => pageShape "servers" serverShape
  | servers _ _ => pageShape "servers" serverShape
  | floating _ => pageShape "floating_ips" floatingShape

namespace Client

/-- The same content of the hostname file, and replies to a request of which one retells the other,
    whatever the client inquires with the request. -/
def Retold (c : Client) : (q : Question) → Answer q → Answer q → Prop
  | .hostname, content, content' => content = content'
  | .request r, reply, reply' =>
    ∀ i : Inquiry, c.request? i = .ok r → Retells i.shape reply reply'

/-- A request overlooks what its inquiry has no shape for. -/
theorem overlooks_get (c : Client) (i : Inquiry) {read : Json → Option α} {R : α → Json → Prop}
    (hread : Reads read R) (hkept : Kept i.shape R) :
    Overlooks c.Retold (c.get i.path i.pairs read) := by
  unfold Client.get
  cases hmake : Request.make (c.endpoint ++ i.path) c.token i.pairs with
  | error fault => exact .fail _
  | ok r =>
    have haccept (result : Except Refusal α) :
        Overlooks c.Retold (accept result : Dialogue Answer α) := by
      cases result with
      | ok a => exact .done a
      | error e => exact .fail _
    refine .ask (fun reply reply' hretold => ?_) fun reply => haccept (readReply i.path read reply)
    have hsame := readReply_retold hread hkept i.path (hretold i hmake)
    show accept (readReply i.path read reply) = accept (readReply i.path read reply')
    rw [hsame]

/-- Every call overlooks revisions. -/
theorem carried_overlooks (c : Client) : c.Carried fun _ d => Overlooks c.Retold d where
  done := .done
  fail := .fail
  bind := Overlooks.bind
  lookup name := c.overlooks_get (.lookup name) (reads_page reads_serverEntry)
    (kept_page (by decide) kept_serverEntry)
  servers selector number := c.overlooks_get (.servers selector number)
    (reads_page reads_serverEntry) (kept_page (by decide) kept_serverEntry)
  floating number := c.overlooks_get (.floating number) (reads_page reads_floatingEntry)
    (kept_page (by decide) kept_floatingEntry)

/-- In worlds that differ in nothing but revisions the same is requested. -/
theorem requests_of_retold {c : Client} {xs ys : List (Exchange Answer)}
    (h : List.Forall₂ (SameExchange c.Retold) xs ys) :
    (requests xs).map Prod.fst = (requests ys).map Prod.fst := by
  induction h with
  | nil => rfl
  | cons hx _ ih =>
    cases hx with
    | @mk q a b _ =>
      cases q with
      | hostname => exact ih
      | request r => exact congrArg (r :: ·) ih

/-- **Revisions are overlooked.**  A document that decodes as a page of servers, or of floating
    addresses, is the document of a value, and whatever alters that by further fields and by the
    order of fields in its records decodes to the same page, rendered in any way.  And calls in
    worlds that differ in nothing but such revisions have the same result and make the same
    requests. -/
theorem revisions_overlooked :
    (∀ body page, (ofBytes? body).bind serverPage? = some page →
      ∃ v : Json, v.Renders body ∧ ∀ w body',
        Relation.ReflTransGen (Alters (pageShape "servers" serverShape)) v w → w.Renders body' →
        (ofBytes? body').bind serverPage? = some page) ∧
    (∀ body page, (ofBytes? body).bind floatingListing.readPage = some page →
      ∃ v : Json, v.Renders body ∧ ∀ w body',
        Relation.ReflTransGen (Alters (pageShape "floating_ips" floatingShape)) v w →
        w.Renders body' → (ofBytes? body').bind floatingListing.readPage = some page) ∧
    ∀ (c : Client) (world world' : World Answer), SameWorld c.Retold world world' →
      (∀ name, ((c.serverNamed name).run world []).result =
          ((c.serverNamed name).run world' []).result ∧
        (requests ((c.serverNamed name).run world []).exchanges).map Prod.fst =
          (requests ((c.serverNamed name).run world' []).exchanges).map Prod.fst) ∧
      ∀ selector, ((c.runningServers selector).run world []).result =
          ((c.runningServers selector).run world' []).result ∧
        (requests ((c.runningServers selector).run world []).exchanges).map Prod.fst =
          (requests ((c.runningServers selector).run world' []).exchanges).map Prod.fst := by
  refine ⟨fun body page h => ?_, fun body page h => ?_, fun c world world' hworld => ⟨?_, ?_⟩⟩
  · exact decodes_altered (reads_page reads_serverEntry) (kept_page (by decide) kept_serverEntry) h
  · exact decodes_altered (reads_page reads_floatingEntry)
      (kept_page (by decide) kept_floatingEntry) h
  · intro name
    have hrun := (c.carried_overlooks.serverNamed name).run hworld .nil
    exact ⟨hrun.result, requests_of_retold hrun.exchanges⟩
  · intro selector
    have hrun := (c.carried_overlooks.runningServers selector).run hworld .nil
    exact ⟨hrun.result, requests_of_retold hrun.exchanges⟩

/-! ### A server that says more -/

/-- A page with one server, which may have a further field. -/
def pageWith (extra : List (Option String × Json)) : Json := .object [
  (some "servers", .array [.object ([
    (some "id", .number ['1']),
    (some "name", .text (some "a"))] ++ extra ++ [
    (some "datacenter", .array [.array [.text (some "l")]]),
    (some "public_net", .object [])])])]

/-- In the server, an object with a key that is no text; and in front of the servers, a list with a
    number beyond all bounds and a string that is no text. -/
def hintedPage : Json := .object [
  (some "hint", .array [.number ['1', 'e', '9', '9', '9'], .text none]),
  (some "servers", .array [.object [
    (some "id", .number ['1']),
    (some "name", .text (some "a")),
    (some "labels", .object [(none, .null)]),
    (some "datacenter", .array [.array [.text (some "l")]]),
    (some "public_net", .object [])]])]

def plainBody : List UInt8 := utf8
  ("\x7b\"servers\":[\x7b\"id\":1,\"name\":\"a\",\"datacenter\":[[\"l\"]]," ++
    "\"public_net\":\x7b\x7d\x7d]\x7d")

def hintedBody : List UInt8 := utf8
  ("\x7b \"hint\":[1e999,\"\\udc00\"],\n\"servers\":[\x7b\"id\":1,\"name\":\"a\"," ++
    "\"labels\":\x7b\"\\ud800\":null\x7d,\"datacenter\":[[\"l\"]],\"public_net\":\x7b\x7d\x7d]\x7d")

theorem altered_hintedPage :
    Relation.ReflTransGen (Alters (pageShape "servers" serverShape)) (pageWith []) hintedPage := by
  have hserver : Alters (pageShape "servers" serverShape) (pageWith [])
      (pageWith [(some "labels", .object [(none, .null)])]) :=
    @Alters.member _ [] [] "servers" _ _ _ rfl (@Alters.item _ [] [] _ _
      (@Alters.insert _ [(some "id", .number ['1']), (some "name", .text (some "a"))] _ "labels"
        (by decide) _))
  have hhint : Alters (pageShape "servers" serverShape)
      (pageWith [(some "labels", .object [(none, .null)])]) hintedPage :=
    @Alters.insert _ [] _ "hint" (by decide) _
  exact (Relation.ReflTransGen.single hserver).tail hhint

/-- A world that answers with this body when asked for servers, and does not answer else. -/
def serving (body : List UInt8) : World Answer
  | _, .hostname => .missing
  | _, .request r => if r.url.path.length = "/servers".length then some ⟨200, body⟩ else none

theorem sameWorld_serving {body body' : List UInt8}
    (h : Revises (pageShape "servers" serverShape) body body') :
    SameWorld loopback.Retold (serving body) (serving body') := by
  intro past past' _ q
  cases q with
  | hostname => exact (rfl : FileContent.missing = FileContent.missing)
  | request r =>
    intro i hi
    have hok : 200 ≤ 200 ∧ 200 ≤ 299 := by decide
    simp only [serving]
    split
    · next hpath =>
      cases i with
      | lookup name => exact .revised hok hok h
      | servers selector number => exact .revised hok hok h
      -- another path is asked for floating addresses
      | floating number =>
        have hcan : loopback.CanAsk "/floating_ips" := ⟨by decide, _, rfl, rfl, rfl, rfl⟩
        have hurl := (url?_of_make hcan hi).1
        obtain ⟨base, hbase, hr⟩ := Option.map_eq_some_iff.1 hurl
        cases hbase
        have hlength : r.url.path.length = "/floating_ips".length := by
          rw [← hr]
          rfl
        rw [hlength] at hpath
        exact absurd hpath (by decide)
    · exact .same none

/-- The server is told of in either case. -/
theorem revisions_overlooked_hinted :
    SameWorld loopback.Retold (serving plainBody) (serving hintedBody) ∧
    (ofBytes? hintedBody).bind serverPage? = some ⟨[⟨1, "a", "l", none, none, [], []⟩], none⟩ ∧
    ((loopback.runningServers "").run (serving hintedBody) []).result =
      .ok [⟨1, "a", "l", [], none, none, []⟩] := by
  obtain ⟨hservers, -, hcalls⟩ := revisions_overlooked
  have hplain : (pageWith []).Renders plainBody := Token.lex_sound (by decide +kernel)
  have hhinted : hintedPage.Renders hintedBody := Token.lex_sound (by decide +kernel)
  have hworld := sameWorld_serving ⟨_, _, hplain, hhinted, altered_hintedPage⟩
  refine ⟨hworld, ?_, ?_⟩
  · have hdecodes : (ofBytes? plainBody).bind serverPage? =
        some ⟨[⟨1, "a", "l", none, none, [], []⟩], none⟩ := by decide +kernel
    obtain ⟨v, hv, hall⟩ := hservers plainBody _ hdecodes
    obtain rfl : v = pageWith [] :=
      Option.some.inj ((ofBytes?_eq_some_iff.2 hv).symm.trans (ofBytes?_eq_some_iff.2 hplain))
    exact hall hintedPage hintedBody altered_hintedPage hhinted
  · rw [← ((hcalls loopback _ _ hworld).2 "").1]
    decide +kernel

end Client

end Provider

end CloudRoster
