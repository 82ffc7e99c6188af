/-
  An inventory that asks the provider's server over HTTP.

  1. **One request** - `Client.get` sends a request and classifies what comes back: data only from a
     success whose body is what was asked for.
  2. **A listing** - `Client.listFrom` asks for one page after the other as long as each answer
     names a later one.  Page numbers grow and are below 2^64, so every listing ends.
  3. **An inventory** - `Client.answer` answers the questions of a discovery by requests.

  The first answer that fails ends everything, and nothing is asked twice.
-/
import CloudRoster.Discovery
import CloudRoster.Http.Message
import CloudRoster.Provider.Conversion

namespace CloudRoster.Provider

open Http Text

/-! ## Questions -/

/-- What a discovery over HTTP can ask. -/
inductive Question where
  /-- What does the hostname file hold? -/
  | hostname
  /-- What does the server say to this? -/
  | request (r : Request)
deriving DecidableEq, Repr

/-- The type of the answer to each question; a connection may end without one. -/
@[reducible] def Answer : Question → Type
  | .hostname => FileContent
  | .request _ => Option Reply

/-- Sends a request. -/
def send (r : Request) : Dialogue Answer (Option Reply) := Dialogue.question (Question.request r)

/-- Goes on with a value, or fails with the provider's refusal. -/
def accept {α : Type} (r : Except Refusal α) : Dialogue Answer α :=
  Dialogue.orFail (r.mapError Failure.refused)

/-! ## One request -/

/-- What a reply to a request for `path` holds.  The status alone decides whether it is data or a
    rejection: a body that looks like a listing does not make a rejection a success, and one that
    does not read makes a success a failure, never an empty listing. -/
def readReply {α : Type} (path : String) (read : Json → Option α) : Option Reply → Except Refusal α
  | none => .error .unanswered
  | some reply =>
    if reply.status.isSuccess then
      match (Json.ofBytes? reply.body).bind read with
      | some a => .ok a
      | none => .error .undecodable
    else
      -- a body without details is no second failure: the status is told in any case
      let details := (Json.ofBytes? reply.body).bind errorDetails?
      .error (.rejected path reply.status (details.map fun d => (d.code, d.message)))

/-- Someone who asks the provider's server. -/
structure Client where
  endpoint : String
  token : String
deriving DecidableEq, Repr

namespace Client

/-- The client for settings; slashes at the end of the endpoint do not count. -/
def ofSettings (s : Settings) : Client :=
  ⟨String.ofList (stripEnd (· == '/') s.endpoint.toList), s.apiToken⟩

/-- Asks for `path` with a query and reads what comes back. -/
def get {α : Type} (c : Client) (path : String) (query : List (String × String))
    (read : Json → Option α) : Dialogue Answer α :=
  match Request.make (c.endpoint ++ path) c.token query with
  | .error fault => .fail (.refused (.unsendable fault))
  | .ok r => do accept (readReply path read (← send r))

/-! ## Listings -/

/-- A listing: where it is found, what narrows it down, under which key its pages hold the items
    and how an item is read.  What a page says about itself stands under a key of its own. -/
structure Listing (α : Type) where
  path : String
  filter : List (String × String)
  key : String
  item : Json → Option α
  key_ne_meta : key ≠ "meta" := by decide

/-- A page of the listing. -/
def Listing.readPage {α : Type} (l : Listing α) : Json → Option (Page α) := page? l.key l.item

/-- How many items a page is asked to hold. -/
def pageSize : Nat := 50

/-- The query for the page with a number. -/
def Listing.query {α : Type} (l : Listing α) (number : UInt64) : List (String × String) :=
  l.filter ++ [("page", toString number), ("per_page", toString pageSize)]

/-- Fewer pages are left after a later page. -/
theorem left_lt_left {number next : UInt64} (h : number < next) :
    UInt64.size - next.toNat < UInt64.size - number.toNat := by
  have := UInt64.lt_iff_toNat_lt.1 h
  have := next.toNat_lt
  simp only [UInt64.size]
  omega

/-- The items from the page with a number on.  A page that names a number which is not later than
    its own ends the listing: what stands there was read before, so following it would repeat
    items or never end. -/
def listFrom {α : Type} (c : Client) (l : Listing α) (number : UInt64) :
    Dialogue Answer (List α) := do
  let page ← c.get l.path (l.query number) l.readPage
  match page.next with
  | none => return page.items
  | some next =>
    if h : number < next then
      have := left_lt_left h
      -- a failure on a later page takes this one's items with it
      return page.items ++ (← c.listFrom l next)
    else return page.items
termination_by UInt64.size - number.toNat

/-- All items of a listing. -/
def list {α : Type} (c : Client) (l : Listing α) : Dialogue Answer (List α) := c.listFrom l 1

/-- The servers that run and match a label selector. -/
def serverListing (selector : String) : Listing ServerEntry where
  path := "/servers"
  filter := ("status", "running") ::
    (if selector = "" then [] else [("label_selector", selector)])
  key := "servers"
  item := serverEntry?

/-- All floating addresses. -/
def floatingListing : Listing FloatingEntry where
  path := "/floating_ips"
  filter := []
  key := "floating_ips"
  item := floatingEntry?

/-! ## The inventory -/

/-- The floating addresses that servers may refer to; none are asked for if none does. -/
def floatingTable (c : Client) (servers : List ServerEntry) : Dialogue Answer FloatingTable :=
  if servers.all fun s => s.floatingIds.isEmpty then pure []
  else do accept (tableOf (← c.list floatingListing))

/-- The servers that run and match a label selector.  All pages are there before the first text is
    turned into an address, so a refused request is told before an unreadable address. -/
def runningServers (c : Client) (selector : String) : Dialogue Answer (List Server) := do
  let servers ← c.list (serverListing selector)
  let table ← c.floatingTable servers
  accept (servers.mapM (ServerEntry.toServer table))

/-- The first server that the provider lists under a name, without floating addresses.  Which
    servers have the name is for the provider to say, and only its first page is asked for. -/
def serverNamed (c : Client) (name : String) : Dialogue Answer (Option Server) := do
  let page ← c.get "/servers" [("name", name)] serverPage?
  accept (page.items.head?.mapM (ServerEntry.toServer []))

/-- The answer to a question of a discovery. -/
def answer (c : Client) : (q : Discovery.Question) → Dialogue Answer (Discovery.Answer q)
  | .hostname => Dialogue.question Question.hostname
  | .serverNamed name => (c.serverNamed name).attempt
  | .runningServers selector => (c.runningServers selector).attempt

/-- A discovery by requests to the server of the settings. -/
def addresses (hostnamePath : String) (s : Settings) : Dialogue Answer (List Address) :=
  (Discovery.addresses hostnamePath s).via (ofSettings s).answer

end Client

end CloudRoster.Provider
