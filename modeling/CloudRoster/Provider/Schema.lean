/-
  What the provider's answers look like, and reading them out of JSON.

  A page of a listing holds items and, somewhere in its metadata, the number of the next page.  The
  items keep addresses as texts: whether they are addresses is looked at when all pages are there.

  The schema, where `?` marks what may be absent or null and `*` a list that may be absent:

      servers page     servers: [server], meta?: meta
      floating page    floating_ips: [floating], meta?: meta
      meta             pagination?: (next_page?: word)
      server           id: word, name: text, datacenter: (location: (name: text)),
                       public_net: net, private_net*: [(ip: text)]
      net              ipv4?: public, ipv6?: public, floating_ips*: [word]
      public           ip: text, blocked: bool
      floating         id: word, ip: text, type: version, blocked: bool
      error            error: (code: text, message: text)
-/
import CloudRoster.Json.Record
import CloudRoster.Server

namespace CloudRoster.Provider

/-- A public address as the provider writes it. -/
structure PublicEntry where
  ip : String
  blocked : Bool
deriving DecidableEq, Repr

/-- A server as the provider writes it: floating addresses by number only. -/
structure ServerEntry where
  id : UInt64
  name : String
  location : String
  publicV4 : Option PublicEntry
  publicV6 : Option PublicEntry
  floatingIds : List UInt64
  privateIps : List String
deriving DecidableEq, Repr

/-- A floating address as the provider writes it. -/
structure FloatingEntry where
  id : UInt64
  ip : String
  version : Version
  blocked : Bool
deriving DecidableEq, Repr

/-- A part of a listing, and the number of the part that follows. -/
structure Page (α : Type) where
  items : List α
  next : Option UInt64
deriving DecidableEq, Repr

/-- What the provider says about a request that it rejects. -/
structure ErrorDetails where
  code : String
  message : String
deriving DecidableEq, Repr

open Json

/-! ## Items -/

/-- The name of a version, alone or as the only key of an object that holds null. -/
def version? : Json → Option Version
  | .text (some "ipv4") => some .v4
  | .text (some "ipv6") => some .v6
  | .object [(some "ipv4", .null)] => some .v4
  | .object [(some "ipv6", .null)] => some .v6
  | _ => none

def publicEntry? (v : Json) : Option PublicEntry := do
  let fs ← v.record? ["ip", "blocked"] 2
  return ⟨← fs.required? "ip" text?, ← fs.required? "blocked" bool?⟩

def location? (v : Json) : Option String := do
  let fs ← v.record? ["name"] 1
  fs.required? "name" text?

def datacenter? (v : Json) : Option String := do
  let fs ← v.record? ["location"] 1
  fs.required? "location" location?

def privateIp? (v : Json) : Option String := do
  let fs ← v.record? ["ip"] 1
  fs.required? "ip" text?

/-- The public addresses and the numbers of the floating ones. -/
def publicNet? (v : Json) : Option (Option PublicEntry × Option PublicEntry × List UInt64) := do
  let fs ← v.record? ["ipv4", "ipv6", "floating_ips"] 2
  return (← fs.optional? "ipv4" publicEntry?, ← fs.optional? "ipv6" publicEntry?,
    ← fs.listOrEmpty? "floating_ips" word?)

def serverEntry? (v : Json) : Option ServerEntry := do
  let fs ← v.record? ["id", "name", "datacenter", "public_net", "private_net"] 4
  let (publicV4, publicV6, floatingIds) ← fs.required? "public_net" publicNet?
  return {
    id := ← fs.required? "id" word?
    name := ← fs.required? "name" text?
    location := ← fs.required? "datacenter" datacenter?
    publicV4 := publicV4
    publicV6 := publicV6
    floatingIds := floatingIds
    privateIps := ← fs.listOrEmpty? "private_net" privateIp? }

def floatingEntry? (v : Json) : Option FloatingEntry := do
  let fs ← v.record? ["id", "ip", "type", "blocked"] 4
  return {
    id := ← fs.required? "id" word?
    ip := ← fs.required? "ip" text?
    version := ← fs.required? "type" version?
    blocked := ← fs.required? "blocked" bool? }

/-! ## Pages -/

def pagination? (v : Json) : Option (Option UInt64) := do
  let fs ← v.record? ["next_page"] 1
  fs.optional? "next_page" word?

def meta? (v : Json) : Option (Option UInt64) := do
  let fs ← v.record? ["pagination"] 1
  return (← fs.optional? "pagination" pagination?).join

/-- A page whose items stand under `key`. -/
def page? {α : Type} (key : String) (item : Json → Option α) (v : Json) : Option (Page α) := do
  let fs ← v.record? [key, "meta"] 2
  return ⟨← fs.required? key (list? item), (← fs.optional? "meta" meta?).join⟩

def serverPage? : Json → Option (Page ServerEntry) := page? "servers" serverEntry?

/-! ## Errors -/

def errorDetails? (v : Json) : Option ErrorDetails := do
  let fs ← v.record? ["error"] 1
  fs.required? "error" fun v => do
    let fs ← v.record? ["code", "message"] 2
    return ⟨← fs.required? "code" text?, ← fs.required? "message" text?⟩

end CloudRoster.Provider
