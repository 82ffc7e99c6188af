/-
  The log of a discovery, line by line.

  1. **Specification** - `Words`: what the lines say.  `Segment family s part`: what there is to say
     about one server, with the address that is chosen for it.  `ListingLog`: the lines from the
     filter on, given what was listed.  `Journal`: the whole log with the result, given the
     inventory and the machine.
  2. **Words** - a discovery says it in these words (`quotedList_eq`, `opening_eq`).
  3. **Nothing else** - segment, listing and journal are each met by exactly one log (`segment_iff`,
     `listingLog_iff`), which is the one that is written.

  **Headline** (`addresses_journal`): a result and a log are those of a discovery exactly if they
  are in its journal.
-/
import CloudRoster.Proofs.Discovery.Policy
import CloudRoster.Proofs.Discovery.Selection
import Mathlib.Data.List.Forall2

namespace CloudRoster.Discovery

open Dialogue Text

/-! ## Specification -/

/-- What is said about a server, and the address that is chosen for it.  There is a notice or none,
    and then exactly one line with the verdict. -/
inductive Segment (family : Family) (s : Server) : Log.Logged (Option Address) → Prop where
  | found {place : Choice.Place} {ip : Address} (takes : Choice.Takes s family place ip) :
      Segment family s
        ⟨some ip, (Choice.notice s family).toList ++ [Choice.Line.found s ip place]⟩
  | nothing (lacks : Choice.Lacks s family) :
      Segment family s ⟨none, (Choice.notice s family).toList ++ [Choice.Line.nothing s]⟩

namespace Words

/-- Behind the first of some addresses: the others, each after a comma, and the closing bracket. -/
def moreQuoted : List Address → String
  | [] => "]"
  | ip :: ips => ", \"" ++ ip.print ++ "\"" ++ moreQuoted ips

/-- Addresses in quotes, in brackets. -/
def quoted : List Address → String
  | [] => "[]"
  | ip :: ips => "[\"" ++ ip.print ++ "\"" ++ moreQuoted ips

/-- The name of a family. -/
def familyText : Family → String
  | .privateV4 => "private_v4"
  | .publicV4 => "public_v4"
  | .publicV6 => "public_v6"

def searching (hostname : String) : Log.Entry :=
  ⟨"discover-hcloud", .info,
    s!"Location not specified. Searching for current server named {hostname}."⟩

def detected (s : Server) : Log.Entry :=
  ⟨"discover-hcloud", .info, s!"Detected current server {s.name} with id {s.id}"⟩

def notAServer : Log.Entry :=
  ⟨"discover-hcloud", .info, "No location specified and not an hcloud server. "
    ++ "Joining all matching label selector."⟩

def listed (servers : List Server) : Log.Entry :=
  ⟨"discover-hcloud", .debug, s!"found {servers.length} running servers"⟩

def chosen (ips : List Address) : Log.Entry :=
  ⟨"discover-hcloud", .debug, "found IP addresses: " ++ quoted ips⟩

/-- The lines before the servers are listed.  That of the filter is there exactly if there is a
    location. -/
def opening (settings : Settings) : Option String → List Log.Entry
  | none => [
      ⟨"discover-hcloud", .debug, s!"using address_type={familyText settings.family} "
        ++ s!"label_selector={settings.labelSelector} location="⟩]
  | some location => [
      ⟨"discover-hcloud", .info, s!"filtering by location {location}"⟩,
      ⟨"discover-hcloud", .debug, s!"using address_type={familyText settings.family} "
        ++ s!"label_selector={settings.labelSelector} location={location}"⟩]

end Words

/-- `ListingLog settings location listing result entries`: the lines from the filter on, and the
    result, given the answer to the listing. -/
inductive ListingLog (settings : Settings) (location : Option String) :
    Except Failure (List Server) → Except Failure (List Address) → List Log.Entry → Prop where
  | failed (e : Failure) :
      ListingLog settings location (.error e) (.error e) (Words.opening settings location)
  /-- All servers are counted.  Those in the location, in their order, have a segment each, and the
      last line shows what is told. -/
  | listed {servers : List Server} {parts : List (Log.Logged (Option Address))}
      (segments : List.Forall₂ (Segment settings.family)
        (servers.filter fun s => location = none ∨ location = some s.location) parts) :
      ListingLog settings location (.ok servers) (.ok (parts.filterMap Log.Logged.value))
        (Words.opening settings location ++ [Words.listed servers] ++
          parts.flatMap Log.Logged.entries ++
          [Words.chosen (parts.filterMap Log.Logged.value)])

/-- `Journal inventory host past path settings result entries`: the result and the log of a
    discovery with this inventory on a machine with this hostname file. -/
inductive Journal (inventory : World Answer) (host : FileContent) (past : List (Exchange Answer))
    (path : String) (settings : Settings) :
    Except Failure (List Address) → List Log.Entry → Prop where
  /-- The settings name a location. -/
  | located {location : String} {result : Except Failure (List Address)}
      {entries : List Log.Entry} (named : settings.location = some location)
      (rest : ListingLog settings (some location)
        (inventory past (.runningServers settings.labelSelector)) result entries) :
      Journal inventory host past path settings result entries
  /-- The hostname file gives no text, and nothing is said. -/
  | unreadable {cause : String} (unnamed : settings.location = none)
      (unread : host.text = .error cause) :
      Journal inventory host past path settings (.error (.noHostname path cause)) []
  /-- The hostname is blank. -/
  | blank {content : String} {result : Except Failure (List Address)} {entries : List Log.Entry}
      (unnamed : settings.location = none) (read : host.text = .ok content)
      (nameless : Trimmed content "")
      (rest : ListingLog settings none (inventory (past ++ [⟨.hostname, host⟩])
        (.runningServers settings.labelSelector)) result entries) :
      Journal inventory host past path settings result
        (Words.searching "" :: Words.notAServer :: entries)
  /-- The lookup fails, which ends the log. -/
  | lookupFailed {content name : String} {e : Failure} (unnamed : settings.location = none)
      (read : host.text = .ok content) (trimmed : Trimmed content name) (named : name ≠ "")
      (lookup : inventory (past ++ [⟨.hostname, host⟩]) (.serverNamed name) = .error e) :
      Journal inventory host past path settings (.error e) [Words.searching name]
  /-- There is no server with the name. -/
  | unknown {content name : String} {result : Except Failure (List Address)}
      {entries : List Log.Entry} (unnamed : settings.location = none)
      (read : host.text = .ok content) (trimmed : Trimmed content name) (named : name ≠ "")
      (lookup : inventory (past ++ [⟨.hostname, host⟩]) (.serverNamed name) = .ok none)
      (rest : ListingLog settings none
        (inventory (past ++ [⟨.hostname, host⟩, ⟨.serverNamed name, .ok none⟩])
          (.runningServers settings.labelSelector)) result entries) :
      Journal inventory host past path settings result
        (Words.searching name :: Words.notAServer :: entries)
  /-- There is one, and its location counts. -/
  | detected {content name : String} {s : Server} {result : Except Failure (List Address)}
      {entries : List Log.Entry} (unnamed : settings.location = none)
      (read : host.text = .ok content) (trimmed : Trimmed content name) (named : name ≠ "")
      (lookup : inventory (past ++ [⟨.hostname, host⟩]) (.serverNamed name) = .ok (some s))
      (rest : ListingLog settings (some s.location)
        (inventory (past ++ [⟨.hostname, host⟩, ⟨.serverNamed name, .ok (some s)⟩])
          (.runningServers settings.labelSelector)) result entries) :
      Journal inventory host past path settings result
        (Words.searching name :: Words.detected s :: entries)

/-! ## The words of a discovery -/

theorem quotedList_eq (ips : List Address) : quotedList ips = Words.quoted ips := by
  have hcomma : ", " ++ "\"" = ", \"" := by decide +kernel
  have hbracket : "[" ++ "\"" = "[\"" := by decide +kernel
  have hmore : ∀ ip more, ", ".intercalate ((ip :: more).map fun ip => "\"" ++ ip.print ++ "\"") ++
      "]" = "\"" ++ ip.print ++ "\"" ++ Words.moreQuoted more := by
    intro ip more
    induction more generalizing ip with
    | nil =>
      rw [List.map_singleton, String.intercalate_singleton]
      rfl
    | cons next more ih =>
      have hrest := ih next
      rw [List.map_cons] at hrest
      rw [List.map_cons, List.map_cons, String.intercalate_cons_cons, String.append_assoc, hrest,
        Words.moreQuoted, ← hcomma]
      simp only [String.append_assoc]
  cases ips with
  | nil => rfl
  | cons ip more =>
    rw [quotedList, String.append_assoc, hmore, Words.quoted, ← hbracket]
    simp only [String.append_assoc]

theorem chosen_eq (ips : List Address) : Line.chosen ips = Words.chosen ips :=
  congrArg (fun text => Log.Entry.debug ("found IP addresses: " ++ text)) (quotedList_eq ips)

theorem opening_eq (settings : Settings) (location : Option String) :
    location.toList.map Line.filtering ++ [Line.asking settings location] =
      Words.opening settings location := by
  have hfamily : settings.family.name = Words.familyText settings.family := by
    cases settings.family <;> rfl
  cases location with
  | none =>
    rw [Words.opening, ← hfamily]
    -- nothing is said where the location would stand
    show [Log.Entry.debug (_ ++ (_ ++ ""))] = _
    rw [String.append_empty]
    rfl
  | some location =>
    rw [Words.opening, ← hfamily]
    rfl

/-! ## Nothing else -/

/-- There is one segment about a server. -/
theorem segment_iff {family : Family} {s : Server} {part : Log.Logged (Option Address)} :
    Segment family s part ↔ Choice.address s family = part := by
  constructor
  · intro h
    cases h with
    | found takes => exact Choice.address_of_takes takes
    | nothing lacks => exact Choice.address_of_lacks lacks
  · rintro rfl
    rcases Choice.exists_takes_or_lacks s family with ⟨place, ip, takes⟩ | lacks
    · rw [Choice.address_of_takes takes]
      exact .found takes
    · rw [Choice.address_of_lacks lacks]
      exact .nothing lacks

theorem forall₂_segment_iff {family : Family} {servers : List Server}
    {parts : List (Log.Logged (Option Address))} :
    List.Forall₂ (Segment family) servers parts ↔
      servers.map (fun s => Choice.address s family) = parts := by
  have hsegment : Segment family = fun s part => Choice.address s family = part := by
    funext s part
    exact propext segment_iff
  rw [hsegment, ← List.forall₂_map_left_iff (R := (· = ·)), List.forall₂_eq_eq_eq]

theorem filter_isIn (location : Option String) (servers : List Server) :
    servers.filter (isIn location) =
      servers.filter fun s => location = none ∨ location = some s.location := by
  refine List.filter_congr fun s _ => ?_
  rw [Bool.eq_iff_iff, isIn_iff, decide_eq_true_eq]

variable {settings : Settings}

/-- After a listing there is one way to go on. -/
theorem listingLog_iff {location : Option String} {listing : Except Failure (List Server)}
    {result : Except Failure (List Address)} {entries : List Log.Entry} :
    ListingLog settings location listing result entries ↔
      outcome settings location listing = result ∧
        listingEntries settings location listing = entries := by
  constructor
  · intro h
    cases h with
    | failed e => exact ⟨rfl, opening_eq settings location⟩
    | listed segments =>
      obtain rfl := forall₂_segment_iff.1 segments
      rw [← filter_isIn, ← chosen_eq, ← opening_eq]
      exact ⟨rfl, rfl⟩
  · rintro ⟨rfl, rfl⟩
    cases listing with
    | error e =>
      rw [listingEntries, opening_eq]
      exact .failed e
    | ok servers =>
      rw [listingEntries, opening_eq, chosen_eq]
      refine .listed (forall₂_segment_iff.2 ?_)
      rw [← filter_isIn]

theorem listingLog_self (settings : Settings) (location : Option String)
    (listing : Except Failure (List Server)) :
    ListingLog settings location listing (outcome settings location listing)
      (listingEntries settings location listing) :=
  listingLog_iff.2 ⟨rfl, rfl⟩

/-! ## Headline -/

variable {inventory : World Answer} {host : FileContent} {past : List (Exchange Answer)}
  {path : String}

/-- What is in the journal is what a discovery does. -/
theorem Journal.run_eq {result : Except Failure (List Address)} {entries : List Log.Entry}
    (h : Journal inventory host past path settings result entries) :
    ((addresses path settings).run (onHost inventory host) past).result = result ∧
      ((addresses path settings).run (onHost inventory host) past).entries = entries := by
  cases h with
  | located named rest =>
    rw [run_addresses_located _ past named]
    exact listingLog_iff.1 rest
  | unreadable unnamed unread =>
    rw [run_addresses_unreadable (onHost inventory host) past unnamed unread]
    exact ⟨rfl, rfl⟩
  | blank unnamed read nameless rest =>
    rw [run_addresses_blank (onHost inventory host) past unnamed read (trim_eq_iff.2 nameless)]
    obtain ⟨rfl, rfl⟩ := listingLog_iff.1 rest
    exact ⟨rfl, rfl⟩
  | lookupFailed unnamed read trimmed named lookup =>
    obtain rfl := trim_eq_iff.2 trimmed
    rw [run_addresses_lookupFailed (onHost inventory host) past unnamed read named lookup]
    exact ⟨rfl, rfl⟩
  | unknown unnamed read trimmed named lookup rest =>
    obtain rfl := trim_eq_iff.2 trimmed
    rw [run_addresses_lookedUp (onHost inventory host) past unnamed read named lookup]
    obtain ⟨rfl, rfl⟩ := listingLog_iff.1 rest
    exact ⟨rfl, rfl⟩
  | detected unnamed read trimmed named lookup rest =>
    obtain rfl := trim_eq_iff.2 trimmed
    rw [run_addresses_lookedUp (onHost inventory host) past unnamed read named lookup]
    obtain ⟨rfl, rfl⟩ := listingLog_iff.1 rest
    exact ⟨rfl, rfl⟩

/-- Whatever way a discovery goes, it is in the journal. -/
theorem journal_of_way {t : Transcript Answer (List Address)}
    (h : Way path settings (onHost inventory host) past t) :
    Journal inventory host past path settings t.result t.entries := by
  cases h with
  | located named listed =>
    subst listed
    exact .located named (listingLog_self settings _ _)
  | unreadable unnamed unread => exact .unreadable unnamed unread
  | blank unnamed read nameless listed =>
    subst listed
    exact .blank unnamed read (trim_eq_iff.1 nameless) (listingLog_self settings _ _)
  | lookupFailed unnamed read name lookup =>
    exact .lookupFailed unnamed read (trim_eq_iff.1 rfl) name lookup
  | @lookedUp content own _ unnamed read name lookup listed =>
    subst listed
    cases own with
    | none =>
      exact .unknown unnamed read (trim_eq_iff.1 rfl) name lookup (listingLog_self settings _ _)
    | some s =>
      exact .detected unnamed read (trim_eq_iff.1 rfl) name lookup (listingLog_self settings _ _)

/-- **The journal of a discovery.**  Whatever the inventory answers and whatever the machine's
    hostname file holds, there is one result and one log in the journal, and they are those of the
    discovery. -/
theorem addresses_journal (inventory : World Answer) (host : FileContent)
    (past : List (Exchange Answer)) (path : String) (settings : Settings)
    (result : Except Failure (List Address)) (entries : List Log.Entry) :
    Journal inventory host past path settings result entries ↔
      ((addresses path settings).run (onHost inventory host) past).result = result ∧
        ((addresses path settings).run (onHost inventory host) past).entries = entries := by
  constructor
  · exact Journal.run_eq
  · rintro ⟨rfl, rfl⟩
    exact journal_of_way (way (onHost inventory host) past path settings)

/-- Five servers.  The first is the machine itself, whose attached address is blocked; the second is
    elsewhere; the third has a floating address of the other version only; the fourth is blocked and
    has none; the fifth has an attached address. -/
def journalServers : List Server := [
  ⟨7, "web-1", "fsn1", [], some ⟨.v4 ⟨192, 0, 2, 7⟩, true⟩, none,
    [⟨.v4 ⟨192, 0, 2, 1⟩, .v4, false⟩]⟩,
  ⟨8, "web-2", "nbg1", [], some ⟨.v4 ⟨192, 0, 2, 8⟩, false⟩, none, []⟩,
  ⟨9, "db", "fsn1", [], none, none, [⟨.v6 ⟨0x2001, 0xdb8, 0, 0, 0, 0, 0, 9⟩, .v6, false⟩]⟩,
  ⟨10, "cache", "fsn1", [], some ⟨.v4 ⟨192, 0, 2, 10⟩, true⟩, none, []⟩,
  ⟨11, "lb", "fsn1", [], some ⟨.v4 ⟨192, 0, 2, 11⟩, false⟩, none, []⟩]

def journalSettings : Settings := ⟨"token", none, "role=web", .publicV4, "http://localhost"⟩

/-- A whole log, line by line. -/
theorem addresses_journal_detected :
    ∃ entries,
      Journal (fun _ q => (Inventory.ofServers journalServers).answer .missing q)
        (.octets (utf8 "web-1\n")) [] "/etc/hostname" journalSettings
        (.ok [.v4 ⟨192, 0, 2, 1⟩, .v4 ⟨192, 0, 2, 11⟩]) entries ∧
      entries.map Log.Entry.line = [
        "[INFO] discover-hcloud: Location not specified. "
          ++ "Searching for current server named web-1.",
        "[INFO] discover-hcloud: Detected current server web-1 with id 7",
        "[INFO] discover-hcloud: filtering by location fsn1",
        "[DEBUG] discover-hcloud: using address_type=public_v4 label_selector=role=web "
          ++ "location=fsn1",
        "[DEBUG] discover-hcloud: found 5 running servers",
        "[INFO] discover-hcloud: public IPv4 for instance web-1 (7) is blocked, "
          ++ "checking associated floating IPs",
        "[INFO] discover-hcloud: instance web-1 (7) has floating IP 192.0.2.1",
        "[DEBUG] discover-hcloud: instance db (9) has no public IPv4, "
          ++ "checking associated floating IPs",
        "[DEBUG] discover-hcloud: instance db (9) has no valid associated IP address",
        "[DEBUG] discover-hcloud: instance cache (10) has no valid associated IP address",
        "[INFO] discover-hcloud: instance lb (11) has public IP 192.0.2.11",
        "[DEBUG] discover-hcloud: found IP addresses: [\"192.0.2.1\", \"192.0.2.11\"]"] := by
  refine ⟨_, (addresses_journal _ _ _ _ _ _ _).2 ⟨?_, rfl⟩, ?_⟩
  · decide +kernel
  · decide +kernel

end CloudRoster.Discovery
