/-
  What the command line shows.

  Addresses are printed, and a failure goes to the terminal.  Nothing else is seen, unless the user
  sets a filter for the log.

  1. **Reports** - `Reports P d`: whatever the dialogue can report is as `P` says.  Nothing that is
     reported on the way to addresses is an error (`reports_ofTokens`), so the terminal shows
     nothing of it (`filter_entries_commandLine`).
  2. **Failures** - `IsErrorRecord text lines`: the lines on the terminal for the words of a failure
     (`isErrorRecord_terminalLines`).
  3. **The printed line** - no address holds a space, so cutting the line at its spaces gives the
     addresses back (`pieces_line`).

  **Main statement** (`shows_commandLine`): what a user sees of addresses and of a failure
  (`Shows`).
-/
import CloudRoster.Proofs.Address.RoundTrip
import CloudRoster.Proofs.Provider.Call
import CloudRoster.Proofs.Roster.Secrecy
import CloudRoster.Proofs.Roster.Wording

namespace CloudRoster

open Text Http

/-! ## Reports -/

namespace Dialogue

variable {Q R : Type} {A : Q → Type} {B : R → Type} {α β : Type} {P : Log.Entry → Prop}

/-- Whatever a dialogue can report is as `P` says. -/
inductive Reports (P : Log.Entry → Prop) : Dialogue A α → Prop where
  | done (a : α) : Reports P (.done a)
  | fail (e : Failure) : Reports P (.fail e)
  | report {e : Log.Entry} {next : Dialogue A α} (he : P e) (h : Reports P next) :
    Reports P (.report e next)
  | ask {q : Q} {next : A q → Dialogue A α} (h : ∀ a, Reports P (next a)) :
    Reports P (.ask q next)

namespace Reports

theorem bind {d : Dialogue A α} {f : α → Dialogue A β} (h : d.Reports P)
    (hf : ∀ a, (f a).Reports P) : (d >>= f).Reports P := by
  induction h with
  | done a => exact hf a
  | fail e => exact .fail e
  | report he h ih => exact .report he ih
  | ask h ih => exact .ask ih

theorem attempt {d : Dialogue A α} (h : d.Reports P) : d.attempt.Reports P := by
  induction h with
  | done a => exact .done _
  | fail e => exact .done _
  | report he h ih => exact .report he ih
  | ask h ih => exact .ask ih

theorem orFail (r : Except Failure α) : (Dialogue.orFail r : Dialogue A α).Reports P := by
  cases r with
  | ok a => exact .done a
  | error e => exact .fail e

theorem say {e : Log.Entry} (h : P e) : (Dialogue.say e : Dialogue A Unit).Reports P :=
  .report h (.done ())

theorem sayAll {es : List Log.Entry} (h : ∀ e ∈ es, P e) :
    (Dialogue.sayAll es : Dialogue A Unit).Reports P := by
  induction es with
  | nil => exact .done ()
  | cons e es ih =>
    obtain ⟨he, hes⟩ := List.forall_mem_cons.1 h
    exact .report he (ih hes)

theorem tell {l : Log.Logged α} (h : ∀ e ∈ l.entries, P e) :
    (Dialogue.tell l : Dialogue A α).Reports P := (sayAll h).bind fun _ => .done l.value

theorem via {d : Dialogue A α} (h : d.Reports P) {answer : (q : Q) → Dialogue B (A q)}
    (hanswer : ∀ q, (answer q).Reports P) : (d.via answer).Reports P := by
  induction h with
  | done a => exact .done a
  | fail e => exact .fail e
  | report he h ih => exact .report he ih
  | ask h ih => exact (hanswer _).bind ih

theorem run {d : Dialogue A α} (h : d.Reports P) (world : World A) (past : List (Exchange A)) :
    ∀ e ∈ (d.run world past).entries, P e := by
  induction h generalizing past with
  | done a => exact List.forall_mem_nil _
  | fail e => exact List.forall_mem_nil _
  | report he h ih => exact List.forall_mem_cons.2 ⟨he, ih past⟩
  | ask h ih => exact ih _ _

end Reports

end Dialogue

/-! ## Nothing that is reported is an error -/

/-- An entry that tells no error. -/
def IsQuiet (e : Log.Entry) : Prop := e.level ≠ .error

theorem IsQuiet.warn (message : String) : IsQuiet (.warn message) := by intro h; cases h
theorem IsQuiet.info (message : String) : IsQuiet (.info message) := by intro h; cases h
theorem IsQuiet.debug (message : String) : IsQuiet (.debug message) := by intro h; cases h

namespace Discovery

open Dialogue

theorem isQuiet_offer (s : Server) (source : Choice.Source) :
    ∀ e ∈ (source.offer s).entries, IsQuiet e := by
  cases source with
  | privateNetwork =>
    simp only [Choice.Source.offer]
    split
    · exact List.forall_mem_singleton.2 (.info _)
    · exact List.forall_mem_singleton.2 (.info _)
  | attached v =>
    simp only [Choice.Source.offer]
    split
    · exact List.forall_mem_singleton.2 (.info _)
    · split
      · exact List.forall_mem_nil _
      · exact List.forall_mem_singleton.2 (.info _)
    · exact List.forall_mem_singleton.2 (.debug _)
  | floating v =>
    simp only [Choice.Source.offer]
    split
    · exact List.forall_mem_singleton.2 (.info _)
    · exact List.forall_mem_nil _

theorem isQuiet_firstOf (s : Server) (sources : List Choice.Source) :
    ∀ e ∈ (Choice.firstOf s sources).entries, IsQuiet e := by
  induction sources with
  | nil => exact List.forall_mem_singleton.2 (.debug _)
  | cons source more ih =>
    have hfirst := isQuiet_offer s source
    rw [Choice.firstOf]
    generalize source.offer s = offer at hfirst
    rcases offer with ⟨_ | ip, entries⟩
    · exact List.forall_mem_append.2 ⟨hfirst, ih⟩
    · exact hfirst

theorem reports_ownServer (hostname : String) : (ownServer hostname).Reports IsQuiet := by
  unfold ownServer
  split
  · exact .done none
  · exact .ask fun answer => Reports.orFail answer

theorem reports_adopt (own : Option Server) : (adopt own).Reports IsQuiet := by
  cases own with
  | none => exact Reports.bind (.say (.info _)) fun _ => .done none
  | some s => exact Reports.bind (.say (.info _)) fun _ => .done (some s.location)

theorem reports_ownLocation (path : String) : (ownLocation path).Reports IsQuiet := by
  unfold ownLocation
  refine Reports.bind (.ask .done) fun content => ?_
  cases content.text with
  | error cause => exact .fail _
  | ok text =>
    refine Reports.bind (.say (.info _)) fun _ => ?_
    exact (reports_ownServer (trim text)).bind reports_adopt

theorem reports_addressesIn (settings : Settings) (location : Option String) :
    (addressesIn settings location).Reports IsQuiet := by
  unfold addressesIn
  have hquestion : ∀ e ∈ location.toList.map Line.filtering ++ [Line.asking settings location],
      IsQuiet e := by
    cases location with
    | none => exact List.forall_mem_singleton.2 (.debug _)
    | some l => exact List.forall_mem_cons.2 ⟨.info _, List.forall_mem_singleton.2 (.debug _)⟩
  refine (Reports.sayAll hquestion).bind fun _ => ?_
  refine Reports.bind (.ask fun answer => Reports.orFail answer) fun servers => ?_
  refine Reports.bind (.say (.debug _)) fun _ => ?_
  refine (Reports.tell ?_).bind fun ips => Reports.bind (.say (.debug _)) fun _ => .done ips
  intro e he
  obtain ⟨choice, hchoice, he⟩ := List.mem_flatMap.1 he
  obtain ⟨s, -, rfl⟩ := List.mem_map.1 hchoice
  exact isQuiet_firstOf s (Choice.sources settings.family) e he

theorem reports_addresses (path : String) (settings : Settings) :
    (addresses path settings).Reports IsQuiet := by
  unfold addresses
  refine Reports.bind ?_ fun location => reports_addressesIn settings location
  unfold effectiveLocation
  cases settings.location with
  | none => exact reports_ownLocation path
  | some location => exact .done (some location)

end Discovery

namespace Provider.Client

open Dialogue

theorem reports_get (c : Client) (path : String) (query : List (String × String))
    {α : Type} (read : Json → Option α) (P : Log.Entry → Prop) :
    (c.get path query read).Reports P := by
  unfold Client.get
  split
  · exact .fail _
  · exact .ask fun reply => Reports.orFail ((readReply path read reply).mapError Failure.refused)

/-- Requests report nothing. -/
theorem carried_reports (c : Client) (P : Log.Entry → Prop) :
    c.Carried fun _ d => d.Reports P where
  done := .done
  fail := .fail
  bind := Reports.bind
  lookup _ := c.reports_get _ _ _ P
  servers _ _ := c.reports_get _ _ _ P
  floating _ := c.reports_get _ _ _ P

theorem reports_answer (c : Client) (P : Log.Entry → Prop) (q : Discovery.Question) :
    (c.answer q).Reports P := by
  cases q with
  | hostname => exact .ask .done
  | serverNamed name => exact ((c.carried_reports P).serverNamed name).attempt
  | runningServers selector => exact ((c.carried_reports P).runningServers selector).attempt

end Provider.Client

open Dialogue Provider

/-- Nothing that is reported on the way to addresses is an error: not even a failure is, which is
    for the caller to tell. -/
theorem reports_ofTokens (tokens : List String) (env : Environment) (order : Visiting) :
    (Roster.ofTokens tokens env order).Reports IsQuiet := by
  unfold Roster.ofTokens
  refine (Reports.orFail _).bind fun p => ?_
  unfold Roster.ofParameters
  cases hsettings : Settings.ofParameters p env with
  | error e => exact .fail e
  | ok l =>
    have hfamily : ∀ e ∈ l.entries, IsQuiet e := by
      unfold Settings.ofParameters at hsettings
      split at hsettings
      · cases hsettings
      · split at hsettings
        · cases hsettings
        · cases hsettings
          show ∀ e ∈ (Family.choose p.addressType).entries, IsQuiet e
          unfold Family.choose
          split
          · exact List.forall_mem_singleton.2 (.info _)
          · split
            · exact List.forall_mem_nil _
            · exact List.forall_mem_singleton.2 (.warn _)
    refine (Reports.tell hfamily).bind fun settings => ?_
    exact (Discovery.reports_addresses Roster.hostnamePath settings).via
      fun q => (Client.ofSettings settings).reports_answer IsQuiet q

/-! ## The terminal -/

/-- Without a filter of the user's own only errors pass. -/
theorem filter_allows {env : Environment} (h : env "RUST_LOG" = none) (e : Log.Entry) :
    (CommandLine.filter env).allows e = true ↔ e.level = .error := by
  have hfilter : CommandLine.filter env = ⟨[⟨[], some .error⟩]⟩ := by
    rw [CommandLine.filter, h]
    rfl
  rw [hfilter]
  show decide (e.level.rank ≤ 1) = true ↔ _
  cases e.level <;> decide

/-- Of all that the command line reports, what passes the filter is its last report, if that is an
    error. -/
theorem filter_entries_commandLine (tokens : List String) {env : Environment}
    (h : env "RUST_LOG" = none) (order : Visiting) (world : World Answer) :
    ((CommandLine.run ("addrs" :: tokens) env order).run world []).entries.filter
        (CommandLine.filter env).allows =
      match ((Roster.ofTokens tokens env order).run world []).result with
      | .ok _ => []
      | .error e => [(CommandLine.conclude (.error e)).1] := by
  have hquiet := (reports_ofTokens tokens env order).run world []
  have hnone : ((Roster.ofTokens tokens env order).run world []).entries.filter
      (CommandLine.filter env).allows = [] := by
    rw [List.filter_eq_nil_iff]
    intro e he hpass
    exact hquiet e he ((filter_allows h e).1 hpass)
  rw [run_commandLine, List.filter_append, hnone, List.nil_append, List.filter_singleton]
  cases hresult : ((Roster.ofTokens tokens env order).run world []).result with
  | ok ips =>
    have hinfo : ¬(CommandLine.filter env).allows (CommandLine.conclude (.ok ips)).1 = true :=
      fun hpass => nomatch (filter_allows h _).1 hpass
    simp only [hinfo, cond_false]
  | error e =>
    have herror : (CommandLine.filter env).allows (CommandLine.conclude (.error e)).1 = true :=
      (filter_allows h _).2 rfl
    simp only [herror, cond_true]

/-! ## The record of a failure -/

/-- What an error record says in front of its text. -/
def recordHead : String :=
  "[ERROR node_discover_hcloud] Unable to retrieve addrs. Received error: "

/-- `IsErrorRecord text lines`: these lines are one error record about the text.  Where the text has
    several lines, those after the first are indented by four spaces. -/
inductive IsErrorRecord : String → List String → Prop where
  | lines {first : String} {more : List String} (whole : ∀ s ∈ first :: more, '\n' ∉ s.toList) :
      IsErrorRecord ("\n".intercalate (first :: more))
        ((recordHead ++ first) :: more.map fun s => "    " ++ s)

/-- The lines of a text give the lines of its record. -/
theorem IsErrorRecord.eq {text : String} {lines : List String} (h : IsErrorRecord text lines)
    {first : String} {more : List String}
    (htext : (pieces '\n' text.toList).map String.ofList = first :: more) :
    lines = (recordHead ++ first) :: more.map fun s => "    " ++ s := by
  cases h with
  | lines whole =>
    rw [pieces_intercalate rfl (List.cons_ne_nil _ _) whole] at htext
    cases htext
    rfl

/-- Cutting a text into its lines gives its record. -/
theorem IsErrorRecord.of_pieces {text : String} {first : List Char} {more : List (List Char)}
    (h : pieces '\n' text.toList = first :: more) :
    IsErrorRecord text ((recordHead ++ String.ofList first) ::
      (more.map String.ofList).map fun s => "    " ++ s) := by
  have hwhole : ∀ s ∈ (first :: more).map String.ofList, '\n' ∉ s.toList := by
    rw [List.forall_mem_map]
    intro p hp
    rw [String.toList_ofList]
    exact sep_notMem_of_mem_pieces (h ▸ hp)
  have htext : "\n".intercalate ((first :: more).map String.ofList) = text := by
    rw [← h]
    exact intercalate_pieces rfl text
  rw [← htext]
  exact .lines hwhole

/-- The terminal cuts the message at the same places, as what stands in front of the text has no
    line of its own. -/
theorem terminalLines_of_pieces {text : String} {first : List Char} {more : List (List Char)}
    (h : pieces '\n' text.toList = first :: more) :
    (⟨CommandLine.target, .error,
      "Unable to retrieve addrs. Received error: " ++ text⟩ : Log.Entry).terminalLines =
      (recordHead ++ String.ofList first) :: (more.map String.ofList).map fun s => "    " ++ s := by
  have hintro : '\n' ∉ "Unable to retrieve addrs. Received error: ".toList := by decide +kernel
  have hlevel : "[" ++ String.ofList ("ERROR".toList ++ List.replicate (5 - "ERROR".length) ' ') ++
      " " ++ CommandLine.target ++ "] " = "[ERROR node_discover_hcloud] " := by decide +kernel
  have hhead : "[ERROR node_discover_hcloud] " ++
      String.ofList ("Unable to retrieve addrs. Received error: ".toList ++ first) =
        recordHead ++ String.ofList first := by
    rw [String.ofList_append, String.ofList_toList, ← String.append_assoc]
    rfl
  have hindented : (more.map fun cs => String.ofList (List.replicate 4 ' ' ++ cs)) =
      (more.map String.ofList).map fun s => "    " ++ s := by
    rw [List.map_map]
    exact List.map_congr_left fun cs _ => String.ofList_append
  rw [Log.Entry.terminalLines, String.toList_append, pieces_append_of_notMem hintro h, ← hhead,
    ← hindented]
  exact congrArg (fun s => (s ++ _) :: _) hlevel

/-- What the command line reports of a failure takes the lines of one error record. -/
theorem isErrorRecord_terminalLines (text : String) :
    IsErrorRecord text (⟨CommandLine.target, .error,
      "Unable to retrieve addrs. Received error: " ++ text⟩ : Log.Entry).terminalLines := by
  obtain ⟨first, more, hpieces⟩ := List.exists_cons_of_ne_nil (pieces_ne_nil '\n' text.toList)
  rw [terminalLines_of_pieces hpieces]
  exact .of_pieces hpieces

/-! ## The printed line -/

/-- The addresses on one line. -/
def line (ips : List Address) : String := " ".intercalate (ips.map Address.print)

/-- Cutting the line at its spaces gives the addresses back. -/
theorem pieces_line {ips : List Address} (h : ips ≠ []) :
    (pieces ' ' (line ips).toList).map String.ofList = ips.map Address.print := by
  refine pieces_intercalate rfl (by simpa using h) (List.forall_mem_map.2 fun ip _ hmem => ?_)
  rw [Address.toList_print] at hmem
  rcases Address.mem_chars hmem with h | h | h <;> exact absurd h (by decide)

/-! ## What a user sees -/

/-- What a user sees of addresses and of a failure: either goes its own way, and leaves the other
    empty. -/
structure Shows (env : Environment) (result : Except Failure (List Address))
    (t : Transcript Answer CommandLine.Outcome) : Prop where
  addresses : ∀ ips, result = .ok ips →
    CommandLine.outcomeOf t.result = ⟨0, line ips ++ "\n"⟩ ∧
    CommandLine.terminal env t.entries = []
  failure : ∀ e, result = .error e →
    CommandLine.outcomeOf t.result = ⟨1, ""⟩ ∧
    ∃ text, Wording e text ∧
      t.entries.filter (CommandLine.filter env).allows =
        [⟨"node_discover_hcloud", .error,
          "Unable to retrieve addrs. Received error: " ++ text⟩] ∧
      IsErrorRecord text (CommandLine.terminal env t.entries)

theorem shows_commandLine (tokens : List String) {env : Environment} (h : env "RUST_LOG" = none)
    (order : Visiting) (world : World Answer) :
    Shows env ((Roster.ofTokens tokens env order).run world []).result
      ((CommandLine.run ("addrs" :: tokens) env order).run world []) := by
  have houtcome : CommandLine.outcomeOf
      ((CommandLine.run ("addrs" :: tokens) env order).run world []).result =
        (CommandLine.conclude ((Roster.ofTokens tokens env order).run world []).result).2 :=
    congrArg (fun t => CommandLine.outcomeOf t.result) (run_commandLine world [] tokens env order)
  have hfilter := filter_entries_commandLine tokens h order world
  constructor
  · intro ips hresult
    rw [hresult] at houtcome hfilter
    exact ⟨houtcome, congrArg (List.flatMap Log.Entry.terminalLines) hfilter⟩
  · intro e hresult
    rw [hresult] at houtcome hfilter
    refine ⟨houtcome, e.message, wording_message e, hfilter, ?_⟩
    rw [CommandLine.terminal, hfilter, List.flatMap_singleton]
    exact isErrorRecord_terminalLines e.message

end CloudRoster
