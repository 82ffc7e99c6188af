/-
  All ways to ask for addresses come to the same.

  Arguments may be handed in to get addresses without a log, with one, by way of the parameters that
  they give, or as the words of the command line.  Each of these keeps the arguments by key in a map
  of its own and visits them in an order of its own.

  1. **Agreement** - in two orders, arguments give the same parameters or the same failure; only if
     several keys have no meaning, each order may come to another one first (`Parameters.Agree`).
     Whatever is then done with the parameters is the same, and where there are none nothing is done
     (`Agree.exchanges`, `Agree.bind`).
  2. **The command line** - what it shows of such a result is `Shows`.

  **Headline** (`entryPoints_agree`).  That the same key is told by all, or that the terminal shows
  a failure word for word, would be too much to say (`entryPoints_disagree`).
-/
import CloudRoster.Proofs.Arguments.Order
import CloudRoster.Proofs.Roster.Terminal

namespace CloudRoster

open Text Dialogue Provider

/-! ## Agreement -/

namespace Parameters.Agree

variable {α : Type} {tokens : List String} {order order' : Visiting}
  {r r' : Except Failure Parameters} {f : Parameters → Dialogue Answer α}

/-- Where there are no parameters, nothing is asked. -/
theorem exchanges (h : Agree tokens order order' r r') (world : World Answer) :
    ((orFail r >>= f).run world []).exchanges = ((orFail r' >>= f).run world []).exchanges := by
  rcases h.either with rfl | ⟨key, key', -, -, -, rfl, rfl⟩
  · rfl
  · rfl

theorem bind (h : Agree tokens order order' r r') (world : World Answer) :
    Agree tokens order order' ((orFail r >>= f).run world []).result
      ((orFail r' >>= f).run world []).result := by
  have htold : ∀ {other : Visiting} {s : Except Failure Parameters}, TellsFirst tokens other s →
      TellsFirst tokens other ((orFail s >>= f).run world []).result := by
    intro other s hfirst args hargs key hkey
    rw [hfirst args hargs key hkey]
    rfl
  refine ⟨?_, ?_, htold h.first, htold h.first'⟩
  · intro halike
    rw [h.alike halike]
  · rcases h.either with rfl | ⟨key, key', hfirst, hfirst', hne, rfl, rfl⟩
    · exact .inl rfl
    · exact .inr ⟨key, key', hfirst, hfirst', hne, rfl, rfl⟩

end Parameters.Agree

/-! ## Headline -/

open Parameters (Agree)

/-- Two runs ask the same in the same order, get the same answers and end the same way. -/
structure Coincide {α : Type} (t u : Transcript Answer α) : Prop where
  exchanges : t.exchanges = u.exchanges
  result : t.result = u.result

/-- **All ways agree.**  For all arguments, in every world and in every environment without a filter
    for the log, and whatever the order in which each of the ways visits the arguments:

    * With a log or without, the same is asked and the results agree.  From the parameters, if the
      arguments give any, the same is asked again and the result is the same.  If they give none,
      nothing is asked, and the result is what is wrong with the arguments.
    * So it is on the command line, where a result that agrees is shown: addresses are printed on
      one line, which cut at its spaces is the list of addresses, unless there are none; a failure
      is one error record on the terminal.

    Without the word `addrs` in front the command line does nothing but to print how to use it. -/
theorem entryPoints_agree {env : Environment} (hquiet : env "RUST_LOG" = none)
    (world : World Answer) :
    (∀ tokens (order logged parsed command : Visiting),
      let t := (Roster.ofTokens tokens env order).silent.run world []
      let reported := (Roster.ofTokens tokens env logged).run world []
      let cli := (CommandLine.run ("addrs" :: tokens) env command).run world []
      reported.exchanges = t.exchanges ∧ Agree tokens order logged t.result reported.result ∧
      (∀ p, Parameters.ofTokens tokens parsed = .ok p →
        Coincide ((Roster.ofParameters p env).run world []) t) ∧
      (∀ e, Parameters.ofTokens tokens parsed = .error e →
        t.exchanges = [] ∧ Agree tokens order parsed t.result (.error e)) ∧
      cli.exchanges = t.exchanges ∧
      (∃ result, Agree tokens order command t.result result ∧ Shows env result cli) ∧
      ∀ ips, t.result = .ok ips → ips ≠ [] →
        (pieces ' ' (line ips).toList).map String.ofList = ips.map Address.print) ∧
    ∀ argv order, argv.head? ≠ some "addrs" →
      (CommandLine.run argv env order).run world [] = ⟨.ok CommandLine.help, [], []⟩ ∧
      CommandLine.help.exitCode = 0 := by
  refine ⟨fun tokens order logged parsed command => ?_, fun argv order hargv => ?_⟩
  · intro t reported cli
    have ht : t = ⟨((Roster.ofTokens tokens env order).run world []).result,
        ((Roster.ofTokens tokens env order).run world []).exchanges, []⟩ := run_silent world [] _
    have hexchanges : ∀ other : Visiting,
        ((Roster.ofTokens tokens env other).run world []).exchanges = t.exchanges := by
      intro other
      rw [ht]
      exact (Parameters.agree_ofTokens tokens other order).exchanges world
    have hagree : ∀ other : Visiting,
        Agree tokens order other t.result
          ((Roster.ofTokens tokens env other).run world []).result := by
      intro other
      rw [ht]
      exact (Parameters.agree_ofTokens tokens order other).bind world
    refine ⟨hexchanges logged, hagree logged, ?_, ?_, ?_, ⟨_, hagree command, ?_⟩,
      fun ips _ hips => pieces_line hips⟩
    · intro p hp
      have hgiven : Parameters.ofTokens tokens order = .ok p :=
        (hp ▸ Parameters.agree_ofTokens tokens order parsed).eq_ok
      have hsame : Roster.ofTokens tokens env order = Roster.ofParameters p env := by
        rw [Roster.ofTokens, hgiven]
        rfl
      rw [ht, hsame]
      exact ⟨rfl, rfl⟩
    · intro e he
      have hfail : Roster.ofTokens tokens env parsed = .fail e := by
        rw [Roster.ofTokens, he]
        rfl
      have hx := hexchanges parsed
      have hr := hagree parsed
      rw [hfail] at hx hr
      exact ⟨hx.symm, hr⟩
    · exact (congrArg Transcript.exchanges (run_commandLine world [] tokens env command)).trans
        (hexchanges command)
    · exact shows_commandLine tokens hquiet command world
  · have hhelp : CommandLine.run argv env order = .done CommandLine.help := by
      cases argv with
      | nil => rfl
      | cons word tokens =>
        exact commandLine_help (fun hword => hargv (congrArg some hword)) tokens env order
    rw [hhelp]
    exact ⟨rfl, rfl⟩

/-- A world with two servers in one location. -/
def twoServers : World Answer
  | _, .hostname => .missing
  | _, .request _ => some ⟨200, utf8
      ("\x7b\"servers\":[" ++
        "\x7b\"id\":1,\"name\":\"a\",\"datacenter\":[[\"fsn1\"]],\"public_net\":\x7b\x7d," ++
          "\"private_net\":[[\"10.0.0.2\"]]\x7d," ++
        "\x7b\"id\":2,\"name\":\"b\",\"datacenter\":[[\"fsn1\"]],\"public_net\":\x7b\x7d," ++
          "\"private_net\":[[\"10.0.0.3\"]]\x7d]\x7d")⟩

/-- Two addresses are printed.  Without arguments the missing one is told, and nothing is asked; of
    a provider whose name has two lines the second one is indented. -/
theorem entryPoints_agree_two :
    localEnvironment "RUST_LOG" = none ∧
    (let cli :=
      (CommandLine.run ("addrs" :: argumentsWith "one") localEnvironment).run twoServers []
    CommandLine.outcomeOf cli.result = ⟨0, "10.0.0.2 10.0.0.3\n"⟩ ∧
    CommandLine.terminal localEnvironment cli.entries = []) ∧
    (let cli := (CommandLine.run ["addrs"] localEnvironment).run twoServers []
    cli.exchanges = [] ∧ CommandLine.outcomeOf cli.result = ⟨1, ""⟩ ∧
    CommandLine.terminal localEnvironment cli.entries =
      ["[ERROR node_discover_hcloud] Unable to retrieve addrs. Received error: "
        ++ "Argument with key: `provider` is required"]) ∧
    let cli := (CommandLine.run ["addrs", "provider=hc\nloud"] localEnvironment).run twoServers []
    CommandLine.terminal localEnvironment cli.entries =
      ["[ERROR node_discover_hcloud] Unable to retrieve addrs. Received error: "
        ++ "Invalid provider `hc",
        "    loud`. This plugin only serves `hcloud`."] := by
  have hquiet : localEnvironment "RUST_LOG" = none := by decide
  obtain ⟨hall, -⟩ := entryPoints_agree hquiet twoServers
  have hresult : ((Roster.ofTokens (argumentsWith "one") localEnvironment).silent.run
      twoServers []).result = .ok [.v4 ⟨10, 0, 0, 2⟩, .v4 ⟨10, 0, 0, 3⟩] := by decide +kernel
  have habsent : ((Roster.ofTokens [] localEnvironment).silent.run twoServers []).result =
      .error (.absent "provider") := by decide +kernel
  have hforeign : ((Roster.ofTokens ["provider=hc\nloud"] localEnvironment).silent.run
      twoServers []).result = .error (.foreignProvider "hc\nloud") := by decide +kernel
  refine ⟨hquiet, ?_, ?_, ?_⟩
  · obtain ⟨-, -, -, -, -, ⟨result, hagree, hshows⟩, -⟩ :=
      hall (argumentsWith "one") .given .given .given .given
    obtain ⟨hprinted, hnone⟩ := hshows.addresses _ ((hagree.alike rfl).symm.trans hresult)
    refine ⟨?_, hnone⟩
    rw [hprinted]
    decide +kernel
  · obtain ⟨-, -, -, hwrong, hsame, ⟨result, hagree, hshows⟩, -⟩ :=
      hall [] .given .given .given .given
    obtain ⟨hasked, -⟩ := hwrong (.absent "provider") (by decide +kernel)
    obtain ⟨hfailed, text, hwording, -, hrecord⟩ :=
      hshows.failure _ ((hagree.alike rfl).symm.trans habsent)
    obtain rfl : text = "Argument with key: `provider` is required" := by
      cases hwording
      decide +kernel
    have hline : (pieces '\n' "Argument with key: `provider` is required".toList).map
        String.ofList = ["Argument with key: `provider` is required"] := by decide +kernel
    exact ⟨hsame.trans hasked, hfailed, hrecord.eq hline⟩
  · obtain ⟨-, -, -, -, -, ⟨result, hagree, hshows⟩, -⟩ :=
      hall ["provider=hc\nloud"] .given .given .given .given
    obtain ⟨-, text, hwording, -, hrecord⟩ :=
      hshows.failure _ ((hagree.alike rfl).symm.trans hforeign)
    obtain rfl : text = "Invalid provider `hc\nloud`. This plugin only serves `hcloud`." := by
      cases hwording
      decide +kernel
    have hlines : (pieces '\n'
        "Invalid provider `hc\nloud`. This plugin only serves `hcloud`.".toList).map
        String.ofList = ["Invalid provider `hc", "loud`. This plugin only serves `hcloud`."] := by
      decide +kernel
    exact hrecord.eq hlines

/-- The last key first. -/
def Visiting.reversed : Visiting := ⟨List.reverse, List.reverse_perm⟩

/-- Of two keys without a meaning one way may tell the first and another one the second; and where a
    failure takes two lines to tell, its words are not on the terminal as they are. -/
theorem entryPoints_disagree :
    localEnvironment "RUST_LOG" = none ∧
    (let tokens := ["provider=hcloud", "zone=1", "rack=2"]
    ((Roster.ofTokens tokens localEnvironment .given).silent.run twoServers []).result =
      .error (.unknown "zone") ∧
    ((Roster.ofTokens tokens localEnvironment .reversed).run twoServers []).result =
      .error (.unknown "rack")) ∧
    let tokens := ["provider=hc\nloud", "location=l"]
    let cli := (CommandLine.run ("addrs" :: tokens) localEnvironment).run twoServers []
    let text := "Invalid provider `hc\nloud`. This plugin only serves `hcloud`."
    ((Roster.ofTokens tokens localEnvironment).silent.run twoServers []).result =
      .error (.foreignProvider "hc\nloud") ∧
    Wording (.foreignProvider "hc\nloud") text ∧
    ¬text.toList <:+:
      ("\n".intercalate (CommandLine.terminal localEnvironment cli.entries)).toList := by
  have hwording : Wording (.foreignProvider "hc\nloud")
      ("Invalid provider `" ++ "hc\nloud" ++ "`. This plugin only serves `hcloud`.") :=
    .foreignProvider _
  have htext : "Invalid provider `" ++ "hc\nloud" ++ "`. This plugin only serves `hcloud`." =
      "Invalid provider `hc\nloud`. This plugin only serves `hcloud`." := by decide +kernel
  refine ⟨by decide, ⟨by decide +kernel, by decide +kernel⟩, by decide +kernel, ?_, ?_⟩
  · exact htext ▸ hwording
  · decide +kernel

end CloudRoster
