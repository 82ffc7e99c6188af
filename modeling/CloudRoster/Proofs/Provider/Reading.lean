/-
  Texts of addresses, printed and read.

  An address has many spellings and one printed text.  A spelling stands alone or in front of the
  length of a network, and whoever reads it has no use for the length: the address is kept as it is
  written, host bits included.

  1. **Two spellings** are printed alike exactly if they are read alike (`print_eq_iff`).
  2. **A slash** divides what is read from what is not (`readAddress_of_slash`).
  3. **No third outcome** - what is not read is refused in its own words
     (`readAddress_ok_or_refused`).
  4. **Discoveries** tell texts that are read as the addresses that were chosen, one for one
     (`map_readAddress_texts`).

  **Headline** (`readAddress_roundTrip`): printing and reading undo each other.
-/
import CloudRoster.Proofs.Provider.Document
import CloudRoster.Proofs.Provider.Origin

namespace CloudRoster.Provider

open Dialogue Client

/-! ## Spellings -/

/-- Spellings are printed alike exactly if they are read alike. -/
theorem print_eq_iff {text text' : String} {ip ip' : Address} (h : readAddress text = .ok ip)
    (h' : readAddress text' = .ok ip') :
    ip.print = ip'.print ↔ readAddress text = readAddress text' := by
  rw [h, h', Address.print_injective.eq_iff, Except.ok.injEq]

/-- Of a text with a slash, what stands in front of it is read. -/
theorem readAddress_of_slash {text : String} {ip : Address} (hslash : '/' ∈ text.toList)
    (h : readAddress text = .ok ip) :
    ∃ before after, text = before ++ "/" ++ after ∧ '/' ∉ before.toList ∧ '/' ∉ after.toList ∧
      readAddress before = .ok ip := by
  obtain ⟨before, after, htext, hbefore, hafter, hread⟩ :=
    Address.read?_of_slash hslash (readAddress_eq_ok_iff.1 h)
  exact ⟨before, after, htext, hbefore, hafter, readAddress_eq_ok_iff.2 hread⟩

/-! ## No third outcome -/

/-- The words for a text that is no address, in which the text is quoted. -/
def invalidText (text : String) : String :=
  "Unable to retrieve data from provider. Error message: `" ++
    ("Invalid IP address `" ++ text ++ "`") ++ "`"

theorem readAddress_ok_or_refused (text : String) :
    (∃ ip, readAddress text = .ok ip) ∨
      ∃ e, readAddress text = .error e ∧ (Failure.refused e).message = invalidText text := by
  rw [readAddress]
  cases Address.read? text with
  | some ip => exact .inl ⟨ip, rfl⟩
  | none => exact .inr ⟨.badAddress text, rfl, rfl⟩

/-! ## Discoveries -/

theorem map_readAddress_texts (ips : List Address) :
    (Discovery.texts ips).map readAddress = ips.map .ok := by
  rw [Discovery.texts, List.map_map]
  exact List.map_congr_left fun ip _ => readAddress_of_spells (.inl rfl)

/-! ## Headline -/

/-- **Printing and reading undo each other.**  In order: an address is read back, alone and as the
    address of a network of any length; a text with a slash that is read has one slash only, and in
    front of it stands what is read; a text that is not read is refused in its own words; different
    addresses are printed differently; spellings are printed alike exactly if they are read alike;
    and the texts that a discovery tells, of any inventory or of the provider's, are read as the
    addresses that were chosen for the servers in the location. -/
theorem readAddress_roundTrip :
    (∀ ip : Address, readAddress ip.print = .ok ip ∧
      ∀ n ≤ ip.width, readAddress (ip.print ++ "/" ++ toString n) = .ok ip) ∧
    (∀ (text : String) (ip : Address), '/' ∈ text.toList → readAddress text = .ok ip →
      ∃ before after, text = before ++ "/" ++ after ∧ '/' ∉ before.toList ∧ '/' ∉ after.toList ∧
        readAddress before = .ok ip) ∧
    (∀ text : String, (∃ ip, readAddress text = .ok ip) ∨
      ∃ e, readAddress text = .error e ∧ (Failure.refused e).message = invalidText text) ∧
    (∀ ip ip' : Address, ip ≠ ip' → ip.print ≠ ip'.print) ∧
    (∀ (text text' : String) (ip ip' : Address), readAddress text = .ok ip →
      readAddress text' = .ok ip' →
      (ip.print = ip'.print ↔ readAddress text = readAddress text')) ∧
    (∀ (path : String) (settings : Settings) (world : World Discovery.Answer)
      (past : List (Exchange Discovery.Answer)) (ips : List Address),
      let t := (Discovery.addresses path settings).run world past
      t.result = .ok ips → ∃ servers, Discovery.listings t.exchanges = [servers] ∧
        (Discovery.texts ips).map readAddress =
          (Discovery.chooseAll settings.family (servers.filter
            (Discovery.isIn (Discovery.locationOf settings t.exchanges)))).value.map .ok) ∧
    ∀ (path : String) (settings : Settings) (world : World Answer)
      (past : List (Exchange Answer)) (ips : List Address),
      ((addresses path settings).run world past).result = .ok ips →
      ∃ (location : Option String) (servers : List Server),
        let look := (settling path settings).run world past
        let listing := ((ofSettings settings).runningServers settings.labelSelector).run world
          (past ++ look.exchanges)
        look.result = .ok location ∧ listing.result = .ok servers ∧
        (Discovery.texts ips).map readAddress =
          (Discovery.chooseAll settings.family
            (servers.filter (Discovery.isIn location))).value.map .ok := by
  refine ⟨fun ip => ⟨readAddress_of_spells (.inl rfl), fun n hn => ?_⟩,
    fun _ _ => readAddress_of_slash, readAddress_ok_or_refused,
    fun _ _ => Address.print_injective.ne, fun _ _ _ _ => print_eq_iff, ?_, ?_⟩
  · exact readAddress_of_spells (.inr ⟨n, hn, rfl⟩)
  · intro path settings world past ips t h
    obtain ⟨servers, hlistings, houtcome⟩ :=
      (Discovery.way world past path settings).listings_of_result_ok h
    obtain rfl := Except.ok.inj houtcome
    exact ⟨servers, hlistings, map_readAddress_texts _⟩
  · intro path settings world past ips h
    obtain ⟨location, servers, -, hlook, hservers, rfl⟩ := exists_choice_of_addresses h
    exact ⟨location, servers, hlook, hservers, map_readAddress_texts _⟩

/-- An address of version six that carries one of version four is read back out of a network with
    its points and host bits, and whoever writes it without points means the same.  The same address
    of two servers is printed twice, and an address in a private network without its network. -/
theorem readAddress_roundTrip_mapped :
    let mapped := Address.v6 ⟨0, 0, 0, 0, 0, 0xffff, 0x0a00, 1⟩
    let t := (Discovery.addresses "/etc/hostname" Discovery.nowhereSettings).run
      Discovery.nowhereWorld []
    (mapped.print ++ "/" ++ toString 96 = "::ffff:10.0.0.1/96" ∧
      readAddress "::ffff:10.0.0.1/96" = .ok mapped) ∧
    (∃ before after, "::ffff:10.0.0.1/96" = before ++ "/" ++ after ∧
      readAddress before = .ok mapped) ∧
    Address.v4 ⟨10, 0, 0, 1⟩ ≠ mapped ∧
    (Address.v4 ⟨10, 0, 0, 1⟩).print ≠ mapped.print ∧
    readAddress "0::FFFF:a00:1" = readAddress "::ffff:10.0.0.1" ∧
    (∃ servers, Discovery.listings t.exchanges = [servers] ∧
      (Discovery.texts [tenV4, tenV4]).map readAddress =
        (Discovery.chooseAll .privateV4 (servers.filter
          (Discovery.isIn (Discovery.locationOf Discovery.nowhereSettings t.exchanges)))).value.map
            .ok) ∧
    ∃ (location : Option String) (servers : List Server),
      ((settling "hostname" (settingsIn "x" .privateV4)).run (scripted [networkReply]) []).result =
        .ok location ∧
      (Discovery.texts [tenV4]).map readAddress =
        (Discovery.chooseAll .privateV4 (servers.filter
          (Discovery.isIn location))).value.map .ok := by
  intro mapped t
  obtain ⟨hforth, hback, -, hdifferent, halike, hinventory, hprovider⟩ := readAddress_roundTrip
  have htext : mapped.print ++ "/" ++ toString 96 = "::ffff:10.0.0.1/96" := by decide
  have hread : readAddress "::ffff:10.0.0.1/96" = .ok mapped :=
    htext ▸ (hforth mapped).2 96 (by decide)
  have hne : Address.v4 ⟨10, 0, 0, 1⟩ ≠ mapped := by decide
  refine ⟨⟨htext, hread⟩, ?_, hne, hdifferent _ _ hne, ?_, ?_, ?_⟩
  · obtain ⟨before, after, hbefore, -, -, hread'⟩ := hback _ mapped (by decide) hread
    exact ⟨before, after, hbefore, hread'⟩
  · exact (halike "0::FFFF:a00:1" "::ffff:10.0.0.1" mapped mapped (by decide) (by decide)).1 rfl
  · exact hinventory _ _ _ _ _ (by decide)
  · obtain ⟨location, servers, hlook, -, htold⟩ := hprovider _ _ _ _ _ result_networkReply
    exact ⟨location, servers, hlook, htold⟩

end CloudRoster.Provider
