/-
  Reading the text of an address gives the address back.

  Printing makes three choices that reading has to undo: zeros in front of a number are left out, a
  run of zero groups is left out, and an address that carries an IPv4 address keeps its points.

  1. **Numbers** - `octet?_decimal`, `group?_hexadecimal`: a number is read back, and its text holds
     no sign that separates numbers.
  2. **IPv4** - four numbers between points (`IPv4.parse?_print`).
  3. **IPv6** - `groups?_hexadecimal` for groups alone, `allGroups?_printGap` for the place of the
     double colon; how long the run there was follows from the eight groups that there are in all
     (`longestRun_zeros`).
  4. **Networks** - a slash and a length behind the text change nothing.

  **Headline** (`read?_of_spells`): whoever writes an address as it is printed, alone or as the
  address of a network, is read as meaning that address.

  **Conversely**, every spelling that is read, printed or not, is an address alone or with the
  length of a network behind a slash (`read?_spec`).  So what stands in front of a slash is what is
  read (`read?_of_slash`), a colon shows the version (`colon_mem_iff_of_read?`), and two addresses
  are never printed alike (`print_injective`).
-/
import CloudRoster.Address.Parser
import CloudRoster.Address.Printer
import CloudRoster.Proofs.Collect

namespace CloudRoster

open Text

/-! ## Numbers -/

theorem Text.plus_notMem_decimal (n : Nat) : '+' ∉ decimal n :=
  notMem_of_natural? (natural?_decimal n) (by decide)

/-! ## Version four -/

namespace IPv4

theorem octet?_decimal (o : UInt8) : octet? (decimal o.toNat) = some o := by
  have hzero : ¬((decimal o.toNat).head? = some '0' ∧ (decimal o.toNat).length ≠ 1) := by
    rintro ⟨hhead, hlength⟩
    rcases Nat.eq_zero_or_pos o.toNat with h | h
    · rw [h] at hlength
      exact hlength rfl
    · exact head?_decimal h hhead
  rw [octet?, if_neg hzero, natural?_decimal]
  simp [Option.filter, o.toNat_lt]

theorem dot_notMem_decimal (n : Nat) : '.' ∉ decimal n :=
  notMem_of_natural? (natural?_decimal n) (by decide)

/-- An address is read back. -/
theorem parse?_print (ip : IPv4) : parse? ip.print = some ip := by
  have hpieces : pieces '.' ip.print = ip.octets.map fun o => decimal o.toNat := by
    refine pieces_joined (by simp [octets]) fun p hp => ?_
    obtain ⟨o, -, rfl⟩ := List.mem_map.1 hp
    exact dot_notMem_decimal _
  have hoctets : (ip.octets.map fun o => decimal o.toNat).mapM octet? = some ip.octets := by
    rw [mapM_eq_some_iff, List.forall₂_map_left_iff]
    exact List.forall₂_same.2 fun o _ => octet?_decimal o
  rw [parse?, hpieces, hoctets, Option.bind_some, ofOctets?_octets]

/-- The text of an address is made of digits and points. -/
theorem mem_print {ip : IPv4} {c : Char} (hc : c ∈ ip.print) :
    c = '.' ∨ (digit? 10 c).isSome = true := by
  rcases mem_joined hc with h | ⟨p, hp, h⟩
  · exact .inl h
  · obtain ⟨o, -, rfl⟩ := List.mem_map.1 hp
    exact .inr ((digits_of_natural? (natural?_decimal o.toNat)).2 c h)

theorem dot_mem_print (ip : IPv4) : '.' ∈ ip.print := by
  simp [print, octets, joined]

/-- An address of version four is written with digits and points, however it is spelled. -/
theorem notMem_of_parse? {cs : List Char} {ip : IPv4} (h : parse? cs = some ip) {c : Char}
    (hdot : c ≠ '.') (hdigit : digit? 10 c = none) : c ∉ cs := by
  intro hmem
  obtain ⟨octets, hoctets, -⟩ := Option.bind_eq_some_iff.1 h
  -- the piece that the character stands in would have to be an octet
  obtain ⟨p, hp, hc⟩ : ∃ p ∈ pieces '.' cs, c ∈ p := exists_mem_pieces hmem hdot
  obtain ⟨o, ho⟩ : ∃ o, octet? p = some o := exists_of_mapM hoctets hp
  rw [octet?] at ho
  split at ho
  · cases ho
  · obtain ⟨n, hn, -⟩ := Option.map_eq_some_iff.1 ho
    exact notMem_of_natural? (Option.filter_eq_some_iff.1 hn).1 hdigit hc

theorem colon_notMem_of_parse? {cs : List Char} {ip : IPv4} (h : parse? cs = some ip) :
    ':' ∉ cs :=
  notMem_of_parse? h (by decide) (by decide)

/-- The groups that an address of version four fills hold all of it, and the other way round. -/
theorem groups_ofGroups (high low : UInt16) : (ofGroups high low).groups = [high, low] := by
  have whole (w : UInt16) :
      (w / 256).toUInt8.toUInt16 * 256 + w.toUInt8.toUInt16 = w := by
    apply UInt16.toNat_inj.1
    have := w.toNat_lt
    simp
    omega
  rw [ofGroups, groups, whole, whole]

end IPv4

/-! ## Version six -/

namespace IPv6

theorem length_hexadecimal_le (g : UInt16) : (hexadecimal g.toNat).length ≤ 4 :=
  (Nat.length_toDigits_le_iff (by omega) (by omega)).2 g.toNat_lt

theorem group?_hexadecimal (g : UInt16) : group? (hexadecimal g.toNat) = some g := by
  rw [group?, if_neg (Nat.not_lt.2 (length_hexadecimal_le g)), natural?_hexadecimal,
    Option.map_some, UInt16.ofNat_toNat]

theorem colon_notMem_hexadecimal (n : Nat) : ':' ∉ hexadecimal n :=
  notMem_of_natural? (natural?_hexadecimal n) (by decide)

theorem hexadecimal_ne_nil (n : Nat) : hexadecimal n ≠ [] := Nat.toDigits_ne_nil

/-- A group is no address of version four, because it has no point. -/
theorem group?_print (ip : IPv4) : group? ip.print = none := by
  cases h : group? ip.print with
  | none => rfl
  | some g =>
    rw [group?] at h
    split at h
    · cases h
    · obtain ⟨n, hn, -⟩ := Option.map_eq_some_iff.1 h
      exact absurd ip.dot_mem_print (notMem_of_natural? hn (by decide))

/-! ### Groups -/

theorem mapM_group?_hexadecimal (gs : List UInt16) :
    (gs.map fun g => hexadecimal g.toNat).mapM group? = some gs := by
  rw [mapM_eq_some_iff, List.forall₂_map_left_iff]
  exact List.forall₂_same.2 fun g _ => group?_hexadecimal g

theorem groups?_hexadecimal (gs : List UInt16) :
    groups? (gs.map fun g => hexadecimal g.toNat) = some gs := by
  induction gs with
  | nil => rfl
  | cons g gs ih =>
    cases gs with
    | nil => simp [groups?, group?_hexadecimal]
    | cons g' gs =>
      rw [List.map_cons] at ih
      rw [List.map_cons, List.map_cons, groups?, group?_hexadecimal, Option.bind_some, ih]
      · rfl
      · exact List.cons_ne_nil _ _

theorem pieces_printGroups {gs : List UInt16} (h : gs ≠ []) :
    pieces ':' (printGroups gs) = gs.map fun g => hexadecimal g.toNat := by
  refine pieces_joined (by simpa using h) fun p hp => ?_
  obtain ⟨g, -, rfl⟩ := List.mem_map.1 hp
  exact colon_notMem_hexadecimal _

theorem printGroups_cons (g g' : UInt16) (gs : List UInt16) :
    printGroups (g :: g' :: gs) = hexadecimal g.toNat ++ ':' :: printGroups (g' :: gs) := by
  rw [printGroups, List.map_cons, joined_cons _ _ (by simp)]
  rfl

/-- Groups begin with a digit. -/
theorem printGroups_eq_cons (g : UInt16) (gs : List UInt16) :
    ∃ c cs, printGroups (g :: gs) = c :: cs ∧ c ≠ ':' := by
  obtain ⟨c, cs, hcs⟩ := List.exists_cons_of_ne_nil (hexadecimal_ne_nil g.toNat)
  have hc : c ≠ ':' := by
    rintro rfl
    exact colon_notMem_hexadecimal g.toNat (hcs ▸ List.mem_cons_self)
  cases gs with
  | nil => exact ⟨c, cs, by rw [printGroups, List.map_singleton, joined_singleton, hcs], hc⟩
  | cons g' gs => exact ⟨c, _, by rw [printGroups_cons, hcs, List.cons_append], hc⟩

/-- Groups on one side of a double colon are read back, by any reader of groups. -/
theorem side?_printGroups {groups : List (List Char) → Option (List UInt16)} (gs : List UInt16)
    (h : groups (gs.map fun g => hexadecimal g.toNat) = some gs) :
    side? groups (printGroups gs) = some gs := by
  cases gs with
  | nil => rfl
  | cons g gs =>
    obtain ⟨c, cs, hcs, -⟩ := printGroups_eq_cons g gs
    rw [side?, if_neg (by rw [hcs]; exact Bool.false_ne_true),
      pieces_printGroups (List.cons_ne_nil _ _)]
    exact h

/-! ### The double colon -/

/-- A double colon does not begin before a character that is none. -/
theorem gap?_cons {c : Char} {cs : List Char} (h : ¬(c = ':' ∧ cs.head? = some ':')) :
    gap? (c :: cs) = (gap? cs).map fun (l, r) => (c :: l, r) := by
  rw [gap?]
  rintro cs' rfl rfl
  exact h ⟨rfl, rfl⟩

theorem gap?_append {p : List Char} (h : ':' ∉ p) (cs : List Char) :
    gap? (p ++ cs) = (gap? cs).map fun (l, r) => (p ++ l, r) := by
  induction p with
  | nil => simp
  | cons c p ih =>
    rw [List.mem_cons, not_or] at h
    rw [List.cons_append, gap?_cons fun hc => h.1 hc.1.symm, ih h.2, Option.map_map]
    rfl

/-- Groups of digits hold no double colon, so the first one stands behind them. -/
theorem gap?_printGroups (gs : List UInt16) :
    gap? (printGroups gs) = none ∧
      ∀ cs, gap? (printGroups gs ++ ':' :: ':' :: cs) = some (printGroups gs, cs) := by
  induction gs with
  | nil => exact ⟨rfl, fun cs => rfl⟩
  | cons g gs ih =>
    cases gs with
    | nil =>
      have hone : printGroups [g] = hexadecimal g.toNat := by
        rw [printGroups, List.map_singleton, joined_singleton]
      refine ⟨?_, fun cs => ?_⟩
      · rw [hone, ← List.append_nil (hexadecimal g.toNat),
          gap?_append (colon_notMem_hexadecimal _)]
        rfl
      · rw [hone, gap?_append (colon_notMem_hexadecimal _), gap?]
        simp
    | cons g' gs =>
      obtain ⟨c, rest, hrest, hc⟩ := printGroups_eq_cons g' gs
      refine ⟨?_, fun cs => ?_⟩
      · rw [printGroups_cons, gap?_append (colon_notMem_hexadecimal _), gap?_cons, ih.1]
        · rfl
        · rw [hrest]
          intro h
          exact hc (Option.some.inj h.2)
      · rw [printGroups_cons, List.append_assoc, gap?_append (colon_notMem_hexadecimal _),
          List.cons_append, gap?_cons, ih.2]
        · rfl
        · rw [hrest]
          intro h
          exact hc (Option.some.inj h.2)

/-! ### Whole addresses -/

/-- The run that is left out is as long as the other groups leave room for. -/
theorem allGroups?_printGap {gs : List UInt16} (hlength : gs.length = 8) {i n : Nat} (hn : 0 < n)
    (hrun : gs = gs.take i ++ List.replicate n 0 ++ gs.drop (i + n)) :
    allGroups? (printGap gs i n) = some gs := by
  have hroom : (gs.take i).length + n + (gs.drop (i + n)).length = 8 := by
    have := congrArg List.length hrun
    rw [List.length_append, List.length_append, List.length_replicate, hlength] at this
    omega
  rw [allGroups?, printGap, (gap?_printGroups _).2]
  simp only [side?_printGroups _ (mapM_group?_hexadecimal _),
    side?_printGroups _ (groups?_hexadecimal _), Option.bind_eq_bind, Option.bind_some]
  rw [if_pos (by omega),
    show 8 - (gs.take i).length - (gs.drop (i + n)).length = n by omega, ← hrun]

theorem allGroups?_printHexadecimal (ip : IPv6) :
    allGroups? ip.printHexadecimal = some ip.groups := by
  rw [printHexadecimal]
  split
  · next h => exact allGroups?_printGap ip.length_groups (by omega) (longestRun_zeros ip.groups)
  · rw [allGroups?, (gap?_printGroups _).1]
    have hpieces : pieces ':' (printGroups ip.groups) =
        ip.groups.map fun g => hexadecimal g.toNat := pieces_printGroups (List.cons_ne_nil _ _)
    simp only [hpieces, groups?_hexadecimal]

/-- The form with points. -/
theorem allGroups?_mapped (v4 : IPv4) :
    allGroups? ([':', ':', 'f', 'f', 'f', 'f', ':'] ++ v4.print) =
      some ([0, 0, 0, 0, 0, 0xffff] ++ v4.groups) := by
  have hpieces : pieces ':' (['f', 'f', 'f', 'f'] ++ ':' :: v4.print) =
      [['f', 'f', 'f', 'f'], v4.print] := by
    rw [pieces_append (by decide),
      pieces_eq_singleton (IPv4.colon_notMem_of_parse? v4.parse?_print)]
  have hgroups : groups? [['f', 'f', 'f', 'f'], v4.print] = some (0xffff :: v4.groups) := by
    have hfirst : group? ['f', 'f', 'f', 'f'] = some 0xffff := by decide
    rw [groups?, hfirst, groups?, group?_print, IPv4.parse?_print]
    · rfl
    · exact List.cons_ne_nil _ _
  have hgap : gap? ([':', ':', 'f', 'f', 'f', 'f', ':'] ++ v4.print) =
      some ([], ['f', 'f', 'f', 'f'] ++ ':' :: v4.print) := rfl
  have hright : side? groups? (['f', 'f', 'f', 'f'] ++ ':' :: v4.print) =
      some (0xffff :: v4.groups) := by
    rw [side?, if_neg (by exact Bool.false_ne_true), hpieces, hgroups]
  rw [allGroups?, hgap]
  simp only [hright]
  rfl

/-- An address is read back. -/
theorem parse?_print (ip : IPv6) : parse? ip.print = some ip := by
  rw [print]
  cases hmapped : ip.mapped? with
  | none => rw [parse?, allGroups?_printHexadecimal, Option.bind_some, ofGroups?_groups]
  | some v4 =>
    rw [mapped?] at hmapped
    split at hmapped
    · next h =>
      obtain ⟨ha, hb, hc, hd, he, hf⟩ := h
      cases hmapped
      rw [parse?, allGroups?_mapped, Option.bind_some, IPv4.groups_ofGroups, ← ofGroups?_groups ip,
        groups, ha, hb, hc, hd, he, hf]
      rfl
    · cases hmapped

theorem colon_mem_print (ip : IPv6) : ':' ∈ ip.print := by
  rw [print]
  split
  · exact List.mem_cons_self
  · rw [printHexadecimal]
    split
    · exact List.mem_append_right _ List.mem_cons_self
    · rw [groups, printGroups_cons]
      exact List.mem_append_right _ List.mem_cons_self

/-- The text of an address is made of digits, colons and points. -/
theorem mem_print {ip : IPv6} {c : Char} (hc : c ∈ ip.print) :
    c = ':' ∨ c = '.' ∨ (digit? 16 c).isSome = true := by
  have digits (gs : List UInt16) (h : c ∈ printGroups gs) :
      c = ':' ∨ c = '.' ∨ (digit? 16 c).isSome = true := by
    rcases mem_joined h with h | ⟨p, hp, h⟩
    · exact .inl h
    · obtain ⟨g, -, rfl⟩ := List.mem_map.1 hp
      exact .inr (.inr ((digits_of_natural? (natural?_hexadecimal g.toNat)).2 c h))
  rw [print] at hc
  split at hc
  · next v4 _ =>
    rcases List.mem_append.1 hc with h | h
    · simp only [List.mem_cons, List.not_mem_nil, or_false] at h
      rcases h with rfl | rfl | rfl | rfl | rfl | rfl | rfl <;> decide
    · rcases IPv4.mem_print h with rfl | h
      · exact .inr (.inl rfl)
      · exact .inr (.inr (digit?_sixteen_of_ten h))
  · rw [printHexadecimal] at hc
    split at hc
    · rw [printGap] at hc
      rcases List.mem_append.1 hc with h | h
      · exact digits _ h
      · simp only [List.mem_cons] at h
        rcases h with h | h | h
        · exact .inl h
        · exact .inl h
        · exact digits _ h
    · exact digits _ hc

/-- Texts without a colon are one group or two. -/
theorem length_le_two_of_groups? {p : List Char} {gs : List UInt16} (h : groups? [p] = some gs) :
    gs.length ≤ 2 := by
  rw [groups?, Option.or_eq_some_iff] at h
  rcases h with h | ⟨-, h⟩
  · obtain ⟨g, -, rfl⟩ := Option.map_eq_some_iff.1 h
    exact Nat.le_succ 1
  · obtain ⟨v4, -, rfl⟩ := Option.map_eq_some_iff.1 h
    exact Nat.le_refl 2

/-- Every address of version six is written with a colon, however it is spelled. -/
theorem colon_mem_of_parse? {cs : List Char} {ip : IPv6} (h : parse? cs = some ip) : ':' ∈ cs := by
  by_contra hcolon
  have hgap : gap? cs = none := by
    have happend := gap?_append hcolon []
    rwa [List.append_nil] at happend
  obtain ⟨gs, hgroups, hip⟩ := Option.bind_eq_some_iff.1 h
  rw [allGroups?, hgap, pieces_eq_singleton hcolon] at hgroups
  have hlength := length_le_two_of_groups? hgroups
  rw [groups_of_ofGroups? hip, length_groups] at hlength
  omega

end IPv6

/-! ## Both versions -/

namespace Address

/-- The most that the length of a network can be. -/
def width : Address → Nat
  | .v4 _ => 32
  | .v6 _ => 128

/-- A text writes an address if it is the address as it is printed, or that and the length of a
    network behind a slash. -/
def Spells (ip : Address) (text : String) : Prop :=
  text = ip.print ∨ ∃ n ≤ ip.width, text = ip.print ++ "/" ++ toString n

/-- The characters of an address. -/
def chars : Address → List Char
  | .v4 ip => ip.print
  | .v6 ip => ip.print

theorem toList_print (ip : Address) : ip.print.toList = ip.chars := by
  cases ip <;> exact String.toList_ofList

/-- The text of an address is made of digits, colons and points. -/
theorem mem_chars {ip : Address} {c : Char} (hc : c ∈ ip.chars) :
    c = ':' ∨ c = '.' ∨ (digit? 16 c).isSome = true := by
  cases ip with
  | v4 ip =>
    rcases IPv4.mem_print hc with h | h
    · exact .inr (.inl h)
    · exact .inr (.inr (digit?_sixteen_of_ten h))
  | v6 ip => exact IPv6.mem_print hc

theorem slash_notMem_chars (ip : Address) : '/' ∉ ip.chars := by
  intro h
  rcases mem_chars h with h | h | h <;> exact absurd h (by decide)

theorem parse?_v6 (ip : IPv6) : IPv4.parse? ip.print = none := by
  cases h : IPv4.parse? ip.print with
  | none => rfl
  | some v4 => exact absurd ip.colon_mem_print (IPv4.colon_notMem_of_parse? h)

theorem parse?_chars (ip : Address) : parse? ip.chars = some ip := by
  cases ip with
  | v4 ip => rw [parse?, chars, IPv4.parse?_print]; rfl
  | v6 ip => rw [parse?, chars, parse?_v6, IPv6.parse?_print]; rfl

theorem networkLength?_decimal {max n : Nat} (h : n ≤ max) :
    networkLength? max (decimal n) = some n := by
  have hplus : (decimal n).head? ≠ some '+' :=
    fun he => plus_notMem_decimal n (List.mem_of_mem_head? he)
  rw [networkLength?, if_neg hplus, natural?_decimal]
  simp [Option.filter, h]

theorem ofNetwork?_chars {ip : Address} {n : Nat} (h : n ≤ ip.width) :
    ofNetwork? ip.chars (decimal n) = some ip := by
  cases ip with
  | v4 ip =>
    have hlength : networkLength? 32 (decimal n) = some n := networkLength?_decimal h
    simp [ofNetwork?, chars, IPv4.parse?_print, hlength]
  | v6 ip =>
    have hlength : networkLength? 128 (decimal n) = some n := networkLength?_decimal h
    simp [ofNetwork?, chars, parse?_v6, IPv6.parse?_print, hlength]

/-- **An address that is written is read as what it is.** -/
theorem read?_of_spells {ip : Address} {text : String} (h : ip.Spells text) :
    read? text = some ip := by
  rcases h with rfl | ⟨n, hn, rfl⟩
  · rw [read?, toList_print, cut_of_notMem ip.slash_notMem_chars]
    exact parse?_chars ip
  · have hchars : (ip.print ++ "/" ++ toString n).toList = ip.chars ++ '/' :: decimal n := by
      simp [toList_print, decimal, Nat.toString_eq_repr, Nat.toList_repr]
    rw [read?, hchars, cut_append ip.slash_notMem_chars]
    exact ofNetwork?_chars hn

/-! ### What stands around the slash -/

/-- The length of a network is written with digits and a plus sign. -/
theorem notMem_of_networkLength? {max n : Nat} {len : List Char}
    (h : networkLength? max len = some n) {c : Char} (hplus : c ≠ '+')
    (hdigit : digit? 10 c = none) : c ∉ len := by
  have hdigits := (Option.filter_eq_some_iff.1 h).1
  split at hdigits
  · next hhead =>
    obtain ⟨rest, rfl⟩ := List.head?_eq_some_iff.1 hhead
    rw [List.mem_cons, not_or]
    exact ⟨hplus, notMem_of_natural? hdigits hdigit⟩
  · exact notMem_of_natural? hdigits hdigit

/-- The mask of a network is written as an address is. -/
theorem notMem_of_isNetworkMask {len : List Char} (h : isNetworkMask len = true) {c : Char}
    (hdot : c ≠ '.') (hdigit : digit? 10 c = none) : c ∉ len := by
  rw [isNetworkMask] at h
  split at h
  · next hmask => exact IPv4.notMem_of_parse? hmask hdot hdigit
  · cases h

/-- The address of a network is the one in front of its length, host bits included. -/
theorem parse?_of_ofNetwork? {cs len : List Char} {ip : Address}
    (h : ofNetwork? cs len = some ip) :
    parse? cs = some ip ∧ ∀ c, c ≠ '.' → c ≠ '+' → digit? 10 c = none → c ∉ len := by
  rw [ofNetwork?] at h
  split at h
  · next v4 hv4 =>
    obtain ⟨hlen, heq⟩ := Option.ite_none_right_eq_some.1 h
    obtain rfl := Option.some.inj heq
    refine ⟨by rw [parse?, hv4]; rfl, fun c hdot hplus hdigit => ?_⟩
    rcases Bool.or_eq_true_iff.1 hlen with hmask | hlength
    · exact notMem_of_isNetworkMask hmask hdot hdigit
    · obtain ⟨n, hn⟩ := Option.isSome_iff_exists.1 hlength
      exact notMem_of_networkLength? hn hplus hdigit
  · next hv4 =>
    split at h
    · next v6 hv6 =>
      obtain ⟨hlength, heq⟩ := Option.ite_none_right_eq_some.1 h
      obtain rfl := Option.some.inj heq
      obtain ⟨n, hn⟩ := Option.isSome_iff_exists.1 hlength
      exact ⟨by rw [parse?, hv4, hv6]; rfl, fun c _ hplus hdigit =>
        notMem_of_networkLength? hn hplus hdigit⟩
    · cases h

/-- A text that is read is an address, alone or with the length of a network behind a slash. -/
theorem read?_spec {s : String} {ip : Address} (h : read? s = some ip) :
    ∃ cs, '/' ∉ cs ∧ parse? cs = some ip ∧
      (s.toList = cs ∨ ∃ len, s.toList = cs ++ '/' :: len ∧
        ∀ c, c ≠ '.' → c ≠ '+' → digit? 10 c = none → c ∉ len) := by
  obtain ⟨hbefore, hs⟩ := cut_spec '/' s.toList
  rw [read?] at h
  cases hcut : cut '/' s.toList with
  | mk cs rest =>
    rw [hcut] at h hs hbefore
    cases rest with
    | none => exact ⟨cs, hbefore, h, .inl (hs.trans (List.append_nil cs))⟩
    | some len =>
      obtain ⟨hparse, hlen⟩ := parse?_of_ofNetwork? h
      exact ⟨cs, hbefore, hparse, .inr ⟨len, hs, hlen⟩⟩

/-- **A text with a slash is read as what stands in front of it**, and it has one slash only. -/
theorem read?_of_slash {s : String} {ip : Address} (hslash : '/' ∈ s.toList)
    (h : read? s = some ip) :
    ∃ before after, s = before ++ "/" ++ after ∧ '/' ∉ before.toList ∧ '/' ∉ after.toList ∧
      read? before = some ip := by
  obtain ⟨cs, hbefore, hparse, hs | ⟨len, hs, hlen⟩⟩ := read?_spec h
  · exact absurd (hs ▸ hslash) hbefore
  · refine ⟨.ofList cs, .ofList len, ?_, ?_, ?_, ?_⟩
    · rw [← String.toList_inj, hs]
      simp
    · rwa [String.toList_ofList]
    · rw [String.toList_ofList]
      exact hlen '/' (by decide) (by decide) (by decide)
    · rw [read?, String.toList_ofList, cut_of_notMem hbefore]
      exact hparse

/-! ### What shows the version -/

theorem colon_mem_iff_of_parse? {cs : List Char} {ip : Address} (h : parse? cs = some ip) :
    ':' ∈ cs ↔ ip.version = .v6 := by
  rw [parse?, Option.or_eq_some_iff] at h
  rcases h with h | ⟨-, h⟩
  · obtain ⟨v4, hv4, rfl⟩ := Option.map_eq_some_iff.1 h
    exact iff_of_false (IPv4.colon_notMem_of_parse? hv4) Version.noConfusion
  · obtain ⟨v6, hv6, rfl⟩ := Option.map_eq_some_iff.1 h
    exact iff_of_true (IPv6.colon_mem_of_parse? hv6) rfl

/-- **The text of an address shows its version**: only one of version six has a colon. -/
theorem colon_mem_iff_of_read? {s : String} {ip : Address} (h : read? s = some ip) :
    ':' ∈ s.toList ↔ ip.version = .v6 := by
  obtain ⟨cs, -, hparse, hs | ⟨len, hs, hlen⟩⟩ := read?_spec h
  · rw [hs]
    exact colon_mem_iff_of_parse? hparse
  · have hnot : ':' ∉ len := hlen ':' (by decide) (by decide) (by decide)
    rw [hs, List.mem_append, List.mem_cons]
    simpa [hnot] using colon_mem_iff_of_parse? hparse

/-! ### One text for each address -/

theorem print_injective : Function.Injective print := by
  intro ip ip' h
  have hread : read? ip'.print = some ip := read?_of_spells (.inl h.symm)
  exact Option.some.inj (hread.symm.trans (read?_of_spells (.inl rfl)))

end Address

end CloudRoster
