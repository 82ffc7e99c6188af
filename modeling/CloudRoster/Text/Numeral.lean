/-
  Numerals: natural numbers as digits in a base up to sixteen.

  Writing is core's `Nat.toDigits` (no leading zeros, lower-case letters); `natural? base` reads any
  run of digits, leading zeros and letters of either case included.  Reading undoes writing
  (`natural?_toDigits`), and a numeral that reads is made of digits only (`digits_of_natural?`).
  In decimal, without leading zeros, writing undoes reading too (`eq_decimal_of_natural?`).
-/

namespace CloudRoster.Text

/-- The value of a character as a digit, letters counting from ten. -/
def digitValue? (c : Char) : Option Nat :=
  if '0' ≤ c ∧ c ≤ '9' then some (c.toNat - '0'.toNat)
  else if 'a' ≤ c ∧ c ≤ 'f' then some (c.toNat - 'a'.toNat + 10)
  else if 'A' ≤ c ∧ c ≤ 'F' then some (c.toNat - 'A'.toNat + 10)
  else none

/-- The value of a character as a digit of a base. -/
def digit? (base : Nat) (c : Char) : Option Nat :=
  (digitValue? c).filter (· < base)

/-- The number that the digits `cs` make after those of `n`. -/
def readDigits? (base : Nat) (n : Nat) : List Char → Option Nat
  | [] => some n
  | c :: cs => (digit? base c).bind fun d => readDigits? base (n * base + d) cs

/-- The number that a numeral stands for: at least one digit, and nothing but digits. -/
def natural? (base : Nat) (cs : List Char) : Option Nat :=
  if cs.isEmpty then none else readDigits? base 0 cs

/-- The characters of `n` in decimal. -/
def decimal (n : Nat) : List Char := Nat.toDigits 10 n

/-- The characters of `n` in lower-case hexadecimal. -/
def hexadecimal (n : Nat) : List Char := Nat.toDigits 16 n

/-! ## Reading undoes writing -/

theorem readDigits?_append (base n : Nat) (cs ds : List Char) :
    readDigits? base n (cs ++ ds) = (readDigits? base n cs).bind (readDigits? base · ds) := by
  induction cs generalizing n with
  | nil => rfl
  | cons c cs ih =>
    simp only [List.cons_append, readDigits?]
    cases digit? base c <;> simp [ih]

theorem digit?_digitChar {base d : Nat} (hb : base ≤ 16) (hd : d < base) :
    digit? base d.digitChar = some d := by
  have all : ∀ d < 16, digitValue? d.digitChar = some d := by decide
  simp [digit?, all d (by omega), Option.filter, hd]

theorem readDigits?_toDigits {base : Nat} (h1 : 1 < base) (h16 : base ≤ 16) (n : Nat) :
    readDigits? base 0 (Nat.toDigits base n) = some n := by
  induction n using Nat.strongRecOn with
  | _ n ih =>
    by_cases h : n < base
    · simp [Nat.toDigits_of_lt_base h, readDigits?, digit?_digitChar h16 h]
    -- the last digit is the remainder, and those before it are the quotient's
    · have hlt : n / base < n := Nat.div_lt_self (by omega) h1
      have hmod : n % base < base := Nat.mod_lt _ (by omega)
      rw [Nat.toDigits_of_base_le h1 (by omega), readDigits?_append, ih _ hlt]
      simp only [Option.bind_some, readDigits?, digit?_digitChar h16 hmod]
      rw [Nat.mul_comm, Nat.div_add_mod]

theorem natural?_toDigits {base : Nat} (h1 : 1 < base) (h16 : base ≤ 16) (n : Nat) :
    natural? base (Nat.toDigits base n) = some n := by
  rw [natural?, if_neg (by simp), readDigits?_toDigits h1 h16]

theorem natural?_decimal (n : Nat) : natural? 10 (decimal n) = some n :=
  natural?_toDigits (by omega) (by omega) n

theorem natural?_hexadecimal (n : Nat) : natural? 16 (hexadecimal n) = some n :=
  natural?_toDigits (by omega) (by omega) n

/-! ## What a numeral is made of -/

theorem digits_of_readDigits? {base n m : Nat} {cs : List Char}
    (h : readDigits? base n cs = some m) : ∀ c ∈ cs, (digit? base c).isSome := by
  induction cs generalizing n with
  | nil => simp
  | cons c cs ih =>
    rw [readDigits?, Option.bind_eq_some_iff] at h
    obtain ⟨d, hd, h⟩ := h
    intro x hx
    rcases List.mem_cons.1 hx with rfl | hx
    · simp [hd]
    · exact ih h x hx

theorem digits_of_natural? {base m : Nat} {cs : List Char} (h : natural? base cs = some m) :
    cs ≠ [] ∧ ∀ c ∈ cs, (digit? base c).isSome := by
  rw [natural?] at h
  split at h
  · cases h
  · next he => exact ⟨by simpa using he, digits_of_readDigits? h⟩

/-- No numeral holds a character that is no digit. -/
theorem notMem_of_natural? {base n : Nat} {cs : List Char} (h : natural? base cs = some n)
    {c : Char} (hc : digit? base c = none) : c ∉ cs := by
  intro hmem
  have := (digits_of_natural? h).2 c hmem
  rw [hc] at this
  cases this

theorem digit?_sixteen_of_ten {c : Char} (h : (digit? 10 c).isSome = true) :
    (digit? 16 c).isSome = true := by
  obtain ⟨d, hd⟩ := Option.isSome_iff_exists.1 h
  obtain ⟨hvalue, hlt⟩ := Option.filter_eq_some_iff.1 hd
  have hlt : d < 16 := by
    have := of_decide_eq_true hlt
    omega
  rw [digit?, hvalue, Option.filter, if_pos (decide_eq_true hlt)]
  rfl

/-- Only zero begins with the digit zero. -/
theorem head?_decimal {n : Nat} (h : 0 < n) : (decimal n).head? ≠ some '0' := by
  rw [decimal]
  induction n using Nat.strongRecOn with
  | _ n ih =>
    by_cases hlt : n < 10
    · have digits : ∀ n < 10, 0 < n → n.digitChar ≠ '0' := by decide
      rw [Nat.toDigits_of_lt_base hlt, List.head?_cons]
      intro he
      exact digits n hlt h (Option.some.inj he)
    -- the last digit stands behind those of the quotient
    · have hfront := ih (n / 10) (by omega) (by omega)
      obtain ⟨c, cs, hcs⟩ :=
        List.exists_cons_of_ne_nil (Nat.toDigits_ne_nil (n := n / 10) (b := 10))
      rw [hcs] at hfront
      rw [Nat.toDigits_of_base_le (by omega) (by omega), hcs]
      exact hfront

/-- Digits are ASCII. -/
theorem lt_of_digit? {base : Nat} {c : Char} (h : (digit? base c).isSome = true) :
    c.toNat < 0x80 := by
  obtain ⟨d, hd⟩ := Option.isSome_iff_exists.1 h
  have hvalue := (Option.filter_eq_some_iff.1 hd).1
  rw [digitValue?] at hvalue
  split at hvalue
  · next hr => exact Nat.lt_of_le_of_lt (Char.le_def.1 hr.2) (by decide)
  · split at hvalue
    · next hr => exact Nat.lt_of_le_of_lt (Char.le_def.1 hr.2) (by decide)
    · split at hvalue
      · next hr => exact Nat.lt_of_le_of_lt (Char.le_def.1 hr.2) (by decide)
      · cases hvalue

/-! ## One numeral for each number -/

theorem digitChar_of_digit? {c : Char} {d : Nat} (h : digit? 10 c = some d) :
    d < 10 ∧ d.digitChar = c := by
  obtain ⟨hvalue, hlt⟩ := Option.filter_eq_some_iff.1 h
  have hlt : d < 10 := of_decide_eq_true hlt
  refine ⟨hlt, ?_⟩
  have hzero : '0'.toNat = 48 := rfl
  have hchar : ∀ d < 10, d.digitChar = Char.ofNat (48 + d) := by decide
  rw [digitValue?] at hvalue
  split at hvalue
  · next hr =>
    have hle : 48 ≤ c.toNat := Char.le_def.1 hr.1
    have hc : 48 + d = c.toNat := by
      have := Option.some.inj hvalue
      omega
    rw [hchar d hlt, hc, Char.ofNat_toNat]
  -- the letters count from ten
  · split at hvalue
    · have := Option.some.inj hvalue
      omega
    · split at hvalue
      · have := Option.some.inj hvalue
        omega
      · cases hvalue

theorem decimal_mul_ten_add {n d : Nat} (hn : 0 < n) (hd : d < 10) :
    decimal (n * 10 + d) = decimal n ++ [d.digitChar] := by
  rw [decimal, Nat.toDigits_of_base_le (by omega) (by omega)]
  have hquot : (n * 10 + d) / 10 = n := by omega
  have hrem : (n * 10 + d) % 10 = d := by omega
  rw [hquot, hrem, decimal]

/-- Digits that follow a number without leading zeros are those of what they make with it. -/
theorem decimal_of_readDigits? {n m : Nat} {cs : List Char} (hn : 0 < n)
    (h : readDigits? 10 n cs = some m) : decimal m = decimal n ++ cs := by
  induction cs generalizing n with
  | nil => cases h; rw [List.append_nil]
  | cons c cs ih =>
    rw [readDigits?, Option.bind_eq_some_iff] at h
    obtain ⟨d, hd, h⟩ := h
    obtain ⟨hlt, hc⟩ := digitChar_of_digit? hd
    rw [ih (by omega) h, decimal_mul_ten_add hn hlt, hc, List.append_assoc, List.singleton_append]

/-- A numeral without leading zeros is the one that is written. -/
theorem eq_decimal_of_natural? {n : Nat} {cs : List Char} (h : natural? 10 cs = some n)
    (hzero : cs.head? = some '0' → cs = ['0']) : cs = decimal n := by
  cases cs with
  | nil => cases h
  | cons c cs =>
    have hread : (digit? 10 c).bind (fun d => readDigits? 10 (0 * 10 + d) cs) = some n := h
    obtain ⟨d, hd, hrest⟩ := Option.bind_eq_some_iff.1 hread
    obtain ⟨hlt, rfl⟩ := digitChar_of_digit? hd
    rw [Nat.zero_mul, Nat.zero_add] at hrest
    rcases Nat.eq_zero_or_pos d with rfl | hpos
    · obtain ⟨-, rfl⟩ := List.cons.inj (hzero rfl)
      cases hrest
      rfl
    · rw [decimal_of_readDigits? hpos hrest, decimal, Nat.toDigits_of_lt_base hlt]
      rfl

end CloudRoster.Text
