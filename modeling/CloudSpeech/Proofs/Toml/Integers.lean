import CloudSpeech.Proofs.Decimal.Numerals
import CloudSpeech.Toml.Number

/-!
# Whole numbers in TOML

The texts of a number that is not negative: its decimal digits, perhaps behind a plus sign, or its
digits in base sixteen, eight or two behind a prefix, with single underscores between digits. Each
of them is read as the number where the line ends behind it.
-/

namespace CloudSpeech.Toml

/-! ## Runs of digits -/

/-- The texts of a run of digits, with an underscore or nothing between two of them. -/
inductive DigitsText : List Char → List Char → Prop where
  | single (c : Char) : DigitsText [c] [c]
  | cons (c : Char) {digits text : List Char} (h : DigitsText digits text) :
      DigitsText (c :: digits) (c :: text)
  | underscore (c : Char) {digits text : List Char} (h : DigitsText digits text) :
      DigitsText (c :: digits) (c :: '_' :: text)

namespace DigitsText

variable {digits text : List Char}

/-- A run without underscores is its own text. -/
theorem plain (h : digits ≠ []) : DigitsText digits digits := by
  induction digits with
  | nil => exact absurd rfl h
  | cons c rest ih =>
      cases rest with
      | nil => exact .single c
      | cons d more => exact .cons c (ih nofun)

theorem mem (h : DigitsText digits text) {c : Char} (hc : c ∈ text) : c ∈ digits ∨ c = '_' := by
  induction h with
  | single d => exact .inl hc
  | cons d _ ih =>
      rcases List.mem_cons.mp hc with rfl | hmem
      · exact .inl List.mem_cons_self
      · exact (ih hmem).imp_left (List.mem_cons_of_mem d)
  | underscore d _ ih =>
      rcases List.mem_cons.mp hc with rfl | hmem
      · exact .inl List.mem_cons_self
      rcases List.mem_cons.mp hmem with rfl | hmem
      · exact .inr rfl
      · exact (ih hmem).imp_left (List.mem_cons_of_mem d)

/-- The first digit begins the text; the others are read behind it. -/
theorem exists_head (h : DigitsText digits text) {isDigit : Char → Bool}
    (hdigits : ∀ c ∈ digits, isDigit c = true) (hline : isDigit '_' = false)
    (hbreak : isDigit '\n' = false) (rest : List Char) :
    ∃ c more tail, digits = c :: more ∧ text = c :: tail ∧
      readDigitsAfter isDigit (tail ++ '\n' :: rest) = some (more, '\n' :: rest) := by
  induction h with
  | single c => exact ⟨c, [], [], rfl, rfl, by simp [readDigitsAfter, hbreak]⟩
  | cons c _ ih =>
      obtain ⟨d, more, tail, rfl, rfl, hread⟩ := ih fun d hd => hdigits d (.tail c hd)
      have hd : isDigit d = true := hdigits d (by simp)
      have hne : d ≠ '_' := fun h => by rw [h, hline] at hd; cases hd
      refine ⟨c, d :: more, d :: tail, rfl, rfl, ?_⟩
      simp [readDigitsAfter, hne, hd, hread, readDigitsAfter.prependDigit]
  | underscore c _ ih =>
      obtain ⟨d, more, tail, rfl, rfl, hread⟩ := ih fun d hd => hdigits d (.tail c hd)
      have hd : isDigit d = true := hdigits d (by simp)
      refine ⟨c, d :: more, '_' :: d :: tail, rfl, rfl, ?_⟩
      simp [readDigitsAfter, hd, hread, readDigitsAfter.prependDigit]

theorem readDigits_eq (h : DigitsText digits text) (isDigit : Char → Bool)
    (hdigits : ∀ c ∈ digits, isDigit c = true) (hline : isDigit '_' = false)
    (hbreak : isDigit '\n' = false) (rest : List Char) :
    readDigits isDigit (text ++ '\n' :: rest) = some (digits, '\n' :: rest) := by
  obtain ⟨c, more, tail, rfl, rfl, hread⟩ := h.exists_head hdigits hline hbreak rest
  simp [readDigits, hdigits c List.mem_cons_self, hread, readDigitsAfter.prependDigit]

end DigitsText

/-! ## Numbers -/

/-- The letters of the prefixes, each with the base that it stands for. -/
def prefixes : List (Char × Nat) := [('x', 16), ('o', 8), ('b', 2)]

/-- The texts of a number. No zero stands in front of other decimal digits; behind a prefix there
may be zeros, and a digit that is a letter may be small or capital. -/
inductive IntegerText (n : Nat) : List Char → Prop where
  | decimal {text : List Char} (h : DigitsText (Nat.toDigits 10 n) text) : IntegerText n text
  | plus {text : List Char} (h : DigitsText (Nat.toDigits 10 n) text) : IntegerText n ('+' :: text)
  | based {letter : Char} {base zeros : Nat} {digits text : List Char}
      (hmarked : (letter, base) ∈ prefixes)
      (hdigits : List.Forall₂ (fun c d => c = d ∨ c = d.toUpper) digits
        (List.replicate zeros '0' ++ Nat.toDigits base n))
      (h : DigitsText digits text) : IntegerText n ('0' :: letter :: text)

theorem integerText_toString (n : Nat) : IntegerText n (toString n).toList := by
  rw [Decimal.toList_toString_nat]
  exact .decimal (.plain Nat.toDigits_ne_nil)

theorem isDigit_of_mem_toDigits {n : Nat} : ∀ c ∈ Nat.toDigits 10 n, c.isDigit = true :=
  (Decimal.digits_toDigits n).isDigit

/-- Where the text of a decimal number begins with a zero, the number is zero. -/
theorem DigitsText.eq_zero {n : Nat} {tail : List Char}
    (h : DigitsText (Nat.toDigits 10 n) ('0' :: tail)) : n = 0 ∧ tail = [] := by
  have hhead : (Nat.toDigits 10 n).head? = some '0' := by
    generalize Nat.toDigits 10 n = digits at h
    cases h <;> rfl
  have hn := Decimal.eq_zero_of_head?_toDigits hhead
  subst hn
  cases h with
  | single => exact ⟨rfl, rfl⟩
  | cons _ h => cases h
  | underscore _ h => cases h

theorem readWhole_eq {n : Nat} {text : List Char} (h : DigitsText (Nat.toDigits 10 n) text)
    (rest : List Char) :
    readWhole (text ++ '\n' :: rest) = some (Nat.toDigits 10 n, '\n' :: rest) := by
  have hread := h.readDigits_eq Char.isDigit isDigit_of_mem_toDigits rfl rfl rest
  obtain ⟨c, more, tail, -, rfl, -⟩ := h.exists_head isDigit_of_mem_toDigits rfl rfl rest
  by_cases hzero : c = '0'
  · subst hzero
    obtain ⟨rfl, rfl⟩ := h.eq_zero
    rfl
  · rw [List.cons_append] at hread ⊢
    simp [readWhole, hzero, hread]

theorem fitting?_of_lt {n : Nat} (h : n < Decimal.signedBound) :
    fitting? n = some (.integer n) := by
  rw [fitting?, if_pos]
  exact ⟨(neg_nonpos.mpr (Int.natCast_nonneg _)).trans (Int.natCast_nonneg _), Int.ofNat_lt.mpr h⟩

theorem readDecimal_eq {n : Nat} {text : List Char} (h : DigitsText (Nat.toDigits 10 n) text)
    (hn : n < Decimal.signedBound) (rest : List Char) :
    readDecimal false (text ++ '\n' :: rest) = some (.integer n, '\n' :: rest) := by
  have hwhole := readWhole_eq h rest
  have hfraction : readFractionDigits ('\n' :: rest) = some (none, '\n' :: rest) := rfl
  have hexponent : readExponent ('\n' :: rest) = some (none, '\n' :: rest) := rfl
  have hvalue : Decimal.digitsValue (Nat.toDigits 10 n) = n := Nat.ofDigitChars_ten_toDigits
  have hfits := fitting?_of_lt hn
  refine Option.bind_eq_some_iff.mpr ⟨_, hwhole, ?_⟩
  refine Option.bind_eq_some_iff.mpr ⟨_, hfraction, ?_⟩
  refine Option.bind_eq_some_iff.mpr ⟨_, hexponent, ?_⟩
  refine Option.bind_eq_some_iff.mpr ⟨_, ?_, rfl⟩
  rw [← hvalue] at hfits
  exact hfits.trans (by rw [hvalue])

theorem ne_of_isDigit {c d : Char} (hc : c.isDigit = true) (hd : d.isDigit = false) : c ≠ d :=
  fun h => by rw [h, hd] at hc; cases hc

theorem readNumber_decimal {n : Nat} {text : List Char} (h : DigitsText (Nat.toDigits 10 n) text)
    (hn : n < Decimal.signedBound) (rest : List Char) :
    readNumber (text ++ '\n' :: rest) = some (.integer n, '\n' :: rest) ∧
      readNumber ('+' :: (text ++ '\n' :: rest)) = some (.integer n, '\n' :: rest) := by
  have hdecimal := readDecimal_eq h hn rest
  obtain ⟨c, more, tail, hdigits, rfl, -⟩ := h.exists_head isDigit_of_mem_toDigits rfl rfl rest
  have hc : c.isDigit = true := isDigit_of_mem_toDigits c (hdigits ▸ List.mem_cons_self)
  -- A zero in front of the letter of a prefix would be the whole number.
  have hmark : ∀ letter, letter ≠ '\n' → ∀ after,
      c :: (tail ++ '\n' :: rest) = '0' :: letter :: after → False := by
    intro letter hne after heq
    obtain ⟨rfl, htail⟩ := List.cons.inj heq
    obtain ⟨-, rfl⟩ := h.eq_zero
    exact hne (List.cons.inj htail).1.symm
  have hminus : c ≠ '-' := ne_of_isDigit hc rfl
  have hplus : c ≠ '+' := ne_of_isDigit hc rfl
  have hinf : c ≠ 'i' := ne_of_isDigit hc rfl
  have hnan : c ≠ 'n' := ne_of_isDigit hc rfl
  rw [List.cons_append] at hdecimal ⊢
  constructor
  · rw [readNumber.eq_4 _ (hmark 'x' (by decide)) (hmark 'o' (by decide))
      (hmark 'b' (by decide))]
    simp [readSign, readSpecial, hminus, hplus, hinf, hnan, hdecimal]
  · simp [readNumber, readSign, readSpecial, hinf, hnan, hdecimal]

/-! ## Other bases -/

/-- A digit below a base, small or capital, has its value. -/
theorem digit?_eq {base v : Nat} (hbase : base ≤ 16) (hv : v < base) {c : Char}
    (hc : c = Nat.digitChar v ∨ c = (Nat.digitChar v).toUpper) :
    readBased.digit? base c = some v := by
  have hall : ∀ v < 16, Text.hexValue? (Nat.digitChar v) = some v ∧
      Text.hexValue? (Nat.digitChar v).toUpper = some v := by decide
  obtain ⟨hsmall, hcapital⟩ := hall v (Nat.lt_of_lt_of_le hv hbase)
  rcases hc with rfl | rfl <;> simp [readBased.digit?, hsmall, hcapital, hv]

/-- The number that digits of a base denote behind a number already read. -/
def basedValue (base value : Nat) (digits : List Char) : Nat :=
  digits.foldl (fun n c => base * n + (readBased.digit? base c).getD 0) value

theorem exists_digitChar_of_mem {base n : Nat} (hbase : 1 < base) :
    ∀ c ∈ Nat.toDigits base n, ∃ v < base, c = Nat.digitChar v := by
  induction n using Nat.strongRecOn with
  | ind n ih =>
      rw [Nat.toDigits_eq_if hbase]
      split
      · next hlt =>
          intro c hc
          exact ⟨n, hlt, List.mem_singleton.mp hc⟩
      · next hlarge =>
          have hdiv : n / base < n := Nat.div_lt_self (by omega) hbase
          have hmod : n % base < base := Nat.mod_lt n (by omega)
          exact List.forall_mem_append.mpr
            ⟨ih (n / base) hdiv, List.forall_mem_singleton.mpr ⟨n % base, hmod, rfl⟩⟩

theorem basedValue_toDigits {base n : Nat} (hbase : 1 < base ∧ base ≤ 16) :
    basedValue base 0 (Nat.toDigits base n) = n := by
  induction n using Nat.strongRecOn with
  | ind n ih =>
      rw [Nat.toDigits_eq_if hbase.1]
      split
      · next hlt => simp [basedValue, digit?_eq hbase.2 hlt (.inl rfl)]
      · next hlarge =>
          have hdiv : n / base < n := Nat.div_lt_self (by omega) hbase.1
          have hmod : n % base < base := Nat.mod_lt n (by omega)
          have hfront := ih (n / base) hdiv
          rw [basedValue] at hfront ⊢
          rw [List.foldl_append, hfront, List.foldl_cons, List.foldl_nil,
            digit?_eq hbase.2 hmod (.inl rfl), Option.getD_some, Nat.div_add_mod]

theorem basedValue_zeros {base : Nat} (hbase : 1 < base ∧ base ≤ 16) (zeros : Nat)
    (digits : List Char) :
    basedValue base 0 (List.replicate zeros '0' ++ digits) = basedValue base 0 digits := by
  induction zeros with
  | zero => rfl
  | succ zeros ih =>
      have hzero : readBased.digit? base '0' = some 0 := digit?_eq hbase.2 (by omega) (.inl rfl)
      rw [List.replicate_succ, List.cons_append, basedValue, List.foldl_cons, hzero]
      exact ih

/-- Capitals make no difference to digits of a base. -/
theorem basedValue_of_capitals {base : Nat} (value : Nat) (hbase : base ≤ 16)
    {digits small : List Char}
    (h : List.Forall₂ (fun c d => c = d ∨ c = d.toUpper) digits small)
    (hsmall : ∀ d ∈ small, ∃ v < base, d = Nat.digitChar v) :
    (∀ c ∈ digits, (readBased.digit? base c).isSome = true) ∧
      basedValue base value digits = basedValue base value small := by
  induction h generalizing value with
  | nil => exact ⟨nofun, rfl⟩
  | @cons c d digits small hfirst _ ih =>
      obtain ⟨⟨v, hv, rfl⟩, hrest⟩ := List.forall_mem_cons.mp hsmall
      have hc : readBased.digit? base c = some v := digit?_eq hbase hv hfirst
      have hd : readBased.digit? base (Nat.digitChar v) = some v := digit?_eq hbase hv (.inl rfl)
      obtain ⟨hall, hvalue⟩ := ih (base * value + v) hrest
      refine ⟨List.forall_mem_cons.mpr ⟨by rw [hc]; rfl, hall⟩, ?_⟩
      simp only [basedValue, List.foldl_cons, hc, hd, Option.getD_some]
      exact hvalue

/-- Digits of a base behind zeros, small or capital, denote their number. -/
theorem basedValue_eq {base zeros n : Nat} (hbase : 1 < base ∧ base ≤ 16) {digits : List Char}
    (hdigits : List.Forall₂ (fun c d => c = d ∨ c = d.toUpper) digits
      (List.replicate zeros '0' ++ Nat.toDigits base n)) :
    (∀ c ∈ digits, (readBased.digit? base c).isSome = true) ∧ basedValue base 0 digits = n := by
  have hsmall : ∀ d ∈ List.replicate zeros '0' ++ Nat.toDigits base n,
      ∃ v < base, d = Nat.digitChar v := by
    refine List.forall_mem_append.mpr ⟨fun d hd => ?_, exists_digitChar_of_mem hbase.1⟩
    exact ⟨0, by omega, List.eq_of_mem_replicate hd⟩
  obtain ⟨hall, hvalue⟩ := basedValue_of_capitals 0 hbase.2 hdigits hsmall
  rw [basedValue_zeros hbase, basedValue_toDigits hbase] at hvalue
  exact ⟨hall, hvalue⟩

theorem readBased_eq {base n : Nat} {digits text : List Char}
    (hdigits : ∀ c ∈ digits, (readBased.digit? base c).isSome = true)
    (hvalue : basedValue base 0 digits = n) (h : DigitsText digits text)
    (hn : n < Decimal.signedBound) (rest : List Char) :
    readBased base (text ++ '\n' :: rest) = some (.integer n, '\n' :: rest) := by
  have hread := h.readDigits_eq (fun c => (readBased.digit? base c).isSome) hdigits
    (by simp [readBased.digit?, Text.hexValue?]) (by simp [readBased.digit?, Text.hexValue?]) rest
  refine Option.bind_eq_some_iff.mpr ⟨_, hread, ?_⟩
  refine Option.bind_eq_some_iff.mpr ⟨.integer n, ?_, rfl⟩
  rw [← fitting?_of_lt hn]
  exact congrArg (fun value : Nat => fitting? value) hvalue

theorem of_mem_prefixes {letter : Char} {base : Nat} (h : (letter, base) ∈ prefixes) :
    (1 < base ∧ base ≤ 16) ∧ letter ≠ '-' ∧ letter ≠ ':' := by
  simp only [prefixes, List.mem_cons, Prod.mk.injEq, List.not_mem_nil, or_false] at h
  rcases h with ⟨rfl, rfl⟩ | ⟨rfl, rfl⟩ | ⟨rfl, rfl⟩ <;> decide

/-- Every text of a number is read as the number. -/
theorem IntegerText.readNumber_eq {n : Nat} {text : List Char} (h : IntegerText n text)
    (hn : n < Decimal.signedBound) (rest : List Char) :
    readNumber (text ++ '\n' :: rest) = some (.integer n, '\n' :: rest) := by
  cases h with
  | decimal h => exact (readNumber_decimal h hn rest).1
  | plus h => exact (readNumber_decimal h hn rest).2
  | based hmarked hdigits h =>
      obtain ⟨hall, hvalue⟩ := basedValue_eq (of_mem_prefixes hmarked).1 hdigits
      have hread := readBased_eq hall hvalue h hn rest
      simp only [prefixes, List.mem_cons, Prod.mk.injEq, List.not_mem_nil, or_false] at hmarked
      rcases hmarked with ⟨rfl, rfl⟩ | ⟨rfl, rfl⟩ | ⟨rfl, rfl⟩ <;> exact hread

/-- The text of a number begins with a digit or a plus sign, and it has no mark of a date or a
time. -/
theorem IntegerText.chars {n : Nat} {text : List Char} (h : IntegerText n text) :
    (∃ c tail, text = c :: tail ∧ (c.isDigit = true ∨ c = '+')) ∧
      ∀ c ∈ text, c ≠ '-' ∧ c ≠ ':' := by
  have hdecimal : ∀ {text}, DigitsText (Nat.toDigits 10 n) text →
      (∃ c tail, text = c :: tail ∧ c.isDigit = true) ∧ ∀ c ∈ text, c ≠ '-' ∧ c ≠ ':' := by
    intro text h
    constructor
    · obtain ⟨c, more, tail, hdigits, rfl, -⟩ := h.exists_head isDigit_of_mem_toDigits rfl rfl []
      exact ⟨c, tail, rfl, isDigit_of_mem_toDigits c (hdigits ▸ List.mem_cons_self)⟩
    · intro c hc
      rcases h.mem hc with hdigit | rfl
      · have hdigit := isDigit_of_mem_toDigits c hdigit
        exact ⟨ne_of_isDigit hdigit rfl, ne_of_isDigit hdigit rfl⟩
      · decide
  cases h with
  | decimal h =>
      obtain ⟨⟨c, tail, htext, hc⟩, hmarks⟩ := hdecimal h
      exact ⟨⟨c, tail, htext, .inl hc⟩, hmarks⟩
  | plus h =>
      exact ⟨⟨'+', _, rfl, .inr rfl⟩,
        List.forall_mem_cons.mpr ⟨by decide, (hdecimal h).2⟩⟩
  | @based letter base zeros digits text hmarked hdigits h =>
      obtain ⟨hbase, hletter⟩ := of_mem_prefixes hmarked
      obtain ⟨hall, -⟩ := basedValue_eq hbase hdigits
      refine ⟨⟨'0', _, rfl, .inl rfl⟩, List.forall_mem_cons.mpr ⟨by decide,
        List.forall_mem_cons.mpr ⟨hletter, fun c hc => ?_⟩⟩⟩
      rcases h.mem hc with hdigit | rfl
      · have hsome := hall c hdigit
        constructor <;> rintro rfl <;> simp [readBased.digit?, Text.hexValue?] at hsome
      · decide

end CloudSpeech.Toml
