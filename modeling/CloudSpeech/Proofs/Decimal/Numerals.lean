import CloudSpeech.Decimal.Real
import CloudSpeech.Decimal.Whole
import CloudSpeech.Proofs.Success
import Mathlib

/-!
# Numerals

A text is read as a whole number exactly if it is a run of digits, perhaps behind a sign, that
denotes a number within the bounds. So every number is read back from the numeral that it is
written with. A text that is refused is empty, begins with digits that denote too large a number,
or holds something else. What is read as a number of any kind consists of a few characters only.
-/

namespace CloudSpeech.Decimal

/-! ## Whole numbers -/

theorem toNat_of_isDigit {c : Char} (h : c.isDigit = true) : 48 ≤ c.toNat ∧ c.toNat ≤ 57 := by
  simp only [Char.isDigit, Bool.and_eq_true, decide_eq_true_eq, ge_iff_le,
    UInt32.le_iff_toNat_le] at h
  exact h

theorem digitValue?_of_isDigit {c : Char} (h : c.isDigit = true) :
    digitValue? c = some (c.toNat - '0'.toNat) := if_pos h

theorem digitValue?_of_not_isDigit {c : Char} (h : ¬ c.isDigit = true) : digitValue? c = none :=
  if_neg h

theorem le_ofDigitChars (digits : List Char) (value : Nat) :
    value ≤ Nat.ofDigitChars 10 digits value := by
  induction digits generalizing value with
  | nil => exact Nat.le_refl value
  | cons c rest ih =>
      rw [Nat.ofDigitChars_cons]
      have hrest := ih (10 * value + (c.toNat - '0'.toNat))
      omega

/-- The digits in front decide: where they are too large nothing that follows counts, and where they
are not nothing else may follow. -/
theorem readDigits_eq_ite {bound value : Nat} (hvalue : value < bound) (chars : List Char) :
    readDigits bound value chars =
      if bound ≤ Nat.ofDigitChars 10 (chars.takeWhile Char.isDigit) value then .error .tooLarge
      else if chars.all Char.isDigit then .ok (Nat.ofDigitChars 10 chars value)
      else .error .invalidDigit := by
  induction chars generalizing value with
  | nil =>
      rw [List.takeWhile_nil, Nat.ofDigitChars_nil, if_neg (Nat.not_le.mpr hvalue)]
      rfl
  | cons c rest ih =>
      by_cases hdigit : c.isDigit = true
      · rw [readDigits, digitValue?_of_isDigit hdigit, List.takeWhile_cons_of_pos hdigit]
        simp only [Nat.ofDigitChars_cons, List.all_cons, hdigit, Bool.true_and]
        by_cases hnext : 10 * value + (c.toNat - '0'.toNat) < bound
        · rw [if_pos hnext, ih hnext]
        · -- No part of the number is larger than the whole.
          have hlarge := le_ofDigitChars (rest.takeWhile Char.isDigit)
            (10 * value + (c.toNat - '0'.toNat))
          rw [if_neg hnext, if_pos ((Nat.not_lt.mp hnext).trans hlarge)]
      · rw [readDigits, digitValue?_of_not_isDigit hdigit, List.takeWhile_cons_of_neg hdigit,
          Nat.ofDigitChars_nil, if_neg (Nat.not_le.mpr hvalue)]
        simp [hdigit]

theorem readDigits_eq_ok_iff {bound value n : Nat} {chars : List Char} (hvalue : value < bound) :
    readDigits bound value chars = .ok n ↔
      (∀ c ∈ chars, c.isDigit = true) ∧ Nat.ofDigitChars 10 chars value = n ∧ n < bound := by
  rw [readDigits_eq_ite hvalue, ← List.all_eq_true]
  by_cases hdigits : chars.all Char.isDigit = true
  · rw [List.takeWhile_eq_self_iff.mpr (List.all_eq_true.mp hdigits), if_pos hdigits]
    split
    · next hlarge =>
      refine iff_of_false nofun ?_
      rintro ⟨-, rfl, hbound⟩
      exact absurd hbound (Nat.not_lt.mpr hlarge)
    · next hfits =>
      constructor
      · rintro ⟨rfl⟩
        exact ⟨hdigits, rfl, Nat.not_le.mp hfits⟩
      · rintro ⟨-, rfl, -⟩
        rfl
  · rw [if_neg hdigits]
    refine iff_of_false ?_ fun h => hdigits h.1
    split <;> exact nofun

theorem readNatural_eq_ok_iff {bound n : Nat} {chars : List Char} (hbound : 0 < bound) :
    readNatural bound chars = .ok n ↔
      ∃ digits, (chars = digits ∨ chars = '+' :: digits) ∧ digits ≠ [] ∧
        (∀ c ∈ digits, c.isDigit = true) ∧ Nat.ofDigitChars 10 digits 0 = n ∧ n < bound := by
  have hplus : ∀ rest, ¬ ∀ c ∈ '+' :: rest, c.isDigit = true :=
    fun rest h => absurd (h '+' List.mem_cons_self) (by decide)
  fun_cases readNatural bound chars with
  | case1 => exact iff_of_false nofun (by simp)
  | case2 =>
      refine iff_of_false nofun ?_
      rintro ⟨digits, rfl | hchars, hne, hdigits, -⟩
      · exact hplus [] hdigits
      · exact hne (List.cons.inj hchars).2.symm
  | case3 digits hne =>
      rw [readDigits_eq_ok_iff hbound]
      constructor
      · intro h
        exact ⟨digits, .inr rfl, fun hnil => hne hnil, h⟩
      · rintro ⟨other, rfl | hchars, -, h⟩
        · exact absurd h.1 (hplus digits)
        · rwa [(List.cons.inj hchars).2]
  | case4 _ hne _ hsigned =>
      rw [readDigits_eq_ok_iff hbound]
      constructor
      · intro h
        exact ⟨chars, .inl rfl, hne, h⟩
      · rintro ⟨digits, rfl | hchars, -, h⟩
        · exact h
        · exact absurd hchars (hsigned digits)

theorem readDigits_toDigits {bound n : Nat} (h : n < bound) :
    readDigits bound 0 (Nat.toDigits 10 n) = .ok n :=
  (readDigits_eq_ok_iff (Nat.zero_lt_of_lt h)).mpr
    ⟨fun _ => Nat.isDigit_of_mem_toDigits (by decide) (by decide), Nat.ofDigitChars_ten_toDigits, h⟩

theorem readNatural_toDigits {bound n : Nat} (h : n < bound) :
    readNatural bound (Nat.toDigits 10 n) = .ok n :=
  (readNatural_eq_ok_iff (Nat.zero_lt_of_lt h)).mpr
    ⟨_, .inl rfl, Nat.toDigits_ne_nil,
      fun _ => Nat.isDigit_of_mem_toDigits (by decide) (by decide), Nat.ofDigitChars_ten_toDigits, h⟩

theorem toDigits_ne_cons_of_not_isDigit {c : Char} (hc : c.isDigit = false) (n : Nat)
    (rest : List Char) : Nat.toDigits 10 n ≠ c :: rest := by
  intro h
  have hdigit : c.isDigit = true :=
    Nat.isDigit_of_mem_toDigits (by decide) (by decide) (h ▸ List.mem_cons_self)
  exact absurd hdigit (by simp [hc])

/-- A run of at least one digit. -/
structure Digits (text : List Char) : Prop where
  ne_nil : text ≠ []
  isDigit : ∀ c ∈ text, c.isDigit = true

theorem digits_toDigits (n : Nat) : Digits (Nat.toDigits 10 n) :=
  ⟨Nat.toDigits_ne_nil, fun _ => Nat.isDigit_of_mem_toDigits (by decide) (by decide)⟩

/-- No zero stands in front of the numeral of another number. -/
theorem eq_zero_of_head?_toDigits {n : Nat} (h : (Nat.toDigits 10 n).head? = some '0') : n = 0 := by
  induction n using Nat.strongRecOn with
  | ind n ih =>
      rw [Nat.toDigits_eq_if (by decide)] at h
      split at h
      · simpa using h
      · next hlarge =>
          rw [List.head?_append_of_ne_nil _ Nat.toDigits_ne_nil] at h
          have hzero := ih (n / 10) (by omega) h
          omega

theorem toList_toString_nat (n : Nat) : (toString n).toList = Nat.toDigits 10 n := by
  rw [Nat.toString_eq_repr, Nat.repr_eq_ofList_toDigits, String.toList_ofList]

/-- A number of sixty-four bits is read back from its numeral. -/
theorem readUnsigned_toString {n : Nat} (h : n < UInt64.size) :
    readUnsigned (toString n) = .ok n := by
  rw [readUnsigned, toList_toString_nat, readNatural_toDigits h]

theorem readSigned?_of_negative {text : String} {digits : List Char}
    (htext : text.toList = '-' :: digits) (hne : digits ≠ []) :
    readSigned? text =
      (readDigits (signedBound + 1) 0 digits).toOption.map fun n : Nat => -(n : Int) := by
  fun_cases readSigned? text with
  | case1 hminus => exact absurd (List.cons.inj (htext.symm.trans hminus)).2 hne
  | case2 other _ hother =>
      rw [(List.cons.inj (htext.symm.trans hother)).2]
      cases readDigits (signedBound + 1) 0 other <;> rfl
  | case3 _ hunsigned => exact (hunsigned digits htext).elim

theorem readSigned?_of_unsigned {text : String} (htext : ∀ digits, text.toList ≠ '-' :: digits) :
    readSigned? text = (readNatural signedBound text.toList).toOption.map fun n : Nat => (n : Int) := by
  fun_cases readSigned? text with
  | case1 hminus => exact absurd hminus (htext [])
  | case2 digits _ hdigits => exact absurd hdigits (htext digits)
  | case3 => cases readNatural signedBound text.toList <;> rfl

theorem toList_toString_ofNat (m : Nat) :
    (toString (Int.ofNat m)).toList = Nat.toDigits 10 m := by
  rw [Int.toString_eq_repr, Int.repr, Nat.repr_eq_ofList_toDigits, String.toList_ofList]

theorem toList_toString_negSucc (m : Nat) :
    (toString (Int.negSucc m)).toList = '-' :: Nat.toDigits 10 (m + 1) := by
  simp [Int.toString_eq_repr, Int.repr, Nat.repr_eq_ofList_toDigits]

theorem toString_ne_empty (n : Int) : toString n ≠ "" := by
  rw [← String.toList_eq_nil_iff.ne]
  cases n with
  | ofNat m => exact toList_toString_ofNat m ▸ Nat.toDigits_ne_nil
  | negSucc m => exact toList_toString_negSucc m ▸ nofun

/-- A number of sixty-four bits with a sign is read back from its numeral. -/
theorem readSigned?_toString {n : Int} (hlow : -(signedBound : Int) ≤ n)
    (hhigh : n < signedBound) : readSigned? (toString n) = some n := by
  cases n with
  | ofNat m =>
      have hunsigned : ∀ digits, (toString (Int.ofNat m)).toList ≠ '-' :: digits := by
        rw [toList_toString_ofNat]
        exact toDigits_ne_cons_of_not_isDigit rfl m
      rw [readSigned?_of_unsigned hunsigned, toList_toString_ofNat,
        readNatural_toDigits (Int.ofNat_lt.mp hhigh)]
      rfl
  | negSucc m =>
      have hbound : m + 1 < signedBound + 1 := by omega
      rw [readSigned?_of_negative (toList_toString_negSucc m) Nat.toDigits_ne_nil,
        readDigits_toDigits hbound]
      rfl

/-- What is read as a number of sixty-four bits is a run of digits, perhaps behind a sign. -/
theorem digits_of_readSigned? {text : String} {n : Int} (h : readSigned? text = some n) :
    ∃ digits, digits ≠ [] ∧ (∀ c ∈ digits, c.isDigit = true) ∧
      (text.toList = digits ∨ text.toList = '+' :: digits ∨ text.toList = '-' :: digits) := by
  fun_cases readSigned? text with
  | case1 hminus =>
      rw [readSigned?, hminus] at h
      cases h
  | case2 digits hne htext =>
      rw [readSigned?_of_negative htext hne, Option.map_eq_some_iff] at h
      obtain ⟨value, hread, -⟩ := h
      have hdigits := ((readDigits_eq_ok_iff (by decide)).mp (toOption_eq_some_iff.mp hread)).1
      exact ⟨digits, hne, hdigits, .inr (.inr htext)⟩
  | case3 _ hunsigned =>
      rw [readSigned?_of_unsigned hunsigned, Option.map_eq_some_iff] at h
      obtain ⟨value, hread, -⟩ := h
      obtain ⟨digits, htext, hne, hdigits, -⟩ :=
        (readNatural_eq_ok_iff (by decide)).mp (toOption_eq_some_iff.mp hread)
      exact ⟨digits, hne, hdigits, htext.imp_right .inl⟩

/-! ## Refusals -/

/-- What stands behind a plus sign in front, if there is one. -/
def afterPlus : List Char → List Char
  | '+' :: rest => rest
  | chars => chars

/-- The number that the digits in front denote, behind a plus sign or not. What follows them does
not count. -/
def leadingNumber (chars : List Char) : Nat :=
  Nat.ofDigitChars 10 ((afterPlus chars).takeWhile Char.isDigit) 0

theorem readNatural_eq_ite (bound : Nat) (chars : List Char) :
    readNatural bound chars =
      if chars = [] then .error .empty
      else if afterPlus chars = [] then .error .invalidDigit
      else readDigits bound 0 (afterPlus chars) := by
  fun_cases readNatural bound chars with
  | case1 | case2 => rfl
  | case3 digits hne => rw [if_neg (List.cons_ne_nil _ _), afterPlus, if_neg fun h => hne h]
  | case4 _ hne _ hplus =>
      rw [if_neg hne, afterPlus, if_neg hne]
      exact hplus

section Refusals

variable {bound : Nat} {chars : List Char} {fault : ReadFault}

theorem leadingNumber_of_afterPlus_eq_nil (h : afterPlus chars = []) : leadingNumber chars = 0 := by
  rw [leadingNumber, h]
  rfl

theorem readNatural_eq_empty_iff (hbound : 0 < bound) :
    readNatural bound chars = .error .empty ↔ chars = [] := by
  rw [readNatural_eq_ite, readDigits_eq_ite hbound]
  split
  · next hempty => exact iff_of_true rfl hempty
  · next hne =>
    refine iff_of_false ?_ hne
    split_ifs <;> exact nofun

theorem readNatural_eq_tooLarge_iff (hbound : 0 < bound) :
    readNatural bound chars = .error .tooLarge ↔ bound ≤ leadingNumber chars := by
  have hnone : afterPlus chars = [] → ¬ bound ≤ leadingNumber chars := by
    intro h
    rw [leadingNumber_of_afterPlus_eq_nil h]
    exact Nat.not_le.mpr hbound
  rw [readNatural_eq_ite, readDigits_eq_ite hbound]
  split
  · next hempty =>
    subst hempty
    exact iff_of_false nofun (hnone rfl)
  · split
    · next hplus => exact iff_of_false nofun (hnone hplus)
    · split
      · next hlarge => exact iff_of_true rfl hlarge
      · next hfits =>
        refine iff_of_false ?_ hfits
        split <;> exact nofun

/-- Where a text is refused, it is empty, or the digits in front are too large, or neither. -/
theorem fault_of_readNatural (hbound : 0 < bound) (h : readNatural bound chars = .error fault) :
    (fault = .empty ↔ chars = []) ∧ (fault = .tooLarge ↔ bound ≤ leadingNumber chars) ∧
      (fault = .invalidDigit ↔ chars ≠ [] ∧ leadingNumber chars < bound) := by
  have hempty : fault = .empty ↔ chars = [] := by
    rw [← readNatural_eq_empty_iff hbound, h, Except.error.injEq]
  have hlarge : fault = .tooLarge ↔ bound ≤ leadingNumber chars := by
    rw [← readNatural_eq_tooLarge_iff hbound, h, Except.error.injEq]
  refine ⟨hempty, hlarge, ?_⟩
  rw [Ne, ← hempty, ← Nat.not_le, ← hlarge]
  cases fault <;> simp

end Refusals

theorem ReadFault.message_injective : Function.Injective message := by
  intro fault other h
  cases fault <;> cases other
  case empty.empty | invalidDigit.invalidDigit | tooLarge.tooLarge => rfl
  all_goals exact absurd h (by decide)

/-! ## Numerals with zeros in front -/

/-- The numerals of a number: its digits behind any number of zeros, perhaps behind a plus sign. -/
def IsNumeral (n : Nat) (text : String) : Prop :=
  ∃ zeros, text.toList = List.replicate zeros '0' ++ Nat.toDigits 10 n ∨
    text.toList = '+' :: (List.replicate zeros '0' ++ Nat.toDigits 10 n)

theorem ofDigitChars_replicate_zero (zeros : Nat) (digits : List Char) :
    Nat.ofDigitChars 10 (List.replicate zeros '0' ++ digits) 0 = Nat.ofDigitChars 10 digits 0 := by
  induction zeros with
  | zero => rfl
  | succ zeros ih => exact ih

theorem digits_zeros_append (zeros n : Nat) :
    Digits (List.replicate zeros '0' ++ Nat.toDigits 10 n) where
  ne_nil := List.append_ne_nil_of_right_ne_nil _ Nat.toDigits_ne_nil
  isDigit c hc := by
    rcases List.mem_append.mp hc with hzero | hdigit
    · rw [List.eq_of_mem_replicate hzero]
      rfl
    · exact (digits_toDigits n).isDigit c hdigit

namespace IsNumeral

variable {n : Nat} {text : String}

theorem isDigit_or_eq (h : IsNumeral n text) {c : Char} (hc : c ∈ text.toList) :
    c.isDigit = true ∨ c = '+' := by
  obtain ⟨zeros, htext | htext⟩ := h <;> rw [htext] at hc
  · exact .inl ((digits_zeros_append zeros n).isDigit c hc)
  · exact (List.mem_cons.mp hc).symm.imp_left ((digits_zeros_append zeros n).isDigit c)

theorem exists_digit (h : IsNumeral n text) : ∃ c ∈ text.toList, c.isDigit = true := by
  obtain ⟨zeros, htext⟩ := h
  obtain ⟨c, hc⟩ := List.exists_mem_of_ne_nil _ (digits_zeros_append zeros n).ne_nil
  refine ⟨c, ?_, (digits_zeros_append zeros n).isDigit c hc⟩
  rcases htext with htext | htext <;> rw [htext]
  · exact hc
  · exact List.mem_cons_of_mem _ hc

/-- Every numeral of a number is read as the number. -/
theorem readNatural_eq (h : IsNumeral n text) {bound : Nat} (hn : n < bound) :
    readNatural bound text.toList = .ok n := by
  obtain ⟨zeros, htext⟩ := h
  have hdigits := digits_zeros_append zeros n
  refine (readNatural_eq_ok_iff (Nat.zero_lt_of_lt hn)).mpr
    ⟨_, htext, hdigits.ne_nil, hdigits.isDigit, ?_, hn⟩
  rw [ofDigitChars_replicate_zero, Nat.ofDigitChars_ten_toDigits]

theorem readSigned?_eq (h : IsNumeral n text) (hn : n < signedBound) :
    readSigned? text = some (n : Int) := by
  have hunsigned : ∀ digits, text.toList ≠ '-' :: digits := by
    intro digits htext
    rcases h.isDigit_or_eq (htext ▸ List.mem_cons_self) with hdigit | hplus
    · exact absurd hdigit (by decide)
    · exact absurd hplus (by decide)
  rw [readSigned?_of_unsigned hunsigned, h.readNatural_eq hn]
  rfl

end IsNumeral

/-! ## The characters of numerals -/

/-- Whether a character may stand in a numeral, the words for infinity and for what is no number
among them. -/
def isNumeralChar (c : Char) : Bool := c.isAlphanum || c = '+' || c = '-' || c = '.'

theorem isNumeralChar_of_isDigit {c : Char} (h : c.isDigit = true) : isNumeralChar c = true := by
  simp [isNumeralChar, Char.isAlphanum, h]

theorem isNumeralChar_of_toLower {c : Char} (h : c.toLower.isAlpha = true) :
    isNumeralChar c = true := by
  by_cases hupper : c.isUpper = true
  · simp [isNumeralChar, Char.isAlphanum, Char.isAlpha, hupper]
  · rw [Char.toLower_eq_of_not_isUpper hupper] at h
    simp [isNumeralChar, Char.isAlphanum, h]

theorem isNumeralChar_of_readSigned? {text : String} {n : Int} (h : readSigned? text = some n) :
    ∀ c ∈ text.toList, isNumeralChar c = true := by
  obtain ⟨digits, -, hdigits, htext⟩ := digits_of_readSigned? h
  have hall : ∀ c ∈ digits, isNumeralChar c = true :=
    fun c hc => isNumeralChar_of_isDigit (hdigits c hc)
  rcases htext with htext | htext | htext <;> rw [htext]
  · exact hall
  · exact List.forall_mem_cons.mpr ⟨rfl, hall⟩
  · exact List.forall_mem_cons.mpr ⟨rfl, hall⟩

theorem isDigit_or_mem_spanDigits {chars : List Char} {c : Char} (h : c ∈ chars) :
    c.isDigit = true ∨ c ∈ (spanDigits chars).2 := by
  rw [← List.takeWhile_append_dropWhile (p := Char.isDigit) (l := chars), List.mem_append] at h
  exact h.imp_left List.mem_takeWhile_imp

theorem isNumeralChar_of_readExponent? {chars : List Char} {exponent : Int}
    (h : readExponent? chars = some exponent) : ∀ c ∈ chars, isNumeralChar c = true := by
  fun_cases readExponent? chars with
  | case1 => exact fun c hc => nomatch hc
  | case2 mark rest hmark negative digits hsign hdigits =>
      have hall : ∀ c ∈ digits, isNumeralChar c = true :=
        fun c hc => isNumeralChar_of_isDigit (List.all_eq_true.mp hdigits.2 c hc)
      have hrest : ∀ c ∈ rest, isNumeralChar c = true := by
        split at hsign <;> cases hsign
        · exact List.forall_mem_cons.mpr ⟨rfl, hall⟩
        · exact List.forall_mem_cons.mpr ⟨rfl, hall⟩
        · exact hall
      have hfirst : isNumeralChar mark = true := by rcases hmark with rfl | rfl <;> rfl
      exact List.forall_mem_cons.mpr ⟨hfirst, hrest⟩
  | case3 mark rest hmark negative digits hsign hdigits =>
      simp only [readExponent?, if_pos hmark, hsign, if_neg hdigits] at h
      cases h
  | case4 mark rest hmark => simp [readExponent?, hmark] at h

theorem isNumeralChar_of_spanDigits {chars digits ending : List Char}
    (h : spanDigits chars = (digits, ending)) (hending : ∀ c ∈ ending, isNumeralChar c = true) :
    ∀ c ∈ chars, isNumeralChar c = true := by
  intro c hc
  rcases isDigit_or_mem_spanDigits hc with hdigit | hmem
  · exact isNumeralChar_of_isDigit hdigit
  · rw [h] at hmem
    exact hending c hmem

theorem isNumeralChar_of_lowercase_eq {chars : List Char} {word : String}
    (hletters : ∀ c ∈ word.toList, c.isAlpha = true)
    (h : String.ofList (chars.map Char.toLower) = word) : ∀ c ∈ chars, isNumeralChar c = true := by
  intro c hc
  rw [← h, String.toList_ofList] at hletters
  exact isNumeralChar_of_toLower (hletters _ (List.mem_map_of_mem hc))

theorem isNumeralChar_of_readMagnitude? {negative : Bool} {chars : List Char} {x : Binary64}
    (h : readMagnitude? negative chars = some x) : ∀ c ∈ chars, isNumeralChar c = true := by
  rw [readMagnitude?] at h
  split at h
  · next hinfinite =>
    rcases hinfinite with hinf | hinfinity
    · exact isNumeralChar_of_lowercase_eq (by simp) hinf
    · exact isNumeralChar_of_lowercase_eq (by simp) hinfinity
  split at h
  · next hnan => exact isNumeralChar_of_lowercase_eq (by simp) hnan
  split at h
  next whole rest hwhole =>
  split at h
  next fraction ending hfraction =>
  split at h
  · cases h
  -- What is left behind the digits is read as an exponent.
  obtain ⟨exponent, hexponent, -⟩ := Option.map_eq_some_iff.mp h
  have hending := isNumeralChar_of_readExponent? hexponent
  refine isNumeralChar_of_spanDigits hwhole ?_
  split at hfraction
  · exact List.forall_mem_cons.mpr ⟨rfl, isNumeralChar_of_spanDigits hfraction hending⟩
  · cases hfraction
    exact hending

theorem isNumeralChar_of_readReal? {text : String} {x : Binary64} (h : readReal? text = some x) :
    ∀ c ∈ text.toList, isNumeralChar c = true := by
  rw [readReal?] at h
  split at h
  · next rest htext =>
    rw [htext, List.forall_mem_cons]
    exact ⟨rfl, isNumeralChar_of_readMagnitude? h⟩
  · next rest htext =>
    rw [htext, List.forall_mem_cons]
    exact ⟨rfl, isNumeralChar_of_readMagnitude? h⟩
  · exact isNumeralChar_of_readMagnitude? h

end CloudSpeech.Decimal
