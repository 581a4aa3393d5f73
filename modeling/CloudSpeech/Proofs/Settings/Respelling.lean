import CloudSpeech.Proofs.Decimal.Numerals
import CloudSpeech.Proofs.Settings.Keys

/-!
# How the values of variables are respelled

A variable is taken as a truth value or a number where it reads as one, and a setting that is a
text then has the spelling that the truth value or the number is written with. Other texts are
kept, and so are the numerals of whole numbers; but zeros in front, signs and exponents are lost.
-/

namespace CloudSpeech

namespace Text

theorem isAlpha_eq_false_of_isDigit {c : Char} (h : c.isDigit = true) : c.isAlpha = false := by
  simp only [Char.isDigit, Char.isAlpha, Char.isUpper, Char.isLower, Bool.and_eq_true,
    Bool.or_eq_false_iff, decide_eq_true_eq, ge_iff_le, UInt32.le_iff_toNat_le,
    Bool.and_eq_false_iff, decide_eq_false_iff_not] at h ⊢
  have hupper : 'A'.val.toNat = 65 := rfl
  have hlower : 'a'.val.toNat = 97 := rfl
  have hdigit : '9'.val.toNat = 57 := rfl
  omega

/-- The letters of the words for the truth values. -/
def flagLetters : List Char := ['t', 'r', 'u', 'e', 'f', 'a', 'l', 's']

theorem toNat_of_mem_flagLetters {c : Char} (h : c ∈ flagLetters) :
    c.toNat < 128 ∧ c.toNat ≠ 0 ∧ c.toNat ≠ 107 := by
  have hall : ∀ c ∈ flagLetters, c.toNat < 128 ∧ c.toNat ≠ 0 ∧ c.toNat ≠ 107 := by
    simp [flagLetters]
  exact hall c h

theorem ofNat_not_mem_flagLetters {n : Nat} (h : 128 ≤ n ∨ n = 107) :
    Char.ofNat n ∉ flagLetters := by
  intro hmem
  obtain ⟨hsmall, hzero, hother⟩ := toNat_of_mem_flagLetters hmem
  rw [Char.toNat_ofNat] at hsmall hzero hother
  split at hsmall
  · next hvalid =>
    rw [if_pos hvalid] at hother
    omega
  · next hvalid =>
    rw [if_neg hvalid] at hzero
    exact hzero rfl

theorem isAlpha_of_lowerChar {c : Char} (h : ∀ d ∈ lowerChar c, d ∈ flagLetters) :
    c.isAlpha = true := by
  rw [lowerChar] at h
  split at h
  · have hmem : c.toLower ∈ flagLetters := h _ (List.mem_singleton.mpr rfl)
    by_cases hupper : c.isUpper = true
    · simp [Char.isAlpha, hupper]
    · rw [Char.toLower_eq_of_not_isUpper hupper] at hmem
      have hall : ∀ d ∈ flagLetters, d.isAlpha = true := by simp [flagLetters]
      exact hall c hmem
  · next hbig =>
    exfalso
    split at h
    · exact absurd (h 'i' List.mem_cons_self) (by decide)
    · split at h
      · next run hfound =>
        have hbeyond := caseRuns_beyond run (List.mem_of_find?_eq_some hfound)
        have hinside := List.find?_some hfound
        simp only [Bool.and_eq_true, decide_eq_true_eq] at hinside
        refine ofNat_not_mem_flagLetters ?_ (h _ (List.mem_singleton.mpr rfl))
        omega
      · have hsmall := (toNat_of_mem_flagLetters (h c (List.mem_singleton.mpr rfl))).1
        exact hbig hsmall

theorem isAlpha_of_lowerFrom {before chars : List Char}
    (h : ∀ d ∈ lowerFrom before chars, d ∈ flagLetters) : ∀ c ∈ chars, c.isAlpha = true := by
  induction chars generalizing before with
  | nil => exact fun c hc => nomatch hc
  | cons c rest ih =>
      simp only [lowerFrom, List.forall_mem_append] at h
      obtain ⟨hfirst, hrest⟩ := h
      refine List.forall_mem_cons.mpr ⟨?_, ih hrest⟩
      split at hfirst
      · exfalso
        split at hfirst <;> exact absurd (hfirst _ (List.mem_singleton.mpr rfl)) (by decide)
      · exact isAlpha_of_lowerChar hfirst

/-- A text whose small form is the word for a truth value consists of letters. -/
theorem isAlpha_of_lowercase_eq {text : String} (flag : Bool)
    (h : lowercase text = Settings.Found.boolWord flag) : ∀ c ∈ text.toList, c.isAlpha = true := by
  rw [lowercase, ← String.toList_inj, String.toList_ofList] at h
  have hletters : ∀ d ∈ lowerFrom [] text.toList, d ∈ flagLetters := by
    intro d hd
    rw [h] at hd
    cases flag <;> simp [Settings.Found.boolWord, flagLetters] at hd ⊢ <;> tauto
  exact isAlpha_of_lowerFrom hletters

end Text

namespace Decimal

theorem positional_ne_nil (d : Scaled) : d.positional ≠ [] := by
  have hchars : Scaled.digitChars d.digits ≠ [] := Nat.toDigits_ne_nil
  rw [Scaled.positional]
  split
  · exact List.append_ne_nil_of_left_ne_nil hchars _
  · dsimp only
    split
    · exact List.append_ne_nil_of_right_ne_nil _ nofun
    · exact List.append_ne_nil_of_right_ne_nil _ hchars

theorem signed_ne_empty {negative : Bool} {magnitude : List Char} (h : magnitude ≠ []) :
    Binary64.signed negative magnitude ≠ "" := by
  intro hempty
  rw [Binary64.signed, ← String.toList_inj, String.toList_ofList] at hempty
  cases negative <;> simp_all

theorem plainText_ne_empty (x : Binary64) : x.plainText ≠ "" := by
  cases x with
  | nan => decide
  | infinite negative => exact signed_ne_empty (by simp)
  | finite negative mantissa exponent =>
      apply signed_ne_empty
      split
      · exact nofun
      · exact positional_ne_nil _

end Decimal

namespace Settings

/-- How a value is written where a text is wanted. -/
def Scalar.spelling : Scalar → String
  | nil => ""
  | bool value => Found.boolWord value
  | integer value => toString value
  | real value => value.plainText
  | text content => content

theorem toText_of_ne_nil {value : Scalar} (h : value ≠ .nil) (origin : Option String) :
    (Entry.scalar origin value).toText = .ok value.spelling := by
  cases value with
  | nil => exact absurd rfl h
  | bool _ | integer _ | real _ | text _ => rfl

namespace Environment

/-- The text that the value of a variable gives to a setting that is a text. -/
def respelled (value : String) : String := (scalar value).spelling

theorem scalar_ne_nil (value : String) : scalar value ≠ .nil := by
  fun_cases scalar value <;> nofun

theorem toText_scalar (origin : Option String) (value : String) :
    (Entry.scalar origin (scalar value)).toText = .ok (respelled value) :=
  toText_of_ne_nil (scalar_ne_nil value) origin

theorem respelled_ne_empty {value : String} (h : value ≠ "") : respelled value ≠ "" := by
  rw [respelled]
  fun_cases scalar value with
  | case1 | case2 => decide
  | case3 number => exact Decimal.toString_ne_empty number
  | case4 _ number => exact Decimal.plainText_ne_empty number
  | case5 => exact h

/-- Texts that are kept: those with a character that no numeral has, and the numerals of whole
numbers of sixty-four bits. -/
def IsKept (value : String) : Prop :=
  (∃ c ∈ value.toList, Decimal.isNumeralChar c = false) ∨
    ∃ number : Int, -(Decimal.signedBound : Int) ≤ number ∧ number < Decimal.signedBound ∧
      value = toString number

theorem lowercase_ne_of_not_isAlpha {value : String} {c : Char} (hc : c ∈ value.toList)
    (hother : c.isAlpha = false) (flag : Bool) : Text.lowercase value ≠ Found.boolWord flag := by
  intro hword
  have hletter := Text.isAlpha_of_lowercase_eq flag hword c hc
  exact absurd hletter (by simp [hother])

theorem respelled_of_isNumeralChar_eq_false {value : String} {c : Char} (hc : c ∈ value.toList)
    (hother : Decimal.isNumeralChar c = false) : respelled value = value := by
  have hword := lowercase_ne_of_not_isAlpha hc (by simp_all [Decimal.isNumeralChar, Char.isAlphanum])
  rw [respelled]
  fun_cases scalar value with
  | case1 htrue => exact absurd htrue (hword true)
  | case2 hfalse => exact absurd hfalse (hword false)
  | case3 number hnumber =>
      exact absurd (Decimal.isNumeralChar_of_readSigned? hnumber c hc) (by simp [hother])
  | case4 _ number hnumber =>
      exact absurd (Decimal.isNumeralChar_of_readReal? hnumber c hc) (by simp [hother])
  | case5 => rfl

theorem scalar_of_readSigned? {value : String} {number : Int}
    (h : Decimal.readSigned? value = some number) : scalar value = .integer number := by
  obtain ⟨digits, hne, hdigits, htext⟩ := Decimal.digits_of_readSigned? h
  obtain ⟨c, hc⟩ := List.exists_mem_of_ne_nil digits hne
  have hmem : c ∈ value.toList := by
    rcases htext with htext | htext | htext <;> simp [htext, hc]
  -- A digit stands in no word for a truth value.
  have hword := lowercase_ne_of_not_isAlpha hmem (Text.isAlpha_eq_false_of_isDigit (hdigits c hc))
  fun_cases scalar value with
  | case1 htrue => exact absurd htrue (hword true)
  | case2 hfalse => exact absurd hfalse (hword false)
  | case3 other hother => rw [Option.some.inj (hother.symm.trans h)]
  | case4 hnone => exact absurd (hnone.symm.trans h) nofun
  | case5 hnone => exact absurd (hnone.symm.trans h) nofun

theorem respelled_of_readSigned? {value : String} {number : Int}
    (h : Decimal.readSigned? value = some number) : respelled value = toString number := by
  rw [respelled, scalar_of_readSigned? h, Scalar.spelling]

theorem IsKept.respelled {value : String} (h : IsKept value) : respelled value = value := by
  rcases h with ⟨c, hc, hother⟩ | ⟨number, hlow, hhigh, rfl⟩
  · exact respelled_of_isNumeralChar_eq_false hc hother
  · exact respelled_of_readSigned? (Decimal.readSigned?_toString hlow hhigh)

end Environment

end Settings

end CloudSpeech
