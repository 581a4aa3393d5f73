import CloudSpeech.Proofs.Text.Runs
import CloudSpeech.Settings.Load
import Mathlib

/-!
# Keys that are names

A key is a single name, or two names with a dot between them. The path that such a key is has
one step or two. The keys that variables give are in small letters throughout, so putting a
value under one of them does not change the key again.
-/

namespace CloudSpeech

namespace Text

/-- Beyond the first 128 characters only the sign of the kelvin has a small form among them. -/
theorem caseRuns_beyond (run : CaseRun) (hrun : run ∈ caseRuns) :
    128 ≤ run.first + run.shift ∨ (run.first + run.shift = 107 ∧ run.last = run.first) := by
  have hall : ∀ run ∈ caseRuns, 128 ≤ (run.first : Int) + run.shift ∨
      ((run.first : Int) + run.shift = 107 ∧ run.last = run.first) := by decide +kernel
  exact hall run hrun

theorem isUpper_eq_false_of_lt {c : Char} (h : 90 < c.toNat) : c.isUpper = false := by
  have hval : 90 < c.val.toNat := h
  simp only [Char.isUpper, decide_eq_false_iff_not, ge_iff_le, UInt32.le_iff_toNat_le]
  intro hbounds
  have hupper : c.val.toNat ≤ 90 := hbounds.2
  omega

theorem isUpper_ofNat_eq_false {n : Nat} (h : 90 < n) : (Char.ofNat n).isUpper = false := by
  by_cases hvalid : n.isValidChar
  · apply isUpper_eq_false_of_lt
    rwa [Char.toNat_ofNat, if_pos hvalid]
  · rw [Char.ofNat, dif_neg hvalid]
    rfl

theorem isUpper_of_mem_lowerChar {c d : Char} (h : d ∈ lowerChar c) : d.isUpper = false := by
  rw [lowerChar] at h
  split at h
  · rw [List.mem_singleton.mp h]
    exact Char.isUpper_toLower_eq_false c
  · next hbig =>
    split at h
    · simp only [List.mem_cons, List.not_mem_nil, or_false] at h
      rcases h with rfl | rfl <;> decide
    · split at h
      · next run hfound =>
        rw [List.mem_singleton.mp h]
        have hmem := List.mem_of_find?_eq_some hfound
        have hinside := List.find?_some hfound
        have hbeyond := caseRuns_beyond run hmem
        simp only [Bool.and_eq_true, decide_eq_true_eq] at hinside
        apply isUpper_ofNat_eq_false
        omega
      · rw [List.mem_singleton.mp h]
        apply isUpper_eq_false_of_lt
        omega

theorem isUpper_of_mem_lowerFrom {before chars : List Char} {d : Char}
    (h : d ∈ lowerFrom before chars) : d.isUpper = false := by
  induction chars generalizing before with
  | nil => cases h
  | cons c rest ih =>
      rw [lowerFrom, List.mem_append] at h
      rcases h with hfirst | hrest
      · split at hfirst
        · split at hfirst <;> rw [List.mem_singleton.mp hfirst] <;> decide
        · exact isUpper_of_mem_lowerChar hfirst
      · exact ih hrest

theorem isUpper_of_mem_lowercase {text : String} {d : Char}
    (h : d ∈ (lowercase text).toList) : d.isUpper = false := by
  rw [lowercase, String.toList_ofList] at h
  exact isUpper_of_mem_lowerFrom h

theorem lowerFrom_eq_self {before chars : List Char}
    (h : ∀ c ∈ chars, c.toNat < 128 ∧ c.isUpper = false) : lowerFrom before chars = chars := by
  induction chars generalizing before with
  | nil => rfl
  | cons c rest ih =>
      obtain ⟨hsmall, hlower⟩ := h c List.mem_cons_self
      have hsigma : c ≠ 'Σ' := by
        rintro rfl
        revert hsmall
        decide
      have hkept : lowerChar c = [c] := by
        rw [lowerChar, if_pos hsmall, Char.toLower_eq_of_not_isUpper (by simp [hlower])]
      rw [lowerFrom, if_neg hsigma, hkept, ih fun d hd => h d (List.mem_cons_of_mem c hd)]
      rfl

end Text

namespace Settings

/-- A key that is a single name. -/
structure IsName (key : String) : Prop where
  ne_nil : key.toList ≠ []
  isNameChar : ∀ c ∈ key.toList, KeyPath.isNameChar c = true

instance (key : String) : Decidable (IsName key) :=
  decidable_of_iff (key.toList ≠ [] ∧ key.toList.all KeyPath.isNameChar = true)
    ⟨fun h => ⟨h.1, List.all_eq_true.mp h.2⟩,
      fun h => ⟨h.ne_nil, List.all_eq_true.mpr h.isNameChar⟩⟩

namespace KeyPath

theorem toNat_lt_of_isNameChar {c : Char} (h : isNameChar c = true) : c.toNat < 128 := by
  simp only [isNameChar, Char.isAlphanum, Char.isAlpha, Char.isUpper, Char.isLower, Char.isDigit,
    Bool.or_eq_true, Bool.and_eq_true, decide_eq_true_eq, ge_iff_le,
    UInt32.le_iff_toNat_le] at h
  rcases h with ((halphanum | rfl) | rfl) | rfl
  · have hval : c.toNat = c.val.toNat := rfl
    have hupper : 'Z'.val.toNat = 90 := rfl
    have hlower : 'z'.val.toNat = 122 := rfl
    have hdigit : '9'.val.toNat = 57 := rfl
    omega
  all_goals decide

theorem readName_append {key : String} (hname : IsName key) (rest : List Char)
    (hrest : ∀ c, rest.head? = some c → isNameChar c = false) :
    readName (key.toList ++ rest) = some (key, rest) := by
  rw [readName, Text.takeWhile_append_of_head hname.isNameChar hrest,
    Text.dropWhile_append_of_head hname.isNameChar hrest, if_neg hname.ne_nil,
    String.ofList_toList]

theorem ofKey_of_isName {key : String} (hname : IsName key) : ofKey key = ⟨key, []⟩ := by
  have hread : readName key.toList = some (key, []) := by
    simpa using readName_append hname [] nofun
  simp only [ofKey, hread]
  rw [readSteps, if_pos rfl]

theorem ofKey_dotted {part name : String} (hpart : IsName part) (hname : IsName name) :
    ofKey (part ++ "." ++ name) = ⟨part, [.name name]⟩ := by
  have hchars : (part ++ "." ++ name).toList = part.toList ++ '.' :: name.toList := by
    simp
  have hread : readName (part ++ "." ++ name).toList = some (part, '.' :: name.toList) := by
    rw [hchars]
    exact readName_append hpart _ (by simp; decide)
  have hrest : readName name.toList = some (name, []) := by
    simpa using readName_append hname [] nofun
  have hsteps : readSteps ('.' :: name.toList) = some [.name name] := by
    rw [readSteps, if_neg (by simp), readStep, hrest]
    simp only [Option.map_some]
    rw [if_pos (by simp), readSteps, if_pos rfl]
    rfl
  simp only [ofKey, hread, hsteps]

end KeyPath

theorem lowercase_eq_self {key : String} (hname : IsName key)
    (hlower : ∀ c ∈ key.toList, c.isUpper = false) : Text.lowercase key = key := by
  rw [Text.lowercase, Text.lowerFrom_eq_self, String.ofList_toList]
  intro c hc
  exact ⟨KeyPath.toNat_lt_of_isNameChar (hname.isNameChar c hc), hlower c hc⟩

namespace Environment

theorem mem_withDots {chars : List Char} {c : Char} (h : c ∈ withDots chars) :
    c = '.' ∨ c ∈ chars := by
  fun_induction withDots chars with
  | case1 rest ih =>
      rcases List.mem_cons.mp h with rfl | hrest
      · exact .inl rfl
      · exact (ih hrest).imp_right fun hmem => List.mem_cons_of_mem _ (List.mem_cons_of_mem _ hmem)
  | case2 d rest _ ih =>
      rcases List.mem_cons.mp h with rfl | hrest
      · exact .inr List.mem_cons_self
      · exact (ih hrest).imp_right (List.mem_cons_of_mem _)
  | case3 => cases h

/-- The keys that variables give have no capitals. -/
theorem isUpper_of_mem_key? {variableName key : String} (hkey : key? variableName = some key)
    {c : Char} (hc : c ∈ key.toList) : c.isUpper = false := by
  rw [key?] at hkey
  split at hkey
  · rw [← Option.some.inj hkey, String.toList_ofList] at hc
    rcases mem_withDots hc with rfl | hmem
    · rfl
    · exact Text.isUpper_of_mem_lowercase (List.mem_of_mem_drop hmem)
  · cases hkey

end Environment

end Settings

end CloudSpeech
