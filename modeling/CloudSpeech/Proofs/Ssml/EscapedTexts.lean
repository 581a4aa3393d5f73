import CloudSpeech.Proofs.Ssml.Escaping
import Mathlib

/-!
# The texts that escaping makes

A text is escaped if none of the other reserved characters stands in it and every ampersand starts a
reference. A reference holds one ampersand, at its front, so such a text falls into references and
plain characters in one way only. Putting the characters back and escaping are therefore inverse to
each other between all texts and the escaped ones.
-/

namespace CloudSpeech.Ssml

/-- The reserved characters other than the ampersand. -/
def marks : List Char := ['<', '>', '"', '\'']

variable {c : Char} {text spelling : List Char}

/-! ## Reserved characters -/

theorem isReserved_of_mem_marks (h : c ∈ marks) : isReserved c = true ∧ c ≠ '&' := by
  simp only [marks, List.mem_cons, List.not_mem_nil, or_false] at h
  rcases h with rfl | rfl | rfl | rfl <;> decide

theorem eq_amp_or_mem_marks (h : isReserved c = true) : c = '&' ∨ c ∈ marks := by
  rcases isReserved_cases h with rfl | rfl | rfl | rfl | rfl <;> decide

theorem forall_isReserved_eq_false_iff :
    (∀ c ∈ text, isReserved c = false) ↔ '&' ∉ text ∧ ∀ c ∈ marks, c ∉ text := by
  constructor
  · intro hplain
    have hnone : ∀ c, isReserved c = true → c ∉ text := by
      intro c hreserved hmem
      cases hreserved.symm.trans (hplain c hmem)
    exact ⟨hnone '&' rfl, fun c hc => hnone c (isReserved_of_mem_marks hc).1⟩
  · rintro ⟨hamp, hmarks⟩ c hmem
    by_contra hreserved
    rcases eq_amp_or_mem_marks (eq_true_of_ne_false hreserved) with rfl | hmark
    · exact hamp hmem
    · exact hmarks c hmark hmem

/-! ## References -/

theorem of_mem_references (h : (c, spelling) ∈ references) :
    isReserved c = true ∧ spelling = escapeChar c := by
  simp only [references, List.mem_cons, Prod.mk.injEq, List.not_mem_nil, or_false] at h
  rcases h with ⟨rfl, rfl⟩ | ⟨rfl, rfl⟩ | ⟨rfl, rfl⟩ | ⟨rfl, rfl⟩ | ⟨rfl, rfl⟩ <;>
    exact ⟨rfl, rfl⟩

theorem escapeChar_mem_references (h : isReserved c = true) : (c, escapeChar c) ∈ references := by
  rcases isReserved_cases h with rfl | rfl | rfl | rfl | rfl <;> decide

/-- A reference is an ampersand and characters that are not reserved. -/
theorem exists_cons_of_mem_references (h : (c, spelling) ∈ references) :
    ∃ name, spelling = '&' :: name ∧ ∀ d ∈ name, isReserved d = false := by
  obtain ⟨hreserved, rfl⟩ := of_mem_references h
  rcases isReserved_cases hreserved with rfl | rfl | rfl | rfl | rfl <;>
    exact ⟨_, rfl, by simp [isReserved]⟩

/-! ## What is escaped -/

theorem isEscaped_escapeChar_append (c : Char) (h : IsEscaped text) :
    IsEscaped (escapeChar c ++ text) := by
  cases hreserved : isReserved c with
  | true => exact .reference (escapeChar_mem_references hreserved) h
  | false =>
      rw [escapeChar_of_not_isReserved hreserved]
      exact .plain hreserved h

theorem isEscaped_escape (text : List Char) : IsEscaped (escape text) := by
  induction text with
  | nil => exact .nil
  | cons c text ih => exact isEscaped_escapeChar_append c ih

/-- Nothing is lost by putting the characters back in an escaped text. -/
theorem escape_unescape (h : IsEscaped text) : escape (unescape text) = text := by
  induction h with
  | nil => rfl
  | @plain c rest hplain _ ih =>
      have hamp : c ≠ '&' := by
        rintro rfl
        cases hplain
      rw [unescape_cons hamp, escape_cons, ih, escapeChar_of_not_isReserved hplain]
      rfl
  | @reference c spelling rest hlisted _ ih =>
      obtain ⟨-, rfl⟩ := of_mem_references hlisted
      rw [unescape_escapeChar_append, escape_cons, ih]

theorem bijOn_escape : Set.BijOn escape Set.univ {text | IsEscaped text} := by
  refine ⟨?_, ?_, ?_⟩
  · intro text _
    exact isEscaped_escape text
  · intro text _ other _ hsame
    exact escape_injective hsame
  · intro text htext
    exact ⟨unescape text, trivial, escape_unescape htext⟩

/-! ## Escaped texts by their characters -/

theorem IsEscaped.eq_amp (h : IsEscaped text) (hc : c ∈ text) (hreserved : isReserved c = true) :
    c = '&' := by
  induction h with
  | nil => cases hc
  | @plain d rest hplain _ ih =>
      rcases List.mem_cons.mp hc with rfl | hrest
      · cases hplain.symm.trans hreserved
      · exact ih hrest
  | @reference d spelling rest hlisted _ ih =>
      obtain ⟨name, rfl, hname⟩ := exists_cons_of_mem_references hlisted
      rcases List.mem_append.mp hc with hspelling | hrest
      · rcases List.mem_cons.mp hspelling with rfl | hmem
        · rfl
        · cases (hname c hmem).symm.trans hreserved
      · exact ih hrest

theorem IsEscaped.exists_reference (h : IsEscaped text) {front back : List Char}
    (htext : text = front ++ '&' :: back) : ∃ entry ∈ references, entry.2 <+: '&' :: back := by
  induction h generalizing front with
  | nil => simp at htext
  | @plain d rest hplain _ ih =>
      cases front with
      | nil =>
          obtain ⟨rfl, -⟩ := List.cons.inj htext
          cases hplain
      | cons e front =>
          obtain ⟨-, hrest⟩ := List.cons.inj htext
          exact ih hrest
  | @reference d spelling rest hlisted _ ih =>
      rcases List.append_eq_append_iff.mp htext with ⟨front', -, hrest⟩ | ⟨name', hspelling, hback⟩
      · exact ih hrest
      · -- The ampersand stands where the reference ends or in it, and there it is the first.
        cases name' with
        | nil =>
            have hrest : rest = [] ++ '&' :: back := hback.symm
            exact ih hrest
        | cons e name' =>
            obtain ⟨rfl, -⟩ := List.cons.inj hback
            obtain ⟨name, hname, hplain⟩ := exists_cons_of_mem_references hlisted
            cases front with
            | nil => exact ⟨_, hlisted, hspelling ▸ ⟨rest, hback.symm⟩⟩
            | cons e front =>
                obtain ⟨-, hsplit⟩ := List.cons.inj (hname.symm.trans hspelling)
                have hmem : '&' ∈ name := hsplit ▸ List.mem_append_right front List.mem_cons_self
                cases hplain '&' hmem

theorem isEscaped_of_forall (hmarks : ∀ c ∈ marks, c ∉ text)
    (hreferences : ∀ front back, text = front ++ '&' :: back →
      ∃ entry ∈ references, entry.2 <+: '&' :: back) : IsEscaped text := by
  -- What is behind a reference or a plain character is shorter and has the same two properties.
  induction hlength : text.length using Nat.strong_induction_on generalizing text with
  | _ length ih =>
  subst hlength
  cases text with
  | nil => exact .nil
  | cons c rest =>
      have hsuffix : ∀ taken left, c :: rest = taken ++ left → taken ≠ [] → IsEscaped left := by
        intro taken left hsplit hne
        apply ih left.length _ _ _ rfl
        · have hlength := congrArg List.length hsplit
          have hpos := List.length_pos_iff.mpr hne
          rw [List.length_append] at hlength
          omega
        · intro d hd hmem
          exact hmarks d hd (hsplit ▸ List.mem_append_right taken hmem)
        · intro front back hleft
          apply hreferences (taken ++ front) back
          rw [hsplit, hleft, List.append_assoc]
      by_cases hamp : c = '&'
      · subst hamp
        obtain ⟨⟨d, spelling⟩, hlisted, left, hsplit⟩ := hreferences [] rest rfl
        obtain ⟨name, hname, -⟩ := exists_cons_of_mem_references hlisted
        rw [← hsplit]
        exact .reference hlisted (hsuffix spelling left hsplit.symm (hname ▸ List.cons_ne_nil _ _))
      · have hplain : isReserved c = false := by
          by_contra hreserved
          have hmark := (eq_amp_or_mem_marks (eq_true_of_ne_false hreserved)).resolve_left hamp
          exact hmarks c hmark List.mem_cons_self
        exact .plain hplain (hsuffix [c] rest rfl (List.cons_ne_nil _ _))

theorem isEscaped_iff :
    IsEscaped text ↔ (∀ c ∈ marks, c ∉ text) ∧
      ∀ front back, text = front ++ '&' :: back →
        ∃ entry ∈ references, entry.2 <+: '&' :: back := by
  constructor
  · intro h
    refine ⟨?_, fun front back htext => h.exists_reference htext⟩
    intro c hc hmem
    obtain ⟨hreserved, hamp⟩ := isReserved_of_mem_marks hc
    exact hamp (h.eq_amp hmem hreserved)
  · rintro ⟨hmarks, hreferences⟩
    exact isEscaped_of_forall hmarks hreferences

/-! ## Texts that escaping leaves as they are -/

theorem length_le_length_escape (text : List Char) : text.length ≤ (escape text).length := by
  induction text with
  | nil => exact Nat.le_refl 0
  | cons c text ih =>
      have hone : 0 < (escapeChar c).length := by
        cases hreserved : isReserved c with
        | true => rcases isReserved_cases hreserved with rfl | rfl | rfl | rfl | rfl <;> decide
        | false =>
            rw [escapeChar_of_not_isReserved hreserved]
            exact Nat.one_pos
      rw [escape_cons, List.length_append, List.length_cons]
      omega

theorem escape_eq_self_iff : escape text = text ↔ ∀ c ∈ text, isReserved c = false := by
  induction text with
  | nil => exact iff_of_true rfl (by simp)
  | cons c text ih =>
      rw [escape_cons, List.forall_mem_cons]
      cases hreserved : isReserved c with
      | true =>
          -- A reference is longer than its character, and nothing behind it becomes shorter.
          refine iff_of_false ?_ (by simp)
          intro hsame
          have hlonger := length_le_length_escape text
          have hreference : 1 < (escapeChar c).length := by
            rcases isReserved_cases hreserved with rfl | rfl | rfl | rfl | rfl <;> decide
          have hlength := congrArg List.length hsame
          rw [List.length_append, List.length_cons] at hlength
          omega
      | false =>
          rw [escapeChar_of_not_isReserved hreserved, List.singleton_append, List.cons.injEq, ih]
          simp

/-- Escaping and putting the characters back are inverse to each other between all texts and those
in which no bracket or quote stands and every ampersand starts a reference. A text is escaped
character by character, and escaping it again changes it unless nothing in it is reserved. -/
theorem escape_onto_escaped :
    Set.BijOn escape Set.univ {text | IsEscaped text} ∧
    (∀ text, IsEscaped text ↔ (∀ c ∈ marks, c ∉ text) ∧
      ∀ front back, text = front ++ '&' :: back →
        ∃ entry ∈ references, entry.2 <+: '&' :: back) ∧
    (∀ text, IsEscaped (escape text) ∧ unescape (escape text) = text) ∧
    (∀ text, IsEscaped text → escape (unescape text) = text) ∧
    (∀ text more, escape (text ++ more) = escape text ++ escape more) ∧
    ∀ text, escape (escape text) = escape text ↔ '&' ∉ text ∧ ∀ c ∈ marks, c ∉ text := by
  refine ⟨bijOn_escape, fun _ => isEscaped_iff, ?_, fun _ => escape_unescape, escape_append, ?_⟩
  · intro text
    exact ⟨isEscaped_escape text, unescape_escape text⟩
  · intro text
    have hinjective : escape (escape text) = escape text ↔ escape text = text :=
      ⟨fun hsame => escape_injective hsame, congrArg escape⟩
    rw [hinjective, escape_eq_self_iff, forall_isReserved_eq_false_iff]

/-- A text that shows a reference: escaped once more, its ampersand is not taken for the start of
the reference it shows. -/
theorem escape_of_shown_reference :
    let text := "&lt; 'x'".toList
    let escaped := "&amp;lt; &apos;x&apos;".toList
    escape text = escaped ∧ IsEscaped escaped ∧ unescape escaped = text ∧
      escape (unescape escaped) = escaped ∧ escape escaped ≠ escaped := by
  intro text escaped
  obtain ⟨-, -, hback, honto, -, htwice⟩ := escape_onto_escaped
  have hescape : escape text = escaped := by decide
  obtain ⟨hescaped, hunescape⟩ := hback text
  rw [hescape] at hescaped hunescape
  refine ⟨hescape, hescaped, hunescape, honto escaped hescaped, ?_⟩
  intro hsame
  have hplain := (htwice text).mp (by rw [hescape, hsame])
  exact hplain.1 List.mem_cons_self

end CloudSpeech.Ssml
