import Mathlib.Data.List.Basic

/-!
# Texts that are told apart by how they begin

Of two parts of a text the first is determined if it ends at the first mark, or if it is one of
several headings of which none begins another.
-/

namespace CloudSpeech.Text

theorem append_mark_inj {mark : Char} {front front' back back' : List Char}
    (hfront : mark ∉ front) (hfront' : mark ∉ front')
    (h : front ++ mark :: back = front' ++ mark :: back') : front = front' ∧ back = back' := by
  induction front generalizing front' with
  | nil =>
      cases front' with
      | nil => exact ⟨rfl, (List.cons.inj h).2⟩
      | cons c front' =>
          obtain ⟨rfl, -⟩ := List.cons.inj h
          exact absurd List.mem_cons_self hfront'
  | cons c front ih =>
      cases front' with
      | nil =>
          obtain ⟨rfl, -⟩ := List.cons.inj h
          exact absurd List.mem_cons_self hfront
      | cons c' front' =>
          obtain ⟨rfl, hrest⟩ := List.cons.inj h
          obtain ⟨rfl, rfl⟩ := ih (List.not_mem_of_not_mem_cons hfront)
            (List.not_mem_of_not_mem_cons hfront') hrest
          exact ⟨rfl, rfl⟩

/-- Headings of which none begins another. -/
def AreHeadings (headings : List String) : Prop :=
  ∀ heading ∈ headings, ∀ other ∈ headings, heading.toList <+: other.toList → heading = other

instance (headings : List String) : Decidable (AreHeadings headings) :=
  inferInstanceAs (Decidable (∀ heading ∈ headings, ∀ other ∈ headings,
    heading.toList <+: other.toList → heading = other))

theorem AreHeadings.append_inj {headings : List String} (hheadings : AreHeadings headings)
    {heading other rest rest' : String} (hmem : heading ∈ headings) (hother : other ∈ headings)
    (h : heading ++ rest = other ++ rest') : heading = other ∧ rest = rest' := by
  have hchars : heading.toList ++ rest.toList = other.toList ++ rest'.toList := by
    rw [← String.toList_append, h, String.toList_append]
  have hsame : heading = other := by
    rcases List.append_eq_append_iff.mp hchars with ⟨more, hlonger, -⟩ | ⟨more, hlonger, -⟩
    · exact hheadings heading hmem other hother ⟨more, hlonger.symm⟩
    · exact (hheadings other hother heading hmem ⟨more, hlonger.symm⟩).symm
  subst hsame
  exact ⟨rfl, (String.append_right_inj heading).mp h⟩

/-- A way of telling things apart by their texts: each text begins with a heading, and what follows
are the details. -/
structure Headed {α : Type} (text : α → String) where
  headings : List String
  areHeadings : AreHeadings headings
  heading : α → String
  details : α → String
  heading_mem : ∀ a, heading a ∈ headings
  text_eq : ∀ a, text a = heading a ++ details a

theorem Headed.parts_eq {α : Type} {text : α → String} (h : Headed text) {a b : α}
    (hsame : text a = text b) : h.heading a = h.heading b ∧ h.details a = h.details b := by
  rw [h.text_eq, h.text_eq] at hsame
  exact h.areHeadings.append_inj (h.heading_mem a) (h.heading_mem b) hsame

/-- A text is determined by what it is with itself appended behind a separator. -/
theorem append_twice_inj {text other separator : String}
    (h : text ++ separator ++ text = other ++ separator ++ other) : text = other := by
  have hchars := congrArg String.toList h
  simp only [String.toList_append] at hchars
  have hlength := congrArg List.length hchars
  simp only [List.length_append] at hlength
  have hsame : text.toList.length = other.toList.length := by omega
  exact String.toList_inj.mp (List.append_inj' hchars hsame).2

end CloudSpeech.Text
