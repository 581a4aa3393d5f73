import CloudSpeech.Ssml

/-!
# Escaped text is read back

Escaping leaves no bracket in a text, and reading the references back gives the text that was
escaped, so no two texts are escaped alike.
-/

namespace CloudSpeech.Ssml

theorem escapeChar_of_not_isReserved {c : Char} (h : isReserved c = false) :
    escapeChar c = [c] := by
  simp only [isReserved, Bool.or_eq_false_iff, decide_eq_false_iff_not] at h
  obtain ⟨⟨⟨⟨hamp, hless⟩, hgreater⟩, hquote⟩, hapostrophe⟩ := h
  unfold escapeChar
  split <;> first | contradiction | rfl

theorem isReserved_cases {c : Char} (h : isReserved c = true) :
    c = '&' ∨ c = '<' ∨ c = '>' ∨ c = '"' ∨ c = '\'' := by
  simpa [isReserved, or_assoc] using h

theorem unescape_cons {c : Char} (h : c ≠ '&') (rest : List Char) :
    unescape (c :: rest) = c :: unescape rest := by
  rw [unescape.eq_def]
  split <;> simp_all

theorem unescape_escapeChar_append (c : Char) (rest : List Char) :
    unescape (escapeChar c ++ rest) = c :: unescape rest := by
  cases hreserved : isReserved c with
  | true =>
      obtain rfl | rfl | rfl | rfl | rfl := isReserved_cases hreserved <;> rfl
  | false =>
      have hamp : c ≠ '&' := by
        rintro rfl
        cases hreserved
      rw [escapeChar_of_not_isReserved hreserved, List.singleton_append, unescape_cons hamp]

/-- Nothing is lost by escaping. -/
@[simp] theorem unescape_escape (text : List Char) : unescape (escape text) = text := by
  induction text with
  | nil => rfl
  | cons c rest ih => rw [escape_cons, unescape_escapeChar_append, ih]

theorem escape_injective {text other : List Char} (h : escape text = escape other) :
    text = other := by
  rw [← unescape_escape text, h, unescape_escape]

theorem not_mem_escapeChar (c : Char) : '<' ∉ escapeChar c := by
  cases hreserved : isReserved c with
  | true =>
      obtain rfl | rfl | rfl | rfl | rfl := isReserved_cases hreserved <;> decide
  | false =>
      rw [escapeChar_of_not_isReserved hreserved, List.mem_singleton]
      rintro rfl
      cases hreserved

/-- An escaped text opens no tag. -/
theorem not_mem_escape (text : List Char) : '<' ∉ escape text := by
  intro hopen
  obtain ⟨c, -, hc⟩ := List.mem_flatMap.mp hopen
  exact not_mem_escapeChar c hc

end CloudSpeech.Ssml
