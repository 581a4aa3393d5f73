/-!
# Cutting text

A text is cut into the parts between marks.
-/

namespace CloudSpeech.Text

/-- The parts of a text between marks, of which there is one more than there are marks. -/
def split (isMark : Char → Bool) : List Char → List (List Char)
  | [] => [[]]
  | c :: rest =>
      if isMark c then [] :: split isMark rest
      else
        match split isMark rest with
        | [] => [[c]]
        | first :: others => (c :: first) :: others

theorem split_ne_nil (isMark : Char → Bool) (chars : List Char) : split isMark chars ≠ [] := by
  cases chars with
  | nil => simp [split]
  | cons c rest =>
      unfold split
      split
      · simp
      · split <;> simp

end CloudSpeech.Text
