/-!
# Voices

A voice speaks one locale in one gender.  The speech service knows it by a long name, of which
only the part in parentheses, the mapping, differs from voice to voice.
-/

namespace CloudSpeech

inductive Gender where
  | female
  | male
  deriving DecidableEq, Repr

namespace Gender

/-- The word for a gender, in listings and in documents alike. -/
def name : Gender → String
  | female => "Female"
  | male => "Male"

theorem name_injective {a b : Gender} (h : a.name = b.name) : a = b := by
  revert h; cases a <;> cases b <;> decide

end Gender

structure Voice where
  /-- The language and region it speaks, such as `en-US`. -/
  locale : String
  gender : Gender
  /-- The part of the service's name that tells this voice from the others. -/
  mapping : String
  deriving DecidableEq, Repr

namespace Voice

/-- The name under which the speech service knows a voice. -/
def fullName (voice : Voice) : String :=
  "Microsoft Server Speech Text to Speech Voice " ++ voice.mapping

/-- A voice on one line: locale, gender and mapping. -/
def label (voice : Voice) : String :=
  voice.locale ++ " " ++ voice.gender.name ++ " " ++ voice.mapping

end Voice

end CloudSpeech
