import CloudSpeech.Text.CaseMap
/-!
# Lower case

The small form of a text.  Every character is taken on its own, except that a capital sigma at the
end of a word takes its final form.
-/

namespace CloudSpeech.Text

/-- Whether the nearest character that is not passed over has case. -/
def casedNext (chars : List Char) : Bool :=
  match chars.dropWhile isCaseIgnorable with
  | [] => false
  | c :: _ => isCased c

/-- The small form of `rest`, where `before` is what stands in front of it, last character first. -/
def lowerFrom (before : List Char) : List Char → List Char
  | [] => []
  | c :: rest =>
      (if c = 'Σ' then (if casedNext before && !casedNext rest then ['ς'] else ['σ'])
        else lowerChar c)
      ++ lowerFrom (c :: before) rest

def lowercase (text : String) : String := String.ofList (lowerFrom [] text.toList)

end CloudSpeech.Text
