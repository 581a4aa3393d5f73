import CloudSpeech.Voice
/-!
# The voice catalog

The voices in a fixed order.  A voice is chosen by its place in this order, so the order never
changes.
-/

namespace CloudSpeech

namespace Voice

/-- The supported voices.  The Russian female voice is mapped to a Brazilian one, as deployed. -/
def catalog : List Voice := [
  ⟨"ar-EG", .female, "(ar-EG, Hoda)"⟩,
  ⟨"de-DE", .female, "(de-DE, Hedda)"⟩,
  ⟨"de-DE", .male, "(de-DE, Stefan, Apollo)"⟩,
  ⟨"en-AU", .female, "(en-AU, Catherine)"⟩,
  ⟨"en-CA", .female, "(en-CA, Linda)"⟩,
  ⟨"en-GB", .female, "(en-GB, Susan, Apollo)"⟩,
  ⟨"en-GB", .male, "(en-GB, George, Apollo)"⟩,
  ⟨"en-IN", .male, "(en-IN, Ravi, Apollo)"⟩,
  ⟨"en-US", .female, "(en-US, ZiraRUS)"⟩,
  ⟨"en-US", .male, "(en-US, BenjaminRUS)"⟩,
  ⟨"es-ES", .female, "(es-ES, Laura, Apollo)"⟩,
  ⟨"es-ES", .male, "(es-ES, Pablo, Apollo)"⟩,
  ⟨"es-MX", .male, "(es-MX, Raul, Apollo)"⟩,
  ⟨"fr-CA", .female, "(fr-CA, Caroline)"⟩,
  ⟨"fr-FR", .female, "(fr-FR, Julie, Apollo)"⟩,
  ⟨"fr-FR", .male, "(fr-FR, Paul, Apollo)"⟩,
  ⟨"it-IT", .male, "(it-IT, Cosimo, Apollo)"⟩,
  ⟨"ja-JP", .female, "(ja-JP, Ayumi, Apollo)"⟩,
  ⟨"ja-JP", .male, "(ja-JP, Ichiro, Apollo)"⟩,
  ⟨"pt-BR", .male, "(pt-BR, Daniel, Apollo)"⟩,
  ⟨"ru-RU", .female, "(pt-BR, Daniel, Apollo)"⟩,
  ⟨"ru-RU", .male, "(ru-RU, Pavel, Apollo)"⟩,
  ⟨"zh-CN", .female, "(zh-CN, HuihuiRUS)"⟩,
  ⟨"zh-CN", .female, "(zh-CN, Yaoyao, Apollo)"⟩,
  ⟨"zh-CN", .male, "(zh-CN, Kangkang, Apollo)"⟩,
  ⟨"zh-HK", .female, "(zh-HK, Tracy, Apollo)"⟩,
  ⟨"zh-HK", .male, "(zh-HK, Danny, Apollo)"⟩,
  ⟨"zh-TW", .female, "(zh-TW, Yating, Apollo)"⟩,
  ⟨"zh-TW", .male, "(zh-TW, Zhiwei, Apollo)"⟩]

/-- A place beyond the end of the catalog was asked for. -/
structure OutOfRange where
  index : Nat
  supported : Nat
  deriving DecidableEq, Repr

/-- What the user reads about a place beyond the end. -/
def OutOfRange.message (error : OutOfRange) : String :=
  "lang over support " ++ toString error.supported

def lookup (index : Nat) : Except OutOfRange Voice :=
  match catalog[index]? with
  | some voice => .ok voice
  | none => .error ⟨index, catalog.length⟩

theorem lookup_eq_ok_iff {index : Nat} {voice : Voice} :
    lookup index = .ok voice ↔ catalog[index]? = some voice := by
  cases h : catalog[index]? <;> simp [lookup, h]

theorem lookup_of_lt {index : Nat} (h : index < catalog.length) :
    lookup index = .ok catalog[index] := by
  simp [lookup, List.getElem?_eq_getElem h]

theorem lookup_of_le {index : Nat} (h : catalog.length ≤ index) :
    lookup index = .error ⟨index, catalog.length⟩ := by
  simp [lookup, List.getElem?_eq_none h]

end Voice

end CloudSpeech
