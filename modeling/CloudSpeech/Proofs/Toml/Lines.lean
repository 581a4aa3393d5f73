import CloudSpeech.Proofs.Text.Runs
import CloudSpeech.Proofs.Toml.Values
import CloudSpeech.Toml.Document

/-!
# Lines of a TOML document

A line that assigns a value to a key, or to two keys with a dot between them, and a line with the
header of a table are read as what they say, whatever lines follow.
-/

namespace CloudSpeech.Toml

/-! ## Keys -/

/-- A key that needs no quotes. -/
structure IsBareKey (key : String) : Prop where
  ne_nil : key.toList ≠ []
  isBare : ∀ c ∈ key.toList, Toml.isBare c = true

instance (key : String) : Decidable (IsBareKey key) :=
  decidable_of_iff (key.toList ≠ [] ∧ key.toList.all Toml.isBare = true)
    ⟨fun h => ⟨h.1, List.all_eq_true.mp h.2⟩, fun h => ⟨h.ne_nil, List.all_eq_true.mpr h.isBare⟩⟩

theorem ne_of_isBare {c d : Char} (hc : isBare c = true) (hd : isBare d = false) : c ≠ d :=
  fun h => by rw [h, hd] at hc; cases hc

theorem skipSpace_of_isSpace_eq_false {c : Char} (h : isSpace c = false) (rest : List Char) :
    skipSpace (c :: rest) = c :: rest := by
  rw [skipSpace, List.dropWhile_cons, h]
  rfl

theorem skipSpace_of_isBare {c : Char} (hc : isBare c = true) (rest : List Char) :
    skipSpace (c :: rest) = c :: rest := by
  refine skipSpace_of_isSpace_eq_false ?_ rest
  rw [← Bool.not_eq_true, isSpace, Bool.or_eq_true, decide_eq_true_eq, decide_eq_true_eq]
  rintro (rfl | rfl) <;> exact absurd hc (by decide)

namespace IsBareKey

variable {key : String} {rest : List Char}

theorem exists_head (h : IsBareKey key) :
    ∃ c more, key.toList = c :: more ∧ Toml.isBare c = true := by
  obtain ⟨c, more, hkey⟩ := List.exists_cons_of_ne_nil h.ne_nil
  exact ⟨c, more, hkey, h.isBare c (hkey ▸ List.mem_cons_self)⟩

theorem skipSpace_append (h : IsBareKey key) (rest : List Char) :
    skipSpace (key.toList ++ rest) = key.toList ++ rest := by
  obtain ⟨c, more, hkey, hc⟩ := h.exists_head
  rw [hkey, List.cons_append, skipSpace_of_isBare hc]

theorem readKey_append (h : IsBareKey key)
    (hrest : ∀ c, rest.head? = some c → Toml.isBare c = false) :
    readKey (key.toList ++ rest) = some (key, rest) := by
  have hquoted : readQuoted (key.toList ++ rest) = none := by
    obtain ⟨c, more, hkey, hc⟩ := h.exists_head
    have hdouble : c ≠ '"' := ne_of_isBare hc (by decide)
    have hsingle : c ≠ '\x27' := ne_of_isBare hc (by decide)
    simp [hkey, readQuoted, hdouble, hsingle]
  simp only [readKey, hquoted, Text.takeWhile_append_of_head h.isBare hrest,
    Text.dropWhile_append_of_head h.isBare hrest, if_neg h.ne_nil, String.ofList_toList]

theorem readKeys_append (h : IsBareKey key)
    (hrest : ∀ c, rest.head? = some c → Toml.isBare c = false)
    (hdot : (skipSpace rest).head? ≠ some '.') :
    readKeys (key.toList ++ rest) = some ([key], skipSpace rest) := by
  rw [readKeys, h.skipSpace_append]
  simp only [h.readKey_append hrest]
  split
  · next heq => exact absurd (by rw [heq]; rfl) hdot
  · rfl

theorem readKeys_dot (h : IsBareKey key) (rest : List Char) :
    readKeys (key.toList ++ '.' :: rest) =
      (readKeys rest).map fun (keys, after) => (key :: keys, after) := by
  have hdot : ∀ c, ('.' :: rest).head? = some c → Toml.isBare c = false := by
    rintro c ⟨⟩
    decide
  have hskip : skipSpace ('.' :: rest) = '.' :: rest := rfl
  have hlength : rest.length < (key.toList ++ '.' :: rest).length := by
    simp only [List.length_append, List.length_cons]
    omega
  rw [readKeys, h.skipSpace_append]
  simp only [h.readKey_append hdot, hskip, if_pos hlength]

end IsBareKey

/-! ## Lines -/

/-- The text of a value that is read as the value where a line ends behind it. -/
structure IsValueText (value : Value) (text : List Char) : Prop where
  readValue : ∀ rest, readValue maxDepth (text ++ '\n' :: rest) = some (value, '\n' :: rest)
  skipSpace : ∀ rest, skipSpace (text ++ '\n' :: rest) = text ++ '\n' :: rest

theorem isValueText_integer {n : Nat} {text : List Char} (h : IntegerText n text)
    (hn : n < Decimal.signedBound) : IsValueText (.integer n) text where
  readValue := readValue_integer h hn
  skipSpace rest := by
    obtain ⟨⟨c, tail, rfl, hc⟩, -⟩ := h.chars
    have hspace : isSpace c = false := by
      rw [← Bool.not_eq_true, isSpace, Bool.or_eq_true, decide_eq_true_eq, decide_eq_true_eq]
      rintro (rfl | rfl) <;> exact absurd hc (by decide)
    rw [List.cons_append, skipSpace_of_isSpace_eq_false hspace]

theorem isValueText_basic {content : String} (hne : content.toList ≠ [])
    (h : ∀ c ∈ content.toList, isPlain c = true ∧ c ≠ '"' ∧ c ≠ '\\') :
    IsValueText (.string content) ('"' :: (content.toList ++ ['"'])) where
  readValue rest := by
    have hread := readValue_basic hne h ('\n' :: rest)
    rw [String.ofList_toList] at hread
    simpa using hread
  skipSpace rest := rfl

theorem isValueText_literal {content : String} (hne : content.toList ≠ [])
    (h : ∀ c ∈ content.toList, isPlain c = true ∧ c ≠ '\x27') :
    IsValueText (.string content) ('\x27' :: (content.toList ++ ['\x27'])) where
  readValue rest := by
    have hread := readValue_literal hne h ('\n' :: rest)
    rw [String.ofList_toList] at hread
    simpa using hread
  skipSpace rest := rfl

/-- The keys of an assignment: one, or two with a dot between them. -/
inductive KeysText : List String → List Char → Prop where
  | single {key : String} (hkey : IsBareKey key) : KeysText [key] key.toList
  | dotted {first second : String} (hfirst : IsBareKey first) (hsecond : IsBareKey second) :
      KeysText [first, second] (first.toList ++ '.' :: second.toList)

namespace KeysText

variable {path : List String} {keys : List Char}

theorem readPath_eq (h : KeysText path keys) (rest : List Char) :
    readPath (keys ++ ' ' :: '=' :: rest) = some (path, '=' :: rest) := by
  have hend : ∀ c, (' ' :: '=' :: rest).head? = some c → isBare c = false := by
    rintro c ⟨⟩
    decide
  have hlast : ∀ {key}, IsBareKey key →
      readKeys (key.toList ++ ' ' :: '=' :: rest) = some ([key], '=' :: rest) :=
    fun hkey => hkey.readKeys_append hend fun h => (by decide : '=' ≠ '.') (Option.some.inj h)
  cases h with
  | single hkey =>
      rw [readPath, hlast hkey]
      rfl
  | dotted hfirst hsecond =>
      rw [readPath, List.append_assoc, List.cons_append, hfirst.readKeys_dot, hlast hsecond]
      rfl

theorem exists_head (h : KeysText path keys) : ∃ c more, keys = c :: more ∧ isBare c = true := by
  cases h with
  | single hkey => exact hkey.exists_head
  | dotted hfirst _ =>
      obtain ⟨c, more, hkey, hc⟩ := hfirst.exists_head
      exact ⟨c, _, by rw [hkey, List.cons_append], hc⟩

end KeysText

/-- The characters of a line that assigns a value, without its break. -/
def assignment (keys text : List Char) : List Char := keys ++ ' ' :: '=' :: ' ' :: text

theorem afterLine?_of_isBare {c : Char} (hc : isBare c = true) (rest : List Char) :
    afterLine? (c :: rest) = none := by
  have hcomment : c ≠ '#' := ne_of_isBare hc (by decide)
  have hbreak : c ≠ '\n' := ne_of_isBare hc (by decide)
  have hreturn : c ≠ '\r' := ne_of_isBare hc (by decide)
  simp [afterLine?, skipSpace_of_isBare hc, skipComment, afterBreak?, hcomment, hbreak, hreturn]

theorem readLine_assignment {path : List String} {value : Value} {keys text : List Char}
    (hkeys : KeysText path keys) (htext : IsValueText value text) (rest : List Char) :
    readLine (assignment keys text ++ '\n' :: rest) = some (some (.assign path value), rest) := by
  have hassign : readAssignment (readValue maxDepth) (assignment keys text ++ '\n' :: rest) =
      some ((path, value), '\n' :: rest) := by
    have hskip : skipSpace (' ' :: (text ++ '\n' :: rest)) = text ++ '\n' :: rest :=
      htext.skipSpace rest
    simp only [readAssignment, assignment, List.append_assoc, List.cons_append, hkeys.readPath_eq,
      hskip, htext.readValue, Option.map_some]
  obtain ⟨c, more, hhead, hc⟩ := hkeys.exists_head
  have hbracket : c ≠ '[' := ne_of_isBare hc (by decide)
  rw [assignment, hhead, List.cons_append, List.cons_append] at hassign ⊢
  have hstatement : readStatement (c :: (more ++ ' ' :: '=' :: ' ' :: text ++ '\n' :: rest)) =
      some (.assign path value, '\n' :: rest) := by
    rw [readStatement.eq_2 _ fun _ h => hbracket (List.cons.inj h).1, hassign]
    rfl
  rw [readLine, afterLine?_of_isBare hc, skipSpace_of_isBare hc, hstatement]
  rfl

theorem readLine_header {key : String} (hkey : IsBareKey key) (rest : List Char) :
    readLine ('[' :: (key.toList ++ ']' :: '\n' :: rest)) =
      some (some (.header (.table [key])), rest) := by
  have hend : ∀ c, (']' :: '\n' :: rest).head? = some c → isBare c = false := by
    rintro c ⟨⟩
    decide
  have hpath : readPath (key.toList ++ ']' :: '\n' :: rest) =
      some ([key], ']' :: '\n' :: rest) := by
    rw [readPath, hkey.readKeys_append hend fun h => (by decide : ']' ≠ '.') (Option.some.inj h)]
    rfl
  have hheader : readHeader (key.toList ++ ']' :: '\n' :: rest) =
      some (.table [key], '\n' :: rest) := by
    obtain ⟨c, more, hhead, hc⟩ := hkey.exists_head
    have hbracket : c ≠ '[' := ne_of_isBare hc (by decide)
    rw [hhead, List.cons_append] at hpath ⊢
    rw [readHeader.eq_2 _ fun _ h => hbracket (List.cons.inj h).1, hpath]
    rfl
  have hstatement : readStatement ('[' :: (key.toList ++ ']' :: '\n' :: rest)) =
      some (.header (.table [key]), '\n' :: rest) := by
    rw [readStatement, hheader]
    rfl
  have hline : afterLine? ('[' :: (key.toList ++ ']' :: '\n' :: rest)) = none := rfl
  have hskip : skipSpace ('[' :: (key.toList ++ ']' :: '\n' :: rest)) =
      '[' :: (key.toList ++ ']' :: '\n' :: rest) := rfl
  rw [readLine, hline, hskip, hstatement]
  rfl

theorem readLines_cons {chars rest : List Char} {statement : Statement}
    (h : readLine chars = some (some statement, rest)) (hlength : rest.length < chars.length) :
    readLines chars = (readLines rest).map (statement :: ·) := by
  have hne : chars ≠ [] := by
    rintro rfl
    simp at hlength
  rw [readLines, if_neg hne, h]
  simp only [if_pos hlength]
  rfl

end CloudSpeech.Toml
