import CloudSpeech.Proofs.Toml.Integers
import CloudSpeech.Toml.Expression

/-!
# Numbers and texts as values in TOML

The text of a number is read as the number, and plain characters between quotes as a text, where
the line ends behind them. What is tried before a number, a date or a time, needs a mark between
its digits, so no number is taken for one.
-/

namespace CloudSpeech.Toml

variable {chars rest : List Char}

/-! ## Numbers -/

/-- Behind a number of so many digits there are the other characters of the line. -/
theorem exists_of_readFixed {count value : Nat} {after : List Char}
    (h : readFixed count (chars ++ '\n' :: rest) = some (value, after)) :
    ∃ c more, after = c :: more ∧ (c ∈ chars ∨ c = '\n') := by
  rw [readFixed] at h
  split at h
  · next hfixed =>
      cases h
      by_cases hle : count ≤ chars.length
      · rw [List.drop_append_of_le_length hle]
        cases hdrop : chars.drop count with
        | nil => exact ⟨'\n', rest, rfl, .inr rfl⟩
        | cons c more =>
            have hmem : c ∈ chars := List.mem_of_mem_drop (hdrop ▸ List.mem_cons_self)
            exact ⟨c, more ++ '\n' :: rest, rfl, .inl hmem⟩
      · -- Otherwise the break would be among the digits.
        exfalso
        obtain ⟨k, hk⟩ : ∃ k, count - chars.length = k + 1 := ⟨count - chars.length - 1, by omega⟩
        have hbreak : '\n' ∈ (chars ++ '\n' :: rest).take count := by
          rw [List.take_append, hk, List.take_succ_cons]
          simp
        have hdigit := List.all_eq_true.mp hfixed.2 '\n' hbreak
        cases hdigit
  · cases h

theorem expect_eq_none {mark c : Char} (h : c ≠ mark) (more : List Char) :
    expect mark (c :: more) = none := if_neg h

/-- A line without the marks of dates and times does not begin with a moment. -/
theorem readMoment_eq_none (h : ∀ c ∈ chars, c ≠ '-' ∧ c ≠ ':') (rest : List Char) :
    readMoment (chars ++ '\n' :: rest) = none := by
  have hdate : readDate (chars ++ '\n' :: rest) = none := by
    rw [readDate]
    cases hyear : readFixed 4 (chars ++ '\n' :: rest) with
    | none => rfl
    | some found =>
        obtain ⟨c, more, hafter, hc⟩ := exists_of_readFixed hyear
        have hne : c ≠ '-' := hc.elim (fun hmem => (h c hmem).1) fun hline => hline ▸ by decide
        simp [hafter, expect_eq_none hne]
  have htime : readTime (chars ++ '\n' :: rest) = none := by
    rw [readTime]
    cases hhour : readFixed 2 (chars ++ '\n' :: rest) with
    | none => rfl
    | some found =>
        obtain ⟨c, more, hafter, hc⟩ := exists_of_readFixed hhour
        have hne : c ≠ ':' := hc.elim (fun hmem => (h c hmem).2) fun hline => hline ▸ by decide
        simp [hafter, expect_eq_none hne]
  rw [readMoment, hdate, htime]
  rfl

theorem readValue_integer {n : Nat} {text : List Char} (h : IntegerText n text)
    (hn : n < Decimal.signedBound) (rest : List Char) :
    readValue maxDepth (text ++ '\n' :: rest) = some (.integer n, '\n' :: rest) := by
  obtain ⟨⟨c, tail, rfl, hc⟩, hmarks⟩ := h.chars
  have hmoment := readMoment_eq_none hmarks rest
  have hnumber := h.readNumber_eq hn rest
  have hne : ∀ {d : Char}, d.isDigit = false → d ≠ '+' → c ≠ d := by
    rintro d hd hplus rfl
    rcases hc with hdigit | rfl
    · exact absurd hdigit (by rw [hd]; decide)
    · exact hplus rfl
  have hquote : c ≠ '"' := hne rfl (by decide)
  have hsingle : c ≠ '\x27' := hne rfl (by decide)
  have hbracket : c ≠ '[' := hne rfl (by decide)
  have hbrace : c ≠ '\x7b' := hne rfl (by decide)
  rw [List.cons_append] at hmoment hnumber ⊢
  have htext : readText (c :: (tail ++ '\n' :: rest)) = none := by
    simp [readText, readQuoted, hquote, hsingle]
  have hscalar : readScalar (c :: (tail ++ '\n' :: rest)) = some (.integer n, '\n' :: rest) := by
    simp [readScalar, htext, hmoment, hnumber]
  simp [maxDepth, readValue, hbracket, hbrace, hscalar]

/-! ## Texts -/

theorem isPlain_of_isDigit {c : Char} (h : c.isDigit = true) : isPlain c = true := by
  have hbounds := Decimal.toNat_of_isDigit h
  rw [isPlain, Bool.or_eq_true, Bool.and_eq_true, decide_eq_true_eq, decide_eq_true_eq,
    decide_eq_true_eq]
  omega

theorem readBasic_plain {content : List Char}
    (h : ∀ c ∈ content, isPlain c = true ∧ c ≠ '"' ∧ c ≠ '\\') (rest : List Char) :
    readBasic (content ++ '"' :: rest) = some (content, rest) := by
  induction content with
  | nil => rfl
  | cons c more ih =>
      obtain ⟨⟨hplain, hquote, hslash⟩, hmore⟩ := List.forall_mem_cons.mp h
      simp [readBasic, hplain, hslash, ih hmore, prepend]

theorem readLiteral_plain {content : List Char}
    (h : ∀ c ∈ content, isPlain c = true ∧ c ≠ '\x27') (rest : List Char) :
    readLiteral (content ++ '\x27' :: rest) = some (content, rest) := by
  induction content with
  | nil => rfl
  | cons c more ih =>
      obtain ⟨⟨hplain, hquote⟩, hmore⟩ := List.forall_mem_cons.mp h
      simp [readLiteral, hplain, ih hmore, prepend]

theorem readValue_of_readText {content : String} {c : Char} {tail after : List Char}
    (hquote : c = '"' ∨ c = '\x27') (h : readText (c :: tail) = some (content, after)) :
    readValue maxDepth (c :: tail) = some (.string content, after) := by
  have hscalar : readScalar (c :: tail) = some (.string content, after) := by
    simp [readScalar, h]
  rcases hquote with rfl | rfl <;> simp [maxDepth, readValue, hscalar]

theorem readValue_basic {content : List Char} (hne : content ≠ [])
    (h : ∀ c ∈ content, isPlain c = true ∧ c ≠ '"' ∧ c ≠ '\\') (rest : List Char) :
    readValue maxDepth ('"' :: (content ++ '"' :: rest)) =
      some (.string (String.ofList content), rest) := by
  have hread := readBasic_plain h rest
  refine readValue_of_readText (.inl rfl) ?_
  obtain ⟨c, more, rfl⟩ := List.exists_cons_of_ne_nil hne
  have hquote : c ≠ '"' := (h c List.mem_cons_self).2.1
  rw [List.cons_append] at hread ⊢
  simp [readText, readQuoted, hquote, hread]

theorem readValue_literal {content : List Char} (hne : content ≠ [])
    (h : ∀ c ∈ content, isPlain c = true ∧ c ≠ '\x27') (rest : List Char) :
    readValue maxDepth ('\x27' :: (content ++ '\x27' :: rest)) =
      some (.string (String.ofList content), rest) := by
  have hread := readLiteral_plain h rest
  refine readValue_of_readText (.inr rfl) ?_
  obtain ⟨c, more, rfl⟩ := List.exists_cons_of_ne_nil hne
  have hquote : c ≠ '\x27' := (h c List.mem_cons_self).2
  rw [List.cons_append] at hread ⊢
  simp [readText, readQuoted, hquote, hread]

end CloudSpeech.Toml
