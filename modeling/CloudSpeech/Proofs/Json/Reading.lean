import CloudSpeech.Proofs.Json.Grammar
import CloudSpeech.Proofs.Success
import CloudSpeech.Proofs.Text.Runs

/-!
# Texts of the grammar are read

Each token of a text is cut off as the grammar has it, so the reader ends with the tree that the
text spells. A number is the only token whose end depends on what follows.
-/

namespace CloudSpeech.Json

/-! ## Numbers -/

/-- Whether a number ends where this text goes on: no character of a number stands in front. -/
def EndsNumber (rest : List Char) : Prop :=
  ∀ c, rest.head? = some c → c.isDigit = false ∧ c ≠ '.' ∧ c ≠ 'e' ∧ c ≠ 'E'

theorem EndsNumber.nil : EndsNumber [] := nofun

theorem EndsNumber.cons {c : Char} {rest : List Char}
    (h : c.isDigit = false ∧ c ≠ '.' ∧ c ≠ 'e' ∧ c ≠ 'E') : EndsNumber (c :: rest) :=
  fun _ hc => Option.some.inj hc ▸ h

theorem EndsNumber.blank_append {blank rest : List Char} (hblank : Blank blank)
    (hrest : EndsNumber rest) : EndsNumber (blank ++ rest) := by
  cases blank with
  | nil => exact hrest
  | cons c more =>
      refine .cons ?_
      rcases hblank c List.mem_cons_self with rfl | rfl | rfl | rfl <;> decide

theorem ExponentText.scanExponent_eq {exponent : Option (Bool × List Char)} {text rest : List Char}
    (h : ExponentText exponent text) (hrest : EndsNumber rest) :
    scanExponent (text ++ rest) = .ok (exponent, rest) := by
  have hstop : ∀ c, rest.head? = some c → c.isDigit = false := fun c hc => (hrest c hc).1
  have htake : ∀ {digits : List Char}, Decimal.Digits digits →
      (digits ++ rest).takeWhile Char.isDigit = digits :=
    fun h => Text.takeWhile_append_of_head h.isDigit hstop
  have hdrop : ∀ {digits : List Char}, Decimal.Digits digits →
      (digits ++ rest).dropWhile Char.isDigit = rest :=
    fun h => Text.dropWhile_append_of_head h.isDigit hstop
  cases h with
  | absent =>
      cases rest with
      | nil => rfl
      | cons c more =>
          obtain ⟨-, -, he, hE⟩ := hrest c rfl
          exact if_neg (by simp [he, hE])
  | @unsigned mark digits hmark hdigits =>
      cases digits with
      | nil => exact absurd rfl hdigits.ne_nil
      | cons d ds =>
          have hd : d.isDigit = true := hdigits.isDigit d List.mem_cons_self
          have hminus : d ≠ '-' := fun h => by simp [h] at hd
          have hplus : d ≠ '+' := fun h => by simp [h] at hd
          have htake := htake hdigits
          have hdrop := hdrop hdigits
          simp only [List.cons_append] at htake hdrop ⊢
          simp [scanExponent, hmark, hminus, hplus, htake, hdrop]
  | plus hmark hdigits =>
      simp [scanExponent, hmark, htake hdigits, hdrop hdigits, hdigits.ne_nil]
  | minus hmark hdigits =>
      simp [scanExponent, hmark, htake hdigits, hdrop hdigits, hdigits.ne_nil]

theorem ExponentText.head_append {exponent : Option (Bool × List Char)} {text rest : List Char}
    (h : ExponentText exponent text) (hrest : EndsNumber rest) {c : Char}
    (hc : (text ++ rest).head? = some c) : c.isDigit = false ∧ c ≠ '.' := by
  have hmarked : ∀ {mark : Char}, mark = 'e' ∨ mark = 'E' → mark.isDigit = false ∧ mark ≠ '.' := by
    rintro mark (rfl | rfl) <;> decide
  cases h with
  | absent => exact ⟨(hrest c hc).1, (hrest c hc).2.1⟩
  | unsigned hmark _ => exact Option.some.inj hc ▸ hmarked hmark
  | plus hmark _ => exact Option.some.inj hc ▸ hmarked hmark
  | minus hmark _ => exact Option.some.inj hc ▸ hmarked hmark

theorem FractionText.scanFraction_eq {pointed : Bool} {exponent : Option (Bool × List Char)}
    {fraction text exponentText rest : List Char} (h : FractionText pointed fraction text)
    (hexponent : ExponentText exponent exponentText) (hrest : EndsNumber rest) :
    scanFraction (text ++ (exponentText ++ rest)) = .ok ((pointed, fraction), exponent, rest) := by
  have hscan := hexponent.scanExponent_eq hrest
  have hstop := fun c => hexponent.head_append hrest (c := c)
  cases h with
  | absent =>
      have hpoint : ∀ more, exponentText ++ rest = '.' :: more → False := fun more hmore =>
        (hstop '.' (by rw [hmore]; rfl)).2 rfl
      rw [List.nil_append, scanFraction.eq_2 _ hpoint, hscan]
      rfl
  | pointed hdigits =>
      have hstop' := fun c hc => (hstop c hc).1
      rw [List.cons_append, scanFraction, Text.takeWhile_append_of_head hdigits.isDigit hstop',
        Text.dropWhile_append_of_head hdigits.isDigit hstop', if_neg hdigits.ne_nil, hscan]
      rfl

theorem FractionText.head_append {pointed : Bool} {exponent : Option (Bool × List Char)}
    {fraction text exponentText rest : List Char} (h : FractionText pointed fraction text)
    (hexponent : ExponentText exponent exponentText) (hrest : EndsNumber rest) {c : Char}
    (hc : (text ++ (exponentText ++ rest)).head? = some c) : c.isDigit = false := by
  cases h with
  | absent => exact (hexponent.head_append hrest hc).1
  | pointed _ => exact Option.some.inj hc ▸ rfl

/-- A number is cut off where no character of a number follows. -/
theorem NumberSpelling.scanNumber_eq {number : NumberText} {text rest : List Char}
    (h : NumberSpelling number text) (hrest : EndsNumber rest) :
    scanNumber (text ++ rest) = .ok (number, rest) := by
  cases h with
  | @intro negative pointed whole fraction fractionText exponentText exponent hwhole hzero hfraction
      hexponent =>
    have hstop := fun c => hfraction.head_append hexponent hrest (c := c)
    have hunsigned : scanUnsigned negative (whole ++ (fractionText ++ (exponentText ++ rest))) =
        .ok (⟨negative, whole, fraction, pointed, exponent⟩, rest) := by
      have hzero' : ¬ (whole.head? = some '0' ∧ whole.length ≠ 1) := fun h => h.2 (hzero h.1)
      simp only [scanUnsigned, Text.takeWhile_append_of_head hwhole.isDigit hstop,
        Text.dropWhile_append_of_head hwhole.isDigit hstop, if_neg hwhole.ne_nil, if_neg hzero',
        hfraction.scanFraction_eq hexponent hrest]
      rfl
    simp only [List.append_assoc]
    cases negative with
    | true => exact hunsigned
    | false =>
        have hminus : ∀ more, whole ++ (fractionText ++ (exponentText ++ rest)) = '-' :: more →
            False := by
          intro more hmore
          cases whole with
          | nil => exact hwhole.ne_nil rfl
          | cons c ds =>
              have hc := hwhole.isDigit c List.mem_cons_self
              rw [(List.cons.inj hmore).1] at hc
              exact absurd hc (by decide)
        exact (scanNumber.eq_2 _ hminus).trans hunsigned

/-! ## Strings -/

theorem HexDigit.hexValue?_eq {digit : Char} {n : Nat} (h : HexDigit digit n) :
    Text.hexValue? digit = some n := by
  obtain ⟨hn, rfl | rfl⟩ := h
  · exact (by decide : ∀ n < 16, Text.hexValue? (Nat.digitChar n) = some n) n hn
  · exact (by decide : ∀ n < 16, Text.hexValue? (Nat.digitChar n).toUpper = some n) n hn

theorem shortEscapes_sound {letter c : Char} (h : (letter, c) ∈ shortEscapes) :
    simpleEscape? letter = some c ∧ letter ≠ 'u' :=
  (by decide : ∀ escape ∈ shortEscapes,
    simpleEscape? escape.1 = some escape.2 ∧ escape.1 ≠ 'u') _ h

/-- A string is cut into its parts up to its closing quote. -/
theorem PiecesText.scanString_eq {pieces : List Piece} {text : List Char}
    (h : PiecesText pieces text) (rest : List Char) :
    scanString (text ++ '"' :: rest) = (pieces, .closed rest) := by
  induction h with
  | nil => rfl
  | @plain c pieces text hprint hquote hslash _ ih =>
      simp [scanString, hslash, Nat.not_lt.mpr hprint, ih]
  | @escape letter c pieces text hescape _ ih =>
      obtain ⟨hsimple, hu⟩ := shortEscapes_sound hescape
      simp [scanString, hu, hsimple, ih]
  | unit hunit _ ih =>
      cases hunit with
      | intro ha hb hc hd =>
          simp [scanString, hexUnit?, Text.hexNumber?, ha.hexValue?_eq, hb.hexValue?_eq,
            hc.hexValue?_eq, hd.hexValue?_eq, ih]

theorem HexDigit.lt {digit : Char} {n : Nat} (h : HexDigit digit n) : n < 16 := h.1

theorem UnitText.lt {n : Nat} {text : List Char} (h : UnitText n text) : n < 0x10000 := by
  cases h with
  | intro ha hb hc hd =>
      have := ha.lt; have := hb.lt; have := hc.lt; have := hd.lt
      omega

theorem PiecesText.unit_lt {pieces : List Piece} {text : List Char} (h : PiecesText pieces text)
    {n : Nat} (hn : .unit n ∈ pieces) : n < 0x10000 := by
  induction h with
  | nil => simp at hn
  | plain _ _ _ _ ih => exact ih (by simpa using hn)
  | escape _ _ ih => exact ih (by simpa using hn)
  | unit hunit _ ih =>
      rcases List.mem_cons.mp hn with heq | hn
      · exact Piece.unit.inj heq ▸ hunit.lt
      · exact ih hn

/-- A character is no half of a pair. -/
theorem toNat_lt_or_gt (c : Char) : c.toNat < 0xd800 ∨ 0xdfff < c.toNat ∧ c.toNat < 0x110000 :=
  c.valid

theorem joinPieces_unit {flaw : Option Flaw} {n : Nat} (hlow : isLowHalf n = false)
    (hhigh : isHighHalf n = false) (rest : List Piece) :
    joinPieces flaw (.unit n :: rest) = (joinPieces flaw rest).map (Char.ofNat n :: ·) := by
  conv_lhs => unfold joinPieces
  rw [hlow, hhigh, if_neg Bool.false_ne_true, if_neg Bool.false_ne_true]

theorem utf16_eq_halves {n m : Nat} (hn : isHighHalf n = true) (hm : isLowHalf m = true) :
    utf16 (joinHalves n m) = [n, m] := by
  simp only [isHighHalf, isLowHalf, Bool.and_eq_true, decide_eq_true_eq] at hn hm
  have hvalid : (0x10000 + (n - 0xd800) * 0x400 + (m - 0xdc00)).isValidChar := by
    right; omega
  have htoNat : (joinHalves n m).toNat = 0x10000 + (n - 0xd800) * 0x400 + (m - 0xdc00) := by
    rw [joinHalves, Char.toNat_ofNat, if_pos hvalid]
  have hhigh : 0xd800 + (0x10000 + (n - 0xd800) * 0x400 + (m - 0xdc00) - 0x10000) / 0x400 = n := by
    omega
  have hlow : 0xdc00 + (0x10000 + (n - 0xd800) * 0x400 + (m - 0xdc00) - 0x10000) % 0x400 = m := by
    omega
  rw [utf16, htoNat, if_neg (by omega), hhigh, hlow]

theorem utf16_eq_single {n : Nat} (hn : n < 0x10000) (hlow : isLowHalf n = false)
    (hhigh : isHighHalf n = false) : utf16 (Char.ofNat n) = [n] := by
  have hvalid : n.isValidChar := by
    simp only [isHighHalf, isLowHalf, Bool.and_eq_false_iff, decide_eq_false_iff_not] at hlow hhigh
    rw [Nat.isValidChar]
    omega
  rw [utf16, Char.toNat_ofNat, if_pos hvalid, if_pos hn]

theorem Denotes.joinPieces_eq {pieces : List Piece} {content : List Char}
    (h : Denotes pieces content) : joinPieces none pieces = .ok content := by
  induction h with
  | nil => rfl
  | char c _ ih => rw [joinPieces, ih]; rfl
  | @units c pieces content _ ih =>
      have hvalid := toNat_lt_or_gt c
      by_cases hc : c.toNat < 0x10000
      · have hlow : isLowHalf c.toNat = false := by simp [isLowHalf]; omega
        have hhigh : isHighHalf c.toNat = false := by simp [isHighHalf]; omega
        have hunits : utf16 c = [c.toNat] := if_pos hc
        rw [hunits, List.map_singleton, List.singleton_append, joinPieces_unit hlow hhigh, ih,
          Char.ofNat_toNat]
        rfl
      · have hunits : utf16 c = [0xd800 + (c.toNat - 0x10000) / 0x400,
            0xdc00 + (c.toNat - 0x10000) % 0x400] := if_neg hc
        have hhigh : isHighHalf (0xd800 + (c.toNat - 0x10000) / 0x400) = true := by
          simp [isHighHalf]; omega
        have hnotLow : isLowHalf (0xd800 + (c.toNat - 0x10000) / 0x400) = false := by
          simp [isLowHalf]; omega
        have hlow : isLowHalf (0xdc00 + (c.toNat - 0x10000) % 0x400) = true := by
          simp [isLowHalf]; omega
        have hjoin : joinHalves (0xd800 + (c.toNat - 0x10000) / 0x400)
            (0xdc00 + (c.toNat - 0x10000) % 0x400) = c := by
          have hnumber : 0x10000 + (0xd800 + (c.toNat - 0x10000) / 0x400 - 0xd800) * 0x400 +
              (0xdc00 + (c.toNat - 0x10000) % 0x400 - 0xdc00) = c.toNat := by omega
          rw [joinHalves, hnumber, Char.ofNat_toNat]
        rw [hunits]
        simp only [List.map_cons, List.map_nil, List.cons_append, List.nil_append, joinPieces,
          hnotLow, hhigh, hlow, hjoin, ih, if_true, if_false, Bool.false_eq_true]
        rfl

theorem Denotes.of_joinPieces {pieces : List Piece} (hunit : ∀ n, .unit n ∈ pieces → n < 0x10000)
    {content : List Char} (h : joinPieces none pieces = .ok content) : Denotes pieces content := by
  induction pieces using joinPieces.induct none generalizing content with
  | case1 => cases h; exact .nil
  | case2 flaw hflaw => cases hflaw
  | case3 c rest ih =>
      rw [joinPieces] at h
      obtain ⟨content, hrest, rfl⟩ := map_eq_ok_iff.mp h
      exact .char c (ih (fun n hn => hunit n (.tail _ hn)) hrest)
  | case4 n rest hlow =>
      unfold joinPieces at h
      rw [if_pos hlow] at h
      cases h
  | case5 n hlow hhigh m rest hm ih =>
      rw [joinPieces, if_neg hlow, if_pos hhigh, if_pos hm] at h
      obtain ⟨content, hrest, rfl⟩ := map_eq_ok_iff.mp h
      have hunits := Denotes.units (joinHalves n m)
        (ih (fun k hk => hunit k (.tail _ (.tail _ hk))) hrest)
      rwa [utf16_eq_halves hhigh hm] at hunits
  | case6 n hlow hhigh m rest hm =>
      rw [joinPieces, if_neg hlow, if_pos hhigh, if_neg hm] at h
      cases h
  | case7 n hlow hhigh c rest =>
      rw [joinPieces, if_neg hlow, if_pos hhigh] at h
      cases h
  | case8 n hlow hhigh =>
      rw [joinPieces, if_neg hlow, if_pos hhigh] at h
      cases h
  | case9 n rest hlow hhigh ih =>
      rw [Bool.not_eq_true] at hlow hhigh
      rw [joinPieces_unit hlow hhigh] at h
      obtain ⟨content, hrest, rfl⟩ := map_eq_ok_iff.mp h
      have hunits := Denotes.units (Char.ofNat n) (ih (fun k hk => hunit k (.tail _ hk)) hrest)
      rwa [utf16_eq_single (hunit n List.mem_cons_self) hlow hhigh] at hunits

theorem eq_malformed_of_joinPieces {pieces : List Piece} {flaw : Flaw}
    (h : joinPieces none pieces = .error flaw) : flaw = .malformed := by
  fun_induction joinPieces none pieces <;> grind [map_eq_error_iff]

/-- A string is read as a token with the text that it denotes, or with a flaw if it denotes none. -/
theorem StringSpelling.scanToken_eq {content : Except Flaw String} {text : List Char}
    (h : StringSpelling content text) (rest : List Char) :
    scanToken (text ++ rest) = (.string content, rest) := by
  have hscan : ∀ {pieces body}, PiecesText pieces body →
      scanToken ('"' :: (body ++ ['"']) ++ rest) =
        (.string ((joinPieces none pieces).map String.ofList), rest) := by
    intro pieces body hbody
    have hcut := hbody.scanString_eq rest
    simp only [List.cons_append, List.append_assoc, List.nil_append, scanToken, hcut]
  cases h with
  | text hbody hcontent =>
      rw [hscan hbody, hcontent.joinPieces_eq]
      simp [Except.map]
  | @loneHalf pieces body hbody hnone =>
      rw [hscan hbody]
      cases hjoin : joinPieces none pieces with
      | ok content => exact absurd (.of_joinPieces (fun _ => hbody.unit_lt) hjoin) (hnone content)
      | error flaw => rw [eq_malformed_of_joinPieces hjoin]; rfl

/-! ## Tokens -/

/-- Reading goes on with the tokens of a text. -/
def Progress.run (progress : Progress) (chars : List Char) : Progress :=
  (tokens chars).foldl Progress.step progress

theorem isSpace_iff {c : Char} :
    isSpace c = true ↔ c = ' ' ∨ c = '\n' ∨ c = '\t' ∨ c = '\r' := by
  simp [isSpace, or_assoc]

theorem Blank.dropWhile_append {blank : List Char} (h : Blank blank) (rest : List Char) :
    (blank ++ rest).dropWhile isSpace = rest.dropWhile isSpace :=
  List.dropWhile_append_of_pos fun c hc => isSpace_iff.mpr (h c hc)

namespace Progress

theorem run_blank {blank : List Char} (h : Blank blank) (progress : Progress) :
    progress.run blank = progress := by
  have hdrop : blank.dropWhile isSpace = [] := by
    rw [← List.append_nil blank, h.dropWhile_append]
    rfl
  rw [run, tokens, hdrop]
  rfl

/-- A step of the reader: blanks and one token. -/
theorem run_token {token : Token} {c : Char} {blank text rest : List Char} (hblank : Blank blank)
    (hc : isSpace c = false) (hscan : scanToken (c :: (text ++ rest)) = (token, rest))
    (progress : Progress) :
    progress.run (blank ++ c :: (text ++ rest)) = (progress.step token).run rest := by
  have hdrop : (blank ++ c :: (text ++ rest)).dropWhile isSpace = c :: (text ++ rest) := by
    rw [hblank.dropWhile_append, List.dropWhile_cons_of_neg (by simp [hc])]
  have hlength : rest.length < (blank ++ c :: (text ++ rest)).length := by
    simp only [List.length_append, List.length_cons]
    omega
  rw [run, tokens, hdrop]
  simp only [hscan, dif_pos hlength, List.foldl_cons]
  rfl

/-- A step of the reader where the token is a single character. -/
theorem run_mark {token : Token} {c : Char} {blank : List Char} (hblank : Blank blank)
    (hc : isSpace c = false) (hscan : ∀ rest, scanToken (c :: rest) = (token, rest))
    (progress : Progress) (rest : List Char) :
    progress.run (blank ++ c :: rest) = (progress.step token).run rest :=
  @run_token token c blank [] rest hblank hc (hscan rest) progress

/-- A value may also be the first item of an array. -/
theorem step_value {due : Expectation} (hdue : due = .value ∨ due = .itemOrEnd)
    (frames : List Frame) (token : Token) (htoken : token ≠ .closeArray) :
    (within due frames).step token = takeValue frames token := by
  rcases hdue with rfl | rfl
  · rfl
  · cases token <;> first | rfl | exact absurd rfl htoken

/-- A key may also be the first one of an object. -/
theorem step_key {due : Expectation} (hdue : due = .key ∨ due = .keyOrEnd)
    (members : List (Except Flaw String × Tree)) (outer : List Frame)
    (key : Except Flaw String) :
    (within due (.object members :: outer)).step (.string key) =
      within .colon (.member members key :: outer) := by
  rcases hdue with rfl | rfl <;> rfl

end Progress

/-- A character that a number begins with. -/
def Numeric (c : Char) : Prop := c = '-' ∨ c.isDigit = true

instance (c : Char) : Decidable (Numeric c) := inferInstanceAs (Decidable (_ ∨ _))

theorem NumberSpelling.exists_head {number : NumberText} {text : List Char}
    (h : NumberSpelling number text) : ∃ c more, text = c :: more ∧ Numeric c := by
  cases h with
  | @intro negative _ whole _ _ _ _ hwhole _ _ _ =>
    cases negative with
    | true => exact ⟨'-', _, rfl, .inl rfl⟩
    | false =>
        cases whole with
        | nil => exact absurd rfl hwhole.ne_nil
        | cons c more => exact ⟨c, _, rfl, .inr (hwhole.isDigit c List.mem_cons_self)⟩

theorem Numeric.not_isSpace {c : Char} (h : Numeric c) : isSpace c = false := by
  rw [← Bool.not_eq_true, isSpace_iff]
  rintro (rfl | rfl | rfl | rfl) <;> exact absurd h (by decide)

theorem Numeric.scanToken_eq {c : Char} (h : Numeric c) {number : NumberText}
    {text rest : List Char} (hscan : scanNumber (c :: text) = .ok (number, rest)) :
    scanToken (c :: text) = (.number number, rest) := by
  have hc : (c = '-' || c.isDigit) = true := by simpa [Numeric] using h
  have hne : ∀ other : Char, ¬ Numeric other → c ≠ other := fun other hother heq =>
    hother (heq ▸ h)
  rw [scanToken]
  · rw [if_pos hc, hscan]
  all_goals exact hne _ (by decide)

theorem StringSpelling.run_token {content : Except Flaw String} {blank text : List Char}
    (h : StringSpelling content text) (hblank : Blank blank) (progress : Progress)
    (rest : List Char) :
    progress.run (blank ++ (text ++ rest)) = (progress.step (.string content)).run rest := by
  have hscan := h.scanToken_eq rest
  cases h <;> exact Progress.run_token hblank rfl hscan progress

theorem NumberSpelling.run_token {number : NumberText} {blank text rest : List Char}
    (h : NumberSpelling number text) (hblank : Blank blank) (hrest : EndsNumber rest)
    (progress : Progress) :
    progress.run (blank ++ (text ++ rest)) = (progress.step (.number number)).run rest := by
  obtain ⟨c, more, rfl, hc⟩ := h.exists_head
  have hscan := h.scanNumber_eq hrest
  exact Progress.run_token hblank hc.not_isSpace (hc.scanToken_eq hscan) progress

/-! ## Trees -/

mutual

/-- A value is read where a value is due, and reading goes on behind it. -/
theorem Spells.run_eq {tree : Tree} {text : List Char} (h : Spells tree text)
    {due : Expectation} (hdue : due = .value ∨ due = .itemOrEnd) (frames : List Frame)
    {before rest : List Char} (hbefore : Blank before) (hrest : EndsNumber rest) :
    (Progress.within due frames).run (before ++ (text ++ rest)) =
      (Progress.finish tree frames).run rest :=
  match h with
  | .null =>
      (Progress.run_token hbefore rfl rfl _).trans
        (congrArg (Progress.run · rest) (Progress.step_value hdue frames .null nofun))
  | .yes =>
      (Progress.run_token hbefore rfl rfl _).trans
        (congrArg (Progress.run · rest) (Progress.step_value hdue frames (.bool true) nofun))
  | .no =>
      (Progress.run_token hbefore rfl rfl _).trans
        (congrArg (Progress.run · rest) (Progress.step_value hdue frames (.bool false) nofun))
  | .number hnumber => by
      rw [hnumber.run_token hbefore hrest, Progress.step_value hdue frames (.number _) nofun]
      rfl
  | .string hstring => by
      rw [hstring.run_token hbefore, Progress.step_value hdue frames (.string _) nofun]
      rfl
  | .emptyArray hblank => by
      rw [List.cons_append, List.append_assoc,
        Progress.run_mark hbefore rfl (fun _ => rfl),
        Progress.step_value hdue frames .openArray nofun]
      rw [List.singleton_append, Progress.takeValue, Progress.run_mark hblank rfl (fun _ => rfl)]
      rfl
  | .array hitems => by
      rw [List.cons_append, List.append_assoc,
        Progress.run_mark hbefore rfl (fun _ => rfl),
        Progress.step_value hdue frames .openArray nofun]
      exact hitems.run_eq (.inr rfl) [] frames rest
  | .emptyObject hblank => by
      rw [List.cons_append, List.append_assoc,
        Progress.run_mark hbefore rfl (fun _ => rfl),
        Progress.step_value hdue frames .openObject nofun]
      rw [List.singleton_append, Progress.takeValue, Progress.run_mark hblank rfl (fun _ => rfl)]
      rfl
  | .object hmembers => by
      rw [List.cons_append, List.append_assoc,
        Progress.run_mark hbefore rfl (fun _ => rfl),
        Progress.step_value hdue frames .openObject nofun]
      exact hmembers.run_eq (.inr rfl) [] frames rest

/-- The items of an array are read, and its end. -/
theorem SpellsItems.run_eq {items : List Tree} {text : List Char} (h : SpellsItems items text)
    {due : Expectation} (hdue : due = .value ∨ due = .itemOrEnd) (done : List Tree)
    (outer : List Frame) (rest : List Char) :
    (Progress.within due (.array done :: outer)).run (text ++ ']' :: rest) =
      (Progress.finish (.array (done.reverse ++ items) none) outer).run rest :=
  match h with
  | @SpellsItems.last item _ _ _ hbefore hitem hafter => by
      have hend : EndsNumber (']' :: rest) := .cons (by decide)
      rw [List.append_assoc, List.append_assoc,
        hitem.run_eq hdue _ hbefore (.blank_append hafter hend), Progress.finish,
        Progress.run_mark hafter rfl (fun _ => rfl), ← List.reverse_cons]
      rfl
  | @SpellsItems.cons item items _ _ _ more hbefore hitem hafter hmore => by
      have hend : EndsNumber (',' :: (more ++ ']' :: rest)) := .cons (by decide)
      rw [List.append_assoc, List.append_assoc, List.append_assoc, List.cons_append,
        hitem.run_eq hdue _ hbefore (.blank_append hafter hend), Progress.finish,
        Progress.run_mark hafter rfl (fun _ => rfl)]
      refine (hmore.run_eq (.inl rfl) (item :: done) outer rest).trans ?_
      rw [List.reverse_cons, List.append_assoc, List.singleton_append]

/-- A member of an object is read, and reading goes on behind it. -/
theorem SpellsMember.run_eq {member : Except Flaw String × Tree} {text : List Char}
    (h : SpellsMember member text) {due : Expectation} (hdue : due = .key ∨ due = .keyOrEnd)
    (done : List (Except Flaw String × Tree)) (outer : List Frame) {mark : Char}
    {rest : List Char} (hmark : EndsNumber (mark :: rest)) (hspace : isSpace mark = false)
    {token : Token} (hscan : ∀ rest, scanToken (mark :: rest) = (token, rest)) :
    (Progress.within due (.object done :: outer)).run (text ++ mark :: rest) =
      ((Progress.within .commaOrEnd (.object (member :: done) :: outer)).step token).run rest :=
  match h with
  | @SpellsMember.intro _ _ _ _ _ _ _ _ hbefore hkey hmiddle hbetween hvalue hafter => by
      simp only [List.append_assoc, List.cons_append]
      rw [hkey.run_token hbefore, Progress.step_key hdue,
        Progress.run_mark hmiddle rfl (fun _ => rfl)]
      refine (hvalue.run_eq (.inl rfl) _ hbetween (.blank_append hafter hmark)).trans ?_
      exact Progress.run_mark hafter hspace hscan _ rest

/-- The members of an object are read, and its end. -/
theorem SpellsMembers.run_eq {members : List (Except Flaw String × Tree)} {text : List Char}
    (h : SpellsMembers members text) {due : Expectation} (hdue : due = .key ∨ due = .keyOrEnd)
    (done : List (Except Flaw String × Tree)) (outer : List Frame) (rest : List Char) :
    (Progress.within due (.object done :: outer)).run (text ++ '\x7d' :: rest) =
      (Progress.finish (.object (done.reverse ++ members) none) outer).run rest :=
  match h with
  | .last hmember => by
      rw [hmember.run_eq hdue done outer (.cons (by decide)) rfl (fun _ => rfl),
        ← List.reverse_cons]
      rfl
  | @SpellsMembers.cons member members _ more hmember hmore => by
      rw [List.append_assoc, List.cons_append,
        hmember.run_eq hdue done outer (.cons (by decide)) rfl (fun _ => rfl)]
      refine (hmore.run_eq (.inl rfl) (member :: done) outer rest).trans ?_
      rw [List.reverse_cons, List.append_assoc, List.singleton_append]

end

/-- Every text of the grammar is read as the tree that it spells. -/
theorem Tree.ofText_eq {tree : Tree} {text : String} (h : IsText tree text) :
    Tree.ofText text = ⟨tree, false⟩ := by
  obtain ⟨before, value, after, hbefore, hvalue, hafter, htext⟩ := h
  have hrun : Progress.start.run text.toList = .complete ⟨tree, false⟩ := by
    have hend : EndsNumber after := List.append_nil after ▸ .blank_append hafter .nil
    rw [htext, Progress.start, hvalue.run_eq (.inl rfl) [] hbefore hend,
      Progress.run_blank hafter]
    rfl
  rw [Tree.ofText, ← Progress.run, hrun]
  rfl

end CloudSpeech.Json
