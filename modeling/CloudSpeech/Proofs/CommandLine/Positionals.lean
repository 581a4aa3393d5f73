import CloudSpeech.CommandLine.Invocation
import CloudSpeech.Proofs.CommandLine.Reading
import CloudSpeech.Proofs.Decimal.Numerals

/-!
# Words that are no options

A word is checked when the next one comes, or at the end. Where no word is an option this makes no
difference: reading comes to the same as storing each word at once, in its place or behind the rest.
Two dashes in front make every word one that is no option, so every key, index and message can be
given on a command line, whatever they look like.
-/

namespace CloudSpeech.CommandLine

namespace Reader

variable {reader settled next : Reader} {word : Word}

/-- Stores a word at once: in the next place, or behind the rest when all places are filled. -/
def store (reader : Reader) (word : Word) : Except Stop Reader :=
  match reader.places with
  | place :: places =>
      (fill reader.arguments place word).map fun arguments => { reader with arguments, places }
  | [] =>
      (readText word).map fun text =>
        { reader with
          arguments := { reader.arguments with rest := reader.arguments.rest ++ [text] },
          ended := true }

/-- A reader that has read no option and stored no rest. -/
structure WordsOnly (reader : Reader) : Prop where
  rest : reader.arguments.rest = []
  full : ∀ words, reader.held = .rest words → reader.places = [] ∧ reader.ended = true
  noConfig : ∀ value, reader.held ≠ .config value

theorem wordsOnly_start (ended : Bool) : ({ ended } : Reader).WordsOnly := ⟨rfl, nofun, nofun⟩

/-- What is stored before a rest has begun is in the places. -/
theorem WordsOnly.rest_settle (h : reader.WordsOnly) (hsettle : reader.settle = .ok settled)
    (hheld : ∀ words, reader.held ≠ .rest words) : settled.arguments.rest = [] :=
  (Reader.rest_settle hsettle hheld).trans h.rest

theorem WordsOnly.takePositional (h : reader.WordsOnly)
    (htake : reader.takePositional word = .ok next) :
    next.WordsOnly ∧ (reader.ended = true → next.ended = true) := by
  rw [Reader.takePositional.eq_def] at htake
  split at htake
  · next place places hplaces =>
    obtain ⟨settled, hsettle, rfl⟩ := map_eq_ok_iff.mp htake
    have hheld : ∀ words, reader.held ≠ .rest words := by
      intro words hrest
      cases hplaces.symm.trans (h.full words hrest).1
    have hrest := h.rest_settle hsettle hheld
    exact ⟨⟨hrest, nofun, nofun⟩, fun hended => (settle_eq_ok hsettle).2.2.trans hended⟩
  · next words hplaces hrest =>
    cases htake
    exact ⟨⟨h.rest, fun _ _ => ⟨hplaces, (h.full words hrest).2⟩, nofun⟩, id⟩
  · next hplaces hheld =>
    obtain ⟨settled, hsettle, rfl⟩ := map_eq_ok_iff.mp htake
    have hnone : settled.places = [] := (settle_eq_ok hsettle).2.1.trans hplaces
    have hrest := h.rest_settle hsettle hheld
    exact ⟨⟨hrest, fun _ _ => ⟨hnone, rfl⟩, nofun⟩, fun _ => rfl⟩

/-- The last word of a rest is stored behind the others. -/
theorem settle_rest_cons (reader : Reader) (word : Word) (words : List Word) :
    settle { reader with held := .rest (word :: words) } =
      settle { reader with held := .rest words } >>= fun settled =>
        (readText word).map fun text =>
          { settled with
            arguments := { settled.arguments with rest := settled.arguments.rest ++ [text] } } := by
  rw [settle, settle]
  dsimp only
  rw [List.reverse_cons, List.mapM_append, List.mapM_cons, List.mapM_nil]
  cases words.reverse.mapM readText with
  | error stop => rfl
  | ok texts => cases readText word <;> rfl

/-- Taking a word and storing it is storing what is held back and then the word. -/
theorem WordsOnly.takePositional_bind_settle (h : reader.WordsOnly) (word : Word) :
    reader.takePositional word >>= settle = reader.settle >>= fun settled => settled.store word := by
  rw [Reader.takePositional.eq_def]
  split
  · next place places hplaces =>
    cases hsettle : reader.settle with
    | error stop => rfl
    | ok settled =>
        obtain ⟨arguments, held, left, ended⟩ := settled
        obtain ⟨rfl, hleft, -⟩ := settle_eq_ok hsettle
        obtain rfl : left = place :: places := hleft.trans hplaces
        rfl
  · next words hplaces hrest =>
    have hsame : { reader with held := .rest words } = reader := by rw [← hrest]
    rw [bind_ok, settle_rest_cons, hsame]
    cases hsettle : reader.settle with
    | error stop => rfl
    | ok settled =>
        obtain ⟨arguments, held, left, ended⟩ := settled
        obtain ⟨rfl, hleft, hended⟩ := settle_eq_ok hsettle
        obtain rfl : left = [] := hleft.trans hplaces
        obtain rfl : ended = true := hended.trans (h.full words hrest).2
        rfl
  · next hplaces hheld =>
    cases hsettle : reader.settle with
    | error stop => rfl
    | ok settled =>
        have hnone := h.rest_settle hsettle hheld
        obtain ⟨arguments, held, left, ended⟩ := settled
        obtain ⟨rfl, hleft, -⟩ := settle_eq_ok hsettle
        obtain rfl : left = [] := hleft.trans hplaces
        have hsame : { arguments with rest := [] } = arguments := by rw [← hnone]
        have hempty : settle ⟨arguments, .rest [], [], true⟩ = .ok ⟨arguments, .nothing, [], true⟩ :=
          congrArg (fun stored => Except.ok (Reader.mk stored .nothing [] true)) hsame
        refine (settle_rest_cons ⟨arguments, .nothing, [], true⟩ word []).trans ?_
        rw [hempty]
        rfl

/-! ## All words -/

/-- Words that are no options, because options have ended or because they do not look like any, are
stored one after the other. -/
theorem WordsOnly.foldlM_take_bind_settle (h : reader.WordsOnly) {words : List Word}
    (hwords : reader.ended = true ∨ ∀ word ∈ words, word.shape = .plain) :
    words.foldlM take reader >>= settle =
      reader.settle >>= fun settled => words.foldlM store settled := by
  induction words generalizing reader with
  | nil => exact (bind_pure reader.settle).symm
  | cons word words ih =>
      have hplain : reader.ended = false → word.shape = .plain := by
        intro hended
        rcases hwords with hends | hall
        · cases hended.symm.trans hends
        · exact hall word List.mem_cons_self
      have hstep := h.takePositional_bind_settle word
      rw [List.foldlM_cons, take_eq_takePositional (h.noConfig none) hplain]
      simp only [List.foldlM_cons, ← bind_assoc]
      rw [← hstep]
      cases htake : reader.takePositional word with
      | error stop => rfl
      | ok next =>
          obtain ⟨hnext, hended⟩ := h.takePositional htake
          rw [bind_ok, bind_ok]
          apply ih hnext
          exact hwords.imp hended fun hall other hother => hall other (List.mem_cons_of_mem word hother)

theorem settle_bind_finish (reader : Reader) : reader.settle >>= finish = reader.finish := by
  cases hsettle : reader.settle with
  | error stop =>
      rw [finish, hsettle]
      rfl
  | ok settled =>
      have hagain : settled.settle = .ok settled := by rw [settle, (settle_eq_ok hsettle).1]
      rw [bind_ok, finish, finish, hsettle, hagain]

/-- Reading words that are no options comes to the same as storing each at once. -/
theorem WordsOnly.foldlM_take_bind_finish (h : reader.WordsOnly) {words : List Word}
    (hwords : reader.ended = true ∨ ∀ word ∈ words, word.shape = .plain) :
    words.foldlM take reader >>= finish =
      reader.settle >>= fun settled => words.foldlM store settled >>= finish := by
  have hstored := h.foldlM_take_bind_settle hwords
  rw [← bind_assoc, ← hstored, bind_assoc]
  exact congrArg _ (funext fun last => (settle_bind_finish last).symm)

/-! ## Commands -/

theorem foldlM_store_rest (arguments : Arguments) (held : Held) (ended : Bool)
    (texts : List String) :
    ∃ last, (texts.map Word.text).foldlM store ⟨arguments, held, [], ended⟩ =
      .ok ⟨{ arguments with rest := arguments.rest ++ texts }, held, [], last⟩ := by
  induction texts generalizing arguments ended with
  | nil =>
      rw [List.append_nil]
      exact ⟨ended, rfl⟩
  | cons text texts ih =>
      obtain ⟨last, hread⟩ := ih { arguments with rest := arguments.rest ++ [text] } true
      refine ⟨last, ?_⟩
      rw [List.append_cons]
      exact hread

theorem readIndex_toString {index : Nat} (h : index < UInt64.size) :
    readIndex (.text (toString index)) = .ok index := by
  rw [readIndex, Word.text?]
  dsimp only
  rw [Decimal.readUnsigned_toString h]
  rfl

/-- A key, an index and a message go to their places, and what follows them is the rest. -/
theorem foldlM_store_command (ended : Bool) (key message : String) {index : Nat}
    (h : index < UInt64.size) (more : List String) :
    ∃ last, (([key, toString index, message] ++ more).map Word.text).foldlM store { ended } =
      .ok ⟨{ apiKey := some key, langIndex := some index, message := some message, rest := more },
        .nothing, [], last⟩ := by
  have hplaces : ([key, toString index, message].map Word.text).foldlM store { ended } =
      .ok ⟨{ apiKey := some key, langIndex := some index, message := some message }, .nothing, [],
        ended⟩ := by
    have hindex : store ⟨{ apiKey := some key }, .nothing, [.langIndex, .message], ended⟩
          (.text (toString index)) =
        .ok ⟨{ apiKey := some key, langIndex := some index }, .nothing, [.message], ended⟩ := by
      rw [store]
      dsimp only
      rw [fill, readIndex_toString h]
      rfl
    have hkey : store { ended } (.text key) =
        .ok ⟨{ apiKey := some key }, .nothing, [.langIndex, .message], ended⟩ := rfl
    rw [List.map_cons, List.foldlM_cons, hkey, bind_ok, List.map_cons, List.foldlM_cons, hindex]
    rfl
  obtain ⟨last, hrest⟩ := foldlM_store_rest
    { apiKey := some key, langIndex := some index, message := some message } .nothing ended more
  refine ⟨last, ?_⟩
  rw [List.map_append, List.foldlM_append, hplaces, bind_ok, hrest]
  rfl

end Reader

/-- After two dashes every word is stored, whatever it looks like. -/
theorem Arguments.read_terminator_cons (words : List Word) :
    Arguments.read (.text "--" :: words) =
      words.foldlM Reader.store { ended := true } >>= Reader.finish :=
  (Reader.wordsOnly_start true).foldlM_take_bind_finish (.inl rfl)

theorem Arguments.read_of_plain {words : List Word} (hwords : ∀ word ∈ words, word.shape = .plain) :
    Arguments.read words = words.foldlM Reader.store {} >>= Reader.finish :=
  (Reader.wordsOnly_start false).foldlM_take_bind_finish (.inr hwords)

theorem not_startsWithDash_toString (index : Nat) :
    ¬ (Word.text (toString index)).StartsWithDash := by
  intro hdash
  have hdash : (Nat.toDigits 10 index).head? = some '-' := Decimal.toList_toString_nat index ▸ hdash
  obtain ⟨rest, hdigits⟩ := List.head?_eq_some_iff.mp hdash
  exact Decimal.toDigits_ne_cons_of_not_isDigit rfl index rest hdigits

/-- A command to speak can be written on a command line behind two dashes, whatever its key and its
message look like, and without them if neither looks like an option. Words behind it are kept as
they are and change nothing. -/
theorem Arguments.read_written_command (program : Word) (key message : String) {index : Nat}
    (hindex : index < UInt64.size) :
    (∀ more : List String, ∃ arguments,
      Arguments.read
          (program :: .text "--" :: ([key, toString index, message] ++ more).map Word.text).tail =
        .ok arguments ∧
      arguments = { apiKey := some key, langIndex := some index, message := some message,
                    rest := more } ∧
      arguments.invocation = .ok (.speak ⟨key, index, message⟩)) ∧
    ((∀ word ∈ [key, message], word = "-" ∨ ¬ (Word.text word).StartsWithDash) →
      ∃ arguments,
        Arguments.read (program :: [key, toString index, message].map Word.text).tail =
          .ok arguments ∧
        arguments = { apiKey := some key, langIndex := some index, message := some message } ∧
        arguments.invocation = .ok (.speak ⟨key, index, message⟩)) := by
  constructor
  · intro more
    obtain ⟨last, hstored⟩ := Reader.foldlM_store_command true key message hindex more
    refine ⟨_, ?_, rfl, rfl⟩
    rw [List.tail_cons, Arguments.read_terminator_cons, hstored]
    rfl
  · intro hlook
    have hplain : ∀ word ∈ [key, toString index, message].map Word.text, word.shape = .plain := by
      intro word hword
      obtain ⟨text, htext, rfl⟩ := List.mem_map.mp hword
      apply Word.shape_of_isValue
      rcases List.mem_cons.mp htext with rfl | htext
      · exact hlook _ List.mem_cons_self
      rcases List.mem_cons.mp htext with rfl | htext
      · exact .inr (not_startsWithDash_toString index)
      · exact hlook text (List.mem_cons_of_mem key htext)
    obtain ⟨last, hstored⟩ := Reader.foldlM_store_command false key message hindex []
    rw [List.append_nil] at hstored
    refine ⟨_, ?_, rfl, rfl⟩
    rw [List.tail_cons, Arguments.read_of_plain hplain, hstored]
    rfl

/-- The key asks for help, the message is empty, the index is the largest there is, and two more
dashes and an option follow. -/
theorem Arguments.read_command_like_options :
    18446744073709551615 < UInt64.size ∧
      Arguments.read [.text "--", .text "--help", .text "18446744073709551615", .text "",
          .text "--", .text "--json"] =
        .ok { apiKey := some "--help", langIndex := some 18446744073709551615, message := some "",
              rest := ["--", "--json"] } ∧
      (∀ word ∈ ["-", "1-2"], word = "-" ∨ ¬ (Word.text word).StartsWithDash) ∧
      Arguments.read [.text "-", .text "18446744073709551615", .text "1-2"] =
        .ok { apiKey := some "-", langIndex := some 18446744073709551615, message := some "1-2" } := by
  have hindex : 18446744073709551615 < UInt64.size := by decide
  have hlook : ∀ word ∈ ["-", "1-2"], word = "-" ∨ ¬ (Word.text word).StartsWithDash := by decide
  obtain ⟨hbehind, -⟩ := Arguments.read_written_command (.text "bing-tts") "--help" "" hindex
  obtain ⟨-, hplain⟩ := Arguments.read_written_command (.text "bing-tts") "-" "1-2" hindex
  obtain ⟨_, hread, rfl, -⟩ := hbehind ["--", "--json"]
  obtain ⟨_, hreadPlain, rfl, -⟩ := hplain hlook
  exact ⟨hindex, hread, hlook, hreadPlain⟩

end CloudSpeech.CommandLine
