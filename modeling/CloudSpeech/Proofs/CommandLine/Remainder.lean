import CloudSpeech.Proofs.CommandLine.Reading
import CloudSpeech.Program
import CloudSpeech.Settings.Folder

/-!
# Words after the message

The places are filled in order, so when there is a message no place is left, and the next word that
does not begin with a dash begins the rest. From then on nothing is an option, and the program does
not look at the rest. So whatever stands there makes no difference.
-/

namespace CloudSpeech.CommandLine

namespace Reader

variable {reader settled next : Reader} {word : Word}

/-- A reader that has filled the places in order: while that of the message is left there is no
message, and none is held back. -/
structure Ordered (reader : Reader) : Prop where
  places : reader.places <:+ [.apiKey, .langIndex, .message]
  message : .message ∈ reader.places → reader.arguments.message = none ∧
    ∀ word, reader.held ≠ .positional .message word
  rest : reader.held ≠ .rest []

theorem ordered_start : ({} : Reader).Ordered where
  places := List.suffix_rfl
  message := fun _ => ⟨rfl, nofun⟩
  rest := nofun

theorem message_fill {arguments filled : Arguments} {place : Place}
    (h : fill arguments place word = .ok filled) (hplace : place ≠ .message) :
    filled.message = arguments.message := by
  cases place with
  | message => exact absurd rfl hplace
  | apiKey | langIndex =>
      obtain ⟨found, -, rfl⟩ := map_eq_ok_iff.mp h
      rfl

theorem message_setConfig {arguments changed : Arguments} {path : Word}
    (h : setConfig arguments path = .ok changed) : changed.message = arguments.message := by
  rw [eq_of_setConfig h]

theorem message_settle (h : reader.settle = .ok settled)
    (hheld : ∀ word, reader.held ≠ .positional .message word) :
    settled.arguments.message = reader.arguments.message := by
  cases settles_of_settle h with
  | nothing | rest => rfl
  | @place place held arguments hplace hfill =>
      refine message_fill hfill ?_
      rintro rfl
      exact hheld held hplace
  | config _ hset => exact message_setConfig hset

namespace Ordered

theorem settle (h : reader.Ordered) (hsettle : reader.settle = .ok settled) : settled.Ordered := by
  obtain ⟨hheld, hplaces, -⟩ := settle_eq_ok hsettle
  refine ⟨hplaces ▸ h.places, fun hmem => ?_, by simp [hheld]⟩
  obtain ⟨hnone, hpositional⟩ := h.message (hplaces ▸ hmem)
  exact ⟨(message_settle hsettle hpositional).trans hnone, by simp [hheld]⟩

/-- What a word makes of a reader keeps the order. -/
theorem takes (h : reader.Ordered) (htakes : Takes reader word next) : next.Ordered := by
  cases htakes with
  | terminator => exact ⟨h.places, h.message, h.rest⟩
  | path hheld => exact ⟨h.places, fun hmem => ⟨(h.message hmem).1, nofun⟩, nofun⟩
  | more hheld => exact ⟨h.places, fun hmem => ⟨(h.message hmem).1, nofun⟩, nofun⟩
  | @place settled place places hsettle hplaces =>
      have hsuffix : place :: places <:+ [.apiKey, .langIndex, .message] := hplaces ▸ h.places
      have hnodup : (place :: places).Nodup := hsuffix.sublist.nodup (by decide)
      refine ⟨(List.suffix_cons place places).trans hsuffix, fun hmem => ⟨?_, ?_⟩, nofun⟩
      · have hleft : .message ∈ settled.places := by
          rw [(settle_eq_ok hsettle).2.1, hplaces]
          exact List.mem_cons_of_mem place hmem
        exact ((h.settle hsettle).message hleft).1
      · rintro held heq
        cases heq
        exact (List.nodup_cons.mp hnodup).1 hmem
  | @rest settled hsettle hplaces =>
      have hnone : settled.places = [] := (settle_eq_ok hsettle).2.1.trans hplaces
      exact ⟨(h.settle hsettle).places, fun hmem => by simp [hnone] at hmem, nofun⟩
  | listVoices hsettle =>
      have hsettled := h.settle hsettle
      exact ⟨hsettled.places, hsettled.message, hsettled.rest⟩
  | json hsettle =>
      have hsettled := h.settle hsettle
      exact ⟨hsettled.places, hsettled.message, hsettled.rest⟩
  | opened hsettle =>
      have hsettled := h.settle hsettle
      exact ⟨hsettled.places, fun hmem => ⟨(hsettled.message hmem).1, nofun⟩, nofun⟩
  | config hsettle hset =>
      have hsettled := h.settle hsettle
      refine ⟨hsettled.places, fun hmem => ?_, hsettled.rest⟩
      obtain ⟨hnone, hpositional⟩ := hsettled.message hmem
      exact ⟨(message_setConfig hset).trans hnone, hpositional⟩

theorem foldlM_take (h : reader.Ordered) {words : List Word}
    (hread : words.foldlM take reader = .ok next) : next.Ordered :=
  foldlM_take_keeps takes h hread

/-- Where there is a message, no place is left. -/
theorem places_eq_nil (h : reader.Ordered) (hmessage : reader.arguments.message ≠ none) :
    reader.places = [] := by
  have habsent : .message ∉ reader.places := fun hmem => hmessage (h.message hmem).1
  have hlast : ∀ places : List Place, places <:+ [.apiKey, .langIndex, .message] →
      .message ∉ places → places = [] := by
    intro places hsuffix hout
    rcases List.eq_nil_or_concat places with rfl | ⟨front, last, rfl⟩
    · rfl
    · have hlast := hsuffix.getLast (by simp)
      simp at hlast
      simp [hlast] at hout
  exact hlast reader.places h.places habsent

end Ordered

/-! ## Words that are texts -/

theorem mapM_readText (texts : List String) :
    (texts.map Word.text).mapM readText = .ok texts := by
  induction texts with
  | nil => rfl
  | cons text rest ih =>
      have hfirst : readText (.text text) = .ok text := rfl
      rw [List.map_cons, List.mapM_cons, hfirst, bind_ok, ih]
      rfl

theorem ne_nil_of_mapM_readText {words : List Word} {texts : List String}
    (h : words.mapM readText = .ok texts) (hwords : words ≠ []) : texts ≠ [] := by
  cases words with
  | nil => exact absurd rfl hwords
  | cons word rest =>
      rw [List.mapM_cons] at h
      obtain ⟨first, -, hrest⟩ := bind_eq_ok_iff.mp h
      obtain ⟨others, -, hsame⟩ := bind_eq_ok_iff.mp hrest
      cases hsame
      exact List.cons_ne_nil first others

/-- Where no rest was read, none has begun. -/
theorem Ordered.held_ne_rest (h : reader.Ordered) (hsettle : reader.settle = .ok settled)
    (hrest : settled.arguments.rest = []) (words : List Word) : reader.held ≠ .rest words := by
  intro hheld
  rw [Reader.settle, hheld] at hsettle
  obtain ⟨texts, hread, rfl⟩ := map_eq_ok_iff.mp hsettle
  have hwords : words.reverse ≠ [] := by
    intro hnil
    rw [List.reverse_eq_nil_iff.mp hnil] at hheld
    exact h.rest hheld
  exact ne_nil_of_mapM_readText hread hwords hrest

end Reader

open Reader in
/-- Words after the message are kept as they are, and what was read before them stays. -/
theorem Arguments.read_append {words : List Word} {arguments : Arguments} {word : String}
    (hread : Arguments.read words = .ok arguments) (hmessage : arguments.message ≠ none)
    (hrest : arguments.rest = []) (hword : ¬ (Word.text word).StartsWithDash)
    (more : List String) :
    Arguments.read (words ++ (word :: more).map Word.text) =
      .ok { arguments with rest := word :: more } := by
  obtain ⟨reader, hwords, hfinish⟩ := bind_eq_ok_iff.mp hread
  obtain ⟨settled, hsettle, rfl, hcompanion⟩ := finish_eq_ok_iff.mp hfinish
  have hordered : reader.Ordered := ordered_start.foldlM_take hwords
  have hfull : settled.places = [] := (hordered.settle hsettle).places_eq_nil hmessage
  -- The first word begins the rest, and the others are added to it.
  have hbegin : reader.take (.text word) =
      .ok { settled with held := .rest [.text word], ended := true } := by
    rw [take_eq_takePositional (held_ne_config_none hsettle)
      fun _ => Word.shape_of_not_startsWithDash hword]
    exact takePositional_of_full hsettle hfull (hordered.held_ne_rest hsettle hrest)
  have hall := foldlM_take_of_rest { settled with ended := true } rfl hfull [.text word]
    (more.map Word.text)
  have htexts : ((more.map Word.text).reverse ++ [Word.text word]).reverse.mapM readText =
      .ok (word :: more) := by
    rw [List.reverse_append, List.reverse_reverse]
    exact mapM_readText (word :: more)
  rw [Arguments.read, List.foldlM_append, hwords, bind_ok, List.map_cons, List.foldlM_cons, hbegin,
    bind_ok, hall, bind_ok]
  refine finish_eq_ok_iff.mpr ⟨{ settled with
    arguments := { settled.arguments with rest := word :: more }, held := .nothing, ended := true },
    ?_, rfl, hcompanion⟩
  rw [settle]
  simp only [htexts]
  rfl

end CloudSpeech.CommandLine

namespace CloudSpeech.Program

open CommandLine (Arguments Word)

/-- Words after the message, whatever they look like, change neither what an invocation asks for
nor anything that comes of it. The first of them does not begin with a dash; there is no place left
for it, since the places before that of the message are filled first. -/
theorem run_append_words {words : List Word} {arguments : Arguments} {word : String}
    (hread : Arguments.read words.tail = .ok arguments) (hmessage : arguments.message ≠ none)
    (hrest : arguments.rest = []) (hword : ¬ (Word.text word).StartsWithDash)
    (more : List String) :
    Arguments.read (words ++ (word :: more).map Word.text).tail =
        .ok { arguments with rest := word :: more } ∧
      Arguments.invocation { arguments with rest := word :: more } = arguments.invocation ∧
      ∀ directory environment make,
        run directory environment make (words ++ (word :: more).map Word.text) =
          run directory environment make words := by
  obtain ⟨program, others, rfl⟩ : ∃ program others, words = program :: others := by
    cases words with
    | cons program others => exact ⟨program, others, rfl⟩
    | nil =>
        cases hread
        exact absurd rfl hmessage
  have hlonger := Arguments.read_append hread hmessage hrest hword more
  refine ⟨hlonger, rfl, fun directory environment make => ?_⟩
  have hstart : start (program :: others ++ (word :: more).map Word.text) =
      start (program :: others) := by
    rw [List.tail_cons] at hread hlonger
    rw [start, start, List.cons_append, List.tail_cons, List.tail_cons, hread, hlonger]
    rfl
  rw [run, run, hstart]

/-- After a message come a request for help, two dashes, an option without its value and one that
does not exist. -/
theorem run_with_options_after_message :
    let words : List Word := [.text "bing-tts", .text "--config=own.toml", .text "-", .text "+8",
      .text "hello"]
    let arguments : Arguments := ⟨some "-", some 8, some "hello", [], false, false,
      some (.text "own.toml")⟩
    let more := ["--help", "--", "--json", "-x", "--config"]
    Arguments.read words.tail = .ok arguments ∧ arguments.message ≠ none ∧ arguments.rest = [] ∧
      ¬ (Word.text "world").StartsWithDash ∧
      Arguments.read (words ++ ("world" :: more).map Word.text).tail =
        .ok { arguments with rest := "world" :: more } ∧
      run (Settings.Folder.toDirectory ⟨"/work", []⟩) [] (fun _ => .error ["no backend"])
          (words ++ ("world" :: more).map Word.text) =
        run (Settings.Folder.toDirectory ⟨"/work", []⟩) [] (fun _ => .error ["no backend"])
          words := by
  intro words arguments more
  have hread : Arguments.read words.tail = .ok arguments := by rfl
  have hmessage : arguments.message ≠ none := nofun
  have hword : ¬ (Word.text "world").StartsWithDash := by decide
  obtain ⟨hlonger, -, hrun⟩ := run_append_words hread hmessage rfl hword more
  exact ⟨hread, hmessage, rfl, hword, hlonger, hrun _ _ _⟩

end CloudSpeech.Program
