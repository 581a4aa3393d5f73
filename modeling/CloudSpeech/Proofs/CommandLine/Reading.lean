import CloudSpeech.CommandLine.Arguments
import CloudSpeech.Proofs.Success

/-!
# Reading one word

A reader holds back one word, or the words after the message. What the next word does to it is one
of a few things: `Takes` lists them, with what is stored on the way. The places are filled in order,
so whoever has a message has no place left, and a word that comes then begins the rest.
-/

namespace CloudSpeech.CommandLine

/-- A word that begins with a dash. -/
def Word.StartsWithDash : Word → Prop
  | .text content => content.toList.head? = some '-'
  | .raw octets => octets.head? = some 0x2d

instance (word : Word) : Decidable word.StartsWithDash :=
  match word with
  | .text content => inferInstanceAs (Decidable (content.toList.head? = some '-'))
  | .raw octets => inferInstanceAs (Decidable (octets.head? = some 0x2d))

theorem Word.shape_of_not_startsWithDash {word : Word} (h : ¬ word.StartsWithDash) :
    word.shape = .plain := by
  cases word with
  | text content =>
      rw [shape]
      split
      · next heq => exact absurd (by rw [StartsWithDash, heq]; rfl) h
      · next heq => exact absurd (by rw [StartsWithDash, heq]; rfl) h
      · next heq => exact absurd (by rw [StartsWithDash, heq]; rfl) h
      · rfl
  | raw octets =>
      cases octets with
      | nil => rfl
      | cons b rest =>
          have hdash : b ≠ 0x2d := fun hb => h (congrArg some hb)
          cases rest with
          | nil => simp [shape]
          | cons c rest => simp [shape, hdash]

theorem Word.shape_of_isValue {word : String}
    (h : word = "-" ∨ ¬ (Word.text word).StartsWithDash) : (Word.text word).shape = .plain := by
  rcases h with rfl | hdash
  · rfl
  · exact shape_of_not_startsWithDash hdash

namespace Reader

variable {reader settled next : Reader} {word : Word}

/-! ## Storing what is held back -/

/-- What storing makes of a reader, by what is held back. -/
inductive Settles (reader : Reader) : Reader → Prop
  | nothing (hheld : reader.held = .nothing) : Settles reader reader
  | place {place : Place} {word : Word} {arguments : Arguments}
      (hheld : reader.held = .positional place word)
      (hfill : fill reader.arguments place word = .ok arguments) :
      Settles reader { reader with arguments, held := .nothing }
  | config {path : Word} {arguments : Arguments} (hheld : reader.held = .config (some path))
      (hset : setConfig reader.arguments path = .ok arguments) :
      Settles reader { reader with arguments, held := .nothing }
  | rest {words : List Word} {rest : List String} (hheld : reader.held = .rest words)
      (hread : words.reverse.mapM readText = .ok rest) :
      Settles reader { reader with arguments := { reader.arguments with rest }, held := .nothing }

theorem settles_of_settle (h : reader.settle = .ok settled) : Settles reader settled := by
  rw [settle] at h
  split at h
  · next hheld =>
      cases h
      exact .nothing hheld
  · next hheld =>
      obtain ⟨arguments, hfill, rfl⟩ := map_eq_ok_iff.mp h
      exact .place hheld hfill
  · cases h
  · next hheld =>
      obtain ⟨arguments, hset, rfl⟩ := map_eq_ok_iff.mp h
      exact .config hheld hset
  · next hheld =>
      obtain ⟨rest, hread, rfl⟩ := map_eq_ok_iff.mp h
      exact .rest hheld hread

theorem settle_eq_ok (h : reader.settle = .ok settled) :
    settled.held = .nothing ∧ settled.places = reader.places ∧ settled.ended = reader.ended := by
  cases settles_of_settle h with
  | nothing hheld => exact ⟨hheld, rfl, rfl⟩
  | place | config | rest => exact ⟨rfl, rfl, rfl⟩

theorem held_ne_config_none (h : reader.settle = .ok settled) : reader.held ≠ .config none := by
  intro hheld
  rw [settle, hheld] at h
  cases h

theorem finish_eq_ok_iff {arguments : Arguments} :
    reader.finish = .ok arguments ↔
      ∃ settled, reader.settle = .ok settled ∧ settled.arguments = arguments ∧
        (arguments.json = true → arguments.listVoices = true) := by
  rw [finish, bind_eq_ok_iff]
  refine exists_congr fun settled => and_congr_right fun _ => ?_
  split
  · next hrefused =>
      obtain ⟨hjson, hlist⟩ := hrefused
      refine iff_of_false nofun ?_
      rintro ⟨rfl, hcompanion⟩
      exact hlist (hcompanion hjson)
  · next haccepted =>
      have hcompanion : settled.arguments.json = true → settled.arguments.listVoices = true :=
        fun hjson => Decidable.not_not.mp fun hlist => haccepted ⟨hjson, hlist⟩
      constructor
      · rintro hsame
        cases hsame
        exact ⟨rfl, hcompanion⟩
      · rintro ⟨rfl, -⟩
        rfl

theorem eq_of_setConfig {arguments changed : Arguments} {path : Word}
    (h : setConfig arguments path = .ok changed) :
    changed = { arguments with configPath := some path } := by
  rw [setConfig] at h
  split at h
  · cases h
  · split at h
    · cases h
    · cases h
      rfl

theorem rest_fill {arguments filled : Arguments} {place : Place}
    (h : fill arguments place word = .ok filled) : filled.rest = arguments.rest := by
  cases place with
  | apiKey | langIndex | message =>
      obtain ⟨found, -, rfl⟩ := map_eq_ok_iff.mp h
      rfl

theorem rest_settle (h : reader.settle = .ok settled) (hheld : ∀ words, reader.held ≠ .rest words) :
    settled.arguments.rest = reader.arguments.rest := by
  cases settles_of_settle h with
  | nothing => rfl
  | place _ hfill => exact rest_fill hfill
  | config _ hset => rw [eq_of_setConfig hset]
  | rest hrest => exact absurd hrest (hheld _)

/-! ## Words that are no options -/

theorem take_eq_takePositional (hheld : reader.held ≠ .config none)
    (hshape : reader.ended = false → word.shape = .plain) :
    reader.take word = reader.takePositional word := by
  rw [take]
  cases hended : reader.ended with
  | true => rfl
  | false =>
      rw [if_neg Bool.false_ne_true, hshape hended]
      dsimp only
      rw [takeValue]
      split
      · next hnone => exact absurd hnone hheld
      · rfl

theorem takePositional_of_place (hsettle : reader.settle = .ok settled) {place : Place}
    {places : List Place} (hplaces : settled.places = place :: places) :
    reader.takePositional word = .ok { settled with held := .positional place word, places } := by
  have hreader : reader.places = place :: places := by
    rw [← (settle_eq_ok hsettle).2.1, hplaces]
  rw [takePositional]
  simp only [hreader, hsettle]
  rfl

theorem takePositional_of_full (hsettle : reader.settle = .ok settled)
    (hplaces : settled.places = []) (hheld : ∀ words, reader.held ≠ .rest words) :
    reader.takePositional word = .ok { settled with held := .rest [word], ended := true } := by
  have hreader : reader.places = [] := by rw [← (settle_eq_ok hsettle).2.1, hplaces]
  rw [takePositional]
  split
  · next hnext => simp [hreader] at hnext
  · next hrest => exact absurd hrest (hheld _)
  · rw [hsettle]
    rfl

/-- Once the rest has begun, every word is added to it. -/
theorem foldlM_take_of_rest (reader : Reader) (hended : reader.ended = true)
    (hplaces : reader.places = []) (words more : List Word) :
    more.foldlM take { reader with held := .rest words } =
      .ok { reader with held := .rest (more.reverse ++ words) } := by
  induction more generalizing words with
  | nil => rfl
  | cons word more ih =>
      have htake : take { reader with held := .rest words } word =
          .ok { reader with held := .rest (word :: words) } := by
        rw [take, if_pos hended, takePositional, hplaces]
      rw [List.foldlM_cons, htake, bind_ok, ih, List.reverse_cons, List.append_assoc]
      rfl

/-! ## What a word does -/

/-- What taking a word makes of a reader. Except after two dashes, and where the word is added to
something that is held back, what was held back is stored first. -/
inductive Takes (reader : Reader) (word : Word) : Reader → Prop
  | terminator : Takes reader word { reader with ended := true }
  | path (hheld : reader.held = .config none) :
      Takes reader word { reader with held := .config (some word) }
  | more {words : List Word} (hheld : reader.held = .rest words) :
      Takes reader word { reader with held := .rest (word :: words) }
  | place {settled : Reader} {place : Place} {places : List Place}
      (hsettle : reader.settle = .ok settled) (hplaces : reader.places = place :: places) :
      Takes reader word { settled with held := .positional place word, places }
  | rest {settled : Reader} (hsettle : reader.settle = .ok settled) (hplaces : reader.places = []) :
      Takes reader word { settled with held := .rest [word], ended := true }
  | listVoices {settled : Reader} (hsettle : reader.settle = .ok settled)
      (hfirst : settled.arguments.listVoices = false) :
      Takes reader word { settled with arguments := { settled.arguments with listVoices := true } }
  | json {settled : Reader} (hsettle : reader.settle = .ok settled)
      (hfirst : settled.arguments.json = false) :
      Takes reader word { settled with arguments := { settled.arguments with json := true } }
  | opened {settled : Reader} (hsettle : reader.settle = .ok settled) :
      Takes reader word { settled with held := .config none }
  | config {settled : Reader} {value : Word} {arguments : Arguments}
      (hsettle : reader.settle = .ok settled)
      (hset : setConfig settled.arguments value = .ok arguments) :
      Takes reader word { settled with arguments }

theorem takes_of_takePositional (h : reader.takePositional word = .ok next) :
    Takes reader word next := by
  rw [takePositional] at h
  split at h
  · next hplaces =>
      obtain ⟨settled, hsettle, rfl⟩ := map_eq_ok_iff.mp h
      exact .place hsettle hplaces
  · next hheld =>
      cases h
      exact .more hheld
  · next hplaces _ =>
      obtain ⟨settled, hsettle, rfl⟩ := map_eq_ok_iff.mp h
      exact .rest hsettle hplaces

theorem takes_of_takeValue (h : reader.takeValue word = .ok next) : Takes reader word next := by
  rw [takeValue] at h
  split at h
  · next hheld =>
      cases h
      exact .path hheld
  · exact takes_of_takePositional h

theorem takes_of_takeFlag {flag : Flag} (h : reader.takeFlag flag = .ok next) :
    Takes reader word next := by
  obtain ⟨settled, hsettle, hflag⟩ := bind_eq_ok_iff.mp h
  cases flag with
  | help | version => cases hflag
  | listVoices =>
      dsimp only at hflag
      split at hflag
      · cases hflag
      · next hfirst =>
          cases hflag
          exact .listVoices hsettle (Bool.eq_false_iff.mpr hfirst)
  | json =>
      dsimp only at hflag
      split at hflag
      · cases hflag
      · next hfirst =>
          cases hflag
          exact .json hsettle (Bool.eq_false_iff.mpr hfirst)

theorem takes_of_takeConfig {value : Option Word} (h : reader.takeConfig value = .ok next) :
    Takes reader word next := by
  obtain ⟨settled, hsettle, hvalue⟩ := bind_eq_ok_iff.mp h
  cases value with
  | none =>
      cases hvalue
      exact .opened hsettle
  | some path =>
      obtain ⟨arguments, hset, rfl⟩ := map_eq_ok_iff.mp hvalue
      exact .config hsettle hset

theorem takes_of_takeLong {name : Word} {value : Option Word}
    (h : reader.takeLong word name value = .ok next) : Takes reader word next := by
  cases name with
  | raw octets => cases h
  | text text =>
      rw [takeLong.eq_def] at h
      dsimp only at h
      split at h
      · exact takes_of_takeConfig h
      · split at h
        · exact takes_of_takeFlag h
        · cases h
        · split at h
          · exact takes_of_takeValue h
          · cases h

theorem takes_of_takeShort {letters : Word} (h : reader.takeShort word letters = .ok next) :
    Takes reader word next := by
  rw [takeShort] at h
  split at h
  · exact takes_of_takeValue h
  · split at h
    · cases h
    · split at h
      · exact takes_of_takeFlag h
      · cases h

theorem takes_of_take (h : reader.take word = .ok next) : Takes reader word next := by
  rw [take] at h
  split at h
  · exact takes_of_takePositional h
  · split at h
    · cases h
      exact .terminator
    · exact takes_of_takeLong h
    · exact takes_of_takeShort h
    · exact takes_of_takeValue h

/-- Not every cluster that begins with the letter of a flag asks for it. -/
example : Arguments.read [.text "key", .text "8", .text "hello", .text "-help"] =
    .ok ⟨some "key", some 8, some "hello", ["-help"], false, false, none⟩ := by rfl

/-! ## What words do -/

/-- What every word keeps, a run of words keeps. -/
theorem foldlM_take_keeps {p : Reader → Prop}
    (hstep : ∀ {reader word next}, p reader → Takes reader word next → p next)
    {words : List Word} (h : p reader) (hread : words.foldlM take reader = .ok next) : p next := by
  induction words generalizing reader with
  | nil =>
      cases hread
      exact h
  | cons word words ih =>
      obtain ⟨middle, htake, hrest⟩ := bind_eq_ok_iff.mp hread
      exact ih (hstep h (takes_of_take htake)) hrest

/-- Options that have ended do not begin again. -/
theorem ended_of_takes (h : reader.ended = true) (htakes : Takes reader word next) :
    next.ended = true := by
  cases htakes with
  | terminator | rest => rfl
  | path | more => exact h
  | place hsettle | listVoices hsettle | json hsettle | opened hsettle | config hsettle =>
      exact (settle_eq_ok hsettle).2.2.trans h

theorem ended_of_take_terminator (h : reader.take (.text "--") = .ok next) : next.ended = true := by
  rw [take] at h
  split at h
  · next hended => exact ended_of_takes hended (takes_of_takePositional h)
  · cases h
    rfl

theorem ended_of_mem {words : List Word} (hread : words.foldlM take reader = .ok next)
    (hmem : .text "--" ∈ words) : next.ended = true := by
  obtain ⟨front, back, rfl⟩ := List.append_of_mem hmem
  rw [List.foldlM_append] at hread
  obtain ⟨before, -, hread⟩ := bind_eq_ok_iff.mp hread
  obtain ⟨middle, htake, hback⟩ := bind_eq_ok_iff.mp hread
  exact foldlM_take_keeps ended_of_takes (ended_of_take_terminator htake) hback

end Reader

end CloudSpeech.CommandLine
