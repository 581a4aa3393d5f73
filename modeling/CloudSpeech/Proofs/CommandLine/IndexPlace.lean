import CloudSpeech.Proofs.CommandLine.Positionals
import CloudSpeech.Proofs.CommandLine.Remainder

/-!
# The place of the index

A place is open as long as it has no value and no word is held back for it. So a command line that
gives a key and no index leaves the place of the index open, and the next word behind two dashes
goes there, whatever it looks like. The word is accepted exactly if it is an index, and where it is
not, the reading stops at it for a reason that the word alone decides.
-/

namespace CloudSpeech.CommandLine

open Decimal (ReadFault leadingNumber readUnsigned)

def Arguments.has (arguments : Arguments) : Place → Bool
  | .apiKey => arguments.apiKey.isSome
  | .langIndex => arguments.langIndex.isSome
  | .message => arguments.message.isSome

/-- One digit or more, behind a plus sign or not, that denote a number of sixty-four bits. -/
def IsIndex (word : String) (index : Nat) : Prop :=
  ∃ digits, (word.toList = digits ∨ word.toList = '+' :: digits) ∧ digits ≠ [] ∧
    (∀ c ∈ digits, c.isDigit = true) ∧ Nat.ofDigitChars 10 digits 0 = index ∧ index < 2 ^ 64

theorem readUnsigned_eq_ok_iff {word : String} {index : Nat} :
    readUnsigned word = .ok index ↔ IsIndex word index :=
  Decimal.readNatural_eq_ok_iff (by decide)

namespace Reader

variable {reader settled next : Reader} {word : Word} {place other : Place}

/-- A reader whose places are open as long as nothing fills them, and which has begun no rest while
one is open. -/
structure Placed (reader : Reader) : Prop extends reader.Ordered where
  mem_places_iff : ∀ place, place ∈ reader.places ↔
    reader.arguments.has place = false ∧ ∀ word, reader.held ≠ .positional place word
  noRest : reader.places ≠ [] → reader.arguments.rest = [] ∧ ∀ words, reader.held ≠ .rest words

theorem placed_start : ({} : Reader).Placed where
  toOrdered := ordered_start
  mem_places_iff := by
    intro place
    cases place <;> exact iff_of_true (by decide) ⟨rfl, nofun⟩
  noRest := fun _ => ⟨rfl, nofun⟩

theorem has_fill {arguments filled : Arguments} (h : fill arguments place word = .ok filled) :
    filled.has other = false ↔ arguments.has other = false ∧ place ≠ other := by
  cases place with
  | apiKey | langIndex | message =>
      obtain ⟨found, -, rfl⟩ := map_eq_ok_iff.mp h
      cases other <;> simp [Arguments.has]

/-- Storing fills the place of the word held back and no other. -/
theorem has_settle (h : reader.settle = .ok settled) :
    settled.arguments.has place = false ↔
      reader.arguments.has place = false ∧ ∀ word, reader.held ≠ .positional place word := by
  cases settles_of_settle h with
  | nothing hheld => simp [hheld]
  | place hheld hfill => simp [hheld, has_fill hfill]
  | config hheld hset =>
      rw [hheld, eq_of_setConfig hset]
      cases place <;> simp [Arguments.has]
  | rest hheld =>
      rw [hheld]
      cases place <;> simp [Arguments.has]

namespace Placed

theorem mem_places_iff_of_settle (h : reader.Placed) (hsettle : reader.settle = .ok settled) :
    place ∈ settled.places ↔ settled.arguments.has place = false := by
  rw [(settle_eq_ok hsettle).2.1, h.mem_places_iff, has_settle hsettle]

theorem settle (h : reader.Placed) (hsettle : reader.settle = .ok settled) : settled.Placed := by
  obtain ⟨hnothing, hplaces, -⟩ := settle_eq_ok hsettle
  refine ⟨h.toOrdered.settle hsettle, fun place => ?_, fun hopen => ?_⟩
  · rw [h.mem_places_iff_of_settle hsettle, hnothing]
    exact (and_iff_left nofun).symm
  · obtain ⟨hrest, hheld⟩ := h.noRest (hplaces ▸ hopen)
    exact ⟨(rest_settle hsettle hheld).trans hrest, by simp [hnothing]⟩

theorem takes (h : reader.Placed) (htakes : Takes reader word next) : next.Placed := by
  have hordered := h.toOrdered.takes htakes
  cases htakes with
  | terminator => exact ⟨hordered, h.mem_places_iff, h.noRest⟩
  | path hheld =>
      have hopen := h.mem_places_iff
      simp only [hheld] at hopen
      exact ⟨hordered, by simpa using hopen, fun hplaces => ⟨(h.noRest hplaces).1, nofun⟩⟩
  | more hheld =>
      have hopen := h.mem_places_iff
      simp only [hheld] at hopen
      refine ⟨hordered, by simpa using hopen, fun hplaces => ?_⟩
      exact absurd hheld ((h.noRest hplaces).2 _)
  | @place settled place places hsettle hplaces =>
      have hleft : settled.places = place :: places := (settle_eq_ok hsettle).2.1.trans hplaces
      have hnodup : (place :: places).Nodup :=
        hplaces ▸ h.toOrdered.places.sublist.nodup (by decide)
      refine ⟨hordered, fun other => ?_, fun _ => ⟨?_, nofun⟩⟩
      · have hopen : other ∈ settled.places ↔ settled.arguments.has other = false :=
          h.mem_places_iff_of_settle hsettle
        rw [hleft, List.mem_cons] at hopen
        dsimp only
        rw [← hopen]
        constructor
        · -- A place that has been filled does not come again.
          intro hmem
          refine ⟨.inr hmem, ?_⟩
          rintro held heq
          cases heq
          exact (List.nodup_cons.mp hnodup).1 hmem
        · rintro ⟨rfl | hmem, hother⟩
          · exact absurd rfl (hother word)
          · exact hmem
      · exact ((h.settle hsettle).noRest (by simp [hleft])).1
  | rest hsettle hplaces =>
      have hleft := (settle_eq_ok hsettle).2.1.trans hplaces
      refine ⟨hordered, fun place => ?_, fun hopen => absurd hleft hopen⟩
      exact (h.mem_places_iff_of_settle hsettle).trans (and_iff_left nofun).symm
  | listVoices hsettle | json hsettle =>
      exact ⟨hordered, (h.settle hsettle).mem_places_iff, (h.settle hsettle).noRest⟩
  | opened hsettle =>
      refine ⟨hordered, fun place => ?_, fun hopen => ⟨((h.settle hsettle).noRest hopen).1, nofun⟩⟩
      exact (h.mem_places_iff_of_settle hsettle).trans (and_iff_left nofun).symm
  | config hsettle hset =>
      obtain rfl := eq_of_setConfig hset
      exact ⟨hordered, (h.settle hsettle).mem_places_iff, (h.settle hsettle).noRest⟩

/-- Where there is a key and no index, the place of the index is the next one. -/
theorem places_eq (h : reader.Placed) (hsettle : reader.settle = .ok settled)
    (hkey : settled.arguments.apiKey ≠ none) (hindex : settled.arguments.langIndex = none) :
    settled.places = [.langIndex, .message] := by
  have hfirst : .apiKey ∉ settled.places := by
    rw [h.mem_places_iff_of_settle hsettle, Arguments.has, Option.isSome_iff_ne_none.mpr hkey]
    exact Bool.noConfusion
  have hsecond : .langIndex ∈ settled.places := by
    rw [h.mem_places_iff_of_settle hsettle, Arguments.has, hindex]
    rfl
  have hsuffix := (h.settle hsettle).places
  simp only [List.suffix_cons_iff, List.suffix_nil] at hsuffix
  rcases hsuffix with hplaces | hplaces | hplaces | hplaces <;> rw [hplaces] at hfirst hsecond
  · exact absurd List.mem_cons_self hfirst
  · exact hplaces
  · exact absurd hsecond (by decide)
  · exact absurd hsecond (by decide)

end Placed

theorem foldlM_store_message (arguments : Arguments) (hmessage : arguments.message = none)
    (hrest : arguments.rest = []) (ended : Bool) (texts : List String) :
    ∃ stored, (texts.map Word.text).foldlM store ⟨arguments, .nothing, [.message], ended⟩ =
        .ok stored ∧ stored.held = .nothing ∧
      stored.arguments = { arguments with message := texts.head?, rest := texts.tail } := by
  cases texts with
  | nil =>
      refine ⟨_, rfl, rfl, ?_⟩
      rw [List.head?_nil, List.tail_nil, ← hmessage, ← hrest]
  | cons message texts =>
      obtain ⟨last, hread⟩ := foldlM_store_rest { arguments with message := some message } .nothing
        ended texts
      refine ⟨_, hread, rfl, ?_⟩
      rw [hrest, List.nil_append]
      rfl

/-- A reader behind two dashes that has a key and waits for the index. -/
structure AwaitsIndex (reader : Reader) (arguments : Arguments) : Prop where
  settles : reader.settle = .ok ⟨arguments, .nothing, [.langIndex, .message], true⟩
  message : arguments.message = none
  rest : arguments.rest = []
  companion : arguments.json = true → arguments.listVoices = true

theorem awaitsIndex_of_read {front : List Word} {arguments : Arguments}
    (hfront : Arguments.read front = .ok arguments) (hended : .text "--" ∈ front)
    (hkey : arguments.apiKey ≠ none) (hindex : arguments.langIndex = none) :
    ∃ reader, front.foldlM take ({} : Reader) = .ok reader ∧ reader.AwaitsIndex arguments := by
  obtain ⟨reader, hread, hfinish⟩ := bind_eq_ok_iff.mp hfront
  obtain ⟨⟨arguments, held, places, ended⟩, hsettle, rfl, hcompanion⟩ :=
    finish_eq_ok_iff.mp hfinish
  have hplaced : reader.Placed := foldlM_take_keeps Placed.takes placed_start hread
  obtain rfl : places = _ := hplaced.places_eq hsettle hkey hindex
  obtain ⟨rfl, -, hends⟩ := settle_eq_ok hsettle
  obtain rfl : ended = true := hends.trans (ended_of_mem hread hended)
  have hsettled := hplaced.settle hsettle
  have hmessage := (hsettled.message (.tail _ (.head _))).1
  exact ⟨reader, hread, hsettle, hmessage, (hsettled.noRest nofun).1, hcompanion⟩

namespace AwaitsIndex

variable {arguments : Arguments}

/-- The next word is read as the index before anything behind it is stored. -/
theorem foldlM_take_bind_finish (h : reader.AwaitsIndex arguments) (word : String)
    (more : List Word) :
    (.text word :: more).foldlM take reader >>= finish =
      (readUnsigned word).mapError (.invalidIndex word) >>= fun index =>
        more.foldlM store ⟨{ arguments with langIndex := some index }, .nothing, [.message], true⟩
          >>= finish := by
  have hended : reader.ended = true := (settle_eq_ok h.settles).2.2.symm
  have htake : reader.take (.text word) = .ok _ :=
    (take_eq_takePositional (held_ne_config_none h.settles)
      fun hnot => absurd hended (Bool.eq_false_iff.mp hnot)).trans
      (takePositional_of_place h.settles rfl)
  have honly : WordsOnly ⟨arguments, .positional .langIndex (.text word), [.message], true⟩ :=
    ⟨h.rest, nofun, nofun⟩
  rw [List.foldlM_cons, htake, bind_ok, honly.foldlM_take_bind_finish (.inl rfl)]
  rw [settle]
  dsimp only
  rw [fill, readIndex, Word.text?]
  dsimp only
  cases readUnsigned word <;> rfl

theorem accepts (h : reader.AwaitsIndex arguments) {word : String} {index : Nat}
    (hindex : readUnsigned word = .ok index) (texts : List String) :
    ((word :: texts).map Word.text).foldlM take reader >>= finish =
      .ok { arguments with langIndex := some index, message := texts.head?, rest := texts.tail } := by
  obtain ⟨stored, hstored, hheld, hall⟩ := foldlM_store_message
    { arguments with langIndex := some index } h.message h.rest true texts
  have hsettle : stored.settle = .ok stored := by rw [settle, hheld]
  rw [List.map_cons, h.foldlM_take_bind_finish, hindex, mapError_ok, bind_ok, hstored, bind_ok]
  exact finish_eq_ok_iff.mpr ⟨stored, hsettle, hall, h.companion⟩

theorem refuses (h : reader.AwaitsIndex arguments) {word : String} {fault : ReadFault}
    (hfault : readUnsigned word = .error fault) (more : List Word) :
    (.text word :: more).foldlM take reader >>= finish = .error (.invalidIndex word fault) := by
  rw [h.foldlM_take_bind_finish, hfault]
  rfl

end AwaitsIndex

end Reader

/-- The reasons that are given for a word that is no index. -/
theorem fault_of_readUnsigned {word : String} {fault : ReadFault}
    (h : readUnsigned word = .error fault) :
    (fault.message = "cannot parse integer from empty string" ↔ word = "") ∧
      (fault.message = "number too large to fit in target type" ↔
        2 ^ 64 ≤ leadingNumber word.toList) ∧
      (fault.message = "invalid digit found in string" ↔
        word ≠ "" ∧ leadingNumber word.toList < 2 ^ 64) := by
  have hmessage (other : ReadFault) : fault.message = other.message ↔ fault = other :=
    ReadFault.message_injective.eq_iff
  obtain ⟨hempty, hlarge, hdigit⟩ := Decimal.fault_of_readNatural (by decide) h
  rw [String.toList_eq_nil_iff] at hempty
  rw [Ne, String.toList_eq_nil_iff] at hdigit
  exact ⟨(hmessage .empty).trans hempty, (hmessage .tooLarge).trans hlarge,
    (hmessage .invalidDigit).trans hdigit⟩

/-- Behind two dashes and a key comes the index. The next word is accepted exactly if it is one, and
the words behind it are the message and the rest. Where it is not, the reading stops whatever
follows, and the reason is the first fault of the word from left to right. -/
theorem Arguments.read_word_for_index {front : List Word} {arguments : Arguments}
    (hfront : Arguments.read front = .ok arguments) (hended : .text "--" ∈ front)
    (hkey : arguments.apiKey ≠ none) (hindex : arguments.langIndex = none) (word : String) :
    (∀ texts : List String,
      (∃ found, Arguments.read (front ++ (word :: texts).map Word.text) = .ok found) ↔
        ∃ index, IsIndex word index) ∧
    (∀ index, IsIndex word index → ∀ texts : List String,
      Arguments.read (front ++ (word :: texts).map Word.text) =
        .ok { arguments with
          langIndex := some index, message := texts.head?, rest := texts.tail }) ∧
    ((∀ index, ¬ IsIndex word index) → ∃ fault : ReadFault,
      (∀ more : List Word,
        Arguments.read (front ++ .text word :: more) = .error (.invalidIndex word fault)) ∧
      (fault.message = "cannot parse integer from empty string" ↔ word = "") ∧
      (fault.message = "number too large to fit in target type" ↔
        2 ^ 64 ≤ leadingNumber word.toList) ∧
      (fault.message = "invalid digit found in string" ↔
        word ≠ "" ∧ leadingNumber word.toList < 2 ^ 64)) := by
  obtain ⟨reader, hread, hawaits⟩ := Reader.awaitsIndex_of_read hfront hended hkey hindex
  have hrun (more : List Word) :
      Arguments.read (front ++ more) = more.foldlM Reader.take reader >>= Reader.finish := by
    rw [Arguments.read, List.foldlM_append, hread, bind_ok]
  simp only [hrun, ← readUnsigned_eq_ok_iff]
  cases hword : readUnsigned word with
  | ok index =>
      refine ⟨fun texts => ?_, ?_, fun hnone => absurd rfl (hnone index)⟩
      · exact iff_of_true ⟨_, hawaits.accepts hword texts⟩ ⟨index, rfl⟩
      · intro other hother
        cases hother
        exact hawaits.accepts hword
  | error fault =>
      refine ⟨fun texts => ?_, ?_, fun _ => ?_⟩
      · rw [List.map_cons, hawaits.refuses hword]
        simp
      · intro index hindex
        cases hindex
      · exact ⟨fault, hawaits.refuses hword, fault_of_readUnsigned hword⟩

/-- The largest index is accepted with zeros in front. The number after it is refused as too large
although a dash follows its digits. -/
theorem Arguments.read_words_about_bound :
    let front : List Word :=
      [.text "--config", .text "own.toml", .text "--", .text "--help"]
    let arguments : Arguments := { apiKey := some "--help", configPath := some (.text "own.toml") }
    Arguments.read front = .ok arguments ∧ .text "--" ∈ front ∧ arguments.apiKey ≠ none ∧
      arguments.langIndex = none ∧
      Arguments.read (front ++ ["+0018446744073709551615", "hello", "world"].map Word.text) =
        .ok { arguments with
          langIndex := some 18446744073709551615, message := some "hello", rest := ["world"] } ∧
      ∃ fault : ReadFault, fault.message = "number too large to fit in target type" ∧
        ∀ more : List Word, Arguments.read (front ++ .text "18446744073709551616-" :: more) =
          .error (.invalidIndex "18446744073709551616-" fault) := by
  intro front arguments
  have hfront : Arguments.read front = .ok arguments := by decide
  have hended : .text "--" ∈ front := by decide
  have hkey : arguments.apiKey ≠ none := nofun
  have hlargest : IsIndex "+0018446744073709551615" 18446744073709551615 :=
    readUnsigned_eq_ok_iff.mp (by decide)
  have hbeyond : ∀ index, ¬ IsIndex "18446744073709551616-" index := by
    intro index h
    have htooLarge : readUnsigned "18446744073709551616-" = .error .tooLarge := by decide
    cases htooLarge.symm.trans (readUnsigned_eq_ok_iff.mpr h)
  obtain ⟨-, haccept, -⟩ :=
    Arguments.read_word_for_index hfront hended hkey rfl "+0018446744073709551615"
  obtain ⟨-, -, hrefuse⟩ :=
    Arguments.read_word_for_index hfront hended hkey rfl "18446744073709551616-"
  obtain ⟨fault, hread, -, hlarge, -⟩ := hrefuse hbeyond
  exact ⟨hfront, hended, hkey, rfl, haccept _ hlargest ["hello", "world"], fault,
    hlarge.mpr (by decide), hread⟩

end CloudSpeech.CommandLine
