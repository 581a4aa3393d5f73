import CloudSpeech.CommandLine.Invocation
import CloudSpeech.Proofs.CommandLine.Reading
import Mathlib.Data.List.Induction
import Mathlib.Data.List.Nodup
import Mathlib.Data.List.Perm.Basic

/-!
# Options between words

A command line is a list of parts: words for the places, and options, of which one may be two words.
The words and the options are its two projections, and an interleaving of given words with given
options is a command line with these projections, in any order of the options. What is read from it
is determined by the projections: whatever is held back when a part comes is stored before the part
is looked at, so a reader that settles has stored all that it has read.
-/

namespace CloudSpeech.CommandLine

open Decimal (readUnsigned)

/-- A word with a text in front of it. -/
def Word.after (word : Word) (front : String) : Word :=
  match word with
  | .text content => .text (front ++ content)
  | .raw octets => .raw (Octets.ofText front ++ octets)

/-- An option as it is written. The path of the settings file is joined to the name of its option
or follows as a word of its own. -/
inductive Switch where
  | listVoices
  | json
  | configJoined (path : Word)
  | configApart (path : Word)
  deriving DecidableEq, Repr

namespace Switch

def name : Switch → String
  | listVoices => "--list-voices"
  | json => "--json"
  | configJoined _ | configApart _ => "--config"

def path? : Switch → Option Word
  | configJoined path | configApart path => some path
  | listVoices | json => none

def words : Switch → List Word
  | listVoices => [.text "--list-voices"]
  | json => [.text "--json"]
  | configJoined path => [path.after "--config="]
  | configApart path => [.text "--config", path]

end Switch

/-- A part of a command line. -/
inductive Part where
  | word (content : String)
  | switch (chosen : Switch)
  deriving DecidableEq, Repr

namespace Part

def words : Part → List Word
  | word content => [.text content]
  | switch chosen => chosen.words

def word? : Part → Option String
  | word content => some content
  | switch _ => none

def switch? : Part → Option Switch
  | word _ => none
  | switch chosen => some chosen

end Part

/-- A path for the settings file. Octets are given as such only if they are no text. -/
structure Word.IsPath (path : Word) : Prop where
  ne_empty : path ≠ .text ""
  noDash : ¬ path.StartsWithDash
  isRaw : ∀ octets, path = .raw octets → Word.ofOctets octets = .raw octets

/-- Words for the places: three at most, none of which looks like an option, and the second of
which is an index. -/
structure FillPlaces (words : List String) : Prop where
  length_le : words.length ≤ 3
  isValue : ∀ word ∈ words, word = "-" ∨ ¬ (Word.text word).StartsWithDash
  isIndex : ∀ word, words[1]? = some word → ∃ index, readUnsigned word = .ok index

/-- Options that are given once each. -/
structure GivenOnce (chosen : List Switch) : Prop where
  once : (chosen.map Switch.name).Nodup
  isPath : ∀ switch ∈ chosen, ∀ path ∈ switch.path?, path.IsPath

/-- Options that may be given beside each other. -/
structure GoTogether (chosen : List Switch) : Prop extends GivenOnce chosen where
  companion : .json ∈ chosen → .listVoices ∈ chosen

/-- A command line that has some words and options: the words in order, the options in any. -/
structure Interleaves (parts : List Part) (words : List String) (chosen : List Switch) : Prop where
  words : parts.filterMap Part.word? = words
  switches : (parts.filterMap Part.switch?).Perm chosen

/-- What is read from words for the places and options. -/
def Arguments.given (words : List String) (chosen : List Switch) : Arguments where
  apiKey := words[0]?
  langIndex := words[1]?.bind fun word => (readUnsigned word).toOption
  message := words[2]?
  rest := []
  listVoices := decide (.listVoices ∈ chosen)
  json := decide (.json ∈ chosen)
  configPath := (chosen.filterMap Switch.path?).head?

/-- What words for the places and options ask for. -/
def Invocation.given (words : List String) (chosen : List Switch) : Except UsageError Invocation :=
  if .listVoices ∈ chosen then .ok (.listVoices (decide (.json ∈ chosen)))
  else
    match words with
    | [key, index, message] =>
        match readUnsigned index with
        | .ok voice => .ok (.speak ⟨key, voice, message⟩)
        | .error _ => .error .missingArguments
    | _ => .error .missingArguments

variable {words : List String} {word : String} {chosen : List Switch} {switch : Switch}

/-! ## How options look -/

theorem Word.shape_after_config {path : Word} (h : path.IsPath) :
    (path.after "--config=").shape = .long (.text "config") (some path) := by
  cases path with
  | text content =>
      have hchars : ("--config=" ++ content).toList =
          '-' :: '-' :: 'c' :: 'o' :: 'n' :: 'f' :: 'i' :: 'g' :: '=' :: content.toList := by
        rw [String.toList_append]
        rfl
      rw [after, shape, hchars]
      simp [afterEquals]
  | raw octets =>
      have hfront : Octets.ofText "--config=" =
          [0x2d, 0x2d, 0x63, 0x6f, 0x6e, 0x66, 0x69, 0x67, 0x3d] := by decide
      have hname : Word.ofOctets [0x63, 0x6f, 0x6e, 0x66, 0x69, 0x67] = .text "config" := by
        decide
      rw [after, hfront, shape.eq_def]
      simp [octetsAfterEquals, h.isRaw octets rfl, hname]

/-! ## Words and options that come before others -/

theorem FillPlaces.of_append {more : List String} (h : FillPlaces (words ++ more)) :
    FillPlaces words where
  length_le := by
    have hlength := h.length_le
    rw [List.length_append] at hlength
    omega
  isValue word hword := h.isValue word (List.mem_append_left more hword)
  isIndex word hword := by
    refine h.isIndex word ?_
    obtain ⟨hlt, -⟩ := List.getElem?_eq_some_iff.mp hword
    rw [List.getElem?_append_left hlt, hword]

namespace GivenOnce

theorem of_append {more : List Switch} (h : GivenOnce (chosen ++ more)) : GivenOnce chosen where
  once := by
    have honce := h.once
    rw [List.map_append] at honce
    exact (List.nodup_append.mp honce).1
  isPath switch hmem := h.isPath switch (List.mem_append_left more hmem)

theorem of_perm {others : List Switch} (h : GivenOnce chosen) (hperm : others.Perm chosen) :
    GivenOnce others where
  once := (hperm.map Switch.name).nodup_iff.mpr h.once
  isPath switch hmem := h.isPath switch (hperm.mem_iff.mp hmem)

theorem name_ne (h : GivenOnce (chosen ++ [switch])) {earlier : Switch} (hmem : earlier ∈ chosen) :
    earlier.name ≠ switch.name := by
  have honce := h.once
  rw [List.map_append, List.nodup_append] at honce
  exact honce.2.2 _ (List.mem_map_of_mem hmem) _ (by simp)

theorem notMem (h : GivenOnce (chosen ++ [switch])) : switch ∉ chosen :=
  fun hmem => h.name_ne hmem rfl

end GivenOnce

theorem Switch.name_of_path? {path : Word} (h : switch.path? = some path) :
    switch.name = "--config" := by
  cases switch with
  | listVoices | json => cases h
  | configJoined | configApart => rfl

/-- Beside an option for the settings file there is no other. -/
theorem GivenOnce.filterMap_path?_eq_nil (h : GivenOnce (chosen ++ [switch])) {path : Word}
    (hpath : switch.path? = some path) : chosen.filterMap Switch.path? = [] := by
  refine List.filterMap_eq_nil_iff.mpr fun earlier hmem => ?_
  cases hearlier : earlier.path? with
  | none => rfl
  | some other =>
      have hname : earlier.name = switch.name :=
        (Switch.name_of_path? hearlier).trans (Switch.name_of_path? hpath).symm
      exact absurd hname (h.name_ne hmem)

namespace Reader

variable {reader : Reader}

/-! ## One part -/

/-- A reader that has stored some words and options, and holds nothing back. -/
def given (words : List String) (chosen : List Switch) : Reader where
  arguments := .given words chosen
  places := [.apiKey, .langIndex, .message].drop words.length

/-- A reader that has read some words and options: once it settles, it has stored them. -/
def HasRead (reader : Reader) (words : List String) (chosen : List Switch) : Prop :=
  reader.settle = .ok (given words chosen)

theorem hasRead_given : (given words chosen).HasRead words chosen := rfl

theorem HasRead.ended (h : reader.HasRead words chosen) : reader.ended = false :=
  (settle_eq_ok h).2.2.symm

theorem fill_given {place : Place}
    (hplace : [Place.apiKey, .langIndex, .message][words.length]? = some place)
    (hwords : FillPlaces (words ++ [word])) :
    fill (.given words chosen) place (.text word) = .ok (.given (words ++ [word]) chosen) := by
  match words with
  | [] =>
      cases hplace
      rfl
  | [key] =>
      cases hplace
      obtain ⟨index, hindex⟩ := hwords.isIndex word rfl
      have hread : readIndex (.text word) = .ok index := by
        rw [readIndex, Word.text?]
        simp only [hindex]
        rfl
      rw [fill, hread]
      simp [Arguments.given, hindex, Except.map, Except.toOption]
  | [key, index] =>
      cases hplace
      rfl
  | _ :: _ :: _ :: _ => simp at hplace

theorem HasRead.take_word (h : reader.HasRead words chosen)
    (hwords : FillPlaces (words ++ [word])) :
    ∃ next, reader.take (.text word) = .ok next ∧ next.HasRead (words ++ [word]) chosen := by
  have hlength : words.length < [Place.apiKey, .langIndex, .message].length := by
    have hle := hwords.length_le
    rw [List.length_append] at hle
    exact hle
  have hplain : (Word.text word).shape = .plain :=
    Word.shape_of_isValue (hwords.isValue word (List.mem_append_right words (by simp)))
  have htake : reader.take (.text word) = .ok _ :=
    (take_eq_takePositional (held_ne_config_none h) fun _ => hplain).trans
      (takePositional_of_place h (List.drop_eq_getElem_cons hlength))
  refine ⟨_, htake, ?_⟩
  have hfill : fill (.given words chosen) _ (.text word) = _ :=
    fill_given (List.getElem?_eq_getElem hlength) hwords
  rw [HasRead, settle]
  simp only [given, hfill, List.length_append]
  rfl

theorem setConfig_given {path : Word} (hchosen : GivenOnce (chosen ++ [switch]))
    (hpath : switch.path? = some path) :
    setConfig (.given words chosen) path = .ok (.given words (chosen ++ [switch])) := by
  have hnone := hchosen.filterMap_path?_eq_nil hpath
  have hfile : path.IsPath := hchosen.isPath switch (by simp) path hpath
  have hsame : switch ≠ .listVoices ∧ switch ≠ .json := by
    constructor <;> rintro rfl <;> cases hpath
  rw [setConfig]
  simp [Arguments.given, hnone, Word.isEmpty, hfile.ne_empty, hpath, hsame.1.symm, hsame.2.symm]

theorem HasRead.takeFlag_listVoices (h : reader.HasRead words chosen)
    (hchosen : GivenOnce (chosen ++ [.listVoices])) :
    reader.takeFlag .listVoices = .ok (given words (chosen ++ [.listVoices])) := by
  have hfirst : (Arguments.given words chosen).listVoices = false :=
    decide_eq_false hchosen.notMem
  have hstored : Arguments.given words (chosen ++ [.listVoices]) =
      { Arguments.given words chosen with listVoices := true } := by
    simp [Arguments.given, Switch.path?]
  rw [takeFlag, h, bind_ok]
  simp only [hfirst, given, hstored]
  rfl

theorem HasRead.takeFlag_json (h : reader.HasRead words chosen)
    (hchosen : GivenOnce (chosen ++ [.json])) :
    reader.takeFlag .json = .ok (given words (chosen ++ [.json])) := by
  have hfirst : (Arguments.given words chosen).json = false := decide_eq_false hchosen.notMem
  have hstored : Arguments.given words (chosen ++ [.json]) =
      { Arguments.given words chosen with json := true } := by
    simp [Arguments.given, Switch.path?]
  rw [takeFlag, h, bind_ok]
  simp only [hfirst, given, hstored]
  rfl

/-- A path that stands apart from the name of its option is held back, and stored as one that is
joined to it. -/
theorem HasRead.foldlM_take_configApart (h : reader.HasRead words chosen) {path : Word}
    (hpath : path.IsPath) :
    (Switch.configApart path).words.foldlM take reader =
      .ok { given words chosen with held := .config (some path) } := by
  have hopen : reader.take (.text "--config") =
      .ok { given words chosen with held := .config none } := by
    have hname : reader.take (.text "--config") = reader.takeConfig none := by
      rw [take, h.ended]
      rfl
    rw [hname, takeConfig, h]
    rfl
  have hvalue : take { given words chosen with held := .config none } path =
      .ok { given words chosen with held := .config (some path) } := by
    rw [take, Word.shape_of_not_startsWithDash hpath.noDash]
    rfl
  rw [Switch.words, List.foldlM_cons, hopen, bind_ok, List.foldlM_cons, hvalue]
  rfl

theorem HasRead.take_switch (h : reader.HasRead words chosen)
    (hchosen : GivenOnce (chosen ++ [switch])) :
    ∃ next, switch.words.foldlM take reader = .ok next ∧
      next.HasRead words (chosen ++ [switch]) := by
  cases switch with
  | listVoices =>
      have htake : reader.take (.text "--list-voices") = reader.takeFlag .listVoices := by
        rw [take, h.ended]
        rfl
      rw [Switch.words, List.foldlM_cons, htake, h.takeFlag_listVoices hchosen]
      exact ⟨_, rfl, hasRead_given⟩
  | json =>
      have htake : reader.take (.text "--json") = reader.takeFlag .json := by
        rw [take, h.ended]
        rfl
      rw [Switch.words, List.foldlM_cons, htake, h.takeFlag_json hchosen]
      exact ⟨_, rfl, hasRead_given⟩
  | configJoined path =>
      have hset : setConfig (.given words chosen) path = _ := setConfig_given hchosen rfl
      have hpath : path.IsPath := hchosen.isPath (.configJoined path) (by simp) path rfl
      have htake : reader.take (path.after "--config=") = reader.takeConfig (some path) := by
        rw [take, h.ended, Word.shape_after_config hpath]
        rfl
      refine ⟨given words (chosen ++ [.configJoined path]), ?_, hasRead_given⟩
      rw [Switch.words, List.foldlM_cons, htake, takeConfig, h, bind_ok]
      simp only [given, hset]
      rfl
  | configApart path =>
      have hset : setConfig (.given words chosen) path = _ := setConfig_given hchosen rfl
      have hpath : path.IsPath := hchosen.isPath (.configApart path) (by simp) path rfl
      refine ⟨_, h.foldlM_take_configApart hpath, ?_⟩
      rw [HasRead, settle]
      simp only [given, hset]
      rfl

/-! ## All parts -/

/-- One part after another, everything that was read is stored or held back. -/
theorem foldlM_take_of_parts (parts : List Part) (hwords : FillPlaces (parts.filterMap Part.word?))
    (hchosen : GivenOnce (parts.filterMap Part.switch?)) :
    ∃ reader, (parts.flatMap Part.words).foldlM take ({} : Reader) = .ok reader ∧
      reader.HasRead (parts.filterMap Part.word?) (parts.filterMap Part.switch?) := by
  induction parts using List.reverseRecOn with
  | nil => exact ⟨{}, rfl, rfl⟩
  | append_singleton parts part ih =>
      rw [List.filterMap_append] at hwords hchosen ⊢
      rw [List.filterMap_append, List.flatMap_append, List.foldlM_append]
      obtain ⟨reader, hread, hhas⟩ := ih hwords.of_append hchosen.of_append
      rw [hread, bind_ok]
      cases part with
      | word content =>
          have hnone : [Part.word content].filterMap Part.switch? = [] := rfl
          obtain ⟨next, htake, hnext⟩ := hhas.take_word hwords
          rw [List.flatMap_singleton, Part.words, List.foldlM_cons, htake, hnone, List.append_nil]
          exact ⟨next, rfl, hnext⟩
      | switch chosen =>
          have hnone : [Part.switch chosen].filterMap Part.word? = [] := rfl
          obtain ⟨next, htake, hnext⟩ := hhas.take_switch hchosen
          rw [List.flatMap_singleton, hnone, List.append_nil]
          exact ⟨next, htake, hnext⟩

end Reader

/-! ## The order of the options -/

theorem GivenOnce.head?_filterMap_path?_eq_some_iff (h : GivenOnce chosen) {path : Word} :
    (chosen.filterMap Switch.path?).head? = some path ↔
      ∃ switch ∈ chosen, switch.path? = some path := by
  constructor
  · intro hhead
    exact List.mem_filterMap.mp (List.mem_of_head? hhead)
  · rintro ⟨switch, hmem, hpath⟩
    have hnonempty : chosen.filterMap Switch.path? ≠ [] :=
      List.ne_nil_of_mem (List.mem_filterMap.mpr ⟨switch, hmem, hpath⟩)
    obtain ⟨other, hother⟩ := Option.ne_none_iff_exists'.mp (mt List.head?_eq_none_iff.mp hnonempty)
    obtain ⟨first, hfirst, hfirstPath⟩ := List.mem_filterMap.mp (List.mem_of_head? hother)
    have hname : first.name = switch.name :=
      (Switch.name_of_path? hfirstPath).trans (Switch.name_of_path? hpath).symm
    have hsame : first = switch := List.inj_on_of_nodup_map h.once hfirst hmem hname
    rw [hother, ← hfirstPath, hsame, hpath]

theorem Arguments.given_eq_of_perm {others : List Switch} (h : GivenOnce chosen)
    (hperm : others.Perm chosen) : Arguments.given words others = Arguments.given words chosen := by
  have hpath : (others.filterMap Switch.path?).head? = (chosen.filterMap Switch.path?).head? := by
    refine Option.ext fun path => ?_
    rw [(h.of_perm hperm).head?_filterMap_path?_eq_some_iff, h.head?_filterMap_path?_eq_some_iff]
    simp only [hperm.mem_iff]
  simp only [Arguments.given, hperm.mem_iff, hpath]

theorem Arguments.invocation_given (hwords : FillPlaces words) :
    (Arguments.given words chosen).invocation = Invocation.given words chosen := by
  rw [Arguments.invocation, Invocation.given.eq_def]
  by_cases hlist : .listVoices ∈ chosen
  · have hlisting : (Arguments.given words chosen).listVoices = true := decide_eq_true hlist
    rw [if_pos hlisting, if_pos hlist]
    rfl
  · have hspeak : (Arguments.given words chosen).listVoices = false := decide_eq_false hlist
    rw [hspeak, if_neg hlist, if_neg Bool.false_ne_true]
    match words with
    | [] | [_] => rfl
    | [key, index] => cases h : (Arguments.given [key, index] chosen).langIndex <;> rfl
    | [key, index, message] =>
        obtain ⟨voice, hvoice⟩ := hwords.isIndex index rfl
        have hindex : (Arguments.given [key, index, message] chosen).langIndex = some voice := by
          simp [Arguments.given, hvoice, Except.toOption]
        simp only [hindex, hvoice]
        rfl
    | _ :: _ :: _ :: _ :: _ => exact absurd hwords.length_le (by simp)

/-- Words for the places, in order, and options between them, in any order and wherever they stand,
are read alike: everything read is what the words and the options say, and there is no rest. -/
theorem Arguments.read_of_interleaves {parts : List Part} (hwords : FillPlaces words)
    (hchosen : GoTogether chosen) (h : Interleaves parts words chosen) :
    Arguments.read (parts.flatMap Part.words) = .ok (.given words chosen) ∧
      (Arguments.given words chosen).invocation = Invocation.given words chosen := by
  obtain ⟨rfl, hperm⟩ := h
  have honce : GivenOnce (parts.filterMap Part.switch?) := hchosen.toGivenOnce.of_perm hperm
  obtain ⟨reader, hread, hhas⟩ := Reader.foldlM_take_of_parts parts hwords honce
  have hgiven : Arguments.given (parts.filterMap Part.word?) _ = _ :=
    Arguments.given_eq_of_perm hchosen.toGivenOnce hperm
  refine ⟨?_, Arguments.invocation_given hwords⟩
  rw [Arguments.read, hread, bind_ok]
  refine Reader.finish_eq_ok_iff.mpr ⟨_, hhas, hgiven, fun hjson => ?_⟩
  exact decide_eq_true (hchosen.companion (of_decide_eq_true hjson))

/-- The options stand before, between and after the words, the path of the settings file apart. -/
theorem Arguments.read_of_options_between_words :
    let words := ["-", "+8", "hello"]
    let chosen : List Switch := [.listVoices, .json, .configApart (.text "own.toml")]
    let parts : List Part := [.switch .json, .word "-", .switch (.configApart (.text "own.toml")),
      .word "+8", .word "hello", .switch .listVoices]
    FillPlaces words ∧ GoTogether chosen ∧ Interleaves parts words chosen ∧
      Arguments.read [.text "--json", .text "-", .text "--config", .text "own.toml", .text "+8",
        .text "hello", .text "--list-voices"] =
          .ok ⟨some "-", some 8, some "hello", [], true, true, some (.text "own.toml")⟩ := by
  intro words chosen parts
  have hwords : FillPlaces words := by
    refine ⟨by decide, by decide, ?_⟩
    rintro word hword
    cases hword
    exact ⟨8, by decide⟩
  have hchosen : GoTogether chosen := by
    refine ⟨⟨by decide, ?_⟩, by decide⟩
    intro switch hmem path hpath
    have hown : path = .text "own.toml" := by
      simp only [chosen, List.mem_cons, List.not_mem_nil, or_false] at hmem
      obtain rfl | rfl | rfl := hmem <;> cases hpath
      rfl
    subst hown
    exact ⟨by decide, by decide, nofun⟩
  have hinterleaves : Interleaves parts words chosen := ⟨rfl, by decide⟩
  exact ⟨hwords, hchosen, hinterleaves,
    (Arguments.read_of_interleaves hwords hchosen hinterleaves).1⟩

end CloudSpeech.CommandLine
