import CloudSpeech.Proofs.Settings.Origins
import CloudSpeech.Settings.Folder
import Mathlib.Data.List.Nodup
import Mathlib.Data.Option.Basic
import Mathlib.Data.Prod.Basic

/-!
# Settings from the file at a path

Where a path is given, the file that it stands for is the only one that is looked at: the file at
the path, or else the first one whose name has a registered extension appended. The files with the
standard names play no part, and where no settings can be taken from the file there are none: the
defaults do not stand in. The order of the extensions counts only where several such files lie side
by side.
-/

namespace CloudSpeech.Settings

/-- A search with at most one hit does not hang on the order. -/
theorem findSome?_eq_of_perm {α β : Type} {f : α → Option β} {items others : List α}
    (hperm : others.Perm items)
    (hunique : ∀ a ∈ items, ∀ b ∈ items, (f a).isSome → (f b).isSome → a = b) :
    others.findSome? f = items.findSome? f := by
  cases hfound : items.findSome? f with
  | none =>
      rw [List.findSome?_eq_none_iff] at hfound ⊢
      exact fun item hitem => hfound item (hperm.mem_iff.mp hitem)
  | some found =>
      obtain ⟨a, ha, hhit⟩ := List.exists_of_findSome?_eq_some hfound
      cases hother : others.findSome? f with
      | none =>
          have hmiss := List.findSome?_eq_none_iff.mp hother a (hperm.mem_iff.mpr ha)
          rw [hmiss] at hhit
          cases hhit
      | some other =>
          obtain ⟨b, hb, hhit'⟩ := List.exists_of_findSome?_eq_some hother
          have hsame : a = b := hunique a ha b (hperm.mem_iff.mp hb)
            (Option.isSome_iff_exists.mpr ⟨found, hhit⟩)
            (Option.isSome_iff_exists.mpr ⟨other, hhit'⟩)
          rw [← hhit, hsame, hhit']

namespace Directory

/-- The file at a path: the extension of its name, and its content. -/
def at? (directory : Directory) (path : String) : Option (Option String × Except String Octets) :=
  (directory.file? (Path.join directory.path path)).map fun content =>
    (Path.extension? (Path.join directory.path path), content)

/-- The file at a path with an extension appended to the name that the path leads to. -/
def appended? (directory : Directory) (path extension : String) :
    Option (Except String Octets) :=
  (Path.append? (Path.join directory.path path) extension).bind directory.file?

/-- The file that a path stands for, with its format if it has one: the file at the path, or else
the first one with an extension appended. -/
def chosen? (directory : Directory) (path : String) :
    Option (Option Format × Except String Octets) :=
  match directory.at? path with
  | some (extension, content) => some (extension.bind directory.format?, content)
  | none => directory.extensions.findSome? fun (extension, format) =>
      (directory.appended? path extension).map fun content => (some format, content)

/-- What a path stands for does not hang on the order of the extensions: none is registered twice,
and if there is no file at the path, at most one leads to a file. -/
structure Unambiguous (directory : Directory) (path : String) : Prop where
  nodup : (directory.extensions.map Prod.fst).Nodup
  unique : directory.at? path = none → ∀ entry ∈ directory.extensions,
    ∀ other ∈ directory.extensions, (directory.appended? path entry.1).isSome →
      (directory.appended? path other.1).isSome → entry.1 = other.1

end Directory

/-- A text that is accepted in a format: it can be read, and it holds a table. -/
def Format.Accepts : Format → String → Prop
  | toml, text => ∃ entries, Toml.read? text = some entries
  | json, text => ∃ members, Json.Value.ofText? text = some (.object members)
  | other read, text => ∃ members, read text = some (.object members)

/-- No settings can be taken from the file that a path stands for. -/
inductive Directory.Unusable (directory : Directory) (path : String) : Prop
  | missing (hat : directory.at? path = none)
      (happended : ∀ entry ∈ directory.extensions, directory.appended? path entry.1 = none)
  | unregistered {extension : Option String} {content : Except String Octets}
      (hat : directory.at? path = some (extension, content))
      (hextension : ∀ entry ∈ directory.extensions, extension ≠ some entry.1)
  | unreadable {format : Format} {reason : String}
      (hchosen : directory.chosen? path = some (some format, .error reason))
  | noText {format : Format} {octets : Octets}
      (hchosen : directory.chosen? path = some (some format, .ok octets))
      (htext : Text.Utf8.strict? octets = none)
  | malformed {format : Format} {octets : Octets} {text : String}
      (hchosen : directory.chosen? path = some (some format, .ok octets))
      (htext : Text.Utf8.strict? octets = some text) (hparse : ¬ format.Accepts text)

variable {directory other : Directory} {path : String}

/-! ## The file that is read -/

namespace Directory

theorem exists_findSome?_eq (directory : Directory) (path : String)
    (extensions : List (String × Format)) :
    ∃ place, ((extensions.filterMap fun (extension, format) =>
        (Path.append? (Path.join directory.path path) extension).map (·, format)).findSome?
          fun (path, format) => (directory.file? path).map fun content => (path, format, content)) =
      (extensions.findSome? fun (extension, format) =>
        (directory.appended? path extension).map fun content => (some format, content)).bind
          fun (format, content) => format.map fun format => (place, format, content) := by
  induction extensions with
  | nil => exact ⟨"", rfl⟩
  | cons entry rest ih =>
      cases happend : Path.append? (Path.join directory.path path) entry.1 with
      | none => simpa [appended?, happend] using ih
      | some place =>
          cases hfile : directory.file? place with
          | none => simpa [appended?, happend, hfile] using ih
          | some content => exact ⟨place, by simp [appended?, happend, hfile]⟩

/-- What is located is what the path stands for, wherever that lies. -/
theorem exists_locate_eq (directory : Directory) (path : String) :
    ∃ place, directory.locate path =
      match directory.chosen? path with
      | none => .error (.notFound path)
      | some (none, _) => .error (.unknownFormat place)
      | some (some format, content) => .ok (place, format, content) := by
  cases hexact : directory.file? (Path.join directory.path path) with
  | some content =>
      refine ⟨Path.join directory.path path, ?_⟩
      simp only [locate, chosen?, at?, hexact, Option.map_some]
      cases (Path.extension? (Path.join directory.path path)).bind directory.format? <;> rfl
  | none =>
      obtain ⟨place, hplace⟩ := exists_findSome?_eq directory path directory.extensions
      refine ⟨place, ?_⟩
      simp only [locate, chosen?, at?, hexact, Option.map_none, alternatives, hplace]
      cases hfound : directory.extensions.findSome? fun entry =>
          (directory.appended? path entry.1).map fun content => (some entry.2, content) with
      | none => rfl
      | some found =>
          -- Among the files with an extension each has a format.
          obtain ⟨entry, -, hentry⟩ := List.exists_of_findSome?_eq_some hfound
          obtain ⟨content, -, rfl⟩ := Option.map_eq_some_iff.mp hentry
          rfl

theorem chosen?_congr (hextensions : other.extensions = directory.extensions)
    (hat : other.at? path = directory.at? path)
    (happended : ∀ entry ∈ directory.extensions,
      other.appended? path entry.1 = directory.appended? path entry.1) :
    other.chosen? path = directory.chosen? path := by
  have hfound : (directory.extensions.findSome? fun entry =>
        (other.appended? path entry.1).map fun content => (some entry.2, content)) =
      directory.extensions.findSome? fun entry =>
        (directory.appended? path entry.1).map fun content => (some entry.2, content) :=
    findSome?_congr fun entry hentry => by rw [happended entry hentry]
  have hformat : other.format? = directory.format? :=
    funext fun extension => by rw [format?, format?, hextensions]
  simp only [chosen?, hat, hextensions, hformat, hfound]

/-! ## Extensions in another order -/

theorem format?_of_perm {extensions : List (String × Format)}
    (hperm : extensions.Perm directory.extensions)
    (hnodup : (directory.extensions.map Prod.fst).Nodup) :
    ({ directory with extensions } : Directory).format? = directory.format? := by
  funext extension
  rw [format?, format?, List.lookup_eq_findSome?, List.lookup_eq_findSome?]
  refine findSome?_eq_of_perm hperm fun entry hentry other hother hfirst hsecond => ?_
  refine List.inj_on_of_nodup_map hnodup hentry hother ?_
  simp only [Option.isSome_ite, beq_iff_eq] at hfirst hsecond
  rw [← hfirst, ← hsecond]

theorem locate_of_perm {extensions : List (String × Format)}
    (hperm : extensions.Perm directory.extensions) (h : directory.Unambiguous path) :
    ({ directory with extensions } : Directory).locate path = directory.locate path := by
  simp only [locate, format?_of_perm hperm h.nodup]
  cases hexact : directory.file? (Path.join directory.path path) with
  | some content => rfl
  | none =>
      have hat : directory.at? path = none := by rw [at?, hexact, Option.map_none]
      have halternatives : (({ directory with extensions } : Directory).alternatives path).Perm
          (directory.alternatives path) := hperm.filterMap _
      rw [findSome?_eq_of_perm halternatives]
      intro place hplace place' hplace' hfirst hsecond
      obtain ⟨entry, hentry, hplace⟩ := List.mem_filterMap.mp hplace
      obtain ⟨entry', hentry', hplace'⟩ := List.mem_filterMap.mp hplace'
      obtain ⟨appended, happend, rfl⟩ := Option.map_eq_some_iff.mp hplace
      obtain ⟨appended', happend', rfl⟩ := Option.map_eq_some_iff.mp hplace'
      rw [Option.isSome_map] at hfirst hsecond
      have hsame := h.unique hat entry hentry entry' hentry'
        (by rwa [appended?, happend, Option.bind_some])
        (by rwa [appended?, happend', Option.bind_some])
      obtain rfl := List.inj_on_of_nodup_map h.nodup hentry hentry' hsame
      cases happend.symm.trans happend'
      rfl

end Directory

theorem requiredFile_of_perm {extensions : List (String × Format)}
    (hperm : extensions.Perm directory.extensions) (h : directory.Unambiguous path) :
    requiredFile { directory with extensions } path = requiredFile directory path := by
  rw [requiredFile, requiredFile, Directory.read, Directory.read,
    Directory.locate_of_perm hperm h]

/-- The entries that are taken from what a path stands for, if it lies at a place. -/
def entriesOf (directory : Directory) (place path : String) :
    Option (Option Format × Except String Octets) → Except LoadError Entries
  | none => .error (.file (.notFound path))
  | some (none, _) => .error (.file (.unknownFormat place))
  | some (some _, .error reason) => .error (.file (.unreadable reason))
  | some (some format, .ok octets) =>
      match Text.Utf8.strict? octets with
      | none => .error (.file (.unreadable "stream did not contain valid UTF-8"))
      | some text =>
          (File.mk (Path.relativeTo directory.path place) format text).entries.mapError .content

theorem exists_requiredFile_eq (directory : Directory) (path : String) :
    ∃ place, requiredFile directory path =
      entriesOf directory place path (directory.chosen? path) := by
  obtain ⟨place, hlocate⟩ := directory.exists_locate_eq path
  refine ⟨place, ?_⟩
  rw [requiredFile, Directory.read, hlocate]
  rcases directory.chosen? path with _ | ⟨_ | format, content⟩
  · rfl
  · rfl
  · cases content with
    | error reason => rfl
    | ok octets =>
        simp only [entriesOf, bind_ok]
        cases Text.Utf8.strict? octets <;> rfl

/-! ## Two directories -/

/-- What is taken from the same file in two directories differs in the names of places only. -/
theorem entriesOf_unplaced (place place' path : String)
    (chosen : Option (Option Format × Except String Octets)) :
    ((entriesOf other place' path chosen).map Entry.unplacedEntries).mapError LoadError.unplaced =
      ((entriesOf directory place path chosen).map Entry.unplacedEntries).mapError
        LoadError.unplaced := by
  rcases chosen with _ | ⟨_ | format, content⟩
  · rfl
  · rfl
  · cases content with
    | error reason => rfl
    | ok octets =>
        simp only [entriesOf]
        cases Text.Utf8.strict? octets with
        | none => rfl
        | some text =>
            have hentries := File.entries_unplaced (Path.relativeTo other.path place')
              (Path.relativeTo directory.path place) format text
            simpa only [map_mapError, mapError_mapError] using hentries

theorem load_some_eq (environment : List (String × String)) :
    load directory environment (some path) = requiredFile directory path >>= fun entries =>
      ofLayers [defaultEntries, entries, Environment.entries environment] := by
  rw [load, loadOver, fileLayers]
  cases requiredFile directory path <;> rfl

theorem load_some_unplaced (environment : List (String × String)) :
    (load directory environment (some path)).mapError LoadError.unplaced =
      ((requiredFile directory path).map Entry.unplacedEntries).mapError LoadError.unplaced >>=
        fun entries => ofLayers [Entry.unplacedEntries defaultEntries, entries,
          Entry.unplacedEntries (Environment.entries environment)] := by
  rw [load_some_eq]
  cases requiredFile directory path with
  | error error => rfl
  | ok entries => exact (ofLayers_unplaced _).symm

/-- In one place the same file gives the same, errors included. -/
theorem requiredFile_congr (hpath : other.path = directory.path)
    (hextensions : other.extensions = directory.extensions)
    (hat : other.at? path = directory.at? path)
    (happended : ∀ entry ∈ directory.extensions,
      other.appended? path entry.1 = directory.appended? path entry.1) :
    requiredFile other path = requiredFile directory path := by
  have hexact : other.file? (Path.join directory.path path) =
      directory.file? (Path.join directory.path path) := by
    simp only [Directory.at?, hpath] at hat
    exact Option.map_injective (Prod.mk_right_injective _) hat
  have hread : other.read path = directory.read path := by
    refine Directory.read_congr hpath hextensions hexact fun place hplace => ?_
    obtain ⟨entry, hentry, hplace⟩ := List.mem_filterMap.mp hplace
    obtain ⟨appended, happend, rfl⟩ := Option.map_eq_some_iff.mp hplace
    simpa only [Directory.appended?, hpath, happend, Option.bind_some] using happended entry hentry
  rw [requiredFile, requiredFile, hread]

/-! ## No settings -/

theorem File.exists_entriesOf_eq_error (origin : String) {read : Option Json.Value}
    (h : ¬ ∃ members, read = some (.object members)) :
    ∃ error, entriesOf origin read = .error error := by
  cases read with
  | none => exact ⟨.malformed, rfl⟩
  | some value =>
      cases value with
      | object members => exact absurd ⟨members, rfl⟩ h
      | null | bool _ | number _ | string _ | array _ => exact ⟨_, rfl⟩

theorem File.exists_entries_eq_error (origin : String) {text : String} {format : Format}
    (h : ¬ format.Accepts text) : ∃ error, (File.mk origin format text).entries = .error error := by
  cases format with
  | toml =>
      cases hread : Toml.read? text with
      | none => exact ⟨.malformed, by simp only [entries, hread]⟩
      | some entries => exact absurd ⟨entries, hread⟩ h
  | json | other _ => exact exists_entriesOf_eq_error origin h

theorem Directory.bind_format?_eq_none {extension : Option String}
    (h : ∀ entry ∈ directory.extensions, extension ≠ some entry.1) :
    extension.bind directory.format? = none := by
  cases extension with
  | none => rfl
  | some extension =>
      refine List.lookup_eq_none_iff.mpr fun entry hentry => ?_
      exact bne_iff_ne.mpr fun hsame => h entry hentry (congrArg some hsame)

theorem exists_load_eq_error (h : directory.Unusable path)
    (environment : List (String × String)) :
    ∃ error, load directory environment (some path) = .error error := by
  suffices hfile : ∃ error, requiredFile directory path = .error error by
    obtain ⟨error, herror⟩ := hfile
    exact ⟨error, by rw [load_some_eq, herror, bind_error]⟩
  obtain ⟨place, hplace⟩ := exists_requiredFile_eq directory path
  rw [hplace]
  cases h with
  | missing hat happended =>
      have hchosen : directory.chosen? path = none := by
        simp only [Directory.chosen?, hat, List.findSome?_eq_none_iff]
        intro entry hentry
        rw [happended entry hentry, Option.map_none]
      exact ⟨_, by rw [hchosen, entriesOf]⟩
  | @unregistered extension content hat hextension =>
      have hchosen : directory.chosen? path = some (none, content) := by
        simp only [Directory.chosen?, hat, Directory.bind_format?_eq_none hextension]
      exact ⟨_, by rw [hchosen, entriesOf]⟩
  | unreadable hchosen => exact ⟨_, by rw [hchosen, entriesOf]⟩
  | noText hchosen htext =>
      rw [hchosen, entriesOf, htext]
      exact ⟨_, rfl⟩
  | @malformed format octets text hchosen htext hparse =>
      obtain ⟨error, herror⟩ :=
        File.exists_entries_eq_error (Path.relativeTo directory.path place) hparse
      simp only [hchosen, entriesOf, htext, herror]
      exact ⟨_, rfl⟩

/-- An explicit path is the only one that files are looked for under: two directories with the same
file at the path, and the same files at the path with an extension appended, give the same settings,
or errors that differ in the names of places only; in one place even these are the same. The
extensions are tried in the same order, or in any two orders where the path is unambiguous. And
where no settings can be taken from the file, none are loaded. -/
theorem load_from_path
    (horder : other.extensions = directory.extensions ∨
      other.extensions.Perm directory.extensions ∧ directory.Unambiguous path)
    (hat : other.at? path = directory.at? path)
    (happended : ∀ entry ∈ directory.extensions,
      other.appended? path entry.1 = directory.appended? path entry.1)
    (environment : List (String × String)) :
    (load other environment (some path)).mapError LoadError.unplaced =
        (load directory environment (some path)).mapError LoadError.unplaced ∧
      (other.path = directory.path →
        load other environment (some path) = load directory environment (some path)) ∧
      (directory.Unusable path →
        ∃ error, load directory environment (some path) = .error error) := by
  -- The directory with the extensions in the order of the other one.
  obtain ⟨extensions, hextensions, hsame, hregistered⟩ : ∃ extensions,
      other.extensions = extensions ∧
        requiredFile { directory with extensions } path = requiredFile directory path ∧
        ∀ entry ∈ extensions, entry ∈ directory.extensions := by
    rcases horder with hextensions | ⟨hperm, hunambiguous⟩
    · exact ⟨directory.extensions, hextensions, rfl, fun _ hentry => hentry⟩
    · exact ⟨_, rfl, requiredFile_of_perm hperm hunambiguous, fun _ => hperm.mem_iff.mp⟩
  have hreordered : load { directory with extensions } environment (some path) =
      load directory environment (some path) := by
    rw [load_some_eq, load_some_eq, hsame]
  have happended' : ∀ entry ∈ extensions,
      other.appended? path entry.1 = directory.appended? path entry.1 :=
    fun entry hentry => happended entry (hregistered entry hentry)
  refine ⟨?_, fun hpath => ?_, fun hunusable => exists_load_eq_error hunusable environment⟩
  · obtain ⟨place, hrequired⟩ := exists_requiredFile_eq { directory with extensions } path
    obtain ⟨place', hrequired'⟩ := exists_requiredFile_eq other path
    have hchosen : other.chosen? path =
        ({ directory with extensions } : Directory).chosen? path :=
      Directory.chosen?_congr hextensions hat happended'
    rw [← hreordered, load_some_unplaced, load_some_unplaced, hrequired, hrequired', hchosen,
      entriesOf_unplaced place place' path]
  · have hrequired : requiredFile other path = requiredFile { directory with extensions } path :=
      requiredFile_congr hpath hextensions hat happended'
    rw [← hreordered, load_some_eq, load_some_eq, hrequired]

/-- A file in a directory below is found by its name without the extension, whichever extension is
tried first, and a standard file does not count beside it; without that file nothing is loaded. -/
theorem load_from_path_beside_standard_file :
    let own := ("conf/own.json", Octets.ofText "\x7b\"tts\": \x7b\"timeout_secs\": 5\x7d\x7d")
    let standard := ("bing-tts.toml", Octets.ofText "[tts]\ntimeout_secs = 9")
    let directory := Folder.toDirectory ⟨"/work", [own]⟩
    let other : Directory :=
      { Folder.toDirectory ⟨"/home/user", [standard, own]⟩ with
        extensions := [("json", .json), ("toml", .toml)] }
    let bare := Folder.toDirectory ⟨"/home/user", [standard]⟩
    let settings : Settings := { synthesis := { timeoutSecs := 5 } }
    other.extensions.Perm directory.extensions ∧ directory.Unambiguous "conf/own" ∧
      other.at? "conf/own" = directory.at? "conf/own" ∧
      (∀ entry ∈ directory.extensions,
        other.appended? "conf/own" entry.1 = directory.appended? "conf/own" entry.1) ∧
      load directory [] (some "conf/own") = .ok settings ∧
      load other [] (some "conf/own") = .ok settings ∧
      bare.Unusable "conf/own" ∧
      ∃ error, load bare [] (some "conf/own") = .error error := by
  intro own standard directory other bare settings
  have hperm : other.extensions.Perm directory.extensions := .swap _ _ []
  have hat : other.at? "conf/own" = directory.at? "conf/own" := by decide +kernel
  have hfiles : ∀ extension ∈ ["toml", "json"],
      other.appended? "conf/own" extension = directory.appended? "conf/own" extension ∧
        bare.appended? "conf/own" extension = none ∧
        ((directory.appended? "conf/own" extension).isSome = true → extension = "json") := by
    decide +kernel
  have hunambiguous : directory.Unambiguous "conf/own" := by
    refine ⟨by decide, fun _ entry hentry other hother hfirst hsecond => ?_⟩
    have honly := (hfiles _ (List.mem_map_of_mem hentry)).2.2 hfirst
    exact honly.trans ((hfiles _ (List.mem_map_of_mem hother)).2.2 hsecond).symm
  have happended : ∀ entry ∈ directory.extensions,
      other.appended? "conf/own" entry.1 = directory.appended? "conf/own" entry.1 :=
    fun entry hentry => (hfiles _ (List.mem_map_of_mem hentry)).1
  have hload : load directory [] (some "conf/own") = .ok settings :=
    toOption_eq_some_iff.mp (by decide +kernel)
  obtain ⟨hsame, -, -⟩ := load_from_path (.inr ⟨hperm, hunambiguous⟩) hat happended []
  rw [hload, mapError_ok, mapError_eq_ok_iff] at hsame
  have hunusable : bare.Unusable "conf/own" :=
    .missing (by decide +kernel) fun entry hentry => (hfiles _ (List.mem_map_of_mem hentry)).2.1
  have hitself : bare.at? "conf/own" = bare.at? "conf/own" := rfl
  obtain ⟨-, -, hnone⟩ := load_from_path (.inl rfl) hitself (fun _ _ => rfl) []
  exact ⟨hperm, hunambiguous, hat, happended, hload, hsame, hunusable, hnone hunusable⟩

/-- A reader of JSON that gives the members of the root from the last to the first. -/
def Format.backwards : Format :=
  .other fun text =>
    match Json.Value.ofText? text with
    | some (.object members) => some (.object members.reverse)
    | value => value

/-- A path with a slash at its end leads to a file although there is none at the path, nor at the
path with an extension behind it. Of two files side by side, the one is read whose extension is
tried first, and of two entries for one setting, the one counts that is given last. An error may
tell where the file is. -/
theorem load_past_slash_and_by_order :
    let debug := ("own.toml", Octets.ofText "[log]\nlevel = \"debug\"\n")
    let levels := ("own.json", Octets.ofText
      "\x7b\"log\": \x7b\"level\": \"info\"\x7d, \"log.level\": \"debug\"\x7d")
    let alone := Folder.toDirectory ⟨"/work", [debug]⟩
    let directory := Folder.toDirectory ⟨"/work", [debug, ("own.json", Octets.ofText "\x7b\x7d")]⟩
    let other : Directory := { directory with extensions := directory.extensions.reverse }
    let twofold := Folder.toDirectory ⟨"/work", [levels]⟩
    (∀ name ∈ ["own/", "own/.toml", "own/.json"], alone.file? (Path.join "/work" name) = none) ∧
      load alone [] (some "own/") = .ok { log := { level := "debug" } } ∧
      (∀ path, other.file? path = directory.file? path) ∧
      load directory [] (some "own") = .ok { log := { level := "debug" } } ∧
      load other [] (some "own") = .ok {} ∧
      load twofold [] (some "own.json") = .ok { log := { level := "debug" } } ∧
      load { twofold with extensions := [("json", .backwards)] } [] (some "own.json") =
        .ok { log := { level := "info" } } ∧
      load (Folder.toDirectory ⟨"/work", [("own", [])]⟩) [] (some "own") ≠
        load (Folder.toDirectory ⟨"/home", [("own", [])]⟩) [] (some "own") := by
  intro debug levels alone directory other twofold
  have hslash : load alone [] (some "own/") = .ok { log := { level := "debug" } } :=
    toOption_eq_some_iff.mp (by decide +kernel)
  have htoml : load directory [] (some "own") = .ok { log := { level := "debug" } } :=
    toOption_eq_some_iff.mp (by decide +kernel)
  have hjson : load other [] (some "own") = .ok {} := toOption_eq_some_iff.mp (by decide +kernel)
  have hlast : load twofold [] (some "own.json") = .ok { log := { level := "debug" } } :=
    toOption_eq_some_iff.mp (by decide +kernel)
  have hfirst : load { twofold with extensions := [("json", .backwards)] } [] (some "own.json") =
      .ok { log := { level := "info" } } := toOption_eq_some_iff.mp (by decide +kernel)
  exact ⟨by decide +kernel, hslash, fun _ => rfl, htoml, hjson, hlast, hfirst, by decide +kernel⟩

end CloudSpeech.Settings
