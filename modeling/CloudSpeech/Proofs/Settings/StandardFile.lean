import CloudSpeech.Proofs.Path.FileNames
import CloudSpeech.Proofs.Settings.Loading
import CloudSpeech.Settings.Folder

/-!
# Which files of a directory count

Where no path is given, settings come from the files with the standard names. Directories with the
same files under those names give the same settings. A file whose name is a standard name without
an extension is met before the settings file and is not read, so it hides that file.
-/

namespace CloudSpeech.Settings

namespace Directory

/-- The names that a settings file may have: the one that is looked for, and those with a
registered extension. -/
def candidates (directory : Directory) (name : String) : List String :=
  name :: directory.extensions.map fun (extension, _) => name ++ "." ++ extension

/-- A directory in which only the files with some names are left. -/
def keep (directory : Directory) (names : List String) : Directory :=
  { directory with
    file? := fun path =>
      if path ∈ names.map (Path.join directory.path) then directory.file? path else none }

@[simp] theorem path_keep (directory : Directory) (names : List String) :
    (directory.keep names).path = directory.path := rfl

@[simp] theorem extensions_keep (directory : Directory) (names : List String) :
    (directory.keep names).extensions = directory.extensions := rfl

variable {directory other : Directory} {name : String}

theorem alternatives_eq (hname : Path.IsFileName name) :
    directory.alternatives name = directory.extensions.map fun (extension, format) =>
      (Path.join directory.path (name ++ "." ++ extension), format) := by
  simp only [alternatives, Path.append?_join directory.path hname, Option.map_some,
    List.filterMap_eq_map']

theorem mem_candidates (name : String) {entry : String × Format}
    (hentry : entry ∈ directory.extensions) :
    name ++ "." ++ entry.1 ∈ directory.candidates name :=
  List.mem_cons_of_mem _ (List.mem_map_of_mem hentry)

/-- What is read under the name of a file depends on the files with one of its candidates only. -/
theorem read_congr_of_isFileName (hname : Path.IsFileName name)
    (hpath : other.path = directory.path) (hextensions : other.extensions = directory.extensions)
    (hfiles : ∀ candidate ∈ directory.candidates name,
      other.file? (Path.join directory.path candidate) =
        directory.file? (Path.join directory.path candidate)) :
    other.read name = directory.read name := by
  refine read_congr hpath hextensions (hfiles name List.mem_cons_self) fun place hplace => ?_
  rw [alternatives_eq hname] at hplace
  obtain ⟨entry, hentry, rfl⟩ := List.mem_map.mp hplace
  exact hfiles _ (mem_candidates name hentry)

section

variable {origin extension text : String} {format : Format} {octets : Octets}
  (htext : Text.Utf8.strict? octets = some text)

include htext

theorem read_of_locate {place : String}
    (hlocate : directory.locate name = .ok (place, format, .ok octets))
    (horigin : Path.relativeTo directory.path place = origin) :
    directory.read name = .ok ⟨origin, format, text⟩ := by
  rw [read, hlocate, bind_ok]
  simp only [htext, horigin]
  rfl

theorem read_of_exact (hformat : directory.format? extension = some format)
    (hfile : directory.file? (Path.join directory.path name) = some (.ok octets))
    (hextension : Path.extension? (Path.join directory.path name) = some extension)
    (horigin : Path.relativeTo directory.path (Path.join directory.path name) = origin) :
    directory.read name = .ok ⟨origin, format, text⟩ := by
  refine read_of_locate htext ?_ horigin
  simp only [locate, hfile, hextension, Option.bind_some, hformat]

theorem read_of_appended {rest : List (String × Format)} (hname : Path.IsFileName name)
    (hextensions : directory.extensions = (extension, format) :: rest)
    (hbare : directory.file? (Path.join directory.path name) = none)
    (hfile : directory.file? (Path.join directory.path (name ++ "." ++ extension)) =
      some (.ok octets))
    (horigin : Path.relativeTo directory.path
      (Path.join directory.path (name ++ "." ++ extension)) = origin) :
    directory.read name = .ok ⟨origin, format, text⟩ := by
  refine read_of_locate htext ?_ horigin
  simp only [locate, hbare, alternatives_eq hname, hextensions, List.map_cons,
    List.findSome?_cons, hfile, Option.map_some]

end

/-- A name without an extension leads to nothing if there is a file with that very name. -/
theorem locate_of_bare (hname : Path.IsFileName name)
    (hformat : Path.extensionOf? name = none)
    (hfile : (directory.file? (Path.join directory.path name)).isSome = true) :
    directory.locate name = .error (.unknownFormat (Path.join directory.path name)) := by
  obtain ⟨content, hcontent⟩ := Option.isSome_iff_exists.mp hfile
  simp only [locate, hcontent, Path.extension?_join directory.path hname, hformat,
    Option.bind_none]

end Directory

variable {directory other : Directory} {name : String}

theorem isFileName_standard : ∀ name ∈ standardNames, Path.IsFileName name := by decide +kernel

theorem optionalFile_of_error {error : FileError} (h : directory.locate name = .error error) :
    optionalFile directory name = .ok [] := by
  rw [optionalFile, Directory.read, h]
  rfl

theorem optionalFile_of_absent (hname : Path.IsFileName name)
    (h : ∀ candidate ∈ directory.candidates name,
      directory.file? (Path.join directory.path candidate) = none) :
    optionalFile directory name = .ok [] := by
  have hexact := h name List.mem_cons_self
  have hnothing : (directory.extensions.findSome? fun entry =>
      (directory.file? (Path.join directory.path (name ++ "." ++ entry.1))).map fun content =>
        (Path.join directory.path (name ++ "." ++ entry.1), entry.2, content)) = none := by
    refine List.findSome?_eq_none_iff.mpr fun entry hentry => ?_
    rw [h _ (Directory.mem_candidates name hentry), Option.map_none]
  have hlocate : directory.locate name = .error (.notFound name) := by
    simp only [Directory.locate, Directory.alternatives_eq hname, hexact, List.findSome?_map,
      Function.comp_def, hnothing]
  exact optionalFile_of_error hlocate

theorem fileLayers_none_eq_ok {front back : Entries}
    (hfront : optionalFile directory "bing-tts" = .ok front)
    (hback : optionalFile directory "bing-tts.local" = .ok back) :
    fileLayers directory none = .ok [front, back] := by
  simp only [fileLayers, standardNames, List.mapM_cons, List.mapM_nil, hfront, hback]
  rfl

theorem load_eq_of_fileLayers_eq {path : Option String}
    (h : fileLayers other path = fileLayers directory path)
    (environment : List (String × String)) :
    load other environment path = load directory environment path := by
  rw [load, load, loadOver, loadOver, h]

/-- Directories that have the same files under the standard names give the same settings. -/
theorem load_congr (hpath : other.path = directory.path)
    (hextensions : other.extensions = directory.extensions)
    (hfiles : ∀ candidate ∈ standardNames.flatMap directory.candidates,
      other.file? (Path.join directory.path candidate) =
        directory.file? (Path.join directory.path candidate))
    (environment : List (String × String)) :
    load other environment none = load directory environment none := by
  have hread : ∀ name ∈ standardNames, other.read name = directory.read name := fun name hname =>
    Directory.read_congr_of_isFileName (isFileName_standard name hname) hpath hextensions
      fun candidate hcandidate =>
        hfiles candidate (List.mem_flatMap.mpr ⟨name, hname, hcandidate⟩)
  apply load_eq_of_fileLayers_eq
  simp only [fileLayers, standardNames, List.mapM_cons, List.mapM_nil, optionalFile,
    hread "bing-tts" (by decide), hread "bing-tts.local" (by decide)]

theorem exists_eq_append_of_mem_candidates {candidate : String}
    (h : candidate ∈ directory.candidates name) : ∃ back, candidate = name ++ back := by
  rcases List.mem_cons.mp h with rfl | h
  · exact ⟨"", by rw [String.append_empty]⟩
  · obtain ⟨entry, -, rfl⟩ := List.mem_map.mp h
    exact ⟨"." ++ entry.1, String.append_assoc⟩

/-- Where there is no other settings file, the standard file alone gives the settings, whatever
else the directory holds; but a file with the bare standard name hides it, and then the settings
are those of a directory without settings files. -/
theorem load_from_standard_file
    (hothers : ∀ candidate ∈ standardNames.flatMap directory.candidates,
      candidate ≠ "bing-tts" → candidate ≠ "bing-tts.toml" →
        directory.file? (Path.join directory.path candidate) = none)
    (environment : List (String × String)) :
    load directory environment none =
      load (directory.keep
        (if (directory.file? (Path.join directory.path "bing-tts")).isSome then []
          else ["bing-tts.toml"])) environment none := by
  have hlocal : ∀ candidate ∈ directory.candidates "bing-tts.local",
      directory.file? (Path.join directory.path candidate) = none := by
    intro candidate hcandidate
    have hmem : candidate ∈ standardNames.flatMap directory.candidates :=
      List.mem_flatMap.mpr ⟨_, by decide, hcandidate⟩
    obtain ⟨back, rfl⟩ := exists_eq_append_of_mem_candidates hcandidate
    exact hothers _ hmem (by simp [String.ext_iff]) (by simp [String.ext_iff])
  cases hbare : (directory.file? (Path.join directory.path "bing-tts")).isSome with
  | true =>
      have hhidden : optionalFile directory "bing-tts" = .ok [] :=
        optionalFile_of_error (Directory.locate_of_bare
          (isFileName_standard "bing-tts" (by decide)) (by decide +kernel) hbare)
      have hnone : ∀ path, (directory.keep []).file? path = none := fun path => rfl
      have hkept : ∀ name ∈ standardNames, optionalFile (directory.keep []) name = .ok [] :=
        fun name hname => optionalFile_of_absent (isFileName_standard name hname)
          fun candidate _ => hnone _
      have hlayers : fileLayers directory none = .ok [[], []] := fileLayers_none_eq_ok hhidden
        (optionalFile_of_absent (isFileName_standard "bing-tts.local" (by decide)) hlocal)
      have hlayers' : fileLayers (directory.keep []) none = .ok [[], []] :=
        fileLayers_none_eq_ok (hkept "bing-tts" (by decide)) (hkept "bing-tts.local" (by decide))
      exact load_eq_of_fileLayers_eq (hlayers.trans hlayers'.symm) environment
  | false =>
      have hnone : directory.file? (Path.join directory.path "bing-tts") = none :=
        Option.isSome_eq_false_iff.mp hbare |> Option.isNone_iff_eq_none.mp
      have halone : load (directory.keep ["bing-tts.toml"]) environment none =
          load directory environment none := by
        refine load_congr (Directory.path_keep directory _) (Directory.extensions_keep directory _)
          (fun candidate hcandidate => ?_) environment
        -- What is not kept was not there.
        by_cases htoml : candidate = "bing-tts.toml"
        · subst htoml
          simp [Directory.keep]
        · have habsent : directory.file? (Path.join directory.path candidate) = none := by
            by_cases hexact : candidate = "bing-tts"
            · rwa [hexact]
            · exact hothers candidate hcandidate hexact htoml
          simp [Directory.keep, habsent]
      exact halone.symm

/-- Beside a note and a directory of the program's name, the standard file sets the level of the
log. -/
theorem load_beside_unrelated_files :
    let directory := Folder.toDirectory ⟨"/work",
      [("bing-tts.toml", Octets.ofText "[log]\nlevel = \"debug\""),
        ("notes.toml", Octets.ofText "[log]\nlevel = \"off\""),
        ("bing-tts/log.toml", Octets.ofText "[log]\nlevel = \"trace\"")]⟩
    (∀ candidate ∈ standardNames.flatMap directory.candidates,
      candidate ≠ "bing-tts" → candidate ≠ "bing-tts.toml" →
        directory.file? (Path.join directory.path candidate) = none) ∧
    (directory.file? (Path.join directory.path "bing-tts")).isSome = false ∧
    load directory [] none = load (directory.keep ["bing-tts.toml"]) [] none ∧
    load directory [] none = .ok { log := { level := "debug" } } := by
  intro directory
  have hothers : ∀ candidate ∈ standardNames.flatMap directory.candidates,
      candidate ≠ "bing-tts" → candidate ≠ "bing-tts.toml" →
        directory.file? (Path.join directory.path candidate) = none := by
    decide +kernel
  have hbare : (directory.file? (Path.join directory.path "bing-tts")).isSome = false := by
    decide +kernel
  have halone := load_from_standard_file hothers []
  rw [hbare] at halone
  exact ⟨hothers, hbare, halone, toOption_eq_some_iff.mp (by decide +kernel)⟩

/-- A script with the name of the program hides the standard file. -/
theorem script_hides_standard_file :
    let settingsFile := ("bing-tts.toml", Octets.ofText "[log]\nlevel = \"debug\"")
    let script := ("bing-tts", Octets.ofText "#!/bin/sh\n")
    load (Folder.toDirectory ⟨"/work", [settingsFile]⟩) [] none =
        .ok { log := { level := "debug" } } ∧
      load (Folder.toDirectory ⟨"/work", [script, settingsFile]⟩) [] none = .ok {} := by
  exact ⟨toOption_eq_some_iff.mp (by decide +kernel), toOption_eq_some_iff.mp (by decide +kernel)⟩

end CloudSpeech.Settings
