import CloudSpeech.Proofs.Settings.NumberTexts
import CloudSpeech.Proofs.Settings.StandardFile

/-!
# Settings that are whole numbers

However a number is written, in a file of either format or in a variable, the setting has the
number. The other settings are what they are without it, unless their section was an array of
values, which a table with the number replaces.
-/

namespace CloudSpeech.Settings

variable {field : Field} {n : Nat}

/-- What settings are loaded from. -/
structure Inputs where
  directory : Directory
  environment : List (String × String)
  /-- The path of the settings file, where one is given. -/
  path : Option String

namespace Inputs

def load (inputs : Inputs) : Except LoadError Settings :=
  Settings.load inputs.directory inputs.environment inputs.path

/-- The layers above the defaults. -/
def layers (inputs : Inputs) : Except LoadError (List Entries) :=
  (fileLayers inputs.directory inputs.path).map (· ++ [Environment.entries inputs.environment])

/-- No file and no variable says anything about a field. -/
def Silent (inputs : Inputs) (field : Field) : Prop :=
  ∀ layers, inputs.layers = .ok layers → ∀ source ∈ layers, source.Silent field

instance (inputs : Inputs) (field : Field) : Decidable (inputs.Silent field) :=
  decidable_of_iff _ forall_eq_ok_iff.symm

/-- For a section there is an array of values, in the order of its fields. -/
def Lists (inputs : Inputs) (part : Section) : Prop :=
  ∃ layers, inputs.layers = .ok layers ∧ Settings.Lists (defaultEntries :: layers) part

theorem load_eq_ok_iff {inputs : Inputs} {settings : Settings} :
    inputs.load = .ok settings ↔
      ∃ layers, inputs.layers = .ok layers ∧
        ofLayers (defaultEntries :: layers) = .ok settings := by
  simp only [load, Settings.load_eq_ok_iff, layers, map_eq_ok_iff]
  constructor
  · rintro ⟨files, hfiles, hlayers⟩
    exact ⟨_, ⟨files, hfiles, rfl⟩, hlayers⟩
  · rintro ⟨_, ⟨files, hfiles, rfl⟩, hlayers⟩
    exact ⟨files, hfiles, hlayers⟩

end Inputs

/-- A file says nothing about a field. -/
def File.Silent (file : File) (field : Field) : Prop :=
  ∀ entries, file.entries = .ok entries → entries.Silent field

instance (file : File) (field : Field) : Decidable (file.Silent field) :=
  decidable_of_iff _ forall_eq_ok_iff.symm

/-- The text of a format that says nothing, where one is known. -/
def Format.emptyText? : Format → Option String
  | toml => some ""
  | json => some "\x7b\x7d"
  | other _ => none

/-- What settings are loaded from, without and with a number for a field: in the file at a path, in
one of the standard files, which may have been missing, or in a variable. What counts after the
number says nothing about the field. -/
inductive Inputs.Adds (field : Field) (n : Nat) : Inputs → Inputs → Prop where
  | inFile {directory edited : Directory} {environment : List (String × String)} {path : String}
      {file : File} {text : String}
      (hread : directory.read path = .ok file) (hedited : edited.read path = .ok { file with text })
      (hwrites : file.format.Writes field n file.text text) (hsilent : file.Silent field)
      (henvironment : (Environment.entries environment).Silent field) :
      Adds field n ⟨directory, environment, some path⟩ ⟨edited, environment, some path⟩
  | inStandardFile {directory edited : Directory} {environment : List (String × String)}
      {before after : List String} {name : String} {file : File} {text : String}
      (hnames : standardNames = before ++ name :: after)
      (hread : directory.read name = .ok file ∨
        (∃ error, directory.read name = .error error) ∧ file.format.emptyText? = some file.text)
      (hedited : edited.read name = .ok { file with text })
      (hothers : ∀ other ∈ before ++ after, edited.read other = directory.read other)
      (hwrites : file.format.Writes field n file.text text) (hsilent : file.Silent field)
      (hafter : ∀ other ∈ after, ∀ entries, optionalFile directory other = .ok entries →
        entries.Silent field)
      (henvironment : (Environment.entries environment).Silent field) :
      Adds field n ⟨directory, environment, none⟩ ⟨edited, environment, none⟩
  | inEnvironment {directory : Directory} {before after : List (String × String)}
      {path : Option String} {name content : String}
      (hname : Environment.key? name = some field.path)
      (hcontent : Decimal.IsNumeral n content)
      (hafter : (Environment.entries after).Silent field) :
      Adds field n ⟨directory, before ++ after, path⟩
        ⟨directory, before ++ (name, content) :: after, path⟩

theorem File.entries_of_emptyText? {file : File} (h : file.format.emptyText? = some file.text) :
    file.entries = .ok [] := by
  obtain ⟨origin, format, text⟩ := file
  cases format with
  | other read => cases h
  | toml =>
      obtain rfl : "" = text := Option.some.inj h
      exact entries_eq_ok_of_read? Toml.read?_empty
  | json =>
      obtain rfl : "\x7b\x7d" = text := Option.some.inj h
      have hblank : Json.Blank [] := nofun
      have hobject : Json.IsText (.objectOf []) "\x7b\x7d" :=
        ⟨[], _, [], hblank, .emptyObject hblank, hblank, rfl⟩
      exact entries_eq_ok_of_ofText? (Json.Value.ofText?_eq hobject)

/-- The files with several names, and the same with another file under one of the names. -/
theorem exists_mapM_eq {read : String → Except LoadError Entries} {before after : List String}
    {name : String} {files : List Entries} (h : (before ++ name :: after).mapM read = .ok files) :
    ∃ earlier source later, files = earlier ++ source :: later ∧ read name = .ok source ∧
      (∀ source ∈ later, ∃ other ∈ after, read other = .ok source) ∧
      ∀ {edited : String → Except LoadError Entries} {changed : Entries},
        edited name = .ok changed → (∀ other ∈ before ++ after, edited other = read other) →
          (before ++ name :: after).mapM edited = .ok (earlier ++ changed :: later) := by
  induction before generalizing files with
  | nil =>
      obtain ⟨source, later, hsource, hlater, rfl⟩ := mapM_cons_eq_ok_iff.mp h
      refine ⟨[], source, later, rfl, hsource, fun _ => exists_of_mem_mapM hlater,
        fun hchanged hothers => mapM_cons_eq_ok_iff.mpr ⟨_, later, hchanged, ?_, rfl⟩⟩
      exact mapM_eq_ok_congr hlater hothers
  | cons first before ih =>
      obtain ⟨entries, files, hfirst, hfiles, rfl⟩ := mapM_cons_eq_ok_iff.mp h
      obtain ⟨earlier, source, later, rfl, hsource, hlater, hedited⟩ := ih hfiles
      refine ⟨entries :: earlier, source, later, rfl, hsource, hlater,
        fun hchanged hothers => mapM_cons_eq_ok_iff.mpr ⟨entries, _, ?_, ?_, rfl⟩⟩
      · rw [hothers first List.mem_cons_self, hfirst]
      · exact hedited hchanged fun other hother => hothers other (.tail _ hother)

theorem optionalFile_of_read {directory : Directory} {name : String} {file : File}
    (h : directory.read name = .ok file) :
    optionalFile directory name = file.entries.mapError .content := by
  rw [optionalFile, h]

theorem requiredFile_of_read {directory : Directory} {path : String} {file : File}
    (h : directory.read path = .ok file) :
    requiredFile directory path = file.entries.mapError .content := by
  rw [requiredFile, h]
  rfl

/-- With the number, one of the layers has one value more, and those that count later say nothing
about the field. -/
theorem Inputs.Adds.exists_layers {inputs edited : Inputs} {layers : List Entries}
    (h : inputs.Adds field n edited) (hn : n < Decimal.signedBound)
    (hlayers : inputs.layers = .ok layers) :
    ∃ origin value earlier source changed later, Scalar.Denotes n value ∧
      Entries.Adds field origin value source changed ∧
      (∀ source ∈ later, source.Silent field) ∧ layers = earlier ++ source :: later ∧
      edited.layers = .ok (earlier ++ changed :: later) := by
  obtain ⟨files, hfiles, rfl⟩ := map_eq_ok_iff.mp hlayers
  cases h with
  | @inFile directory edited environment path file text hread hedited hwrites hsilent
      henvironment =>
      obtain ⟨source, hsource, rfl⟩ := map_eq_ok_iff.mp hfiles
      rw [requiredFile_of_read hread, mapError_eq_ok_iff] at hsource
      obtain ⟨value, changed, hvalue, hadds, hchanged⟩ :=
        hwrites.exists_adds hn hsource (hsilent source hsource)
      refine ⟨file.origin, value, [], source, changed, [Environment.entries environment], hvalue,
        hadds, List.forall_mem_singleton.mpr henvironment, rfl, ?_⟩
      rw [layers, fileLayers, requiredFile_of_read hedited, hchanged]
      rfl
  | @inStandardFile directory edited environment before after name file text hnames hread hedited
      hothers hwrites hsilent hafter henvironment =>
      rw [fileLayers, hnames] at hfiles
      obtain ⟨earlier, source, later, rfl, hsource, hlater, hfiles⟩ := exists_mapM_eq hfiles
      have hentries : file.entries = .ok source := by
        rcases hread with hread | ⟨⟨error, herror⟩, hempty⟩
        · rwa [optionalFile_of_read hread, mapError_eq_ok_iff] at hsource
        · -- A file that is missing counts as an empty one.
          rw [optionalFile, herror] at hsource
          cases hsource
          exact File.entries_of_emptyText? hempty
      obtain ⟨value, changed, hvalue, hadds, hchanged⟩ :=
        hwrites.exists_adds hn hentries (hsilent source hentries)
      refine ⟨file.origin, value, earlier, source, changed,
        later ++ [Environment.entries environment], hvalue, hadds, ?_, by simp, ?_⟩
      · refine List.forall_mem_append.mpr ⟨fun source hsource => ?_,
          List.forall_mem_singleton.mpr henvironment⟩
        obtain ⟨other, hother, hentries⟩ := hlater source hsource
        exact hafter other hother source hentries
      · have hfile : optionalFile edited name = .ok changed := by
          rw [optionalFile_of_read hedited, hchanged]
          rfl
        have hlayers := hfiles hfile fun other hother => by
          rw [optionalFile, optionalFile, hothers other hother]
        rw [layers, fileLayers, hnames, hlayers]
        simp [Except.map]
  | @inEnvironment directory before after path name content hname hcontent hafter =>
      refine ⟨Environment.origin, .integer n, files, _, _, [], .integer,
        .newPath (Environment.entries before) hafter,
        fun _ hnil => absurd hnil List.not_mem_nil, by rw [Environment.entries_append], ?_⟩
      rw [layers, hfiles, Environment.entries_append, Environment.entries_cons hname,
        Environment.scalar_numeral hcontent hn]
      rfl

/-- However a number is written, the setting has it. The other settings are what they are without
it, except that a table with the number replaces an array of values for the section, and leaves
the other settings of the section at their defaults. There is no such array where nothing else is
said about the field. -/
theorem load_with_number {inputs edited : Inputs} {settings : Settings}
    (hadds : inputs.Adds field n edited) (hkind : field.kind = .whole)
    (hn : n < Decimal.signedBound)
    (hpositive : field = .tokenTimeout ∨ field = .synthesisTimeout → n ≠ 0)
    (hload : inputs.load = .ok settings) :
    ∃ loaded, edited.load = .ok loaded ∧
      field.kind.toScalar (loaded.get field) = .integer n ∧
      (∀ other ≠ field, loaded.get other = settings.get other ∨
        other.sectionOf = field.sectionOf ∧ inputs.Lists field.sectionOf ∧
          loaded.get other = other.default) ∧
      (inputs.Silent field → ∀ other ≠ field, loaded.get other = settings.get other) := by
  obtain ⟨layers, hlayers, hsettings⟩ := Inputs.load_eq_ok_iff.mp hload
  obtain ⟨origin, value, earlier, source, changed, later, hvalue, hsource, hlater, rfl, hedited⟩ :=
    hadds.exists_layers hn hlayers
  have hoverrides := hsource.overrides_layers (defaultEntries :: earlier) hlater
  obtain ⟨new, hnew, hnumber⟩ :=
    hvalue.convert (hn.trans (by decide)) hkind (some origin)
  obtain ⟨loaded, hloaded, hfield, -⟩ :=
    hoverrides.ofLayers_eq_ok hsettings hnew (accepts_number hnumber hpositive)
  have hothers : ∀ other ≠ field, loaded.get other = settings.get other ∨
      other.sectionOf = field.sectionOf ∧ inputs.Lists field.sectionOf ∧
        loaded.get other = other.default := by
    intro other hother
    exact (hoverrides.get_eq_or hsettings hloaded hother).imp_right fun ⟨hsame, hlists, hdefault⟩ =>
      ⟨hsame, ⟨_, hlayers, hlists⟩, hdefault⟩
  refine ⟨loaded, Inputs.load_eq_ok_iff.mpr ⟨_, hedited, hloaded⟩, by rw [hfield, hnumber],
    hothers, fun hsilent other hother => (hothers other hother).resolve_right ?_⟩
  rintro ⟨-, ⟨layers, hlayers', hlists⟩, -⟩
  exact not_lists_of_silent (hsilent layers hlayers') hlists

theorem ext_get {settings other : Settings} (h : ∀ field, settings.get field = other.get field) :
    settings = other := by
  rw [← ofFields_get settings, ← ofFields_get other, funext h]

/-- A number in a standard file that was missing, a text with zeros in a JSON file beside another
setting of the section, and a variable with a plus sign. -/
theorem load_with_seven :
    let folder := fun files => Folder.toDirectory ⟨"/work", files⟩
    let numberText := "tts.timeout_secs = 7\n"
    let jsonText := "\x7b\"tts\":\x7b\"url\":\"http://localhost/\"\x7d\x7d"
    let jsonNumberText :=
      "\x7b\"tts\":\x7b\"url\":\"http://localhost/\",\"timeout_secs\":\"007\"\x7d\x7d"
    let empty : Inputs := ⟨folder [], [], none⟩
    let own : Inputs :=
      ⟨folder [("own.json", Octets.ofText jsonText)], [], some "own.json"⟩
    let ownSettings : Settings := { synthesis := { url := "http://localhost/" } }
    empty.load = .ok {} ∧ own.load = .ok ownSettings ∧
      (Inputs.mk (folder [("bing-tts.local.toml", Octets.ofText numberText)]) [] none).load =
        .ok { synthesis := { timeoutSecs := 7 } } ∧
      (Inputs.mk (folder [("own.json", Octets.ofText jsonNumberText)]) [] (some "own.json")).load =
        .ok { synthesis := { url := "http://localhost/", timeoutSecs := 7 } } ∧
      (Inputs.mk (folder []) [("BING_TTS_TTS__TIMEOUT_SECS", "+7")] none).load =
        .ok { synthesis := { timeoutSecs := 7 } } := by
  intro folder numberText jsonText jsonNumberText empty own ownSettings
  have hempty : empty.load = .ok {} := toOption_eq_some_iff.mp (by decide +kernel)
  have hown : own.load = .ok ownSettings := toOption_eq_some_iff.mp (by decide +kernel)
  have hload : ∀ {inputs edited : Inputs} {settings : Settings},
      inputs.Adds .synthesisTimeout 7 edited → inputs.Silent .synthesisTimeout →
        inputs.load = .ok settings →
          edited.load =
            .ok { settings with synthesis := { settings.synthesis with timeoutSecs := 7 } } := by
    intro inputs edited settings hadds hsilent hsettings
    obtain ⟨loaded, hloaded, hfield, -, hothers⟩ :=
      load_with_number hadds rfl (by decide) (fun _ => by decide) hsettings
    have hseven : loaded.get .synthesisTimeout = (7 : UInt64) :=
      UInt64.toNat_inj.mp (Int.ofNat_inj.mp (Scalar.integer.inj hfield))
    rw [hloaded]
    refine congrArg Except.ok (ext_get fun other => ?_)
    by_cases hother : other = .synthesisTimeout
    · subst hother
      exact hseven
    · rw [hothers hsilent other hother]
      cases other with
      | synthesisTimeout => exact absurd rfl hother
      | _ => rfl
  have hsilent : empty.Silent .synthesisTimeout ∧ own.Silent .synthesisTimeout := by
    decide +kernel
  have hvariables : Entries.Silent .synthesisTimeout (Environment.entries []) := nofun
  have htexts : ∀ text ∈ [numberText, jsonText, jsonNumberText],
      Text.Utf8.strict? (Octets.ofText text) = some text := by decide +kernel
  have hstandard : empty.Adds .synthesisTimeout 7
      ⟨folder [("bing-tts.local.toml", Octets.ofText numberText)], [], none⟩ := by
    have hmissing : ((folder []).read "bing-tts.local").toOption = none := by decide +kernel
    have hread : (folder [("bing-tts.local.toml", Octets.ofText numberText)]).read
        "bing-tts.local" = .ok ⟨"bing-tts.local.toml", .toml, numberText⟩ :=
      Directory.read_of_appended (htexts _ (by simp)) (isFileName_standard _ (by decide)) rfl
        (by decide +kernel) (by decide +kernel) (by decide +kernel)
    have habsent : ∀ files ∈ [[], [("bing-tts.local.toml", Octets.ofText numberText)]],
        ∀ candidate ∈ (folder []).candidates "bing-tts",
          (folder files).file? (Path.join "/work" candidate) = none := by decide +kernel
    have hother : (folder [("bing-tts.local.toml", Octets.ofText numberText)]).read "bing-tts" =
        (folder []).read "bing-tts" :=
      Directory.read_congr_of_isFileName (isFileName_standard "bing-tts" (by decide)) rfl rfl
        fun candidate hcandidate => (habsent _ (by simp) candidate hcandidate).trans
          (habsent [] (by simp) candidate hcandidate).symm
    have hwrites : Format.Writes .synthesisTimeout 7 .toml "" numberText :=
      @Format.Writes.dottedLine .synthesisTimeout 7 "" "7" _
        (.integer (Toml.integerText_toString 7)) nofun (by simp)
    exact @Inputs.Adds.inStandardFile _ _ _ _ _ ["bing-tts"] [] "bing-tts.local"
      ⟨"bing-tts.local.toml", .toml, ""⟩ numberText rfl
      (.inr ⟨toOption_eq_none_iff.mp hmissing, rfl⟩) hread (List.forall_mem_singleton.mpr hother)
      hwrites (by decide +kernel) nofun hvariables
  have hmember : own.Adds .synthesisTimeout 7
      ⟨folder [("own.json", Octets.ofText jsonNumberText)], [], some "own.json"⟩ := by
    have hnil : Json.Blank [] := nofun
    have hplain : ∀ content ∈ ["tts", "url", "http://localhost/", "timeout_secs", "007"],
        Json.StringSpelling (.ok content) ('"' :: (content.toList ++ ['"'])) :=
      fun content hcontent => .plain (by revert content; simp)
    have hurl := Json.SpellsMember.intro hnil (hplain "url" (by simp)) hnil hnil
      (.string (hplain "http://localhost/" (by simp))) hnil
    have hnumber := Json.SpellsMember.intro hnil (hplain "timeout_secs" (by simp)) hnil hnil
      (.string (hplain "007" (by simp))) hnil
    have hdocument := fun {members text} (h : Json.SpellsMembers members text) =>
      Json.Spells.object (.last (.intro hnil (hplain "tts" (by simp)) hnil hnil (.object h) hnil))
    have hjson : ∀ files, (folder files).format? "json" = some .json := fun _ => rfl
    have hread : (folder [("own.json", Octets.ofText jsonText)]).read "own.json" =
        .ok ⟨"own.json", .json, jsonText⟩ :=
      Directory.read_of_exact (htexts _ (by simp)) (hjson _) (by decide +kernel) (by decide +kernel)
        (by decide +kernel)
    have hedited : (folder [("own.json", Octets.ofText jsonNumberText)]).read "own.json" =
        .ok ⟨"own.json", .json, jsonNumberText⟩ :=
      Directory.read_of_exact (htexts _ (by simp)) (hjson _) (by decide +kernel) (by decide +kernel)
        (by decide +kernel)
    have hwrites : Format.Writes .synthesisTimeout 7 .json jsonText jsonNumberText :=
      @Format.Writes.newMember .synthesisTimeout 7 _ _ [] []
        [("url", .string (.ok "http://localhost/"))] [] _ (.quoted ⟨2, .inl (by decide)⟩) (by simp)
        ⟨[], _, [], hnil, hdocument (.last hurl), hnil, by decide +kernel⟩
        ⟨[], _, [], hnil, hdocument (.cons hurl (.last hnumber)), hnil, by decide +kernel⟩
    exact .inFile hread hedited hwrites (by decide +kernel) hvariables
  have hvariable : Environment.key? "BING_TTS_TTS__TIMEOUT_SECS" =
      some Field.synthesisTimeout.path := by decide +kernel
  have hplus : Decimal.IsNumeral 7 "+7" := ⟨0, .inr (by decide)⟩
  exact ⟨hempty, hown, hload hstandard hsilent.1 hempty, hload hmember hsilent.2 hown,
    hload (@Inputs.Adds.inEnvironment _ _ _ [] [] _ _ _ hvariable hplus hvariables)
      hsilent.1 hempty⟩

end CloudSpeech.Settings
