import CloudSpeech.Proofs.Settings.Keys
import CloudSpeech.Proofs.Settings.Loading
import CloudSpeech.Proofs.Settings.Merging
import CloudSpeech.Settings.Folder

/-!
# Which source counts for a field

Each field goes by what the environment has for it, or else by the last file that has something,
or else by its default. The settings are loaded exactly if what counts for each field converts
to its kind and the settings make sense, and each field has the value that is converted.
-/

namespace CloudSpeech.Settings

variable {source : Entries} {files : List Entries} {environment : List (String × String)}

/-- What a source has for a field, upper and lower case apart. -/
def Entries.given? (source : Entries) (field : Field) : Option Entry :=
  (Entries.find? (Entries.small source) field.sectionOf.name).bind fun part =>
    Entries.find? (Entries.small part.entries) field.name

/-- A table in which no key occurs twice, upper and lower case apart. -/
def Entry.IsSection : Entry → Prop
  | .table _ entries => ((Entries.small entries).map Prod.fst).Nodup
  | _ => False

def Entry.IsScalar : Entry → Prop
  | .scalar _ _ => True
  | _ => False

/-- A source that has single names as keys, tables as sections, and scalars for the fields. Upper
and lower case apart, no key occurs twice. -/
structure Entries.Plain (source : Entries) : Prop where
  isName : ∀ entry ∈ source, IsName entry.1
  nodup : ((Entries.small source).map Prod.fst).Nodup
  isSection : ∀ part : Section, ∀ entry ∈ Entries.find? (Entries.small source) part.name,
    entry.IsSection
  isScalar : ∀ field : Field, ∀ entry ∈ Entries.given? source field, entry.IsScalar

instance (entry : Entry) : Decidable entry.IsSection :=
  match entry with
  | .table _ entries =>
      inferInstanceAs (Decidable ((Entries.small entries).map Prod.fst).Nodup)
  | .scalar _ _ | .array _ _ => inferInstanceAs (Decidable False)

instance (entry : Entry) : Decidable entry.IsScalar :=
  match entry with
  | .scalar _ _ => inferInstanceAs (Decidable True)
  | .array _ _ | .table _ _ => inferInstanceAs (Decidable False)

instance (source : Entries) : Decidable (Entries.Plain source) :=
  decidable_of_iff
    ((∀ entry ∈ source, IsName entry.1) ∧ ((Entries.small source).map Prod.fst).Nodup ∧
      (∀ part : Section, ∀ entry ∈ Entries.find? (Entries.small source) part.name,
        entry.IsSection) ∧
      ∀ field : Field, ∀ entry ∈ Entries.given? source field, entry.IsScalar)
    ⟨fun ⟨hname, hnodup, hsection, hscalar⟩ => ⟨hname, hnodup, hsection, hscalar⟩,
      fun h => ⟨h.isName, h.nodup, h.isSection, h.isScalar⟩⟩

/-- Variables of which each gives a value to a name in a section, and no two to the same. -/
structure Environment.Plain (environment : List (String × String)) : Prop where
  isDotted : ∀ key ∈ (Environment.entries environment).map Prod.fst, ∃ part name,
    IsName part ∧ IsName name ∧ key = part ++ "." ++ name
  nodup : ((Environment.entries environment).map Prod.fst).Nodup

/-- What counts for a field. -/
def effective (files : List Entries) (environment : List (String × String)) (field : Field) :
    Entry :=
  ((Entries.find? (Environment.entries environment) field.path).or
    (files.reverse.findSome? fun file => Entries.given? file field)).getD
      (.scalar none (field.kind.toScalar field.default))

/-! ## One file -/

theorem Entry.IsSection.exists_table {entry : Entry} (h : entry.IsSection) :
    ∃ origin entries, entry = .table origin entries ∧
      ((Entries.small entries).map Prod.fst).Nodup := by
  cases entry with
  | table origin entries => exact ⟨origin, entries, rfl, h⟩
  | scalar _ _ | array _ _ => exact h.elim

theorem Entry.IsScalar.exists_scalar {entry : Entry} (h : entry.IsScalar) :
    ∃ origin value, entry = .scalar origin value := by
  cases entry with
  | scalar origin value => exact ⟨origin, value, rfl⟩
  | array _ _ | table _ _ => exact h.elim

theorem putSource_of_isName (root : Entry) (hnames : ∀ entry ∈ source, IsName entry.1) :
    root.putSource source = Entry.putAll root source := by
  induction source generalizing root with
  | nil => rfl
  | cons entry rest ih =>
      obtain ⟨key, value⟩ := entry
      have hkey : KeyPath.ofKey key = ⟨key, []⟩ :=
        KeyPath.ofKey_of_isName (hnames _ List.mem_cons_self)
      have hput : root.putPath (.ofKey key) value =
          root.changeName key fun existing => Entry.put existing value := by
        rw [hkey]
        rfl
      rw [Entry.putAll, ← hput]
      exact ih _ fun entry hentry => hnames entry (List.mem_cons_of_mem _ hentry)

theorem field?_putSource_of_plain (root : Entry) (hplain : Entries.Plain source)
    (field : Field) :
    (root.putSource source).field? field = (Entries.given? source field).or (root.field? field) := by
  rw [putSource_of_isName root hplain.isName, Entry.field?, Entry.find?_putAll _ _ hplain.nodup,
    Entries.given?]
  cases hpart : Entries.find? (Entries.small source) field.sectionOf.name with
  | none => rfl
  | some part =>
      obtain ⟨origin, entries, rfl, hnodup⟩ :=
        (hplain.isSection field.sectionOf part hpart).exists_table
      rw [Option.map_some, Option.some_or, Option.bind_some, Entry.put,
        Entry.find?_putAll _ _ hnodup, Entry.find?_getD_emptyTable, Option.bind_some]
      have hgiven : Entries.given? source field =
          Entries.find? (Entries.small entries) field.name := by
        rw [Entries.given?, hpart]
        rfl
      change _ = (Entries.find? (Entries.small entries) field.name).or _
      cases hvalue : Entries.find? (Entries.small entries) field.name with
      | none => rfl
      | some value =>
          obtain ⟨_, _, rfl⟩ := (hplain.isScalar field value (hgiven.trans hvalue)).exists_scalar
          rfl

theorem field?_foldl_putSource (root : Entry) (hplain : ∀ file ∈ files, Entries.Plain file)
    (field : Field) :
    (files.foldl Entry.putSource root).field? field =
      (files.reverse.findSome? fun file => Entries.given? file field).or (root.field? field) := by
  induction files generalizing root with
  | nil => rfl
  | cons file rest ih =>
      have hrest := ih (root.putSource file) fun other hother =>
        hplain other (List.mem_cons_of_mem _ hother)
      rw [List.foldl_cons, hrest, field?_putSource_of_plain root (hplain file List.mem_cons_self),
        List.reverse_cons, List.findSome?_append, List.findSome?_singleton, Option.or_assoc]

/-! ## Values under a name in a section -/

theorem isName_section (field : Field) : IsName field.sectionOf.name := by
  cases field <;> decide +kernel

theorem isName_name (field : Field) : IsName field.name := by
  cases field <;> decide +kernel

/-- Values under keys of two names in small letters, each of them once. -/
structure Entries.Dotted (source : Entries) : Prop where
  isDotted : ∀ entry ∈ source, ∃ part name origin value,
    (IsName part ∧ Text.lowercase part = part) ∧ (IsName name ∧ Text.lowercase name = name) ∧
      entry = (part ++ "." ++ name, Entry.scalar origin value)
  nodup : (source.map Prod.fst).Nodup

theorem path_eq_iff (field : Field) {part name : String} (hpart : IsName part)
    (hname : IsName name) :
    field.path = part ++ "." ++ name ↔ field.sectionOf.name = part ∧ field.name = name := by
  constructor
  · intro hpath
    have hsame := congrArg KeyPath.ofKey hpath
    rw [Field.path, KeyPath.ofKey_dotted (isName_section field) (isName_name field),
      KeyPath.ofKey_dotted hpart hname] at hsame
    simpa using hsame
  · rintro ⟨rfl, rfl⟩
    rfl

theorem field?_putPath_dotted (root : Entry) {part name : String}
    (hpart : IsName part ∧ Text.lowercase part = part)
    (hname : IsName name ∧ Text.lowercase name = name) (origin : Option String) (value : Scalar)
    (field : Field) :
    (root.putPath (.ofKey (part ++ "." ++ name)) (.scalar origin value)).field? field =
      if field.path = part ++ "." ++ name then some (.scalar origin value)
      else root.field? field := by
  have hput : root.putPath (.ofKey (part ++ "." ++ name)) (.scalar origin value) =
      root.changeName part fun existing =>
        (existing.getD Entry.emptyTable).changeName name fun _ => .scalar origin value := by
    rw [KeyPath.ofKey_dotted hpart.1 hname.1]
    rfl
  rw [hput, Entry.field?, Entry.find?_changeName, hpart.2, Entry.field?]
  simp only [path_eq_iff field hpart.1 hname.1]
  by_cases hsection : field.sectionOf.name = part
  · simp only [hsection, if_true, true_and, Option.bind_some, Entry.find?_changeName, hname.2]
    by_cases hfield : field.name = name
    · simp only [hfield, if_true]
    · simp only [hfield, if_false]
      cases Entries.find? root.entries part <;> rfl
  · simp only [hsection, if_false, false_and]

theorem field?_putSource_of_dotted (root : Entry) (hdotted : Entries.Dotted source)
    (field : Field) :
    (root.putSource source).field? field =
      (Entries.find? source field.path).or (root.field? field) := by
  induction source generalizing root with
  | nil => rfl
  | cons entry rest ih =>
      obtain ⟨hfresh, hnodup⟩ := List.nodup_cons.mp hdotted.nodup
      obtain ⟨part, name, origin, value, hpart, hname, rfl⟩ :=
        hdotted.isDotted entry List.mem_cons_self
      have hrest := ih (root.putPath (.ofKey (part ++ "." ++ name)) (.scalar origin value))
        ⟨fun other hother => hdotted.isDotted other (List.mem_cons_of_mem _ hother), hnodup⟩
      rw [Entry.putSource, List.foldl_cons, ← Entry.putSource, hrest,
        field?_putPath_dotted root hpart hname, Entries.find?_cons]
      by_cases hpath : field.path = part ++ "." ++ name
      · have habsent : Entries.find? rest field.path = none :=
          Entries.find?_eq_none (hpath ▸ hfresh)
        rw [if_pos hpath, if_pos hpath, habsent]
        rfl
      · rw [if_neg hpath, if_neg hpath]

theorem dotted_entries (hplain : Environment.Plain environment) :
    Entries.Dotted (Environment.entries environment) := by
  refine ⟨fun entry hentry => ?_, hplain.nodup⟩
  obtain ⟨part, name, hpart, hname, hkey⟩ :=
    hplain.isDotted entry.1 (List.mem_map_of_mem hentry)
  obtain ⟨⟨variableName, content⟩, -, hgives⟩ := List.mem_filterMap.mp hentry
  obtain ⟨key, hkey?, rfl⟩ := Option.map_eq_some_iff.mp hgives
  have hsmall : ∀ c ∈ key.toList, c.isUpper = false :=
    fun c => Environment.isUpper_of_mem_key? hkey?
  have hchars : key.toList = part.toList ++ '.' :: name.toList := by
    rw [show key = part ++ "." ++ name from hkey]
    simp
  have hpartLower := lowercase_eq_self hpart fun c hc => hsmall c (by simp [hchars, hc])
  have hnameLower := lowercase_eq_self hname fun c hc => hsmall c (by simp [hchars, hc])
  exact ⟨part, name, _, _, ⟨hpart, hpartLower⟩, ⟨hname, hnameLower⟩, Prod.ext hkey rfl⟩

theorem lowercase_section (field : Field) :
    Text.lowercase field.sectionOf.name = field.sectionOf.name := by
  cases field <;> decide +kernel

theorem lowercase_name (field : Field) : Text.lowercase field.name = field.name := by
  cases field <;> decide +kernel

theorem dotted_defaultEntries : Entries.Dotted defaultEntries := by
  refine ⟨fun entry hentry => ?_, by decide +kernel⟩
  obtain ⟨field, -, rfl⟩ := List.mem_map.mp hentry
  exact ⟨_, _, none, _, ⟨isName_section field, lowercase_section field⟩,
    ⟨isName_name field, lowercase_name field⟩, rfl⟩

theorem find?_defaultEntries (field : Field) :
    Entries.find? defaultEntries field.path =
      some (.scalar none (field.kind.toScalar field.default)) := by
  cases field <;> rfl

/-! ## All layers -/

theorem field?_mergeLayers (hfiles : ∀ file ∈ files, Entries.Plain file)
    (henvironment : Environment.Plain environment) (field : Field) :
    (mergeLayers (defaultEntries :: files ++ [Environment.entries environment])).field? field =
      some (effective files environment field) := by
  rw [mergeLayers, List.foldl_append, List.foldl_cons, List.foldl_cons, List.foldl_nil,
    field?_putSource_of_dotted _ (dotted_entries henvironment),
    field?_foldl_putSource _ hfiles, field?_putSource_of_dotted _ dotted_defaultEntries,
    find?_defaultEntries, Option.some_or, ← Option.or_assoc, effective]
  cases ((Entries.find? (Environment.entries environment) field.path).or
    (files.reverse.findSome? fun file => Entries.given? file field)) <;> rfl

theorem fieldValue_eq_ok_iff {root entry : Entry} {field : Field}
    (hentry : root.field? field = some entry) (value : field.kind.Value) :
    fieldValue root.entries field = .ok value ↔ entry.convert field.kind = .ok value := by
  obtain ⟨part, hpart, hfound⟩ := Option.bind_eq_some_iff.mp hentry
  cases part with
  | scalar origin content => cases hfound
  | array origin items => cases hfound
  | table origin entries =>
      have hcontents : contents root.entries field.sectionOf = .ok (.named entries) := by
        rw [contents, hpart]
      have hvalue : Entries.find? entries field.name = some entry := hfound
      simp only [fieldValue, bind_eq_ok_iff, hcontents, Except.ok.injEq, exists_eq_left',
        Contents.entry?, hvalue, mapError_eq_ok_iff]

/-- Settings are loaded from plain files and variables exactly if each field has the value that
what counts for it is converted to, and the settings make sense. What a source has for one field
makes no difference to another, and what does not count need not convert. -/
theorem load_eq_ok_iff_effective {directory : Directory} {path : Option String}
    (hread : fileLayers directory path = .ok files) (hfiles : ∀ file ∈ files, Entries.Plain file)
    (henvironment : Environment.Plain environment) (settings : Settings) :
    load directory environment path = .ok settings ↔
      (∀ field, (effective files environment field).convert field.kind =
        .ok (settings.get field)) ∧ settings.Valid := by
  have hvalue : ∀ field value, fieldValue (mergeLayers
      (defaultEntries :: files ++ [Environment.entries environment])).entries field = .ok value ↔
        (effective files environment field).convert field.kind = .ok value :=
    fun field => fieldValue_eq_ok_iff (field?_mergeLayers hfiles henvironment field)
  simp only [load_eq_ok_iff, hread, Except.ok.injEq, exists_eq_left', ofLayers_eq_ok_iff, hvalue]

/-- A timeout that is no number does no harm where a variable gives another one, and capitals in
the keys of the local file make no difference. -/
theorem load_past_useless_timeout :
    let directory := Folder.toDirectory ⟨"/work",
      [("bing-tts.toml", Octets.ofText
          "other = [1]\n[token]\ntimeout_secs = \"never\"\n[tts]\ntimeout_secs = 4\nnote = []"),
        ("bing-tts.local.json", Octets.ofText
          "\x7b\"TTS\": \x7b\"Timeout_Secs\": \"5\"\x7d\x7d")]⟩
    let environment := [("PATH", "/bin"), ("BING_TTS_TOKEN__TIMEOUT_SECS", "7")]
    let settings : Settings := { token := { timeoutSecs := 7 }, synthesis := { timeoutSecs := 5 } }
    load directory environment none = .ok settings ∧ settings.Valid ∧
      ∃ files, fileLayers directory none = .ok files ∧ files.length = 2 ∧
        (∀ file ∈ files, Entries.Plain file) ∧ Environment.Plain environment ∧
        ∀ field, (effective files environment field).convert field.kind =
          .ok (settings.get field) := by
  intro directory environment settings
  have hload : load directory environment none = .ok settings :=
    toOption_eq_some_iff.mp (by decide +kernel)
  have hplain : ((fileLayers directory none).toOption.any fun files =>
      files.length = 2 && files.all fun file => Entries.Plain file) = true := by decide +kernel
  have henvironment : Environment.Plain environment := by
    have hkeys : (Environment.entries environment).map Prod.fst = ["token.timeout_secs"] := by
      decide +kernel
    refine ⟨fun key hkey => ?_, by rw [hkeys]; decide⟩
    rw [hkeys, List.mem_singleton] at hkey
    exact ⟨"token", "timeout_secs", by decide +kernel, by decide +kernel, hkey⟩
  obtain ⟨files, hread⟩ : ∃ files, fileLayers directory none = .ok files := by
    obtain ⟨files, hread, -⟩ := load_eq_ok_iff.mp hload
    exact ⟨files, hread⟩
  rw [hread, Except.toOption, Option.any_some, Bool.and_eq_true, List.all_eq_true] at hplain
  have hfiles : ∀ file ∈ files, Entries.Plain file := fun file hfile =>
    of_decide_eq_true (hplain.2 file hfile)
  have heffective := load_eq_ok_iff_effective hread hfiles henvironment settings
  obtain ⟨hconverted, hvalid⟩ := heffective.mp hload
  exact ⟨hload, hvalid, files, hread, of_decide_eq_true hplain.1, hfiles, henvironment, hconverted⟩

end CloudSpeech.Settings
