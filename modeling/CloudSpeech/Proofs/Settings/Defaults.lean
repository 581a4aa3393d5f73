import CloudSpeech.Proofs.Settings.Precedence
import CloudSpeech.Proofs.Settings.StandardFile

/-!
# Defaults that nothing below is needed for

The defaults stand in two places: as the lowest layer, and as the values of fields that the merged
layers lack. Merging the same sources over the lowest layer and over nothing gives tables that
differ only where a field has its default in one and is missing in the other. Every step of the
merge keeps them so, unless it gives a field an empty table, which takes nothing away from what is
there but replaces what is missing. So the lowest layer makes no difference to the settings.
-/

namespace CloudSpeech.Settings

def Entry.IsEmptyTable : Entry → Prop
  | .table _ entries => entries = []
  | _ => False

instance (entry : Entry) : Decidable entry.IsEmptyTable :=
  match entry with
  | .table _ [] => .isTrue rfl
  | .table _ (_ :: _) => .isFalse nofun
  | .scalar _ _ | .array _ _ => inferInstanceAs (Decidable False)

/-- The values that a field gets when a value is put where a path leads. The path may lead to the
field itself, or to its section, where a table may hold values under the name of the field. -/
def KeyPath.valuesFor (path : KeyPath) (value : Entry) (field : Field) : List Entry :=
  if Text.lowercase path.root = field.sectionOf.name then
    match path.steps with
    | [] => (value.entries.filter fun entry => Text.lowercase entry.1 = field.name).map Prod.snd
    | [.name name] => if Text.lowercase name = field.name then [value] else []
    | _ => []
  else []

/-- The values that a source gives to a field, under whatever keys. -/
def Entries.valuesFor (source : Entries) (field : Field) : List Entry :=
  source.flatMap fun (key, value) => (KeyPath.ofKey key).valuesFor value field

/-- A source that gives no field an empty table as its value. -/
def Entries.GivesNoEmptyTable (source : Entries) : Prop :=
  ∀ field, ∀ value ∈ source.valuesFor field, ¬ value.IsEmptyTable

instance (source : Entries) : Decidable source.GivesNoEmptyTable :=
  inferInstanceAs (Decidable (∀ field : Field, ∀ value ∈ source.valuesFor field,
    ¬ value.IsEmptyTable))

/-- The default of a field as an entry of the lowest layer. -/
def Field.defaultEntry (field : Field) : Entry := .scalar none (field.kind.toScalar field.default)

/-- What stands for a section in one table, and in another that is the same, or that has all fields
of the section: with what they have in the first, or else with their defaults. -/
inductive Completed (part : Section) : Option Entry → Option Entry → Prop
  | same (found : Option Entry) : Completed part found found
  | filled {below : Option Entry} {origin origin' : Option String} {entries entries' : Entries}
      (hbelow : below.getD .emptyTable = .table origin entries)
      (hfields : ∀ field : Field, field.sectionOf = part → Entries.find? entries' field.name =
        some ((Entries.find? entries field.name).getD field.defaultEntry)) :
      Completed part below (some (.table origin' entries'))

/-- A table in which every section is as in another, or has all its fields. -/
def Entry.CompletedBy (below above : Entry) : Prop :=
  ∀ part : Section, Completed part (Entries.find? below.entries part.name)
    (Entries.find? above.entries part.name)

variable {part : Section} {below above : Option Entry}

/-! ## What replaces a default as it replaces nothing -/

theorem Entry.put_scalar (origin : Option String) (found : Scalar) {value : Entry}
    (hvalue : ¬ value.IsEmptyTable) :
    Entry.put (some (.scalar origin found)) value = Entry.put none value := by
  cases value with
  | scalar _ _ | array _ _ => rfl
  | table origin' entries =>
      cases entries with
      | nil => exact absurd rfl hvalue
      | cons entry rest =>
          -- The first entry turns a scalar into a table with that entry alone.
          obtain ⟨name, inner⟩ := entry
          simp only [Entry.put, Entry.putAll, Option.getD_some, Option.getD_none, Entry.changeName,
            Entry.emptyTable]

theorem Entry.putAt_scalar (origin : Option String) (found : Scalar) (value : Entry) (step : Step)
    (rest : List Step) :
    Entry.putAt value (step :: rest) (some (.scalar origin found)) =
      Entry.putAt value (step :: rest) none := by
  cases step with
  | name name => rfl
  | item index => cases rest <;> rfl

theorem Entry.changeItem_table (origin origin' : Option String) (entries entries' : Entries)
    (index : Int) (f : Entry → Entry) :
    (Entry.table origin entries).changeItem index f =
      (Entry.table origin' entries').changeItem index f := rfl

/-! ## One step of a merge -/

namespace Completed

theorem getD (h : Completed part below above) :
    Completed part (some (below.getD .emptyTable)) (some (above.getD .emptyTable)) := by
  cases h with
  | same => exact .same _
  | filled hbelow hfields => exact .filled hbelow hfields

theorem changeName (h : Completed part below above) (name : String) (f : Option Entry → Entry)
    (hf : ∀ field : Field, field.sectionOf = part → Text.lowercase name = field.name →
      f (some field.defaultEntry) = f none) :
    Completed part (some ((below.getD .emptyTable).changeName name f))
      (some ((above.getD .emptyTable).changeName name f)) := by
  cases h with
  | same => exact .same _
  | filled hbelow hfields =>
      rw [hbelow]
      refine .filled rfl fun field hfield => ?_
      rw [Entries.find?_change, Entries.find?_change]
      by_cases hname : field.name = Text.lowercase name
      · rw [if_pos hname, if_pos hname, ← hname, hfields field hfield, Option.getD_some]
        cases Entries.find? _ field.name with
        | none => rw [Option.getD_none, hf field hfield hname.symm]
        | some found => rfl
      · rw [if_neg hname, if_neg hname, hfields field hfield]

theorem changeItem (h : Completed part below above) (index : Int) (f : Entry → Entry) :
    Completed part (some ((below.getD .emptyTable).changeItem index f))
      (some ((above.getD .emptyTable).changeItem index f)) := by
  cases h with
  | same => exact .same _
  | filled hbelow hfields =>
      rw [hbelow, Option.getD_some, Entry.changeItem_table]
      exact .same _

theorem putAll {entries : List (String × Entry)} {first second : Entry}
    (h : Completed part (some first) (some second))
    (hentries : ∀ entry ∈ entries, ∀ field : Field, field.sectionOf = part →
      Text.lowercase entry.1 = field.name → ¬ entry.2.IsEmptyTable) :
    Completed part (some (Entry.putAll first entries)) (some (Entry.putAll second entries)) := by
  induction entries generalizing first second with
  | nil => exact h
  | cons entry rest ih =>
      obtain ⟨name, value⟩ := entry
      obtain ⟨hfirst, hrest⟩ := List.forall_mem_cons.mp hentries
      refine ih (h.changeName name _ fun field hfield hname => ?_) hrest
      exact Entry.put_scalar none _ (hfirst field hfield hname)

theorem put (h : Completed part below above) {value : Entry}
    (hvalue : ∀ entry ∈ value.entries, ∀ field : Field, field.sectionOf = part →
      Text.lowercase entry.1 = field.name → ¬ entry.2.IsEmptyTable) :
    Completed part (some (Entry.put below value)) (some (Entry.put above value)) := by
  cases value with
  | scalar _ _ | array _ _ => exact .same _
  | table origin entries => exact h.getD.putAll hvalue

/-- Whatever is put where a path leads from a section. -/
theorem putAt (h : Completed part below above) {path : KeyPath} {value : Entry}
    (hroot : Text.lowercase path.root = part.name)
    (hvalue : ∀ field, ∀ given ∈ path.valuesFor value field, ¬ given.IsEmptyTable) :
    Completed part (some (Entry.putAt value path.steps below))
      (some (Entry.putAt value path.steps above)) := by
  obtain ⟨root, steps⟩ := path
  have hhere : ∀ field : Field, field.sectionOf = part →
      Text.lowercase root = field.sectionOf.name := by
    rintro field rfl
    exact hroot
  match steps with
  | [] =>
      refine h.put fun entry hentry field hfield hname => hvalue field entry.2 ?_
      rw [KeyPath.valuesFor, if_pos (hhere field hfield)]
      exact List.mem_map_of_mem (List.mem_filter.mpr ⟨hentry, decide_eq_true hname⟩)
  | .name name :: rest =>
      refine h.changeName name _ fun field hfield hname => ?_
      cases rest with
      | nil =>
          refine Entry.put_scalar none _ (hvalue field value ?_)
          rw [KeyPath.valuesFor, if_pos (hhere field hfield)]
          simp only [if_pos hname, List.mem_singleton]
      | cons step rest => exact Entry.putAt_scalar none _ value step rest
  | [.item index] => exact h.changeItem index _
  | .item index :: step :: rest => exact h.changeItem index _

end Completed

/-! ## The merge of all layers -/

namespace Entry.CompletedBy

variable {below above : Entry}

theorem putPath (h : CompletedBy below above) {path : KeyPath} {value : Entry}
    (hvalue : ∀ field, ∀ given ∈ path.valuesFor value field, ¬ given.IsEmptyTable) :
    CompletedBy (below.putPath path value) (above.putPath path value) := by
  intro part
  rw [Entry.putPath, Entry.putPath, find?_changeName, find?_changeName]
  by_cases hroot : part.name = Text.lowercase path.root
  · rw [if_pos hroot, if_pos hroot]
    exact (h part).putAt hroot.symm hvalue
  · rw [if_neg hroot, if_neg hroot]
    exact h part

theorem putSource (h : CompletedBy below above) {source : Entries}
    (hsource : source.GivesNoEmptyTable) :
    CompletedBy (below.putSource source) (above.putSource source) := by
  induction source generalizing below above with
  | nil => exact h
  | cons entry rest ih =>
      have hgiven : ∀ field, Entries.valuesFor (entry :: rest) field =
          (KeyPath.ofKey entry.1).valuesFor entry.2 field ++ Entries.valuesFor rest field :=
        fun field => List.flatMap_cons
      have hfirst : ∀ field, ∀ given ∈ (KeyPath.ofKey entry.1).valuesFor entry.2 field,
          ¬ given.IsEmptyTable := fun field given hmem =>
        hsource field given (hgiven field ▸ List.mem_append_left _ hmem)
      have hrest : Entries.GivesNoEmptyTable rest := fun field given hmem =>
        hsource field given (hgiven field ▸ List.mem_append_right _ hmem)
      exact ih (h.putPath hfirst) hrest

theorem foldl_putSource (h : CompletedBy below above) {sources : List Entries}
    (hsources : ∀ source ∈ sources, source.GivesNoEmptyTable) :
    CompletedBy (sources.foldl Entry.putSource below) (sources.foldl Entry.putSource above) := by
  induction sources generalizing below above with
  | nil => exact h
  | cons source rest ih =>
      obtain ⟨hfirst, hrest⟩ := List.forall_mem_cons.mp hsources
      exact ih (h.putSource hfirst) hrest

end Entry.CompletedBy

theorem Field.exists_sectionOf_eq : ∀ part : Section, ∃ field : Field, field.sectionOf = part
  | .token => ⟨.tokenUrl, rfl⟩
  | .synthesis => ⟨.synthesisUrl, rfl⟩
  | .playback => ⟨.graceMs, rfl⟩
  | .log => ⟨.logLevel, rfl⟩

theorem Entry.exists_table_of_field? {root value : Entry} {field : Field}
    (h : root.field? field = some value) :
    ∃ origin entries, Entries.find? root.entries field.sectionOf.name =
        some (.table origin entries) ∧ Entries.find? entries field.name = some value := by
  obtain ⟨found, hfound, hvalue⟩ := Option.bind_eq_some_iff.mp h
  cases found with
  | table origin entries => exact ⟨origin, entries, hfound, hvalue⟩
  | scalar _ _ | array _ _ => cases hvalue

theorem completedBy_defaultEntries :
    Entry.CompletedBy .emptyTable (Entry.emptyTable.putSource defaultEntries) := by
  have hdefault : ∀ field : Field, (Entry.emptyTable.putSource defaultEntries).field? field =
      some field.defaultEntry := by
    intro field
    rw [field?_putSource_of_dotted _ dotted_defaultEntries, find?_defaultEntries, Option.some_or,
      Field.defaultEntry]
  intro part
  obtain ⟨first, rfl⟩ := Field.exists_sectionOf_eq part
  obtain ⟨origin, entries, hsection, -⟩ := Entry.exists_table_of_field? (hdefault first)
  have hnothing : Entries.find? Entry.emptyTable.entries first.sectionOf.name = none := rfl
  rw [hsection, hnothing]
  refine .filled rfl fun field hfield => ?_
  obtain ⟨_, entries', hsection', hfound⟩ := Entry.exists_table_of_field? (hdefault field)
  rw [hfield, hsection] at hsection'
  cases hsection'
  exact hfound

theorem KeyPath.eq_of_mem_valuesFor_scalar {path : KeyPath} {origin : Option String}
    {value : Scalar} {field : Field} {given : Entry}
    (h : given ∈ path.valuesFor (.scalar origin value) field) : given = .scalar origin value := by
  rw [valuesFor] at h
  split at h
  · split at h
    · cases h
    · split at h
      · exact List.mem_singleton.mp h
      · cases h
    · cases h
  · cases h

theorem givesNoEmptyTable_entries (environment : List (String × String)) :
    Entries.GivesNoEmptyTable (Environment.entries environment) := by
  intro field given hgiven hempty
  obtain ⟨⟨key, value⟩, hentry, hvalues⟩ := List.mem_flatMap.mp hgiven
  obtain ⟨⟨name, content⟩, -, hvariable⟩ := List.mem_filterMap.mp hentry
  obtain ⟨key', -, hpair⟩ := Option.map_eq_some_iff.mp hvariable
  cases hpair
  rw [KeyPath.eq_of_mem_valuesFor_scalar hvalues] at hempty
  exact hempty

/-! ## The values of the fields -/

theorem convert_toScalar (origin : Option String) (kind : Kind) (value : kind.Value) :
    (Entry.scalar origin (kind.toScalar value)).convert kind = .ok value := by
  cases kind with
  | text | flag => rfl
  | whole =>
      have hbounds : 0 ≤ (UInt64.toNat value : Int) ∧ (UInt64.toNat value : Int) < UInt64.size :=
        ⟨Int.natCast_nonneg _, Int.ofNat_lt.mpr (UInt64.toNat_lt_size value)⟩
      simp only [Entry.convert, Kind.toScalar, Entry.toWhole, if_pos hbounds, Int.toNat_natCast]
      exact congrArg Except.ok (UInt64.ofNat_toNat)

theorem contents_of_getD_eq_table {root : Entries} {part : Section} {origin : Option String}
    {entries : Entries} (h : (Entries.find? root part.name).getD .emptyTable = .table origin entries) :
    contents root part = .ok (.named entries) := by
  rw [contents]
  cases hfound : Entries.find? root part.name with
  | none =>
      rw [hfound] at h
      cases h
      rfl
  | some found =>
      rw [hfound] at h
      cases h
      rfl

theorem Entry.CompletedBy.fieldValue_eq {below above : Entry} (h : CompletedBy below above)
    (field : Field) : fieldValue below.entries field = fieldValue above.entries field := by
  have hsection := h field.sectionOf
  generalize hbelow : Entries.find? below.entries field.sectionOf.name = first at hsection
  generalize habove : Entries.find? above.entries field.sectionOf.name = second at hsection
  cases hsection with
  | same => simp only [fieldValue, contents, hbelow, habove]
  | @filled origin origin' entries entries' htable hfields =>
      have hcontents : contents below.entries field.sectionOf = .ok (.named entries) :=
        contents_of_getD_eq_table (hbelow.symm ▸ htable)
      have hcontents' : contents above.entries field.sectionOf = .ok (.named entries') := by
        rw [contents, habove]
      have hentry := hfields field rfl
      rw [fieldValue, fieldValue, hcontents, hcontents', bind_ok, bind_ok]
      simp only [Contents.entry?, hentry]
      cases Entries.find? entries field.name with
      | none =>
          have hconvert := convert_toScalar none field.kind field.default
          rw [Option.getD_none, Field.defaultEntry, hconvert]
          rfl
      | some found => rfl

/-- The layer of the defaults makes no difference below sources of which none gives a field an
empty table. -/
theorem ofLayers_defaultEntries {sources : List Entries}
    (hsources : ∀ source ∈ sources, source.GivesNoEmptyTable) :
    ofLayers (defaultEntries :: sources) = ofLayers ([] :: sources) := by
  have hmerged : Entry.CompletedBy (mergeLayers ([] :: sources))
      (mergeLayers (defaultEntries :: sources)) := by
    rw [mergeLayers, mergeLayers, List.foldl_cons, List.foldl_cons]
    exact completedBy_defaultEntries.foldl_putSource hsources
  have hvalues : fieldValue (mergeLayers (defaultEntries :: sources)).entries =
      fieldValue (mergeLayers ([] :: sources)).entries :=
    funext fun field => (hmerged.fieldValue_eq field).symm
  rw [ofLayers, ofLayers, ofEntries, ofEntries, hvalues]

theorem load_of_no_sources {directory : Directory} {environment : List (String × String)}
    (hfiles : ∀ candidate ∈ standardNames.flatMap directory.candidates,
      directory.file? (Path.join directory.path candidate) = none)
    (hvariables : ∀ entry ∈ environment, Environment.key? entry.1 = none) :
    load directory environment none = .ok {} := by
  have hoptional : ∀ name ∈ standardNames, optionalFile directory name = .ok [] :=
    fun name hname => optionalFile_of_absent (isFileName_standard name hname)
      fun candidate hcandidate => hfiles candidate (List.mem_flatMap.mpr ⟨name, hname, hcandidate⟩)
  have hlayers : fileLayers directory none = .ok [[], []] :=
    fileLayers_none_eq_ok (hoptional "bing-tts" (by decide)) (hoptional "bing-tts.local" (by decide))
  have hnone : Environment.entries environment = [] := by
    refine List.filterMap_eq_nil_iff.mpr fun entry hentry => ?_
    exact Option.map_eq_none_iff.mpr (hvariables entry hentry)
  have hnothing : ∀ source ∈ [[], [], Environment.entries environment],
      Entries.GivesNoEmptyTable source := by
    simp [hnone, Entries.GivesNoEmptyTable, Entries.valuesFor]
  have hvalue : ∀ field, fieldValue (mergeLayers [[], [], [], []]).entries field =
      .ok (({} : Settings).get field) := by
    intro field
    have hcontents : contents [] field.sectionOf = .ok (.named []) := rfl
    have hmerged : (mergeLayers [[], [], [], []]).entries = [] := rfl
    rw [hmerged, fieldValue, hcontents]
    rfl
  have hvalid : ({} : Settings).Valid := invalid?_eq_none_iff.mp (by decide +kernel)
  refine load_eq_ok_iff.mpr ⟨_, hlayers, ?_⟩
  rw [List.cons_append, List.cons_append, List.cons_append, List.nil_append,
    ofLayers_defaultEntries hnothing, hnone]
  exact ofLayers_eq_ok_iff.mpr ⟨hvalue, hvalid⟩

/-- Without the layer of the defaults the same settings are loaded, or none for the same reason,
if no file gives a field an empty table. Where there are no files and no variables, the settings
are the defaults. -/
theorem load_eq_loadOver_nil {directory : Directory} {environment : List (String × String)}
    {path : Option String}
    (hfiles : ∀ files, fileLayers directory path = .ok files →
      ∀ file ∈ files, Entries.GivesNoEmptyTable file) :
    load directory environment path = loadOver [] directory environment path ∧
      ((∀ candidate ∈ standardNames.flatMap directory.candidates,
          directory.file? (Path.join directory.path candidate) = none) →
        (∀ entry ∈ environment, Environment.key? entry.1 = none) →
        load directory environment none = .ok {}) := by
  refine ⟨?_, fun habsent hvariables => load_of_no_sources habsent hvariables⟩
  cases hread : fileLayers directory path with
  | error error => rw [load, loadOver, loadOver, hread, bind_error, bind_error]
  | ok files =>
      have hsources : ∀ source ∈ files ++ [Environment.entries environment],
          Entries.GivesNoEmptyTable source := by
        intro source hsource
        rcases List.mem_append.mp hsource with hfile | hvariables
        · exact hfiles files hread source hfile
        · rw [List.mem_singleton.mp hvariables]
          exact givesNoEmptyTable_entries environment
      rw [load, loadOver, loadOver, hread, bind_ok, bind_ok, List.cons_append, List.cons_append,
        ofLayers_defaultEntries hsources]

/-- A section that is null in one file becomes a table again in the next, where the field that is
not given has its default. -/
theorem load_over_rebuilt_section :
    let directory := Folder.toDirectory ⟨"/work",
      [("bing-tts.json", Octets.ofText "\x7b\"token\":null,\"log\":[\"info\"]\x7d"),
        ("bing-tts.local.toml", Octets.ofText "token.timeout_secs = 3")]⟩
    let settings : Settings := { token := { timeoutSecs := 3 }, log := { level := "info" } }
    (∀ files, fileLayers directory none = .ok files →
        ∀ file ∈ files, Entries.GivesNoEmptyTable file) ∧
      load directory [] none = .ok settings ∧ loadOver [] directory [] none = .ok settings := by
  intro directory settings
  have hall : ((fileLayers directory none).toOption.all fun files =>
      files.all fun file => Entries.GivesNoEmptyTable file) = true := by decide +kernel
  have hfiles : ∀ files, fileLayers directory none = .ok files →
      ∀ file ∈ files, Entries.GivesNoEmptyTable file := by
    intro files hread file hfile
    rw [hread, Except.toOption, Option.all_some, List.all_eq_true] at hall
    exact of_decide_eq_true (hall file hfile)
  have hload : load directory [] none = .ok settings :=
    toOption_eq_some_iff.mp (by decide +kernel)
  have hsame : load directory [] none = _ := (load_eq_loadOver_nil hfiles).1
  exact ⟨hfiles, hload, hsame ▸ hload⟩

end CloudSpeech.Settings
