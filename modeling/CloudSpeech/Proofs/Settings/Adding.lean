import CloudSpeech.Proofs.Settings.Overriding

/-!
# One value more in a source

A source with one value more, for a field that it says nothing else about, differs from the source
without it in that field only, and later sources that say nothing about the field keep it so. All
other settings stay, unless their section was an array of values until then.
-/

namespace CloudSpeech.Settings

variable {field : Field} {value below above : Entry}

/-- A table without the name of a field. -/
def Entry.Lacks (field : Field) : Entry → Prop
  | .table _ entries => ∀ member ∈ entries, Text.lowercase member.1 ≠ field.name
  | _ => False

/-- What is put where a path leads says nothing about a field: the path does not reach the field,
or it leads to the section and the name of the field is not in the table that is put there. -/
def Entry.SilentAt (field : Field) (path : KeyPath) (entry : Entry) : Prop :=
  ¬ path.Reaches field ∨ path.steps = [] ∧ entry.Lacks field

def Entries.Silent (field : Field) (source : Entries) : Prop :=
  ∀ entry ∈ source, entry.2.SilentAt field (.ofKey entry.1)

instance (entry : Entry) (field : Field) : Decidable (entry.Lacks field) :=
  match entry with
  | .table _ entries =>
      inferInstanceAs (Decidable (∀ member ∈ entries, Text.lowercase member.1 ≠ field.name))
  | .scalar _ _ | .array _ _ => inferInstanceAs (Decidable False)

instance (field : Field) (path : KeyPath) (entry : Entry) : Decidable (entry.SilentAt field path) :=
  inferInstanceAs (Decidable (_ ∨ _))

instance (field : Field) (source : Entries) : Decidable (Entries.Silent field source) :=
  inferInstanceAs (Decidable (∀ entry ∈ source, entry.2.SilentAt field (.ofKey entry.1)))

/-- A source, and the source with a value for a field besides: under the path of the field, in a
table for the section, or in the table that it has for the section. What follows says nothing
about the field. -/
inductive Entries.Adds (field : Field) (origin : String) (value : Scalar) :
    Entries → Entries → Prop where
  | newPath (first : Entries) {last : Entries} (hlast : last.Silent field) :
      Adds field origin value (first ++ last)
        (first ++ (field.path, .scalar (some origin) value) :: last)
  | newSection (first : Entries) {last : Entries} (hlast : last.Silent field) :
      Adds field origin value (first ++ last)
        (first ++ (field.sectionOf.name,
          .table (some origin) [(field.name, .scalar (some origin) value)]) :: last)
  | newMember (first before : Entries) {last after : Entries} (tableOrigin : Option String)
      (hafter : ∀ member ∈ after, Text.lowercase member.1 ≠ field.name)
      (hlast : last.Silent field) :
      Adds field origin value
        (first ++ (field.sectionOf.name, .table tableOrigin (before ++ after)) :: last)
        (first ++ (field.sectionOf.name, .table tableOrigin
          (before ++ (field.name, .scalar (some origin) value) :: after)) :: last)

/-! ## Tables member by member -/

theorem Entries.change_change (entries : Entries) (key : String) (f g : Option Entry → Entry) :
    change (change entries key f) key g = change entries key fun found => g (some (f found)) := by
  induction entries with
  | nil => simp [change]
  | cons entry rest ih =>
      obtain ⟨other, found⟩ := entry
      by_cases hsame : other = key
      · simp [change, hsame]
      · simp [change, hsame, ih]

theorem Entry.changeName_changeName (root : Entry) (name : String) (f g : Option Entry → Entry) :
    (root.changeName name f).changeName name g =
      root.changeName name fun found => g (some (f found)) := by
  cases root <;> simp only [changeName, Entries.change_change]

theorem Entry.changeName_putAll (root : Entry) (name : String) (f : Option Entry → Entry)
    (entries : Entries) :
    root.changeName name (fun found => putAll (f found) entries) =
      entries.foldl (fun root member => root.putPath ⟨name, [.name member.1]⟩ member.2)
        (root.changeName name f) := by
  induction entries generalizing f with
  | nil => rfl
  | cons member rest ih =>
      simp only [putAll, List.foldl_cons, ih]
      rw [putPath, changeName_changeName]
      rfl

/-- A table is put in place as an empty one, and then member by member. -/
theorem Entry.putPath_table (root : Entry) (name : String) (origin : Option String)
    (entries : Entries) :
    root.putPath ⟨name, []⟩ (.table origin entries) =
      entries.foldl (fun root member => root.putPath ⟨name, [.name member.1]⟩ member.2)
        (root.putPath ⟨name, []⟩ emptyTable) :=
  changeName_putAll root name _ entries

theorem Entry.field?_putPath_emptyTable (root : Entry) (name : String) (field : Field) :
    (root.putPath ⟨name, []⟩ emptyTable).field? field = root.field? field := by
  rw [field?, putPath, find?_changeName]
  split
  · exact find?_getD_emptyTable root field
  · rfl

/-! ## Sources that say nothing about the field -/

namespace Entry.Overrides

theorem putPath_emptyTable (h : Overrides field value below above) (name : String) :
    Overrides field value (below.putPath ⟨name, []⟩ emptyTable)
      (above.putPath ⟨name, []⟩ emptyTable) where
  value := by rw [field?_putPath_emptyTable, h.value]
  fields other hother := by
    rw [field?_putPath_emptyTable, field?_putPath_emptyTable, h.fields other hother]
  sections part hpart := by simp only [Entry.putPath, find?_changeName, h.sections part hpart]

theorem foldl_putPath (h : Overrides field value below above) (name : String) {entries : Entries}
    (hentries : ∀ member ∈ entries, Text.lowercase member.1 ≠ field.name) :
    Overrides field value
      (entries.foldl (fun root member => root.putPath ⟨name, [.name member.1]⟩ member.2) below)
      (entries.foldl (fun root member => root.putPath ⟨name, [.name member.1]⟩ member.2)
        above) := by
  induction entries generalizing below above with
  | nil => exact h
  | cons member rest ih =>
      obtain ⟨hfirst, hrest⟩ := List.forall_mem_cons.mp hentries
      have hpath : ¬ KeyPath.Reaches ⟨name, [.name member.1]⟩ field := fun hreaches =>
        hfirst hreaches.2
      exact ih (h.putPath hpath member.2) hrest

theorem putPath_of_silent (h : Overrides field value below above) {path : KeyPath} {entry : Entry}
    (hsilent : entry.SilentAt field path) :
    Overrides field value (below.putPath path entry) (above.putPath path entry) := by
  rcases hsilent with hpath | ⟨hsteps, hlacks⟩
  · exact h.putPath hpath entry
  · obtain ⟨name, steps⟩ := path
    cases hsteps
    cases entry with
    | scalar _ _ | array _ _ => exact hlacks.elim
    | table origin entries =>
        rw [putPath_table, putPath_table]
        exact (h.putPath_emptyTable name).foldl_putPath name hlacks

theorem putSource_of_silent (h : Overrides field value below above) {source : Entries}
    (hsource : source.Silent field) :
    Overrides field value (below.putSource source) (above.putSource source) := by
  induction source generalizing below above with
  | nil => exact h
  | cons entry rest ih =>
      obtain ⟨hfirst, hrest⟩ := List.forall_mem_cons.mp hsource
      exact ih (h.putPath_of_silent hfirst) hrest

theorem foldl_putSource (h : Overrides field value below above) {sources : List Entries}
    (hsources : ∀ source ∈ sources, source.Silent field) :
    Overrides field value (sources.foldl Entry.putSource below)
      (sources.foldl Entry.putSource above) := by
  induction sources generalizing below above with
  | nil => exact h
  | cons source rest ih =>
      obtain ⟨hfirst, hrest⟩ := List.forall_mem_cons.mp hsources
      exact ih (h.putSource_of_silent hfirst) hrest

end Entry.Overrides

/-! ## The source with the value -/

theorem KeyPath.ofKey_path (field : Field) :
    ofKey field.path = ⟨field.sectionOf.name, [.name field.name]⟩ :=
  ofKey_dotted (isName_section field) (isName_name field)

theorem KeyPath.reaches_section (field : Field) :
    (⟨field.sectionOf.name, []⟩ : KeyPath).Reaches field :=
  ⟨lowercase_section field, trivial⟩

namespace Entries

variable {source edited : Entries} {origin : String} {content : Scalar}

theorem Silent.of_subset {part : Entries} (h : source.Silent field) (hpart : part ⊆ source) :
    part.Silent field :=
  fun entry hentry => h entry (hpart hentry)

/-- What a source has for the section that says nothing about the field. -/
theorem Silent.lacks_of_mem {entry : Entry} (h : source.Silent field)
    (hentry : (field.sectionOf.name, entry) ∈ source) : entry.Lacks field := by
  have hsection := KeyPath.ofKey_of_isName (isName_section field)
  rcases h _ hentry with hpath | ⟨-, hlacks⟩
  · rw [hsection] at hpath
    exact absurd (KeyPath.reaches_section field) hpath
  · exact hlacks

/-- The source with the value overrides the one without it, whatever it is put into. -/
theorem Adds.overrides (h : Adds field origin content source edited) (root : Entry) :
    Entry.Overrides field (.scalar (some origin) content) (root.putSource source)
      (root.putSource edited) := by
  have hsection := KeyPath.ofKey_of_isName (isName_section field)
  have hput := fun root => overrides_putPath root field (some origin) content
  cases h with
  | newPath first hlast =>
      simp only [Entry.putSource, List.foldl_append, List.foldl_cons]
      exact (hput _).putSource_of_silent hlast
  | newSection first hlast =>
      simp only [Entry.putSource, List.foldl_append, List.foldl_cons, hsection]
      rw [KeyPath.ofKey_path] at hput
      exact (hput _).putSource_of_silent hlast
  | newMember first before tableOrigin hafter hlast =>
      simp only [Entry.putSource, List.foldl_append, List.foldl_cons, hsection,
        Entry.putPath_table]
      rw [KeyPath.ofKey_path] at hput
      exact ((hput _).foldl_putPath _ hafter).putSource_of_silent hlast

theorem Adds.overrides_layers (h : Adds field origin content source edited)
    (earlier : List Entries) {later : List Entries}
    (hlater : ∀ source ∈ later, source.Silent field) :
    Entry.Overrides field (.scalar (some origin) content)
      (mergeLayers (earlier ++ source :: later)) (mergeLayers (earlier ++ edited :: later)) := by
  simp only [mergeLayers, List.foldl_append, List.foldl_cons]
  exact (h.overrides _).foldl_putSource hlater

end Entries

/-! ## Sections as arrays of values -/

/-- The layers come to an array of values for a section. -/
def Lists (layers : List Entries) (part : Section) : Prop :=
  ∃ origin items,
    Entries.find? (mergeLayers layers).entries part.name = some (.array origin items)

/-- Settings are the same but for the field. The others of a section that was an array of values
have their defaults. -/
theorem Entry.Overrides.get_eq_or {layers others : List Entries} {settings loaded : Settings}
    (h : Entry.Overrides field value (mergeLayers layers) (mergeLayers others))
    (hlayers : ofLayers layers = .ok settings) (hothers : ofLayers others = .ok loaded)
    {other : Field} (hother : other ≠ field) :
    loaded.get other = settings.get other ∨
      other.sectionOf = field.sectionOf ∧ Lists layers field.sectionOf ∧
        loaded.get other = other.default := by
  have hbelow := (ofLayers_eq_ok_iff.mp hlayers).1 other
  have habove := (ofLayers_eq_ok_iff.mp hothers).1 other
  rcases h.fieldValue_eq_ok hother hbelow with hkept | ⟨hsame, harray, hdefault⟩
  · exact .inl (Except.ok.inj (habove.symm.trans hkept))
  · exact .inr ⟨hsame, hsame ▸ harray, Except.ok.inj (habove.symm.trans hdefault)⟩

/-- What stands for a section is no array. -/
def Entry.Unlisted (root : Entry) (part : Section) : Prop :=
  ∀ origin items, Entries.find? root.entries part.name ≠ some (.array origin items)

theorem changeName_ne_array (root : Entry) (name : String) (f : Option Entry → Entry)
    (origin : Option String) (items : List Entry) :
    root.changeName name f ≠ .array origin items := by
  cases root <;> nofun

theorem putAll_ne_array {target : Entry} (htarget : ∀ origin items, target ≠ .array origin items)
    (entries : Entries) (origin : Option String) (items : List Entry) :
    Entry.putAll target entries ≠ .array origin items := by
  induction entries generalizing target with
  | nil => exact htarget origin items
  | cons member rest ih => exact ih (changeName_ne_array target member.1 _)

theorem Entry.Unlisted.putPath {root entry : Entry} {path : KeyPath}
    (h : root.Unlisted field.sectionOf) (hsilent : entry.SilentAt field path) :
    (root.putPath path entry).Unlisted field.sectionOf := by
  intro origin items
  rw [Entry.putPath, find?_changeName]
  split
  · next hroot =>
      refine mt Option.some.inj ?_
      rcases hsilent with hpath | ⟨hsteps, hlacks⟩
      · obtain ⟨name, steps, hsteps, -⟩ := KeyPath.exists_other_name hpath hroot
        rw [hsteps, putAt]
        exact changeName_ne_array _ name _ origin items
      · rw [hsteps, putAt]
        cases entry with
        | scalar _ _ | array _ _ => exact hlacks.elim
        | table _ entries =>
            refine putAll_ne_array (fun origin items => ?_) entries origin items
            have hfound := h origin items
            cases hexisting : Entries.find? root.entries field.sectionOf.name with
            | none => exact fun heq => Entry.noConfusion heq
            | some existing =>
                rw [hexisting] at hfound
                exact fun heq => hfound (congrArg some heq)
  · exact h origin items

theorem Entry.Unlisted.putSource {root : Entry} (h : root.Unlisted field.sectionOf)
    {source : Entries} (hsource : source.Silent field) :
    (root.putSource source).Unlisted field.sectionOf := by
  induction source generalizing root with
  | nil => exact h
  | cons entry rest ih =>
      obtain ⟨hfirst, hrest⟩ := List.forall_mem_cons.mp hsource
      exact ih (h.putPath hfirst) hrest

theorem unlisted_defaults (field : Field) :
    (mergeLayers [defaultEntries]).Unlisted field.sectionOf := by
  have hdefault : (mergeLayers [defaultEntries]).field? field =
      some (.scalar none (field.kind.toScalar field.default)) := by
    rw [mergeLayers, List.foldl_cons, List.foldl_nil,
      field?_putSource_of_dotted _ dotted_defaultEntries, find?_defaultEntries, Option.some_or]
  obtain ⟨part, hpart, hfound⟩ := Option.bind_eq_some_iff.mp hdefault
  rintro origin items harray
  cases hpart.symm.trans harray
  cases hfound

/-- Where nothing is said about a field, its section is no array of values. -/
theorem not_lists_of_silent {layers : List Entries} (h : ∀ source ∈ layers, source.Silent field) :
    ¬ Lists (defaultEntries :: layers) field.sectionOf := by
  have hunlisted : ∀ (layers : List Entries) (root : Entry), root.Unlisted field.sectionOf →
      (∀ source ∈ layers, source.Silent field) →
        (layers.foldl Entry.putSource root).Unlisted field.sectionOf := by
    intro layers
    induction layers with
    | nil => exact fun root hroot _ => hroot
    | cons source rest ih =>
        intro root hroot hlayers
        obtain ⟨hfirst, hrest⟩ := List.forall_mem_cons.mp hlayers
        exact ih _ (hroot.putSource hfirst) hrest
  rintro ⟨origin, items, harray⟩
  exact hunlisted layers _ (unlisted_defaults field) h origin items harray

end CloudSpeech.Settings
