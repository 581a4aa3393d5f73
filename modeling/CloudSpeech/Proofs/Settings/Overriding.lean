import CloudSpeech.Proofs.Settings.Precedence
import CloudSpeech.Proofs.Settings.Respelling

/-!
# One value over all others

Two tables of sections are compared of which one has a value of its own for a field, while the
other fields are the same. Whatever is put into both keeps them so, unless it reaches the field.
A variable that names a setting of text therefore counts whatever the files say, and the other
settings stay. But the setting has the text as it is respelled, where the same text in a file is
kept.
-/

namespace CloudSpeech.Settings

/-- A path that leads to a field, into it, or to the section that holds it. -/
def KeyPath.Reaches (path : KeyPath) (field : Field) : Prop :=
  Text.lowercase path.root = field.sectionOf.name ∧
    match path.steps with
    | .name name :: _ => Text.lowercase name = field.name
    | [] | .item _ :: _ => True

instance (path : KeyPath) (field : Field) : Decidable (path.Reaches field) :=
  match path with
  | ⟨root, .name name :: _⟩ =>
      inferInstanceAs (Decidable (Text.lowercase root = field.sectionOf.name ∧
        Text.lowercase name = field.name))
  | ⟨root, []⟩ | ⟨root, .item _ :: _⟩ =>
      inferInstanceAs (Decidable (Text.lowercase root = field.sectionOf.name ∧ True))

/-- A table with a value for a field, and otherwise like the table below it. -/
structure Entry.Overrides (field : Field) (value below above : Entry) : Prop where
  value : above.field? field = some value
  fields : ∀ other ≠ field, above.field? other = below.field? other
  sections : ∀ part ≠ field.sectionOf,
    Entries.find? above.entries part.name = Entries.find? below.entries part.name

variable {field : Field} {value below above : Entry} {path : KeyPath}

theorem path_injective : ∀ field other : Field, other.path = field.path → other = field := by
  decide +kernel

theorem name_injective : ∀ part other : Section, other.name = part.name → other = part := by
  decide +kernel

/-! ## What a path does not reach -/

theorem Entry.field?_putPath_of_section_ne (root entry : Entry) {other : Field}
    (hroot : other.sectionOf.name ≠ Text.lowercase path.root) :
    (root.putPath path entry).field? other = root.field? other := by
  rw [field?, putPath, find?_changeName, if_neg hroot, field?]

theorem Entry.field?_putPath_of_name (root entry : Entry) {other : Field} {name : String}
    {rest : List Step} (hsteps : path.steps = .name name :: rest)
    (hroot : other.sectionOf.name = Text.lowercase path.root) :
    (root.putPath path entry).field? other =
      if other.name = Text.lowercase name then some (putAt entry rest (root.field? other))
      else root.field? other := by
  rw [field?, putPath, find?_changeName, if_pos hroot, Option.bind_some, hsteps, putAt,
    find?_changeName, find?_getD_emptyTable]

theorem KeyPath.exists_other_name (hpath : ¬ path.Reaches field)
    (hroot : field.sectionOf.name = Text.lowercase path.root) :
    ∃ name rest, path.steps = .name name :: rest ∧ field.name ≠ Text.lowercase name := by
  rcases hsteps : path.steps with _ | ⟨name | index, rest⟩
  · exact absurd ⟨hroot.symm, by rw [hsteps]; trivial⟩ hpath
  · exact ⟨name, rest, rfl, fun hsame => hpath ⟨hroot.symm, by rw [hsteps]; exact hsame.symm⟩⟩
  · exact absurd ⟨hroot.symm, by rw [hsteps]; trivial⟩ hpath

theorem Entry.Overrides.putPath (h : Entry.Overrides field value below above)
    (hpath : ¬ path.Reaches field) (entry : Entry) :
    Entry.Overrides field value (below.putPath path entry) (above.putPath path entry) := by
  have hsections : ∀ part ≠ field.sectionOf,
      Entries.find? (above.putPath path entry).entries part.name =
        Entries.find? (below.putPath path entry).entries part.name := by
    intro part hpart
    simp only [Entry.putPath, find?_changeName, h.sections part hpart]
  refine ⟨?_, fun other hother => ?_, hsections⟩
  · by_cases hroot : field.sectionOf.name = Text.lowercase path.root
    · -- Within the section of the field the path goes on to another name.
      obtain ⟨name, rest, hsteps, hne⟩ := KeyPath.exists_other_name hpath hroot
      rw [field?_putPath_of_name above entry hsteps hroot, if_neg hne, h.value]
    · rw [field?_putPath_of_section_ne above entry hroot, h.value]
  · by_cases hsame : other.sectionOf = field.sectionOf
    · by_cases hroot : other.sectionOf.name = Text.lowercase path.root
      · obtain ⟨name, rest, hsteps, -⟩ := KeyPath.exists_other_name hpath (hsame ▸ hroot)
        rw [field?_putPath_of_name above entry hsteps hroot,
          field?_putPath_of_name below entry hsteps hroot, h.fields other hother]
      · rw [field?_putPath_of_section_ne above entry hroot,
          field?_putPath_of_section_ne below entry hroot, h.fields other hother]
    · rw [field?, field?, hsections other.sectionOf hsame]

theorem Entry.Overrides.putSource (h : Entry.Overrides field value below above) {source : Entries}
    (hsource : ∀ entry ∈ source, ¬ (KeyPath.ofKey entry.1).Reaches field) :
    Entry.Overrides field value (below.putSource source) (above.putSource source) := by
  induction source generalizing below above with
  | nil => exact h
  | cons entry rest ih =>
      obtain ⟨hfirst, hrest⟩ := List.forall_mem_cons.mp hsource
      exact ih (h.putPath hfirst entry.2) hrest

theorem overrides_putPath (root : Entry) (field : Field) (origin : Option String)
    (value : Scalar) :
    Entry.Overrides field (.scalar origin value) root
      (root.putPath (.ofKey field.path) (.scalar origin value)) := by
  have hfield : ∀ other : Field,
      (root.putPath (.ofKey field.path) (.scalar origin value)).field? other =
        if other.path = field.path then some (.scalar origin value) else root.field? other :=
    field?_putPath_dotted root ⟨isName_section field, lowercase_section field⟩
      ⟨isName_name field, lowercase_name field⟩ origin value
  refine ⟨by rw [hfield, if_pos rfl], fun other hother => ?_, fun part hpart => ?_⟩
  · rw [hfield, if_neg fun hpath => hother (path_injective field other hpath)]
  · have hpath : KeyPath.ofKey field.path = ⟨field.sectionOf.name, [.name field.name]⟩ :=
      KeyPath.ofKey_dotted (isName_section field) (isName_name field)
    have hne : part.name ≠ Text.lowercase field.sectionOf.name := by
      rw [lowercase_section]
      exact fun hname => hpart (name_injective field.sectionOf part hname)
    rw [Entry.putPath, Entry.find?_changeName, hpath, if_neg hne]

/-! ## The values of the fields -/

theorem fieldValue_congr {first second : Entries} (field : Field)
    (h : Entries.find? first field.sectionOf.name = Entries.find? second field.sectionOf.name) :
    fieldValue first field = fieldValue second field := by
  simp only [fieldValue, contents, h]

theorem fieldValue_of_absent {root : Entry} {field : Field} {origin : Option String}
    {entries : Entries}
    (hsection : Entries.find? root.entries field.sectionOf.name = some (.table origin entries))
    (habsent : root.field? field = none) :
    fieldValue root.entries field = .ok field.default := by
  have hcontents : contents root.entries field.sectionOf = .ok (.named entries) := by
    rw [contents, hsection]
  have hnone : Entries.find? entries field.name = none := by
    rwa [Entry.field?, hsection] at habsent
  simp only [fieldValue, bind_eq_ok_iff, hcontents, Except.ok.injEq, exists_eq_left',
    Contents.entry?, hnone]
  rfl

/-- A field that a section has nothing for has its default, unless the section is an array of
values. -/
theorem eq_default_or_array {root : Entry} {field : Field} {found : field.kind.Value}
    (habsent : root.field? field = none) (hfound : fieldValue root.entries field = .ok found) :
    found = field.default ∨
      ∃ origin items,
        Entries.find? root.entries field.sectionOf.name = some (.array origin items) := by
  cases hsection : Entries.find? root.entries field.sectionOf.name with
  | none =>
      have hcontents : contents root.entries field.sectionOf = .ok (.named []) := by
        rw [contents, hsection]
      rw [fieldValue, hcontents] at hfound
      exact .inl (Except.ok.inj hfound).symm
  | some part =>
      cases part with
      | scalar origin value =>
          have hcontents : contents root.entries field.sectionOf =
              .error (.sectionShape field.sectionOf (.ofEntry (.scalar origin value))) := by
            rw [contents, hsection]
          rw [fieldValue, hcontents] at hfound
          cases hfound
      | array origin items => exact .inr ⟨origin, items, rfl⟩
      | table origin entries =>
          exact .inl (Except.ok.inj (hfound.symm.trans (fieldValue_of_absent hsection habsent)))

/-- The values of other fields are the same, except that a section which was an array of values is
a table now and says nothing more about them. -/
theorem Entry.Overrides.fieldValue_eq_ok (h : Entry.Overrides field value below above)
    {other : Field} (hother : other ≠ field) {found : other.kind.Value}
    (hfound : fieldValue below.entries other = .ok found) :
    fieldValue above.entries other = .ok found ∨
      other.sectionOf = field.sectionOf ∧
        (∃ origin items, Entries.find? below.entries other.sectionOf.name =
          some (.array origin items)) ∧
        fieldValue above.entries other = .ok other.default := by
  by_cases hsame : other.sectionOf = field.sectionOf
  · obtain ⟨part, hpart, hvalue⟩ := Option.bind_eq_some_iff.mp h.value
    have hfields := h.fields other hother
    cases part with
    | scalar _ _ => cases hvalue
    | array _ _ => cases hvalue
    | table origin entries =>
        cases hentry : below.field? other with
        | some entry =>
            have hconvert := (fieldValue_eq_ok_iff hentry found).mp hfound
            exact .inl ((fieldValue_eq_ok_iff (hfields.trans hentry) found).mpr hconvert)
        | none =>
            have habsent := fieldValue_of_absent (hsame ▸ hpart) (hfields.trans hentry)
            rcases eq_default_or_array hentry hfound with rfl | harray
            · exact .inl habsent
            · exact .inr ⟨hsame, harray, habsent⟩
  · left
    rw [← hfound]
    exact fieldValue_congr other (h.sections other.sectionOf hsame)

/-- What a value has to be for settings to make sense. -/
def Field.Accepts : (field : Field) → field.kind.Value → Prop
  | .tokenUrl, (url : String) => url ≠ ""
  | .tokenTimeout, (seconds : UInt64) => seconds ≠ 0
  | .synthesisUrl, (url : String) => url ≠ ""
  | .synthesisTimeout, (seconds : UInt64) => seconds ≠ 0
  | .outputFormat, (format : String) => format ≠ ""
  | _, _ => True

theorem valid_iff_accepts {settings : Settings} :
    settings.Valid ↔ ∀ field : Field, field.Accepts (settings.get field) := by
  constructor
  · rintro ⟨htoken, hsynthesis, htokenTimeout, hsynthesisTimeout, hformat⟩ field
    cases field <;> first | assumption | trivial
  · intro h
    exact ⟨h .tokenUrl, h .synthesisUrl, h .tokenTimeout, h .synthesisTimeout, h .outputFormat⟩

theorem accepts_default (field : Field) : field.Accepts field.default := by
  have hvalid : ({} : Settings).Valid := invalid?_eq_none_iff.mp (by decide +kernel)
  exact valid_iff_accepts.mp hvalid field

theorem accepts_text (field : Field) {value : field.kind.Value} {content : String}
    (hvalue : field.kind.toScalar value = .text content) (hcontent : content ≠ "") :
    field.Accepts value := by
  cases field <;> first | trivial | cases hvalue
  all_goals exact hcontent

/-- Settings still make sense with an acceptable value for one field. -/
theorem Entry.Overrides.ofLayers_eq_ok {layers others : List Entries} {settings : Settings}
    {new : field.kind.Value}
    (h : Entry.Overrides field value (mergeLayers layers) (mergeLayers others))
    (hlayers : ofLayers layers = .ok settings) (hnew : value.convert field.kind = .ok new)
    (haccepts : field.Accepts new) :
    ∃ loaded : Settings, ofLayers others = .ok loaded ∧ loaded.get field = new ∧
      ∀ other ≠ field, loaded.get other = settings.get other ∨
        other.sectionOf = field.sectionOf ∧ loaded.get other = other.default := by
  obtain ⟨hvalues, hvalid⟩ := ofLayers_eq_ok_iff.mp hlayers
  -- A field has the new value, the one from below or its default, all of which are acceptable.
  have hfield := (fieldValue_eq_ok_iff h.value new).mpr hnew
  have hothers := fun other hother => h.fieldValue_eq_ok hother (hvalues other)
  have hall : ∀ other : Field, ∃ found, fieldValue (mergeLayers others).entries other = .ok found ∧
      other.Accepts found := by
    intro other
    by_cases hother : other = field
    · subst hother
      exact ⟨new, hfield, haccepts⟩
    · rcases hothers other hother with hkept | ⟨-, -, hdefault⟩
      · exact ⟨_, hkept, valid_iff_accepts.mp hvalid other⟩
      · exact ⟨_, hdefault, accepts_default other⟩
  choose found hfound haccepted using hall
  refine ⟨ofFields found, ofLayers_eq_ok_iff.mpr ⟨fun other => ?_, ?_⟩, ?_, fun other hother => ?_⟩
  · rw [get_ofFields, hfound]
  · exact valid_iff_accepts.mpr fun other => by rw [get_ofFields]; exact haccepted other
  · rw [get_ofFields]
    exact Except.ok.inj ((hfound field).symm.trans hfield)
  · rw [get_ofFields]
    exact (hothers other hother).imp (fun hkept => Except.ok.inj ((hfound other).symm.trans hkept))
      (And.imp_right fun hdefault => Except.ok.inj ((hfound other).symm.trans hdefault.2))

/-! ## A setting of text -/

theorem convert_text {field : Field} {entry : Entry} {content : String}
    (hkind : field.kind = .text) (hentry : entry.toText = .ok content) :
    ∃ value, entry.convert field.kind = .ok value ∧ field.kind.toScalar value = .text content := by
  rw [hkind]
  exact ⟨content, hentry, rfl⟩

theorem Environment.entries_append (before after : List (String × String)) :
    entries (before ++ after) = entries before ++ entries after := List.filterMap_append

theorem Environment.entries_cons {name key : String} (hname : key? name = some key)
    (content : String) (after : List (String × String)) :
    entries ((name, content) :: after) =
      (key, .scalar (some origin) (scalar content)) :: entries after := by
  simp [entries, hname]

theorem overrides_variable (layers : List Entries) (before : List (String × String))
    {after : List (String × String)} {name : String} (content : String)
    (hname : Environment.key? name = some field.path)
    (hafter : ∀ entry ∈ Environment.entries after, ¬ (KeyPath.ofKey entry.1).Reaches field) :
    Entry.Overrides field (.scalar (some Environment.origin) (Environment.scalar content))
      (mergeLayers (layers ++ [Environment.entries (before ++ after)]))
      (mergeLayers (layers ++ [Environment.entries (before ++ (name, content) :: after)])) := by
  simp only [mergeLayers, List.foldl_append, List.foldl_cons, List.foldl_nil, Entry.putSource,
    Environment.entries_append, Environment.entries_cons hname]
  exact (overrides_putPath _ field (some Environment.origin) (Environment.scalar content)).putSource
    hafter

/-- A variable gives the setting that it names what its value is converted to, if settings make
sense with it. Variables in front of it and files may say anything about the setting. -/
theorem load_with_variable {directory : Directory} {path : Option String}
    {before after : List (String × String)} {name content : String} {settings : Settings}
    {value : field.kind.Value} (hname : Environment.key? name = some field.path)
    (hafter : ∀ entry ∈ Environment.entries after, ¬ (KeyPath.ofKey entry.1).Reaches field)
    (hconvert : (Entry.scalar (some Environment.origin)
      (Environment.scalar content)).convert field.kind = .ok value)
    (haccepts : field.Accepts value)
    (hload : load directory (before ++ after) path = .ok settings) :
    ∃ loaded : Settings,
      load directory (before ++ (name, content) :: after) path = .ok loaded ∧
      loaded.get field = value ∧
      ∀ other ≠ field, loaded.get other = settings.get other ∨
        other.sectionOf = field.sectionOf ∧ loaded.get other = other.default := by
  obtain ⟨files, hfiles, hlayers⟩ := load_eq_ok_iff.mp hload
  have hoverrides := overrides_variable (defaultEntries :: files) before content hname hafter
  obtain ⟨loaded, hloaded, hfield, hothers⟩ :=
    hoverrides.ofLayers_eq_ok hlayers hconvert haccepts
  exact ⟨loaded, load_eq_ok_iff.mpr ⟨files, hfiles, hloaded⟩, hfield, hothers⟩

/-- A source that has nothing but a text for one field. -/
def Entries.quoted (origin : String) (field : Field) (content : String) : Entries :=
  [(field.sectionOf.name, .table (some origin) [(field.name, .scalar (some origin) (.text content))])]

theorem putSource_quoted (root : Entry) (origin : String) (field : Field) (content : String) :
    root.putSource (Entries.quoted origin field content) =
      root.putPath (.ofKey field.path) (.scalar (some origin) (.text content)) := by
  have hsection := KeyPath.ofKey_of_isName (isName_section field)
  have hpath : KeyPath.ofKey field.path = ⟨field.sectionOf.name, [.name field.name]⟩ :=
    KeyPath.ofKey_dotted (isName_section field) (isName_name field)
  simp only [Entries.quoted, Entry.putSource, List.foldl_cons, List.foldl_nil, hsection, hpath]
  rfl

/-- A text in quotes in a file that says nothing else gives the setting what the text is converted
to, if settings make sense with it. Files in front of it may say anything about the setting;
variables do not reach it. -/
theorem load_with_quoted_value {directory edited : Directory} {path editedPath : Option String}
    {files : List Entries} {environment : List (String × String)} {origin content : String}
    {settings : Settings} {value : field.kind.Value}
    (hconvert : (Entry.scalar (some origin) (.text content)).convert field.kind = .ok value)
    (haccepts : field.Accepts value)
    (hfiles : fileLayers directory path = .ok (files ++ [[]]))
    (hedited : fileLayers edited editedPath = .ok (files ++ [Entries.quoted origin field content]))
    (henvironment : ∀ entry ∈ Environment.entries environment,
      ¬ (KeyPath.ofKey entry.1).Reaches field)
    (hload : load directory environment path = .ok settings) :
    ∃ loaded : Settings, load edited environment editedPath = .ok loaded ∧
      loaded.get field = value ∧
      ∀ other ≠ field, loaded.get other = settings.get other ∨
        other.sectionOf = field.sectionOf ∧ loaded.get other = other.default := by
  obtain ⟨_, hsame, hlayers⟩ := load_eq_ok_iff.mp hload
  cases hfiles.symm.trans hsame
  have hoverrides : Entry.Overrides field (.scalar (some origin) (.text content))
      (mergeLayers (defaultEntries :: (files ++ [[]]) ++ [Environment.entries environment]))
      (mergeLayers (defaultEntries :: (files ++ [Entries.quoted origin field content]) ++
        [Environment.entries environment])) := by
    simp only [mergeLayers, List.foldl_append, List.foldl_cons, List.foldl_nil, putSource_quoted]
    exact (overrides_putPath _ field (some origin) (.text content)).putSource henvironment
  obtain ⟨loaded, hloaded, hfield, hothers⟩ :=
    hoverrides.ofLayers_eq_ok hlayers hconvert haccepts
  exact ⟨loaded, load_eq_ok_iff.mpr ⟨_, hedited, hloaded⟩, hfield, hothers⟩

/-- A text in quotes in a file that says nothing else is the text of the setting, whatever it reads
as. -/
theorem load_with_text_in_file {directory edited : Directory} {path editedPath : Option String}
    {files : List Entries} {environment : List (String × String)} {origin content : String}
    {settings : Settings} (hkind : field.kind = .text) (hcontent : content ≠ "")
    (hfiles : fileLayers directory path = .ok (files ++ [[]]))
    (hedited : fileLayers edited editedPath = .ok (files ++ [Entries.quoted origin field content]))
    (henvironment : ∀ entry ∈ Environment.entries environment,
      ¬ (KeyPath.ofKey entry.1).Reaches field)
    (hload : load directory environment path = .ok settings) :
    ∃ loaded : Settings, load edited environment editedPath = .ok loaded ∧
      field.kind.toScalar (loaded.get field) = .text content ∧
      ∀ other ≠ field, loaded.get other = settings.get other ∨
        other.sectionOf = field.sectionOf ∧ loaded.get other = other.default := by
  have htoText : (Entry.scalar (some origin) (.text content)).toText = .ok content := rfl
  obtain ⟨value, hvalue, htext⟩ := convert_text hkind htoText
  obtain ⟨loaded, hloaded, hfield, hothers⟩ := load_with_quoted_value hvalue
    (accepts_text field htext hcontent) hfiles hedited henvironment hload
  exact ⟨loaded, hloaded, by rw [hfield, htext], hothers⟩

/-- A variable that names a setting of text counts before all files, and before the variables in
front of it. The setting has the text as it is respelled: the text itself where it is kept, and the
plain numeral where it reads as a whole number. Other settings have the values that they have
without the variable. -/
theorem load_with_text_variable {directory : Directory} {path : Option String}
    {before after : List (String × String)} {name content : String} {settings : Settings}
    (hkind : field.kind = .text) (hname : Environment.key? name = some field.path)
    (hcontent : content ≠ "")
    (hafter : ∀ entry ∈ Environment.entries after, ¬ (KeyPath.ofKey entry.1).Reaches field)
    (hload : load directory (before ++ after) path = .ok settings) :
    ∃ loaded : Settings,
      load directory (before ++ (name, content) :: after) path = .ok loaded ∧
      field.kind.toScalar (loaded.get field) = .text (Environment.respelled content) ∧
      (Environment.IsKept content → field.kind.toScalar (loaded.get field) = .text content) ∧
      (∀ number, Decimal.readSigned? content = some number →
        field.kind.toScalar (loaded.get field) = .text (toString number)) ∧
      ∀ other ≠ field, loaded.get other = settings.get other ∨
        other.sectionOf = field.sectionOf ∧ loaded.get other = other.default := by
  obtain ⟨files, hfiles, hlayers⟩ := load_eq_ok_iff.mp hload
  obtain ⟨value, hvalue, htext⟩ := convert_text hkind
    (Environment.toText_scalar (some Environment.origin) content)
  have haccepts := accepts_text field htext (Environment.respelled_ne_empty hcontent)
  have hoverrides := overrides_variable (defaultEntries :: files) before content hname hafter
  obtain ⟨loaded, hloaded, hfield, hothers⟩ :=
    hoverrides.ofLayers_eq_ok hlayers hvalue haccepts
  have hrespelled : field.kind.toScalar (loaded.get field) =
      .text (Environment.respelled content) := by rw [hfield, htext]
  refine ⟨loaded, load_eq_ok_iff.mpr ⟨files, hfiles, hloaded⟩, hrespelled, fun hkept => ?_,
    fun number hnumber => ?_, hothers⟩
  · rw [hrespelled, hkept.respelled]
  · rw [hrespelled, Environment.respelled_of_readSigned? hnumber]

/-- A numeral with a sign for the name of the client, where the file and another variable have
other names. -/
theorem load_with_signed_numeral :
    let directory := Folder.toDirectory ⟨"/work", [("bing-tts.toml", Octets.ofText
      "tts.client_id = \"file\"")]⟩
    let before := [("BING_TTS_TTS__CLIENT_ID", "first")]
    let after := [("BING_TTS_TTS__APP_ID", "own app")]
    let below : Settings := { synthesis := { appId := "own app", clientId := "first" } }
    Field.clientId.kind = .text ∧
      Environment.key? "Bing_TTS_TTS__Client_Id" = some Field.clientId.path ∧ "+42" ≠ "" ∧
      (∀ entry ∈ Environment.entries after, ¬ (KeyPath.ofKey entry.1).Reaches .clientId) ∧
      load directory (before ++ after) none = .ok below ∧
      ∃ loaded : Settings,
        load directory (before ++ ("Bing_TTS_TTS__Client_Id", "+42") :: after) none = .ok loaded ∧
        loaded.synthesis.clientId = "42" := by
  intro directory before after below
  have hname : Environment.key? "Bing_TTS_TTS__Client_Id" = some Field.clientId.path := by
    decide +kernel
  have hcontent : "+42" ≠ "" := by decide
  have hafter : ∀ entry ∈ Environment.entries after,
      ¬ (KeyPath.ofKey entry.1).Reaches .clientId := by
    have hkeys : ∀ key ∈ (Environment.entries after).map Prod.fst,
        ¬ (KeyPath.ofKey key).Reaches .clientId := by decide +kernel
    exact fun entry hentry => hkeys entry.1 (List.mem_map_of_mem hentry)
  have hbelow : load directory (before ++ after) none = .ok below :=
    toOption_eq_some_iff.mp (by decide +kernel)
  obtain ⟨loaded, hloaded, -, -, hnumber, -⟩ :=
    load_with_text_variable rfl hname hcontent hafter hbelow
  have hread : Decimal.readSigned? "+42" = some 42 := by decide +kernel
  exact ⟨rfl, hname, hcontent, hafter, hbelow, loaded, hloaded, Scalar.text.inj (hnumber 42 hread)⟩

/-- A variable loses the zeros in front of a text that the same text in a file keeps. -/
theorem variable_loses_zeros :
    load (Folder.toDirectory ⟨"/work", []⟩) [("BING_TTS_TTS__APP_ID", "007")] none =
        .ok { synthesis := { appId := "7" } } ∧
      load (Folder.toDirectory ⟨"/work",
        [("bing-tts.toml", Octets.ofText "[tts]\napp_id = \"007\"")]⟩) [] none =
        .ok { synthesis := { appId := "007" } } := by
  exact ⟨toOption_eq_some_iff.mp (by decide +kernel), toOption_eq_some_iff.mp (by decide +kernel)⟩

end CloudSpeech.Settings
