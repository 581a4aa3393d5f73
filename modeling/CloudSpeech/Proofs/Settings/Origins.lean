import CloudSpeech.Proofs.Settings.Loading

/-!
# Settings without their origins

An entry carries the name of the source that it comes from, which is told in errors. Forgetting the
origins of all entries commutes with every step of a merge and with the conversion of fields. So
two sources that differ in their origins only give the same settings, or errors that differ in the
names of places only.
-/

namespace CloudSpeech.Settings

/-! ## Entries -/

namespace Entry

mutual

/-- An entry without its origin and those of the entries in it. -/
def unplaced : Entry → Entry
  | scalar _ value => scalar none value
  | array _ items => array none (unplacedItems items)
  | table _ entries => table none (unplacedEntries entries)

def unplacedItems : List Entry → List Entry
  | [] => []
  | item :: rest => item.unplaced :: unplacedItems rest

def unplacedEntries : List (String × Entry) → List (String × Entry)
  | [] => []
  | (key, entry) :: rest => (key, entry.unplaced) :: unplacedEntries rest

end

theorem unplacedItems_eq_map (items : List Entry) : unplacedItems items = items.map unplaced := by
  induction items with
  | nil => rfl
  | cons item rest ih => rw [unplacedItems, ih, List.map_cons]

theorem find?_unplacedEntries (entries : Entries) (key : String) :
    Entries.find? (unplacedEntries entries) key = (Entries.find? entries key).map unplaced := by
  induction entries with
  | nil => rfl
  | cons entry rest ih =>
      obtain ⟨first, found⟩ := entry
      by_cases h : key = first
      · subst h
        simp only [unplacedEntries, Entries.find?, List.lookup_cons_self, Option.map_some]
      · simp only [Entries.find?] at ih
        simp only [unplacedEntries, Entries.find?, List.lookup_cons, beq_eq_false_iff_ne.mpr h, ih]

@[simp] theorem entries_unplaced (entry : Entry) :
    entry.unplaced.entries = unplacedEntries entry.entries := by
  cases entry <;> rfl

/-! ## The steps of a merge -/

theorem unplacedEntries_change (entries : Entries) (key : String) {f g : Option Entry → Entry}
    (hfg : ∀ existing, (f existing).unplaced = g (existing.map unplaced)) :
    unplacedEntries (Entries.change entries key f) =
      Entries.change (unplacedEntries entries) key g := by
  induction entries with
  | nil => simp only [Entries.change, unplacedEntries, hfg, Option.map_none]
  | cons entry rest ih =>
      obtain ⟨first, found⟩ := entry
      by_cases h : first = key
      · simp only [Entries.change, unplacedEntries, if_pos h, hfg, Option.map_some]
      · simp only [Entries.change, unplacedEntries, if_neg h, ih]

theorem unplaced_changeName (entry : Entry) (name : String) {f g : Option Entry → Entry}
    (hfg : ∀ existing, (f existing).unplaced = g (existing.map unplaced)) :
    (entry.changeName name f).unplaced = entry.unplaced.changeName name g := by
  cases entry with
  | table origin entries =>
      simp only [changeName, unplaced, unplacedEntries_change entries _ hfg]
  | scalar origin value | array origin items =>
      simp only [changeName, unplaced, unplacedEntries_change [] _ hfg, unplacedEntries]

theorem map_unplaced_modify (items : List Entry) (place : Nat) {f g : Entry → Entry}
    (hfg : ∀ existing, (f existing).unplaced = g existing.unplaced) :
    (items.modify place f).map unplaced = (items.map unplaced).modify place g := by
  induction items generalizing place with
  | nil => cases place <;> rfl
  | cons item rest ih =>
      cases place with
      | zero => simp only [List.modify_zero_cons, List.map_cons, hfg]
      | succ place => simp only [List.modify_succ_cons, List.map_cons, ih]

theorem unplaced_changeItem (entry : Entry) (index : Int) {f g : Entry → Entry}
    (hfg : ∀ existing, (f existing).unplaced = g existing.unplaced) :
    (entry.changeItem index f).unplaced = entry.unplaced.changeItem index g := by
  cases entry with
  | array origin items =>
      simp only [changeItem, unplaced, unplacedItems_eq_map, map_unplaced_modify _ _ hfg,
        List.map_append, List.map_replicate, List.length_append, List.length_replicate,
        List.length_map, padding]
  | scalar origin value | table origin entries =>
      simp only [changeItem, unplaced, unplacedItems_eq_map, map_unplaced_modify _ _ hfg,
        List.map_append, List.map_replicate, List.map_nil, padding]

theorem unplaced_getD_emptyTable (existing : Option Entry) :
    (existing.getD emptyTable).unplaced = (existing.map unplaced).getD emptyTable := by
  cases existing <;> rfl

mutual

theorem unplaced_put (existing : Option Entry) :
    (value : Entry) → (put existing value).unplaced = put (existing.map unplaced) value.unplaced
  | scalar _ _ => rfl
  | array _ _ => rfl
  | table _ entries => by
      rw [put, unplaced, put, unplaced_putAll, unplaced_getD_emptyTable]

theorem unplaced_putAll (target : Entry) :
    (source : List (String × Entry)) →
      (putAll target source).unplaced = putAll target.unplaced (unplacedEntries source)
  | [] => rfl
  | (name, value) :: rest => by
      rw [putAll, unplaced_putAll, unplacedEntries, putAll,
        unplaced_changeName target name (g := fun existing => put existing value.unplaced)
          fun existing => unplaced_put existing value]

end

theorem unplaced_putAt (value : Entry) (steps : List Step) (existing : Option Entry) :
    (putAt value steps existing).unplaced =
      putAt value.unplaced steps (existing.map unplaced) := by
  induction steps generalizing existing with
  | nil => exact unplaced_put existing value
  | cons step rest ih =>
      cases step with
      | name name =>
          rw [putAt, putAt, unplaced_changeName _ name ih, unplaced_getD_emptyTable]
      | item index =>
          cases rest with
          | nil =>
              rw [putAt, putAt, unplaced_changeItem _ index (g := fun _ => value.unplaced)
                fun _ => rfl, unplaced_getD_emptyTable]
          | cons next rest =>
              have hinner : ∀ inner : Entry, (putAt value (next :: rest) (some inner)).unplaced =
                  putAt value.unplaced (next :: rest) (some inner.unplaced) :=
                fun inner => ih (some inner)
              exact (unplaced_changeItem _ index hinner).trans
                (by rw [unplaced_getD_emptyTable]; rfl)

theorem unplaced_putSource (root : Entry) (source : Entries) :
    (root.putSource source).unplaced = root.unplaced.putSource (unplacedEntries source) := by
  induction source generalizing root with
  | nil => rfl
  | cons entry rest ih =>
      obtain ⟨key, value⟩ := entry
      have hfirst : (root.putPath (.ofKey key) value).unplaced =
          root.unplaced.putPath (.ofKey key) value.unplaced :=
        unplaced_changeName root _ fun existing => unplaced_putAt value _ existing
      rw [putSource, List.foldl_cons, ← putSource, ih, hfirst]
      rfl

end Entry

theorem unplaced_mergeLayers (layers : List Entries) :
    (mergeLayers layers).unplaced = mergeLayers (layers.map Entry.unplacedEntries) := by
  suffices ∀ root : Entry, (layers.foldl Entry.putSource root).unplaced =
      (layers.map Entry.unplacedEntries).foldl Entry.putSource root.unplaced from
    this Entry.emptyTable
  intro root
  induction layers generalizing root with
  | nil => rfl
  | cons layer rest ih =>
      rw [List.foldl_cons, ih, Entry.unplaced_putSource, List.map_cons, List.foldl_cons]

/-! ## Errors -/

def Mismatch.unplaced (mismatch : Mismatch) : Mismatch := { mismatch with origin := none }

def ShapeError.unplaced : ShapeError → ShapeError
  | sectionShape part found => sectionShape part found
  | fieldShape label mismatch => fieldShape label mismatch.unplaced

/-- An error without the names of places: the file that a value comes from, and where files lie. -/
def LoadError.unplaced : LoadError → LoadError
  | file (.unknownFormat _) => file (.unknownFormat "")
  | content (.noTable found _) => content (.noTable found "")
  | shape error => shape error.unplaced
  | error => error

/-! ## The values of the fields -/

theorem Entry.toText_unplaced (entry : Entry) :
    entry.unplaced.toText = entry.toText.mapError Mismatch.unplaced := by
  cases entry with
  | scalar origin value => cases value <;> rfl
  | array _ _ | table _ _ => rfl

theorem Entry.toWhole_unplaced (entry : Entry) :
    entry.unplaced.toWhole = entry.toWhole.mapError Mismatch.unplaced := by
  cases entry with
  | array _ _ | table _ _ => rfl
  | scalar origin value =>
      cases value with
      | nil | bool _ | real _ => rfl
      | integer value =>
          simp only [unplaced, toWhole]
          split <;> rfl
      | text content =>
          simp only [unplaced, toWhole]
          cases wordNumber? (Text.lowercase content) with
          | some number => rfl
          | none => cases Decimal.readUnsigned content <;> rfl

theorem Entry.toFlag_unplaced (entry : Entry) :
    entry.unplaced.toFlag = entry.toFlag.mapError Mismatch.unplaced := by
  cases entry with
  | array _ _ | table _ _ => rfl
  | scalar origin value =>
      cases value with
      | nil | bool _ | real _ | integer _ => rfl
      | text content =>
          simp only [unplaced, toFlag]
          cases wordFlag? (Text.lowercase content) <;> rfl

theorem Entry.convert_unplaced (entry : Entry) (kind : Kind) :
    entry.unplaced.convert kind = (entry.convert kind).mapError Mismatch.unplaced := by
  cases kind with
  | text => exact entry.toText_unplaced
  | whole => exact entry.toWhole_unplaced
  | flag => exact entry.toFlag_unplaced

def Contents.unplaced : Contents → Contents
  | named entries => named (Entry.unplacedEntries entries)
  | listed items => listed (Entry.unplacedItems items)

theorem contents_unplaced (root : Entries) (part : Section) :
    contents (Entry.unplacedEntries root) part = (contents root part).map Contents.unplaced := by
  rw [contents, contents, Entry.find?_unplacedEntries]
  cases Entries.find? root part.name with
  | none => rfl
  | some entry =>
      cases entry with
      | scalar origin value => cases value <;> rfl
      | array _ _ | table _ _ => rfl

theorem Contents.entry?_unplaced (contents : Contents) (field : Field) :
    contents.unplaced.entry? field =
      ((contents.entry? field).1.map Entry.unplaced, (contents.entry? field).2) := by
  cases contents with
  | named entries => rw [unplaced, entry?, Entry.find?_unplacedEntries, entry?]
  | listed items => rw [unplaced, entry?, Entry.unplacedItems_eq_map, List.getElem?_map, entry?]

theorem fieldValue_unplaced (root : Entries) (field : Field) :
    fieldValue (Entry.unplacedEntries root) field =
      (fieldValue root field).mapError ShapeError.unplaced := by
  rw [fieldValue, fieldValue, contents_unplaced]
  cases hcontents : contents root field.sectionOf with
  | error error =>
      -- A section of the wrong shape is reported without its origin.
      have hshape : ShapeError.unplaced error = error := by
        rw [contents] at hcontents
        split at hcontents <;> cases hcontents
        rfl
      change Except.error error = Except.error error.unplaced
      rw [hshape]
  | ok found =>
      simp only [Except.map, bind_ok, Contents.entry?_unplaced]
      obtain ⟨set, label⟩ := found.entry? field
      cases set with
      | none => rfl
      | some entry =>
          simp only [Option.map_some, Entry.convert_unplaced]
          cases entry.convert field.kind <;> rfl

theorem ofFieldsM_mapError {ε ε' : Type} (value : (field : Field) → Except ε field.kind.Value)
    (f : ε → ε') :
    ofFieldsM (fun field => (value field).mapError f) = (ofFieldsM value).mapError f := by
  simp only [ofFieldsM, mapError_bind]
  rfl

theorem ofLayers_unplaced (layers : List Entries) :
    ofLayers (layers.map Entry.unplacedEntries) =
      (ofLayers layers).mapError LoadError.unplaced := by
  have hfields : ofEntries (mergeLayers (layers.map Entry.unplacedEntries)).entries =
      (ofEntries (mergeLayers layers).entries).mapError ShapeError.unplaced := by
    rw [← unplaced_mergeLayers, Entry.entries_unplaced, ofEntries, ofEntries, ← ofFieldsM_mapError]
    exact congrArg ofFieldsM (funext (fieldValue_unplaced _))
  rw [ofLayers, ofLayers, hfields]
  cases ofEntries (mergeLayers layers).entries with
  | error error => rfl
  | ok settings =>
      simp only [mapError_ok, bind_ok]
      cases settings.invalid? <;> rfl

/-! ## Sources that differ in their origins -/

mutual

theorem Entry.unplaced_ofToml (origin other : String) :
    (value : Toml.Value) → (ofToml origin value).unplaced = (ofToml other value).unplaced
  | .string _ | .integer _ | .real _ | .bool _ | .moment _ => rfl
  | .array items => by
      rw [ofToml, ofToml, unplaced, unplaced, unplaced_ofTomlItems origin other items]
  | .table entries => by
      rw [ofToml, ofToml, unplaced, unplaced, unplaced_ofTomlEntries origin other entries]

theorem Entry.unplaced_ofTomlItems (origin other : String) :
    (items : List Toml.Value) →
      unplacedItems (ofTomlItems origin items) = unplacedItems (ofTomlItems other items)
  | [] => rfl
  | item :: rest => by
      rw [ofTomlItems, ofTomlItems, unplacedItems, unplacedItems, unplaced_ofToml origin other item,
        unplaced_ofTomlItems origin other rest]

theorem Entry.unplaced_ofTomlEntries (origin other : String) :
    (entries : List (String × Toml.Value)) →
      unplacedEntries (ofTomlEntries origin entries) = unplacedEntries (ofTomlEntries other entries)
  | [] => rfl
  | (key, value) :: rest => by
      rw [ofTomlEntries, ofTomlEntries, unplacedEntries, unplacedEntries,
        unplaced_ofToml origin other value, unplaced_ofTomlEntries origin other rest]

end

mutual

theorem Entry.unplaced_ofJson (origin other : String) :
    (value : Json.Value) → (ofJson origin value).unplaced = (ofJson other value).unplaced
  | .null | .bool _ | .number _ | .string _ => rfl
  | .array items => by
      rw [ofJson, ofJson, unplaced, unplaced, unplaced_ofJsonItems origin other items]
  | .object members => by
      rw [ofJson, ofJson, unplaced, unplaced, unplaced_ofJsonMembers origin other members]

theorem Entry.unplaced_ofJsonItems (origin other : String) :
    (items : List Json.Value) →
      unplacedItems (ofJsonItems origin items) = unplacedItems (ofJsonItems other items)
  | [] => rfl
  | item :: rest => by
      rw [ofJsonItems, ofJsonItems, unplacedItems, unplacedItems, unplaced_ofJson origin other item,
        unplaced_ofJsonItems origin other rest]

theorem Entry.unplaced_ofJsonMembers (origin other : String) :
    (members : List (String × Json.Value)) →
      unplacedEntries (ofJsonMembers origin members) =
        unplacedEntries (ofJsonMembers other members)
  | [] => rfl
  | (key, value) :: rest => by
      rw [ofJsonMembers, ofJsonMembers, unplacedEntries, unplacedEntries,
        unplaced_ofJson origin other value, unplaced_ofJsonMembers origin other rest]

end

theorem File.entriesOf_unplaced (origin other : String) (read : Option Json.Value) :
    ((File.entriesOf origin read).map Entry.unplacedEntries).mapError
        (LoadError.unplaced ∘ .content) =
      ((File.entriesOf other read).map Entry.unplacedEntries).mapError
        (LoadError.unplaced ∘ .content) := by
  cases read with
  | none => rfl
  | some value =>
      cases value with
      | object members =>
          exact congrArg Except.ok (Entry.unplaced_ofJsonMembers origin other members)
      | null | bool _ | string _ | array _ => rfl
      | number number =>
          simp only [entriesOf, Entry.ofJson]
          cases Entry.ofNumber number <;> rfl

/-- What a file says does not hang on where it lies. -/
theorem File.entries_unplaced (origin other : String) (format : Format) (text : String) :
    ((File.mk origin format text).entries.map Entry.unplacedEntries).mapError
        (LoadError.unplaced ∘ .content) =
      ((File.mk other format text).entries.map Entry.unplacedEntries).mapError
        (LoadError.unplaced ∘ .content) := by
  cases format with
  | toml =>
      rw [File.entries, File.entries]
      cases Toml.read? text with
      | none => rfl
      | some entries =>
          exact congrArg Except.ok (Entry.unplaced_ofTomlEntries origin other entries)
  | json | other _ => exact entriesOf_unplaced origin other _

end CloudSpeech.Settings
