import CloudSpeech.Proofs.Json.Values
import CloudSpeech.Proofs.Settings.Adding
import CloudSpeech.Proofs.Toml.Documents

/-!
# How a number is written

A number stands in a TOML file or in a JSON file, as a number or as a text with a numeral, which
may have zeros and a plus sign in front; or the numeral is the value of a variable. A file with
the number has one value more than without, and what it has converts to the number.
-/

namespace CloudSpeech.Settings

variable {field : Field} {n : Nat} {origin : String}

/-! ## Values that stand for a number -/

/-- The values that stand for a number: the number itself, and the texts that are numerals of it. -/
inductive Scalar.Denotes (n : Nat) : Scalar → Prop where
  | integer : Denotes n (.integer n)
  | text {numeral : String} (h : Decimal.IsNumeral n numeral) : Denotes n (.text numeral)

theorem wordNumber?_of_isDigit {word : String} {c : Char} (hc : c ∈ word.toList)
    (hdigit : c.isDigit = true) : wordNumber? word = none := by
  have hletters : ∀ word ∈ ["true", "on", "yes", "false", "off", "no"],
      ∀ c ∈ word.toList, c.isDigit = false := by simp
  fun_cases wordNumber? word with
  | case7 => rfl
  | _ => exact absurd hdigit (by rw [hletters _ (by simp) c hc]; decide)

theorem lowercase_numeral {numeral : String} (h : Decimal.IsNumeral n numeral) :
    Text.lowercase numeral = numeral := by
  rw [Text.lowercase, Text.lowerFrom_eq_self, String.ofList_toList]
  intro c hc
  rcases h.isDigit_or_eq hc with hdigit | rfl
  · have hbounds := Decimal.toNat_of_isDigit hdigit
    have halpha := Text.isAlpha_eq_false_of_isDigit hdigit
    exact ⟨by omega, (Bool.or_eq_false_iff.mp halpha).1⟩
  · decide

theorem Scalar.Denotes.toWhole {value : Scalar} (h : value.Denotes n) (hn : n < UInt64.size)
    (origin : Option String) : (Entry.scalar origin value).toWhole = .ok n.toUInt64 := by
  cases h with
  | integer =>
      rw [Entry.toWhole, if_pos ⟨Int.natCast_nonneg n, Int.ofNat_lt.mpr hn⟩, Int.toNat_natCast]
  | text hnumeral =>
      obtain ⟨c, hc, hdigit⟩ := hnumeral.exists_digit
      have hread := hnumeral.readNatural_eq hn
      simp only [Entry.toWhole, lowercase_numeral hnumeral, wordNumber?_of_isDigit hc hdigit,
        Decimal.readUnsigned, hread]

/-- What stands for a number becomes the number. -/
theorem Scalar.Denotes.convert {value : Scalar} (h : value.Denotes n) (hn : n < UInt64.size)
    (hkind : field.kind = .whole) (origin : Option String) :
    ∃ new, (Entry.scalar origin value).convert field.kind = .ok new ∧
      field.kind.toScalar new = .integer n := by
  rw [hkind]
  refine ⟨n.toUInt64, h.toWhole hn origin, ?_⟩
  change Scalar.integer (UInt64.toNat n.toUInt64) = .integer n
  rw [Nat.toUInt64_eq, UInt64.toNat_ofNat_of_lt' hn]

theorem accepts_number {value : field.kind.Value} (hvalue : field.kind.toScalar value = .integer n)
    (hpositive : field = .tokenTimeout ∨ field = .synthesisTimeout → n ≠ 0) :
    field.Accepts value := by
  have hne : ∀ {seconds : UInt64}, (Scalar.integer seconds.toNat) = .integer n → n ≠ 0 →
      seconds ≠ 0 := by
    rintro _ ⟨⟩ hn rfl
    exact hn rfl
  cases field with
  | tokenTimeout => exact hne hvalue (hpositive (.inl rfl))
  | synthesisTimeout => exact hne hvalue (hpositive (.inr rfl))
  | graceMs | tailMs | escapeText | logJson | appId | clientId | userAgent | logLevel => trivial
  | tokenUrl | synthesisUrl | outputFormat => cases hvalue

/-- A variable whose value is a numeral has the number. -/
theorem Environment.scalar_numeral {content : String} (h : Decimal.IsNumeral n content)
    (hn : n < Decimal.signedBound) : Environment.scalar content = .integer n :=
  scalar_of_readSigned? (h.readSigned?_eq hn)

/-! ## Numbers in files -/

/-- A number in a TOML file: an integer, or a string with a numeral. -/
inductive TomlNumber (n : Nat) : Toml.Value → Prop where
  | integer : TomlNumber n (.integer n)
  | quoted {numeral : String} (h : Decimal.IsNumeral n numeral) : TomlNumber n (.string numeral)

/-- The texts of a number in a TOML file: those of an integer, or a numeral between quotes. -/
inductive TomlNumberText (n : Nat) : Toml.Value → String → Prop where
  | integer {text : String} (h : Toml.IntegerText n text.toList) :
      TomlNumberText n (.integer n) text
  | basic {numeral : String} (h : Decimal.IsNumeral n numeral) :
      TomlNumberText n (.string numeral) ("\"" ++ numeral ++ "\"")
  | literal {numeral : String} (h : Decimal.IsNumeral n numeral) :
      TomlNumberText n (.string numeral) ("\x27" ++ numeral ++ "\x27")

/-- A number in a JSON file: digits, or a string with a numeral. -/
inductive JsonNumber (n : Nat) : Json.Tree → Prop where
  | integer : JsonNumber n (.number { negative := false, whole := Nat.toDigits 10 n })
  | quoted {numeral : String} (h : Decimal.IsNumeral n numeral) :
      JsonNumber n (.string (.ok numeral))

/-- The texts of a file without and with a number for a field. In JSON there is a member more,
anywhere in the object for the section. In TOML there is a line more at the front, with the section
in its key or below the header of the section; or the number stands anywhere else, so that the
document has a member more in the table for the section. The section may be new or not. -/
inductive Format.Writes (field : Field) (n : Nat) : Format → String → String → Prop where
  | dottedLine {rest text : String} {value : Toml.Value} (hnumber : TomlNumberText n value text)
      (hmark : rest.toList.head? ≠ some '\ufeff')
      (hnew : ∀ entries, Toml.read? rest = some entries →
        field.sectionOf.name ∉ entries.map Prod.fst) :
      Writes field n .toml rest
        (field.sectionOf.name ++ "." ++ field.name ++ " = " ++ text ++ "\n" ++ rest)
  | headedLine {rest text : String} {value : Toml.Value} (hnumber : TomlNumberText n value text)
      (hhead : rest = "" ∨ rest.toList.head? = some '[')
      (hnew : ∀ entries, Toml.read? rest = some entries →
        field.sectionOf.name ∉ entries.map Prod.fst) :
      Writes field n .toml rest
        ("[" ++ field.sectionOf.name ++ "]\n" ++ field.name ++ " = " ++ text ++ "\n" ++ rest)
  | tableLine {rest text : String} {value : Toml.Value} (hnumber : TomlNumberText n value text) :
      Writes field n .toml ("[" ++ field.sectionOf.name ++ "]\n" ++ rest)
        ("[" ++ field.sectionOf.name ++ "]\n" ++ field.name ++ " = " ++ text ++ "\n" ++ rest)
  | newTable {rest text : String} {before after : List (String × Toml.Value)} {value : Toml.Value}
      (hnumber : TomlNumber n value) (hrest : Toml.read? rest = some (before ++ after))
      (htext : Toml.read? text = some (before ++
        (field.sectionOf.name, .table [(field.name, value)]) :: after)) :
      Writes field n .toml rest text
  | newEntry {rest text : String} {before after first last : List (String × Toml.Value)}
      {value : Toml.Value} (hnumber : TomlNumber n value)
      (hrest : Toml.read? rest = some (before ++
        (field.sectionOf.name, .table (first ++ last)) :: after))
      (htext : Toml.read? text = some (before ++
        (field.sectionOf.name, .table (first ++ (field.name, value) :: last)) :: after)) :
      Writes field n .toml rest text
  | newObject {rest text : String} {before after : List (String × Json.Tree)} {tree : Json.Tree}
      (hnumber : JsonNumber n tree)
      (hnew : field.sectionOf.name ∉ (before ++ after).map Prod.fst)
      (hrest : Json.IsText (.objectOf (before ++ after)) rest)
      (htext : Json.IsText (.objectOf (before ++
        (field.sectionOf.name, .objectOf [(field.name, tree)]) :: after)) text) :
      Writes field n .json rest text
  | newMember {rest text : String} {before after first last : List (String × Json.Tree)}
      {tree : Json.Tree} (hnumber : JsonNumber n tree)
      (hlast : field.sectionOf.name ∉ after.map Prod.fst)
      (hrest : Json.IsText (.objectOf (before ++
        (field.sectionOf.name, .objectOf (first ++ last)) :: after)) rest)
      (htext : Json.IsText (.objectOf (before ++
        (field.sectionOf.name, .objectOf (first ++ (field.name, tree) :: last)) :: after)) text) :
      Writes field n .json rest text

theorem isPlain_of_mem_numeral {numeral : String} (h : Decimal.IsNumeral n numeral) {c : Char}
    (hc : c ∈ numeral.toList) :
    Toml.isPlain c = true ∧ c ≠ '"' ∧ c ≠ '\\' ∧ c ≠ '\x27' := by
  rcases h.isDigit_or_eq hc with hdigit | rfl
  · exact ⟨Toml.isPlain_of_isDigit hdigit, Toml.ne_of_isDigit hdigit rfl,
      Toml.ne_of_isDigit hdigit rfl, Toml.ne_of_isDigit hdigit rfl⟩
  · decide

theorem TomlNumberText.isValueText {value : Toml.Value} {text : String}
    (h : TomlNumberText n value text) (hn : n < Decimal.signedBound) :
    Toml.IsValueText value text.toList := by
  cases h with
  | integer htext => exact Toml.isValueText_integer htext hn
  | basic hnumeral =>
      obtain ⟨c, hc, -⟩ := hnumeral.exists_digit
      simpa using Toml.isValueText_basic (List.ne_nil_of_mem hc) fun c hc =>
        have hplain := isPlain_of_mem_numeral hnumeral hc
        ⟨hplain.1, hplain.2.1, hplain.2.2.1⟩
  | literal hnumeral =>
      obtain ⟨c, hc, -⟩ := hnumeral.exists_digit
      simpa using Toml.isValueText_literal (List.ne_nil_of_mem hc) fun c hc =>
        have hplain := isPlain_of_mem_numeral hnumeral hc
        ⟨hplain.1, hplain.2.2.2⟩

theorem TomlNumberText.number {value : Toml.Value} {text : String}
    (h : TomlNumberText n value text) : TomlNumber n value := by
  cases h with
  | integer => exact .integer
  | basic hnumeral | literal hnumeral => exact .quoted hnumeral

theorem TomlNumber.exists_ofToml_eq {value : Toml.Value} (h : TomlNumber n value)
    (origin : String) :
    ∃ scalar : Scalar, scalar.Denotes n ∧
      Entry.ofToml origin value = .scalar (some origin) scalar := by
  cases h with
  | integer => exact ⟨_, .integer, rfl⟩
  | quoted hnumeral => exact ⟨_, .text hnumeral, rfl⟩

theorem JsonNumber.exists_value?_eq {tree : Json.Tree} (h : JsonNumber n tree)
    (hn : n < Decimal.signedBound) (depth : Nat) (origin : String) :
    ∃ (value : Json.Value) (scalar : Scalar), tree.value? depth = some value ∧
      scalar.Denotes n ∧ Entry.ofJson origin value = .scalar (some origin) scalar := by
  cases h with
  | integer =>
      have hsize : n < UInt64.size := hn.trans (by decide)
      have hvalue := Json.NumberText.value_of_digits
        (Nat.ofDigitChars_ten_toDigits.trans_lt hsize)
      rw [Nat.ofDigitChars_ten_toDigits] at hvalue
      refine ⟨.number (.natural n), .integer n, ?_, .integer, ?_⟩
      · rw [Json.Tree.value?, hvalue]
        rfl
      · rw [Entry.ofJson, Entry.ofNumber, if_pos hn]
  | @quoted numeral hnumeral => exact ⟨.string numeral, _, rfl, .text hnumeral, rfl⟩

theorem ofTomlEntries_eq_map (origin : String) (entries : List (String × Toml.Value)) :
    Entry.ofTomlEntries origin entries =
      entries.map fun entry => (entry.1, Entry.ofToml origin entry.2) := by
  induction entries with
  | nil => rfl
  | cons entry rest ih => rw [Entry.ofTomlEntries, ih, List.map_cons]

theorem ofJsonMembers_eq_map (origin : String) (members : List (String × Json.Value)) :
    Entry.ofJsonMembers origin members =
      members.map fun member => (member.1, Entry.ofJson origin member.2) := by
  induction members with
  | nil => rfl
  | cons member rest ih => rw [Entry.ofJsonMembers, ih, List.map_cons]

theorem isBareKey_section (field : Field) : Toml.IsBareKey field.sectionOf.name := by
  cases field <;> decide +kernel

theorem isBareKey_name (field : Field) : Toml.IsBareKey field.name := by
  cases field <;> decide +kernel

theorem entries_eq_ok_of_read? {origin text : String} {entries : List (String × Toml.Value)}
    (h : Toml.read? text = some entries) :
    (File.mk origin .toml text).entries = .ok (Entry.ofTomlEntries origin entries) := by
  simp only [File.entries, h]

theorem entries_eq_ok_of_ofText? {origin text : String} {members : List (String × Json.Value)}
    (h : Json.Value.ofText? text = some (.object members)) :
    (File.mk origin .json text).entries = .ok (Entry.ofJsonMembers origin members) := by
  simp only [File.entries, h, File.entriesOf, Entry.ofJson]

theorem exists_read?_eq {origin text : String} {entries : Entries}
    (h : (File.mk origin .toml text).entries = .ok entries) :
    ∃ found, Toml.read? text = some found ∧ entries = Entry.ofTomlEntries origin found := by
  simp only [File.entries] at h
  split at h
  · cases h
  · next found hfound => exact ⟨found, hfound, (Except.ok.inj h).symm⟩

theorem exists_ofText?_eq {origin text : String} {entries : Entries}
    (h : (File.mk origin .json text).entries = .ok entries) :
    ∃ members, Json.Value.ofText? text = some (.object members) ∧
      entries = Entry.ofJsonMembers origin members := by
  simp only [File.entries, File.entriesOf] at h
  cases hvalue : Json.Value.ofText? text with
  | none => simp [hvalue] at h
  | some value =>
      simp only [hvalue] at h
      cases value with
      | object members => exact ⟨members, rfl, (Except.ok.inj h).symm⟩
      | null | bool _ | number _ | string _ | array _ => cases h

/-- A table for a section that says nothing about a field has no member with the field's name. -/
theorem Entry.Lacks.name_notMem {tableOrigin : Option String} {entries : Entries}
    (h : (Entry.table tableOrigin entries).Lacks field) :
    field.name ∉ entries.map Prod.fst := by
  intro hmem
  obtain ⟨member, hmember, hname⟩ := List.mem_map.mp hmem
  exact h member hmember (by rw [hname, lowercase_name])

/-- A TOML document with a table for the section more, which has nothing but the number. -/
theorem TomlNumber.exists_adds_table {value : Toml.Value} {text : String}
    {before after : List (String × Toml.Value)} (h : TomlNumber n value)
    (hread : Toml.read? text =
      some (before ++ (field.sectionOf.name, .table [(field.name, value)]) :: after))
    (hsilent : Entries.Silent field (Entry.ofTomlEntries origin (before ++ after))) :
    ∃ scalar edited, Scalar.Denotes n scalar ∧
      Entries.Adds field origin scalar (Entry.ofTomlEntries origin (before ++ after)) edited ∧
      (File.mk origin .toml text).entries = .ok edited := by
  obtain ⟨scalar, hscalar, hentry⟩ := h.exists_ofToml_eq origin
  rw [ofTomlEntries_eq_map, List.map_append] at hsilent ⊢
  refine ⟨scalar, _, hscalar,
    .newSection _ (hsilent.of_subset (List.subset_append_right _ _)), ?_⟩
  rw [entries_eq_ok_of_read? hread]
  simp only [ofTomlEntries_eq_map, List.map_append, List.map_cons, List.map_nil, Entry.ofToml,
    hentry]

/-- A TOML document with the number more in the table that it has for the section. -/
theorem TomlNumber.exists_adds_entry {value : Toml.Value} {text : String}
    {before after first last : List (String × Toml.Value)} (h : TomlNumber n value)
    (hread : Toml.read? text = some (before ++
      (field.sectionOf.name, .table (first ++ (field.name, value) :: last)) :: after))
    (hsilent : Entries.Silent field (Entry.ofTomlEntries origin (before ++
      (field.sectionOf.name, .table (first ++ last)) :: after))) :
    ∃ scalar edited, Scalar.Denotes n scalar ∧
      Entries.Adds field origin scalar (Entry.ofTomlEntries origin (before ++
        (field.sectionOf.name, .table (first ++ last)) :: after)) edited ∧
      (File.mk origin .toml text).entries = .ok edited := by
  obtain ⟨scalar, hscalar, hentry⟩ := h.exists_ofToml_eq origin
  simp only [ofTomlEntries_eq_map, List.map_append, List.map_cons, Entry.ofToml] at hsilent ⊢
  have hlacks := hsilent.lacks_of_mem (List.mem_append_right _ List.mem_cons_self)
  refine ⟨scalar, _, hscalar, .newMember _ _ (some origin)
    (fun member hmember => hlacks member (List.mem_append_right _ hmember))
    (hsilent.of_subset fun entry hentry => List.mem_append_right _ (.tail _ hentry)), ?_⟩
  rw [entries_eq_ok_of_read? hread]
  simp only [ofTomlEntries_eq_map, List.map_append, List.map_cons, Entry.ofToml, hentry]

/-- With the number, a file has one value more, for the field. -/
theorem Format.Writes.exists_adds {format : Format} {rest text : String} {entries : Entries}
    (h : format.Writes field n rest text) (hn : n < Decimal.signedBound)
    (hrest : (File.mk origin format rest).entries = .ok entries) (hsilent : entries.Silent field) :
    ∃ value edited, Scalar.Denotes n value ∧ Entries.Adds field origin value entries edited ∧
      (File.mk origin format text).entries = .ok edited := by
  cases h with
  | dottedLine hnumber hmark hnew =>
      obtain ⟨found, hfound, rfl⟩ := exists_read?_eq hrest
      have hread := Toml.read?_dotted_line (isBareKey_section field) (isBareKey_name field)
        (hnumber.isValueText hn) hfound hmark (hnew found hfound)
      exact @TomlNumber.exists_adds_table _ _ _ _ _ [] _ hnumber.number hread hsilent
  | headedLine hnumber hhead hnew =>
      obtain ⟨found, hfound, rfl⟩ := exists_read?_eq hrest
      have hread := Toml.read?_header_line (isBareKey_section field) (isBareKey_name field)
        (hnumber.isValueText hn) hfound hhead (hnew found hfound)
      exact @TomlNumber.exists_adds_table _ _ _ _ _ [] _ hnumber.number hread hsilent
  | tableLine hnumber =>
      obtain ⟨found, hfound, rfl⟩ := exists_read?_eq hrest
      obtain ⟨inner, outer, rfl, hread⟩ := Toml.read?_under_header (isBareKey_section field)
        (isBareKey_name field) (hnumber.isValueText hn) hfound
      have hlacks : Entry.Lacks field (.table (some origin) (Entry.ofTomlEntries origin inner)) :=
        hsilent.lacks_of_mem (by rw [Entry.ofTomlEntries, Entry.ofToml]; exact List.mem_cons_self)
      have hname : field.name ∉ inner.map Prod.fst := by
        simpa [ofTomlEntries_eq_map, Function.comp_def] using hlacks.name_notMem
      exact @TomlNumber.exists_adds_entry _ _ _ _ _ [] _ [] _ hnumber.number (hread hname) hsilent
  | newTable hnumber hdocument htext =>
      obtain ⟨found, hfound, rfl⟩ := exists_read?_eq hrest
      obtain rfl := Option.some.inj (hdocument.symm.trans hfound)
      exact hnumber.exists_adds_table htext hsilent
  | newEntry hnumber hdocument htext =>
      obtain ⟨found, hfound, rfl⟩ := exists_read?_eq hrest
      obtain rfl := Option.some.inj (hdocument.symm.trans hfound)
      exact hnumber.exists_adds_entry htext hsilent
  | @newObject _ _ before after tree hnumber hnew hdocument htext =>
      obtain ⟨members, hmembers, rfl⟩ := exists_ofText?_eq hrest
      obtain ⟨value, scalar, hvalue, hscalar, hentry⟩ :=
        hnumber.exists_value?_eq hn (Json.Tree.maxDepth - 2) origin
      have hobject : (Json.Tree.objectOf [(field.name, tree)]).value? (Json.Tree.maxDepth - 1) =
          some (.object [(field.name, value)]) := by
        rw [show Json.Tree.maxDepth - 1 = Json.Tree.maxDepth - 2 + 1 from rfl,
          Json.Tree.value?_objectOf]
        simp [Json.Tree.members?, hvalue, Json.Tree.lastOfEach, Except.toOption]
      rw [Json.Value.ofText?_eq hdocument] at hmembers
      obtain ⟨first, last, rfl, hinsert⟩ := Json.Tree.value?_insert hnew hobject hmembers
      rw [ofJsonMembers_eq_map, List.map_append] at hsilent ⊢
      refine ⟨scalar, _, hscalar,
        .newSection _ (hsilent.of_subset (List.subset_append_right _ _)), ?_⟩
      rw [entries_eq_ok_of_ofText? ((Json.Value.ofText?_eq htext).trans hinsert)]
      simp only [ofJsonMembers_eq_map, List.map_append, List.map_cons, List.map_nil, Entry.ofJson,
        hentry]
  | @newMember _ _ before after first last tree hnumber hlast hdocument htext =>
      obtain ⟨members, hmembers, rfl⟩ := exists_ofText?_eq hrest
      obtain ⟨value, scalar, hvalue, hscalar, hentry⟩ :=
        hnumber.exists_value?_eq hn (Json.Tree.maxDepth - 2) origin
      rw [Json.Value.ofText?_eq hdocument] at hmembers
      obtain ⟨front, inner, back, rfl, hinner, hreplace⟩ :=
        Json.Tree.value?_replace hlast hmembers
      obtain ⟨found, rfl, hkeys⟩ := Json.Tree.exists_value?_objectOf_eq hinner
      simp only [ofJsonMembers_eq_map, List.map_append, List.map_cons, Entry.ofJson] at hsilent ⊢
      have hlacks := hsilent.lacks_of_mem (List.mem_append_right _ List.mem_cons_self)
      have hname : field.name ∉ (first ++ last).map Prod.fst := by
        rw [← hkeys]
        simpa [Function.comp_def] using hlacks.name_notMem
      obtain ⟨inner₁, inner₂, rfl, hinsert⟩ := Json.Tree.value?_insert hname hvalue hinner
      rw [List.map_append] at hlacks ⊢
      refine ⟨scalar, _, hscalar, .newMember _ _ (some origin)
        (fun member hmember => hlacks member (List.mem_append_right _ hmember))
        (hsilent.of_subset fun entry hentry => List.mem_append_right _ (.tail _ hentry)), ?_⟩
      rw [entries_eq_ok_of_ofText? ((Json.Value.ofText?_eq htext).trans (hreplace _ _ hinsert))]
      simp only [ofJsonMembers_eq_map, List.map_append, List.map_cons, Entry.ofJson, hentry]

end CloudSpeech.Settings
