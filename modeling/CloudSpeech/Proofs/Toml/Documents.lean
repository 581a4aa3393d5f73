import CloudSpeech.Proofs.Toml.Lines

/-!
# A setting at the front of a TOML document

A document begins with a line that assigns a value, or with a header and such a line. Then its
table has one entry more than without the line, in front of the others. For what the other lines
do under their own keys does not depend on it.
-/

namespace CloudSpeech.Toml

/-! ## Tables -/

/-- A step that changes what stands under one key and looks at nothing else. -/
def ChangesKey (step : Entries → Option Entries) : Prop :=
  ∃ key f, ∀ entries, step entries = Entries.change? entries key f

namespace Entries

theorem map_fst_set (entries : Entries) (key : String) (node : Node) :
    key ∈ (set entries key node).map Prod.fst ∧
      ∀ other ∈ entries.map Prod.fst, other ∈ (set entries key node).map Prod.fst := by
  induction entries with
  | nil => simp [set]
  | cons entry rest ih =>
      rw [set]
      split
      · next hsame => simp [hsame]
      · exact ⟨.tail _ ih.1, fun other hother => by
          rcases List.mem_cons.mp hother with rfl | hother
          · exact List.mem_cons_self
          · exact .tail _ (ih.2 other hother)⟩

theorem change?_cons_of_ne {key other : String} (hne : other ≠ key) (node : Node)
    (entries : Entries) (f : Option Node → Option Node) :
    change? ((other, node) :: entries) key f =
      (change? entries key f).map ((other, node) :: ·) := by
  have hfind : find? ((other, node) :: entries) key = find? entries key := by
    rw [find?, List.lookup_cons, beq_eq_false_iff_ne.mpr (Ne.symm hne)]
    rfl
  rw [change?, change?, hfind, Option.map_map]
  refine congrArg (Option.map · _) (funext fun found => ?_)
  rw [set, if_neg hne]
  rfl

theorem changesKey_assign? (path : List String) (value : Value) :
    ChangesKey fun entries => assign? entries path value := by
  rcases path with _ | ⟨key, _ | ⟨next, rest⟩⟩
  · exact ⟨"", fun _ => none, fun entries => by simp [assign?, change?]⟩
  · exact ⟨key, _, fun entries => assign?.eq_2 entries value key⟩
  · exact ⟨key, _, fun entries => assign?.eq_3 entries value key next rest⟩

theorem changesKey_open? (path : List String) (f : Option Node → Option Node) :
    ChangesKey fun entries => open? entries path f := by
  rcases path with _ | ⟨key, _ | ⟨next, rest⟩⟩
  · exact ⟨"", fun _ => none, fun entries => by simp [open?, change?]⟩
  · exact ⟨key, _, fun entries => open?.eq_2 entries f key⟩
  · exact ⟨key, _, fun entries => open?.eq_3 entries f key next rest⟩

end Entries

theorem changesKey_addSection? (part : Section) : ChangesKey (addSection? · part) := by
  unfold addSection?
  cases part.header with
  | table path => exact Entries.changesKey_open? path _
  | element path => exact Entries.changesKey_open? path _

/-- A step keeps all keys, and an entry that it leaves alone may as well stand in front. -/
theorem ChangesKey.of_eq_some {step : Entries → Option Entries} (hstep : ChangesKey step)
    {entries after : Entries} (h : step entries = some after) :
    (∀ key ∈ entries.map Prod.fst, key ∈ after.map Prod.fst) ∧
      ∀ key node, key ∉ after.map Prod.fst →
        step ((key, node) :: entries) = some ((key, node) :: after) := by
  obtain ⟨changed, f, hstep⟩ := hstep
  have hchange := (hstep entries).symm.trans h
  obtain ⟨node, -, rfl⟩ := Option.map_eq_some_iff.mp hchange
  obtain ⟨hchanged, hkept⟩ := Entries.map_fst_set entries changed node
  refine ⟨hkept, fun key front hkey => ?_⟩
  have hne : key ≠ changed := fun heq => hkey (heq ▸ hchanged)
  rw [hstep, Entries.change?_cons_of_ne hne, hchange]
  rfl

/-- The same for several steps. -/
theorem foldlM_of_changesKey {α : Type} {step : Entries → α → Option Entries}
    (hstep : ∀ x, ChangesKey (step · x)) {xs : List α} {entries after : Entries}
    (h : xs.foldlM step entries = some after) :
    (∀ key ∈ entries.map Prod.fst, key ∈ after.map Prod.fst) ∧
      ∀ key node, key ∉ after.map Prod.fst →
        xs.foldlM step ((key, node) :: entries) = some ((key, node) :: after) := by
  induction xs generalizing entries with
  | nil =>
      cases h
      exact ⟨fun _ => id, fun _ _ _ => rfl⟩
  | cons x xs ih =>
      rw [List.foldlM_cons] at h
      obtain ⟨middle, hfirst, hrest⟩ := Option.bind_eq_some_iff.mp h
      obtain ⟨hkept, hfront⟩ := (hstep x).of_eq_some hfirst
      obtain ⟨hkeptRest, hfrontRest⟩ := ih hrest
      refine ⟨fun key hkey => hkeptRest key (hkept key hkey), fun key node hkey => ?_⟩
      have hmiddle := hfront key node fun hmem => hkey (hkeptRest key hmem)
      rw [List.foldlM_cons]
      exact Option.bind_eq_some_iff.mpr ⟨_, hmiddle, hfrontRest key node hkey⟩

theorem Entries.assignAll?_of_eq_some {assignments : List (List String × Value)}
    {entries after : Entries} (h : assignAll? entries assignments = some after) :
    (∀ key ∈ entries.map Prod.fst, key ∈ after.map Prod.fst) ∧
      ∀ key node, key ∉ after.map Prod.fst →
        assignAll? ((key, node) :: entries) assignments = some ((key, node) :: after) :=
  @foldlM_of_changesKey _ (fun entries (assignment : List String × Value) =>
    assign? entries assignment.1 assignment.2)
    (fun assignment => changesKey_assign? assignment.1 assignment.2) assignments entries after h

theorem map_fst_entryValues (entries : Entries) :
    (entryValues entries).map Prod.fst = entries.map Prod.fst := by
  induction entries with
  | nil => rfl
  | cons entry rest ih =>
      obtain ⟨key, node⟩ := entry
      rw [entryValues, List.map_cons, List.map_cons, ih]

/-- The tables of the assignments and sections of a document. -/
theorem rootOf?_eq_some_iff {statements : List Statement} {root : Entries} :
    rootOf? statements = some root ↔
      ∃ first, Entries.assignAll? [] (sections statements).1 = some first ∧
        (sections statements).2.foldlM addSection? first = some root :=
  Option.bind_eq_some_iff

/-- A line in front of a document that assigns a value within a table of its own. -/
theorem rootOf?_assign {statements : List Statement} {root : Entries} {key name : String}
    (h : rootOf? statements = some root) (hkey : key ∉ root.map Prod.fst) (value : Value) :
    rootOf? (.assign [key, name] value :: statements) =
      some ((key, .table .dotted [(name, .value value)]) :: root) := by
  obtain ⟨first, hfirst, hparts⟩ := rootOf?_eq_some_iff.mp h
  obtain ⟨hkept, hfront⟩ := foldlM_of_changesKey changesKey_addSection? hparts
  have hassign := (Entries.assignAll?_of_eq_some hfirst).2 key
    (.table .dotted [(name, .value value)]) fun hmem => hkey (hkept key hmem)
  exact rootOf?_eq_some_iff.mpr ⟨_, hassign, hfront key _ hkey⟩

/-- A header in front of the sections of a document, with one assignment. -/
theorem rootOf?_header {statements : List Statement} {root : Entries} {key name : String}
    (hsections : (sections statements).1 = []) (h : rootOf? statements = some root)
    (hkey : key ∉ root.map Prod.fst) (value : Value) :
    rootOf? (.header (.table [key]) :: .assign [name] value :: statements) =
      some ((key, .table .header [(name, .value value)]) :: root) := by
  obtain ⟨first, hfirst, hparts⟩ := rootOf?_eq_some_iff.mp h
  rw [hsections] at hfirst
  cases hfirst
  have hfront := (foldlM_of_changesKey changesKey_addSection? hparts).2 key
    (.table .header [(name, .value value)]) hkey
  have hadd : addSection? [] ⟨.table [key], [([name], value)]⟩ =
      some [(key, .table .header [(name, .value value)])] := rfl
  refine rootOf?_eq_some_iff.mpr ⟨[], rfl, ?_⟩
  simp only [sections, hsections, List.foldlM_cons, hadd]
  exact hfront

theorem Entries.open?_into_first (part : String) (origin : Origin) (inner outer : Entries)
    (next : String) (rest : List String) (f : Option Node → Option Node) :
    open? ((part, .table origin inner) :: outer) (part :: next :: rest) f =
      (open? inner (next :: rest) f).map fun inner => (part, .table origin inner) :: outer := by
  have hfind : find? ((part, .table origin inner) :: outer) part = some (.table origin inner) :=
    List.lookup_cons_self
  have hset : ∀ node, set ((part, .table origin inner) :: outer) part node =
      (part, node) :: outer := fun node => by rw [set, if_pos rfl]
  rw [open?, change?, hfind]
  simp only [Option.map_map, Function.comp_def, hset]

/-- Opening a path changes neither that a table stands first which a header names, nor depends on
what else the table has. -/
theorem Entries.open?_of_header {part name : String} {inner outer root : Entries}
    {path : List String} {f : Option Node → Option Node}
    (hf : ∀ entries, f (some (.table .header entries)) = none)
    (h : open? ((part, .table .header inner) :: outer) path f = some root) :
    ∃ inner' outer', root = (part, .table .header inner') :: outer' ∧
      (∀ key ∈ inner.map Prod.fst, key ∈ inner'.map Prod.fst) ∧
      ∀ node, name ∉ inner'.map Prod.fst →
        open? ((part, .table .header ((name, node) :: inner)) :: outer) path f =
          some ((part, .table .header ((name, node) :: inner')) :: outer') := by
  rcases path with _ | ⟨key, path⟩
  · cases h
  by_cases hkey : part = key
  · subst hkey
    rcases path with _ | ⟨next, rest⟩
    · -- A table that a header names is not opened again.
      have hfind : find? ((part, .table .header inner) :: outer) part =
          some (.table .header inner) := List.lookup_cons_self
      rw [open?, change?, hfind, hf] at h
      cases h
    · rw [open?_into_first] at h
      obtain ⟨inner', hinner, rfl⟩ := Option.map_eq_some_iff.mp h
      obtain ⟨hkept, hfront⟩ := (changesKey_open? (next :: rest) f).of_eq_some hinner
      refine ⟨inner', outer, rfl, hkept, fun node hname => ?_⟩
      rw [open?_into_first, hfront name node hname]
      rfl
  · -- The step passes over the table.
    obtain ⟨f', hopen⟩ : ∃ f', ∀ entries,
        open? entries (key :: path) f = change? entries key f' := by
      rcases path with _ | ⟨next, rest⟩
      · exact ⟨_, fun entries => open?.eq_2 entries f key⟩
      · exact ⟨_, fun entries => open?.eq_3 entries f key next rest⟩
    rw [hopen, change?_cons_of_ne hkey] at h
    obtain ⟨outer', houter, rfl⟩ := Option.map_eq_some_iff.mp h
    refine ⟨inner, outer', rfl, fun _ => id, fun node _ => ?_⟩
    rw [hopen, change?_cons_of_ne hkey, houter]
    rfl

/-- The sections that follow a table which a header names. -/
theorem foldlM_addSection?_of_header {part name : String} {parts : List Section}
    {inner outer root : Entries}
    (h : parts.foldlM addSection? ((part, .table .header inner) :: outer) = some root) :
    ∃ inner' outer', root = (part, .table .header inner') :: outer' ∧
      (∀ key ∈ inner.map Prod.fst, key ∈ inner'.map Prod.fst) ∧
      ∀ node, name ∉ inner'.map Prod.fst →
        parts.foldlM addSection? ((part, .table .header ((name, node) :: inner)) :: outer) =
          some ((part, .table .header ((name, node) :: inner')) :: outer') := by
  induction parts generalizing inner outer with
  | nil =>
      cases h
      exact ⟨inner, outer, rfl, fun _ => id, fun _ _ => rfl⟩
  | cons first rest ih =>
      rw [List.foldlM_cons] at h
      obtain ⟨middle, hfirst, hrest⟩ := Option.bind_eq_some_iff.mp h
      have hopen : ∃ path f, (∀ entries, f (some (.table .header entries)) = none) ∧
          ∀ entries, addSection? entries first = Entries.open? entries path f := by
        rcases first with ⟨path | path, assignments⟩
        · exact ⟨path, _, fun _ => rfl, fun _ => rfl⟩
        · exact ⟨path, _, fun _ => rfl, fun _ => rfl⟩
      obtain ⟨path, f, hf, hadd⟩ := hopen
      rw [hadd] at hfirst
      obtain ⟨inner₁, outer₁, rfl, hkept₁, hfront₁⟩ := Entries.open?_of_header hf hfirst
      obtain ⟨inner₂, outer₂, rfl, hkept₂, hfront₂⟩ := ih hrest
      refine ⟨inner₂, outer₂, rfl, fun key hkey => hkept₂ key (hkept₁ key hkey),
        fun node hname => ?_⟩
      rw [List.foldlM_cons, hadd, hfront₁ node fun hmem => hname (hkept₂ name hmem)]
      exact hfront₂ node hname

/-- A further assignment under a header at the front of a document. -/
theorem rootOf?_under_header {statements : List Statement} {root : Entries} {key name : String}
    (h : rootOf? (.header (.table [key]) :: statements) = some root) :
    ∃ inner outer, root = (key, .table .header inner) :: outer ∧
      ∀ value, name ∉ inner.map Prod.fst →
        rootOf? (.header (.table [key]) :: .assign [name] value :: statements) =
          some ((key, .table .header ((name, .value value) :: inner)) :: outer) := by
  obtain ⟨_, ⟨⟩, hparts⟩ := rootOf?_eq_some_iff.mp h
  rw [sections, List.foldlM_cons] at hparts
  obtain ⟨first, hfirst, hrest⟩ := Option.bind_eq_some_iff.mp hparts
  have hadd : ∀ assignments, addSection? [] ⟨.table [key], assignments⟩ =
      (Entries.assignAll? [] assignments).map fun inner => [(key, .table .header inner)] :=
    fun assignments => Option.map_map ..
  rw [hadd] at hfirst
  obtain ⟨inner, hinner, rfl⟩ := Option.map_eq_some_iff.mp hfirst
  obtain ⟨inner', outer, rfl, hkept, hfront⟩ := foldlM_addSection?_of_header hrest
  refine ⟨inner', outer, rfl, fun value hname => rootOf?_eq_some_iff.mpr ⟨[], rfl, ?_⟩⟩
  have hassign : Entries.assignAll? [] (([name], value) :: (sections statements).1) =
      some ((name, .value value) :: inner) :=
    (Entries.assignAll?_of_eq_some hinner).2 name (.value value) fun hmem => hname (hkept name hmem)
  simp only [sections, List.foldlM_cons, hadd, hassign]
  exact hfront (.value value) hname

theorem read?_eq_some_iff {text : String} {entries : List (String × Value)} :
    read? text = some entries ↔
      ∃ statements root, readLines (skipMark text.toList) = some statements ∧
        rootOf? statements = some root ∧ entryValues root = entries := by
  simp only [read?, Option.bind_eq_bind, Option.bind_eq_some_iff, Option.pure_def,
    Option.some.injEq]
  constructor
  · rintro ⟨statements, hlines, root, hroot, hentries⟩
    exact ⟨statements, root, hlines, hroot, hentries⟩
  · rintro ⟨statements, root, hlines, hroot, hentries⟩
    exact ⟨statements, hlines, root, hroot, hentries⟩

@[simp] theorem read?_empty : read? "" = some [] :=
  read?_eq_some_iff.mpr ⟨[], [], by rw [readLines]; rfl, rfl, rfl⟩

theorem skipMark_of_head {chars : List Char} (h : chars.head? ≠ some '\ufeff') :
    skipMark chars = chars := by
  unfold skipMark
  split
  · exact absurd rfl h
  · rfl

theorem head?_bracket_ne (rest : List Char) : ('[' :: rest).head? ≠ some '\ufeff' :=
  fun h => (by decide : '[' ≠ '\ufeff') (Option.some.inj h)

/-- What a document has that does not begin with the mark. -/
theorem of_read?_eq_some {text : String} {entries : List (String × Value)}
    (h : read? text = some entries) (hmark : text.toList.head? ≠ some '\ufeff') :
    ∃ statements root, readLines text.toList = some statements ∧
      rootOf? statements = some root ∧ entryValues root = entries := by
  obtain ⟨statements, root, hlines, hrest⟩ := read?_eq_some_iff.mp h
  rw [skipMark_of_head hmark] at hlines
  exact ⟨statements, root, hlines, hrest⟩

theorem isHeader_of_readLine {chars : List Char} {found : Option Statement × List Char}
    (h : readLine ('[' :: chars) = some found) : ∃ header, found.1 = some (.header header) := by
  have hline : afterLine? ('[' :: chars) = none := rfl
  have hskip : skipSpace ('[' :: chars) = '[' :: chars := rfl
  rw [readLine, hline, hskip, readStatement] at h
  cases hheader : readHeader chars with
  | none => simp [hheader] at h
  | some opened =>
      simp only [hheader, Option.map_some] at h
      obtain ⟨rest, -, rfl⟩ := Option.map_eq_some_iff.mp h
      exact ⟨opened.1, rfl⟩

/-- A document that is empty or begins with a header has no assignments in front of its headers. -/
theorem sections_of_head {text : String} {statements : List Statement}
    (hhead : text = "" ∨ text.toList.head? = some '[')
    (h : readLines text.toList = some statements) : (sections statements).1 = [] := by
  rcases hhead with rfl | hhead
  · rw [String.toList_empty, readLines, if_pos rfl] at h
    cases h
    rfl
  · cases hchars : text.toList with
    | nil => rw [hchars] at hhead; cases hhead
    | cons c chars =>
        rw [hchars] at hhead h
        cases hhead
        rw [readLines, if_neg (by simp)] at h
        cases hline : readLine ('[' :: chars) with
        | none => simp [hline] at h
        | some found =>
            obtain ⟨header, hfound⟩ := isHeader_of_readLine hline
            simp only [hline] at h
            split at h
            · rw [hfound] at h
              obtain ⟨more, -, rfl⟩ := Option.map_eq_some_iff.mp h
              rfl
            · cases h

theorem skipMark_assignment {path : List String} {keys : List Char} (hkeys : KeysText path keys)
    (text rest : List Char) :
    skipMark (assignment keys text ++ rest) = assignment keys text ++ rest := by
  obtain ⟨c, more, hhead, hc⟩ := hkeys.exists_head
  refine skipMark_of_head fun h => ?_
  rw [assignment, hhead] at h
  exact ne_of_isBare hc (by decide) (Option.some.inj h)

/-- A line with a dotted key in front of a document. -/
theorem read?_dotted_line {part name rest text : String} {entries : List (String × Value)}
    {value : Value} (hpart : IsBareKey part) (hname : IsBareKey name)
    (htext : IsValueText value text.toList) (hrest : read? rest = some entries)
    (hmark : rest.toList.head? ≠ some '\ufeff') (hnew : part ∉ entries.map Prod.fst) :
    read? (part ++ "." ++ name ++ " = " ++ text ++ "\n" ++ rest) =
      some ((part, .table [(name, value)]) :: entries) := by
  obtain ⟨statements, root, hlines, hroot, rfl⟩ := of_read?_eq_some hrest hmark
  rw [map_fst_entryValues] at hnew
  have hkeys := KeysText.dotted hpart hname
  have hchars : (part ++ "." ++ name ++ " = " ++ text ++ "\n" ++ rest).toList =
      assignment (part.toList ++ '.' :: name.toList) text.toList ++ '\n' :: rest.toList := by
    simp [assignment]
  have hline := readLine_assignment hkeys htext rest.toList
  refine read?_eq_some_iff.mpr ⟨.assign [part, name] value :: statements, _, ?_,
    rootOf?_assign hroot hnew value, rfl⟩
  rw [hchars, skipMark_assignment hkeys, readLines_cons hline (by simp; omega), hlines]
  rfl

/-- A header and a line in front of a document that is empty or begins with a header. -/
theorem read?_header_line {part name rest text : String} {entries : List (String × Value)}
    {value : Value} (hpart : IsBareKey part) (hname : IsBareKey name)
    (htext : IsValueText value text.toList) (hrest : read? rest = some entries)
    (hhead : rest = "" ∨ rest.toList.head? = some '[') (hnew : part ∉ entries.map Prod.fst) :
    read? ("[" ++ part ++ "]\n" ++ name ++ " = " ++ text ++ "\n" ++ rest) =
      some ((part, .table [(name, value)]) :: entries) := by
  have hmark : rest.toList.head? ≠ some '\ufeff' := by
    rcases hhead with rfl | hhead
    · nofun
    · exact fun h => (by decide : '[' ≠ '\ufeff') (Option.some.inj (hhead.symm.trans h))
  obtain ⟨statements, root, hlines, hroot, rfl⟩ := of_read?_eq_some hrest hmark
  rw [map_fst_entryValues] at hnew
  have hsections := sections_of_head hhead hlines
  have hchars : ("[" ++ part ++ "]\n" ++ name ++ " = " ++ text ++ "\n" ++ rest).toList =
      '[' :: (part.toList ++ ']' :: '\n' ::
        (assignment name.toList text.toList ++ '\n' :: rest.toList)) := by
    simp [assignment]
  have hopen := readLine_header hpart (assignment name.toList text.toList ++ '\n' :: rest.toList)
  have hline := readLine_assignment (.single hname) htext rest.toList
  refine read?_eq_some_iff.mpr
    ⟨.header (.table [part]) :: .assign [name] value :: statements, _, ?_,
      rootOf?_header hsections hroot hnew value, rfl⟩
  rw [hchars, skipMark_of_head (head?_bracket_ne _), readLines_cons hopen (by simp; omega),
    readLines_cons hline (by simp; omega), hlines]
  rfl

/-- A line below the header at the front of a document. -/
theorem read?_under_header {part name rest text : String} {entries : List (String × Value)}
    {value : Value} (hpart : IsBareKey part) (hname : IsBareKey name)
    (htext : IsValueText value text.toList)
    (hrest : read? ("[" ++ part ++ "]\n" ++ rest) = some entries) :
    ∃ inner outer, entries = (part, .table inner) :: outer ∧
      (name ∉ inner.map Prod.fst →
        read? ("[" ++ part ++ "]\n" ++ name ++ " = " ++ text ++ "\n" ++ rest) =
          some ((part, .table ((name, value) :: inner)) :: outer)) := by
  have hchars : ("[" ++ part ++ "]\n" ++ rest).toList =
      '[' :: (part.toList ++ ']' :: '\n' :: rest.toList) := by simp
  have hedited : ("[" ++ part ++ "]\n" ++ name ++ " = " ++ text ++ "\n" ++ rest).toList =
      '[' :: (part.toList ++ ']' :: '\n' ::
        (assignment name.toList text.toList ++ '\n' :: rest.toList)) := by
    simp [assignment]
  obtain ⟨statements, root, hlines, hroot, rfl⟩ :=
    of_read?_eq_some hrest (hchars ▸ head?_bracket_ne _)
  rw [hchars, readLines_cons (readLine_header hpart rest.toList) (by simp; omega)] at hlines
  obtain ⟨more, hmore, rfl⟩ := Option.map_eq_some_iff.mp hlines
  obtain ⟨inner, outer, rfl, hinsert⟩ := rootOf?_under_header hroot
  refine ⟨entryValues inner, entryValues outer, rfl, fun hnew => ?_⟩
  rw [map_fst_entryValues] at hnew
  have hopen := readLine_header hpart (assignment name.toList text.toList ++ '\n' :: rest.toList)
  have hline := readLine_assignment (.single hname) htext rest.toList
  refine read?_eq_some_iff.mpr
    ⟨.header (.table [part]) :: .assign [name] value :: more, _, ?_, hinsert value hnew, rfl⟩
  rw [hedited, skipMark_of_head (head?_bracket_ne _), readLines_cons hopen (by simp; omega),
    readLines_cons hline (by simp; omega), hmore]
  rfl

end CloudSpeech.Toml
