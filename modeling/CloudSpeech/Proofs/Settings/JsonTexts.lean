import CloudSpeech.Proofs.Json.Values
import CloudSpeech.Settings.Strict

/-!
# Settings in a JSON text

A text gives some of the settings: it is an object with members for the sections, each an object
with members for its fields, or an array of its first values. The order is free, and so is all
that stands under other names. Then the settings that are given are read, and all others have
their defaults. A text that names a section or a field twice gives no settings, nor does one with
a value of another kind than that of its field.
-/

namespace CloudSpeech.Settings

/-! ## Values -/

/-- The tree of a value. -/
def Kind.tree : (kind : Kind) → kind.Value → Json.Tree
  | .text, content => .string (.ok content)
  | .whole, number => .number { negative := false, whole := Nat.toDigits 10 number.toNat }
  | .flag, value => .bool value

/-- Whether a tree is a value of a kind: a string, a natural number of sixty-four bits without
point and exponent, or a truth value. -/
def Kind.Admits : Kind → Json.Tree → Prop
  | .text, .string _ => True
  | .whole, .number number =>
      number.negative = false ∧ number.pointed = false ∧ number.exponent = none ∧
        Nat.ofDigitChars 10 number.whole 0 < UInt64.size
  | .flag, .bool _ => True
  | _, _ => False

theorem unexpected_ne_ok {α : Type} (tree : Json.Tree) (wanted : String) (value : α) :
    unexpected tree wanted ≠ .ok value := by
  rw [unexpected]
  split <;> nofun

theorem readKind_tree (kind : Kind) (value : kind.Value) :
    readKind (kind.tree value) kind = .ok value := by
  cases kind with
  | text => rfl
  | flag => rfl
  | whole =>
      have hdigits : Nat.ofDigitChars 10 (Nat.toDigits 10 (UInt64.toNat value)) 0 =
          UInt64.toNat value := Nat.ofDigitChars_ten_toDigits
      have hvalue := Json.NumberText.value_of_digits (hdigits.symm ▸ UInt64.toNat_lt_size value)
      simp only [readKind, Kind.tree, readWhole, hvalue, hdigits]
      exact congrArg Except.ok UInt64.ofNat_toNat

theorem admits_of_readKind {kind : Kind} {tree : Json.Tree} {value : kind.Value}
    (h : readKind tree kind = .ok value) : kind.Admits tree := by
  cases kind with
  | text =>
      simp only [readKind] at h
      unfold readText at h
      split at h
      · trivial
      · exact (unexpected_ne_ok _ _ _ h).elim
  | flag =>
      simp only [readKind] at h
      unfold readFlag at h
      split at h
      · trivial
      · exact (unexpected_ne_ok _ _ _ h).elim
  | whole =>
      simp only [readKind] at h
      unfold readWhole at h
      split at h
      · split at h
        · next hvalue => exact Json.NumberText.of_value_eq_natural hvalue
        · cases h
        · exact (unexpected_ne_ok _ _ _ h).elim
      · exact (unexpected_ne_ok _ _ _ h).elim

namespace Values

theorem get_of_mem {values : Values} {field : Field} {value : field.kind.Value}
    (hmem : ⟨field, value⟩ ∈ values) (hall : ∀ other, ⟨field, other⟩ ∈ values → other = value) :
    values.get field = value := by
  induction values with
  | nil => simp at hmem
  | cons entry rest ih =>
      obtain ⟨other, found⟩ := entry
      rw [get]
      split
      · next heq =>
          subst heq
          exact hall found List.mem_cons_self
      · next hne =>
          have hrest := (List.mem_cons.mp hmem).resolve_left fun heq =>
            hne (congrArg Sigma.fst heq).symm
          exact ih hrest fun other hother => hall other (.tail _ hother)

theorem get_of_notMem {values : Values} {field : Field}
    (h : ∀ value, ⟨field, value⟩ ∉ values) : values.get field = field.default := by
  induction values with
  | nil => rfl
  | cons entry rest ih =>
      obtain ⟨other, found⟩ := entry
      rw [get]
      split
      · next heq =>
          subst heq
          exact absurd List.mem_cons_self (h found)
      · exact ih fun value hvalue => h value (.tail _ hvalue)

end Values

/-! ## Groups -/

theorem find?_name_eq_some_iff {parts : List Part} (hparts : (parts.map Part.name).Nodup)
    {name : String} {part : Part} :
    parts.find? (·.name = name) = some part ↔ part ∈ parts ∧ part.name = name := by
  constructor
  · intro h
    exact ⟨List.mem_of_find?_eq_some h, by simpa using List.find?_some h⟩
  · rintro ⟨hpart, rfl⟩
    cases hfind : parts.find? (·.name = part.name) with
    | none =>
        have hnone : ∀ other ∈ parts, other.name ≠ part.name := by simpa using hfind
        exact absurd rfl (hnone part hpart)
    | some found =>
        have hname : found.name = part.name := by simpa using List.find?_some hfind
        rw [List.inj_on_of_nodup_map hparts (List.mem_of_find?_eq_some hfind) hpart hname]

/-- An object is read if the names of the parts occur once at most and all that stands under them
is read; then the values are those of the parts. -/
theorem exists_readMembers_eq {parts : List Part} (hparts : (parts.map Part.name).Nodup)
    (seen : List String) {members : List (String × Json.Tree)}
    (honce : ∀ part ∈ parts, (members.map Prod.fst).count part.name ≤ 1)
    (hseen : ∀ part ∈ parts, part.name ∈ seen → part.name ∉ members.map Prod.fst)
    (hread : ∀ part ∈ parts, ∀ tree, (part.name, tree) ∈ members →
      ∃ values, part.read tree = .ok values)
    (hskip : ∀ member ∈ members, skipFlaw? member.2 = none) :
    ∃ values, readMembers parts none seen
        (members.map fun member => (.ok member.1, member.2)) = .ok values ∧
      ∀ entry, entry ∈ values ↔ ∃ part ∈ parts, ∃ tree found,
        (part.name, tree) ∈ members ∧ part.read tree = .ok found ∧ entry ∈ found := by
  induction members generalizing seen with
  | nil => exact ⟨[], rfl, by simp⟩
  | cons member rest ih =>
      obtain ⟨name, tree⟩ := member
      have honceRest : ∀ part ∈ parts, (rest.map Prod.fst).count part.name ≤ 1 := fun part hpart =>
        (List.count_le_count_cons).trans (honce part hpart)
      have hreadRest : ∀ part ∈ parts, ∀ tree, (part.name, tree) ∈ rest →
          ∃ values, part.read tree = .ok values :=
        fun part hpart tree htree => hread part hpart tree (.tail _ htree)
      have hskipRest : ∀ member ∈ rest, skipFlaw? member.2 = none :=
        fun member hmember => hskip member (.tail _ hmember)
      have hseenRest : ∀ part ∈ parts, part.name ∈ seen → part.name ∉ rest.map Prod.fst :=
        fun part hpart hname hrest => hseen part hpart hname (.tail _ hrest)
      rw [List.map_cons, readMembers]
      cases hfind : parts.find? (·.name = name) with
      | none =>
          have hunknown : ∀ part ∈ parts, part.name ≠ name := by simpa using hfind
          obtain ⟨values, hvalues, hmem⟩ := ih seen honceRest hseenRest hreadRest hskipRest
          refine ⟨values, by simp only [hskip _ List.mem_cons_self, hvalues], fun entry => ?_⟩
          rw [hmem]
          refine exists_congr fun part => and_congr_right fun hpart => ?_
          simp only [List.mem_cons, Prod.mk.injEq, hunknown part hpart, false_and, false_or]
      | some part =>
          obtain ⟨hpart, rfl⟩ := (find?_name_eq_some_iff hparts).mp hfind
          obtain ⟨found, hfound⟩ := hread part hpart tree List.mem_cons_self
          have hnew : part.name ∉ seen := fun hmem =>
            hseen part hpart hmem List.mem_cons_self
          have honly : part.name ∉ rest.map Prod.fst := by
            have hcount := honce part hpart
            rw [List.map_cons, List.count_cons_self] at hcount
            exact List.count_eq_zero.mp (by omega)
          have hseenNext : ∀ other ∈ parts, other.name ∈ part.name :: seen →
              other.name ∉ rest.map Prod.fst := by
            intro other hother hname
            rcases List.mem_cons.mp hname with hname | hname
            · exact hname ▸ honly
            · exact hseenRest other hother hname
          obtain ⟨values, hvalues, hmem⟩ := ih _ honceRest hseenNext hreadRest hskipRest
          refine ⟨found ++ values, by simp only [if_neg hnew, hfound, hvalues]; rfl,
            fun entry => ?_⟩
          rw [List.mem_append, hmem]
          constructor
          · rintro (hentry | ⟨other, hother, otherTree, otherFound, htree, h⟩)
            · exact ⟨part, hpart, tree, found, List.mem_cons_self, hfound, hentry⟩
            · exact ⟨other, hother, otherTree, otherFound, .tail _ htree, h⟩
          · rintro ⟨other, hother, otherTree, otherFound, htree, hother', hentry⟩
            rcases List.mem_cons.mp htree with heq | htree
            · obtain ⟨hname, rfl⟩ := Prod.mk.inj heq
              obtain rfl := List.inj_on_of_nodup_map hparts hother hpart hname
              exact .inl (Except.ok.inj (hother'.symm.trans hfound) ▸ hentry)
            · exact .inr ⟨other, hother, otherTree, otherFound, htree, hother', hentry⟩

/-- A member of an object that is read is passed over, or it is the first one of its part. -/
theorem readMembers_cons_eq {parts : List Part} {ending : Option Json.Fault} {seen : List String}
    {key : Except Json.Flaw String} {tree : Json.Tree}
    {rest : List (Except Json.Flaw String × Json.Tree)} {values : Values}
    (h : readMembers parts ending seen ((key, tree) :: rest) = .ok values) :
    (readMembers parts ending seen rest = .ok values ∧ ∀ part ∈ parts, .ok part.name ≠ key) ∨
      ∃ part found more, key = .ok part.name ∧ part ∈ parts ∧ part.name ∉ seen ∧
        part.read tree = .ok found ∧
        readMembers parts ending (part.name :: seen) rest = .ok more := by
  cases key with
  | error flaw => cases h
  | ok name =>
      rw [readMembers] at h
      cases hfind : parts.find? (·.name = name) with
      | none =>
          have hunknown : ∀ part ∈ parts, part.name ≠ name := by simpa using hfind
          refine .inl ⟨?_, fun part hpart heq => hunknown part hpart (Except.ok.inj heq)⟩
          cases hskip : skipFlaw? tree with
          | some flaw => simp [hfind, hskip] at h
          | none => simpa [hfind, hskip] using h
      | some part =>
          have hname : part.name = name := by simpa using List.find?_some hfind
          subst hname
          rw [hfind] at h
          by_cases hmem : part.name ∈ seen
          · simp [hmem] at h
          · simp only [if_neg hmem] at h
            obtain ⟨found, hfound, h⟩ := bind_eq_ok_iff.mp h
            obtain ⟨more, hmore, -⟩ := bind_eq_ok_iff.mp h
            exact .inr
              ⟨part, found, more, rfl, List.mem_of_find?_eq_some hfind, hmem, hfound, hmore⟩

/-- In an object that is read no part occurs twice, and all that stands under its name is read. -/
theorem of_readMembers_eq {parts : List Part} (hparts : (parts.map Part.name).Nodup)
    {ending : Option Json.Fault} {seen : List String}
    {members : List (Except Json.Flaw String × Json.Tree)} {values : Values}
    (h : readMembers parts ending seen members = .ok values) {part : Part} (hpart : part ∈ parts) :
    ¬ List.Duplicate (.ok part.name) (members.map Prod.fst) ∧
      (part.name ∈ seen → .ok part.name ∉ members.map Prod.fst) ∧
      ∀ tree, (.ok part.name, tree) ∈ members → ∃ found, part.read tree = .ok found := by
  induction members generalizing seen values with
  | nil => exact ⟨nofun, fun _ => nofun, nofun⟩
  | cons member rest ih =>
      obtain ⟨key, tree⟩ := member
      simp only [List.map_cons, List.duplicate_cons_iff, List.mem_cons, Prod.mk.injEq]
      rcases readMembers_cons_eq h with ⟨hrest, hunknown⟩ | ⟨first, found, more, rfl, hfirst, hnew,
        hfound, hrest⟩
      · have hne := hunknown part hpart
        obtain ⟨honce, hseen, hread⟩ := ih hrest
        exact ⟨not_or.mpr ⟨fun h => hne h.1.symm, honce⟩,
          fun hmem => not_or.mpr ⟨hne, hseen hmem⟩,
          fun other hother => hread other (hother.resolve_left fun h => hne h.1)⟩
      · obtain ⟨honce, hseen, hread⟩ := ih hrest
        by_cases hsame : part = first
        · subst hsame
          have honly := hseen List.mem_cons_self
          exact ⟨not_or.mpr ⟨fun h => honly h.2, honce⟩, fun hmem => absurd hmem hnew,
            fun other hother => hother.elim (fun h => h.2 ▸ ⟨found, hfound⟩) (hread other)⟩
        · have hne : (.ok part.name : Except Json.Flaw String) ≠ .ok first.name := fun heq =>
            hsame (List.inj_on_of_nodup_map hparts hpart hfirst (Except.ok.inj heq))
          exact ⟨not_or.mpr ⟨fun h => hne h.1.symm, honce⟩,
            fun hmem => not_or.mpr ⟨hne, hseen (.tail _ hmem)⟩,
            fun other hother => hread other (hother.resolve_left fun h => hne h.1)⟩

/-- Part by part, the items of an array are read. -/
theorem exists_read_of_readItems {ending : Option Json.Fault} {parts : List Part}
    {items : List Json.Tree} {values : Values} (h : readItems ending parts items = .ok values)
    {i : Nat} {part : Part} {tree : Json.Tree} (hpart : parts[i]? = some part)
    (htree : items[i]? = some tree) : ∃ found, part.read tree = .ok found := by
  induction items generalizing parts values i with
  | nil => simp at htree
  | cons item items ih =>
      cases parts with
      | nil => simp at hpart
      | cons first parts =>
          rw [readItems] at h
          obtain ⟨found, hfound, h⟩ := bind_eq_ok_iff.mp h
          obtain ⟨more, hmore, -⟩ := bind_eq_ok_iff.mp h
          cases i with
          | zero =>
              rw [List.getElem?_cons_zero, Option.some.injEq] at hpart htree
              exact ⟨found, hpart ▸ htree ▸ hfound⟩
          | succ i =>
              rw [List.getElem?_cons_succ] at hpart htree
              exact ih hmore hpart htree

/-! ## Passing over -/

mutual

/-- There is nothing wrong with the tree of a text. -/
theorem skipFlaw?_of_spells {tree : Json.Tree} {text : List Char} (h : Json.Spells tree text) :
    skipFlaw? tree = none :=
  match h with
  | .null | .yes | .no | .number _ | .string _ | .emptyArray _ | .emptyObject _ => rfl
  | .array hitems => by rw [skipFlaw?, skipItems?_of_spells hitems]; rfl
  | .object hmembers => by rw [skipFlaw?, skipMembers?_of_spells hmembers]; rfl

theorem skipItems?_of_spells {items : List Json.Tree} {text : List Char}
    (h : Json.SpellsItems items text) : skipItems? items = none :=
  match h with
  | .last _ hitem _ => by rw [skipItems?, skipFlaw?_of_spells hitem]; rfl
  | .cons _ hitem _ hmore => by
      rw [skipItems?, skipFlaw?_of_spells hitem, skipItems?_of_spells hmore]; rfl

theorem skipMember_of_spells {member : Except Json.Flaw String × Json.Tree} {text : List Char}
    (h : Json.SpellsMember member text) : skipFlaw? member.2 = none :=
  match h with
  | .intro _ _ _ _ hvalue _ => skipFlaw?_of_spells hvalue

theorem skipMembers?_of_spells {members : List (Except Json.Flaw String × Json.Tree)}
    {text : List Char} (h : Json.SpellsMembers members text) : skipMembers? members = none :=
  match h with
  | @Json.SpellsMembers.last (_, _) _ hmember => by
      rw [skipMembers?, skipMember_of_spells hmember]; rfl
  | @Json.SpellsMembers.cons (_, _) _ _ _ hmember hmore => by
      rw [skipMembers?, skipMember_of_spells hmember, skipMembers?_of_spells hmore]; rfl

end

theorem skipFlaw?_of_mem {members : List (Except Json.Flaw String × Json.Tree)}
    (h : skipMembers? members = none) {member : Except Json.Flaw String × Json.Tree}
    (hmember : member ∈ members) : skipFlaw? member.2 = none := by
  induction members with
  | nil => cases hmember
  | cons first rest ih =>
      rw [skipMembers?, Option.or_eq_none_iff] at h
      rcases List.mem_cons.mp hmember with rfl | hmember
      · exact h.1
      · exact ih h.2 hmember

/-! ## Sections -/

theorem nodup_fieldParts (part : Section) :
    ((part.fields.map fieldPart).map Part.name).Nodup := by
  cases part <;> decide

theorem nodup_sectionParts : ((Section.all.map sectionPart).map Part.name).Nodup := by decide

theorem mem_fields_iff {part : Section} {field : Field} :
    field ∈ part.fields ↔ field.sectionOf = part := by
  revert part field; decide

theorem getElem?_position (field : Field) :
    field.sectionOf.fields[field.position]? = some field := by
  revert field; decide

/-- A field with its value. -/
def entryOf (settings : Settings) (field : Field) : (field : Field) × field.kind.Value :=
  ⟨field, settings.get field⟩

theorem fieldPart_read_tree (settings : Settings) (field : Field) :
    (fieldPart field).read (field.kind.tree (settings.get field)) =
      .ok [entryOf settings field] := by
  simp only [fieldPart, readKind_tree]
  rfl

/-- What stands for a section that has the values of `settings` for some of its fields: an object
with one member for each of these fields, or an array of their values if they are the first. -/
inductive Section.Holds (part : Section) (settings : Settings) (given : Finset Field) :
    Json.Tree → Prop where
  | object {members : List (String × Json.Tree)}
      (hcount : ∀ field ∈ part.fields,
        (members.map Prod.fst).count field.name = if field ∈ given then 1 else 0)
      (hvalue : ∀ field ∈ part.fields, ∀ tree, (field.name, tree) ∈ members →
        tree = field.kind.tree (settings.get field)) :
      Holds part settings given (.objectOf members)
  | array {count : Nat}
      (hgiven : ∀ field ∈ part.fields, field ∈ given ↔ field ∈ part.fields.take count) :
      Holds part settings given
        (.array ((part.fields.take count).map fun field => field.kind.tree (settings.get field))
          none)

theorem readItems_take (settings : Settings) (fields : List Field) (count : Nat) :
    readItems none (fields.map fieldPart)
        ((fields.take count).map fun field => field.kind.tree (settings.get field)) =
      .ok ((fields.take count).map (entryOf settings)) := by
  induction fields generalizing count with
  | nil => rw [List.take_nil]; rfl
  | cons field fields ih =>
      cases count with
      | zero => rfl
      | succ count =>
          rw [List.take_succ_cons, List.map_cons, List.map_cons, readItems,
            fieldPart_read_tree, ih count]
          rfl

/-- The values of a section are read from what stands for it. -/
theorem Section.Holds.exists_readGroup_eq {part : Section} {settings : Settings}
    {given : Finset Field} {tree : Json.Tree} (h : part.Holds settings given tree)
    (hskip : skipFlaw? tree = none) :
    ∃ values, (sectionPart part).read tree = .ok values ∧
      ∀ entry, entry ∈ values ↔ ∃ field ∈ part.fields, field ∈ given ∧
        entry = entryOf settings field := by
  cases h with
  | @object members hcount hvalue =>
      rw [Json.Tree.objectOf, skipFlaw?, Option.or_eq_none_iff] at hskip
      obtain ⟨values, hvalues, hmem⟩ := exists_readMembers_eq (nodup_fieldParts part) []
        (List.forall_mem_map.mpr fun field hfield => by
          rw [fieldPart, hcount field hfield]; split <;> omega)
        (fun _ _ hnil => absurd hnil List.not_mem_nil)
        (List.forall_mem_map.mpr fun field hfield tree htree => by
          rw [hvalue field hfield tree htree]
          exact ⟨_, fieldPart_read_tree settings field⟩)
        (fun member hmember => skipFlaw?_of_mem hskip.1 (List.mem_map_of_mem hmember))
      refine ⟨values, hvalues, fun entry => ?_⟩
      simp only [hmem, List.mem_map, exists_exists_and_eq_and]
      refine exists_congr fun field => and_congr_right fun hfield => ?_
      have hgiven : field ∈ given ↔ ∃ tree, (field.name, tree) ∈ members := by
        have hmem : field.name ∈ members.map Prod.fst ↔ ∃ tree, (field.name, tree) ∈ members := by
          simp
        rw [← hmem, ← List.count_pos_iff, hcount field hfield]
        split <;> simp [*]
      have hread := fieldPart_read_tree settings field
      constructor
      · rintro ⟨tree, found, htree, hfound, hentry⟩
        refine ⟨hgiven.mpr ⟨tree, htree⟩, ?_⟩
        rw [hvalue field hfield tree htree, hread] at hfound
        exact List.mem_singleton.mp (Except.ok.inj hfound ▸ hentry)
      · rintro ⟨hmem, rfl⟩
        obtain ⟨tree, htree⟩ := hgiven.mp hmem
        exact ⟨tree, _, htree, hvalue field hfield tree htree ▸ hread, List.mem_singleton_self _⟩
  | @array count hgiven =>
      refine ⟨_, readItems_take settings part.fields count, fun entry => ?_⟩
      rw [List.mem_map]
      constructor
      · rintro ⟨field, hfield, rfl⟩
        have hmem := List.mem_of_mem_take hfield
        exact ⟨field, hmem, (hgiven field hmem).mpr hfield, rfl⟩
      · rintro ⟨field, hfield, hmem, rfl⟩
        exact ⟨field, (hgiven field hfield).mp hmem, rfl⟩

/-! ## Documents -/

/-- A document that has the values of `settings` for some fields: an object with one member at most
for each section, and with all sections that these fields belong to. -/
inductive Holds (settings : Settings) (given : Finset Field) : Json.Tree → Prop where
  | object {members : List (String × Json.Tree)}
      (honce : ∀ part : Section, (members.map Prod.fst).count part.name ≤ 1)
      (hgiven : ∀ field ∈ given, field.sectionOf.name ∈ members.map Prod.fst)
      (hvalue : ∀ (part : Section) (tree), (part.name, tree) ∈ members →
        part.Holds settings given tree) :
      Holds settings given (.objectOf members)

/-- A document that names a section or a field twice, or has another kind of value for one. -/
inductive Clashes : Json.Tree → Prop where
  | otherSection {members : List (Except Json.Flaw String × Json.Tree)} {tree : Json.Tree}
      (part : Section) (hsection : (.ok part.name, tree) ∈ members)
      (hobject : ∀ inner ending, tree ≠ .object inner ending)
      (harray : ∀ items ending, tree ≠ .array items ending) : Clashes (.object members none)
  | sectionTwice {members : List (Except Json.Flaw String × Json.Tree)} (part : Section)
      (htwice : List.Duplicate (.ok part.name) (members.map Prod.fst)) :
      Clashes (.object members none)
  | fieldTwice {members inner : List (Except Json.Flaw String × Json.Tree)} (field : Field)
      (hsection : (.ok field.sectionOf.name, .object inner none) ∈ members)
      (htwice : List.Duplicate (.ok field.name) (inner.map Prod.fst)) :
      Clashes (.object members none)
  | otherKind {members inner : List (Except Json.Flaw String × Json.Tree)} {tree : Json.Tree}
      (field : Field) (hsection : (.ok field.sectionOf.name, .object inner none) ∈ members)
      (hfield : (.ok field.name, tree) ∈ inner) (hkind : ¬ field.kind.Admits tree) :
      Clashes (.object members none)
  | otherKindItem {members : List (Except Json.Flaw String × Json.Tree)} {items : List Json.Tree}
      {tree : Json.Tree} (field : Field)
      (hsection : (.ok field.sectionOf.name, .array items none) ∈ members)
      (hfield : items[field.position]? = some tree) (hkind : ¬ field.kind.Admits tree) :
      Clashes (.object members none)

/-- The settings with the values of `settings` for some fields, and the defaults for the others. -/
def restrictTo (settings : Settings) (given : Finset Field) : Settings :=
  ofFields fun field => if field ∈ given then settings.get field else field.default

theorem restrictTo_eq_of_mem {settings : Settings} {given : Finset Field} {values : Values}
    (h : ∀ entry, entry ∈ values ↔ ∃ field ∈ given, entry = settings.entryOf field) :
    ofFields values.get = settings.restrictTo given := by
  refine congrArg ofFields (funext fun field => ?_)
  split
  · next hfield =>
      refine Values.get_of_mem ((h _).mpr ⟨field, hfield, rfl⟩) fun other hother => ?_
      obtain ⟨found, -, hfound⟩ := (h _).mp hother
      cases hfound
      rfl
  · next hfield =>
      refine Values.get_of_notMem fun value hvalue => ?_
      obtain ⟨found, hfound, heq⟩ := (h _).mp hvalue
      cases heq
      exact hfield hfound

theorem Holds.exists_readGroup_eq {settings : Settings} {given : Finset Field} {tree : Json.Tree}
    (h : Holds settings given tree) (hskip : skipFlaw? tree = none) :
    ∃ values, readGroup (Section.all.map sectionPart) "struct AppConfig" tree = .ok values ∧
      ∀ entry, entry ∈ values ↔ ∃ field ∈ given, entry = settings.entryOf field := by
  cases h with
  | @object members honce hgiven hvalue =>
      rw [Json.Tree.objectOf, skipFlaw?, Option.or_eq_none_iff] at hskip
      have hskip : ∀ member ∈ members, skipFlaw? member.2 = none := fun member hmember =>
        skipFlaw?_of_mem hskip.1 (List.mem_map_of_mem hmember)
      have hread : ∀ (part : Section) (tree), (part.name, tree) ∈ members →
          ∃ values, (sectionPart part).read tree = .ok values ∧
            ∀ entry, entry ∈ values ↔ ∃ field ∈ part.fields, field ∈ given ∧
              entry = settings.entryOf field :=
        fun part tree htree => (hvalue part tree htree).exists_readGroup_eq (hskip _ htree)
      obtain ⟨values, hvalues, hmem⟩ := exists_readMembers_eq nodup_sectionParts []
        (List.forall_mem_map.mpr fun part _ => honce part)
        (fun _ _ hnil => absurd hnil List.not_mem_nil)
        (List.forall_mem_map.mpr fun part _ tree htree =>
          (hread part tree htree).imp fun _ => And.left) hskip
      refine ⟨values, hvalues, fun entry => ?_⟩
      simp only [hmem, List.mem_map, exists_exists_and_eq_and]
      constructor
      · rintro ⟨part, -, tree, found, htree, hfound, hentry⟩
        obtain ⟨found', hfound', hentries⟩ := hread part tree htree
        obtain rfl := Except.ok.inj (hfound.symm.trans hfound')
        obtain ⟨field, -, hfield, rfl⟩ := (hentries entry).mp hentry
        exact ⟨field, hfield, rfl⟩
      · rintro ⟨field, hfield, rfl⟩
        obtain ⟨⟨_, tree⟩, htree, hname⟩ := List.mem_map.mp (hgiven field hfield)
        obtain rfl := hname
        obtain ⟨found, hfound, hentries⟩ := hread field.sectionOf tree htree
        exact ⟨field.sectionOf, Section.mem_all _, tree, found, htree, hfound,
          (hentries _).mpr ⟨field, mem_fields_iff.mpr rfl, hfield, rfl⟩⟩

theorem admits_of_fieldPart_read {field : Field} {tree : Json.Tree} {values : Values}
    (h : (fieldPart field).read tree = .ok values) : field.kind.Admits tree := by
  obtain ⟨value, hvalue, -⟩ := map_eq_ok_iff.mp h
  exact admits_of_readKind hvalue

theorem of_readMembers_sections {members : List (Except Json.Flaw String × Json.Tree)}
    {values : Values} (h : readMembers (Section.all.map sectionPart) none [] members = .ok values)
    (part : Section) :
    ¬ List.Duplicate (.ok part.name) (members.map Prod.fst) ∧
      ∀ tree, (.ok part.name, tree) ∈ members →
        ∃ found, readGroup (part.fields.map fieldPart) part.typeName tree = .ok found :=
  have hpart := of_readMembers_eq nodup_sectionParts h
    (List.mem_map_of_mem (f := sectionPart) part.mem_all)
  ⟨hpart.1, hpart.2.2⟩

theorem of_readMembers_fields {members : List (Except Json.Flaw String × Json.Tree)}
    {values : Values} {field : Field}
    (h : readMembers (field.sectionOf.fields.map fieldPart) none [] members = .ok values) :
    ¬ List.Duplicate (.ok field.name) (members.map Prod.fst) ∧
      ∀ tree, (.ok field.name, tree) ∈ members → field.kind.Admits tree :=
  have hfield := of_readMembers_eq (nodup_fieldParts field.sectionOf) h
    (List.mem_map_of_mem (f := fieldPart) (mem_fields_iff.mpr rfl))
  ⟨hfield.1, fun tree htree => (hfield.2.2 tree htree).elim fun _ => admits_of_fieldPart_read⟩

/-- A document that is read has no clash. -/
theorem not_clashes_of_readGroup {tree : Json.Tree} {values : Values}
    (h : readGroup (Section.all.map sectionPart) "struct AppConfig" tree = .ok values) :
    ¬ Clashes tree := by
  rintro (⟨part, hsection, hobject, harray⟩ | ⟨part, htwice⟩ | ⟨field, hsection, htwice⟩ |
    ⟨field, hsection, hfield, hkind⟩ | ⟨field, hsection, hfield, hkind⟩)
  · obtain ⟨found, hfound⟩ := (of_readMembers_sections h part).2 _ hsection
    rw [readGroup.eq_3 _ _ _ hobject harray] at hfound
    exact unexpected_ne_ok _ _ _ hfound
  · exact (of_readMembers_sections h part).1 htwice
  · obtain ⟨found, hfound⟩ := (of_readMembers_sections h field.sectionOf).2 _ hsection
    exact (of_readMembers_fields hfound).1 htwice
  · obtain ⟨found, hfound⟩ := (of_readMembers_sections h field.sectionOf).2 _ hsection
    exact hkind ((of_readMembers_fields hfound).2 _ hfield)
  · obtain ⟨found, hfound⟩ := (of_readMembers_sections h field.sectionOf).2 _ hsection
    have hposition : (field.sectionOf.fields.map fieldPart)[field.position]? =
        some (fieldPart field) := by
      rw [List.getElem?_map, getElem?_position]; rfl
    obtain ⟨value, hvalue⟩ := exists_read_of_readItems hfound hposition hfield
    exact hkind (admits_of_fieldPart_read hvalue)

/-- A text that gives some of the settings, in whatever order, spelling and company, is read as
these settings, with the defaults for all others. A text that names a section or a field twice, or
has another kind of value for a field, gives no settings. -/
theorem ofJsonText_of_isText {text : String} {tree : Json.Tree} (htext : Json.IsText tree text) :
    (∀ settings given, Holds settings given tree →
      ofJsonText text = .ok (settings.restrictTo given)) ∧
    (Clashes tree → ∃ error, ofJsonText text = .error error) := by
  have hdocument := Json.Tree.ofText_eq htext
  obtain ⟨_, value, _, _, hvalue, _⟩ := htext
  constructor
  · intro settings given hholds
    obtain ⟨values, hvalues, hmem⟩ := hholds.exists_readGroup_eq (skipFlaw?_of_spells hvalue)
    simp only [ofJsonText, hdocument, hvalues, bind_ok]
    rw [if_neg Bool.false_ne_true, restrictTo_eq_of_mem hmem]
    rfl
  · intro hclash
    cases hread : readGroup (Section.all.map sectionPart) "struct AppConfig" tree with
    | ok values => exact absurd hclash (not_clashes_of_readGroup hread)
    | error error => exact ⟨error, by simp only [ofJsonText, hdocument, hread, bind_error]⟩

/-- Escapes, a pair of halves, a half without the other in a value that is passed over, and a
section as an array. -/
theorem ofJsonText_of_escaped_text :
    ofJsonText ("\x7b \"\\u0074ts\" :\n\x7b\"x\":[\"\\ud800\", -0e1],\"app_id\":" ++
        "\"\\uD83d\\ude00\\t\"\x7d,\"log\":[\"debug\"]\x7d") =
      .ok { synthesis := { appId := "😀\t" }, log := { level := "debug" } } := by
  have hnil : Json.Blank [] := nofun
  have hspace : Json.Blank [' '] := by simp [Json.Blank]
  have hline : Json.Blank ['\n'] := by simp [Json.Blank]
  have hkey : Json.StringSpelling (.ok "tts") "\"\\u0074ts\"".toList :=
    .text (.unit (.intro (by decide : Json.HexDigit '0' 0) (by decide : Json.HexDigit '0' 0)
      (by decide : Json.HexDigit '7' 7) (by decide : Json.HexDigit '4' 4))
      (.plain (by decide) (by decide) (by decide)
        (.plain (by decide) (by decide) (by decide) .nil)))
      (.units 't' (.char 't' (.char 's' .nil)))
  have happId : Json.StringSpelling (.ok "😀\t") "\"\\uD83d\\ude00\\t\"".toList :=
    .text (.unit (.intro (by decide : Json.HexDigit 'D' 13) (by decide : Json.HexDigit '8' 8)
      (by decide : Json.HexDigit '3' 3) (by decide : Json.HexDigit 'd' 13))
      (.unit (.intro (by decide : Json.HexDigit 'd' 13) (by decide : Json.HexDigit 'e' 14)
        (by decide : Json.HexDigit '0' 0) (by decide : Json.HexDigit '0' 0))
        (.escape (by decide : ('t', '\t') ∈ Json.shortEscapes) .nil)))
      (.units '😀' (.char '\t' .nil))
  have hhalf : Json.StringSpelling (.error .malformed) "\"\\ud800\"".toList :=
    .loneHalf (.unit (.intro (by decide : Json.HexDigit 'd' 13) (by decide : Json.HexDigit '8' 8)
      (by decide : Json.HexDigit '0' 0) (by decide : Json.HexDigit '0' 0)) .nil)
      fun _ h => nomatch h.joinPieces_eq
  have hnumber : Json.NumberSpelling
      { negative := true, whole := ['0'], exponent := some (false, ['1']) } "-0e1".toList :=
    .intro true ⟨by simp, by simp⟩ (by decide) .absent
      (.unsigned (.inl rfl) ⟨by simp, by simp⟩)
  have hother : Json.StringSpelling (.ok "x") "\"x\"".toList := .plain (by simp)
  have hlog : Json.StringSpelling (.ok "log") "\"log\"".toList := .plain (by simp)
  have hdebug : Json.StringSpelling (.ok "debug") "\"debug\"".toList := .plain (by simp)
  have hname : Json.StringSpelling (.ok "app_id") "\"app_id\"".toList := .plain (by simp)
  have hunknown := Json.Spells.array
    (.cons hnil (.string hhalf) hnil (.last hspace (.number hnumber) hnil))
  have hsection := Json.Spells.object (.cons (.intro hnil hother hnil hnil hunknown hnil)
    (.last (.intro hnil hname hnil hnil (.string happId) hnil)))
  have hdocument := Json.Spells.object (.cons (.intro hspace hkey hspace hline hsection hnil)
    (.last (.intro hnil hlog hnil hnil (.array (.last hnil (.string hdebug) hnil)) hnil)))
  refine ((ofJsonText_of_isText ⟨[], _, [], hnil, hdocument, hnil, rfl⟩).1
    { synthesis := { appId := "😀\t" }, log := { level := "debug" } } {.appId, .logLevel}
    (@Holds.object _ _ [("tts", .objectOf [("x", _), ("app_id", _)]), ("log", _)]
      ?once ?given ?sections)).trans rfl
  case once => decide
  case given => decide
  case sections =>
    intro part tree htree
    cases part with
    | token => simp [Section.name] at htree
    | playback => simp [Section.name] at htree
    | synthesis =>
        obtain rfl : tree = .objectOf _ := by simpa [Section.name] using htree
        refine .object (by decide) fun field hfield value hvalue => ?_
        cases field with
        | appId => exact (by simpa [Field.name] using hvalue : value = .string (.ok "😀\t"))
        | _ => simp [Field.name] at hvalue
    | log =>
        obtain rfl : tree = .array [.string (.ok "debug")] none := by
          simpa [Section.name] using htree
        exact @Section.Holds.array .log _ _ 1 (by decide)

end CloudSpeech.Settings
