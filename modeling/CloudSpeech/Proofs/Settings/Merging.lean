import CloudSpeech.Settings.Load
import Mathlib.Data.List.Basic

/-!
# What stands in a table after a source has been put into it

A table is looked at under a name. Putting a source into it changes what stands there only if
the source has the name, upper and lower case apart; then what was there is merged with what the
source has. The merge of all layers is understood from this one fact.
-/

namespace CloudSpeech.Settings

/-- Entries with their keys in small letters. -/
def Entries.small (entries : Entries) : Entries :=
  entries.map fun (key, entry) => (Text.lowercase key, entry)

theorem Entries.find?_cons (key name : String) (entry : Entry) (rest : Entries) :
    Entries.find? ((key, entry) :: rest) name =
      if name = key then some entry else Entries.find? rest name := by
  by_cases h : name = key
  · rw [if_pos h, Entries.find?, h, List.lookup_cons_self]
  · rw [if_neg h, Entries.find?, List.lookup_cons, beq_eq_false_iff_ne.mpr h]
    rfl

theorem Entries.find?_eq_none {entries : Entries} {name : String}
    (h : name ∉ entries.map Prod.fst) : Entries.find? entries name = none := by
  rw [Entries.find?, List.lookup_eq_none_iff]
  intro entry hentry
  rw [bne_iff_ne]
  rintro rfl
  exact h (List.mem_map_of_mem hentry)

namespace Entry

theorem find?_changeName (root : Entry) (key name : String) (f : Option Entry → Entry) :
    Entries.find? (root.changeName key f).entries name =
      if name = Text.lowercase key then some (f (Entries.find? root.entries name))
      else Entries.find? root.entries name := by
  have hentries : (root.changeName key f).entries =
      Entries.change root.entries (Text.lowercase key) f := by
    cases root <;> rfl
  rw [hentries, Entries.find?_change]
  by_cases h : name = Text.lowercase key
  · rw [if_pos h, if_pos h, h]
  · rw [if_neg h, if_neg h]

theorem find?_putAll {source : Entries} (target : Entry) (name : String)
    (hnodup : ((Entries.small source).map Prod.fst).Nodup) :
    Entries.find? (putAll target source).entries name =
      ((Entries.find? (Entries.small source) name).map
        (put (Entries.find? target.entries name))).or (Entries.find? target.entries name) := by
  induction source generalizing target with
  | nil => rfl
  | cons entry rest ih =>
      obtain ⟨key, value⟩ := entry
      obtain ⟨hfresh, hrest⟩ := List.nodup_cons.mp hnodup
      have hsmall : Entries.small ((key, value) :: rest) =
        (Text.lowercase key, value) :: Entries.small rest := rfl
      rw [putAll, ih _ hrest, find?_changeName, hsmall, Entries.find?_cons]
      by_cases hname : name = Text.lowercase key
      · have habsent : Entries.find? (Entries.small rest) name = none :=
          Entries.find?_eq_none (hname ▸ hfresh)
        simp only [if_pos hname, habsent, Option.map_none, Option.none_or, Option.map_some,
          Option.some_or]
      · simp only [if_neg hname]

/-- What a table of sections holds for a field. -/
def field? (root : Entry) (field : Field) : Option Entry :=
  (Entries.find? root.entries field.sectionOf.name).bind fun part =>
    Entries.find? part.entries field.name

theorem find?_getD_emptyTable (root : Entry) (field : Field) :
    Entries.find? ((Entries.find? root.entries field.sectionOf.name).getD emptyTable).entries
      field.name = root.field? field := by
  rw [field?]
  cases Entries.find? root.entries field.sectionOf.name <;> rfl

end Entry

end CloudSpeech.Settings
