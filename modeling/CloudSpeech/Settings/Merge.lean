import CloudSpeech.Settings.Entry
import CloudSpeech.Settings.KeyPath
/-!
# Merging sources

The sources are put into one table, one after the other.  A table is merged key by key into what
is there; anything else replaces what is there.  What is in the way of a path gives way to a table
or an array.  Names do not depend on the case of their letters.
-/

namespace CloudSpeech.Settings

namespace Entries

def find? (entries : Entries) (key : String) : Option Entry := List.lookup key entries

/-- Changes what stands under a key: in the place of the key if it is there, and else at the end. -/
def change (entries : Entries) (key : String) (f : Option Entry → Entry) : Entries :=
  match entries with
  | [] => [(key, f none)]
  | (other, found) :: rest =>
      if other = key then (key, f (some found)) :: rest else (other, found) :: change rest key f

theorem find?_change (entries : Entries) (key other : String) (f : Option Entry → Entry) :
    find? (change entries key f) other =
      if other = key then some (f (find? entries key)) else find? entries other := by
  induction entries with
  | nil =>
    by_cases h : other = key
    · simp [change, find?, h]
    · simp [change, find?, h, List.lookup_cons, beq_eq_false_iff_ne.mpr h]
  | cons entry rest ih =>
    obtain ⟨first, found⟩ := entry
    by_cases hf : first = key
    · subst hf
      by_cases h : other = first
      · simp [change, find?, h]
      · simp [change, find?, h, List.lookup_cons, beq_eq_false_iff_ne.mpr h]
    · by_cases h : other = first
      · subst h
        simp [change, find?, hf]
      · have hk : (key == first) = false := beq_eq_false_iff_ne.mpr (Ne.symm hf)
        have ho : (other == first) = false := beq_eq_false_iff_ne.mpr h
        simp only [find?] at ih
        simp [change, find?, hf, List.lookup_cons, hk, ho, ih]

end Entries

namespace Entry

/-- Changes what stands under a name in a table.  What is no table gives way to an empty one. -/
def changeName (entry : Entry) (name : String) (f : Option Entry → Entry) : Entry :=
  match entry with
  | table origin entries => table origin (Entries.change entries (Text.lowercase name) f)
  | _ => table none (Entries.change [] (Text.lowercase name) f)

/-- The place of an index among so many items: how many items have to be added in front, and the
place after that. -/
def place (length : Nat) (index : Int) : Nat × Nat :=
  if 0 ≤ index then (0, index.toNat)
  else if index.natAbs ≤ length then (0, length - index.natAbs)
  else (index.natAbs - length, 0)

/-- Changes an item of an array, which is padded until it has the item.  What is no array gives
way to an empty one. -/
def changeItem (entry : Entry) (index : Int) (f : Entry → Entry) : Entry :=
  let (origin, items) : Option String × List Entry :=
    match entry with
    | array origin items => (origin, items)
    | _ => (none, [])
  let (front, at_) := place items.length index
  let items := List.replicate front padding ++ items
  let items := items ++ List.replicate (at_ + 1 - items.length) padding
  array origin (items.modify at_ f)

mutual

/-- What stands in a place after a value has been put there. -/
def put (existing : Option Entry) : Entry → Entry
  | table _ entries => putAll (existing.getD emptyTable) entries
  | value => value

/-- A table after entries have been put into it. -/
def putAll (target : Entry) : List (String × Entry) → Entry
  | [] => target
  | (name, value) :: rest => putAll (target.changeName name fun existing => put existing value) rest

end

/-- What stands in a place after a value has been put where the steps lead from there. -/
def putAt (value : Entry) : List Step → Option Entry → Entry
  | [], existing => put existing value
  | .name name :: rest, existing =>
      (existing.getD emptyTable).changeName name fun inner => putAt value rest inner
  | [.item index], existing => (existing.getD emptyTable).changeItem index fun _ => value
  | .item index :: rest, existing =>
      (existing.getD emptyTable).changeItem index fun inner => putAt value rest (some inner)

/-- A table after a value has been put where a path leads. -/
def putPath (root : Entry) (path : KeyPath) (value : Entry) : Entry :=
  root.changeName path.root fun existing => putAt value path.steps existing

/-- A table after a source has been put into it.  The keys of a source are paths. -/
def putSource (root : Entry) (source : Entries) : Entry :=
  source.foldl (fun root (key, value) => root.putPath (.ofKey key) value) root

end Entry

end CloudSpeech.Settings
