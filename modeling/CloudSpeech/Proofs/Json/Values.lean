import CloudSpeech.Proofs.Decimal.Numerals
import CloudSpeech.Proofs.Json.Reading

/-!
# The values of numbers and objects

A run of digits denotes a natural number, as long as it has sixty-four bits. No other number does:
a sign, a point, an exponent or more bits make it negative, rounded or a flaw. A further member of
an object, under a key of its own, is a further member of its value.
-/

namespace CloudSpeech.Json.NumberText

theorem accumulate_of_lt {value : Nat} {digits : List Char}
    (h : Nat.ofDigitChars 10 digits value < UInt64.size) :
    accumulate value digits = (Nat.ofDigitChars 10 digits value, []) := by
  induction digits generalizing value with
  | nil => rfl
  | cons c rest ih =>
      rw [Nat.ofDigitChars_cons] at h ⊢
      have hnext := Nat.lt_of_le_of_lt (Decimal.le_ofDigitChars rest _) h
      rw [accumulate, if_pos hnext, ih h]

theorem lt_of_accumulate {value : Nat} {digits : List Char} (hvalue : value < UInt64.size)
    (h : (accumulate value digits).2 = []) : Nat.ofDigitChars 10 digits value < UInt64.size := by
  induction digits generalizing value with
  | nil => exact hvalue
  | cons c rest ih =>
      rw [Nat.ofDigitChars_cons]
      rw [accumulate] at h
      split at h
      · next hnext => exact ih hnext h
      · cases h

/-- A run of digits denotes its number as long as the number has sixty-four bits. -/
theorem value_of_digits {digits : List Char} (h : Nat.ofDigitChars 10 digits 0 < UInt64.size) :
    value { negative := false, whole := digits } =
      .ok (.natural (Nat.ofDigitChars 10 digits 0)) := by
  simp [value, accumulate_of_lt h, accumulate]

theorem ofParts_ne_natural (negative : Bool) (significand : Nat) (exponent : Int) (n : Nat) :
    ofParts negative significand exponent ≠ .ok (.natural n) := by
  rw [ofParts]
  split <;> nofun

/-- Only a run of digits denotes a natural number. -/
theorem of_value_eq_natural {number : NumberText} {n : Nat} (h : number.value = .ok (.natural n)) :
    number.negative = false ∧ number.pointed = false ∧ number.exponent = none ∧
      Nat.ofDigitChars 10 number.whole 0 < UInt64.size := by
  simp only [value] at h
  split at h
  · -- An exponent makes the number a rounded one.
    split at h
    · exact absurd h (ofParts_ne_natural _ _ _ n)
    · split at h <;> cases h
  · next hexponent =>
      split at h
      · exact absurd h (ofParts_ne_natural _ _ _ n)
      · next hplain =>
          rw [not_or, not_not, Bool.not_eq_true] at hplain
          have hlt := lt_of_accumulate (by decide : 0 < UInt64.size) hplain.2
          split at h
          · next hsign => exact ⟨by simpa using hsign, hplain.1, hexponent, hlt⟩
          · split at h <;> cases h

end CloudSpeech.Json.NumberText

namespace CloudSpeech.Json

namespace Tree

theorem members?_append (depth : Nat) (first last : List (Except Flaw String × Tree)) :
    members? depth (first ++ last) =
      (members? depth first).bind fun found => (members? depth last).map (found ++ ·) := by
  induction first with
  | nil => simp [members?]
  | cons member rest ih =>
      obtain ⟨key, tree⟩ := member
      cases hkey : key.toOption with
      | none => simp [members?, hkey]
      | some key =>
          cases hvalue : value? depth tree with
          | none => simp [members?, hkey, hvalue]
          | some value =>
              simp only [List.cons_append, members?, hkey, hvalue, ih, Option.bind_eq_bind,
                Option.bind_some, Option.pure_def, Option.bind_assoc]
              cases members? depth rest with
              | none => rfl
              | some found => cases members? depth last <;> rfl

theorem lastOfEach_cons (member : String × Value) (rest : List (String × Value)) :
    lastOfEach (member :: rest) =
      if member.1 ∈ (lastOfEach rest).map Prod.fst then lastOfEach rest
      else member :: lastOfEach rest := by
  have hany : ((lastOfEach rest).any fun other => other.1 = member.1) = true ↔
      member.1 ∈ (lastOfEach rest).map Prod.fst := by
    simp
  exact if_congr hany rfl rfl

/-- All keys are kept, and no others are there. -/
theorem mem_lastOfEach {key : String} {members : List (String × Value)} :
    key ∈ (lastOfEach members).map Prod.fst ↔ key ∈ members.map Prod.fst := by
  induction members with
  | nil => rfl
  | cons member rest ih =>
      rw [lastOfEach_cons, List.map_cons, List.mem_cons, ← ih]
      split
      · next hmem => exact ⟨.inr, fun h => h.elim (fun heq => heq ▸ hmem) id⟩
      · rw [List.map_cons, List.mem_cons]

/-- A member under a key that no later one has is kept in its place. If no earlier one has it
either, the others are the same without the member. -/
theorem exists_lastOfEach_append (first : List (String × Value)) {key : String}
    {last : List (String × Value)} (hlast : key ∉ last.map Prod.fst) :
    ∃ kept,
      (∀ value, lastOfEach (first ++ (key, value) :: last) =
        kept ++ (key, value) :: lastOfEach last) ∧
      (key ∉ first.map Prod.fst → lastOfEach (first ++ last) = kept ++ lastOfEach last) := by
  induction first with
  | nil =>
      have hnone : key ∉ (lastOfEach last).map Prod.fst := fun h => hlast (mem_lastOfEach.mp h)
      refine ⟨[], fun value => ?_, fun _ => rfl⟩
      rw [List.nil_append, lastOfEach_cons, if_neg hnone]
      rfl
  | cons member rest ih =>
      obtain ⟨kept, hwith, hwithout⟩ := ih
      by_cases hmem : member.1 = key ∨ member.1 ∈ (kept ++ lastOfEach last).map Prod.fst
      · refine ⟨kept, fun value => ?_, fun hfirst => ?_⟩
        · rw [List.cons_append, lastOfEach_cons, hwith, if_pos]
          simpa [or_left_comm] using hmem
        · obtain ⟨hne, hrest⟩ := not_or.mp (mt List.mem_cons.mpr hfirst)
          rw [List.cons_append, lastOfEach_cons, hwithout hrest,
            if_pos (hmem.resolve_left (Ne.symm hne))]
      · refine ⟨member :: kept, fun value => ?_, fun hfirst => ?_⟩
        · rw [List.cons_append, lastOfEach_cons, hwith, if_neg, List.cons_append]
          simpa [or_left_comm] using hmem
        · obtain ⟨-, hrest⟩ := not_or.mp (mt List.mem_cons.mpr hfirst)
          rw [List.cons_append, lastOfEach_cons, hwithout hrest, if_neg (not_or.mp hmem).2,
            List.cons_append]

theorem map_fst_members? {depth : Nat} {members : List (String × Tree)}
    {values : List (String × Value)}
    (h : members? depth (members.map fun member => (.ok member.1, member.2)) = some values) :
    values.map Prod.fst = members.map Prod.fst := by
  induction members generalizing values with
  | nil =>
      cases h
      rfl
  | cons member rest ih =>
      obtain ⟨value, -, hrest⟩ := Option.bind_eq_some_iff.mp h
      obtain ⟨found, hfound, ⟨⟩⟩ := Option.bind_eq_some_iff.mp hrest
      rw [List.map_cons, List.map_cons, ih hfound]

theorem value?_objectOf (depth : Nat) (members : List (String × Tree)) :
    (objectOf members).value? (depth + 1) =
      (members? depth (members.map fun member => (.ok member.1, member.2))).map
        fun values => .object (lastOfEach values) := by
  simp [objectOf, value?]

/-- The value of an object has the keys of the object. -/
theorem exists_value?_objectOf_eq {depth : Nat} {members : List (String × Tree)} {value : Value}
    (h : (objectOf members).value? (depth + 1) = some value) :
    ∃ values, value = .object values ∧
      ∀ key, key ∈ values.map Prod.fst ↔ key ∈ members.map Prod.fst := by
  rw [value?_objectOf] at h
  obtain ⟨values, hvalues, rfl⟩ := Option.map_eq_some_iff.mp h
  refine ⟨lastOfEach values, rfl, fun key => ?_⟩
  rw [mem_lastOfEach, map_fst_members? hvalues]

/-- The values of the members around one member. -/
theorem members?_around {depth : Nat} {before after : List (String × Tree)}
    {key : String} {tree : Tree} {values : List (String × Value)} :
    members? depth ((before ++ (key, tree) :: after).map fun member => (.ok member.1, member.2)) =
        some values ↔
      ∃ first value last,
        members? depth (before.map fun member => (.ok member.1, member.2)) = some first ∧
        tree.value? depth = some value ∧
        members? depth (after.map fun member => (.ok member.1, member.2)) = some last ∧
        values = first ++ (key, value) :: last := by
  rw [List.map_append, members?_append, List.map_cons]
  constructor
  · intro h
    obtain ⟨first, hfirst, happend⟩ := Option.bind_eq_some_iff.mp h
    obtain ⟨_, hrest, rfl⟩ := Option.map_eq_some_iff.mp happend
    obtain ⟨value, hvalue, hmember⟩ := Option.bind_eq_some_iff.mp hrest
    obtain ⟨last, hlast, ⟨⟩⟩ := Option.bind_eq_some_iff.mp hmember
    exact ⟨first, value, last, hfirst, hvalue, hlast, rfl⟩
  · rintro ⟨first, value, last, hfirst, hvalue, hlast, rfl⟩
    rw [hfirst, members?, hvalue, hlast]
    rfl

/-- An object with one more member, under a key of its own. -/
theorem value?_insert {depth : Nat} {before after : List (String × Tree)} {key : String}
    {tree : Tree} {value : Value} {members : List (String × Value)}
    (hkey : key ∉ (before ++ after).map Prod.fst) (hvalue : tree.value? depth = some value)
    (h : (objectOf (before ++ after)).value? (depth + 1) = some (.object members)) :
    ∃ first last, members = first ++ last ∧
      (objectOf (before ++ (key, tree) :: after)).value? (depth + 1) =
        some (.object (first ++ (key, value) :: last)) := by
  rw [value?_objectOf] at h
  obtain ⟨values, hvalues, hmembers⟩ := Option.map_eq_some_iff.mp h
  cases hmembers
  have hkeys := map_fst_members? hvalues
  rw [List.map_append, members?_append] at hvalues
  obtain ⟨first, hfirst, happend⟩ := Option.bind_eq_some_iff.mp hvalues
  obtain ⟨last, hlast, rfl⟩ := Option.map_eq_some_iff.mp happend
  rw [← hkeys, List.map_append, List.mem_append, not_or] at hkey
  obtain ⟨kept, hwith, hwithout⟩ := exists_lastOfEach_append first hkey.2
  refine ⟨kept, lastOfEach last, hwithout hkey.1, ?_⟩
  rw [value?_objectOf, members?_around.mpr ⟨first, value, last, hfirst, hvalue, hlast, rfl⟩]
  exact congrArg (fun members => some (Value.object members)) (hwith value)

/-- An object with another value in the place of a member whose key no later one has. -/
theorem value?_replace {depth : Nat} {before after : List (String × Tree)} {key : String}
    {tree : Tree} {members : List (String × Value)} (hkey : key ∉ after.map Prod.fst)
    (h : (objectOf (before ++ (key, tree) :: after)).value? (depth + 1) =
      some (.object members)) :
    ∃ first value last, members = first ++ (key, value) :: last ∧
      tree.value? depth = some value ∧
      ∀ other otherValue, other.value? depth = some otherValue →
        (objectOf (before ++ (key, other) :: after)).value? (depth + 1) =
          some (.object (first ++ (key, otherValue) :: last)) := by
  rw [value?_objectOf] at h
  obtain ⟨values, hvalues, hmembers⟩ := Option.map_eq_some_iff.mp h
  cases hmembers
  obtain ⟨first, value, last, hfirst, hvalue, hlast, rfl⟩ := members?_around.mp hvalues
  rw [← map_fst_members? hlast] at hkey
  obtain ⟨kept, hkept, -⟩ := exists_lastOfEach_append first hkey
  refine ⟨kept, value, lastOfEach last, hkept value, hvalue, fun other otherValue hother => ?_⟩
  rw [value?_objectOf, members?_around.mpr ⟨first, otherValue, last, hfirst, hother, hlast, rfl⟩]
  exact congrArg (fun members => some (Value.object members)) (hkept otherValue)

end Tree

theorem Value.ofText?_eq {tree : Tree} {text : String} (h : IsText tree text) :
    ofText? text = tree.value? Tree.maxDepth := by
  rw [ofText?, Tree.ofText_eq h]
  rfl

end CloudSpeech.Json
