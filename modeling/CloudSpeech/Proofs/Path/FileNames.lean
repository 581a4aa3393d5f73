import CloudSpeech.Path

/-!
# Names of files in a directory

The name of a file is the last part of its path, whatever directory it is looked for in. So its
extension is that of the name, and appending to the name is appending to the path.
-/

namespace CloudSpeech

namespace Text

variable {isMark : Char → Bool}

theorem split_of_forall_not_isMark {text : List Char} (h : ∀ c ∈ text, isMark c = false) :
    split isMark text = [text] := by
  induction text with
  | nil => rfl
  | cons c rest ih =>
      have hrest := ih fun d hd => h d (List.mem_cons_of_mem c hd)
      rw [split, if_neg (by simp [h c List.mem_cons_self]), hrest]

/-- A text is cut at a mark into the parts of what stands on its two sides. -/
theorem split_append_mark {mark : Char} (hmark : isMark mark = true) (front back : List Char) :
    split isMark (front ++ mark :: back) = split isMark front ++ split isMark back := by
  induction front with
  | nil => simp [split, hmark]
  | cons c front ih =>
      rw [List.cons_append, split, split, ih]
      cases isMark c with
      | true => rfl
      | false =>
          obtain ⟨first, others, hfront⟩ := List.exists_cons_of_ne_nil (split_ne_nil isMark front)
          rw [hfront]
          rfl

end Text

namespace Path

/-- A text that names a file in a directory. -/
structure IsFileName (name : String) : Prop where
  noSlash : '/' ∉ name.toList
  isComponent : component? name.toList = some (.normal name)
  noFinalDot : name.toList.getLast? ≠ some '.'

instance (name : String) : Decidable (IsFileName name) :=
  decidable_of_iff ('/' ∉ name.toList ∧ component? name.toList = some (.normal name) ∧
      name.toList.getLast? ≠ some '.')
    ⟨fun ⟨hslash, hcomponent, hdot⟩ => ⟨hslash, hcomponent, hdot⟩,
      fun h => ⟨h.noSlash, h.isComponent, h.noFinalDot⟩⟩

variable {name : String}

theorem IsFileName.toList_ne_nil (hname : IsFileName name) : name.toList ≠ [] := by
  intro hnil
  have hcomponent := hname.isComponent
  rw [hnil] at hcomponent
  cases hcomponent

theorem IsFileName.isAbsolute_append (hname : IsFileName name) (rest : String) :
    isAbsolute (name ++ rest) = false := by
  obtain ⟨c, chars, hchars⟩ := List.exists_cons_of_ne_nil hname.toList_ne_nil
  have hslash : c ≠ '/' := by
    rintro rfl
    exact hname.noSlash (hchars ▸ List.mem_cons_self)
  simp [isAbsolute, hchars, hslash]

theorem join_append (directory : String) (hname : IsFileName name) (rest : String) :
    join directory (name ++ rest) = join directory name ++ rest := by
  have hrelative := hname.isAbsolute_append rest
  have hrelative' := hname.isAbsolute_append ""
  rw [String.append_empty] at hrelative'
  rw [join, join, hrelative, hrelative']
  simp only [Bool.false_eq_true, if_false]
  split <;> simp only [String.append_assoc]

/-- In a path the name of a file is preceded by nothing or by a slash. -/
theorem toList_join (directory : String) (hname : IsFileName name) :
    (join directory name).toList = name.toList ∨
      ∃ front, (join directory name).toList = front ++ '/' :: name.toList := by
  have hrelative := hname.isAbsolute_append ""
  rw [String.append_empty] at hrelative
  rw [join, hrelative]
  simp only [Bool.false_eq_true, if_false]
  split
  · next hends =>
      rcases hends with rfl | hslash
      · exact .inl (by simp)
      · obtain ⟨front, hfront⟩ := List.getLast?_eq_some_iff.mp hslash
        exact .inr ⟨front, by simp [hfront]⟩
  · exact .inr ⟨directory.toList, by simp⟩

theorem fileName?_join (directory : String) (hname : IsFileName name) :
    fileName? (join directory name) = some name := by
  have hsplit : Text.split (· = '/') name.toList = [name.toList] :=
    Text.split_of_forall_not_isMark fun c hc =>
      decide_eq_false fun hslash => hname.noSlash (hslash ▸ hc)
  -- However the path begins, its last piece is the name.
  obtain ⟨before, hpieces⟩ : ∃ before,
      Text.split (· = '/') (join directory name).toList = before ++ [name.toList] := by
    rcases toList_join directory hname with halone | ⟨front, hfront⟩
    · exact ⟨[], by rw [halone, hsplit, List.nil_append]⟩
    · exact ⟨_, by rw [hfront, Text.split_append_mark (by simp), hsplit]⟩
  obtain ⟨front, hcomponents⟩ : ∃ front,
      components (join directory name) = front ++ [.normal name] := by
    simp only [components, hpieces, List.filterMap_append, List.filterMap_cons,
      List.filterMap_nil, hname.isComponent]
    split
    · exact ⟨.root :: before.filterMap component?, rfl⟩
    · split
      · exact ⟨.current :: before.filterMap component?, rfl⟩
      · exact ⟨before.filterMap component?, rfl⟩
  rw [fileName?, hcomponents, List.getLast?_concat]

theorem extension?_join (directory : String) (hname : IsFileName name) :
    extension? (join directory name) = extensionOf? name := by
  rw [extension?, fileName?_join directory hname, Option.bind_some]

theorem append?_join (directory : String) (hname : IsFileName name) (addition : String) :
    append? (join directory name) addition = some (join directory (name ++ "." ++ addition)) := by
  -- Nothing at the end of the path is dropped, since its last character is neither a slash nor a dot.
  have hkept : dropTail (join directory name).toList.reverse =
      (join directory name).toList.reverse := by
    obtain ⟨chars, c, hchars⟩ :=
      (List.eq_nil_or_concat name.toList).resolve_left hname.toList_ne_nil
    have hslash : c ≠ '/' := by
      rintro rfl
      exact hname.noSlash (by simp [hchars])
    have hdot : c ≠ '.' := by
      rintro rfl
      exact hname.noFinalDot (by simp [hchars])
    obtain ⟨rest, hreverse⟩ : ∃ rest, (join directory name).toList.reverse = c :: rest := by
      rcases toList_join directory hname with halone | ⟨front, hfront⟩
      · exact ⟨chars.reverse, by simp [halone, hchars]⟩
      · exact ⟨chars.reverse ++ '/' :: front.reverse, by simp [hfront, hchars]⟩
    rw [hreverse, dropTail.eq_def]
    split
    · next heq => exact absurd (List.cons.inj heq).1 hslash
    · next heq => exact absurd (List.cons.inj heq).1 hdot
    · rfl
  rw [append?, withoutTail?, fileName?_join directory hname, Option.map_some, Option.map_some,
    hkept, List.reverse_reverse, String.ofList_toList, String.append_assoc, String.append_assoc,
    join_append directory hname]

end Path

end CloudSpeech
