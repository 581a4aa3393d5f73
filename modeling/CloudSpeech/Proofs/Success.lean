/-!
# Success and failure

When computations that may fail succeed: with the causes of their failures replaced, as an
option, and one after the other.
-/

namespace CloudSpeech

variable {ε ε' α β : Type}

instance decidableEqExcept [DecidableEq ε] [DecidableEq α] : DecidableEq (Except ε α)
  | .error error, .error other =>
      decidable_of_iff (error = other) ⟨congrArg Except.error, Except.error.inj⟩
  | .ok value, .ok other => decidable_of_iff (value = other) ⟨congrArg Except.ok, Except.ok.inj⟩
  | .error _, .ok _ => .isFalse (by simp)
  | .ok _, .error _ => .isFalse (by simp)

@[simp] theorem mapError_ok (f : ε → ε') (value : α) :
    (Except.ok value : Except ε α).mapError f = .ok value := rfl

@[simp] theorem mapError_error (f : ε → ε') (error : ε) :
    (Except.error error : Except ε α).mapError f = .error (f error) := rfl

theorem mapError_eq_ok_iff (f : ε → ε') {outcome : Except ε α} {value : α} :
    outcome.mapError f = .ok value ↔ outcome = .ok value := by
  cases outcome <;> simp

theorem map_mapError (f : ε → ε') (g : α → β) (outcome : Except ε α) :
    (outcome.mapError f).map g = (outcome.map g).mapError f := by
  cases outcome <;> rfl

theorem mapError_mapError {ε'' : Type} (f : ε → ε') (g : ε' → ε'') (outcome : Except ε α) :
    (outcome.mapError f).mapError g = outcome.mapError (g ∘ f) := by
  cases outcome <;> rfl

theorem map_eq_ok_iff {f : α → β} {outcome : Except ε α} {value : β} :
    outcome.map f = .ok value ↔ ∃ found, outcome = .ok found ∧ f found = value := by
  cases outcome <;> simp [Except.map]

theorem map_eq_error_iff {f : α → β} {outcome : Except ε α} {error : ε} :
    outcome.map f = .error error ↔ outcome = .error error := by
  cases outcome <;> simp [Except.map]

theorem toOption_eq_some_iff {outcome : Except ε α} {value : α} :
    outcome.toOption = some value ↔ outcome = .ok value := by
  cases outcome <;> simp [Except.toOption]

theorem toOption_eq_none_iff {outcome : Except ε α} :
    outcome.toOption = none ↔ ∃ error, outcome = .error error := by
  cases outcome <;> simp [Except.toOption]

theorem forall_eq_ok_iff {outcome : Except ε α} {p : α → Prop} :
    (∀ value, outcome = .ok value → p value) ↔ ∀ value ∈ outcome.toOption, p value := by
  simp only [Option.mem_def, toOption_eq_some_iff]

theorem bind_ok (value : α) (next : α → Except ε β) : Except.ok value >>= next = next value := rfl

theorem bind_error (error : ε) (next : α → Except ε β) :
    Except.error error >>= next = .error error := rfl

theorem bind_eq_ok_iff {first : Except ε α} {next : α → Except ε β} {value : β} :
    first >>= next = .ok value ↔ ∃ found, first = .ok found ∧ next found = .ok value := by
  cases first with
  | error error => exact iff_of_false nofun (by simp)
  | ok found =>
      simp only [Except.ok.injEq, exists_eq_left']
      rfl

theorem mapError_bind (f : ε → ε') (first : Except ε α) (next : α → Except ε β) :
    (first >>= next).mapError f = first.mapError f >>= fun value => (next value).mapError f := by
  cases first <;> rfl

/-! ## One for each item of a list -/

variable {f g : α → Except ε β} {items : List α}

theorem mapM_cons_eq_ok_iff {item : α} {values : List β} :
    (item :: items).mapM f = .ok values ↔
      ∃ value rest, f item = .ok value ∧ items.mapM f = .ok rest ∧ values = value :: rest := by
  rw [List.mapM_cons, bind_eq_ok_iff]
  simp only [bind_eq_ok_iff]
  constructor
  · rintro ⟨value, hvalue, rest, hrest, ⟨⟩⟩
    exact ⟨value, rest, hvalue, hrest, rfl⟩
  · rintro ⟨value, rest, hvalue, hrest, rfl⟩
    exact ⟨value, hvalue, rest, hrest, rfl⟩

theorem mapM_eq_ok_congr {values : List β} (h : items.mapM f = .ok values)
    (hsame : ∀ item ∈ items, g item = f item) : items.mapM g = .ok values := by
  induction items generalizing values with
  | nil => exact h
  | cons item items ih =>
      obtain ⟨value, rest, hvalue, hrest, rfl⟩ := mapM_cons_eq_ok_iff.mp h
      refine mapM_cons_eq_ok_iff.mpr
        ⟨value, rest, ?_, ih hrest fun other hother => hsame other (.tail _ hother), rfl⟩
      rw [hsame item (.head _), hvalue]

theorem exists_of_mem_mapM {values : List β} (h : items.mapM f = .ok values) {value : β}
    (hvalue : value ∈ values) : ∃ item ∈ items, f item = .ok value := by
  induction items generalizing values with
  | nil =>
      cases h
      cases hvalue
  | cons item items ih =>
      obtain ⟨first, rest, hfirst, hrest, rfl⟩ := mapM_cons_eq_ok_iff.mp h
      rcases List.mem_cons.mp hvalue with rfl | hmem
      · exact ⟨item, .head _, hfirst⟩
      · obtain ⟨other, hother, hread⟩ := ih hrest hmem
        exact ⟨other, .tail _ hother, hread⟩

end CloudSpeech
