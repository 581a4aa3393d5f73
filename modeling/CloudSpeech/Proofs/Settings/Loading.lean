import CloudSpeech.Proofs.Success
import CloudSpeech.Settings.Load
import Mathlib.Tactic.SplitIfs

/-!
# When settings are loaded

Settings are loaded if the files are read, each field has a value, and the settings make sense.
A field of the merged layers has the value that its entry is converted to.
-/

namespace CloudSpeech.Settings

/-- Settings that make sense: both services have an address and are given time, and a format is
asked for. -/
structure Valid (settings : Settings) : Prop where
  tokenUrl : settings.token.url ≠ ""
  synthesisUrl : settings.synthesis.url ≠ ""
  tokenTimeout : settings.token.timeoutSecs ≠ 0
  synthesisTimeout : settings.synthesis.timeoutSecs ≠ 0
  outputFormat : settings.synthesis.outputFormat ≠ ""

variable {settings : Settings}

theorem invalid?_eq_none_iff : settings.invalid? = none ↔ settings.Valid := by
  rw [invalid?]
  constructor
  · intro hnone
    split_ifs at hnone with htoken hsynthesis htimeout hformat
    obtain ⟨htokenTimeout, hsynthesisTimeout⟩ := not_or.mp htimeout
    exact ⟨htoken, hsynthesis, htokenTimeout, hsynthesisTimeout, hformat⟩
  · rintro ⟨htoken, hsynthesis, htokenTimeout, hsynthesisTimeout, hformat⟩
    rw [if_neg htoken, if_neg hsynthesis, if_neg (not_or.mpr ⟨htokenTimeout, hsynthesisTimeout⟩),
      if_neg hformat]

theorem ofFieldsM_eq_ok_iff {ε : Type} {value : (field : Field) → Except ε field.kind.Value} :
    ofFieldsM value = .ok settings ↔ ∀ field, value field = .ok (settings.get field) := by
  constructor
  · intro hall
    simp only [ofFieldsM, bind_eq_ok_iff] at hall
    obtain ⟨_, h1, _, h2, _, h3, _, h4, _, h5, _, h6, _, h7, _, h8, _, h9, _, h10, _, h11, _, h12,
      _, h13, hsame⟩ := hall
    cases hsame
    intro field
    cases field <;> assumption
  · intro hall
    simp only [ofFieldsM, hall]
    rfl

theorem ofLayers_eq_ok_iff {layers : List Entries} :
    ofLayers layers = .ok settings ↔
      (∀ field, fieldValue (mergeLayers layers).entries field = .ok (settings.get field)) ∧
        settings.Valid := by
  simp only [ofLayers, bind_eq_ok_iff, mapError_eq_ok_iff, ofEntries, ofFieldsM_eq_ok_iff,
    ← invalid?_eq_none_iff]
  constructor
  · rintro ⟨found, hfields, hvalid⟩
    cases hinvalid : found.invalid? with
    | some reason => simp [hinvalid] at hvalid
    | none =>
        simp only [hinvalid] at hvalid
        cases hvalid
        exact ⟨hfields, hinvalid⟩
  · rintro ⟨hfields, hvalid⟩
    exact ⟨settings, hfields, by simp only [hvalid]; rfl⟩

theorem load_eq_ok_iff {directory : Directory} {environment : List (String × String)}
    {path : Option String} :
    load directory environment path = .ok settings ↔
      ∃ files, fileLayers directory path = .ok files ∧
        ofLayers (defaultEntries :: files ++ [Environment.entries environment]) =
          .ok settings := by
  rw [load, loadOver, bind_eq_ok_iff]

theorem valid_of_load {directory : Directory} {environment : List (String × String)}
    {path : Option String} (h : load directory environment path = .ok settings) :
    settings.Valid := by
  obtain ⟨files, -, hlayers⟩ := load_eq_ok_iff.mp h
  exact (ofLayers_eq_ok_iff.mp hlayers).2

end CloudSpeech.Settings
