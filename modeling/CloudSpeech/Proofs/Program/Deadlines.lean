import CloudSpeech.Program.World
import CloudSpeech.Proofs.Audio.Durations
import CloudSpeech.Proofs.Audio.Outcome
import CloudSpeech.Proofs.Settings.Overriding

/-!
# The deadline that settings make

The player waits for the length of a sound and the grace that the settings grant. The two are added
in sixty-four bits, and nothing keeps the grace below what fits: every number that a variable gives
is loaded. A sum that does not fit comes out shorter than the sound itself, so a sound is given up
before it could have been played.
-/

namespace CloudSpeech.Program

open Audio (Format Player TakeAll requestsOf)

/-- The length of a sound of so many octets in milliseconds. -/
def lengthMs (size : Nat) : Nat := (Format.speech.durationMs size).toNat

/-- How many milliseconds a sound of so many octets is waited for. -/
def deadlineMs (settings : Settings) (size : Nat) : Nat :=
  ((player settings).deadlineMs .speech size).toNat

variable {settings : Settings} {size : Nat}

theorem deadlineMs_add_carry (settings : Settings) (size : Nat) :
    deadlineMs settings size +
        (if UInt64.size ≤ lengthMs size + settings.playback.graceMs.toNat then UInt64.size else 0) =
      lengthMs size + settings.playback.graceMs.toNat := by
  have hlength : lengthMs size < UInt64.size := UInt64.toNat_lt_size _
  have hgrace := settings.playback.graceMs.toNat_lt_size
  have hsum : deadlineMs settings size =
      (lengthMs size + settings.playback.graceMs.toNat) % UInt64.size :=
    UInt64.toNat_add _ _
  rw [hsum]
  -- Two words add up to less than two words' worth, so at most one carry is lost.
  split
  · next hcarry =>
    rw [Nat.mod_eq_sub_mod hcarry, Nat.mod_eq_of_lt (by omega)]
    omega
  · next hfits => rw [Nat.mod_eq_of_lt (Nat.lt_of_not_le hfits), Nat.add_zero]

theorem deadlineMs_eq_iff :
    deadlineMs settings size = lengthMs size + settings.playback.graceMs.toNat ↔
      lengthMs size + settings.playback.graceMs.toNat < UInt64.size := by
  have hcarry := deadlineMs_add_carry settings size
  have hpos : 0 < UInt64.size := by decide
  split at hcarry <;> omega

/-- A deadline that does not fit is short of the sound. -/
theorem deadlineMs_lt_of_le
    (hlong : UInt64.size ≤ lengthMs size + settings.playback.graceMs.toNat) :
    deadlineMs settings size + UInt64.size = lengthMs size + settings.playback.graceMs.toNat ∧
      deadlineMs settings size < lengthMs size := by
  have hcarry := deadlineMs_add_carry settings size
  have hgrace := settings.playback.graceMs.toNat_lt_size
  rw [if_pos hlong] at hcarry
  exact ⟨hcarry, by omega⟩

theorem lengthMs_add_lt (hsize : size * 1000 < UInt64.size) {grace : Nat}
    (hgrace : grace < Decimal.signedBound) : lengthMs size + grace < UInt64.size := by
  rw [lengthMs, Format.toNat_durationMs_speech hsize]
  simp only [Decimal.signedBound, UInt64.size] at hsize hgrace ⊢
  omega

/-- A running stream that does not take the whole sound is given up at the deadline. -/
theorem play_eq_timeout (settings : Settings) {present : Audio.Device} {audio : Octets}
    (hopen : present.openFault = none) (hstart : present.startFault = none)
    (htaken : ¬ TakeAll (requestsOf present.events) audio.length) :
    ((player settings).play (some present) .speech audio).value.result =
      .error (.timeout (deadlineMs settings audio.length)) := by
  have hasked : present.asked = requestsOf present.events := by
    rw [Audio.Device.asked, hopen, hstart]
  have htold := Audio.Feed.isSome_findSome?_drain .speech (Audio.Sample.decode audio)
    (requestsOf present.events)
  rw [Audio.Sample.length_decode, ← TakeAll] at htold
  rw [Player.play_some _ audio Format.bitsPerSample_speech, hopen, hstart]
  dsimp only
  rw [Player.finish_result, hasked, if_neg (mt htold.mp htaken)]
  rfl

/-- How long a sound of so many octets is waited for. -/
structure Waits (settings : Settings) (size : Nat) : Prop where
  fits_iff : deadlineMs settings size = lengthMs size + settings.playback.graceMs.toNat ↔
    lengthMs size + settings.playback.graceMs.toNat < UInt64.size
  fits : settings.playback.graceMs.toNat < Decimal.signedBound →
    lengthMs size + settings.playback.graceMs.toNat < UInt64.size
  short : UInt64.size ≤ lengthMs size + settings.playback.graceMs.toNat →
    deadlineMs settings size + UInt64.size = lengthMs size + settings.playback.graceMs.toNat ∧
      deadlineMs settings size < lengthMs size
  timeout : ∀ (present : Audio.Device) (audio : Octets), audio.length = size →
    present.openFault = none → present.startFault = none →
    ¬ TakeAll (requestsOf present.events) size →
    ((player settings).play (some present) .speech audio).value.result =
      .error (.timeout (deadlineMs settings size))

theorem waits (settings : Settings) (hsize : size * 1000 < UInt64.size) :
    Waits settings size where
  fits_iff := deadlineMs_eq_iff
  fits := lengthMs_add_lt hsize
  short := deadlineMs_lt_of_le
  timeout := by
    rintro present audio rfl hopen hstart htaken
    exact play_eq_timeout settings hopen hstart htaken

/-- The deadline of a sound is its length and the grace of the settings where the two fit in
sixty-four bits. Otherwise it is short of the sound, which is then given up too early. Settings that
are loaded are also loaded with any grace that another variable gives. -/
theorem deadline_of_settings {directory : Settings.Directory}
    {environment : List (String × String)} {path : Option String} {settings : Settings}
    (hload : Settings.load directory environment path = .ok settings) {size : Nat}
    (hsize : size * 1000 < UInt64.size) :
    Waits settings size ∧
    ∀ (before after : List (String × String)) (name content : String) (grace : UInt64),
      environment = before ++ after →
      Settings.Environment.key? name = some Settings.Field.graceMs.path →
      (∀ entry ∈ Settings.Environment.entries after,
        ¬ (Settings.KeyPath.ofKey entry.1).Reaches .graceMs) →
      (Settings.Entry.scalar (some Settings.Environment.origin)
        (Settings.Environment.scalar content)).toWhole = .ok grace →
      ∃ loaded : Settings,
        Settings.load directory (before ++ (name, content) :: after) path = .ok loaded ∧
        loaded.playback.graceMs = grace ∧
        (∀ other ≠ Settings.Field.graceMs, loaded.get other = settings.get other ∨
          other.sectionOf = .playback ∧ loaded.get other = other.default) ∧
        Waits loaded size := by
  refine ⟨waits settings hsize, ?_⟩
  rintro before after name content grace rfl hname hafter hgrace
  -- No grace is refused, so whatever the variable gives is loaded.
  obtain ⟨loaded, hloaded, hfield, hothers⟩ :=
    Settings.load_with_variable hname hafter hgrace trivial hload
  exact ⟨loaded, hloaded, hfield, hothers, waits loaded hsize⟩

/-- An endless grace is loaded as the longest one, and a sound of a second is given up within the
second. -/
theorem deadline_with_endless_grace :
    let directory := Settings.Folder.toDirectory ⟨"/work", []⟩
    let present : Audio.Device := { events := [] }
    let audio : Octets := List.replicate 32000 0
    audio.length * 1000 < UInt64.size ∧
      Settings.Environment.key? "bing_tts_playback__grace_ms" =
        some Settings.Field.graceMs.path ∧
      (∀ entry ∈ Settings.Environment.entries [],
        ¬ (Settings.KeyPath.ofKey entry.1).Reaches .graceMs) ∧
      (Settings.Entry.scalar (some Settings.Environment.origin)
        (Settings.Environment.scalar "inf")).toWhole = .ok (.ofNat (UInt64.size - 1)) ∧
      Settings.load directory [] none = .ok {} ∧
      present.openFault = none ∧ present.startFault = none ∧
      ¬ TakeAll (requestsOf present.events) audio.length ∧
      ∃ loaded : Settings,
        Settings.load directory [("bing_tts_playback__grace_ms", "inf")] none = .ok loaded ∧
        ((player loaded).play (some present) .speech audio).value.result =
          .error (.timeout 999) := by
  intro directory present audio
  have hsize : audio.length * 1000 < UInt64.size := by
    rw [List.length_replicate]
    decide
  have hname : Settings.Environment.key? "bing_tts_playback__grace_ms" =
      some Settings.Field.graceMs.path := by decide +kernel
  have hafter : ∀ entry ∈ Settings.Environment.entries [],
      ¬ (Settings.KeyPath.ofKey entry.1).Reaches .graceMs := nofun
  have hgrace : (Settings.Entry.scalar (some Settings.Environment.origin)
      (Settings.Environment.scalar "inf")).toWhole = .ok (.ofNat (UInt64.size - 1)) :=
    toOption_eq_some_iff.mp (by decide +kernel)
  have hload : Settings.load directory [] none = .ok {} :=
    toOption_eq_some_iff.mp (by decide +kernel)
  have htaken : ¬ TakeAll (requestsOf present.events) audio.length := fun htaken => htaken.1 rfl
  obtain ⟨-, hgraces⟩ := deadline_of_settings hload hsize
  obtain ⟨loaded, hloaded, hlongest, -, hwaits⟩ := hgraces [] [] _ _ _ rfl hname hafter hgrace
  have hlength : lengthMs audio.length = 1000 := by
    rw [List.length_replicate]
    decide +kernel
  have hvalue : loaded.playback.graceMs.toNat = UInt64.size - 1 := by
    rw [hlongest]
    rfl
  have hwrapped : deadlineMs loaded audio.length = 999 := by
    obtain ⟨hsum, -⟩ := hwaits.short (by rw [hlength, hvalue]; decide)
    rw [hlength, hvalue, UInt64.size] at hsum
    omega
  refine ⟨hsize, hname, hafter, hgrace, hload, rfl, rfl, htaken, loaded, hloaded, ?_⟩
  rw [hwaits.timeout present audio rfl rfl rfl htaken, hwrapped]

/-- With the longest grace a sound of one octet has no time at all. -/
theorem deadline_of_longest_grace :
    let settings : Settings := { playback := { graceMs := .ofNat (UInt64.size - 1) } }
    Settings.load (Settings.Folder.toDirectory ⟨"/work", []⟩)
        [("BING_TTS_PLAYBACK__GRACE_MS", "18446744073709551615")] none = .ok settings ∧
      1 * 1000 < UInt64.size ∧
      ¬ lengthMs 1 + settings.playback.graceMs.toNat < UInt64.size ∧
      deadlineMs settings 1 = 0 := by
  intro settings
  have hload : Settings.load (Settings.Folder.toDirectory ⟨"/work", []⟩)
      [("BING_TTS_PLAYBACK__GRACE_MS", "18446744073709551615")] none = .ok settings :=
    toOption_eq_some_iff.mp (by decide +kernel)
  exact ⟨hload, by decide, by decide +kernel, by decide +kernel⟩

end CloudSpeech.Program
