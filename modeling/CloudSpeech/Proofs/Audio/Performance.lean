import CloudSpeech.Proofs.Audio.Feeding

/-!
# Playing a sound on a device

A device is asked to do three things at most: to open a stream, to start it, and to take the
batches it requests. What the player does to it and whether the sound counts as played follow
from the requests of the stream, which are none if the device fails before. The player never
gives anything but the sound and then silence, and it reports success exactly if the stream
makes requests that reach the last sample.
-/

namespace CloudSpeech.Audio

/-- The requests that a device makes, which are none if no stream on it runs. -/
def Device.asked (device : Device) : List Request :=
  match device.openFault, device.startFault with
  | none, none => requestsOf device.events
  | _, _ => []

/-- A device takes a sound up to its last sample. -/
def Device.Hears (device : Device) (audio : Octets) : Prop :=
  device.asked ≠ [] ∧ (Sample.decode audio).length ≤ totalSize device.asked

instance (device : Device) (audio : Octets) : Decidable (device.Hears audio) :=
  inferInstanceAs (Decidable (_ ∧ _))

theorem Format.bitsPerSample_speech : Format.speech.bitsPerSample = 16 := rfl

theorem Feed.isSome_findSome?_drain (format : Format) (samples : List Sample)
    (requests : List Request) :
    (((start samples).replies format requests).findSome? (·.drain)).isSome = true ↔
      requests ≠ [] ∧ samples.length ≤ totalSize requests := by
  have htold := told_add_untold format (start samples) requests
  have hone : (start samples).untold.toNat = 1 := rfl
  rw [hone, after_start] at htold
  rw [← List.head?_filterMap, List.isSome_head?, ← List.length_pos_iff, ← Nat.not_lt, ← not_or]
  by_cases hrest : requests = [] ∨ totalSize requests < samples.length
  · rw [decide_eq_true hrest, Bool.toNat_true] at htold
    exact iff_of_false (by omega) (not_not.mpr hrest)
  · rw [decide_eq_false hrest, Bool.toNat_false] at htold
    exact iff_of_true (by omega) hrest

namespace Player

variable (player : Player) {format : Format} (audio : Octets)

theorem finish_use (format : Format) (size : Nat) (replies : List Reply) :
    (player.finish format size replies).value.use =
      { opened := some format, started := true, closed := true,
        batches := replies.map (·.batch) } := by
  rw [finish]
  cases replies.findSome? (·.drain) <;> rfl

theorem play_none (hwidth : format.bitsPerSample = 16) :
    (player.play none format audio).value = ⟨.error .noOutputDevice, {}, none⟩ := by
  rw [play, if_neg (not_not.mpr hwidth)]
  rfl

theorem play_some (hwidth : format.bitsPerSample = 16) (device : Device) :
    (player.play (some device) format audio).value =
      match device.openFault, device.startFault with
      | some fault, _ => ⟨.error (.streamBuild fault.message), { opened := some format }, none⟩
      | none, some fault =>
          ⟨.error (.streamPlay fault.startMessage), { opened := some format, closed := true },
            none⟩
      | none, none =>
          (player.finish format audio.length
            ((Feed.start (Sample.decode audio)).replies format device.asked)).value := by
  rw [play, if_neg (not_not.mpr hwidth), Device.asked]
  cases hopen : device.openFault with
  | some fault => simp only [Logged.value_bind, Logged.value_pure]
  | none =>
      cases hstart : device.startFault with
      | some fault => simp only [Logged.value_bind, Logged.value_pure]
      | none => simp only [Logged.value_bind, value_runStream]

end Player

end CloudSpeech.Audio
