import CloudSpeech.Proofs.Audio.Durations
import CloudSpeech.Proofs.Audio.Holding

/-!
# What a length in milliseconds covers

The length of a sound is counted from its octets and rounded up, while its samples are counted in
pairs of octets, and one more for an octet left over. So the length covers a sound of whole samples,
and falls short of half a sample where an octet is left over. If a millisecond takes a whole number
of samples, it takes an even number of octets, and then rounding up makes good for that half.
-/

namespace CloudSpeech.Audio

namespace Format

variable {format : Format} {size : Nat}

/-! ## Octets a second -/

theorem mul_channels_lt (format : Format) :
    format.sampleRate.toNat * format.channels.toNat < 2 ^ 48 := by
  have hrate := format.sampleRate.toNat_lt
  have hchannels := format.channels.toNat_lt
  calc
    _ < 2 ^ 32 * 2 ^ 16 := Nat.mul_lt_mul'' hrate hchannels
    _ = 2 ^ 48 := by norm_num

theorem mul_octets_lt (format : Format) :
    format.sampleRate.toNat * format.channels.toNat * (format.bitsPerSample.toNat / 8) < 2 ^ 61 := by
  have hsamples := format.mul_channels_lt
  have hbits := format.bitsPerSample.toNat_lt
  have hoctets : format.bitsPerSample.toNat / 8 < 2 ^ 13 := by omega
  calc
    _ < 2 ^ 48 * 2 ^ 13 := Nat.mul_lt_mul'' hsamples hoctets
    _ = 2 ^ 61 := by norm_num

theorem toNat_bytesPerSecond (format : Format) :
    format.bytesPerSecond.toNat =
      format.sampleRate.toNat * format.channels.toNat * (format.bitsPerSample.toNat / 8) := by
  have hsamples : (format.sampleRate.toUInt64 * format.channels.toUInt64).toNat =
      format.sampleRate.toNat * format.channels.toNat := by
    rw [UInt64.toNat_mul, UInt32.toNat_toUInt64, UInt16.toNat_toUInt64]
    exact Nat.mod_eq_of_lt (format.mul_channels_lt.trans (by norm_num))
  have hoctets : (format.bitsPerSample.toUInt64 / 8).toNat = format.bitsPerSample.toNat / 8 := by
    rw [UInt64.toNat_div, UInt16.toNat_toUInt64]
    rfl
  rw [bytesPerSecond, UInt64.toNat_mul, hsamples, hoctets]
  exact Nat.mod_eq_of_lt (format.mul_octets_lt.trans (by norm_num))

/-! ## Rounding up -/

theorem toNat_bytesPerSecond_pos (hbytes : format.bytesPerSecond ≠ 0) :
    0 < format.bytesPerSecond.toNat := by
  apply Nat.pos_of_ne_zero
  intro hzero
  exact hbytes (UInt64.toNat_inj.mp hzero)

theorem toNat_durationMs_le_iff (hfits : size * 1000 < UInt64.size)
    (hbytes : format.bytesPerSecond ≠ 0) {millis : Nat} :
    (format.durationMs size).toNat ≤ millis ↔
      size * 1000 ≤ millis * format.bytesPerSecond.toNat := by
  have hpos := toNat_bytesPerSecond_pos hbytes
  rw [toNat_durationMs hfits hpos, Nat.div_le_iff_le_mul_add_pred hpos, Nat.mul_comm millis]
  exact Nat.add_le_add_iff_right

theorem durationMs_of_bytesPerSecond_eq_zero (hbytes : format.bytesPerSecond = 0) (size : Nat) :
    format.durationMs size = 0 := if_pos hbytes

theorem isLeast_durationMs (hfits : size * 1000 < UInt64.size)
    (hbytes : format.bytesPerSecond ≠ 0) :
    IsLeast {millis | 1000 * size ≤ millis * format.bytesPerSecond.toNat}
      (format.durationMs size).toNat := by
  constructor
  · have hcovered := (toNat_durationMs_le_iff hfits hbytes).mp le_rfl
    rwa [Nat.mul_comm] at hcovered
  · intro millis hmillis
    apply (toNat_durationMs_le_iff hfits hbytes).mpr
    rwa [Set.mem_ofPred_eq, Nat.mul_comm] at hmillis

theorem durationMs_mono {longer : Nat} (hfits : longer * 1000 < UInt64.size)
    (hle : size ≤ longer) : format.durationMs size ≤ format.durationMs longer := by
  by_cases hbytes : format.bytesPerSecond = 0
  · rw [durationMs_of_bytesPerSecond_eq_zero hbytes, durationMs_of_bytesPerSecond_eq_zero hbytes]
    exact UInt64.le_refl 0
  · have hthousandths : size * 1000 ≤ longer * 1000 := Nat.mul_le_mul_right 1000 hle
    rw [UInt64.le_iff_toNat_le, toNat_durationMs_le_iff (hthousandths.trans_lt hfits) hbytes]
    exact hthousandths.trans ((toNat_durationMs_le_iff hfits hbytes).mp le_rfl)

/-- A millisecond less would not cover the octets. -/
theorem toNat_durationMs_mul_lt (hfits : size * 1000 < UInt64.size)
    (hbytes : format.bytesPerSecond ≠ 0) :
    (format.durationMs size).toNat * format.bytesPerSecond.toNat <
      size * 1000 + format.bytesPerSecond.toNat := by
  have hpos := toNat_bytesPerSecond_pos hbytes
  rcases Nat.eq_zero_or_pos (format.durationMs size).toNat with hnone | hsome
  · rw [hnone, Nat.zero_mul]
    omega
  · obtain ⟨millis, hmillis⟩ := Nat.exists_eq_add_one.mpr hsome
    have hshort : ¬ (format.durationMs size).toNat ≤ millis := by omega
    rw [toNat_durationMs_le_iff hfits hbytes] at hshort
    rw [hmillis, Nat.add_mul]
    omega

/-! ## Octets and milliseconds -/

/-- How long octets play, without rounding, in nanoseconds. -/
def octetsTime (format : Format) (size : Nat) : ℚ :=
  size * 1000000000 / format.bytesPerSecond.toNat

/-- How long the milliseconds that are counted for a number of octets last, in nanoseconds. -/
def countedTime (format : Format) (size : Nat) : ℚ :=
  (Span.ofMillis (format.durationMs size)).nanoseconds

theorem countedTime_eq (format : Format) (size : Nat) :
    format.countedTime size = (format.durationMs size).toNat * 1000000 := by
  rw [countedTime, Span.ofMillis]
  push_cast
  rfl

theorem octetsTime_le_countedTime (hfits : size * 1000 < UInt64.size)
    (hbytes : format.bytesPerSecond ≠ 0) : format.octetsTime size ≤ format.countedTime size := by
  have hpos := toNat_bytesPerSecond_pos hbytes
  have hcovered := (toNat_durationMs_le_iff hfits hbytes).mp le_rfl
  rw [octetsTime, countedTime_eq, div_le_iff₀ (Nat.cast_pos.mpr hpos)]
  generalize (format.durationMs size).toNat = millis at hcovered ⊢
  generalize format.bytesPerSecond.toNat = bytes at hcovered ⊢
  have hscaled : size * 1000000000 ≤ millis * 1000000 * bytes := by
    calc
      _ = 1000000 * (size * 1000) := by omega
      _ ≤ 1000000 * (millis * bytes) := Nat.mul_le_mul_left 1000000 hcovered
      _ = millis * 1000000 * bytes := by ring
  exact_mod_cast hscaled

theorem countedTime_lt_octetsTime_add (hfits : size * 1000 < UInt64.size)
    (hbytes : format.bytesPerSecond ≠ 0) :
    format.countedTime size < format.octetsTime size + 1000000 := by
  have hpos := toNat_bytesPerSecond_pos hbytes
  have hshort := toNat_durationMs_mul_lt hfits hbytes
  rw [octetsTime, countedTime_eq, ← sub_lt_iff_lt_add, lt_div_iff₀ (Nat.cast_pos.mpr hpos), sub_mul,
    sub_lt_iff_lt_add]
  generalize (format.durationMs size).toNat = millis at hshort ⊢
  generalize format.bytesPerSecond.toNat = bytes at hshort ⊢
  have hscaled : millis * 1000000 * bytes < size * 1000000000 + 1000000 * bytes := by
    calc
      _ = 1000000 * (millis * bytes) := by ring
      _ < 1000000 * (size * 1000 + bytes) := Nat.mul_lt_mul_of_pos_left hshort (by decide)
      _ = size * 1000000000 + 1000000 * bytes := by ring
  exact_mod_cast hscaled

/-! ## Samples of sixteen bits -/

/-- The milliseconds counted for a sound cover its samples, up to half a sample where an octet is
left over, and are less than a millisecond too many. -/
structure Covers (format : Format) (audio : Octets) : Prop where
  even : Even audio.length →
    format.playingTime (Sample.decode audio).length ≤ format.countedTime audio.length
  odd : Odd audio.length →
    format.playingTime (Sample.decode audio).length ≤
      format.countedTime audio.length + format.playingTime 1 / 2
  close : format.countedTime audio.length - 1000000 <
    format.playingTime (Sample.decode audio).length

theorem toNat_bytesPerSecond_of_width (hbits : format.bitsPerSample = 16) :
    format.bytesPerSecond.toNat = format.sampleRate.toNat * format.channels.toNat * 2 := by
  rw [toNat_bytesPerSecond, hbits]
  rfl

section Width

variable (hbits : format.bitsPerSample = 16)
  (hsamples : 0 < format.sampleRate.toNat * format.channels.toNat)

include hbits hsamples

theorem bytesPerSecond_ne_zero_of_width : format.bytesPerSecond ≠ 0 := by
  intro hzero
  have hwidth := toNat_bytesPerSecond_of_width hbits
  rw [hzero] at hwidth
  change 0 = _ at hwidth
  omega

/-- The samples play as long as the octets, and half a sample more where an octet is left over. -/
theorem playingTime_decode (audio : Octets) :
    format.playingTime (Sample.decode audio).length =
      format.octetsTime audio.length + (audio.length % 2 : Nat) * (format.playingTime 1 / 2) := by
  have hpairs : (Sample.decode audio).length * 2 = audio.length + audio.length % 2 := by
    rw [Sample.length_decode]
    omega
  have hcast : ((Sample.decode audio).length : ℚ) * 2 = audio.length + (audio.length % 2 : Nat) :=
    mod_cast hpairs
  have hpos : (0 : ℚ) < (format.sampleRate.toNat * format.channels.toNat : Nat) :=
    Nat.cast_pos.mpr hsamples
  rw [octetsTime, playingTime, playingTime, toNat_bytesPerSecond_of_width hbits, Nat.cast_mul _ 2]
  field_simp
  push_cast
  linarith

theorem covers_of_width (audio : Octets) (hfits : audio.length * 1000 < UInt64.size) :
    format.Covers audio := by
  have hbytes := bytesPerSecond_ne_zero_of_width hbits hsamples
  have hlow := octetsTime_le_countedTime hfits hbytes
  have hhigh := countedTime_lt_octetsTime_add hfits hbytes
  have hplay := playingTime_decode hbits hsamples audio
  have hhalf : 0 ≤ format.playingTime 1 / 2 := by
    rw [playingTime]
    positivity
  refine ⟨?_, ?_, ?_⟩
  · intro heven
    rw [Nat.even_iff.mp heven, Nat.cast_zero, zero_mul, add_zero] at hplay
    exact hplay.trans_le hlow
  · intro hodd
    rw [Nat.odd_iff.mp hodd, Nat.cast_one, one_mul] at hplay
    linarith
  · have hrest : 0 ≤ ((audio.length % 2 : Nat) : ℚ) * (format.playingTime 1 / 2) :=
      mul_nonneg (Nat.cast_nonneg _) hhalf
    linarith

/-- Where a millisecond takes a whole number of samples, an octet left over is never the last that
a millisecond takes. -/
theorem playingTime_le_countedTime {audio : Octets} (hfits : audio.length * 1000 < UInt64.size)
    (hwhole : 1000 ∣ format.sampleRate.toNat * format.channels.toNat) :
    format.playingTime (Sample.decode audio).length ≤ format.countedTime audio.length := by
  have hbytes := bytesPerSecond_ne_zero_of_width hbits hsamples
  have hcovered := (toNat_durationMs_le_iff hfits hbytes).mp le_rfl
  have hlength := Sample.length_decode audio
  rw [toNat_bytesPerSecond_of_width hbits] at hcovered
  rw [countedTime_eq, playingTime, div_le_iff₀ (Nat.cast_pos.mpr hsamples)]
  obtain ⟨perMilli, hperMilli⟩ := hwhole
  rw [hperMilli] at hcovered ⊢
  generalize (format.durationMs audio.length).toNat = millis at hcovered ⊢
  have hoctets : audio.length ≤ 2 * (millis * perMilli) := by
    apply Nat.le_of_mul_le_mul_right _ (show 0 < 1000 by decide)
    calc
      _ ≤ millis * (1000 * perMilli * 2) := hcovered
      _ = 2 * (millis * perMilli) * 1000 := by ring
  -- The octets of whole milliseconds are even in number, so an odd number of octets is less.
  have hpairs : (Sample.decode audio).length ≤ millis * perMilli := by omega
  have hscaled : (Sample.decode audio).length * 1000000000 ≤
      millis * 1000000 * (1000 * perMilli) := by
    calc
      _ ≤ millis * perMilli * 1000000000 := Nat.mul_le_mul_right _ hpairs
      _ = millis * 1000000 * (1000 * perMilli) := by ring
  exact_mod_cast hscaled

end Width

/-- Octets a second are counted without loss, and the length of a sound is the least number of
milliseconds that cover its octets. It covers the samples of a sound of sixteen bits up to half a
sample where an octet is left over, is less than a millisecond too long, and covers speech
altogether. -/
theorem durationMs_covers (format : Format) :
    format.sampleRate.toNat * format.channels.toNat < UInt64.size ∧
    format.sampleRate.toNat * format.channels.toNat * (format.bitsPerSample.toNat / 8) <
      UInt64.size ∧
    format.bytesPerSecond.toNat =
      format.sampleRate.toNat * format.channels.toNat * (format.bitsPerSample.toNat / 8) ∧
    (∀ size, size * 1000 < UInt64.size →
      (format.bytesPerSecond = 0 → format.durationMs size = 0) ∧
      (format.bytesPerSecond ≠ 0 →
        IsLeast {millis | 1000 * size ≤ millis * format.bytesPerSecond.toNat}
          (format.durationMs size).toNat)) ∧
    (∀ size longer, longer * 1000 < UInt64.size → size ≤ longer →
      format.durationMs size ≤ format.durationMs longer) ∧
    ∀ audio : Octets, audio.length * 1000 < UInt64.size →
      (format.bitsPerSample = 16 → 0 < format.sampleRate → 0 < format.channels →
        format.Covers audio) ∧
      (format = speech →
        format.playingTime (Sample.decode audio).length ≤ format.countedTime audio.length) := by
  refine ⟨format.mul_channels_lt.trans (by decide), format.mul_octets_lt.trans (by decide),
    format.toNat_bytesPerSecond, ?_, ?_, ?_⟩
  · intro size hfits
    exact ⟨fun hzero => durationMs_of_bytesPerSecond_eq_zero hzero size, isLeast_durationMs hfits⟩
  · intro size longer hfits hle
    exact durationMs_mono hfits hle
  · intro audio hfits
    constructor
    · intro hbits hrate hchannels
      apply covers_of_width hbits _ audio hfits
      exact Nat.mul_pos (UInt32.lt_iff_toNat_lt.mp hrate) (UInt16.lt_iff_toNat_lt.mp hchannels)
    · rintro rfl
      exact playingTime_le_countedTime bitsPerSample_speech (by decide) hfits (by decide)

/-- At 11025 samples a second 441 octets take twenty milliseconds, and the sample of the octet left
over is not covered. The same octets of speech are covered. -/
theorem durationMs_covers_all_but_half :
    let format : Format := ⟨11025, 1, 16⟩
    let audio : Octets := List.replicate 441 0
    audio.length * 1000 < UInt64.size ∧ format.bytesPerSecond ≠ 0 ∧ format.bitsPerSample = 16 ∧
      0 < format.sampleRate ∧ 0 < format.channels ∧ Odd audio.length ∧
      (format.durationMs audio.length).toNat = 20 ∧
      IsLeast {millis | 1000 * audio.length ≤ millis * format.bytesPerSecond.toNat} 20 ∧
      format.durationMs 440 ≤ format.durationMs audio.length ∧
      format.countedTime audio.length < format.playingTime (Sample.decode audio).length ∧
      format.playingTime (Sample.decode audio).length ≤
        format.countedTime audio.length + format.playingTime 1 / 2 ∧
      speech.playingTime (Sample.decode audio).length ≤ speech.countedTime audio.length := by
  intro format audio
  have hlength : audio.length = 441 := List.length_replicate
  have hfits : audio.length * 1000 < UInt64.size := by rw [hlength]; decide
  have hodd : Odd audio.length := by rw [hlength]; decide
  have hmillis : (format.durationMs audio.length).toNat = 20 := by rw [hlength]; decide
  obtain ⟨-, -, -, hleast, hmono, hcovers⟩ := durationMs_covers format
  obtain ⟨-, -, -, -, -, hspeech⟩ := durationMs_covers speech
  have htwenty := (hleast audio.length hfits).2 (by decide)
  rw [hmillis] at htwenty
  refine ⟨hfits, by decide, rfl, by decide, by decide, hodd, hmillis, htwenty,
    hmono 440 audio.length hfits (by omega), ?_,
    ((hcovers audio hfits).1 rfl (by decide) (by decide)).odd hodd, (hspeech audio hfits).2 rfl⟩
  have hperSecond : format.sampleRate.toNat * format.channels.toNat = 11025 := by decide
  rw [countedTime_eq, hmillis, playingTime, Sample.length_decode, hlength, hperSecond]
  norm_num

end Format

end CloudSpeech.Audio
