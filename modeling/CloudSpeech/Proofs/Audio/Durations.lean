import CloudSpeech.Audio.Format

/-!
# How long a number of octets plays

A length in milliseconds is a quotient rounded up. As long as the octets can be counted in
thousandths, the words of sixty-four bits in which it is computed do not show.
-/

namespace CloudSpeech.Audio.Format

theorem toNat_ceilDiv (a : UInt64) {b : UInt64} (hb : 0 < b.toNat) :
    (ceilDiv a b).toNat = (a.toNat + (b.toNat - 1)) / b.toNat := by
  have hsplit := Nat.div_add_mod a.toNat b.toNat
  have hrest_iff : a % b = 0 ↔ a.toNat % b.toNat = 0 := by
    rw [← UInt64.toNat_inj, UInt64.toNat_mod]
    rfl
  rw [ceilDiv]
  split
  · next hnone =>
    have hsum : a.toNat + (b.toNat - 1) = b.toNat * (a.toNat / b.toNat) + (b.toNat - 1) := by
      have hzero := hrest_iff.mp hnone
      omega
    rw [UInt64.toNat_div, hsum, Nat.mul_add_div hb, Nat.div_eq_of_lt (Nat.sub_one_lt_of_lt hb),
      Nat.add_zero]
  · next hsome =>
    have hrest : a.toNat % b.toNat ≠ 0 := fun hzero => hsome (hrest_iff.mpr hzero)
    have hrest_lt := Nat.mod_lt a.toNat hb
    have hsum : a.toNat + (b.toNat - 1) =
        b.toNat * (a.toNat / b.toNat) + (b.toNat + (a.toNat % b.toNat - 1)) := by
      omega
    -- A quotient with a rest is not the largest word.
    have hquotient : a.toNat / b.toNat + 1 < 2 ^ 64 := by
      have hhalf : a.toNat / b.toNat ≤ a.toNat / 2 := Nat.div_le_div_left (by omega) (by decide)
      have ha := a.toNat_lt
      omega
    have hover : (b.toNat + (a.toNat % b.toNat - 1)) / b.toNat = 1 := by
      rw [Nat.add_div_left _ hb, Nat.div_eq_of_lt (by omega)]
    rw [UInt64.toNat_add, UInt64.toNat_div, hsum, Nat.mul_add_div hb, hover]
    exact Nat.mod_eq_of_lt hquotient

theorem toNat_durationMs {format : Format} {size : Nat} (hfits : size * 1000 < UInt64.size)
    (hbytes : 0 < format.bytesPerSecond.toNat) :
    (format.durationMs size).toNat =
      (size * 1000 + (format.bytesPerSecond.toNat - 1)) / format.bytesPerSecond.toNat := by
  have hsize : size < UInt64.size := by omega
  have hthousandths : (size.toUInt64 * 1000).toNat = size * 1000 := by
    rw [UInt64.toNat_mul, UInt64.toNat_ofNat_of_lt' hsize]
    exact Nat.mod_eq_of_lt hfits
  have hsome : format.bytesPerSecond ≠ 0 := fun hzero => by simp [hzero] at hbytes
  rw [durationMs, if_neg hsome, toNat_ceilDiv _ hbytes, hthousandths]

theorem bytesPerSecond_speech : speech.bytesPerSecond = 32000 := by decide

/-- Thirty-two octets of speech play a millisecond. -/
theorem toNat_durationMs_speech {size : Nat} (hfits : size * 1000 < UInt64.size) :
    (speech.durationMs size).toNat = (size + 31) / 32 := by
  have hbytes : speech.bytesPerSecond.toNat = 32000 := by rw [bytesPerSecond_speech]; rfl
  rw [toNat_durationMs hfits (by rw [hbytes]; decide), hbytes]
  omega

end CloudSpeech.Audio.Format
