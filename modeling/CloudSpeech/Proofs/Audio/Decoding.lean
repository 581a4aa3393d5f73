import CloudSpeech.Proofs.Audio.Outcome
import Mathlib

/-!
# Samples and their octets

A sample is a number in two's complement, kept in two octets of which the low one comes first.
Writing samples and reading them are inverse to each other, except that an octet left over is read
as a sample whose high octet is zero. So that zero is all that samples do not tell of the octets
they were read from.
-/

namespace CloudSpeech.Audio.Sample

/-! ## One sample -/

theorem toNat_toUInt16_ofOctets (low high : UInt8) :
    (ofOctets low high).toUInt16.toNat = low.toNat + 256 * high.toNat := by
  have hlow := low.toNat_lt
  have hhigh := high.toNat_lt
  have hfits : low.toNat + 256 * high.toNat < UInt16.size := by
    simp only [UInt16.size]
    omega
  rw [ofOctets, UInt16.toUInt16_toInt16]
  exact UInt16.toNat_ofNat_of_lt' hfits

theorem toInt_eq_bmod (sample : Sample) :
    sample.toInt = Int.bmod sample.toUInt16.toNat 65536 := by
  rw [← Int16.toInt_toBitVec, BitVec.toInt_eq_toNat_bmod]
  rfl

theorem toOctets_ofOctets (low high : UInt8) : toOctets (ofOctets low high) = [low, high] := by
  have hlow := low.toNat_lt
  have hlow_eq : (low.toNat + 256 * high.toNat) % 256 = low.toNat := by omega
  have hhigh_eq : (low.toNat + 256 * high.toNat) / 256 = high.toNat := by omega
  rw [toOctets, toNat_toUInt16_ofOctets, hlow_eq, hhigh_eq, UInt8.ofNat_toNat, UInt8.ofNat_toNat]

theorem exists_toOctets_eq (sample : Sample) :
    ∃ low high, toOctets sample = [low, high] ∧ ofOctets low high = sample := by
  have hsample := sample.toUInt16.toNat_lt
  have hlow : sample.toUInt16.toNat % 256 < UInt8.size := Nat.mod_lt _ (by decide)
  have hhigh : sample.toUInt16.toNat / 256 < UInt8.size := by
    simp only [UInt8.size]
    omega
  refine ⟨_, _, rfl, ?_⟩
  rw [ofOctets, UInt8.toNat_ofNat_of_lt' hlow, UInt8.toNat_ofNat_of_lt' hhigh, Nat.mod_add_div,
    UInt16.ofNat_toNat, Int16.toInt16_toUInt16]

/-! ## Samples after one another -/

theorem encode_cons (sample : Sample) (samples : List Sample) :
    encode (sample :: samples) = toOctets sample ++ encode samples := rfl

theorem decode_encode_append (samples : List Sample) (octets : Octets) :
    decode (encode samples ++ octets) = samples ++ decode octets := by
  induction samples with
  | nil => rfl
  | cons sample samples ih =>
      obtain ⟨low, high, hoctets, hsample⟩ := exists_toOctets_eq sample
      rw [encode_cons, hoctets, List.append_assoc, List.cons_append, List.cons_append,
        List.nil_append, decode_pair, hsample, ih, List.cons_append]

/-- What is written is read back. -/
theorem decode_encode (samples : List Sample) : decode (encode samples) = samples := by
  have happend := decode_encode_append samples []
  rwa [List.append_nil, decode_nil, List.append_nil] at happend

/-- Octets with a zero after the one left over, if there is one. -/
def padded (octets : Octets) : Octets := if Even octets.length then octets else octets ++ [0]

theorem padded_of_even {octets : Octets} (heven : Even octets.length) : padded octets = octets :=
  if_pos heven

theorem padded_of_odd {octets : Octets} (hodd : Odd octets.length) :
    padded octets = octets ++ [0] :=
  if_neg (Nat.not_even_iff_odd.mpr hodd)

theorem padded_pair (low high : UInt8) (rest : Octets) :
    padded (low :: high :: rest) = low :: high :: padded rest := by
  rcases Nat.even_or_odd rest.length with heven | hodd
  · have hlonger : Even (low :: high :: rest).length := heven.add even_two
    rw [padded_of_even heven, padded_of_even hlonger]
  · have hlonger : Odd (low :: high :: rest).length := hodd.add_even even_two
    rw [padded_of_odd hodd, padded_of_odd hlonger, List.cons_append, List.cons_append]

/-- What is read is written again, with the high octet of the last sample. -/
theorem encode_decode (octets : Octets) : encode (decode octets) = padded octets := by
  induction octets using List.twoStepInduction with
  | nil => rfl
  | singleton low =>
      rw [decode_single, encode_cons, toOctets_ofOctets]
      rfl
  | cons_cons low high rest ih _ =>
      rw [decode_pair, encode_cons, toOctets_ofOctets, ih, padded_pair]
      rfl

/-- Octets are told apart unless the one is the other with a zero for its last sample. -/
theorem padded_eq_iff {octets others : Octets} (hne : octets ≠ others) :
    padded octets = padded others ↔
      Odd octets.length ∧ others = octets ++ [0] ∨ Odd others.length ∧ octets = others ++ [0] := by
  rcases Nat.even_or_odd octets.length with heven | hodd <;>
    rcases Nat.even_or_odd others.length with heven' | hodd'
  · have hnot : ¬ Odd octets.length := Nat.not_odd_iff_even.mpr heven
    have hnot' : ¬ Odd others.length := Nat.not_odd_iff_even.mpr heven'
    rw [padded_of_even heven, padded_of_even heven']
    simp only [hne, hnot, hnot', false_and, or_self]
  · have hnot : ¬ Odd octets.length := Nat.not_odd_iff_even.mpr heven
    rw [padded_of_even heven, padded_of_odd hodd']
    simp only [hnot, hodd', false_and, true_and, false_or]
  · have hnot' : ¬ Odd others.length := Nat.not_odd_iff_even.mpr heven'
    rw [padded_of_odd hodd, padded_of_even heven']
    simp only [hodd, hnot', false_and, true_and, or_false]
    exact eq_comm
  · -- With a zero an odd number of octets is even, so neither is the other with a zero.
    rw [padded_of_odd hodd, padded_of_odd hodd', List.append_left_inj]
    refine iff_of_false hne ?_
    rintro (⟨-, rfl⟩ | ⟨-, rfl⟩)
    · exact Nat.not_even_iff_odd.mpr hodd' (List.length_append ▸ hodd.add_odd odd_one)
    · exact Nat.not_even_iff_odd.mpr hodd (List.length_append ▸ hodd'.add_odd odd_one)

theorem decode_eq_decode_iff {octets others : Octets} :
    decode octets = decode others ↔ padded octets = padded others := by
  rw [← encode_decode, ← encode_decode]
  constructor
  · intro hsame
    rw [hsame]
  · intro hsame
    rw [← decode_encode (decode octets), hsame, decode_encode]

theorem decode_append {front : Octets} (heven : Even front.length) (back : Octets) :
    decode (front ++ back) = decode front ++ decode back := by
  have hfront : encode (decode front) = front := (encode_decode front).trans (padded_of_even heven)
  rw [← decode_encode_append, hfront]

/-- A sample is written in the two octets of its number, the low one first. Samples are read back
from what is written, and octets are written back from what is read, with a zero after an octet left
over. That zero is the only thing which octets with the same samples may differ in, and the samples
of octets after whole samples come after those. -/
theorem decode_loses_nothing :
    (∀ sample : Sample, ∃ low high, toOctets sample = [low, high] ∧
      sample.toInt = Int.bmod (low.toNat + 256 * high.toNat : Nat) 65536) ∧
    (∀ octets : Octets,
      encode (decode octets) = if Even octets.length then octets else octets ++ [0]) ∧
    (∀ samples : List Sample, decode (encode samples) = samples) ∧
    (∀ octets : Octets, (decode octets).length = (octets.length + 1) / 2) ∧
    (∀ octets others : Octets, octets ≠ others →
      (decode octets = decode others ↔
        Odd octets.length ∧ others = octets ++ [0] ∨
          Odd others.length ∧ octets = others ++ [0])) ∧
    ∀ front back : Octets, Even front.length →
      decode (front ++ back) = decode front ++ decode back := by
  refine ⟨?_, encode_decode, decode_encode, length_decode, ?_, ?_⟩
  · intro sample
    obtain ⟨low, high, hoctets, rfl⟩ := exists_toOctets_eq sample
    refine ⟨low, high, hoctets, ?_⟩
    rw [toInt_eq_bmod, toNat_toUInt16_ofOctets]
  · intro octets others hne
    rw [decode_eq_decode_iff, padded_eq_iff hne]
  · intro front back heven
    exact decode_append heven back

/-- An octet left over hides that the other sound has a zero there, and the least sample is read
where it stands. -/
theorem decode_with_octet_left_over :
    let front : Octets := [0xff, 0x7f, 0x00, 0x80]
    let octets : Octets := [0xff, 0x7f, 0x00, 0x80, 0x05]
    let others : Octets := [0xff, 0x7f, 0x00, 0x80, 0x05, 0x00]
    octets ≠ others ∧ Odd octets.length ∧ others = octets ++ [0] ∧
      decode octets = decode others ∧ Even front.length ∧ decode front = [32767, -32768] ∧
      decode (front ++ [0x05]) = [32767, -32768] ++ decode [0x05] := by
  intro front octets others
  obtain ⟨-, -, -, -, hsame, happend⟩ := decode_loses_nothing
  have hne : octets ≠ others := by decide
  have hodd : Odd octets.length := by decide
  have heven : Even front.length := by decide
  have hfront : decode front = [32767, -32768] := by decide
  refine ⟨hne, hodd, rfl, (hsame octets others hne).mpr (.inl ⟨hodd, rfl⟩), heven, hfront, ?_⟩
  rw [happend front [0x05] heven, hfront]

end CloudSpeech.Audio.Sample
