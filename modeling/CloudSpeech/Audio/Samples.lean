import CloudSpeech.Octets
/-!
# Samples

A sample of sixteen bits is stored as two octets, the low one first.  An octet left over at the
end is the low octet of a last sample.
-/

namespace CloudSpeech.Audio

abbrev Sample := Int16

namespace Sample

def ofOctets (low high : UInt8) : Sample :=
  (UInt16.ofNat (low.toNat + 256 * high.toNat)).toInt16

def toOctets (sample : Sample) : Octets :=
  [UInt8.ofNat (sample.toUInt16.toNat % 256), UInt8.ofNat (sample.toUInt16.toNat / 256)]

/-- Adds the samples of the octets to those read before, last sample first. -/
def collect (found : List Sample) : Octets → List Sample
  | [] => found
  | [low] => ofOctets low 0 :: found
  | low :: high :: rest => collect (ofOctets low high :: found) rest

def decode (octets : Octets) : List Sample := (collect [] octets).reverse

def encode (samples : List Sample) : Octets := samples.flatMap toOctets

theorem collect_eq (found : List Sample) (octets : Octets) :
    collect found octets = (decode octets).reverse ++ found := by
  have aux : ∀ (n : Nat) (octets : Octets) (found : List Sample), octets.length ≤ n →
      collect found octets = collect [] octets ++ found := by
    intro n
    induction n with
    | zero =>
      intro octets found h
      obtain rfl : octets = [] := List.length_eq_zero_iff.1 (Nat.le_zero.1 h)
      rfl
    | succ n ih =>
      intro octets found h
      match octets with
      | [] => rfl
      | [low] => rfl
      | low :: high :: rest =>
        have hr : rest.length ≤ n := by simp at h; omega
        simp only [collect]
        rw [ih rest (ofOctets low high :: found) hr, ih rest [ofOctets low high] hr]
        simp
  simp [decode, aux octets.length octets found (Nat.le_refl _)]

@[simp] theorem decode_nil : decode [] = [] := rfl

@[simp] theorem decode_single (low : UInt8) : decode [low] = [ofOctets low 0] := rfl

@[simp] theorem decode_pair (low high : UInt8) (rest : Octets) :
    decode (low :: high :: rest) = ofOctets low high :: decode rest := by
  simp [decode, collect, collect_eq [ofOctets low high] rest]

end Sample

end CloudSpeech.Audio
