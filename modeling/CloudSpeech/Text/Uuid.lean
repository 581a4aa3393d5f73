import CloudSpeech.Octets
/-!
# Random names

A name made of sixteen random octets, so that two names made apart are never the same in practice.
Six bits are fixed and tell that the rest is random.
-/

namespace CloudSpeech.Text.Uuid

/-- The two digits of an octet. -/
def octet (b : UInt8) : List Char :=
  let digit (n : Nat) : Char := (Nat.toDigits 16 n).headD '0'
  [digit (b.toNat / 16), digit (b.toNat % 16)]

/-- The octets with the fixed bits put in. -/
def marked (octets : Octets) : Octets :=
  octets.mapIdx fun i b =>
    if i = 6 then b % 16 + 0x40 else if i = 8 then b % 64 + 0x80 else b

/-- The name that random octets make, in five groups. -/
def ofRandom (octets : Octets) : String :=
  let groups := [(0, 4), (4, 2), (6, 2), (8, 2), (10, 6)].map fun (start, size) =>
    String.ofList ((((marked octets).drop start).take size).flatMap octet)
  String.intercalate "-" groups

end CloudSpeech.Text.Uuid
