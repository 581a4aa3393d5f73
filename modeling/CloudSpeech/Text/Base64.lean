import CloudSpeech.Octets
/-!
# Base sixty-four

Octets written with sixty-four characters of ASCII, four characters for every three octets.
-/

namespace CloudSpeech.Text.Base64

/-- The digits, from zero on. -/
def alphabet : List Char :=
  "ABCDEFGHIJKLMNOPQRSTUVWXYZabcdefghijklmnopqrstuvwxyz0123456789+/".toList

def digit (n : Nat) : Char := alphabet.getD n '='

/-- The digits of a number of twenty-four bits. -/
def digits (n : Nat) : List Char :=
  [digit (n / 262144 % 64), digit (n / 4096 % 64), digit (n / 64 % 64), digit (n % 64)]

/-- Octets in base sixty-four.  Equals signs fill up the last four characters. -/
def encode : Octets → List Char
  | a :: b :: c :: rest => digits (a.toNat * 65536 + b.toNat * 256 + c.toNat) ++ encode rest
  | [a, b] => (digits (a.toNat * 65536 + b.toNat * 256)).take 3 ++ ['=']
  | [a] => (digits (a.toNat * 65536)).take 2 ++ ['=', '=']
  | [] => []

end CloudSpeech.Text.Base64
