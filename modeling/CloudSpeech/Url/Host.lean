import CloudSpeech.Url.Address
import CloudSpeech.Url.Percent
import CloudSpeech.Url.Punycode
import CloudSpeech.Text.CaseMap
import CloudSpeech.Text.Utf8
/-!
# Hosts

The host of a URL.  In a web address it is a numeric address or a domain name, which is brought to
one spelling; elsewhere it is any text.
-/

namespace CloudSpeech.Url

inductive Host where
  | domain (name : List Char)
  | v4 (address : Nat)
  | v6 (pieces : List Nat)
  /-- A text without further meaning. -/
  | named (name : List Char)
  deriving DecidableEq, Repr

namespace Host

def text : Host → List Char
  | domain name => name
  | v4 address => V4.text address
  | v6 pieces => V6.text pieces
  | named name => name

def isEmpty (host : Host) : Bool := host.text.isEmpty

/-- Whether a character may not stand in any host. -/
def isForbidden (c : Char) : Bool :=
  [Char.ofNat 0, '\t', '\n', '\r', ' ', '#', '/', ':', '<', '>', '?', '@', '[', '\\', ']', '^',
    '|'].contains c

/-- Whether a character may not stand in a domain name. -/
def isForbiddenInDomain (c : Char) : Bool :=
  isForbidden c || c.toNat < 0x20 || c = '%' || c.toNat = 0x7f

/-- Whether a character of a domain name counts for nothing. -/
def isIgnored (c : Char) : Bool :=
  c.toNat = 0xad || c.toNat = 0x200b || c.toNat = 0x2060 || c.toNat = 0xfeff
    || (0xfe00 ≤ c.toNat && c.toNat ≤ 0xfe0f)

/-- The one spelling of a character of a domain name: small letters, forms of full width as plain
ones, and all full stops alike. -/
def folded (c : Char) : List Char :=
  if isIgnored c then []
  else if c.toNat = 0x3002 || c.toNat = 0xff61 then ['.']
  else if 0xff01 ≤ c.toNat && c.toNat ≤ 0xff5e then
    Text.lowerChar (Char.ofNat (c.toNat - 0xff01 + 0x21))
  else Text.lowerChar c

def domainName? (chars : List Char) : Option (List Char) := do
  let decoded ← Text.Utf8.strict? (Percent.decode chars)
  let labels := Text.split (· = '.') (decoded.toList.flatMap folded)
  let name := List.intercalate ['.'] (labels.map Punycode.label)
  if name.isEmpty ∨ name.any isForbiddenInDomain then none else some name

/-- What stands between brackets, if the text begins with one. -/
def bracketed? : List Char → Option (Option (List Char))
  | '[' :: rest =>
      match rest.getLast? with
      | some ']' => some (some rest.dropLast)
      | _ => some none
  | _ => none

def read? (chars : List Char) : Option Host :=
  match bracketed? chars with
  | some inside => (inside.bind V6.read?).map .v6
  | none => do
      let name ← domainName? chars
      if V4.isMeant name then (V4.read? name).map .v4 else pure (.domain name)

def readNamed? (chars : List Char) : Option Host :=
  match bracketed? chars with
  | some inside => (inside.bind V6.read?).map .v6
  | none =>
      if chars.any isForbidden then none
      else some (.named (Percent.encode Percent.inFree chars))

end Host

end CloudSpeech.Url
