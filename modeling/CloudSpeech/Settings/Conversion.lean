import CloudSpeech.Settings.Field
import CloudSpeech.Settings.Entry
import CloudSpeech.Decimal.Whole
/-!
# Conversions

How an entry becomes the value of a setting.  A text may stand for a number or a truth value, a
number for a truth value or a text, and a truth value for a number or a text.
-/

namespace CloudSpeech.Settings

/-- What is wanted in the place of a setting. -/
inductive Wanted where
  | integer
  | unsignedInteger
  | boolean
  | string
  deriving DecidableEq, Repr

def Wanted.words : Wanted → String
  | integer => "an integer"
  | unsignedInteger => "an unsigned 64 bit or less integer"
  | boolean => "a boolean"
  | string => "a string"

/-- An entry that does not become the value of a setting. -/
structure Mismatch where
  found : Found
  wanted : Wanted
  origin : Option String
  deriving DecidableEq, Repr

/-- The words that stand for the truth values in place of numbers. -/
def wordNumber? : String → Option UInt64
  | "true" => some 1
  | "on" => some 1
  | "yes" => some 1
  | "false" => some 0
  | "off" => some 0
  | "no" => some 0
  | _ => none

/-- The words that stand for the truth values. -/
def wordFlag? : String → Option Bool
  | "1" => some true
  | "true" => some true
  | "on" => some true
  | "yes" => some true
  | "0" => some false
  | "false" => some false
  | "off" => some false
  | "no" => some false
  | _ => none

namespace Entry

def mismatch {α : Type} (entry : Entry) (wanted : Wanted) : Except Mismatch α :=
  .error ⟨.ofEntry entry, wanted, entry.origin⟩

def toText (entry : Entry) : Except Mismatch String :=
  match entry with
  | .scalar _ (.bool value) => .ok (Found.boolWord value)
  | .scalar _ (.integer value) => .ok (toString value)
  | .scalar _ (.real value) => .ok value.plainText
  | .scalar _ (.text content) => .ok content
  | entry => entry.mismatch .string

/-- An entry as a whole number.  Reals are rounded and stay within the bounds. -/
def toWhole (entry : Entry) : Except Mismatch UInt64 :=
  match entry with
  | .scalar _ (.bool value) => .ok (if value then 1 else 0)
  | .scalar _ (.integer value) =>
      if 0 ≤ value ∧ value < UInt64.size then .ok value.toNat.toUInt64
      else entry.mismatch .unsignedInteger
  | .scalar _ (.real value) => .ok value.toUnsigned.toUInt64
  | .scalar _ (.text content) =>
      match wordNumber? (Text.lowercase content) with
      | some number => .ok number
      | none =>
          match Decimal.readUnsigned content with
          | .ok number => .ok number.toUInt64
          | .error _ => entry.mismatch .integer
  | entry => entry.mismatch .integer

/-- An entry as a truth value: numbers are true unless they are zero. -/
def toFlag (entry : Entry) : Except Mismatch Bool :=
  match entry with
  | .scalar _ (.bool value) => .ok value
  | .scalar _ (.integer value) => .ok (value ≠ 0)
  | .scalar _ (.real value) => .ok (!value.isZero)
  | .scalar origin (.text content) =>
      match wordFlag? (Text.lowercase content) with
      | some flag => .ok flag
      | none => .error ⟨.text (Text.lowercase content), .boolean, origin⟩
  | entry => entry.mismatch .boolean

def convert (entry : Entry) : (kind : Kind) → Except Mismatch kind.Value
  | .text => entry.toText
  | .whole => entry.toWhole
  | .flag => entry.toFlag

end Entry

end CloudSpeech.Settings
