import CloudSpeech.Toml.Lexical
/-!
# Dates and times in TOML

A moment is a date, a time of day, or both, in which case the offset from universal time may
follow.  It is written back in one form: a `T` between date and time, the fraction of the second
without zeros at its end, and the offset as `Z` or in hours and minutes.
-/

namespace CloudSpeech.Toml

structure Date where
  year : Nat
  month : Nat
  day : Nat
  deriving DecidableEq, Repr

structure Time where
  hour : Nat
  minute : Nat
  second : Nat
  nanosecond : Nat := 0
  deriving DecidableEq, Repr

/-- The distance from universal time. -/
inductive Offset where
  /-- None, written as the letter `Z`. -/
  | universal
  | minutes (distance : Int)
  deriving DecidableEq, Repr

/-- A date, a time, or both. -/
inductive Moment where
  | date (day : Date)
  | time (clock : Time)
  | both (day : Date) (clock : Time) (offset : Option Offset)
  deriving DecidableEq, Repr

/-- A number with zeros in front of it up to a width. -/
def padded (width n : Nat) : String :=
  let digits := Nat.toDigits 10 n
  String.ofList (List.replicate (width - digits.length) '0' ++ digits)

def Date.text (date : Date) : String :=
  padded 4 date.year ++ "-" ++ padded 2 date.month ++ "-" ++ padded 2 date.day

def fractionText (nanosecond : Nat) : String :=
  if nanosecond = 0 then ""
  else "." ++ String.ofList
    ((padded 9 nanosecond).toList.reverse.dropWhile (· = '0')).reverse

def Time.text (time : Time) : String :=
  padded 2 time.hour ++ ":" ++ padded 2 time.minute ++ ":" ++ padded 2 time.second
    ++ fractionText time.nanosecond

def Offset.text : Offset → String
  | universal => "Z"
  | minutes distance =>
      (if distance < 0 then "-" else "+") ++ padded 2 (distance.natAbs / 60) ++ ":"
        ++ padded 2 (distance.natAbs % 60)

def Moment.text : Moment → String
  | date day => day.text
  | time clock => clock.text
  | both day clock offset => day.text ++ "T" ++ clock.text ++ (offset.map Offset.text).getD ""

def isLeap (year : Nat) : Bool := year % 4 = 0 && (year % 100 ≠ 0 || year % 400 = 0)

def daysIn (year month : Nat) : Nat :=
  if month = 2 then if isLeap year then 29 else 28
  else if month = 4 ∨ month = 6 ∨ month = 9 ∨ month = 11 then 30
  else 31

/-- A number of exactly so many digits. -/
def readFixed (count : Nat) (chars : List Char) : Option (Nat × List Char) :=
  let digits := chars.take count
  if digits.length = count ∧ digits.all Char.isDigit then
    some (digits.foldl (fun n c => 10 * n + (c.toNat - '0'.toNat)) 0, chars.drop count)
  else none

/-- What follows a certain character, if it is at the front. -/
def expect (wanted : Char) : List Char → Option (List Char)
  | [] => none
  | c :: rest => if c = wanted then some rest else none

def readDate (chars : List Char) : Option (Date × List Char) := do
  let (year, rest) ← readFixed 4 chars
  let rest ← expect '-' rest
  let (month, rest) ← readFixed 2 rest
  let rest ← expect '-' rest
  let (day, rest) ← readFixed 2 rest
  if 1 ≤ month ∧ month ≤ 12 ∧ 1 ≤ day ∧ day ≤ daysIn year month then
    some (⟨year, month, day⟩, rest)
  else none

/-- The fraction of a second in nanoseconds, from its first nine digits; zero if there is none. -/
def readFraction : List Char → Nat × List Char
  | '.' :: rest =>
      let digits := rest.takeWhile Char.isDigit
      if digits = [] then (0, '.' :: rest)
      else
        let kept := digits.take 9
        (kept.foldl (fun n c => 10 * n + (c.toNat - '0'.toNat)) 0 * Nat.pow 10 (9 - kept.length),
          rest.dropWhile Char.isDigit)
  | chars => (0, chars)

/-- A time of day.  A minute may have a leap second. -/
def readTime (chars : List Char) : Option (Time × List Char) := do
  let (hour, rest) ← readFixed 2 chars
  let rest ← expect ':' rest
  let (minute, rest) ← readFixed 2 rest
  let rest ← expect ':' rest
  let (second, rest) ← readFixed 2 rest
  if hour ≤ 23 ∧ minute ≤ 59 ∧ second ≤ 60 then
    let (nanosecond, rest) := readFraction rest
    some (⟨hour, minute, second, nanosecond⟩, rest)
  else none

/-- An offset of so many hours and minutes. -/
def readHours (behind : Bool) (chars : List Char) : Option (Offset × List Char) := do
  let (hours, rest) ← readFixed 2 chars
  let rest ← expect ':' rest
  let (minutes, rest) ← readFixed 2 rest
  if hours ≤ 23 ∧ minutes ≤ 59 then
    let distance : Int := hours * 60 + minutes
    some (.minutes (if behind then -distance else distance), rest)
  else none

/-- An offset, if there is one; refused if one begins and goes wrong. -/
def readOffset : List Char → Option (Option Offset × List Char)
  | 'Z' :: rest => some (some .universal, rest)
  | 'z' :: rest => some (some .universal, rest)
  | '+' :: rest => (readHours false rest).map fun (offset, rest) => (some offset, rest)
  | '-' :: rest => (readHours true rest).map fun (offset, rest) => (some offset, rest)
  | chars => some (none, chars)

/-- Whether a character may separate a date from a time. -/
def separatesTime (c : Char) : Bool := c = 'T' || c = 't' || c = ' '

/-- The time of day after a date, if there is one. -/
def readTimeAfter (chars : List Char) : Option (Time × List Char) :=
  match chars with
  | c :: rest => if separatesTime c then readTime rest else none
  | [] => none

def readMoment (chars : List Char) : Option (Moment × List Char) :=
  match readDate chars with
  | some (date, rest) =>
      match readTimeAfter rest with
      | some (time, rest) =>
          (readOffset rest).map fun (offset, rest) => (.both date time offset, rest)
      | none => some (.date date, rest)
  | none => (readTime chars).map fun (time, rest) => (.time time, rest)

end CloudSpeech.Toml
