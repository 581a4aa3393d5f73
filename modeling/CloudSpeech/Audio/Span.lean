import CloudSpeech.Audio.Format
/-!
# Spans of time

A span is a whole number of nanoseconds, shown as seconds and the nanoseconds left over.  The
longest span is one whose seconds still fit in sixty-four bits.
-/

namespace CloudSpeech.Audio

structure Span where
  nanoseconds : Nat
  deriving DecidableEq, Repr

namespace Span

def ofParts (seconds nanos : Nat) : Span := ⟨seconds * 1000000000 + nanos⟩

def ofMicros (micros : UInt64) : Span := ⟨micros.toNat * 1000⟩

def ofMillis (millis : UInt64) : Span := ⟨millis.toNat * 1000000⟩

def zero : Span := ⟨0⟩

def seconds (span : Span) : Nat := span.nanoseconds / 1000000000

def subsecond (span : Span) : Nat := span.nanoseconds % 1000000000

def wholeMillis (span : Span) : Nat := span.nanoseconds / 1000000

def longest : Span := ofParts (UInt64.size - 1) 999999999

instance : Add Span := ⟨fun a b => ⟨a.nanoseconds + b.nanoseconds⟩⟩

@[simp] theorem nanoseconds_add (a b : Span) :
    (a + b).nanoseconds = a.nanoseconds + b.nanoseconds := rfl

/-- The sum of two spans, unless it is longer than the longest span. -/
def add? (a b : Span) : Option Span :=
  if (a + b).nanoseconds ≤ longest.nanoseconds then some (a + b) else none

end Span

/-- How long a batch of samples plays, in whole microseconds. -/
def batchTime (samples : Nat) (format : Format) : Span :=
  if format.samplesPerSecond = 0 then .zero
  else .ofMicros (samples.toUInt64 * 1000000 / format.samplesPerSecond)

/-- How long it takes until a batch has been heard, when its first sample is heard after
`latency`. -/
def drainTime (latency : Span) (samples : Nat) (format : Format) : Span :=
  latency + batchTime samples format

/-- The drain time, unless it is longer than the longest span. -/
def drainTime? (latency : Span) (samples : Nat) (format : Format) : Option Span :=
  latency.add? (batchTime samples format)

end CloudSpeech.Audio
