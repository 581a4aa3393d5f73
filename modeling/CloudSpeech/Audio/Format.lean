/-!
# Sample formats

A format fixes how many octets a second of sound takes, and so how long a number of octets plays.
-/

namespace CloudSpeech.Audio

structure Format where
  /-- Samples a second, in each channel. -/
  sampleRate : UInt32
  channels : UInt16
  bitsPerSample : UInt16
  deriving DecidableEq, Repr

namespace Format

/-- The one format the speech service is asked for: one channel of sixteen bits at sixteen
kilohertz. -/
def speech : Format := ⟨16000, 1, 16⟩

/-- Octets a second.  A sample takes whole octets; bits beyond them do not count. -/
def bytesPerSecond (format : Format) : UInt64 :=
  format.sampleRate.toUInt64 * format.channels.toUInt64 * (format.bitsPerSample.toUInt64 / 8)

def ceilDiv (a b : UInt64) : UInt64 := if a % b = 0 then a / b else a / b + 1

/-- The milliseconds that a number of octets plays, rounded up; none if a second takes no octets. -/
def durationMs (format : Format) (size : Nat) : UInt64 :=
  if format.bytesPerSecond = 0 then 0
  else ceilDiv (size.toUInt64 * 1000) format.bytesPerSecond

/-- Samples a second over all channels, where no channel counts as one. -/
def samplesPerSecond (format : Format) : UInt64 :=
  format.sampleRate.toUInt64 * (max format.channels 1).toUInt64

end Format

end CloudSpeech.Audio
