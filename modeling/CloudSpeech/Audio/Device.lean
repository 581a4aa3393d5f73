import CloudSpeech.Audio.Samples
import CloudSpeech.Audio.Span
/-!
# Output devices

A device is described by what it will do: what it is called, whether a stream on it can be opened
and started, and the requests for samples and the faults that follow once the stream runs.
-/

namespace CloudSpeech.Audio

inductive DeviceFault where
  | notAvailable
  | configNotSupported
  | invalidArgument
  | streamIdOverflow
  | backend (report : String)
  deriving DecidableEq, Repr

namespace DeviceFault

def message : DeviceFault → String
  | notAvailable =>
      "The requested device is no longer available. For example, it has been unplugged."
  | configNotSupported =>
      "The requested stream configuration is not supported by the device."
  | invalidArgument =>
      "The requested device does not support this capability (invalid argument)"
  | streamIdOverflow => "Adding a new stream ID would cause an overflow"
  | backend report => "A backend-specific error has occurred: " ++ report

def startMessage : DeviceFault → String
  | notAvailable => "the device associated with the stream is no longer available"
  | fault => fault.message

end DeviceFault

/-- A moment on the clock of a stream, in nanoseconds. -/
structure Instant where
  nanoseconds : Int
  deriving DecidableEq, Repr

/-- The span from `start` to `stop`: none if it is negative or its nanoseconds do not fit in
sixty-four bits. -/
def Instant.spanUntil (start stop : Instant) : Span :=
  if stop.nanoseconds < start.nanoseconds then .zero
  else if (stop.nanoseconds - start.nanoseconds).toNat < UInt64.size then
    ⟨(stop.nanoseconds - start.nanoseconds).toNat⟩
  else .zero

structure Request where
  /-- How many samples are to be filled in. -/
  size : Nat
  callback : Instant := ⟨0⟩
  /-- When the first of the samples will be heard. -/
  playback : Instant := ⟨0⟩
  deriving DecidableEq, Repr

/-- How long after the request its first sample is heard. -/
def Request.latency (request : Request) : Span := request.callback.spanUntil request.playback

inductive StreamEvent where
  | request (request : Request)
  | fault (fault : DeviceFault)
  deriving DecidableEq, Repr

/-- A device, described by what it will do. -/
structure Device where
  name : Option String := some "virtual"
  openFault : Option DeviceFault := none
  startFault : Option DeviceFault := none
  /-- What happens on the stream before the deadline, in order. -/
  events : List StreamEvent := []
  deriving DecidableEq, Repr

structure DeviceUse where
  /-- The format of the stream that was to be opened, if any. -/
  opened : Option Format := none
  started : Bool := false
  closed : Bool := false
  batches : List (List Sample) := []
  deriving DecidableEq, Repr

end CloudSpeech.Audio
