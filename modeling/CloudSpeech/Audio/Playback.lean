import CloudSpeech.Audio.Device
import CloudSpeech.Log
/-!
# Playback

A stream asks for samples batch by batch.  The feed hands out the samples in order and then
silence; with the batch that holds the last sample it tells how long that batch takes to be heard.
Playing a sound opens a stream, feeds it until the last sample is handed out or the deadline
passes, waits for the drain time and a margin, and closes the stream.
-/

namespace CloudSpeech.Audio

/-- What is left to do for a stream. -/
structure Feed where
  samples : List Sample
  /-- How many samples have been handed out. -/
  position : Nat := 0
  /-- Whether it has still to be told that the last sample was handed out. -/
  untold : Bool := true
  deriving DecidableEq, Repr

structure Reply where
  batch : List Sample
  /-- The drain time, if it is told with this batch. -/
  drain : Option Span
  deriving DecidableEq, Repr

namespace Feed

def start (samples : List Sample) : Feed := { samples }

def available (feed : Feed) (request : Request) : Nat :=
  min request.size (feed.samples.length - feed.position)

def exhausts (feed : Feed) (request : Request) : Bool :=
  feed.samples.length ≤ feed.position + feed.available request

/-- The answer to a request: sound as far as it goes, then silence.  The drain time is told once,
with the batch that reaches the end. -/
def reply (format : Format) (feed : Feed) (request : Request) : Reply where
  batch :=
    (feed.samples.drop feed.position).take (feed.available request)
      ++ List.replicate (request.size - feed.available request) 0
  drain :=
    if feed.untold && feed.exhausts request then
      some (drainTime request.latency (feed.available request) format)
    else none

def advance (feed : Feed) (request : Request) : Feed where
  samples := feed.samples
  position := feed.position + feed.available request
  untold := feed.untold && !feed.exhausts request

end Feed

inductive PlaybackError where
  | noOutputDevice
  | streamBuild (reason : String)
  | streamPlay (reason : String)
  /-- The last sample was not asked for within so many milliseconds. -/
  | timeout (milliseconds : Nat)
  deriving DecidableEq, Repr

def PlaybackError.message : PlaybackError → String
  | noOutputDevice => "No audio output device available"
  | streamBuild reason => "Failed to build output stream: " ++ reason
  | streamPlay reason => "Failed to start output stream: " ++ reason
  | timeout milliseconds => "Playback did not finish within " ++ toString milliseconds ++ " ms"

structure PlaybackReport where
  bytesWritten : Nat
  deriving DecidableEq, Repr

structure Player where
  /-- The time granted beyond the length of the sound, in milliseconds. -/
  graceMs : UInt64 := 2000
  /-- The margin after the drain time, in milliseconds. -/
  tailMs : UInt64 := 200
  deriving DecidableEq, Repr

structure Performance where
  result : Except PlaybackError PlaybackReport
  use : DeviceUse
  /-- How long the stream stays open after the batch with the last sample. -/
  hold : Option Span := none

namespace Player

/-- The most milliseconds a sound of so many octets may take to be handed out. -/
def deadlineMs (player : Player) (format : Format) (size : Nat) : UInt64 :=
  format.durationMs size + player.graceMs

def holdTime (player : Player) (drain : Span) : Span := drain + .ofMillis player.tailMs

def event (level : Log.Level) (message : String) (fields : List (String × Log.FieldValue)) :
    Log.Event :=
  ⟨level, .player, message, fields⟩

/-- Feeds a running stream: the answers to its requests, the feed after them, and the faults on the
way. -/
def runStream (format : Format) : Feed → List StreamEvent → Logged (List Reply × Feed)
  | feed, [] => pure ([], feed)
  | feed, .request request :: rest => do
      let (replies, last) ← runStream format (feed.advance request) rest
      pure (feed.reply format request :: replies, last)
  | feed, .fault fault :: rest => do
      Logged.report (event .error "Output stream error" [("error", .text fault.message)])
      runStream format feed rest

/-- Ends a stream that has been fed: either the drain time was told or the deadline has passed. -/
def finish (player : Player) (format : Format) (size : Nat) (replies : List Reply) :
    Logged Performance := do
  let use : DeviceUse :=
    { opened := some format, started := true, closed := true, batches := replies.map (·.batch) }
  match replies.findSome? (·.drain) with
  | none => pure ⟨.error (.timeout (player.deadlineMs format size).toNat), use, none⟩
  | some drain =>
      Logged.report (event .debug "Draining output buffer"
        [("drain_ms", .number drain.wholeMillis)])
      Logged.report (event .debug "Playback finished" [("bytes_written", .number size)])
      pure ⟨.ok ⟨size⟩, use, some (player.holdTime drain)⟩

def play (player : Player) (device : Option Device) (format : Format) (audio : Octets) :
    Logged Performance := do
  if format.bitsPerSample ≠ 16 then
    return ⟨.error (.streamBuild
      ("unsupported sample width: " ++ toString format.bitsPerSample ++ " bits")), {}, none⟩
  match device with
  | none => pure ⟨.error .noOutputDevice, {}, none⟩
  | some device =>
      Logged.report (event .debug "Opening output stream" [
        ("device", .text (device.name.getD "unknown")),
        ("sample_rate", .number format.sampleRate.toNat),
        ("channels", .number format.channels.toNat),
        ("audio_size", .number audio.length)])
      match device.openFault with
      | some fault => pure ⟨.error (.streamBuild fault.message), { opened := some format }, none⟩
      | none =>
          match device.startFault with
          | some fault =>
              pure ⟨.error (.streamPlay fault.startMessage),
                { opened := some format, closed := true }, none⟩
          | none =>
              let (replies, _) ← runStream format (Feed.start (Sample.decode audio)) device.events
              player.finish format audio.length replies

end Player

end CloudSpeech.Audio
