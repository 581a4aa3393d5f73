import CloudSpeech.Voice.Catalog
import CloudSpeech.Ssml
import CloudSpeech.Token
import CloudSpeech.Speech
import CloudSpeech.Audio.Playback
import CloudSpeech.Text.Quoted
/-!
# Speaking a message

A message is spoken in three steps, strictly one after the other: a token is fetched, the document
is sent to be synthesized, and the sound is played.  A voice outside the catalog is refused before
the first step, and a step that fails is the last.  What does the steps is given from outside, and
a session keeps what was asked of it.
-/

namespace CloudSpeech

structure Command where
  /-- The key of the subscription that pays for it. -/
  apiKey : String
  voiceIndex : Nat
  message : String
  deriving DecidableEq, Repr

inductive SpeakError where
  /-- The command makes no sense; nothing was asked of any service. -/
  | validation (reason : String)
  | token (error : TokenError)
  | synthesis (error : SynthesisError)
  | playback (error : Audio.PlaybackError)
  | internal (reason : String)
  deriving DecidableEq, Repr

namespace SpeakError

def message : SpeakError → String
  | validation reason => reason
  | token error => "Token fetch failed: " ++ error.message
  | synthesis error => "Synthesis failed: " ++ error.message
  | playback error => "Playback failed: " ++ error.message
  | internal reason => "Internal error: " ++ reason

/-- The text of the error that caused this one, if another did. -/
def cause : SpeakError → Option String
  | validation _ => none
  | token error => some error.message
  | synthesis error => some error.message
  | playback error => some error.message
  | internal _ => none

/-- The text of an error followed by that of its cause. -/
def chain (error : SpeakError) : String :=
  match error.cause with
  | none => error.message
  | some cause => error.message ++ ": " ++ cause

/-- Whether the command itself is at fault. -/
def isValidation : SpeakError → Bool
  | validation _ => true
  | _ => false

end SpeakError

/-- What comes of a call for playback: it returns, or the task that it runs in dies, with a message
if what it leaves behind is a text. -/
inductive SinkOutcome where
  | returned (result : Except Audio.PlaybackError Audio.PlaybackReport)
  | died (task : Nat) (message : Option String)

/-- The services and the device behind the three steps, each given by what it answers. -/
structure Backend where
  fetchToken : (apiKey : String) → Logged (Except TokenError AccessToken)
  synthesize : AccessToken → (document : String) → Logged (Except SynthesisError Speech)
  play : Audio.Format → Octets → Logged SinkOutcome

/-- Something that was asked of what does the steps. -/
inductive Call where
  | fetchToken (apiKey : String)
  | synthesize (token : AccessToken) (document : String)
  | play (format : Audio.Format) (audio : Octets)
  deriving DecidableEq

/-- A computation that makes calls, reports events and may fail. -/
structure Session (α : Type) where
  calls : List Call
  events : List Log.Event
  result : Except SpeakError α

namespace Session

/-- A session in which nothing is asked for. -/
def pure {α : Type} (value : α) : Session α := ⟨[], [], .ok value⟩

def fail {α : Type} (error : SpeakError) : Session α := ⟨[], [], .error error⟩

/-- What follows is done only if the first session succeeds. -/
def bind {α β : Type} (first : Session α) (next : α → Session β) : Session β :=
  match first.result with
  | .error error => ⟨first.calls, first.events, .error error⟩
  | .ok value =>
      ⟨first.calls ++ (next value).calls, first.events ++ (next value).events,
        (next value).result⟩

instance : Monad Session where
  pure := Session.pure
  bind := Session.bind

def report (event : Log.Event) : Session Unit := ⟨[], [event], .ok ()⟩

/-- One call, whose answer counts as a success or a failure. -/
def call {α : Type} (made : Call) (answer : Logged (Except SpeakError α)) : Session α :=
  ⟨[made], answer.events, answer.value⟩

section

variable {α β : Type} (first : Session α) (next : α → Session β)

@[simp] theorem calls_pure (value : α) : (Pure.pure value : Session α).calls = [] := rfl

@[simp] theorem events_pure (value : α) : (Pure.pure value : Session α).events = [] := rfl

@[simp] theorem result_pure (value : α) : (Pure.pure value : Session α).result = .ok value := rfl

@[simp] theorem calls_bind :
    (first >>= next).calls =
      first.calls ++ (match first.result with
        | .ok value => (next value).calls
        | .error _ => []) := by
  change (Session.bind first next).calls = _
  cases h : first.result <;> simp [Session.bind, h]

@[simp] theorem events_bind :
    (first >>= next).events =
      first.events ++ (match first.result with
        | .ok value => (next value).events
        | .error _ => []) := by
  change (Session.bind first next).events = _
  cases h : first.result <;> simp [Session.bind, h]

@[simp] theorem result_bind :
    (first >>= next).result =
      match first.result with
      | .ok value => (next value).result
      | .error error => .error error := by
  change (Session.bind first next).result = _
  cases h : first.result <;> simp [Session.bind, h]

@[simp] theorem calls_report (event : Log.Event) : (report event).calls = [] := rfl

@[simp] theorem events_report (event : Log.Event) : (report event).events = [event] := rfl

@[simp] theorem result_report (event : Log.Event) : (report event).result = .ok () := rfl

variable (made : Call) (answer : Logged (Except SpeakError α))

@[simp] theorem calls_call : (call made answer).calls = [made] := rfl

@[simp] theorem events_call : (call made answer).events = answer.events := rfl

@[simp] theorem result_call : (call made answer).result = answer.value := rfl

end

end Session

namespace SinkOutcome

/-- What is told of a task that died. -/
def obituary (task : Nat) (message : Option String) : String :=
  "Playback task failed: task " ++ toString task ++ " panicked"
    ++ (match message with
      | some message => " with message " ++ Text.quoted message
      | none => "")

/-- The answer of a sink; a task that died is a fault of the program. -/
def result : SinkOutcome → Except SpeakError Audio.PlaybackReport
  | returned result => result.mapError .playback
  | died task message => .error (.internal (obituary task message))

end SinkOutcome

namespace Logged

def map {α β : Type} (f : α → β) (x : Logged α) : Logged β := ⟨x.events, f x.value⟩

@[simp] theorem value_map {α β : Type} (f : α → β) (x : Logged α) :
    (x.map f).value = f x.value := rfl

@[simp] theorem events_map {α β : Type} (f : α → β) (x : Logged α) :
    (x.map f).events = x.events := rfl

end Logged

namespace Speak

structure Options where
  /-- Whether the message is escaped, or may hold tags of its own. -/
  escapeText : Bool := true
  /-- The format in which the sound is played. -/
  format : Audio.Format := .speech
  deriving DecidableEq, Repr

/-- The document that a command asks to be synthesized in a voice. -/
def Options.document (options : Options) (voice : Voice) (command : Command) : String :=
  Ssml.render voice command.message options.escapeText

/-- What is told of a message that was spoken. -/
structure Response where
  voice : Voice
  requestId : String
  bytesReceived : Nat
  bytesPlayed : Nat
  deriving DecidableEq, Repr

def event (level : Log.Level) (message : String) (fields : List (String × Log.FieldValue)) :
    Log.Event :=
  ⟨level, .speak, message, fields⟩

def chooseVoice (index : Nat) : Session Voice :=
  match Voice.lookup index with
  | .error error => .fail (.validation error.message)
  | .ok voice => .pure voice

theorem chooseVoice_of_le {index : Nat} (h : Voice.catalog.length ≤ index) :
    chooseVoice index =
      .fail (.validation (Voice.OutOfRange.message ⟨index, Voice.catalog.length⟩)) := by
  simp only [chooseVoice, Voice.lookup_of_le h]

theorem chooseVoice_of_getElem? {index : Nat} {voice : Voice}
    (h : Voice.catalog[index]? = some voice) : chooseVoice index = pure voice := by
  simp only [chooseVoice, Voice.lookup_eq_ok_iff.mpr h]
  rfl

def handle (options : Options) (backend : Backend) (command : Command) : Session Response := do
  let voice ← chooseVoice command.voiceIndex
  Session.report (event .debug "Voice selected" [
    ("voice_index", .number command.voiceIndex),
    ("locale", .text voice.locale),
    ("gender", .text voice.gender.name)])
  let token ← Session.call (.fetchToken command.apiKey)
    ((backend.fetchToken command.apiKey).map (·.mapError SpeakError.token))
  let document := options.document voice command
  let speech ← Session.call (.synthesize token document)
    ((backend.synthesize token document).map (·.mapError SpeakError.synthesis))
  let report ← Session.call (.play options.format speech.audio)
    ((backend.play options.format speech.audio).map SinkOutcome.result)
  Session.report (event .info "Speech played" [
    ("request_id", .text speech.requestId),
    ("voice_index", .number command.voiceIndex),
    ("audio_size", .number speech.audio.length),
    ("duration_ms", .number (options.format.durationMs speech.audio.length).toNat)])
  pure { voice, requestId := speech.requestId, bytesReceived := speech.audio.length,
         bytesPlayed := report.bytesWritten }

end Speak

end CloudSpeech
