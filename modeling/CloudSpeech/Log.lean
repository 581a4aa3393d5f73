/-!
# Log events

The program reports what it does as events.  An event has a level, the component that reports it,
a message and named fields.  `Logged` is the result of a computation together with its events.
-/

namespace CloudSpeech

namespace Log

inductive Level where
  | trace
  | debug
  | info
  | warn
  | error
  deriving DecidableEq, Repr

namespace Level

/-- Greater for more important levels. -/
def rank : Level → Nat
  | trace => 1
  | debug => 2
  | info => 3
  | warn => 4
  | error => 5

def name : Level → String
  | trace => "TRACE"
  | debug => "DEBUG"
  | info => "INFO"
  | warn => "WARN"
  | error => "ERROR"

end Level

inductive Component where
  | program
  | settings
  | speak
  | tokenService
  | synthesisService
  | player
  deriving DecidableEq, Repr

/-- The name under which filters know a component: a path whose segments stand between double
colons. -/
def Component.path : Component → String
  | program => "bing_tts::app"
  | settings => "bing_tts::config::loader"
  | speak => "bing_tts::application::commands::handlers::speak_handler"
  | tokenService => "bing_tts::infrastructure::adapters::tts::http_token_client"
  | synthesisService => "bing_tts::infrastructure::adapters::tts::http_tts_client"
  | player => "bing_tts::infrastructure::adapters::playback::cpal_player"

inductive FieldValue where
  | number (value : Nat)
  | text (value : String)
  deriving DecidableEq, Repr

/-- Something that happened, as the log shows it. -/
structure Event where
  level : Level
  source : Component
  message : String
  fields : List (String × FieldValue) := []
  deriving DecidableEq, Repr

end Log

/-- A value with the events that led to it, in order. -/
structure Logged (α : Type) where
  events : List Log.Event
  value : α

namespace Logged

def pure {α : Type} (value : α) : Logged α := ⟨[], value⟩

/-- The events of the first computation come before those of the second. -/
def bind {α β : Type} (first : Logged α) (next : α → Logged β) : Logged β :=
  ⟨first.events ++ (next first.value).events, (next first.value).value⟩

instance : Monad Logged where
  pure := Logged.pure
  bind := Logged.bind

def report (event : Log.Event) : Logged Unit := ⟨[event], ()⟩

@[simp] theorem value_pure {α : Type} (a : α) : (Pure.pure a : Logged α).value = a := rfl

@[simp] theorem events_pure {α : Type} (a : α) : (Pure.pure a : Logged α).events = [] := rfl

@[simp] theorem value_bind {α β : Type} (x : Logged α) (f : α → Logged β) :
    (x >>= f).value = (f x.value).value := rfl

@[simp] theorem events_bind {α β : Type} (x : Logged α) (f : α → Logged β) :
    (x >>= f).events = x.events ++ (f x.value).events := rfl

@[simp] theorem events_report (event : Log.Event) : (report event).events = [event] := rfl

end Logged

end CloudSpeech
