import CloudSpeech.Settings
/-!
# The fields of the settings

Each setting is a field of a section, with a name, a place in its section and a kind of value.
Settings are the same as one value for each field.
-/

namespace CloudSpeech.Settings

inductive Section where
  | token
  | synthesis
  | playback
  | log
  deriving DecidableEq, Repr

inductive Kind where
  | text
  /-- A whole number of sixty-four bits without a sign. -/
  | whole
  | flag
  deriving DecidableEq, Repr

def Kind.Value : Kind → Type
  | text => String
  | whole => UInt64
  | flag => Bool

inductive Field where
  | tokenUrl
  | tokenTimeout
  | synthesisUrl
  | synthesisTimeout
  | outputFormat
  | appId
  | clientId
  | userAgent
  | escapeText
  | graceMs
  | tailMs
  | logLevel
  | logJson
  deriving DecidableEq, Repr

namespace Section

def all : List Section := [token, synthesis, playback, log]

theorem mem_all (part : Section) : part ∈ all := by cases part <;> decide

instance {p : Section → Prop} [DecidablePred p] : Decidable (∀ part, p part) :=
  decidable_of_iff (∀ part ∈ all, p part)
    ⟨fun h part => h part part.mem_all, fun h part _ => h part⟩

def name : Section → String
  | token => "token"
  | synthesis => "tts"
  | playback => "playback"
  | log => "log"

/-- What a section is called in a report on a value that is none. -/
def typeName : Section → String
  | token => "struct TokenConfig"
  | synthesis => "struct TtsConfig"
  | playback => "struct PlaybackConfig"
  | log => "struct LogConfig"

def fields : Section → List Field
  | token => [.tokenUrl, .tokenTimeout]
  | synthesis => [.synthesisUrl, .synthesisTimeout, .outputFormat, .appId, .clientId, .userAgent,
      .escapeText]
  | playback => [.graceMs, .tailMs]
  | log => [.logLevel, .logJson]

end Section

namespace Field

def all : List Field := Section.all.flatMap Section.fields

theorem mem_all (field : Field) : field ∈ all := by cases field <;> decide

instance {p : Field → Prop} [DecidablePred p] : Decidable (∀ field, p field) :=
  decidable_of_iff (∀ field ∈ all, p field)
    ⟨fun h field => h field field.mem_all, fun h field _ => h field⟩

def sectionOf : Field → Section
  | tokenUrl | tokenTimeout => .token
  | synthesisUrl | synthesisTimeout | outputFormat | appId | clientId | userAgent
  | escapeText => .synthesis
  | graceMs | tailMs => .playback
  | logLevel | logJson => .log

def name : Field → String
  | tokenUrl => "url"
  | tokenTimeout => "timeout_secs"
  | synthesisUrl => "url"
  | synthesisTimeout => "timeout_secs"
  | outputFormat => "output_format"
  | appId => "app_id"
  | clientId => "client_id"
  | userAgent => "user_agent"
  | escapeText => "escape_text"
  | graceMs => "grace_ms"
  | tailMs => "tail_ms"
  | logLevel => "level"
  | logJson => "json"

/-- The place of a field within its section. -/
def position (field : Field) : Nat := field.sectionOf.fields.idxOf field

def kind : Field → Kind
  | tokenUrl => .text
  | tokenTimeout => .whole
  | synthesisUrl => .text
  | synthesisTimeout => .whole
  | outputFormat => .text
  | appId => .text
  | clientId => .text
  | userAgent => .text
  | escapeText => .flag
  | graceMs => .whole
  | tailMs => .whole
  | logLevel => .text
  | logJson => .flag

end Field

def get (settings : Settings) : (field : Field) → field.kind.Value
  | .tokenUrl => settings.token.url
  | .tokenTimeout => settings.token.timeoutSecs
  | .synthesisUrl => settings.synthesis.url
  | .synthesisTimeout => settings.synthesis.timeoutSecs
  | .outputFormat => settings.synthesis.outputFormat
  | .appId => settings.synthesis.appId
  | .clientId => settings.synthesis.clientId
  | .userAgent => settings.synthesis.userAgent
  | .escapeText => settings.synthesis.escapeText
  | .graceMs => settings.playback.graceMs
  | .tailMs => settings.playback.tailMs
  | .logLevel => settings.log.level
  | .logJson => settings.log.json

/-- The value that a field has where nothing is said about it. -/
def Field.default (field : Field) : field.kind.Value := ({} : Settings).get field

/-- The settings with a value for each field. -/
def ofFields (value : (field : Field) → field.kind.Value) : Settings where
  token := { url := value .tokenUrl, timeoutSecs := value .tokenTimeout }
  synthesis :=
    { url := value .synthesisUrl, timeoutSecs := value .synthesisTimeout
      outputFormat := value .outputFormat, appId := value .appId, clientId := value .clientId
      userAgent := value .userAgent, escapeText := value .escapeText }
  playback := { graceMs := value .graceMs, tailMs := value .tailMs }
  log := { level := value .logLevel, json := value .logJson }

@[simp] theorem get_ofFields (value : (field : Field) → field.kind.Value) (field : Field) :
    (ofFields value).get field = value field := by
  cases field <;> rfl

@[simp] theorem ofFields_get (settings : Settings) : ofFields settings.get = settings := rfl

/-- The settings with a value for each field, where finding a value may fail; the first failure in
the order of the fields counts. -/
def ofFieldsM {ε : Type} (value : (field : Field) → Except ε field.kind.Value) :
    Except ε Settings := do
  let tokenUrl ← value .tokenUrl
  let tokenTimeout ← value .tokenTimeout
  let synthesisUrl ← value .synthesisUrl
  let synthesisTimeout ← value .synthesisTimeout
  let outputFormat ← value .outputFormat
  let appId ← value .appId
  let clientId ← value .clientId
  let userAgent ← value .userAgent
  let escapeText ← value .escapeText
  let graceMs ← value .graceMs
  let tailMs ← value .tailMs
  let logLevel ← value .logLevel
  let logJson ← value .logJson
  pure {
    token := { url := tokenUrl, timeoutSecs := tokenTimeout }
    synthesis :=
      { url := synthesisUrl, timeoutSecs := synthesisTimeout, outputFormat, appId, clientId
        userAgent, escapeText }
    playback := { graceMs, tailMs }
    log := { level := logLevel, json := logJson } }

end CloudSpeech.Settings
