import CloudSpeech.Text.Charset
import CloudSpeech.Url.Read
/-!
# Clients

What a client reads addresses and texts with.  The services rely on no law of it: they send to the
URL that it reads and take the text that it decodes.
-/

namespace CloudSpeech.Http

structure Client where
  /-- The URL that an address spells, if it spells one. -/
  readUrl : String → Option Url
  /-- The text of octets that came with a label for their encoding, or without one. -/
  decode : Option String → Octets → String

/-- The client with the addresses and the encodings that this library knows itself. -/
def Client.builtIn : Client := ⟨Url.read?, Text.Charset.decode⟩

end CloudSpeech.Http
