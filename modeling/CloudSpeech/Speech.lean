import CloudSpeech.Octets
/-!
# Synthesized speech

What the speech service gives for a document, and why it may give nothing.
-/

namespace CloudSpeech

structure Speech where
  /-- The name of the exchange, for the log. -/
  requestId : String
  /-- The sound, nothing cut off or added. -/
  audio : Octets
  deriving DecidableEq, Repr

inductive SynthesisError where
  | network (reason : String)
  | timeout
  | service (report : String)
  | invalidResponse (reason : String)
  deriving DecidableEq, Repr

def SynthesisError.message : SynthesisError → String
  | network reason => "Network error: " ++ reason
  | timeout => "Request timeout"
  | service report => "Service error: " ++ report
  | invalidResponse reason => "Invalid response: " ++ reason

end CloudSpeech
