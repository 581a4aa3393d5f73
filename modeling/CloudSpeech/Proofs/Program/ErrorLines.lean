import CloudSpeech.Program
import CloudSpeech.Proofs.Decimal.Numerals
import CloudSpeech.Proofs.Text.Headings

/-!
# What the line of an error tells

A message that is not spoken leaves a line with the text of the error and that of its cause. The
line begins with one of four headings, which tell the step; the text of the cause begins with the
heading of its kind, and what follows is the number or the text that the cause carries. Since the
cause is told twice, its text is found in the middle, whatever marks it holds. So the line tells
all errors apart but those of the command itself.
-/

namespace CloudSpeech

theorem Decimal.toString_nat_injective : Function.Injective (toString : Nat → String) := by
  intro n m h
  rw [Nat.toString_eq_repr, Nat.toString_eq_repr] at h
  exact Nat.repr_injective h

theorem Decimal.notMem_toString_nat {c : Char} (hc : c.isDigit = false) (n : Nat) :
    c ∉ (toString n).toList := by
  intro hmem
  rw [toList_toString_nat] at hmem
  have hdigit : c.isDigit = true := Nat.isDigit_of_mem_toDigits (by decide) (by decide) hmem
  exact absurd hdigit (by simp [hc])

/-! ## The causes -/

namespace TokenError

def heading : TokenError → String
  | network _ => "Network error: "
  | timeout => "Request timeout"
  | rejected _ _ => "Token request rejected: HTTP "
  | invalidResponse _ => "Invalid response: "

def details : TokenError → String
  | network reason => reason
  | timeout => ""
  | rejected status body => toString status ++ ": " ++ body
  | invalidResponse reason => reason

def headed : Text.Headed message where
  headings :=
    ["Network error: ", "Request timeout", "Token request rejected: HTTP ", "Invalid response: "]
  areHeadings := by decide +kernel
  heading := heading
  details := details
  heading_mem error := by cases error <;> simp [heading]
  text_eq error := by
    cases error with
    | network _ | invalidResponse _ => rfl
    | timeout => exact String.append_empty.symm
    | rejected status body =>
        have hparts : "Token request rejected: HTTP " ++ toString status ++ ": " ++ body =
            "Token request rejected: HTTP " ++ (toString status ++ ": " ++ body) := by
          simp only [String.append_assoc]
        exact hparts

/-- The status of a refusal ends at the first colon, whatever the body holds. -/
theorem refusal_inj {status status' : Nat} {body body' : String}
    (h : toString status ++ ": " ++ body = toString status' ++ ": " ++ body') :
    status = status' ∧ body = body' := by
  have hchars : (toString status).toList ++ ':' :: (' ' :: body.toList) =
      (toString status').toList ++ ':' :: (' ' :: body'.toList) := by
    have hall := congrArg String.toList h
    simpa [String.toList_append] using hall
  obtain ⟨hstatus, hbody⟩ := Text.append_mark_inj (Decimal.notMem_toString_nat (by decide) status)
    (Decimal.notMem_toString_nat (by decide) status') hchars
  exact ⟨Decimal.toString_nat_injective (String.toList_inj.mp hstatus),
    String.toList_inj.mp (List.cons.inj hbody).2⟩

theorem message_injective : Function.Injective message := by
  intro error other h
  obtain ⟨hheading, hdetails⟩ := headed.parts_eq h
  cases error <;> cases other <;> try (simp [headed, heading] at hheading; done)
  case network.network => exact congrArg network hdetails
  case timeout.timeout => rfl
  case rejected.rejected =>
    obtain ⟨rfl, rfl⟩ := refusal_inj hdetails
    rfl
  case invalidResponse.invalidResponse => exact congrArg invalidResponse hdetails

end TokenError

namespace SynthesisError

def heading : SynthesisError → String
  | network _ => "Network error: "
  | timeout => "Request timeout"
  | service _ => "Service error: "
  | invalidResponse _ => "Invalid response: "

def details : SynthesisError → String
  | network reason => reason
  | timeout => ""
  | service report => report
  | invalidResponse reason => reason

def headed : Text.Headed message where
  headings := ["Network error: ", "Request timeout", "Service error: ", "Invalid response: "]
  areHeadings := by decide +kernel
  heading := heading
  details := details
  heading_mem error := by cases error <;> simp [heading]
  text_eq error := by
    cases error with
    | network _ | service _ | invalidResponse _ => rfl
    | timeout => exact String.append_empty.symm

theorem message_injective : Function.Injective message := by
  intro error other h
  obtain ⟨hheading, hdetails⟩ := headed.parts_eq h
  cases error <;> cases other <;> try (simp [headed, heading] at hheading; done)
  case network.network => exact congrArg network hdetails
  case timeout.timeout => rfl
  case service.service => exact congrArg service hdetails
  case invalidResponse.invalidResponse => exact congrArg invalidResponse hdetails

end SynthesisError

namespace Audio.PlaybackError

def heading : PlaybackError → String
  | noOutputDevice => "No audio output device available"
  | streamBuild _ => "Failed to build output stream: "
  | streamPlay _ => "Failed to start output stream: "
  | timeout _ => "Playback did not finish within "

def details : PlaybackError → String
  | noOutputDevice => ""
  | streamBuild reason => reason
  | streamPlay reason => reason
  | timeout milliseconds => toString milliseconds ++ " ms"

def headed : Text.Headed message where
  headings := ["No audio output device available", "Failed to build output stream: ",
    "Failed to start output stream: ", "Playback did not finish within "]
  areHeadings := by decide +kernel
  heading := heading
  details := details
  heading_mem error := by cases error <;> simp [heading]
  text_eq error := by
    cases error with
    | noOutputDevice => exact String.append_empty.symm
    | streamBuild _ | streamPlay _ => rfl
    | timeout _ => exact String.append_assoc

theorem message_injective : Function.Injective message := by
  intro error other h
  obtain ⟨hheading, hdetails⟩ := headed.parts_eq h
  cases error <;> cases other <;> try (simp [headed, heading] at hheading; done)
  case noOutputDevice.noOutputDevice => rfl
  case streamBuild.streamBuild => exact congrArg streamBuild hdetails
  case streamPlay.streamPlay => exact congrArg streamPlay hdetails
  case timeout.timeout =>
    have hmilliseconds := (String.append_left_inj " ms").mp hdetails
    exact congrArg timeout (Decimal.toString_nat_injective hmilliseconds)

end Audio.PlaybackError

/-! ## The errors with their causes -/

namespace SpeakError

/-- The chain of an error that is not about the command: the heading of the step, and the text of
the cause, told twice. -/
def headed : Text.Headed fun error : {error : SpeakError // error.isValidation = false} =>
    error.1.chain where
  headings :=
    ["Token fetch failed: ", "Synthesis failed: ", "Playback failed: ", "Internal error: "]
  areHeadings := by decide +kernel
  heading
    | ⟨token _, _⟩ => "Token fetch failed: "
    | ⟨synthesis _, _⟩ => "Synthesis failed: "
    | ⟨playback _, _⟩ => "Playback failed: "
    | ⟨internal _, _⟩ => "Internal error: "
  details
    | ⟨token error, _⟩ => error.message ++ ": " ++ error.message
    | ⟨synthesis error, _⟩ => error.message ++ ": " ++ error.message
    | ⟨playback error, _⟩ => error.message ++ ": " ++ error.message
    | ⟨internal reason, _⟩ => reason
  heading_mem
    | ⟨token _, _⟩ | ⟨synthesis _, _⟩ | ⟨playback _, _⟩ | ⟨internal _, _⟩ => by simp
  text_eq error := by
    have htwice : ∀ step text : String,
        step ++ text ++ ": " ++ text = step ++ (text ++ ": " ++ text) :=
      fun step text => by simp only [String.append_assoc]
    match error with
    | ⟨token error, _⟩ => exact htwice _ error.message
    | ⟨synthesis error, _⟩ => exact htwice _ error.message
    | ⟨playback error, _⟩ => exact htwice _ error.message
    | ⟨internal _, _⟩ => rfl

/-- Errors of different steps, kinds or contents have different chains, unless the command itself is
at fault. -/
theorem eq_of_chain_eq {error other : SpeakError} (herror : error.isValidation = false)
    (hother : other.isValidation = false) (h : error.chain = other.chain) : error = other := by
  obtain ⟨hheading, hdetails⟩ := headed.parts_eq (a := ⟨error, herror⟩) (b := ⟨other, hother⟩) h
  cases error <;> cases other <;>
    try (simp [headed, isValidation] at herror hother hheading; done)
  case token.token =>
    exact congrArg token (TokenError.message_injective (Text.append_twice_inj hdetails))
  case synthesis.synthesis =>
    exact congrArg synthesis (SynthesisError.message_injective (Text.append_twice_inj hdetails))
  case playback.playback =>
    exact congrArg playback
      (Audio.PlaybackError.message_injective (Text.append_twice_inj hdetails))
  case internal.internal => exact congrArg internal hdetails

end SpeakError

namespace Program

theorem errorLine_injective : Function.Injective errorLine := by
  intro message other h
  rw [errorLine, errorLine, line, line] at h
  exact (String.append_right_inj "Error: ").mp ((String.append_left_inj "\n").mp h)

/-- The chain of an error tells which step failed, in which way and with which details, and so does
the line that is printed for it: two attempts that fail print the same line exactly if they fail
with the same error. -/
theorem stderr_conclude_eq_iff {session other : Session Speak.Response} {error error' : SpeakError}
    (hsession : session.result = .error error) (hother : other.result = .error error')
    (herror : error.isValidation = false) (herror' : error'.isValidation = false) :
    (error.chain = error'.chain ↔ error = error') ∧
      ((conclude session).stderr = (conclude other).stderr ↔ error = error') := by
  have hchain : error.chain = error'.chain ↔ error = error' :=
    ⟨SpeakError.eq_of_chain_eq herror herror', congrArg SpeakError.chain⟩
  have hprinted : (conclude session).stderr = errorLine error.chain := by
    simp only [conclude, hsession, herror]
    rfl
  have hprinted' : (conclude other).stderr = errorLine error'.chain := by
    simp only [conclude, hother, herror']
    rfl
  refine ⟨hchain, ?_⟩
  rw [hprinted, hprinted', errorLine_injective.eq_iff, hchain]

/-- A refusal whose body begins like the rest of a status, beside the refusal with that status; and
a reason that repeats the words around it, beside the reason alone. -/
theorem stderr_of_imitations :
    let first := SpeakError.token (.rejected 40 "1: denied")
    let second := SpeakError.token (.rejected 401 " denied")
    let third := SpeakError.synthesis (.network "lost: Network error: lost")
    let fourth := SpeakError.synthesis (.network "lost")
    (∀ error ∈ [first, second, third, fourth], error.isValidation = false) ∧
      (conclude (.fail first)).stderr ≠ (conclude (.fail second)).stderr ∧
      (conclude (.fail third)).stderr ≠ (conclude (.fail fourth)).stderr := by
  intro first second third fourth
  have hrefusals := (@stderr_conclude_eq_iff (.fail first) (.fail second) _ _
    rfl rfl rfl rfl).2
  have hreasons := (@stderr_conclude_eq_iff (.fail third) (.fail fourth) _ _
    rfl rfl rfl rfl).2
  exact ⟨by decide, hrefusals.not.mpr (by decide), hreasons.not.mpr (by decide)⟩

end Program

end CloudSpeech
