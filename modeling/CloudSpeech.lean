import CloudSpeech.Main
import CloudSpeech.Settings.Folder
import CloudSpeech.Settings.Strict
import CloudSpeech.Proofs.Speak.Course
import CloudSpeech.Proofs.Audio.Feeding
import CloudSpeech.Proofs.Program.Gates
import CloudSpeech.Proofs.Http.Services
import CloudSpeech.Proofs.Audio.Performance
import CloudSpeech.Proofs.Program.Flow
import CloudSpeech.Proofs.Settings.Keys
import CloudSpeech.Proofs.Settings.Merging
import CloudSpeech.Proofs.Settings.Loading
import CloudSpeech.Proofs.Settings.Precedence
import CloudSpeech.Proofs.Http.Headers
import CloudSpeech.Proofs.Program.Exits
import CloudSpeech.Proofs.Program.Sending
import CloudSpeech.Proofs.Http.Twins
import CloudSpeech.Proofs.Program.Secrets
import CloudSpeech.Proofs.Ssml.Escaping
import CloudSpeech.Proofs.Ssml.Documents
import CloudSpeech.Proofs.Http.Timeouts
import CloudSpeech.Proofs.Path.FileNames
import CloudSpeech.Proofs.Settings.StandardFile
import CloudSpeech.Proofs.Decimal.Numerals
import CloudSpeech.Proofs.Settings.Respelling
import CloudSpeech.Proofs.Settings.Overriding
import CloudSpeech.Proofs.Settings.Defaults
import CloudSpeech.Proofs.CommandLine.Remainder
import CloudSpeech.Proofs.CommandLine.Interleaving
import CloudSpeech.Proofs.Audio.Outcome
import CloudSpeech.Proofs.Audio.Holding
import CloudSpeech.Proofs.Audio.Durations
import CloudSpeech.Proofs.Program.Deadlines
import CloudSpeech.Proofs.Http.Interpretation
import CloudSpeech.Proofs.Program.TokenUse
import CloudSpeech.Proofs.Audio.Coverage
import CloudSpeech.Proofs.Audio.Decoding
import CloudSpeech.Proofs.Ssml.EscapedTexts
import CloudSpeech.Proofs.CommandLine.Positionals
import CloudSpeech.Proofs.Program.ErrorLines
import CloudSpeech.Proofs.Json.Grammar
import CloudSpeech.Proofs.Json.Reading
import CloudSpeech.Proofs.Json.Values
import CloudSpeech.Proofs.Settings.Adding
import CloudSpeech.Proofs.Settings.ExplicitPath
import CloudSpeech.Proofs.Settings.JsonTexts
import CloudSpeech.Proofs.Settings.NumberTexts
import CloudSpeech.Proofs.Settings.Numbers
import CloudSpeech.Proofs.CommandLine.IndexPlace
