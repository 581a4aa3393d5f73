import CloudSpeech.Voice.Catalog
import CloudSpeech.Json.Value
/-!
# Listings of the catalog

The catalog can be listed as lines for people or as a document for programs.
-/

namespace CloudSpeech.Voice

def padLeft (width : Nat) (text : String) : String :=
  String.ofList (List.replicate (width - text.length) ' ') ++ text

def padRight (width : Nat) (text : String) : String :=
  text ++ String.ofList (List.replicate (width - text.length) ' ')

/-- The line for a voice: its place, right-aligned, its locale in a column, gender and mapping. -/
def listingLine (index : Nat) (voice : Voice) : String :=
  padLeft 2 (toString index) ++ "  " ++ padRight 6 voice.locale ++ " " ++ voice.gender.name ++ " "
    ++ voice.mapping ++ "\n"

/-- The catalog as lines, each with its newline. -/
def listingText : String :=
  String.join (catalog.mapIdx listingLine)

/-- The entry for a voice in a listing, its keys in alphabetical order. -/
def listingEntry (index : Nat) (voice : Voice) : Json.Value :=
  .object [("gender", .string voice.gender.name), ("index", .number (.natural index)),
    ("locale", .string voice.locale), ("mapping", .string voice.mapping)]

/-- The catalog as an indented document without a final newline. -/
def listingJson : String :=
  (Json.Value.array (catalog.mapIdx listingEntry)).pretty

def listing (json : Bool) : String := if json then listingJson else listingText

end CloudSpeech.Voice
