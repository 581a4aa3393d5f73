import CloudSpeech.Toml.Moment
import CloudSpeech.Decimal.Binary64
/-!
# TOML values

The values that a TOML text denotes.  A table keeps its entries in the order in which their keys
first occur; no key occurs twice.
-/

namespace CloudSpeech.Toml

inductive Value where
  | string (content : String)
  | integer (value : Int)
  | real (value : Decimal.Binary64)
  | bool (value : Bool)
  | moment (value : Moment)
  | array (items : List Value)
  | table (entries : List (String × Value))

end CloudSpeech.Toml
